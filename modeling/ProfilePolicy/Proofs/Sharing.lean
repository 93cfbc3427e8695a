import ProfilePolicy.Proofs.Denial
import ProfilePolicy.Proofs.Invariants
import ProfilePolicy.Proofs.Runs
import ProfilePolicy.Proofs.Snapshots

/-!
# Sharing metadata

Metadata is shared by the profiles that are made over it, and metadata for another context starts
out from copies of it. Rules may add rules to the metadata that they are given, and callers may add
rules to what is handed out to them, but both only have copies. So whatever is done with any number
of profiles, shared metadata keeps its entries with their predicates and rules, and so does what is
derived from it. The rules that a pass runs are those of the shared metadata, as they stood before
the pass; what the rules add meanwhile is not among them.

This holds for any metadata and for any validators, whatever they reply and however they fail.
-/

namespace ProfilePolicy

/-! ## What is done over shared metadata -/

/-- Shared metadata and what was made over it. All entries live in one catalog: those of the
metadata, the copies that rules were given and the copies that were handed out. -/
structure Commons where
  catalog : Catalog
  metadata : List ProfileMetadata
  profiles : List Profile := []
  /-- The copies that were handed out. -/
  copies : List Handle := []

/-- Something done over shared metadata; metadata, profiles and copies are numbered as they were
derived, made and handed out. -/
inductive Use
  | derive (base : Nat) (context : Context)
  | create (metadata : Nat) (context : Context) (validators : Registry Validator)
      (submitted : Keyed Value) (organization : Option Organization)
  | operate (profile : Nat) (organization : Option Organization) (operation : Operation)
  /-- The writable values are asked for. -/
  | writable (profile : Nat)
  /-- A copy of the metadata of a name is handed out. -/
  | copy (profile : Nat) (name : String)
  /-- Rules are added to a copy that was handed out. -/
  | extend (copy : Nat) (rules : List (Option Rule))

namespace Commons

/-- A profile over the catalog as it is now. -/
def seat (commons : Commons) (profile : Profile) : Profile :=
  { profile with episode := { profile.episode with catalog := commons.catalog } }

def takeBack (commons : Commons) (position : Nat) (profile : Profile) : Commons :=
  { commons with
    catalog := profile.episode.catalog
    profiles := commons.profiles.set position profile }

/-- Notes a copy that was handed out. -/
def handOut (commons : Commons) : Except Fault (Option Handle) → Commons
  | .ok (some copy) => { commons with copies := commons.copies ++ [copy] }
  | _ => commons

def lookAtWritable (policy : Policy) : Action AttributeValues :=
  Policy.inspect fun episode => .ok (policy.writable episode)

/-- The commons after a use. What does not exist is not used. -/
def apply (commons : Commons) : Use → Commons
  | .derive position context =>
    match commons.metadata[position]? with
    | none => commons
    | some base =>
      let (derived, catalog) := base.derive context commons.catalog
      { commons with catalog, metadata := commons.metadata ++ [derived] }
  | .create position context validators submitted organization =>
    match commons.metadata[position]? with
    | none => commons
    | some metadata =>
      let policy : Policy := { context, declared := metadata.declared commons.catalog, validators }
      match policy.begin submitted organization commons.catalog with
      | .error _ => commons
      | .ok episode => { commons with profiles := commons.profiles ++ [{ policy, episode }] }
  | .operate position organization operation =>
    match commons.profiles[position]? with
    | none => commons
    | some profile =>
      commons.takeBack position ((commons.seat profile).operate organization operation).2
  | .writable position =>
    match commons.profiles[position]? with
    | none => commons
    | some profile => commons.takeBack position ((commons.seat profile).run lookAtWritable).2
  | .copy position name =>
    match commons.profiles[position]? with
    | none => commons
    | some profile =>
      let (result, profile) := (commons.seat profile).run fun policy => policy.metadataCopy name
      (commons.takeBack position profile).handOut result
  | .extend position rules =>
    match commons.copies[position]? with
    | none => commons
    | some copy => { commons with catalog := commons.catalog.addRules copy rules }

def run (commons : Commons) (uses : List Use) : Commons :=
  uses.foldl apply commons

end Commons

def ProfileMetadata.contents (metadata : ProfileMetadata) (catalog : Catalog) :
    List AttributeMetadata :=
  metadata.attributes.map catalog.entry

/-! ## Passes over rules that were listed before -/

namespace Policy

/-- The rules that apply to a name, listed by entry. -/
def listing (policy : Policy) (catalog : Catalog) (name : String) : List (Handle × List Rule) :=
  (policy.candidates name).map fun handle => (handle, (catalog.entry handle).rules)

def applyListed (policy : Policy) (name : String) : List (Handle × List Rule) → Action Verdict
  | [] => pure {}
  | (handle, rules) :: rest => do
    let copy ← copyOf handle
    let verdict ← policy.applyRules name handle copy rules
    let others ← policy.applyListed name rest
    pure (verdict.and others)

/-- Whether a listed read-only rule rejects the current value of a name. -/
def deniedByListed (policy : Policy) (catalog : Catalog) (name : String) : Action Bool :=
  match policy.declared.get? readOnlyMarker with
  | none => pure false
  | some handle => do
    let copy ← copyOf handle
    policy.anyFails name copy (catalog.entry handle).rules

end Policy

/-! ## Rules only write to copies -/

open ProfilePolicy.Action

/-- The catalog still holds shared metadata as it was. -/
def Episode.Extends (shared : Catalog) (episode : Episode) : Prop :=
  shared.entries <+: episode.catalog.entries

namespace Episode

/-- Whatever rules do, shared metadata is still there as it was. -/
theorem extends_keptByRules (shared : Catalog) :
    KeptByRules (Extends shared) fun copy => shared.entries.length ≤ copy where
  copied _ _ held := ⟨held.length_le, held.trans (List.prefix_append _ _)⟩
  replied _ _ _ _ behind held := prefix_modify _ held behind
  logged _ _ held := held
  accepted _ held := held

end Episode

/-- Whatever is done with a profile, shared metadata is still there as it was. -/
theorem Operation.keeps_extends (shared : Catalog) (operation : Operation) (policy : Policy) :
    Keeps (Episode.Extends shared) (operation.action policy) := by
  have kept := Episode.extends_keptByRules shared
  cases operation with
  | validate order => exact (kept.validate _).bind fun _ => keeps_pure _
  | update remove validation removal =>
    refine (Profile.keeps_update kept ?_ ?_ _ _).bind fun _ => keeps_pure _
    · exact fun _ _ _ _ _ _ held _ _ => held
    · exact fun _ _ _ held _ => held
  | isReadOnly name => exact (kept.isReadOnly name).bind fun _ => keeps_pure _
  | validateName name => exact (kept.validateName name).bind fun _ => keeps_pure _
  | setValues name value =>
    refine keeps_get_bind fun episode held => ?_
    cases result : episode.setValues name value with
    | error cause => exact held
    | ok after =>
      obtain ⟨values, -, rfl⟩ := map_eq_ok.mp result
      exact held

namespace Policy

variable {policy : Policy} {shared : Catalog} {episode : Episode}

/-- A copy that is handed out stands behind all that was there. -/
theorem leads_metadataCopy (held : episode.Extends shared) (name : String) :
    Leads (policy.metadataCopy name) episode
      (fun result after => after.Extends shared ∧ ∀ copy, result = some copy →
        shared.entries.length ≤ copy ∧ copy < after.catalog.entries.length)
      (fun _ _ => False) := by
  rw [metadataCopy]
  split
  · exact ⟨held, fun copy impossible => by cases impossible⟩
  · rename_i handle declared
    obtain ⟨made, copied⟩ := (Episode.extends_keptByRules shared).copied episode handle held
    refine ⟨copied, fun copy same => ?_⟩
    cases same
    exact ⟨made, by simp⟩

theorem exists_declared_of_mem_candidates {name : String} {handle : Handle}
    (applies : handle ∈ policy.candidates name) :
    ∃ other, policy.declared.get? other = some handle := by
  rw [candidates] at applies
  split at applies
  · exact ⟨name, Option.mem_toList.mp applies⟩
  · rcases List.mem_append.mp applies with own | marker
    · exact ⟨name, Option.mem_toList.mp own⟩
    · exact ⟨readOnlyMarker, Option.mem_toList.mp marker⟩

/-- Validation runs the rules that shared metadata has, and none that rules add meanwhile. -/
theorem applyMetadata_eq_applyListed (held : episode.Extends shared) (name : String)
    {handles : List Handle} (inside : ∀ handle ∈ handles, handle < shared.entries.length) :
    policy.applyMetadata name handles episode =
      policy.applyListed name
        (handles.map fun handle => (handle, (shared.entry handle).rules)) episode := by
  have kept := Episode.extends_keptByRules shared
  induction handles generalizing episode with
  | nil => rfl
  | cons handle rest ih =>
    obtain ⟨insideFirst, insideRest⟩ := List.forall_mem_cons.mp inside
    obtain ⟨made, heldCopied⟩ := kept.copied episode handle held
    let copied : Episode := { episode with catalog := (episode.catalog.clone handle).2 }
    have copies : copyOf handle episode = .ok (episode.catalog.clone handle).1 copied := rfl
    have rules : rulesOf handle copied = .ok (shared.entry handle).rules copied := by
      rw [rulesOf, Catalog.entry_of_prefix heldCopied insideFirst]
    rw [applyMetadata, bind_of_ok copies, bind_of_ok rules, List.map_cons, applyListed,
      bind_of_ok copies]
    refine (kept.applyRules made name handle _ copied heldCopied).bind_congr ?_
    intro verdict after held
    simp only [bind, EStateM.bind, ih held insideRest]

/-- A read-only query runs the rules that shared metadata has, and none that rules add meanwhile. -/
theorem deniedByRule_eq_deniedByListed (held : episode.Extends shared)
    (inside : ∀ handle, policy.declared.get? readOnlyMarker = some handle →
      handle < shared.entries.length) (name : String) :
    policy.deniedByRule name episode = policy.deniedByListed shared name episode := by
  rw [deniedByRule, deniedByListed]
  cases declared : policy.declared.get? readOnlyMarker with
  | none => rfl
  | some handle =>
    let copied : Episode := { episode with catalog := (episode.catalog.clone handle).2 }
    have heldCopied : copied.Extends shared :=
      ((Episode.extends_keptByRules shared).copied episode handle held).2
    have copies : copyOf handle episode = .ok (episode.catalog.clone handle).1 copied := rfl
    have rules : rulesOf handle copied = .ok (shared.entry handle).rules copied := by
      rw [rulesOf, Catalog.entry_of_prefix heldCopied (inside handle declared)]
    simp only [bind_of_ok copies, bind_of_ok rules]

end Policy

/-! ## Copies of entries -/

namespace Catalog

/-- The entries of copies are those that were copied, and they stand behind all others. -/
theorem cloneAll_spec {catalog : Catalog} {handles : List Handle}
    (inside : ∀ handle ∈ handles, handle < catalog.entries.length) :
    catalog.entries <+: (catalog.cloneAll handles).2.entries ∧
      (catalog.cloneAll handles).1.map (catalog.cloneAll handles).2.entry =
        handles.map catalog.entry ∧
      ∀ copy ∈ (catalog.cloneAll handles).1, catalog.entries.length ≤ copy ∧
        copy < (catalog.cloneAll handles).2.entries.length := by
  induction handles generalizing catalog with
  | nil => exact ⟨List.prefix_rfl, rfl, by simp [cloneAll]⟩
  | cons handle rest ih =>
    obtain ⟨insideFirst, insideRest⟩ := List.forall_mem_cons.mp inside
    have grown : catalog.entries <+: (catalog.clone handle).2.entries := List.prefix_append _ _
    have there : catalog.entries.length < (catalog.clone handle).2.entries.length := by
      simp [clone, store]
    have insideCopied : ∀ other ∈ rest, other < (catalog.clone handle).2.entries.length :=
      fun other mem => Nat.lt_of_lt_of_le (insideRest other mem) grown.length_le
    obtain ⟨extended, copied, between⟩ := ih insideCopied
    have first : ((catalog.clone handle).2.cloneAll rest).2.entry catalog.entries.length =
        catalog.entry handle :=
      (Catalog.entry_of_prefix extended there).trans (catalog.entry_clone handle)
    have others : rest.map (catalog.clone handle).2.entry = rest.map catalog.entry :=
      List.map_congr_left fun other mem => Catalog.entry_of_prefix grown (insideRest other mem)
    refine ⟨grown.trans extended, ?_, ?_⟩
    · simp only [cloneAll, List.map_cons]
      rw [copied, others]
      exact congrArg (· :: rest.map catalog.entry) first
    · intro copy mem
      rcases List.mem_cons.mp mem with rfl | mem
      · exact ⟨Nat.le_refl _, Nat.lt_of_lt_of_le there extended.length_le⟩
      · obtain ⟨behind, inside⟩ := between copy mem
        exact ⟨Nat.le_trans grown.length_le behind, inside⟩

theorem entry_addRules_of_ne {catalog : Catalog} {handle copy : Handle} (other : handle ≠ copy)
    (incoming : List (Option Rule)) :
    (catalog.addRules copy incoming).entry handle = catalog.entry handle := by
  have same : (catalog.addRules copy incoming).entries[handle]? = catalog.entries[handle]? :=
    List.getElem?_modify_ne _ _ fun same => other same.symm
  simp only [entry, List.getD_eq_getElem?_getD, same]

end Catalog

/-! ## One use -/

namespace Commons

/-- All metadata has its entries in the catalog, the copies that were handed out are none of these,
and profiles are bound by the metadata. -/
structure IsSound (commons : Commons) : Prop where
  inside : ∀ metadata ∈ commons.metadata, ∀ handle ∈ metadata.attributes,
    handle < commons.catalog.entries.length
  copies : ∀ copy ∈ commons.copies, copy < commons.catalog.entries.length ∧
    ∀ metadata ∈ commons.metadata, copy ∉ metadata.attributes
  bound : ∀ profile ∈ commons.profiles, ∀ name handle,
    profile.policy.declared.get? name = some handle →
      ∃ metadata ∈ commons.metadata, handle ∈ metadata.attributes

/-- Metadata over which nothing was made yet is sound if its entries are there. -/
theorem isSound_of_inside {catalog : Catalog} {metadata : List ProfileMetadata}
    (inside : ∀ known ∈ metadata, ∀ handle ∈ known.attributes,
      handle < catalog.entries.length) : ({ catalog, metadata } : Commons).IsSound :=
  ⟨inside, List.forall_mem_nil _, List.forall_mem_nil _⟩

/-- What uses leave of the commons: all entries but copies that had been handed out, and all
metadata. What is handed out is new. -/
structure Continues (before after : Commons) : Prop where
  length : before.catalog.entries.length ≤ after.catalog.entries.length
  entries : ∀ handle < before.catalog.entries.length, handle ∉ before.copies →
    after.catalog.entry handle = before.catalog.entry handle
  copies : ∀ copy ∈ after.copies, copy ∈ before.copies ∨ before.catalog.entries.length ≤ copy
  metadata : before.metadata <+: after.metadata

namespace Continues

theorem refl (commons : Commons) : commons.Continues commons :=
  ⟨Nat.le_refl _, fun _ _ _ => rfl, fun _ => Or.inl, List.prefix_rfl⟩

theorem trans {first second third : Commons} (earlier : first.Continues second)
    (later : second.Continues third) : first.Continues third := by
  refine ⟨Nat.le_trans earlier.length later.length, ?_, ?_, earlier.metadata.trans later.metadata⟩
  · intro handle inside shared
    have still : handle ∉ second.copies := by
      intro copied
      rcases earlier.copies handle copied with known | fresh
      · exact shared known
      · omega
    exact (later.entries handle (Nat.lt_of_lt_of_le inside earlier.length) still).trans
      (earlier.entries handle inside shared)
  · intro copy mem
    rcases later.copies copy mem with known | fresh
    · exact earlier.copies copy known
    · exact Or.inr (Nat.le_trans earlier.length fresh)

/-- The catalog was only added to. -/
theorem of_grown {before after : Commons}
    (grown : before.catalog.entries <+: after.catalog.entries)
    (copies : ∀ copy ∈ after.copies, copy ∈ before.copies ∨ before.catalog.entries.length ≤ copy)
    (metadata : before.metadata <+: after.metadata) : before.Continues after :=
  ⟨grown.length_le, fun _ inside _ => Catalog.entry_of_prefix grown inside, copies, metadata⟩

end Continues

variable {commons : Commons}

/-- A sound state is left sound and continued. -/
structure Passes (before after : Commons) : Prop where
  sound : after.IsSound
  continues : before.Continues after

namespace IsSound

variable (sound : commons.IsSound)
include sound

/-- Another catalog that has grown holds all that there was. -/
theorem grow {catalog : Catalog} {profiles : List Profile}
    (grown : commons.catalog.entries.length ≤ catalog.entries.length)
    (bound : ∀ profile ∈ profiles, ∀ name handle,
      profile.policy.declared.get? name = some handle →
        ∃ metadata ∈ commons.metadata, handle ∈ metadata.attributes) :
    ({ commons with catalog, profiles } : Commons).IsSound where
  inside metadata known handle mem :=
    Nat.lt_of_lt_of_le (sound.inside metadata known handle mem) grown
  copies copy handed :=
    ⟨Nat.lt_of_lt_of_le (sound.copies copy handed).1 grown, (sound.copies copy handed).2⟩
  bound := bound

theorem derived {position : Nat} {base : ProfileMetadata}
    (known : commons.metadata[position]? = some base) (context : Context) :
    commons.Passes (commons.apply (.derive position context)) := by
  have inside := sound.inside base (List.mem_of_getElem? known)
  obtain ⟨grown, -, between⟩ := Catalog.cloneAll_spec inside
  simp only [apply, known]
  refine ⟨⟨?_, ?_, ?_⟩, .of_grown grown (fun _ => Or.inl) (List.prefix_append _ _)⟩
  · intro metadata mem handle listed
    rcases List.mem_append.mp mem with earlier | new
    · exact Nat.lt_of_lt_of_le (sound.inside metadata earlier handle listed) grown.length_le
    · rw [List.mem_singleton.mp new] at listed
      exact (between handle listed).2
  · intro copy handed
    obtain ⟨there, free⟩ := sound.copies copy handed
    refine ⟨Nat.lt_of_lt_of_le there grown.length_le, fun metadata mem listed => ?_⟩
    rcases List.mem_append.mp mem with earlier | new
    · exact free metadata earlier listed
    · rw [List.mem_singleton.mp new] at listed
      exact Nat.not_lt_of_le (between copy listed).1 there
  · intro profile mem name handle declared
    obtain ⟨metadata, earlier, listed⟩ := sound.bound profile mem name handle declared
    exact ⟨metadata, List.mem_append_left _ earlier, listed⟩

theorem created {metadata : ProfileMetadata} (known : metadata ∈ commons.metadata)
    (context : Context) (validators : Registry Validator) (episode : Episode) :
    commons.Passes { commons with
      profiles := commons.profiles ++
        [{ policy := { context, declared := metadata.declared commons.catalog, validators }
           episode }] } := by
  refine ⟨sound.grow (Nat.le_refl _) ?_, .of_grown List.prefix_rfl (fun _ => Or.inl)
    List.prefix_rfl⟩
  intro profile mem name handle declared
  rcases List.mem_append.mp mem with earlier | new
  · exact sound.bound profile earlier name handle declared
  · rw [List.mem_singleton.mp new] at declared
    obtain ⟨other, listed, same⟩ := List.mem_map.mp (Keyed.mem_of_get?_ofPairs declared)
    cases same
    exact ⟨metadata, known, listed⟩

/-- A profile is taken back with a catalog that has grown. -/
theorem takenBack {position : Nat} {profile after : Profile}
    (known : commons.profiles[position]? = some profile) (same : after.policy = profile.policy)
    (grown : after.episode.Extends commons.catalog) :
    commons.Passes (commons.takeBack position after) := by
  refine ⟨sound.grow grown.length_le ?_, .of_grown grown (fun _ => Or.inl) List.prefix_rfl⟩
  intro other mem name handle declared
  rcases List.mem_or_eq_of_mem_set mem with earlier | rfl
  · exact sound.bound other earlier name handle declared
  · rw [same] at declared
    exact sound.bound profile (List.mem_of_getElem? known) name handle declared

/-- Whatever is done with a profile, it is taken back with a catalog that has grown. -/
theorem ran {α : Type} {position : Nat} {profile : Profile}
    (known : commons.profiles[position]? = some profile) {start : Profile}
    (same : start.policy = profile.policy) (held : start.episode.Extends commons.catalog)
    {action : Policy → Action α}
    (keeps : Keeps (Episode.Extends commons.catalog) (action start.policy)) :
    commons.Passes (commons.takeBack position (start.run action).2) :=
  sound.takenBack known ((start.run_policy action).trans same) (keeps _ held).run

/-- A new copy is handed out. -/
theorem handedOut {copy : Handle} {before : Commons} (passes : before.Passes commons)
    (new : before.catalog.entries.length ≤ copy) (there : copy < commons.catalog.entries.length)
    (free : ∀ metadata ∈ commons.metadata, copy ∉ metadata.attributes) :
    before.Passes { commons with copies := commons.copies ++ [copy] } where
  sound := by
    refine ⟨sound.inside, fun other mem => ?_, sound.bound⟩
    rcases List.mem_append.mp mem with earlier | last
    · exact sound.copies other earlier
    · rw [List.mem_singleton.mp last]
      exact ⟨there, free⟩
  continues := by
    refine ⟨passes.continues.length, passes.continues.entries, fun other mem => ?_,
      passes.continues.metadata⟩
    rcases List.mem_append.mp mem with earlier | last
    · exact passes.continues.copies other earlier
    · rw [List.mem_singleton.mp last]
      exact Or.inr new

theorem copied (position : Nat) (name : String) :
    commons.Passes (commons.apply (.copy position name)) := by
  simp only [apply]
  cases known : commons.profiles[position]? with
  | none => exact ⟨sound, .refl commons⟩
  | some profile =>
    have held : (commons.seat profile).episode.Extends commons.catalog := List.prefix_rfl
    have copies := (commons.seat profile).policy.leads_metadataCopy held name
    rcases (commons.seat profile).run_cases (fun policy => policy.metadataCopy name) copies with
      ⟨result, after, ran, grown, new⟩ | ⟨_, _, _, impossible⟩
    · simp only [ran]
      have passes : commons.Passes
          (commons.takeBack position { commons.seat profile with episode := after }) :=
        sound.takenBack known rfl grown
      cases result with
      | none => exact passes
      | some copy =>
        obtain ⟨behind, there⟩ := new copy rfl
        refine passes.sound.handedOut passes behind there fun metadata mem listed => ?_
        exact Nat.not_lt_of_le behind (sound.inside metadata mem copy listed)
    · exact impossible.elim

theorem extended (position : Nat) (rules : List (Option Rule)) :
    commons.Passes (commons.apply (.extend position rules)) := by
  simp only [apply]
  cases known : commons.copies[position]? with
  | none => exact ⟨sound, .refl commons⟩
  | some copy =>
    have same : (commons.catalog.addRules copy rules).entries.length =
        commons.catalog.entries.length := List.length_modify _ _ _
    refine ⟨sound.grow (Nat.le_of_eq same.symm) sound.bound, ?_⟩
    refine ⟨Nat.le_of_eq same.symm, fun handle _ shared => ?_, fun _ => Or.inl, List.prefix_rfl⟩
    refine Catalog.entry_addRules_of_ne ?_ rules
    rintro rfl
    exact shared (List.mem_of_getElem? known)

/-- Every use leaves a sound state sound and continues it. -/
theorem apply (use : Use) : commons.Passes (commons.apply use) := by
  cases use with
  | derive position context =>
    cases known : commons.metadata[position]? with
    | none =>
      simp only [Commons.apply, known]
      exact ⟨sound, .refl commons⟩
    | some base => exact sound.derived known context
  | create position context validators submitted organization =>
    simp only [Commons.apply]
    cases known : commons.metadata[position]? with
    | none => exact ⟨sound, .refl commons⟩
    | some metadata =>
      simp only
      split
      · exact ⟨sound, .refl commons⟩
      · exact sound.created (List.mem_of_getElem? known) context validators _
  | operate position organization operation =>
    simp only [Commons.apply]
    cases known : commons.profiles[position]? with
    | none => exact ⟨sound, .refl commons⟩
    | some profile =>
      let seated := commons.seat profile
      let start : Profile :=
        { seated with episode := { seated.episode with organization, journal := [] } }
      have held : start.episode.Extends commons.catalog := List.prefix_rfl
      have same : start.policy = profile.policy := rfl
      exact sound.ran known same held (operation.keeps_extends commons.catalog _)
  | writable position =>
    simp only [Commons.apply]
    cases known : commons.profiles[position]? with
    | none => exact ⟨sound, .refl commons⟩
    | some profile =>
      have held : (commons.seat profile).episode.Extends commons.catalog := List.prefix_rfl
      have same : (commons.seat profile).policy = profile.policy := rfl
      exact sound.ran known same held (keeps_inspect _)
  | copy position name => exact sound.copied position name
  | extend position rules => exact sound.extended position rules

/-- Uses in turn leave a sound state sound and continue it. -/
theorem run (uses : List Use) : commons.Passes (commons.run uses) := by
  induction uses generalizing commons with
  | nil => exact ⟨sound, .refl commons⟩
  | cons use rest ih =>
    have first := sound.apply use
    have others := ih first.sound
    exact ⟨others.sound, first.continues.trans others.continues⟩

end IsSound

/-- Metadata that is known keeps its entries. -/
theorem Continues.contents_eq {before after : Commons} (continues : before.Continues after)
    (sound : before.IsSound) {metadata : ProfileMetadata} (known : metadata ∈ before.metadata) :
    metadata.contents after.catalog = metadata.contents before.catalog := by
  refine List.map_congr_left fun handle listed => ?_
  refine continues.entries handle (sound.inside metadata known handle listed) fun copied => ?_
  exact (sound.copies handle copied).2 metadata known listed

/-- Metadata that is derived has the entries of what it is derived from. -/
theorem IsSound.contents_derive (sound : commons.IsSound) {base : ProfileMetadata}
    (known : base ∈ commons.metadata) (context : Context) :
    let derived := base.derive context commons.catalog
    derived.1.contents derived.2 = base.contents commons.catalog :=
  (Catalog.cloneAll_spec (sound.inside base known)).2.1

/-- Metadata that is derived has the entries of what it is derived from, as copies of its own, and
keeps them whatever is done next. -/
theorem IsSound.derive_kept (sound : commons.IsSound) {position : Nat} {base : ProfileMetadata}
    (known : commons.metadata[position]? = some base) (context : Context) (rest : List Use) :
    let after := commons.run (.derive position context :: rest)
    ∃ derived ∈ after.metadata, derived.context = context ∧
      derived.contents after.catalog = base.contents commons.catalog ∧
      ∀ handle ∈ derived.attributes, handle ∉ base.attributes := by
  intro after
  have mem := List.mem_of_getElem? known
  let derived := base.derive context commons.catalog
  let next : Commons :=
    { commons with catalog := derived.2, metadata := commons.metadata ++ [derived.1] }
  have stepped : commons.apply (.derive position context) = next := by
    simp only [Commons.apply, known]
    rfl
  have soundNext : next.IsSound := stepped ▸ (sound.derived known context).sound
  have last : derived.1 ∈ next.metadata := List.mem_append_right _ (List.mem_singleton_self _)
  have continues : next.Continues after := by
    have ends : after = next.run rest := by
      rw [← stepped]
      rfl
    exact ends ▸ (soundNext.run rest).continues
  refine ⟨derived.1, continues.metadata.subset last, rfl, ?_, fun handle copied listed => ?_⟩
  · exact (continues.contents_eq soundNext last).trans (sound.contents_derive mem context)
  · have inside := sound.inside base mem handle listed
    have behind := ((Catalog.cloneAll_spec (sound.inside base mem)).2.2 handle copied).1
    exact Nat.not_lt_of_le behind inside

/-- An entry that binds a profile is one of shared metadata, so it stays as it is. -/
theorem IsSound.bound_entry {before after : Commons} (sound : before.IsSound)
    (continues : before.Continues after) {profile : Profile} (mem : profile ∈ before.profiles)
    {name : String} {handle : Handle}
    (declared : profile.policy.declared.get? name = some handle) :
    handle < after.catalog.entries.length ∧
      after.catalog.entry handle = before.catalog.entry handle := by
  obtain ⟨metadata, known, listed⟩ := sound.bound profile mem name handle declared
  have inside := sound.inside metadata known handle listed
  refine ⟨Nat.lt_of_lt_of_le inside continues.length, continues.entries handle inside ?_⟩
  intro copied
  exact (sound.copies handle copied).2 metadata known listed

/-- A profile runs the rules of shared metadata as they once stood, whatever was added since. -/
theorem IsSound.passes_listed {before after : Commons} (sound : before.IsSound)
    (continues : before.Continues after) {profile : Profile} (mem : profile ∈ before.profiles)
    {episode : Episode} (held : episode.Extends after.catalog) (name : String) :
    profile.policy.validateName name episode =
        profile.policy.applyListed name (profile.policy.listing before.catalog name) episode ∧
      profile.policy.deniedByRule name episode =
        profile.policy.deniedByListed before.catalog name episode := by
  constructor
  · have same : ∀ handle ∈ profile.policy.candidates name, handle < after.catalog.entries.length ∧
        after.catalog.entry handle = before.catalog.entry handle := by
      intro handle applies
      obtain ⟨other, declared⟩ := Policy.exists_declared_of_mem_candidates applies
      exact sound.bound_entry continues mem declared
    have listed : profile.policy.listing after.catalog name =
        profile.policy.listing before.catalog name := by
      refine List.map_congr_left fun handle applies => ?_
      rw [(same handle applies).2]
    rw [← listed]
    exact Policy.applyMetadata_eq_applyListed held name fun handle applies =>
      (same handle applies).1
  · have same : ∀ handle, profile.policy.declared.get? readOnlyMarker = some handle →
        handle < after.catalog.entries.length ∧
          after.catalog.entry handle = before.catalog.entry handle :=
      fun handle declared => sound.bound_entry continues mem declared
    rw [Policy.deniedByRule_eq_deniedByListed held fun handle declared => (same handle declared).1]
    unfold Policy.deniedByListed
    cases declared : profile.policy.declared.get? readOnlyMarker with
    | none => rfl
    | some handle => simp only [(same handle declared).2]

/-- Whatever is done with profiles over shared metadata, and with the copies that are handed out,
all metadata that there is at any time keeps its entries with their predicates and rules, and what
is derived from it has the same ones. Every pass over rules runs those that shared metadata had at
any time before; rules that were added to a copy, earlier or in the pass itself, are not run. -/
theorem shared_metadata_kept {start : Commons} (sound : start.IsSound) (earlier later : List Use) :
    let between := start.run earlier
    let after := start.run (earlier ++ later)
    (∀ metadata ∈ between.metadata, metadata ∈ after.metadata ∧
      metadata.contents after.catalog = metadata.contents between.catalog) ∧
    (∀ position base context rest, later = .derive position context :: rest →
      between.metadata[position]? = some base →
        ∃ derived ∈ after.metadata, derived.context = context ∧
          derived.contents after.catalog = base.contents between.catalog ∧
          ∀ handle ∈ derived.attributes, handle ∉ base.attributes) ∧
    ∀ profile ∈ between.profiles, ∀ episode, episode.Extends after.catalog → ∀ name,
      profile.policy.validateName name episode =
          profile.policy.applyListed name (profile.policy.listing between.catalog name) episode ∧
        profile.policy.deniedByRule name episode =
          profile.policy.deniedByListed between.catalog name episode := by
  intro between after
  have soundBetween : between.IsSound := (sound.run earlier).sound
  have split : after = between.run later := List.foldl_append
  have continues : between.Continues after := split ▸ (soundBetween.run later).continues
  refine ⟨?_, ?_, ?_⟩
  · intro metadata known
    exact ⟨continues.metadata.subset known, continues.contents_eq soundBetween known⟩
  · rintro position base context rest rfl known
    rw [split]
    exact soundBetween.derive_kept known context rest
  · intro profile mem episode held name
    exact soundBetween.passes_listed continues mem held name

/-- Two profiles, one of them over derived metadata, whose rule adds a failing rule to the copy that
it is given; the same rule is added to a copy that is handed out. -/
theorem shared_metadata_kept_of_layered :
    let failing : Rule := { identity := 1, validator := "probe" }
    let validators : Registry Validator := [
      ("layer", fun invocation => .ok
        { values := invocation.situation.values, additions := [failing] }),
      ("probe", fun invocation => .ok
        { errors := [{ validator := "probe", field := "tier", message := "layered" }]
          values := invocation.situation.values })]
    let start : Commons :=
      { catalog := { entries := [
          { name := "tier", rules := [{ identity := 0, validator := "layer" }] }] }
        metadata := [{ context := .updateProfile, attributes := [0] }] }
    let uses : List Use := [
      .create 0 .updateProfile validators [] none, .operate 0 none (.validateName "tier"),
      .derive 0 .updateMetadata, .create 1 .updateMetadata validators [] none,
      .copy 1 "tier", .extend 0 [some failing], .operate 1 none (.validateName "tier")]
    let after := start.run uses
    start.IsSound ∧
    (after.catalog.entry 0).rules.map (·.identity) = [0] ∧
    after.catalog.entries.map (fun entry => entry.rules.map (·.identity)) =
      [[0], [0, 1], [0], [0, 1], [0, 1]] := by
  intro failing validators start uses after
  have sound : start.IsSound := isSound_of_inside (by decide)
  have known : ({ context := .updateProfile, attributes := [0] } : ProfileMetadata) ∈
      (start.run []).metadata := List.mem_singleton_self _
  obtain ⟨-, kept⟩ := (shared_metadata_kept sound [] uses).1 _ known
  refine ⟨sound, ?_, by decide +kernel⟩
  have same : after.catalog.entry 0 = start.catalog.entry 0 := (List.cons.inj kept).1
  rw [same]
  rfl

end Commons

end ProfilePolicy
