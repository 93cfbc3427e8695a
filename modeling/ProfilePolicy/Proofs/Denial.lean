import ProfilePolicy.Proofs.MissingRules
import ProfilePolicy.Proofs.Moves
import ProfilePolicy.Proofs.Violations

/-!
# What metadata denies

Metadata of any kind may deny that an attribute is written, and it may look at the values of the set
to decide. An update asks it once, after validation. What it denies then keeps its stored values:
the values that are written leave it out, and it is not removed, since every declared name is in the
set. It was there from the start, filled in where the submission left it out, and rules may change
the values under a name but take no name out of the set.

This holds for any metadata and for any validators that change the set in this way, whatever else
they reply and however they fail.
-/

namespace ProfilePolicy

/-! ## The entry that counts -/

namespace Keyed

variable {α : Type}

/-- Of the values put under one name the last one stays. -/
theorem get?_putAll (map : Keyed α) (pairs : List (String × α)) (name : String) :
    get? (putAll map pairs) name =
      ((pairs.filter (·.1 == name)).getLast?.map (·.2)).or (get? map name) := by
  induction pairs generalizing map with
  | nil => rfl
  | cons pair rest ih =>
    have first : putAll map (pair :: rest) = putAll (map.put pair.1 pair.2) rest := rfl
    rw [first, ih, get?_put]
    by_cases own : pair.1 = name
    · rw [List.filter_cons_of_pos (by simpa using own), if_pos own.symm, List.getLast?_cons]
      cases (rest.filter (·.1 == name)).getLast? <;> rfl
    · rw [List.filter_cons_of_neg (by simpa using own), if_neg fun same => own same.symm]

theorem mem_names_putAll {map : Keyed α} {name : String} (held : name ∈ names map)
    (pairs : List (String × α)) : name ∈ names (putAll map pairs) := by
  induction pairs generalizing map with
  | nil => exact held
  | cons pair rest ih => exact ih (mem_names_put.mpr (Or.inr held))

end Keyed

/-- Of the entries of a name the last one counts. -/
theorem ProfileMetadata.get?_declared (metadata : ProfileMetadata) (catalog : Catalog)
    (name : String) :
    (metadata.declared catalog).get? name = (metadata.named name catalog).getLast? := by
  rw [declared, Keyed.ofPairs, Keyed.get?_putAll, List.filter_map, List.getLast?_map, named,
    Keyed.get?_nil, Option.or_none, Option.map_map]
  exact congrFun Option.map_id _

/-- An entry that denies a write is one of the catalog. -/
theorem Catalog.lt_of_denies {catalog : Catalog} {handle : Handle} {situation : Situation}
    (denies : (catalog.entry handle).canEdit situation = false) :
    handle < catalog.entries.length := by
  refine Classical.byContradiction fun outside => ?_
  rw [entry, List.getD_eq_getElem?_getD, List.getElem?_eq_none (Nat.le_of_not_lt outside)] at denies
  cases denies

/-! ## Confined actions -/

/-- Validators change the set by putting values under names. -/
def Registry.IsRewriting (validators : Registry Validator) : Prop :=
  ∀ id validator, Keyed.get? validators id = some validator → ∀ invocation reply,
    validator invocation = .ok reply →
      ∃ edits, reply.values = Keyed.putAll invocation.situation.values edits

/-- What is left of an episode when the organization was written under some names alone: its name
and its other values, the names of the set and the shared metadata. -/
structure Episode.Confined (shared : Catalog) (touched : String → Prop) (before after : Episode) :
    Prop where
  catalog : shared.entries <+: after.catalog.entries
  names : ∀ name ∈ before.values.names, name ∈ after.values.names
  organization : ∀ organization, before.organization = some organization →
    ∃ left, after.organization = some left ∧ left.name = organization.name ∧
      ∀ name, ¬ touched name → left.valuesOf name = organization.valuesOf name

namespace Episode.Confined

variable {shared : Catalog} {touched : String → Prop}

/-- The organization was not written at all. -/
theorem of_organization {before after : Episode}
    (catalog : shared.entries <+: after.catalog.entries)
    (names : ∀ name ∈ before.values.names, name ∈ after.values.names)
    (same : after.organization = before.organization) : before.Confined shared touched after :=
  ⟨catalog, names, fun organization bound => ⟨organization, same.trans bound, rfl, fun _ _ => rfl⟩⟩

theorem refl {episode : Episode} (held : shared.entries <+: episode.catalog.entries) :
    episode.Confined shared touched episode :=
  .of_organization held (fun _ => id) rfl

/-- The organization was written under one name that may be touched. -/
theorem of_write {episode : Episode} (held : shared.entries <+: episode.catalog.entries)
    {organization left : Organization} (bound : episode.organization = some organization)
    {name : String} (free : touched name) (follows : left.Follows organization)
    (values : ∀ other, other ≠ name → left.valuesOf other = organization.valuesOf other) :
    episode.Confined shared touched { episode with organization := some left } := by
  refine ⟨held, fun _ => id, fun known same => ⟨left, rfl, ?_⟩⟩
  cases bound.symm.trans same
  refine ⟨follows.name, fun other spared => values other ?_⟩
  rintro rfl
  exact spared free

theorem trans {first second third : Episode} (earlier : first.Confined shared touched second)
    (later : second.Confined shared touched third) : first.Confined shared touched third := by
  refine ⟨later.catalog, fun name mem => later.names name (earlier.names name mem), ?_⟩
  intro organization bound
  obtain ⟨between, boundBetween, named, values⟩ := earlier.organization organization bound
  obtain ⟨left, boundLeft, named', values'⟩ := later.organization between boundBetween
  refine ⟨left, boundLeft, named'.trans named, fun name free => ?_⟩
  exact (values' name free).trans (values name free)

end Episode.Confined

namespace Action

variable {α β : Type} {shared : Catalog} {touched : String → Prop} {episode : Episode}
variable {action : Action α} {next : α → Action β}

/-- However an action ends, it has written under some names alone. -/
def Stays (shared : Catalog) (touched : String → Prop) (action : Action α) (episode : Episode) :
    Prop :=
  Leads action episode (fun _ after => episode.Confined shared touched after)
    fun _ after => episode.Confined shared touched after

theorem stays_pure (held : shared.entries <+: episode.catalog.entries) (value : α) :
    Stays shared touched (pure value) episode :=
  .refl held

theorem stays_get_bind {next : Episode → Action β}
    (rest : Stays shared touched (next episode) episode) :
    Stays shared touched (get >>= next) episode :=
  rest

theorem stays_inspect (held : shared.entries <+: episode.catalog.entries)
    (look : Episode → Except Mishap α) : Stays shared touched (Policy.inspect look) episode :=
  leads_inspect.mpr ⟨fun _ _ => .refl held, fun _ _ => .refl held⟩

theorem Stays.bind (first : Stays shared touched action episode)
    (rest : ∀ value after, episode.Confined shared touched after →
      Stays shared touched (next value) after) :
    Stays shared touched (action >>= next) episode := by
  rw [Stays, leads_bind]
  refine first.mono ?_ fun _ _ => id
  intro value after confined
  exact (rest value after confined).mono (fun _ _ => confined.trans) fun _ _ => confined.trans

theorem Stays.of_ok (stays : Stays shared touched action episode) {value : α} {after : Episode}
    (result : action episode = .ok value after) : episode.Confined shared touched after :=
  (leads_of_ok result).mp stays

theorem Stays.run {profile : Profile} {action : Policy → Action α}
    (stays : Stays shared touched (action profile.policy) profile.episode) :
    profile.episode.Confined shared touched (profile.run action).2.episode := by
  rcases profile.run_cases action stays with ⟨_, _, result, confined⟩ | ⟨_, _, result, confined⟩
  · rw [result]
    exact confined
  · rw [result]
    exact confined

end Action

/-! ## Rules -/

namespace Policy

open ProfilePolicy.Action

variable {policy : Policy} {shared : Catalog} {touched : String → Prop} {episode : Episode}

/-- What is done with a copy of shared metadata. -/
theorem stays_copy_bind {α : Type} {next : Handle → Action α}
    (held : shared.entries <+: episode.catalog.entries) (handle : Handle)
    (rest : ∀ copy after, shared.entries.length ≤ copy → episode.Confined shared touched after →
      Stays shared touched (next copy) after) :
    Stays shared touched (copyOf handle >>= next) episode := by
  have copied : episode.Confined shared touched
      { episode with catalog := (episode.catalog.clone handle).2 } :=
    .of_organization (held.trans (List.prefix_append _ _)) (fun _ => id) rfl
  exact (rest _ _ held.length_le copied).mono (fun _ _ => copied.trans) fun _ _ => copied.trans

theorem stays_rulesOf (held : shared.entries <+: episode.catalog.entries) (handle : Handle) :
    Stays shared touched (rulesOf handle) episode :=
  .refl held

theorem stays_logVerdict (held : shared.entries <+: episode.catalog.entries) (tolerated : Bool)
    (name : String) (rule : Rule) (errors : List FieldError) :
    Stays shared touched (policy.logVerdict tolerated name rule errors) episode :=
  .of_organization held (fun _ => id) rfl

section Rules

variable (rewriting : policy.validators.IsRewriting)
include rewriting

theorem stays_runRule {copy : Handle} (isCopy : shared.entries.length ≤ copy)
    (held : shared.entries <+: episode.catalog.entries) (name : String) (rule : Rule) :
    Stays shared touched (policy.runRule name copy rule) episode := by
  unfold Stays Leads runRule
  cases found : policy.validators.get? rule.validator with
  | none => exact .refl held
  | some validator =>
    simp only
    generalize answered : validator _ = outcome
    cases outcome with
    | error breakdown => exact .of_organization held (fun _ => id) rfl
    | ok reply =>
      obtain ⟨edits, put⟩ := rewriting _ _ found _ _ answered
      refine .of_organization (prefix_modify _ held isCopy) (fun name mem => ?_) rfl
      simp only [put]
      exact Keyed.mem_names_putAll mem edits

theorem stays_anyFails {copy : Handle} (isCopy : shared.entries.length ≤ copy)
    (held : shared.entries <+: episode.catalog.entries) (name : String) (rules : List Rule) :
    Stays shared touched (policy.anyFails name copy rules) episode := by
  induction rules generalizing episode with
  | nil => exact stays_pure held false
  | cons rule rest ih =>
    rw [anyFails]
    refine (stays_runRule rewriting isCopy held name rule).bind fun errors after confined => ?_
    split
    · exact ih confined.catalog
    · exact stays_pure confined.catalog true

theorem stays_isReadOnly (held : shared.entries <+: episode.catalog.entries) (name : String) :
    Stays shared touched (policy.isReadOnly name) episode := by
  rw [isReadOnly]
  split
  · exact stays_pure held true
  · apply stays_get_bind
    split
    · exact stays_pure held true
    · rw [deniedByRule]
      split
      · exact stays_pure held false
      · refine stays_copy_bind held _ fun copy copied isCopy confined => ?_
        refine (stays_rulesOf confined.catalog _).bind fun rules after looked => ?_
        exact stays_anyFails rewriting isCopy looked.catalog name rules

theorem stays_applyRules {copy : Handle} (isCopy : shared.entries.length ≤ copy)
    (held : shared.entries <+: episode.catalog.entries) (name : String) (handle : Handle)
    (rules : List Rule) :
    Stays shared touched (policy.applyRules name handle copy rules) episode := by
  induction rules generalizing episode with
  | nil => exact stays_pure held _
  | cons rule rest ih =>
    rw [applyRules]
    refine (stays_runRule rewriting isCopy held name rule).bind fun errors ran confined => ?_
    split
    · exact ih confined.catalog
    · refine (stays_inspect confined.catalog _).bind fun tolerated asked looked => ?_
      refine (stays_logVerdict looked.catalog tolerated name rule errors).bind
        fun _ noted logged => ?_
      refine (ih logged.catalog).bind fun others after last => ?_
      split <;> exact stays_pure last.catalog _

theorem stays_applyMetadata (held : shared.entries <+: episode.catalog.entries) (name : String)
    (handles : List Handle) :
    Stays shared touched (policy.applyMetadata name handles) episode := by
  induction handles generalizing episode with
  | nil => exact stays_pure held _
  | cons handle rest ih =>
    rw [applyMetadata]
    refine stays_copy_bind held handle fun copy copied isCopy confined => ?_
    refine (stays_rulesOf confined.catalog handle).bind fun rules asked looked => ?_
    refine (stays_applyRules rewriting isCopy looked.catalog name handle rules).bind
      fun verdict applied ran => ?_
    exact (ih ran.catalog).bind fun others after last => stays_pure last.catalog _

end Rules

end Policy

/-! ## Updates -/

namespace Profile

open ProfilePolicy.Action

variable {policy : Policy} {shared : Catalog} {touched : String → Prop} {episode : Episode}

section Validation

variable (rewriting : policy.validators.IsRewriting)
include rewriting

theorem stays_collectErrors (held : shared.entries <+: episode.catalog.entries) (report : Report)
    (names : List String) :
    Stays shared touched (collectErrors policy report names) episode := by
  induction names generalizing episode report with
  | nil => exact stays_pure held report
  | cons name rest ih =>
    rw [collectErrors]
    refine (Policy.stays_applyMetadata rewriting held name (policy.candidates name)).bind
      fun verdict after confined => ?_
    exact ih confined.catalog _

theorem stays_validate (held : shared.entries <+: episode.catalog.entries) (visit : Visit) :
    Stays shared touched (validate policy visit) episode := by
  rw [validate]
  apply stays_get_bind
  refine (stays_collectErrors rewriting held _ _).bind fun report after confined => ?_
  apply stays_get_bind
  split
  · exact .of_organization confined.catalog (fun _ => id) rfl
  · exact .of_organization confined.catalog (fun _ => id) rfl

end Validation

theorem stays_setAttribute (held : shared.entries <+: episode.catalog.entries) {name : String}
    (free : touched name) (texts : List String) :
    Stays shared touched (setAttribute name texts) episode := by
  unfold Stays Leads setAttribute
  cases bound : episode.organization with
  | none => exact .refl held
  | some organization =>
    simp only
    cases result : organization.setAttribute name (texts.map Value.text) with
    | error fault => exact .refl held
    | ok left =>
      obtain ⟨follows, values⟩ := Organization.setAttribute_ok result
      exact .of_write held bound free follows fun other different =>
        (values other).trans (if_neg different)

theorem stays_removeAttribute (held : shared.entries <+: episode.catalog.entries) {name : String}
    (free : touched name) : Stays shared touched (removeAttribute name) episode := by
  unfold Stays Leads removeAttribute
  cases bound : episode.organization with
  | none => exact .refl held
  | some organization =>
    simp only
    cases result : organization.removeAttribute name with
    | error fault => exact .refl held
    | ok left =>
      obtain ⟨follows, values⟩ := Organization.removeAttribute_ok result
      exact .of_write held bound free follows fun other different =>
        (values other).trans (if_neg different)

theorem stays_writeAll (held : shared.entries <+: episode.catalog.entries) (remove : Bool)
    {entries : AttributeValues} (free : ∀ entry ∈ entries, touched entry.1) :
    Stays shared touched (writeAll remove entries) episode := by
  induction entries generalizing episode with
  | nil => exact stays_pure held []
  | cons entry rest ih =>
    obtain ⟨name, submitted⟩ := entry
    obtain ⟨own, others⟩ := List.forall_mem_cons.mp free
    rw [writeAll]
    split
    · exact ih held others
    · refine (stays_inspect held _).bind fun wanted asked looked => ?_
      split
      · exact ih looked.catalog others
      · refine (stays_setAttribute looked.catalog own _).bind fun _ written confined => ?_
        exact (ih confined.catalog others).bind fun _ _ last => stays_pure last.catalog _

theorem stays_removeAll (rewriting : policy.validators.IsRewriting)
    (held : shared.entries <+: episode.catalog.entries) {names : List String}
    (free : ∀ name ∈ names, touched name) :
    Stays shared touched (removeAll policy names) episode := by
  induction names generalizing episode with
  | nil => exact stays_pure held []
  | cons name rest ih =>
    obtain ⟨own, others⟩ := List.forall_mem_cons.mp free
    rw [removeAll]
    split
    · exact ih held others
    · refine (Policy.stays_isReadOnly rewriting held name).bind fun kept asked looked => ?_
      split
      · exact ih looked.catalog others
      · refine (stays_removeAttribute looked.catalog own).bind fun _ removed confined => ?_
        exact (ih confined.catalog others).bind fun _ _ last => stays_pure last.catalog _

theorem mem_of_mem_omitted {name : String} (listed : name ∈ omitted episode) :
    name ∉ episode.values.names := by
  unfold omitted at listed
  split at listed
  · cases listed
  · rw [← Keyed.holds_iff_mem_names]
    simpa using (List.mem_filter.mp listed).2

/-- Writing what differs and removing what was left out touches what metadata lets be written and
what the set does not hold. -/
theorem stays_applyDifference (rewriting : policy.validators.IsRewriting)
    (held : shared.entries <+: episode.catalog.entries) (remove : Bool) (order : Order)
    (written : ∀ entry ∈ policy.writable episode, touched entry.1)
    (leftOut : ∀ name, name ∉ episode.values.names → touched name) :
    Stays shared touched (applyDifference policy remove order.visit) episode := by
  rw [applyDifference]
  apply stays_get_bind
  refine (stays_writeAll held remove written).bind fun names between confined => ?_
  apply stays_get_bind
  have noted : ∀ names removed after, shared.entries <+: after.catalog.entries →
      Stays shared touched (do
        let episode ← get
        set (episode.log (.profileUpdated episode.organizationName policy.context names
          (sortedTexts removed)))) after :=
    fun _ _ _ held => stays_get_bind (.of_organization held (fun _ => id) rfl)
  cases remove with
  | false => exact noted names [] between confined.catalog
  | true =>
    simp only [if_true]
    refine (stays_removeAll rewriting confined.catalog fun name visited => ?_).bind
      fun removed after last => noted names removed after last.catalog
    have absent := mem_of_mem_omitted ((order.perm _).mem_iff.mp visited)
    exact leftOut name fun held => absent (confined.names name held)

theorem stays_reportingFailures {action : Action Unit}
    (stays : Stays shared touched action episode) :
    Stays shared touched (reportingFailures action) episode := by
  unfold Stays Leads at stays ⊢
  unfold reportingFailures
  cases result : action episode with
  | ok value after =>
    rw [result] at stays
    exact stays
  | error fault after =>
    have confined : episode.Confined shared touched after := by
      rw [result] at stays
      exact stays
    simp only
    cases fault.causeMessage? with
    | none => exact confined
    | some message => exact confined.trans (.of_organization confined.catalog (fun _ => id) rfl)

/-- The writes of an update touch what metadata lets be written and what the set does not hold. -/
theorem stays_writing (rewriting : policy.validators.IsRewriting)
    (held : shared.entries <+: episode.catalog.entries) (remove : Bool) (order : Order)
    (written : ∀ entry ∈ policy.writable episode, touched entry.1)
    (leftOut : ∀ name, name ∉ episode.values.names → touched name) :
    Stays shared touched (do
      let episode ← get
      if episode.organization.isNone then throw (.usage .unboundProfile)
      else reportingFailures (applyDifference policy remove order.visit)) episode := by
  apply stays_get_bind
  split
  · exact Episode.Confined.refl held
  · exact stays_reportingFailures
      (stays_applyDifference rewriting held remove order written leftOut)

theorem run_policy {α : Type} (profile : Profile) (action : Policy → Action α) :
    (profile.run action).2.policy = profile.policy := by
  unfold run
  split <;> rfl

/-- The profile as an update writes it: validated, unless the flag is raised. -/
def examined (profile : Profile) (validation : Order) : Profile :=
  if profile.episode.validated then profile else profile.perform (.validate validation)

/-- A profile whose set holds all declared names but the read-only marker. -/
structure HoldsDeclared (profile : Profile) (shared : Catalog) : Prop where
  rewriting : profile.policy.validators.IsRewriting
  catalog : shared.entries <+: profile.episode.catalog.entries
  declared : ∀ name ∈ profile.policy.declared.names, name ≠ readOnlyMarker →
    name ∈ profile.episode.values.names

namespace HoldsDeclared

variable {profile : Profile}

theorem of_confined {after : Profile} (holds : profile.HoldsDeclared shared)
    (touched : String → Prop) (policy : after.policy = profile.policy)
    (confined : profile.episode.Confined shared touched after.episode) :
    after.HoldsDeclared shared := by
  refine ⟨policy ▸ holds.rewriting, confined.catalog, fun name declared notMarker => ?_⟩
  rw [policy] at declared
  exact confined.names name (holds.declared name declared notMarker)

/-- What metadata denies is in the set, unless it is the read-only marker. -/
theorem mem_of_denied (holds : profile.HoldsDeclared shared) {name : String}
    (notMarker : name ≠ readOnlyMarker)
    (denied : profile.policy.deniedByMetadata name profile.episode = true) :
    name ∈ profile.episode.values.names := by
  apply holds.declared name ?_ notMarker
  unfold Policy.deniedByMetadata at denied
  split at denied
  · cases denied
  · rename_i handle declared
    rw [← Keyed.get?_isSome_iff, declared]
    rfl

/-- However an update ends, it does not touch what metadata denies once the set was examined. -/
theorem update (holds : profile.HoldsDeclared shared) (remove : Bool) (validation removal : Order) :
    profile.episode.Confined shared
      (fun name => name ≠ readOnlyMarker →
        profile.policy.deniedByMetadata name (profile.examined validation).episode = false)
      (profile.perform (.update remove validation removal)).episode := by
  apply Stays.run
  have writes : ∀ between : Episode,
      ({ profile with episode := between } : Profile).HoldsDeclared shared →
      Stays shared
        (fun name => name ≠ readOnlyMarker →
          profile.policy.deniedByMetadata name between = false)
        (do
          let episode ← get
          if episode.organization.isNone then throw (.usage .unboundProfile)
          else reportingFailures (applyDifference profile.policy remove removal.visit)) between := by
    intro between holds
    apply stays_writing holds.rewriting holds.catalog
    · intro entry mem _
      simpa using (List.mem_filter.mp mem).2
    · intro name absent notMarker
      rw [← Bool.not_eq_true]
      exact fun denied => absent (holds.mem_of_denied notMarker denied)
  rw [Profile.update]
  apply stays_get_bind
  unfold examined
  split
  · exact writes profile.episode holds
  · rw [Stays, leads_bind, perform, run]
    cases validated : validate profile.policy validation.visit profile.episode with
    | ok _ between =>
      have confined : ∀ touched, profile.episode.Confined shared touched between := fun _ =>
        (stays_validate holds.rewriting holds.catalog validation.visit).of_ok validated
      have holdsBetween : ({ profile with episode := between } : Profile).HoldsDeclared shared :=
        holds.of_confined (fun _ => False) rfl (confined _)
      rw [leads_of_ok validated]
      exact (writes between holdsBetween).mono (fun _ _ => (confined _).trans)
        fun _ _ => (confined _).trans
    | error fault between =>
      rw [leads_of_error validated]
      exact (leads_of_error validated).mp
        (stays_validate holds.rewriting holds.catalog validation.visit)

/-- Every move keeps the declared names in the set. -/
theorem perform (holds : profile.HoldsDeclared shared) (move : Move) :
    (profile.perform move).HoldsDeclared shared ∧
      (profile.perform move).policy = profile.policy := by
  cases move with
  | validate order =>
    have same := profile.run_policy fun policy => Profile.validate policy order.visit
    exact ⟨holds.of_confined (fun _ => False) same
      (stays_validate holds.rewriting holds.catalog order.visit).run, same⟩
  | setValues name value =>
    rw [Profile.perform, withValues]
    cases set : profile.episode.setValues name value with
    | error cause => exact ⟨holds, rfl⟩
    | ok after =>
      obtain ⟨values, rfl⟩ := setValues_eq_ok set
      refine ⟨holds.of_confined (fun _ => False) rfl ?_, rfl⟩
      exact .of_organization holds.catalog
        (fun name held => Keyed.mem_names_put.mpr (Or.inr held)) rfl
  | update remove validation removal =>
    have same := profile.run_policy fun policy =>
      Profile.update policy remove validation.visit removal.visit
    exact ⟨holds.of_confined _ same (holds.update remove validation removal), same⟩

theorem performAll (holds : profile.HoldsDeclared shared) (moves : List Move) :
    (profile.performAll moves).HoldsDeclared shared ∧
      (profile.performAll moves).policy = profile.policy := by
  induction moves generalizing profile with
  | nil => exact ⟨holds, rfl⟩
  | cons move rest ih =>
    obtain ⟨first, same⟩ := holds.perform move
    obtain ⟨all, same'⟩ := ih first
    exact ⟨all, same'.trans same⟩

theorem examined (holds : profile.HoldsDeclared shared) (validation : Order) :
    (profile.examined validation).HoldsDeclared shared ∧
      (profile.examined validation).policy = profile.policy := by
  unfold Profile.examined
  split
  · exact ⟨holds, rfl⟩
  · exact holds.perform (.validate validation)

end HoldsDeclared

end Profile

/-- Declared names that the submission left out are filled in. -/
theorem Policy.mem_names_begin {policy : Policy} {submitted : Keyed Value}
    {organization : Option Organization} {catalog : Catalog} {episode : Episode}
    (begun : policy.begin submitted organization catalog = .ok episode) {name : String}
    (declared : name ∈ policy.declared.names) (notMarker : name ≠ readOnlyMarker) :
    name ∈ episode.values.names := by
  obtain ⟨values, -, restored⟩ := begin_eq_ok begun
  have held : name ∈ (policy.filled organization catalog values).values.names :=
    mem_names_fillDeclared.mpr (Or.inr ⟨declared, notMarker⟩)
  rcases restoreName_eq_ok restored with ⟨rfl, -⟩ | rfl
  · exact held
  · exact Keyed.mem_names_put.mpr (Or.inr held)

/-- The set of a fresh profile holds all declared names but the read-only marker. -/
theorem Provider.holdsDeclared_create {provider : Provider}
    (rewriting : provider.validators.IsRewriting) {context : Context} {submitted : Keyed Value}
    {organization : Option Organization} {profile : Profile}
    (created : provider.create context submitted organization = .ok profile) :
    profile.HoldsDeclared provider.registry.catalog ∧
      provider.policy context = .ok profile.policy ∧
      profile.episode.organization = organization := by
  obtain ⟨policy, found, created⟩ := bind_eq_ok.mp created
  obtain ⟨episode, begun, created⟩ := bind_eq_ok.mp created
  cases created
  have begins := orMishap_eq_ok begun
  obtain ⟨bound, -, shared⟩ := Policy.begin_starts begins
  obtain ⟨validators, -⟩ := Provider.isWithin_policy found
  refine ⟨⟨validators ▸ rewriting, shared ▸ List.prefix_rfl, ?_⟩, found, bound⟩
  exact fun name declared notMarker => Policy.mem_names_begin begins declared notMarker

/-- What the last declaration of a name denies once the set was examined is not touched by an
update, and neither is the name of the organization. -/
theorem Provider.update_spares_denied {provider : Provider}
    (rewriting : provider.validators.IsRewriting) {context : Context} {metadata : ProfileMetadata}
    (known : provider.registry.get? context = some metadata) {submitted : Keyed Value}
    {organization : Option Organization} {profile : Profile}
    (created : provider.create context submitted organization = .ok profile) (moves : List Move)
    (remove : Bool) (validation removal : Order) {before : Organization}
    (bound : (profile.performAll moves).episode.organization = some before) :
    ∃ left, ((profile.performAll moves).perform
        (.update remove validation removal)).episode.organization = some left ∧
      left.name = before.name ∧
      ∀ name handle, name ≠ readOnlyMarker →
        (metadata.named name provider.registry.catalog).getLast? = some handle →
        (provider.registry.catalog.entry handle).canEdit
          (((profile.performAll moves).examined validation).situation name) = false →
        left.valuesOf name = before.valuesOf name := by
  obtain ⟨fresh, found, -⟩ := holdsDeclared_create rewriting created
  obtain ⟨moved, same⟩ := fresh.performAll moves
  obtain ⟨examined, same'⟩ := moved.examined validation
  obtain ⟨left, boundLeft, named, spared⟩ :=
    (moved.update remove validation removal).organization before bound
  refine ⟨left, boundLeft, named, fun name handle notMarker last denies => ?_⟩
  refine spared name fun touched => ?_
  have declared : profile.policy.declared.get? name = some handle := by
    rw [Provider.policy, known] at found
    rw [← Except.ok.inj found]
    exact (metadata.get?_declared _ name).trans last
  have entry := Catalog.entry_of_prefix examined.catalog (Catalog.lt_of_denies denies)
  have denied : (profile.performAll moves).policy.deniedByMetadata name
      ((profile.performAll moves).examined validation).episode = true := by
    rw [Policy.deniedByMetadata, same, declared]
    simp only [entry]
    rw [Profile.situation, same', same] at denies
    simp only [denies, Bool.not_false]
  rw [touched notMarker] at denied
  cases denied

/-- A name is declared twice, and the last declaration lets it be written only as long as it has no
values. A validator gives it one while the set is validated, so what is stored stays. -/
theorem Provider.update_spares_denied_of_rewritten :
    let provider : Provider :=
      { registry :=
          { contexts := [(.updateMetadata, { context := .updateMetadata, attributes := [0, 1, 2] })]
            catalog := { entries := [
              { name := "tier" },
              { name := "tier", writeAllowed := [fun situation => situation.value.isEmpty] },
              { name := readOnlyMarker, rules := [{ identity := 0, validator := "upgrade" }] }] } }
        validators := [("upgrade", fun invocation =>
          .ok { values := invocation.situation.values.put "tier" [.text "gold"] })] }
    let submitted : Keyed Value := [("tier", .null), ("plain", .text "1")]
    let organization : Organization :=
      { name := .text "sample", storage := .entries [("tier", [.text "basic"])] }
    provider.validators.IsRewriting ∧
    ∃ profile left, provider.create .updateMetadata submitted (some organization) = .ok profile ∧
      (profile.perform (.update true .listed .listed)).episode.organization = some left ∧
      left.name = .text "sample" ∧ left.valuesOf "tier" = [.text "basic"] := by
  intro provider submitted organization
  have rewriting : provider.validators.IsRewriting := by
    intro id validator found invocation reply answered
    rw [Keyed.get?_cons] at found
    split at found
    · cases found
      cases answered
      exact ⟨[("tier", [.text "gold"])], rfl⟩
    · cases found
  have creates : (provider.create .updateMetadata submitted (some organization)).toBool = true := by
    decide +kernel
  have created := eq_ok_of_toBool creates
  obtain ⟨-, -, bound⟩ := Provider.holdsDeclared_create rewriting created
  obtain ⟨left, boundLeft, named, spared⟩ :=
    Provider.update_spares_denied rewriting rfl created [] true .listed .listed bound
  rw [Profile.performAll, List.foldl_nil] at boundLeft
  refine ⟨rewriting, _, left, created, boundLeft, named, ?_⟩
  exact spared "tier" 1 (by decide) (by decide +kernel) (by decide +kernel)

end ProfilePolicy
