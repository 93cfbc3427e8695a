import ProfilePolicy.Proofs.Storage
import ProfilePolicy.Proofs.Validation

/-!
# What an update leaves stored

The writes of an update treat every name by itself: what is stored under a name afterwards is a
function of its situation before. A name of the set is replaced by the non-blank values submitted,
unless these are stored already; a name that was left out is emptied when that is asked for and no
read-only rule speaks against it; the name of the organization is never stored as an attribute. When
the writes break off, every name has been treated so or not at all.
-/

namespace ProfilePolicy

open Value

/-- The non-blank values to write for a name, if any, given those submitted and those stored. -/
def replacement (remove : Bool) (submitted stored : List Value) :
    Except Mishap (Option (List String)) := do
  let updated ← nonBlank submitted
  let same ← sameListItems (stored.filter fun value => !value.isNull) (updated.map text)
  pure (if same || (updated.isEmpty && !remove) then none else some updated)

/-- What is stored once the values of a name that differ are written. -/
def overwritten (remove : Bool) (submitted stored : List Value) : Except Mishap StoredValues :=
  (replacement remove submitted stored).map fun wanted =>
    match wanted with
    | some updated => updated.map text
    | none => stored

namespace Situation

/-- What is stored once a name that was left out is removed, unless it is read-only. -/
def withdrawn (config : Config) (situation : Situation) : Except Mishap StoredValues :=
  (Policy.rejection config situation).map fun kept => if kept then situation.stored else []

/-- What an update leaves stored under a name. -/
def updated (config : Config) (remove : Bool) (situation : Situation) :
    Except Mishap StoredValues :=
  if situation.name = nameKey then .ok situation.stored
  else
    match situation.values.get? situation.name with
    | some submitted => overwritten remove submitted situation.stored
    | none => if remove then situation.withdrawn config else .ok situation.stored

theorem updated_of_submitted (config : Config) (remove : Bool) {situation : Situation}
    {submitted : List Value} (notName : situation.name ≠ nameKey)
    (found : situation.values.get? situation.name = some submitted) :
    situation.updated config remove = overwritten remove submitted situation.stored := by
  rw [updated, if_neg notName, found]

theorem updated_of_missing (config : Config) (remove : Bool) {situation : Situation}
    (notName : situation.name ≠ nameKey)
    (missing : situation.values.get? situation.name = none) :
    situation.updated config remove =
      if remove then situation.withdrawn config else .ok situation.stored := by
  rw [updated, if_neg notName, missing]

/-- Removing what is not stored changes nothing. -/
theorem withdrawn_of_empty (config : Config) {situation : Situation}
    (leftOut : situation.value = []) (empty : situation.stored = []) :
    situation.withdrawn config = .ok [] := by
  have removable : Policy.rejection config situation = .ok false := by
    rw [Policy.rejection_eq_false_iff leftOut, empty]
    intro _
    exact ⟨rfl, fun v mem => absurd mem List.not_mem_nil, rfl⟩
  rw [withdrawn, removable]
  rfl

/-- Removal looks at the values submitted and stored under the name. -/
theorem rejection_congr {config : Config} {situation situation' : Situation}
    (context : situation'.context = situation.context) (name : situation'.name = situation.name)
    (value : situation'.value = situation.value) (stored : situation'.stored = situation.stored) :
    Policy.rejection config situation' = Policy.rejection config situation := by
  rw [Policy.rejection, Policy.rejection, Policy.anyRejects, Policy.anyRejects, context, name,
    value, stored]

theorem withdrawn_congr {config : Config} {situation situation' : Situation}
    (context : situation'.context = situation.context) (name : situation'.name = situation.name)
    (value : situation'.value = situation.value) (stored : situation'.stored = situation.stored) :
    situation'.withdrawn config = situation.withdrawn config := by
  rw [withdrawn, withdrawn, rejection_congr context name value stored, stored]

theorem updated_congr {config : Config} {remove : Bool} {situation situation' : Situation}
    (context : situation'.context = situation.context) (name : situation'.name = situation.name)
    (values : situation'.values = situation.values) (stored : situation'.stored = situation.stored) :
    situation'.updated config remove = situation.updated config remove := by
  have value : situation'.value = situation.value := by
    rw [Situation.value, Situation.value, values, name]
  rw [updated, updated, withdrawn_congr context name value stored, name, values, stored]

/-- What rules look at is the same in another situation, and it is covered there only if it is
covered here. -/
structure Relaxes (config : Config) (situation : Situation) (config' : Config)
    (situation' : Situation) : Prop where
  name : situation'.name = situation.name
  stored : situation'.stored = situation.stored
  values : situation.name ≠ nameKey →
    situation'.values.get? situation.name = situation.values.get? situation.name
  covers : config'.matchCount situation'.context situation.name ≠ 0 →
    config.matchCount situation.context situation.name ≠ 0

namespace Relaxes

variable {config config' : Config} {situation situation' : Situation} {remove : Bool}

/-- What may be removed may be removed where less is covered. -/
theorem rejection (relaxes : Relaxes config situation config' situation')
    (notName : situation.name ≠ nameKey) {kept : Bool}
    (h : Policy.rejection config situation = .ok kept) :
    Policy.rejection config' situation' = .ok false ∨
      Policy.rejection config' situation' = .ok kept := by
  by_cases free : config'.matchCount situation'.context situation.name = 0
  · left
    rw [Policy.rejection, Policy.anyRejects, relaxes.name, if_pos free]
  · right
    have value : situation'.value = situation.value := by
      rw [Situation.value, Situation.value, relaxes.name, relaxes.values notName]
    rw [Policy.rejection, Policy.anyRejects, if_neg (relaxes.covers free)] at h
    rw [Policy.rejection, Policy.anyRejects, relaxes.name, if_neg free, relaxes.stored, value]
    exact h

/-- What an update changes it changes to the same where less is covered. -/
theorem updated (relaxes : Relaxes config situation config' situation') {left : StoredValues}
    (h : situation.updated config remove = .ok left) :
    ∃ left', situation'.updated config' remove = .ok left' ∧
      (left ≠ situation.stored → left' = left) := by
  by_cases isName : situation.name = nameKey
  · rw [Situation.updated, if_pos isName] at h
    rw [Situation.updated, relaxes.name, if_pos isName, relaxes.stored]
    exact ⟨left, h, fun _ => rfl⟩
  · have isName' : situation'.name ≠ nameKey := relaxes.name ▸ isName
    have values : situation'.values.get? situation'.name = situation.values.get? situation.name := by
      rw [relaxes.name, relaxes.values isName]
    cases found : situation.values.get? situation.name with
    | some submitted =>
      rw [updated_of_submitted config remove isName found] at h
      rw [updated_of_submitted config' remove isName' (values.trans found), relaxes.stored]
      exact ⟨left, h, fun _ => rfl⟩
    | none =>
      rw [updated_of_missing config remove isName found] at h
      rw [updated_of_missing config' remove isName' (values.trans found), relaxes.stored]
      cases remove with
      | false => exact ⟨left, h, fun _ => rfl⟩
      | true =>
        obtain ⟨kept, known, rfl⟩ := map_eq_ok.mp h
        rw [if_pos rfl, withdrawn, relaxes.stored]
        rcases relaxes.rejection isName known with free | bound
        · refine ⟨[], by rw [free]; rfl, fun changed => ?_⟩
          cases kept with
          | true => exact absurd rfl changed
          | false => rfl
        · exact ⟨_, by rw [bound]; rfl, fun _ => rfl⟩

end Relaxes

end Situation

/-! ## Episodes that were written -/

/-- An episode whose organization was written: nothing else in it changed but the log. -/
structure Episode.Writes (before after : Episode) (organization : Organization) : Prop where
  organization : after.organization = some organization
  values : after.values = before.values
  catalog : before.catalog.entries <+: after.catalog.entries

theorem Episode.Writes.trans {first second third : Episode} {between left : Organization}
    (earlier : first.Writes second between) (later : second.Writes third left) :
    first.Writes third left :=
  ⟨later.organization, later.values.trans earlier.values, earlier.catalog.trans later.catalog⟩

theorem Episode.Undisturbed.writes {before after : Episode} {organization : Organization}
    (same : before.Undisturbed after) (bound : before.organization = some organization) :
    before.Writes after organization :=
  ⟨same.organization.trans bound, same.values, same.catalog⟩

theorem Episode.writes_of_organization (episode : Episode) (organization : Organization) :
    episode.Writes { episode with organization := some organization } organization :=
  ⟨rfl, rfl, List.prefix_rfl⟩

abbrev Expectation := String → StoredValues → Prop

/-- Under a name is what is expected there or what the organization has stored. -/
def Organization.OrKept (organization : Organization) (expected : Expectation) : Expectation :=
  fun name left => left = organization.valuesOf name ∨ expected name left

/-- Writes left an organization of the same name with what is expected under every name. -/
def Episode.Leaves (episode : Episode) (organization : Organization) (expected : Expectation)
    (after : Episode) : Prop :=
  ∃ left, episode.Writes after left ∧ left.Follows organization ∧
    ∀ name, expected name (left.valuesOf name)

section Leaves

variable {episode between after : Episode} {organization now : Organization}
variable {expected later : Expectation}

theorem Episode.Writes.leaves (writes : episode.Writes after organization)
    (each : ∀ name, expected name (organization.valuesOf name)) :
    episode.Leaves organization expected after :=
  ⟨organization, writes, .refl organization, each⟩

/-- Writes after writes. -/
theorem Episode.Writes.then_leaves (sofar : episode.Writes between now)
    (follows : now.Follows organization)
    (step : ∀ name left, later name left → expected name left)
    (h : between.Leaves now later after) :
    episode.Leaves organization expected after := by
  obtain ⟨left, writes, follows', each⟩ := h
  exact ⟨left, sofar.trans writes, follows'.trans follows, fun name => step name _ (each name)⟩

theorem Episode.Leaves.orKept (h : episode.Leaves organization expected after) :
    episode.Leaves organization (organization.OrKept expected) after := by
  obtain ⟨left, writes, follows, each⟩ := h
  exact ⟨left, writes, follows, fun name => Or.inr (each name)⟩

/-- Breaking off later keeps what was kept or treated before. -/
theorem Organization.OrKept.step (here : ∀ name, organization.OrKept expected name (now.valuesOf name))
    (step : ∀ name left, later name left → expected name left) (name : String)
    (left : StoredValues) (h : now.OrKept later name left) :
    organization.OrKept expected name left := by
  rcases h with rfl | h
  · exact here name
  · exact Or.inr (step name left h)

/-- An action that goes on with an episode leaves what is expected of the whole episode under every
name. When it breaks off it leaves that under some names and what was stored under the others. -/
def Action.Achieves (action : Action α) (reached episode : Episode) (organization : Organization)
    (expected : Expectation) : Prop :=
  Leads action reached (fun _ => episode.Leaves organization expected)
    fun _ => episode.Leaves organization (organization.OrKept expected)

theorem Action.Achieves.map {action : Action α}
    (h : Achieves action between episode organization expected) (next : α → β) :
    Achieves (do let value ← action; pure (next value)) between episode organization expected :=
  leads_bind.mpr h

/-- What an action achieves together with the writes before it. -/
theorem Action.Achieves.onward {action : Action α} (h : Achieves action between between now later)
    (sofar : episode.Writes between now) (follows : now.Follows organization)
    (here : ∀ name, organization.OrKept expected name (now.valuesOf name))
    (step : ∀ name left, later name left → expected name left) :
    Achieves action between episode organization expected := by
  refine Leads.mono h ?_ ?_
  · exact fun _ _ => sofar.then_leaves follows step
  · exact fun _ _ => sofar.then_leaves follows (Organization.OrKept.step here step)

end Leaves

namespace Profile

open ProfilePolicy.Action

variable {policy : Policy} {config : Config} {episode between : Episode}
variable {organization now : Organization} {remove : Bool}

/-! ## Writing -/

theorem difference_eq (bound : episode.organization = some organization) (name : String)
    (submitted : List Value) :
    difference remove name submitted episode =
      replacement remove submitted (organization.valuesOf name) := by
  rw [difference, storedUnder, bound]
  rfl

/-- What is stored under a name once a list of entries was written. -/
def settled (remove : Bool) (entries : AttributeValues) (name : String) (stored : StoredValues) :
    Except Mishap StoredValues :=
  if name = nameKey then .ok stored
  else
    match entries.get? name with
    | some submitted => overwritten remove submitted stored
    | none => .ok stored

def Settles (remove : Bool) (entries : AttributeValues) (organization : Organization) :
    Expectation :=
  fun name left => settled remove entries name (organization.valuesOf name) = .ok left

theorem settled_nameKey (entries : AttributeValues) (stored : StoredValues) :
    settled remove entries nameKey stored = .ok stored :=
  if_pos rfl

theorem settled_of_not_mem {entries : AttributeValues} {name : String} (stored : StoredValues)
    (absent : name ∉ entries.names) : settled remove entries name stored = .ok stored := by
  rw [settled, Keyed.get?_eq_none_iff.mpr absent, ite_self]

theorem settled_cons_of_ne {rest : AttributeValues} {name written : String}
    {submitted : List Value} (stored : StoredValues) (other : name ≠ written) :
    settled remove ((written, submitted) :: rest) name stored =
      settled remove rest name stored := by
  rw [settled, settled, Keyed.get?_cons, if_neg other]

theorem settled_cons_self {rest : AttributeValues} {name : String} {submitted : List Value}
    (stored : StoredValues) (notName : name ≠ nameKey) :
    settled remove ((name, submitted) :: rest) name stored =
      overwritten remove submitted stored := by
  rw [settled, if_neg notName, Keyed.get?_cons, if_pos rfl]

/-- An entry for the name is passed over. -/
theorem settles_cons_nameKey (rest : AttributeValues) (submitted : List Value) :
    Settles remove ((nameKey, submitted) :: rest) organization =
      Settles remove rest organization := by
  funext name left
  unfold Settles
  by_cases same : name = nameKey
  · rw [same, settled_nameKey, settled_nameKey]
  · rw [settled_cons_of_ne _ same]

section Step

variable {rest : AttributeValues} {written : String} {submitted : List Value}

/-- Writing an entry and then the entries after it. -/
theorem settles_step (fresh : written ∉ rest.names) (notName : written ≠ nameKey)
    (own : overwritten remove submitted (organization.valuesOf written) =
      .ok (now.valuesOf written))
    (others : ∀ name, name ≠ written → now.valuesOf name = organization.valuesOf name)
    (name : String) (left : StoredValues) (later : Settles remove rest now name left) :
    Settles remove ((written, submitted) :: rest) organization name left := by
  unfold Settles at later ⊢
  by_cases isWritten : name = written
  · subst isWritten
    rw [settled_of_not_mem _ fresh] at later
    rw [settled_cons_self _ notName, own]
    exact later
  · rw [settled_cons_of_ne _ isWritten, ← others name isWritten]
    exact later

/-- Writing an entry and breaking off. -/
theorem settles_here (notName : written ≠ nameKey)
    (own : overwritten remove submitted (organization.valuesOf written) =
      .ok (now.valuesOf written))
    (others : ∀ name, name ≠ written → now.valuesOf name = organization.valuesOf name)
    (name : String) :
    organization.OrKept (Settles remove ((written, submitted) :: rest) organization) name
      (now.valuesOf name) := by
  by_cases isWritten : name = written
  · right
    subst isWritten
    exact (settled_cons_self _ notName).trans own
  · exact Or.inl (others name isWritten)

end Step

theorem leads_setAttribute (bound : episode.organization = some organization) (name : String)
    (texts : List String) :
    Leads (setAttribute name texts) episode
      (fun _ after => ∃ left, episode.Writes after left ∧ left.Follows organization ∧
        ∀ other, left.valuesOf other =
          if other = name then texts.map text else organization.valuesOf other)
      (fun _ after => after = episode) := by
  unfold Leads setAttribute
  simp only [bound]
  cases attempt : organization.setAttribute name (texts.map text) with
  | error fault => exact rfl
  | ok left =>
    obtain ⟨follows, reads⟩ := Organization.setAttribute_ok attempt
    exact ⟨left, episode.writes_of_organization left, follows, reads⟩

/-- Every entry is written once; when writing breaks off, some entries are written. -/
theorem achieves_writeAll {entries : AttributeValues} (distinct : Keyed.Distinct entries)
    (bound : episode.organization = some organization) :
    Achieves (writeAll remove entries) episode episode organization
      (Settles remove entries organization) := by
  have unmoved := (Episode.Undisturbed.refl episode).writes bound
  induction entries generalizing episode organization with
  | nil => exact unmoved.leaves fun name => settled_of_not_mem _ List.not_mem_nil
  | cons entry rest ih =>
    obtain ⟨written, submitted⟩ := entry
    obtain ⟨fresh, distinctRest⟩ := Keyed.distinct_cons.mp distinct
    rw [writeAll]
    by_cases isName : written = nameKey
    · subst isName
      simp only [BEq.rfl, if_true, settles_cons_nameKey]
      exact ih distinctRest bound unmoved
    · have attempted : ¬ (written == nameKey) = true := by simpa using isName
      -- whatever was done with the entry, the rest is written from there
      have onward : ∀ between now, episode.Writes between now → now.Follows organization →
          overwritten remove submitted (organization.valuesOf written) =
            .ok (now.valuesOf written) →
          (∀ name, name ≠ written → now.valuesOf name = organization.valuesOf name) →
          Achieves (writeAll remove rest) between episode organization
            (Settles remove ((written, submitted) :: rest) organization) := by
        intro between now sofar follows own others
        have looking := (Episode.Undisturbed.refl between).writes sofar.organization
        have onRest := ih distinctRest sofar.organization looking
        apply onRest.onward sofar follows
        · exact settles_here isName own others
        · exact settles_step fresh isName own others
      rw [if_neg attempted, Achieves, leads_bind, leads_inspect, difference_eq bound]
      constructor
      · intro wanted known
        cases wanted with
        | none =>
          apply onward episode organization unmoved (.refl organization) ?_ fun _ _ => rfl
          rw [overwritten, known]
          rfl
        | some updated =>
          rw [leads_bind]
          refine (leads_setAttribute bound written updated).mono ?_ ?_
          · rintro _ between ⟨now, writes, follows, reads⟩
            apply Achieves.map (onward between now writes follows ?_ ?_)
            · rw [overwritten, known, reads, if_pos rfl]
              rfl
            · intro name other
              rw [reads, if_neg other]
          · rintro _ _ rfl
            exact unmoved.leaves fun name => Or.inl rfl
      · intro cause _
        exact unmoved.leaves fun name => Or.inl rfl

/-! ## Removing -/

def dropped (config : Config) (names : List String) (situation : Situation) :
    Except Mishap StoredValues :=
  if situation.name ∈ names ∧ situation.name ≠ nameKey then situation.withdrawn config
  else .ok situation.stored

def Drops (config : Config) (policy : Policy) (names : List String) (episode : Episode) :
    Expectation :=
  fun name left => dropped config names (policy.situation name episode) = .ok left

theorem stored_situation (bound : episode.organization = some organization) (policy : Policy)
    (name : String) : (policy.situation name episode).stored = organization.valuesOf name := by
  unfold Situation.stored Policy.situation
  rw [bound]

/-- Writes under other names do not matter to removing a name. -/
theorem dropped_writes (bound : episode.organization = some organization)
    (writes : episode.Writes between now) {names : List String} {name : String}
    (same : now.valuesOf name = organization.valuesOf name) :
    dropped config names (policy.situation name between) =
      dropped config names (policy.situation name episode) := by
  have stored : (policy.situation name between).stored =
      (policy.situation name episode).stored := by
    rw [stored_situation bound, stored_situation writes.organization]
    exact same
  have value : (policy.situation name between).value = (policy.situation name episode).value := by
    simp only [Situation.value, Policy.situation, writes.values]
  have withdrawal : (policy.situation name between).withdrawn config =
      (policy.situation name episode).withdrawn config :=
    Situation.withdrawn_congr rfl rfl value stored
  rw [dropped, dropped, stored, withdrawal]
  rfl

theorem dropped_of_not_mem {names : List String} {situation : Situation}
    (unlisted : situation.name ∉ names) : dropped config names situation = .ok situation.stored :=
  if_neg fun listed => unlisted listed.1

theorem dropped_of_withdrawn {names : List String} {situation : Situation}
    (h : situation.withdrawn config = .ok situation.stored) :
    dropped config names situation = .ok situation.stored := by
  rw [dropped, h, ite_self]

theorem dropped_of_stored_nil {names : List String} {situation : Situation}
    {left : StoredValues} (empty : situation.stored = [])
    (h : dropped config names situation = .ok left) : left = [] := by
  rw [dropped] at h
  split at h
  · obtain ⟨kept, -, found⟩ := map_eq_ok.mp h
    rw [← found, empty, ite_self]
  · exact (Except.ok.inj h).symm.trans empty

theorem drops_cons_of_ne {rest : List String} {asked name : String} {left : StoredValues}
    (passedOver : name ≠ asked ∨ name = nameKey) :
    Drops config policy (asked :: rest) episode name left ↔
      Drops config policy rest episode name left := by
  have listed : (name ∈ asked :: rest ∧ name ≠ nameKey) ↔ (name ∈ rest ∧ name ≠ nameKey) := by
    rw [List.mem_cons]
    rcases passedOver with other | isName
    · simp [other]
    · simp [isName]
  have same : dropped config (asked :: rest) (policy.situation name episode) =
      dropped config rest (policy.situation name episode) := by
    unfold dropped
    exact ite_congr (propext listed) (fun _ => rfl) fun _ => rfl
  unfold Drops
  rw [same]

theorem drops_cons_nameKey (rest : List String) :
    Drops config policy (nameKey :: rest) episode = Drops config policy rest episode := by
  funext name left
  by_cases isName : name = nameKey
  · exact propext (drops_cons_of_ne (Or.inr isName))
  · exact propext (drops_cons_of_ne (Or.inl isName))

section Step

variable {rest : List String} {asked : String}

/-- Asking about a name and then about the names after it. -/
theorem drops_step (bound : episode.organization = some organization)
    (writes : episode.Writes between now) (notName : asked ≠ nameKey)
    (own : (policy.situation asked episode).withdrawn config = .ok (now.valuesOf asked))
    (again : ∀ left, Drops config policy rest between asked left → left = now.valuesOf asked)
    (others : ∀ name, name ≠ asked → now.valuesOf name = organization.valuesOf name)
    (name : String) (left : StoredValues) (later : Drops config policy rest between name left) :
    Drops config policy (asked :: rest) episode name left := by
  by_cases isAsked : name = asked
  · subst isAsked
    rw [again left later]
    exact (if_pos ⟨List.mem_cons_self, notName⟩ : dropped config (name :: rest) _ = _).trans own
  · rw [drops_cons_of_ne (Or.inl isAsked)]
    exact (dropped_writes bound writes (others name isAsked)).symm.trans later

/-- Asking about a name and breaking off. -/
theorem drops_here (notName : asked ≠ nameKey)
    (own : (policy.situation asked episode).withdrawn config = .ok (now.valuesOf asked))
    (others : ∀ name, name ≠ asked → now.valuesOf name = organization.valuesOf name)
    (name : String) :
    organization.OrKept (Drops config policy (asked :: rest) episode) name
      (now.valuesOf name) := by
  by_cases isAsked : name = asked
  · right
    subst isAsked
    exact (if_pos ⟨List.mem_cons_self, notName⟩ : dropped config (name :: rest) _ = _).trans own
  · exact Or.inl (others name isAsked)

end Step

theorem leads_removeAttribute (bound : episode.organization = some organization) (name : String) :
    Leads (removeAttribute name) episode
      (fun _ after => ∃ left, episode.Writes after left ∧ left.Follows organization ∧
        ∀ other, left.valuesOf other = if other = name then [] else organization.valuesOf other)
      (fun _ after => after = episode) := by
  unfold Leads removeAttribute
  simp only [bound]
  cases attempt : organization.removeAttribute name with
  | error fault => exact rfl
  | ok left =>
    obtain ⟨follows, reads⟩ := Organization.removeAttribute_ok attempt
    exact ⟨left, episode.writes_of_organization left, follows, reads⟩

/-- Every name is asked about and removed or kept; when removing breaks off, some are removed. -/
theorem achieves_removeAll (builtin : policy.IsBuiltin) (holds : episode.catalog.Holds config)
    (names : List String) (bound : episode.organization = some organization) :
    Achieves (removeAll policy names) episode episode organization
      (Drops config policy names episode) := by
  have unmoved := (Episode.Undisturbed.refl episode).writes bound
  induction names generalizing episode organization with
  | nil =>
    refine unmoved.leaves fun name => ?_
    rw [← stored_situation bound policy name]
    exact dropped_of_not_mem List.not_mem_nil
  | cons asked rest ih =>
    rw [removeAll]
    by_cases isName : asked = nameKey
    · subst isName
      simp only [BEq.rfl, if_true, drops_cons_nameKey]
      exact ih holds bound unmoved
    · have attempted : ¬ (asked == nameKey) = true := by simpa using isName
      have onward : ∀ between now, episode.Writes between now → now.Follows organization →
          (policy.situation asked episode).withdrawn config = .ok (now.valuesOf asked) →
          (∀ left, Drops config policy rest between asked left → left = now.valuesOf asked) →
          (∀ name, name ≠ asked → now.valuesOf name = organization.valuesOf name) →
          Achieves (removeAll policy rest) between episode organization
            (Drops config policy (asked :: rest) episode) := by
        intro between now sofar follows own again others
        have looking := (Episode.Undisturbed.refl between).writes sofar.organization
        have onRest := ih (holds.mono sofar.catalog) sofar.organization looking
        apply onRest.onward sofar follows
        · exact drops_here isName own others
        · exact drops_step bound sofar isName own again others
      rw [if_neg attempted, Achieves, leads_bind]
      refine (Policy.computes_isReadOnly builtin holds isName).leads.mono ?_ ?_
      · rintro kept looked ⟨same, known⟩
        have looking := same.writes bound
        cases kept with
        | true =>
          have own : (policy.situation asked episode).withdrawn config =
              .ok (policy.situation asked episode).stored := by
            rw [Situation.withdrawn, known]
            rfl
          rw [if_pos rfl]
          apply onward looked organization looking (.refl organization) ?_ ?_ fun _ _ => rfl
          · rw [← stored_situation bound policy asked]
            exact own
          · intro left later
            unfold Drops at later
            rw [same.situation_eq policy asked, dropped_of_withdrawn own,
              stored_situation bound] at later
            exact (Except.ok.inj later).symm
        | false =>
          rw [if_neg Bool.false_ne_true, leads_bind]
          refine (leads_removeAttribute looking.organization asked).mono ?_ ?_
          · rintro _ between ⟨now, writes, follows, reads⟩
            have emptied : now.valuesOf asked = [] := by
              rw [reads, if_pos rfl]
            apply Achieves.map (onward between now (looking.trans writes) follows ?_ ?_ ?_)
            · rw [Situation.withdrawn, known, emptied]
              rfl
            · intro left later
              rw [emptied]
              apply dropped_of_stored_nil ?_ later
              rw [stored_situation writes.organization]
              exact emptied
            · intro name other
              rw [reads, if_neg other]
          · rintro _ _ rfl
            exact looking.leaves fun name => Or.inl rfl
      · rintro fault after ⟨same, -⟩
        exact (same.writes bound).leaves fun name => Or.inl rfl

end Profile

end ProfilePolicy
