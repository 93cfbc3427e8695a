import Mathlib.Data.List.Basic
import ProfilePolicy.Proofs.Calls
import ProfilePolicy.Proofs.Update

/-!
# The calls that are due

What the writes of an update ask of an organization is settled before they ask anything. A name of
the set is set when its values differ, a name that was left out is removed when that is asked for
and no read-only rule rejects it, and what is written under one name does not matter to another. So
the calls can be listed from the episode at the beginning, and the writes are these calls in turn:
they end with the first one that is refused, and come to their end when none is.
-/

namespace ProfilePolicy

open Value

/-- What is to be written for a name, if anything. It is nothing where the values cannot be
compared. -/
def wanted (remove : Bool) (submitted stored : List Value) : Option (List String) :=
  match replacement remove submitted stored with
  | .ok wanted => wanted
  | .error _ => none

/-- Whether read-only rules can be asked about the current values and none rejects them. -/
def Situation.isRemovable (config : Config) (situation : Situation) : Bool :=
  match Policy.rejection config situation with
  | .ok rejected => !rejected
  | .error _ => false

theorem Situation.isRemovable_iff {config : Config} {situation : Situation} :
    situation.isRemovable config = true ↔ Policy.rejection config situation = .ok false := by
  rw [isRemovable]
  cases Policy.rejection config situation with
  | error cause => simp
  | ok rejected => cases rejected <;> simp

theorem replacement_of_overwritten {remove : Bool} {submitted stored : List Value}
    {left : StoredValues} (h : overwritten remove submitted stored = .ok left) :
    replacement remove submitted stored = .ok (wanted remove submitted stored) := by
  obtain ⟨texts, known, -⟩ := map_eq_ok.mp h
  rw [wanted, known]

/-- An action is calls in turn: it has made them and gives its value, or it ends with the fault of
the first one that was refused. -/
def Action.CarriesOut {α : Type} (action : Action α) (episode : Episode)
    (organization : Organization) (calls : List Call) (value : α) : Prop :=
  ∃ after, episode.Writes after (Call.performAll organization calls).2 ∧
    action episode =
      match (Call.performAll organization calls).1 with
      | .ok () => .ok value after
      | .error fault => .error fault after

namespace Action

variable {α β : Type} {action : Action α} {next : α → Action β} {episode : Episode}
variable {organization : Organization} {calls later : List Call} {value : α} {value' : β}

theorem Computes.carriesOut (h : Computes action episode (.ok value))
    (bound : episode.organization = some organization) :
    CarriesOut action episode organization [] value := by
  obtain ⟨after, same, result⟩ := h
  exact ⟨after, same.writes bound, result⟩

theorem CarriesOut.bind (first : CarriesOut action episode organization calls value)
    (second : ∀ between now, episode.Writes between now →
      Call.performAll organization calls = (.ok (), now) →
      CarriesOut (next value) between now later value') :
    CarriesOut (action >>= next) episode organization (calls ++ later) value' := by
  obtain ⟨between, writes, result⟩ := first
  unfold CarriesOut
  rw [Call.performAll_append]
  rcases performed : Call.performAll organization calls with ⟨outcome, now⟩
  rw [performed] at writes result
  cases outcome with
  | error fault => exact ⟨between, writes, bind_of_error result⟩
  | ok done =>
    obtain ⟨after, writes', result'⟩ := second between now writes performed
    exact ⟨after, writes.trans writes', (bind_of_ok result).trans result'⟩

theorem carriesOut_get {next : Episode → Action α} :
    CarriesOut (get >>= next) episode organization calls value ↔
      CarriesOut (next episode) episode organization calls value := Iff.rfl

theorem CarriesOut.map (h : CarriesOut action episode organization calls value) (change : α → β) :
    CarriesOut (do let found ← action; pure (change found)) episode organization calls
      (change value) := by
  rw [← List.append_nil calls]
  refine h.bind fun between now writes _ => ?_
  exact (computes_pure (change value) between).carriesOut writes.organization

end Action

namespace Profile

open ProfilePolicy.Action

variable {policy : Policy} {config : Config} {episode : Episode} {organization : Organization}
variable {remove : Bool}

/-! ## Setting -/

/-- The call that writes an entry, if one is made. -/
def setCall? (remove : Bool) (organization : Organization) (entry : String × List Value) :
    Option Call :=
  if entry.1 = nameKey then none
  else (wanted remove entry.2 (organization.valuesOf entry.1)).map (Call.set entry.1)

def setCalls (remove : Bool) (organization : Organization) (entries : AttributeValues) : List Call :=
  entries.filterMap (setCall? remove organization)

theorem setCall?_eq_some {entry : String × List Value} {call : Call}
    (h : setCall? remove organization entry = some call) :
    entry.1 ≠ nameKey ∧ ∃ texts, call = .set entry.1 texts ∧
      wanted remove entry.2 (organization.valuesOf entry.1) = some texts := by
  rw [setCall?] at h
  split at h
  · cases h
  · rename_i notName
    obtain ⟨texts, known, rfl⟩ := Option.map_eq_some_iff.mp h
    exact ⟨notName, texts, rfl, known⟩

theorem setCalls_congr {entries : AttributeValues} {now : Organization}
    (same : ∀ name ∈ entries.names, now.valuesOf name = organization.valuesOf name) :
    setCalls remove now entries = setCalls remove organization entries := by
  apply List.filterMap_congr
  intro entry mem
  rw [setCall?, setCall?, same entry.1 (List.mem_map_of_mem mem)]

theorem carriesOut_setAttribute (bound : episode.organization = some organization) (name : String)
    (texts : List String) :
    CarriesOut (setAttribute name texts) episode organization [.set name texts] () := by
  unfold CarriesOut setAttribute
  simp only [bound, Organization.setAttribute]
  cases answer : organization.settingRefused name with
  | some fault =>
    have refused : (Call.set name texts).refusal organization = some fault := answer
    rw [Call.performAll_cons_of_refused refused]
    exact ⟨episode, ⟨bound, rfl, List.prefix_rfl⟩, rfl⟩
  | none =>
    have granted : (Call.set name texts).refusal organization = none := answer
    rw [Call.performAll_cons_of_granted granted]
    exact ⟨_, episode.writes_of_organization _, rfl⟩

/-- Writing entries makes the calls that were due for them at the beginning. -/
theorem carriesOut_writeAll {entries : AttributeValues} (distinct : Keyed.Distinct entries)
    (bound : episode.organization = some organization)
    (comparable : ∀ entry ∈ entries, entry.1 ≠ nameKey →
      ∃ left, overwritten remove entry.2 (organization.valuesOf entry.1) = .ok left) :
    CarriesOut (writeAll remove entries) episode organization (setCalls remove organization entries)
      (Call.setNames (setCalls remove organization entries)) := by
  induction entries generalizing episode organization with
  | nil => exact (computes_pure [] episode).carriesOut bound
  | cons entry rest ih =>
    obtain ⟨name, submitted⟩ := entry
    obtain ⟨fresh, distinctRest⟩ := Keyed.distinct_cons.mp distinct
    have comparableRest : ∀ entry ∈ rest, entry.1 ≠ nameKey →
        ∃ left, overwritten remove entry.2 (organization.valuesOf entry.1) = .ok left :=
      fun entry mem => comparable entry (List.mem_cons_of_mem _ mem)
    rw [writeAll]
    by_cases isName : name = nameKey
    · have passed : setCalls remove organization ((name, submitted) :: rest) =
          setCalls remove organization rest :=
        List.filterMap_cons_none (if_pos isName)
      rw [if_pos (by simpa using isName), passed]
      exact ih distinctRest bound comparableRest
    · obtain ⟨left, known⟩ := comparable _ List.mem_cons_self isName
      have due : difference remove name submitted episode =
          .ok (wanted remove submitted (organization.valuesOf name)) := by
        rw [difference_eq bound, replacement_of_overwritten known]
      have looked := computes_inspect (difference remove name submitted) episode
      rw [due] at looked
      rw [if_neg (by simpa using isName)]
      cases choice : wanted remove submitted (organization.valuesOf name) with
      | none =>
        have passed : setCalls remove organization ((name, submitted) :: rest) =
            setCalls remove organization rest := by
          apply List.filterMap_cons_none
          rw [setCall?, if_neg isName, choice]
          rfl
        rw [choice] at looked
        rw [passed]
        refine (looked.carriesOut bound).bind fun between now writes performed => ?_
        cases performed
        exact ih distinctRest writes.organization comparableRest
      | some texts =>
        have made : setCalls remove organization ((name, submitted) :: rest) =
            [.set name texts] ++ setCalls remove organization rest := by
          apply List.filterMap_cons_some
          rw [setCall?, if_neg isName, choice]
          rfl
        rw [choice] at looked
        rw [made]
        refine (looked.carriesOut bound).bind fun between now writes performed => ?_
        cases performed
        refine (carriesOut_setAttribute writes.organization name texts).bind
          fun after left writes' performed => ?_
        -- the entries after it have other names, so the same calls are due for them as before
        have others : ∀ other ∈ Keyed.names rest,
            left.valuesOf other = organization.valuesOf other := by
          intro other mem
          have differs : other ≠ name := fun same => fresh (same ▸ mem)
          rw [Call.eq_applyAll_of_performAll performed]
          exact (Call.valuesOf_apply organization (.set name texts) other).trans (if_neg differs)
        rw [← setCalls_congr others]
        apply CarriesOut.map
        apply ih distinctRest writes'.organization
        intro entry mem notName
        rw [others entry.1 (List.mem_map_of_mem mem)]
        exact comparableRest entry mem notName

/-! ## Removing -/

def removals (config : Config) (policy : Policy) (episode : Episode) (names : List String) :
    List String :=
  names.filter fun name =>
    name != nameKey && (policy.situation name episode).isRemovable config

theorem removals_congr {between : Episode} {names : List String}
    (same : ∀ name ∈ names, Policy.rejection config (policy.situation name between) =
      Policy.rejection config (policy.situation name episode)) :
    removals config policy between names = removals config policy episode names := by
  apply List.filter_congr
  intro name mem
  rw [Situation.isRemovable, Situation.isRemovable, same name mem]

theorem carriesOut_removeAttribute (bound : episode.organization = some organization)
    (name : String) :
    CarriesOut (removeAttribute name) episode organization [.remove name] () := by
  unfold CarriesOut removeAttribute
  simp only [bound, Organization.removeAttribute]
  cases answer : organization.removingRefused name with
  | some fault =>
    have refused : (Call.remove name).refusal organization = some fault := answer
    rw [Call.performAll_cons_of_refused refused]
    exact ⟨episode, ⟨bound, rfl, List.prefix_rfl⟩, rfl⟩
  | none =>
    have granted : (Call.remove name).refusal organization = none := answer
    rw [Call.performAll_cons_of_granted granted]
    exact ⟨_, episode.writes_of_organization _, rfl⟩

/-- Whether a name that was left out is rejected is not changed by writes under other names. -/
theorem rejection_writes {between : Episode} {now : Organization}
    (bound : episode.organization = some organization) (writes : episode.Writes between now)
    {name : String} (same : now.valuesOf name = organization.valuesOf name) :
    Policy.rejection config (policy.situation name between) =
      Policy.rejection config (policy.situation name episode) := by
  apply Situation.rejection_congr
  · rfl
  · rfl
  · simp only [Situation.value, Policy.situation, writes.values]
  · rw [stored_situation bound, stored_situation writes.organization]
    exact same

/-- A name that was removed may be removed again. -/
theorem rejection_of_empty {situation : Situation} (leftOut : situation.value = [])
    (empty : situation.stored = []) : Policy.rejection config situation = .ok false := by
  rw [Policy.rejection_eq_false_iff leftOut, empty]
  intro _
  exact ⟨rfl, fun v mem => absurd mem List.not_mem_nil, rfl⟩

/-- Removing names makes the calls that were due for them at the beginning. -/
theorem carriesOut_removeAll (builtin : policy.IsBuiltin) (holds : episode.catalog.Holds config)
    {names : List String} (bound : episode.organization = some organization)
    (leftOut : ∀ name ∈ names, (policy.situation name episode).value = [])
    (comparable : ∀ name ∈ names, name ≠ nameKey →
      ∃ kept, Policy.rejection config (policy.situation name episode) = .ok kept) :
    CarriesOut (removeAll policy names) episode organization
      ((removals config policy episode names).map .remove)
      (removals config policy episode names) := by
  induction names generalizing episode organization with
  | nil => exact (computes_pure [] episode).carriesOut bound
  | cons asked rest ih =>
    have leftOutRest : ∀ name ∈ rest, (policy.situation name episode).value = [] :=
      fun name mem => leftOut name (List.mem_cons_of_mem _ mem)
    have comparableRest : ∀ name ∈ rest, name ≠ nameKey →
        ∃ kept, Policy.rejection config (policy.situation name episode) = .ok kept :=
      fun name mem => comparable name (List.mem_cons_of_mem _ mem)
    -- an episode in which the same names of the rest are rejected goes on alike
    have onward : ∀ between now, episode.Writes between now →
        (∀ name ∈ rest, Policy.rejection config (policy.situation name between) =
          Policy.rejection config (policy.situation name episode)) →
        CarriesOut (removeAll policy rest) between now
          ((removals config policy episode rest).map .remove)
          (removals config policy episode rest) := by
      intro between now writes same
      rw [← removals_congr same]
      apply ih (holds.mono writes.catalog) writes.organization
      · intro name mem
        rw [← leftOutRest name mem]
        simp only [Situation.value, Policy.situation, writes.values]
      · intro name mem notName
        rw [same name mem]
        exact comparableRest name mem notName
    rw [removeAll]
    by_cases isName : asked = nameKey
    · have passed : removals config policy episode (asked :: rest) =
          removals config policy episode rest :=
        List.filter_cons_of_neg (by simp [isName])
      rw [if_pos (by simpa using isName), passed]
      exact onward episode organization ⟨bound, rfl, List.prefix_rfl⟩ fun _ _ => rfl
    · obtain ⟨kept, known⟩ := comparable asked List.mem_cons_self isName
      have looked := Policy.computes_isReadOnly builtin holds isName
      rw [known] at looked
      rw [if_neg (by simpa using isName)]
      cases kept with
      | true =>
        have passed : removals config policy episode (asked :: rest) =
            removals config policy episode rest := by
          apply List.filter_cons_of_neg
          simp [Situation.isRemovable, known]
        rw [passed]
        refine (looked.carriesOut bound).bind fun between now writes performed => ?_
        cases performed
        apply onward between organization writes
        exact fun name _ => rejection_writes bound writes rfl
      | false =>
        have made : removals config policy episode (asked :: rest) =
            asked :: removals config policy episode rest := by
          apply List.filter_cons_of_pos
          simp [Situation.isRemovable, known, isName]
        rw [made, List.map_cons, ← List.singleton_append]
        refine (looked.carriesOut bound).bind fun between now writes performed => ?_
        cases performed
        refine (carriesOut_removeAttribute writes.organization asked).bind
          fun after left writes' performed => ?_
        have sofar := writes.trans writes'
        have reads : ∀ name, left.valuesOf name =
            if name = asked then [] else organization.valuesOf name := by
          intro name
          rw [Call.eq_applyAll_of_performAll performed]
          exact Call.valuesOf_apply organization (.remove asked) name
        apply CarriesOut.map
        apply onward after left sofar
        intro name mem
        by_cases again : name = asked
        · subst again
          rw [known]
          apply rejection_of_empty
          · rw [← leftOut name List.mem_cons_self]
            simp only [Situation.value, Policy.situation, sofar.values]
          · rw [stored_situation sofar.organization, reads, if_pos rfl]
        · apply rejection_writes bound sofar
          rw [reads, if_neg again]

/-! ## Both phases -/

/-- The calls that remove what was left out, if that is asked for. -/
def removeCalls (config : Config) (policy : Policy) (remove : Bool) (order : Order)
    (episode : Episode) : List Call :=
  if remove then (removals config policy episode (order.visit (omitted episode))).map .remove else []

/-- The calls that are due in an update: names are set, and then others are removed. -/
def dueCalls (config : Config) (policy : Policy) (remove : Bool) (order : Order)
    (episode : Episode) (organization : Organization) : List Call :=
  setCalls remove organization (policy.writable episode) ++
    removeCalls config policy remove order episode

theorem eq_remove_of_mem_removeCalls {order : Order} {call : Call}
    (mem : call ∈ removeCalls config policy remove order episode) : ∃ name, call = .remove name := by
  rw [removeCalls] at mem
  split at mem
  · obtain ⟨name, -, rfl⟩ := List.mem_map.mp mem
    exact ⟨name, rfl⟩
  · cases mem

theorem remove_mem_dueCalls (bound : episode.organization = some organization) {order : Order}
    {name : String} :
    .remove name ∈ dueCalls config policy remove order episode organization ↔
      remove = true ∧ name ∈ organization.attributeNames ∧ name ∉ episode.values.names ∧
        name ≠ nameKey ∧ Policy.rejection config (policy.situation name episode) = .ok false := by
  have noSet : Call.remove name ∉ setCalls remove organization (policy.writable episode) := by
    intro mem
    obtain ⟨entry, -, made⟩ := List.mem_filterMap.mp mem
    obtain ⟨-, texts, impossible, -⟩ := setCall?_eq_some made
    cases impossible
  rw [dueCalls, List.mem_append, or_iff_right noSet, removeCalls]
  cases remove with
  | false => simp
  | true =>
    have listed : Call.remove name ∈ (removals config policy episode
        (order.visit (omitted episode))).map Call.remove ↔
        name ∈ removals config policy episode (order.visit (omitted episode)) := by
      rw [List.mem_map]
      exact ⟨fun ⟨_, mem, same⟩ => Call.remove.inj same ▸ mem, fun mem => ⟨name, mem, rfl⟩⟩
    rw [if_pos rfl, listed, removals, List.mem_filter, (order.perm _).mem_iff, mem_omitted bound,
      Bool.and_eq_true, bne_iff_ne, Situation.isRemovable_iff, and_assoc, and_iff_right rfl]

theorem set_mem_dueCalls {order : Order} {name : String} {texts : List String} :
    .set name texts ∈ dueCalls config policy remove order episode organization ↔
      name ≠ nameKey ∧ ∃ submitted, (name, submitted) ∈ policy.writable episode ∧
        wanted remove submitted (organization.valuesOf name) = some texts := by
  have noRemoval : Call.set name texts ∉ removeCalls config policy remove order episode := by
    intro mem
    obtain ⟨other, impossible⟩ := eq_remove_of_mem_removeCalls mem
    cases impossible
  rw [dueCalls, List.mem_append, or_iff_left noRemoval, setCalls, List.mem_filterMap]
  constructor
  · rintro ⟨⟨other, submitted⟩, mem, made⟩
    obtain ⟨notName, written, same, known⟩ := setCall?_eq_some made
    cases same
    exact ⟨notName, submitted, mem, known⟩
  · rintro ⟨notName, submitted, mem, known⟩
    refine ⟨(name, submitted), mem, ?_⟩
    rw [setCall?, if_neg notName, known]
    rfl

def updateRecord (policy : Policy) (organization : Organization) (calls : List Call) : Log.Record :=
  .profileUpdated organization.name policy.context (Call.setNames calls)
    (sortedTexts (Call.removedNames calls))

/-- Writing and removing, with the names written and the names removed. -/
def phases (policy : Policy) (remove : Bool) (visit : Visit) :
    Action (List String × List String) := do
  let episode ← get
  let written ← writeAll remove (policy.writable episode)
  let episode ← get
  let removed ← if remove then removeAll policy (visit (omitted episode)) else pure []
  pure (written, removed)

theorem applyDifference_eq (policy : Policy) (remove : Bool) (visit : Visit) :
    applyDifference policy remove visit = (do
      let names ← phases policy remove visit
      let episode ← get
      set (episode.log (.profileUpdated episode.organizationName policy.context names.1
        (sortedTexts names.2)))) := by
  cases remove <;>
    simp only [applyDifference, phases, bind_assoc, pure_bind, if_true, if_false,
      Bool.false_eq_true]

theorem valuesOf_setCalls_of_not_mem {entries : AttributeValues} {name : String}
    (absent : name ∉ entries.names) :
    (Call.performAll organization (setCalls remove organization entries)).2.valuesOf name =
      organization.valuesOf name := by
  apply Call.valuesOf_performAll_of_untouched
  intro call mem about
  obtain ⟨entry, given, made⟩ := List.mem_filterMap.mp mem
  obtain ⟨-, texts, rfl, -⟩ := setCall?_eq_some made
  exact absent (about ▸ List.mem_map_of_mem given)

/-- Setting names of the set leaves the same names out. -/
theorem omitted_writes {between : Episode} {entries : AttributeValues}
    (bound : episode.organization = some organization)
    (listed : ∀ name ∈ entries.names, name ∈ episode.values.names)
    (writes : episode.Writes between
      (Call.performAll organization (setCalls remove organization entries)).2) :
    omitted between = omitted episode := by
  unfold omitted
  rw [bound, writes.organization, writes.values]
  apply Call.performAll_induction fun now =>
    (now.attributeNames.filter fun name => !episode.values.holds name) =
      organization.attributeNames.filter fun name => !episode.values.holds name
  · rfl
  · intro call mem now same
    obtain ⟨entry, given, made⟩ := List.mem_filterMap.mp mem
    obtain ⟨-, texts, rfl, -⟩ := setCall?_eq_some made
    have held : episode.values.holds entry.1 = true := by
      rw [Keyed.holds_iff_mem_names]
      exact listed entry.1 (List.mem_map_of_mem given)
    rw [← same]
    exact now.attributeNames_filter_set texts (by simp [held])

/-- Every comparison that an update makes can be made. -/
def Decided (config : Config) (policy : Policy) (remove : Bool) (episode : Episode) : Prop :=
  ∀ name, ∃ left, Updates config policy remove episode name left

theorem Decided.overwritten (decided : Decided config policy remove episode)
    (distinct : Keyed.Distinct episode.values) (bound : episode.organization = some organization)
    {entry : String × List Value} (mem : entry ∈ policy.writable episode)
    (notName : entry.1 ≠ nameKey) :
    ∃ left, ProfilePolicy.overwritten remove entry.2 (organization.valuesOf entry.1) =
      .ok left := by
  obtain ⟨left, updated⟩ := decided entry.1
  have found : episode.values.get? entry.1 = some entry.2 :=
    distinct.get?_of_mem (List.mem_filter.mp mem).1
  unfold Updates at updated
  rw [Situation.updated_of_submitted config remove notName found, stored_situation bound] at updated
  exact ⟨left, updated⟩

theorem Decided.rejection (decided : Decided config policy true episode) {name : String}
    (absent : name ∉ episode.values.names) (notName : name ≠ nameKey) :
    ∃ kept, Policy.rejection config (policy.situation name episode) = .ok kept := by
  obtain ⟨left, updated⟩ := decided name
  unfold Updates at updated
  rw [Situation.updated_of_missing config true notName (Keyed.get?_eq_none_iff.mpr absent),
    if_pos rfl] at updated
  obtain ⟨kept, known, -⟩ := map_eq_ok.mp updated
  exact ⟨kept, known⟩

theorem value_of_not_mem {name : String} (absent : name ∉ episode.values.names) :
    (policy.situation name episode).value = [] := by
  rw [Situation.value, Policy.situation, Keyed.get?_eq_none_iff.mpr absent]
  rfl

theorem removedNames_setCalls (entries : AttributeValues) :
    Call.removedNames (setCalls remove organization entries) = [] := by
  rw [Call.removedNames, List.filterMap_eq_nil_iff]
  intro call mem
  obtain ⟨entry, -, made⟩ := List.mem_filterMap.mp mem
  obtain ⟨-, texts, rfl, -⟩ := setCall?_eq_some made
  rfl

theorem names_writable_subset {name : String}
    (mem : name ∈ (policy.writable episode).names) : name ∈ episode.values.names := by
  obtain ⟨entry, kept, rfl⟩ := List.mem_map.mp mem
  exact List.mem_map_of_mem (List.mem_filter.mp kept).1

/-- Both phases make the calls that were due at the beginning. -/
theorem carriesOut_phases (builtin : policy.IsBuiltin) (holds : episode.catalog.Holds config)
    (distinct : Keyed.Distinct episode.values) (bound : episode.organization = some organization)
    (decided : Decided config policy remove episode) (order : Order) :
    CarriesOut (phases policy remove order.visit) episode organization
      (dueCalls config policy remove order episode organization)
      (Call.setNames (dueCalls config policy remove order episode organization),
        Call.removedNames (dueCalls config policy remove order episode organization)) := by
  have wrote : CarriesOut (writeAll remove (policy.writable episode)) episode organization
      (setCalls remove organization (policy.writable episode))
      (Call.setNames (setCalls remove organization (policy.writable episode))) :=
    carriesOut_writeAll (distinct.filter _) bound fun entry mem notName =>
      decided.overwritten distinct bound mem notName
  rw [phases, carriesOut_get, dueCalls, removeCalls, Call.setNames_append, Call.removedNames_append,
    removedNames_setCalls, List.nil_append]
  refine wrote.bind fun between now writes performed => ?_
  have left : (Call.performAll organization
      (setCalls remove organization (policy.writable episode))).2 = now := by
    rw [performed]
  have sameOmitted : omitted between = omitted episode := by
    apply omitted_writes bound fun name => names_writable_subset
    rw [left]
    exact writes
  rw [carriesOut_get, sameOmitted]
  cases remove with
  | false =>
    have noSet : Call.setNames [] = [] := rfl
    simp only [Bool.false_eq_true, if_false, pure_bind, noSet, List.append_nil]
    exact (computes_pure _ between).carriesOut writes.organization
  | true =>
    have absent : ∀ name ∈ order.visit (omitted episode), name ∉ episode.values.names :=
      fun name mem => ((mem_omitted bound).mp ((order.perm _).mem_iff.mp mem)).2
    have same : ∀ name ∈ order.visit (omitted episode),
        Policy.rejection config (policy.situation name between) =
          Policy.rejection config (policy.situation name episode) := by
      intro name mem
      apply rejection_writes bound writes
      rw [← left]
      exact valuesOf_setCalls_of_not_mem fun listed => absent name mem (names_writable_subset listed)
    simp only [if_true, Call.setNames_removals, Call.removedNames_removals, List.append_nil]
    rw [← removals_congr same]
    apply CarriesOut.map
    apply carriesOut_removeAll builtin (holds.mono writes.catalog) writes.organization
    · intro name mem
      apply value_of_not_mem
      rw [writes.values]
      exact absent name mem
    · intro name mem notName
      rw [same name mem]
      exact decided.rejection (absent name mem) notName

/-- Writing what differs and removing what was left out are the calls that were due at the
beginning, and a record of them if none was refused. -/
theorem applyDifference_performs (builtin : policy.IsBuiltin) (holds : episode.catalog.Holds config)
    (distinct : Keyed.Distinct episode.values) (bound : episode.organization = some organization)
    (decided : Decided config policy remove episode) (order : Order) :
    ∃ after, episode.Writes after (Call.performAll organization
        (dueCalls config policy remove order episode organization)).2 ∧
      applyDifference policy remove order.visit episode =
        match (Call.performAll organization
          (dueCalls config policy remove order episode organization)).1 with
        | .ok () => .ok () (after.log (updateRecord policy organization
            (dueCalls config policy remove order episode organization)))
        | .error fault => .error fault after := by
  obtain ⟨after, writes, result⟩ := carriesOut_phases builtin holds distinct bound decided order
  refine ⟨after, writes, ?_⟩
  have named : after.organizationName = organization.name := by
    unfold Episode.organizationName
    rw [writes.organization]
    exact (Call.performAll_follows organization _).name
  rw [applyDifference_eq]
  cases outcome : (Call.performAll organization
      (dueCalls config policy remove order episode organization)).1 with
  | error fault =>
    rw [outcome] at result
    exact bind_of_error result
  | ok done =>
    rw [outcome] at result
    rw [updateRecord, ← named, bind_of_ok result]
    rfl

end Profile

end ProfilePolicy
