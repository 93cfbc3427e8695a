import ProfilePolicy.Proofs.Storage

/-!
# Calls on an organization

Setting an attribute and removing one are calls on an organization, and an organization may refuse
either. Calls that are made in turn end with the first one that is refused: the calls before it take
effect, it and the calls after it do not. What is refused does not depend on the calls made before.
-/

namespace ProfilePolicy

inductive Call
  | set (name : String) (texts : List String)
  | remove (name : String)
  deriving DecidableEq, Repr, Inhabited

namespace Call

def name : Call → String
  | set name _ => name
  | remove name => name

/-- What a call leaves under its name. -/
def values : Call → StoredValues
  | set _ texts => texts.map Value.text
  | remove _ => []

def setName? : Call → Option String
  | set name _ => some name
  | remove _ => none

def removedName? : Call → Option String
  | set _ _ => none
  | remove name => some name

def setNames (calls : List Call) : List String :=
  calls.filterMap setName?

def removedNames (calls : List Call) : List String :=
  calls.filterMap removedName?

def refusal (organization : Organization) : Call → Option Fault
  | set name _ => organization.settingRefused name
  | remove name => organization.removingRefused name

def apply (organization : Organization) : Call → Organization
  | set name texts =>
    { organization with storage := organization.storage.replace name (texts.map Value.text) }
  | remove name => { organization with storage := organization.storage.without name }

/-- The organization after calls in turn, all of which it grants. -/
def applyAll (organization : Organization) (calls : List Call) : Organization :=
  calls.foldl apply organization

/-- Calls in turn, up to the first one that is refused. -/
def performAll (organization : Organization) : List Call → Except Fault Unit × Organization
  | [] => (.ok (), organization)
  | call :: rest =>
    match call.refusal organization with
    | some fault => (.error fault, organization)
    | none => performAll (call.apply organization) rest

variable {organization : Organization} {call : Call} {calls : List Call}

@[simp] theorem setNames_append (first second : List Call) :
    setNames (first ++ second) = setNames first ++ setNames second :=
  List.filterMap_append

@[simp] theorem removedNames_append (first second : List Call) :
    removedNames (first ++ second) = removedNames first ++ removedNames second :=
  List.filterMap_append

@[simp] theorem setNames_removals (names : List String) : setNames (names.map remove) = [] := by
  rw [setNames, List.filterMap_map, List.filterMap_eq_nil_iff]
  exact fun _ _ => rfl

@[simp] theorem removedNames_removals (names : List String) :
    removedNames (names.map remove) = names := by
  rw [removedNames, List.filterMap_map]
  exact List.filterMap_some

theorem refusal_apply (organization : Organization) (made call : Call) :
    call.refusal (made.apply organization) = call.refusal organization := by
  cases made <;> cases call <;> rfl

theorem follows_apply (organization : Organization) (call : Call) :
    (call.apply organization).Follows organization := by
  cases call <;> exact ⟨rfl, rfl⟩

theorem valuesOf_apply (organization : Organization) (call : Call) (other : String) :
    (call.apply organization).valuesOf other =
      if other = call.name then call.values else organization.valuesOf other := by
  cases call with
  | set name texts => exact Storage.valuesOf_replace _ _ _ _
  | remove name => exact Storage.valuesOf_without _ _ _

/-- What is listed after a call was set by it, or was listed before and is not removed by it. -/
theorem mem_attributeNames_apply {name : String}
    (listed : name ∈ (call.apply organization).attributeNames) :
    (∃ texts, call = set name texts) ∨
      name ∈ organization.attributeNames ∧ call ≠ remove name := by
  cases call with
  | set other texts =>
    rcases Storage.mem_names_replace listed with rfl | before
    · exact Or.inl ⟨texts, rfl⟩
    · exact Or.inr ⟨before, nofun⟩
  | remove other =>
    obtain ⟨differs, before⟩ := Storage.mem_names_without listed
    exact Or.inr ⟨before, fun same => differs (remove.inj same).symm⟩

/-- What is listed after calls in turn was set by one of them, or was listed before and is removed
by none. -/
theorem mem_attributeNames_applyAll {name : String}
    (listed : name ∈ (applyAll organization calls).attributeNames) :
    (∃ texts, set name texts ∈ calls) ∨
      name ∈ organization.attributeNames ∧ remove name ∉ calls := by
  induction calls generalizing organization with
  | nil => exact Or.inr ⟨listed, List.not_mem_nil⟩
  | cons first rest ih =>
    rcases ih listed with ⟨texts, later⟩ | ⟨between, kept⟩
    · exact Or.inl ⟨texts, List.mem_cons_of_mem _ later⟩
    · rcases mem_attributeNames_apply between with ⟨texts, rfl⟩ | ⟨before, other⟩
      · exact Or.inl ⟨texts, List.mem_cons_self⟩
      · refine Or.inr ⟨before, fun mem => ?_⟩
        rcases List.mem_cons.mp mem with same | later
        · exact other same.symm
        · exact kept later

theorem performAll_cons_of_granted (granted : call.refusal organization = none) :
    performAll organization (call :: calls) = performAll (call.apply organization) calls := by
  rw [performAll, granted]

theorem performAll_cons_of_refused {fault : Fault}
    (refused : call.refusal organization = some fault) :
    performAll organization (call :: calls) = (.error fault, organization) := by
  rw [performAll, refused]

/-- Whatever holds at first and is kept by every call that is granted holds in the end. -/
theorem performAll_induction (holds : Organization → Prop) (first : holds organization)
    (step : ∀ call ∈ calls, ∀ now, holds now → holds (call.apply now)) :
    holds (performAll organization calls).2 := by
  induction calls generalizing organization with
  | nil => exact first
  | cons call rest ih =>
    cases answer : call.refusal organization with
    | some fault =>
      rw [performAll_cons_of_refused answer]
      exact first
    | none =>
      rw [performAll_cons_of_granted answer]
      have next := step call List.mem_cons_self organization first
      exact ih next fun other mem => step other (List.mem_cons_of_mem _ mem)

theorem performAll_follows (organization : Organization) (calls : List Call) :
    (performAll organization calls).2.Follows organization := by
  apply performAll_induction (·.Follows organization)
  · exact .refl organization
  · intro call _ now follows
    exact (follows_apply now call).trans follows

/-- Calls about other names change nothing under a name. -/
theorem valuesOf_performAll_of_untouched {name : String}
    (untouched : ∀ call ∈ calls, call.name ≠ name) :
    (performAll organization calls).2.valuesOf name = organization.valuesOf name := by
  apply performAll_induction (fun now => now.valuesOf name = organization.valuesOf name)
  · rfl
  · intro call mem now same
    rw [valuesOf_apply, if_neg fun about => untouched call mem about.symm]
    exact same

/-- Further calls are made unless one was refused. -/
theorem performAll_append (organization : Organization) (first second : List Call) :
    performAll organization (first ++ second) =
      match performAll organization first with
      | (.ok (), between) => performAll between second
      | (.error fault, left) => (.error fault, left) := by
  induction first generalizing organization with
  | nil => rfl
  | cons call rest ih =>
    rw [List.cons_append]
    cases answer : call.refusal organization with
    | none =>
      rw [performAll_cons_of_granted answer, performAll_cons_of_granted answer]
      exact ih (call.apply organization)
    | some fault => rw [performAll_cons_of_refused answer, performAll_cons_of_refused answer]

/-- Calls that are all granted take effect. -/
theorem performAll_of_granted (granted : ∀ call ∈ calls, call.refusal organization = none) :
    performAll organization calls = (.ok (), applyAll organization calls) := by
  induction calls generalizing organization with
  | nil => rfl
  | cons call rest ih =>
    rw [performAll_cons_of_granted (granted call List.mem_cons_self)]
    apply ih
    intro other mem
    rw [refusal_apply]
    exact granted other (List.mem_cons_of_mem _ mem)

theorem refusal_applyAll (organization : Organization) (made : List Call) (call : Call) :
    call.refusal (applyAll organization made) = call.refusal organization := by
  induction made generalizing organization with
  | nil => rfl
  | cons first rest ih => exact (ih _).trans (refusal_apply organization first call)

/-- The calls before the first one that is refused take effect, and no other ones. -/
theorem performAll_of_refused {done rest : List Call} {fault : Fault}
    (granted : ∀ call ∈ done, call.refusal organization = none)
    (refused : call.refusal organization = some fault) :
    performAll organization (done ++ call :: rest) =
      (.error fault, applyAll organization done) := by
  rw [performAll_append, performAll_of_granted granted]
  apply performAll_cons_of_refused
  rw [refusal_applyAll, refused]

/-- Among calls of which one is refused there is a first one that is refused. -/
theorem exists_first_refused (some_refused : ∃ call ∈ calls, call.refusal organization ≠ none) :
    ∃ done call rest fault, calls = done ++ call :: rest ∧
      (∀ made ∈ done, made.refusal organization = none) ∧
      call.refusal organization = some fault := by
  induction calls with
  | nil =>
    obtain ⟨call, mem, -⟩ := some_refused
    cases mem
  | cons first rest ih =>
    cases answer : first.refusal organization with
    | some fault => exact ⟨[], first, rest, fault, rfl, by simp, answer⟩
    | none =>
      obtain ⟨call, mem, refused⟩ := some_refused
      have later : ∃ call ∈ rest, call.refusal organization ≠ none := by
        rcases List.mem_cons.mp mem with rfl | mem
        · exact absurd answer refused
        · exact ⟨call, mem, refused⟩
      obtain ⟨done, call, after, fault, rfl, granted, refused⟩ := ih later
      refine ⟨first :: done, call, after, fault, rfl, ?_, refused⟩
      intro made mem
      rcases List.mem_cons.mp mem with rfl | mem
      · exact answer
      · exact granted made mem

/-- Calls in turn come to their end exactly when none is refused. -/
theorem performAll_fst_eq_ok_iff :
    (performAll organization calls).1 = .ok () ↔
      ∀ call ∈ calls, call.refusal organization = none := by
  constructor
  · intro finished
    refine Classical.byContradiction fun somewhere => ?_
    have refused : ∃ call ∈ calls, call.refusal organization ≠ none := by
      simpa using somewhere
    obtain ⟨done, call, rest, fault, rfl, granted, refused⟩ := exists_first_refused refused
    rw [performAll_of_refused granted refused] at finished
    cases finished
  · intro granted
    rw [performAll_of_granted granted]

/-- Calls that came to their end took effect. -/
theorem eq_applyAll_of_performAll {now : Organization}
    (performed : performAll organization calls = (.ok (), now)) :
    now = applyAll organization calls := by
  have granted := performAll_fst_eq_ok_iff.mp (congrArg Prod.fst performed)
  rw [performAll_of_granted granted] at performed
  exact (congrArg Prod.snd performed).symm

theorem refusal_congr {other : Organization} (same : other.refusals = organization.refusals)
    (call : Call) : call.refusal other = call.refusal organization := by
  cases call <;>
    simp only [refusal, Organization.settingRefused, Organization.removingRefused, same]

/-- Nothing is refused by an organization without refusals. -/
theorem refusal_of_willing (willing : organization.refusals = none) (call : Call) :
    call.refusal organization = none := by
  cases call <;>
    simp [refusal, Organization.settingRefused, Organization.removingRefused, willing]

end Call

/-- A call that sets a name keeps all other names in their order. -/
theorem Organization.attributeNames_filter_set (organization : Organization) {name : String}
    (texts : List String) {keep : String → Bool} (dropped : keep name = false) :
    ((Call.set name texts).apply organization).attributeNames.filter keep =
      organization.attributeNames.filter keep :=
  Storage.names_replace_filter organization.storage _ dropped

def Organization.refusing (organization : Organization) (refusals : Option Refusals) :
    Organization :=
  { organization with refusals }

end ProfilePolicy
