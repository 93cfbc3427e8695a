import Mathlib.Data.List.Induction
import ProfilePolicy.AppError
import ProfilePolicy.Proofs.Validation
import ProfilePolicy.Value.Parts

/-!
# Errors in groups

A report that is given errors one after another lists them group by group. Its groups are the
message keys in the order in which they were first given, and a group holds the errors of its
message in the order in which they were given. Nothing is lost and nothing is added, so what a
report is asked and what it is turned into can be told from the errors that it was given.
-/

namespace ProfilePolicy

namespace Report

/-- The message keys of errors, in the order in which they first occur. -/
def messagesOf (errors : List FieldError) : List String :=
  (errors.map (·.message)).eraseDups

def withMessage (errors : List FieldError) (message : String) : List FieldError :=
  errors.filter (·.message == message)

/-- Errors group by group: groups stand in the order of their first error, and inside of a group the
errors keep their order. -/
def grouped (errors : List FieldError) : List FieldError :=
  (messagesOf errors).flatMap (withMessage errors)

variable {errors : List FieldError} {error : FieldError} {report : Report} {message : String}

theorem mem_messagesOf :
    message ∈ messagesOf errors ↔ ∃ error ∈ errors, error.message = message := by
  rw [messagesOf, List.mem_eraseDups, List.mem_map]

theorem messagesOf_eq_nil_iff : messagesOf errors = [] ↔ errors = [] := by
  constructor
  · intro none
    refine List.eq_nil_iff_forall_not_mem.mpr fun error mem => ?_
    have known : error.message ∈ messagesOf errors := mem_messagesOf.mpr ⟨error, mem, rfl⟩
    rw [none] at known
    cases known
  · rintro rfl
    rfl

theorem messagesOf_concat (errors : List FieldError) (error : FieldError) :
    messagesOf (errors ++ [error]) =
      if error.message ∈ messagesOf errors then messagesOf errors
      else messagesOf errors ++ [error.message] := by
  have known : error.message ∈ messagesOf errors ↔ error.message ∈ errors.map (·.message) :=
    List.mem_eraseDups
  have split : messagesOf (errors ++ [error]) =
      messagesOf errors ++ ([error.message].removeAll (errors.map (·.message))).eraseDups := by
    rw [messagesOf, List.map_append, List.eraseDups_append]
    rfl
  rw [split]
  by_cases old : error.message ∈ messagesOf errors
  · rw [if_pos old, List.removeAll, List.filter_cons_of_neg (by simpa using known.mp old)]
    exact List.append_nil _
  · rw [if_neg old, List.removeAll, List.filter_cons_of_pos (by simpa using mt known.mpr old)]
    rfl

theorem withMessage_concat (errors : List FieldError) (error : FieldError) (message : String) :
    withMessage (errors ++ [error]) message =
      if message = error.message then withMessage errors message ++ [error]
      else withMessage errors message := by
  rw [withMessage, List.filter_append, withMessage]
  by_cases own : message = error.message
  · rw [if_pos own, List.filter_cons_of_pos (by simpa using own.symm), List.filter_nil]
  · rw [if_neg own, List.filter_cons_of_neg (by simpa using Ne.symm own), List.filter_nil,
      List.append_nil]

/-- A report has collected errors: their message keys are its groups, and under each of them are its
errors. -/
structure Collects (report : Report) (errors : List FieldError) : Prop where
  distinct : Keyed.Distinct report.groups
  messages : Keyed.names report.groups = messagesOf errors
  group : ∀ message, (report.groups.get? message).getD [] = withMessage errors message

theorem collects_empty : Collects empty [] :=
  ⟨Keyed.distinct_nil, rfl, fun _ => rfl⟩

/-- An error that is added comes last in its group, which comes last if it is new. -/
theorem Collects.add (collects : report.Collects errors) (error : FieldError) :
    (report.add error).Collects (errors ++ [error]) := by
  refine ⟨collects.distinct.put _ _, ?_, fun message => ?_⟩
  · rw [Report.add, Keyed.names_put, collects.messages, messagesOf_concat]
  · rw [Report.add, Keyed.get?_put, withMessage_concat, collects.group]
    by_cases own : message = error.message
    · rw [if_pos own, if_pos own, own]
      rfl
    · rw [if_neg own, if_neg own, collects.group]

/-- A report to which errors were added in turn has collected them. -/
theorem collects_addAll (errors : List FieldError) : (empty.addAll errors).Collects errors := by
  induction errors using List.reverseRecOn with
  | nil => exact collects_empty
  | append_singleton before error ih =>
    rw [addAll_append]
    exact ih.add error

theorem Collects.groups_eq (collects : report.Collects errors) :
    report.groups = (messagesOf errors).map fun message => (message, withMessage errors message) := by
  rw [← collects.messages]
  exact collects.distinct.eq_map collects.group

theorem Collects.errors_eq (collects : report.Collects errors) :
    report.errors = grouped errors := by
  rw [Report.errors, collects.groups_eq, List.flatMap_map]
  rfl

theorem Collects.isEmpty_groups (collects : report.Collects errors) :
    report.groups.isEmpty = errors.isEmpty := by
  rw [Bool.eq_iff_iff, List.isEmpty_iff, List.isEmpty_iff, collects.groups_eq, List.map_eq_nil_iff,
    messagesOf_eq_nil_iff]

/-- Grouping loses no error and adds none. -/
theorem grouped_perm (errors : List FieldError) : (grouped errors).Perm errors := by
  have kept := errors_addAll_perm empty errors
  rwa [(collects_addAll errors).errors_eq] at kept

theorem Collects.hasError_iff (collects : report.Collects errors) (messages : List String) :
    report.hasError messages = true ↔
      if messages = [] then errors ≠ [] else ∃ error ∈ errors, error.message ∈ messages := by
  rw [hasError, collects.isEmpty_groups]
  cases messages with
  | nil => simp
  | cons first rest =>
    have known : ∀ message, report.groups.holds message = true ↔
        ∃ error ∈ errors, error.message = message := fun message => by
      rw [Keyed.holds_iff_mem_names, collects.messages, mem_messagesOf]
    rw [if_neg (by simp), if_neg (List.cons_ne_nil first rest), List.any_eq_true]
    constructor
    · rintro ⟨message, mem, held⟩
      obtain ⟨error, added, rfl⟩ := (known message).mp held
      exact ⟨error, added, mem⟩
    · rintro ⟨error, added, mem⟩
      exact ⟨error.message, mem, (known error.message).mpr ⟨error, added, rfl⟩⟩

theorem Collects.isOnError_iff (collects : report.Collects errors) (names : List String) :
    report.isOnError names = true ↔
      if names = [] then errors ≠ [] else ∃ error ∈ errors, error.field ∈ names := by
  rw [isOnError, collects.isEmpty_groups]
  cases names with
  | nil => simp
  | cons first rest =>
    rw [if_neg (by simp), if_neg (List.cons_ne_nil first rest), List.any_eq_true, collects.errors_eq]
    simp only [(grouped_perm errors).mem_iff, List.contains_iff_mem]

/-! ## The body of a response -/

/-- The errors that a body carries: those that it lists, or the one that it stands for. -/
def carried (body : Value) : List Value :=
  match body.part? "errors" with
  | some listed => listed.elements
  | none => [body]

theorem part?_errors_toRecord (error : FieldError) : error.toRecord.part? "errors" = none :=
  rfl

theorem toRecord_cases (report : Report) :
    (∃ error, report.errors = [error] ∧ report.toRecord = error.toRecord) ∨
      report.errors.length ≠ 1 ∧
        report.toRecord = .record [("errors", .list (report.errors.map FieldError.toRecord))] := by
  rw [toRecord]
  split
  · rename_i error single
    exact Or.inl ⟨error, single, rfl⟩
  · rename_i several
    refine Or.inr ⟨fun one => ?_, rfl⟩
    obtain ⟨error, single⟩ := List.length_eq_one_iff.mp one
    exact several error single

theorem carried_toRecord (report : Report) :
    carried report.toRecord = report.errors.map FieldError.toRecord := by
  obtain ⟨error, single, body⟩ | ⟨-, body⟩ := report.toRecord_cases
  · rw [single, body]
    rfl
  · rw [body]
    rfl

theorem part?_errors_eq_none_iff (report : Report) :
    report.toRecord.part? "errors" = none ↔ report.errors.length = 1 := by
  obtain ⟨error, single, body⟩ | ⟨several, body⟩ := report.toRecord_cases
  · rw [single, body, part?_errors_toRecord]
    exact ⟨fun _ => rfl, fun _ => rfl⟩
  · rw [body]
    exact ⟨nofun, fun one => absurd one several⟩

end Report

/-- A report that errors were added to one after another keeps every one of them in its group, and
what it is asked and turned into agrees with them. -/
theorem Report.errors_kept_in_groups (added : List FieldError) (stamp : Stamp) :
    let report := empty.addAll added
    let body := report.toRecord
    report.errors = grouped added ∧ (grouped added).Perm added ∧
      report.status = (((grouped added).find? (·.status != 400)).map (·.status)).getD 400 ∧
      (∀ messages, report.hasError messages = true ↔
        if messages = [] then added ≠ [] else ∃ error ∈ added, error.message ∈ messages) ∧
      (∀ names, report.isOnError names = true ↔
        if names = [] then added ≠ [] else ∃ error ∈ added, error.field ∈ names) ∧
      carried body = (grouped added).map FieldError.toRecord ∧
      (body.part? "errors" = none ↔ added.length = 1) ∧
      (AppError.ofReport stamp report).metadata =
        .record [("error_count", .int added.length), ("errors", .list (carried body))] ∧
      (AppError.ofReport stamp report).message =
        .text ("Validation failed: " ++ toString added.length ++ " errors") := by
  intro report body
  have collects := collects_addAll added
  have listed : report.errors = grouped added := collects.errors_eq
  have count : report.errors.length = added.length :=
    listed ▸ (grouped_perm added).length_eq
  have carries := report.carried_toRecord
  refine ⟨listed, grouped_perm added, ?_, collects.hasError_iff, collects.isOnError_iff,
    listed ▸ carries, count ▸ report.part?_errors_eq_none_iff, ?_, ?_⟩
  · rw [status, listed]
    cases (grouped added).find? (·.status != 400) <;> rfl
  · rw [carries, ← count]
    rfl
  · rw [← count]
    rfl

end ProfilePolicy
