import ProfilePolicy.Proofs.Acceptance

/-!
# Validating a set

Validating a set collects the findings of its names in turn, so the outcome is known from the
situations of the names alone. A report groups what it is given and loses nothing of it. The set is
rejected when there is a finding and the flag is raised when there is none; neither touches the
values or the organization.
-/

namespace ProfilePolicy

namespace Report

theorem flatMap_put_append {groups : Keyed (List FieldError)} {key : String}
    {extra : List FieldError} :
    ((groups.put key ((groups.get? key).getD [] ++ extra)).flatMap (·.2)).Perm
      (groups.flatMap (·.2) ++ extra) := by
  induction groups with
  | nil => simp [Keyed.put]
  | cons group rest ih =>
    obtain ⟨held, errors⟩ := group
    rw [Keyed.get?_cons, Keyed.put]
    by_cases same : key = held
    · subst same
      simp only [if_true, BEq.rfl, Option.getD_some, List.flatMap_cons, List.append_assoc]
      exact List.Perm.append_left _ List.perm_append_comm
    · have other : (held == key) = false := by simpa using Ne.symm same
      simp only [same, other, if_false, Bool.false_eq_true, List.flatMap_cons, List.append_assoc]
      exact List.Perm.append_left _ ih

/-- A report holds what it held and what it is given, if not in this order. -/
theorem errors_addAll_perm (report : Report) (errors : List FieldError) :
    (report.addAll errors).errors.Perm (report.errors ++ errors) := by
  induction errors generalizing report with
  | nil =>
    rw [List.append_nil]
    exact List.Perm.refl _
  | cons error rest ih =>
    have first : (report.add error).errors.Perm (report.errors ++ [error]) := flatMap_put_append
    have later : (report.addAll (error :: rest)).errors.Perm
        ((report.add error).errors ++ rest) := ih (report.add error)
    rw [← List.singleton_append, ← List.append_assoc]
    exact later.trans (first.append_right rest)

theorem addAll_append (report : Report) (errors errors' : List FieldError) :
    report.addAll (errors ++ errors') = (report.addAll errors).addAll errors' :=
  List.foldl_append

end Report

namespace Policy

open ProfilePolicy.Action Profile

variable {policy : Policy} {config : Config} {episode : Episode}

def findings (config : Config) (policy : Policy) (episode : Episode) :
    List String → Except Mishap (List FieldError)
  | [] => .ok []
  | name :: rest =>
    both (finding config (policy.situation name episode)) (findings config policy episode rest)

theorem findings_undisturbed {after : Episode} (same : episode.Undisturbed after)
    (names : List String) :
    findings config policy after names = findings config policy episode names := by
  induction names with
  | nil => rfl
  | cons name rest ih => rw [findings, findings, same.situation_eq policy name, ih]

theorem findings_eq_nil_iff {names : List String} :
    findings config policy episode names = .ok [] ↔
      ∀ name ∈ names, finding config (policy.situation name episode) = .ok [] := by
  induction names with
  | nil => simp [findings]
  | cons name rest ih => rw [findings, both_eq_nil_iff, ih, List.forall_mem_cons]

/-- Collecting errors adds the findings to a report. -/
theorem computes_collectErrors (builtin : policy.IsBuiltin) (holds : episode.catalog.Holds config)
    (names : List String) (report : Report) :
    Computes (collectErrors policy report names) episode
      ((findings config policy episode names).map report.addAll) := by
  induction names generalizing episode report with
  | nil => exact computes_pure _ _
  | cons name rest ih =>
    have split : (do
        let verdict ← (finding config (policy.situation name episode)).map verdictOf
        (findings config policy episode rest).map (report.addAll verdict.errors).addAll) =
        (findings config policy episode (name :: rest)).map report.addAll := by
      rw [findings]
      cases finding config (policy.situation name episode) with
      | error cause => rfl
      | ok errors =>
        cases findings config policy episode rest with
        | error cause => rfl
        | ok errors' => exact congrArg Except.ok (report.addAll_append errors errors').symm
    rw [collectErrors, ← split]
    refine (computes_validateName builtin holds name).bind fun verdict after _ same => ?_
    rw [← findings_undisturbed same]
    exact ih (holds.mono same.catalog) (report.addAll verdict.errors)

/-- Validation accepts the set when nothing is found in any of its names. -/
def Accepts (config : Config) (policy : Policy) (episode : Episode) : Prop :=
  ∀ name ∈ episode.values.names, finding config (policy.situation name episode) = .ok []

/-- How validation fails: a comparison could not be made, or all findings are reported. -/
def Rejects (config : Config) (policy : Policy) (episode : Episode) (names : List String)
    (fault : Fault) : Prop :=
  match findings config policy episode names with
  | .error cause => fault = .mishap cause
  | .ok errors => errors ≠ [] ∧ ∃ report : Report, fault = .rejected report ∧
      report.errors.Perm errors

theorem Accepts.of_same {after : Episode} (accepted : Accepts config policy episode)
    (organization : after.organization = episode.organization)
    (values : after.values = episode.values) : Accepts config policy after := by
  intro name mem
  rw [values] at mem
  have same : policy.situation name after = policy.situation name episode := by
    simp only [situation, organization, values]
  rw [same]
  exact accepted name mem

/-- Validation raises the flag when it accepts and fails otherwise, and it changes nothing else. -/
theorem leads_validate (builtin : policy.IsBuiltin) (holds : episode.catalog.Holds config)
    (visit : Visit) :
    Leads (validate policy visit) episode
      (fun _ after => findings config policy episode (visit episode.values.names) = .ok [] ∧
        ∃ looked, episode.Undisturbed looked ∧ after = { looked with validated := true })
      (fun fault after => episode.Undisturbed after ∧
        Rejects config policy episode (visit episode.values.names) fault) := by
  have collected := (computes_collectErrors builtin holds (visit episode.values.names)
    Report.empty).leads
  rw [validate, leads_bind, leads_get, leads_bind]
  refine collected.mono ?_ ?_
  · rintro report looked ⟨same, result⟩
    obtain ⟨errors, found, rfl⟩ := map_eq_ok.mp result
    have perm := Report.errors_addAll_perm Report.empty errors
    unfold Rejects
    rw [leads_bind, leads_get, found]
    by_cases none : (Report.empty.addAll errors).errors.isEmpty = true
    · rw [if_pos none, leads_set]
      rw [List.isEmpty_iff.mp none] at perm
      exact ⟨congrArg Except.ok perm.nil_eq.symm, looked, same, rfl⟩
    · rw [if_neg none, leads_bind, leads_set, leads_throw]
      refine ⟨same.trans ⟨rfl, rfl, rfl, List.prefix_rfl⟩, ?_, _, rfl, perm⟩
      rintro rfl
      exact none (List.isEmpty_iff.mpr perm.eq_nil)
  · rintro fault after ⟨same, cause, rfl, result⟩
    refine ⟨same, ?_⟩
    unfold Rejects
    cases found : findings config policy episode (visit episode.values.names) with
    | error cause' =>
      rw [found] at result
      cases result
      rfl
    | ok errors =>
      rw [found] at result
      cases result

end Policy

/-- How validation ends with what is found: it accepts when nothing is, it reports all errors that
are, or a comparison could not be made. -/
inductive Concludes : Except Mishap (List FieldError) → Except Fault Unit → Prop
  | accepted : Concludes (.ok []) (.ok ())
  | rejected {errors : List FieldError} {report : Report} (some : errors ≠ [])
      (listed : report.errors.Perm errors) : Concludes (.ok errors) (.error (.rejected report))
  | stuck (cause : Mishap) : Concludes (.error cause) (.error (.mishap cause))

end ProfilePolicy
