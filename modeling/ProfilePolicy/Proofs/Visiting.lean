import ProfilePolicy.Proofs.Idempotence
import ProfilePolicy.Proofs.Violations

/-!
# The order of visits

Validation visits the names of the set and removal visits the names that were left out, both in an
order that nothing determines. What is found in a name is found in its own situation, so another
order finds the same errors in another order, and since they all have one status the report answers
alike. What is removed is settled before anything is removed, and removing names in another order
comes to the same organization.
-/

namespace ProfilePolicy

/-! ## Reports -/

namespace Report

variable {report report' : Report}

theorem status_eq_of_forall (plain : ∀ error ∈ report.errors, error.status = 400) :
    report.status = 400 := by
  have none : report.errors.find? (fun error => error.status != 400) = none := by
    rw [List.find?_eq_none]
    intro error mem
    simp [plain error mem]
  rw [status, none]

theorem groups_isEmpty_of_errors (some : report.errors ≠ []) : report.groups.isEmpty = false := by
  rw [List.isEmpty_eq_false_iff]
  intro none
  apply some
  rw [errors, none]
  rfl

/-- Reports of the same errors have the same names on error. -/
theorem isOnError_of_perm (perm : report.errors.Perm report'.errors) (some : report.errors ≠ [])
    (names : List String) : report.isOnError names = report'.isOnError names := by
  have some' : report'.errors ≠ [] := fun none => some (none ▸ perm).eq_nil
  rw [isOnError, isOnError, groups_isEmpty_of_errors some, groups_isEmpty_of_errors some']
  split
  · rfl
  · exact perm.any_eq

end Report

/-! ## Findings -/

namespace Policy

variable {policy : Policy} {config : Config} {episode : Episode} {situation : Situation}

theorem mem_repeated {existing : List Value} {count : Nat} {error found : FieldError}
    {errors : List FieldError} (h : repeated situation existing count error = .ok errors)
    (mem : found ∈ errors) : found = error := by
  rw [repeated] at h
  split at h
  · cases h
    cases mem
  · obtain ⟨reported, -, rfl⟩ := map_eq_ok.mp h
    cases reported with
    | false => cases mem
    | true => exact List.eq_of_mem_replicate mem

/-- Read-only rules find plain bad requests. -/
theorem status_of_mem_finding {errors : List FieldError} {error : FieldError}
    (h : finding config situation = .ok errors) (mem : error ∈ errors) : error.status = 400 := by
  obtain ⟨own, others, first, second, rfl⟩ := both_eq_ok h
  rcases List.mem_append.mp mem with mem | mem
  · rw [mem_repeated first mem]
    rfl
  · rw [mem_repeated second mem]
    rfl

theorem status_of_mem_findings {names : List String} {errors : List FieldError} {error : FieldError}
    (h : findings config policy episode names = .ok errors) (mem : error ∈ errors) :
    error.status = 400 := by
  induction names generalizing errors with
  | nil =>
    cases h
    cases mem
  | cons first rest ih =>
    obtain ⟨own, others, here, later, rfl⟩ := both_eq_ok h
    rcases List.mem_append.mp mem with mem | mem
    · exact status_of_mem_finding here mem
    · exact ih later mem

/-- Visiting the same names in another order finds the same errors. -/
theorem findings_perm {names names' : List String} (perm : names.Perm names')
    {errors : List FieldError} (h : findings config policy episode names = .ok errors) :
    ∃ errors', findings config policy episode names' = .ok errors' ∧ errors.Perm errors' := by
  induction perm generalizing errors with
  | nil => exact ⟨errors, h, List.Perm.refl errors⟩
  | cons name _ ih =>
    obtain ⟨own, others, here, later, rfl⟩ := both_eq_ok h
    obtain ⟨others', later', same⟩ := ih later
    refine ⟨own ++ others', ?_, same.append_left own⟩
    rw [findings, here, later']
    rfl
  | swap first second rest =>
    obtain ⟨own, others, here, later, rfl⟩ := both_eq_ok h
    obtain ⟨next, rest', there, last, rfl⟩ := both_eq_ok later
    refine ⟨next ++ (own ++ rest'), ?_, ?_⟩
    · rw [findings, there, findings, here, last]
      rfl
    · rw [← List.append_assoc, ← List.append_assoc]
      exact List.perm_append_comm.append_right rest'
  | trans _ _ ih ih' =>
    obtain ⟨between, found, same⟩ := ih h
    obtain ⟨errors', found', same'⟩ := ih' found
    exact ⟨errors', found', same.trans same'⟩

end Policy

/-- Outcomes of validation that tell a caller the same. -/
inductive SameVerdict : Except Fault Unit → Except Fault Unit → Prop
  | accepted : SameVerdict (.ok ()) (.ok ())
  /-- The same errors in some order, with the same status and the same names on error. -/
  | rejected {report report' : Report} (errors : report.errors.Perm report'.errors)
      (status : report.status = report'.status)
      (names : ∀ names, report.isOnError names = report'.isOnError names) :
      SameVerdict (.error (.rejected report)) (.error (.rejected report'))
  /-- A comparison cannot be made, whichever is tried first. -/
  | stuck (cause cause' : Mishap) : SameVerdict (.error (.mishap cause)) (.error (.mishap cause'))

/-- What is found is reported as a plain bad request. -/
theorem Concludes.status_eq {policy : Policy} {config : Config} {episode : Episode}
    {names : List String} {report : Report}
    (concluded : Concludes (Policy.findings config policy episode names)
      (.error (.rejected report))) : report.status = 400 := by
  generalize found : Policy.findings config policy episode names = errors at concluded
  cases concluded with
  | rejected some listed =>
    exact Report.status_eq_of_forall fun error mem =>
      Policy.status_of_mem_findings found (listed.mem_iff.mp mem)

/-- Validations that conclude from the same names in two orders come to the same verdict. -/
theorem SameVerdict.of_concludes {policy : Policy} {config : Config} {episode : Episode}
    {names names' : List String} (perm : names.Perm names') {result result' : Except Fault Unit}
    (one : Concludes (Policy.findings config policy episode names) result)
    (other : Concludes (Policy.findings config policy episode names') result') :
    SameVerdict result result' := by
  cases here : Policy.findings config policy episode names with
  | error cause =>
    cases there : Policy.findings config policy episode names' with
    | error cause' =>
      rw [here] at one
      rw [there] at other
      cases one
      cases other
      exact .stuck cause cause'
    | ok errors' =>
      obtain ⟨errors, found, -⟩ := Policy.findings_perm perm.symm there
      rw [here] at found
      cases found
  | ok errors =>
    obtain ⟨errors', there, same⟩ := Policy.findings_perm perm here
    have plain := fun report (rejects : result = .error (.rejected report)) =>
      (rejects ▸ one).status_eq
    have plain' := fun report (rejects : result' = .error (.rejected report)) =>
      (rejects ▸ other).status_eq
    rw [here] at one
    rw [there] at other
    cases one with
    | accepted =>
      cases other with
      | accepted => exact .accepted
      | rejected some' => exact absurd (List.nil_perm.mp same) some'
    | @rejected _ report some listed =>
      cases other with
      | accepted => exact absurd (List.perm_nil.mp same) some
      | @rejected _ report' _ listed' =>
        have together : report.errors.Perm report'.errors :=
          listed.trans (same.trans listed'.symm)
        have reported : report.errors ≠ [] := fun none => some (none ▸ listed).nil_eq.symm
        exact .rejected together ((plain report rfl).trans (plain' report' rfl).symm)
          (Report.isOnError_of_perm together reported)

namespace Profile

variable {profile : Profile} {config : Config} {context : Context} {organization : Organization}
variable {remove : Bool}

/-- Two orders of validation come to the same verdict. -/
theorem IsSound.sameVerdict (sound : profile.IsSound config context) (first second : Order) :
    SameVerdict (profile.run fun policy => Profile.validate policy first.visit).1
      (profile.run fun policy => Profile.validate policy second.visit).1 :=
  .of_concludes ((first.perm _).trans (second.perm _).symm) (sound.concludes first)
    (sound.concludes second)

/-- Validation touches no organization. -/
theorem IsSound.organization_of_validate (sound : profile.IsSound config context) (order : Order) :
    (profile.run fun policy => Profile.validate policy order.visit).2.episode.organization =
      profile.episode.organization := by
  have outcome := profile.run_cases (fun policy => Profile.validate policy order.visit)
    (Policy.leads_validate sound.builtin sound.holds order.visit)
  rcases outcome with ⟨_, _, result, -, looked, same, rfl⟩ | ⟨_, _, result, same, -⟩
  · rw [result]
    exact same.organization
  · rw [result]
    exact same.organization

theorem IsSound.accepts_of_validate (sound : profile.IsSound config context) (order : Order)
    (valid : (profile.run fun policy => Profile.validate policy order.visit).1 = .ok ()) :
    Policy.Accepts config profile.policy profile.episode := by
  have concluded := sound.concludes order
  rw [valid] at concluded
  generalize found : Policy.findings config profile.policy profile.episode
    (order.visit profile.episode.values.names) = errors at concluded
  cases concluded
  exact accepts_of_visit order found

end Profile

/-! ## Removals -/

theorem Storage.without_comm (storage : Storage) (first second : String) :
    (storage.without first).without second = (storage.without second).without first := by
  cases storage with
  | entries map => exact congrArg entries (List.filter_comm _ _ _)
  | rows held => exact congrArg rows (List.filter_comm _ _ _)

/-- Removing names in another order comes to the same organization. -/
theorem Call.applyAll_removals_perm {names names' : List String} (perm : names.Perm names')
    (organization : Organization) :
    applyAll organization (names.map remove) = applyAll organization (names'.map remove) := by
  induction perm generalizing organization with
  | nil => rfl
  | cons name _ ih => exact ih _
  | swap first second rest =>
    have same : (remove second).apply ((remove first).apply organization) =
        (remove first).apply ((remove second).apply organization) := by
      simp only [apply, Storage.without_comm]
    exact congrArg (applyAll · (rest.map remove)) same.symm
  | trans _ _ ih ih' => exact (ih organization).trans (ih' organization)

namespace Profile

variable {profile : Profile} {policy : Policy} {config : Config} {context : Context}
variable {episode : Episode} {organization : Organization} {remove : Bool}

theorem removals_perm (config : Config) (policy : Policy) (episode : Episode)
    {names names' : List String} (perm : names.Perm names') :
    (removals config policy episode names).Perm (removals config policy episode names') :=
  perm.filter _

/-- The calls of an update are the same in another order of removal, and come to the same. -/
theorem dueCalls_perm (config : Config) (policy : Policy) (remove : Bool) (first second : Order)
    (episode : Episode) (organization : Organization) :
    (dueCalls config policy remove first episode organization).Perm
        (dueCalls config policy remove second episode organization) ∧
      Call.applyAll organization (dueCalls config policy remove first episode organization) =
        Call.applyAll organization (dueCalls config policy remove second episode organization) := by
  have visits : (first.visit (omitted episode)).Perm (second.visit (omitted episode)) :=
    (first.perm _).trans (second.perm _).symm
  have removed := removals_perm config policy episode visits
  cases remove with
  | false => exact ⟨List.Perm.refl _, rfl⟩
  | true =>
    refine ⟨(removed.map Call.remove).append_left _, ?_⟩
    simp only [dueCalls, removeCalls, Call.applyAll, List.foldl_append, if_true]
    exact Call.applyAll_removals_perm removed _

/-- An update that comes to its end in some order comes to it in any other one, with the same
organization. -/
theorem IsSound.update_perm (sound : profile.IsSound config context)
    (validation validation' removal removal' : Order) {after : Profile}
    (updated : (profile.run fun policy =>
      Profile.update policy remove validation.visit removal.visit) = (.ok (), after)) :
    ∃ after', (profile.run fun policy =>
        Profile.update policy remove validation'.visit removal'.visit) = (.ok (), after') ∧
      after'.episode.organization = after.episode.organization := by
  obtain ⟨organization, bound⟩ := sound.bound_of_update_ok validation removal updated
  obtain ⟨accepted, leaves⟩ := sound.of_update_ok bound validation removal updated
  have decided := decided_of_leaves leaves
  have granted := sound.granted_of_update_ok bound validation removal updated
  obtain ⟨same, together⟩ := dueCalls_perm config profile.policy remove removal removal'
    profile.episode organization
  obtain ⟨last, -, ran, -⟩ :=
    sound.run_update remove bound accepted decided validation' removal' rfl
  rw [Call.performAll_of_granted fun call mem => granted call (same.mem_iff.mpr mem)] at ran
  refine ⟨_, ran, ?_⟩
  rw [sound.update_applies bound validation removal updated,
    sound.update_applies bound validation' removal' ran, together]

end Profile

/-- Neither the verdict of validation nor what an update comes to depends on the order in which
names are visited. -/
theorem Provider.IsBuiltin.visits_commute {provider : Provider} {config : Config}
    (builtin : provider.IsBuiltin config) {context : Context} {submitted : Submission}
    {organization : Option Organization} {profile : Profile}
    (created : provider.create context submitted.entries organization = .ok profile)
    (remove : Bool) (validation validation' removal removal' : Order) :
    SameVerdict (profile.run fun policy => Profile.validate policy validation.visit).1
        (profile.run fun policy => Profile.validate policy validation'.visit).1 ∧
      ∀ after, (profile.run fun policy =>
          Profile.update policy remove validation.visit removal.visit) = (.ok (), after) →
        ∃ after', (profile.run fun policy =>
            Profile.update policy remove validation'.visit removal'.visit) = (.ok (), after') ∧
          after'.episode.organization = after.episode.organization := by
  have sound := (builtin.isFresh_create created).isSound
  constructor
  · exact sound.sameVerdict validation validation'
  · intro after updated
    exact sound.update_perm validation validation' removal removal' updated

/-- The order from the last name to the first. -/
def Order.reversed : Order :=
  ⟨List.reverse, List.reverse_perm⟩

/-- Two names are removed in either order, and two changed names are reported in either order. -/
theorem Provider.visits_commute_of_two :
    let organization : Organization :=
      { name := .text "sample", storage := .entries [("first", [.text "1"]),
          ("second", [.text "2"]), ("org_ro_x", [.text "x"]), ("org_ro_y", [.text "y"])] }
    let update := fun (validation removal : Order) policy =>
      Profile.update policy true validation.visit removal.visit
    let validate := fun (order : Order) policy => Profile.validate policy order.visit
    (∃ profile after after', (Provider.standard {}).IsBuiltin {} ∧
      (Provider.standard {}).create .updateProfile [] (some organization) = .ok profile ∧
      profile.run (update .listed .listed) = (.ok (), after) ∧
      profile.run (update .reversed .reversed) = (.ok (), after') ∧
      after'.episode.organization = after.episode.organization) ∧
    ∃ profile fault,
      (Provider.standard {}).create .updateProfile
        (Submission.ofPairs [("org_ro_x", .text "z"), ("org_ro_y", .text "z")]).entries
        (some organization) = .ok profile ∧
      (profile.run (validate .listed)).1 = .error fault ∧ fault.typeName = "ValidationException" ∧
      SameVerdict (profile.run (validate .listed)).1 (profile.run (validate .reversed)).1 := by
  intro organization update validate
  have builtin := Provider.isBuiltin_standard {}
  constructor
  · have creates : ((Provider.standard {}).create .updateProfile (Submission.ofPairs []).entries
        (some organization)).toBool = true := by decide +kernel
    have created := eq_ok_of_toBool creates
    have succeeds : ((((Provider.standard {}).create .updateProfile (Submission.ofPairs []).entries
        (some organization)).toOption.getD default).run (update .listed .listed)).1.toBool = true := by
      decide +kernel
    have updated := Profile.run_eq_of_toBool succeeds
    obtain ⟨-, alike⟩ := builtin.visits_commute created true .listed .reversed .listed .reversed
    obtain ⟨after', updated', same⟩ := alike _ updated
    exact ⟨_, _, after', builtin, created, updated, updated', same⟩
  · let submitted := Submission.ofPairs [("org_ro_x", .text "z"), ("org_ro_y", .text "z")]
    have creates : ((Provider.standard {}).create .updateProfile submitted.entries
        (some organization)).toBool = true := by decide +kernel
    have created := eq_ok_of_toBool creates
    obtain ⟨same, -⟩ := builtin.visits_commute created true .listed .reversed .listed .reversed
    have named : ((((Provider.standard {}).create .updateProfile submitted.entries
        (some organization)).toOption.getD default).run (validate .listed)).1.mapError
          Fault.typeName = .error "ValidationException" := by decide +kernel
    cases result : ((((Provider.standard {}).create .updateProfile submitted.entries
        (some organization)).toOption.getD default).run (validate .listed)).1 with
    | ok done =>
      rw [result] at named
      cases named
    | error fault =>
      rw [result] at named
      exact ⟨_, fault, created, result, Except.error.inj named, same⟩

end ProfilePolicy
