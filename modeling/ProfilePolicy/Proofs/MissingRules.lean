import ProfilePolicy.Proofs.Asking
import ProfilePolicy.Proofs.Resolution

/-!
# What missing rules leave alone

An update that goes on to write has met all read-only rules, unless its set is empty, and an empty
set has nothing to write. Removing asks the read-only rules again, and a name is removed only after
all of them were run. So a missing validator comes up before anything is written, or not at all. A
set is not rejected after that either: what fails while an organization is written is reported as a
failure of writing.
-/

namespace ProfilePolicy

/-! ## Organizations that refuse -/

/-- An organization that refuses a write does not call it a defect. -/
def Organization.RefusesPlainly (organization : Organization) : Prop :=
  ∀ (call : Call) fault, call.refusal organization = some fault → ¬ fault.IsDefect

theorem Organization.RefusesPlainly.of_willing {organization : Organization}
    (willing : organization.refusals = none) : organization.RefusesPlainly := by
  intro call fault refused
  rw [Call.refusal_of_willing willing] at refused
  cases refused

def Episode.RefusesPlainly (episode : Episode) : Prop :=
  ∀ organization, episode.organization = some organization → organization.RefusesPlainly

theorem Organization.RefusesPlainly.of_follows {before after : Organization}
    (plain : before.RefusesPlainly) (follows : after.Follows before) : after.RefusesPlainly :=
  fun call fault refused => plain call fault (Call.refusal_congr follows.refusals call ▸ refused)

namespace Profile

open ProfilePolicy.Action

variable {policy : Policy} {shared : Catalog} {episode : Episode}

/-! ## Writing -/

/-- A call that is refused does not fail with a defect. -/
theorem leads_call {action : Action Unit} (call : Call)
    (held : shared.entries <+: episode.catalog.entries) (plain : episode.RefusesPlainly)
    (skips : episode.organization = none → action episode = .ok () episode)
    (carries : ∀ organization, episode.organization = some organization →
      CarriesOut action episode organization [call] ()) :
    Leads action episode
      (fun _ after => shared.entries <+: after.catalog.entries ∧ after.RefusesPlainly)
      (fun fault _ => ¬ fault.IsDefect) := by
  cases bound : episode.organization with
  | none =>
    rw [leads_of_ok (skips bound)]
    exact ⟨held, plain⟩
  | some organization =>
    obtain ⟨after, writes, result⟩ := carries organization bound
    cases answer : call.refusal organization with
    | some fault =>
      rw [Call.performAll_cons_of_refused answer] at result
      rw [leads_of_error result]
      exact plain organization bound call fault answer
    | none =>
      rw [Call.performAll_cons_of_granted answer] at writes result
      rw [leads_of_ok result]
      refine ⟨held.trans writes.catalog, fun left known => ?_⟩
      cases writes.organization.symm.trans known
      exact (plain organization bound).of_follows (Call.follows_apply organization call)

theorem leads_setAttribute_any (held : shared.entries <+: episode.catalog.entries)
    (plain : episode.RefusesPlainly) (name : String) (texts : List String) :
    Leads (setAttribute name texts) episode
      (fun _ after => shared.entries <+: after.catalog.entries ∧ after.RefusesPlainly)
      (fun fault _ => ¬ fault.IsDefect) := by
  apply leads_call (.set name texts) held plain
  · intro unbound
    rw [setAttribute, unbound]
  · exact fun organization bound => carriesOut_setAttribute bound name texts

theorem leads_removeAttribute_any (held : shared.entries <+: episode.catalog.entries)
    (plain : episode.RefusesPlainly) (name : String) :
    Leads (removeAttribute name) episode
      (fun _ after => shared.entries <+: after.catalog.entries ∧ after.RefusesPlainly)
      (fun fault _ => ¬ fault.IsDefect) := by
  apply leads_call (.remove name) held plain
  · intro unbound
    rw [removeAttribute, unbound]
  · exact fun organization bound => carriesOut_removeAttribute bound name

/-- Setting names does not fail with a defect, and without names it does nothing. -/
theorem leads_writeAll_any (held : shared.entries <+: episode.catalog.entries)
    (plain : episode.RefusesPlainly) (remove : Bool) (entries : AttributeValues) :
    Leads (writeAll remove entries) episode
      (fun _ after => shared.entries <+: after.catalog.entries ∧ after.RefusesPlainly ∧
        (entries = [] → after = episode))
      (fun fault _ => ¬ fault.IsDefect) := by
  induction entries generalizing episode with
  | nil => exact ⟨held, plain, fun _ => rfl⟩
  | cons entry rest ih =>
    obtain ⟨name, submitted⟩ := entry
    have onward : ∀ between : Episode, shared.entries <+: between.catalog.entries →
        between.RefusesPlainly → Leads (writeAll remove rest) between
          (fun _ after => shared.entries <+: after.catalog.entries ∧ after.RefusesPlainly ∧
            ((name, submitted) :: rest = [] → after = episode))
          (fun fault _ => ¬ fault.IsDefect) := by
      intro between held plain
      refine (ih held plain).mono ?_ fun _ _ => id
      rintro written after ⟨held, plain, -⟩
      exact ⟨held, plain, fun impossible => by cases impossible⟩
    rw [writeAll]
    split
    · exact onward episode held plain
    · rw [leads_bind, leads_inspect]
      refine ⟨fun wanted _ => ?_, fun _ _ => id⟩
      cases wanted with
      | none => exact onward episode held plain
      | some texts =>
        simp only [leads_bind]
        refine (leads_setAttribute_any held plain name texts).mono ?_ fun _ _ => id
        rintro _ between ⟨held, plain⟩
        exact onward between held plain

/-- Names are removed only where a defect cannot come up any more. -/
theorem leads_removeAll_any (sturdy : policy.validators.IsSturdy) (located : policy.IsWithin shared)
    (held : shared.entries <+: episode.catalog.entries) (plain : episode.RefusesPlainly)
    (names : List String) :
    Leads (removeAll policy names) episode (fun _ _ => True)
      (fun fault after => fault.IsDefect →
        after.organization = episode.organization ∧ ¬ policy.ResolvesMarker shared) := by
  induction names generalizing episode with
  | nil => trivial
  | cons name rest ih =>
    rw [removeAll]
    split
    · exact ih held plain
    · rw [leads_bind]
      refine (Policy.leads_isReadOnly sturdy located held name).mono ?_ ?_
      · rintro kept asked ⟨same, met⟩
        have plainAsked : asked.RefusesPlainly := by
          rw [Episode.RefusesPlainly, same.organization]
          exact plain
        split
        · refine (ih same.catalog plainAsked).mono (fun _ _ => id) ?_
          intro fault after failed defect
          exact ⟨(failed defect).1.trans same.organization, (failed defect).2⟩
        · rename_i free
          have resolves := met (Bool.eq_false_iff.mpr free)
          simp only [leads_bind]
          refine (leads_removeAttribute_any same.catalog plainAsked name).mono ?_ ?_
          · rintro _ between ⟨held, plain⟩
            refine (ih held plain).mono (fun _ _ _ => trivial) ?_
            exact fun fault after failed defect => absurd resolves (failed defect).2
          · exact fun fault after sound defect => absurd defect sound
      · rintro fault after ⟨same, missing⟩ defect
        exact ⟨same.organization, missing defect⟩

/-- Once the set is empty or all read-only rules were met, a defect comes up before all writes. -/
theorem leads_applyDifference_any (sturdy : policy.validators.IsSturdy)
    (located : policy.IsWithin shared) (held : shared.entries <+: episode.catalog.entries)
    (plain : episode.RefusesPlainly)
    (met : policy.ResolvesMarker shared ∨ episode.values = []) (remove : Bool) (visit : Visit) :
    Leads (applyDifference policy remove visit) episode (fun _ _ => True)
      (fun fault after => fault.IsDefect → after.organization = episode.organization) := by
  rw [applyDifference, leads_bind, leads_get, leads_bind]
  refine (leads_writeAll_any held plain remove _).mono ?_
    fun _ _ sound defect => absurd defect sound
  rintro written between ⟨heldBetween, plainBetween, idle⟩
  rw [leads_bind, leads_get]
  cases remove with
  | false => exact trivial
  | true =>
    simp only [if_true, leads_bind]
    refine (leads_removeAll_any sturdy located heldBetween plainBetween _).mono
      (fun _ _ _ => trivial) ?_
    intro fault after failed defect
    obtain ⟨same, missing⟩ := failed defect
    have nothing : policy.writable episode = [] := by
      rw [Policy.writable, met.resolve_left missing]
      rfl
    rw [idle nothing] at same
    exact same

theorem isDefect_of_reported {fault : Fault} (defect : fault.reported.IsDefect) :
    fault.IsDefect := by
  cases fault <;> exact defect

theorem reported_ne_rejected (fault : Fault) (report : Report) :
    fault.reported ≠ .rejected report := by
  cases fault <;> exact fun impossible => by cases impossible

/-- What fails while an organization is written is not reported as a rejection. -/
theorem leads_reportingFailures_any {action : Action Unit} {organization : Option Organization}
    (h : Leads action episode (fun _ _ => True)
      (fun fault after => fault.IsDefect → after.organization = organization)) :
    Leads (reportingFailures action) episode (fun _ _ => True)
      (fun fault after => (∀ report, fault ≠ .rejected report) ∧
        (fault.IsDefect → after.organization = organization)) := by
  cases result : action episode with
  | ok done after =>
    rw [leads_of_ok (reportingFailures_ok result)]
    trivial
  | error fault after =>
    rw [leads_of_error result] at h
    obtain ⟨told, same, reported⟩ := reportingFailures_error result
    rw [leads_of_error reported]
    refine ⟨reported_ne_rejected fault, fun defect => ?_⟩
    exact same.organization.trans (h (isDefect_of_reported defect))

/-- What an update that fails leaves: a rejection and a defect do not touch the organization, and a
rejection does not raise the flag. -/
structure Harmless (before : Episode) (fault : Fault) (after : Episode) : Prop where
  rejection : ∀ report, fault = .rejected report →
    after.organization = before.organization ∧ after.validated = before.validated
  defect : fault.IsDefect → after.organization = before.organization

theorem leads_update_any (sturdy : policy.validators.IsSturdy) (located : policy.IsWithin shared)
    (held : shared.entries <+: episode.catalog.entries) (plain : episode.RefusesPlainly)
    (fresh : episode.validated = false) (remove : Bool) (validation : Order) (visit : Visit) :
    Leads (update policy remove validation.visit visit) episode (fun _ _ => True)
      (fun fault after => Harmless episode fault after) := by
  rw [update, leads_bind, leads_get]
  simp only [fresh, Bool.false_eq_true, if_false]
  rw [leads_bind]
  refine (leads_validate_any sturdy located held validation).mono ?_ ?_
  · rintro _ between ⟨bound, heldBetween, met⟩
    have plainBetween : between.RefusesPlainly := by
      rw [Episode.RefusesPlainly, bound]
      exact plain
    rw [leads_bind, leads_get]
    split
    · rw [leads_throw]
      exact ⟨fun _ impossible => (by cases impossible), fun _ => bound⟩
    · have written := leads_reportingFailures_any
        (leads_applyDifference_any sturdy located heldBetween plainBetween met remove visit)
      refine written.mono (fun _ _ => id) ?_
      rintro fault after ⟨notRejected, same⟩
      exact ⟨fun report rejected => absurd rejected (notRejected report),
        fun defect => (same defect).trans bound⟩
  · intro fault after same
    exact ⟨fun _ _ => ⟨same.organization, same.validated⟩, fun _ => same.organization⟩

/-- An update of a profile that cannot be validated ends like its validation. -/
theorem run_update_of_invalid {profile : Profile} {fault : Fault} {visit : Visit}
    (fresh : profile.episode.validated = false)
    (invalid : (profile.run fun policy => validate policy visit).1 = .error fault) (remove : Bool)
    (removal : Visit) :
    (profile.run fun policy => update policy remove visit removal) =
      (.error fault, (profile.run fun policy => validate policy visit).2) := by
  cases result : validate profile.policy visit profile.episode with
  | ok done after =>
    simp only [run, result] at invalid
    cases invalid
  | error fault' after =>
    simp only [run, result] at invalid
    cases invalid
    have same : update profile.policy remove visit removal profile.episode =
        .error fault after := by
      rw [update, get_bind]
      simp only [fresh, Bool.false_eq_true, if_false]
      exact bind_of_error result
    simp only [run, result, same]

/-- Whatever ends validation leaves the flag down. -/
theorem validated_of_invalid {profile : Profile} {fault : Fault}
    (sturdy : profile.policy.validators.IsSturdy) (located : profile.policy.IsWithin shared)
    (held : shared.entries <+: profile.episode.catalog.entries)
    (fresh : profile.episode.validated = false) (order : Order)
    (invalid : (profile.run fun policy => validate policy order.visit).1 = .error fault)
    (remove : Bool) (removal : Visit) :
    (profile.run fun policy =>
      update policy remove order.visit removal).2.episode.validated = false := by
  rw [run_update_of_invalid fresh invalid]
  have outcome := profile.run_cases (fun policy => validate policy order.visit)
    (leads_validate_any sturdy located held order)
  rcases outcome with ⟨_, _, accepted, -⟩ | ⟨_, _, rejected, spares⟩
  · rw [accepted] at invalid
    cases invalid
  · rw [rejected]
    exact spares.validated.trans fresh

end Profile

/-! ## Profiles just made -/

namespace Policy

theorem begin_starts {policy : Policy} {submitted : Keyed Value}
    {organization : Option Organization} {catalog : Catalog} {episode : Episode}
    (begun : policy.begin submitted organization catalog = .ok episode) :
    episode.organization = organization ∧ episode.validated = false ∧
      episode.catalog = catalog := by
  obtain ⟨values, -, restored⟩ := begin_eq_ok begun
  rcases restoreName_eq_ok restored with ⟨rfl, -⟩ | rfl
  · exact ⟨rfl, rfl, rfl⟩
  · exact ⟨rfl, rfl, rfl⟩

end Policy

/-- An update of a fresh profile that rejects, or that comes up with a defect of the rules or of the
way the library is used, leaves the organization as it was. A rejection and whatever ends validation
leave the flag down. -/
theorem Provider.update_spares_organization {provider : Provider}
    (sturdy : provider.validators.IsSturdy) {context : Context} {submitted : Keyed Value}
    {organization : Option Organization} {profile after : Profile}
    (plain : ∀ known, organization = some known → known.RefusesPlainly)
    (created : provider.create context submitted organization = .ok profile)
    (remove : Bool) (validation removal : Order) {fault : Fault}
    (failed : (profile.run fun policy =>
      Profile.update policy remove validation.visit removal.visit) = (.error fault, after)) :
    ((∃ report, fault = .rejected report) ∨ fault.IsDefect →
      after.episode.organization = organization) ∧
    ((∃ report, fault = .rejected report) ∨
        (profile.run fun policy => Profile.validate policy validation.visit).1 = .error fault →
      after.episode.validated = false) := by
  obtain ⟨policy, found, created⟩ := bind_eq_ok.mp created
  obtain ⟨episode, begun, created⟩ := bind_eq_ok.mp created
  cases created
  obtain ⟨bound, fresh, shared⟩ := Policy.begin_starts (orMishap_eq_ok begun)
  obtain ⟨validators, located⟩ := Provider.isWithin_policy found
  have sturdyPolicy : policy.validators.IsSturdy := validators ▸ sturdy
  have held : provider.registry.catalog.entries <+: episode.catalog.entries :=
    shared ▸ List.prefix_rfl
  have plainEpisode : episode.RefusesPlainly := fun known same => plain known (bound ▸ same)
  have outcome := Profile.run_cases { policy, episode }
    (fun policy => Profile.update policy remove validation.visit removal.visit)
    (Profile.leads_update_any sturdyPolicy located held plainEpisode fresh remove validation
      removal.visit)
  rcases outcome with ⟨_, last, result, -⟩ | ⟨fault', last, result, harmless⟩
  · rw [result] at failed
    cases failed
  · rw [result] at failed
    cases failed
    constructor
    · rintro (⟨report, rejected⟩ | defect)
      · exact (harmless.rejection report rejected).1.trans bound
      · exact (harmless.defect defect).trans bound
    · rintro (⟨report, rejected⟩ | invalid)
      · exact (harmless.rejection report rejected).2.trans fresh
      · have down := Profile.validated_of_invalid sturdyPolicy located held fresh validation invalid
          remove removal.visit
        rw [result] at down
        exact down

/-- A read-only rule names a validator that there is not. As nothing is submitted, this comes up
when a name is to be removed, and the organization is left alone. -/
theorem Provider.update_spares_organization_of_absent :
    let provider : Provider :=
      { registry :=
          { contexts := [(.updateMetadata, { context := .updateMetadata, attributes := [0] })]
            catalog := { entries := [
              { name := readOnlyMarker, rules := [{ identity := 0, validator := "absent" }] }] } }
        validators := Validator.builtin }
    let organization : Organization :=
      { name := .text "sample", storage := .entries [("plain", [.text "1"])] }
    let update := fun policy =>
      Profile.update policy true Order.listed.visit Order.listed.visit
    provider.validators.IsSturdy ∧ organization.RefusesPlainly ∧
    ∃ profile after reference,
      provider.create .updateMetadata [] (some organization) = .ok profile ∧
      profile.run update = (.error (.missing reference), after) ∧
      after.episode.organization = some organization := by
  intro provider organization update
  have sturdy : provider.validators.IsSturdy := Registry.isSturdy_builtin
  have plain : organization.RefusesPlainly := .of_willing rfl
  have creates : (provider.create .updateMetadata [] (some organization)).toBool = true := by
    decide +kernel
  have created := eq_ok_of_toBool creates
  have fails : (match (((provider.create .updateMetadata [] (some organization)).toOption.getD
      default).run update).1 with
      | .error (.missing _) => true
      | _ => false) = true := by decide +kernel
  generalize made : (provider.create .updateMetadata [] (some organization)).toOption.getD
    default = profile at created fails
  rcases failed : profile.run update with ⟨result, after⟩
  rw [failed] at fails
  split at fails
  · rename_i reference same
    cases same
    have spared := Provider.update_spares_organization sturdy
      (fun known same => Option.some.inj same ▸ plain) created true .listed .listed failed
    exact ⟨sturdy, plain, _, after, _, created, failed, spared.1 (Or.inr trivial)⟩
  · cases fails

/-- An organization that calls it a defect when it refuses a write may have been written before. -/
theorem Provider.defect_after_write :
    let provider : Provider :=
      { registry := { contexts := [(.updateProfile, { context := .updateProfile })] }
        validators := [] }
    let organization : Organization :=
      { name := .text "sample"
        storage := .entries [("a", [.text "1"]), ("b", [.text "1"])]
        refusals := some { setting := [("b", .missing (.outside (.text "gone")))] } }
    let update := fun policy =>
      Profile.update policy true Order.listed.visit Order.listed.visit
    provider.validators.IsSturdy ∧
    ∃ profile after reference left,
      provider.create .updateProfile [("a", .list [.text "2"]), ("b", .list [.text "2"])]
        (some organization) = .ok profile ∧
      profile.run update = (.error (.missing reference), after) ∧
      after.episode.organization = some left ∧
      left.valuesOf "a" ≠ organization.valuesOf "a" := by
  intro provider organization update
  have sturdy : provider.validators.IsSturdy := fun _ _ found => by cases found
  have creates : (provider.create .updateProfile [("a", .list [.text "2"]),
      ("b", .list [.text "2"])] (some organization)).toBool = true := by decide +kernel
  have created := eq_ok_of_toBool creates
  have fails : (match (((provider.create .updateProfile [("a", .list [.text "2"]),
      ("b", .list [.text "2"])] (some organization)).toOption.getD default).run update).1 with
      | .error (.missing _) => true
      | _ => false) = true := by decide +kernel
  have texts : (((provider.create .updateProfile [("a", .list [.text "2"]),
      ("b", .list [.text "2"])] (some organization)).toOption.getD
        default).run update).2.episode.organization.map
          (fun left => (left.valuesOf "a").filterMap Value.text?) = some ["2"] := by decide +kernel
  generalize made : (provider.create .updateProfile [("a", .list [.text "2"]),
    ("b", .list [.text "2"])] (some organization)).toOption.getD default = profile
      at created fails texts
  rcases failed : profile.run update with ⟨result, after⟩
  rw [failed] at fails texts
  obtain ⟨left, bound, written⟩ := Option.map_eq_some_iff.mp texts
  split at fails
  · rename_i reference same
    cases same
    refine ⟨sturdy, _, after, reference, left, created, failed, bound, fun kept => ?_⟩
    rw [kept] at written
    revert written
    decide
  · cases fails

end ProfilePolicy
