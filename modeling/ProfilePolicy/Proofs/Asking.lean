import ProfilePolicy.Proofs.Creation
import ProfilePolicy.Proofs.Plan

/-!
# What an update asks for

An accepted update makes the calls that are due when it begins, whatever it is refused: refusals
decide how far it comes and not what it asks for. So the calls that an action makes can be told from
outside, by running it over all ways to refuse calls. A profile does not depend on refusals either.
-/

namespace ProfilePolicy

open Value

namespace Profile

open ProfilePolicy.Action

variable {policy : Policy} {config : Config} {episode : Episode} {organization : Organization}
variable {remove : Bool}

/-! ## Organizations that refuse differently -/

section Over

variable {again : Episode} {refusals : Option Refusals}

/-- An episode over an organization that differs in its refusals alone. -/
structure Resembles (episode again : Episode) (organization : Organization)
    (refusals : Option Refusals) : Prop where
  organization : again.organization = some (organization.refusing refusals)
  values : again.values = episode.values
  catalog : episode.catalog.entries <+: again.catalog.entries

theorem rejection_resembles (bound : episode.organization = some organization)
    (alike : Resembles episode again organization refusals) (name : String) :
    Policy.rejection config (policy.situation name again) =
      Policy.rejection config (policy.situation name episode) := by
  apply Situation.rejection_congr
  · rfl
  · rfl
  · simp only [Situation.value, Policy.situation, alike.values]
  · rw [stored_situation bound, stored_situation alike.organization]
    rfl

/-- The same calls are due, whatever is refused. -/
theorem dueCalls_resembles (builtin : policy.IsBuiltin) (holds : episode.catalog.Holds config)
    (bound : episode.organization = some organization)
    (alike : Resembles episode again organization refusals) (order : Order) :
    dueCalls config policy remove order again (organization.refusing refusals) =
      dueCalls config policy remove order episode organization := by
  have writable : policy.writable again = policy.writable episode := by
    rw [Policy.writable, Policy.writable, alike.values]
    apply List.filter_congr
    intro entry _
    rw [builtin.deniedByMetadata_eq holds, builtin.deniedByMetadata_eq (holds.mono alike.catalog)]
  have leftOut : omitted again = omitted episode := by
    unfold omitted
    rw [bound, alike.organization, alike.values]
    rfl
  rw [dueCalls, dueCalls, removeCalls, removeCalls, writable, leftOut,
    removals_congr fun name _ => rejection_resembles bound alike name]
  rfl

/-- The same is left under every name. -/
theorem updates_resembles (bound : episode.organization = some organization)
    (alike : Resembles episode again organization refusals) :
    Updates config policy remove again = Updates config policy remove episode := by
  funext name left
  have same : (policy.situation name again).updated config remove =
      (policy.situation name episode).updated config remove := by
    apply Situation.updated_congr
    · rfl
    · rfl
    · exact alike.values
    · rw [stored_situation bound, stored_situation alike.organization]
      rfl
  unfold Updates
  rw [same]

theorem Decided.resembles (decided : Decided config policy remove episode)
    (bound : episode.organization = some organization)
    (alike : Resembles episode again organization refusals) :
    Decided config policy remove again := by
  rw [Decided, updates_resembles bound alike]
  exact decided

theorem accepts_resembles (bound : episode.organization = some organization)
    (alike : Resembles episode again organization refusals)
    (accepted : Policy.Accepts config policy episode) : Policy.Accepts config policy again := by
  intro name mem
  rw [alike.values] at mem
  rw [← accepted name mem]
  apply Policy.finding_congr
  · rfl
  · rfl
  · simp only [Situation.value, Policy.situation, alike.values]
  · rw [stored_situation bound, stored_situation alike.organization]
    rfl
  · simp only [Policy.situation, bound, alike.organization]
    rfl
  · simp only [Policy.situation, bound, alike.organization, Option.isNone_some]

end Over

/-! ## Updates -/

theorem reportingFailures_ok {action : Action Unit} {after : Episode}
    (result : action episode = .ok () after) : reportingFailures action episode = .ok () after := by
  rw [reportingFailures, result]

theorem reportingFailures_error {action : Action Unit} {after : Episode} {fault : Fault}
    (result : action episode = .error fault after) :
    ∃ told, after.Undisturbed told ∧
      reportingFailures action episode = .error fault.reported told := by
  rw [reportingFailures, result]
  cases words : fault.causeMessage? with
  | none =>
    refine ⟨after, .refl after, ?_⟩
    simp only [words]
  | some message =>
    refine ⟨after.log (.updateFailed after.organizationName message), ⟨rfl, rfl, rfl, ?_⟩, ?_⟩
    · exact List.prefix_rfl
    · simp only [words]

theorem validate_accepted (builtin : policy.IsBuiltin) (holds : episode.catalog.Holds config)
    (accepted : Policy.Accepts config policy episode) (order : Order) :
    ∃ looked, episode.Undisturbed looked ∧
      validate policy order.visit episode = .ok () { looked with validated := true } := by
  have nothing : Policy.findings config policy episode (order.visit episode.values.names) =
      .ok [] := by
    rw [Policy.findings_eq_nil_iff]
    intro name mem
    exact accepted name ((order.perm _).mem_iff.mp mem)
  have outcome := Policy.leads_validate builtin holds order.visit
  cases result : validate policy order.visit episode with
  | ok done after =>
    rw [leads_of_ok result] at outcome
    obtain ⟨-, looked, same, rfl⟩ := outcome
    exact ⟨looked, same, rfl⟩
  | error fault after =>
    rw [leads_of_error result] at outcome
    obtain ⟨-, rejects⟩ := outcome
    rw [Policy.Rejects, nothing] at rejects
    exact absurd rfl rejects.1

/-- An accepted update goes on to write, whether the flag is raised or validation raises it. -/
theorem update_start (remove : Bool) (builtin : policy.IsBuiltin)
    (holds : episode.catalog.Holds config) (bound : episode.organization = some organization)
    (accepted : Policy.Accepts config policy episode) (validation : Order) (visit : Visit) :
    ∃ start, Resembles episode start organization organization.refusals ∧
      update policy remove validation.visit visit episode =
        reportingFailures (applyDifference policy remove visit) start := by
  cases flag : episode.validated with
  | true =>
    refine ⟨episode, ⟨bound, rfl, List.prefix_rfl⟩, ?_⟩
    rw [update, get_bind]
    simp only [flag, if_true, get_bind, bound, Option.isNone_some, Bool.false_eq_true,
      if_false]
  | false =>
    obtain ⟨looked, same, validated⟩ := validate_accepted builtin holds accepted validation
    have present : looked.organization = some organization := same.organization.trans bound
    refine ⟨{ looked with validated := true }, ⟨present, same.values, same.catalog⟩, ?_⟩
    rw [update, get_bind]
    simp only [flag, Bool.false_eq_true, if_false]
    rw [bind_of_ok validated, get_bind, present]
    rfl

/-- An accepted update whose comparisons can be made is the calls that are due in turn: it comes to
its end and records them, or it fails with what the first refused one fails with. -/
theorem update_performs (remove : Bool) (builtin : policy.IsBuiltin)
    (holds : episode.catalog.Holds config) (distinct : Keyed.Distinct episode.values)
    (bound : episode.organization = some organization)
    (accepted : Policy.Accepts config policy episode)
    (decided : Decided config policy remove episode) (validation removal : Order) :
    ∃ after, episode.Writes after (Call.performAll organization
        (dueCalls config policy remove removal episode organization)).2 ∧
      update policy remove validation.visit removal.visit episode =
        match (Call.performAll organization
          (dueCalls config policy remove removal episode organization)).1 with
        | .ok () => .ok () (after.log (updateRecord policy organization
            (dueCalls config policy remove removal episode organization)))
        | .error fault => .error fault.reported after := by
  obtain ⟨start, alike, entered⟩ :=
    update_start remove builtin holds bound accepted validation removal.visit
  have startDecided := decided.resembles bound alike
  have sofar : episode.Writes start organization :=
    ⟨alike.organization, alike.values, alike.catalog⟩
  have performed := applyDifference_performs builtin (holds.mono alike.catalog)
    (alike.values ▸ distinct) sofar.organization startDecided removal
  have sameCalls : dueCalls config policy remove removal start organization =
      dueCalls config policy remove removal episode organization :=
    dueCalls_resembles builtin holds bound alike removal
  rw [sameCalls] at performed
  obtain ⟨after, writes, result⟩ := performed
  rw [entered]
  cases outcome : (Call.performAll organization
      (dueCalls config policy remove removal episode organization)).1 with
  | ok done =>
    rw [outcome] at result
    exact ⟨after, sofar.trans writes, reportingFailures_ok result⟩
  | error fault =>
    rw [outcome] at result
    obtain ⟨told, same, reported⟩ := reportingFailures_error result
    exact ⟨told, sofar.trans (writes.trans (same.writes writes.organization)), reported⟩

/-! ## The calls of an action -/

def refusing (profile : Profile) (refusals : Option Refusals) : Profile :=
  { profile with episode := { profile.episode with
      organization := profile.episode.organization.map (·.refusing refusals) } }

/-- The calls that an action makes in turn: whatever is refused, the first refused one of them ends
the action, and nothing else does. -/
def Asks (profile : Profile) (action : Policy → Action Unit) (calls : List Call) : Prop :=
  ∀ organization, profile.episode.organization = some organization → ∀ refusals,
    ∃ after,
      (profile.refusing refusals).run action =
        ((Call.performAll (organization.refusing refusals) calls).1.mapError Fault.reported,
          after) ∧
      after.episode.organization =
        some (Call.performAll (organization.refusing refusals) calls).2

variable {profile : Profile} {context : Context}

theorem resembles_refusing (bound : profile.episode.organization = some organization)
    (refusals : Option Refusals) :
    Resembles profile.episode (profile.refusing refusals).episode organization refusals := by
  refine ⟨?_, rfl, List.prefix_rfl⟩
  simp only [refusing, bound, Option.map_some]

theorem IsSound.refusing (sound : profile.IsSound config context)
    (bound : profile.episode.organization = some organization) (refusals : Option Refusals) :
    (profile.refusing refusals).IsSound config context := by
  refine ⟨sound.context_eq, sound.builtin, sound.holds, sound.distinct, fun raised => ?_⟩
  exact accepts_resembles bound (resembles_refusing bound refusals) (sound.accepted raised)

theorem Asks.run_eq {action : Policy → Action Unit} {calls : List Call}
    (asks : profile.Asks action calls) (bound : profile.episode.organization = some organization) :
    (profile.run action).1 = (Call.performAll organization calls).1.mapError Fault.reported := by
  obtain ⟨after, result, -⟩ := asks organization bound organization.refusals
  have same : profile.refusing organization.refusals = profile := by
    obtain ⟨policy, episode⟩ := profile
    obtain ⟨_, values, catalog, validated, journal⟩ := episode
    cases bound
    rfl
  rw [same] at result
  exact congrArg Prod.fst result

/-- An action comes to its end when none of its calls is refused. -/
theorem Asks.ends {action : Policy → Action Unit} {calls : List Call}
    (asks : profile.Asks action calls) (bound : profile.episode.organization = some organization)
    (granted : ∀ call ∈ calls, call.refusal organization = none) :
    (profile.run action).1 = .ok () := by
  rw [asks.run_eq bound, Call.performAll_fst_eq_ok_iff.mpr granted]
  rfl

/-- An accepted update of a profile is the calls that are due. -/
theorem IsSound.run_update (sound : profile.IsSound config context) (remove : Bool)
    (bound : profile.episode.organization = some organization)
    (accepted : Policy.Accepts config profile.policy profile.episode)
    (decided : Decided config profile.policy remove profile.episode)
    (validation removal : Order) {calls : List Call}
    (due : dueCalls config profile.policy remove removal profile.episode organization = calls) :
    ∃ after, profile.episode.Writes after (Call.performAll organization calls).2 ∧
      (profile.run fun policy => update policy remove validation.visit removal.visit) =
        ((Call.performAll organization calls).1.mapError Fault.reported,
          { profile with episode := after }) ∧
      ((Call.performAll organization calls).1 = .ok () →
        after.journal.getLast? = some (updateRecord profile.policy organization calls)) := by
  obtain ⟨after, writes, result⟩ := update_performs remove sound.builtin sound.holds
    sound.distinct bound accepted decided validation removal
  rw [due] at writes result
  cases outcome : (Call.performAll organization calls).1 with
  | ok done =>
    rw [outcome] at result
    refine ⟨after.log (updateRecord profile.policy organization calls),
      writes.trans ⟨writes.organization, rfl, List.prefix_rfl⟩, ?_, fun _ => ?_⟩
    · simp only [run, result]
      rfl
    · exact List.getLast?_concat
  | error fault =>
    rw [outcome] at result
    refine ⟨after, writes, ?_, fun finished => by cases finished⟩
    simp only [run, result]
    rfl

/-- An accepted update makes the calls that are due. -/
theorem IsSound.asks_update (sound : profile.IsSound config context)
    (bound : profile.episode.organization = some organization)
    (accepted : Policy.Accepts config profile.policy profile.episode)
    (decided : Decided config profile.policy remove profile.episode)
    (validation removal : Order) :
    profile.Asks (fun policy => update policy remove validation.visit removal.visit)
      (dueCalls config profile.policy remove removal profile.episode organization) := by
  intro known same refusals
  obtain rfl : organization = known := Option.some.inj (bound.symm.trans same)
  have alike := resembles_refusing bound refusals
  have decidedAgain := decided.resembles bound alike
  obtain ⟨after, writes, result, -⟩ := (sound.refusing bound refusals).run_update remove
    alike.organization (accepts_resembles bound alike accepted) decidedAgain validation removal
    (dueCalls_resembles sound.builtin sound.holds bound alike removal)
  exact ⟨_, result, writes.organization⟩

/-- How an update of a sound profile ends, and what it leaves. -/
theorem IsSound.update_cases (sound : profile.IsSound config context) (remove : Bool)
    (bound : profile.episode.organization = some organization) (validation removal : Order) :
    (∃ after,
      (profile.run fun policy => update policy remove validation.visit removal.visit) =
        (.ok (), { profile with episode := after }) ∧
      Policy.Accepts config profile.policy profile.episode ∧
      profile.episode.Leaves organization (Updates config profile.policy remove profile.episode)
        after) ∨
    ∃ fault after,
      (profile.run fun policy => update policy remove validation.visit removal.visit) =
        (.error fault, { profile with episode := after }) ∧
      (profile.episode.Undisturbed after ∨
        Policy.Accepts config profile.policy profile.episode ∧
          profile.episode.Leaves organization
            (organization.OrKept (Updates config profile.policy remove profile.episode)) after) := by
  have outcome := profile.run_cases
    (fun policy => update policy remove validation.visit removal.visit)
    (leads_update remove sound.builtin sound.holds sound.distinct bound sound.accepted
      validation removal)
  rcases outcome with ⟨_, after, finished⟩ | failed
  · exact Or.inl ⟨after, finished⟩
  · exact Or.inr failed

/-- An update that came to its end had an organization to update. -/
theorem IsSound.bound_of_update_ok (sound : profile.IsSound config context)
    (validation removal : Order) {after : Profile}
    (updated : (profile.run fun policy => update policy remove validation.visit removal.visit) =
      (.ok (), after)) :
    ∃ organization, profile.episode.organization = some organization := by
  cases bound : profile.episode.organization with
  | some organization => exact ⟨organization, rfl⟩
  | none =>
    have outcome := profile.run_cases
      (fun policy => update policy remove validation.visit removal.visit)
      (leads_update_unbound remove sound.builtin sound.holds bound validation removal)
    rcases outcome with ⟨_, last, -, impossible⟩ | ⟨fault, last, failed, -⟩
    · exact impossible.elim
    · rw [failed] at updated
      cases updated

/-- What an update that came to its end tells about its beginning, and what it leaves. -/
theorem IsSound.of_update_ok (sound : profile.IsSound config context)
    (bound : profile.episode.organization = some organization) (validation removal : Order)
    {after : Profile}
    (updated : (profile.run fun policy => update policy remove validation.visit removal.visit) =
      (.ok (), after)) :
    Policy.Accepts config profile.policy profile.episode ∧
      profile.episode.Leaves organization (Updates config profile.policy remove profile.episode)
        after.episode := by
  rcases sound.update_cases remove bound validation removal with
    ⟨last, result, accepted, leaves⟩ | ⟨fault, last, failed, -⟩
  · rw [result] at updated
    cases updated
    exact ⟨accepted, leaves⟩
  · rw [failed] at updated
    cases updated

/-- An action that succeeds leads to the profile it leads to. -/
theorem run_eq_of_toBool {action : Policy → Action Unit}
    (succeeds : (profile.run action).1.toBool = true) :
    profile.run action = (.ok (), (profile.run action).2) := by
  have finished : (profile.run action).1 = .ok () :=
    (eq_ok_of_toBool succeeds).trans (congrArg Except.ok (Subsingleton.elim _ _))
  rw [← finished]

theorem decided_of_leaves {after : Episode}
    (leaves : episode.Leaves organization (Updates config policy remove episode) after) :
    Decided config policy remove episode := by
  obtain ⟨left, -, -, all⟩ := leaves
  exact fun name => ⟨left.valuesOf name, all name⟩

end Profile

end ProfilePolicy
