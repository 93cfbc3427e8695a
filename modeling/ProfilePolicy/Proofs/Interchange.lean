import ProfilePolicy.Proofs.Edits
import ProfilePolicy.Proofs.MissingRules
import ProfilePolicy.Proofs.Restating
import ProfilePolicy.Proofs.Visiting

/-!
# Organizations in either store

An organization that is kept as a map and one that is kept as rows read alike once they were given
the same, and go on doing so whatever is done to both. Rules compare values by name, so what they
find does not depend on the store. Writing goes through the set in one order over both stores and
breaks off at the same value. Removing goes through the names that each store lists, in whatever
order, and these lists differ: a map lists names without values. But removing a name that has no
values changes nothing, and among stored texts no removal breaks off.
-/

namespace ProfilePolicy

open Value

/-! ## Reading -/

namespace Organization

/-- What can be read of two organizations is the same, but for names that are listed without
values. -/
structure ReadsAlike (organization other : Organization) : Prop where
  name : other.name = organization.name
  values : ∀ name, other.valuesOf name = organization.valuesOf name
  first : ∀ name, other.firstValueOf name = organization.firstValueOf name
  listed : ∀ name values, values ≠ [] →
    (other.attributes.get? name = some values ↔ organization.attributes.get? name = some values)

/-- Two organizations with the same texts under every name. Neither refuses a write. -/
structure Interchangeable (organization other : Organization) : Prop where
  name : other.name = organization.name
  values : ∀ name, other.valuesOf name = organization.valuesOf name
  textual : organization.IsTextual
  willing : organization.refusals = none
  willing' : other.refusals = none

/-- Values are listed under a name exactly when they are stored there. -/
theorem get?_attributes_eq_some_iff {organization : Organization} {name : String}
    {values : StoredValues} (some : values ≠ []) :
    organization.attributes.get? name = .some values ↔ organization.valuesOf name = values := by
  rw [← organization.get?_attributes]
  cases organization.attributes.get? name with
  | none => simp [Ne.symm some]
  | some held => simp

namespace Interchangeable

variable {organization other left left' : Organization}

theorem readsAlike (alike : organization.Interchangeable other) :
    organization.ReadsAlike other := by
  refine ⟨alike.name, alike.values, fun name => ?_, fun name values some => ?_⟩
  · rw [firstValueOf, firstValueOf, alike.values]
  · rw [get?_attributes_eq_some_iff some, get?_attributes_eq_some_iff some, alike.values]

theorem isTextual_other (alike : organization.Interchangeable other) : other.IsTextual := by
  constructor
  · rw [alike.name]
    exact alike.textual.name
  · intro name
    rw [alike.values]
    exact alike.textual.values name

theorem namedAlike (alike : organization.Interchangeable other) :
    NamedAlike (some organization) (some other) :=
  .of_some alike.name (alike.values nameKey)

/-- Writes that follow both organizations and leave the same texts keep them interchangeable. -/
theorem follow (alike : organization.Interchangeable other) (follows : left.Follows organization)
    (follows' : left'.Follows other) (values : ∀ name, left'.valuesOf name = left.valuesOf name)
    (textual : ∀ name, ∀ v ∈ left.valuesOf name, v.IsTextual) : left.Interchangeable left' := by
  refine ⟨?_, values, ⟨?_, textual⟩, ?_, ?_⟩
  · rw [follows.name, follows'.name, alike.name]
  · rw [follows.name]
    exact alike.textual.name
  · rw [follows.refusals, alike.willing]
  · rw [follows'.refusals, alike.willing']

theorem rename (alike : organization.Interchangeable other) (name : String) :
    (organization.setName (text name)).Interchangeable (other.setName (text name)) :=
  ⟨rfl, alike.values, ⟨isTextual_text name, alike.textual.values⟩, alike.willing, alike.willing'⟩

/-- A call leaves interchangeable organizations so. -/
theorem apply (alike : organization.Interchangeable other) (call : Call) :
    (call.apply organization).Interchangeable (call.apply other) := by
  apply alike.follow (Call.follows_apply organization call) (Call.follows_apply other call)
  · intro name
    rw [Call.valuesOf_apply, Call.valuesOf_apply, alike.values]
  · intro name v mem
    rw [Call.valuesOf_apply] at mem
    split at mem
    · cases call with
      | set written texts => exact isTextual_of_mem_texts mem
      | remove removed => cases mem
    · exact alike.textual.values name v mem

end Interchangeable

theorem setAttribute_of_willing {organization : Organization}
    (willing : organization.refusals = none) (name : String) (texts : List String) :
    organization.setAttribute name (texts.map text) =
      .ok ((Call.set name texts).apply organization) := by
  have granted : organization.settingRefused name = none :=
    Call.refusal_of_willing willing (.set name texts)
  rw [setAttribute, granted]
  rfl

theorem removeAttribute_of_willing {organization : Organization}
    (willing : organization.refusals = none) (name : String) :
    organization.removeAttribute name = .ok ((Call.remove name).apply organization) := by
  have granted : organization.removingRefused name = none :=
    Call.refusal_of_willing willing (.remove name)
  rw [removeAttribute, granted]
  rfl

end Organization

/-! ## Running over both -/

/-- Episodes over interchangeable organizations. -/
def Episode.Parallel (episode other : Episode) : Prop :=
  ∃ organization organization', episode.organization = some organization ∧
    other.organization = some organization' ∧ organization.Interchangeable organization'

/-- An action ends alike in two episodes and leaves them over interchangeable organizations. -/
def Action.RunsAlike {α : Type} (action : Action α) (episode other : Episode) : Prop :=
  match action episode, action other with
  | .ok value after, .ok value' after' => value = value' ∧ after.Parallel after'
  | .error fault after, .error fault' after' => fault = fault' ∧ after.Parallel after'
  | _, _ => False

namespace Action

variable {α β : Type} {action : Action α} {next : α → Action β} {episode other : Episode}

theorem runsAlike_pure (value : α) (parallel : episode.Parallel other) :
    RunsAlike (pure value) episode other :=
  ⟨rfl, parallel⟩

/-- Both runs fail with the same fault, or both succeed with the same value. -/
theorem RunsAlike.cases (h : RunsAlike action episode other) :
    (∃ fault after after', action episode = .error fault after ∧
        action other = .error fault after' ∧ after.Parallel after') ∨
      ∃ value after after', action episode = .ok value after ∧ action other = .ok value after' ∧
        after.Parallel after' := by
  unfold RunsAlike at h
  cases here : action episode with
  | ok value after =>
    cases there : action other with
    | ok value' after' =>
      rw [here, there] at h
      obtain ⟨rfl, parallel⟩ := h
      exact Or.inr ⟨value, after, after', rfl, rfl, parallel⟩
    | error fault' after' =>
      rw [here, there] at h
      exact h.elim
  | error fault after =>
    cases there : action other with
    | ok value' after' =>
      rw [here, there] at h
      exact h.elim
    | error fault' after' =>
      rw [here, there] at h
      obtain ⟨rfl, parallel⟩ := h
      exact Or.inl ⟨fault, after, after', rfl, rfl, parallel⟩

theorem RunsAlike.bind (first : RunsAlike action episode other)
    (rest : ∀ value after after', after.Parallel after' → RunsAlike (next value) after after') :
    RunsAlike (action >>= next) episode other := by
  unfold RunsAlike
  rcases first.cases with ⟨fault, after, after', here, there, parallel⟩ |
    ⟨value, after, after', here, there, parallel⟩
  · rw [bind_of_error here, bind_of_error there]
    exact ⟨rfl, parallel⟩
  · rw [bind_of_ok here, bind_of_ok there]
    exact rest value after after' parallel

theorem runsAlike_inspect {look : Episode → Except Mishap α} (parallel : episode.Parallel other)
    (same : look other = look episode) : RunsAlike (Policy.inspect look) episode other := by
  unfold RunsAlike Policy.inspect
  rw [same]
  cases look episode with
  | ok value => exact ⟨rfl, parallel⟩
  | error cause => exact ⟨rfl, parallel⟩

end Action

namespace Profile

open ProfilePolicy.Action

variable {policy : Policy} {config : Config} {episode other between : Episode}
variable {organization organization' now : Organization} {remove : Bool}

theorem runsAlike_setAttribute (parallel : episode.Parallel other) (name : String)
    (texts : List String) : RunsAlike (setAttribute name texts) episode other := by
  obtain ⟨organization, organization', bound, bound', alike⟩ := parallel
  unfold RunsAlike setAttribute
  simp only [bound, bound', Organization.setAttribute_of_willing alike.willing,
    Organization.setAttribute_of_willing alike.willing']
  exact ⟨trivial, _, _, rfl, rfl, alike.apply (.set name texts)⟩

/-- Writing the same entries ends alike. -/
theorem runsAlike_writeAll (remove : Bool) (entries : AttributeValues)
    (parallel : episode.Parallel other) : RunsAlike (writeAll remove entries) episode other := by
  induction entries generalizing episode other with
  | nil => exact runsAlike_pure [] parallel
  | cons entry rest ih =>
    obtain ⟨name, values⟩ := entry
    rw [writeAll]
    split
    · exact ih parallel
    · have same : difference remove name values other = difference remove name values episode := by
        obtain ⟨organization, organization', bound, bound', alike⟩ := parallel
        rw [difference_eq bound, difference_eq bound', alike.values]
      refine (runsAlike_inspect parallel same).bind fun wanted after after' parallel => ?_
      cases wanted with
      | none => exact ih parallel
      | some texts =>
        refine (runsAlike_setAttribute parallel name texts).bind fun _ _ _ parallel => ?_
        exact (ih parallel).bind fun written _ _ parallel =>
          runsAlike_pure (name :: written) parallel

/-- Where texts are stored and no call is refused, removing what was left out comes to its end. -/
theorem removeAll_ends (builtin : policy.IsBuiltin) (holds : episode.catalog.Holds config)
    (bound : episode.organization = some organization) (textual : organization.IsTextual)
    (willing : organization.refusals = none) {names : List String}
    (leftOut : ∀ name ∈ names, (policy.situation name episode).value = []) :
    ∃ removed after, removeAll policy names episode = .ok removed after := by
  have comparable : ∀ name ∈ names, name ≠ nameKey →
      ∃ kept, Policy.rejection config (policy.situation name episode) = .ok kept := by
    intro name mem _
    rw [Policy.rejection, Policy.anyRejects]
    split
    · exact ⟨false, rfl⟩
    · have given : ∀ v ∈ ([] : List Value), v.IsTextual := fun v mem => absurd mem List.not_mem_nil
      obtain ⟨unchanged, compared⟩ := unchangedValues_of_textual
        (stored_situation bound policy name ▸ textual.values name) given
      rw [leftOut name mem, compared]
      exact ⟨_, rfl⟩
  obtain ⟨after, -, result⟩ := carriesOut_removeAll builtin holds bound leftOut comparable
  have granted : ∀ call ∈ (removals config policy episode names).map Call.remove,
      call.refusal organization = none := by
    intro call mem
    exact Call.refusal_of_willing willing call
  rw [Call.performAll_fst_eq_ok_iff.mpr granted] at result
  exact ⟨_, after, result⟩

theorem applyDifference_breaks {visit : Visit} {fault : Fault}
    (breaks : writeAll remove (policy.writable episode) episode = .error fault between) :
    applyDifference policy remove visit episode = .error fault between := by
  rw [applyDifference, get_bind, bind_of_error breaks]

/-- Once the set is written, an update comes to its end. -/
theorem applyDifference_ends (builtin : policy.IsBuiltin) (holds : episode.catalog.Holds config)
    (distinct : Keyed.Distinct episode.values) (bound : episode.organization = some organization)
    {written : List String}
    (ends : writeAll remove (policy.writable episode) episode = .ok written between)
    (bound' : between.organization = some now) (textual : now.IsTextual)
    (willing : now.refusals = none) (order : Order) :
    ∃ after, applyDifference policy remove order.visit episode = .ok () after := by
  obtain ⟨_, writes, -, -⟩ :=
    (leads_of_ok ends).mp (achieves_writeAll (distinct.filter _) bound)
  rw [applyDifference, get_bind, bind_of_ok ends, get_bind]
  cases remove with
  | false => exact ⟨_, rfl⟩
  | true =>
    have leftOut : ∀ name ∈ order.visit (omitted between),
        (policy.situation name between).value = [] := by
      intro name mem
      apply value_of_not_mem
      exact ((mem_omitted bound').mp ((order.perm _).mem_iff.mp mem)).2
    obtain ⟨removed, after, result⟩ :=
      removeAll_ends builtin (holds.mono writes.catalog) bound' textual willing leftOut
    simp only [if_true]
    rw [bind_of_ok result]
    exact ⟨_, rfl⟩

end Profile

/-! ## Updating both -/

structure Visits where
  validation : Order
  removal : Order

/-- Texts are left where texts were stored. -/
theorem Situation.isTextual_of_updated {config : Config} {situation : Situation} {remove : Bool}
    {left : StoredValues} (textual : ∀ v ∈ situation.stored, v.IsTextual)
    (updated : situation.updated config remove = .ok left) : ∀ v ∈ left, v.IsTextual := by
  rcases updated_cases updated with rfl | rfl | ⟨submitted, rfl⟩
  · exact textual
  · exact fun v mem => absurd mem List.not_mem_nil
  · exact fun v mem => isTextual_of_mem_texts mem

/-- Ends of an update that tell a caller the same: what validation comes to is the same, or the same
fault ended both. -/
inductive SameEnd : Except Fault Unit → Except Fault Unit → Prop
  | verdict {result result' : Except Fault Unit} (same : SameVerdict result result') :
      SameEnd result result'
  | broken (fault : Fault) : SameEnd (.error fault) (.error fault)

namespace Profile

open ProfilePolicy.Action

def boundTo (profile : Profile) (organization : Organization) : Profile :=
  { profile with episode := { profile.episode with organization := some organization } }

def runUpdate (profile : Profile) (remove : Bool) (visits : Visits) : Except Fault Unit × Profile :=
  profile.run fun policy =>
    Profile.update policy remove visits.validation.visit visits.removal.visit

theorem runUpdate_of_ok {profile : Profile} {remove : Bool} {visits : Visits} {after : Episode}
    (updated : update profile.policy remove visits.validation.visit visits.removal.visit
      profile.episode = .ok () after) :
    profile.runUpdate remove visits = (.ok (), { profile with episode := after }) := by
  simp only [runUpdate, run, updated]

theorem runUpdate_of_error {profile : Profile} {remove : Bool} {visits : Visits} {fault : Fault}
    {after : Episode}
    (failed : update profile.policy remove visits.validation.visit visits.removal.visit
      profile.episode = .error fault after) :
    profile.runUpdate remove visits = (.error fault, { profile with episode := after }) := by
  simp only [runUpdate, run, failed]

section Over

variable {profile : Profile} {config : Config} {context : Context}
variable {organization other : Organization} {remove : Bool}

/-- The same is found in a name. -/
theorem finding_boundTo (bound : profile.episode.organization = some organization)
    (alike : organization.Interchangeable other) (name : String) :
    Policy.finding config (profile.policy.situation name (profile.boundTo other).episode) =
      Policy.finding config (profile.policy.situation name profile.episode) := by
  apply Policy.finding_congr
  · rfl
  · rfl
  · rfl
  · rw [stored_situation bound]
    exact alike.values name
  · simp only [Policy.situation, bound, boundTo, Validator.storedName, alike.name]
  · simp only [Policy.situation, bound, boundTo, Option.isNone_some]

theorem findings_boundTo (bound : profile.episode.organization = some organization)
    (alike : organization.Interchangeable other) (names : List String) :
    Policy.findings config profile.policy (profile.boundTo other).episode names =
      Policy.findings config profile.policy profile.episode names := by
  induction names with
  | nil => rfl
  | cons name rest ih => rw [Policy.findings, Policy.findings, finding_boundTo bound alike, ih]

/-- The same is left under a name. -/
theorem updates_boundTo (bound : profile.episode.organization = some organization)
    (alike : organization.Interchangeable other) :
    Updates config profile.policy remove (profile.boundTo other).episode =
      Updates config profile.policy remove profile.episode := by
  funext name left
  have same :
      (profile.policy.situation name (profile.boundTo other).episode).updated config remove =
        (profile.policy.situation name profile.episode).updated config remove := by
    apply Situation.updated_congr
    · rfl
    · rfl
    · rfl
    · rw [stored_situation bound]
      exact alike.values name
  unfold Updates
  rw [same]

/-- The organizations after updates that came to their ends are interchangeable. -/
theorem IsSound.parallel_of_update_ok (sound : profile.IsSound config context)
    (sound' : (profile.boundTo other).IsSound config context)
    (bound : profile.episode.organization = some organization)
    (alike : organization.Interchangeable other) {visits visits' : Visits} {after after' : Profile}
    (updated : profile.runUpdate remove visits = (.ok (), after))
    (updated' : (profile.boundTo other).runUpdate remove visits' = (.ok (), after')) :
    after.episode.Parallel after'.episode := by
  obtain ⟨-, left, writes, follows, all⟩ := sound.of_update_ok bound _ _ updated
  obtain ⟨-, left', writes', follows', all'⟩ := sound'.of_update_ok rfl _ _ updated'
  refine ⟨left, left', writes.organization, writes'.organization, ?_⟩
  apply alike.follow follows follows'
  · intro name
    have here : Updates config profile.policy remove profile.episode name (left.valuesOf name) :=
      all name
    have there : Updates config profile.policy remove (profile.boundTo other).episode name
        (left'.valuesOf name) := all' name
    rw [updates_boundTo bound alike] at there
    exact Except.ok.inj (there.symm.trans here)
  · intro name
    apply Situation.isTextual_of_updated ?_ (all name)
    rw [stored_situation bound]
    exact alike.textual.values name

/-- Accepted updates end alike and leave interchangeable organizations. -/
theorem IsSound.runUpdate_boundTo_of_accepts (sound : profile.IsSound config context)
    (sound' : (profile.boundTo other).IsSound config context)
    (known : profile.episode.organization = some organization)
    (alike : organization.Interchangeable other)
    (accepted : Policy.Accepts config profile.policy profile.episode)
    (accepted' : Policy.Accepts config profile.policy (profile.boundTo other).episode)
    (visits visits' : Visits) :
    SameEnd (profile.runUpdate remove visits).1
        ((profile.boundTo other).runUpdate remove visits').1 ∧
      (profile.runUpdate remove visits).2.episode.Parallel
        ((profile.boundTo other).runUpdate remove visits').2.episode := by
  obtain ⟨start, begins, entered⟩ := update_start remove sound.builtin sound.holds known accepted
    visits.validation visits.removal.visit
  obtain ⟨start', begins', entered'⟩ := update_start remove sound'.builtin sound'.holds rfl
    accepted' visits'.validation visits'.removal.visit
  have holds := sound.holds.mono begins.catalog
  have holds' := sound'.holds.mono begins'.catalog
  have parallel : start.Parallel start' :=
    ⟨organization, other, begins.organization, begins'.organization, alike⟩
  -- the same entries are written over both organizations, in the same order
  have writable : profile.policy.writable start' = profile.policy.writable start := by
    rw [Policy.writable, Policy.writable, begins.values, begins'.values]
    apply List.filter_congr
    intro entry _
    rw [sound.builtin.deniedByMetadata_eq holds, sound.builtin.deniedByMetadata_eq holds']
  have wrote := runsAlike_writeAll remove (profile.policy.writable start) parallel
  rcases wrote.cases with ⟨fault, broken, broken', fails, fails', parallelBroken⟩ |
    ⟨written, between, between', ends, ends', parallelBetween⟩
  · obtain ⟨told, same, reported⟩ := reportingFailures_error (applyDifference_breaks fails)
    rw [← writable] at fails'
    obtain ⟨told', same', reported'⟩ := reportingFailures_error (applyDifference_breaks fails')
    rw [runUpdate_of_error (entered.trans reported), runUpdate_of_error (entered'.trans reported')]
    refine ⟨.broken fault.reported, ?_⟩
    obtain ⟨left, left', bound, bound', alike⟩ := parallelBroken
    exact ⟨left, left', same.organization.trans bound, same'.organization.trans bound', alike⟩
  · obtain ⟨now, now', bound, bound', alikeNow⟩ := parallelBetween
    rw [← writable] at ends'
    obtain ⟨after, finished⟩ := applyDifference_ends sound.builtin holds
      (begins.values ▸ sound.distinct) begins.organization ends bound alikeNow.textual
      alikeNow.willing visits.removal
    obtain ⟨after', finished'⟩ := applyDifference_ends sound'.builtin holds'
      (begins'.values ▸ sound'.distinct) begins'.organization ends' bound' alikeNow.isTextual_other
      alikeNow.willing' visits'.removal
    have updated := runUpdate_of_ok (entered.trans (reportingFailures_ok finished))
    have updated' := runUpdate_of_ok (entered'.trans (reportingFailures_ok finished'))
    have left := sound.parallel_of_update_ok sound' known alike updated updated'
    rw [updated, updated']
    exact ⟨.verdict .accepted, left⟩

/-- Updates of one set end alike over interchangeable organizations and leave them so. -/
theorem IsSound.runUpdate_boundTo (sound : profile.IsSound config context) (remove : Bool)
    (sound' : (profile.boundTo other).IsSound config context)
    (fresh : profile.episode.validated = false)
    (bound : profile.episode.organization = some organization)
    (alike : organization.Interchangeable other) (visits visits' : Visits) :
    SameEnd (profile.runUpdate remove visits).1
        ((profile.boundTo other).runUpdate remove visits').1 ∧
      (profile.runUpdate remove visits).2.episode.Parallel
        ((profile.boundTo other).runUpdate remove visits').2.episode := by
  have orders := (visits.validation.perm profile.episode.values.names).trans
    (visits'.validation.perm _).symm
  have concluded := sound'.concludes visits'.validation
  have found : Policy.findings config (profile.boundTo other).policy (profile.boundTo other).episode
      (visits'.validation.visit (profile.boundTo other).episode.values.names) =
      Policy.findings config profile.policy profile.episode
        (visits'.validation.visit profile.episode.values.names) := findings_boundTo bound alike _
  rw [found] at concluded
  have verdict := SameVerdict.of_concludes orders (sound.concludes visits.validation) concluded
  cases valid : (profile.run fun policy => Profile.validate policy visits.validation.visit).1 with
  | ok done =>
    cases valid' : ((profile.boundTo other).run fun policy =>
        Profile.validate policy visits'.validation.visit).1 with
    | ok done' =>
      exact sound.runUpdate_boundTo_of_accepts sound' bound alike
        (sound.accepts_of_validate _ valid) (sound'.accepts_of_validate _ valid') visits visits'
    | error fault' =>
      rw [valid, valid'] at verdict
      cases verdict
  | error fault =>
    cases valid' : ((profile.boundTo other).run fun policy =>
        Profile.validate policy visits'.validation.visit).1 with
    | ok done' =>
      rw [valid, valid'] at verdict
      cases verdict
    | error fault' =>
      rw [valid, valid'] at verdict
      have failed := run_update_of_invalid fresh valid remove visits.removal.visit
      have fresh' : (profile.boundTo other).episode.validated = false := fresh
      have failed' := run_update_of_invalid fresh' valid' remove visits'.removal.visit
      rw [runUpdate, runUpdate, failed, failed']
      refine ⟨.verdict verdict, organization, other, ?_, ?_, alike⟩
      · exact (sound.organization_of_validate _).trans bound
      · exact sound'.organization_of_validate _

end Over

end Profile

/-! ## Sessions and other deeds -/

/-- What is done to an organization: it is renamed, an attribute is set or removed, or a submission
is applied under a configuration. -/
inductive Deed
  | rename (name : String)
  | set (name : String) (texts : List String)
  | remove (name : String)
  | session (config : Config) (context : Context) (submitted : Submission) (removing : Bool)

namespace Deed

/-- How a deed ends and the organization after it. A session that fails leaves what it wrote until
then. -/
def perform (organization : Organization) (visits : Visits) :
    Deed → Except Fault Unit × Organization
  | rename name => (.ok (), organization.setName (text name))
  | set name texts =>
    match organization.setAttribute name (texts.map text) with
    | .ok organization => (.ok (), organization)
    | .error fault => (.error fault, organization)
  | remove name =>
    match organization.removeAttribute name with
    | .ok organization => (.ok (), organization)
    | .error fault => (.error fault, organization)
  | session config context submitted removing =>
    let edit : Edit := {
      context, submitted, remove := removing
      validation := visits.validation, removal := visits.removal }
    edit.attempt (Provider.standard config) organization

def moments (organization : Organization) :
    List (Deed × Visits) → List (Except Fault Unit × Organization)
  | [] => []
  | (deed, visits) :: rest =>
    let moment := deed.perform organization visits
    moment :: moments moment.2 rest

variable {organization other : Organization}

theorem perform_session {config : Config} {context : Context} {submitted : Submission}
    {removing : Bool} {visits : Visits} {profile : Profile} {left : Organization}
    (created : (Provider.standard config).create context submitted.entries (some organization) =
      .ok profile)
    (bound : (profile.runUpdate removing visits).2.episode.organization = some left) :
    (session config context submitted removing).perform organization visits =
      ((profile.runUpdate removing visits).1, left) := by
  have kept : (profile.runUpdate removing visits).2.episode.organization.getD organization =
      left := by
    rw [bound]
    rfl
  rw [← kept]
  simp only [perform, Edit.attempt, created]
  rfl

/-- A session ends alike over interchangeable organizations and leaves them so. -/
theorem perform_session_alike (alike : organization.Interchangeable other) (config : Config)
    (context : Context) (submitted : Submission) (removing : Bool) (visits visits' : Visits) :
    let deed := session config context submitted removing
    SameEnd (deed.perform organization visits).1 (deed.perform other visits').1 ∧
      (deed.perform organization visits).2.Interchangeable (deed.perform other visits').2 := by
  have builtin := Provider.isBuiltin_standard config
  intro deed
  cases created : (Provider.standard config).create context submitted.entries
      (some organization) with
  | error fault =>
    have created' : (Provider.standard config).create context submitted.entries (some other) =
        .error fault := by
      rw [builtin.create_alike builtin (builtin.policy_eq context) alike.namedAlike, created]
      rfl
    have ends : deed.perform organization visits = (.error fault, organization) := by
      simp only [deed, perform, Edit.attempt, created]
    have ends' : deed.perform other visits' = (.error fault, other) := by
      simp only [deed, perform, Edit.attempt, created']
    rw [ends, ends']
    exact ⟨.broken fault, alike⟩
  | ok profile =>
    have created' := builtin.create_again alike.namedAlike created
    have fresh := builtin.isFresh_create created
    have fresh' := builtin.isFresh_create created'
    obtain ⟨ends, left, left', bound, bound', alike'⟩ :=
      fresh.isSound.runUpdate_boundTo removing fresh'.isSound fresh.validated_eq
        fresh.organization_eq alike visits visits'
    rw [perform_session created bound, perform_session created' bound']
    exact ⟨ends, alike'⟩

/-- Any deed ends alike over interchangeable organizations and leaves them so. -/
theorem perform_alike (alike : organization.Interchangeable other) (deed : Deed)
    (visits visits' : Visits) :
    SameEnd (deed.perform organization visits).1 (deed.perform other visits').1 ∧
      (deed.perform organization visits).2.Interchangeable (deed.perform other visits').2 := by
  cases deed with
  | rename name => exact ⟨.verdict .accepted, alike.rename name⟩
  | set name texts =>
    simp only [perform, Organization.setAttribute_of_willing alike.willing,
      Organization.setAttribute_of_willing alike.willing']
    exact ⟨.verdict .accepted, alike.apply (.set name texts)⟩
  | remove name =>
    simp only [perform, Organization.removeAttribute_of_willing alike.willing,
      Organization.removeAttribute_of_willing alike.willing']
    exact ⟨.verdict .accepted, alike.apply (.remove name)⟩
  | session config context submitted removing =>
    exact perform_session_alike alike config context submitted removing visits visits'

/-- Deeds in turn keep interchangeable organizations so at every point. -/
theorem moments_alike (alike : organization.Interchangeable other)
    (script : List (Deed × Visits × Visits)) :
    List.Forall₂ (fun moment moment' => SameEnd moment.1 moment'.1 ∧ moment.2.ReadsAlike moment'.2)
      (moments organization (script.map fun step => (step.1, step.2.1)))
      (moments other (script.map fun step => (step.1, step.2.2))) := by
  induction script generalizing organization other with
  | nil => exact .nil
  | cons step rest ih =>
    obtain ⟨deed, visits, visits'⟩ := step
    obtain ⟨ends, alike'⟩ := perform_alike alike deed visits visits'
    exact .cons ⟨ends, alike'.readsAlike⟩ (ih alike')

end Deed

/-- An organization of a name whose store was given attributes in turn. -/
def Organization.given (store : Storage) (name : Option String)
    (attributes : List (String × List String)) : Organization :=
  { name := .ofText? name
    storage := attributes.foldl
      (fun storage entry => storage.replace entry.1 (entry.2.map text)) store }

theorem Organization.interchangeable_given (name : Option String)
    (attributes : List (String × List String)) :
    (Organization.given (.entries []) name attributes).Interchangeable
      (Organization.given (.rows []) name attributes) := by
  have named : (Value.ofText? name).IsTextual := by
    cases name with
    | none => exact isTextual_null
    | some written => exact isTextual_text written
  -- both stores are given the same from any point at which they hold the same texts
  have all : ∀ store store' : Storage,
      Interchangeable { name := .ofText? name, storage := store }
        { name := .ofText? name, storage := store' } →
      Interchangeable (given store name attributes) (given store' name attributes) := by
    induction attributes with
    | nil => exact fun _ _ alike => alike
    | cons entry rest ih =>
      exact fun store store' alike => ih _ _ (alike.apply (.set entry.1 entry.2))
  apply all
  exact ⟨rfl, fun _ => rfl, ⟨named, fun _ _ mem => absurd mem List.not_mem_nil⟩, rfl, rfl⟩

/-- The stores can stand in for each other: given the same name and the same attributes, and
whatever is done to both organizations in whatever order names are visited, both read alike at every
point and every session ends alike over both. -/
theorem Deed.stores_interchangeable (name : Option String) (attributes : List (String × List String))
    (script : List (Deed × Visits × Visits)) :
    let kept := Organization.given (.entries []) name attributes
    let listed := Organization.given (.rows []) name attributes
    kept.ReadsAlike listed ∧
      List.Forall₂
        (fun moment moment' => SameEnd moment.1 moment'.1 ∧ moment.2.ReadsAlike moment'.2)
        (moments kept (script.map fun step => (step.1, step.2.1)))
        (moments listed (script.map fun step => (step.1, step.2.2))) := by
  have alike := Organization.interchangeable_given name attributes
  exact ⟨alike.readsAlike, moments_alike alike script⟩

end ProfilePolicy
