import ProfilePolicy.Proofs.Action
import ProfilePolicy.Proofs.Calls

/-!
# What evaluation keeps

A property of episodes is kept by an action if it holds in the end, however the action ends, when it
held before. Evaluating rules changes an episode in few ways: it stores copies of metadata, takes
over what validators reply, writes to the log, and raises the flag of an accepted set. A property
that each of these keeps is kept by every evaluation, whatever the validators do and however they
fail. An update writes to the organization besides, but only what differs.
-/

namespace ProfilePolicy

variable {α β : Type} {holds : Episode → Prop} {isCopy : Handle → Prop} {episode : Episode}

/-- What evaluating rules does to an episode keeps a property. Rules are added to no other metadata
than the copies that were made for the rules. -/
structure Episode.KeptByRules (holds : Episode → Prop) (isCopy : Handle → Prop) : Prop where
  copied : ∀ episode handle, holds episode →
    isCopy (episode.catalog.clone handle).1 ∧
      holds { episode with catalog := (episode.catalog.clone handle).2 }
  replied : ∀ (episode : Episode) copy values additions, isCopy copy → holds episode →
    holds { episode with values, catalog := episode.catalog.addRules copy additions }
  logged : ∀ (episode : Episode) journal, holds episode → holds { episode with journal }
  accepted : ∀ episode, holds episode → holds { episode with validated := true }

namespace Action

/-- However an action ends, a property holds then. -/
def Ends (holds : Episode → Prop) (action : Action α) (episode : Episode) : Prop :=
  Leads action episode (fun _ => holds) fun _ => holds

/-- However an action ends, a property that held before still holds. -/
def Keeps (holds : Episode → Prop) (action : Action α) : Prop :=
  ∀ episode, holds episode → Ends holds action episode

variable {action : Action α} {next : α → Action β}

theorem keeps_pure (value : α) : Keeps holds (pure value) :=
  fun _ held => held

theorem keeps_rulesOf (handle : Handle) : Keeps holds (Policy.rulesOf handle) :=
  fun _ held => held

theorem keeps_inspect (look : Episode → Except Mishap α) : Keeps holds (Policy.inspect look) :=
  fun _ held => leads_inspect.mpr ⟨fun _ _ => held, fun _ _ => held⟩

theorem Ends.bind (first : Ends holds action episode) (rest : ∀ value, Keeps holds (next value)) :
    Ends holds (action >>= next) episode := by
  rw [Ends, leads_bind]
  exact first.mono (fun value after => rest value after) fun _ _ => id

theorem Keeps.bind (first : Keeps holds action) (rest : ∀ value, Keeps holds (next value)) :
    Keeps holds (action >>= next) :=
  fun episode held => (first episode held).bind rest

theorem keeps_get_bind {next : Episode → Action β}
    (rest : ∀ episode, holds episode → Ends holds (next episode) episode) :
    Keeps holds (get >>= next) :=
  fun episode held => rest episode held

/-- Going on in the same way where a property holds is going on in the same way. -/
theorem Ends.bind_congr (first : Ends holds action episode) {next' : α → Action β}
    (same : ∀ value after, holds after → next value after = next' value after) :
    (action >>= next) episode = (action >>= next') episode := by
  rcases first.cases with ⟨value, after, result, held⟩ | ⟨fault, after, result, -⟩
  · rw [bind_of_ok result, bind_of_ok result]
    exact same value after held
  · rw [bind_of_error result, bind_of_error result]

theorem Ends.run {profile : Profile} {action : Policy → Action α}
    (ends : Ends holds (action profile.policy) profile.episode) :
    holds (profile.run action).2.episode := by
  rcases profile.run_cases action ends with ⟨_, _, result, held⟩ | ⟨_, _, result, held⟩
  · rw [result]
    exact held
  · rw [result]
    exact held

end Action

open ProfilePolicy.Action

/-! ## Evaluating rules -/

namespace Episode.KeptByRules

variable (kept : KeptByRules holds isCopy) {policy : Policy}
include kept

theorem copy_bind (handle : Handle) {next : Handle → Action α}
    (rest : ∀ copy, isCopy copy → Keeps holds (next copy)) :
    Keeps holds (Policy.copyOf handle >>= next) := by
  intro episode held
  obtain ⟨made, copied⟩ := kept.copied episode handle held
  exact rest _ made _ copied

theorem logVerdict (tolerated : Bool) (name : String) (rule : Rule) (errors : List FieldError) :
    Keeps holds (policy.logVerdict tolerated name rule errors) :=
  fun episode held => kept.logged episode _ held

theorem runRule {copy : Handle} (made : isCopy copy) (name : String) (rule : Rule) :
    Keeps holds (policy.runRule name copy rule) := by
  intro episode held
  unfold Ends Leads Policy.runRule
  cases policy.validators.get? rule.validator with
  | none => exact held
  | some validator =>
    simp only
    generalize validator _ = outcome
    cases outcome with
    | error breakdown => exact kept.logged episode _ held
    | ok reply => exact kept.logged _ _ (kept.replied episode copy reply.values _ made held)

theorem anyFails {copy : Handle} (made : isCopy copy) (name : String) (rules : List Rule) :
    Keeps holds (policy.anyFails name copy rules) := by
  induction rules with
  | nil => exact keeps_pure false
  | cons rule rest ih =>
    refine (kept.runRule made name rule).bind fun errors => ?_
    split
    · exact ih
    · exact keeps_pure true

theorem deniedByRule (name : String) : Keeps holds (policy.deniedByRule name) := by
  rw [Policy.deniedByRule]
  split
  · exact keeps_pure false
  · refine kept.copy_bind _ fun copy made => ?_
    exact (keeps_rulesOf _).bind fun rules => kept.anyFails made name rules

theorem isReadOnly (name : String) : Keeps holds (policy.isReadOnly name) := by
  rw [Policy.isReadOnly]
  split
  · exact keeps_pure true
  · refine keeps_get_bind fun episode held => ?_
    split
    · exact keeps_pure true episode held
    · exact kept.deniedByRule name episode held

theorem applyRules {copy : Handle} (made : isCopy copy) (name : String) (handle : Handle)
    (rules : List Rule) : Keeps holds (policy.applyRules name handle copy rules) := by
  induction rules with
  | nil => exact keeps_pure _
  | cons rule rest ih =>
    refine (kept.runRule made name rule).bind fun errors => ?_
    split
    · exact ih
    · refine (keeps_inspect _).bind fun tolerated => ?_
      refine (kept.logVerdict tolerated name rule errors).bind fun _ => ?_
      refine ih.bind fun others => ?_
      split <;> exact keeps_pure _

theorem applyMetadata (name : String) (handles : List Handle) :
    Keeps holds (policy.applyMetadata name handles) := by
  induction handles with
  | nil => exact keeps_pure _
  | cons handle rest ih =>
    refine kept.copy_bind handle fun copy made => ?_
    refine (keeps_rulesOf handle).bind fun rules => ?_
    refine (kept.applyRules made name handle rules).bind fun verdict => ?_
    exact ih.bind fun others => keeps_pure _

theorem validateName (name : String) : Keeps holds (policy.validateName name) :=
  kept.applyMetadata name _

theorem collectErrors (report : Report) (names : List String) :
    Keeps holds (Profile.collectErrors policy report names) := by
  induction names generalizing report with
  | nil => exact keeps_pure report
  | cons name rest ih => exact (kept.validateName name).bind fun verdict => ih _

theorem validate (visit : Visit) : Keeps holds (Profile.validate policy visit) := by
  refine keeps_get_bind fun episode held => ?_
  refine (kept.collectErrors _ _ episode held).bind fun report => ?_
  refine keeps_get_bind fun judged held => ?_
  split
  · exact kept.accepted judged held
  · exact kept.logged judged _ held

end Episode.KeptByRules

/-! ## Updates -/

namespace Profile

/-- Writing what differs in some values keeps a property. -/
def WritesKeep (holds : Episode → Prop) (remove : Bool) (values : AttributeValues) : Prop :=
  ∀ entry ∈ values, ∀ (episode : Episode) organization updated, holds episode →
    episode.organization = some organization →
    difference remove entry.1 entry.2 episode = .ok (some updated) →
    holds { episode with organization := some ((Call.set entry.1 updated).apply organization) }

def RemovalsKeep (holds : Episode → Prop) : Prop :=
  ∀ (episode : Episode) organization name, holds episode →
    episode.organization = some organization →
    holds { episode with organization := some ((Call.remove name).apply organization) }

theorem ends_setAttribute {remove : Bool} {name : String} {values : List Value}
    {updated : List String} (held : holds episode)
    (differs : difference remove name values episode = .ok (some updated))
    (writes : WritesKeep holds remove [(name, values)]) :
    Ends holds (setAttribute name updated) episode := by
  unfold Ends Leads setAttribute
  cases bound : episode.organization with
  | none => exact held
  | some organization =>
    have written := writes _ (List.mem_singleton_self _) episode organization updated held bound
      differs
    simp only [Organization.setAttribute]
    cases organization.settingRefused name with
    | some fault => exact held
    | none => exact written

theorem keeps_removeAttribute (removals : RemovalsKeep holds) (name : String) :
    Keeps holds (removeAttribute name) := by
  intro episode held
  unfold Ends Leads removeAttribute
  cases bound : episode.organization with
  | none => exact held
  | some organization =>
    have removed := removals episode organization name held bound
    simp only [Organization.removeAttribute]
    cases organization.removingRefused name with
    | some fault => exact held
    | none => exact removed

theorem keeps_writeAll {remove : Bool} {values : AttributeValues}
    (writes : WritesKeep holds remove values) : Keeps holds (writeAll remove values) := by
  induction values with
  | nil => exact keeps_pure []
  | cons entry rest ih =>
    have later : Keeps holds (writeAll remove rest) :=
      ih fun entry mem => writes entry (List.mem_cons_of_mem _ mem)
    rw [writeAll]
    split
    · exact later
    · intro episode held
      rw [Ends, leads_bind, leads_inspect]
      refine ⟨fun wanted differs => ?_, fun _ _ => held⟩
      cases wanted with
      | none => exact later episode held
      | some updated =>
        have single : WritesKeep holds remove [entry] := by
          intro other mem
          rw [List.mem_singleton.mp mem]
          exact writes entry List.mem_cons_self
        refine (ends_setAttribute held differs single).bind fun _ => ?_
        exact later.bind fun written => keeps_pure _

variable {policy : Policy}

section Updates

variable (kept : Episode.KeptByRules holds isCopy)
include kept

theorem keeps_removeAll (removals : RemovalsKeep holds) (names : List String) :
    Keeps holds (removeAll policy names) := by
  induction names with
  | nil => exact keeps_pure []
  | cons name rest ih =>
    rw [removeAll]
    split
    · exact ih
    · refine (kept.isReadOnly name).bind fun readOnly => ?_
      split
      · exact ih
      · refine (keeps_removeAttribute removals name).bind fun _ => ?_
        exact ih.bind fun removed => keeps_pure _

theorem ends_applyDifference {remove : Bool} (held : holds episode)
    (writes : WritesKeep holds remove (policy.writable episode)) (removals : RemovalsKeep holds)
    (visit : Visit) : Ends holds (applyDifference policy remove visit) episode := by
  have written : Ends holds (writeAll remove (policy.writable episode)) episode :=
    keeps_writeAll writes episode held
  refine written.bind fun names => ?_
  have noted : ∀ removed, Keeps holds (get >>= fun last =>
      set (last.log (.profileUpdated last.organizationName policy.context names
        (sortedTexts removed)))) :=
    fun removed => keeps_get_bind fun last held => kept.logged last _ held
  refine keeps_get_bind fun between held => ?_
  dsimp only
  split
  · exact (keeps_removeAll kept removals _).bind noted between held
  · exact noted [] between held

theorem ends_reportingFailures {action : Action Unit} (ends : Ends holds action episode) :
    Ends holds (reportingFailures action) episode := by
  unfold Ends Leads reportingFailures
  rcases ends.cases with ⟨_, after, result, held⟩ | ⟨fault, after, result, held⟩
  · rw [result]
    exact held
  · simp only [result]
    cases fault.causeMessage? with
    | none => exact held
    | some message => exact kept.logged after _ held

theorem keeps_update {remove : Bool} (writes : ∀ values, WritesKeep holds remove values)
    (removals : RemovalsKeep holds) (validation removal : Visit) :
    Keeps holds (update policy remove validation removal) := by
  have applies : Keeps holds (reportingFailures (applyDifference policy remove removal)) :=
    fun episode held => ends_reportingFailures kept
      (ends_applyDifference kept held (writes _) removals removal)
  have rest : Keeps holds (get >>= fun episode =>
      if episode.organization.isNone then throw (.usage .unboundProfile)
      else reportingFailures (applyDifference policy remove removal)) := by
    refine keeps_get_bind fun validated held => ?_
    split
    · exact held
    · exact applies validated held
  refine keeps_get_bind fun episode held => ?_
  dsimp only
  split
  · exact rest episode held
  · exact (kept.validate validation).bind (fun _ => rest) episode held

end Updates

end Profile

end ProfilePolicy
