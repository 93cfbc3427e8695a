import ProfilePolicy.Proofs.Difference
import ProfilePolicy.Proofs.Moves
import ProfilePolicy.Proofs.Rewriting

/-!
# Updates that break off and are made again

A store that refuses to set or to remove certain names does not refuse them for what was written
before. So an update over it makes the calls that are due up to the first refused one, and what it
reports is the fault of that call. Every name then has what was stored or what the update was to
leave, and both are left the same by another update: once nothing is refused, the update comes to
its end and leaves what it would have left at first.
-/

namespace ProfilePolicy

open Value

/-! ## Updating what was updated -/

theorem overwritten_again {remove : Bool} {submitted stored : List Value} {left : StoredValues}
    (h : overwritten remove submitted stored = .ok left) :
    overwritten remove submitted left = .ok left := by
  rcases overwritten_eq_ok h with rfl | ⟨textual, rfl⟩
  · exact h
  · have texts : ((contentTexts submitted).map text).filterMap text? = contentTexts submitted := by
      rw [List.filterMap_map]
      exact List.filterMap_some
    have same : sameCollection (contentTexts submitted) (contentTexts submitted) = true :=
      sameCollection_iff_perm.mpr (List.Perm.refl _)
    rw [overwritten_of_textual (fun v mem => isTextual_of_mem_texts mem) textual, texts, same]
    rfl

/-- Where an update left what it should, another one changes nothing. -/
theorem Situation.updated_again {config : Config} {remove : Bool} {situation again : Situation}
    {left : StoredValues} (context : again.context = situation.context)
    (name : again.name = situation.name) (values : again.values = situation.values)
    (stored : again.stored = left) (h : situation.updated config remove = .ok left) :
    again.updated config remove = .ok left := by
  by_cases isName : situation.name = nameKey
  · rw [updated, if_pos (name.trans isName), stored]
  · have notName : again.name ≠ nameKey := name ▸ isName
    cases found : situation.values.get? situation.name with
    | some submitted =>
      have found' : again.values.get? again.name = some submitted := by
        rw [values, name, found]
      rw [updated_of_submitted config remove isName found] at h
      rw [updated_of_submitted config remove notName found', stored]
      exact overwritten_again h
    | none =>
      have missing : again.values.get? again.name = none := by
        rw [values, name, found]
      have leftOut : again.value = [] := by
        rw [Situation.value, missing]
        rfl
      rw [updated_of_missing config remove isName found] at h
      rw [updated_of_missing config remove notName missing, stored]
      cases remove with
      | false => rfl
      | true =>
        obtain ⟨kept, known, emptied⟩ := map_eq_ok.mp h
        cases kept with
        | true =>
          have same : again.stored = situation.stored := stored.trans emptied.symm
          have value : again.value = situation.value := by
            rw [Situation.value, Situation.value, values, name]
          rw [if_pos rfl, withdrawn_congr context name value same]
          exact h
        | false =>
          cases emptied
          exact withdrawn_of_empty config leftOut stored

namespace Profile

variable {policy : Policy} {config : Config} {episode after : Episode}
variable {organization : Organization} {remove : Bool}

/-- What an update was to leave it is still to leave after it broke off. -/
theorem updates_again (bound : episode.organization = some organization)
    (partly : episode.Leaves organization
      (organization.OrKept (Updates config policy remove episode)) after) {name : String}
    {final : StoredValues} (updated : Updates config policy remove episode name final) :
    Updates config policy remove after name final := by
  obtain ⟨left, writes, -, each⟩ := partly
  have stored : (policy.situation name after).stored = left.valuesOf name :=
    stored_situation writes.organization policy name
  rcases each name with kept | treated
  · have same : (policy.situation name after).updated config remove =
        (policy.situation name episode).updated config remove := by
      apply Situation.updated_congr
      · rfl
      · rfl
      · exact writes.values
      · rw [stored, stored_situation bound]
        exact kept
    exact same.trans updated
  · have final_eq : left.valuesOf name = final := Except.ok.inj (treated.symm.trans updated)
    apply Situation.updated_again _ _ _ _ updated
    · rfl
    · rfl
    · exact writes.values
    · exact stored.trans final_eq

variable {profile : Profile} {context : Context}

/-- However an update ends, every name has what was stored or what the update was to leave. -/
theorem IsSound.update_leaves (sound : profile.IsSound config context) (remove : Bool)
    (bound : profile.episode.organization = some organization) (validation removal : Order) :
    profile.episode.Leaves organization
      (organization.OrKept (Updates config profile.policy remove profile.episode))
      (profile.run fun policy =>
        Profile.update policy remove validation.visit removal.visit).2.episode := by
  rcases sound.update_cases remove bound validation removal with
    ⟨last, result, -, leaves⟩ | ⟨fault, last, failed, same | ⟨-, partly⟩⟩
  · rw [result]
    exact leaves.orKept
  · rw [failed]
    exact (same.writes bound).leaves fun name => Or.inl rfl
  · rw [failed]
    exact partly

end Profile

/-! ## Stores that refuse -/

namespace Refusals

def fault? (refusals : Refusals) : Call → Option Fault
  | .set name _ => refusals.setting.get? name
  | .remove name => refusals.removing.get? name

def Refuses (refusals : Refusals) (call : Call) : Prop :=
  ∃ fault, refusals.fault? call = some fault

/-- No call is refused with a fault that is fatal by itself. -/
def AreReported (refusals : Refusals) : Prop :=
  ∀ call fault, refusals.fault? call = some fault → fault.causeMessage?.isSome = true

/-- Among calls in turn a call is the first one that is refused, with a fault. -/
def StopsAt (refusals : Refusals) (calls done : List Call) (call : Call) (fault : Fault) : Prop :=
  (∃ rest, calls = done ++ call :: rest) ∧ (∀ made ∈ done, ¬ refusals.Refuses made) ∧
    refusals.fault? call = some fault

variable {refusals : Refusals} {organization : Organization} {call : Call} {calls : List Call}

theorem refusal_refusing (refusals : Refusals) (organization : Organization) (call : Call) :
    call.refusal (organization.refusing (some refusals)) = refusals.fault? call := by
  cases call <;> rfl

theorem refusal_refusing_eq_none_iff :
    call.refusal (organization.refusing (some refusals)) = none ↔ ¬ refusals.Refuses call := by
  rw [refusal_refusing, Option.eq_none_iff_forall_ne_some, Refuses, not_exists]

theorem StopsAt.performAll {done : List Call} {fault : Fault}
    (stops : refusals.StopsAt calls done call fault) :
    Call.performAll (organization.refusing (some refusals)) calls =
      (.error fault, Call.applyAll (organization.refusing (some refusals)) done) := by
  obtain ⟨⟨rest, rfl⟩, granted, refused⟩ := stops
  refine Call.performAll_of_refused ?_ ((refusal_refusing refusals organization call).trans refused)
  exact fun made mem => refusal_refusing_eq_none_iff.mpr (granted made mem)

/-- Calls on a store come to their end if none of them is refused. -/
theorem performAll_of_granted (granted : ∀ call ∈ calls, ¬ refusals.Refuses call) :
    Call.performAll (organization.refusing (some refusals)) calls =
      (.ok (), Call.applyAll (organization.refusing (some refusals)) calls) :=
  Call.performAll_of_granted fun call mem => refusal_refusing_eq_none_iff.mpr (granted call mem)

/-- Among calls some of which are refused one is the first. -/
theorem exists_stopsAt (somewhere : ¬ ∀ call ∈ calls, ¬ refusals.Refuses call) :
    ∃ done call fault, refusals.StopsAt calls done call fault := by
  have refused : ∃ call ∈ calls,
      call.refusal (Organization.refusing default (some refusals)) ≠ none := by
    simpa only [ne_eq, refusal_refusing_eq_none_iff, not_forall, exists_prop] using somewhere
  obtain ⟨done, call, rest, fault, split, granted, refuses⟩ := Call.exists_first_refused refused
  rw [refusal_refusing] at refuses
  exact ⟨done, call, fault, ⟨rest, split⟩,
    fun made mem => refusal_refusing_eq_none_iff.mp (granted made mem), refuses⟩

end Refusals

/-! ## Profiles over a store that refuses -/

theorem Provider.IsBuiltin.create_refusing {provider : Provider} {config : Config}
    (builtin : provider.IsBuiltin config) {context : Context} {submitted : Submission}
    {organization : Organization} {profile : Profile}
    (created : provider.create context submitted.entries (some organization) = .ok profile)
    (refusals : Option Refusals) :
    provider.create context submitted.entries (some (organization.refusing refusals)) =
      .ok (profile.refusing refusals) := by
  have bound := (builtin.isFresh_create created).organization_eq
  have alike : NamedAlike (some organization) (some (organization.refusing refusals)) :=
    .of_some rfl rfl
  rw [builtin.create_again alike created, Profile.refusing, bound]
  rfl

/-- How an update goes over a store that refuses some calls. It makes the calls of setting names and
then those of removing names. `final` is what it leaves where nothing is refused. -/
structure BreaksOff (refusals : Refusals) (store final : Organization)
    (settings removals : List Call) (result : Except Fault Unit) (left : Organization) : Prop where
  fails_iff : (∃ fault, result = .error (.persistence fault)) ↔
    ∃ call ∈ settings ++ removals, refusals.Refuses call
  /-- The fault is that of the first call that is refused. -/
  caused_iff : ∀ fault, result = .error (.persistence fault) ↔
    ∃ done call, refusals.StopsAt (settings ++ removals) done call fault
  ends_iff : result = .ok () ↔ ∀ call ∈ settings ++ removals, ¬ refusals.Refuses call
  /-- What was stored or what the update was to leave is under every name. -/
  partly : ∀ name, left.valuesOf name = store.valuesOf name ∨
    left.valuesOf name = final.valuesOf name
  /-- Refused while setting, the names before are set and nothing else is done. -/
  setting : ∀ done call fault, refusals.StopsAt settings done call fault →
    left = Call.applyAll store done
  /-- Refused while removing, all names are set. -/
  removing : (∀ made ∈ settings, ¬ refusals.Refuses made) →
    ∀ done call fault, refusals.StopsAt removals done call fault →
      left = Call.applyAll store (settings ++ done)

theorem reported_of_causeMessage {fault : Fault} (told : fault.causeMessage?.isSome = true) :
    fault.reported = .persistence fault := by
  apply if_neg
  rw [← Option.not_isSome, told]
  exact Bool.false_ne_true

section BreaksOff

variable {refusals : Refusals} {organization final left : Organization}
variable {settings removals : List Call} {result : Except Fault Unit}

/-- Calls in turn over a store that refuses some of them break off like this. -/
theorem BreaksOff.of_performAll (reported : refusals.AreReported)
    (ends : result = (Call.performAll (organization.refusing (some refusals))
      (settings ++ removals)).1.mapError Fault.reported)
    (leaves : left = (Call.performAll (organization.refusing (some refusals))
      (settings ++ removals)).2)
    (partly : ∀ name, left.valuesOf name = organization.valuesOf name ∨
      left.valuesOf name = final.valuesOf name) :
    BreaksOff refusals (organization.refusing (some refusals)) final settings removals result
      left := by
  have fails : ∀ done call fault, refusals.StopsAt (settings ++ removals) done call fault →
      result = .error (.persistence fault) ∧
        left = Call.applyAll (organization.refusing (some refusals)) done := by
    intro done call fault stops
    rw [ends, leaves, stops.performAll]
    exact ⟨congrArg Except.error (reported_of_causeMessage (reported call fault stops.2.2)), rfl⟩
  have finishes : (∀ call ∈ settings ++ removals, ¬ refusals.Refuses call) → result = .ok () := by
    intro granted
    rw [ends, Refusals.performAll_of_granted granted]
    rfl
  have ends_iff : result = .ok () ↔ ∀ call ∈ settings ++ removals, ¬ refusals.Refuses call := by
    refine ⟨fun finished => ?_, finishes⟩
    by_contra somewhere
    obtain ⟨done, call, fault, stops⟩ := Refusals.exists_stopsAt somewhere
    rw [(fails done call fault stops).1] at finished
    cases finished
  have caused_iff : ∀ fault, result = .error (.persistence fault) ↔
      ∃ done call, refusals.StopsAt (settings ++ removals) done call fault := by
    intro fault
    constructor
    · intro failed
      have somewhere : ¬ ∀ call ∈ settings ++ removals, ¬ refusals.Refuses call := by
        rw [← ends_iff, failed]
        exact nofun
      obtain ⟨done, call, cause, stops⟩ := Refusals.exists_stopsAt somewhere
      rw [(fails done call cause stops).1] at failed
      cases failed
      exact ⟨done, call, stops⟩
    · rintro ⟨done, call, stops⟩
      exact (fails done call fault stops).1
  refine ⟨?_, caused_iff, ends_iff, partly, ?_, ?_⟩
  · constructor
    · rintro ⟨fault, failed⟩
      obtain ⟨done, call, ⟨rest, split⟩, -, refused⟩ := (caused_iff fault).mp failed
      exact ⟨call, by rw [split]; simp, fault, refused⟩
    · rintro ⟨refused, mem, refuses⟩
      obtain ⟨done, call, fault, stops⟩ :=
        Refusals.exists_stopsAt fun granted => granted refused mem refuses
      exact ⟨fault, (fails done call fault stops).1⟩
  · rintro done call fault ⟨⟨rest, rfl⟩, granted, refused⟩
    refine (fails done call fault ⟨⟨rest ++ removals, ?_⟩, granted, refused⟩).2
    rw [List.append_assoc, List.cons_append]
  · rintro set done call fault ⟨⟨rest, rfl⟩, granted, refused⟩
    refine (fails (settings ++ done) call fault ⟨⟨rest, ?_⟩, ?_, refused⟩).2
    · rw [List.append_assoc]
    · intro made mem
      rcases List.mem_append.mp mem with mem | mem
      · exact set made mem
      · exact granted made mem

end BreaksOff

/-! ## Retrying -/

namespace Profile

variable {profile : Profile} {config : Config} {context : Context}
variable {organization final : Organization} {remove : Bool}

/-- What is left is what an update is to leave, under every name. -/
def Reaches (config : Config) (profile : Profile) (remove : Bool) (final : Organization) : Prop :=
  ∀ name, Updates config profile.policy remove profile.episode name (final.valuesOf name)

theorem Reaches.decided (reaches : profile.Reaches config remove final) :
    Decided config profile.policy remove profile.episode :=
  fun name => ⟨final.valuesOf name, reaches name⟩

theorem Reaches.refusing (reaches : profile.Reaches config remove final)
    (bound : profile.episode.organization = some organization) (refusals : Option Refusals) :
    (profile.refusing refusals).Reaches config remove final := by
  intro name
  rw [updates_resembles bound (resembles_refusing bound refusals)]
  exact reaches name

theorem Reaches.unique {other : Organization} (reaches : profile.Reaches config remove final)
    (alike : profile.Reaches config remove other) (name : String) :
    other.valuesOf name = final.valuesOf name :=
  Except.ok.inj ((alike name).symm.trans (reaches name))

/-- Over a willing organization an accepted update comes to its end. -/
theorem IsSound.update_finishes (sound : profile.IsSound config context)
    (bound : profile.episode.organization = some organization)
    (willing : organization.refusals = none)
    (accepted : Policy.Accepts config profile.policy profile.episode)
    (reaches : profile.Reaches config remove final) (validation removal : Order) :
    ∃ last left,
      (profile.run fun policy => Profile.update policy remove validation.visit removal.visit) =
        (.ok (), last) ∧
      last.episode.organization = some left ∧
      ∀ name, left.valuesOf name = final.valuesOf name := by
  obtain ⟨after, -, result, -⟩ :=
    sound.run_update remove bound accepted reaches.decided validation removal rfl
  rw [Call.performAll_of_granted fun call _ => Call.refusal_of_willing willing call] at result
  obtain ⟨-, left, writes, -, all⟩ := sound.of_update_ok bound validation removal result
  exact ⟨_, left, result, writes.organization, reaches.unique all⟩

/-- Once nothing is refused, another update leaves what the first was to leave, however that one
ended. -/
theorem IsSound.update_again (sound : profile.IsSound config context)
    (bound : profile.episode.organization = some organization)
    (accepted : Policy.Accepts config profile.policy profile.episode)
    (reaches : profile.Reaches config remove final)
    (validation removal validation' removal' : Order) :
    ∃ last left,
      ((profile.run fun policy =>
          Profile.update policy remove validation.visit removal.visit).2.refusing none).run
        (fun policy => Profile.update policy remove validation'.visit removal'.visit) =
        (.ok (), last) ∧
      last.episode.organization = some left ∧
      ∀ name, left.valuesOf name = final.valuesOf name := by
  have leaves := sound.update_leaves remove bound validation removal
  have soundAfter := IsSound.update sound remove validation removal
  rw [perform] at soundAfter
  generalize ran : profile.run (fun policy =>
    Profile.update policy remove validation.visit removal.visit) = outcome at leaves soundAfter ⊢
  have samePolicy : outcome.2.policy = profile.policy := by
    rw [← ran, run]
    split <;> rfl
  have acceptedAfter := accepted.leaves bound leaves
  have reachesAfter : outcome.2.Reaches config remove final := by
    intro name
    rw [samePolicy]
    exact updates_again bound leaves (reaches name)
  obtain ⟨left, writes, -, -⟩ := leaves
  have boundAfter := writes.organization
  have alike := resembles_refusing boundAfter none
  rw [← samePolicy] at acceptedAfter
  exact (soundAfter.refusing boundAfter none).update_finishes alike.organization rfl
    (accepts_resembles boundAfter alike acceptedAfter) (reachesAfter.refusing boundAfter none)
    validation' removal'

/-- The calls of an update by phase: names are set, in the order of the set, and then removed. -/
structure InPhases (values : AttributeValues) (settings removals : List Call) : Prop where
  setting : ∀ call ∈ settings, ∃ name texts, call = .set name texts
  inOrder : (Call.setNames settings).Sublist values.names
  removing : ∀ call ∈ removals, ∃ name, call = .remove name

theorem inPhases_dueCalls (config : Config) (policy : Policy) (remove : Bool) (order : Order)
    (episode : Episode) (organization : Organization) :
    InPhases episode.values (setCalls remove organization (policy.writable episode))
      (removeCalls config policy remove order episode) := by
  refine ⟨?_, ?_, fun call => eq_remove_of_mem_removeCalls⟩
  · intro call mem
    obtain ⟨entry, -, made⟩ := List.mem_filterMap.mp mem
    obtain ⟨-, texts, rfl, -⟩ := setCall?_eq_some made
    exact ⟨entry.1, texts, rfl⟩
  · exact (setNames_setCalls_sublist _).trans (List.filter_sublist.map _)

/-- How a profile over a store that refuses calls is updated. The update makes the calls that are
due, in two phases, and breaks off at the first refused one; another update of the same profile
leaves what the first was to leave, once nothing is refused. -/
def Recovers (config : Config) (profile : Profile) (refusals : Refusals)
    (store final : Organization) (remove : Bool) (validation removal : Order) : Prop :=
  let update := fun (validation removal : Order) (policy : Policy) =>
    Profile.update policy remove validation.visit removal.visit
  let outcome := profile.run (update validation removal)
  let settings := setCalls remove store (profile.policy.writable profile.episode)
  let removals := removeCalls config profile.policy remove removal profile.episode
  InPhases profile.episode.values settings removals ∧
  profile.Asks (update validation removal) (settings ++ removals) ∧
  ∃ left, outcome.2.episode.organization = some left ∧
    BreaksOff refusals store final settings removals outcome.1 left ∧
    ∀ validation' removal' : Order, ∃ last ends,
      (outcome.2.refusing none).run (update validation' removal') = (.ok (), last) ∧
      last.episode.organization = some ends ∧
      ∀ name, ends.valuesOf name = final.valuesOf name

/-- An accepted update over a store that refuses some calls breaks off at the first of them, and is
made good by another one. -/
theorem IsSound.recovers (sound : profile.IsSound config context)
    (bound : profile.episode.organization = some organization)
    (accepted : Policy.Accepts config profile.policy profile.episode)
    (reaches : profile.Reaches config remove final) {refusals : Refusals}
    (reported : refusals.AreReported) (validation removal : Order) :
    (profile.refusing (some refusals)).Recovers config refusals
      (organization.refusing (some refusals)) final remove validation removal := by
  have alike := resembles_refusing bound (some refusals)
  have boundRefusing := alike.organization
  have soundRefusing := sound.refusing bound (some refusals)
  have acceptedRefusing := accepts_resembles bound alike accepted
  have reachesRefusing := reaches.refusing bound (some refusals)
  obtain ⟨after, writes, ran, -⟩ := soundRefusing.run_update remove boundRefusing
    acceptedRefusing reachesRefusing.decided validation removal rfl
  have leaves := soundRefusing.update_leaves remove boundRefusing validation removal
  rw [ran] at leaves
  obtain ⟨left, writes', -, each⟩ := leaves
  have stopped := Option.some.inj (writes'.organization.symm.trans writes.organization)
  refine ⟨inPhases_dueCalls _ _ _ _ _ _, soundRefusing.asks_update boundRefusing acceptedRefusing
    reachesRefusing.decided validation removal, left, ?_, ?_, ?_⟩
  · rw [ran]
    exact writes'.organization
  · refine .of_performAll reported (congrArg Prod.fst ran) stopped fun name => ?_
    rcases each name with kept | treated
    · exact Or.inl kept
    · exact Or.inr (Except.ok.inj (treated.symm.trans (reachesRefusing name)))
  · exact soundRefusing.update_again boundRefusing acceptedRefusing reachesRefusing validation
      removal

end Profile

/-- An update that would come to its end breaks off over a store that refuses some of its calls, for
the reason of the store, and comes to the same end when it is made again. -/
theorem Provider.IsBuiltin.update_recovers {provider : Provider} {config : Config}
    (builtin : provider.IsBuiltin config) {context : Context} {submitted : Submission}
    {organization final : Organization} {profile after : Profile}
    (created : provider.create context submitted.entries (some organization) = .ok profile)
    (remove : Bool) (validation removal : Order)
    (updated : (profile.run fun policy =>
      Profile.update policy remove validation.visit removal.visit) = (.ok (), after))
    (left : after.episode.organization = some final) {refusals : Refusals}
    (reported : refusals.AreReported) :
    ∃ refused,
      provider.create context submitted.entries (some (organization.refusing (some refusals))) =
        .ok refused ∧
      ∀ validation removal : Order,
        refused.Recovers config refusals (organization.refusing (some refusals)) final remove
          validation removal := by
  have fresh := builtin.isFresh_create created
  have sound := fresh.isSound
  have bound := fresh.organization_eq
  obtain ⟨accepted, now, writes, -, all⟩ := sound.of_update_ok bound validation removal updated
  obtain rfl : now = final := Option.some.inj (writes.organization.symm.trans left)
  have reaches : profile.Reaches config remove now := all
  exact ⟨_, builtin.create_refusing created (some refusals), fun validation removal =>
    sound.recovers bound accepted reaches reported validation removal⟩

/-- A store refuses the second of two names that are to be set, and the removal of a third for
another reason. -/
theorem Provider.update_recovers_of_refused_second :
    let organization : Organization :=
      { name := .text "sample", storage := .entries [("first", [.text "1"]),
          ("second", [.text "1"]), ("spare", [.text "x"])] }
    let submitted := Submission.ofPairs [("first", .text "2"), ("second", .text "2")]
    let refusals : Refusals :=
      { setting := [("second", .mishap (.outside "RuntimeError" "store unavailable"))]
        removing := [("spare", .mishap (.outside "OSError" "disk"))] }
    let update := fun policy =>
      Profile.update policy true Order.listed.visit Order.listed.visit
    ∃ profile after final,
      (Provider.standard {}).IsBuiltin {} ∧
      (Provider.standard {}).create .updateProfile submitted.entries (some organization) =
        .ok profile ∧
      profile.run update = (.ok (), after) ∧ after.episode.organization = some final ∧
      refusals.AreReported ∧
      ∃ refused, (Provider.standard {}).create .updateProfile submitted.entries
          (some (organization.refusing (some refusals))) = .ok refused ∧
        ∀ validation removal : Order,
          refused.Recovers {} refusals (organization.refusing (some refusals)) final true validation
            removal := by
  intro organization submitted refusals update
  have builtin := Provider.isBuiltin_standard {}
  have creates : ((Provider.standard {}).create .updateProfile submitted.entries
      (some organization)).toBool = true := by decide +kernel
  have created := eq_ok_of_toBool creates
  have succeeds : ((((Provider.standard {}).create .updateProfile submitted.entries
      (some organization)).toOption.getD default).run update).1.toBool = true := by decide +kernel
  have updated := Profile.run_eq_of_toBool succeeds
  obtain ⟨final, left⟩ : ∃ final, ((((Provider.standard {}).create .updateProfile
      submitted.entries (some organization)).toOption.getD default).run
        update).2.episode.organization = some final :=
    Option.isSome_iff_exists.mp (by decide +kernel)
  have reported : refusals.AreReported := by
    intro call fault refused
    cases call with
    | set name texts =>
      obtain ⟨-, rfl⟩ := List.mem_singleton.mp (Keyed.mem_of_get? refused)
      rfl
    | remove name =>
      obtain ⟨-, rfl⟩ := List.mem_singleton.mp (Keyed.mem_of_get? refused)
      rfl
  exact ⟨_, _, final, builtin, created, updated, left, reported,
    builtin.update_recovers created true .listed .listed updated left reported⟩

end ProfilePolicy
