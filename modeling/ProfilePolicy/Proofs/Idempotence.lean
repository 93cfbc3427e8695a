import ProfilePolicy.Proofs.Retry

/-!
# Updates made again

An update that came to its end leaves nothing for the same submission to do. The name that a set
takes over from an organization is not changed by an update, so submitting again makes the same set,
and validation accepts it again. Of the names of the set those that differed are stored as they were
submitted now, and of the names that were left out those that could be removed are not listed any
more. The ones that are still listed are kept by the rules that kept them before.
-/

namespace ProfilePolicy

open Value

/-- What is left as it is by writing is not written. -/
theorem wanted_of_overwritten {remove : Bool} {submitted stored : List Value}
    (kept : overwritten remove submitted stored = .ok stored) :
    wanted remove submitted stored = none := by
  have decided := replacement_of_overwritten kept
  cases choice : wanted remove submitted stored with
  | none => rfl
  | some texts =>
    exfalso
    rw [choice] at decided
    have written : texts.map text = stored := by
      rw [overwritten, decided] at kept
      exact Except.ok.inj kept
    subst written
    -- the values to write are compared with themselves
    obtain ⟨updated, -, decided⟩ := bind_eq_ok.mp decided
    obtain ⟨same, compared, decided⟩ := bind_eq_ok.mp decided
    have differs : (same || (updated.isEmpty && !remove)) = false ∧ updated = texts := by
      have chosen := Except.ok.inj decided
      split at chosen
      · cases chosen
      · rename_i differs
        exact ⟨Bool.eq_false_iff.mpr differs, Option.some.inj chosen⟩
    obtain ⟨differs, rfl⟩ := differs
    have noneMissing : (updated.map text).filter (fun value => !value.isNull) =
        updated.map text := by
      rw [List.filter_eq_self]
      intro value mem
      obtain ⟨written, -, rfl⟩ := List.mem_map.mp mem
      rfl
    rw [noneMissing, sameListItems_texts] at compared
    have alike : sameCollection updated updated = true :=
      sameCollection_iff_perm.mpr (List.Perm.refl updated)
    rw [← Except.ok.inj compared, alike] at differs
    cases differs

namespace Profile

variable {policy : Policy} {config : Config} {episode again : Episode}
variable {organization final : Organization} {remove : Bool}

/-- A name that was kept when it could have been removed has what was stored. -/
theorem Updates.kept {name : String} {left : StoredValues}
    (updated : Updates config policy true episode name left) (notName : name ≠ nameKey)
    (absent : name ∉ episode.values.names)
    (kept : Policy.rejection config (policy.situation name episode) = .ok true) :
    left = (policy.situation name episode).stored := by
  unfold Updates at updated
  rw [Situation.updated_of_missing config true notName (Keyed.get?_eq_none_iff.mpr absent),
    if_pos rfl, Situation.withdrawn, kept] at updated
  exact (Except.ok.inj updated).symm

/-- Where a name of the set has what an update leaves, nothing is to be written for it. -/
theorem Updates.wanted_eq_none (distinct : Keyed.Distinct again.values)
    (bound : again.organization = some final) {name : String} {submitted : List Value}
    (updated : Updates config policy remove again name (final.valuesOf name))
    (notName : name ≠ nameKey) (mem : (name, submitted) ∈ policy.writable again) :
    wanted remove submitted (final.valuesOf name) = none := by
  have found : again.values.get? name = some submitted :=
    distinct.get?_of_mem (List.mem_filter.mp mem).1
  unfold Updates at updated
  rw [Situation.updated_of_submitted config remove notName found, stored_situation bound] at updated
  exact wanted_of_overwritten updated

/-- The calls of an update that came to its end leave no call to be made for the same set. -/
theorem dueCalls_again (distinct : Keyed.Distinct episode.values)
    (bound : episode.organization = some organization)
    (decided : Decided config policy remove episode) {order order' : Order}
    (made : final = Call.applyAll organization
      (dueCalls config policy remove order episode organization))
    (writes : episode.Writes again final)
    (reaches : ∀ name, Updates config policy remove episode name (final.valuesOf name))
    (all : ∀ name, Updates config policy remove again name (final.valuesOf name)) :
    dueCalls config policy remove order' again final = [] := by
  have distinct' : Keyed.Distinct again.values := writes.values ▸ distinct
  rw [List.eq_nil_iff_forall_not_mem]
  intro call mem
  cases call with
  | set name texts =>
    obtain ⟨notName, submitted, writable, known⟩ := set_mem_dueCalls.mp mem
    rw [(all name).wanted_eq_none distinct' writes.organization notName writable] at known
    cases known
  | remove name =>
    obtain ⟨rfl, listed, absent, notName, removable⟩ :=
      (remove_mem_dueCalls writes.organization).mp mem
    rw [writes.values] at absent
    rw [made] at listed
    rcases Call.mem_attributeNames_applyAll listed with ⟨texts, set⟩ | ⟨before, remains⟩
    · obtain ⟨-, submitted, writable, -⟩ := set_mem_dueCalls.mp set
      exact absent (names_writable_subset (List.mem_map_of_mem writable))
    · -- it was listed and not removed, so it was kept by a rule, and that still keeps it
      obtain ⟨kept, known⟩ := decided.rejection absent notName
      have rejected : Policy.rejection config (policy.situation name episode) = .ok true := by
        cases kept with
        | true => exact known
        | false =>
          refine absurd ((remove_mem_dueCalls bound).mpr ?_) remains
          exact ⟨rfl, before, absent, notName, known⟩
      have unchanged : final.valuesOf name = organization.valuesOf name := by
        rw [(reaches name).kept notName absent rejected, stored_situation bound]
      rw [rejection_writes bound writes unchanged, rejected] at removable
      cases removable

/-- An action that comes to its end, asks nothing of the organization and reports that. -/
def Idles (profile : Profile) (action : Policy → Action Unit) : Prop :=
  profile.Asks action [] ∧ ∃ last,
    profile.run action = (.ok (), last) ∧
    last.episode.organization = profile.episode.organization ∧
    last.episode.journal.getLast? =
      some (.profileUpdated profile.episode.organizationName profile.policy.context [] [])

variable {profile : Profile} {context : Context}

theorem IsSound.idles (sound : profile.IsSound config context)
    (bound : profile.episode.organization = some organization)
    (accepted : Policy.Accepts config profile.policy profile.episode)
    (decided : Decided config profile.policy remove profile.episode) (validation removal : Order)
    (nothing : dueCalls config profile.policy remove removal profile.episode organization = []) :
    profile.Idles fun policy => Profile.update policy remove validation.visit removal.visit := by
  have asks := sound.asks_update bound accepted decided validation removal
  rw [nothing] at asks
  obtain ⟨after, writes, ran, recorded⟩ :=
    sound.run_update remove bound accepted decided validation removal nothing
  refine ⟨asks, _, ran, writes.organization.trans bound.symm, ?_⟩
  have named : profile.episode.organizationName = organization.name := by
    rw [Episode.organizationName, bound]
    rfl
  have noneRemoved : sortedTexts (Call.removedNames []) = [] := List.mergeSort_nil
  have record := recorded rfl
  rw [updateRecord, noneRemoved, ← named] at record
  exact record

/-- An update that came to its end was refused nothing. -/
theorem IsSound.granted_of_update_ok (sound : profile.IsSound config context)
    (bound : profile.episode.organization = some organization) (validation removal : Order)
    {after : Profile}
    (updated : (profile.run fun policy =>
      Profile.update policy remove validation.visit removal.visit) = (.ok (), after)) :
    ∀ call ∈ dueCalls config profile.policy remove removal profile.episode organization,
      call.refusal organization = none := by
  obtain ⟨accepted, leaves⟩ := sound.of_update_ok bound validation removal updated
  obtain ⟨last, -, ran, -⟩ := sound.run_update remove bound accepted (decided_of_leaves leaves)
    validation removal rfl
  rw [updated] at ran
  have finished := (congrArg Prod.fst ran).symm
  rw [← Call.performAll_fst_eq_ok_iff]
  cases outcome : (Call.performAll organization
      (dueCalls config profile.policy remove removal profile.episode organization)).1 with
  | ok done => rfl
  | error fault =>
    simp only [outcome] at finished
    cases finished

/-- What an update that came to its end did to the organization. -/
theorem IsSound.update_applies (sound : profile.IsSound config context)
    (bound : profile.episode.organization = some organization) (validation removal : Order)
    {after : Profile}
    (updated : (profile.run fun policy =>
      Profile.update policy remove validation.visit removal.visit) = (.ok (), after)) :
    after.episode.organization = some (Call.applyAll organization
      (dueCalls config profile.policy remove removal profile.episode organization)) := by
  obtain ⟨accepted, leaves⟩ := sound.of_update_ok bound validation removal updated
  obtain ⟨last, writes, ran, -⟩ := sound.run_update remove bound accepted
    (decided_of_leaves leaves) validation removal rfl
  have granted := sound.granted_of_update_ok bound validation removal updated
  rw [updated] at ran
  obtain ⟨-, rfl⟩ := Prod.mk.inj ran
  rw [writes.organization, Call.performAll_of_granted granted]

end Profile

/-- After an update that came to its end, the same submission makes a profile whose update comes to
its end as well and asks nothing of the organization. -/
theorem Provider.IsBuiltin.update_idempotent {provider : Provider} {config : Config}
    (builtin : provider.IsBuiltin config) {context : Context} {submitted : Submission}
    {organization : Option Organization} {profile after : Profile}
    (created : provider.create context submitted.entries organization = .ok profile)
    (remove : Bool) (validation removal : Order)
    (updated : (profile.run fun policy =>
      Profile.update policy remove validation.visit removal.visit) = (.ok (), after)) :
    ∃ final again, after.episode.organization = some final ∧
      provider.create context submitted.entries (some final) = .ok again ∧
      ∀ validation removal : Order,
        again.Idles fun policy => Profile.update policy remove validation.visit removal.visit := by
  have fresh := builtin.isFresh_create created
  have sound := fresh.isSound
  obtain ⟨known, bound⟩ := sound.bound_of_update_ok validation removal updated
  obtain rfl : organization = some known := fresh.organization_eq.symm.trans bound
  obtain ⟨accepted, leaves⟩ := sound.of_update_ok bound validation removal updated
  have decided := Profile.decided_of_leaves leaves
  have applied := sound.update_applies bound validation removal updated
  obtain ⟨final, written, follows, reaches⟩ := leaves
  have left := written.organization
  have made := Option.some.inj (left.symm.trans applied)
  -- the update changed neither the name nor what is stored under the name of the name
  have unnamed : final.valuesOf nameKey = known.valuesOf nameKey := by
    have updatedName := reaches nameKey
    unfold Profile.Updates at updatedName
    rw [Profile.updated_nameKey, Profile.stored_situation bound] at updatedName
    exact (Except.ok.inj updatedName).symm
  have again := builtin.create_again (.of_some follows.name unnamed) created
  refine ⟨final, _, left, again, fun validation' removal' => ?_⟩
  have soundAgain := (builtin.isFresh_create again).isSound
  have writes : profile.episode.Writes { profile.episode with organization := some final } final :=
    ⟨rfl, rfl, List.prefix_rfl⟩
  have partly : profile.episode.Leaves known
      (known.OrKept (Profile.Updates config profile.policy remove profile.episode))
      { profile.episode with organization := some final } :=
    ⟨final, writes, follows, fun name => Or.inr (reaches name)⟩
  have all : ∀ name, Profile.Updates config profile.policy remove
      { profile.episode with organization := some final } name (final.valuesOf name) :=
    fun name => Profile.updates_again bound partly (reaches name)
  apply soundAgain.idles rfl (accepted.leaves bound partly)
  · exact fun name => ⟨final.valuesOf name, all name⟩
  · exact Profile.dueCalls_again sound.distinct bound decided made writes reaches all

/-- A manager's update sets one name, removes a second and leaves a read-only one, of which the
submission tells nothing. -/
theorem Provider.update_idempotent_of_three :
    let organization : Organization :=
      { name := .text "sample", storage := .entries [("first", [.text "", .text "1"]),
          ("spare", [.text "x"]), ("org_ro_tier", [.text "gold"])] }
    let submitted := Submission.ofPairs [("first", .list [.text "1", .text "2"])]
    let update := fun (validation removal : Order) policy =>
      Profile.update policy true validation.visit removal.visit
    ∃ profile after final again,
      (Provider.standard {}).IsBuiltin {} ∧
      (Provider.standard {}).create .updateProfile submitted.entries (some organization) =
        .ok profile ∧
      profile.run (update .listed .listed) = (.ok (), after) ∧
      after.episode.organization = some final ∧
      (Provider.standard {}).create .updateProfile submitted.entries (some final) = .ok again ∧
      ∀ validation removal : Order, again.Idles (update validation removal) := by
  intro organization submitted update
  have builtin := Provider.isBuiltin_standard {}
  have creates : ((Provider.standard {}).create .updateProfile submitted.entries
      (some organization)).toBool = true := by decide +kernel
  have created := eq_ok_of_toBool creates
  have succeeds : ((((Provider.standard {}).create .updateProfile submitted.entries
      (some organization)).toOption.getD default).run (update .listed .listed)).1.toBool = true := by
    decide +kernel
  have updated := Profile.run_eq_of_toBool succeeds
  obtain ⟨final, again, left, createdAgain, idles⟩ :=
    builtin.update_idempotent created true .listed .listed updated
  exact ⟨_, _, final, again, builtin, created, updated, left, createdAgain, idles⟩

end ProfilePolicy
