import ProfilePolicy.Proofs.Asking

/-!
# Managers and administrators

Whatever a manager can do to an organization an administrator can do as well. The set of a manager
holds the name of the organization besides what was submitted, and more patterns bind a manager. So
an administrator who submits the same is accepted too: names that are bound are bound for both, and
a name of the organization that a manager got accepted is the present one or blank. The same values
are written, and what a manager removes an administrator removes.
-/

namespace ProfilePolicy

open Value Situation

/-! ## The sets of a submission -/

namespace Policy

variable {policy : Policy} {config : Config} {submitted : Keyed Value}
variable {organization : Option Organization} {catalog : Catalog} {episode : Episode}
variable {values : AttributeValues}

/-- The set holds what was submitted under other names, and a name that was submitted unless it was
blank. -/
theorem get?_begin (builtin : policy.IsBuiltin) (bound : organization.isNone = false)
    (begun : policy.begin submitted organization catalog = .ok episode) :
    ∃ values, normalizeAll submitted = .ok values ∧ episode.organization = organization ∧
      (∀ name, name ≠ nameKey → episode.values.get? name = values.get? name) ∧
      ∀ named, values.get? nameKey = some named → (∀ v ∈ named, v.IsTextual) ∧
        (contentTexts named = [] ∨ episode.values.get? nameKey = some named) := by
  obtain ⟨values, given, restored⟩ := begin_eq_ok begun
  have others : ∀ name, name ≠ nameKey → episode.values.get? name = values.get? name :=
    fun _ notName => get?_restored builtin restored notName
  obtain ⟨textual, rfl⟩ := (restoreName_eq_ok_iff bound).mp restored
  refine ⟨values, given, ?_, others, ?_⟩
  · rw [Policy.restored]
    split <;> rfl
  · intro named listed
    have held : (policy.filled organization catalog values).values.get? nameKey = some named :=
      get?_fillDeclared_of_held listed policy.declared.names
    rw [Episode.get, held, Option.getD_some] at textual
    refine ⟨textual, ?_⟩
    rw [Policy.restored, Episode.get, held, Option.getD_some]
    split
    · rename_i restores
      left
      exact List.isEmpty_iff.mp (Bool.and_eq_true_iff.mp restores).1
    · exact Or.inr held

/-- The set of an administrator holds what was submitted. -/
theorem begin_administrator (builtin : policy.IsBuiltin) (holds : catalog.Holds config)
    (administrator : policy.context = .updateMetadata)
    (given : normalizeAll submitted = .ok values)
    (textual : ∀ v ∈ (values.get? nameKey).getD [], v.IsTextual) :
    policy.begin submitted organization catalog = .ok { organization, values, catalog } := by
  have filled : fillDeclared organization values policy.declared.names = values := by
    rw [builtin.declared, administrator]
    rfl
  have allowed : ∀ episode : Episode, episode.catalog.Holds config →
      policy.deniedByMetadata nameKey episode = false := by
    intro episode held
    rw [builtin.deniedByMetadata_eq held, administrator]
    rfl
  have compared : nonBlank (({ organization, values, catalog } : Episode).get nameKey) =
      .ok (contentTexts ((values.get? nameKey).getD [])) := nonBlank_of_textual textual
  rw [begin, given]
  simp only [Bind.bind, Except.bind, filled, restoreName, compared, Except.map,
    allowed { organization, values, catalog } holds, Bool.and_false, Bool.false_eq_true, if_false,
    ite_self]

end Policy

/-- The sets of a manager and of an administrator who submit the same for an organization. -/
structure Episode.SameSubmission (first second : Episode) (organization : Organization) :
    Prop where
  manager : first.organization = some organization
  administrator : second.organization = some organization
  values : ∀ name, name ≠ nameKey → second.values.get? name = first.values.get? name
  /-- A name that is not blank is the same in both sets. -/
  name : ∀ given, second.values.get? nameKey = some given →
    (∀ v ∈ given, v.IsTextual) ∧
      (contentTexts given = [] ∨ first.values.get? nameKey = some given)

/-- A submission that makes a profile for a manager makes one for an administrator. -/
theorem Provider.IsBuiltin.create_administrator {provider : Provider} {config : Config}
    (builtin : provider.IsBuiltin config) {submitted : Keyed Value} {organization : Organization}
    {manager : Profile}
    (created : provider.create .updateProfile submitted (some organization) = .ok manager) :
    ∃ administrator, provider.create .updateMetadata submitted (some organization) =
        .ok administrator ∧
      manager.episode.SameSubmission administrator.episode organization := by
  obtain ⟨policy, found, created⟩ := bind_eq_ok.mp created
  obtain ⟨episode, begun, created⟩ := bind_eq_ok.mp created
  cases created
  obtain ⟨-, ofBuiltin⟩ := builtin.isBuiltin_policy found
  obtain ⟨values, given, bound, others, named⟩ :=
    Policy.get?_begin ofBuiltin rfl (orMishap_eq_ok begun)
  have textual : ∀ v ∈ (values.get? nameKey).getD [], v.IsTextual := by
    cases listed : values.get? nameKey with
    | none =>
      intro v mem
      cases mem
    | some given => exact (named given listed).1
  obtain ⟨policy', found'⟩ : ∃ policy', provider.policy .updateMetadata = .ok policy' :=
    ⟨_, builtin.policy_eq .updateMetadata⟩
  obtain ⟨administers, ofBuiltin'⟩ := builtin.isBuiltin_policy found'
  have begun' : policy'.begin submitted (some organization) provider.registry.catalog =
      .ok { organization := some organization, values, catalog := provider.registry.catalog } :=
    Policy.begin_administrator ofBuiltin' builtin.holds_catalog administers given textual
  let episode' : Episode :=
    { organization := some organization, values, catalog := provider.registry.catalog }
  refine ⟨⟨policy', episode'⟩, ?_, bound, rfl, ?_, named⟩
  · rw [create, found']
    simp only [Bind.bind, Except.bind, begun', orMishap]
    rfl
  · exact fun name notName => (others name notName).symm

/-! ## What a manager may an administrator may -/

/-- Nothing stored is left unchanged by a blank submission. -/
theorem unchangedValues_of_blank {given : List Value} (textual : ∀ v ∈ given, v.IsTextual)
    (blank : contentTexts given = []) :
    Value.unchangedValues (.list []) (.list given) = .ok true := by
  rw [unchangedValues_eq_true_iff]
  refine ⟨?_, fun v mem => absurd mem List.not_mem_nil, textual, ?_⟩
  · cases given with
    | nil => rfl
    | cons first rest =>
      rcases textual first List.mem_cons_self with rfl | ⟨written, rfl⟩
      · rfl
      · have isBlank : Text.isBlank written = true := by
          cases known : Text.isBlank written with
          | true => rfl
          | false => simp [known] at blank
        exact congrArg Except.ok isBlank
  · rw [blank]
    exact List.Perm.refl _

section Same

variable {config : Config} {policy policy' : Policy} {manager administrator : Episode}
variable {organization : Organization} {remove : Bool}

/-- A name that a manager got accepted is the present one. -/
theorem keeps_name_of_accepted (manages : policy.context = .updateProfile)
    (bound : manager.organization = some organization)
    (accepted : Policy.finding config (policy.situation nameKey manager) = .ok []) :
    Keeps (Validator.storedName (some organization)) (policy.situation nameKey manager).value := by
  have present : (policy.situation nameKey manager).organization.isSome = true :=
    congrArg Option.isSome bound
  have persisted : (policy.situation nameKey manager).persisted =
      Validator.storedName (some organization) := by
    rw [← bound]
    exact if_pos rfl
  have own : Policy.ownRules policy.context nameKey = 1 := if_pos ⟨manages, rfl⟩
  have silent := (Policy.repeated_eq_nil_iff.mp (Policy.both_eq_nil_iff.mp accepted).1)
    (own ▸ Nat.one_pos)
  rw [← persisted, ← reports_persisted_eq_false_iff present, persisted, ← bound]
  exact silent

/-- The name of the organization in the set of an administrator gives no finding. -/
theorem finding_name_administrator (same : manager.SameSubmission administrator organization)
    (manages : policy.context = .updateProfile) (administers : policy'.context = .updateMetadata)
    (unnamed : organization.valuesOf nameKey = [])
    (accepted : Policy.Accepts config policy manager) {given : List Value}
    (listed : administrator.values.get? nameKey = some given) :
    Policy.finding config (policy'.situation nameKey administrator) = .ok [] := by
  obtain ⟨textual, named⟩ := same.name given listed
  have value : (policy'.situation nameKey administrator).value = given :=
    value_of_get? listed
  have silent : (policy'.situation nameKey administrator).reports [] = .ok false := by
    rcases named with blank | kept
    · rw [reports, value, unchangedValues_of_blank textual blank]
      rfl
    · have managed : (policy.situation nameKey manager).value = given := value_of_get? kept
      have mem : nameKey ∈ manager.values.names := by
        rw [← Keyed.get?_isSome_iff, kept]
        rfl
      have keeps := keeps_name_of_accepted manages same.manager (accepted nameKey mem)
      have persisted : (policy'.situation nameKey administrator).persisted =
          Validator.storedName (some organization) := by
        rw [← same.administrator]
        exact if_pos rfl
      apply reports_eq_false_of_keeps
      · exact fun v none => absurd none List.not_mem_nil
      · exact congrArg Option.isSome same.administrator
      · rw [persisted, value, ← managed]
        exact keeps
  have stored : (policy'.situation nameKey administrator).stored = [] := by
    rw [Profile.stored_situation same.administrator]
    exact unnamed
  have noRule : Policy.ownRules policy'.context nameKey = 0 := by
    rw [administers]
    rfl
  rw [Policy.finding, Policy.both_eq_nil_iff, Policy.repeated_eq_nil_iff,
    Policy.repeated_eq_nil_iff, stored]
  refine ⟨fun some => ?_, fun _ => silent⟩
  exact absurd (noRule ▸ some) (Nat.lt_irrefl 0)

/-- What a manager got accepted is accepted from an administrator. -/
theorem accepts_administrator (same : manager.SameSubmission administrator organization)
    (manages : policy.context = .updateProfile) (administers : policy'.context = .updateMetadata)
    (unnamed : organization.valuesOf nameKey = [])
    (accepted : Policy.Accepts config policy manager) :
    Policy.Accepts config policy' administrator := by
  intro name mem
  obtain ⟨given, listed⟩ :=
    Option.isSome_iff_exists.mp ((Keyed.get?_isSome_iff _ _).mpr mem)
  by_cases isName : name = nameKey
  · subst isName
    exact finding_name_administrator same manages administers unnamed accepted listed
  · have managed : manager.values.get? name = some given := by
      rw [← same.values name isName, listed]
    have mem' : name ∈ manager.values.names := by
      rw [← Keyed.get?_isSome_iff, managed]
      rfl
    rw [Policy.finding_eq_nil_iff isName (congrArg Option.isSome same.administrator)]
    intro protects
    have binds : config.Protects policy.context name := by
      have administrative : config.Protects policy'.context name := protects
      rw [administers] at administrative
      exact administrative.manager policy.context
    have keeps := (Policy.finding_eq_nil_iff isName (congrArg Option.isSome same.manager)).mp
      (accepted name mem') binds
    rw [Profile.stored_situation same.manager, value_of_get? managed] at keeps
    rw [Profile.stored_situation same.administrator, value_of_get? listed]
    exact keeps

/-- Less is covered for an administrator. -/
theorem relaxes_administrator (same : manager.SameSubmission administrator organization)
    (config : Config) (administers : policy'.context = .updateMetadata) (name : String) :
    Relaxes config (policy.situation name manager) config
      (policy'.situation name administrator) := by
  refine ⟨rfl, ?_, same.values name, fun covered => ?_⟩
  · rw [Profile.stored_situation same.manager, Profile.stored_situation same.administrator]
  · have protects := Config.protects_iff_matchCount_pos.mpr (Nat.pos_of_ne_zero covered)
    have administrative : config.Protects policy'.context name := protects
    rw [administers] at administrative
    have managerial := administrative.manager policy.context
    exact Nat.ne_of_gt (Config.protects_iff_matchCount_pos.mp managerial)

/-- What an update changes for a manager it changes to the same for an administrator. -/
theorem updates_administrator (same : manager.SameSubmission administrator organization)
    (administers : policy'.context = .updateMetadata) {name : String} {left : StoredValues}
    (updated : Profile.Updates config policy remove manager name left) :
    ∃ left', Profile.Updates config policy' remove administrator name left' ∧
      (left ≠ organization.valuesOf name → left' = left) := by
  have relaxes : Relaxes config (policy.situation name manager) config
      (policy'.situation name administrator) :=
    relaxes_administrator same config administers name
  rw [← Profile.stored_situation same.manager policy name]
  exact relaxes.updated updated

theorem remove_mem_administrator (same : manager.SameSubmission administrator organization)
    (administers : policy'.context = .updateMetadata) {order order' : Order} {name : String}
    (mem : .remove name ∈ Profile.dueCalls config policy remove order manager organization) :
    .remove name ∈ Profile.dueCalls config policy' remove order' administrator organization := by
  rw [Profile.remove_mem_dueCalls same.manager] at mem
  obtain ⟨asked, stored, leftOut, notName, free⟩ := mem
  rw [Profile.remove_mem_dueCalls same.administrator]
  refine ⟨asked, stored, ?_, notName, ?_⟩
  · rw [← Keyed.get?_isSome_iff, same.values name notName, Keyed.get?_isSome_iff]
    exact leftOut
  · have relaxes : Relaxes config (policy.situation name manager) config
        (policy'.situation name administrator) :=
      relaxes_administrator same config administers name
    exact (relaxes.rejection notName free).elim id id

end Same

/-- Over an organization that refuses nothing and has no attribute called like its name: where an
update of a manager comes to its end, the same update of an administrator does, every list that the
manager changed ends as the same list, and everything that the manager removes is removed. -/
theorem Provider.IsBuiltin.administrator_may_what_manager_may {provider : Provider}
    {config : Config} (builtin : provider.IsBuiltin config) {submitted : Submission}
    {organization : Organization} (unnamed : organization.valuesOf nameKey = [])
    (willing : organization.refusals = none) {manager after : Profile}
    (created : provider.create .updateProfile submitted.entries (some organization) = .ok manager)
    (remove : Bool) (validation removal : Order)
    (updated : (manager.run fun policy =>
      Profile.update policy remove validation.visit removal.visit) = (.ok (), after))
    (validation' removal' : Order) :
    ∃ administrator after' left left' calls calls',
      provider.create .updateMetadata submitted.entries (some organization) = .ok administrator ∧
      (administrator.run fun policy =>
        Profile.update policy remove validation'.visit removal'.visit) = (.ok (), after') ∧
      after.episode.organization = some left ∧ after'.episode.organization = some left' ∧
      (∀ name, left.valuesOf name ≠ organization.valuesOf name →
        left'.valuesOf name = left.valuesOf name) ∧
      manager.Asks (fun policy =>
        Profile.update policy remove validation.visit removal.visit) calls ∧
      administrator.Asks (fun policy =>
        Profile.update policy remove validation'.visit removal'.visit) calls' ∧
      ∀ name, .remove name ∈ calls → .remove name ∈ calls' := by
  have fresh := builtin.isFresh_create created
  obtain ⟨accepted, leaves⟩ :=
    fresh.isSound.of_update_ok fresh.organization_eq validation removal updated
  have decided := Profile.decided_of_leaves leaves
  obtain ⟨left, writes, -, all⟩ := leaves
  obtain ⟨administrator, created', same⟩ := builtin.create_administrator created
  have fresh' := builtin.isFresh_create created'
  have accepted' : Policy.Accepts config administrator.policy administrator.episode :=
    accepts_administrator same fresh.context_eq fresh'.context_eq unnamed accepted
  have decided' : Profile.Decided config administrator.policy remove administrator.episode := by
    intro name
    obtain ⟨left', updated', -⟩ := updates_administrator same fresh'.context_eq (all name)
    exact ⟨left', updated'⟩
  obtain ⟨last, -, result, -⟩ := fresh'.isSound.run_update remove fresh'.organization_eq accepted'
    decided' validation' removal' rfl
  rw [Call.performAll_of_granted fun call _ => Call.refusal_of_willing willing call] at result
  obtain ⟨-, left', writes', -, all'⟩ :=
    fresh'.isSound.of_update_ok fresh'.organization_eq validation' removal' result
  have asks := fresh.isSound.asks_update fresh.organization_eq accepted decided validation removal
  have asks' := fresh'.isSound.asks_update fresh'.organization_eq accepted' decided' validation'
    removal'
  refine ⟨administrator, _, left, left', _, _, created', result, writes.organization,
    writes'.organization, fun name changed => ?_, asks, asks', fun name mem => ?_⟩
  · obtain ⟨expected, updated', agrees⟩ :=
      updates_administrator same fresh'.context_eq (all name)
    have found := (all' name).symm.trans updated'
    rw [← agrees changed]
    exact Except.ok.inj found
  · exact remove_mem_administrator same fresh'.context_eq mem

/-- A manager changes an attribute and removes another one, and so does an administrator. -/
theorem Provider.administrator_may_what_manager_may_of_two :
    let organization : Organization :=
      { name := .text "sample", storage := .entries [("plain", [.text "1"]),
          ("spare", [.text "x"]), ("org_ro_tier", [.text "basic"])] }
    let submitted := Submission.ofPairs [("plain", .text "2")]
    let update := fun policy =>
      Profile.update policy true Order.listed.visit Order.listed.visit
    ∃ manager administrator after after' left left' calls calls',
      (Provider.standard {}).create .updateProfile submitted.entries (some organization) =
        .ok manager ∧
      manager.run update = (.ok (), after) ∧
      (Provider.standard {}).create .updateMetadata submitted.entries (some organization) =
        .ok administrator ∧
      administrator.run update = (.ok (), after') ∧
      after.episode.organization = some left ∧ after'.episode.organization = some left' ∧
      (∀ name, left.valuesOf name ≠ organization.valuesOf name →
        left'.valuesOf name = left.valuesOf name) ∧
      manager.Asks update calls ∧ administrator.Asks update calls' ∧
      ∀ name, .remove name ∈ calls → .remove name ∈ calls' := by
  intro organization submitted update
  have builtin := Provider.isBuiltin_standard {}
  have creates : ((Provider.standard {}).create .updateProfile submitted.entries
      (some organization)).toBool = true := by decide +kernel
  have created := eq_ok_of_toBool creates
  have succeeds : ((((Provider.standard {}).create .updateProfile submitted.entries
      (some organization)).toOption.getD default).run update).1.toBool = true := by decide +kernel
  have updated := Profile.run_eq_of_toBool succeeds
  obtain ⟨administrator, after', left, left', calls, calls', rest⟩ :=
    builtin.administrator_may_what_manager_may rfl rfl created true .listed .listed updated
      .listed .listed
  exact ⟨_, administrator, _, after', left, left', calls, calls', created, updated, rest⟩

/-- An administrator asks for a removal that a manager does not ask for, and may be refused. -/
theorem Provider.administrator_refused :
    let organization : Organization :=
      { name := .text "sample", storage := .entries [("org_ro_x", [.text "a"])],
        refusals := some { removing := [("org_ro_x", .mishap (.outside "OSError" "disk"))] } }
    let submitted := Submission.ofPairs [("name", .list [.text "sample"])]
    let update := fun policy =>
      Profile.update policy true Order.listed.visit Order.listed.visit
    organization.valuesOf nameKey = [] ∧
    ∃ manager administrator after,
      (Provider.standard {}).create .updateProfile submitted.entries (some organization) =
        .ok manager ∧
      manager.run update = (.ok (), after) ∧
      (Provider.standard {}).create .updateMetadata submitted.entries (some organization) =
        .ok administrator ∧
      (administrator.run update).1 ≠ .ok () := by
  intro organization submitted update
  have creates : ((Provider.standard {}).create .updateProfile submitted.entries
      (some organization)).toBool = true := by decide +kernel
  have created := eq_ok_of_toBool creates
  have succeeds : ((((Provider.standard {}).create .updateProfile submitted.entries
      (some organization)).toOption.getD default).run update).1.toBool = true := by decide +kernel
  have creates' : ((Provider.standard {}).create .updateMetadata submitted.entries
      (some organization)).toBool = true := by decide +kernel
  have created' := eq_ok_of_toBool creates'
  have fails : ((((Provider.standard {}).create .updateMetadata submitted.entries
      (some organization)).toOption.getD default).run update).1.toBool = false := by decide +kernel
  refine ⟨rfl, _, _, _, created, Profile.run_eq_of_toBool succeeds, created', fun finished => ?_⟩
  rw [finished] at fails
  cases fails

end ProfilePolicy
