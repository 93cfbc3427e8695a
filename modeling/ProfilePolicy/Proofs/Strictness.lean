import ProfilePolicy.Proofs.Matching
import ProfilePolicy.Proofs.Visiting

/-!
# Adding patterns

More patterns only restrict. A submission makes the same set under them, so every name is in the
same situation, and what is compared there is the same. A rule that covers a name does so among more
patterns as well: what it reports is reported, and what it keeps from removal is kept. So an update
that comes to its end under more patterns asks for nothing that it would not ask for under fewer. It
may ask for further removals there, and these an organization may refuse.
-/

namespace ProfilePolicy

structure Config.GrowsInto (config more : Config) : Prop where
  readOnly : Pattern.GrowsInto config.readOnly more.readOnly
  adminReadOnly : Pattern.GrowsInto config.adminReadOnly more.adminReadOnly

namespace Config.GrowsInto

variable {config more : Config} {context : Context} {name : String}

theorem patternLists (grows : config.GrowsInto more) {patterns : List String}
    (mem : patterns ∈ config.patternLists context) :
    ∃ longer ∈ more.patternLists context, Pattern.GrowsInto patterns longer := by
  cases context with
  | updateMetadata =>
    simp only [Config.patternLists, List.mem_cons, List.not_mem_nil, or_false] at mem
    rcases mem with rfl | rfl
    · exact ⟨_, by simp [Config.patternLists], .refl _⟩
    · exact ⟨_, by simp [Config.patternLists], grows.adminReadOnly⟩
  | updateProfile =>
    simp only [Config.patternLists, List.mem_cons, List.not_mem_nil, or_false] at mem
    rcases mem with rfl | rfl | rfl | rfl
    · exact ⟨_, by simp [Config.patternLists], .refl _⟩
    · exact ⟨_, by simp [Config.patternLists], grows.adminReadOnly⟩
    · exact ⟨_, by simp [Config.patternLists], .refl _⟩
    · exact ⟨_, by simp [Config.patternLists], grows.readOnly⟩

/-- What is protected stays protected when patterns are added. -/
theorem protects (grows : config.GrowsInto more) (h : config.Protects context name) :
    more.Protects context name := by
  obtain ⟨matcher, listed, covers⟩ := h
  obtain ⟨patterns, mem, compiled⟩ := List.mem_filterMap.mp listed
  obtain ⟨longer, mem', longerGrows⟩ := grows.patternLists mem
  obtain ⟨matcher', compiled', covers'⟩ := longerGrows.fullMatch ⟨matcher, compiled, covers⟩
  exact ⟨matcher', List.mem_filterMap.mpr ⟨longer, mem', compiled'⟩, covers'⟩

theorem matchCount_ne_zero (grows : config.GrowsInto more)
    (covered : config.matchCount context name ≠ 0) : more.matchCount context name ≠ 0 := by
  have protects := protects_iff_matchCount_pos.mpr (Nat.pos_of_ne_zero covered)
  exact Nat.ne_of_gt (protects_iff_matchCount_pos.mp (grows.protects protects))

end Config.GrowsInto

/-! ## One situation -/

namespace Policy

variable {config more : Config} {situation : Situation}

theorem repeated_mono {existing : List Value} {count count' : Nat} {error : FieldError}
    (covered : count ≠ 0 → count' ≠ 0) {errors' : List FieldError}
    (h : repeated situation existing count' error = .ok errors') :
    ∃ errors, repeated situation existing count error = .ok errors ∧ errors ⊆ errors' := by
  by_cases none : count = 0
  · exact ⟨[], if_pos none, List.nil_subset errors'⟩
  · rw [repeated, if_neg (covered none)] at h
    obtain ⟨reported, known, rfl⟩ := map_eq_ok.mp h
    rw [repeated, if_neg none, known]
    refine ⟨_, rfl, ?_⟩
    cases reported with
    | false => exact List.nil_subset _
    | true =>
      intro found mem
      rw [List.eq_of_mem_replicate mem, if_pos rfl, List.mem_replicate]
      exact ⟨covered none, rfl⟩

/-- What is found in a name is found under more patterns too. -/
theorem finding_mono (grows : config.GrowsInto more) {errors' : List FieldError}
    (h : finding more situation = .ok errors') :
    ∃ errors, finding config situation = .ok errors ∧ errors ⊆ errors' := by
  obtain ⟨own, others, first, second, rfl⟩ := both_eq_ok h
  obtain ⟨fewer, found, subset⟩ := repeated_mono grows.matchCount_ne_zero second
  refine ⟨own ++ fewer, ?_, ?_⟩
  · rw [finding, first, found]
    rfl
  · exact List.append_subset.mpr ⟨List.subset_append_left own others,
      List.Subset.trans subset (List.subset_append_right own others)⟩

end Policy

/-- Less is covered under fewer patterns. -/
theorem Config.GrowsInto.relaxes {config more : Config} (grows : config.GrowsInto more)
    (situation : Situation) : Situation.Relaxes more situation config situation :=
  ⟨rfl, rfl, fun _ => rfl, grows.matchCount_ne_zero⟩

/-! ## One set -/

namespace Profile

/-- Profiles of one context with the same set over the same organization. -/
structure SameSet (profile profile' : Profile) : Prop where
  context : profile'.policy.context = profile.policy.context
  organization : profile'.episode.organization = profile.episode.organization
  values : profile'.episode.values = profile.episode.values

namespace SameSet

variable {profile profile' : Profile} {config more : Config} {context : Context}
variable {organization : Organization} {remove : Bool}

theorem situation_eq (same : profile.SameSet profile') (name : String) :
    profile'.policy.situation name profile'.episode =
      profile.policy.situation name profile.episode := by
  simp only [Policy.situation, same.context, same.organization, same.values]

theorem findings_mono (same : profile.SameSet profile') (grows : config.GrowsInto more)
    {names : List String} {errors' : List FieldError}
    (h : Policy.findings more profile'.policy profile'.episode names = .ok errors') :
    ∃ errors, Policy.findings config profile.policy profile.episode names = .ok errors ∧
      errors ⊆ errors' := by
  induction names generalizing errors' with
  | nil => exact ⟨[], rfl, List.nil_subset errors'⟩
  | cons name rest ih =>
    obtain ⟨own', others', here, later, rfl⟩ := Policy.both_eq_ok h
    rw [same.situation_eq] at here
    obtain ⟨own, found, subset⟩ := Policy.finding_mono grows here
    obtain ⟨others, found', subset'⟩ := ih later
    refine ⟨own ++ others, ?_, ?_⟩
    · rw [Policy.findings, found, found']
      rfl
    · exact List.append_subset.mpr
        ⟨List.Subset.trans subset (List.subset_append_left own' others'),
          List.Subset.trans subset' (List.subset_append_right own' others')⟩

theorem accepts (same : profile.SameSet profile') (grows : config.GrowsInto more)
    (accepted : Policy.Accepts more profile'.policy profile'.episode) :
    Policy.Accepts config profile.policy profile.episode := by
  intro name mem
  rw [← same.values] at mem
  have nothing := accepted name mem
  rw [same.situation_eq] at nothing
  obtain ⟨errors, found, subset⟩ := Policy.finding_mono grows nothing
  rw [found, List.subset_nil.mp subset]

theorem updates (same : profile.SameSet profile') (grows : config.GrowsInto more)
    (bound : profile.episode.organization = some organization) {name : String}
    {left' : StoredValues}
    (updated : Updates more profile'.policy remove profile'.episode name left') :
    ∃ left, Updates config profile.policy remove profile.episode name left ∧
      (left' ≠ organization.valuesOf name → left = left') := by
  unfold Updates at updated ⊢
  rw [same.situation_eq] at updated
  rw [← stored_situation bound profile.policy name]
  exact (grows.relaxes _).updated updated

theorem writable_eq (same : profile.SameSet profile') (sound : profile.IsSound config context)
    (sound' : profile'.IsSound more context) :
    profile'.policy.writable profile'.episode = profile.policy.writable profile.episode := by
  rw [Policy.writable, Policy.writable, same.values]
  apply List.filter_congr
  intro entry _
  rw [sound.builtin.deniedByMetadata_eq sound.holds, sound'.builtin.deniedByMetadata_eq sound'.holds,
    same.context]

/-- What an update asks for it asks for under fewer patterns, and besides it asks for removals. -/
theorem mem_dueCalls (same : profile.SameSet profile') (grows : config.GrowsInto more)
    (sound : profile.IsSound config context) (sound' : profile'.IsSound more context)
    (bound : profile.episode.organization = some organization) (order order' : Order) :
    (∀ call ∈ dueCalls more profile'.policy remove order' profile'.episode organization,
      call ∈ dueCalls config profile.policy remove order profile.episode organization) ∧
    ∀ call ∈ dueCalls config profile.policy remove order profile.episode organization,
      call ∉ dueCalls more profile'.policy remove order' profile'.episode organization →
        ∃ name, call = .remove name := by
  have setting : ∀ name texts,
      .set name texts ∈ dueCalls more profile'.policy remove order' profile'.episode organization ↔
        .set name texts ∈ dueCalls config profile.policy remove order profile.episode
          organization := by
    intro name texts
    rw [set_mem_dueCalls, set_mem_dueCalls, same.writable_eq sound sound']
  constructor
  · intro call mem
    cases call with
    | set name texts => exact (setting name texts).mp mem
    | remove name =>
      have bound' := same.organization.trans bound
      obtain ⟨asked, listed, absent, notName, removable⟩ := (remove_mem_dueCalls bound').mp mem
      rw [same.values] at absent
      rw [same.situation_eq] at removable
      refine (remove_mem_dueCalls bound).mpr ⟨asked, listed, absent, notName, ?_⟩
      exact ((grows.relaxes _).rejection notName removable).elim id id
  · intro call mem other
    cases call with
    | set name texts => exact absurd ((setting name texts).mpr mem) other
    | remove name => exact ⟨name, rfl⟩

/-- In any two orders, what is found is found under more patterns. -/
theorem findings_visit (same : profile.SameSet profile') (grows : config.GrowsInto more)
    (order order' : Order) {errors' : List FieldError}
    (h : Policy.findings more profile'.policy profile'.episode
      (order'.visit profile'.episode.values.names) = .ok errors') :
    ∃ errors, Policy.findings config profile.policy profile.episode
      (order.visit profile.episode.values.names) = .ok errors ∧ errors ⊆ errors' := by
  obtain ⟨errors, found, subset⟩ := same.findings_mono grows h
  have perm : (order'.visit profile'.episode.values.names).Perm
      (order.visit profile.episode.values.names) := by
    rw [same.values]
    exact (order'.perm _).trans (order.perm _).symm
  obtain ⟨visited, found', permuted⟩ := Policy.findings_perm perm found
  exact ⟨visited, found', List.Subset.trans permuted.symm.subset subset⟩

end SameSet

end Profile

/-! ## Verdicts -/

/-- A report with more errors has more names on error. -/
theorem Report.isOnError_mono {report report' : Report} (subset : report.errors ⊆ report'.errors)
    (some : report.errors ≠ []) {names : List String} (h : report.isOnError names = true) :
    report'.isOnError names = true := by
  have some' : report'.errors ≠ [] := fun none => some (List.subset_nil.mp (none ▸ subset))
  rw [isOnError] at h ⊢
  split
  · rw [groups_isEmpty_of_errors some']
    rfl
  · rename_i named
    rw [if_neg named, List.any_eq_true] at h
    obtain ⟨error, mem, about⟩ := h
    exact List.any_eq_true.mpr ⟨error, subset mem, about⟩

/-- Outcomes of validation of which the second one lets nothing pass that the first one stops. -/
inductive NoMilder : Except Fault Unit → Except Fault Unit → Prop
  | accepted (outcome : Except Fault Unit) : NoMilder (.ok ()) outcome
  /-- What is on error in the first is on error in the second. -/
  | rejected {report report' : Report} (errors : report.errors ⊆ report'.errors)
      (names : ∀ names, report.isOnError names = true → report'.isOnError names = true) :
      NoMilder (.error (.rejected report)) (.error (.rejected report'))
  /-- A comparison cannot be made in the second. -/
  | stuck (outcome : Except Fault Unit) (cause : Mishap) :
      NoMilder outcome (.error (.mishap cause))

namespace Profile

variable {profile profile' : Profile} {config more : Config} {context : Context}
variable {organization : Organization} {remove : Bool}

theorem SameSet.noMilder (same : profile.SameSet profile') (grows : config.GrowsInto more)
    (sound : profile.IsSound config context) (sound' : profile'.IsSound more context)
    (order order' : Order) :
    NoMilder (profile.run fun policy => validate policy order.visit).1
      (profile'.run fun policy => validate policy order'.visit).1 := by
  have mild := sound.concludes order
  have strict := sound'.concludes order'
  generalize (profile.run fun policy => validate policy order.visit).1 = result at mild ⊢
  generalize (profile'.run fun policy => validate policy order'.visit).1 = result' at strict ⊢
  cases there : Policy.findings more profile'.policy profile'.episode
      (order'.visit profile'.episode.values.names) with
  | error cause =>
    rw [there] at strict
    cases strict
    exact .stuck result cause
  | ok errors' =>
    obtain ⟨errors, here, subset⟩ := same.findings_visit grows order order' there
    rw [here] at mild
    rw [there] at strict
    cases mild with
    | accepted => exact .accepted result'
    | @rejected _ report some listed =>
      cases strict with
      | accepted => exact absurd (List.subset_nil.mp subset) some
      | @rejected _ report' _ listed' =>
        have together : report.errors ⊆ report'.errors :=
          List.Subset.trans listed.subset (List.Subset.trans subset listed'.symm.subset)
        have reported : report.errors ≠ [] := fun none => some (none ▸ listed).nil_eq.symm
        exact .rejected together fun _ => Report.isOnError_mono together reported

/-- Where all comparisons can be made, validation is not stuck. -/
theorem IsSound.validate_ne_mishap (sound : profile.IsSound config context) (order : Order)
    (compared : ∃ errors, Policy.findings config profile.policy profile.episode
      (order.visit profile.episode.values.names) = .ok errors) (cause : Mishap) :
    (profile.run fun policy => Profile.validate policy order.visit).1 ≠ .error (.mishap cause) := by
  intro result
  have concluded := sound.concludes order
  obtain ⟨errors, found⟩ := compared
  rw [found, result] at concluded
  cases concluded

end Profile

/-! ## Updates -/

/-- An update with some calls and an outcome goes further than one with others, which left an
organization. -/
structure GoesFurther (organization left' : Organization) (calls' calls : List Call)
    (outcome : Except Fault Unit × Profile) : Prop where
  asked : ∀ call ∈ calls', call ∈ calls
  besides : ∀ call ∈ calls, call ∉ calls' → ∃ name, call = .remove name
  /-- Unless a removal besides is refused the update comes to its end, and it changes to the same
  whatever the other one changed. -/
  ends : (∀ call ∈ calls, call ∉ calls' → call.refusal organization = none) →
    ∃ left, outcome.1 = .ok () ∧ outcome.2.episode.organization = some left ∧
      ∀ name, left'.valuesOf name ≠ organization.valuesOf name →
        left.valuesOf name = left'.valuesOf name

namespace Profile

variable {profile profile' after' : Profile} {config more : Config} {context : Context}
variable {organization : Organization} {remove : Bool}

/-- Where an update comes to its end under more patterns, it goes further under fewer. -/
theorem SameSet.goesFurther (same : profile.SameSet profile') (grows : config.GrowsInto more)
    (sound : profile.IsSound config context) (sound' : profile'.IsSound more context)
    (bound : profile.episode.organization = some organization)
    (validation removal validation' removal' : Order)
    (updated : (profile'.run fun policy =>
      update policy remove validation'.visit removal'.visit) = (.ok (), after')) :
    ∃ left' calls' calls, after'.episode.organization = some left' ∧
      profile'.Asks (fun policy => update policy remove validation'.visit removal'.visit) calls' ∧
      profile.Asks (fun policy => update policy remove validation.visit removal.visit) calls ∧
      GoesFurther organization left' calls' calls
        (profile.run fun policy => update policy remove validation.visit removal.visit) := by
  have bound' := same.organization.trans bound
  obtain ⟨accepted', leaves'⟩ := sound'.of_update_ok bound' validation' removal' updated
  have decided' := decided_of_leaves leaves'
  have granted' := sound'.granted_of_update_ok bound' validation' removal' updated
  obtain ⟨left', writes', -, all'⟩ := leaves'
  have accepted := same.accepts grows accepted'
  have decided : Decided config profile.policy remove profile.episode := by
    intro name
    obtain ⟨left, reaches, -⟩ := same.updates grows bound (all' name)
    exact ⟨left, reaches⟩
  have asks' := sound'.asks_update bound' accepted' decided' validation' removal'
  have asks := sound.asks_update bound accepted decided validation removal
  obtain ⟨asked, besides⟩ := same.mem_dueCalls grows sound sound' bound removal removal'
  refine ⟨left', _, _, writes'.organization, asks', asks, asked, besides, fun unhindered => ?_⟩
  have finished := asks.ends bound fun call mem => by
    by_cases shared : call ∈ dueCalls more profile'.policy remove removal' profile'.episode
        organization
    · exact granted' call shared
    · exact unhindered call mem shared
  obtain ⟨-, left, writes, -, all⟩ := sound.of_update_ok bound validation removal
    (Prod.ext finished rfl)
  refine ⟨left, finished, writes.organization, fun name changed => ?_⟩
  obtain ⟨expected, reaches, agrees⟩ := same.updates grows bound (all' name)
  have left_eq : left.valuesOf name = expected := Except.ok.inj ((all name).symm.trans reaches)
  rw [left_eq, agrees changed]

end Profile

section Providers

variable {provider provider' : Provider} {config more : Config}
variable {submitted : Submission} {organization : Option Organization}

/-- Providers make profiles with the same set of a submission, or fail alike. -/
theorem Provider.IsBuiltin.create_sameSet (builtin : provider.IsBuiltin config)
    (builtin' : provider'.IsBuiltin more) (context : Context) :
    (∃ fault, provider.create context submitted.entries organization = .error fault ∧
      provider'.create context submitted.entries organization = .error fault) ∨
    ∃ profile profile', provider.create context submitted.entries organization = .ok profile ∧
      provider'.create context submitted.entries organization = .ok profile' ∧
      profile.SameSet profile' := by
  have found := builtin'.policy_eq context
  have alike : provider'.create context submitted.entries organization = _ :=
    builtin.create_alike builtin' found (.refl organization)
  cases created : provider.create context submitted.entries organization with
  | error fault =>
    rw [created] at alike
    exact Or.inl ⟨fault, rfl, alike⟩
  | ok profile =>
    rw [created] at alike
    have fresh := builtin.isFresh_create created
    refine Or.inr ⟨profile, _, rfl, alike, ?_, ?_, rfl⟩
    · exact fresh.context_eq.symm
    · exact fresh.organization_eq.symm

/-- Adding patterns only restricts. The same set is made of a submission; what is on error stays on
error; and where an update comes to its end, it goes further under fewer patterns. -/
theorem Provider.IsBuiltin.patterns_only_restrict (builtin : provider.IsBuiltin config)
    (builtin' : provider'.IsBuiltin more) (grows : config.GrowsInto more) (context : Context)
    (submitted : Submission) (organization : Option Organization) :
    match provider.create context submitted.entries organization with
    | .error fault => provider'.create context submitted.entries organization = .error fault
    | .ok profile => ∃ profile',
      provider'.create context submitted.entries organization = .ok profile' ∧
      (∀ order order' : Order,
        let result' := (profile'.run fun policy => Profile.validate policy order'.visit).1
        NoMilder (profile.run fun policy => Profile.validate policy order.visit).1 result' ∧
          (Comparable submitted organization → ∀ cause, result' ≠ .error (.mishap cause))) ∧
      ∀ (remove : Bool) (validation removal validation' removal' : Order),
        let update := fun policy => Profile.update policy remove validation.visit removal.visit
        let update' := fun policy => Profile.update policy remove validation'.visit removal'.visit
        ∀ after', profile'.run update' = (.ok (), after') →
          ∃ known left' calls' calls, organization = some known ∧
            after'.episode.organization = some left' ∧
            profile'.Asks update' calls' ∧ profile.Asks update calls ∧
            GoesFurther known left' calls' calls (profile.run update) := by
  rcases builtin.create_sameSet builtin' context with
    ⟨fault, created, created'⟩ | ⟨profile, profile', created, created', same⟩
  · rw [created]
    exact created'
  · rw [created]
    have fresh := builtin.isFresh_create created
    have sound' := (builtin'.isFresh_create created').isSound
    refine ⟨profile', created', fun order order' => ⟨?_, fun comparable => ?_⟩, ?_⟩
    · exact same.noMilder grows fresh.isSound sound' order order'
    · exact sound'.validate_ne_mishap order'
        (builtin'.findings_of_comparable created' comparable _)
    · intro remove validation removal validation' removal' update update' after' updated
      obtain ⟨known, bound'⟩ := sound'.bound_of_update_ok validation' removal' updated
      have bound := same.organization.symm.trans bound'
      obtain ⟨left', calls', calls, further⟩ :=
        same.goesFurther grows fresh.isSound sound' bound validation removal validation' removal'
          updated
      exact ⟨known, left', calls', calls, fresh.organization_eq.symm.trans bound, further⟩

end Providers

/-- Two more patterns keep one attribute of a manager's update from being removed. -/
theorem Provider.patterns_only_restrict_of_two :
    let config : Config := { readOnly := ["plan"] }
    let more : Config := { readOnly := ["plan", "tier*"], adminReadOnly := ["seat"] }
    let organization : Organization :=
      { name := .text "sample", storage := .entries [("first", [.text "1"]), ("tier_x", [.text "2"]),
          ("plan", [.text "basic"]), ("spare", [.text "x"])] }
    let submitted := Submission.ofPairs [("first", .list [.text "3"])]
    let update := fun policy =>
      Profile.update policy true Order.listed.visit Order.listed.visit
    config.GrowsInto more ∧ ∃ profile profile' after' left' calls' calls,
      (Provider.standard config).create .updateProfile submitted.entries (some organization) =
        .ok profile ∧
      (Provider.standard more).create .updateProfile submitted.entries (some organization) =
        .ok profile' ∧
      profile'.run update = (.ok (), after') ∧
      after'.episode.organization = some left' ∧
      profile'.Asks update calls' ∧ profile.Asks update calls ∧
      GoesFurther organization left' calls' calls (profile.run update) := by
  intro config more organization submitted update
  have grows : config.GrowsInto more := by
    refine ⟨⟨by decide, by decide +kernel⟩, ⟨by decide, by decide +kernel⟩⟩
  have restricts := (Provider.isBuiltin_standard config).patterns_only_restrict
    (Provider.isBuiltin_standard more) grows .updateProfile submitted (some organization)
  have creates : ((Provider.standard config).create .updateProfile submitted.entries
      (some organization)).toBool = true := by decide +kernel
  have created := eq_ok_of_toBool creates
  rw [created] at restricts
  obtain ⟨profile', created', -, goes⟩ := restricts
  have succeeds : ((((Provider.standard more).create .updateProfile submitted.entries
      (some organization)).toOption.getD default).run update).1.toBool = true := by decide +kernel
  rw [created'] at succeeds
  have updated := Profile.run_eq_of_toBool succeeds
  obtain ⟨known, left', calls', calls, same, left, asks', asks, further⟩ :=
    goes true .listed .listed .listed .listed _ updated
  cases same
  exact ⟨grows, _, profile', _, left', calls', calls, created, created', updated, left, asks', asks,
    further⟩

def Config.outcome (config : Config) (context : Context) (submitted : Submission)
    (organization : Organization) (action : Policy → Action Unit) : Except Fault Unit := do
  let profile ← (Provider.standard config).create context submitted.entries (some organization)
  (profile.run action).1

/-- The names on error when a submission is rejected. -/
def Fault.rejectedNames? : Fault → Option (List String)
  | .rejected report => some (report.errors.map (·.field))
  | _ => none

/-- An update that is refused a removal does not ask for it under one more pattern. -/
theorem Provider.patterns_may_help :
    let fewer : Config := {}
    let more : Config := { readOnly := ["spare"] }
    let organization : Organization :=
      { name := .text "sample", storage := .entries [("spare", [.text "x"])],
        refusals := some { removing := [("spare", .mishap (.outside "OSError" "disk"))] } }
    let submitted := Submission.ofPairs [("name", .list [.text "sample"])]
    let update := fun policy =>
      Profile.update policy true Order.listed.visit Order.listed.visit
    fewer.readOnly ⊆ more.readOnly ∧ fewer.adminReadOnly ⊆ more.adminReadOnly ∧
      (fewer.outcome .updateProfile submitted organization update).toBool = false ∧
      (more.outcome .updateProfile submitted organization update).toBool = true := by
  decide +kernel

/-- Two capitals beyond the first plane are a choice that matches neither of them. -/
theorem Provider.capitals_may_help :
    let fewer : Config := { adminReadOnly := ["x𐐀"] }
    let more : Config := { adminReadOnly := ["x𐐀", "x𐐁"] }
    let organization : Organization :=
      { name := .text "sample", storage := .entries [("x𐐀", [.text "a"])] }
    let submitted := Submission.ofPairs [("x𐐀", .list [.text "b"])]
    let validate := fun policy => Profile.validate policy Order.listed.visit
    fewer.readOnly ⊆ more.readOnly ∧ fewer.adminReadOnly ⊆ more.adminReadOnly ∧
      (fewer.outcome .updateMetadata submitted organization validate).mapError
        Fault.rejectedNames? = .error (some ["x𐐀"]) ∧
      (more.outcome .updateMetadata submitted organization validate).toBool = true := by
  decide +kernel

/-- A value that cannot be compared hides what else is on error, once a pattern binds its name. -/
theorem Provider.comparing_may_hide :
    let fewer : Config := {}
    let more : Config := { readOnly := ["spare"] }
    let organization : Organization :=
      { name := .text "sample", storage := .entries [("spare", [.text "x"])] }
    let submitted := Submission.ofPairs [("name", .list [.text "other"]), ("spare", .list [.int 1])]
    let validate := fun policy => Profile.validate policy Order.listed.visit
    fewer.readOnly ⊆ more.readOnly ∧ fewer.adminReadOnly ⊆ more.adminReadOnly ∧
      (fewer.outcome .updateProfile submitted organization validate).mapError
        Fault.rejectedNames? = .error (some ["name"]) ∧
      (more.outcome .updateProfile submitted organization validate).mapError
        Fault.rejectedNames? = .error none := by
  decide +kernel

end ProfilePolicy
