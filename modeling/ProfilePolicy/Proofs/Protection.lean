import ProfilePolicy.Proofs.Update

/-!
# What updates keep

An accepted update keeps the contents stored under every protected name. Under a name of the set the
contents were accepted as a permutation of those stored, and what is written are these contents. A
name that was left out is removed only when nothing of contents is stored under it. For the same
reason a set that was accepted is accepted again after the update, even if that broke off.
-/

namespace ProfilePolicy

open Value Situation

/-- What is written is what was stored or the contents submitted. -/
theorem overwritten_eq_ok {remove : Bool} {submitted stored : List Value} {left : StoredValues}
    (h : overwritten remove submitted stored = .ok left) :
    left = stored ∨ (∀ v ∈ submitted, v.IsTextual) ∧ left = (contentTexts submitted).map text := by
  obtain ⟨wanted, decided, rfl⟩ := map_eq_ok.mp h
  obtain ⟨updated, compared, decided⟩ := bind_eq_ok.mp decided
  obtain ⟨same, -, decided⟩ := bind_eq_ok.mp decided
  obtain ⟨textual, rfl⟩ := nonBlank_eq_ok_iff.mp compared
  cases wanted with
  | none => exact Or.inl rfl
  | some texts =>
    have found := Except.ok.inj decided
    split at found
    · cases found
    · cases found
      exact Or.inr ⟨textual, rfl⟩

namespace Situation

variable {config : Config} {remove : Bool} {situation : Situation} {left : StoredValues}

/-- Contents that were kept are kept by writing. -/
theorem Keeps.overwritten {submitted stored : List Value} (kept : Keeps stored submitted)
    (h : overwritten remove submitted stored = .ok left) : Keeps left submitted := by
  rcases overwritten_eq_ok h with rfl | ⟨textual, rfl⟩
  · exact kept
  · exact Keeps.refl_contents textual

theorem value_of_get? {submitted : List Value}
    (found : situation.values.get? situation.name = some submitted) :
    situation.value = submitted := by
  rw [value, found]
  rfl

/-- An update leaves what was stored, nothing, or contents that were submitted. -/
theorem updated_cases (updated : situation.updated config remove = .ok left) :
    left = situation.stored ∨ left = [] ∨
      ∃ submitted, left = (contentTexts submitted).map text := by
  rw [Situation.updated] at updated
  split at updated
  · cases updated
    exact Or.inl rfl
  · split at updated
    · rcases overwritten_eq_ok updated with rfl | ⟨-, rfl⟩
      · exact Or.inl rfl
      · exact Or.inr (Or.inr ⟨_, rfl⟩)
    · split at updated
      · obtain ⟨kept, -, rfl⟩ := map_eq_ok.mp updated
        cases kept with
        | true => exact Or.inl rfl
        | false => exact Or.inr (Or.inl rfl)
      · cases updated
        exact Or.inl rfl

/-- Removing a protected name takes no contents away. -/
theorem contents_withdrawn (leftOut : situation.value = [])
    (protects : config.Protects situation.context situation.name)
    (h : situation.withdrawn config = .ok left) :
    (contents situation.stored).Perm (contents left) := by
  obtain ⟨kept, known, rfl⟩ := map_eq_ok.mp h
  cases kept with
  | true => exact List.Perm.refl _
  | false =>
    obtain ⟨-, textual, nothing⟩ := (Policy.rejection_eq_false_iff leftOut).mp known protects
    rw [contents_eq_contentTexts textual, nothing]
    exact List.Perm.refl _

/-- An accepted update keeps the contents under a protected name. -/
theorem contents_updated (bound : situation.organization.isSome = true)
    (protects : config.Protects situation.context situation.name)
    (accepted : situation.name ∈ situation.values.names →
      Policy.finding config situation = .ok [])
    (h : situation.updated config remove = .ok left) :
    (contents situation.stored).Perm (contents left) := by
  by_cases isName : situation.name = nameKey
  · rw [updated, if_pos isName] at h
    cases h
    exact List.Perm.refl _
  · cases found : situation.values.get? situation.name with
    | some submitted =>
      have listed : situation.name ∈ situation.values.names := by
        rw [← Keyed.get?_isSome_iff, found]
        rfl
      have kept := (Policy.finding_eq_nil_iff isName bound).mp (accepted listed) protects
      rw [value_of_get? found] at kept
      rw [updated_of_submitted config remove isName found] at h
      exact kept.contents_perm.trans (kept.overwritten h).contents_perm.symm
    | none =>
      have leftOut : situation.value = [] := by
        rw [value, found]
        rfl
      rw [updated_of_missing config remove isName found] at h
      cases remove with
      | true => exact contents_withdrawn leftOut protects h
      | false =>
        cases h
        exact List.Perm.refl _

end Situation

namespace Policy

variable {policy : Policy} {config : Config} {episode after : Episode}
variable {organization : Organization} {remove : Bool}

/-- What is found depends on the values compared alone. -/
theorem finding_congr {situation situation' : Situation}
    (context : situation'.context = situation.context) (name : situation'.name = situation.name)
    (value : situation'.value = situation.value) (stored : situation'.stored = situation.stored)
    (storedName : Validator.storedName situation'.organization =
      Validator.storedName situation.organization)
    (present : situation'.organization.isNone = situation.organization.isNone) :
    finding config situation' = finding config situation := by
  unfold finding repeated reports tolerates persisted
  rw [context, name, value, stored, storedName, present]

/-- A set that was accepted is accepted again once it is written, if only in part. -/
theorem Accepts.leaves (accepted : Accepts config policy episode)
    (bound : episode.organization = some organization)
    (h : episode.Leaves organization
      (organization.OrKept (Profile.Updates config policy remove episode)) after) :
    Accepts config policy after := by
  obtain ⟨left, writes, follows, partly⟩ := h
  intro name mem
  rw [writes.values] at mem
  have before := accepted name mem
  have value : (policy.situation name after).value = (policy.situation name episode).value := by
    simp only [Situation.value, situation, writes.values]
  have here : (policy.situation name episode).organization.isSome = true :=
    congrArg Option.isSome bound
  have here' : (policy.situation name after).organization.isSome = true :=
    congrArg Option.isSome writes.organization
  by_cases isName : name = nameKey
  · subst isName
    rw [← before]
    apply finding_congr
    · rfl
    · rfl
    · exact value
    · rw [Profile.stored_situation writes.organization, Profile.stored_situation bound]
      rcases partly nameKey with untouched | updated
      · exact untouched
      · unfold Profile.Updates at updated
        rw [Profile.updated_nameKey, Profile.stored_situation bound] at updated
        exact (Except.ok.inj updated).symm
    · simp only [situation, bound, writes.organization, Validator.storedName, follows.name]
    · simp only [situation, bound, writes.organization, Option.isNone_some]
  · rw [finding_eq_nil_iff isName here']
    intro protects
    have kept := (finding_eq_nil_iff isName here).mp before protects
    rw [Profile.stored_situation bound] at kept
    rw [value, Profile.stored_situation writes.organization]
    rcases partly name with untouched | updated
    · rw [untouched]
      exact kept
    · obtain ⟨submitted, found⟩ :=
        Option.isSome_iff_exists.mp ((Keyed.get?_isSome_iff _ _).mpr mem)
      unfold Profile.Updates at updated
      rw [updated_of_submitted config remove isName found, Profile.stored_situation bound] at updated
      rw [value_of_get? found] at kept ⊢
      exact kept.overwritten updated

/-- What an accepted update leaves, if only in part, has the contents under protected names. -/
theorem Accepts.contents_perm (accepted : Accepts config policy episode)
    (bound : episode.organization = some organization) {name : String} {left : StoredValues}
    (partly : organization.OrKept (Profile.Updates config policy remove episode) name left)
    (protects : config.Protects policy.context name) :
    (contents (organization.valuesOf name)).Perm (contents left) := by
  rcases partly with rfl | updated
  · exact List.Perm.refl _
  · rw [← Profile.stored_situation bound policy name]
    exact contents_updated (congrArg Option.isSome bound) protects (accepted name) updated

end Policy

/-- An organization with the name and, under all protected names, the contents of another one. -/
structure Organization.Preserves (after before : Organization) (isProtected : String → Prop) :
    Prop where
  name : after.name = before.name
  contents : ∀ name, isProtected name →
    (contents (before.valuesOf name)).Perm (contents (after.valuesOf name))

namespace Organization.Preserves

variable {first second third : Organization} {isProtected : String → Prop}

theorem refl (organization : Organization) : organization.Preserves organization isProtected :=
  ⟨rfl, fun _ _ => List.Perm.refl _⟩

theorem trans (later : third.Preserves second isProtected)
    (earlier : second.Preserves first isProtected) : third.Preserves first isProtected := by
  constructor
  · exact later.name.trans earlier.name
  · intro name protects
    exact (earlier.contents name protects).trans (later.contents name protects)

end Organization.Preserves

namespace Profile

/-- A profile under the built-in metadata whose raised flag says that validation would accept. -/
structure IsSound (profile : Profile) (config : Config) (context : Context) : Prop where
  context_eq : profile.policy.context = context
  builtin : profile.policy.IsBuiltin
  holds : profile.episode.catalog.Holds config
  distinct : Keyed.Distinct profile.episode.values
  accepted : profile.episode.validated = true →
    Policy.Accepts config profile.policy profile.episode

variable {profile : Profile} {config : Config} {context : Context} {organization : Organization}

/-- Validation in some order concludes from what is found in that order. -/
theorem IsSound.concludes (sound : profile.IsSound config context) (order : Order) :
    Concludes (Policy.findings config profile.policy profile.episode
        (order.visit profile.episode.values.names))
      (profile.run fun policy => validate policy order.visit).1 := by
  have outcome := profile.run_cases (fun policy => validate policy order.visit)
    (Policy.leads_validate sound.builtin sound.holds order.visit)
  rcases outcome with ⟨_, after, result, nothing, -⟩ | ⟨fault, after, result, -, rejects⟩
  · rw [result, nothing]
    exact .accepted
  · rw [result]
    unfold Policy.Rejects at rejects
    cases found : Policy.findings config profile.policy profile.episode
        (order.visit profile.episode.values.names) with
    | error cause =>
      rw [found] at rejects
      rw [rejects]
      exact .stuck cause
    | ok errors =>
      rw [found] at rejects
      obtain ⟨some, report, rfl, listed⟩ := rejects
      exact .rejected some listed

/-- The organization after an update, whether that succeeds or fails. -/
theorem IsSound.update_preserves (sound : profile.IsSound config context) (remove : Bool)
    (bound : profile.episode.organization = some organization) (validation removal : Order) :
    ∃ left, (profile.run fun policy =>
        update policy remove validation.visit removal.visit).2.episode.organization = some left ∧
      left.Preserves organization (config.Protects context) := by
  have wrote : ∀ after, Policy.Accepts config profile.policy profile.episode →
      profile.episode.Leaves organization
        (organization.OrKept (Updates config profile.policy remove profile.episode)) after →
      ∃ left, after.organization = some left ∧
        left.Preserves organization (config.Protects context) := by
    rintro after accepted ⟨left, writes, follows, partly⟩
    refine ⟨left, writes.organization, follows.name, fun name protects => ?_⟩
    rw [← sound.context_eq] at protects
    exact accepted.contents_perm bound (partly name) protects
  have outcome := profile.run_cases
    (fun policy => update policy remove validation.visit removal.visit)
    (leads_update remove sound.builtin sound.holds sound.distinct bound sound.accepted
      validation removal)
  rcases outcome with ⟨_, after, result, accepted, all⟩ |
    ⟨_, after, result, same | ⟨accepted, partly⟩⟩
  · rw [result]
    exact wrote after accepted all.orKept
  · rw [result]
    exact ⟨organization, same.organization.trans bound, .refl organization⟩
  · rw [result]
    exact wrote after accepted partly

end Profile

end ProfilePolicy
