import ProfilePolicy.Proofs.Moves
import ProfilePolicy.Proofs.Violations

/-!
# Queries about a name

Asking whether a name is read-only and validating it run the same rules. The query stops at the
first rule that finds a change, and validation goes on to tolerate a change that keeps the contents.
So a name is valid exactly when it is not read-only or its contents are kept, whatever is stored and
whatever was set in the meantime.

For a name that was left out the two differ by what is stored: a first value that is not missing is
enough to make the name read-only, and only contents make it invalid.
-/

namespace ProfilePolicy

open Value

namespace Situation

/-- What is stored can be looked at, and some of it is visible. -/
def StoresContent (situation : Situation) : Prop :=
  ∃ kept, nonBlank situation.stored = .ok kept ∧ kept ≠ []

structure Answers (situation : Situation) (config : Config) (readOnly valid : Except Fault Bool) :
    Prop where
  readOnly_iff : readOnly = .ok true ↔
    config.Protects situation.context situation.name ∧
      Value.unchangedValues (.list situation.stored) (.list situation.value) = .ok false
  writable_iff : readOnly = .ok false ↔
    (config.Protects situation.context situation.name →
      Value.unchangedValues (.list situation.stored) (.list situation.value) = .ok true)
  valid_iff : valid = .ok true ↔ readOnly = .ok false ∨ Keeps situation.stored situation.value
  /-- There are answers where all that is compared is a text or missing. -/
  answered : situation.IsTextual →
    (∃ answer, readOnly = .ok answer) ∧ ∃ answer, valid = .ok answer

structure AnswersLeftOut (situation : Situation) (config : Config)
    (readOnly valid : Except Fault Bool) : Prop where
  readOnly_iff : readOnly = .ok true ↔
    config.Protects situation.context situation.name ∧
      (situation.stored.headD .null ≠ .null ∨ situation.StoresContent)
  invalid_iff : readOnly = .ok true → (valid = .ok false ↔ situation.StoresContent)

variable {situation : Situation}

/-! ## Comparing with nothing -/

/-- Contents kept where nothing is stored leave nothing to be found changed. -/
theorem unchangedValues_nil_of_keeps {submitted : List Value} (kept : Keeps [] submitted) :
    Value.unchangedValues (.list []) (.list submitted) = .ok true := by
  refine unchangedValues_eq_true_iff.mpr ⟨?_, kept⟩
  obtain ⟨-, textual, perm⟩ := kept
  have nothing : contentTexts submitted = [] := perm.nil_eq.symm
  cases submitted with
  | nil => rfl
  | cons first rest =>
    rcases textual first List.mem_cons_self with rfl | ⟨written, rfl⟩
    · rfl
    · by_cases blank : Text.isBlank written = true
      · exact congrArg Except.ok blank
      · simp [blank] at nothing

/-- Contents are compared with none. -/
theorem compares_nil_eq_false_iff : (do
      let kept ← nonBlank situation.stored
      let wanted ← nonBlank []
      pure (sameCollection kept wanted)) = .ok false ↔ situation.StoresContent := by
  unfold StoresContent
  cases nonBlank situation.stored with
  | error cause => simp [bind, Except.bind]
  | ok texts =>
    have differs : sameCollection texts [] = false ↔ texts ≠ [] := by
      rw [← Bool.not_eq_true, sameCollection_iff_perm, List.perm_nil]
    simpa [bind, Except.bind, pure, Except.pure, nonBlank] using differs

/-- A value that was left out is found changed when something is stored first, or anywhere when it
is visible. -/
theorem unchangedValues_leftOut_iff (leftOut : situation.value = []) :
    Value.unchangedValues (.list situation.stored) (.list situation.value) = .ok false ↔
      situation.stored.headD .null ≠ .null ∨ situation.StoresContent := by
  rw [leftOut, unchangedValues_lists, List.headD_nil]
  obtain ⟨agree, compared⟩ : ∃ agree,
      (situation.stored.headD .null).unchanged .null = .ok agree :=
    unchanged_of_textual isTextual_null
  have missing : (situation.stored.headD .null).unchanged .null = .ok true ↔
      situation.stored.headD .null = .null := Policy.unchanged_null_iff
  rw [compared] at missing
  rw [compared, ← compares_nil_eq_false_iff]
  cases agree with
  | true => exact (or_iff_right (not_not_intro (missing.mp rfl))).symm
  | false =>
    have present : situation.stored.headD .null ≠ .null := fun null => by
      cases missing.mpr null
    exact iff_of_true rfl (Or.inl present)

/-- What was left out is tolerated unless contents are stored. -/
theorem tolerates_leftOut_eq_false_iff (notName : situation.name ≠ nameKey)
    (leftOut : situation.value = []) (bound : situation.organization.isSome = true) :
    situation.tolerates = .ok false ↔ situation.StoresContent := by
  have present : situation.organization.isNone = false := by
    rw [← Option.not_isSome, bound]
    rfl
  simp only [tolerates, present, persisted_of_ne notName, leftOut, Bool.false_eq_true, if_false]
  exact compares_nil_eq_false_iff

theorem isSome_of_stored (something : situation.stored ≠ []) :
    situation.organization.isSome = true := by
  unfold stored at something
  split at something
  · rename_i bound
    rw [bound]
    rfl
  · exact absurd rfl something

end Situation

namespace Policy

open Situation

variable {config : Config} {situation : Situation}

/-- Rules that cover a name reject what they find changed. -/
theorem rejection_of_protects (covered : config.Protects situation.context situation.name) :
    rejection config situation =
      (Value.unchangedValues (.list situation.stored) (.list situation.value)).map (!·) :=
  if_neg (Nat.ne_of_gt (Config.protects_iff_matchCount_pos.mp covered))

theorem rejection_of_not (free : ¬ config.Protects situation.context situation.name) :
    rejection config situation = .ok false := by
  rw [Config.protects_iff_matchCount_pos, Nat.pos_iff_ne_zero, ne_eq,
    Decidable.not_not] at free
  exact if_pos free

theorem rejection_eq_true_iff : rejection config situation = .ok true ↔
    config.Protects situation.context situation.name ∧
      Value.unchangedValues (.list situation.stored) (.list situation.value) = .ok false := by
  by_cases covered : config.Protects situation.context situation.name
  · rw [rejection_of_protects covered, and_iff_right covered, map_eq_ok]
    simp
  · rw [rejection_of_not covered]
    simp [covered]

theorem rejection_eq_false_iff_unchanged : rejection config situation = .ok false ↔
    (config.Protects situation.context situation.name →
      Value.unchangedValues (.list situation.stored) (.list situation.value) = .ok true) := by
  by_cases covered : config.Protects situation.context situation.name
  · rw [rejection_of_protects covered, forall_prop_of_true covered, map_eq_ok]
    simp
  · rw [rejection_of_not covered]
    simp [covered]

/-- Without an organization what is found changed is reported. -/
theorem finding_eq_nil_iff_unbound (notName : situation.name ≠ nameKey)
    (unbound : situation.organization = none) :
    finding config situation = .ok [] ↔
      (config.Protects situation.context situation.name →
        Keeps situation.stored situation.value) := by
  have stored : situation.stored = [] := by
    unfold Situation.stored
    rw [unbound]
  rw [finding, ownRules_of_ne notName, both_eq_nil_iff, repeated_eq_nil_iff, repeated_eq_nil_iff,
    ← Config.protects_iff_matchCount_pos, stored]
  have silent : situation.reports [] = .ok false ↔ Keeps [] situation.value := by
    rw [reports, tolerates_unbound unbound]
    constructor
    · intro silent
      cases compared : Value.unchangedValues (.list []) (.list situation.value) with
      | error cause =>
        rw [compared] at silent
        cases silent
      | ok unchanged =>
        rw [compared] at silent
        cases unchanged with
        | true => exact (unchangedValues_eq_true_iff.mp compared).2
        | false => cases silent
    · intro kept
      rw [unchangedValues_nil_of_keeps kept]
      rfl
  rw [silent]
  simp

/-- A name is accepted exactly when no rule rejects its values or its contents are kept. -/
theorem finding_eq_nil_iff_rejection (notName : situation.name ≠ nameKey) :
    finding config situation = .ok [] ↔
      rejection config situation = .ok false ∨ Keeps situation.stored situation.value := by
  have accepted : finding config situation = .ok [] ↔
      (config.Protects situation.context situation.name →
        Keeps situation.stored situation.value) := by
    cases bound : situation.organization with
    | none => exact finding_eq_nil_iff_unbound notName bound
    | some organization => exact finding_eq_nil_iff notName (by rw [bound]; rfl)
  rw [accepted, rejection_eq_false_iff_unchanged]
  constructor
  · intro kept
    by_cases covered : config.Protects situation.context situation.name
    · exact Or.inr (kept covered)
    · exact Or.inl fun impossible => absurd impossible covered
  · rintro (unchanged | kept) covered
    · exact (unchangedValues_eq_true_iff.mp (unchanged covered)).2
    · exact kept

/-- What is found changed is accepted only as far as it is tolerated. -/
theorem isEmpty_finding_of_changed (notName : situation.name ≠ nameKey)
    (covered : config.Protects situation.context situation.name)
    (changed : Value.unchangedValues (.list situation.stored) (.list situation.value) =
      .ok false) :
    (finding config situation).map (·.isEmpty) = situation.tolerates := by
  have some : config.matchCount situation.context situation.name ≠ 0 :=
    Nat.ne_of_gt (Config.protects_iff_matchCount_pos.mp covered)
  have own : repeated situation (Validator.storedName situation.organization) 0 nameError =
      .ok [] := rfl
  have reported : situation.reports situation.stored = situation.tolerates.map (!·) := by
    rw [reports, changed]
    rfl
  rw [finding, ownRules_of_ne notName, own, ok_nil_both, repeated, if_neg some, reported]
  cases situation.tolerates with
  | error cause => rfl
  | ok tolerated => cases tolerated <;> simp [Except.map, some]

theorem rejection_of_textual (textual : situation.IsTextual) :
    ∃ denied, rejection config situation = .ok denied := by
  by_cases covered : config.Protects situation.context situation.name
  · obtain ⟨unchanged, compared⟩ := unchangedValues_of_textual textual.stored textual.value
    exact ⟨!unchanged, by rw [rejection_of_protects covered, compared]; rfl⟩
  · exact ⟨false, rejection_of_not covered⟩

end Policy

namespace Profile

def readOnlyAnswer (profile : Profile) (name : String) : Except Fault Bool :=
  (profile.run fun policy => policy.isReadOnly name).1

def validAnswer (profile : Profile) (name : String) : Except Fault Bool :=
  (profile.run fun policy => policy.validateName name).1.map (·.valid)

variable {profile : Profile} {config : Config} {name : String}

theorem readOnlyAnswer_eq (builtin : profile.policy.IsBuiltin)
    (holds : profile.episode.catalog.Holds config) (notName : name ≠ nameKey) :
    profile.readOnlyAnswer name = orMishap (Policy.rejection config (profile.situation name)) := by
  obtain ⟨after, -, result⟩ := Policy.computes_isReadOnly builtin holds notName
  rw [readOnlyAnswer, run, result, situation]
  cases Policy.rejection config (profile.policy.situation name profile.episode) <;> rfl

theorem validAnswer_eq (builtin : profile.policy.IsBuiltin)
    (holds : profile.episode.catalog.Holds config) :
    profile.validAnswer name =
      orMishap ((Policy.finding config (profile.situation name)).map (·.isEmpty)) := by
  obtain ⟨after, -, result⟩ := Policy.computes_validateName builtin holds name
  rw [validAnswer, run, result, situation]
  cases Policy.finding config (profile.policy.situation name profile.episode) <;> rfl

/-- A mishap is no answer. -/
theorem orMishap_eq_ok_iff {α : Type} {result : Except Mishap α} {value : α} :
    orMishap result = .ok value ↔ result = .ok value :=
  ⟨orMishap_eq_ok, fun found => congrArg orMishap found⟩

theorem answers (builtin : profile.policy.IsBuiltin)
    (holds : profile.episode.catalog.Holds config) (notName : name ≠ nameKey) :
    (profile.situation name).Answers config (profile.readOnlyAnswer name)
      (profile.validAnswer name) := by
  rw [readOnlyAnswer_eq builtin holds notName, validAnswer_eq builtin holds]
  refine ⟨?_, ?_, ?_, fun textual => ⟨?_, ?_⟩⟩
  · rw [orMishap_eq_ok_iff, Policy.rejection_eq_true_iff]
  · rw [orMishap_eq_ok_iff, Policy.rejection_eq_false_iff_unchanged]
  · have accepted : Policy.finding config (profile.situation name) = .ok [] ↔ _ :=
      Policy.finding_eq_nil_iff_rejection notName
    rw [orMishap_eq_ok_iff, orMishap_eq_ok_iff, ← accepted, map_eq_ok]
    simp
  · obtain ⟨denied, rejects⟩ : ∃ denied,
        Policy.rejection config (profile.situation name) = .ok denied :=
      Policy.rejection_of_textual textual
    exact ⟨denied, orMishap_eq_ok_iff.mpr rejects⟩
  · obtain ⟨errors, found⟩ : ∃ errors,
        Policy.finding config (profile.situation name) = .ok errors :=
      Policy.finding_of_textual textual
    rw [found]
    exact ⟨errors.isEmpty, rfl⟩

theorem answersLeftOut (builtin : profile.policy.IsBuiltin)
    (holds : profile.episode.catalog.Holds config) (notName : name ≠ nameKey)
    (absent : name ∉ profile.episode.values.names) :
    (profile.situation name).AnswersLeftOut config (profile.readOnlyAnswer name)
      (profile.validAnswer name) := by
  have leftOut : (profile.situation name).value = [] := by
    have missing : profile.episode.values.get? name = none := Keyed.get?_eq_none_iff.mpr absent
    simp only [Situation.value, situation, Policy.situation, missing, Option.getD_none]
  rw [readOnlyAnswer_eq builtin holds notName, validAnswer_eq builtin holds]
  refine ⟨?_, fun denied => ?_⟩
  · rw [orMishap_eq_ok_iff, Policy.rejection_eq_true_iff,
      Situation.unchangedValues_leftOut_iff leftOut]
  · obtain ⟨covered, changed⟩ := Policy.rejection_eq_true_iff.mp (orMishap_eq_ok_iff.mp denied)
    have bound : (profile.situation name).organization.isSome = true := by
      apply Situation.isSome_of_stored
      rcases (Situation.unchangedValues_leftOut_iff leftOut).mp changed with
        first | ⟨kept, found, some⟩
      · rintro nothing
        exact first (congrArg (·.headD Value.null) nothing)
      · rintro nothing
        rw [nothing] at found
        exact some (Except.ok.inj found).symm
    rw [Policy.isEmpty_finding_of_changed notName covered changed, orMishap_eq_ok_iff]
    exact Situation.tolerates_leftOut_eq_false_iff notName leftOut bound

/-! ## Setting values -/

def withAll (profile : Profile) (edits : List (String × Value)) : Profile :=
  edits.foldl (fun profile edit => profile.withValues edit.1 edit.2) profile

/-- What setting values leaves alone. -/
structure Continues (before after : Profile) : Prop where
  policy : after.policy = before.policy
  organization : after.episode.organization = before.episode.organization
  catalog : after.episode.catalog = before.episode.catalog

theorem withValues_continues (profile : Profile) (name : String) (value : Value) :
    profile.Continues (profile.withValues name value) := by
  unfold withValues
  cases set : profile.episode.setValues name value with
  | error cause => exact ⟨rfl, rfl, rfl⟩
  | ok after =>
    obtain ⟨values, rfl⟩ := setValues_eq_ok set
    exact ⟨rfl, rfl, rfl⟩

theorem withAll_continues (profile : Profile) (edits : List (String × Value)) :
    profile.Continues (profile.withAll edits) := by
  induction edits generalizing profile with
  | nil => exact ⟨rfl, rfl, rfl⟩
  | cons edit rest ih =>
    have first := profile.withValues_continues edit.1 edit.2
    have later := ih (profile.withValues edit.1 edit.2)
    exact ⟨later.policy.trans first.policy, later.organization.trans first.organization,
      later.catalog.trans first.catalog⟩

end Profile

/-- Whatever values are set on a fresh profile, the two queries about a name other than the
organization's agree, in the set and out of it. -/
theorem Provider.IsBuiltin.queries_agree {provider : Provider} {config : Config}
    (builtin : provider.IsBuiltin config) {context : Context} {submitted : Submission}
    {organization : Option Organization} {profile : Profile}
    (created : provider.create context submitted.entries organization = .ok profile)
    (edits : List (String × Value)) {name : String} (notName : name ≠ nameKey) :
    let now := profile.withAll edits
    let situation := now.situation name
    situation.context = context ∧ situation.organization = organization ∧
    situation.Answers config (now.readOnlyAnswer name) (now.validAnswer name) ∧
    (name ∉ now.episode.values.names →
      situation.AnswersLeftOut config (now.readOnlyAnswer name) (now.validAnswer name)) := by
  intro now situation
  have fresh := builtin.isFresh_create created
  have same := profile.withAll_continues edits
  have builtinNow : now.policy.IsBuiltin := same.policy ▸ fresh.builtin
  have holdsNow : now.episode.catalog.Holds config := same.catalog ▸ fresh.holds
  refine ⟨?_, same.organization.trans fresh.organization_eq, ?_, ?_⟩
  · exact (congrArg Policy.context same.policy).trans fresh.context_eq
  · exact Profile.answers builtinNow holdsNow notName
  · exact Profile.answersLeftOut builtinNow holdsNow notName

/-- A blank value is put in front of the stored one: the name is read-only, and it is valid. -/
theorem Provider.queries_agree_of_blank_first :
    let submitted := Submission.ofPairs [("org_ro_tier", .text "basic")]
    let organization : Organization :=
      { name := .text "sample", storage := .entries [("org_ro_tier", [.text "basic"])] }
    let edits := [("org_ro_tier", Value.list [.text " ", .text "basic"])]
    ∃ profile, (Provider.standard {}).create .updateProfile submitted.entries
        (some organization) = .ok profile ∧
      (profile.withAll edits).readOnlyAnswer "org_ro_tier" = .ok true ∧
      (profile.withAll edits).validAnswer "org_ro_tier" = .ok true := by
  intro submitted organization edits
  have succeeds : ((Provider.standard {}).create .updateProfile submitted.entries
      (some organization)).toBool = true := by decide +kernel
  have created := eq_ok_of_toBool succeeds
  have notName : "org_ro_tier" ≠ nameKey := by decide
  obtain ⟨-, -, answers, -⟩ :=
    (Provider.isBuiltin_standard {}).queries_agree created edits notName
  have kept : Situation.Keeps [.text "basic"] [.text " ", .text "basic"] :=
    ⟨by simp [isTextual_text], by simp [isTextual_text], .refl ["basic"]⟩
  refine ⟨_, created, answers.readOnly_iff.mpr ⟨by decide +kernel, ?_⟩,
    answers.valid_iff.mpr (Or.inr ?_)⟩
  · rfl
  · exact kept

/-- A missing value that is stored under a covered name does not make the name read-only. -/
theorem Provider.missing_value_writable :
    let submitted := Submission.ofPairs [("name", .list [.text "sample"])]
    let organization : Organization :=
      { name := .text "sample", storage := .entries [("org_ro_x", [.null])] }
    ∃ profile, (Provider.standard {}).create .updateProfile submitted.entries
        (some organization) = .ok profile ∧
      "org_ro_x" ∉ profile.episode.values.names ∧
      Config.Protects {} .updateProfile "org_ro_x" ∧ organization.valuesOf "org_ro_x" ≠ [] ∧
      profile.readOnlyAnswer "org_ro_x" = .ok false := by
  intro submitted organization
  have succeeds : ((Provider.standard {}).create .updateProfile submitted.entries
      (some organization)).toBool = true := by decide +kernel
  have created := eq_ok_of_toBool succeeds
  have fresh := (Provider.isBuiltin_standard {}).isFresh_create created
  have notName : "org_ro_x" ≠ nameKey := by decide
  have answers := Profile.answers fresh.builtin fresh.holds notName
  refine ⟨_, created, by decide +kernel, by decide +kernel, ?_, ?_⟩
  · exact List.cons_ne_nil _ _
  · exact answers.writable_iff.mpr fun _ => rfl

end ProfilePolicy
