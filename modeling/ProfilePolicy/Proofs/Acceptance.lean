import ProfilePolicy.Proofs.Findings

/-!
# When nothing is found

With an organization, a name other than the organization's is accepted exactly when no matcher
covers it or its contents are a permutation of the stored ones. First values do not matter: where
they disagree although the contents are kept, the failure is tolerated. A read-only query has no
such tolerance, so a name that is left out counts as read-only as soon as a value is stored that is
not missing.
-/

namespace ProfilePolicy

open Value

namespace Situation

variable {situation : Situation}

/-- The contents submitted are the given ones, and both lists can be compared. -/
def Keeps (existing submitted : List Value) : Prop :=
  (∀ v ∈ existing, v.IsTextual) ∧ (∀ v ∈ submitted, v.IsTextual) ∧
    (contentTexts existing).Perm (contentTexts submitted)

theorem Keeps.contents_perm {existing submitted : List Value} (kept : Keeps existing submitted) :
    (contents existing).Perm (contents submitted) := by
  obtain ⟨textual, textual', perm⟩ := kept
  rw [contents_eq_contentTexts textual, contents_eq_contentTexts textual']
  exact perm.map text

/-- Comparing again after the contents were stored makes no difference. -/
theorem Keeps.refl_contents {submitted : List Value} (textual : ∀ v ∈ submitted, v.IsTextual) :
    Keeps ((contentTexts submitted).map text) submitted := by
  refine ⟨fun v mem => isTextual_of_mem_texts mem, textual, ?_⟩
  rw [contentTexts_contentTexts]

theorem tolerates_unbound (unbound : situation.organization = none) :
    situation.tolerates = .ok false := by
  rw [tolerates, unbound]
  rfl

/-- With an organization the comparison is made on lists of texts. -/
theorem tolerates_eq_ok_iff {tolerated : Bool} (bound : situation.organization.isSome = true) :
    situation.tolerates = .ok tolerated ↔
      (∀ v ∈ situation.persisted, v.IsTextual) ∧ (∀ v ∈ situation.value, v.IsTextual) ∧
        sameCollection (contentTexts situation.persisted) (contentTexts situation.value) =
          tolerated := by
  have present : situation.organization.isNone = false := by
    rw [← Option.not_isSome, bound]
    rfl
  simp only [tolerates, present, Bool.false_eq_true, if_false]
  cases hcurrent : nonBlank situation.persisted with
  | error cause =>
    have stuck : ¬ ∀ v ∈ situation.persisted, v.IsTextual := fun textual => by
      simp [nonBlank_of_textual textual] at hcurrent
    simp [bind, Except.bind, stuck]
  | ok current =>
    obtain ⟨textual, rfl⟩ := nonBlank_eq_ok_iff.mp hcurrent
    cases hsubmitted : nonBlank situation.value with
    | error cause =>
      have stuck : ¬ ∀ v ∈ situation.value, v.IsTextual := fun textual => by
        simp [nonBlank_of_textual textual] at hsubmitted
      simp [bind, Except.bind, stuck]
    | ok submitted =>
      obtain ⟨textual', rfl⟩ := nonBlank_eq_ok_iff.mp hsubmitted
      simp only [bind, Except.bind, pure, Except.pure, Except.ok.injEq]
      exact ⟨fun same => ⟨textual, textual', same⟩, fun h => h.2.2⟩

theorem tolerates_eq_true_iff :
    situation.tolerates = .ok true ↔
      situation.organization.isSome = true ∧ Keeps situation.persisted situation.value := by
  by_cases bound : situation.organization.isSome = true
  · rw [tolerates_eq_ok_iff bound, sameCollection_iff_perm, and_iff_right bound]
    exact Iff.rfl
  · rw [tolerates_unbound (Option.not_isSome_iff_eq_none.mp bound)]
    simp [bound]

theorem tolerates_of_textual (textual : ∀ v ∈ situation.persisted, v.IsTextual)
    (textual' : ∀ v ∈ situation.value, v.IsTextual) :
    ∃ tolerated, situation.tolerates = .ok tolerated := by
  rw [tolerates, nonBlank_of_textual textual, nonBlank_of_textual textual']
  cases situation.organization <;> exact ⟨_, rfl⟩

/-- Contents that are kept are not reported, whatever a rule compares with. -/
theorem reports_eq_false_of_keeps {existing : List Value} (textual : ∀ v ∈ existing, v.IsTextual)
    (bound : situation.organization.isSome = true)
    (kept : Keeps situation.persisted situation.value) : situation.reports existing = .ok false := by
  obtain ⟨unchanged, compared⟩ := unchangedValues_of_textual textual kept.2.1
  have tolerated := tolerates_eq_true_iff.mpr ⟨bound, kept⟩
  rw [reports, compared, tolerated]
  cases unchanged <;> rfl

/-- With an organization, a rule that compares with the present values reports nothing exactly when
their contents are kept. -/
theorem reports_persisted_eq_false_iff (bound : situation.organization.isSome = true) :
    situation.reports situation.persisted = .ok false ↔
      Keeps situation.persisted situation.value := by
  constructor
  · intro silent
    rw [reports] at silent
    cases compared : Value.unchangedValues (.list situation.persisted) (.list situation.value) with
    | error cause =>
      rw [compared] at silent
      cases silent
    | ok unchanged =>
      cases unchanged with
      | true =>
        have same := (unchangedValues_eq_true_iff.mp compared).2
        exact same
      | false =>
        rw [compared] at silent
        cases tolerated : situation.tolerates with
        | error cause =>
          simp [tolerated, bind, Except.bind, Except.map] at silent
        | ok passed =>
          cases passed with
          | false => simp [tolerated, bind, Except.bind, Except.map] at silent
          | true => exact (tolerates_eq_true_iff.mp tolerated).2
  · intro kept
    exact reports_eq_false_of_keeps kept.1 bound kept

theorem persisted_of_ne (notName : situation.name ≠ nameKey) :
    situation.persisted = situation.stored := by
  rw [persisted, if_neg notName]

end Situation

namespace Policy

open Situation

variable {config : Config} {situation : Situation}

theorem repeated_eq_nil_iff {existing : List Value} {count : Nat} {error : FieldError} :
    repeated situation existing count error = .ok [] ↔
      (0 < count → situation.reports existing = .ok false) := by
  rw [repeated]
  cases count with
  | zero => simp
  | succ count =>
    rw [if_neg (Nat.succ_ne_zero _)]
    cases situation.reports existing with
    | error cause => simp [Except.map]
    | ok reported => cases reported <;> simp [Except.map, List.replicate_succ]

theorem both_eq_nil_iff {first second : Except Mishap (List FieldError)} :
    both first second = .ok [] ↔ first = .ok [] ∧ second = .ok [] := by
  cases first with
  | error cause => simp [both, bind, Except.bind]
  | ok errors =>
    cases second with
    | error cause => simp [both, bind, Except.bind]
    | ok errors' => simp [both, bind, Except.bind, pure, Except.pure]

theorem ownRules_of_ne {context : Context} {name : String} (notName : name ≠ nameKey) :
    ownRules context name = 0 :=
  if_neg fun both => notName both.2

/-- A name other than the organization's is accepted exactly when no matcher covers it or its
contents are kept. -/
theorem finding_eq_nil_iff (notName : situation.name ≠ nameKey)
    (bound : situation.organization.isSome = true) :
    finding config situation = .ok [] ↔
      (config.Protects situation.context situation.name →
        Keeps situation.stored situation.value) := by
  rw [finding, ownRules_of_ne notName, both_eq_nil_iff, repeated_eq_nil_iff, repeated_eq_nil_iff,
    ← Config.protects_iff_matchCount_pos, ← persisted_of_ne notName,
    reports_persisted_eq_false_iff bound]
  simp

/-- A missing first value agrees with a missing one alone. -/
theorem unchanged_null_iff {existing : Value} :
    existing.unchanged .null = .ok true ↔ existing = .null := by
  cases existing <;>
    simp [Value.unchanged, Value.blank, Value.same, Value.sameAsNumber, Value.number?]

/-- A read-only rule lets a name that was left out go exactly when no matcher covers it or what is
stored begins with no value and has no contents. -/
theorem rejection_eq_false_iff (leftOut : situation.value = []) :
    rejection config situation = .ok false ↔
      (config.Protects situation.context situation.name →
        situation.stored.headD .null = .null ∧ (∀ v ∈ situation.stored, v.IsTextual) ∧
          contentTexts situation.stored = []) := by
  rw [rejection, anyRejects, leftOut, Config.protects_iff_matchCount_pos]
  by_cases covered : config.matchCount situation.context situation.name = 0
  · simp [covered]
  · rw [if_neg covered, forall_prop_of_true (Nat.pos_of_ne_zero covered)]
    have negated : ∀ unchanged : Except Mishap Bool,
        unchanged.map (!·) = .ok false ↔ unchanged = .ok true := by
      intro unchanged
      cases unchanged with
      | error cause => simp [Except.map]
      | ok same => cases same <;> simp [Except.map]
    rw [negated, unchangedValues_eq_true_iff, List.headD_nil, unchanged_null_iff,
      contentTexts_nil, List.perm_nil]
    simp

end Policy

end ProfilePolicy
