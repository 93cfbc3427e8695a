import ProfilePolicy.Submission

/-!
# Contents of value lists

The contents of a list of values are its values that are neither missing nor blank. A submission is
compared with what is stored by contents, in any order. Values of a type that has no blank check
count as contents here, although the comparison itself cannot be made for them: it is a mishap. So
the comparison succeeds exactly on lists of texts, some of which may be missing, and it then decides
whether the contents are permutations of each other.
-/

namespace ProfilePolicy

namespace Value

/-- A text, or missing. -/
def IsTextual (value : Value) : Prop :=
  value = null ∨ ∃ written, value = text written

/-- Whether a value is neither missing nor a blank text. -/
def isContent : Value → Bool
  | null => false
  | text written => !Text.isBlank written
  | _ => true

/-- The values of a list that are neither missing nor blank. -/
def contents (values : List Value) : List Value :=
  values.filter isContent

def contentTexts (values : List Value) : List String :=
  (values.filterMap text?).filter fun written => !Text.isBlank written

theorem isTextual_null : IsTextual null := Or.inl rfl

theorem isTextual_text (written : String) : IsTextual (text written) := Or.inr ⟨written, rfl⟩

@[simp] theorem contents_nil : contents [] = [] := rfl

@[simp] theorem contents_null_cons (rest : List Value) :
    contents (null :: rest) = contents rest := rfl

@[simp] theorem contents_text_cons (written : String) (rest : List Value) :
    contents (text written :: rest) =
      if Text.isBlank written then contents rest else text written :: contents rest := by
  by_cases blank : Text.isBlank written <;> simp [contents, isContent, blank]

@[simp] theorem contentTexts_nil : contentTexts [] = [] := rfl

@[simp] theorem contentTexts_null_cons (rest : List Value) :
    contentTexts (null :: rest) = contentTexts rest := rfl

@[simp] theorem contentTexts_text_cons (written : String) (rest : List Value) :
    contentTexts (text written :: rest) =
      if Text.isBlank written then contentTexts rest else written :: contentTexts rest := by
  have head : (text written :: rest).filterMap text? = written :: rest.filterMap text? := rfl
  by_cases blank : Text.isBlank written <;> simp [contentTexts, head, blank]

theorem contents_eq_contentTexts {values : List Value} (textual : ∀ v ∈ values, v.IsTextual) :
    contents values = (contentTexts values).map text := by
  induction values with
  | nil => rfl
  | cons value rest ih =>
    have tail := ih fun v hv => textual v (List.mem_cons_of_mem _ hv)
    obtain rfl | ⟨written, rfl⟩ := textual value List.mem_cons_self
    · simpa using tail
    · by_cases blank : Text.isBlank written <;> simpa [blank] using tail

/-- The texts of a list with its blank ones. -/
theorem texts_of_textual {values : List Value} (textual : ∀ v ∈ values, v.IsTextual) :
    values.filter (fun value => !value.isNull) = (values.filterMap text?).map text := by
  induction values with
  | nil => rfl
  | cons value rest ih =>
    have tail := ih fun v mem => textual v (List.mem_cons_of_mem _ mem)
    obtain rfl | ⟨written, rfl⟩ := textual value List.mem_cons_self
    · exact tail
    · exact congrArg (text written :: ·) tail

theorem mem_texts_iff {values : List Value} {written : String} :
    written ∈ values.filterMap text? ↔ text written ∈ values := by
  rw [List.mem_filterMap]
  constructor
  · rintro ⟨value, mem, found⟩
    cases value with
    | text other =>
      cases found
      exact mem
    | _ => cases found
  · intro mem
    exact ⟨text written, mem, rfl⟩

/-- Nothing of contents means texts that are all blank, or missing. -/
theorem contents_eq_nil_iff {values : List Value} :
    contents values = [] ↔ (∀ v ∈ values, v.IsTextual) ∧ contentTexts values = [] := by
  constructor
  · intro none
    have textual : ∀ v ∈ values, v.IsTextual := by
      intro v mem
      have blank := List.filter_eq_nil_iff.mp none v mem
      cases v with
      | null => exact isTextual_null
      | text written => exact isTextual_text written
      | _ => exact absurd rfl blank
    rw [contents_eq_contentTexts textual, List.map_eq_nil_iff] at none
    exact ⟨textual, none⟩
  · rintro ⟨textual, none⟩
    rw [contents_eq_contentTexts textual, none, List.map_nil]

end Value

open Value

/-- The comparison of non-blank texts can be made exactly on lists of texts. -/
theorem nonBlank_eq_ok_iff {values : List Value} {kept : List String} :
    nonBlank values = .ok kept ↔
      (∀ v ∈ values, v.IsTextual) ∧ contentTexts values = kept := by
  induction values generalizing kept with
  | nil => simp [nonBlank]
  | cons value rest ih =>
    cases value with
    | null => simp [nonBlank, ih, isTextual_null]
    | text written =>
      cases hrest : nonBlank rest with
      | ok tail =>
        obtain ⟨textual, rfl⟩ := ih.mp hrest
        have all : ∀ v ∈ text written :: rest, v.IsTextual := by
          simpa [isTextual_text] using textual
        rw [and_iff_right all]
        simp [nonBlank, hrest, Except.map]
      | error cause =>
        have stuck : ¬ ∀ v ∈ rest, v.IsTextual := by
          intro textual
          have h := ih.mpr ⟨textual, rfl⟩
          rw [hrest] at h
          cases h
        simp [nonBlank, hrest, Except.map, isTextual_text, stuck]
    | _ => simp [nonBlank, IsTextual]

theorem nonBlank_of_textual {values : List Value} (textual : ∀ v ∈ values, v.IsTextual) :
    nonBlank values = .ok (contentTexts values) :=
  nonBlank_eq_ok_iff.mpr ⟨textual, rfl⟩

theorem isTextual_of_mem_texts {texts : List String} {v : Value} (h : v ∈ texts.map text) :
    v.IsTextual := by
  obtain ⟨written, _, rfl⟩ := List.mem_map.mp h
  exact isTextual_text written

theorem contentTexts_texts (texts : List String) :
    contentTexts (texts.map text) = texts.filter fun written => !Text.isBlank written := by
  induction texts with
  | nil => rfl
  | cons written rest ih =>
    by_cases blank : Text.isBlank written <;> simpa [blank] using ih

theorem isBlank_of_mem_contentTexts {values : List Value} {written : String}
    (h : written ∈ contentTexts values) : Text.isBlank written = false := by
  simpa using (List.mem_filter.mp h).2

/-- Taking the contents of contents changes nothing. -/
theorem contentTexts_contentTexts (values : List Value) :
    contentTexts ((contentTexts values).map text) = contentTexts values := by
  rw [contentTexts_texts, List.filter_eq_self]
  intro written h
  simp [isBlank_of_mem_contentTexts h]

/-! ## Equal collections -/

theorem sameCollection_iff_perm {α : Type} [BEq α] [LawfulBEq α] {left right : List α} :
    sameCollection left right = true ↔ left.Perm right := by
  simp only [sameCollection, Bool.and_eq_true, beq_iff_eq, List.isPerm_iff]
  exact ⟨fun h => h.2, fun h => ⟨h.length_eq, h⟩⟩

theorem same_text_text (left right : String) :
    (Value.text left == Value.text right) = (left == right) := by
  simp [BEq.beq, same]

theorem contains_texts (texts : List String) (written : String) :
    (texts.map text).contains (text written) = texts.contains written := by
  induction texts with
  | nil => rfl
  | cons head rest ih =>
    rw [List.map_cons, List.contains_cons, List.contains_cons, ih, same_text_text]

theorem erase_texts (texts : List String) (written : String) :
    (texts.map text).erase (text written) = (texts.erase written).map text := by
  induction texts with
  | nil => rfl
  | cons head rest ih =>
    rw [List.map_cons, List.erase_cons, List.erase_cons, same_text_text, ih]
    split <;> rfl

/-- Equality of values is equality of texts on lists of texts. -/
theorem sameCollection_texts (left right : List String) :
    sameCollection (left.map text) (right.map text) = sameCollection left right := by
  have perm : (left.map text).isPerm (right.map text) = left.isPerm right := by
    induction left generalizing right with
    | nil => cases right <;> rfl
    | cons head rest ih =>
      simp only [List.map_cons, List.isPerm, contains_texts, erase_texts, ih]
  simp only [sameCollection, perm, List.length_map]

theorem allCountable_texts (texts : List String) :
    Value.allCountable (texts.map text) = .ok () := by
  induction texts with
  | nil => rfl
  | cons written rest ih => exact ih

/-- Lists of texts hold the same items equally often when they are permutations. -/
theorem sameListItems_texts (left right : List String) :
    Value.sameListItems (left.map text) (right.map text) = .ok (sameCollection left right) := by
  rw [Value.sameListItems, ← sameCollection_texts]
  by_cases lengths : (left.map text).length = (right.map text).length
  · simp only [bne_iff_ne, ne_eq, lengths, not_true_eq_false, if_false, allCountable_texts]
    rfl
  · have differ : ((left.map text).length == (right.map text).length) = false := by
      simpa using lengths
    simp only [bne_iff_ne, ne_eq, lengths, not_false_eq_true, if_true, sameCollection, differ,
      Bool.false_and]

/-! ## Unchanged values -/

theorem first_list (values : List Value) :
    (Value.list values).first = .ok (values.headD .null) := by
  cases values <;> rfl

/-- The comparison of first values cannot be made only if the submitted one is no text. -/
theorem unchanged_of_textual {existing submitted : Value} (textual : submitted.IsTextual) :
    ∃ agree, existing.unchanged submitted = .ok agree := by
  obtain rfl | ⟨written, rfl⟩ := textual <;> cases existing <;> exact ⟨_, rfl⟩

theorem headD_isTextual {values : List Value} (textual : ∀ v ∈ values, v.IsTextual) :
    (values.headD .null).IsTextual := by
  cases values with
  | nil => exact isTextual_null
  | cons value rest => exact textual value List.mem_cons_self

/-- The comparison of two lists in full. -/
theorem unchangedValues_lists (existing submitted : List Value) :
    Value.unchangedValues (.list existing) (.list submitted) =
      (do
        let agree ← (existing.headD .null).unchanged (submitted.headD .null)
        if agree then
          let kept ← nonBlank existing
          let wanted ← nonBlank submitted
          pure (sameCollection kept wanted)
        else pure false) := by
  simp only [Value.unchangedValues, first_list, Value.items]
  rfl

theorem unchangedValues_eq_true_iff {existing submitted : List Value} :
    Value.unchangedValues (.list existing) (.list submitted) = .ok true ↔
      (existing.headD .null).unchanged (submitted.headD .null) = .ok true ∧
      (∀ v ∈ existing, v.IsTextual) ∧ (∀ v ∈ submitted, v.IsTextual) ∧
      (contentTexts existing).Perm (contentTexts submitted) := by
  rw [unchangedValues_lists]
  cases first : (existing.headD .null).unchanged (submitted.headD .null) with
  | error cause => simp [bind, Except.bind]
  | ok agree =>
    cases agree with
    | false => simp [bind, Except.bind, pure, Except.pure]
    | true =>
      cases hkept : nonBlank existing with
      | error cause =>
        have stuck : ¬ ∀ v ∈ existing, v.IsTextual := fun textual => by
          simp [nonBlank_of_textual textual] at hkept
        simp [bind, Except.bind, stuck]
      | ok kept =>
        obtain ⟨textual, rfl⟩ := nonBlank_eq_ok_iff.mp hkept
        cases hwanted : nonBlank submitted with
        | error cause =>
          have stuck : ¬ ∀ v ∈ submitted, v.IsTextual := fun textual => by
            simp [nonBlank_of_textual textual] at hwanted
          simp [bind, Except.bind, stuck]
        | ok wanted =>
          obtain ⟨textual', rfl⟩ := nonBlank_eq_ok_iff.mp hwanted
          simp only [bind, Except.bind, pure, Except.pure, if_true, Except.ok.injEq, true_and,
            sameCollection_iff_perm]
          exact ⟨fun perm => ⟨textual, textual', perm⟩, fun h => h.2.2⟩

/-- Lists of texts can always be compared. -/
theorem unchangedValues_of_textual {existing submitted : List Value}
    (textual : ∀ v ∈ existing, v.IsTextual) (textual' : ∀ v ∈ submitted, v.IsTextual) :
    ∃ unchanged, Value.unchangedValues (.list existing) (.list submitted) = .ok unchanged := by
  obtain ⟨agree, first⟩ : ∃ agree,
      (existing.headD .null).unchanged (submitted.headD .null) = .ok agree :=
    unchanged_of_textual (headD_isTextual textual')
  rw [unchangedValues_lists, first, nonBlank_of_textual textual, nonBlank_of_textual textual']
  cases agree <;> exact ⟨_, rfl⟩

end ProfilePolicy
