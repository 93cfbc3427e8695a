import Mathlib.Data.Bool.AllAny
import ProfilePolicy.Directory

/-!
# Entries of the directory

What is found in a directory after an organization was put into it or dropped from it. What the
directory accepts holds no half of a pair, so it can also be shown.
-/

namespace ProfilePolicy

/-! ## Texts without halves -/

namespace Text

/-- Without the mark every character is a piece. -/
theorem pieces_of_plain {cs : List Char} (plain : ∀ c ∈ cs, c ≠ halfMark) :
    pieces cs = cs.map fun c => [c] := by
  induction cs with
  | nil => rfl
  | cons c rest ih =>
    have later := ih fun d mem => plain d (List.mem_cons_of_mem _ mem)
    rw [pieces_cons (plain c List.mem_cons_self), later, List.map_cons]

theorem hasHalf_of_plain {text : String} (plain : ∀ c ∈ text.toList, c.toNat < 128) :
    hasHalf text = false := by
  have unmarked : ∀ c ∈ text.toList, c ≠ halfMark := by
    rintro c mem rfl
    exact absurd (plain halfMark mem) (by decide)
  rw [hasHalf, codes, pieces_of_plain unmarked, List.map_map, List.any_map, List.any_eq_false]
  intro c mem
  have low := plain c mem
  have notHigh : ¬ 0xD800 ≤ c.toNat := by omega
  have notLow : ¬ 0xDC00 ≤ c.toNat := by omega
  simp [codeOf, isHalf, isHighHalf, isLowHalf, notHigh, notLow]

def lowerDigits : List Char := "0123456789abcdef".toList

theorem hexDigit_mem_lowerDigits : ∀ n < 16, hexDigit n ∈ lowerDigits := by
  decide

theorem mem_lowerDigits_of_mem_hexPadded {width n : Nat} {c : Char} (mem : c ∈ hexPadded width n) :
    c ∈ lowerDigits := by
  induction width generalizing n with
  | zero => cases mem
  | succ width ih =>
    rcases List.mem_append.mp mem with earlier | last
    · exact ih earlier
    · rw [List.mem_singleton.mp last]
      exact hexDigit_mem_lowerDigits (n % 16) (Nat.mod_lt n (by decide))

theorem toNat_lt_of_mem_lowerDigits : ∀ c ∈ lowerDigits, c.toNat < 128 :=
  -- only the listed characters are tried
  List.all_iff_forall_prop.mp (by decide)

end Text

theorem Uuid.mem_grouped {digits : List Char} {c : Char} (mem : c ∈ grouped digits) :
    c = '-' ∨ c ∈ digits := by
  simp only [grouped, List.mem_append, List.mem_cons] at mem
  have taken : ∀ from' count, c ∈ (digits.drop from').take count → c ∈ digits :=
    fun from' count mem => List.mem_of_mem_drop (List.mem_of_mem_take mem)
  rcases mem with (((mem | rfl | mem) | rfl | mem) | rfl | mem) | rfl | mem
  · exact Or.inr (List.mem_of_mem_take mem)
  · exact Or.inl rfl
  · exact Or.inr (taken _ _ mem)
  · exact Or.inl rfl
  · exact Or.inr (taken _ _ mem)
  · exact Or.inl rfl
  · exact Or.inr (taken _ _ mem)
  · exact Or.inl rfl
  · exact Or.inr (List.mem_of_mem_drop mem)

/-- Identifiers are written in plain characters. -/
theorem Uuid.hasHalf_text (id : Uuid) : Text.hasHalf id.text = false := by
  apply Text.hasHalf_of_plain
  intro c mem
  rw [text, String.toList_ofList] at mem
  rcases mem_grouped mem with rfl | digit
  · decide
  · exact Text.toNat_lt_of_mem_lowerDigits c (Text.mem_lowerDigits_of_mem_hexPadded digit)

/-! ## Showing -/

/-- What the directory accepts can be shown. -/
theorem StoredOrganization.anyText_toRecord {directory : Directory} {stored : StoredOrganization}
    (admitted : directory.Admits stored) (timed : Text.hasHalf stored.createdAt = false) :
    stored.toRecord.anyText Text.hasHalf = false := by
  obtain ⟨name, displayName⟩ := Bool.or_eq_false_iff.mp admitted.names
  have attributes : stored.attributesRecord.anyText Text.hasHalf = false := admitted.attributes
  have shown : (Value.ofText? stored.displayName).anyText Text.hasHalf = false := by
    cases known : stored.displayName with
    | none => rfl
    | some text =>
      rw [known] at displayName
      exact displayName
  simp only [toRecord, Value.anyText, Value.anyFieldText, Uuid.hasHalf_text, name, shown, timed,
    attributes]
  decide

theorem StoredOrganization.loaded_of_hasRows {store : Store} {stored : StoredOrganization}
    (rows : stored.hasRows = true) : stored.loaded store = .ok stored :=
  if_pos rows

/-- Without rows there is nothing to show, whatever the store fails with. -/
theorem StoredOrganization.loaded_of_bare (store : Store) {stored : StoredOrganization}
    (bare : stored.hasRows = false) : ∃ cause, stored.loaded store = .error cause := by
  obtain ⟨cause, failed⟩ := store.fails stored
  refine ⟨cause, ?_⟩
  rw [loaded, bare, failed]
  rfl

/-! ## Finding -/

namespace StoredOrganization

variable (stored : StoredOrganization)

@[simp] theorem reload_id : stored.reload.id = stored.id := by
  unfold reload
  split <;> rfl

@[simp] theorem reload_name : stored.reload.organization.name = stored.organization.name := by
  unfold reload
  split <;> rfl

end StoredOrganization

namespace Directory

variable {directory : Directory} {stored : StoredOrganization} {id : Uuid}

theorem mem_of_find? (found : directory.find? id = some stored) :
    ∃ entry ∈ directory.entries, entry.id = id ∧ entry.reload = stored := by
  obtain ⟨entry, held, rfl⟩ := Option.map_eq_some_iff.mp found
  have same : entry.id = id := by simpa using List.find?_some held
  exact ⟨entry, List.mem_of_find?_eq_some held, same, rfl⟩

theorem id_of_find? (found : directory.find? id = some stored) : stored.id = id := by
  obtain ⟨entry, -, same, rfl⟩ := mem_of_find? found
  rw [StoredOrganization.reload_id, same]

theorem mem_of_mem_put {entry : StoredOrganization} (mem : entry ∈ (directory.put stored).entries) :
    entry = stored ∨ entry ∈ directory.entries := by
  unfold put at mem
  split at mem
  · obtain ⟨old, held, replaced⟩ := List.mem_map.mp mem
    split at replaced
    · exact Or.inl replaced.symm
    · exact Or.inr (replaced ▸ held)
  · rcases List.mem_append.mp mem with held | new
    · exact Or.inr held
    · exact Or.inl (List.mem_singleton.mp new)

/-- An organization that was put is found under its identifier, and the others as before. -/
theorem find?_put (directory : Directory) (stored : StoredOrganization) (id : Uuid) :
    (directory.put stored).find? id =
      if id = stored.id then some stored.reload else directory.find? id := by
  unfold put find?
  split
  · rename_i known
    -- replacing an entry keeps all identifiers in their places
    have places : (fun entry : StoredOrganization => entry.id == id) ∘
        (fun entry => if entry.id == stored.id then stored else entry) =
        fun entry => entry.id == id := by
      funext entry
      simp only [Function.comp]
      split
      · rename_i same
        rw [beq_iff_eq.mp same]
      · rfl
    rw [List.find?_map, places, Option.map_map]
    cases held : directory.entries.find? fun entry => entry.id == id with
    | none =>
      split
      · rename_i same
        obtain ⟨entry, mem, isOwn⟩ := List.any_eq_true.mp known
        have other := List.find?_eq_none.mp held entry mem
        rw [same] at other
        exact absurd isOwn other
      · rfl
    | some entry =>
      have isFound : entry.id = id := by simpa using List.find?_some held
      split
      · rename_i same
        simp [isFound, same]
      · rename_i other
        simp [isFound, other]
  · rename_i new
    rw [List.find?_append]
    split
    · rename_i same
      have none : directory.entries.find? (fun entry => entry.id == id) = none := by
        rw [List.find?_eq_none]
        intro entry mem isFound
        apply new
        rw [List.any_eq_true]
        exact ⟨entry, mem, same ▸ isFound⟩
      rw [none, same, Option.none_or, List.find?_cons_of_pos (by simp)]
      rfl
    · rename_i other
      simp [Ne.symm other]

end Directory

end ProfilePolicy
