import ProfilePolicy.Organization
import ProfilePolicy.Proofs.Keyed

/-!
# Reading after writing

The values under a name are the view through which organizations are compared here. Both ways of
storage obey the same laws: replacing the values of a name is seen under that name alone, dropping a
name leaves nothing under it, and a name that is not listed has no values. Neither the name of the
organization nor its refusals take part.
-/

namespace ProfilePolicy

namespace AttributeRow

theorem valuesOf_append (left right : List AttributeRow) (name : String) :
    valuesOf (left ++ right) name = valuesOf left name ++ valuesOf right name := by
  simp [valuesOf]

theorem valuesOf_cons (row : AttributeRow) (rest : List AttributeRow) (name : String) :
    valuesOf (row :: rest) name =
      if row.name = name then row.value :: valuesOf rest name else valuesOf rest name := by
  by_cases h : row.name = name <;> simp [valuesOf, h]

theorem valuesOf_without (rows : List AttributeRow) (name other : String) :
    valuesOf (without rows name) other = if other = name then [] else valuesOf rows other := by
  induction rows with
  | nil => simp [without, valuesOf]
  | cons row rest ih =>
    by_cases h : row.name = name
    · have dropped : without (row :: rest) name = without rest name := by simp [without, h]
      rw [dropped, ih, valuesOf_cons, h]
      by_cases ho : other = name
      · simp [ho]
      · simp [ho, Ne.symm ho]
    · have kept : without (row :: rest) name = row :: without rest name := by simp [without, h]
      rw [kept, valuesOf_cons, ih, valuesOf_cons]
      by_cases ho : other = name
      · simp [ho, h]
      · simp [ho]

theorem valuesOf_ofValues (name : String) (position : Nat) (values : StoredValues)
    (other : String) :
    valuesOf (ofValues name position values) other = if other = name then values else [] := by
  induction values generalizing position with
  | nil => simp [ofValues, valuesOf]
  | cons value rest ih =>
    rw [ofValues, valuesOf_cons, ih]
    by_cases ho : other = name
    · simp [ho]
    · simp [ho, Ne.symm ho]

theorem mem_names_attributes {rows : List AttributeRow} {name : String} :
    name ∈ Keyed.names (attributes rows) ↔ ∃ row ∈ rows, row.name = name := by
  have collect : ∀ (rows : List AttributeRow) (found : Keyed StoredValues),
      name ∈ Keyed.names (rows.foldl (fun found row =>
        found.put row.name ((found.get? row.name).getD [] ++ [row.value])) found) ↔
      (∃ row ∈ rows, row.name = name) ∨ name ∈ Keyed.names found := by
    intro rows
    induction rows with
    | nil => simp
    | cons row rest ih =>
      intro found
      have first : (∃ other ∈ row :: rest, other.name = name) ↔
          (∃ other ∈ rest, other.name = name) ∨ name = row.name := by
        rw [or_comm, @eq_comm _ name]
        simp only [List.mem_cons, exists_eq_or_imp]
      rw [List.foldl_cons, ih, Keyed.mem_names_put, first, or_assoc]
  exact (collect rows []).trans (or_iff_left List.not_mem_nil)

theorem valuesOf_eq_nil_of_not_mem {rows : List AttributeRow} {name : String}
    (absent : ¬ ∃ row ∈ rows, row.name = name) : valuesOf rows name = [] := by
  have none : rows.filter (fun row => row.name == name) = [] := by
    rw [List.filter_eq_nil_iff]
    intro row mem
    simpa using fun h => absent ⟨row, mem, h⟩
  simp [valuesOf, none]

theorem name_of_mem_ofValues {name : String} {position : Nat} {values : StoredValues}
    {row : AttributeRow} (mem : row ∈ ofValues name position values) : row.name = name := by
  induction values generalizing position with
  | nil => cases mem
  | cons value rest ih =>
    rcases List.mem_cons.mp mem with rfl | later
    · rfl
    · exact ih later

/-- Leaving out all rows of some names leaves these names out and nothing else. -/
theorem names_attributes_filter (rows : List AttributeRow) (keep : String → Bool) :
    (Keyed.names (attributes rows)).filter keep =
      Keyed.names (attributes (rows.filter fun row => keep row.name)) := by
  -- the two collections agree about the names that are kept, whatever else was found so far
  have collect : ∀ (rows : List AttributeRow) (found kept : Keyed StoredValues),
      (Keyed.names found).filter keep = Keyed.names kept →
      (Keyed.names (rows.foldl (fun found row =>
        found.put row.name ((found.get? row.name).getD [] ++ [row.value])) found)).filter keep =
      Keyed.names ((rows.filter fun row => keep row.name).foldl (fun found row =>
        found.put row.name ((found.get? row.name).getD [] ++ [row.value])) kept) := by
    intro rows
    induction rows with
    | nil => exact fun _ _ same => same
    | cons row rest ih =>
      intro found kept same
      rw [List.foldl_cons]
      cases wanted : keep row.name with
      | true =>
        rw [List.filter_cons_of_pos (by exact wanted), List.foldl_cons]
        apply ih
        have held : row.name ∈ Keyed.names kept ↔ row.name ∈ Keyed.names found := by
          rw [← same, List.mem_filter]
          exact and_iff_left wanted
        rw [Keyed.names_put, Keyed.names_put, ← same]
        by_cases mem : row.name ∈ Keyed.names found
        · rw [if_pos mem, if_pos (same ▸ held.mpr mem)]
        · rw [if_neg mem, if_neg (same ▸ fun h => mem (held.mp h)), List.filter_append,
            List.filter_cons_of_pos wanted, List.filter_nil]
      | false =>
        have dropped : ¬ keep row.name = true := by simp [wanted]
        rw [List.filter_cons_of_neg (by exact dropped)]
        apply ih
        rw [Keyed.names_put, ← same]
        split
        · rfl
        · rw [List.filter_append, List.filter_cons_of_neg dropped, List.filter_nil,
            List.append_nil]
  exact collect rows [] [] rfl

/-- Replacing rows of a name does not touch the rows of other names. -/
theorem filter_replace (rows : List AttributeRow) {name : String} (values : StoredValues)
    {keep : String → Bool} (dropped : keep name = false) :
    (replace rows name values).filter (fun row => keep row.name) =
      rows.filter fun row => keep row.name := by
  have added : ∀ position, (ofValues name position values).filter (fun row => keep row.name) = [] := by
    induction values with
    | nil => exact fun _ => rfl
    | cons value rest ih =>
      intro position
      rw [ofValues, List.filter_cons_of_neg (by simp [dropped])]
      exact ih (position + 1)
  rw [replace, List.filter_append, added 0, List.append_nil, without, List.filter_filter]
  apply List.filter_congr
  intro row _
  by_cases same : row.name = name
  · simp [same, dropped]
  · simp [same]

end AttributeRow

namespace Storage

/-- Replacing the values of a name keeps all other names in their order. -/
theorem names_replace_filter (storage : Storage) {name : String} (values : StoredValues)
    {keep : String → Bool} (dropped : keep name = false) :
    (Keyed.names (storage.replace name values).attributes).filter keep =
      (Keyed.names storage.attributes).filter keep := by
  cases storage with
  | entries map =>
    rw [replace, attributes, attributes, Keyed.names_put]
    split
    · rfl
    · rw [List.filter_append, List.filter_cons_of_neg (by simp [dropped]), List.filter_nil,
        List.append_nil]
  | rows held =>
    rw [replace, attributes, attributes, AttributeRow.names_attributes_filter,
      AttributeRow.filter_replace held values dropped, ← AttributeRow.names_attributes_filter]

/-- Replacing the values of a name lists no other name that was not listed. -/
theorem mem_names_replace {storage : Storage} {name other : String} {values : StoredValues}
    (listed : other ∈ Keyed.names (storage.replace name values).attributes) :
    other = name ∨ other ∈ Keyed.names storage.attributes := by
  cases storage with
  | entries map => exact Keyed.mem_names_put.mp listed
  | rows held =>
    obtain ⟨row, mem, rfl⟩ := AttributeRow.mem_names_attributes.mp listed
    rcases List.mem_append.mp mem with kept | added
    · right
      exact AttributeRow.mem_names_attributes.mpr ⟨row, (List.mem_filter.mp kept).1, rfl⟩
    · exact Or.inl (AttributeRow.name_of_mem_ofValues added)

/-- A name that was dropped is not listed, and no other name is that was not listed. -/
theorem mem_names_without {storage : Storage} {name other : String}
    (listed : other ∈ Keyed.names (storage.without name).attributes) :
    other ≠ name ∧ other ∈ Keyed.names storage.attributes := by
  cases storage with
  | entries map => exact Keyed.mem_names_without.mp listed
  | rows held =>
    obtain ⟨row, mem, rfl⟩ := AttributeRow.mem_names_attributes.mp listed
    obtain ⟨held, differs⟩ := List.mem_filter.mp mem
    exact ⟨by simpa using differs, AttributeRow.mem_names_attributes.mpr ⟨row, held, rfl⟩⟩

theorem valuesOf_replace (storage : Storage) (name : String) (values : StoredValues)
    (other : String) :
    (storage.replace name values).valuesOf other =
      if other = name then values else storage.valuesOf other := by
  cases storage with
  | entries map =>
    by_cases h : other = name <;> simp [replace, valuesOf, Keyed.get?_put, h]
  | rows held =>
    simp only [replace, valuesOf, AttributeRow.replace, AttributeRow.valuesOf_append,
      AttributeRow.valuesOf_without, AttributeRow.valuesOf_ofValues]
    by_cases h : other = name <;> simp [h]

theorem valuesOf_without (storage : Storage) (name other : String) :
    (storage.without name).valuesOf other =
      if other = name then [] else storage.valuesOf other := by
  cases storage with
  | entries map =>
    by_cases h : other = name <;> simp [without, valuesOf, Keyed.get?_without, h]
  | rows held => exact AttributeRow.valuesOf_without held name other

theorem valuesOf_eq_nil_of_not_mem {storage : Storage} {name : String}
    (absent : name ∉ Keyed.names storage.attributes) : storage.valuesOf name = [] := by
  cases storage with
  | entries map =>
    have missing : Keyed.get? map name = none := by
      rw [← Option.not_isSome_iff_eq_none, Keyed.get?_isSome_iff]
      exact absent
    simp [valuesOf, missing]
  | rows held =>
    exact AttributeRow.valuesOf_eq_nil_of_not_mem
      (fun present => absent (AttributeRow.mem_names_attributes.mpr present))

end Storage

namespace Organization

/-- An organization after a write: the name and the refusals are those from before. -/
structure Follows (after before : Organization) : Prop where
  name : after.name = before.name
  refusals : after.refusals = before.refusals

theorem Follows.refl (organization : Organization) : organization.Follows organization :=
  ⟨rfl, rfl⟩

theorem Follows.trans {first second third : Organization} (later : third.Follows second)
    (earlier : second.Follows first) : third.Follows first :=
  ⟨later.name.trans earlier.name, later.refusals.trans earlier.refusals⟩

/-- A write that is not refused replaces the values of its name and nothing else. -/
theorem setAttribute_ok {organization after : Organization} {name : String}
    {values : StoredValues} (h : organization.setAttribute name values = .ok after) :
    after.Follows organization ∧
      ∀ other, after.valuesOf other = if other = name then values else organization.valuesOf other := by
  rw [setAttribute] at h
  split at h
  · cases h
  · cases h
    exact ⟨⟨rfl, rfl⟩, fun other => Storage.valuesOf_replace _ _ _ _⟩

/-- A removal that is not refused empties its name and nothing else. -/
theorem removeAttribute_ok {organization after : Organization} {name : String}
    (h : organization.removeAttribute name = .ok after) :
    after.Follows organization ∧
      ∀ other, after.valuesOf other = if other = name then [] else organization.valuesOf other := by
  rw [removeAttribute] at h
  split at h
  · cases h
  · cases h
    exact ⟨⟨rfl, rfl⟩, fun other => Storage.valuesOf_without _ _ _⟩

theorem valuesOf_eq_nil_of_not_mem {organization : Organization} {name : String}
    (absent : name ∉ organization.attributeNames) : organization.valuesOf name = [] :=
  Storage.valuesOf_eq_nil_of_not_mem absent

end Organization

end ProfilePolicy
