import ProfilePolicy.Proofs.Storage

/-!
# Rows that come back

A reload sorts rows by their positions and does not swap rows of one position. The rows of one name
are kept in the order of their positions, whatever is set and removed, so they come back in the
order in which they were; only the rows of different names may change places.
-/

namespace ProfilePolicy.AttributeRow

variable {rows sorted : List AttributeRow} {row : AttributeRow}

theorem valuesOf_ne_nil (mem : row ∈ rows) : valuesOf rows row.name ≠ [] := by
  intro none
  have kept : row ∈ rows.filter (·.name == row.name) := List.mem_filter.mpr ⟨mem, BEq.rfl⟩
  rw [List.map_eq_nil_iff.mp none] at kept
  cases kept

/-- Rows of one name stand in the order of their positions. -/
def Ordered (rows : List AttributeRow) : Prop :=
  rows.Pairwise fun earlier later => earlier.name = later.name → earlier.position ≤ later.position

/-- All rows stand in the order of their positions. -/
def Sorted (rows : List AttributeRow) : Prop :=
  rows.Pairwise fun earlier later => earlier.position ≤ later.position

theorem Sorted.ordered (h : Sorted rows) : Ordered rows := by
  refine List.Pairwise.imp ?_ h
  intro earlier later below _
  exact below

theorem Ordered.without (ordered : Ordered rows) (name : String) : Ordered (without rows name) :=
  List.Pairwise.sublist List.filter_sublist ordered

theorem le_position_of_mem_ofValues {name : String} {position : Nat} {values : StoredValues}
    (mem : row ∈ ofValues name position values) : position ≤ row.position := by
  induction values generalizing position with
  | nil => cases mem
  | cons value rest ih =>
    rcases List.mem_cons.mp mem with rfl | later
    · exact Nat.le_refl _
    · exact Nat.le_of_succ_le (ih later)

theorem sorted_ofValues (name : String) (position : Nat) (values : StoredValues) :
    Sorted (ofValues name position values) := by
  induction values generalizing position with
  | nil => exact .nil
  | cons value rest ih =>
    refine List.pairwise_cons.mpr ⟨fun later mem => ?_, ih (position + 1)⟩
    exact Nat.le_of_succ_le (le_position_of_mem_ofValues mem)

/-- Setting a name keeps the rows of every name in order. -/
theorem Ordered.replace (ordered : Ordered rows) (name : String) (values : StoredValues) :
    Ordered (replace rows name values) := by
  have added := (sorted_ofValues name 0 values).ordered
  refine List.pairwise_append.mpr ⟨ordered.without name, added, ?_⟩
  intro kept mem row mem' same
  have other : kept.name ≠ name := by simpa using (List.mem_filter.mp mem).2
  exact absurd (same.trans (name_of_mem_ofValues mem')) other

/-! ## Reloading -/

theorem insertByPosition_perm (row : AttributeRow) (sorted : List AttributeRow) :
    (insertByPosition row sorted).Perm (row :: sorted) := by
  induction sorted with
  | nil => exact List.Perm.refl _
  | cons other rest ih =>
    rw [insertByPosition]
    split
    · exact (ih.cons other).trans (List.Perm.swap row other rest)
    · exact List.Perm.refl _

theorem Sorted.insertByPosition (h : Sorted sorted) (row : AttributeRow) :
    Sorted (insertByPosition row sorted) := by
  induction sorted with
  | nil => exact List.pairwise_singleton _ row
  | cons other rest ih =>
    obtain ⟨below, later⟩ := List.pairwise_cons.mp h
    rw [AttributeRow.insertByPosition]
    split
    · rename_i first
      refine List.pairwise_cons.mpr ⟨fun found mem => ?_, ih later⟩
      rcases List.mem_cons.mp ((insertByPosition_perm row rest).mem_iff.mp mem) with rfl | held
      · exact first
      · exact below found held
    · rename_i first
      refine List.pairwise_cons.mpr ⟨fun found mem => ?_, h⟩
      rcases List.mem_cons.mp mem with rfl | held
      · omega
      · have := below found held
        omega

/-- Inserting a row puts it behind the rows of its name, if none of them has a higher position. -/
theorem filter_insertByPosition (h : Sorted sorted)
    (last : ∀ held ∈ sorted, held.name = row.name → held.position ≤ row.position) (name : String) :
    (insertByPosition row sorted).filter (·.name == name) =
      sorted.filter (·.name == name) ++ [row].filter (·.name == name) := by
  induction sorted with
  | nil => rfl
  | cons other rest ih =>
    obtain ⟨below, later⟩ := List.pairwise_cons.mp h
    rw [insertByPosition]
    split
    · have behind := ih later fun held mem => last held (List.mem_cons_of_mem _ mem)
      rw [← List.singleton_append, List.filter_append, behind, ← List.append_assoc,
        ← List.filter_append, List.singleton_append]
    · rename_i first
      by_cases own : row.name = name
      · -- no row of the name stands behind, since it would have a higher position
        have none : (other :: rest).filter (·.name == name) = [] := by
          rw [List.filter_eq_nil_iff]
          intro held mem same
          have bounded := last held mem ((beq_iff_eq.mp same).trans own.symm)
          rcases List.mem_cons.mp mem with rfl | behind
          · omega
          · have := below held behind
            omega
        rw [List.filter_cons_of_pos (by simpa using own), none, List.nil_append,
          List.filter_cons_of_pos (by simpa using own), List.filter_nil]
      · have passed : [row].filter (·.name == name) = [] :=
          List.filter_cons_of_neg (by simpa using own)
        rw [List.filter_cons_of_neg (by simpa using own), passed, List.append_nil]

/-- Rows inserted in turn come behind the rows of their names. -/
theorem filter_foldl_insertByPosition (h : Sorted sorted) (ordered : Ordered rows)
    (above : ∀ held ∈ sorted, ∀ row ∈ rows, held.name = row.name → held.position ≤ row.position)
    (name : String) :
    (rows.foldl (fun sorted row => insertByPosition row sorted) sorted).filter (·.name == name) =
      sorted.filter (·.name == name) ++ rows.filter (·.name == name) := by
  induction rows generalizing sorted with
  | nil => rw [List.filter_nil, List.append_nil, List.foldl_nil]
  | cons row rest ih =>
    obtain ⟨first, later⟩ := List.pairwise_cons.mp ordered
    have last := fun held mem => above held mem row List.mem_cons_self
    rw [List.foldl_cons, ih (h.insertByPosition row) later, filter_insertByPosition h last,
      List.append_assoc, ← List.filter_append, List.singleton_append]
    intro held mem row' mem' same
    rcases List.mem_cons.mp ((insertByPosition_perm row sorted).mem_iff.mp mem) with rfl | before
    · exact first row' mem' same
    · exact above held before row' (List.mem_cons_of_mem _ mem') same

theorem sorted_foldl_insertByPosition (h : Sorted sorted) (rows : List AttributeRow) :
    Sorted (rows.foldl (fun sorted row => insertByPosition row sorted) sorted) := by
  induction rows generalizing sorted with
  | nil => exact h
  | cons row rest ih => exact ih (h.insertByPosition row)

theorem foldl_insertByPosition_perm (rows sorted : List AttributeRow) :
    (rows.foldl (fun sorted row => insertByPosition row sorted) sorted).Perm (sorted ++ rows) := by
  induction rows generalizing sorted with
  | nil => rw [List.foldl_nil, List.append_nil]
  | cons row rest ih =>
    have inserted := (insertByPosition_perm row sorted).append_right rest
    exact (ih (insertByPosition row sorted)).trans (inserted.trans List.perm_middle.symm)

theorem ordered_reload (rows : List AttributeRow) : Ordered (reload rows) :=
  (sorted_foldl_insertByPosition List.Pairwise.nil rows).ordered

/-- The rows of a name come back as they were. -/
theorem filter_reload (ordered : Ordered rows) (name : String) :
    (reload rows).filter (·.name == name) = rows.filter (·.name == name) :=
  filter_foldl_insertByPosition List.Pairwise.nil ordered
    (fun _ mem => absurd mem List.not_mem_nil) name

theorem valuesOf_reload (ordered : Ordered rows) (name : String) :
    valuesOf (reload rows) name = valuesOf rows name := by
  rw [valuesOf, valuesOf, filter_reload ordered]

end ProfilePolicy.AttributeRow
