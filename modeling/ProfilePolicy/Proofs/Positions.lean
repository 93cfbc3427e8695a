import Mathlib.Data.List.Nodup
import ProfilePolicy.Proofs.Interchange
import ProfilePolicy.Proofs.Rows

/-!
# Rows by their positions

The rows of one name are numbered from zero on, in the order in which they stand. Setting a name
numbers its rows anew, and removing one leaves no gap among those of another. A reload brings all
rows back in the order of their positions; rows of one position may come in any order, but they
belong to different names. So the positions alone keep the values of every name in order.

What is read after any history of sets, removals and reloads is what a name was last given. A name
that was given no values is not listed.
-/

namespace ProfilePolicy

open Value

namespace AttributeRow

variable {rows after : List AttributeRow}

def positionsOf (rows : List AttributeRow) (name : String) : List Nat :=
  (rows.filter (·.name == name)).map (·.position)

/-- The rows of every name are numbered from zero on. -/
def Numbered (rows : List AttributeRow) : Prop :=
  ∀ name, positionsOf rows name = List.range (valuesOf rows name).length

theorem numbered_nil : Numbered [] := fun _ => rfl

theorem map_position_ofValues (name : String) (position : Nat) (values : StoredValues) :
    (ofValues name position values).map (·.position) = List.range' position values.length := by
  induction values generalizing position with
  | nil => rfl
  | cons value rest ih =>
    rw [ofValues, List.map_cons, ih, List.length_cons, List.range'_succ]

theorem filter_ofValues (name : String) (position : Nat) (values : StoredValues) :
    (ofValues name position values).filter (·.name == name) = ofValues name position values := by
  rw [List.filter_eq_self]
  intro row mem
  exact beq_iff_eq.mpr (name_of_mem_ofValues mem)

theorem filter_without_self (rows : List AttributeRow) (name : String) :
    (without rows name).filter (·.name == name) = [] :=
  List.map_eq_nil_iff.mp ((valuesOf_without rows name name).trans (if_pos rfl))

theorem positionsOf_without_of_ne (rows : List AttributeRow) {name other : String}
    (differs : other ≠ name) : positionsOf (without rows name) other = positionsOf rows other := by
  rw [positionsOf, positionsOf, without, List.filter_filter]
  congr 1
  apply List.filter_congr
  intro row _
  by_cases own : row.name = other
  · simp [own, differs]
  · simp [own]

theorem positionsOf_replace_of_ne (rows : List AttributeRow) {name other : String}
    (values : StoredValues) (differs : other ≠ name) :
    positionsOf (replace rows name values) other = positionsOf rows other := by
  have foreign : (name == other) = false := beq_eq_false_iff_ne.mpr differs.symm
  have kept := @filter_replace rows name values (· == other) foreign
  rw [positionsOf, positionsOf, kept]

theorem positionsOf_replace (rows : List AttributeRow) (name : String) (values : StoredValues) :
    positionsOf (replace rows name values) name = List.range values.length := by
  rw [positionsOf, replace, List.filter_append, filter_without_self, List.nil_append,
    filter_ofValues, map_position_ofValues, List.range_eq_range']

theorem Numbered.without (numbered : Numbered rows) (name : String) :
    Numbered (without rows name) := by
  intro other
  rw [valuesOf_without]
  by_cases own : other = name
  · rw [if_pos own, own, positionsOf, filter_without_self]
    rfl
  · rw [if_neg own, positionsOf_without_of_ne rows own, numbered other]

theorem Numbered.replace (numbered : Numbered rows) (name : String) (values : StoredValues) :
    Numbered (replace rows name values) := by
  intro other
  have held : valuesOf (AttributeRow.replace rows name values) other =
      if other = name then values else valuesOf rows other :=
    Storage.valuesOf_replace (.rows rows) name values other
  rw [held]
  by_cases own : other = name
  · rw [if_pos own, own, positionsOf_replace]
  · rw [if_neg own, positionsOf_replace_of_ne rows values own, numbered other]

/-! ## Reloading -/

/-- A reload brings rows back in the order of their positions, those of one position in any
order. -/
structure Reloads (rows after : List AttributeRow) : Prop where
  perm : after.Perm rows
  sorted : Sorted after

/-- Rows of one name are told apart by their positions. -/
theorem Numbered.eq_of_position {name : String} {row other : AttributeRow} (numbered : Numbered rows)
    (mem : row ∈ rows.filter (·.name == name)) (mem' : other ∈ rows.filter (·.name == name))
    (same : row.position = other.position) : row = other := by
  have distinct : (positionsOf rows name).Nodup := by
    rw [numbered name]
    exact List.nodup_range
  exact List.inj_on_of_nodup_map distinct mem mem' same

/-- Rows of one name stand in the order of their positions. -/
theorem Numbered.sorted_filter (numbered : Numbered rows) (name : String) :
    Sorted (rows.filter (·.name == name)) := by
  have ascending : (positionsOf rows name).Pairwise (· ≤ ·) := by
    rw [numbered name]
    exact List.pairwise_le_range
  exact List.pairwise_map.mp ascending

/-- The rows of a name come back as they were, whatever happens to rows of one position. -/
theorem Numbered.filter_eq_of_reloads (numbered : Numbered rows) (reloaded : Reloads rows after)
    (name : String) : after.filter (·.name == name) = rows.filter (·.name == name) := by
  have perm := reloaded.perm.filter (·.name == name)
  have sorted : Sorted (after.filter (·.name == name)) := reloaded.sorted.filter _
  refine perm.eq_of_pairwise ?_ sorted (numbered.sorted_filter name)
  intro row other mem mem' below above
  exact numbered.eq_of_position (perm.mem_iff.mp mem) mem' (Nat.le_antisymm below above)

theorem Numbered.valuesOf_of_reloads (numbered : Numbered rows) (reloaded : Reloads rows after)
    (name : String) : valuesOf after name = valuesOf rows name := by
  rw [valuesOf, valuesOf, numbered.filter_eq_of_reloads reloaded]

theorem Numbered.of_reloads (numbered : Numbered rows) (reloaded : Reloads rows after) :
    Numbered after := by
  intro name
  rw [numbered.valuesOf_of_reloads reloaded, positionsOf, numbered.filter_eq_of_reloads reloaded]
  exact numbered name

/-- Sorting rows that are inserted in turn is one way to reload them. -/
theorem reloads_reload (rows : List AttributeRow) : Reloads rows (reload rows) :=
  ⟨foldl_insertByPosition_perm rows [], sorted_foldl_insertByPosition List.Pairwise.nil rows⟩

end AttributeRow

/-! ## Histories -/

/-- What happens to the attributes of an organization that is kept as rows. -/
inductive RowEvent
  | set (name : String) (texts : List String)
  | remove (name : String)
  | reload

namespace RowEvent

inductive Makes (organization : Organization) : RowEvent → Organization → Prop
  | set {name : String} {texts : List String} {after : Organization}
      (granted : organization.setAttribute name (texts.map text) = .ok after) :
      Makes organization (.set name texts) after
  | remove {name : String} {after : Organization}
      (granted : organization.removeAttribute name = .ok after) :
      Makes organization (.remove name) after
  | reload {rows after : List AttributeRow} (inRows : organization.storage = .rows rows)
      (reloaded : AttributeRow.Reloads rows after) :
      Makes organization .reload { organization with storage := .rows after }

def given? (name : String) : RowEvent → Option (List String)
  | set written texts => if written = name then some texts else none
  | remove removed => if removed = name then some [] else none
  | reload => none

/-- What a name was last given in a history, if it was not removed since. -/
def lastGiven (history : List RowEvent) (name : String) : List String :=
  ((history.filterMap (given? name)).getLast?).getD []

/-- An organization to which the events of a history happened, the latest one last. -/
inductive Reaches (start : Organization) : List RowEvent → Organization → Prop
  | start : Reaches start [] start
  | next {history : List RowEvent} {organization after : Organization} {event : RowEvent}
      (reached : Reaches start history organization) (made : event.Makes organization after) :
      Reaches start (history ++ [event]) after

theorem lastGiven_concat (history : List RowEvent) (event : RowEvent) (name : String) :
    lastGiven (history ++ [event]) name = (event.given? name).getD (lastGiven history name) := by
  rw [lastGiven, List.filterMap_append]
  cases given : event.given? name with
  | none =>
    have nothing : [event].filterMap (given? name) = [] := by simp [given]
    rw [nothing, List.append_nil]
    rfl
  | some texts =>
    have something : [event].filterMap (given? name) = [texts] := by simp [given]
    rw [something, List.getLast?_concat]
    rfl

/-- An organization that holds in its rows what its history gave to every name. -/
structure Upholds (history : List RowEvent) (organization : Organization)
    (rows : List AttributeRow) : Prop where
  inRows : organization.storage = .rows rows
  numbered : AttributeRow.Numbered rows
  values : ∀ name, AttributeRow.valuesOf rows name = (lastGiven history name).map text
  willing : organization.refusals = none

variable {history : List RowEvent} {organization after : Organization} {event : RowEvent}
  {rows : List AttributeRow}

theorem Upholds.valuesOf (upholds : Upholds history organization rows) (name : String) :
    organization.valuesOf name = (lastGiven history name).map text := by
  rw [Organization.valuesOf, upholds.inRows]
  exact upholds.values name

/-- Every event can happen. -/
theorem Upholds.exists_makes (upholds : Upholds history organization rows) (event : RowEvent) :
    ∃ after, event.Makes organization after := by
  cases event with
  | set name texts =>
    exact ⟨_, .set (Organization.setAttribute_of_willing upholds.willing name texts)⟩
  | remove name => exact ⟨_, .remove (Organization.removeAttribute_of_willing upholds.willing name)⟩
  | reload => exact ⟨_, .reload upholds.inRows (AttributeRow.reloads_reload rows)⟩

/-- An event leaves what the history with it gives to every name. -/
theorem Upholds.next (upholds : Upholds history organization rows)
    (made : event.Makes organization after) :
    ∃ rows, Upholds (history ++ [event]) after rows := by
  cases made with
  | @set name texts _ granted =>
    rw [Organization.setAttribute_of_willing upholds.willing] at granted
    cases granted
    refine ⟨AttributeRow.replace rows name (texts.map text), ?_, upholds.numbered.replace name _,
      fun other => ?_, upholds.willing⟩
    · rw [Call.apply, upholds.inRows]
      rfl
    · have held := Storage.valuesOf_replace (.rows rows) name (texts.map text) other
      rw [lastGiven_concat, given?]
      by_cases own : name = other
      · rw [if_pos own]
        exact held.trans (if_pos own.symm)
      · rw [if_neg own]
        exact (held.trans (if_neg (Ne.symm own))).trans (upholds.values other)
  | @remove name _ granted =>
    rw [Organization.removeAttribute_of_willing upholds.willing] at granted
    cases granted
    refine ⟨AttributeRow.without rows name, ?_, upholds.numbered.without name, fun other => ?_,
      upholds.willing⟩
    · rw [Call.apply, upholds.inRows]
      rfl
    · rw [lastGiven_concat, given?, AttributeRow.valuesOf_without]
      by_cases own : name = other
      · rw [if_pos own, if_pos own.symm]
        rfl
      · rw [if_neg own, if_neg (Ne.symm own)]
        exact upholds.values other
  | @reload held back inRows reloaded =>
    cases upholds.inRows.symm.trans inRows
    refine ⟨back, rfl, upholds.numbered.of_reloads reloaded, fun other => ?_, upholds.willing⟩
    rw [lastGiven_concat, upholds.numbered.valuesOf_of_reloads reloaded]
    exact upholds.values _

/-- Every history leaves what it gives to every name. -/
theorem Reaches.upholds {name : Value}
    (reached : Reaches { name, storage := .rows [] } history organization) :
    ∃ rows, Upholds history organization rows := by
  induction reached with
  | start => exact ⟨[], rfl, AttributeRow.numbered_nil, fun _ => rfl, rfl⟩
  | next _ made ih =>
    obtain ⟨rows, upholds⟩ := ih
    exact upholds.next made

end RowEvent

namespace Organization

/-- Rows list a name exactly when it has values. -/
theorem get?_attributes_rows {organization : Organization} {rows : List AttributeRow}
    (inRows : organization.storage = .rows rows) (name : String) :
    organization.attributes.get? name =
      if organization.valuesOf name = [] then none else some (organization.valuesOf name) := by
  split
  · rename_i none
    rw [attributes, inRows, Keyed.get?_eq_none_iff]
    intro listed
    obtain ⟨row, mem, rfl⟩ := AttributeRow.mem_names_attributes.mp listed
    rw [valuesOf, inRows] at none
    exact AttributeRow.valuesOf_ne_nil mem none
  · rename_i held
    exact (get?_attributes_eq_some_iff held).mpr rfl

open RowEvent in
/-- Attributes that are kept as rows survive any history of sets, removals and reloads: the rows of
every name are numbered from zero on, and what is read under it is what it was last given. -/
theorem rows_survive_reloads {title : Value} {history : List RowEvent} {organization : Organization}
    (reached : Reaches { name := title, storage := .rows [] } history organization) :
    (∀ event : RowEvent, ∃ after, event.Makes organization after) ∧
      ∃ rows, organization.storage = .rows rows ∧ ∀ name,
        let texts := lastGiven history name
        AttributeRow.positionsOf rows name = List.range texts.length ∧
          organization.valuesOf name = texts.map text ∧
          organization.firstValueOf name = .ofText? texts.head? ∧
          organization.attributes.get? name =
            if texts = [] then none else some (texts.map text) := by
  obtain ⟨rows, upholds⟩ := reached.upholds
  refine ⟨upholds.exists_makes, rows, upholds.inRows, fun name => ?_⟩
  have values := upholds.valuesOf name
  refine ⟨?_, values, ?_, ?_⟩
  · rw [upholds.numbered name, upholds.values, List.length_map]
  · rw [firstValueOf, values]
    cases lastGiven history name <;> rfl
  · rw [get?_attributes_rows upholds.inRows, values]
    simp only [List.map_eq_nil_iff]

open RowEvent in
/-- A reload may put the row of one name before those of another that was set earlier. -/
theorem rows_survive_reloads_of_tied :
    ∃ organization : Organization,
      Reaches { name := text "sample", storage := .rows [] }
        [.set "plain" ["x", "y"], .set "other" ["z"], .reload] organization ∧
      organization.storage =
        .rows [⟨"other", text "z", 0⟩, ⟨"plain", text "x", 0⟩, ⟨"plain", text "y", 1⟩] ∧
      organization.attributes.get? "plain" = some [text "x", text "y"] := by
  have reloaded : AttributeRow.Reloads
      ([⟨"plain", text "x", 0⟩, ⟨"plain", text "y", 1⟩] ++ [⟨"other", text "z", 0⟩])
      ([⟨"other", text "z", 0⟩] ++ [⟨"plain", text "x", 0⟩, ⟨"plain", text "y", 1⟩]) :=
    ⟨List.perm_append_comm, by simp [AttributeRow.Sorted]⟩
  have reached : Reaches { name := text "sample", storage := .rows [] }
      [.set "plain" ["x", "y"], .set "other" ["z"], .reload]
      { name := text "sample", storage := .rows _ } :=
    .next (.next (.next .start (.set rfl)) (.set rfl)) (.reload rfl reloaded)
  obtain ⟨-, rows, -, told⟩ := rows_survive_reloads reached
  exact ⟨_, reached, rfl, (told "plain").2.2.2⟩

open RowEvent in
/-- A name that was set to no values holds none, but it is not listed with none. -/
theorem empty_values_not_listed :
    ∃ organization : Organization,
      Reaches { name := text "sample", storage := .rows [] } [.set "plain" []] organization ∧
      lastGiven [.set "plain" []] "plain" = [] ∧
      organization.attributes.get? "plain" ≠ some [] :=
  ⟨_, .next .start (.set rfl), rfl, nofun⟩

end Organization

end ProfilePolicy
