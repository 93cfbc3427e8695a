import Mathlib.Data.List.Induction
import ProfilePolicy.Log.Redaction

/-!
# What redaction hides

A place in a value is told by the indices on the way to it, so it is as deep as this way is long. A
value is secret when it stands under a sensitive key of a record that is no deeper than five; it is
replaced when that record is shown, that is, when nothing around it is replaced.

Redaction puts its mark at the places of what is replaced and leaves every other place that is shown
as it was: the keys of its record in their order, the length of its list, or its value. So what is
secret leaves no trace: two events are told apart after redaction exactly if they differ at a place
that is shown. Since redaction itself differs from an event at no such place, redacting again
changes nothing.
-/

namespace ProfilePolicy

namespace Value

def child? : Value → Nat → Option Value
  | record fields, i => (fields[i]?).map (·.2)
  | list items, i => items[i]?
  | _, _ => none

def partAt : Value → List Nat → Option Value
  | value, [] => some value
  | value, i :: rest => (value.child? i).bind fun part => partAt part rest

/-- What can be seen of a value without looking into its parts. -/
inductive Outline
  | record (keys : List String)
  | list (length : Nat)
  | plain (value : Value)

/-- The keys of a record, the length of a list, or a value that has no parts. -/
def outline : Value → Outline
  | record fields => .record (fields.map (·.1))
  | list items => .list items.length
  | value => .plain value

def outlineAt (value : Value) (place : List Nat) : Option Outline :=
  (value.partAt place).map outline

theorem partAt_append (value : Value) (place rest : List Nat) :
    value.partAt (place ++ rest) = (value.partAt place).bind fun part => part.partAt rest := by
  induction place generalizing value with
  | nil => rfl
  | cons i further ih =>
    rw [List.cons_append, partAt, partAt]
    cases value.child? i with
    | none => rfl
    | some part => exact ih part

theorem partAt_concat (value : Value) (place : List Nat) (i : Nat) :
    value.partAt (place ++ [i]) = (value.partAt place).bind fun part => part.child? i := by
  rw [partAt_append]
  refine congrArg _ (funext fun part => ?_)
  exact Option.bind_fun_some (part.child? i)

theorem outlineAt_field {fields : List (String × Value)} {i : Nat} (inside : i < fields.length)
    (place : List Nat) : (record fields).outlineAt (i :: place) = fields[i].2.outlineAt place := by
  rw [outlineAt, partAt, child?, List.getElem?_eq_getElem inside]
  rfl

theorem outlineAt_item {items : List Value} {i : Nat} (inside : i < items.length)
    (place : List Nat) : (list items).outlineAt (i :: place) = items[i].outlineAt place := by
  rw [outlineAt, partAt, child?, List.getElem?_eq_getElem inside]
  rfl

theorem of_outline_record {value : Value} {keys : List String}
    (shown : value.outline = .record keys) :
    ∃ fields, value = record fields ∧ fields.map (·.1) = keys := by
  cases value with
  | record fields => exact ⟨fields, rfl, Outline.record.inj shown⟩
  | _ => cases shown

theorem of_outline_list {value : Value} {length : Nat} (shown : value.outline = .list length) :
    ∃ items, value = list items ∧ items.length = length := by
  cases value with
  | list items => exact ⟨items, rfl, Outline.list.inj shown⟩
  | _ => cases shown

theorem of_outline_plain {value held : Value} (shown : value.outline = .plain held) :
    value = held := by
  cases value with
  | record fields => cases shown
  | list items => cases shown
  | _ => exact Outline.plain.inj shown

/-- What holds of values without parts, and of those whose parts it holds of, holds of all
values. -/
@[elab_as_elim]
theorem induction_on_parts {motive : Value → Prop}
    (record : ∀ fields, (∀ field ∈ fields, motive field.2) → motive (record fields))
    (list : ∀ items, (∀ item ∈ items, motive item) → motive (list items))
    (plain : ∀ value held, value.outline = .plain held → motive value) (value : Value) :
    motive value :=
  @Value.rec motive (fun items => ∀ item ∈ items, motive item)
    (fun fields => ∀ field ∈ fields, motive field.2) (fun field => motive field.2)
    (plain _ _ rfl) (fun _ => plain _ _ rfl) (fun _ => plain _ _ rfl) (fun _ => plain _ _ rfl)
    (fun _ => plain _ _ rfl) list record (fun _ => plain _ _ rfl)
    (fun _ mem => absurd mem List.not_mem_nil)
    (fun _ _ first rest => List.forall_mem_cons.mpr ⟨first, rest⟩)
    (fun _ mem => absurd mem List.not_mem_nil)
    (fun _ _ first rest => List.forall_mem_cons.mpr ⟨first, rest⟩)
    (fun _ _ part => part) value

/-- Values that show the same at every place are the same. -/
theorem eq_of_outlineAt {value value' : Value}
    (same : ∀ place, value.outlineAt place = value'.outlineAt place) : value = value' := by
  induction value using induction_on_parts generalizing value' with
  | record fields ih =>
    have top : value'.outline = (record fields).outline := (Option.some.inj (same [])).symm
    obtain ⟨fields', rfl, keys⟩ := of_outline_record top
    have size : fields.length = fields'.length := by simpa using (congrArg List.length keys).symm
    refine congrArg record (List.ext_getElem size fun i inside inside' => Prod.ext ?_ ?_)
    · simpa [inside, inside'] using (congrArg (·[i]?) keys).symm
    · refine ih _ (List.getElem_mem inside) fun place => ?_
      rw [← outlineAt_field inside, same, outlineAt_field inside']
  | list items ih =>
    have top : value'.outline = (list items).outline := (Option.some.inj (same [])).symm
    obtain ⟨items', rfl, size⟩ := of_outline_list top
    refine congrArg list (List.ext_getElem size.symm fun i inside inside' => ?_)
    refine ih _ (List.getElem_mem inside) fun place => ?_
    rw [← outlineAt_item inside, same, outlineAt_item inside']
  | plain value held shown =>
    have top : value'.outline = value.outline := (Option.some.inj (same [])).symm
    rw [of_outline_plain shown, of_outline_plain (top.trans shown)]

end Value

namespace Log

open Value

/-! ## One step -/

def redactField (depth : Nat) (field : String × Value) : String × Value :=
  (field.1, if isSensitive field.1 then redactedMark else redactAt (depth + 1) field.2)

theorem redactFields_eq_map (depth : Nat) (fields : List (String × Value)) :
    redactFields depth fields = fields.map (redactField depth) := by
  induction fields with
  | nil => rfl
  | cons field rest ih => rw [redactFields, ih, List.map_cons, redactField]

theorem redactItems_eq_map (depth : Nat) (items : List Value) :
    redactItems depth items = items.map (redactAt (depth + 1)) := by
  induction items with
  | nil => rfl
  | cons item rest ih => rw [redactItems, ih, List.map_cons]

theorem redactAt_of_deep {depth : Nat} (deep : searchDepth < depth) (value : Value) :
    redactAt depth value = value := by
  cases value <;> simp only [redactAt, if_pos deep]

theorem redactAt_record {depth : Nat} (searched : depth ≤ searchDepth)
    (fields : List (String × Value)) :
    redactAt depth (record fields) = record (fields.map (redactField depth)) := by
  rw [redactAt, if_neg (Nat.not_lt.mpr searched), redactFields_eq_map]

theorem redactAt_list {depth : Nat} (searched : depth ≤ searchDepth) (items : List Value) :
    redactAt depth (list items) = list (items.map (redactAt (depth + 1))) := by
  rw [redactAt, if_neg (Nat.not_lt.mpr searched), redactItems_eq_map]

theorem outline_redactAt (depth : Nat) (value : Value) :
    (redactAt depth value).outline = value.outline := by
  by_cases searched : depth ≤ searchDepth
  · cases value with
    | record fields =>
      rw [redactAt_record searched, outline, outline, List.map_map]
      rfl
    | list items => rw [redactAt_list searched, outline, outline, List.length_map]
    | _ => rfl
  · rw [redactAt_of_deep (Nat.lt_of_not_le searched)]

theorem isSensitive_iff {key : String} : isSensitive key = true ↔ Text.lower key ∈ sensitiveKeys :=
  List.contains_iff_mem

/-- A part that is not under a sensitive key is searched in its turn. -/
theorem child?_redactAt {depth : Nat} {value : Value} {i : Nat}
    (plain : ∀ keys key, depth ≤ searchDepth → value.outline = .record keys → keys[i]? = some key →
      Text.lower key ∉ sensitiveKeys) :
    (redactAt depth value).child? i = (value.child? i).map (redactAt (depth + 1)) := by
  by_cases searched : depth ≤ searchDepth
  · cases value with
    | record fields =>
      rw [redactAt_record searched, child?, child?, List.getElem?_map]
      cases found : fields[i]? with
      | none => rfl
      | some field =>
        have bare : ¬ isSensitive field.1 = true := by
          rw [isSensitive_iff]
          exact plain _ field.1 searched rfl (by rw [List.getElem?_map, found]; rfl)
        simp only [Option.map_some, redactField, if_neg bare]
    | list items => rw [redactAt_list searched, child?, child?, List.getElem?_map]
    | _ => rfl
  · have deep := Nat.lt_of_not_le searched
    have same : redactAt (depth + 1) = id :=
      funext (redactAt_of_deep (Nat.lt_succ_of_lt deep))
    rw [redactAt_of_deep deep, same, Option.map_id, id]

/-- A part under a sensitive key is replaced. -/
theorem child?_redactAt_of_sensitive {depth : Nat} {value : Value} {i : Nat} {keys : List String}
    {key : String} (searched : depth ≤ searchDepth) (shown : value.outline = .record keys)
    (found : keys[i]? = some key) (sensitive : Text.lower key ∈ sensitiveKeys) :
    (redactAt depth value).child? i = some redactedMark := by
  obtain ⟨fields, rfl, rfl⟩ := of_outline_record shown
  rw [List.getElem?_map] at found
  obtain ⟨field, held, rfl⟩ := Option.map_eq_some_iff.mp found
  rw [redactAt_record searched, child?, List.getElem?_map, held]
  simp only [Option.map_some, redactField, if_pos (isSensitive_iff.mpr sensitive)]

/-! ## Places -/

/-- A value under a sensitive key, in whatever letter case, of a record at a depth of at most
five. -/
def IsSecret (event : Value) (place : List Nat) : Prop :=
  ∃ around i keys key, place = around ++ [i] ∧ around.length ≤ 5 ∧
    event.outlineAt around = some (.record keys) ∧ keys[i]? = some key ∧
    Text.lower key ∈ sensitiveKeys

/-- Neither the part at a place nor any part around it is secret. -/
def IsShown (event : Value) (place : List Nat) : Prop :=
  ∀ outer, outer <+: place → ¬ IsSecret event outer

/-- A secret value whose record is shown. -/
def IsReplaced (event : Value) (place : List Nat) : Prop :=
  IsSecret event place ∧ IsShown event place.dropLast

/-- Events that agree at every place that the first one shows. -/
def DifferInSecrets (event other : Value) : Prop :=
  ∀ place, IsShown event place → event.outlineAt place = other.outlineAt place

variable {event event' : Value} {place : List Nat}

theorem not_isSecret_nil (event : Value) : ¬ IsSecret event [] := by
  rintro ⟨around, i, _, _, root, _⟩
  exact List.append_ne_nil_of_right_ne_nil around (List.cons_ne_nil i []) root.symm

theorem isSecret_concat {i : Nat} :
    IsSecret event (place ++ [i]) ↔ place.length ≤ 5 ∧ ∃ keys key,
      event.outlineAt place = some (.record keys) ∧ keys[i]? = some key ∧
      Text.lower key ∈ sensitiveKeys := by
  constructor
  · rintro ⟨around, j, keys, key, same, near, shown, found, sensitive⟩
    obtain ⟨rfl, index⟩ := List.append_inj' same rfl
    cases index
    exact ⟨near, keys, key, shown, found, sensitive⟩
  · rintro ⟨near, keys, key, shown, found, sensitive⟩
    exact ⟨place, i, keys, key, rfl, near, shown, found, sensitive⟩

theorem isShown_nil (event : Value) : IsShown event [] := by
  intro outer before
  rw [List.prefix_nil.mp before]
  exact not_isSecret_nil event

theorem isShown_concat {i : Nat} :
    IsShown event (place ++ [i]) ↔ IsShown event place ∧ ¬ IsSecret event (place ++ [i]) := by
  constructor
  · intro shown
    refine ⟨fun outer before => shown outer (before.trans (List.prefix_append place [i])), ?_⟩
    exact shown _ List.prefix_rfl
  · rintro ⟨shown, plain⟩ outer before
    rcases List.prefix_concat_iff.mp before with rfl | inside
    · exact plain
    · exact shown outer inside

theorem isReplaced_concat {i : Nat} :
    IsReplaced event (place ++ [i]) ↔ IsSecret event (place ++ [i]) ∧ IsShown event place := by
  rw [IsReplaced, List.dropLast_concat]

/-- A place is not shown if it is that of a replaced value or inside of one. -/
theorem not_isShown_iff :
    ¬ IsShown event place ↔ ∃ outer, outer <+: place ∧ IsReplaced event outer := by
  constructor
  · intro hidden
    induction place using List.reverseRecOn with
    | nil => exact absurd (isShown_nil event) hidden
    | append_singleton around i ih =>
      by_cases shown : IsShown event around
      · have secret : IsSecret event (around ++ [i]) := by
          by_contra plain
          exact hidden (isShown_concat.mpr ⟨shown, plain⟩)
        exact ⟨_, List.prefix_rfl, isReplaced_concat.mpr ⟨secret, shown⟩⟩
      · obtain ⟨outer, before, replaced⟩ := ih shown
        exact ⟨outer, before.trans (List.prefix_append around [i]), replaced⟩
  · rintro ⟨outer, before, replaced⟩ shown
    exact shown outer before replaced.1

/-! ## What redaction leaves -/

/-- A part that is shown stands in its place, searched from its depth on. -/
theorem partAt_redact (shown : IsShown event place) :
    (redact event).partAt place = (event.partAt place).map (redactAt place.length) := by
  induction place using List.reverseRecOn with
  | nil => rfl
  | append_singleton around i ih =>
    obtain ⟨shownAround, plain⟩ := isShown_concat.mp shown
    rw [partAt_concat, partAt_concat, ih shownAround, List.length_append, List.length_singleton]
    cases found : event.partAt around with
    | none => rfl
    | some holder =>
      refine child?_redactAt fun keys key near record held sensitive => plain ?_
      refine isSecret_concat.mpr ⟨near, keys, key, ?_, held, sensitive⟩
      rw [outlineAt, found, Option.map_some, record]

theorem outlineAt_redact (shown : IsShown event place) :
    (redact event).outlineAt place = event.outlineAt place := by
  rw [outlineAt, outlineAt, partAt_redact shown, Option.map_map]
  exact congrArg (Option.map · _) (funext (outline_redactAt place.length))

theorem partAt_redact_of_replaced (replaced : IsReplaced event place) :
    (redact event).partAt place = some redactedMark := by
  obtain ⟨⟨around, i, keys, key, rfl, near, record, held, sensitive⟩, shown⟩ := replaced
  rw [List.dropLast_concat] at shown
  obtain ⟨holder, found, keyed⟩ := Option.map_eq_some_iff.mp record
  rw [partAt_concat, partAt_redact shown, found]
  exact child?_redactAt_of_sensitive near keyed held sensitive

/-- Nothing stands inside of what was replaced. -/
theorem outlineAt_redact_of_hidden {outer rest : List Nat} (replaced : IsReplaced event outer) :
    (redact event).outlineAt (outer ++ rest) = redactedMark.outlineAt rest := by
  rw [outlineAt, partAt_append, partAt_redact_of_replaced replaced]
  rfl

/-! ## Two events -/

theorem DifferInSecrets.isSecret_iff (alike : DifferInSecrets event event') {i : Nat}
    (shown : IsShown event place) : IsSecret event (place ++ [i]) ↔ IsSecret event' (place ++ [i]) := by
  rw [isSecret_concat, isSecret_concat, alike place shown]

/-- Events that differ in secrets alone show the same places. -/
theorem DifferInSecrets.isShown_iff (alike : DifferInSecrets event event') :
    IsShown event place ↔ IsShown event' place := by
  induction place using List.reverseRecOn with
  | nil => exact ⟨fun _ => isShown_nil event', fun _ => isShown_nil event⟩
  | append_singleton around i ih =>
    rw [isShown_concat, isShown_concat, ← ih]
    exact and_congr_right fun shown => not_congr (alike.isSecret_iff shown)

theorem DifferInSecrets.isReplaced (alike : DifferInSecrets event event')
    (replaced : IsReplaced event place) : IsReplaced event' place := by
  obtain ⟨⟨around, i, keys, key, rfl, near, record, held, sensitive⟩, shown⟩ := replaced
  rw [List.dropLast_concat] at shown
  refine isReplaced_concat.mpr ⟨?_, alike.isShown_iff.mp shown⟩
  exact (alike.isSecret_iff shown).mp ⟨around, i, keys, key, rfl, near, record, held, sensitive⟩

/-- An event and what redaction makes of it differ in secrets alone. -/
theorem differInSecrets_redact (event : Value) : DifferInSecrets event (redact event) :=
  fun _ shown => (outlineAt_redact shown).symm

/-- Redaction makes the same of events that differ in secrets alone. -/
theorem DifferInSecrets.redact_eq (alike : DifferInSecrets event event') :
    redact event = redact event' := by
  refine eq_of_outlineAt fun place => ?_
  by_cases shown : IsShown event place
  · rw [outlineAt_redact shown, alike place shown, outlineAt_redact (alike.isShown_iff.mp shown)]
  · obtain ⟨outer, ⟨rest, rfl⟩, replaced⟩ := not_isShown_iff.mp shown
    rw [outlineAt_redact_of_hidden replaced, outlineAt_redact_of_hidden (alike.isReplaced replaced)]

theorem redact_eq_iff : redact event = redact event' ↔ DifferInSecrets event event' := by
  refine ⟨fun same place shown => ?_, DifferInSecrets.redact_eq⟩
  have shown' : IsShown event' place := by
    rw [(differInSecrets_redact event').isShown_iff, ← same]
    exact (differInSecrets_redact event).isShown_iff.mp shown
  rw [← outlineAt_redact shown, same, outlineAt_redact shown']

/-- Redaction replaces what is secret and nothing else: it cannot tell apart events that differ in
secrets alone, and doing it again changes nothing. -/
theorem secrets_replaced (event : Value) :
    (∀ place, IsReplaced event place → (redact event).partAt place = some redactedMark) ∧
      (∀ place, IsShown event place → (redact event).outlineAt place = event.outlineAt place) ∧
      (∀ place, ¬ IsShown event place ↔ ∃ outer, outer <+: place ∧ IsReplaced event outer) ∧
      (∀ event', redact event = redact event' ↔ DifferInSecrets event event') ∧
      redact (redact event) = redact event :=
  ⟨fun _ => partAt_redact_of_replaced, fun _ => outlineAt_redact, fun _ => not_isShown_iff,
    fun _ => redact_eq_iff, (differInSecrets_redact event).redact_eq.symm⟩

end Log

end ProfilePolicy
