import ProfilePolicy.Api.Form
import ProfilePolicy.Json.Reader
import ProfilePolicy.Proofs.Action
import ProfilePolicy.Proofs.Keyed

/-!
# What request bodies hold

A name that occurs twice in an object of a body counts once, at any depth. So a body never asks for
two lists of values under one attribute name, and the attributes that a change submits hold each
name once.
-/

namespace ProfilePolicy

namespace Value

/-- A value occurs in another one, at some depth. -/
inductive Within : Value → Value → Prop
  | here (value : Value) : Within value value
  | item {value item : Value} {items : List Value} (mem : item ∈ items)
      (inside : Within value item) : Within value (list items)
  | field {value : Value} {field : String × Value} {fields : List (String × Value)}
      (mem : field ∈ fields) (inside : Within value field.2) : Within value (record fields)

/-- Every record in a value holds each name once. -/
def NamesOnce (value : Value) : Prop :=
  ∀ fields, Within (record fields) value → Keyed.Distinct fields

theorem namesOnce_list {items : List Value} (once : ∀ item ∈ items, NamesOnce item) :
    NamesOnce (list items) := by
  intro fields within
  cases within with
  | item mem inside => exact once _ mem fields inside

theorem namesOnce_record {fields : Keyed Value} (distinct : Keyed.Distinct fields)
    (once : ∀ field ∈ fields, NamesOnce field.2) : NamesOnce (record fields) := by
  intro found within
  cases within with
  | here => exact distinct
  | field mem inside => exact once _ mem found inside

theorem NamesOnce.distinct {fields : Keyed Value} (once : NamesOnce (record fields)) :
    Keyed.Distinct fields :=
  once fields (.here _)

theorem NamesOnce.field {fields : Keyed Value} (once : NamesOnce (record fields))
    {field : String × Value} (mem : field ∈ fields) : NamesOnce field.2 :=
  fun found within => once found (.field mem within)

end Value

namespace Json

open Value

/-- Values without items and fields hold no record. -/
theorem namesOnce_of_plain {value : Value} (notList : ∀ items, value ≠ list items)
    (notRecord : ∀ fields, value ≠ record fields) : NamesOnce value := by
  intro fields within
  cases within with
  | here => exact absurd rfl (notRecord fields)
  | item mem inside => exact absurd rfl (notList _)
  | field mem inside => exact absurd rfl (notRecord _)

theorem namesOnce_readNumber {cursor after : Cursor} {value : Value}
    (h : readNumber cursor = .ok (value, after)) : NamesOnce value := by
  rw [readNumber] at h
  dsimp only at h
  split at h
  -- with and without a sign
  all_goals
    split at h
    · cases h
    · split at h
      · split at h
        · cases h
        · cases h
          exact namesOnce_of_plain nofun nofun
      · cases h
        exact namesOnce_of_plain nofun nofun

theorem namesOnce_words {word : List Char × Value} (mem : word ∈ words) : NamesOnce word.2 := by
  simp only [words, List.mem_cons, List.not_mem_nil, or_false] at mem
  rcases mem with rfl | rfl | rfl | rfl | rfl | rfl <;> exact namesOnce_of_plain nofun nofun

/-- What the reader gives with some fuel holds each name once: a value, a list whose items read so
far do, and an object whose fields read so far do. -/
structure ReadsOnce (fuel : Nat) : Prop where
  value : ∀ {room cursor value after}, readValue fuel room cursor = .ok (value, after) →
    NamesOnce value
  items : ∀ {room soFar cursor value after}, (∀ item ∈ soFar, NamesOnce item) →
    readItems fuel room soFar cursor = .ok (value, after) → NamesOnce value
  fields : ∀ {room soFar cursor value after}, Keyed.Distinct soFar →
    (∀ field ∈ soFar, NamesOnce field.2) →
    readFields fuel room soFar cursor = .ok (value, after) → NamesOnce value

theorem readsOnce_zero : ReadsOnce 0 where
  value h := by
    rw [readValue] at h
    cases h
  items _ h := by
    rw [readItems] at h
    cases h
  fields _ _ h := by
    rw [readFields] at h
    cases h

section Steps

variable {fuel room : Nat} {cursor after : Cursor} {value : Value}

theorem ReadsOnce.value_succ (once : ReadsOnce fuel)
    (h : readValue (fuel + 1) room cursor = .ok (value, after)) : NamesOnce value := by
  unfold readValue at h
  dsimp only at h
  split at h
  · obtain ⟨⟨text, cursor'⟩, -, made⟩ := map_eq_ok.mp h
    cases made
    exact namesOnce_of_plain nofun nofun
  · cases h
  · cases h
  · split at h
    · cases h
      exact namesOnce_record Keyed.distinct_nil fun _ mem => absurd mem List.not_mem_nil
    · exact once.fields Keyed.distinct_nil (fun _ mem => absurd mem List.not_mem_nil) h
  · split at h
    · cases h
      exact namesOnce_list fun _ mem => absurd mem List.not_mem_nil
    · exact once.items (fun _ mem => absurd mem List.not_mem_nil) h
  · split at h
    · rename_i word found
      cases h
      exact namesOnce_words (List.mem_of_find?_eq_some found)
    · exact namesOnce_readNumber h

theorem ReadsOnce.items_succ (once : ReadsOnce fuel) {soFar : List Value}
    (earlier : ∀ item ∈ soFar, NamesOnce item)
    (h : readItems (fuel + 1) room soFar cursor = .ok (value, after)) : NamesOnce value := by
  rw [readItems] at h
  split at h
  · cases h
  · rename_i item cursor' read
    have both : ∀ found ∈ item :: soFar, NamesOnce found := by
      intro found mem
      rcases List.mem_cons.mp mem with rfl | held
      · exact once.value read
      · exact earlier found held
    simp only at h
    split at h
    · cases h
      apply namesOnce_list
      intro found mem
      exact both found (List.mem_reverse.mp mem)
    · exact once.items both h
    · cases h

/-- A name that was read before gets the later value, so it is still held once. -/
theorem ReadsOnce.fields_succ (once : ReadsOnce fuel) {soFar : Keyed Value}
    (distinct : Keyed.Distinct soFar) (earlier : ∀ field ∈ soFar, NamesOnce field.2)
    (h : readFields (fuel + 1) room soFar cursor = .ok (value, after)) : NamesOnce value := by
  unfold readFields at h
  split at h
  · split at h
    · cases h
    · rename_i name cursor' _
      dsimp only at h
      split at h
      · split at h
        · cases h
        · rename_i field cursor'' read
          have put : ∀ found ∈ soFar.put name field, NamesOnce found.2 := by
            intro found mem
            rcases Keyed.mem_of_mem_put mem with rfl | held
            · exact once.value read
            · exact earlier found held
          split at h
          · cases h
            exact namesOnce_record (distinct.put name field) put
          · exact once.fields (distinct.put name field) put h
          · cases h
      · cases h
  · cases h

end Steps

theorem readsOnce (fuel : Nat) : ReadsOnce fuel := by
  induction fuel with
  | zero => exact readsOnce_zero
  | succ fuel ih => exact ⟨ih.value_succ, ih.items_succ, ih.fields_succ⟩

theorem namesOnce_read {text : List Char} {value : Value} (h : read text = .ok value) :
    NamesOnce value := by
  rw [read] at h
  dsimp only at h
  split at h
  · cases h
  · rename_i found cursor reading
    split at h
    · cases h
      exact (readsOnce _).value reading
    · cases h

end Json

namespace Api

theorem both_eq_ok {α β : Type} {first : Reading α} {second : Reading β} {pair : α × β} :
    both first second = .ok pair ↔ first = .ok pair.1 ∧ second = .ok pair.2 := by
  obtain ⟨a, b⟩ := pair
  cases first <;> cases second <;> simp [both]

/-- The attributes that are read hold the names of the fields, in their order. -/
theorem names_of_readAttributeFields {location : List String} {fields : List (String × Value)}
    {attributes : List (String × List String)}
    (h : readAttributeFields location fields = .ok attributes) :
    attributes.map (·.1) = fields.map (·.1) := by
  induction fields generalizing attributes with
  | nil =>
    cases h
    rfl
  | cons field rest ih =>
    obtain ⟨pair, read, rfl⟩ := map_eq_ok.mp h
    rw [List.map_cons, List.map_cons, ih (both_eq_ok.mp read).2]

/-- The attributes that are read from a body hold each name once. -/
theorem nodup_of_readAttributes {location : List String} {field : Option Value}
    {attributes : List (String × List String)}
    (once : ∀ value, field = some value → value.NamesOnce)
    (h : readAttributes location field = .ok attributes) :
    (attributes.map (·.1)).Nodup := by
  rw [readAttributes.eq_def] at h
  split at h
  · cases h
    exact List.nodup_nil
  · rename_i fields
    rw [names_of_readAttributeFields h]
    exact (once _ rfl).distinct
  · cases h

theorem once_of_readRecord {body : Value} {fields : Keyed Value} (once : body.NamesOnce)
    (h : readRecord body = .ok fields) (name : String) :
    ∀ value, fields.get? name = some value → value.NamesOnce := by
  intro value found
  cases body with
  | record held =>
    cases h
    exact once.field (Keyed.mem_of_get? found)
  | _ => cases h

/-- A change that is read from a body submits each attribute once. -/
theorem Change.nodup_of_ofValue {body : Value} {change : Change} (once : body.NamesOnce)
    (h : Change.ofValue body = .ok change) : (change.attributes.map (·.1)).Nodup := by
  obtain ⟨fields, isRecord, h⟩ := bind_eq_ok.mp h
  obtain ⟨⟨name, displayName, attributes⟩, read, made⟩ := bind_eq_ok.mp h
  cases made
  have submitted := (both_eq_ok.mp (both_eq_ok.mp read).2).2
  exact nodup_of_readAttributes (once_of_readRecord once isRecord "attributes") submitted

/-- A creation that is read from a body gives each attribute once. -/
theorem Creation.nodup_of_ofValue {body : Value} {creation : Creation} (once : body.NamesOnce)
    (h : Creation.ofValue body = .ok creation) : (creation.attributes.map (·.1)).Nodup := by
  obtain ⟨fields, isRecord, h⟩ := bind_eq_ok.mp h
  obtain ⟨⟨name, displayName, attributes⟩, read, made⟩ := bind_eq_ok.mp h
  cases made
  have given := (both_eq_ok.mp (both_eq_ok.mp read).2).2
  exact nodup_of_readAttributes (once_of_readRecord once isRecord "attributes") given

end Api

end ProfilePolicy
