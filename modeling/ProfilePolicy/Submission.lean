import ProfilePolicy.Mishap
import ProfilePolicy.Text.Blank

/-!
# Submitted values

How the value submitted for an attribute becomes a list, and when two lists of values count as the
same. Values may be of any type; looking at one that is no text where a text is needed is a mishap.
The lists a submission is compared by are those of its non-blank texts.
-/

namespace ProfilePolicy

namespace Value

/-- The items of a value: of a list its items, of a record its names, of a text its characters. -/
def items : Value → Except Mishap (List Value)
  | list items => .ok items
  | record fields => .ok (fields.map fun field => text field.1)
  | text value => .ok ((Text.pieces value.toList).map fun piece => text (String.ofList piece))
  | value => .error (.notIterable value.typeName)

/-- Whether a value is missing or a blank text. -/
def blank : Value → Except Mishap Bool
  | null => .ok true
  | text value => .ok (Text.isBlank value)
  | value => .error (.notText value.typeName)

/-- The list a submitted value stands for: none for a missing one, a single text for itself, and
without the missing entries for everything else. -/
def normalized : Value → Except Mishap (List Value)
  | null => .ok []
  | text value => .ok [text value]
  | value => value.items.map fun items => items.filter fun item => !item.isNull

def first : Value → Except Mishap Value
  | list (item :: _) => .ok item
  | text value =>
    match Text.pieces value.toList with
    | [] => .ok null
    | piece :: _ => .ok (text (String.ofList piece))
  | record (_ :: _) => .error (.noElement 0)
  | value => if value.truthy then .error (.notIndexable value.typeName) else .ok null

def length : Value → Except Mishap Nat
  | list items => .ok items.length
  | record fields => .ok fields.length
  | text value => .ok (Text.size value)
  | value => .error (.noLength value.typeName)

/-- Whether a value can be counted; lists and records cannot. -/
def countable : Value → Except Mishap Unit
  | list items => .error (.notCountable (list items).typeName)
  | record fields => .error (.notCountable (record fields).typeName)
  | _ => .ok ()

end Value

/-- The texts of a list that are not blank, in order. -/
def nonBlank : List Value → Except Mishap (List String)
  | [] => .ok []
  | .null :: rest => nonBlank rest
  | .text value :: rest =>
    (nonBlank rest).map fun kept => if Text.isBlank value then kept else value :: kept
  | value :: _ => .error (.notText value.typeName)

/-- The same items with the same multiplicities, in any order. -/
def sameCollection {α : Type} [BEq α] (left right : List α) : Bool :=
  left.length == right.length && left.isPerm right

namespace Value

def allCountable : List Value → Except Mishap Unit
  | [] => .ok ()
  | item :: rest => do
    item.countable
    allCountable rest

/-- How often every item of a value occurs. A record tells this itself: its fields are items with
their counts. -/
def counts : Value → Except Mishap (List (Value × Value))
  | record fields => .ok (fields.map fun field => (text field.1, field.2))
  | value => do
    let items ← value.items
    allCountable items
    pure (items.map fun item => (item, .int (max 1 (items.countP item.same))))

/-- The count of an item; of one that does not occur it is zero. -/
def countOf (counts : List (Value × Value)) (item : Value) : Value :=
  ((counts.find? fun entry => item.same entry.1).map (·.2)).getD (.int 0)

/-- Whether a value tells its counts itself. -/
def isRecord : Value → Bool
  | record _ => true
  | _ => false

/-- Whether two lists hold the same items equally often. Items are only looked at when there are
equally many. -/
def sameListItems (left right : List Value) : Except Mishap Bool :=
  if left.length != right.length then .ok false
  else do
    allCountable left
    allCountable right
    pure (sameCollection left right)

/-- Whether two values hold the same items equally often. Records are compared by their counts. -/
def sameItems (left right : Value) : Except Mishap Bool := do
  let leftLength ← left.length
  let rightLength ← right.length
  if leftLength != rightLength then pure false
  else if left.isRecord || right.isRecord then
    let left ← left.counts
    let right ← right.counts
    pure (left.all (fun entry => entry.2.same (countOf right entry.1)) &&
      right.all (fun entry => (countOf left entry.1).same entry.2))
  else
    let left ← left.items
    let right ← right.items
    sameListItems left right

/-- Whether a submitted first value leaves the stored one as it is. A blank value submitted where
nothing is stored does. -/
def unchanged (existing submitted : Value) : Except Mishap Bool :=
  match existing with
  | null => submitted.blank
  | existing => .ok (existing.same submitted)

/-- Whether submitted values leave the stored ones as they are: the first ones agree, and the
non-blank ones are the same collection. -/
def unchangedValues (existing submitted : Value) : Except Mishap Bool := do
  let firstExisting ← existing.first
  let firstSubmitted ← submitted.first
  if ← firstExisting.unchanged firstSubmitted then
    let kept ← existing.items
    let kept ← nonBlank kept
    let wanted ← submitted.items
    let wanted ← nonBlank wanted
    pure (sameCollection kept wanted)
  else pure false

end Value

end ProfilePolicy
