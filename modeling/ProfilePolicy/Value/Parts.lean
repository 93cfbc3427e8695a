import ProfilePolicy.Keyed
import ProfilePolicy.Value

/-!
# Parts of values

Looking into a value whose shape is expected but not certain. What is not of the expected shape
counts as empty, and a field that a record does not have counts as missing.
-/

namespace ProfilePolicy.Value

/-- The fields of a record; of anything else none. -/
def entries : Value → Keyed Value
  | record fields => fields
  | _ => []

/-- The items of a list; of anything else none. -/
def elements : Value → List Value
  | list items => items
  | _ => []

def part? (value : Value) (name : String) : Option Value :=
  value.entries.get? name

/-- A field of a record; one that is missing is null. -/
def part (value : Value) (name : String) : Value :=
  (value.part? name).getD null

/-- A text; anything else counts as the empty one. -/
def textOrEmpty (value : Value) : String :=
  value.text?.getD ""

def textPart (value : Value) (name : String) : String :=
  (value.part name).textOrEmpty

def texts (value : Value) : List String :=
  value.elements.map textOrEmpty

def textParts (value : Value) (name : String) : List String :=
  (value.part name).texts

def parts (value : Value) (name : String) : List Value :=
  (value.part name).elements

def flag (value : Value) (name : String) : Bool :=
  (value.part name).truthy

/-- A number that is not negative; anything else counts as zero. -/
def natural : Value → Nat
  | int n => n.toNat
  | _ => 0

def pair? : Value → Option (String × Value)
  | list [text name, item] => some (name, item)
  | _ => none

def pairs (value : Value) : List (String × Value) :=
  value.elements.filterMap pair?

mutual

/-- A value with every text in it changed; the names of fields stay. -/
def mapTexts (change : String → String) : Value → Value
  | text value => text (change value)
  | list items => list (mapItemTexts change items)
  | record fields => record (mapFieldTexts change fields)
  | value => value

def mapItemTexts (change : String → String) : List Value → List Value
  | [] => []
  | item :: rest => mapTexts change item :: mapItemTexts change rest

def mapFieldTexts (change : String → String) : List (String × Value) → List (String × Value)
  | [] => []
  | (name, value) :: rest => (name, mapTexts change value) :: mapFieldTexts change rest

end

mutual

/-- Whether any text in a value, or any name of a field, has a property. -/
def anyText (property : String → Bool) : Value → Bool
  | text value => property value
  | list items => anyItemText property items
  | record fields => anyFieldText property fields
  | _ => false

def anyItemText (property : String → Bool) : List Value → Bool
  | [] => false
  | item :: rest => anyText property item || anyItemText property rest

def anyFieldText (property : String → Bool) : List (String × Value) → Bool
  | [] => false
  | (name, value) :: rest =>
    property name || anyText property value || anyFieldText property rest

end

end ProfilePolicy.Value
