import ProfilePolicy.Http.Answer
import ProfilePolicy.Text.Half
import ProfilePolicy.Value.Parts

/-!
# Request bodies

What a request to create or to change an organization says. A body is read field by field; every
field that cannot be used is reported with its location, in the order name, display name,
attributes. Fields that mean nothing here are ignored.
-/

namespace ProfilePolicy.Api

open ProfilePolicy.Http

/-- What reading a part of a body gives: something, or the problems that were found. -/
abbrev Reading (α : Type) := Except (List RequestProblem) α

def problem {α : Type} (location : List String) (message : String) : Reading α :=
  .error [{ location, message := .text message }]

/-- Two readings in turn; the problems of both are reported. -/
def both {α β : Type} (first : Reading α) (second : Reading β) : Reading (α × β) :=
  match first, second with
  | .ok a, .ok b => .ok (a, b)
  | .ok _, .error problems => .error problems
  | .error problems, .ok _ => .error problems
  | .error problems, .error others => .error (problems ++ others)

def readText (location : List String) : Value → Reading String
  | .text value => .ok value
  | _ => problem location "Input should be a valid string"

def readOptionalText (location : List String) : Option Value → Reading (Option String)
  | none | some .null => .ok none
  | some value => (readText location value).map some

/-- Texts with the number of the first one. -/
def readTexts (location : List String) (position : Nat) : List Value → Reading (List String)
  | [] => .ok []
  | item :: rest =>
    (both (readText (location ++ [toString position]) item)
      (readTexts location (position + 1) rest)).map fun both => both.1 :: both.2

def readTextList (location : List String) : Value → Reading (List String)
  | .list items => readTexts location 0 items
  | _ => problem location "Input should be a valid list"

def readAttributeFields (location : List String) :
    List (String × Value) → Reading (List (String × List String))
  | [] => .ok []
  | (name, value) :: rest =>
    (both (readTextList (location ++ [Text.withoutHalves name]) value)
      (readAttributeFields location rest)).map
      fun both => (name, both.1) :: both.2

/-- Attributes; none when the field is missing. -/
def readAttributes (location : List String) :
    Option Value → Reading (List (String × List String))
  | none => .ok []
  | some (.record fields) => readAttributeFields location fields
  | some _ => problem location "Input should be a valid dictionary"

def notRecord {α : Type} : Reading α :=
  problem ["body"] "Input should be a valid dictionary or object to extract fields from"

def readRecord : Value → Reading (Keyed Value)
  | .record fields => .ok fields
  | _ => notRecord

/-- The most characters that the name of a new organization may have. -/
def longestName : Nat := 255

/-- The name of a new organization, whose characters must be whole. -/
def readName (location : List String) : Option Value → Reading String
  | none => problem location "Field required"
  | some value =>
    match readText location value with
    | .error problems => .error problems
    | .ok name =>
      if Text.hasHalf name then
        problem location
          "Input should be a valid string, unable to parse raw data as a unicode string"
      else if name.isEmpty then problem location "String should have at least 1 character"
      else if longestName < Text.size name then
        problem location "String should have at most 255 characters"
      else .ok name

structure Creation where
  name : String
  displayName : Option String
  attributes : List (String × List String)
  deriving Repr, Inhabited

def Creation.ofValue (body : Value) : Reading Creation := do
  let fields ← readRecord body
  let (name, displayName, attributes) ←
    both (readName ["body", "name"] (fields.get? "name"))
      (both (readOptionalText ["body", "displayName"] (fields.get? "displayName"))
        (readAttributes ["body", "attributes"] (fields.get? "attributes")))
  pure { name, displayName, attributes }

structure Change where
  name : Option String
  displayName : Option String
  attributes : List (String × List String)
  deriving Repr, Inhabited

def Change.ofValue (body : Value) : Reading Change := do
  let fields ← readRecord body
  let (name, displayName, attributes) ←
    both (readOptionalText ["body", "name"] (fields.get? "name"))
      (both (readOptionalText ["body", "displayName"] (fields.get? "displayName"))
        (readAttributes ["body", "attributes"] (fields.get? "attributes")))
  pure { name, displayName, attributes }

end ProfilePolicy.Api
