import ProfilePolicy.Keyed
import ProfilePolicy.Number.Binary64
import ProfilePolicy.Text.Quoted

/-!
# Values of unknown type

Submitted attribute values, configuration settings, error parameters and log fields arrive without a
type: any of them may be a text, a number, a list or a record. This module holds the type of such
values, their equality, and the two texts in which messages show them. Numbers are equal when they
denote the same quantity, and the truth values count as one and zero.
-/

namespace ProfilePolicy

/-- A value whose type is known only when it is looked at. `other` is a value of a type that has no
operations here, such as a calendar date; only the name of its type is kept. -/
inductive Value
  | null
  | bool (value : Bool)
  | int (value : Int)
  | real (value : Binary64)
  | text (value : String)
  | list (items : List Value)
  | record (fields : List (String × Value))
  | other (type : String)
  deriving Repr, Inhabited

namespace Value

/-- The type of the number that is none. It equals nothing, not even itself. -/
def undefinedNumber : String := "float"

def typeName : Value → String
  | null => "NoneType"
  | bool _ => "bool"
  | int _ => "int"
  | real _ => "float"
  | text _ => "str"
  | list _ => "list"
  | record _ => "dict"
  | other type => type

def ofText? : Option String → Value
  | none => null
  | some s => text s

def ofTexts (texts : List String) : Value :=
  list (texts.map text)

def text? : Value → Option String
  | text s => some s
  | _ => none

def isNull : Value → Bool
  | null => true
  | _ => false

/-- Whether a value counts as true: numbers other than zero and everything that is not empty. -/
def truthy : Value → Bool
  | null => false
  | bool value => value
  | int value => value != 0
  | real value => !value.isZero
  | text value => value != ""
  | list items => !items.isEmpty
  | record fields => !fields.isEmpty
  | other _ => true

/-- A number as an integer or a binary one; the truth values are one and zero. -/
def number? : Value → Option (Int ⊕ Binary64)
  | bool value => some (.inl (if value then 1 else 0))
  | int value => some (.inl value)
  | real value => some (.inr value)
  | _ => none

def sameNumber : Int ⊕ Binary64 → Int ⊕ Binary64 → Bool
  | .inl m, .inl n => m == n
  | .inl m, .inr y => y.isInt m
  | .inr x, .inl n => x.isInt n
  | .inr x, .inr y => x.same y

def atLeast (bound : Nat) : Int ⊕ Binary64 → Bool
  | .inl n => decide ((bound : Int) ≤ n)
  | .inr (.infinite negative) => !negative
  | .inr (.finite negative significand exponent) =>
    let (num, den) := Binary64.scaleDown significand 1 (-exponent)
    bound == 0 && num == 0 || !negative && decide (bound * den ≤ num)

mutual

/-- Equality of values. Records are equal when they hold equal values under the same names, in
whatever order. -/
def same : Value → Value → Bool
  | null, null => true
  | text s, text t => s == t
  | list xs, list ys => sameList xs ys
  | record xs, record ys => xs.length == ys.length && sameFields xs ys
  | bool b, y => sameAsNumber (.inl (if b then 1 else 0)) y
  | int n, y => sameAsNumber (.inl n) y
  | real x, y => sameAsNumber (.inr x) y
  | other s, other t => s == t && s != undefinedNumber
  | _, _ => false

def sameList : List Value → List Value → Bool
  | [], [] => true
  | x :: xs, y :: ys => same x y && sameList xs ys
  | _, _ => false

def sameFields : List (String × Value) → List (String × Value) → Bool
  | [], _ => true
  | (name, x) :: xs, ys =>
    (match List.lookup name ys with
      | some y => same x y
      | none => false) && sameFields xs ys

def sameAsNumber (x : Int ⊕ Binary64) (y : Value) : Bool :=
  match y.number? with
  | some y => sameNumber x y
  | none => false

end

instance : BEq Value := ⟨same⟩

def joined (separator : String) : List String → String
  | [] => ""
  | [piece] => piece
  | piece :: rest => piece ++ separator ++ joined separator rest

mutual

/-- A value as messages quote it: texts in quotes, lists in brackets, records in braces. -/
def quoted : Value → String
  | null => "None"
  | bool value => if value then "True" else "False"
  | int value => toString value
  | real value => value.text
  | text value => Text.quoted value
  | list items => "[" ++ joined ", " (quotedItems items) ++ "]"
  | record fields => "\x7b" ++ joined ", " (quotedFields fields) ++ "\x7d"
  | other type => type

def quotedItems : List Value → List String
  | [] => []
  | item :: rest => quoted item :: quotedItems rest

def quotedFields : List (String × Value) → List String
  | [] => []
  | (name, value) :: rest => (Text.quoted name ++ ": " ++ quoted value) :: quotedFields rest

end

/-- A value as plain text: a text as it is, everything else as messages quote it. -/
def plain : Value → String
  | text value => value
  | value => quoted value

end Value

end ProfilePolicy
