import ProfilePolicy.Mishap
import ProfilePolicy.Text.Blank
import ProfilePolicy.Text.Digits
import ProfilePolicy.Text.Search

/-!
# Identifiers

An identifier is a number of 128 bits. It has two written forms, thirty-two lower-case hexadecimal
digits and the same digits in five groups joined by dashes. A reader accepts many spellings: the
marks `urn:` and `uuid:` anywhere, braces at the ends, dashes anywhere and letters of either case.
-/

namespace ProfilePolicy

/-- A number of 128 bits. -/
structure Uuid where
  number : Nat
  number_lt : number < Nat.pow 2 128
  deriving DecidableEq, Repr

namespace Uuid

instance : Inhabited Uuid := ⟨⟨0, by decide⟩⟩

/-- The identifier of a number, taken modulo 2 ^ 128. -/
def ofNat (number : Nat) : Uuid :=
  ⟨number % Nat.pow 2 128, Nat.mod_lt _ (by decide)⟩

def digits (id : Uuid) : List Char :=
  Text.hexPadded 32 id.number

/-- The form without dashes. -/
def hex (id : Uuid) : String :=
  String.ofList id.digits

/-- Digits in groups of eight, four, four, four and twelve. -/
def grouped (digits : List Char) : List Char :=
  digits.take 8 ++ '-' :: (digits.drop 8).take 4 ++ '-' :: (digits.drop 12).take 4 ++
    '-' :: (digits.drop 16).take 4 ++ '-' :: digits.drop 20

/-- The form with dashes. -/
def text (id : Uuid) : String :=
  String.ofList (grouped id.digits)

def isBrace (c : Char) : Bool :=
  c == '\x7b' || c == '\x7d'

/-- The digits of a spelling: without marks, without braces at the ends and without dashes. -/
def digitsOf (spelling : List Char) : List Char :=
  let unmarked := Text.removeAll "uuid:".toList (Text.removeAll "urn:".toList spelling)
  (Text.trimChars isBrace unmarked).filter fun c => c != '-'

def ofText (spelling : String) : Except Mishap Uuid :=
  let digits := digitsOf spelling.toList
  if (Text.pieces digits).length != 32 then .error .malformedIdentifier
  else
    match Text.hexNumeral? digits with
    | none => .error (.notNumeral 16 (String.ofList digits))
    | some number =>
      if h : number < Nat.pow 2 128 then .ok ⟨number, h⟩
      else .error (.notNumeral 16 (String.ofList digits))

end Uuid

end ProfilePolicy
