import ProfilePolicy.Text.Half
import ProfilePolicy.Text.Utf8

/-!
# How JSON text is encoded

JSON text arrives as bytes in one of five encodings. Its first characters are ASCII, so the zeros
among its first four bytes tell which one: none for units of one byte, one in every two for units of
two bytes, three in every four for units of four bytes. Two bytes alone are told apart by the one
that is zero. Halves of pairs that stand alone are kept.
-/

namespace ProfilePolicy.Json

/-- An encoding; the greater byte of a unit comes first or last. -/
inductive Encoding
  | bytes
  | pairs (greaterFirst : Bool)
  | quadruples (greaterFirst : Bool)
  deriving DecidableEq, Repr, Inhabited

def Encoding.ofBytes : List Nat → Encoding
  | [0, _] => .pairs true
  | [_, 0] => .pairs false
  | 0 :: 0 :: _ :: _ :: _ => .quadruples true
  | 0 :: _ :: _ :: _ :: _ => .pairs true
  | _ :: 0 :: 0 :: 0 :: _ => .quadruples false
  | _ :: 0 :: _ :: _ :: _ => .pairs false
  | _ => .bytes

/-- The number of bytes, the greatest first. -/
def unitOf (bytes : List Nat) : Nat :=
  bytes.foldl (fun number byte => 256 * number + byte) 0

/-- Bytes in the order that makes the greatest first. -/
def greatestFirst (greaterFirst : Bool) (bytes : List Nat) : List Nat :=
  if greaterFirst then bytes else bytes.reverse

/-- The units of two bytes, if the bytes come out even. -/
def pairUnits? (greaterFirst : Bool) : List Nat → Option (List Nat)
  | [] => some []
  | [_] => none
  | a :: b :: rest =>
    (pairUnits? greaterFirst rest).map (unitOf (greatestFirst greaterFirst [a, b]) :: ·)

/-- The units of four bytes, if the bytes come out even. -/
def quadrupleUnits? (greaterFirst : Bool) : List Nat → Option (List Nat)
  | [] => some []
  | a :: b :: c :: d :: rest =>
    (quadrupleUnits? greaterFirst rest).map (unitOf (greatestFirst greaterFirst [a, b, c, d]) :: ·)
  | _ => none

def pairCodes : List Nat → List Nat
  | [] => []
  | [unit] => [unit]
  | unit :: next :: rest =>
    if Text.isHighHalf unit && Text.isLowHalf next then
      Text.pairCode unit next :: pairCodes rest
    else unit :: pairCodes (next :: rest)

/-- The bytes of the mark that may stand in front of a text in units of one byte. -/
def mark : List Nat := [0xEF, 0xBB, 0xBF]

def codes? (bytes : List Nat) : Option (List Nat) :=
  match Encoding.ofBytes bytes with
  | .bytes =>
    (Text.ofUtf8? (if mark.isPrefixOf bytes then bytes.drop mark.length else bytes)).map
      fun cs => cs.map Char.toNat
  | .pairs greaterFirst => (pairUnits? greaterFirst bytes).map pairCodes
  | .quadruples greaterFirst =>
    (quadrupleUnits? greaterFirst bytes).filter fun units =>
      units.all fun unit => decide (unit < 0x110000)

def decoded? (bytes : List Nat) : Option (List Char) :=
  (codes? bytes).map fun codes => codes.flatMap Text.pieceAt

end ProfilePolicy.Json
