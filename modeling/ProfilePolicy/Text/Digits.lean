import ProfilePolicy.Text.Blank
import ProfilePolicy.Text.Search

/-!
# Digits and numerals

Digits of every script count as digits: each script's ten digits are consecutive, so a table of the
zeros is enough. A numeral may be surrounded by white space, signed, and group its digits with
single underscores. A hexadecimal one has no minus sign and may carry the mark `0x`, the zero of
which may be that of any script.
-/

namespace ProfilePolicy.Text

/-- The code points of the digit zero in the scripts beyond ASCII. -/
def foreignZeros : List Nat := [
  1632, 1776, 1984, 2406, 2534, 2662, 2790, 2918, 3046, 3174, 3302, 3430, 3558, 3664, 3792, 3872,
  4160, 4240, 6112, 6160, 6470, 6608, 6784, 6800, 6992, 7088, 7232, 7248, 42528, 43216, 43264,
  43472, 43504, 43600, 44016, 65296, 66720, 68912, 69734, 69872, 69942, 70096, 70384, 70736,
  70864, 71248, 71360, 71472, 71904, 72016, 72784, 73040, 73120, 92768, 92864, 93008, 120782,
  120792, 120802, 120812, 120822, 123200, 123632, 125264, 130032
]

/-- The value of a decimal digit of any script. -/
def digitValue? (c : Char) : Option Nat :=
  if '0' ≤ c ∧ c ≤ '9' then some (c.toNat - 48)
  else
    let script? := foreignZeros.find? fun first =>
      decide (first ≤ c.toNat) && decide (c.toNat < first + 10)
    script?.map (c.toNat - ·)

/-- The ASCII digit of the same value, where a character is a decimal digit; else the character. -/
def plainDigit (c : Char) : Char :=
  match digitValue? c with
  | some value => Char.ofNat (48 + value)
  | none => c

/-- The value of a hexadecimal digit; the letters are ASCII, the decimal digits of any script. -/
def hexValue? (c : Char) : Option Nat :=
  if 'a' ≤ c ∧ c ≤ 'f' then some (c.toNat - 87)
  else if 'A' ≤ c ∧ c ≤ 'F' then some (c.toNat - 55)
  else digitValue? c

def decimalNumber (digits : List Char) : Nat :=
  digits.foldl (fun number c => 10 * number + (c.toNat - 48)) 0

/-- The most decimal digits that a whole number is read from. -/
def mostDigits : Nat := 4300

def isHexDigit (c : Char) : Bool :=
  decide (c.toNat < 128) && (hexValue? c).isSome

def hexNumber (digits : List Char) : Nat :=
  digits.foldl (fun number c => 16 * number + (hexValue? c).getD 0) 0

/-- The number of as many ASCII hexadecimal digits as asked for, at the beginning of a text. -/
def leadingHex? (width : Nat) (cs : List Char) : Option Nat :=
  let digits := cs.take width
  if digits.length == width && digits.all isHexDigit then some (hexNumber digits) else none

/-- White space around a numeral: the ASCII blanks and every blank beyond ASCII. -/
def isNumeralSpace (c : Char) : Bool :=
  c == ' ' || (decide (9 ≤ c.toNat) && decide (c.toNat ≤ 13)) ||
    (decide (127 ≤ c.toNat) && isBlankChar c)

/-- The number a decimal numeral denotes, or nothing when the text is no numeral or a long one. -/
def decimalNumeral? (cs : List Char) : Option Int :=
  let body := (trimChars isNumeralSpace cs).map plainDigit
  let groups := splitAt '_' (match body with
    | '+' :: rest | '-' :: rest => rest
    | cs => cs)
  let digits := groups.flatten
  if groups.all (!·.isEmpty) && digits.all Char.isDigit && decide (digits.length ≤ mostDigits) then
    let number : Int := decimalNumber digits
    some (if body.head? == some '-' then -number else number)
  else none

/-- Reads digits joined by single underscores, and returns their value with what follows them. -/
def hexDigits (value : Nat) : List Char → Option (Nat × List Char)
  | [] => some (value, [])
  | '_' :: c :: rest =>
    match hexValue? c with
    | some d => hexDigits (16 * value + d) rest
    | none => none
  | c :: rest =>
    match hexValue? c with
    | some d => hexDigits (16 * value + d) rest
    | none => if c == '_' then none else some (value, c :: rest)

/-- The mark `0x`, after which one underscore may stand. -/
def dropHexMark : List Char → List Char
  | '0' :: 'x' :: '_' :: rest => rest
  | '0' :: 'X' :: '_' :: rest => rest
  | '0' :: 'x' :: rest => rest
  | '0' :: 'X' :: rest => rest
  | cs => cs

/-- The number a hexadecimal numeral denotes, or nothing when the text is no numeral. -/
def hexNumeral? (cs : List Char) : Option Nat :=
  let cs := (cs.dropWhile isNumeralSpace).map plainDigit
  let cs := match cs with
    | '+' :: rest => rest
    | cs => cs
  match dropHexMark cs with
  | [] => none
  | c :: rest =>
    match hexValue? c with
    | none => none
    | some d =>
      match hexDigits d rest with
      | some (value, rest) => if rest.all isNumeralSpace then some value else none
      | none => none

end ProfilePolicy.Text
