import ProfilePolicy.Mishap
import ProfilePolicy.Text.Digits
import ProfilePolicy.Text.LetterCase
import ProfilePolicy.Text.Search

/-!
# Numbers in a YAML text

Whether a plain scalar is a whole number, a real number or neither is decided by its spelling. A
whole number is binary after `0b`, hexadecimal after `0x`, octal after `0`, and else decimal,
perhaps with further groups to the base sixty after colons; a real number has a point. Underscores
among the digits count for nothing. A tag may ask for any text to be read as a number, so reading
does not rely on the spelling and can fail.
-/

namespace ProfilePolicy.Yaml

/-! ## Spelling -/

def afterSign : List Char → List Char
  | '+' :: rest => rest
  | '-' :: rest => rest
  | cs => cs

/-- Digits and underscores. -/
def isSpacedDigit (c : Char) : Bool :=
  c.isDigit || c == '_'

/-- A group to the base sixty: one digit, or two of which the first is at most five. -/
def isSixty : List Char → Bool
  | [c] => c.isDigit
  | [c, d] => decide ('0' ≤ c) && decide (c ≤ '5') && d.isDigit
  | _ => false

def isWhole (cs : List Char) : Bool :=
  match afterSign cs with
  | '0' :: 'b' :: rest => !rest.isEmpty && rest.all ['0', '1', '_'].contains
  | '0' :: 'x' :: rest =>
    !rest.isEmpty && rest.all fun c => isSpacedDigit c || ('a' ≤ c ∧ c ≤ 'f') || ('A' ≤ c ∧ c ≤ 'F')
  | '0' :: rest => rest.all fun c => ('0' ≤ c ∧ c ≤ '7') || c == '_'
  | body =>
    match Text.splitAt ':' body with
    | (c :: rest) :: groups => c.isDigit && rest.all isSpacedDigit && groups.all isSixty
    | _ => false

/-- Whether a text can follow the point of a real number: digits, and perhaps an exponent with its
sign. -/
def isFraction (cs : List Char) : Bool :=
  match cs.dropWhile isSpacedDigit with
  | [] => true
  | mark :: sign :: c :: rest =>
    ['e', 'E'].contains mark && ['+', '-'].contains sign && c.isDigit && rest.all Char.isDigit
  | _ => false

/-- Whether a text is spelled as a real number. One that begins with its point has no sign. -/
def isReal (cs : List Char) : Bool :=
  let body := afterSign cs
  match body with
  | '.' :: rest =>
    ["inf".toList, "Inf".toList, "INF".toList].contains rest ||
      (body == cs &&
        (["nan".toList, "NaN".toList, "NAN".toList].contains rest ||
          (rest.head?.any Char.isDigit && isFraction rest)))
  | _ =>
    match Text.splitAt ':' (body.takeWhile (· != '.')), body.dropWhile (· != '.') with
    | (c :: first) :: groups, _ :: fraction =>
      c.isDigit && first.all isSpacedDigit && groups.all isSixty &&
        (if groups.isEmpty then isFraction fraction else fraction.all isSpacedDigit)
    | _, _ => false

/-! ## Whole numbers -/

def dropBaseMark (base : Nat) (cs : List Char) : List Char :=
  match cs with
  | '0' :: mark :: rest =>
    if (base == 2 && ['b', 'B'].contains mark) || (base == 8 && ['o', 'O'].contains mark) ||
        (base == 16 && ['x', 'X'].contains mark) then rest
    else cs
  | _ => cs

def digitTo? (base : Nat) (c : Char) : Option Nat :=
  (Text.hexValue? c).filter (· < base)

def leadingDigits (cs : List Char) : Nat :=
  (cs.takeWhile fun c => (Text.digitValue? c).isSome).length

/-- The number of digits to a base. White space around them, a sign and the mark of the base may be
there. There is a limit to the number of decimal digits. -/
def numeral (base : Nat) (cs : List Char) : Except Mishap Int :=
  let body := (Text.trimChars Text.isNumeralSpace cs).map Text.plainDigit
  let digits := dropBaseMark base (afterSign body)
  let count := leadingDigits digits
  match digits.mapM (digitTo? base) with
  | none | some [] =>
    if base == 10 && decide (Text.mostDigits < count) then .error (.tooManyDigits count)
    else .error (.notNumeral base (String.ofList cs))
  | some values =>
    let number : Int := (values.foldl (fun number digit => base * number + digit) 0 : Nat)
    if base == 10 && decide (Text.mostDigits < count) then .error (.tooManyDigits count)
    else .ok (if body.head? == some '-' then -number else number)

def magnitude (cs : List Char) : Except Mishap Int :=
  match cs with
  | [] => .error .noCharacter
  | ['0'] => .ok 0
  | '0' :: 'b' :: digits => numeral 2 digits
  | '0' :: 'x' :: digits => numeral 16 digits
  | '0' :: _ => numeral 8 cs
  | _ => do
    let groups ← (Text.splitAt ':' cs).mapM (numeral 10)
    pure (groups.foldl (fun number group => 60 * number + group) 0)

/-- A text without underscores, as its sign and what follows. -/
def signedBody (cs : List Char) : Except Mishap (Bool × List Char) :=
  let cs := cs.filter (· != '_')
  match cs with
  | [] => .error .noCharacter
  | c :: _ => .ok (c == '-', afterSign cs)

def wholeNumber (written : String) : Except Mishap Int := do
  let (negative, body) ← signedBody written.toList
  let number ← magnitude body
  pure (if negative then -number else number)

/-! ## Real numbers -/

/-- The number of decimal digits, of which there may be none. -/
def decimalDigits? (cs : List Char) : Option Nat := do
  let values ← cs.mapM Text.digitValue?
  some (values.foldl (fun number digit => 10 * number + digit) 0)

/-- The exponent of ten after its mark; an empty text stands for zero. -/
def exponentOf? (cs : List Char) : Option Int :=
  match cs with
  | [] => some 0
  | mark :: rest =>
    let digits := afterSign rest
    if mark != 'e' || digits.isEmpty then none
    else do
      let size ← decimalDigits? digits
      some (if rest.head? == some '-' then -(size : Int) else size)

def decimal? (negative : Bool) (cs : List Char) : Option Binary64 :=
  let isDigit (c : Char) := (Text.digitValue? c).isSome
  let whole := cs.takeWhile isDigit
  let rest := cs.dropWhile isDigit
  let fraction := if rest.head? == some '.' then rest.tail.takeWhile isDigit else []
  let rest := if rest.head? == some '.' then rest.tail.dropWhile isDigit else rest
  if whole.isEmpty && fraction.isEmpty then none
  else do
    let exponent ← exponentOf? rest
    let digits ← decimalDigits? (whole ++ fraction)
    some (.ofDecimal negative digits (exponent - fraction.length))

/-- The real number of a text; the undefined one is none. -/
def realPart (cs : List Char) : Except Mishap (Option Binary64) :=
  let body := Text.trimChars Text.isNumeralSpace cs
  let negative := body.head? == some '-'
  let body := afterSign body
  if body == "inf".toList || body == "infinity".toList then .ok (some (.infinite negative))
  else if body == "nan".toList then .ok none
  else
    match decimal? negative body with
    | some number => .ok (some number)
    | none => .error (.notReal (String.ofList cs))

/-- A number as a fraction, if it is finite. -/
def fractionOf? : Binary64 → Option (Int × Nat)
  | .finite negative significand exponent =>
    let (num, den) := Binary64.scaleDown significand 1 (-exponent)
    some (if negative then -(num : Int) else num, den)
  | .infinite _ => none

/-- The sum of groups to the base sixty. -/
def sixtyfold (groups : List (Int × Nat)) : Int × Nat :=
  groups.foldl (fun total group =>
    (60 * total.1 * group.2 + group.1 * total.2, total.2 * group.2)) (0, 1)

/-- The most groups to the base sixty whose weights are near to real numbers. -/
def mostGroups : Nat := 174

def nearest (negative : Bool) (fraction : Int × Nat) : Binary64 :=
  if fraction.1 == 0 then .ofDecimal negative 0 0
  else .ofFraction (negative != decide (fraction.1 < 0)) fraction.1.natAbs fraction.2

/-- The real number of a text, whatever the case of its letters. An undefined number is known by its
type only. -/
def realNumber (written : String) : Except Mishap Value := do
  let (negative, body) ← signedBody (Text.lower written).toList
  if body == ".inf".toList then pure (.real (.infinite negative))
  else if body == ".nan".toList then pure (.other "float")
  else
    match Text.splitAt ':' body with
    | [part] =>
      let number ← realPart part
      pure <| match number with
        | some (.finite sign significand exponent) =>
          .real (.finite (negative != sign) significand exponent)
        | some (.infinite sign) => .real (.infinite (negative != sign))
        | none => .other "float"
    | parts =>
      let numbers ← parts.mapM realPart
      if mostGroups < parts.length then .error .tooLarge
      else
        pure <| match (numbers.mapM id).bind (·.mapM fractionOf?) with
          | some groups => .real (nearest negative (sixtyfold groups))
          | none => .other "float"

end ProfilePolicy.Yaml
