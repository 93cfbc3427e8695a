/-!
# Numbers with a binary point

A real number as double precision keeps it: a significand below 2^53 times a power of two. Reading a
decimal numeral rounds to the nearest such number, a half to the even significand. Writing one uses
the fewest decimal digits that read back, and of two candidates the nearer, or the even one when
both are as near.
-/

namespace ProfilePolicy

/-- A double-precision number other than an undefined one. -/
inductive Binary64
  | finite (negative : Bool) (significand : Nat) (exponent : Int)
  | infinite (negative : Bool)
  deriving DecidableEq, Repr, Inhabited

namespace Binary64

/-- The quotient nearest to `num / den`; a half goes to the even one. -/
def roundDiv (num den : Nat) : Nat :=
  let quotient := num / den
  let twice := 2 * (num % den)
  if twice < den then quotient
  else if den < twice then quotient + 1
  else quotient + quotient % 2

/-- `num / den` times two to the power `-shift`, as a fraction. -/
def scaleDown (num den : Nat) (shift : Int) : Nat × Nat :=
  match shift with
  | .ofNat up => (num, den * Nat.pow 2 up)
  | .negSucc down => (num * Nat.pow 2 (down + 1), den)

/-- The number nearest to the positive fraction `num / den`. -/
def ofFraction (negative : Bool) (num den : Nat) : Binary64 :=
  let guess : Int := (Nat.log2 num : Int) - (Nat.log2 den : Int)
  let (n, d) := scaleDown num den guess
  let top := if n < d then guess - 1 else guess
  let exponent := max (top - 52) (-1074)
  let (n, d) := scaleDown num den exponent
  let significand := roundDiv n d
  if significand = Nat.pow 2 53 then
    if exponent + 1 > 971 then infinite negative else finite negative (Nat.pow 2 52) (exponent + 1)
  else if exponent > 971 then infinite negative
  else finite negative significand exponent

def digitCount (n : Nat) : Nat :=
  (Nat.toDigits 10 n).length

/-- The number nearest to `digits * 10 ^ exponent`. -/
def ofDecimal (negative : Bool) (digits : Nat) (exponent : Int) : Binary64 :=
  let size : Int := digitCount digits
  if digits = 0 then finite negative 0 (-1074)
  else if exponent + size > 310 then infinite negative
  else if exponent + size < -330 then finite negative 0 (-1074)
  else
    match exponent with
    | .ofNat up => ofFraction negative (digits * Nat.pow 10 up) 1
    | .negSucc down => ofFraction negative digits (Nat.pow 10 (down + 1))

def isInt (x : Binary64) (n : Int) : Bool :=
  match x with
  | infinite _ => false
  | finite negative significand exponent =>
    let magnitude : Nat := n.natAbs
    let sameSign := significand = 0 || (negative = (n < 0))
    let (num, den) := scaleDown significand 1 (-exponent)
    sameSign && num == magnitude * den

/-- Whether a number is below `2 ^ bits` and above its negative. -/
def isWithin (x : Binary64) (bits : Nat) : Bool :=
  match x with
  | infinite _ => false
  | finite _ significand exponent =>
    let (num, den) := scaleDown significand 1 (-exponent)
    decide (num < Nat.pow 2 bits * den)

/-- Equality of numbers; zero has one value. -/
def same : Binary64 → Binary64 → Bool
  | finite s m e, finite t n f => (m == 0 && n == 0) || (s == t && m == n && e == f)
  | infinite s, infinite t => s == t
  | _, _ => false

def isZero : Binary64 → Bool
  | finite _ significand _ => significand == 0
  | infinite _ => false

def double : Binary64 → Binary64
  | finite s 0 e => finite s 0 e
  | finite s m e =>
    if m < Nat.pow 2 52 then
      if 2 * m < Nat.pow 2 53 then finite s (2 * m) e else finite s m (e + 1)
    else if e + 1 > 971 then infinite s
    else finite s m (e + 1)
  | infinite s => infinite s

/-- The point of the grid of `10 ^ place` nearest to `significand * 2 ^ exponent`, of those inside
the interval of reals that round to that number, as its multiple; a tie goes to the even one. The
fraction `value / den` is four times the number, and the interval has the ends `low / den` and
`high / den`. -/
def gridPoint? (closed : Bool) (value low high den : Nat) (place : Int) : Option Nat :=
  let (v, l, h, d) := match place with
    | .ofNat up => (value, low, high, den * Nat.pow 10 up)
    | .negSucc down =>
      let scale := Nat.pow 10 (down + 1)
      (value * scale, low * scale, high * scale, den)
  let floor := v / d
  let inside (c : Nat) : Bool :=
    if closed then decide (l ≤ c * d) && decide (c * d ≤ h)
    else decide (l < c * d) && decide (c * d < h)
  match inside floor, inside (floor + 1) with
  | true, true => some (roundDiv v d)
  | true, false => some floor
  | false, true => some (floor + 1)
  | false, false => none

/-- The power of ten at or below the positive fraction `num / den`. -/
def decimalTop (num den : Nat) : Int :=
  if den ≤ num then (digitCount (num / den) : Int) - 1
  else
    let places := digitCount (den / num) - 1
    if den ≤ num * Nat.pow 10 places then -(places : Int) else -(places + 1 : Int)

/-- Removes trailing zeros from a positive multiple, raising its place. -/
def dropZeros (fuel : Nat) (multiple : Nat) (place : Int) : Nat × Int :=
  match fuel with
  | 0 => (multiple, place)
  | fuel + 1 =>
    if multiple % 10 = 0 && multiple ≠ 0 then dropZeros fuel (multiple / 10) (place + 1)
    else (multiple, place)

/-- The fewest digits that read back as `significand * 2 ^ exponent`, with the power of ten of the
last one. -/
def shortest (significand : Nat) (exponent : Int) : Nat × Int :=
  let gap := if significand = Nat.pow 2 52 && exponent > -1074 then 1 else 2
  let (value, low, high, den) := match exponent with
    | .ofNat up =>
      let scale := Nat.pow 2 up
      (4 * significand * scale, (4 * significand - gap) * scale, (4 * significand + 2) * scale, 4)
    | .negSucc down =>
      (4 * significand, 4 * significand - gap, 4 * significand + 2, 4 * Nat.pow 2 (down + 1))
  let top := decimalTop value den
  let closed := significand % 2 == 0
  let found := (List.range 17).findSome? fun n : Nat =>
    (gridPoint? closed value low high den (top - n)).map (·, top - n)
  match found with
  | some (multiple, place) => dropZeros 20 multiple place
  | none => (value / den, 0)

/-- How decimal text is laid out: exponents from `leastPositional` up to but not including
`firstScientific` are written positionally. -/
structure Layout where
  leastPositional : Int
  firstScientific : Int

/-- Numbers from 0.0001 up to 10^16 are written positionally. -/
def layout : Layout := ⟨-4, 16⟩

/-- At least two digits of an exponent, with its sign. -/
def exponentText (e : Int) : String :=
  let sign := if e < 0 then "-" else "+"
  let digits := toString e.natAbs
  sign ++ (if digits.length < 2 then "0" ++ digits else digits)

/-- Decimal digits with the point at its place; a whole number keeps one zero after the point. -/
def positional (digits : List Char) (point : Int) : List Char :=
  match point with
  | .ofNat 0 => '0' :: '.' :: digits
  | .ofNat places =>
    if digits.length ≤ places then
      digits ++ List.replicate (places - digits.length) '0' ++ ['.', '0']
    else digits.take places ++ '.' :: digits.drop places
  | .negSucc zeros => '0' :: '.' :: (List.replicate (zeros + 1) '0' ++ digits)

def text : Binary64 → String
  | infinite negative => if negative then "-inf" else "inf"
  | finite negative 0 _ => if negative then "-0.0" else "0.0"
  | finite negative significand exponent =>
    let (multiple, place) := shortest significand exponent
    let digits := Nat.toDigits 10 multiple
    let point : Int := digits.length + place
    let top := point - 1
    let body :=
      if layout.leastPositional ≤ top ∧ top < layout.firstScientific then
        String.ofList (positional digits point)
      else
        let fraction := match digits.drop 1 with
          | [] => []
          | rest => '.' :: rest
        String.ofList (digits.take 1 ++ fraction) ++ "e" ++ exponentText top
    if negative then "-" ++ body else body

end Binary64

end ProfilePolicy
