import ProfilePolicy.Calendar
import ProfilePolicy.Mishap
import ProfilePolicy.Text.Digits

/-!
# Moments

A moment is a date with a time of day and perhaps a time zone. It is written with dashes, a `T` and
colons; microseconds and the seconds of the zone are left out where they are zero.

Many spellings are read: the date with dashes or without, or by its week; then, after one character
of any kind, hours, minutes and seconds as far as they are given, with colons or without; then a
fraction of a second, of which six digits count; then a zone, which is a `Z` or hours and so on
after a sign. What follows the digits of a fraction or the last number before a zone is passed over.
-/

namespace ProfilePolicy.Calendar

structure Moment where
  year : Nat
  month : Nat
  day : Nat
  hour : Nat := 0
  minute : Nat := 0
  second : Nat := 0
  microsecond : Nat := 0
  /-- The microseconds by which the time zone is ahead. -/
  offset : Option Int := none
  deriving DecidableEq, Repr, Inhabited

namespace Moment

/-! ## Writing -/

/-- The last decimal digits of a number, leading zeros included. -/
def padded (width n : Nat) : String :=
  let digits := Nat.toDigits 10 n
  String.ofList (List.replicate (width - digits.length) '0' ++ digits)

/-- A fraction of a second, unless it is zero. -/
def fractionText (microseconds : Nat) : String :=
  if microseconds == 0 then "" else "." ++ padded 6 microseconds

def zoneText (offset : Int) : String :=
  let seconds := offset.natAbs / secondLength
  let left := offset.natAbs % secondLength
  (if offset < 0 then "-" else "+") ++ padded 2 (seconds / 3600) ++ ":" ++
    padded 2 (seconds / 60 % 60) ++
    (if seconds % 60 == 0 && left == 0 then "" else ":" ++ padded 2 (seconds % 60)) ++
    fractionText left

def text (moment : Moment) : String :=
  padded 4 moment.year ++ "-" ++ padded 2 moment.month ++ "-" ++ padded 2 moment.day ++ "T" ++
    padded 2 moment.hour ++ ":" ++ padded 2 moment.minute ++ ":" ++ padded 2 moment.second ++
    fractionText moment.microsecond ++ (moment.offset.map zoneText).getD ""

/-! ## Reading -/

/-- The character of no width at the end of a text. -/
def ending : Char := '\x00'

/-- The number of so many digits at the beginning of a text, and what follows them. -/
def digits? (count : Nat) (cs : List Char) : Option (Nat × List Char) :=
  if (cs.take count).length == count && (cs.take count).all Char.isDigit then
    some (Text.decimalNumber (cs.take count), cs.drop count)
  else none

def afterDash? : List Char → Option (List Char)
  | '-' :: rest => some rest
  | _ => none

/-- A date, the dashes of which are all there or all missing. -/
def readDate? (cs : List Char) : Option (Nat × Nat × Nat) := do
  let (year, rest) ← digits? 4 cs
  let dashed := rest.head? == some '-'
  let next (cs : List Char) := if dashed then afterDash? cs else some cs
  let rest ← next rest
  match rest with
  | 'W' :: rest => do
    let (week, rest) ← digits? 2 rest
    let (day, _) ← if rest.isEmpty then some (1, []) else do digits? 1 (← next rest)
    dateOfWeek? year week day
  | rest => do
    let (month, rest) ← digits? 2 rest
    let (day, _) ← digits? 2 (← next rest)
    some (year, month, day)

/-- The number of characters of the date at the beginning of a text. -/
def dateLength (cs : List Char) : Nat :=
  let at? (place : Nat) := (cs.drop place).head?
  let digits := (cs.drop 7).takeWhile Char.isDigit
  if cs.length == 7 then 7
  else if at? 4 == some '-' then
    if at? 5 == some 'W' && (at? 8 != some '-' || (at? 10).any Char.isDigit) then 8 else 10
  else if at? 4 == some 'W' then
    if digits.length < 2 then 7 + digits.length
    else if digits.length % 2 == 1 then 7
    else 8
  else 8

/-- A time of day, and whether something follows it that does not belong to it. -/
structure Clock where
  /-- The hour, the minute and the second, as far as they are given. -/
  parts : List Nat
  microsecond : Nat := 0
  goesOn : Bool := false

def Clock.part (clock : Clock) (place : Nat) : Nat :=
  clock.parts.getD place 0

def readFraction? (next : Char) (cs : List Char) : Option (Nat × Bool) := do
  let count := min cs.length 6
  let (number, rest) ← digits? count cs
  let rest := rest.dropWhile Char.isDigit
  some (number * Nat.pow 10 (6 - count), rest.headD next != ending)

/-- Whether no more than a single character is left, and that an ASCII one. -/
def isLast : List Char → Bool
  | [] => true
  | [c] => decide (c.toNat < 128)
  | _ => false

/-- The further parts of a time of day, with a fraction behind them. A character of the text or the
one after it follows each. -/
def readParts? (next : Char) (colons : Option Bool) : Nat → List Nat → List Char → Option Clock
  | 0, parts, cs => do
    let (microsecond, goesOn) ← readFraction? next cs
    some { parts, microsecond, goesOn }
  | count + 1, parts, cs => do
    let (number, rest) ← digits? 2 cs
    let parts := parts ++ [number]
    let mark := rest.headD next
    let colons := colons.getD (mark == ':')
    if isLast rest then some { parts, goesOn := mark != ending }
    else if mark == '.' || mark == ',' then readParts? next (some colons) 0 parts (rest.drop 1)
    else if colons then
      if mark == ':' then readParts? next (some colons) count parts (rest.drop 1) else none
    else readParts? next (some colons) count parts rest

/-- A time of day in a text, before some other character. -/
def readClock? (next : Char) (cs : List Char) : Option Clock :=
  readParts? next none 3 [] cs

def beginsZone (c : Char) : Bool :=
  c == '+' || c == '-' || c == 'Z'

/-- The microseconds of a time zone behind its sign. One without seconds has no fraction. -/
def readOffset? (negative : Bool) (cs : List Char) : Option Int := do
  let clock ← readClock? ending cs
  let seconds := 3600 * clock.part 0 + 60 * clock.part 1 + clock.part 2
  let size : Int := if seconds == 0 then 0 else seconds * secondLength + clock.microsecond
  if clock.goesOn then none else some (if negative then -size else size)

def readTime? (cs : List Char) : Option (Clock × Option Int) := do
  let zone := cs.dropWhile (!beginsZone ·)
  let clock ← readClock? (zone.headD ending) (cs.takeWhile (!beginsZone ·))
  match zone with
  | [] => if clock.goesOn then none else some (clock, none)
  | 'Z' :: rest => if rest.headD ending == ending then some (clock, some 0) else none
  | sign :: rest => do
    let offset ← readOffset? (sign == '-') rest
    some (clock, some offset)

/-- The moment of a text, whether the calendar has it or not. -/
def read? (cs : List Char) : Option Moment := do
  let length := dateLength cs
  let (year, month, day) ← if cs.length < 7 then none else readDate? (cs.take length)
  match cs.drop length with
  | [] => some { year, month, day }
  | _ :: time => do
    let (clock, offset) ← readTime? time
    some {
      year, month, day, offset
      hour := clock.part 0
      minute := clock.part 1
      second := clock.part 2
      microsecond := clock.microsecond }

/-- Why a moment is none of the calendar; the time zone is looked at first. -/
def problem? (moment : Moment) : Option String :=
  (moment.offset.bind zoneProblem?).orElse fun _ =>
    (dateProblem? moment.year moment.month moment.day).orElse fun _ =>
      clockProblem? moment.hour moment.minute moment.second

def ofText (written : String) : Except Mishap Moment :=
  match read? written.toList with
  | none => .error (.notMoment written)
  | some moment =>
    match moment.problem? with
    | some reason => .error (.outOfCalendar reason)
    | none => .ok moment

/-- The moment of a value, which must be a text. -/
def ofValue : Value → Except Mishap Moment
  | .text written => ofText written
  | _ => .error .momentNotText

end Moment

end ProfilePolicy.Calendar
