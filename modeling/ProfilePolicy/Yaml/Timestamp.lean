import ProfilePolicy.Calendar
import ProfilePolicy.Mishap
import ProfilePolicy.Text.Digits

/-!
# Dates in a YAML text

A year, a month and a day joined by dashes, perhaps with a time of day and a time zone. A date is a
value of which only the type is known, but it has to be one of the calendar.
-/

namespace ProfilePolicy.Yaml

/-- A time of day, and the minutes by which its zone is ahead, if it has one. -/
structure Clock where
  hour : Nat
  minute : Nat
  second : Nat
  offset : Option Int
  deriving DecidableEq, Repr, Inhabited

/-- A date, perhaps with a time of day. -/
structure Timestamp where
  year : Nat
  month : Nat
  day : Nat
  clock : Option Clock
  deriving DecidableEq, Repr, Inhabited

/-! ## Reading -/

/-- The number of as many digits as there are, between two bounds, and what follows. -/
def boundedNumber? (least most : Nat) (cs : List Char) : Option (Nat × List Char) :=
  let digits := (cs.take most).takeWhile Char.isDigit
  if digits.length < least then none
  else some (Text.decimalNumber digits, cs.drop digits.length)

def afterChar? (c : Char) : List Char → Option (List Char)
  | [] => none
  | d :: rest => if d == c then some rest else none

/-- Spaces and tabs. -/
def isPadding (c : Char) : Bool :=
  c == ' ' || c == '\t'

def afterDateMark? : List Char → Option (List Char)
  | [] => none
  | c :: rest =>
    if c == 'T' || c == 't' then some rest
    else if isPadding c then some (rest.dropWhile isPadding)
    else none

def zoneMinutes? (negative : Bool) (cs : List Char) : Option Int := do
  let (hours, rest) ← boundedNumber? 1 2 cs
  let minutes ← match rest with
    | [] => some 0
    | ':' :: rest => do
      let (minutes, rest) ← boundedNumber? 2 2 rest
      if rest.isEmpty then some minutes else none
    | _ => none
  let total : Int := 60 * hours + minutes
  some (if negative then -total else total)

def zone? (cs : List Char) : Option (Option Int) :=
  if cs.isEmpty then some none
  else
    match cs.dropWhile isPadding with
    | ['Z'] => some (some 0)
    | '+' :: rest => (zoneMinutes? false rest).map some
    | '-' :: rest => (zoneMinutes? true rest).map some
    | _ => none

/-- The time of day of a text. A fraction of a second counts for nothing. -/
def Clock.read? (cs : List Char) : Option Clock := do
  let (hour, rest) ← boundedNumber? 1 2 cs
  let rest ← afterChar? ':' rest
  let (minute, rest) ← boundedNumber? 2 2 rest
  let rest ← afterChar? ':' rest
  let (second, rest) ← boundedNumber? 2 2 rest
  let rest := match rest with
    | '.' :: fraction => fraction.dropWhile Char.isDigit
    | rest => rest
  let offset ← zone? rest
  some { hour, minute, second, offset }

def Timestamp.read? (cs : List Char) : Option Timestamp := do
  let (year, rest) ← boundedNumber? 4 4 cs
  let rest ← afterChar? '-' rest
  let (month, rest) ← boundedNumber? 1 2 rest
  let rest ← afterChar? '-' rest
  let (day, rest) ← boundedNumber? 1 2 rest
  if rest.isEmpty then some { year, month, day, clock := none }
  else do
    let rest ← afterDateMark? rest
    let clock ← Clock.read? rest
    some { year, month, day, clock := some clock }

/-- A text of several characters without the line feed at its end. -/
def withoutFinalBreak (cs : List Char) : List Char :=
  if 1 < cs.length && cs.getLast? == some '\n' then cs.dropLast else cs

/-- Whether a text is spelled as a date: without a time of day the month and the day have two digits
each. -/
def isTimestamp (cs : List Char) : Bool :=
  (Timestamp.read? cs).any fun timestamp => timestamp.clock.isSome || cs.length == 10

/-! ## The calendar -/

def Clock.zoneProblem? (clock : Clock) : Option String :=
  clock.offset.bind fun minutes => Calendar.zoneProblem? (60 * minutes * Calendar.secondLength)

def Clock.problem? (clock : Clock) : Option String :=
  Calendar.clockProblem? clock.hour clock.minute clock.second

/-- Why a date with its time of day is none; the time zone is looked at first. -/
def Timestamp.problem? (timestamp : Timestamp) : Option String :=
  (timestamp.clock.bind Clock.zoneProblem?).orElse fun _ =>
    (Calendar.dateProblem? timestamp.year timestamp.month timestamp.day).orElse fun _ =>
      timestamp.clock.bind Clock.problem?

def Timestamp.value (timestamp : Timestamp) : Except Mishap Value :=
  match timestamp.problem? with
  | some reason => .error (.outOfCalendar reason)
  | none =>
    .ok (.other (if timestamp.clock.isSome then "datetime.datetime" else "datetime.date"))

def timestampOf (written : String) : Except Mishap Value :=
  match Timestamp.read? (withoutFinalBreak written.toList) with
  | some timestamp => timestamp.value
  | none => .error (.noOperation "NoneType" "groupdict")

end ProfilePolicy.Yaml
