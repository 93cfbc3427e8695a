import ProfilePolicy.Text.Digits
import ProfilePolicy.Text.Half
import ProfilePolicy.Value

/-!
# Reading JSON

A strict reader of JSON text that reports the position of the first fault: where a value, a property
name, a colon or a comma was expected, at the quote that opens a text without an end, at a control
character inside a text, at the backslash or the `u` of a malformed escape, or at the first
character after the value. The three numbers that are no numerals are understood. A name that occurs
twice in an object keeps its first place and takes its last value. An escape may stand for half of a
pair alone.

Whole numbers of very many digits and values nested very deeply are beyond the reader, which stops
where it meets them.
-/

namespace ProfilePolicy.Json

/-- What is left of a text, with the position at which it begins. -/
structure Cursor where
  position : Nat
  rest : List Char
  deriving Repr, Inhabited

inductive Problem
  | fault (position : Nat)
  | beyondLimits
  deriving DecidableEq, Repr, Inhabited

/-- A reading step: a result and what follows it, or a problem. -/
abbrev Read (α : Type) := Except Problem (α × Cursor)

def Cursor.fault {α : Type} (cursor : Cursor) : Read α :=
  .error (.fault cursor.position)

/-- The most values that may lie around another one. -/
def deepest : Nat := 950

/-- White space between the parts of JSON text. -/
def isSpace (c : Char) : Bool :=
  c == ' ' || c == '\t' || c == '\n' || c == '\r'

def Cursor.skip (cursor : Cursor) (count : Nat) : Cursor :=
  { position := cursor.position + count, rest := cursor.rest.drop count }

def Cursor.skipSpace (cursor : Cursor) : Cursor :=
  cursor.skip (cursor.rest.takeWhile isSpace).length

def Cursor.starts (cursor : Cursor) (text : List Char) : Bool :=
  text.isPrefixOf cursor.rest

/-- The value of exactly four hexadecimal digits that something follows. -/
def fourHex? (cs : List Char) : Option Nat :=
  if (cs.drop 4).isEmpty then none else Text.leadingHex? 4 cs

def escaped? : Char → Option Char
  | '"' => some '"'
  | '\\' => some '\\'
  | '/' => some '/'
  | 'b' => some '\x08'
  | 'f' => some '\x0c'
  | 'n' => some '\n'
  | 'r' => some '\r'
  | 't' => some '\t'
  | _ => none

/-- The piece of a text that is written as an escape of code units, with the number of characters it
takes after the `u`, or the offset of a fault from the `u`. -/
def unitEscape (afterU : List Char) : Except Nat (List Char × Nat) :=
  match fourHex? afterU with
  | none => .error 0
  | some unit =>
    if Text.isHighHalf unit then
      match afterU.drop 4 with
      | '\\' :: 'u' :: second =>
        if (second.drop 4).isEmpty then .ok (Text.pieceAt unit, 4)
        else
          match fourHex? second with
          | none => .error 6
          | some low =>
            if Text.isLowHalf low then
              .ok (Text.pieceAt (Text.pairCode unit low), 10)
            else .ok (Text.pieceAt unit, 4)
      | _ => .ok (Text.pieceAt unit, 4)
    else .ok (Text.pieceAt unit, 4)

/-- Reads a text after its opening quote, which stands at `opening`. -/
def readText (opening : Nat) : Nat → List Char → Cursor → Read String
  | 0, _, _ => .error (.fault opening)
  | fuel + 1, soFar, cursor =>
    match cursor.rest with
    | [] => .error (.fault opening)
    | '"' :: _ => .ok (String.ofList soFar.reverse, cursor.skip 1)
    | '\\' :: 'u' :: afterU =>
      match unitEscape afterU with
      | .error offset => .error (.fault (cursor.position + 1 + offset))
      | .ok (piece, taken) =>
        readText opening fuel (piece.reverse ++ soFar) (cursor.skip (2 + taken))
    | ['\\'] => .error (.fault opening)
    | '\\' :: c :: _ =>
      match escaped? c with
      | none => cursor.fault
      | some c => readText opening fuel (c :: soFar) (cursor.skip 2)
    | c :: _ =>
      if c.toNat < 32 then cursor.fault
      else readText opening fuel (c :: soFar) (cursor.skip 1)

/-- The digits of the whole part: a zero, or digits that begin with none. -/
def wholeDigits (cs : List Char) : List Char :=
  match cs with
  | '0' :: _ => ['0']
  | cs => cs.takeWhile Char.isDigit

def fractionDigits (cs : List Char) : List Char :=
  match cs with
  | '.' :: rest => rest.takeWhile Char.isDigit
  | _ => []

/-- The exponent and the number of characters it takes, if there is one. -/
def exponentPart (cs : List Char) : Option (Int × Nat) :=
  match cs with
  | [] => none
  | e :: rest =>
    if e == 'e' || e == 'E' then
      let (negative, digits, signed) := match rest with
        | '-' :: more => (true, more.takeWhile Char.isDigit, 1)
        | '+' :: more => (false, more.takeWhile Char.isDigit, 1)
        | more => (false, more.takeWhile Char.isDigit, 0)
      if digits.isEmpty then none
      else
        let size : Int := Text.decimalNumber digits
        some (if negative then -size else size, 1 + signed + digits.length)
    else none

/-- Reads a numeral; a whole number stays whole unless a fraction or an exponent follows. -/
def readNumber (cursor : Cursor) : Read Value :=
  let (negative, body) := match cursor.rest with
    | '-' :: rest => (true, rest)
    | rest => (false, rest)
  let whole := wholeDigits body
  if whole.isEmpty then cursor.fault
  else
    let signLength := if negative then 1 else 0
    let afterWhole := body.drop whole.length
    let fraction := fractionDigits afterWhole
    let fractionLength := if fraction.isEmpty then 0 else fraction.length + 1
    let afterFraction := afterWhole.drop fractionLength
    match exponentPart afterFraction, fraction with
    | none, [] =>
      if Text.mostDigits < whole.length then .error .beyondLimits
      else
        let n : Int := Text.decimalNumber whole
        .ok (.int (if negative then -n else n), cursor.skip (signLength + whole.length))
    | exponent, fraction =>
      let (power, length) := exponent.getD (0, 0)
      .ok (.real (Binary64.ofDecimal negative (Text.decimalNumber (whole ++ fraction))
          (power - fraction.length)),
        cursor.skip (signLength + whole.length + fractionLength + length))

/-- Words that stand for values. -/
def words : List (List Char × Value) := [
  ("null".toList, .null),
  ("true".toList, .bool true),
  ("false".toList, .bool false),
  ("NaN".toList, .other "float"),
  ("Infinity".toList, .real (.infinite false)),
  ("-Infinity".toList, .real (.infinite true))]

mutual

/-- Reads a value that begins right at the cursor, and in which there is room for some depth. -/
def readValue : Nat → Nat → Cursor → Read Value
  | 0, _, cursor => cursor.fault
  | fuel + 1, room, cursor =>
    match cursor.rest, room with
    | '"' :: _, _ =>
      (readText cursor.position (cursor.rest.length + 1) [] (cursor.skip 1)).map
        fun (text, cursor) => (.text text, cursor)
    | '\x7b' :: _, 0 | '[' :: _, 0 => .error .beyondLimits
    | '\x7b' :: _, room + 1 =>
      let inside := (cursor.skip 1).skipSpace
      match inside.rest with
      | '\x7d' :: _ => .ok (.record [], inside.skip 1)
      | _ => readFields fuel room [] inside
    | '[' :: _, room + 1 =>
      let inside := (cursor.skip 1).skipSpace
      match inside.rest with
      | ']' :: _ => .ok (.list [], inside.skip 1)
      | _ => readItems fuel room [] inside
    | _, _ =>
      match words.find? fun word => cursor.starts word.1 with
      | some (word, value) => .ok (value, cursor.skip word.length)
      | none => readNumber cursor

/-- Reads the items of an array up to its end; the newest item comes first in `soFar`. -/
def readItems : Nat → Nat → List Value → Cursor → Read Value
  | 0, _, _, cursor => cursor.fault
  | fuel + 1, room, soFar, cursor =>
    match readValue fuel room cursor with
    | .error problem => .error problem
    | .ok (item, cursor) =>
      let cursor := cursor.skipSpace
      match cursor.rest with
      | ']' :: _ => .ok (.list (item :: soFar).reverse, cursor.skip 1)
      | ',' :: _ => readItems fuel room (item :: soFar) (cursor.skip 1).skipSpace
      | _ => cursor.fault

def readFields : Nat → Nat → Keyed Value → Cursor → Read Value
  | 0, _, _, cursor => cursor.fault
  | fuel + 1, room, soFar, cursor =>
    match cursor.rest with
    | '"' :: _ =>
      match readText cursor.position (cursor.rest.length + 1) [] (cursor.skip 1) with
      | .error problem => .error problem
      | .ok (name, cursor) =>
        let cursor := cursor.skipSpace
        match cursor.rest with
        | ':' :: _ =>
          match readValue fuel room (cursor.skip 1).skipSpace with
          | .error problem => .error problem
          | .ok (value, cursor) =>
            let cursor := cursor.skipSpace
            let fields := soFar.put name value
            match cursor.rest with
            | '\x7d' :: _ => .ok (.record fields, cursor.skip 1)
            | ',' :: _ => readFields fuel room fields (cursor.skip 1).skipSpace
            | _ => cursor.fault
        | _ => cursor.fault
    | _ => cursor.fault

end

def Problem.within (text : List Char) : Problem → Problem
  | fault position => fault (Text.codes (text.take position)).length
  | beyondLimits => beyondLimits

/-- The value of JSON text, or its first problem. -/
def read (text : List Char) : Except Problem Value :=
  let cursor : Cursor := { position := 0, rest := text }
  match readValue (2 * text.length + 2) deepest cursor.skipSpace with
  | .error problem => .error (problem.within text)
  | .ok (value, cursor) =>
    let cursor := cursor.skipSpace
    match cursor.rest with
    | [] => .ok value
    | _ => .error (Problem.within text (.fault cursor.position))

end ProfilePolicy.Json
