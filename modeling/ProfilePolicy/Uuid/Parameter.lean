import ProfilePolicy.Text.Utf8
import ProfilePolicy.Uuid

/-!
# Identifiers in paths

The spellings of an identifier that a path may hold: thirty-two hexadecimal digits; five groups of
them joined by dashes; and the groups between braces or after the mark `urn:uuid:`. Anything else is
refused with the first reason that applies: a spelling too long to be any of these, a character that
belongs to no spelling, a wrong number of digits or groups, or a group of the wrong length. Lengths
and places are counted in bytes, from the beginning of the spelling; where the length of the whole
is right, from that of the groups.
-/

namespace ProfilePolicy.Uuid

inductive SpellingProblem
  | character (c : Char) (index : Nat)
  | length (found : Nat)
  | groupCount (found : Nat)
  | groupLength (group found : Nat)
  deriving DecidableEq, Repr, Inhabited

def groupLengths : List Nat := [8, 4, 4, 4, 12]

def SpellingProblem.message : SpellingProblem → String
  | character c index =>
    "invalid character: found \x60" ++ String.ofList (Text.pieceAt c.toNat) ++ "\x60 at " ++
      toString index
  | length found => "invalid length: found " ++ toString found
  | groupCount found => "invalid group count: expected 5, found " ++ toString found
  | groupLength group found =>
    "invalid group length in group " ++ toString group ++ ": expected " ++
      toString (groupLengths.getD group 0) ++ ", found " ++ toString found

def byteCount (spelling : List Char) : Nat :=
  (Text.utf8Bytes spelling).length

/-- The first character that is neither a digit nor a dash, with its place. -/
def firstForeign (index : Nat) : List Char → Option (Char × Nat)
  | [] => none
  | c :: rest =>
    if Text.isHexDigit c || c == '-' then firstForeign (index + c.utf8Size) rest
    else some (c, index)

/-- The first group whose length is wrong, with that length. -/
def firstWrongGroup (group : Nat) : List (List Char) → List Nat → Option (Nat × Nat)
  | digits :: rest, expected :: lengths =>
    if digits.length == expected then firstWrongGroup (group + 1) rest lengths
    else some (group, digits.length)
  | _, _ => none

/-- The mark that may stand before the groups. -/
def pathMark : List Char := "urn:uuid:".toList

structure Spelling where
  /-- The digits and dashes. -/
  body : List Char
  /-- The number of bytes before the body, as far as places count them. -/
  offset : Nat := 0
  /-- Whether braces or the mark call for groups. -/
  grouped : Bool := false
  /-- The number of bytes that a length speaks of. -/
  size : Nat

/-- The number of bytes of five groups joined by dashes. -/
def groupedSize : Nat := 36

/-- A spelling that has braces or the mark around its body. One of just the length that five groups
need is the body alone from there on. -/
def Spelling.within (around offset : Nat) (spelling body : List Char) : Spelling :=
  if byteCount spelling == groupedSize + around then { body, size := groupedSize }
  else { body, offset, grouped := true, size := byteCount spelling }

/-- Takes a spelling apart. One of the length of five groups has neither braces nor mark. -/
def Spelling.ofChars (spelling : List Char) : Spelling :=
  let plain : Spelling := { body := spelling, size := byteCount spelling }
  if byteCount spelling == groupedSize then plain
  else
    match spelling with
    | '\x7b' :: rest =>
      if rest.getLast? == some '\x7d' then .within 2 1 spelling rest.dropLast else plain
    | spelling =>
      if pathMark.isPrefixOf spelling then
        .within pathMark.length pathMark.length spelling (spelling.drop pathMark.length)
      else plain

/-- The number of bytes of the longest spelling: the mark with the groups after it. -/
def longestSpelling : Nat := 45

def parameterDigits (chars : List Char) : Except SpellingProblem (List Char) :=
  let spelling := Spelling.ofChars chars
  if longestSpelling < byteCount chars then .error (.length (byteCount chars))
  else
    match firstForeign spelling.offset spelling.body with
    | some (c, index) => .error (.character c index)
    | none =>
      let groups := Text.splitAt '-' spelling.body
      if groups.length == 1 && !spelling.grouped then
        if spelling.size == 32 then .ok spelling.body else .error (.length spelling.size)
      else if groups.length != 5 then .error (.groupCount groups.length)
      else
        match firstWrongGroup 0 groups groupLengths with
        | some (4, _) => .error (.groupLength 4 (spelling.size - 24))
        | some (group, found) => .error (.groupLength group found)
        | none => .ok groups.flatten

def ofParameter (spelling : String) : Except SpellingProblem Uuid :=
  (parameterDigits (Text.charsOf spelling)).map fun digits => Uuid.ofNat (Text.hexNumber digits)

end ProfilePolicy.Uuid
