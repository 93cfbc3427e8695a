import ProfilePolicy.Text.Half
import ProfilePolicy.Text.LetterCase

/-!
# Read-only name patterns

A pattern is an attribute name, or the beginning of one followed by a star. A list of patterns is
compiled into one matcher: an alternative per pattern, each a sequence of letters that ends, when
the pattern ends in a star, in a place where any characters may stand. A name matches when one
alternative covers the whole of it, letters being compared without regard to case.

Where alternatives differ in their last letter only, that place holds a choice of letters. In a
choice, a letter beyond the first plane stands for itself alone and for the capitals whose small
letter it is, so that a capital of those planes matches nothing there.

The matcher has a text of its own, which log records show: the alternatives are joined by bars, a
letter that has a meaning there is preceded by a backslash, and the open end is written as a dot and
a star.
-/

namespace ProfilePolicy

/-- A place of an alternative. -/
inductive Atom
  /-- One character, up to letter case. -/
  | letter (c : Char)
  /-- One character of a choice. -/
  | choice (c : Char)
  /-- Any characters, or none. -/
  | anything
  deriving DecidableEq, Repr, Inhabited

structure Pattern where
  alternatives : List (List Atom)
  deriving DecidableEq, Repr, Inhabited

namespace Pattern

/-- A list and everything that is left of it after dropping characters from its front. -/
def suffixes : List Char → List (List Char)
  | [] => [[]]
  | c :: rest => (c :: rest) :: suffixes rest

def meetsChoice (c d : Char) : Bool :=
  if c.toNat < 0x10000 then Text.sameLetter c d else Text.lowerChar d == c

def covers : List Atom → List Char → Bool
  | [], cs => cs.isEmpty
  | .letter c :: atoms, cs =>
    match cs with
    | [] => false
    | d :: rest => Text.sameLetter c d && covers atoms rest
  | .choice c :: atoms, cs =>
    match cs with
    | [] => false
    | d :: rest => meetsChoice c d && covers atoms rest
  | .anything :: atoms, cs => (suffixes cs).any (covers atoms)

/-- The places of one pattern. A star counts only as the last character. -/
def atoms (pattern : List Char) : List Atom :=
  if pattern.getLast? == some '*' then pattern.dropLast.map .letter ++ [.anything]
  else pattern.map .letter

/-- Whether patterns without a star differ in their last letter, and in nothing else. -/
def areChoice : List (List (List Char)) → Bool
  | [] => false
  | first :: rest =>
    (first :: rest).all (fun pattern => pattern.getLast?.any (· != ['*']) &&
      pattern.dropLast == first.dropLast) && rest.any (· != first)

/-- The places of a pattern that is one of a choice. -/
def choiceAtoms (pattern : List Char) : List Atom :=
  match (Text.pieces pattern).getLast? with
  | some [c] => pattern.dropLast.map .letter ++ [.choice c]
  | _ => pattern.map .letter

/-- The matcher of a list of patterns; an empty list has none. -/
def compile : List String → Option Pattern
  | [] => none
  | patterns =>
    let patterns := patterns.map String.toList
    let isChoice := areChoice (patterns.map Text.pieces)
    some { alternatives := patterns.map (if isChoice then choiceAtoms else atoms) }

def fullMatch (pattern : Pattern) (name : String) : Bool :=
  pattern.alternatives.any fun alternative => covers alternative name.toList

/-- Characters that are preceded by a backslash in the text of a matcher. -/
def marked : List Char :=
  ['(', ')', '[', ']', '\x7b', '\x7d', '?', '*', '+', '-', '|', '^', '$', '\\', '.', '&', '~',
    '#', ' ', '\t', '\n', '\r', '\x0b', '\x0c']

def writeAtom : Atom → List Char
  | .letter c | .choice c => if marked.contains c then ['\\', c] else [c]
  | .anything => ['.', '*']

def write : List (List Atom) → List Char
  | [] => []
  | [alternative] => alternative.flatMap writeAtom
  | alternative :: rest => alternative.flatMap writeAtom ++ '|' :: write rest

def text (pattern : Pattern) : String :=
  String.ofList (write pattern.alternatives)

end Pattern

end ProfilePolicy
