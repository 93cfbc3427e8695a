/-!
# Places in a YAML text

A cursor knows what is left of a text and where that begins: the number of characters before it, its
line and its column. A byte order mark takes up no column.
-/

namespace ProfilePolicy.Yaml

def isBreak (c : Char) : Bool :=
  c == '\n' || c == '\r' || c == '\u0085' || c == '\u2028' || c == '\u2029'

def isSpaceOrBreak (c : Char) : Bool :=
  c == ' ' || c == '\t' || isBreak c

def endsLine : Option Char → Bool
  | none => true
  | some c => isBreak c

def endsWord : Option Char → Bool
  | none => true
  | some c => isSpaceOrBreak c

def endsPart : Option Char → Bool
  | none => true
  | some c => c == ' ' || isBreak c

/-- What is left of a text, and where it begins. -/
structure Cursor where
  index : Nat := 0
  line : Nat := 0
  column : Nat := 0
  rest : List Char
  deriving Repr, Inhabited

namespace Cursor

def peek (cursor : Cursor) : Option Char :=
  cursor.rest.head?

def peekAt (cursor : Cursor) (offset : Nat) : Option Char :=
  (cursor.rest.drop offset).head?

def isAt (cursor : Cursor) (c : Char) : Bool :=
  cursor.peek == some c

def step (cursor : Cursor) : Cursor :=
  match cursor.rest with
  | [] => cursor
  | c :: rest =>
    if isBreak c && !(c == '\r' && rest.head? == some '\n') then
      { index := cursor.index + 1, line := cursor.line + 1, column := 0, rest }
    else
      { index := cursor.index + 1
        line := cursor.line
        column := if c == '\uFEFF' then cursor.column else cursor.column + 1
        rest }

def skip (cursor : Cursor) : Nat → Cursor
  | 0 => cursor
  | count + 1 => cursor.step.skip count

/-- The characters up to the first that fails a test, and what follows them. -/
def spanWhile (cursor : Cursor) (test : Char → Bool) : List Char × Cursor :=
  let taken := cursor.rest.takeWhile test
  (taken, cursor.skip taken.length)

def skipWhile (cursor : Cursor) (test : Char → Bool) : Cursor :=
  (cursor.spanWhile test).2

def skipSpaces (cursor : Cursor) : Cursor :=
  cursor.skipWhile (· == ' ')

/-- The end of a line as it counts in a scalar, and what follows it; nothing when no line ends. -/
def takeBreak (cursor : Cursor) : List Char × Cursor :=
  match cursor.rest with
  | '\r' :: '\n' :: _ => (['\n'], cursor.skip 2)
  | c :: _ =>
    if c == '\u2028' || c == '\u2029' then ([c], cursor.step)
    else if isBreak c then (['\n'], cursor.step)
    else ([], cursor)
  | [] => ([], cursor)

def startsWord (cursor : Cursor) (word : List Char) : Bool :=
  word.isPrefixOf cursor.rest && endsWord (cursor.peekAt word.length)

/-- Whether a mark between documents comes next. -/
def atSeparator (cursor : Cursor) : Bool :=
  cursor.startsWord ['-', '-', '-'] || cursor.startsWord ['.', '.', '.']

def fuel (cursor : Cursor) : Nat :=
  cursor.rest.length + 1

end Cursor

end ProfilePolicy.Yaml
