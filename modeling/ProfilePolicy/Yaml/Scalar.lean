import ProfilePolicy.Text.Digits
import ProfilePolicy.Text.Half
import ProfilePolicy.Yaml.Cursor
import ProfilePolicy.Yaml.Problem

/-!
# The text of scalars

How the four kinds of scalars are read: plain ones, those between single or double quotes, and
blocks. A line break inside a scalar becomes a space, unless blank lines follow it, which are kept
instead; a literal block keeps all of its breaks. Between double quotes a character may be written
by its number, and a number that is none of a character is a problem of its own.
-/

namespace ProfilePolicy.Yaml

/-- A folded line break before the breaks of blank lines. -/
def folded (lineBreak breaks : List Char) : List Char :=
  if lineBreak != ['\n'] then lineBreak ++ breaks
  else if breaks.isEmpty then [' ']
  else breaks

/-! ## Plain scalars -/

/-- Characters that end a plain scalar inside brackets. -/
def isFlowMark (c : Char) : Bool :=
  c == ',' || c == '[' || c == ']' || c == '\x7b' || c == '\x7d'

/-- Whether a colon before a character ends a plain scalar. -/
def colonEnds (inFlow : Bool) (next : Option Char) : Bool :=
  endsWord next || (inFlow && next.any isFlowMark)

/-- The characters of a plain scalar up to a blank or the end of the scalar. -/
def plainWord (inFlow : Bool) : List Char → List Char
  | [] => []
  | c :: rest =>
    if isSpaceOrBreak c || (c == ':' && colonEnds inFlow rest.head?) ||
        (inFlow && (isFlowMark c || c == '?')) then []
    else c :: plainWord inFlow rest

/-- The breaks of blank lines in a plain scalar, whether a mark between documents follows, and what
is left. -/
def plainBreaks : Nat → List Char → Cursor → List Char × Bool × Cursor
  | 0, breaks, cursor => (breaks, false, cursor)
  | fuel + 1, breaks, cursor =>
    if cursor.isAt ' ' then plainBreaks fuel breaks cursor.step
    else
      match cursor.takeBreak with
      | ([], _) => (breaks, false, cursor)
      | (lineBreak, cursor) =>
        if cursor.atSeparator then (breaks, true, cursor)
        else plainBreaks fuel (breaks ++ lineBreak) cursor

/-- What stands between two words of a plain scalar, whether a line ended there, and what is left.
Nothing stands there at the end of the scalar. -/
def plainSpaces (cursor : Cursor) : List Char × Bool × Cursor :=
  let (spaces, cursor) := cursor.spanWhile (· == ' ')
  match cursor.takeBreak with
  | ([], _) => (spaces, false, cursor)
  | (lineBreak, cursor) =>
    if cursor.atSeparator then ([], true, cursor)
    else
      match plainBreaks cursor.fuel [] cursor with
      | (_, true, cursor) => ([], true, cursor)
      | (breaks, false, cursor) => (folded lineBreak breaks, true, cursor)

/-- The words of a plain scalar, whether a line ended after the last one, and what is left. -/
def plainWords (inFlow : Bool) (indent : Int) :
    Nat → List Char → List Char → Bool → Cursor → List Char × Bool × Cursor
  | 0, text, _, crossed, cursor => (text, crossed, cursor)
  | fuel + 1, text, spaces, crossed, cursor =>
    let word := plainWord inFlow cursor.rest
    if cursor.isAt '#' || word.isEmpty then (text, crossed, cursor)
    else
      let text := text ++ spaces ++ word
      let (spaces, crossed, cursor) := plainSpaces (cursor.skip word.length)
      if spaces.isEmpty || cursor.isAt '#' || (!inFlow && (cursor.column : Int) < indent) then
        (text, crossed, cursor)
      else plainWords inFlow indent fuel text spaces crossed cursor

/-- A plain scalar whose further lines are indented. -/
def plainScalar (inFlow : Bool) (indent : Int) (cursor : Cursor) : List Char × Bool × Cursor :=
  plainWords inFlow indent cursor.fuel [] [] false cursor

/-! ## Quoted scalars -/

def escaped? : Char → Option Char
  | '0' => some '\x00'
  | 'a' => some '\x07'
  | 'b' => some '\x08'
  | 't' => some '\t'
  | '\t' => some '\t'
  | 'n' => some '\n'
  | 'v' => some '\x0b'
  | 'f' => some '\x0c'
  | 'r' => some '\r'
  | 'e' => some '\x1b'
  | ' ' => some ' '
  | '"' => some '"'
  | '\\' => some '\\'
  | '/' => some '/'
  | 'N' => some '\u0085'
  | '_' => some '\u00a0'
  | 'L' => some '\u2028'
  | 'P' => some '\u2029'
  | _ => none

def escapeWidth? : Char → Option Nat
  | 'x' => some 2
  | 'u' => some 4
  | 'U' => some 8
  | _ => none

def quotedBreaks : Nat → List Char → Cursor → Checked (List Char × Cursor)
  | 0, _, _ => malformed
  | fuel + 1, breaks, cursor =>
    if cursor.atSeparator then malformed
    else
      let cursor := cursor.skipWhile fun c => c == ' ' || c == '\t'
      match cursor.takeBreak with
      | ([], _) => .ok (breaks, cursor)
      | (lineBreak, cursor) => quotedBreaks fuel (breaks ++ lineBreak) cursor

def numbered (code : Nat) : Checked (List Char) :=
  if code < 0x110000 then .ok (Text.pieceAt code)
  else .error (.mishap (.noCharacterAt code))

def quotedEscape (cursor : Cursor) : Checked (List Char × Cursor) := do
  let c ← orMalformed cursor.peek
  match escaped? c, escapeWidth? c with
  | some character, _ => pure ([character], cursor.step)
  | none, some width =>
    let code ← orMalformed (Text.leadingHex? width cursor.step.rest)
    let piece ← numbered code
    pure (piece, cursor.step.skip width)
  | none, none =>
    match cursor.takeBreak with
    | ([], _) => malformed
    | (_, cursor) => quotedBreaks cursor.fuel [] cursor

/-- The characters between quotes up to a blank or the closing quote. -/
def quotedWord (isDouble : Bool) : Nat → List Char → Cursor → Checked (List Char × Cursor)
  | 0, _, _ => malformed
  | fuel + 1, text, cursor =>
    match cursor.peek with
    | none => .ok (text, cursor)
    | some c =>
      if isSpaceOrBreak c then .ok (text, cursor)
      else if c == '\'' && !isDouble then
        if cursor.peekAt 1 == some '\'' then
          quotedWord isDouble fuel (text ++ ['\'']) (cursor.skip 2)
        else .ok (text, cursor)
      else if c == '"' && isDouble then .ok (text, cursor)
      else if c == '\\' && isDouble then do
        let (piece, cursor) ← quotedEscape cursor.step
        quotedWord isDouble fuel (text ++ piece) cursor
      else quotedWord isDouble fuel (text ++ [c]) cursor.step

/-- What stands between two words between quotes. -/
def quotedSpaces (cursor : Cursor) : Checked (List Char × Cursor) := do
  let (spaces, cursor) := cursor.spanWhile fun c => c == ' ' || c == '\t'
  if cursor.peek.isNone then malformed
  else
    match cursor.takeBreak with
    | ([], _) => pure (spaces, cursor)
    | (lineBreak, cursor) =>
      let (breaks, cursor) ← quotedBreaks cursor.fuel [] cursor
      pure (folded lineBreak breaks, cursor)

/-- The text between quotes after its first word, up to the closing quote. -/
def quotedRest (isDouble : Bool) (quote : Char) :
    Nat → List Char → Cursor → Checked (List Char × Cursor)
  | 0, _, _ => malformed
  | fuel + 1, text, cursor =>
    if cursor.isAt quote then .ok (text, cursor.step)
    else do
      let (spaces, cursor) ← quotedSpaces cursor
      let (word, cursor) ← quotedWord isDouble cursor.fuel [] cursor
      quotedRest isDouble quote fuel (text ++ spaces ++ word) cursor

def quotedScalar (isDouble : Bool) (cursor : Cursor) : Checked (List Char × Cursor) := do
  let quote := if isDouble then '"' else '\''
  let (word, cursor) ← quotedWord isDouble cursor.fuel [] cursor.step
  quotedRest isDouble quote cursor.fuel word cursor

/-! ## Block scalars -/

inductive Chomping
  /-- One break is kept. -/
  | clip
  /-- No break is kept. -/
  | strip
  /-- All breaks are kept. -/
  | keep
  deriving DecidableEq, Repr, Inhabited

def chompingOf? : Option Char → Option Chomping
  | some '+' => some .keep
  | some '-' => some .strip
  | _ => none

/-- A digit of a block's header: its indentation, which is not zero. -/
def indentationOf? (c : Option Char) : Option Nat :=
  match c with
  | some c => if '0' ≤ c ∧ c ≤ '9' then some (c.toNat - 48) else none
  | none => none

/-- The header of a block: chomping and indentation in either order. -/
def blockHeader (cursor : Cursor) : Option (Chomping × Option Nat × Cursor) := do
  let (chomping, increment, cursor) :=
    match chompingOf? cursor.peek with
    | some chomping =>
      match indentationOf? (cursor.peekAt 1) with
      | some increment => (chomping, some increment, cursor.skip 2)
      | none => (chomping, none, cursor.step)
    | none =>
      match indentationOf? cursor.peek with
      | some increment =>
        match chompingOf? (cursor.peekAt 1) with
        | some chomping => (chomping, some increment, cursor.skip 2)
        | none => (.clip, some increment, cursor.step)
      | none => (.clip, none, cursor)
  if increment == some 0 then none
  else if endsPart cursor.peek then some (chomping, increment, cursor)
  else none

/-- The rest of a line that may hold a comment only. -/
def ignoredLine (cursor : Cursor) : Option Cursor :=
  let cursor := cursor.skipSpaces
  let cursor := if cursor.isAt '#' then cursor.skipWhile fun c => !isBreak c else cursor
  if endsLine cursor.peek then some cursor.takeBreak.2 else none

/-- The breaks before the first line of a block, and the deepest indentation seen on the way. -/
def blockIndentation : Nat → List Char → Nat → Cursor → List Char × Nat × Cursor
  | 0, breaks, deepest, cursor => (breaks, deepest, cursor)
  | fuel + 1, breaks, deepest, cursor =>
    if cursor.isAt ' ' then
      let cursor := cursor.step
      blockIndentation fuel breaks (max deepest cursor.column) cursor
    else
      match cursor.takeBreak with
      | ([], _) => (breaks, deepest, cursor)
      | (lineBreak, cursor) => blockIndentation fuel (breaks ++ lineBreak) deepest cursor

def skipIndent (indent : Nat) : Nat → Cursor → Cursor
  | 0, cursor => cursor
  | fuel + 1, cursor =>
    if decide (cursor.column < indent) && cursor.isAt ' ' then skipIndent indent fuel cursor.step
    else cursor

/-- The breaks of blank lines in a block, up to the next line that holds something. -/
def blockBreaks (indent : Nat) : Nat → List Char → Cursor → List Char × Cursor
  | 0, breaks, cursor => (breaks, cursor)
  | fuel + 1, breaks, cursor =>
    let cursor := skipIndent indent cursor.fuel cursor
    match cursor.takeBreak with
    | ([], _) => (breaks, cursor)
    | (lineBreak, cursor) => blockBreaks indent fuel (breaks ++ lineBreak) cursor

/-- The lines of a block with the breaks that end it: the text, the last break, the breaks of blank
lines after it, and what is left. -/
def blockLines (isFolded : Bool) (indent : Nat) :
    Nat → List Char → List Char → List Char → Cursor → List Char × List Char × List Char × Cursor
  | 0, text, lineBreak, breaks, cursor => (text, lineBreak, breaks, cursor)
  | fuel + 1, text, lineBreak, breaks, cursor =>
    if cursor.column != indent || cursor.peek.isNone then (text, lineBreak, breaks, cursor)
    else
      let startsWide := cursor.isAt ' ' || cursor.isAt '\t'
      let (line, cursor) := cursor.spanWhile fun c => !isBreak c
      let text := text ++ breaks ++ line
      let (lineBreak, cursor) := cursor.takeBreak
      let (breaks, cursor) := blockBreaks indent cursor.fuel [] cursor
      if cursor.column == indent && cursor.peek.isSome then
        let nextWide := cursor.isAt ' ' || cursor.isAt '\t'
        let joint :=
          if isFolded && lineBreak == ['\n'] && !startsWide && !nextWide then
            (if breaks.isEmpty then [' '] else [])
          else lineBreak
        blockLines isFolded indent fuel (text ++ joint) lineBreak breaks cursor
      else (text, lineBreak, breaks, cursor)

def blockScalar (isFolded : Bool) (indent : Int) (cursor : Cursor) :
    Option (List Char × Cursor) := do
  let (chomping, increment, cursor) ← blockHeader cursor.step
  let cursor ← ignoredLine cursor
  let least := (max (indent + 1) 1).toNat
  let (breaks, indent, cursor) := match increment with
    | none =>
      let (breaks, deepest, cursor) := blockIndentation cursor.fuel [] 0 cursor
      (breaks, max least deepest, cursor)
    | some increment =>
      let indent := least + increment - 1
      let (breaks, cursor) := blockBreaks indent cursor.fuel [] cursor
      (breaks, indent, cursor)
  let (text, lineBreak, breaks, cursor) :=
    blockLines isFolded indent cursor.fuel [] [] breaks cursor
  match chomping with
  | .strip => some (text, cursor)
  | .clip => some (text ++ lineBreak, cursor)
  | .keep => some (text ++ lineBreak ++ breaks, cursor)

end ProfilePolicy.Yaml
