import ProfilePolicy.Text.Utf8
import ProfilePolicy.Yaml.Scalar

/-!
# Tokens of a YAML text

A text is cut into tokens from left to right. Outside brackets the indentation opens and closes
collections: a line indented deeper than the collection around it opens one, a line indented less
closes those that are deeper. Whether a piece of text is the key of a mapping is known only when a
colon follows it, so the place of every possible key is remembered, and the colon puts the token for
the key there. A key that is not followed by a colon in time is none; where only a key can stand,
the rules are broken. A problem ends the tokens; those in front of it that do not hang on a possible
key stand firm.
-/

namespace ProfilePolicy.Yaml

inductive Directive
  | version (major : Nat)
  | tag (handle tagPrefix : String)
  | other
  deriving DecidableEq, Repr, Inhabited

inductive Token
  | directive (content : Directive)
  | documentStart
  | documentEnd
  | blockSequenceStart
  | blockMappingStart
  | blockEnd
  | flowSequenceStart
  | flowSequenceEnd
  | flowMappingStart
  | flowMappingEnd
  | blockEntry
  | flowEntry
  | key
  | value
  | alias (name : String)
  | anchor (name : String)
  | tag (handle : Option String) (suffix : String)
  | scalar (text : String) (plain : Bool)
  deriving DecidableEq, Repr, Inhabited

/-! ## Names and tags -/

def isNameChar (c : Char) : Bool :=
  c.isAlphanum || c == '-' || c == '_'

def endsName (c : Option Char) : Bool :=
  endsWord c || c.any ['?', ':', ',', ']', '\x7d', '%', '@', '\x60'].contains

def anchorName (cursor : Cursor) : Option (String × Cursor) :=
  let (name, cursor) := cursor.step.spanWhile isNameChar
  if name.isEmpty || !endsName cursor.peek then none else some (String.ofList name, cursor)

def isAddressChar (c : Char) : Bool :=
  c.isAlphanum || ['-', ';', '/', '?', ':', '@', '&', '=', '+', '$', ',', '_', '.', '!', '~', '*',
    '\'', '(', ')', '[', ']'].contains c

/-- The bytes that a row of percent signs gives, each by two hexadecimal digits. -/
def percentBytes : Nat → List Nat → Cursor → Option (List Nat × Cursor)
  | 0, _, _ => none
  | fuel + 1, bytes, cursor =>
    if cursor.isAt '%' then do
      let byte ← Text.leadingHex? 2 cursor.step.rest
      percentBytes fuel (bytes ++ [byte]) (cursor.skip 3)
    else some (bytes, cursor)

/-- The address of a tag. A row of percent signs gives the bytes of characters. -/
def addressChars : Nat → List Char → Cursor → Option (List Char × Cursor)
  | 0, _, _ => none
  | fuel + 1, address, cursor =>
    match cursor.peek with
    | some '%' => do
      let (bytes, cursor) ← percentBytes cursor.fuel [] cursor
      let cs ← Text.ofUtf8? bytes
      addressChars fuel (address ++ cs) cursor
    | some c =>
      if isAddressChar c then addressChars fuel (address ++ [c]) cursor.step
      else some (address, cursor)
    | none => some (address, cursor)

def tagAddress (cursor : Cursor) : Option (String × Cursor) := do
  let (address, cursor) ← addressChars cursor.fuel [] cursor
  if address.isEmpty then none else some (String.ofList address, cursor)

/-- The handle of a tag: an exclamation mark, or a name between two of them. -/
def tagHandle (cursor : Cursor) : Option (String × Cursor) :=
  if !cursor.isAt '!' then none
  else
    let (name, after) := cursor.step.spanWhile isNameChar
    if after.isAt '!' then some ("!" ++ String.ofList name ++ "!", after.step)
    else if name.isEmpty && cursor.peekAt 1 == some ' ' then some ("!", cursor.step)
    else none

/-- Whether a further exclamation mark stands in the word that follows. -/
def hasHandle (cursor : Cursor) : Bool :=
  (cursor.step.rest.takeWhile fun c => !(c == ' ' || isBreak c)).contains '!'

def tagToken (cursor : Cursor) : Option (Token × Cursor) := do
  let (token, cursor) ←
    if cursor.peekAt 1 == some '<' then do
      let (suffix, cursor) ← tagAddress (cursor.skip 2)
      if cursor.isAt '>' then some (Token.tag none suffix, cursor.step) else none
    else if endsWord (cursor.peekAt 1) then some (Token.tag none "!", cursor.step)
    else do
      let (handle, cursor) ←
        if hasHandle cursor then tagHandle cursor else some ("!", cursor.step)
      let (suffix, cursor) ← tagAddress cursor
      some (Token.tag (some handle) suffix, cursor)
  if endsPart cursor.peek then some (token, cursor) else none

/-! ## Directives -/

def decimal (cursor : Cursor) : Checked (Nat × Cursor) :=
  let (digits, cursor) := cursor.spanWhile Char.isDigit
  if digits.isEmpty then malformed
  else if Text.mostDigits < digits.length then
    .error (.mishap (.tooManyDigits digits.length))
  else .ok (Text.decimalNumber digits, cursor)

def directiveContent (name : String) (cursor : Cursor) : Checked (Directive × Cursor) :=
  if name == "YAML" then do
    let (major, cursor) ← decimal cursor.skipSpaces
    if !cursor.isAt '.' then malformed
    else do
      let (_, cursor) ← decimal cursor.step
      if endsPart cursor.peek then pure (.version major, cursor) else malformed
  else if name == "TAG" then do
    let (handle, cursor) ← orMalformed (tagHandle cursor.skipSpaces)
    if !cursor.isAt ' ' then malformed
    else do
      let (tagPrefix, cursor) ← orMalformed (tagAddress cursor.skipSpaces)
      if endsPart cursor.peek then pure (.tag handle tagPrefix, cursor) else malformed
  else .ok (.other, cursor.skipWhile fun c => !isBreak c)

def directiveToken (cursor : Cursor) : Checked (Token × Cursor) := do
  let (name, cursor) := cursor.step.spanWhile isNameChar
  if name.isEmpty || !endsPart cursor.peek then malformed
  else
    let (content, cursor) ← directiveContent (String.ofList name) cursor
    let cursor ← orMalformed (ignoredLine cursor)
    pure (.directive content, cursor)

/-! ## Cutting -/

/-- The place of a piece of text that may turn out to be a key. -/
structure KeyPlace where
  /-- The number of tokens before it. -/
  before : Nat
  /-- Only a key can stand there. -/
  required : Bool
  index : Nat
  line : Nat
  column : Nat
  deriving Repr, Inhabited

structure Cutting where
  cursor : Cursor
  tokens : Array Token := #[]
  /-- The column of the innermost collection outside brackets. -/
  indent : Int := -1
  /-- The columns of the collections around it, the innermost first. -/
  outer : List Int := []
  /-- The number of open brackets. -/
  depth : Nat := 0
  /-- Whether a key may begin here. -/
  keyAllowed : Bool := true
  /-- The possible keys, by the number of brackets open around them. -/
  places : List (Nat × KeyPlace) := []
  deriving Inhabited

namespace Cutting

def push (cutting : Cutting) (token : Token) : Cutting :=
  { cutting with tokens := cutting.tokens.push token }

def pushAt (cutting : Cutting) (token : Token) (cursor : Cursor) : Cutting :=
  { cutting with tokens := cutting.tokens.push token, cursor }

def inFlow (cutting : Cutting) : Bool :=
  cutting.depth != 0

/-- Gives up the possible key at the present depth, unless it is required. -/
def dropPlace (cutting : Cutting) : Checked Cutting :=
  match cutting.places.lookup cutting.depth with
  | none => .ok cutting
  | some place =>
    if place.required then malformed
    else .ok { cutting with places := cutting.places.filter (·.1 != cutting.depth) }

def savePlace (cutting : Cutting) : Checked Cutting :=
  if !cutting.keyAllowed then .ok cutting
  else do
    let cutting ← cutting.dropPlace
    let cursor := cutting.cursor
    let place : KeyPlace := {
      before := cutting.tokens.size
      required := !cutting.inFlow && cutting.indent == (cursor.column : Int)
      index := cursor.index
      line := cursor.line
      column := cursor.column }
    pure { cutting with places := (cutting.depth, place) :: cutting.places }

/-- The farthest that a colon may be from the beginning of its key. -/
def longestKey : Nat := 1024

/-- Whether a place is too far back for a key. -/
def isStale (cursor : Cursor) (place : KeyPlace) : Bool :=
  place.line != cursor.line || decide (longestKey < cursor.index - place.index)

/-- Gives up the possible keys that are too far back. -/
def dropStale (cutting : Cutting) : Checked Cutting :=
  if cutting.places.any fun entry => isStale cutting.cursor entry.2 && entry.2.required then
    malformed
  else
    .ok { cutting with
      places := cutting.places.filter fun entry => !isStale cutting.cursor entry.2 }

/-- Closes the collections that are deeper than a column. -/
def unwindTo (column : Int) : List Int → Cutting → Cutting
  | [], cutting => cutting
  | next :: rest, cutting =>
    if column < cutting.indent then
      unwindTo column rest { cutting.push .blockEnd with indent := next, outer := rest }
    else cutting

/-- Closes the collections that are deeper than a column; brackets keep all open. -/
def unwind (cutting : Cutting) (column : Int) : Cutting :=
  if cutting.inFlow then cutting else unwindTo column cutting.outer cutting

def isDeeper (cutting : Cutting) (column : Nat) : Bool :=
  !cutting.inFlow && decide (cutting.indent < (column : Int))

/-- Makes a column the innermost one. -/
def indentTo (cutting : Cutting) (column : Nat) : Cutting :=
  { cutting with indent := column, outer := cutting.indent :: cutting.outer }

def openAt (cutting : Cutting) (token : Token) : Cutting :=
  let column := cutting.cursor.column
  if cutting.isDeeper column then (cutting.push token).indentTo column else cutting

/-- Moves past spaces, comments and line breaks to the next token. A new line outside brackets may
begin with a key. -/
def skipGaps : Nat → Cutting → Cutting
  | 0, cutting => cutting
  | fuel + 1, cutting =>
    let cursor := cutting.cursor.skipSpaces
    let cursor := if cursor.isAt '#' then cursor.skipWhile fun c => !isBreak c else cursor
    match cursor.takeBreak with
    | ([], _) => { cutting with cursor }
    | (_, cursor) =>
      skipGaps fuel { cutting with cursor, keyAllowed := cutting.keyAllowed || !cutting.inFlow }

/-- A mark of the whole document: a directive, or the beginning or end of a document. -/
def documentMark (cutting : Cutting) (token : Token) (cursor : Cursor) : Checked Cutting := do
  let cutting ← (cutting.unwind (-1)).dropPlace
  pure { cutting.pushAt token cursor with keyAllowed := false }

def openBracket (cutting : Cutting) (token : Token) : Checked Cutting := do
  let cutting ← cutting.savePlace
  pure { cutting.pushAt token cutting.cursor.step with
    depth := cutting.depth + 1, keyAllowed := true }

def closeBracket (cutting : Cutting) (token : Token) : Checked Cutting := do
  let cutting ← cutting.dropPlace
  if cutting.depth == 0 then malformed
  else pure { cutting.pushAt token cutting.cursor.step with
    depth := cutting.depth - 1, keyAllowed := false }

def comma (cutting : Cutting) : Checked Cutting := do
  let cutting ← cutting.dropPlace
  pure { cutting.pushAt .flowEntry cutting.cursor.step with keyAllowed := true }

def dash (cutting : Cutting) : Checked Cutting := do
  if !cutting.inFlow && !cutting.keyAllowed then malformed
  else
    let cutting ← (cutting.openAt .blockSequenceStart).dropPlace
    pure { cutting.pushAt .blockEntry cutting.cursor.step with keyAllowed := true }

def questionMark (cutting : Cutting) : Checked Cutting := do
  if !cutting.inFlow && !cutting.keyAllowed then malformed
  else
    let cutting ← (cutting.openAt .blockMappingStart).dropPlace
    pure { cutting.pushAt .key cutting.cursor.step with keyAllowed := !cutting.inFlow }

/-- The token for a key, and the beginning of its mapping where there is none yet, at the place of
the key. -/
def insertKey (cutting : Cutting) (place : KeyPlace) : Cutting :=
  let tokens := cutting.tokens.insertIdxIfInBounds place.before .key
  let cutting := { cutting with
    tokens, places := cutting.places.filter (·.1 != cutting.depth), keyAllowed := false }
  if cutting.isDeeper place.column then
    { cutting.indentTo place.column with
      tokens := cutting.tokens.insertIdxIfInBounds place.before .blockMappingStart }
  else cutting

def colon (cutting : Cutting) : Checked Cutting := do
  let cutting ← match cutting.places.lookup cutting.depth with
    | some place => pure (cutting.insertKey place)
    | none =>
      if !cutting.inFlow && !cutting.keyAllowed then malformed
      else do
        let cutting ← (cutting.openAt .blockMappingStart).dropPlace
        pure { cutting with keyAllowed := !cutting.inFlow }
  pure (cutting.pushAt .value cutting.cursor.step)

/-- A token that may begin a key. -/
def possibleKey (cutting : Cutting) (token : Checked (Token × Cursor)) : Checked Cutting := do
  let cutting ← cutting.savePlace
  let (token, cursor) ← token
  pure { cutting.pushAt token cursor with keyAllowed := false }

def quoted (cutting : Cutting) (isDouble : Bool) : Checked Cutting :=
  cutting.possibleKey ((quotedScalar isDouble cutting.cursor).map fun read =>
    (.scalar (String.ofList read.1) false, read.2))

def block (cutting : Cutting) (isFolded : Bool) : Checked Cutting := do
  let cutting ← cutting.dropPlace
  let (text, cursor) ← orMalformed (blockScalar isFolded cutting.indent cutting.cursor)
  pure { cutting.pushAt (.scalar (String.ofList text) false) cursor with keyAllowed := true }

/-- A plain scalar. A key may begin after it when a line has ended. -/
def plain (cutting : Cutting) : Checked Cutting := do
  let cutting ← cutting.savePlace
  let (text, crossed, cursor) := plainScalar cutting.inFlow (cutting.indent + 1) cutting.cursor
  pure { cutting.pushAt (.scalar (String.ofList text) true) cursor with keyAllowed := crossed }

/-- Characters that begin something other than a plain scalar. -/
def isIndicator (c : Char) : Bool :=
  ['-', '?', ':', ',', '[', ']', '\x7b', '\x7d', '#', '&', '*', '!', '|', '>', '\'', '"', '%', '@',
    '\x60'].contains c

def startsPlain (cutting : Cutting) (c : Char) : Bool :=
  (!isIndicator c && !isSpaceOrBreak c) ||
    (!endsWord (cutting.cursor.peekAt 1) &&
      (c == '-' || (!cutting.inFlow && (c == '?' || c == ':'))))

def next (cutting : Cutting) (c : Char) : Checked Cutting :=
  let cursor := cutting.cursor
  let lineStart := cursor.column == 0
  let alone := endsWord (cursor.peekAt 1)
  if lineStart && c == '%' then do
    let (token, cursor) ← directiveToken cursor
    cutting.documentMark token cursor
  else if lineStart && cursor.startsWord ['-', '-', '-'] then
    cutting.documentMark .documentStart (cursor.skip 3)
  else if lineStart && cursor.startsWord ['.', '.', '.'] then
    cutting.documentMark .documentEnd (cursor.skip 3)
  else if c == '[' then cutting.openBracket .flowSequenceStart
  else if c == '\x7b' then cutting.openBracket .flowMappingStart
  else if c == ']' then cutting.closeBracket .flowSequenceEnd
  else if c == '\x7d' then cutting.closeBracket .flowMappingEnd
  else if c == ',' then cutting.comma
  else if c == '-' && alone then cutting.dash
  else if c == '?' && (cutting.inFlow || alone) then cutting.questionMark
  else if c == ':' && (cutting.inFlow || alone) then cutting.colon
  else if c == '*' then
    cutting.possibleKey ((orMalformed (anchorName cursor)).map fun read => (.alias read.1, read.2))
  else if c == '&' then
    cutting.possibleKey ((orMalformed (anchorName cursor)).map fun read => (.anchor read.1, read.2))
  else if c == '!' then cutting.possibleKey (orMalformed (tagToken cursor))
  else if c == '|' && !cutting.inFlow then cutting.block false
  else if c == '>' && !cutting.inFlow then cutting.block true
  else if c == '\'' then cutting.quoted false
  else if c == '"' then cutting.quoted true
  else if cutting.startsPlain c then cutting.plain
  else malformed

/-- Moves on to the next token and adds it, or comes to the end of the text. -/
def advance (cutting : Cutting) : Checked (Cutting × Bool) := do
  let cutting ← (skipGaps cutting.cursor.fuel cutting).dropStale
  let cutting := cutting.unwind cutting.cursor.column
  match cutting.cursor.peek with
  | none => do
    let cutting ← (cutting.unwind (-1)).dropPlace
    pure (cutting, true)
  | some c => do
    let cutting ← cutting.next c
    pure (cutting, false)

/-- The tokens that stand firm: those before the first possible key that is not too far back. -/
def firm (cutting : Cutting) : List Token :=
  let live := cutting.places.filter fun entry => !isStale cutting.cursor entry.2
  cutting.tokens.toList.take
    (live.foldl (fun least entry => min least entry.2.before) cutting.tokens.size)

/-- Cuts the rest of a text. When the text goes on after what is at hand, the last token at hand may
go on too, so that it is none. -/
def run (goesOn : Bool) : Nat → Cutting → List Token × Option Problem
  | 0, cutting => (cutting.firm, some .malformed)
  | fuel + 1, cutting =>
    match cutting.advance with
    | .error problem => (cutting.firm, some problem)
    | .ok (next, ended) =>
      if goesOn && next.cursor.rest.isEmpty then (cutting.firm, some .malformed)
      else if ended then (next.tokens.toList, none)
      else run goesOn fuel next

end Cutting

def isPrintable (c : Char) : Bool :=
  let code := c.toNat
  code == 9 || code == 10 || code == 13 || (decide (32 ≤ code) && decide (code ≤ 126)) ||
    code == 0x85 || (decide (0xA0 ≤ code) && decide (code ≤ 0xFFFD)) || decide (0x10000 ≤ code)

/-- The number of characters that are looked at together. -/
def portion : Nat := 4096

/-- The part of a text that is cut. A portion with a character that a text may not hold is not, and
neither is what follows it. -/
def readablePart (text : List Char) : List Char :=
  match text.findIdx? (!isPrintable ·) with
  | none => text
  | some place => text.take (place / portion * portion)

/-- The tokens of a text and the problem that ends them, if there is one. A byte order mark in front
is no part of the text. -/
def tokens (text : List Char) : List Token × Option Problem :=
  let part := readablePart text
  let cursor : Cursor := { rest := part }
  let cursor := if cursor.isAt '\uFEFF' then cursor.step else cursor
  Cutting.run (!text.all isPrintable) (2 * cursor.fuel) { cursor }

end ProfilePolicy.Yaml
