import ProfilePolicy.Text.Half
import ProfilePolicy.Text.Visible

/-!
# Quoted text

The form in which messages show a text: between single quotes, or between double quotes when it
holds a single quote and no double one. Backslashes and the quote in use are escaped, line breaks
and tabs have their letters, and a character without a visible form is written by its code point in
two, four or eight hexadecimal digits. Half of a pair is written by its own number.
-/

namespace ProfilePolicy.Text

/-- The lower-case hexadecimal digit of a number below sixteen. -/
def hexDigit (n : Nat) : Char :=
  if n < 10 then Char.ofNat (48 + n) else Char.ofNat (87 + n)

/-- The last `width` hexadecimal digits of a number, leading zeros included. -/
def hexPadded (width n : Nat) : List Char :=
  match width with
  | 0 => []
  | width + 1 => hexPadded width (n / 16) ++ [hexDigit (n % 16)]

def quoteFor (cs : List Char) : Char :=
  if cs.contains '\'' && !cs.contains '"' then '"' else '\''

/-- A character without a visible form, by its code point. -/
def codeEscape (code : Nat) : List Char :=
  if code < 0x100 then '\\' :: 'x' :: hexPadded 2 code
  else if code < 0x10000 then '\\' :: 'u' :: hexPadded 4 code
  else '\\' :: 'U' :: hexPadded 8 code

def quoteChar (quote c : Char) : List Char :=
  if c == quote || c == '\\' then ['\\', c]
  else if c == '\t' then ['\\', 't']
  else if c == '\n' then ['\\', 'n']
  else if c == '\r' then ['\\', 'r']
  else if isVisible c then [c]
  else codeEscape c.toNat

def quotePiece (quote : Char) : List Char → List Char
  | [c] => quoteChar quote c
  | piece => codeEscape (codeOf piece)

def quoted (s : String) : String :=
  let quote := quoteFor s.toList
  String.ofList (quote :: (pieces s.toList).flatMap (quotePiece quote) ++ [quote])

end ProfilePolicy.Text
