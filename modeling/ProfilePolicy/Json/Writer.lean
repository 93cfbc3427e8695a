import ProfilePolicy.Value
import ProfilePolicy.Text.Quoted

/-!
# Writing JSON

The text of a value: no white space, fields in their order, control characters, quotes and
backslashes escaped, as are halves of pairs that stand alone, and all other characters as they are.
-/

namespace ProfilePolicy.Json

def writeChar (c : Char) : List Char :=
  if c == '"' || c == '\\' then ['\\', c]
  else if c.toNat < 32 || c.toNat == 127 then '\\' :: 'u' :: Text.hexPadded 4 c.toNat
  else [c]

def writePiece : List Char → List Char
  | [c] => writeChar c
  | piece => '\\' :: 'u' :: Text.hexPadded 4 (Text.codeOf piece)

def writeText (s : String) : String :=
  "\"" ++ String.ofList ((Text.pieces s.toList).flatMap writePiece) ++ "\""

/-- The text of a real number; an infinite one is a word. -/
def writeReal : Binary64 → String
  | .infinite negative => if negative then "-Infinity" else "Infinity"
  | number => number.text

mutual

def write : Value → String
  | .null => "null"
  | .bool value => if value then "true" else "false"
  | .int value => toString value
  | .real value => writeReal value
  | .text value => writeText value
  | .list items => "[" ++ Value.joined "," (writeItems items) ++ "]"
  | .record fields => "\x7b" ++ Value.joined "," (writeFields fields) ++ "\x7d"
  | .other type => writeText type

def writeItems : List Value → List String
  | [] => []
  | item :: rest => write item :: writeItems rest

def writeFields : List (String × Value) → List String
  | [] => []
  | (name, value) :: rest => (writeText name ++ ":" ++ write value) :: writeFields rest

end

end ProfilePolicy.Json
