import ProfilePolicy.Yaml.Numeral
import ProfilePolicy.Yaml.Timestamp

/-!
# Tags

The tag of a node says what it stands for. One that is not written follows from the kind of the
node, and for a plain scalar from its spelling. The tag `!` counts as not written, but then the
spelling decides for quoted scalars too.
-/

namespace ProfilePolicy.Yaml

inductive Tag
  | null
  | bool
  | whole
  | real
  | bytes
  | timestamp
  | text
  | sequence
  | mapping
  | set
  | orderedMapping
  | pairs
  /-- A key whose mapping is merged into the one around it. -/
  | merge
  /-- The key of a mapping that stands for one of its values. -/
  | value
  | unknown
  deriving DecidableEq, Repr, Inhabited

namespace Tag

def addresses : List (String × Tag) := [
  ("tag:yaml.org,2002:null", null),
  ("tag:yaml.org,2002:bool", bool),
  ("tag:yaml.org,2002:int", whole),
  ("tag:yaml.org,2002:float", real),
  ("tag:yaml.org,2002:binary", bytes),
  ("tag:yaml.org,2002:timestamp", timestamp),
  ("tag:yaml.org,2002:str", text),
  ("tag:yaml.org,2002:seq", sequence),
  ("tag:yaml.org,2002:map", mapping),
  ("tag:yaml.org,2002:set", set),
  ("tag:yaml.org,2002:omap", orderedMapping),
  ("tag:yaml.org,2002:pairs", pairs),
  ("tag:yaml.org,2002:merge", merge),
  ("tag:yaml.org,2002:value", value)]

def ofAddress (address : String) : Tag :=
  (addresses.lookup address).getD unknown

end Tag

/-- Marks that are reserved when they stand alone. -/
def reservedMarks : List String :=
  ["!", "&", "*"]

def nullWords : List String :=
  ["", "~", "null", "Null", "NULL"]

def truthWords : List (String × Bool) :=
  [("yes", true), ("no", false), ("true", true), ("false", false), ("on", true), ("off", false)]

/-- The three ways to write a word: in lower case, with a capital, in capitals. -/
def spellings (word : String) : List String :=
  [word, word.capitalize, word.toUpper]

def tagOfSpelling (text : String) : Tag :=
  let cs := withoutFinalBreak text.toList
  let text := String.ofList cs
  if nullWords.contains text then .null
  else if truthWords.any fun entry => (spellings entry.1).contains text then .bool
  else if isWhole cs then .whole
  else if isReal cs then .real
  else if isTimestamp cs then .timestamp
  else if text == "<<" then .merge
  else if text == "=" then .value
  else if reservedMarks.contains text then .unknown
  else .text

def scalarTag (written : Option String) (text : String) (plain : Bool) : Tag :=
  match written with
  | none => if plain then tagOfSpelling text else .text
  | some "!" => tagOfSpelling text
  | some address => .ofAddress address

def collectionTag (kind : Tag) (written : Option String) : Tag :=
  match written with
  | none | some "!" => kind
  | some address => .ofAddress address

end ProfilePolicy.Yaml
