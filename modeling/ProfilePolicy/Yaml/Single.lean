import ProfilePolicy.Yaml.Bytes
import ProfilePolicy.Yaml.Problem
import ProfilePolicy.Yaml.Tag

/-!
# Single values

The value of a text under a tag that is of no collection: nothing, a truth value, a number, bytes, a
date or the text itself. Any other tag breaks the rules.
-/

namespace ProfilePolicy.Yaml

def truthOf (written : String) : Except Mishap Value :=
  let word := Text.lower written
  match truthWords.lookup word with
  | some value => .ok (.bool value)
  | none => .error (.unknownKey (.text word))

def singleValue (tag : Tag) (written : String) : Checked Value :=
  match tag with
  | .null => .ok .null
  | .text => .ok (.text written)
  | .bool => orProblem (truthOf written)
  | .whole => orProblem ((wholeNumber written).map .int)
  | .real => orProblem (realNumber written)
  | .timestamp => orProblem (timestampOf written)
  | .bytes =>
    (orMalformed (bytes? written.toList)).map fun bytes =>
      .list (bytes.map fun (byte : Nat) => .int byte)
  | _ => malformed

def Tag.isSingle (tag : Tag) : Bool :=
  [Tag.null, .text, .bool, .whole, .real, .timestamp, .bytes].contains tag

end ProfilePolicy.Yaml
