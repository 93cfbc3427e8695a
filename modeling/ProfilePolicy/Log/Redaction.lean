import ProfilePolicy.Keyed
import ProfilePolicy.Text.LetterCase
import ProfilePolicy.Value

/-!
# Redaction

Secrets are kept out of the log by their keys: the value under a sensitive key, in whatever letter
case, is replaced by a mark. Records are searched inside records and lists down to a fixed depth;
what lies deeper is left as it is.
-/

namespace ProfilePolicy.Log

/-- The keys whose values are secret, in lower case. -/
def sensitiveKeys : List String :=
  ["password", "token", "secret", "authorization", "cookie"]

def isSensitive (key : String) : Bool :=
  sensitiveKeys.contains (Text.lower key)

/-- What stands in the place of a secret. -/
def redactedMark : Value := .text "[REDACTED]"

/-- The greatest depth at which a record or a list is searched; an event is at depth zero. -/
def searchDepth : Nat := 5

mutual

def redactAt (depth : Nat) : Value → Value
  | .record fields =>
    if searchDepth < depth then .record fields else .record (redactFields depth fields)
  | .list items => if searchDepth < depth then .list items else .list (redactItems depth items)
  | value => value

def redactFields (depth : Nat) : List (String × Value) → List (String × Value)
  | [] => []
  | (key, value) :: rest =>
    (key, if isSensitive key then redactedMark else redactAt (depth + 1) value) ::
      redactFields depth rest

def redactItems (depth : Nat) : List Value → List Value
  | [] => []
  | item :: rest => redactAt (depth + 1) item :: redactItems depth rest

end

/-- An event with its secrets replaced. -/
def redact (event : Value) : Value :=
  redactAt 0 event

end ProfilePolicy.Log
