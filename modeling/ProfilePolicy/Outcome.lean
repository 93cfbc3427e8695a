import ProfilePolicy.Fault

/-!
# Outcomes

Operations of the persistence layer end in a value or in an application error. The two are kept
apart until a caller decides to raise the error.
-/

namespace ProfilePolicy

/-- A value or an application error. -/
abbrev Outcome (α : Type) := Except AppError α

namespace Outcome

variable {α : Type}

def isOk : Outcome α → Bool
  | .ok _ => true
  | .error _ => false

/-- The value; asking a failed outcome for it is a mishap. -/
def unwrap : Outcome α → Except Mishap α
  | .ok value => .ok value
  | .error error => .error (.unwrapFailed error.line)

def unwrapOr (outcome : Outcome α) (default : α) : α :=
  match outcome with
  | .ok value => value
  | .error _ => default

/-- The error; a successful outcome has none to ask for. -/
def unwrapError : Outcome α → Except Mishap AppError
  | .ok _ => .error (.noOperation "Ok" "unwrap_err")
  | .error error => .ok error

def values : Outcome α → List α
  | .ok value => [value]
  | .error _ => []

/-- Raises the error of a failed outcome. -/
def raise : Outcome α → Except Fault Unit
  | .ok _ => .ok ()
  | .error error => .error (.application error)

end Outcome

end ProfilePolicy
