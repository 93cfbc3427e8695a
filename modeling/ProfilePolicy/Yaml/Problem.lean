import ProfilePolicy.Mishap

/-!
# Problems of a YAML text

A text can break the rules of the language, or hold a single value that is none of its type. Whoever
meets a problem while reading a text reads no further.
-/

namespace ProfilePolicy.Yaml

inductive Problem
  /-- The text breaks the rules of the language. -/
  | malformed
  /-- A single value is none of its type. -/
  | mishap (cause : Mishap)
  deriving Repr, Inhabited

abbrev Checked (α : Type) := Except Problem α

def malformed {α : Type} : Checked α :=
  .error .malformed

/-- A text without the thing that the rules demand breaks them. -/
def orMalformed {α : Type} : Option α → Checked α
  | some value => .ok value
  | none => malformed

/-- A mishap is a problem of its own. -/
def orProblem {α : Type} : Except Mishap α → Checked α
  | .ok value => .ok value
  | .error cause => .error (.mishap cause)

end ProfilePolicy.Yaml
