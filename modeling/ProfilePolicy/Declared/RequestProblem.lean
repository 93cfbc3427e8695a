import ProfilePolicy.Declared.Operands
import ProfilePolicy.Http.Answer

/-!
# Declared request problems

Problems of a request as records declare them: where the part stands that cannot be used, and what
is wrong with it. Both may be left out.
-/

namespace ProfilePolicy.Http

def RequestProblem.ofValue (value : Value) : Except Mishap RequestProblem :=
  match value with
  | .record _ => do
    let parts ← ((value.part? "loc").getD (.list [])).items
    pure {
      location := parts.map Value.plain
      message := (value.part? "msg").getD (.text "Validation failed") }
  | value => .error (.noOperation value.typeName "get")

def RequestProblem.ofValues (value : Value) : Except Mishap (List RequestProblem) := do
  let items ← value.items
  items.mapM RequestProblem.ofValue

end ProfilePolicy.Http
