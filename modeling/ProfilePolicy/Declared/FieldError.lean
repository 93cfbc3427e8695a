import ProfilePolicy.Declared.Operands
import ProfilePolicy.Report

/-!
# Declared field errors

Field errors as records declare them. A message is needed; the validator, the parameters and the
status may be left out, and the attribute where the surroundings know it.
-/

namespace ProfilePolicy

def FieldError.ofRecord (validator : String) (attributeName : Option String) (value : Value) :
    Except Mishap FieldError := do
  let field ← match value.part? "attribute", attributeName with
    | some name, _ => pure name.textOrEmpty
    | none, some name => pure name
    | none, none => .error (.unknownKey (.text "attribute"))
  let message ← value.field "message"
  let parameters ← ((value.part? "params").getD (.list [])).items
  let status ← match value.part? "status" with
    | none => pure 400
    | some status => Http.statusOf status
  pure {
    validator := ((value.part? "validator").map Value.textOrEmpty).getD validator
    field
    message := message.textOrEmpty
    parameters
    status }

def Report.ofRecords (validator : String) (values : List Value) : Except Mishap Report := do
  let errors ← values.mapM (FieldError.ofRecord validator none)
  pure (Report.empty.addAll errors)

end ProfilePolicy
