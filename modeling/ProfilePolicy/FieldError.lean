import ProfilePolicy.Http.Status

/-!
# Field errors

A single violation that a rule reports: which attribute, which message, with which parameters. The
message is a key that the caller turns into text; its first parameter is always the attribute.
-/

namespace ProfilePolicy

structure FieldError where
  /-- The id of the rule that reported it. -/
  validator : String
  /-- The attribute at fault. -/
  field : String
  /-- The message key. -/
  message : String
  parameters : List Value := []
  /-- The HTTP status that classifies it. -/
  status : Nat := 400
  deriving Repr, Inhabited

namespace FieldError

/-- The parameters of the message: the attribute, then those of the error. -/
def messageParameters (error : FieldError) : List Value :=
  .text error.field :: error.parameters

/-- The text of an error under a way to put message keys and parameters into words. -/
def formatted (error : FieldError) (format : String → List Value → String) : String :=
  format error.message error.messageParameters

def toRecord (error : FieldError) : Value :=
  .record [
    ("field", .text error.field),
    ("errorMessage", .text error.message),
    ("messageParameters", .ofTexts (error.messageParameters.map Value.plain))]

/-- The parameters of an error as messages quote them; a single one is followed by a comma. -/
def quotedParameters (error : FieldError) : String :=
  match error.parameters with
  | [parameter] => "(" ++ parameter.quoted ++ ",)"
  | parameters => "(" ++ Value.joined ", " (Value.quotedItems parameters) ++ ")"

def quoted (error : FieldError) : String :=
  "FieldError(validator_id=" ++ Text.quoted error.validator ++
    ", input_hint=" ++ Text.quoted error.field ++ ", message=" ++ Text.quoted error.message ++
    ", message_parameters=" ++ error.quotedParameters ++ ", status_code=<HTTPStatus." ++
    Http.codeName error.status ++ ": " ++ toString error.status ++ ">)"

def same (left right : FieldError) : Bool :=
  left.validator == right.validator && left.field == right.field &&
    left.message == right.message && Value.sameList left.parameters right.parameters &&
    left.status == right.status

end FieldError

end ProfilePolicy
