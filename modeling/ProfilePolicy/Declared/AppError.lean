import ProfilePolicy.AppError
import ProfilePolicy.Calendar.Moment
import ProfilePolicy.Declared.Operands

/-!
# Declared application errors

Application errors as records declare them, changes to their contexts, and the operations that build
them, each called with operands by name.
-/

namespace ProfilePolicy

/-- The code that a record declares; one that is not declared has a default. -/
def ErrorCode.ofRecord (value : Value) (default : ErrorCode) : Except Mishap ErrorCode :=
  match value.part? "code" with
  | none => .ok default
  | some code => ErrorCode.ofValue code

namespace AppError

def originOf (value : Value) : Value :=
  (value.part? "origin").getD (.text "")

/-- A declared error. The type of its cause is read off its own declaration. -/
def ofRecord (causeOf : Value → Option String) (value : Value) : Except Mishap AppError := do
  let code ← value.field "code"
  let code ← ErrorCode.ofValue code
  let message ← value.field "message"
  let correlationId ← value.field "correlation_id"
  let timestamp ← value.field "timestamp"
  let moment ← Calendar.Moment.ofValue timestamp
  pure {
    code
    message
    context := {
      correlationId
      timestamp := moment.text
      origin := originOf value
      requestId := value.part "request_id" }
    metadata := (value.part? "metadata").getD (.record [])
    cause := causeOf (value.part "cause") }

end AppError

def ContextUpdate.ofRecord (value : Value) : ContextUpdate := {
  correlationId := value.part "correlation_id"
  origin := value.part? "origin"
  requestId := value.part? "request_id"
  metadata := (value.part? "metadata").getD (.record []) }

/-! ## Builders -/

structure ErrorBuilder where
  signature : Signature
  /-- Builds an error of the operands, the code among them, and the type of its cause. -/
  build : Stamp → Value → ErrorCode → Option String → AppError

namespace ErrorBuilder

def named (operation : String) (required optional : List String) (takesOthers : Bool)
    (build : Stamp → Value → ErrorCode → Option String → AppError) : ErrorBuilder :=
  { signature := { operation, required, optional, takesOthers }, build }

/-- The operands that are no operands of the error itself. -/
def metadataOf (args : Value) (known : List String) : Keyed Value :=
  args.entries.filter fun field => !known.contains field.1

def all : List ErrorBuilder := [
  named "db_error" ["message"] ["code", "table", "origin", "cause"] true
    fun stamp args code cause =>
      .database stamp (args.part "message") code
        (metadataOf args ["message", "code", "origin", "cause"]) (AppError.originOf args) cause,
  named "not_found" ["entity"] ["id", "origin"] false
    fun stamp args _ _ =>
      .notFound stamp (args.part "entity") (args.part "id") (AppError.originOf args),
  named "duplicate_key" ["entity", "field", "value"] ["origin"] false
    fun stamp args _ _ =>
      .duplicateKey stamp (args.part "entity") (args.part "field") (args.part "value")
        (AppError.originOf args),
  named "transaction_failed" [] ["reason", "origin"] false
    fun stamp args _ _ =>
      .transactionFailed stamp ((args.part? "reason").getD (.text "")) (AppError.originOf args),
  named "persistence_failed" ["entity", "cause"] ["origin"] false
    fun stamp args _ cause =>
      .persistenceFailed stamp (args.part "entity") cause (AppError.originOf args),
  named "internal_error" ["message"] ["code", "origin", "cause"] true
    fun stamp args code cause =>
      .internal stamp (args.part "message") code
        (metadataOf args ["message", "code", "origin", "cause"]) (AppError.originOf args) cause,
  named "configuration_invalid" ["reason"] ["origin"] true
    fun stamp args _ cause =>
      .configurationInvalid stamp (args.part "reason")
        (metadataOf args ["reason", "origin", "cause"]) (AppError.originOf args) cause,
  named "rule_missing" ["kind", "key"] ["origin"] true
    fun stamp args _ cause =>
      .ruleMissing stamp (args.part "kind") (args.part "key")
        (metadataOf args ["kind", "key", "origin", "cause"]) (AppError.originOf args) cause,
  named "usage_error" ["operation", "reason"] ["origin"] false
    fun stamp args _ _ =>
      .usageError stamp (args.part "operation") (args.part "reason") (AppError.originOf args)]

/-- The operations that hand other operands on, each to one that they give a code and a message. -/
def handingOn : List String := ["configuration_invalid", "rule_missing"]

/-- What is wrong with operands that an operation hands on: they may not say again what it says. -/
def repetition? (operation : String) (args : Value) : Option Mishap :=
  if !handingOn.contains operation then none
  else if (args.part? "code").isSome then
    some (.repeatedOperand "core.errors.builders.internal_error" "keyword argument" "code")
  else if (args.part? "message").isSome then
    some (.repeatedOperand "internal_error" "argument" "message")
  else none

/-- The code that an operation gives its errors when it is not told one. -/
def defaultCode (operation : String) : ErrorCode :=
  if operation == "db_error" then .databaseGeneric else .unexpectedError

def call (operation : String) (stamp : Stamp) (causeOf : Value → Option String) (args : Value) :
    Except Mishap AppError := do
  match all.find? fun builder => builder.signature.operation == operation with
  | none => .error (.unknownKey (.text operation))
  | some builder =>
    let code ← ErrorCode.ofRecord args (defaultCode operation)
    builder.signature.check args.entries
    match repetition? operation args with
    | some cause => throw cause
    | none => pure ()
    pure (builder.build stamp args code (causeOf (args.part "cause")))

end ErrorBuilder

end ProfilePolicy
