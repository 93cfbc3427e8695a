import ProfilePolicy.Report
import ProfilePolicy.Text.LetterCase
import ProfilePolicy.Text.Search

/-!
# Application errors

Every failure that leaves the service has a code, a message for people, structured metadata and a
tracing context. The code fixes the category and the HTTP status. The builders below make the errors
of the persistence layer and of the engine; a new error takes its correlation id and its time from
a stamp, which the surroundings provide.
-/

namespace ProfilePolicy

inductive ErrorCode
  | validationGeneric
  | databaseGeneric
  | transactionFailed
  | persistenceFailed
  | notFound
  | duplicateKey
  | internalGeneric
  | unexpectedError
  | configurationInvalid
  | ruleMissing
  | usageError
  deriving DecidableEq, Repr, Inhabited

namespace ErrorCode

/-- All codes, in ascending order of their numbers. -/
def all : List ErrorCode :=
  [validationGeneric, databaseGeneric, transactionFailed, persistenceFailed, notFound, duplicateKey,
    internalGeneric, unexpectedError, configurationInvalid, ruleMissing, usageError]

/-- The number of a code: 2xxx for validation, 4xxx for the database, 9xxx for the rest. -/
def number : ErrorCode → Nat
  | validationGeneric => 2000
  | databaseGeneric => 4000
  | transactionFailed => 4003
  | persistenceFailed => 4005
  | notFound => 4010
  | duplicateKey => 4011
  | internalGeneric => 9000
  | unexpectedError => 9001
  | configurationInvalid => 9010
  | ruleMissing => 9011
  | usageError => 9012

def name : ErrorCode → String
  | validationGeneric => "E2000_VALIDATION_GENERIC"
  | databaseGeneric => "E4000_DATABASE_GENERIC"
  | transactionFailed => "E4003_TRANSACTION_FAILED"
  | persistenceFailed => "E4005_PERSISTENCE_FAILED"
  | notFound => "E4010_NOT_FOUND"
  | duplicateKey => "E4011_DUPLICATE_KEY"
  | internalGeneric => "E9000_INTERNAL_GENERIC"
  | unexpectedError => "E9001_UNEXPECTED_ERROR"
  | configurationInvalid => "E9010_CONFIGURATION_INVALID"
  | ruleMissing => "E9011_RULE_MISSING"
  | usageError => "E9012_USAGE_ERROR"

def httpStatus (code : ErrorCode) : Nat :=
  let n := code.number
  if 2000 ≤ n ∧ n < 2100 then 400
  else if n = 4010 then 404
  else if 4011 ≤ n ∧ n < 4020 then 409
  else if n = 4005 then 500
  else if 4000 ≤ n ∧ n < 4100 then 503
  else 500

def category (code : ErrorCode) : String :=
  let n := code.number
  if 2000 ≤ n ∧ n < 3000 then "validation"
  else if 4000 ≤ n ∧ n < 5000 then "database"
  else if 9010 ≤ n ∧ n < 9020 then "configuration"
  else "internal"

/-- The code of a name, or of a number. -/
def ofValue (value : Value) : Except Mishap ErrorCode :=
  match value with
  | .text name =>
    match all.find? fun code => code.name == name with
    | some code => .ok code
    | none => .error (.unknownKey value)
  | value =>
    match all.find? fun code => (Value.int code.number).same value with
    | some code => .ok code
    | none => .error (.notMember value "ErrorCode")

end ErrorCode

/-- What the surroundings give a new error: an id for tracing and the time. -/
structure Stamp where
  correlationId : String
  timestamp : String
  deriving Repr, Inhabited

structure ErrorContext where
  correlationId : Value
  timestamp : String
  origin : Value := .text ""
  requestId : Value := .null
  deriving Repr, Inhabited

def Stamp.at (stamp : Stamp) (origin : Value) : ErrorContext :=
  { correlationId := .text stamp.correlationId, timestamp := stamp.timestamp, origin }

/-- An application error. What it says is text and its metadata is a record; an error that came from
elsewhere may say something else, and is shown as it is. -/
structure AppError where
  code : ErrorCode
  message : Value
  context : ErrorContext
  metadata : Value := .record []
  /-- The type of the failure behind the error. -/
  cause : Option String := none
  deriving Repr, Inhabited

/-- Changes to a tracing context; a part left out stays as it is. -/
structure ContextUpdate where
  /-- An empty id counts as left out. -/
  correlationId : Value := .null
  origin : Option Value := none
  requestId : Option Value := none
  metadata : Value := .record []
  deriving Repr, Inhabited

namespace AppError

/-- The fields of metadata, which must be a record. -/
def fieldsOf : Value → Except Mishap (Keyed Value)
  | .record fields => .ok fields
  | value => .error (.notMapping value.typeName)

/-- An error under a changed context, its metadata left as it is. -/
def inContext (error : AppError) (update : ContextUpdate) : AppError :=
  { error with
    context := {
      correlationId := if update.correlationId.truthy then update.correlationId
        else error.context.correlationId
      timestamp := error.context.timestamp
      origin := update.origin.getD error.context.origin
      requestId := update.requestId.getD error.context.requestId } }

/-- An error under a changed context; metadata is added to what is there. -/
def withContext (error : AppError) (update : ContextUpdate) : Except Mishap AppError := do
  let held ← fieldsOf error.metadata
  let added ← fieldsOf update.metadata
  pure { error.inContext update with metadata := .record (held.putAll added) }

def toRecord (error : AppError) : Value :=
  .record [("error", .record [
    ("code", .text error.code.name),
    ("code_num", .int error.code.number),
    ("message", error.message),
    ("category", .text error.code.category),
    ("correlation_id", error.context.correlationId),
    ("timestamp", .text error.context.timestamp),
    ("metadata", error.metadata)])]

def line (error : AppError) : String :=
  "[" ++ error.code.name ++ "] " ++ error.message.plain ++
    " (correlation_id=" ++ error.context.correlationId.plain ++ ")"

/-- An error of the persistence layer; metadata without a value is left out. -/
def database (stamp : Stamp) (message : Value) (code : ErrorCode) (metadata : Keyed Value)
    (origin : Value) (cause : Option String) : AppError :=
  { code, message
    context := stamp.at origin
    metadata := .record (metadata.filter fun field => !field.2.isNull)
    cause }

def notFound (stamp : Stamp) (entity id origin : Value) : AppError :=
  let message := entity.plain ++ " not found"
  database stamp (.text (if id.truthy then message ++ ": " ++ id.plain else message)) .notFound
    [("entity", entity), ("entity_id", if id.truthy then .text id.plain else .null)]
    origin none

def duplicateKey (stamp : Stamp) (entity field value origin : Value) : AppError :=
  database stamp
    (.text (entity.plain ++ " with " ++ field.plain ++ "='" ++ value.plain ++ "' already exists"))
    .duplicateKey [("entity", entity), ("field", field), ("value", value)] origin none

def transactionFailed (stamp : Stamp) (reason origin : Value) : AppError :=
  let message := "Database transaction failed"
  database stamp (.text (if reason.truthy then message ++ ": " ++ reason.plain else message))
    .transactionFailed [] origin none

/-- The type of nothing stands where no failure is behind an error. -/
def causeName (cause : Option String) : String :=
  cause.getD Value.null.typeName

/-- Something could not be persisted because of another failure. -/
def persistenceFailed (stamp : Stamp) (entity : Value) (cause : Option String)
    (origin : Value) : AppError :=
  database stamp (.text ("Unexpected error when persisting " ++ entity.plain)) .persistenceFailed
    [("entity", entity), ("error_type", .text (causeName cause))] origin cause

def internal (stamp : Stamp) (message : Value) (code : ErrorCode) (metadata : Keyed Value)
    (origin : Value) (cause : Option String) : AppError :=
  { code, message, context := stamp.at origin, metadata := .record metadata, cause }

def configurationInvalid (stamp : Stamp) (reason : Value) (metadata : Keyed Value)
    (origin : Value) (cause : Option String) : AppError :=
  internal stamp (.text ("Invalid configuration: " ++ reason.plain)) .configurationInvalid metadata
    origin cause

def ruleMissing (stamp : Stamp) (kind key : Value) (metadata : Keyed Value)
    (origin : Value) (cause : Option String) : AppError :=
  internal stamp (.text ("No " ++ kind.plain ++ " registered for '" ++ key.plain ++ "'"))
    .ruleMissing ([("kind", kind), ("key", key)] ++ metadata) origin cause

def usageError (stamp : Stamp) (operation reason origin : Value) : AppError :=
  internal stamp (.text ("Invalid use of '" ++ operation.plain ++ "': " ++ reason.plain))
    .usageError [("operation", operation)] origin none

/-- The error that a rejected submission is reported as inside the service. -/
def ofReport (stamp : Stamp) (report : Report) : AppError :=
  let errors := report.errors
  { code := .validationGeneric
    message := .text ("Validation failed: " ++ toString errors.length ++ " errors")
    context := stamp.at (.text "")
    metadata := .record [
      ("error_count", .int errors.length),
      ("errors", .list (errors.map FieldError.toRecord))] }

/-- The error that a failure at the database is reported as. A refused constraint that speaks of
uniqueness is a taken key; every other failure of the database is a failed transaction. -/
def ofDatabaseFailure (stamp : Stamp) (origin : String) (failure : Mishap) : AppError :=
  let origin := Value.text origin
  match failure with
  | .integrity message _ =>
    let lowered := (Text.lower message).toList
    if Text.occursIn "unique".toList lowered || Text.occursIn "duplicate key".toList lowered then
      duplicateKey stamp (.text "record") (.text "unknown") (.text "unknown") origin
    else transactionFailed stamp (.text message) origin
  | .operational message _ | .database message =>
    transactionFailed stamp (.text message) origin
  | failure =>
    internal stamp (.text ("Database error: " ++ failure.message)) .unexpectedError [] origin
      (some failure.typeName)

/-- An error seen from a boundary: errors of the database pass, all others take its origin. -/
def atBoundary (error : AppError) (origin : String) : Except Mishap AppError :=
  if 4000 ≤ error.code.number ∧ error.code.number < 5000 then .ok error
  else error.withContext { origin := some (.text origin) }

end AppError

end ProfilePolicy
