import ProfilePolicy.Http.Headers
import ProfilePolicy.Log.Record
import ProfilePolicy.Profile

/-!
# Answers

How failures are answered. Application errors are answered with the status of their code, a rejected
submission with the status of its report, and everything unforeseen as an error inside the service
whose details only the log shows.
-/

namespace ProfilePolicy.Http

/-- An answer to a request, with what answering wrote to the log. -/
structure Answer where
  status : Nat
  body : Option Value
  records : List Log.Record := []
  deriving Repr, Inhabited

structure RequestProblem where
  /-- The path to the part. -/
  location : List String := []
  message : Value := .text "Validation failed"
  deriving Repr, Inhabited

def RequestProblem.toRecord (problem : RequestProblem) : Value :=
  .record [
    ("field", .text (Value.joined "." problem.location)),
    ("message", problem.message)]

/-- Sorted texts without repetitions. -/
def distinctTexts (texts : List String) : List String :=
  (sortedTexts texts).eraseDups

namespace Answer

def ofError (error : AppError) : Answer :=
  { status := error.code.httpStatus
    body := some error.toRecord
    records := [.errorResponse error] }

/-- The answer to an application error that a request ran into; it takes the ids of the request. -/
def ofRaised (headers : Headers) (error : AppError) : Except Mishap Answer :=
  (error.withContext {
    correlationId := .ofText? headers.correlationId?
    requestId := some (.ofText? headers.requestId?) }).map ofError

def errorFor (headers : Headers) (stamp : Stamp) (origin : String) (code : ErrorCode)
    (message : String) : AppError :=
  { code
    message := .text message
    context := {
      correlationId := .text headers.correlationId
      timestamp := stamp.timestamp
      origin := .text origin } }

def statusCodes : List (Nat × ErrorCode) := [
  (400, .validationGeneric),
  (404, .notFound),
  (409, .duplicateKey),
  (422, .validationGeneric)]

def codeOfStatus (status : Value) : Except Mishap ErrorCode := do
  status.countable
  match statusCodes.find? fun entry => (Value.int entry.1).same status with
  | some entry => pure entry.2
  | none =>
    match status, status.number? with
    | _, some number =>
      pure (if Value.atLeast 500 number then .unexpectedError else .internalGeneric)
    | .other "float", none => pure .internalGeneric
    | status, none => .error (.notComparable status.typeName)

/-- The phrase of a status; one that is not registered has an empty one. -/
def phraseOf (status : Value) : String :=
  match statusOf status with
  | .ok code => (phrase? code).getD ""
  | .error _ => ""

/-- The answer to an HTTP error. Without a detail the phrase of its status is the message, and
without a phrase the status itself. -/
def ofStatus (headers : Headers) (stamp : Stamp) (status : Value) (detail : Value) :
    Except Mishap Answer := do
  let detail := if detail.isNull then .text (phraseOf status) else detail
  let code ← codeOfStatus status
  let message := if detail.truthy then detail.plain else "HTTP " ++ status.plain
  pure (ofError (errorFor headers stamp "http" code message))

def ofProblems (headers : Headers) (stamp : Stamp) (problems : List RequestProblem) : Answer :=
  ofError { errorFor headers stamp "request_validation" .validationGeneric
      "Request validation failed" with
    metadata := .record [("errors", .list (problems.map RequestProblem.toRecord))] }

/-- The answer to a rejected submission: every field error, under the status of the report. -/
def ofReport (headers : Headers) (stamp : Stamp) (report : Report) : Answer :=
  let error := (AppError.ofReport stamp report).inContext {
    correlationId := .ofText? headers.correlationId?
    origin := some (.text "attribute_validation") }
  { status := report.status
    body := some report.toRecord
    records := [.validationAnswered report.status report.errors.length
      (distinctTexts (report.errors.map (·.field))) error.context.correlationId] }

/-- The answer to a failed validation; no other fault is answered. -/
def ofRejection (headers : Headers) (stamp : Stamp) (fault : Fault) : Except Fault Answer :=
  match fault with
  | .rejected report => .ok (ofReport headers stamp report)
  | fault => .error fault

def ofUnexpected (headers : Headers) (stamp : Stamp) (type message : String) : Answer :=
  let answer := ofError { errorFor headers stamp "unhandled" .unexpectedError
      "An unexpected error occurred" with cause := some type }
  { answer with
    records := .unhandled type message headers.correlationId :: answer.records }

def ofFault (headers : Headers) (stamp : Stamp) (fault : Fault) : Except Mishap Answer :=
  match fault with
  | .rejected report => .ok (ofReport headers stamp report)
  | .mishap cause => .ok (ofUnexpected headers stamp cause.typeName cause.message)
  | fault =>
    match fault.appError? stamp with
    | some error => ofRaised headers error
    | none => .ok (ofUnexpected headers stamp fault.typeName "")

end Answer

end ProfilePolicy.Http
