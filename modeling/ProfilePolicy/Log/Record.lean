import ProfilePolicy.Fault

/-!
# Log records

What the service writes to its log. A record is one of a fixed set of events; level, event name and
fields follow from the event.
-/

namespace ProfilePolicy.Log

/-- The severity of a record; `exception` is an error with the failure's trace. -/
inductive Level
  | debug
  | info
  | warning
  | error
  | exception
  deriving DecidableEq, Repr, Inhabited

def Level.name : Level → String
  | debug => "debug"
  | info => "info"
  | warning => "warning"
  | error => "error"
  | exception => "exception"

/-- What a record about the verdict of one rule on one attribute tells. -/
structure RuleVerdict where
  organization : Value
  attributeName : String
  /-- The id of the rule's validator. -/
  validator : String
  /-- The message keys of the rule's errors. -/
  errors : List String
  context : Context
  deriving Repr, Inhabited

/-- A log record, by its event. -/
inductive Record
  /-- A read-only rule saw a changed value. -/
  | attributeChanged (attributeName pattern : String) (organization : Value)
  /-- The name rule saw a changed name. -/
  | nameChanged (organization : Value)
  /-- A failing rule was passed over because nothing changes. -/
  | violationTolerated (verdict : RuleVerdict)
  /-- A failing rule was reported. -/
  | editDenied (verdict : RuleVerdict)
  | validationFailed (organization : Value) (context : Context) (attributes : List String)
  | profileUpdated (organization : Value) (context : Context)
    (written removed : List String)
  | updateFailed (organization : Value) (cause : String)
  | registryBuilt (contexts : List Context) (readOnly adminReadOnly : List String)
  | errorResponse (error : AppError)
  | validationAnswered (status : Nat) (errorCount : Nat) (fields : List String)
    (correlationId : Value)
  | unhandled (type message correlationId : String)
  | commitFailed (entity : String) (code : ErrorCode)
  | requestFailed (type : String)
  | slowRequest (status : Nat)
  | requestCompleted (status : Nat)
  /-- A record of a rule from outside the library. -/
  | note (event : String) (content : Value)
  deriving Repr, Inhabited

namespace Record

def providerName : String := "organization-profile"

/-- The level of a record. An error answered with a status below 500 is a warning. -/
def level : Record → Level
  | attributeChanged _ _ _ | nameChanged _ | violationTolerated _ | profileUpdated _ _ _ _
  | note _ _ => .debug
  | validationFailed _ _ _ | registryBuilt _ _ _ => .info
  | editDenied _ | validationAnswered _ _ _ _ | commitFailed _ _ | slowRequest _ => .warning
  | updateFailed _ _ => .error
  | unhandled _ _ _ | requestFailed _ => .exception
  | errorResponse error => if error.code.httpStatus < 500 then .warning else .error
  | requestCompleted status =>
    if 500 ≤ status then .error else if 400 ≤ status then .warning else .info

def event : Record → String
  | attributeChanged _ _ _ => "readonly_attribute_changed"
  | nameChanged _ => "readonly_name_changed"
  | violationTolerated _ => "readonly_violation_tolerated"
  | editDenied _ => "attribute_edit_denied"
  | validationFailed _ _ _ => "profile_validation_failed"
  | profileUpdated _ _ _ _ => "profile_updated"
  | updateFailed _ _ => "profile_update_failed"
  | registryBuilt _ _ _ => "profile_registry_built"
  | errorResponse _ => "error_response"
  | validationAnswered _ _ _ _ => "attribute_validation_failed"
  | unhandled _ _ _ => "unhandled_exception"
  | commitFailed _ _ => "commit_failed"
  | requestFailed _ => "request_failed"
  | slowRequest _ => "slow_request"
  | requestCompleted _ => "request_completed"
  | note event _ => event

def verdictFields (verdict : RuleVerdict) : Keyed Value := [
  ("organization", verdict.organization),
  ("attribute", .text verdict.attributeName),
  ("validator", .text verdict.validator),
  ("errors", .ofTexts verdict.errors),
  ("context", .text verdict.context.name)]

def fields : Record → Keyed Value
  | attributeChanged name pattern organization => [
      ("attribute", .text name),
      ("pattern", .text pattern),
      ("organization", organization)]
  | nameChanged organization => [("organization", organization)]
  | violationTolerated verdict | editDenied verdict => verdictFields verdict
  | validationFailed organization context attributes => [
      ("organization", organization),
      ("context", .text context.name),
      ("attributes", .ofTexts attributes)]
  | profileUpdated organization context written removed => [
      ("organization", organization),
      ("context", .text context.name),
      ("written", .ofTexts written),
      ("removed", .ofTexts removed)]
  | updateFailed organization cause => [
      ("organization", organization),
      ("error", .text cause),
      ("exc_info", .bool true)]
  | registryBuilt contexts readOnly adminReadOnly => [
      ("provider", .text providerName),
      ("contexts", .ofTexts (contexts.map Context.name)),
      ("read_only_attributes", .ofTexts readOnly),
      ("admin_read_only_attributes", .ofTexts adminReadOnly)]
  | errorResponse error => [
      ("error_code", .text error.code.name),
      ("error_code_num", .int error.code.number),
      ("message", error.message),
      ("category", .text error.code.category),
      ("correlation_id", error.context.correlationId),
      ("origin", error.context.origin),
      ("metadata", error.metadata)]
  | validationAnswered status errorCount names correlationId => [
      ("code", .text ErrorCode.validationGeneric.name),
      ("status", .int status),
      ("error_count", .int errorCount),
      ("fields", .ofTexts names),
      ("correlation_id", correlationId)]
  | unhandled type message correlationId => [
      ("error_type", .text type),
      ("error_message", .text message),
      ("correlation_id", .text correlationId)]
  | commitFailed entity code => [
      ("entity", .text entity),
      ("error_code", .text code.name)]
  | requestFailed type => [("error_type", .text type)]
  | slowRequest status | requestCompleted status => [("status", .int status)]
  | note _ content => [("content", content)]

end Record

end ProfilePolicy.Log
