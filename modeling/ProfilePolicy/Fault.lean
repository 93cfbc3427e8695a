import ProfilePolicy.AppError
import ProfilePolicy.Context

/-!
# Faults

Why an operation on a profile did not succeed. A rejection is the caller's doing and carries a
report; the other faults are defects of the deployment or of the program, and are kept apart from
field errors. Wording and metadata of each cause are given once, in `Fault.appError?`. A fault that
comes up while an organization is written becomes the cause of a fault of persistence, unless it is
fatal by itself.
-/

namespace ProfilePolicy

inductive ConfigurationProblem
  /-- A read-only pattern of a setting is no text or is blank. -/
  | blankPattern (setting : String)
  /-- A read-only pattern has a star before its last character. -/
  | misplacedStar (pattern setting : String)
  /-- Two sets of rules claim one context. -/
  | duplicateContext (context : Context)
  | fileNotFound (path : String)
  | fileInvalid (path detail : String)
  | fileNotMapping (path : String)
  deriving Repr, Inhabited

namespace ConfigurationProblem

def reason : ConfigurationProblem → String
  | blankPattern _ => "blank read-only attribute pattern"
  | misplacedStar pattern _ =>
    "'*' is only allowed at the end of a pattern: " ++ Text.quoted pattern
  | duplicateContext context => "Multiple profile metadata found for context " ++ context.name
  | fileNotFound path => "profile config file not found: " ++ path
  | fileInvalid _ detail => "invalid profile config file: " ++ detail
  | fileNotMapping _ => "profile config file must contain a mapping"

def metadata : ConfigurationProblem → Keyed Value
  | blankPattern setting | misplacedStar _ setting => [("setting", .text setting)]
  | duplicateContext context => [("context", .text context.name)]
  | fileNotFound path | fileInvalid path _ | fileNotMapping path => [("path", .text path)]

end ConfigurationProblem

inductive MissingReference
  /-- No validator has the id that a rule of an attribute names. -/
  | validator (id : String) (attributeName : String) (context : Context)
  /-- No rules are registered for a context. -/
  | profileMetadata (context : Context)
  /-- A validator that a store outside the library could not find. -/
  | outside (id : Value)
  deriving Repr, Inhabited

namespace MissingReference

def kind : MissingReference → String
  | validator _ _ _ | outside _ => "validator"
  | profileMetadata _ => "profile metadata"

def key : MissingReference → Value
  | validator id _ _ => .text id
  | outside id => id
  | profileMetadata context => .text context.name

def metadata : MissingReference → Keyed Value
  | validator _ name context => [("attribute", .text name), ("context", .text context.name)]
  | profileMetadata context => [("context", .text context.name)]
  | outside _ => []

end MissingReference

/-- An operation called in a state that does not support it. -/
inductive Misuse
  /-- A profile without an organization was updated. -/
  | unboundProfile
  /-- A provider was taken before any configuration was in force. -/
  | uninitializedProvider
  deriving DecidableEq, Repr, Inhabited

namespace Misuse

def operation : Misuse → String
  | unboundProfile => "update"
  | uninitializedProvider => "create"

def reason : Misuse → String
  | unboundProfile => "no organization bound to the profile"
  | uninitializedProvider => "profile provider factory is not initialized"

end Misuse

/-- Why an operation did not succeed. -/
inductive Fault
  /-- The submission breaks rules. -/
  | rejected (report : Report)
  | configuration (problem : ConfigurationProblem)
  | missing (reference : MissingReference)
  | usage (misuse : Misuse)
  /-- Writing to the organization failed. -/
  | persistence (cause : Fault)
  /-- An error of another layer. -/
  | application (error : AppError)
  | mishap (cause : Mishap)
  deriving Repr, Inhabited

namespace Fault

def typeName : Fault → String
  | rejected _ => "ValidationException"
  | configuration _ => "ProfileConfigurationError"
  | missing _ => "MissingRuleError"
  | usage _ => "ProfileUsageError"
  | persistence _ => "ProfilePersistenceError"
  | application _ => "AppErrorException"
  | mishap cause => cause.typeName

/-- The words of a fault that is reported as the cause of another; a fatal fault is not. -/
def causeMessage? : Fault → Option String
  | rejected report => some report.line
  | application error => some error.line
  | mishap cause => some cause.message
  | configuration _ | missing _ | usage _ | persistence _ => none

/-- A fault as it is reported when it comes up while an organization is written. -/
def reported (fault : Fault) : Fault :=
  if fault.causeMessage?.isNone then fault else persistence fault

/-- The application error of a fatal fault. -/
def appError? (stamp : Stamp) : Fault → Option AppError
  | configuration problem =>
    some (.configurationInvalid stamp (.text problem.reason) problem.metadata
      (.text "profile.config") none)
  | missing reference =>
    some (.ruleMissing stamp (.text reference.kind) reference.key reference.metadata
      (.text "profile.rules") none)
  | usage misuse =>
    some (.usageError stamp (.text misuse.operation) (.text misuse.reason) (.text "profile"))
  | persistence cause =>
    some (.persistenceFailed stamp (.text "organization profile") (some cause.typeName)
      (.text "profile.update"))
  | application error => some error
  | rejected _ | mishap _ => none

end Fault

/-- A mishap ends an operation. -/
def orMishap {α : Type} : Except Mishap α → Except Fault α
  | .ok value => .ok value
  | .error cause => .error (.mishap cause)

end ProfilePolicy
