import ProfilePolicy.FieldError

/-!
# Reports

All violations of one validation pass. Several attributes can fail the same way, so a report groups
its errors by message key: groups stand in the order of their first error, and inside a group the
errors keep the order in which they were added.
-/

namespace ProfilePolicy

/-- Field errors grouped by message key. -/
structure Report where
  groups : Keyed (List FieldError) := []
  deriving Repr, Inhabited

namespace Report

def empty : Report := {}

/-- Adds an error to the group of its message. -/
def add (report : Report) (error : FieldError) : Report :=
  { groups := report.groups.put error.message
      ((report.groups.get? error.message).getD [] ++ [error]) }

def addAll (report : Report) (errors : List FieldError) : Report :=
  errors.foldl add report

/-- All errors, group by group. -/
def errors (report : Report) : List FieldError :=
  report.groups.flatMap (·.2)

/-- Whether there is an error with one of the message keys; without keys, whether there is any. -/
def hasError (report : Report) (messages : List String) : Bool :=
  if messages.isEmpty then !report.groups.isEmpty
  else messages.any fun message => report.groups.holds message

/-- Whether one of the attributes has an error; without names, whether there is any error. -/
def isOnError (report : Report) (names : List String) : Bool :=
  if names.isEmpty then !report.groups.isEmpty
  else report.errors.any fun error => names.contains error.field

/-- The first status that is not a plain bad request, else a bad request. -/
def status (report : Report) : Nat :=
  match report.errors.find? fun error => error.status != 400 with
  | some error => error.status
  | none => 400

def line (report : Report) : String :=
  let shown (group : String × List FieldError) : String :=
    Text.quoted group.1 ++ ": [" ++ Value.joined ", " (group.2.map FieldError.quoted) ++ "]"
  "ValidationException [errors=\x7b" ++ Value.joined ", " (report.groups.map shown) ++ "\x7d]"

/-- The body of the response to a rejected submission: a single error stands for itself, several
are listed. -/
def toRecord (report : Report) : Value :=
  match report.errors with
  | [error] => error.toRecord
  | errors => .record [("errors", .list (errors.map FieldError.toRecord))]

end Report

end ProfilePolicy
