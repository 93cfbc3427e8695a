import ProfilePolicy.Log.Record
import ProfilePolicy.Outcome
import ProfilePolicy.Uuid

/-!
# Database sessions

Entities are fetched, saved and deleted through a session of the database, whose calls may fail. A
failure of the database becomes an application error; a change that failed this way is rolled back.
Any other failure passes through as it is, and nothing is rolled back for it.
-/

namespace ProfilePolicy.Persistence

inductive Call
  | execute
  | add
  | delete
  | commit
  | rollback
  deriving DecidableEq, Repr, Inhabited

def Call.name : Call → String
  | execute => "execute"
  | add => "add"
  | delete => "delete"
  | commit => "commit"
  | rollback => "rollback"

/-- What a session does: the row that a query finds, and the call that fails, if one does. -/
structure Session (α : Type) where
  row : Option α := none
  failure : Option (Call × Fault) := none

structure Exchange (α : Type) where
  result : Except Fault (Outcome α)
  calls : List Call
  records : List Log.Record := []

/-- What the errors of this layer name as their origin. -/
def origin : String := "database"

/-- The name of the stored entities in errors and log records. -/
def entityName : String := "Organization"

def databaseFailure? : Fault → Option Mishap
  | .mishap (.integrity message shown) => some (.integrity message shown)
  | .mishap (.operational message shown) => some (.operational message shown)
  | .mishap (.database message) => some (.database message)
  | _ => none

variable {α : Type}

/-- Makes calls in turn up to the first that fails. -/
def makeCalls (session : Session α) : List Call → List Call × Option Fault
  | [] => ([], none)
  | call :: rest =>
    match session.failure with
    | none =>
      let (made, fault) := makeCalls session rest
      (call :: made, fault)
    | some (failing, fault) =>
      if failing == call then ([call], some fault)
      else
        let (made, fault) := makeCalls session rest
        (call :: made, fault)

/-- Fetches the entity under an identifier. An empty entity name counts as none given. -/
def fetchOne (session : Session α) (stamp : Stamp) (id : Uuid) (name : Value) : Exchange α :=
  let name := if name.truthy then name else .text entityName
  match makeCalls session [.execute] with
  | (calls, none) =>
    match session.row with
    | some row => { result := .ok (.ok row), calls }
    | none =>
      { result := .ok (.error (AppError.notFound stamp name (.text id.text)
          (.text "database.fetch_one")))
        calls }
  | (calls, some fault) =>
    match databaseFailure? fault with
    | some cause =>
      { result := .ok (.error (AppError.ofDatabaseFailure stamp origin cause)), calls }
    | none => { result := .error fault, calls }

def saveEntity (session : Session α) (stamp : Stamp) (entity : α) : Exchange α :=
  match makeCalls session [.add, .commit] with
  | (calls, none) => { result := .ok (.ok entity), calls }
  | (calls, some fault) =>
    match databaseFailure? fault with
    | some cause =>
      let error := AppError.ofDatabaseFailure stamp origin cause
      { result := .ok (.error error), calls := calls ++ [.rollback]
        records := [.commitFailed entityName error.code] }
    | none => { result := .error fault, calls }

def deleteEntity (session : Session α) (stamp : Stamp) : Exchange Unit :=
  match makeCalls session [.delete, .commit] with
  | (calls, none) => { result := .ok (.ok ()), calls }
  | (calls, some fault) =>
    match databaseFailure? fault with
    | some cause =>
      { result := .ok (.error (AppError.ofDatabaseFailure stamp origin cause))
        calls := calls ++ [.rollback] }
    | none => { result := .error fault, calls }

end ProfilePolicy.Persistence
