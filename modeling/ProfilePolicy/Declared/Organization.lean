import ProfilePolicy.Declared.Operands
import ProfilePolicy.Organization

/-!
# Declared organizations

Organizations as records declare them: a name, and attributes that are set one after another. The
kind of an organization decides how it keeps its attributes. A value that is no list is taken apart
into its items; what has no items is a mishap, which finds the rows of the name removed already.
-/

namespace ProfilePolicy

inductive Keeping
  /-- In memory. -/
  | memory
  /-- As rows. -/
  | rows
  /-- In memory, with writes that are refused. -/
  | refusing
  deriving DecidableEq, Repr, Inhabited

namespace Keeping

def ofKind (kind : String) : Keeping :=
  if kind == "orm" then rows else if kind == "failing" then refusing else memory

def typeName : Keeping → String
  | memory => "InMemoryOrganization"
  | rows => "Organization"
  | refusing => "FailingOrganization"

def emptyStorage : Keeping → Storage
  | rows => .rows []
  | memory | refusing => .entries []

def ofRecord (value : Value) : Keeping :=
  ofKind (value.textPart "kind")

end Keeping

namespace Organization

def assign (organization : Organization) (name : String) (value : Value) :
    Except Fault Unit × Organization :=
  match organization.settingRefused name, value.items with
  | some fault, _ => (.error fault, organization)
  | none, .ok items =>
    (.ok (), { organization with storage := organization.storage.replace name items })
  | none, .error cause =>
    (.error (.mishap cause),
      match organization.storage with
      | .entries _ => organization
      | .rows held => { organization with storage := .rows (AttributeRow.without held name) })

def assignAll (organization : Organization) : List (String × Value) → Except Fault Organization
  | [] => .ok organization
  | (name, value) :: rest =>
    match organization.assign name value with
    | (.ok (), organization) => organization.assignAll rest
    | (.error fault, _) => .error fault

def ofRecordAs (keeping : Keeping) (value : Value) : Except Fault Organization :=
  assignAll { name := value.part "name", storage := keeping.emptyStorage }
    (value.part "attributes").pairs

/-- A declared organization; nothing declares none. Its declaration gives one fault for all refused
writes. -/
def ofRecord (faultOf : Value → Fault) (value : Value) : Except Fault (Option Organization) :=
  match value with
  | .null => .ok none
  | value => do
    let keeping := Keeping.ofRecord value
    let organization ← ofRecordAs keeping value
    let fail := value.part "fail"
    let fault := faultOf (fail.part "raise")
    let refusals : Refusals := {
      setting := (fail.textParts "set").map fun name => (name, fault)
      removing := (fail.textParts "remove").map fun name => (name, fault) }
    pure (some (if keeping == .refusing then { organization with refusals := some refusals }
      else organization))

end Organization

/-! ## Operations on declared organizations -/

/-- The name of the operation that a step on an organization calls. -/
def operationNames : List (String × String) := [
  ("set", "set_attribute"),
  ("remove", "remove_attribute"),
  ("set_name", "set_name"),
  ("get", "get_attribute"),
  ("first", "get_first_attribute"),
  ("positions", "attribute_rows")]

def missingOrganization? (step : String) : Option Mishap :=
  (operationNames.lookup step).map fun operation => .noOperation Value.null.typeName operation

end ProfilePolicy
