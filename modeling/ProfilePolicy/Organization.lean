import ProfilePolicy.Fault
import ProfilePolicy.Submission

/-!
# Organizations

An organization has a name and attributes with several values each. Its attributes are kept in one
of two ways: as a map in memory, or as a list of rows, one per value, with the position of the value
in its attribute. Policies read and write organizations only through the operations of this module,
so they do not depend on the way of storage. A map keeps a name that was given no values; rows do
not.

Names and stored values are texts, or missing; a store whose contents came from elsewhere may hold
other values too, and gives them back as they are.

A store may refuse to set or to remove certain names; a refused write changes nothing.
-/

namespace ProfilePolicy

/-- The values stored under one name. A stored value may be missing. -/
abbrev StoredValues := List Value

/-- One stored value of an attribute. -/
structure AttributeRow where
  name : String
  value : Value
  position : Nat
  deriving Repr, Inhabited

namespace AttributeRow

/-- The values of the rows of a name, in row order. -/
def valuesOf (rows : List AttributeRow) (name : String) : StoredValues :=
  (rows.filter (·.name == name)).map (·.value)

def without (rows : List AttributeRow) (name : String) : List AttributeRow :=
  rows.filter (·.name != name)

/-- Rows for values, positioned from `position` on. -/
def ofValues (name : String) (position : Nat) : StoredValues → List AttributeRow
  | [] => []
  | value :: rest => { name, value, position } :: ofValues name (position + 1) rest

def replace (rows : List AttributeRow) (name : String) (values : StoredValues) :
    List AttributeRow :=
  without rows name ++ ofValues name 0 values

/-- All attributes, in the order in which their names first occur. -/
def attributes (rows : List AttributeRow) : Keyed StoredValues :=
  rows.foldl (fun found row => found.put row.name ((found.get? row.name).getD [] ++ [row.value])) []

/-- Inserts a row after all rows whose position is not above its own. -/
def insertByPosition (row : AttributeRow) : List AttributeRow → List AttributeRow
  | [] => [row]
  | other :: rest =>
    if other.position ≤ row.position then other :: insertByPosition row rest
    else row :: other :: rest

/-- The rows as a reload brings them back: in the order of their positions. -/
def reload (rows : List AttributeRow) : List AttributeRow :=
  rows.foldl (fun sorted row => insertByPosition row sorted) []

end AttributeRow

inductive Storage
  | entries (map : Keyed StoredValues)
  | rows (held : List AttributeRow)
  deriving Repr, Inhabited

namespace Storage

def valuesOf : Storage → String → StoredValues
  | entries map, name => (map.get? name).getD []
  | rows held, name => AttributeRow.valuesOf held name

def attributes : Storage → Keyed StoredValues
  | entries map => map
  | rows held => AttributeRow.attributes held

def replace : Storage → String → StoredValues → Storage
  | entries map, name, values => entries (map.put name values)
  | rows held, name, values => rows (AttributeRow.replace held name values)

def without : Storage → String → Storage
  | entries map, name => entries (map.without name)
  | rows held, name => rows (AttributeRow.without held name)

end Storage

/-- Writes that a failing store refuses: the names that it does not set and those that it does not
remove, each with the fault for it. -/
structure Refusals where
  setting : Keyed Fault := []
  removing : Keyed Fault := []
  deriving Repr, Inhabited

structure Organization where
  name : Value
  storage : Storage := .entries []
  refusals : Option Refusals := none
  deriving Repr, Inhabited

namespace Organization

def valuesOf (organization : Organization) (name : String) : StoredValues :=
  organization.storage.valuesOf name

def firstValueOf (organization : Organization) (name : String) : Value :=
  (organization.valuesOf name).headD .null

def attributes (organization : Organization) : Keyed StoredValues :=
  organization.storage.attributes

def attributeNames (organization : Organization) : List String :=
  organization.attributes.names

def setName (organization : Organization) (name : Value) : Organization :=
  { organization with name }

def settingRefused (organization : Organization) (name : String) : Option Fault :=
  organization.refusals.bind fun refusals => refusals.setting.get? name

def removingRefused (organization : Organization) (name : String) : Option Fault :=
  organization.refusals.bind fun refusals => refusals.removing.get? name

def setAttribute (organization : Organization) (name : String) (values : StoredValues) :
    Except Fault Organization :=
  match organization.settingRefused name with
  | some fault => .error fault
  | none => .ok { organization with storage := organization.storage.replace name values }

def removeAttribute (organization : Organization) (name : String) : Except Fault Organization :=
  match organization.removingRefused name with
  | some fault => .error fault
  | none => .ok { organization with storage := organization.storage.without name }

end Organization

end ProfilePolicy
