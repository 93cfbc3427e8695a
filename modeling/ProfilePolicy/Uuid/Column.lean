import ProfilePolicy.Uuid

/-!
# Identifier columns

How identifiers go into a database and come back. A database with a type of its own for them is
given what the caller has; every other one stores the thirty-two digits. Whatever comes back is read
as an identifier.
-/

namespace ProfilePolicy.Uuid

inductive Dialect
  /-- It has a type for identifiers. -/
  | native
  /-- It stores them as texts of thirty-two digits. -/
  | portable
  deriving DecidableEq, Repr, Inhabited

def Dialect.ofName (name : String) : Dialect :=
  if name == "postgresql" then .native else .portable

/-- What is on its way into a database or out of it: an identifier, or a value that may spell
one. -/
inductive Cell
  | held (value : Value)
  | id (value : Uuid)
  deriving Repr, Inhabited

def ofValue : Value → Except Mishap Uuid
  | .text spelling => Uuid.ofText spelling
  | value => .error (.noOperation value.typeName "replace")

def Cell.read : Cell → Except Mishap Uuid
  | held value => ofValue value
  | id value => .ok value

def bind (dialect : Dialect) (cell : Option Cell) : Except Mishap (Option Cell) :=
  match cell, dialect with
  | none, _ => .ok none
  | some cell, .native => .ok (some cell)
  | some cell, .portable => cell.read.map fun id => some (.held (.text id.hex))

def restore (cell : Option Cell) : Except Mishap (Option Uuid) :=
  match cell with
  | none => .ok none
  | some cell => cell.read.map some

end ProfilePolicy.Uuid
