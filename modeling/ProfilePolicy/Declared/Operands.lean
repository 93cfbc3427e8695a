import ProfilePolicy.Mishap
import ProfilePolicy.Submission
import ProfilePolicy.Value.Parts

/-!
# Operands

Operations that are called from outside get their operands as values, by position or by name. What
is missing, what is too much and what has no place is a mishap that names the operation.
-/

namespace ProfilePolicy

/-- A field that a record must have. -/
def Value.field (value : Value) (name : String) : Except Mishap Value :=
  match value.part? name with
  | some found => .ok found
  | none => .error (.unknownKey (.text name))

/-- How an operation is called by name: the operands that it cannot do without, those that it can,
and whether it takes any others. -/
structure Signature where
  operation : String
  required : List String
  optional : List String := []
  takesOthers : Bool := false
  deriving Repr, Inhabited

namespace Signature

def admits (signature : Signature) (name : String) : Bool :=
  signature.takesOthers || signature.required.contains name || signature.optional.contains name

/-- Checks operands: first that each has a place, then that none is missing. -/
def check (signature : Signature) (given : Keyed Value) : Except Mishap Unit :=
  match given.names.find? fun name => !signature.admits name with
  | some name => .error (.unexpectedOperand signature.operation name)
  | none =>
    match signature.required.filter fun name => !given.holds name with
    | [] => .ok ()
    | missing => .error (.missingOperands signature.operation missing)

end Signature

def checkPositions (operation : String) (names : List String) (given : Nat) :
    Except Mishap Unit :=
  if names.length < given then .error (.surplusOperands operation names.length given)
  else if given < names.length then .error (.missingOperands operation (names.drop given))
  else .ok ()

/-! ## Records from lists -/

def Value.fieldName : Value → Except Mishap String
  | .text name => .ok name
  | .null => .ok "null"
  | .bool value => .ok (if value then "true" else "false")
  | .list items => .error (.notCountable (Value.list items).typeName)
  | .record fields => .error (.notCountable (Value.record fields).typeName)
  | value => .ok value.plain

def fieldOfElement (position : Nat) (element : Value) : Except Mishap (String × Value) :=
  match element.items with
  | .error _ => .error (.notPairLike position)
  | .ok [name, value] => do
    let name ← name.fieldName
    pure (name, value)
  | .ok items => .error (.notPair position items.length)

/-- The fields of a record, or of a list of names with values. -/
def Value.fieldsOrPairs : Value → Except Mishap (Keyed Value)
  | .record fields => .ok fields
  | value => do
    let elements ← value.items
    let pairs ← elements.zipIdx.mapM fun (element, position) => fieldOfElement position element
    pure (Keyed.ofPairs pairs)

end ProfilePolicy
