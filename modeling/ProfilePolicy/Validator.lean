import ProfilePolicy.Log.Record
import ProfilePolicy.Metadata

/-!
# Validators

A validator looks at one attribute in its situation and replies with errors. It may also change the
values of the set, add rules to the copy of the metadata that it was given, and write log records.
Validators are found by id.

Two validators are built in. Both reject a submitted value that differs from the stored one: one for
attributes whose names match a pattern, one for the name of the organization. They also answer
read-only queries, so they log denials for debugging only.
-/

namespace ProfilePolicy

structure Invocation where
  situation : Situation
  /-- The metadata whose rule is run: a copy of the shared entry. -/
  metadata : AttributeMetadata
  config : RuleConfig
  deriving Inhabited

structure Reply where
  errors : List FieldError := []
  /-- The values of the set afterwards. -/
  values : AttributeValues
  /-- Rules added to the copy of the metadata. -/
  additions : List Rule := []
  records : List Log.Record := []
  deriving Inhabited

/-- What is left of a validator that cannot reply: why, and what it wrote to the log before. -/
structure Breakdown where
  fault : Fault
  records : List Log.Record := []
  deriving Inhabited

def orBreakdown {α : Type} : Except Mishap α → Except Breakdown α
  | .ok value => .ok value
  | .error cause => .error { fault := .mishap cause }

abbrev Validator := Invocation → Except Breakdown Reply

namespace Reply

/-- The reply that finds no fault and changes nothing. -/
def pass (invocation : Invocation) : Reply :=
  { values := invocation.situation.values }

/-- The reply that reports errors and changes nothing. -/
def report (invocation : Invocation) (errors : List FieldError) (records : List Log.Record) :
    Reply :=
  { errors, values := invocation.situation.values, records }

end Reply

/-- Things found by id, such as validators; an id is given once. -/
abbrev Registry (α : Type) := Keyed α

namespace Registry

/-- Registers something under a new id. -/
def register {α : Type} (registry : Registry α) (id : String) (item : α) :
    Except Mishap (Registry α) :=
  if Keyed.holds registry id then .error (.duplicateValidator id)
  else .ok (Keyed.put registry id item)

def registerAll {α : Type} (registry : Registry α) :
    List (String × α) → Except Mishap (Registry α)
  | [] => .ok registry
  | (id, item) :: rest => do
    let registry ← registry.register id item
    registry.registerAll rest

/-- Registers what the registry does not have yet. -/
def registerMissing {α : Type} (registry : Registry α) (items : List (String × α)) : Registry α :=
  items.foldl
    (fun known item => if Keyed.holds known item.1 then known else known.put item.1 item.2) registry

end Registry

namespace Validator

def readOnlyAttributeId : String := "org-readonly-attribute"

def readOnlyNameId : String := "readonly-organization-name"

def readOnlyAttributeMessage : String := "update-read-only-attributes-rejected-message"

def readOnlyNameMessage : String := "update-read-only-name-rejected-message"

/-- What log records call an organization that is not stored yet. -/
def newOrganization : String := "new organization"

def requirePattern (config : RuleConfig) : Except Mishap Pattern :=
  match config.pattern with
  | .unset => .error .patternUnset
  | .nothing => .error .patternEmpty
  | .foreign type => .error (.noOperation type "fullmatch")
  | .compiled pattern => .ok pattern

/-- Rejects changes to an attribute whose name matches the configured pattern. -/
def readOnlyAttribute : Validator := fun invocation => do
  let situation := invocation.situation
  let pattern ← orBreakdown (requirePattern invocation.config)
  if pattern.fullMatch situation.name then
    let existing := match situation.organization with
      | some organization => organization.valuesOf situation.name
      | none => []
    let unchanged ← orBreakdown
      (Value.unchangedValues (.list existing) (.list situation.value))
    if unchanged then pure (Reply.pass invocation)
    else
      let organization := match situation.organization with
        | some organization => organization.name
        | none => .text newOrganization
      pure (Reply.report invocation
        [{ validator := readOnlyAttributeId, field := situation.name,
           message := readOnlyAttributeMessage }]
        [.attributeChanged situation.name pattern.text organization])
  else pure (Reply.pass invocation)

def storedName (organization : Option Organization) : List Value :=
  match organization with
  | some organization => if organization.name.isNull then [] else [organization.name]
  | none => []

def nameForLog (organization : Option Organization) : Value :=
  match organization with
  | some organization =>
    if organization.name.truthy then organization.name else .text newOrganization
  | none => .text newOrganization

/-- Rejects changes to the name of the organization. -/
def readOnlyName : Validator := fun invocation => do
  let situation := invocation.situation
  if situation.name == nameKey then
    let unchanged ← orBreakdown
      (Value.unchangedValues (.list (storedName situation.organization)) (.list situation.value))
    if unchanged then pure (Reply.pass invocation)
    else
      pure (Reply.report invocation
        [{ validator := readOnlyNameId, field := situation.name, message := readOnlyNameMessage }]
        [.nameChanged (nameForLog situation.organization)])
  else pure (Reply.pass invocation)

def builtin : List (String × Validator) :=
  [(readOnlyAttributeId, readOnlyAttribute), (readOnlyNameId, readOnlyName)]

end Validator

end ProfilePolicy
