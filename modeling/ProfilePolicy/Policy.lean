import ProfilePolicy.Validator

/-!
# Policies

A policy is what the evaluation of a submission consults: the context, the metadata that counts for
each declared name, and the validators. An episode is what changes while a submission is validated
and applied: the values, the organization, the catalog of metadata and the log.

Values are normalized when the set is built: a single text becomes a list, missing entries are
dropped, declared names that were left out take their stored values, and a name that may not be
written and was left out or left blank takes the stored name, so that submitting the current state
is no renaming. Attributes without metadata are writable.

Rules only see copies of the shared metadata. What a rule adds to its copy is not run in the same
pass and is never seen by another evaluation.
-/

namespace ProfilePolicy

structure Policy where
  context : Context
  /-- The metadata that counts for each declared name, the read-only marker included. -/
  declared : Keyed Handle
  validators : Registry Validator
  deriving Inhabited

/-- What changes while a submission is validated and applied. -/
structure Episode where
  organization : Option Organization
  values : AttributeValues := []
  catalog : Catalog
  validated : Bool := false
  journal : List Log.Record := []
  deriving Inhabited

/-- A step of an episode; a fault keeps what happened before it. -/
abbrev Action := EStateM Fault Episode

namespace Episode

def get (episode : Episode) (name : String) : List Value :=
  (episode.values.get? name).getD []

def getFirst (episode : Episode) (name : String) : Value :=
  (episode.get name).headD .null

/-- The name of the organization, if there is one and it has one. -/
def organizationName (episode : Episode) : Value :=
  (episode.organization.map (·.name)).getD .null

/-- The stored values of a name: for the name of the organization that name, else those of the
attribute. -/
def persisted (episode : Episode) (name : String) : List Value :=
  match episode.organization with
  | none => []
  | some organization =>
    if name == nameKey then Validator.storedName (some organization)
    else organization.valuesOf name

def setValues (episode : Episode) (name : String) (value : Value) : Except Mishap Episode :=
  value.normalized.map fun values => { episode with values := episode.values.put name values }

def valuesRecord (episode : Episode) : Value :=
  .record (episode.values.map fun entry => (entry.1, .list entry.2))

def log (episode : Episode) (record : Log.Record) : Episode :=
  { episode with journal := episode.journal ++ [record] }

end Episode

namespace Policy

def situation (policy : Policy) (name : String) (episode : Episode) : Situation :=
  { context := policy.context, name, organization := episode.organization,
    values := episode.values }

/-- Whether the metadata of a name denies writing its current value. -/
def deniedByMetadata (policy : Policy) (name : String) (episode : Episode) : Bool :=
  match policy.declared.get? name with
  | none => false
  | some handle => !(episode.catalog.entry handle).canEdit (policy.situation name episode)

/-! ## Building the set -/

def normalizeAll : Keyed Value → Except Mishap AttributeValues
  | [] => .ok []
  | (name, value) :: rest => do
    let values ← value.normalized
    let others ← normalizeAll rest
    pure ((name, values) :: others)

/-- The stored values of a declared name that are not missing. -/
def storedValues (organization : Option Organization) (name : String) : List Value :=
  match organization with
  | none => []
  | some organization => (organization.valuesOf name).filter fun value => !value.isNull

/-- Adds the declared names that the submission left out. -/
def fillDeclared (organization : Option Organization) (values : AttributeValues) :
    List String → AttributeValues
  | [] => values
  | name :: rest =>
    if name == readOnlyMarker || values.holds name then fillDeclared organization values rest
    else fillDeclared organization (values.put name (storedValues organization name)) rest

/-- Gives a name that may not be written and was left out or left blank its stored value. -/
def restoreName (policy : Policy) (episode : Episode) : Except Mishap Episode :=
  if episode.organization.isNone then .ok episode
  else (nonBlank (episode.get nameKey)).map fun given =>
    if given.isEmpty && policy.deniedByMetadata nameKey episode then
      { episode with values := episode.values.put nameKey (episode.persisted nameKey) }
    else episode

def begin (policy : Policy) (submitted : Keyed Value) (organization : Option Organization)
    (catalog : Catalog) : Except Mishap Episode := do
  let values ← normalizeAll submitted
  let values := fillDeclared organization values policy.declared.names
  policy.restoreName { organization, values, catalog }

/-! ## Running rules -/

/-- Makes a copy of shared metadata for the rules of one pass. -/
def copyOf (handle : Handle) : Action Handle := fun episode =>
  let (copy, catalog) := episode.catalog.clone handle
  .ok copy { episode with catalog }

/-- Runs one rule on a name. What the rule adds to metadata goes to the copy. -/
def runRule (policy : Policy) (name : String) (copy : Handle) (rule : Rule) :
    Action (List FieldError) := fun episode =>
  let metadata := episode.catalog.entry copy
  match policy.validators.get? rule.validator with
  | none => .error (.missing (.validator rule.validator metadata.name policy.context)) episode
  | some validator =>
    match validator { situation := policy.situation name episode, metadata,
                      config := rule.config } with
    | .error breakdown =>
      .error breakdown.fault { episode with journal := episode.journal ++ breakdown.records }
    | .ok reply =>
      .ok reply.errors { episode with
        values := reply.values
        catalog := episode.catalog.addRules copy (reply.additions.map some)
        journal := episode.journal ++ reply.records }

/-- Whether one of the rules fails; the rules after the first failing one are not run. -/
def anyFails (policy : Policy) (name : String) (copy : Handle) : List Rule → Action Bool
  | [] => pure false
  | rule :: rest => do
    let errors ← policy.runRule name copy rule
    if errors.isEmpty then policy.anyFails name copy rest else pure true

def rulesOf (handle : Handle) : Action (List Rule) := fun episode =>
  .ok (episode.catalog.entry handle).rules episode

/-- Whether a read-only rule rejects the current value of a name. -/
def deniedByRule (policy : Policy) (name : String) : Action Bool :=
  match policy.declared.get? readOnlyMarker with
  | none => pure false
  | some handle => do
    let copy ← copyOf handle
    let rules ← rulesOf handle
    policy.anyFails name copy rules

/-- Whether writing the current value of a name is denied. The name of an organization is never
written as an attribute; any other name is read-only when its metadata denies writes or a read-only
rule rejects its value. -/
def isReadOnly (policy : Policy) (name : String) : Action Bool := do
  if name == nameKey then pure true
  else
    let episode ← get
    if policy.deniedByMetadata name episode then pure true else policy.deniedByRule name

/-- Whether a failing rule is passed over: there is an organization, the rule is a read-only one,
and the non-blank values are the stored ones. -/
def isTolerated (policy : Policy) (name : String) (handle : Handle) (episode : Episode) :
    Except Mishap Bool :=
  let metadata := episode.catalog.entry handle
  if episode.organization.isNone then .ok false
  else if metadata.name != readOnlyMarker && metadata.canEdit (policy.situation name episode) then
    .ok false
  else do
    let current ← nonBlank (episode.persisted name)
    let submitted ← nonBlank (episode.get name)
    pure (sameCollection current submitted)

/-- A computation that only looks at the episode. -/
def inspect {α : Type} (look : Episode → Except Mishap α) : Action α := fun episode =>
  match look episode with
  | .ok value => .ok value episode
  | .error cause => .error (.mishap cause) episode

def logVerdict (policy : Policy) (tolerated : Bool) (name : String) (rule : Rule)
    (errors : List FieldError) : Action Unit := fun episode =>
  let verdict : Log.RuleVerdict := {
    organization := episode.organizationName
    attributeName := name
    validator := rule.validator
    errors := errors.map (·.message)
    context := policy.context }
  .ok () (episode.log (if tolerated then .violationTolerated verdict else .editDenied verdict))

/-- The outcome of validating a name: whether no rule was reported, and the errors of the reported
ones. -/
structure Verdict where
  valid : Bool := true
  errors : List FieldError := []
  deriving Repr, Inhabited

def Verdict.and (first second : Verdict) : Verdict :=
  { valid := first.valid && second.valid, errors := first.errors ++ second.errors }

def applyRules (policy : Policy) (name : String) (handle copy : Handle) :
    List Rule → Action Verdict
  | [] => pure {}
  | rule :: rest => do
    let errors ← policy.runRule name copy rule
    if errors.isEmpty then policy.applyRules name handle copy rest
    else
      let tolerated ← inspect (policy.isTolerated name handle)
      policy.logVerdict tolerated name rule errors
      let others ← policy.applyRules name handle copy rest
      if tolerated then pure others else pure (Verdict.and { valid := false, errors } others)

def applyMetadata (policy : Policy) (name : String) : List Handle → Action Verdict
  | [] => pure {}
  | handle :: rest => do
    let copy ← copyOf handle
    let rules ← rulesOf handle
    let verdict ← policy.applyRules name handle copy rules
    let others ← policy.applyMetadata name rest
    pure (verdict.and others)

/-- The metadata entries whose rules run on a name: its own, and the read-only marker's. An entry
that is both counts once. -/
def candidates (policy : Policy) (name : String) : List Handle :=
  let own := policy.declared.get? name
  let marker := policy.declared.get? readOnlyMarker
  if own == marker then own.toList else own.toList ++ marker.toList

/-- Runs every rule that applies to a name. A name without rules is valid. -/
def validateName (policy : Policy) (name : String) : Action Verdict :=
  policy.applyMetadata name (policy.candidates name)

/-- The values of the names whose metadata does not deny writes. -/
def writable (policy : Policy) (episode : Episode) : AttributeValues :=
  episode.values.filter fun entry => !policy.deniedByMetadata entry.1 episode

def line (policy : Policy) (episode : Episode) : String :=
  "AttributeSet(context=" ++ policy.context.name ++ ", values=" ++ episode.valuesRecord.quoted ++
    ")"

/-- A copy of the metadata of a name, for callers who want to change it. -/
def metadataCopy (policy : Policy) (name : String) : Action (Option Handle) :=
  match policy.declared.get? name with
  | none => pure none
  | some handle => do
    let copy ← copyOf handle
    pure (some copy)

end Policy

end ProfilePolicy
