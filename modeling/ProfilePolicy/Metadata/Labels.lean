import ProfilePolicy.Description

/-!
# Metadata under labels

Rules, metadata of attributes and metadata of contexts are told apart by identity. Someone who sets
them up by hand holds them under labels; one object may be held under several. The label of an
object is the first under which this very object is held.
-/

namespace ProfilePolicy

/-- What can be held under a label. -/
inductive Labelled
  | rule (rule : Rule)
  | entry (handle : Handle)
  | profile (identity : Nat) (metadata : ProfileMetadata)
  deriving Inhabited

def Labelled.isSame : Labelled → Labelled → Bool
  | rule left, rule right => left.identity == right.identity
  | entry left, entry right => left == right
  | profile left _, profile right _ => left == right
  | _, _ => false

/-- Objects under labels, with the catalog that stores the metadata of attributes. -/
structure Labels where
  held : Keyed Labelled := []
  catalog : Catalog := {}
  /-- The identity of the next object. -/
  fresh : Nat := 0
  deriving Inhabited

namespace Labels

/-- Holds an object under a label; without a label nothing is held. -/
def hold (labels : Labels) (label : Option String) (item : Labelled) : Labels :=
  match label with
  | some label => { labels with held := labels.held.put label item }
  | none => labels

def find (labels : Labels) (label : Value) : Except Mishap Labelled :=
  match labels.held.get? label.textOrEmpty with
  | some item => .ok item
  | none => .error (.unknownKey label)

/-- The rule under a label; no label means no rule. -/
def rule (labels : Labels) (label : Value) : Except Mishap (Option Rule) :=
  match label with
  | .null => .ok none
  | label => do
    match ← labels.find label with
    | .rule rule => pure (some rule)
    | _ => .error (.unknownKey label)

def entry (labels : Labels) (label : Value) : Except Mishap Handle := do
  match ← labels.find label with
  | .entry handle => pure handle
  | _ => .error (.unknownKey label)

def profile (labels : Labels) (label : Value) : Except Mishap (Nat × ProfileMetadata) := do
  match ← labels.find label with
  | .profile identity metadata => pure (identity, metadata)
  | _ => .error (.unknownKey label)

def newRule (labels : Labels) (label : Option String) (validator : String) (config : RuleConfig) :
    Rule × Labels :=
  let rule : Rule := { identity := labels.fresh, validator, config }
  (rule, { labels.hold label (.rule rule) with fresh := labels.fresh + 1 })

def newEntry (labels : Labels) (label : Option String) (stored : Handle × Catalog) :
    Handle × Labels :=
  (stored.1, { labels with catalog := stored.2 }.hold label (.entry stored.1))

def newProfile (labels : Labels) (label : Option String) (metadata : ProfileMetadata) : Labels :=
  { labels.hold label (.profile labels.fresh metadata) with fresh := labels.fresh + 1 }

def labelOf (labels : Labels) (item : Labelled) : Value :=
  .ofText? ((labels.held.find? fun entry => entry.2.isSame item).map (·.1))

def entryDescription (labels : Labels) (handle : Handle) : Value :=
  let metadata := labels.catalog.entry handle
  .record [
    ("name", .text metadata.name),
    ("validators", .list (metadata.rules.map fun rule => labels.labelOf (.rule rule))),
    ("label", labels.labelOf (.entry handle))]

def profileDescription (labels : Labels) (metadata : ProfileMetadata) : Value :=
  .record [
    ("context", .text metadata.context.name),
    ("attributes", .list (metadata.attributes.map labels.entryDescription))]

end Labels

end ProfilePolicy
