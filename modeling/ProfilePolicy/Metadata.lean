import ProfilePolicy.Organization
import ProfilePolicy.Pattern
import ProfilePolicy.Submission

/-!
# Attribute metadata

The rules of attributes, per context. A rule names a validator and configures it; rules are compared
by identity, so the same rule can be shared by several attributes and moved inside a list. The
metadata of an attribute holds predicates, all of which must allow a write, and a list of rules.
Metadata is shared between profiles: it lives in a catalog and is referred to by its handle, and the
metadata of a context is a list of handles.

Patterns of read-only names belong to no single attribute. They are carried by metadata under a
reserved name, the read-only marker, whose rules run on every attribute of a submission.
-/

namespace ProfilePolicy

/-- The attribute name under which the name of an organization is submitted. -/
def nameKey : String := "name"

/-- The reserved name under which metadata carries the patterns of read-only names. -/
def readOnlyMarker : String := "org.read.only"

inductive PatternSetting
  | unset
  /-- A pattern list without patterns. -/
  | nothing
  | compiled (pattern : Pattern)
  /-- A value of a type that is no pattern. -/
  | foreign (type : String)
  deriving DecidableEq, Repr, Inhabited

structure RuleConfig where
  pattern : PatternSetting := .unset
  settings : Keyed Value := []
  deriving Repr, Inhabited

/-- A reference to a validator with its configuration. -/
structure Rule where
  /-- What tells rules apart; two rules with equal contents may still be different ones. -/
  identity : Nat
  /-- The id of the validator. -/
  validator : String
  config : RuleConfig := {}
  deriving Repr, Inhabited

abbrev AttributeValues := Keyed (List Value)

/-- What a rule or a predicate may consult: the attribute under evaluation and the current values of
the whole set. -/
structure Situation where
  context : Context
  name : String
  organization : Option Organization
  values : AttributeValues
  deriving Inhabited

namespace Situation

def value (situation : Situation) : List Value :=
  (situation.values.get? situation.name).getD []

/-- A situation in one line, with the name of the metadata that is consulted in it. -/
def line (situation : Situation) (metadataName : String) : String :=
  "AttributeContext(context=" ++ situation.context.name ++ ", name=" ++
    Text.quoted situation.name ++ ", metadata=" ++ Text.quoted metadataName ++ ")"

end Situation

/-- A condition under which an attribute may be written. -/
abbrev Predicate := Situation → Bool

def Predicate.always : Predicate := fun _ => true

def Predicate.never : Predicate := fun _ => false

structure AttributeMetadata where
  name : String
  writeAllowed : List Predicate := [Predicate.always]
  rules : List Rule := []
  deriving Inhabited

namespace AttributeMetadata

/-- The type of the first value that a rule has in the place of its pattern. -/
def foreignPattern? (metadata : AttributeMetadata) : Option String :=
  metadata.rules.findSome? fun rule =>
    match rule.config.pattern with
    | .foreign type => some type
    | _ => none

/-- Whether all predicates allow a write. -/
def canEdit (metadata : AttributeMetadata) (situation : Situation) : Bool :=
  metadata.writeAllowed.all fun predicate => predicate situation

/-- Appends rules; a rule already in the list moves to the end. -/
def addRules (metadata : AttributeMetadata) (incoming : List (Option Rule)) : AttributeMetadata :=
  let incoming := incoming.filterMap id
  { metadata with
    rules := metadata.rules.filter (fun rule => !incoming.any (·.identity == rule.identity)) ++
      incoming }

def line (metadata : AttributeMetadata) : String :=
  "AttributeMetadata(name=" ++ Text.quoted metadata.name ++ ", validators=" ++
    (Value.ofTexts (metadata.rules.map (·.validator))).quoted ++ ")"

end AttributeMetadata

abbrev Handle := Nat

/-- All metadata objects, by handle. -/
structure Catalog where
  entries : List AttributeMetadata := []
  deriving Inhabited

namespace Catalog

def entry (catalog : Catalog) (handle : Handle) : AttributeMetadata :=
  catalog.entries.getD handle { name := "" }

/-- Stores a new entry and returns its handle. -/
def store (catalog : Catalog) (metadata : AttributeMetadata) : Handle × Catalog :=
  (catalog.entries.length, { entries := catalog.entries ++ [metadata] })

/-- Stores a copy of an entry and returns the copy's handle. -/
def clone (catalog : Catalog) (handle : Handle) : Handle × Catalog :=
  catalog.store (catalog.entry handle)

def addRules (catalog : Catalog) (handle : Handle) (incoming : List (Option Rule)) : Catalog :=
  { entries := catalog.entries.modify handle fun metadata => metadata.addRules incoming }

def cloneAll (catalog : Catalog) : List Handle → List Handle × Catalog
  | [] => ([], catalog)
  | handle :: rest =>
    let (copy, catalog) := catalog.clone handle
    let (copies, catalog) := catalog.cloneAll rest
    (copy :: copies, catalog)

end Catalog

/-- The attribute rules that apply in one context. A name may occur several times. -/
structure ProfileMetadata where
  context : Context
  attributes : List Handle := []
  deriving DecidableEq, Repr, Inhabited

namespace ProfileMetadata

/-- Metadata for a context that starts from copies of other metadata. -/
def derive (base : ProfileMetadata) (context : Context) (catalog : Catalog) :
    ProfileMetadata × Catalog :=
  let (attributes, catalog) := catalog.cloneAll base.attributes
  ({ context, attributes }, catalog)

def addAttributes (metadata : ProfileMetadata) (handles : List Handle) : ProfileMetadata :=
  { metadata with attributes := metadata.attributes ++ handles }

def addAttribute (metadata : ProfileMetadata) (name : String) (rules : List (Option Rule))
    (writeAllowed : List Predicate) (catalog : Catalog) : Handle × ProfileMetadata × Catalog :=
  let (handle, catalog) := catalog.store (AttributeMetadata.addRules { name, writeAllowed } rules)
  (handle, metadata.addAttributes [handle], catalog)

def named (metadata : ProfileMetadata) (name : String) (catalog : Catalog) : List Handle :=
  metadata.attributes.filter fun handle => (catalog.entry handle).name == name

/-- The entry that counts for each declared name: the last one, at the place of the first. -/
def declared (metadata : ProfileMetadata) (catalog : Catalog) : Keyed Handle :=
  Keyed.ofPairs (metadata.attributes.map fun handle => ((catalog.entry handle).name, handle))

def line (metadata : ProfileMetadata) (catalog : Catalog) : String :=
  "ProfileMetadata(context=" ++ metadata.context.name ++ ", attributes=[" ++
    Value.joined ", " (metadata.attributes.map fun handle => (catalog.entry handle).line) ++ "])"

end ProfileMetadata

end ProfilePolicy
