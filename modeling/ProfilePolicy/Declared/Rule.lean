import ProfilePolicy.Declared.FieldError
import ProfilePolicy.Metadata

/-!
# Declared rules

Patterns, rules and conditions as records declare them. A list of patterns is compiled; whatever
else stands in the place of a pattern is kept for the validator to find.
-/

namespace ProfilePolicy

/-- A pattern as a value declares it; a value that counts as false declares none. -/
def Pattern.ofValue (value : Value) : Except Mishap (Option Pattern) :=
  if !value.truthy then .ok none
  else do
    let items ← value.items
    let patterns ← items.mapM fun item =>
      match item with
      | .text pattern => .ok pattern
      | item => .error (.noOperation item.typeName "endswith")
    pure (Pattern.compile patterns)

/-- Whether a pattern matches a value, which must be a text. -/
def Pattern.matchesValue (pattern : Pattern) (value : Value) : Except Mishap Bool :=
  match value with
  | .text name => .ok (pattern.fullMatch name)
  | value => .error (.notMatchable value.typeName)

def PatternSetting.ofConfig (config : Value) : Except Mishap PatternSetting :=
  match config.part? "patterns", config.part? "pattern" with
  | some patterns, _ => do
    match ← Pattern.ofValue patterns with
    | some pattern => pure (.compiled pattern)
    | none => pure .nothing
  | none, some .null => .ok .nothing
  | none, some value => .ok (.foreign value.typeName)
  | none, none => .ok .unset

def RuleConfig.ofConfig (config : Value) : Except Mishap RuleConfig :=
  (PatternSetting.ofConfig config).map fun pattern => { pattern, settings := config.entries }

/-- A declared rule; nothing declares none. -/
def Rule.ofRecord (identity : Nat) (value : Value) : Except Mishap (Option Rule) :=
  match value with
  | .null => .ok none
  | value => do
    let id ← value.field "id"
    let config ← RuleConfig.ofConfig (value.part "config")
    pure (some { identity, validator := id.textOrEmpty, config })

/-- Declared rules, numbered from an identity on. -/
def Rule.ofRecords (identity : Nat) : List Value → Except Mishap (List (Option Rule))
  | [] => .ok []
  | value :: rest => do
    let rule ← Rule.ofRecord identity value
    let rules ← Rule.ofRecords (identity + 1) rest
    pure (rule :: rules)

def Predicate.ofValue (value : Value) : Predicate :=
  match value with
  | .text "false" => Predicate.never
  | .text "admin" => fun situation => situation.context.isAdmin
  | .text "has_org" => fun situation => situation.organization.isSome
  | .record _ => fun situation =>
    match situation.value with
    | first :: _ => first.same (value.part "first_is")
    | [] => false
  | _ => Predicate.always

/-- The conditions of a declared entry; one that declares none always allows a write. -/
def Predicate.ofRecord (entry : Value) : List Predicate :=
  match entry.part? "write" with
  | none => [Predicate.always]
  | some (.list items) => items.map Predicate.ofValue
  | some item => [Predicate.ofValue item]

def ProfileMetadata.declareAll (metadata : ProfileMetadata) (catalog : Catalog) (identity : Nat) :
    List Value → Except Mishap (ProfileMetadata × Catalog)
  | [] => .ok (metadata, catalog)
  | entry :: rest => do
    let name ← entry.field "name"
    let rules ← Rule.ofRecords identity (entry.parts "validators")
    let (_, metadata, catalog) :=
      metadata.addAttribute name.textOrEmpty rules (Predicate.ofRecord entry) catalog
    metadata.declareAll catalog (identity + rules.length) rest

end ProfilePolicy
