import ProfilePolicy.Config
import ProfilePolicy.Profile

/-!
# Providers

The metadata of both contexts is built from a configuration. Administrators are bound by the
built-in and the configured administrative patterns. Managers are bound by these, by the built-in
and the configured standard patterns, and they cannot change the name. So whatever an administrator
cannot change a manager cannot change either.

A provider hands out profiles that are bound to one snapshot of the metadata. The factory holds the
current snapshot and replaces it as a whole; providers taken before keep theirs.
-/

namespace ProfilePolicy

structure MetadataRegistry where
  contexts : List (Context × ProfileMetadata) := []
  catalog : Catalog := {}
  deriving Inhabited

namespace MetadataRegistry

/-- Patterns that bind managers, whatever the configuration. -/
def builtinReadOnly : List String := ["org_ro_*"]

/-- Patterns that bind everyone, whatever the configuration. -/
def builtinAdminReadOnly : List String := ["admin_org_ro_*"]

def patternRule (identity : Nat) (pattern : Pattern) : Rule :=
  { identity, validator := Validator.readOnlyAttributeId
    config := { pattern := .compiled pattern } }

/-- The rules for lists of patterns; an empty list has none. -/
def patternRules (identity : Nat) : List (List String) → List (Option Rule)
  | [] => []
  | patterns :: rest =>
    (Pattern.compile patterns).map (patternRule identity) :: patternRules (identity + 1) rest

/-- A managing caller may not write the name. -/
def nameWritable : Predicate := fun situation => situation.context != .updateProfile

abbrev AdminBuilder := Config → Context → Catalog → ProfileMetadata × Catalog

/-- The metadata of administrators: the built-in and the configured administrative patterns. -/
def adminMetadata : AdminBuilder := fun config context catalog =>
  let rules := patternRules 0 [builtinAdminReadOnly, config.adminReadOnly]
  let (_, metadata, catalog) :=
    ProfileMetadata.addAttribute { context } readOnlyMarker rules [Predicate.always] catalog
  (metadata, catalog)

/-- The metadata of managers: that of administrators with the standard patterns and a name that may
not be written. -/
def standardMetadata (admin : AdminBuilder) (config : Config) (context : Context)
    (catalog : Catalog) : ProfileMetadata × Catalog :=
  let (base, catalog) := admin config .updateMetadata catalog
  let (metadata, catalog) := base.derive context catalog
  let nameRule : Rule := { identity := 4, validator := Validator.readOnlyNameId }
  let (_, metadata, catalog) :=
    metadata.addAttribute nameKey [some nameRule] [nameWritable] catalog
  let rules := patternRules 2 [builtinReadOnly, config.readOnly]
  match metadata.named readOnlyMarker catalog with
  | handle :: _ => (metadata, catalog.addRules handle rules)
  | [] =>
    let (_, metadata, catalog) :=
      metadata.addAttribute readOnlyMarker rules [Predicate.always] catalog
    (metadata, catalog)

/-- Registers the metadata of a context; a context is registered once. -/
def register (registry : MetadataRegistry) (metadata : ProfileMetadata) :
    Except Fault MetadataRegistry :=
  if registry.contexts.any (·.1 == metadata.context) then
    .error (.configuration (.duplicateContext metadata.context))
  else .ok { registry with contexts := registry.contexts ++ [(metadata.context, metadata)] }

def buildWith (admin : AdminBuilder) (adminContext : Context) (config : Config) :
    Except Fault MetadataRegistry := do
  let (standard, catalog) := standardMetadata admin config .updateProfile {}
  let (privileged, catalog) := admin config adminContext catalog
  let registry ← register { catalog } standard
  registry.register privileged

def build (config : Config) : Except Fault MetadataRegistry :=
  buildWith adminMetadata .updateMetadata config

def get? (registry : MetadataRegistry) (context : Context) : Option ProfileMetadata :=
  (registry.contexts.find? fun entry => entry.1 == context).map (·.2)

end MetadataRegistry

/-- Creates profiles under one snapshot of the metadata. -/
structure Provider where
  registry : MetadataRegistry
  validators : Registry Validator
  deriving Inhabited

namespace Provider

def policy (provider : Provider) (context : Context) : Except Fault Policy :=
  match provider.registry.get? context with
  | none => .error (.missing (.profileMetadata context))
  | some metadata => .ok {
      context
      declared := metadata.declared provider.registry.catalog
      validators := provider.validators }

def create (provider : Provider) (context : Context) (submitted : Keyed Value)
    (organization : Option Organization) : Except Fault Profile := do
  let policy ← provider.policy context
  let episode ← orMishap (policy.begin submitted organization provider.registry.catalog)
  pure { policy, episode }

end Provider

/-- Holds the current metadata and hands out providers. -/
structure ProviderFactory where
  validators : Registry Validator
  current : Option MetadataRegistry := none
  deriving Inhabited

namespace ProviderFactory

/-- A factory over given validators; the built-in ones are added where they are missing. -/
def new (validators : Registry Validator) : ProviderFactory :=
  { validators := validators.registerMissing Validator.builtin }

/-- Whether a configuration is in force. -/
def initialized (factory : ProviderFactory) : Bool :=
  factory.current.isSome

def builtRecord (registry : MetadataRegistry) (config : Config) : Log.Record :=
  .registryBuilt (registry.contexts.map (·.1)) config.readOnly config.adminReadOnly

/-- A step of a factory. A step that fails keeps what it changed before it failed. -/
abbrev Step := EStateM Fault ProviderFactory

/-- Puts a configuration in force. Its metadata is built first and replaced as a whole. -/
def reload (config : Config) : Step Log.Record := do
  let registry ← MonadExcept.ofExcept (MetadataRegistry.build config)
  modify fun factory => { factory with current := some registry }
  pure (builtRecord registry config)

/-- Puts a configuration in force; without one, the configuration without patterns. -/
def init (config : Option Config) : Step Log.Record :=
  reload (config.getD {})

def create (factory : ProviderFactory) : Except Fault Provider :=
  match factory.current with
  | none => .error (.usage .uninitializedProvider)
  | some registry => .ok { registry, validators := factory.validators }

/-- A new factory under a configuration, with a provider over it. -/
def provided (validators : Registry Validator) (config : Config) :
    Except Fault (ProviderFactory × Provider) :=
  match init (some config) (new validators) with
  | .ok _ factory => factory.create.map (factory, ·)
  | .error fault _ => .error fault

end ProviderFactory

end ProfilePolicy
