import ProfilePolicy.Provider
import ProfilePolicy.Proofs.Keyed

/-!
# The built-in policy

What a configuration binds in a context is a list of matchers: the built-in and the configured
administrative patterns in both contexts, and in the context of managers also the built-in and the
configured standard ones. The metadata built from a configuration carries these matchers, in this
order, as rules under the read-only marker, and in the context of managers a rule for the name. The
handles of the entries are fixed, so a catalog that was only added to still holds them.
-/

namespace ProfilePolicy

namespace Config

/-- The pattern lists that bind the callers of a context, in the order of their rules. -/
def patternLists (config : Config) : Context → List (List String)
  | .updateMetadata => [MetadataRegistry.builtinAdminReadOnly, config.adminReadOnly]
  | .updateProfile =>
    [MetadataRegistry.builtinAdminReadOnly, config.adminReadOnly,
      MetadataRegistry.builtinReadOnly, config.readOnly]

/-- The matchers that bind the callers of a context; a list without patterns has none. -/
def matchers (config : Config) (context : Context) : List Pattern :=
  (config.patternLists context).filterMap Pattern.compile

def matchCount (config : Config) (context : Context) (name : String) : Nat :=
  (config.matchers context).countP (·.fullMatch name)

/-- A read-only pattern of the context matches the name. -/
def Protects (config : Config) (context : Context) (name : String) : Prop :=
  ∃ matcher ∈ config.matchers context, matcher.fullMatch name = true

instance (config : Config) (context : Context) (name : String) :
    Decidable (config.Protects context name) :=
  inferInstanceAs (Decidable (∃ matcher ∈ config.matchers context, matcher.fullMatch name = true))

theorem protects_iff_matchCount_pos {config : Config} {context : Context} {name : String} :
    config.Protects context name ↔ 0 < config.matchCount context name :=
  List.countP_pos_iff.symm

/-- What binds administrators binds managers. -/
theorem Protects.manager {config : Config} {name : String}
    (h : config.Protects .updateMetadata name) (context : Context) :
    config.Protects context name := by
  cases context with
  | updateMetadata => exact h
  | updateProfile =>
    obtain ⟨matcher, mem, covers⟩ := h
    refine ⟨matcher, ?_, covers⟩
    simp only [matchers, patternLists, List.mem_filterMap] at mem ⊢
    obtain ⟨patterns, listed, compiled⟩ := mem
    exact ⟨patterns, List.mem_append_left [_, _] listed, compiled⟩

end Config

/-- Whether a rule carries a matcher that covers a name. -/
def Rule.binds (rule : Rule) (name : String) : Bool :=
  match rule.config.pattern with
  | .compiled pattern => pattern.fullMatch name
  | _ => false

/-- A rule that rejects changes to names that a matcher covers. -/
def Rule.IsPatternRule (rule : Rule) : Prop :=
  ∃ identity pattern, rule = MetadataRegistry.patternRule identity pattern

namespace MetadataRegistry

theorem binds_patternRule (identity : Nat) (pattern : Pattern) (name : String) :
    (patternRule identity pattern).binds name = pattern.fullMatch name := rfl

theorem patternRules_isPatternRule {identity : Nat} {lists : List (List String)} {rule : Rule}
    (mem : rule ∈ (patternRules identity lists).filterMap id) : rule.IsPatternRule := by
  induction lists generalizing identity with
  | nil => cases mem
  | cons patterns rest ih =>
    rw [patternRules] at mem
    cases compiled : Pattern.compile patterns with
    | none =>
      rw [compiled] at mem
      exact ih mem
    | some pattern =>
      rw [compiled] at mem
      rcases List.mem_cons.mp mem with rfl | mem
      · exact ⟨identity, pattern, rfl⟩
      · exact ih mem

theorem countP_patternRules (identity : Nat) (lists : List (List String)) (name : String) :
    ((patternRules identity lists).filterMap id).countP (·.binds name) =
      (lists.filterMap Pattern.compile).countP (·.fullMatch name) := by
  induction lists generalizing identity with
  | nil => rfl
  | cons patterns rest ih =>
    rw [patternRules]
    cases compiled : Pattern.compile patterns with
    | none =>
      rw [List.filterMap_cons_none compiled]
      exact ih _
    | some pattern =>
      rw [List.filterMap_cons_some compiled, List.countP_cons, ← ih (identity + 1),
        ← binds_patternRule identity pattern name]
      exact List.countP_cons

def markerRules (config : Config) : Context → List Rule
  | .updateMetadata => (patternRules 0 [builtinAdminReadOnly, config.adminReadOnly]).filterMap id
  | .updateProfile =>
    (patternRules 0 [builtinAdminReadOnly, config.adminReadOnly]).filterMap id ++
      (patternRules 2 [builtinReadOnly, config.readOnly]).filterMap id

theorem markerRules_isPatternRule {config : Config} {context : Context} {rule : Rule}
    (mem : rule ∈ markerRules config context) : rule.IsPatternRule := by
  cases context with
  | updateMetadata => exact patternRules_isPatternRule mem
  | updateProfile =>
    rcases List.mem_append.mp mem with mem | mem
    · exact patternRules_isPatternRule mem
    · exact patternRules_isPatternRule mem

/-- A name is covered by as many rules as matchers. -/
theorem countP_markerRules (config : Config) (context : Context) (name : String) :
    (markerRules config context).countP (·.binds name) = config.matchCount context name := by
  cases context with
  | updateMetadata => exact countP_patternRules _ _ _
  | updateProfile =>
    rw [markerRules, List.countP_append, countP_patternRules, countP_patternRules,
      ← List.countP_append, ← List.filterMap_append]
    rfl

def nameRule : Rule := { identity := 4, validator := Validator.readOnlyNameId }

def markerMetadata (config : Config) (context : Context) : AttributeMetadata :=
  { name := readOnlyMarker, rules := markerRules config context }

def nameMetadata : AttributeMetadata :=
  { name := nameKey, writeAllowed := [nameWritable], rules := [nameRule] }

/-- All entries that are stored while the metadata of both contexts is built. The first one is what
the metadata of managers was derived from. -/
def builtinEntries (config : Config) : List AttributeMetadata :=
  [markerMetadata config .updateMetadata, markerMetadata config .updateProfile, nameMetadata,
    markerMetadata config .updateMetadata]

def builtin (config : Config) : MetadataRegistry :=
  { contexts := [
      (.updateProfile, { context := .updateProfile, attributes := [1, 2] }),
      (.updateMetadata, { context := .updateMetadata, attributes := [3] })]
    catalog := { entries := builtinEntries config } }

/-- The standard rules come after the administrative ones and displace none of them. -/
theorem addRules_standard (config : Config) :
    (markerMetadata config .updateMetadata).addRules
      (patternRules 2 [builtinReadOnly, config.readOnly]) =
      markerMetadata config .updateProfile := by
  simp only [markerMetadata, markerRules, AttributeMetadata.addRules, patternRules]
  generalize Pattern.compile builtinAdminReadOnly = builtinAdmin
  generalize Pattern.compile config.adminReadOnly = admin
  generalize Pattern.compile builtinReadOnly = builtinStandard
  generalize Pattern.compile config.readOnly = standard
  cases builtinAdmin <;> cases admin <;> cases builtinStandard <;> cases standard <;> rfl

/-- Building never fails, and this is what is built. -/
theorem build_eq (config : Config) : build config = .ok (builtin config) := by
  have standard : standardMetadata adminMetadata config .updateProfile {} =
      ({ context := .updateProfile, attributes := [1, 2] },
        { entries := (builtinEntries config).take 3 }) := by
    have derived : standardMetadata adminMetadata config .updateProfile {} =
      ({ context := .updateProfile, attributes := [1, 2] },
        { entries := [markerMetadata config .updateMetadata,
            (markerMetadata config .updateMetadata).addRules
              (patternRules 2 [builtinReadOnly, config.readOnly]), nameMetadata] }) := rfl
    rw [derived, addRules_standard]
    rfl
  rw [build, buildWith, standard]
  rfl

end MetadataRegistry

/-- The handles that count for the declared names of a context. -/
def MetadataRegistry.builtinHandles : Context → Keyed Handle
  | .updateProfile => [(readOnlyMarker, 1), (nameKey, 2)]
  | .updateMetadata => [(readOnlyMarker, 3)]

def MetadataRegistry.markerHandle : Context → Handle
  | .updateProfile => 1
  | .updateMetadata => 3

/-- A catalog in which the built-in entries are still as they were built. -/
def Catalog.Holds (catalog : Catalog) (config : Config) : Prop :=
  MetadataRegistry.builtinEntries config <+: catalog.entries

/-- A policy over the built-in metadata and the built-in validators. Other validators may be
registered besides them. -/
structure Policy.IsBuiltin (policy : Policy) : Prop where
  declared : policy.declared = MetadataRegistry.builtinHandles policy.context
  attributeRule :
    policy.validators.get? Validator.readOnlyAttributeId = some Validator.readOnlyAttribute
  nameRule : policy.validators.get? Validator.readOnlyNameId = some Validator.readOnlyName

/-- A provider over the metadata of a configuration and the built-in validators. -/
structure Provider.IsBuiltin (provider : Provider) (config : Config) : Prop where
  built : MetadataRegistry.build config = .ok provider.registry
  attributeRule :
    provider.validators.get? Validator.readOnlyAttributeId = some Validator.readOnlyAttribute
  nameRule : provider.validators.get? Validator.readOnlyNameId = some Validator.readOnlyName

/-- The provider that a fresh factory hands out under a configuration. -/
def Provider.standard (config : Config) : Provider :=
  { registry := MetadataRegistry.builtin config, validators := Validator.builtin }

theorem Provider.isBuiltin_standard (config : Config) :
    (Provider.standard config).IsBuiltin config :=
  ⟨MetadataRegistry.build_eq config, rfl, rfl⟩

namespace Provider.IsBuiltin

variable {provider : Provider} {config : Config}

theorem registry_eq (builtin : provider.IsBuiltin config) :
    provider.registry = MetadataRegistry.builtin config := by
  have h := builtin.built
  rw [MetadataRegistry.build_eq] at h
  exact (Except.ok.inj h).symm

/-- There is a policy for either context. -/
theorem policy_eq (builtin : provider.IsBuiltin config) (context : Context) :
    provider.policy context = .ok {
      context
      declared := MetadataRegistry.builtinHandles context
      validators := provider.validators } := by
  rw [Provider.policy, builtin.registry_eq]
  cases context <;> rfl

theorem isBuiltin_policy (builtin : provider.IsBuiltin config) {context : Context}
    {policy : Policy} (h : provider.policy context = .ok policy) :
    policy.context = context ∧ policy.IsBuiltin := by
  rw [builtin.policy_eq] at h
  cases h
  exact ⟨rfl, rfl, builtin.attributeRule, builtin.nameRule⟩

theorem holds_catalog (builtin : provider.IsBuiltin config) :
    provider.registry.catalog.Holds config := by
  rw [builtin.registry_eq]
  exact List.prefix_rfl

end Provider.IsBuiltin

/-- Looking at an episode keeps the built-in entries. -/
theorem Catalog.Holds.mono {config : Config} {before after : Catalog} (holds : before.Holds config)
    (grown : before.entries <+: after.entries) : after.Holds config :=
  List.IsPrefix.trans holds grown

namespace Policy.IsBuiltin

variable {policy : Policy} {config : Config} {catalog : Catalog}

theorem entry_of_holds (holds : catalog.Holds config) {handle : Handle} {metadata : AttributeMetadata}
    (h : (MetadataRegistry.builtinEntries config)[handle]? = some metadata) :
    catalog.entry handle = metadata := by
  obtain ⟨rest, same⟩ := holds
  have inside : handle < (MetadataRegistry.builtinEntries config).length :=
    (List.getElem?_eq_some_iff.mp h).1
  rw [Catalog.entry, ← same, List.getD_eq_getElem?_getD, List.getElem?_append_left inside, h]
  rfl

theorem entry_marker (holds : catalog.Holds config) (context : Context) :
    catalog.entry (MetadataRegistry.markerHandle context) =
      MetadataRegistry.markerMetadata config context := by
  cases context <;> exact entry_of_holds holds rfl

theorem entry_name (holds : catalog.Holds config) :
    catalog.entry 2 = MetadataRegistry.nameMetadata :=
  entry_of_holds holds rfl

theorem declared_marker (builtin : policy.IsBuiltin) :
    policy.declared.get? readOnlyMarker = some (MetadataRegistry.markerHandle policy.context) := by
  rw [builtin.declared]
  cases policy.context <;> rfl

theorem declared_name (builtin : policy.IsBuiltin) :
    policy.declared.get? nameKey = if policy.context = .updateProfile then some 2 else none := by
  rw [builtin.declared]
  cases policy.context <;> rfl

theorem declared_other (builtin : policy.IsBuiltin) {name : String} (notMarker : name ≠ readOnlyMarker)
    (notName : name ≠ nameKey) : policy.declared.get? name = none := by
  rw [builtin.declared]
  cases policy.context <;>
    simp [MetadataRegistry.builtinHandles, Keyed.get?_cons, notMarker, notName]

/-- Nothing but the name is denied by metadata, and that to managers alone. -/
theorem deniedByMetadata_eq (builtin : policy.IsBuiltin) {episode : Episode}
    (holds : episode.catalog.Holds config) (name : String) :
    policy.deniedByMetadata name episode =
      (decide (policy.context = .updateProfile) && name == nameKey) := by
  rw [Policy.deniedByMetadata]
  by_cases isMarker : name = readOnlyMarker
  · rw [isMarker, builtin.declared_marker]
    simp only [entry_marker holds, MetadataRegistry.markerMetadata, AttributeMetadata.canEdit,
      List.all_cons, List.all_nil, Predicate.always]
    cases policy.context <;> rfl
  · by_cases isName : name = nameKey
    · rw [isName, builtin.declared_name]
      cases same : policy.context with
      | updateMetadata => rfl
      | updateProfile =>
        simp only [if_true, entry_name holds, MetadataRegistry.nameMetadata,
          AttributeMetadata.canEdit, List.all_cons, List.all_nil, MetadataRegistry.nameWritable,
          Policy.situation, same]
        rfl
    · rw [builtin.declared_other isMarker isName]
      simp [isName]

end Policy.IsBuiltin

end ProfilePolicy
