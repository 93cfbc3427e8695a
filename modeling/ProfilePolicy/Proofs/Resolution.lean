import ProfilePolicy.Proofs.Update

/-!
# Rules and their validators

A rule of shared metadata may name a validator that there is not, and this comes up where the rule
is run. Rules see copies of the metadata and may change the values of the set, so the shared rules
are the same whenever they are run. Validation runs all read-only rules as soon as it has a name to
validate, and a name is taken for writable only after all of them were run on it. So a validation
that accepts a set with a name in it, and an answer that a name may be written, both tell that no
read-only rule is without its validator.

This holds for any metadata and for any validators that do not come up with a fault of this kind by
themselves.
-/

namespace ProfilePolicy

/-! ## Validators -/

/-- A defect of the rules or of the way the library is used. -/
def Fault.IsDefect : Fault → Prop
  | missing _ | usage _ => True
  | rejected _ | configuration _ | persistence _ | application _ | mishap _ => False

/-- No validator comes up with a defect by itself. -/
def Registry.IsSturdy (validators : Registry Validator) : Prop :=
  ∀ id validator, Keyed.get? validators id = some validator → ∀ invocation breakdown,
    validator invocation = .error breakdown → ¬ breakdown.fault.IsDefect

section Builtin

variable {invocation : Invocation} {breakdown : Breakdown}

theorem not_isDefect_of_orBreakdown {α : Type} {result : Except Mishap α}
    (h : orBreakdown result = .error breakdown) : ¬ breakdown.fault.IsDefect := by
  cases result with
  | ok value => cases h
  | error cause =>
    cases h
    exact id

theorem not_isDefect_of_readOnlyAttribute
    (h : Validator.readOnlyAttribute invocation = .error breakdown) :
    ¬ breakdown.fault.IsDefect := by
  rw [Validator.readOnlyAttribute] at h
  rcases bind_eq_error h with broken | ⟨pattern, -, h⟩
  · exact not_isDefect_of_orBreakdown broken
  · split at h
    · rcases bind_eq_error h with broken | ⟨unchanged, -, h⟩
      · exact not_isDefect_of_orBreakdown broken
      · split at h <;> cases h
    · cases h

theorem not_isDefect_of_readOnlyName (h : Validator.readOnlyName invocation = .error breakdown) :
    ¬ breakdown.fault.IsDefect := by
  rw [Validator.readOnlyName] at h
  split at h
  · rcases bind_eq_error h with broken | ⟨unchanged, -, h⟩
    · exact not_isDefect_of_orBreakdown broken
    · split at h <;> cases h
  · cases h

/-- The built-in validators fail at most where values cannot be compared. -/
theorem Registry.isSturdy_builtin : Registry.IsSturdy Validator.builtin := by
  intro id validator found invocation breakdown broken
  rw [Validator.builtin, Keyed.get?_cons, Keyed.get?_cons] at found
  split at found
  · cases found
    exact not_isDefect_of_readOnlyAttribute broken
  · split at found
    · cases found
      exact not_isDefect_of_readOnlyName broken
    · cases found

end Builtin

namespace Policy

def Resolves (policy : Policy) (rule : Rule) : Prop :=
  (policy.validators.get? rule.validator).isSome = true

def ResolvesMarker (policy : Policy) (shared : Catalog) : Prop :=
  ∀ handle, policy.declared.get? readOnlyMarker = some handle →
    ∀ rule ∈ (shared.entry handle).rules, policy.Resolves rule

def IsWithin (policy : Policy) (shared : Catalog) : Prop :=
  ∀ handle, policy.declared.get? readOnlyMarker = some handle → handle < shared.entries.length

end Policy

/-- What running rules leaves alone: all but the values of the set, copies of the shared metadata
and the log. -/
structure Episode.Spares (shared : Catalog) (before after : Episode) : Prop where
  organization : after.organization = before.organization
  validated : after.validated = before.validated
  catalog : shared.entries <+: after.catalog.entries

namespace Episode.Spares

variable {shared : Catalog}

theorem refl {episode : Episode} (held : shared.entries <+: episode.catalog.entries) :
    Spares shared episode episode :=
  ⟨rfl, rfl, held⟩

theorem trans {first second third : Episode} (earlier : Spares shared first second)
    (later : Spares shared second third) : Spares shared first third :=
  ⟨later.organization.trans earlier.organization, later.validated.trans earlier.validated,
    later.catalog⟩

end Episode.Spares

/-! ## Shared metadata and its copies -/

/-- Changing an element behind a prefix keeps the prefix. -/
theorem prefix_modify {α : Type} {front whole : List α} {position : Nat} (change : α → α)
    (held : front <+: whole) (behind : front.length ≤ position) :
    front <+: whole.modify position change := by
  induction front generalizing whole position with
  | nil => exact List.nil_prefix
  | cons first rest ih =>
    obtain ⟨tail, rfl⟩ := held
    cases position with
    | zero => cases behind
    | succ position =>
      rw [List.cons_append, List.modify_succ_cons, List.cons_prefix_cons]
      exact ⟨rfl, ih (List.prefix_append rest tail) (Nat.le_of_succ_le_succ behind)⟩

theorem Catalog.entry_of_prefix {shared catalog : Catalog} {handle : Handle}
    (held : shared.entries <+: catalog.entries) (inside : handle < shared.entries.length) :
    catalog.entry handle = shared.entry handle := by
  obtain ⟨rest, same⟩ := held
  rw [Catalog.entry, Catalog.entry, ← same, List.getD_eq_getElem?_getD,
    List.getD_eq_getElem?_getD, List.getElem?_append_left inside]

namespace Policy

open ProfilePolicy.Action

variable {policy : Policy} {shared : Catalog} {episode : Episode} {copy : Handle}

theorem leads_copyOf (held : shared.entries <+: episode.catalog.entries) (handle : Handle) :
    Leads (copyOf handle) episode
      (fun copy after => episode.Spares shared after ∧ shared.entries.length ≤ copy)
      (fun _ _ => False) := by
  refine ⟨⟨rfl, rfl, ?_⟩, held.length_le⟩
  exact held.trans (List.prefix_append _ _)

theorem leads_rulesOf (handle : Handle) :
    Leads (rulesOf handle) episode
      (fun rules after => after = episode ∧ rules = (episode.catalog.entry handle).rules)
      (fun _ _ => False) :=
  ⟨rfl, rfl⟩

theorem leads_logVerdict (held : shared.entries <+: episode.catalog.entries) (tolerated : Bool)
    (name : String) (rule : Rule) (errors : List FieldError) :
    Leads (policy.logVerdict tolerated name rule errors) episode
      (fun _ after => episode.Spares shared after) (fun _ _ => False) :=
  ⟨rfl, rfl, held⟩

/-! ## Running rules -/

section Rules

variable (sturdy : policy.validators.IsSturdy) (isCopy : shared.entries.length ≤ copy)
include sturdy isCopy

/-- A rule that was run has a validator, and one that comes up with a defect has none. -/
theorem leads_runRule (held : shared.entries <+: episode.catalog.entries) (name : String)
    (rule : Rule) :
    Leads (policy.runRule name copy rule) episode
      (fun _ after => episode.Spares shared after ∧ policy.Resolves rule)
      (fun fault after => episode.Spares shared after ∧
        (fault.IsDefect → ¬ policy.Resolves rule)) := by
  unfold Leads runRule Resolves
  cases found : policy.validators.get? rule.validator with
  | none => exact ⟨.refl held, fun _ impossible => Bool.false_ne_true impossible⟩
  | some validator =>
    simp only
    generalize reply : validator _ = outcome
    cases outcome with
    | error breakdown =>
      refine ⟨⟨rfl, rfl, held⟩, fun defect => ?_⟩
      exact absurd defect (sturdy _ _ found _ _ reply)
    | ok reply => exact ⟨⟨rfl, rfl, prefix_modify _ held isCopy⟩, rfl⟩

/-- Rules of which none fails all have a validator. -/
theorem leads_anyFails (held : shared.entries <+: episode.catalog.entries) (name : String)
    (rules : List Rule) :
    Leads (policy.anyFails name copy rules) episode
      (fun failed after => episode.Spares shared after ∧
        (failed = false → ∀ rule ∈ rules, policy.Resolves rule))
      (fun fault after => episode.Spares shared after ∧
        (fault.IsDefect → ¬ ∀ rule ∈ rules, policy.Resolves rule)) := by
  induction rules generalizing episode with
  | nil => exact ⟨.refl held, fun _ rule mem => absurd mem List.not_mem_nil⟩
  | cons rule rest ih =>
    rw [anyFails, leads_bind]
    refine (leads_runRule sturdy isCopy held name rule).mono ?_ ?_
    · rintro errors between ⟨same, resolved⟩
      split
      · refine (ih same.catalog).mono ?_ ?_
        · rintro failed after ⟨same', others⟩
          exact ⟨same.trans same', fun none => List.forall_mem_cons.mpr ⟨resolved, others none⟩⟩
        · rintro fault after ⟨same', missing⟩
          exact ⟨same.trans same', fun defect all =>
            missing defect (List.forall_mem_cons.mp all).2⟩
      · exact ⟨same, fun impossible => by cases impossible⟩
    · rintro fault after ⟨same, missing⟩
      exact ⟨same, fun defect all => missing defect (List.forall_mem_cons.mp all).1⟩

/-- Rules that were all run have a validator. -/
theorem leads_applyRules (held : shared.entries <+: episode.catalog.entries) (name : String)
    (handle : Handle) (rules : List Rule) :
    Leads (policy.applyRules name handle copy rules) episode
      (fun _ after => episode.Spares shared after ∧ ∀ rule ∈ rules, policy.Resolves rule)
      (fun _ after => episode.Spares shared after) := by
  induction rules generalizing episode with
  | nil => exact ⟨.refl held, fun rule mem => absurd mem List.not_mem_nil⟩
  | cons rule rest ih =>
    rw [applyRules, leads_bind]
    refine (leads_runRule sturdy isCopy held name rule).mono ?_ fun _ _ failed => failed.1
    rintro errors between ⟨same, resolved⟩
    split
    · refine (ih same.catalog).mono ?_ fun _ _ same' => same.trans same'
      rintro verdict after ⟨same', others⟩
      exact ⟨same.trans same', List.forall_mem_cons.mpr ⟨resolved, others⟩⟩
    · rw [leads_bind, leads_inspect]
      refine ⟨fun tolerated _ => ?_, fun _ _ => same⟩
      rw [leads_bind]
      refine (leads_logVerdict same.catalog tolerated name rule errors).mono ?_ ?_
      · intro _ logged noted
        have sofar := same.trans noted
        rw [leads_bind]
        refine (ih noted.catalog).mono ?_ fun _ _ same' => sofar.trans same'
        rintro others after ⟨same', resolves⟩
        have all : ∀ rule' ∈ rule :: rest, policy.Resolves rule' :=
          List.forall_mem_cons.mpr ⟨resolved, resolves⟩
        split <;> exact ⟨sofar.trans same', all⟩
      · exact fun _ _ impossible => impossible.elim

end Rules

/-! ## Validation -/

theorem mem_candidates (name : String) {handle : Handle}
    (declared : policy.declared.get? readOnlyMarker = some handle) :
    handle ∈ policy.candidates name := by
  rw [candidates, declared]
  split
  · rename_i same
    rw [eq_of_beq same]
    exact List.mem_singleton_self handle
  · exact List.mem_append_right _ (List.mem_singleton_self handle)

section Validation

variable (sturdy : policy.validators.IsSturdy)
include sturdy

/-- After shared rules were applied there is a validator for all of them. -/
theorem leads_applyMetadata (held : shared.entries <+: episode.catalog.entries) (name : String)
    (handles : List Handle) :
    Leads (policy.applyMetadata name handles) episode
      (fun _ after => episode.Spares shared after ∧
        ∀ handle ∈ handles, handle < shared.entries.length →
          ∀ rule ∈ (shared.entry handle).rules, policy.Resolves rule)
      (fun _ after => episode.Spares shared after) := by
  induction handles generalizing episode with
  | nil => exact ⟨.refl held, fun handle mem => absurd mem List.not_mem_nil⟩
  | cons handle rest ih =>
    rw [applyMetadata, leads_bind]
    refine (leads_copyOf held handle).mono ?_ fun _ _ impossible => impossible.elim
    rintro copy copied ⟨same, isCopy⟩
    rw [leads_bind]
    refine (leads_rulesOf handle).mono ?_ fun _ _ impossible => impossible.elim
    rintro _ _ ⟨rfl, rfl⟩
    rw [leads_bind]
    refine (leads_applyRules sturdy isCopy same.catalog name handle _).mono ?_
      fun _ _ same' => same.trans same'
    rintro verdict between ⟨same', resolved⟩
    have sofar := same.trans same'
    rw [leads_bind]
    refine (ih same'.catalog).mono ?_ fun _ _ same'' => sofar.trans same''
    rintro others after ⟨same'', resolves⟩
    refine ⟨sofar.trans same'', List.forall_mem_cons.mpr ⟨fun inside => ?_, resolves⟩⟩
    rw [Catalog.entry_of_prefix same.catalog inside] at resolved
    exact resolved

/-- Validating one name meets all read-only rules. -/
theorem leads_validateName (located : policy.IsWithin shared)
    (held : shared.entries <+: episode.catalog.entries) (name : String) :
    Leads (policy.validateName name) episode
      (fun _ after => episode.Spares shared after ∧ policy.ResolvesMarker shared)
      (fun _ after => episode.Spares shared after) := by
  refine (leads_applyMetadata sturdy held name (policy.candidates name)).mono ?_
    fun _ _ same => same
  rintro verdict after ⟨same, resolves⟩
  exact ⟨same, fun handle declared =>
    resolves handle (mem_candidates name declared) (located handle declared)⟩

end Validation

/-! ## Asking read-only rules -/

theorem resolvesMarker_iff {handle : Handle}
    (declared : policy.declared.get? readOnlyMarker = some handle) :
    policy.ResolvesMarker shared ↔ ∀ rule ∈ (shared.entry handle).rules, policy.Resolves rule := by
  constructor
  · exact fun resolves => resolves handle declared
  · intro resolves other same
    cases declared.symm.trans same
    exact resolves

section ReadOnly

variable (sturdy : policy.validators.IsSturdy) (located : policy.IsWithin shared)
variable (held : shared.entries <+: episode.catalog.entries)
include sturdy located held

/-- A name that no read-only rule denies was put to all of them. -/
theorem leads_deniedByRule (name : String) :
    Leads (policy.deniedByRule name) episode
      (fun denied after => episode.Spares shared after ∧
        (denied = false → policy.ResolvesMarker shared))
      (fun fault after => episode.Spares shared after ∧
        (fault.IsDefect → ¬ policy.ResolvesMarker shared)) := by
  rw [deniedByRule]
  cases declared : policy.declared.get? readOnlyMarker with
  | none =>
    refine ⟨.refl held, fun _ handle known => ?_⟩
    cases declared.symm.trans known
  | some handle =>
    rw [resolvesMarker_iff declared]
    simp only [leads_bind]
    refine (leads_copyOf held handle).mono ?_ fun _ _ impossible => impossible.elim
    rintro copy copied ⟨same, isCopy⟩
    refine (leads_rulesOf handle).mono ?_ fun _ _ impossible => impossible.elim
    rintro _ _ ⟨rfl, rfl⟩
    rw [Catalog.entry_of_prefix same.catalog (located handle declared)]
    refine (leads_anyFails sturdy isCopy same.catalog name _).mono ?_ ?_
    · exact fun denied after asked => ⟨same.trans asked.1, asked.2⟩
    · exact fun fault after asked => ⟨same.trans asked.1, asked.2⟩

theorem leads_isReadOnly (name : String) :
    Leads (policy.isReadOnly name) episode
      (fun kept after => episode.Spares shared after ∧
        (kept = false → policy.ResolvesMarker shared))
      (fun fault after => episode.Spares shared after ∧
        (fault.IsDefect → ¬ policy.ResolvesMarker shared)) := by
  rw [isReadOnly]
  split
  · exact ⟨.refl held, fun impossible => by cases impossible⟩
  · rw [leads_bind, leads_get]
    split
    · exact ⟨.refl held, fun impossible => by cases impossible⟩
    · exact leads_deniedByRule sturdy located held name

end ReadOnly

end Policy

namespace Profile

open ProfilePolicy.Action

variable {policy : Policy} {shared : Catalog} {episode : Episode}

section Validation

variable (sturdy : policy.validators.IsSturdy) (located : policy.IsWithin shared)
variable (held : shared.entries <+: episode.catalog.entries)
include sturdy located held

/-- Validating names meets all read-only rules, unless there is nothing to validate. -/
theorem leads_collectErrors (names : List String) (report : Report) :
    Leads (collectErrors policy report names) episode
      (fun _ after => episode.Spares shared after ∧
        (policy.ResolvesMarker shared ∨ names = [] ∧ after = episode))
      (fun _ after => episode.Spares shared after) := by
  induction names generalizing episode report with
  | nil => exact ⟨.refl held, Or.inr ⟨rfl, rfl⟩⟩
  | cons name rest ih =>
    rw [collectErrors, leads_bind]
    refine (Policy.leads_validateName sturdy located held name).mono ?_ fun _ _ same => same
    rintro verdict between ⟨same, resolves⟩
    refine (ih same.catalog _).mono ?_ fun _ _ same' => same.trans same'
    rintro report' after ⟨same', -⟩
    exact ⟨same.trans same', Or.inl resolves⟩

/-- A set that was accepted is empty, or all read-only rules were met. A validation that fails does
not raise the flag. -/
theorem leads_validate_any (order : Order) :
    Leads (validate policy order.visit) episode
      (fun _ after => after.organization = episode.organization ∧
        shared.entries <+: after.catalog.entries ∧
        (policy.ResolvesMarker shared ∨ after.values = []))
      (fun _ after => episode.Spares shared after) := by
  rw [validate, leads_bind, leads_get, leads_bind]
  refine (leads_collectErrors sturdy located held _ _).mono ?_ fun _ _ same => same
  rintro report after ⟨same, met⟩
  rw [leads_bind, leads_get]
  split
  · refine ⟨same.organization, same.catalog, ?_⟩
    rcases met with resolves | ⟨nothing, rfl⟩
    · exact Or.inl resolves
    · right
      have noNames : after.values.names = [] := (nothing ▸ order.perm _).nil_eq.symm
      exact List.map_eq_nil_iff.mp noNames
  · rw [leads_bind, leads_set, leads_throw]
    exact same.trans ⟨rfl, rfl, same.catalog⟩

end Validation

end Profile

/-- The entry that counts for the read-only marker is there, whatever the metadata refers to. -/
theorem Provider.isWithin_policy {provider : Provider} {context : Context} {policy : Policy}
    (found : provider.policy context = .ok policy) :
    policy.validators = provider.validators ∧ policy.IsWithin provider.registry.catalog := by
  rw [Provider.policy] at found
  split at found
  · cases found
  · rename_i metadata _
    cases found
    refine ⟨rfl, fun handle declared => ?_⟩
    obtain ⟨reference, -, same⟩ := List.mem_map.mp (Keyed.mem_of_get?_ofPairs declared)
    obtain ⟨named, rfl⟩ := Prod.mk.inj same
    refine Classical.byContradiction fun outside => ?_
    -- what a reference that leads nowhere stands for has no name
    have nameless : (provider.registry.catalog.entry reference).name = "" := by
      rw [Catalog.entry, List.getD_eq_getElem?_getD,
        List.getElem?_eq_none (Nat.le_of_not_lt outside)]
      rfl
    rw [nameless] at named
    exact absurd named (by decide)

end ProfilePolicy
