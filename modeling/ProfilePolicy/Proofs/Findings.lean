import ProfilePolicy.Proofs.Action
import ProfilePolicy.Proofs.Builtin
import ProfilePolicy.Proofs.Contents

/-!
# What the built-in rules find

The built-in rules look at the situation of a name and at nothing else, so what validating the name
and asking whether it is read-only come to are functions of the situation. They are defined here
without rules, copies and logs, and the evaluation of a built-in policy is shown to compute them.
A comparison that cannot be made ends the evaluation, since rules compare with the persisted values
unless there is no organization.
-/

namespace ProfilePolicy

namespace Situation

/-- The values that the organization has stored under the name, if there is one. -/
def stored (situation : Situation) : StoredValues :=
  match situation.organization with
  | some organization => organization.valuesOf situation.name
  | none => []

/-- The values that count as the present ones: for the name that of the organization. -/
def persisted (situation : Situation) : List Value :=
  if situation.name = nameKey then Validator.storedName situation.organization
  else situation.stored

/-- Whether there is an organization and the contents of its present values are submitted again. -/
def tolerates (situation : Situation) : Except Mishap Bool :=
  if situation.organization.isNone then .ok false
  else do
    let current ← nonBlank situation.persisted
    let submitted ← nonBlank situation.value
    pure (sameCollection current submitted)

/-- Whether a rule that compares the current values with existing ones is reported: it finds them
changed, and this is not tolerated. -/
def reports (situation : Situation) (existing : List Value) : Except Mishap Bool := do
  let unchanged ← Value.unchangedValues (.list existing) (.list situation.value)
  if unchanged then pure false else situation.tolerates.map (!·)

end Situation

namespace Policy

def attributeError (name : String) : FieldError :=
  { validator := Validator.readOnlyAttributeId, field := name,
    message := Validator.readOnlyAttributeMessage }

def nameError : FieldError :=
  { validator := Validator.readOnlyNameId, field := nameKey,
    message := Validator.readOnlyNameMessage }

/-- What rules that compare with the same existing values find together: the same error each. -/
def repeated (situation : Situation) (existing : List Value) (count : Nat) (error : FieldError) :
    Except Mishap (List FieldError) :=
  if count = 0 then .ok []
  else (situation.reports existing).map fun reported =>
    if reported then List.replicate count error else []

/-- How many rules of their own the metadata has for a name. -/
def ownRules (context : Context) (name : String) : Nat :=
  if context = .updateProfile ∧ name = nameKey then 1 else 0

def both (first second : Except Mishap (List FieldError)) : Except Mishap (List FieldError) := do
  let own ← first
  let others ← second
  pure (own ++ others)

/-- The errors that validating a name comes to. -/
def finding (config : Config) (situation : Situation) : Except Mishap (List FieldError) :=
  both (repeated situation (Validator.storedName situation.organization)
      (ownRules situation.context situation.name) nameError)
    (repeated situation situation.stored
      (config.matchCount situation.context situation.name) (attributeError situation.name))

/-- Whether one of several rules that cover a name rejects its current values. -/
def anyRejects (situation : Situation) (count : Nat) : Except Mishap Bool :=
  if count = 0 then .ok false
  else (Value.unchangedValues (.list situation.stored) (.list situation.value)).map (!·)

/-- Whether a read-only rule rejects the current values of a name. -/
def rejection (config : Config) (situation : Situation) : Except Mishap Bool :=
  anyRejects situation (config.matchCount situation.context situation.name)

end Policy

theorem Catalog.addRules_nil (catalog : Catalog) (handle : Handle) :
    catalog.addRules handle [] = catalog := by
  have same : (fun metadata : AttributeMetadata => metadata.addRules []) = id := by
    funext metadata
    have all : metadata.rules.filter (fun _ => true) = metadata.rules :=
      List.filter_eq_self.mpr fun _ _ => rfl
    simp [AttributeMetadata.addRules, all]
  rw [Catalog.addRules, same, List.modify_id]

namespace Policy

open ProfilePolicy.Action

variable {policy : Policy} {config : Config} {name : String} {copy : Handle} {episode : Episode}

def invocation (policy : Policy) (name : String) (copy : Handle) (rule : Rule)
    (episode : Episode) : Invocation :=
  { situation := policy.situation name episode, metadata := episode.catalog.entry copy
    config := rule.config }

/-- A validator that replies with errors alone, or breaks down on a mishap. -/
def Replies (validator : Validator) (invocation : Invocation)
    (result : Except Mishap (List FieldError)) : Prop :=
  ∃ records, validator invocation =
    match result with
    | .ok errors => .ok { errors, values := invocation.situation.values, records }
    | .error cause => .error { fault := .mishap cause, records }

/-- Running a rule computes the errors of its validator's reply. -/
theorem computes_runRule {rule : Rule} {validator : Validator}
    {result : Except Mishap (List FieldError)}
    (found : policy.validators.get? rule.validator = some validator)
    (reply : Replies validator (invocation policy name copy rule episode) result) :
    Computes (policy.runRule name copy rule) episode result := by
  obtain ⟨records, reply⟩ := reply
  refine ⟨{ episode with journal := episode.journal ++ records },
    ⟨rfl, rfl, rfl, List.prefix_rfl⟩, ?_⟩
  unfold runRule
  rw [invocation] at reply
  simp only [found, reply]
  cases result with
  | error cause => rfl
  | ok errors => simp only [List.map_nil, Catalog.addRules_nil, Policy.situation]

def errorUnless (unchanged : Except Mishap Bool) (error : FieldError) :
    Except Mishap (List FieldError) :=
  unchanged.map fun unchanged => if unchanged then [] else [error]

theorem replies_readOnlyAttribute (given : Invocation) {pattern : Pattern}
    (configured : given.config.pattern = .compiled pattern) :
    Replies Validator.readOnlyAttribute given
      (if pattern.fullMatch given.situation.name then
        errorUnless (Value.unchangedValues (.list given.situation.stored)
          (.list given.situation.value)) (attributeError given.situation.name)
      else .ok []) := by
  unfold Replies Validator.readOnlyAttribute
  simp only [Validator.requirePattern, configured, orBreakdown, Bind.bind, Except.bind]
  by_cases covered : pattern.fullMatch given.situation.name = true
  · simp only [covered, if_true, Situation.stored]
    generalize Value.unchangedValues _ _ = unchanged
    cases unchanged with
    | error cause => exact ⟨[], rfl⟩
    | ok unchanged => cases unchanged <;> exact ⟨_, rfl⟩
  · simp only [covered]
    exact ⟨[], rfl⟩

theorem replies_readOnlyName (given : Invocation) (isName : given.situation.name = nameKey) :
    Replies Validator.readOnlyName given
      (errorUnless (Value.unchangedValues
        (.list (Validator.storedName given.situation.organization))
        (.list given.situation.value)) nameError) := by
  unfold Replies Validator.readOnlyName
  simp only [isName, BEq.rfl, if_true, orBreakdown, Bind.bind, Except.bind]
  generalize Value.unchangedValues _ _ = unchanged
  cases unchanged with
  | error cause => exact ⟨[], rfl⟩
  | ok unchanged => cases unchanged <;> exact ⟨_, rfl⟩

/-! ## Rules in turn -/

theorem persisted_situation (policy : Policy) (name : String) (episode : Episode) :
    (policy.situation name episode).persisted = episode.persisted name := by
  unfold Situation.persisted Episode.persisted Situation.stored situation
  cases episode.organization with
  | none => simp [Validator.storedName]
  | some organization => by_cases isName : name = nameKey <;> simp [isName]

/-- An entry whose failing rules are passed over when the contents are kept. -/
def Tolerant (policy : Policy) (name : String) (handle : Handle) (episode : Episode) : Prop :=
  (episode.catalog.entry handle).name = readOnlyMarker ∨
    (episode.catalog.entry handle).canEdit (policy.situation name episode) = false

theorem isTolerated_eq {handle : Handle} (tolerant : Tolerant policy name handle episode) :
    policy.isTolerated name handle episode = (policy.situation name episode).tolerates := by
  have passes : ((episode.catalog.entry handle).name != readOnlyMarker &&
      (episode.catalog.entry handle).canEdit (policy.situation name episode)) = false := by
    rcases tolerant with isMarker | denied
    · simp [isMarker]
    · simp [denied]
  unfold isTolerated
  simp only [passes, Bool.false_eq_true, if_false]
  rw [Situation.tolerates, persisted_situation]
  rfl

def verdictOf (errors : List FieldError) : Verdict :=
  { valid := errors.isEmpty, errors }

/-- One more rule that compares with the same values repeats the same verdict. -/
theorem repeated_succ (situation : Situation) (existing : List Value) (count : Nat)
    (error : FieldError) :
    (do
      let errors ← errorUnless (Value.unchangedValues (.list existing) (.list situation.value)) error
      if errors.isEmpty then (repeated situation existing count error).map verdictOf
      else do
        let tolerated ← situation.tolerates
        let others ← (repeated situation existing count error).map verdictOf
        if tolerated then pure others
        else pure (Verdict.and { valid := false, errors } others)) =
      (repeated situation existing (count + 1) error).map verdictOf := by
  simp only [repeated, Situation.reports, Nat.succ_ne_zero, if_false]
  cases Value.unchangedValues (.list existing) (.list situation.value) with
  | error cause => rfl
  | ok unchanged =>
    by_cases last : count = 0
    · simp only [last, if_true]
      cases unchanged with
      | true => rfl
      | false =>
        cases situation.tolerates with
        | error cause => rfl
        | ok tolerated => cases tolerated <;> rfl
    · simp only [last, if_false]
      cases unchanged with
      | true => rfl
      | false =>
        cases situation.tolerates with
        | error cause => rfl
        | ok tolerated => cases tolerated <;> rfl

theorem computes_logVerdict (tolerated : Bool) (rule : Rule) (errors : List FieldError) :
    Computes (policy.logVerdict tolerated name rule errors) episode (.ok ()) := by
  refine ⟨_, ?_, rfl⟩
  exact ⟨rfl, rfl, rfl, List.prefix_rfl⟩

/-- Rules that compare with the same values, some of which apply to the name. -/
theorem computes_applyRules {handle : Handle} {existing : List Value} {error : FieldError}
    {applies : Rule → Bool} {rules : List Rule}
    (tolerant : ∀ after, episode.Undisturbed after → Tolerant policy name handle after)
    (each : ∀ rule ∈ rules, ∀ after, episode.Undisturbed after →
      Computes (policy.runRule name copy rule) after
        (if applies rule then
          errorUnless (Value.unchangedValues (.list existing)
            (.list (policy.situation name episode).value)) error
        else .ok [])) :
    Computes (policy.applyRules name handle copy rules) episode
      ((repeated (policy.situation name episode) existing (rules.countP applies) error).map
        verdictOf) := by
  induction rules generalizing episode with
  | nil => exact computes_pure _ _
  | cons rule rest ih =>
    have later : ∀ after, episode.Undisturbed after →
        Computes (policy.applyRules name handle copy rest) after
          ((repeated (policy.situation name episode) existing (rest.countP applies) error).map
            verdictOf) := by
      intro after same
      rw [← same.situation_eq policy name]
      apply ih
      · exact fun final same' => tolerant final (same.trans same')
      · intro other mem final same'
        rw [same.situation_eq policy name]
        exact each other (List.mem_cons_of_mem _ mem) final (same.trans same')
    have first := each rule List.mem_cons_self episode (.refl episode)
    rw [applyRules]
    by_cases applied : applies rule = true
    · rw [List.countP_cons_of_pos applied, ← repeated_succ]
      rw [if_pos applied] at first
      refine first.bind fun errors after _ same => ?_
      by_cases none : errors.isEmpty = true
      · simp only [none, if_true]
        exact later after same
      · simp only [none]
        have verdict := isTolerated_eq (tolerant after same)
        rw [same.situation_eq policy name] at verdict
        have looked := computes_inspect (policy.isTolerated name handle) after
        rw [verdict] at looked
        refine looked.bind fun tolerated after' _ same' => ?_
        refine (computes_logVerdict tolerated rule errors).andThen fun final same'' => ?_
        refine (later final (same.trans (same'.trans same''))).bind fun others last _ _ => ?_
        cases tolerated <;> exact computes_pure _ last
    · rw [List.countP_cons_of_neg applied]
      rw [if_neg applied] at first
      exact first.andThen fun after same => later after same

/-! ## All rules of a name -/

theorem computes_copyOf (handle : Handle) :
    Computes (copyOf handle) episode (.ok episode.catalog.entries.length) := by
  refine ⟨_, ?_, rfl⟩
  exact ⟨rfl, rfl, rfl, List.prefix_append _ _⟩

theorem computes_rulesOf (handle : Handle) :
    Computes (rulesOf handle) episode (.ok (episode.catalog.entry handle).rules) :=
  ⟨episode, .refl episode, rfl⟩

/-- Rules of patterns, run on a copy made earlier. -/
theorem computes_patternRule (name : String) (copy : Handle) (builtin : policy.IsBuiltin)
    {rule : Rule}
    (isPattern : rule.IsPatternRule) {after : Episode} (same : episode.Undisturbed after) :
    Computes (policy.runRule name copy rule) after
      (if rule.binds name then
        errorUnless (Value.unchangedValues (.list (policy.situation name episode).stored)
          (.list (policy.situation name episode).value)) (attributeError name)
      else .ok []) := by
  obtain ⟨identity, pattern, rfl⟩ := isPattern
  rw [← same.situation_eq policy name]
  exact computes_runRule builtin.attributeRule
    (replies_readOnlyAttribute (invocation policy name copy
      (MetadataRegistry.patternRule identity pattern) after) rfl)

theorem computes_nameRule (builtin : policy.IsBuiltin) {after : Episode}
    (same : episode.Undisturbed after) :
    Computes (policy.runRule nameKey copy MetadataRegistry.nameRule) after
      (errorUnless (Value.unchangedValues
        (.list (Validator.storedName episode.organization))
        (.list (policy.situation nameKey episode).value)) nameError) := by
  rw [← same.situation_eq policy nameKey, ← same.organization]
  exact computes_runRule builtin.nameRule
    (replies_readOnlyName (invocation policy nameKey copy MetadataRegistry.nameRule after) rfl)

/-- The rules under the read-only marker find what they find together. -/
theorem computes_marker (builtin : policy.IsBuiltin) (holds : episode.catalog.Holds config) :
    Computes (policy.applyRules name (MetadataRegistry.markerHandle policy.context) copy
        (MetadataRegistry.markerRules config policy.context)) episode
      ((repeated (policy.situation name episode) (policy.situation name episode).stored
        (config.matchCount policy.context name) (attributeError name)).map verdictOf) := by
  rw [← MetadataRegistry.countP_markerRules]
  apply computes_applyRules
  · intro after same
    left
    rw [IsBuiltin.entry_marker (holds.mono same.catalog)]
    rfl
  · intro rule mem after same
    exact computes_patternRule name copy builtin (MetadataRegistry.markerRules_isPatternRule mem) same

/-- The rule for the name finds what it finds. -/
theorem computes_name (builtin : policy.IsBuiltin) (holds : episode.catalog.Holds config)
    (manager : policy.context = .updateProfile) :
    Computes (policy.applyRules nameKey 2 copy [MetadataRegistry.nameRule]) episode
      ((repeated (policy.situation nameKey episode) (Validator.storedName episode.organization) 1
        nameError).map verdictOf) := by
  have single : [MetadataRegistry.nameRule].countP (fun _ => true) = 1 := rfl
  rw [← single]
  apply computes_applyRules
  · intro after same
    right
    rw [IsBuiltin.entry_name (holds.mono same.catalog)]
    simp only [MetadataRegistry.nameMetadata, AttributeMetadata.canEdit, List.all_cons,
      List.all_nil, MetadataRegistry.nameWritable, situation, manager]
    rfl
  · intro rule mem after same
    obtain rfl := List.mem_singleton.mp mem
    exact computes_nameRule builtin same

theorem verdictOf_and (first second : List FieldError) :
    (verdictOf first).and (verdictOf second) = verdictOf (first ++ second) := by
  cases first <;> simp [Verdict.and, verdictOf]

theorem both_ok_nil (first : Except Mishap (List FieldError)) : both first (.ok []) = first := by
  cases first with
  | error cause => rfl
  | ok errors => exact congrArg Except.ok (List.append_nil errors)

theorem ok_nil_both (second : Except Mishap (List FieldError)) : both (.ok []) second = second := by
  cases second <;> rfl

theorem computes_applyMetadata_nil :
    Computes (policy.applyMetadata name []) episode ((Except.ok []).map verdictOf) :=
  computes_pure _ episode

/-- One entry after another. -/
theorem computes_applyMetadata_cons (rules : List Rule) {handle : Handle} {rest : List Handle}
    {first second : Except Mishap (List FieldError)}
    (entry : ∀ after, episode.Undisturbed after → (after.catalog.entry handle).rules = rules)
    (own : ∀ copy after, episode.Undisturbed after →
      Computes (policy.applyRules name handle copy rules) after (first.map verdictOf))
    (others : ∀ after, episode.Undisturbed after →
      Computes (policy.applyMetadata name rest) after (second.map verdictOf)) :
    Computes (policy.applyMetadata name (handle :: rest)) episode
      ((both first second).map verdictOf) := by
  have joined : (do
      let verdict ← first.map verdictOf
      let remaining ← second.map verdictOf
      pure (verdict.and remaining)) = (both first second).map verdictOf := by
    cases first with
    | error cause => rfl
    | ok errors =>
      cases second with
      | error cause => rfl
      | ok errors' => exact congrArg Except.ok (verdictOf_and errors errors')
  rw [applyMetadata, ← joined]
  refine (computes_copyOf handle).andThen fun after same => ?_
  refine (computes_rulesOf handle).andThen fun after' same' => ?_
  rw [entry after same]
  have sofar := same.trans same'
  refine (own _ after' sofar).bind fun verdict after'' _ same'' => ?_
  refine (others after'' (sofar.trans same'')).bind fun remaining last _ _ => ?_
  exact computes_pure _ last

theorem candidates_eq (builtin : policy.IsBuiltin) (name : String) :
    policy.candidates name =
      (if policy.context = .updateProfile ∧ name = nameKey then [2] else []) ++
        [MetadataRegistry.markerHandle policy.context] := by
  unfold candidates
  by_cases isMarker : name = readOnlyMarker
  · subst isMarker
    rw [builtin.declared_marker]
    simp [nameKey, readOnlyMarker]
  · by_cases isName : name = nameKey
    · subst isName
      rw [builtin.declared_marker, builtin.declared_name]
      cases policy.context <;> rfl
    · rw [builtin.declared_marker, builtin.declared_other isMarker isName]
      simp [isName]

/-- The marker applied last. -/
theorem computes_applyMetadata_marker (builtin : policy.IsBuiltin)
    (holds : episode.catalog.Holds config) {before : Episode} (same : episode.Undisturbed before) :
    Computes (policy.applyMetadata name [MetadataRegistry.markerHandle policy.context]) before
      ((repeated (policy.situation name episode) (policy.situation name episode).stored
        (config.matchCount policy.context name) (attributeError name)).map verdictOf) := by
  rw [← both_ok_nil (repeated _ _ _ _)]
  refine computes_applyMetadata_cons (MetadataRegistry.markerRules config policy.context)
    ?_ ?_ fun _ _ => computes_applyMetadata_nil
  · intro after same'
    rw [IsBuiltin.entry_marker (holds.mono (same.trans same').catalog)]
    rfl
  · intro copy after same'
    rw [← (same.trans same').situation_eq policy name]
    exact computes_marker builtin (holds.mono (same.trans same').catalog)

/-- Validating a name gives the verdict of what the built-in rules find. -/
theorem computes_validateName (builtin : policy.IsBuiltin) (holds : episode.catalog.Holds config)
    (name : String) :
    Computes (policy.validateName name) episode
      ((finding config (policy.situation name episode)).map verdictOf) := by
  rw [validateName, candidates_eq builtin, finding]
  by_cases own : policy.context = .updateProfile ∧ name = nameKey
  · obtain ⟨manager, rfl⟩ := own
    have once : ownRules policy.context nameKey = 1 := if_pos ⟨manager, rfl⟩
    rw [if_pos ⟨manager, rfl⟩]
    refine computes_applyMetadata_cons [MetadataRegistry.nameRule] ?_ ?_
      fun _ same => computes_applyMetadata_marker builtin holds same
    · intro after same
      rw [IsBuiltin.entry_name (holds.mono same.catalog)]
      rfl
    · intro copy after same
      change Computes _ _ ((repeated (policy.situation nameKey episode)
        (Validator.storedName episode.organization) (ownRules policy.context nameKey)
        nameError).map verdictOf)
      rw [once, ← same.situation_eq policy nameKey, ← same.organization]
      exact computes_name builtin (holds.mono same.catalog) manager
  · have none : ownRules policy.context name = 0 := if_neg own
    have nothing : repeated (policy.situation name episode)
        (Validator.storedName (policy.situation name episode).organization)
        (ownRules (policy.situation name episode).context (policy.situation name episode).name)
        nameError = .ok [] := if_pos none
    rw [if_neg own, nothing, ok_nil_both]
    exact computes_applyMetadata_marker builtin holds (.refl episode)

/-! ## Read-only queries -/

/-- One more rule that compares with the same values rejects them just the same. -/
theorem anyRejects_succ (situation : Situation) (count : Nat) (error : FieldError) :
    (do
      let errors ← errorUnless
        (Value.unchangedValues (.list situation.stored) (.list situation.value)) error
      if errors.isEmpty then anyRejects situation count else .ok true) =
      anyRejects situation (count + 1) := by
  simp only [anyRejects, Nat.succ_ne_zero, if_false]
  cases Value.unchangedValues (.list situation.stored) (.list situation.value) with
  | error cause => rfl
  | ok unchanged =>
    cases unchanged with
    | false => rfl
    | true => by_cases last : count = 0 <;> simp only [last] <;> rfl

/-- Whether one of several rules of patterns fails. -/
theorem computes_anyFails (builtin : policy.IsBuiltin) {rules : List Rule}
    (arePatterns : ∀ rule ∈ rules, rule.IsPatternRule) :
    Computes (policy.anyFails name copy rules) episode
      (anyRejects (policy.situation name episode) (rules.countP fun rule => rule.binds name)) := by
  induction rules generalizing episode with
  | nil => exact computes_pure _ _
  | cons rule rest ih =>
    have first := computes_patternRule name copy builtin (arePatterns rule List.mem_cons_self)
      (.refl episode)
    have later : ∀ after, episode.Undisturbed after →
        Computes (policy.anyFails name copy rest) after
          (anyRejects (policy.situation name episode) (rest.countP fun rule => rule.binds name)) := by
      intro after same
      rw [← same.situation_eq policy name]
      exact ih fun other mem => arePatterns other (List.mem_cons_of_mem _ mem)
    rw [anyFails]
    by_cases bound : rule.binds name = true
    · rw [if_pos bound] at first
      rw [List.countP_cons_of_pos (p := fun rule : Rule => rule.binds name) bound,
        ← anyRejects_succ _ _ (attributeError name)]
      refine first.bind fun errors after _ same => ?_
      by_cases none : errors.isEmpty = true
      · simp only [none, if_true]
        exact later after same
      · simp only [none]
        exact computes_pure true after
    · rw [if_neg bound] at first
      rw [List.countP_cons_of_neg (p := fun rule : Rule => rule.binds name) bound]
      exact first.andThen fun after same => later after same

/-- Asking whether a name is read-only gives the rejection of its current values. -/
theorem computes_isReadOnly (builtin : policy.IsBuiltin) (holds : episode.catalog.Holds config)
    (notName : name ≠ nameKey) :
    Computes (policy.isReadOnly name) episode
      (rejection config (policy.situation name episode)) := by
  have asked : ∀ start, episode.Undisturbed start →
      Computes (policy.deniedByRule name) start
        (rejection config (policy.situation name episode)) := by
    intro start same
    rw [deniedByRule, builtin.declared_marker]
    refine (computes_copyOf _).andThen fun after same' => ?_
    refine (computes_rulesOf _).andThen fun after' same'' => ?_
    have sofar := same.trans same'
    rw [IsBuiltin.entry_marker (holds.mono sofar.catalog),
      ← (sofar.trans same'').situation_eq policy name]
    change Computes _ _ (anyRejects _ (config.matchCount policy.context name))
    rw [← MetadataRegistry.countP_markerRules]
    exact computes_anyFails builtin fun rule mem => MetadataRegistry.markerRules_isPatternRule mem
  have differs : (name == nameKey) = false := by simpa using notName
  have allowed : policy.deniedByMetadata name episode = false := by
    rw [builtin.deniedByMetadata_eq holds, differs, Bool.and_false]
  rw [isReadOnly, if_neg (by simpa using differs)]
  refine (computes_get episode).andThen fun start same => ?_
  rw [allowed, if_neg Bool.false_ne_true]
  exact asked start same

end Policy

end ProfilePolicy
