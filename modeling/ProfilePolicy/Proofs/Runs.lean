import ProfilePolicy.Proofs.Resolution

/-!
# Runs of rules

While a name is validated its rules are run one after another, and a rule may change the values that
the next one sees and may add rules to the copy of the entry that it was given. A run holds all that
there is to tell about one rule: what its validator was given and replied, and whether a failure was
tolerated. The verdict on a name, the report on a set and the log are the errors and the records of
the runs, in order. Comparing values can only go wrong where some of them are no texts.
-/

namespace ProfilePolicy

def Registry.NeverBreaks (validators : Registry Validator) : Prop :=
  ∀ id validator, Keyed.get? validators id = some validator → ∀ invocation, ∃ reply,
    validator invocation = .ok reply

/-! ## Runs of rules -/

/-- In this situation a failing rule of an entry changes nothing that is stored. -/
structure Situation.Excuses (situation : Situation) (metadata : AttributeMetadata) : Prop where
  bound : situation.organization.isSome = true
  readOnly : metadata.name = readOnlyMarker ∨ metadata.canEdit situation = false
  kept : Situation.Keeps situation.persisted situation.value

structure RuleTask where
  name : String
  metadata : AttributeMetadata
  rule : Rule

structure RuleRun where
  /-- The shared entry of the rule. -/
  metadata : AttributeMetadata
  rule : Rule
  /-- What the validator was given, with the values and the copy of the entry as they were then. -/
  invocation : Invocation
  reply : Reply
  tolerated : Bool

namespace RuleRun

def name (run : RuleRun) : String :=
  run.invocation.situation.name

/-- The situation in which a failure is judged; the validator may have changed the values. -/
def judged (run : RuleRun) : Situation :=
  { run.invocation.situation with values := run.reply.values }

/-- A failure is tolerated exactly when the situation then excuses it. -/
def IsJudged (run : RuleRun) : Prop :=
  run.tolerated = true ↔ run.reply.errors ≠ [] ∧ run.judged.Excuses run.metadata

/-- The errors that others learn of. -/
def reported (run : RuleRun) : List FieldError :=
  if run.tolerated then [] else run.reply.errors

def allReported (runs : List RuleRun) : List FieldError :=
  runs.flatMap reported

def verdict (run : RuleRun) : Log.RuleVerdict where
  organization := (run.judged.organization.map (·.name)).getD .null
  attributeName := run.name
  validator := run.rule.validator
  errors := run.reply.errors.map (·.message)
  context := run.judged.context

def task (run : RuleRun) : RuleTask :=
  { name := run.name, metadata := run.metadata, rule := run.rule }

/-- The record of a failure: a debug message if it was tolerated, else a warning. -/
def note (run : RuleRun) : Log.Record :=
  if run.tolerated then .violationTolerated run.verdict else .editDenied run.verdict

/-- The records of a run: those of the validator, and one for a failure. -/
def records (run : RuleRun) : List Log.Record :=
  run.reply.records ++ if run.reply.errors.isEmpty then [] else [run.note]

theorem allReported_append (runs runs' : List RuleRun) :
    allReported (runs ++ runs') = allReported runs ++ allReported runs' :=
  List.flatMap_append

theorem allReported_singleton (run : RuleRun) : allReported [run] = run.reported :=
  List.append_nil _

end RuleRun

/-- Things are done one after another, each of them with runs of rules. -/
inductive InTurn {σ τ : Type} (does : σ → τ → List RuleRun → σ → Prop) :
    σ → List τ → List RuleRun → σ → Prop
  | nil (state : σ) : InTurn does state [] [] state
  | cons {first next last : σ} {item : τ} {rest : List τ} {runs runs' : List RuleRun}
      (now : does first item runs next) (later : InTurn does next rest runs' last) :
      InTurn does first (item :: rest) (runs ++ runs') last

namespace InTurn

variable {σ τ α : Type} {does : σ → τ → List RuleRun → σ → Prop} {first last : σ} {items : List τ}
variable {runs : List RuleRun}

/-- What each step keeps is kept in the end. -/
theorem keeps (holds : σ → Prop)
    (each : ∀ before item runs after, does before item runs after → holds before → holds after)
    (h : InTurn does first items runs last) (start : holds first) : holds last := by
  induction h with
  | nil => exact start
  | cons step _ ih => exact ih (each _ _ _ _ step start)

/-- What is seen of the runs is what is seen of each step. -/
theorem map_runs {view : RuleRun → α} {shows : τ → List α}
    (each : ∀ before item runs after, does before item runs after → runs.map view = shows item)
    (h : InTurn does first items runs last) : runs.map view = items.flatMap shows := by
  induction h with
  | nil => rfl
  | cons step _ ih => rw [List.map_append, each _ _ _ _ step, ih, List.flatMap_cons]

theorem forall_runs {holds : RuleRun → Prop}
    (each : ∀ before item runs after, does before item runs after → ∀ run ∈ runs, holds run)
    (h : InTurn does first items runs last) : ∀ run ∈ runs, holds run := by
  induction h with
  | nil => exact List.forall_mem_nil _
  | cons step _ ih => exact List.forall_mem_append.mpr ⟨each _ _ _ _ step, ih⟩

end InTurn

/-- What runs of rules leave: the same organization, the same shared metadata, and their records in
the log. -/
structure Episode.Recorded (shared : Catalog) (before : Episode) (runs : List RuleRun)
    (after : Episode) : Prop where
  spares : before.Spares shared after
  journal : after.journal = before.journal ++ runs.flatMap RuleRun.records

namespace Episode.Recorded

variable {shared : Catalog}

theorem refl {episode : Episode} (held : shared.entries <+: episode.catalog.entries) :
    episode.Recorded shared [] episode :=
  ⟨.refl held, (List.append_nil _).symm⟩

theorem append {first second third : Episode} {runs runs' : List RuleRun}
    (earlier : first.Recorded shared runs second) (later : second.Recorded shared runs' third) :
    first.Recorded shared (runs ++ runs') third := by
  refine ⟨earlier.spares.trans later.spares, ?_⟩
  rw [later.journal, earlier.journal, List.flatMap_append, List.append_assoc]

end Episode.Recorded

theorem Catalog.entry_clone (catalog : Catalog) (handle : Handle) :
    (catalog.clone handle).2.entry (catalog.clone handle).1 = catalog.entry handle := by
  simp [Catalog.entry, clone, store, List.getD_eq_getElem?_getD]

theorem Catalog.entry_addRules {catalog : Catalog} {handle : Handle}
    (inside : handle < catalog.entries.length) (incoming : List (Option Rule)) :
    (catalog.addRules handle incoming).entry handle =
      (catalog.entry handle).addRules incoming := by
  simp only [entry, addRules, List.getD_eq_getElem?_getD, List.getElem?_modify_eq,
    List.getElem?_eq_getElem inside, Option.map_eq_map, Option.map_some, Option.getD_some]

namespace Policy

open ProfilePolicy.Action

structure Moment where
  values : AttributeValues
  /-- The copy of the entry. -/
  copy : AttributeMetadata

variable (policy : Policy) (organization : Option Organization) (shared : Catalog)

/-- A rule of an entry is run on a name: its validator is given the present values and copy. -/
structure RunsRule (name : String) (entry : AttributeMetadata) (before : Moment) (given : Rule)
    (run : RuleRun) (after : Moment) : Prop where
  metadata : run.metadata = entry
  rule : run.rule = given
  invocation : run.invocation =
    { situation := { context := policy.context, name, organization, values := before.values }
      metadata := before.copy, config := given.config }
  replied : ∃ validator, policy.validators.get? given.validator = some validator ∧
    validator run.invocation = .ok run.reply
  tolerated : run.tolerated = true ↔ run.reply.errors ≠ [] ∧ run.judged.Excuses entry
  changed : after = { values := run.reply.values
                      copy := before.copy.addRules (run.reply.additions.map some) }

/-- Rules of an entry are run on a name, one after another. -/
def RunsRules (name : String) (entry : AttributeMetadata) :
    Moment → List Rule → List RuleRun → Moment → Prop :=
  InTurn fun before rule runs after => ∃ run, runs = [run] ∧
    policy.RunsRule organization name entry before rule run after

/-- The rules of a shared entry are run on a name. They see a copy of the entry. -/
def RunsEntry (name : String) (before : AttributeValues) (handle : Handle) (runs : List RuleRun)
    (after : AttributeValues) : Prop :=
  ∃ copied, policy.RunsRules organization name (shared.entry handle)
    { values := before, copy := shared.entry handle } (shared.entry handle).rules runs
    { values := after, copy := copied }

/-- All rules that apply to a name are run on it. -/
def RunsName (before : AttributeValues) (name : String) :
    List RuleRun → AttributeValues → Prop :=
  InTurn (policy.RunsEntry organization shared name) before (policy.candidates name)

/-! ## Texts -/

/-- All values of a set are texts, or missing. -/
def AreTexts (values : AttributeValues) : Prop :=
  ∀ name, ∀ value ∈ (values.get? name).getD [], value.IsTextual

/-- Neither what is stored nor what is in the set at any time is anything but a text: validators
that are given texts leave texts. -/
structure HoldsTexts (episode : Episode) : Prop where
  stored : ∀ name, ∀ value ∈ episode.persisted name, value.IsTextual
  values : AreTexts episode.values
  replies : ∀ id validator, policy.validators.get? id = some validator → ∀ invocation reply,
    validator invocation = .ok reply → AreTexts invocation.situation.values →
    AreTexts reply.values

/-- The fault of a comparison that met something else than texts. -/
def MeetsNoText (episode : Episode) (fault : Fault) : Prop :=
  (∃ cause, fault = .mishap cause) ∧ ¬ policy.HoldsTexts episode

variable {policy organization shared}
variable {name : String} {handle copy : Handle} {episode : Episode}

theorem HoldsTexts.of_values {after : Episode} (texts : policy.HoldsTexts episode)
    (same : after.organization = episode.organization) (values : AreTexts after.values) :
    policy.HoldsTexts after := by
  refine ⟨fun name value mem => texts.stored name value ?_, values, texts.replies⟩
  rw [Episode.persisted, same] at mem
  exact mem

theorem MeetsNoText.of_values {after : Episode} {fault : Fault}
    (stuck : policy.MeetsNoText after fault) (same : after.organization = episode.organization)
    (keeps : policy.HoldsTexts episode → AreTexts after.values) :
    policy.MeetsNoText episode fault :=
  ⟨stuck.1, fun texts => stuck.2 (texts.of_values same (keeps texts))⟩

theorem RunsRule.areTexts {entry : AttributeMetadata} {before after : Moment} {rule : Rule}
    {run : RuleRun} (h : policy.RunsRule organization name entry before rule run after)
    (texts : policy.HoldsTexts episode) (values : AreTexts before.values) :
    AreTexts after.values := by
  obtain ⟨validator, found, replied⟩ := h.replied
  rw [h.changed]
  refine texts.replies _ validator found _ _ replied ?_
  rw [h.invocation]
  exact values

theorem RunsRules.areTexts {entry : AttributeMetadata} {before after : Moment} {rules : List Rule}
    {runs : List RuleRun} (h : policy.RunsRules organization name entry before rules runs after)
    (texts : policy.HoldsTexts episode) (values : AreTexts before.values) :
    AreTexts after.values := by
  refine InTurn.keeps (fun moment => AreTexts moment.values) ?_ h values
  rintro _ _ _ _ ⟨run, -, ran⟩
  exact ran.areTexts texts

theorem RunsName.areTexts {before after : AttributeValues} {runs : List RuleRun}
    (h : policy.RunsName organization shared before name runs after)
    (texts : policy.HoldsTexts episode) : AreTexts before → AreTexts after := by
  refine InTurn.keeps AreTexts ?_ h
  rintro _ _ _ _ ⟨copied, ran⟩
  exact ran.areTexts texts

/-! ## Judging a failure -/

theorem isTolerated_of_not (not : ¬ Tolerant policy name handle episode) :
    policy.isTolerated name handle episode = .ok false := by
  have writable : ((episode.catalog.entry handle).name != readOnlyMarker &&
      (episode.catalog.entry handle).canEdit (policy.situation name episode)) = true := by
    simpa [Tolerant] using not
  unfold isTolerated
  split
  · rfl
  · exact if_pos writable

theorem isTolerated_eq_ok {tolerated : Bool}
    (judged : policy.isTolerated name handle episode = .ok tolerated) :
    tolerated = true ↔
      (policy.situation name episode).Excuses (episode.catalog.entry handle) := by
  by_cases tolerant : Tolerant policy name handle episode
  · rw [isTolerated_eq tolerant] at judged
    constructor
    · rintro rfl
      obtain ⟨bound, kept⟩ := Situation.tolerates_eq_true_iff.mp judged
      exact ⟨bound, tolerant, kept⟩
    · rintro ⟨bound, -, kept⟩
      have tolerates := Situation.tolerates_eq_true_iff.mpr ⟨bound, kept⟩
      exact Except.ok.inj (judged.symm.trans tolerates)
  · rw [isTolerated_of_not tolerant] at judged
    cases judged
    exact ⟨fun impossible => (by cases impossible), fun excused => absurd excused.readOnly tolerant⟩

theorem isTolerated_eq_error {cause : Mishap}
    (broken : policy.isTolerated name handle episode = .error cause) :
    ¬ policy.HoldsTexts episode := by
  intro texts
  by_cases tolerant : Tolerant policy name handle episode
  · have stored : ∀ value ∈ (policy.situation name episode).persisted, value.IsTextual := by
      rw [persisted_situation]
      exact texts.stored name
    obtain ⟨tolerated, judged⟩ := Situation.tolerates_of_textual stored (texts.values name)
    rw [isTolerated_eq tolerant, judged] at broken
    cases broken
  · rw [isTolerated_of_not tolerant] at broken
    cases broken

/-! ## One rule -/

/-- Runs one rule on a name and judges what it finds. -/
def applyRule (policy : Policy) (name : String) (handle copy : Handle) (rule : Rule) :
    Action Verdict := do
  let errors ← policy.runRule name copy rule
  if errors.isEmpty then pure {}
  else
    let tolerated ← inspect (policy.isTolerated name handle)
    policy.logVerdict tolerated name rule errors
    if tolerated then pure {} else pure { valid := false, errors }

theorem Verdict.empty_and (verdict : Verdict) : Verdict.and {} verdict = verdict := by
  simp [Verdict.and]

/-- Rules are run and judged one after another. -/
theorem applyRules_cons (rule : Rule) (rest : List Rule) :
    policy.applyRules name handle copy (rule :: rest) = (do
      let first ← policy.applyRule name handle copy rule
      let others ← policy.applyRules name handle copy rest
      pure (first.and others)) := by
  rw [applyRules, applyRule, bind_assoc]
  refine bind_congr fun errors => ?_
  split
  · simp only [pure_bind, Verdict.empty_and, bind_pure]
  · rw [bind_assoc]
    refine bind_congr fun tolerated => ?_
    rw [bind_assoc]
    refine bind_congr fun _ => ?_
    cases tolerated with
    | true => simp only [if_true, pure_bind, Verdict.empty_and, bind_pure]
    | false => simp only [Bool.false_eq_true, if_false, pure_bind]

def afterReply (episode : Episode) (copy : Handle) (reply : Reply) : Episode :=
  { episode with
    values := reply.values
    catalog := episode.catalog.addRules copy (reply.additions.map some)
    journal := episode.journal ++ reply.records }

theorem runRule_of_reply {rule : Rule} {validator : Validator} {reply : Reply}
    (found : policy.validators.get? rule.validator = some validator)
    (replied : validator (policy.invocation name copy rule episode) = .ok reply) :
    policy.runRule name copy rule episode = .ok reply.errors (afterReply episode copy reply) := by
  rw [invocation] at replied
  simp only [runRule, found, replied, afterReply]

def ran (policy : Policy) (name : String) (entry : AttributeMetadata) (copy : Handle) (rule : Rule)
    (episode : Episode) (reply : Reply) (tolerated : Bool) : RuleRun :=
  { metadata := entry, rule, invocation := policy.invocation name copy rule episode, reply
    tolerated }

theorem runsRule_of_reply {entry : AttributeMetadata} {rule : Rule} {validator : Validator}
    {reply : Reply} (there : copy < episode.catalog.entries.length)
    (found : policy.validators.get? rule.validator = some validator)
    (replied : validator (policy.invocation name copy rule episode) = .ok reply) {tolerated : Bool}
    (judged : tolerated = true ↔ reply.errors ≠ [] ∧
      (policy.situation name (afterReply episode copy reply)).Excuses entry) :
    policy.RunsRule episode.organization name entry
      { values := episode.values, copy := episode.catalog.entry copy } rule
      (policy.ran name entry copy rule episode reply tolerated)
      { values := reply.values, copy := (afterReply episode copy reply).catalog.entry copy } :=
  ⟨rfl, rfl, rfl, ⟨validator, found, replied⟩, judged,
    congrArg (Moment.mk reply.values) (Catalog.entry_addRules there _)⟩

/-- The run of one rule leads to an episode, and its errors make up the verdict. -/
def RuleLeads (policy : Policy) (shared : Catalog) (name : String) (handle copy : Handle)
    (rule : Rule) (before : Episode) (verdict : Verdict) (after : Episode) : Prop :=
  ∃ run,
    policy.RunsRule before.organization name (shared.entry handle)
      { values := before.values, copy := before.catalog.entry copy } rule run
      { values := after.values, copy := after.catalog.entry copy } ∧
    before.Recorded shared [run] after ∧ verdict = verdictOf run.reported ∧
    before.catalog.entries.length ≤ after.catalog.entries.length

section Rules

variable (unbroken : policy.validators.NeverBreaks) (inside : handle < shared.entries.length)
variable (isCopy : shared.entries.length ≤ copy)
include unbroken inside isCopy

/-- The run of a rule accounts for its verdict. -/
theorem leads_applyRule (held : shared.entries <+: episode.catalog.entries)
    (there : copy < episode.catalog.entries.length) {rule : Rule}
    (resolved : policy.Resolves rule) :
    Leads (policy.applyRule name handle copy rule) episode
      (policy.RuleLeads shared name handle copy rule episode)
      (fun fault _ => policy.MeetsNoText episode fault) := by
  obtain ⟨validator, found⟩ := Option.isSome_iff_exists.mp resolved
  obtain ⟨reply, replied⟩ := unbroken _ _ found (policy.invocation name copy rule episode)
  let between := afterReply episode copy reply
  have held' : shared.entries <+: between.catalog.entries := prefix_modify _ held isCopy
  have grown : episode.catalog.entries.length ≤ between.catalog.entries.length :=
    Nat.le_of_eq (List.length_modify _ _ _).symm
  rw [applyRule, leads_bind, leads_of_ok (runRule_of_reply found replied)]
  by_cases none : reply.errors = []
  · rw [if_pos (List.isEmpty_iff.mpr none)]
    refine ⟨policy.ran name (shared.entry handle) copy rule episode reply false,
      runsRule_of_reply there found replied ?_, ⟨⟨rfl, rfl, held'⟩, ?_⟩, ?_, grown⟩
    · exact ⟨fun impossible => (by cases impossible), fun failed => absurd none failed.1⟩
    · simp [afterReply, ran, RuleRun.records, none]
    · simp [ran, RuleRun.reported, none, verdictOf]
  · have failed : reply.errors.isEmpty = false := by simpa using none
    rw [if_neg (by simpa using none), leads_bind, leads_inspect]
    refine ⟨fun tolerated decided => ?_, fun cause broken => ?_⟩
    · -- the failure is judged with the values that the validator left
      have judged := isTolerated_eq_ok decided
      rw [Catalog.entry_of_prefix held' inside] at judged
      have runs := runsRule_of_reply there found replied (judged.trans (and_iff_right none).symm)
      have recorded : episode.Recorded shared
          [policy.ran name (shared.entry handle) copy rule episode reply tolerated]
          (between.log (policy.ran name (shared.entry handle) copy rule episode reply
            tolerated).note) := by
        refine ⟨⟨rfl, rfl, held'⟩, ?_⟩
        simp [Episode.log, between, afterReply, RuleRun.records, ran, failed]
      rw [leads_bind]
      cases tolerated with
      | true => exact ⟨_, runs, recorded, rfl, grown⟩
      | false =>
        refine ⟨_, runs, recorded, ?_, grown⟩
        simp [verdictOf, RuleRun.reported, ran, failed]
    · refine ⟨⟨cause, rfl⟩, fun texts => isTolerated_eq_error broken ?_⟩
      exact texts.of_values rfl (texts.replies _ validator found _ _ replied texts.values)

/-! ## Rules in turn -/

/-- The runs of the rules of an entry account for their verdict. -/
theorem leads_applyRules_runs (held : shared.entries <+: episode.catalog.entries)
    (there : copy < episode.catalog.entries.length) {rules : List Rule}
    (resolved : ∀ rule ∈ rules, policy.Resolves rule) :
    Leads (policy.applyRules name handle copy rules) episode
      (fun verdict after => ∃ runs copied,
        policy.RunsRules episode.organization name (shared.entry handle)
          { values := episode.values, copy := episode.catalog.entry copy } rules runs
          { values := after.values, copy := copied } ∧
        episode.Recorded shared runs after ∧ verdict = verdictOf (RuleRun.allReported runs))
      (fun fault _ => policy.MeetsNoText episode fault) := by
  induction rules generalizing episode with
  | nil => exact ⟨[], _, .nil _, .refl held, rfl⟩
  | cons rule rest ih =>
    obtain ⟨resolvedFirst, resolvedRest⟩ := List.forall_mem_cons.mp resolved
    rw [applyRules_cons, leads_bind]
    refine (leads_applyRule unbroken inside isCopy held there resolvedFirst).mono ?_
      fun _ _ stuck => stuck
    rintro _ next ⟨run, ran, recorded, rfl, grown⟩
    rw [leads_bind]
    refine (ih recorded.spares.catalog (Nat.lt_of_lt_of_le there grown) resolvedRest).mono ?_ ?_
    · rintro _ after ⟨runs, copied, turn, recorded', rfl⟩
      rw [recorded.spares.organization] at turn
      refine ⟨[run] ++ runs, copied, .cons ⟨run, rfl, ran⟩ turn, recorded.append recorded', ?_⟩
      rw [verdictOf_and, RuleRun.allReported_append, RuleRun.allReported_singleton]
    · exact fun fault _ stuck => stuck.of_values recorded.spares.organization
        fun texts => ran.areTexts texts texts.values

end Rules

/-- Runs lead from one episode to another, and their errors give the result. -/
def RunsLead {α : Type} (trace : Option Organization → AttributeValues → List RuleRun →
    AttributeValues → Prop) (shared : Catalog) (gives : List FieldError → α) (before : Episode)
    (result : α) (after : Episode) : Prop :=
  ∃ runs, trace before.organization before.values runs after.values ∧
    before.Recorded shared runs after ∧ result = gives (RuleRun.allReported runs)

section Entries

variable (unbroken : policy.validators.NeverBreaks)
include unbroken

/-- The runs of the rules of several entries account for their verdict. -/
theorem leads_applyMetadata_runs (held : shared.entries <+: episode.catalog.entries)
    {handles : List Handle} (inside : ∀ handle ∈ handles, handle < shared.entries.length)
    (resolved : ∀ handle ∈ handles, ∀ rule ∈ (shared.entry handle).rules, policy.Resolves rule) :
    Leads (policy.applyMetadata name handles) episode
      (RunsLead (fun organization before runs after =>
        InTurn (policy.RunsEntry organization shared name) before handles runs after)
        shared verdictOf episode)
      (fun fault _ => policy.MeetsNoText episode fault) := by
  induction handles generalizing episode with
  | nil => exact ⟨[], .nil _, .refl held, rfl⟩
  | cons handle rest ih =>
    obtain ⟨insideFirst, insideRest⟩ := List.forall_mem_cons.mp inside
    obtain ⟨resolvedFirst, resolvedRest⟩ := List.forall_mem_cons.mp resolved
    let copied : Episode := { episode with catalog := (episode.catalog.clone handle).2 }
    have copies : copyOf handle episode = .ok episode.catalog.entries.length copied := rfl
    have held' : shared.entries <+: copied.catalog.entries := held.trans (List.prefix_append _ _)
    have entry : copied.catalog.entry episode.catalog.entries.length = shared.entry handle :=
      (episode.catalog.entry_clone handle).trans (Catalog.entry_of_prefix held insideFirst)
    have there : episode.catalog.entries.length < copied.catalog.entries.length := by
      simp [copied, Catalog.clone, Catalog.store]
    have rules : rulesOf handle copied = .ok (shared.entry handle).rules copied := by
      rw [rulesOf, Catalog.entry_of_prefix held' insideFirst]
    rw [applyMetadata, leads_bind, leads_of_ok copies, leads_bind, leads_of_ok rules, leads_bind]
    refine (leads_applyRules_runs unbroken insideFirst held.length_le held' there
      resolvedFirst).mono ?_ fun _ _ stuck => stuck.of_values rfl fun texts => texts.values
    rintro _ between ⟨runs, left, turn, recorded, rfl⟩
    -- the copy starts out as the shared entry, and the rules of the copy are not asked for again
    rw [entry] at turn
    have sofar : episode.Recorded shared runs between :=
      ⟨⟨recorded.spares.organization, recorded.spares.validated, recorded.spares.catalog⟩,
        recorded.journal⟩
    rw [leads_bind]
    refine (ih sofar.spares.catalog insideRest resolvedRest).mono ?_ ?_
    · rintro _ after ⟨runs', turn', recorded', rfl⟩
      rw [sofar.spares.organization] at turn'
      refine ⟨runs ++ runs', .cons ⟨left, turn⟩ turn', sofar.append recorded', ?_⟩
      rw [verdictOf_and, RuleRun.allReported_append]
    · exact fun fault _ stuck => stuck.of_values sofar.spares.organization
        fun texts => RunsRules.areTexts turn texts texts.values

end Entries

/-- All validators reply, and those of the rules that apply to a name are there. -/
structure Answers (policy : Policy) (shared : Catalog) : Prop where
  unbroken : policy.validators.NeverBreaks
  inside : ∀ name, ∀ handle ∈ policy.candidates name, handle < shared.entries.length
  resolved : ∀ name, ∀ handle ∈ policy.candidates name,
    ∀ rule ∈ (shared.entry handle).rules, policy.Resolves rule

/-- The runs of all rules that apply to a name account for its verdict. -/
theorem Answers.leads_validateName (answers : policy.Answers shared)
    (held : shared.entries <+: episode.catalog.entries) (name : String) :
    Leads (policy.validateName name) episode
      (RunsLead (fun organization before => policy.RunsName organization shared before name)
        shared verdictOf episode)
      (fun fault _ => policy.MeetsNoText episode fault) :=
  leads_applyMetadata_runs answers.unbroken held (answers.inside name) (answers.resolved name)

def RunsNames (policy : Policy) (organization : Option Organization) (shared : Catalog) :
    AttributeValues → List String → List RuleRun → AttributeValues → Prop :=
  InTurn (policy.RunsName organization shared)

/-- The runs of all rules that apply to names account for what is added to a report. -/
theorem Answers.leads_collectErrors (answers : policy.Answers shared)
    (held : shared.entries <+: episode.catalog.entries) (names : List String) (report : Report) :
    Leads (Profile.collectErrors policy report names) episode
      (RunsLead (fun organization before => policy.RunsNames organization shared before names)
        shared report.addAll episode)
      (fun fault _ => policy.MeetsNoText episode fault) := by
  induction names generalizing episode report with
  | nil => exact ⟨[], .nil _, .refl held, rfl⟩
  | cons name rest ih =>
    rw [Profile.collectErrors, leads_bind]
    refine (answers.leads_validateName held name).mono ?_ fun _ _ stuck => stuck
    rintro _ between ⟨runs, turn, recorded, rfl⟩
    refine (ih recorded.spares.catalog _).mono ?_ ?_
    · rintro _ after ⟨runs', turn', recorded', rfl⟩
      rw [recorded.spares.organization] at turn'
      refine ⟨runs ++ runs', .cons turn turn', recorded.append recorded', ?_⟩
      rw [RuleRun.allReported_append, Report.addAll_append]
      rfl
    · exact fun fault _ stuck => stuck.of_values recorded.spares.organization
        fun texts => turn.areTexts texts texts.values

end Policy

end ProfilePolicy
