import ProfilePolicy.Proofs.Denial
import ProfilePolicy.Proofs.Listening
import ProfilePolicy.Proofs.Runs

/-!
# Every failure is accounted for

Validating a name runs the rules of its own entry and then those of the read-only marker, each of
them once and in order. A rule that fails is passed over only if there is an organization, the rule
is a read-only one, and the contents of the stored values are in the set when it has failed. The
errors of all other failing rules, in the order in which the rules were run, are what the verdict,
the listeners, the log and the report of a rejected set tell.

This holds for any metadata and for any validators that are there and reply.
-/

namespace ProfilePolicy

namespace Policy

variable {policy : Policy} {organization : Option Organization} {shared : Catalog}
variable {name : String} {handle : Handle}

/-! ## What is run -/

def tasksOf (name : String) (entry : AttributeMetadata) : List RuleTask :=
  entry.rules.map fun rule => { name, metadata := entry, rule }

section Tasks

variable {before after : AttributeValues} {runs : List RuleRun}

theorem RunsEntry.map_task
    (h : policy.RunsEntry organization shared name before handle runs after) :
    runs.map RuleRun.task = tasksOf name (shared.entry handle) := by
  obtain ⟨copied, turn⟩ := h
  rw [tasksOf, ← List.flatMap_singleton' (shared.entry handle).rules, List.map_flatMap]
  refine InTurn.map_runs ?_ turn
  rintro _ rule _ _ ⟨run, rfl, ran⟩
  simp only [List.map_cons, List.map_nil, RuleRun.task, RuleRun.name, ran.invocation, ran.metadata,
    ran.rule]

theorem RunsName.map_task (h : policy.RunsName organization shared before name runs after) :
    runs.map RuleRun.task =
      (policy.candidates name).flatMap fun handle => tasksOf name (shared.entry handle) :=
  InTurn.map_runs (fun _ _ _ _ ran => ran.map_task) h

theorem RunsName.isJudged (h : policy.RunsName organization shared before name runs after) :
    ∀ run ∈ runs, run.IsJudged := by
  refine InTurn.forall_runs ?_ h
  rintro _ _ _ _ ⟨copied, turn⟩
  refine InTurn.forall_runs ?_ turn
  rintro _ _ _ _ ⟨run, rfl, ran⟩
  refine List.forall_mem_singleton.mpr ?_
  rw [RuleRun.IsJudged, ran.metadata]
  exact ran.tolerated

end Tasks

end Policy

/-! ## Metadata of a context -/

namespace ProfileMetadata

/-- The entries whose rules apply to a name: the last one of the name, and the last one of the
read-only marker. -/
def applying (metadata : ProfileMetadata) (catalog : Catalog) (name : String) : List Handle :=
  if name = readOnlyMarker then (metadata.named name catalog).getLast?.toList
  else (metadata.named name catalog).getLast?.toList ++
    (metadata.named readOnlyMarker catalog).getLast?.toList

def tasks (metadata : ProfileMetadata) (catalog : Catalog) (name : String) : List RuleTask :=
  (metadata.applying catalog name).flatMap fun handle => Policy.tasksOf name (catalog.entry handle)

/-- All entries are there, and so are the validators of all their rules. -/
structure IsComplete (metadata : ProfileMetadata) (catalog : Catalog)
    (validators : Registry Validator) : Prop where
  inside : ∀ handle ∈ metadata.attributes, handle < catalog.entries.length
  resolved : ∀ handle ∈ metadata.attributes, ∀ rule ∈ (catalog.entry handle).rules,
    (Keyed.get? validators rule.validator).isSome = true

variable {metadata : ProfileMetadata} {catalog : Catalog} {name : String} {handle : Handle}

theorem mem_of_last (last : (metadata.named name catalog).getLast? = some handle) :
    handle ∈ metadata.attributes ∧ (catalog.entry handle).name = name := by
  obtain ⟨mem, named⟩ := List.mem_filter.mp (List.mem_of_getLast? last)
  exact ⟨mem, by simpa using named⟩

theorem mem_attributes_of_applying (mem : handle ∈ metadata.applying catalog name) :
    handle ∈ metadata.attributes := by
  have last : ∀ {other}, handle ∈ (metadata.named other catalog).getLast?.toList →
      handle ∈ metadata.attributes := fun {other} listed =>
    (mem_of_last (Option.mem_toList.mp listed)).1
  rw [applying] at mem
  split at mem
  · exact last mem
  · rcases List.mem_append.mp mem with own | marker
    · exact last own
    · exact last marker

/-- An entry of another name is not the one of the read-only marker. -/
theorem candidates_eq_applying {policy : Policy}
    (declared : policy.declared = metadata.declared catalog) (name : String) :
    policy.candidates name = metadata.applying catalog name := by
  rw [Policy.candidates, declared, get?_declared, get?_declared, applying]
  by_cases isMarker : name = readOnlyMarker
  · rw [isMarker, if_pos rfl]
    simp
  · rw [if_neg isMarker]
    split
    · rename_i same
      cases own : (metadata.named name catalog).getLast? with
      | none =>
        rw [own] at same
        rw [← eq_of_beq same]
        rfl
      | some handle =>
        rw [own] at same
        have named := (mem_of_last own).2
        rw [(mem_of_last (eq_of_beq same).symm).2] at named
        exact absurd named.symm isMarker
    · rfl

end ProfileMetadata

/-! ## Validation -/

namespace Policy

open ProfilePolicy.Action

variable {policy : Policy} {metadata : ProfileMetadata} {shared : Catalog} {episode : Episode}

/-- The validation of names, rule by rule: each rule that applies is run once, in order, a failure
is tolerated only if it changes nothing, and the log tells of every one. -/
structure Accounts (policy : Policy) (metadata : ProfileMetadata) (shared : Catalog)
    (names : List String) (before : Episode) (runs : List RuleRun) (after : Episode) : Prop where
  tasks : runs.map RuleRun.task = names.flatMap (metadata.tasks shared)
  judged : ∀ run ∈ runs, run.IsJudged
  inTurn : policy.RunsNames before.organization shared before.values names runs after.values
  recorded : before.Recorded shared runs after

theorem RunsNames.accounts {names : List String} {runs : List RuleRun} {after : Episode}
    (declared : policy.declared = metadata.declared shared)
    (turn : policy.RunsNames episode.organization shared episode.values names runs after.values)
    (recorded : episode.Recorded shared runs after) :
    policy.Accounts metadata shared names episode runs after := by
  refine ⟨InTurn.map_runs ?_ turn, InTurn.forall_runs (fun _ _ _ _ ran => ran.isJudged) turn, turn,
    recorded⟩
  intro _ name _ _ ran
  rw [ran.map_task, ProfileMetadata.candidates_eq_applying declared, ProfileMetadata.tasks]

/-- How the validation of a set ends with what its rules report: nothing, or all of it. -/
inductive Tells (policy : Policy) (errors : List FieldError) (after : Episode) :
    EStateM.Result Fault Episode Unit → Prop
  | accepted (none : errors = []) :
      Tells policy errors after (.ok () { after with validated := true })
  | rejected {report : Report} (some : errors ≠ []) (listed : report.errors.Perm errors) :
      Tells policy errors after (.error (.rejected report)
        (after.log (.validationFailed after.organizationName policy.context
          (sortedTexts (report.errors.map (·.field))))))

theorem Answers.validateTelling_cases (answers : policy.Answers shared)
    (declared : policy.declared = metadata.declared shared)
    (held : shared.entries <+: episode.catalog.entries) (name : String) {Listener : Type}
    (hear : Listener → FieldError → Listener) (listeners : List Listener) :
    (∃ runs after, policy.Accounts metadata shared [name] episode runs after ∧
      policy.validateName name episode =
        .ok { valid := (RuleRun.allReported runs).isEmpty
              errors := RuleRun.allReported runs } after ∧
      policy.validateTelling hear name listeners episode =
        .ok { valid := (RuleRun.allReported runs).isEmpty
              listeners := listeners.map fun listener =>
                (RuleRun.allReported runs).foldl hear listener } after) ∨
      ∃ fault after, policy.MeetsNoText episode fault ∧
        policy.validateName name episode = .error fault after ∧
        policy.validateTelling hear name listeners episode = .error fault after := by
  rw [validateTelling_eq]
  rcases (answers.leads_validateName held name).cases with
    ⟨_, after, result, runs, turn, recorded, rfl⟩ | ⟨fault, after, result, stuck⟩
  · left
    have turns : policy.RunsNames episode.organization shared episode.values [name] runs
        after.values := List.append_nil runs ▸ .cons turn (.nil _)
    refine ⟨runs, after, turns.accounts declared recorded, result, ?_⟩
    rw [map_eq_pure_bind, bind_of_ok result]
    rfl
  · right
    refine ⟨fault, after, stuck, result, ?_⟩
    rw [map_eq_pure_bind, bind_of_error result]

theorem Answers.validate_cases (answers : policy.Answers shared)
    (declared : policy.declared = metadata.declared shared)
    (held : shared.entries <+: episode.catalog.entries) (visit : Visit) :
    (∃ runs after,
      policy.Accounts metadata shared (visit episode.values.names) episode runs after ∧
      policy.Tells (RuleRun.allReported runs) after (Profile.validate policy visit episode)) ∨
      ∃ fault after, policy.MeetsNoText episode fault ∧
        Profile.validate policy visit episode = .error fault after := by
  rw [Profile.validate, get_bind]
  rcases (answers.leads_collectErrors held (visit episode.values.names) .empty).cases with
    ⟨_, after, result, runs, turn, recorded, rfl⟩ | ⟨fault, after, result, stuck⟩
  · left
    refine ⟨runs, after, RunsNames.accounts declared turn recorded, ?_⟩
    rw [bind_of_ok result, get_bind]
    have perm := Report.errors_addAll_perm Report.empty (RuleRun.allReported runs)
    split
    · rename_i none
      rw [List.isEmpty_iff.mp none] at perm
      exact .accepted perm.nil_eq.symm
    · rename_i some
      refine .rejected (fun none => ?_) perm
      exact some (List.isEmpty_iff.mpr (perm.trans (.of_eq none)).eq_nil)
  · right
    exact ⟨fault, after, stuck, bind_of_error result⟩

end Policy

/-- Where metadata is complete all rules that apply to a name can be run. -/
theorem ProfileMetadata.IsComplete.answers {metadata : ProfileMetadata} {catalog : Catalog}
    {policy : Policy} (complete : metadata.IsComplete catalog policy.validators)
    (unbroken : policy.validators.NeverBreaks)
    (declared : policy.declared = metadata.declared catalog) : policy.Answers catalog := by
  have listed : ∀ name, ∀ handle ∈ policy.candidates name, handle ∈ metadata.attributes := by
    intro name handle mem
    rw [candidates_eq_applying declared] at mem
    exact mem_attributes_of_applying mem
  exact ⟨unbroken, fun name handle mem => complete.inside handle (listed name handle mem),
    fun name handle mem => complete.resolved handle (listed name handle mem)⟩

/-- No failure is lost, told twice or passed over wrongly. Validating a name tells all listeners the
errors of the failing rules that were not tolerated and returns whether there are none. Validating a
set raises the flag if there are none in any of its names, and otherwise rejects the set with a
report of all of them. -/
theorem Provider.failures_accounted_for {provider : Provider} {context : Context}
    {metadata : ProfileMetadata} (known : provider.registry.get? context = some metadata)
    {policy : Policy} (found : provider.policy context = .ok policy)
    (complete : metadata.IsComplete provider.registry.catalog provider.validators)
    (unbroken : provider.validators.NeverBreaks) {episode : Episode}
    (held : provider.registry.catalog.entries <+: episode.catalog.entries) :
    (∀ (name : String) {Listener : Type} (hear : Listener → FieldError → Listener)
      (listeners : List Listener),
      (∃ runs after,
        policy.Accounts metadata provider.registry.catalog [name] episode runs after ∧
        policy.validateName name episode =
          .ok { valid := (RuleRun.allReported runs).isEmpty
                errors := RuleRun.allReported runs } after ∧
        policy.validateTelling hear name listeners episode =
          .ok { valid := (RuleRun.allReported runs).isEmpty
                listeners := listeners.map fun listener =>
                  (RuleRun.allReported runs).foldl hear listener } after) ∨
        ∃ fault after, policy.MeetsNoText episode fault ∧
          policy.validateName name episode = .error fault after ∧
          policy.validateTelling hear name listeners episode = .error fault after) ∧
    ∀ visit : Visit,
      (∃ runs after, policy.Accounts metadata provider.registry.catalog
          (visit episode.values.names) episode runs after ∧
        policy.Tells (RuleRun.allReported runs) after (Profile.validate policy visit episode)) ∨
        ∃ fault after, policy.MeetsNoText episode fault ∧
          Profile.validate policy visit episode = .error fault after := by
  obtain ⟨validators, declared⟩ : policy.validators = provider.validators ∧
      policy.declared = metadata.declared provider.registry.catalog := by
    rw [Provider.policy, known] at found
    cases found
    exact ⟨rfl, rfl⟩
  rw [← validators] at complete unbroken
  have answers := complete.answers unbroken declared
  constructor
  · exact fun name _ hear listeners =>
      answers.validateTelling_cases declared held name hear listeners
  · exact fun visit => answers.validate_cases declared held visit

/-- The first rule of an attribute that may not be written fails and puts the stored value back, so
its failure is tolerated; the second one adds a rule to its copy whose validator is absent and which
is not run; the rule of the marker puts in another value and is reported to both listeners. -/
theorem Provider.failures_accounted_for_of_rewritten :
    let provider : Provider :=
      { registry :=
          { contexts := [(.updateProfile, { context := .updateProfile, attributes := [0, 1] })]
            catalog := { entries := [
              { name := "tier", writeAllowed := [Predicate.never], rules := [
                { identity := 0, validator := "restore" },
                { identity := 1, validator := "layer" }] },
              { name := readOnlyMarker, rules := [{ identity := 2, validator := "upgrade" }] }] } }
        validators := [
          ("restore", fun invocation => .ok
            { errors := [{ validator := "restore", field := "tier", message := "restored" }]
              values := invocation.situation.values.put "tier" [.text "basic"] }),
          ("layer", fun invocation => .ok
            { values := invocation.situation.values
              additions := [{ identity := 3, validator := "absent" }] }),
          ("upgrade", fun invocation => .ok
            { errors := [{ validator := "upgrade", field := "tier", message := "rejected" }]
              values := invocation.situation.values.put "tier" [.text "gold"] })] }
    let metadata : ProfileMetadata := { context := .updateProfile, attributes := [0, 1] }
    let episode : Episode :=
      { organization := some { name := .text "sample"
                               storage := .entries [("tier", [.text "basic"])] }
        values := [("tier", [.text "silver"])]
        catalog := provider.registry.catalog }
    let hear : List String → FieldError → List String := fun heard error => heard ++ [error.message]
    provider.registry.get? .updateProfile = some metadata ∧
    metadata.IsComplete provider.registry.catalog provider.validators ∧
    provider.validators.NeverBreaks ∧
    provider.registry.catalog.entries <+: episode.catalog.entries ∧
    ∃ policy runs after, provider.policy .updateProfile = .ok policy ∧
      policy.Accounts metadata provider.registry.catalog ["tier"] episode runs after ∧
      (runs.map fun run => run.rule.identity) = [0, 1, 2] ∧
      policy.validateTelling hear "tier" [[], []] episode =
        .ok { valid := false, listeners := [["rejected"], ["rejected"]] } after := by
  intro provider metadata episode hear
  have complete : metadata.IsComplete provider.registry.catalog provider.validators :=
    ⟨by decide, by decide⟩
  have unbroken : provider.validators.NeverBreaks := by
    intro id validator found invocation
    rw [Keyed.get?_cons, Keyed.get?_cons, Keyed.get?_cons] at found
    split at found
    · cases found
      exact ⟨_, rfl⟩
    · split at found
      · cases found
        exact ⟨_, rfl⟩
      · split at found
        · cases found
          exact ⟨_, rfl⟩
        · cases found
  have held : provider.registry.catalog.entries <+: episode.catalog.entries := List.prefix_rfl
  refine ⟨rfl, complete, unbroken, held, ?_⟩
  let policy : Policy :=
    { context := .updateProfile, declared := metadata.declared provider.registry.catalog
      validators := provider.validators }
  have found : provider.policy .updateProfile = .ok policy := rfl
  -- what a run gives, without the episode that it leaves
  let outcome (result : EStateM.Result Fault Episode (Policy.Hearing (List String))) :
      Option (Bool × List (List String)) :=
    match result with
    | .ok hearing _ => some (hearing.valid, hearing.listeners)
    | .error _ _ => none
  have computed : outcome (policy.validateTelling hear "tier" [[], []] episode) =
      some (false, [["rejected"], ["rejected"]]) := by
    decide +kernel
  obtain ⟨told, -⟩ := Provider.failures_accounted_for rfl found complete unbroken held
  rcases told "tier" hear [[], []] with ⟨runs, after, accounts, -, result⟩ | ⟨_, _, -, -, result⟩
  · rw [result] at computed
    obtain ⟨valid, listeners⟩ := Prod.mk.inj (Option.some.inj computed)
    dsimp only at valid listeners
    rw [valid, listeners] at result
    refine ⟨policy, runs, after, found, accounts, ?_, result⟩
    have tasks := congrArg (List.map fun task => task.rule.identity) accounts.tasks
    rw [List.map_map] at tasks
    exact tasks.trans (by decide +kernel)
  · rw [result] at computed
    cases computed

end ProfilePolicy
