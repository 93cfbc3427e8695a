import ProfilePolicy.Proofs.Creation

/-!
# Violations

Which names of a fresh set are in error can be said without validators: those that are protected and
whose contents are not a permutation of the present ones. The name of the organization is protected
from managers by a rule of its own, and from administrators only by a pattern and only when it is
not blank. A violated name is reported once for every rule that covers it, and nothing else is
reported. This holds whenever the comparison can be made, which needs values that are texts or
missing.
-/

namespace ProfilePolicy

open Value

namespace Situation

/-- The contents submitted are not a permutation of the present ones. -/
def Changes (situation : Situation) : Prop :=
  ¬ (contentTexts situation.persisted).Perm (contentTexts situation.value)

/-- The name is protected, and its contents are changed. -/
def Violated (config : Config) (situation : Situation) : Prop :=
  situation.Changes ∧
    if situation.name = nameKey then
      situation.context = .updateProfile ∨
        config.Protects .updateMetadata nameKey ∧ contentTexts situation.value ≠ []
    else config.Protects situation.context situation.name

instance (situation : Situation) : Decidable situation.Changes :=
  inferInstanceAs (Decidable (¬ _))

instance (config : Config) (situation : Situation) : Decidable (situation.Violated config) :=
  inferInstanceAs (Decidable (_ ∧ _))

/-- The errors of a name: if it is violated one for every rule that covers it. -/
def violations (config : Config) (situation : Situation) : List FieldError :=
  if situation.Violated config then
    List.replicate (Policy.ownRules situation.context situation.name) Policy.nameError ++
      List.replicate (config.matchCount situation.context situation.name)
        (Policy.attributeError situation.name)
  else []

section Violated

variable {config : Config} {situation : Situation}

theorem violated_of_ne (notName : situation.name ≠ nameKey) :
    situation.Violated config ↔
      situation.Changes ∧ config.Protects situation.context situation.name := by
  unfold Violated
  simp [notName]

theorem violated_of_eq (isName : situation.name = nameKey) :
    situation.Violated config ↔ situation.Changes ∧ (situation.context = .updateProfile ∨
      config.Protects .updateMetadata nameKey ∧ contentTexts situation.value ≠ []) := by
  unfold Violated
  simp [isName]

theorem violations_of_violated (violated : situation.Violated config) :
    situation.violations config =
      List.replicate (Policy.ownRules situation.context situation.name) Policy.nameError ++
        List.replicate (config.matchCount situation.context situation.name)
          (Policy.attributeError situation.name) :=
  if_pos violated

theorem violations_of_not (accepted : ¬ situation.Violated config) :
    situation.violations config = [] :=
  if_neg accepted

/-- Some rule covers a name that is violated. -/
theorem violations_eq_nil_iff : situation.violations config = [] ↔ ¬ situation.Violated config := by
  constructor
  · intro none violated
    rw [violations_of_violated violated, List.append_eq_nil_iff, List.replicate_eq_nil_iff,
      List.replicate_eq_nil_iff] at none
    obtain ⟨noRule, noMatch⟩ := none
    have uncovered : ¬ config.Protects situation.context situation.name := by
      rw [Config.protects_iff_matchCount_pos, noMatch]
      exact Nat.lt_irrefl 0
    by_cases isName : situation.name = nameKey
    · have administrator : situation.context ≠ .updateProfile := by
        intro manager
        rw [Policy.ownRules, if_pos ⟨manager, isName⟩] at noRule
        cases noRule
      rcases ((violated_of_eq isName).mp violated).2 with manager | ⟨protects, -⟩
      · exact administrator manager
      · rw [isName] at uncovered
        exact uncovered (protects.manager situation.context)
    · exact uncovered ((violated_of_ne isName).mp violated).2
  · exact violations_of_not

end Violated

structure IsTextual (situation : Situation) : Prop where
  value : ∀ v ∈ situation.value, v.IsTextual
  stored : ∀ v ∈ situation.stored, v.IsTextual
  storedName : ∀ v ∈ Validator.storedName situation.organization, v.IsTextual

theorem contentTexts_ne_nil_of_blank {submitted : List Value}
    (visible : (submitted.headD .null).blank = .ok false) : contentTexts submitted ≠ [] := by
  cases submitted with
  | nil => cases visible
  | cons first rest =>
    cases first with
    | text written =>
      have shown : Text.isBlank written = false := Except.ok.inj visible
      simp [shown]
    | _ => cases visible

/-- A comparison with nothing that fails was made with contents. -/
theorem contentTexts_ne_nil_of_changed {submitted : List Value}
    (changed : Value.unchangedValues (.list []) (.list submitted) = .ok false) :
    contentTexts submitted ≠ [] := by
  rw [unchangedValues_lists] at changed
  obtain ⟨agree, first, changed⟩ := bind_eq_ok.mp changed
  cases agree with
  | false => exact contentTexts_ne_nil_of_blank first
  | true =>
    intro none
    obtain ⟨kept, nothing, changed⟩ := bind_eq_ok.mp changed
    obtain ⟨wanted, given, changed⟩ := bind_eq_ok.mp changed
    cases nothing
    obtain ⟨-, rfl⟩ := nonBlank_eq_ok_iff.mp given
    rw [none] at changed
    cases changed

variable {config : Config} {situation : Situation} {existing : List Value}

theorem persisted_of_unbound (unbound : situation.organization = none) :
    situation.persisted = [] := by
  unfold persisted stored Validator.storedName
  rw [unbound, ite_self]

/-- Changes are never passed over, and nothing else is if there is an organization. -/
theorem tolerates_eq_ok {tolerated : Bool} (h : situation.tolerates = .ok tolerated) :
    tolerated = true ↔ situation.organization.isSome = true ∧ ¬ situation.Changes := by
  by_cases bound : situation.organization.isSome = true
  · rw [tolerates_eq_ok_iff bound] at h
    rw [← h.2.2, sameCollection_iff_perm, and_iff_right bound, Changes, Classical.not_not]
  · rw [tolerates_unbound (Option.not_isSome_iff_eq_none.mp bound)] at h
    cases h
    simp [bound]

/-- What a rule reports if the comparison can be made: changes to the existing values, be these the
present ones or none at all. -/
theorem reports_eq_ok {reported : Bool}
    (compares : existing = [] ∨ existing = situation.persisted)
    (h : situation.reports existing = .ok reported) :
    reported = true ↔
      ¬ (contentTexts existing).Perm (contentTexts situation.value) ∧ situation.Changes := by
  obtain ⟨unchanged, compared, h⟩ := bind_eq_ok.mp h
  cases unchanged with
  | true =>
    cases h
    have perm := (unchangedValues_eq_true_iff.mp compared).2.2.2
    simp [perm]
  | false =>
    obtain ⟨tolerated, answer, rfl⟩ := map_eq_ok.mp h
    have changedUnbound : situation.organization.isSome ≠ true → situation.Changes := by
      intro absent
      have nothing := persisted_of_unbound (Option.not_isSome_iff_eq_none.mp absent)
      have unstored : existing = [] := compares.elim id fun same => same.trans nothing
      rw [unstored] at compared
      rw [Changes, nothing, contentTexts_nil, List.nil_perm]
      exact contentTexts_ne_nil_of_changed compared
    have changed : situation.Changes →
        ¬ (contentTexts existing).Perm (contentTexts situation.value) := by
      intro changes
      rcases compares with rfl | rfl
      · rw [contentTexts_nil, List.nil_perm]
        exact contentTexts_ne_nil_of_changed compared
      · exact changes
    rw [Bool.not_eq_true', ← Bool.not_eq_true, tolerates_eq_ok answer, not_and, Classical.not_not]
    constructor
    · intro rejected
      by_cases bound : situation.organization.isSome = true
      · exact ⟨changed (rejected bound), rejected bound⟩
      · exact ⟨changed (changedUnbound bound), changedUnbound bound⟩
    · exact fun both _ => both.2

theorem IsTextual.persisted (textual : situation.IsTextual) :
    ∀ v ∈ situation.persisted, v.IsTextual := by
  unfold Situation.persisted
  split
  · exact textual.storedName
  · exact textual.stored

theorem reports_of_textual (textual : situation.IsTextual)
    (compares : ∀ v ∈ existing, v.IsTextual) :
    ∃ reported, situation.reports existing = .ok reported := by
  obtain ⟨unchanged, compared⟩ := unchangedValues_of_textual compares textual.value
  obtain ⟨tolerated, answer⟩ := tolerates_of_textual textual.persisted textual.value
  rw [reports, compared, answer]
  cases unchanged <;> exact ⟨_, rfl⟩

end Situation

namespace Policy

open Situation

variable {config : Config} {situation : Situation} {existing : List Value}

theorem repeated_eq_ok {count : Nat} {error : FieldError} {errors : List FieldError}
    (compares : existing = [] ∨ existing = situation.persisted)
    (h : repeated situation existing count error = .ok errors) :
    (¬ (contentTexts existing).Perm (contentTexts situation.value) ∧ situation.Changes →
        errors = List.replicate count error) ∧
      (¬ (¬ (contentTexts existing).Perm (contentTexts situation.value) ∧ situation.Changes) →
        errors = []) := by
  rw [repeated] at h
  split at h
  · rename_i none
    cases h
    rw [none]
    exact ⟨fun _ => rfl, fun _ => rfl⟩
  · obtain ⟨reported, answer, rfl⟩ := map_eq_ok.mp h
    rw [← reports_eq_ok compares answer]
    constructor
    · intro changed
      exact if_pos changed
    · intro kept
      exact if_neg kept

theorem both_eq_ok {first second : Except Mishap (List FieldError)} {errors : List FieldError}
    (h : both first second = .ok errors) :
    ∃ own others, first = .ok own ∧ second = .ok others ∧ errors = own ++ others := by
  obtain ⟨own, found, h⟩ := bind_eq_ok.mp h
  obtain ⟨others, found', h⟩ := bind_eq_ok.mp h
  exact ⟨own, others, found, found', (Except.ok.inj h).symm⟩

theorem replicate_matchCount_of_not (error : FieldError) {context : Context} {name : String}
    (open' : ¬ config.Protects context name) :
    List.replicate (config.matchCount context name) error = [] := by
  have none : config.matchCount context name = 0 := by
    rw [Config.protects_iff_matchCount_pos] at open'
    exact Nat.eq_zero_of_not_pos open'
  rw [none, List.replicate_zero]

/-- What is found in a name other than the organization's. -/
theorem finding_eq_ok_of_ne {errors : List FieldError} (notName : situation.name ≠ nameKey)
    (h : finding config situation = .ok errors) : errors = situation.violations config := by
  obtain ⟨own, others, first, second, rfl⟩ := both_eq_ok h
  rw [ownRules_of_ne notName] at first
  cases first
  rw [← persisted_of_ne notName] at second
  obtain ⟨reported, silent⟩ := repeated_eq_ok (Or.inr rfl) second
  rw [List.nil_append]
  by_cases changes : situation.Changes
  · rw [reported ⟨changes, changes⟩]
    by_cases protects : config.Protects situation.context situation.name
    · rw [violations_of_violated ((violated_of_ne notName).mpr ⟨changes, protects⟩),
        ownRules_of_ne notName]
      rfl
    · rw [violations_of_not fun violated => protects ((violated_of_ne notName).mp violated).2]
      exact replicate_matchCount_of_not _ protects
  · rw [silent fun both => changes both.2, violations_of_not fun violated => changes violated.1]

/-- What is found in the name of the organization. Where nothing is stored as an attribute of that
name, patterns compare with nothing and then look at the name to see what can be passed over. -/
theorem finding_eq_ok_of_eq {errors : List FieldError} (isName : situation.name = nameKey)
    (unnamed : situation.stored = [])
    (restored : situation.context = .updateProfile →
      contentTexts situation.value = [] → contentTexts situation.persisted = [])
    (h : finding config situation = .ok errors) : errors = situation.violations config := by
  obtain ⟨own, others, first, second, rfl⟩ := both_eq_ok h
  have present : situation.persisted = Validator.storedName situation.organization :=
    if_pos isName
  rw [← present] at first
  rw [unnamed] at second
  obtain ⟨reported, silent⟩ := repeated_eq_ok (Or.inr rfl) first
  obtain ⟨reported', silent'⟩ := repeated_eq_ok (Or.inl rfl) second
  rw [contentTexts_nil, List.nil_perm] at reported' silent'
  have unruled : situation.context ≠ .updateProfile →
      ownRules situation.context situation.name = 0 :=
    fun administrator => if_neg fun both => administrator both.1
  by_cases changes : situation.Changes
  · rw [reported ⟨changes, changes⟩]
    by_cases blank : contentTexts situation.value = []
    · have administrator : situation.context ≠ .updateProfile := by
        intro manager
        apply changes
        rw [restored manager blank, blank]
      have passed : ¬ situation.Violated config := by
        rw [violated_of_eq isName]
        rintro ⟨-, manager | ⟨-, visible⟩⟩
        · exact administrator manager
        · exact visible blank
      rw [silent' fun both => both.1 blank, violations_of_not passed, unruled administrator]
      rfl
    · rw [reported' ⟨blank, changes⟩]
      by_cases violated : situation.Violated config
      · rw [violations_of_violated violated]
      · rw [violations_of_not violated]
        rw [violated_of_eq isName] at violated
        have administrator : situation.context ≠ .updateProfile :=
          fun manager => violated ⟨changes, Or.inl manager⟩
        have uncovered : ¬ config.Protects situation.context situation.name := by
          cases context : situation.context with
          | updateProfile => exact absurd context administrator
          | updateMetadata =>
            rw [isName]
            exact fun protects => violated ⟨changes, Or.inr ⟨protects, blank⟩⟩
        rw [unruled administrator, replicate_matchCount_of_not _ uncovered]
        rfl
  · rw [silent fun both => changes both.2, silent' fun both => changes both.2,
      violations_of_not fun violated => changes violated.1]
    rfl

theorem repeated_of_textual (textual : situation.IsTextual)
    (compares : ∀ v ∈ existing, v.IsTextual) (count : Nat) (error : FieldError) :
    ∃ errors, repeated situation existing count error = .ok errors := by
  obtain ⟨reported, answer⟩ := reports_of_textual textual compares
  rw [repeated, answer]
  split <;> exact ⟨_, rfl⟩

theorem finding_of_textual (textual : situation.IsTextual) :
    ∃ errors, finding config situation = .ok errors := by
  obtain ⟨own, first⟩ := repeated_of_textual textual textual.storedName
    (ownRules situation.context situation.name) nameError
  obtain ⟨others, second⟩ := repeated_of_textual textual textual.stored
    (config.matchCount situation.context situation.name) (attributeError situation.name)
  rw [finding, first, second]
  exact ⟨own ++ others, rfl⟩

variable {policy : Policy} {episode : Episode} {names : List String}

/-- What is found in several names are their violations. -/
theorem findings_eq_ok {errors : List FieldError}
    (each : ∀ name ∈ names, ∀ errors, finding config (policy.situation name episode) = .ok errors →
      errors = (policy.situation name episode).violations config)
    (h : findings config policy episode names = .ok errors) :
    errors = names.flatMap fun name => (policy.situation name episode).violations config := by
  induction names generalizing errors with
  | nil =>
    cases h
    rfl
  | cons name rest ih =>
    obtain ⟨own, others, first, second, rfl⟩ := both_eq_ok h
    rw [each name List.mem_cons_self own first,
      ih (fun other mem => each other (List.mem_cons_of_mem _ mem)) second, List.flatMap_cons]

theorem findings_of_textual
    (textual : ∀ name ∈ names, (policy.situation name episode).IsTextual) :
    ∃ errors, findings config policy episode names = .ok errors := by
  induction names with
  | nil => exact ⟨[], rfl⟩
  | cons name rest ih =>
    obtain ⟨own, first⟩ := finding_of_textual (textual name List.mem_cons_self)
    obtain ⟨others, second⟩ := ih fun other mem => textual other (List.mem_cons_of_mem _ mem)
    rw [findings, first, second]
    exact ⟨own ++ others, rfl⟩

end Policy

namespace Profile

variable {profile : Profile} {config : Config} {context : Context} {submitted : Submission}
variable {organization : Option Organization}

def situation (profile : Profile) (name : String) : Situation :=
  profile.policy.situation name profile.episode

/-- The outcome of validation follows from the violated names. -/
structure DecidedBy (result : Except Fault Unit) (profile : Profile) (config : Config) : Prop where
  accepted : result = .ok () ↔
    ∀ name ∈ profile.episode.values.names, ¬ (profile.situation name).Violated config
  rejected : (∃ report, result = .error (.rejected report)) ↔
    ∃ name ∈ profile.episode.values.names, (profile.situation name).Violated config
  errors : ∀ report, result = .error (.rejected report) →
    report.errors.Perm
      (profile.episode.values.names.flatMap fun name => (profile.situation name).violations config)

/-- What is found in a name of a fresh profile, if no attribute of the organization is called by the
name of the name. -/
theorem IsFresh.finding_eq_ok (fresh : profile.IsFresh config context submitted organization)
    (unnamed : ∀ known, organization = some known → known.valuesOf nameKey = [])
    (name : String) (errors : List FieldError)
    (h : Policy.finding config (profile.situation name) = .ok errors) :
    errors = (profile.situation name).violations config := by
  by_cases isName : name = nameKey
  · subst isName
    have bound : (profile.situation nameKey).organization = organization := fresh.organization_eq
    apply Policy.finding_eq_ok_of_eq rfl ?_ ?_ h
    · cases organization with
      | none =>
        unfold Situation.stored
        rw [bound]
      | some known =>
        unfold Situation.stored
        rw [bound]
        exact unnamed known rfl
    · intro manager blank
      have named : (profile.situation nameKey).persisted = Validator.storedName organization := by
        rw [← bound]
        exact if_pos rfl
      rw [named]
      cases organization with
      | none => rfl
      | some known => exact fresh.restored (fresh.context_eq.symm.trans manager) rfl blank
  · exact Policy.finding_eq_ok_of_ne isName h

theorem isTextual_situation (bound : profile.episode.organization = organization)
    (known : ∀ known, organization = some known → known.IsTextual)
    (textual : AllTextual profile.episode.values) (name : String) :
    (profile.situation name).IsTextual := by
  have bound' : (profile.situation name).organization = organization := bound
  constructor
  · exact textual name
  · unfold Situation.stored
    rw [bound']
    cases organization with
    | none => exact fun v mem => absurd mem List.not_mem_nil
    | some organization => exact (known organization rfl).values name
  · rw [bound']
    exact Policy.storedName_textual known

theorem decidedBy_of_violations {names : List String}
    (perm : names.Perm profile.episode.values.names) {result : Except Fault Unit}
    (h : result = .ok () ∧
        names.flatMap (fun name => (profile.situation name).violations config) = [] ∨
      ∃ report, result = .error (.rejected report) ∧
        names.flatMap (fun name => (profile.situation name).violations config) ≠ [] ∧
        report.errors.Perm
          (names.flatMap fun name => (profile.situation name).violations config)) :
    DecidedBy result profile config := by
  have nothing : names.flatMap (fun name => (profile.situation name).violations config) = [] ↔
      ∀ name ∈ profile.episode.values.names, ¬ (profile.situation name).Violated config := by
    rw [List.flatMap_eq_nil_iff]
    constructor
    · intro none name mem
      exact Situation.violations_eq_nil_iff.mp (none name (perm.mem_iff.mpr mem))
    · intro none name mem
      exact Situation.violations_eq_nil_iff.mpr (none name (perm.mem_iff.mp mem))
  rcases h with ⟨ok, silent⟩ | ⟨report, failed, found, errors⟩
  · have none := nothing.mp silent
    refine ⟨⟨fun _ => none, fun _ => ok⟩, ⟨?_, ?_⟩, ?_⟩
    · rintro ⟨report, failed⟩
      rw [ok] at failed
      cases failed
    · rintro ⟨name, mem, violated⟩
      exact absurd violated (none name mem)
    · intro report failed
      rw [ok] at failed
      cases failed
  · refine ⟨⟨?_, ?_⟩, ⟨?_, fun _ => ⟨report, failed⟩⟩, ?_⟩
    · intro ok
      rw [ok] at failed
      cases failed
    · intro none
      exact absurd (nothing.mpr none) found
    · intro _
      refine Classical.byContradiction fun nobody => found (nothing.mpr ?_)
      exact fun name mem violated => nobody ⟨name, mem, violated⟩
    · intro report' failed'
      rw [failed] at failed'
      cases failed'
      exact errors.trans (perm.flatMap_right _)

end Profile

/-- Every comparison can be made in a profile made of texts. -/
theorem Provider.IsBuiltin.findings_of_comparable {provider : Provider} {config : Config}
    (builtin : provider.IsBuiltin config) {context : Context} {submitted : Submission}
    {organization : Option Organization} {profile : Profile}
    (created : provider.create context submitted.entries organization = .ok profile)
    (comparable : Comparable submitted organization) (names : List String) :
    ∃ errors, Policy.findings config profile.policy profile.episode names = .ok errors := by
  have fresh := builtin.isFresh_create created
  obtain ⟨made, created', textual⟩ := builtin.create_of_textual context comparable
  rw [created] at created'
  cases created'
  apply Policy.findings_of_textual
  intro name _
  exact Profile.isTextual_situation fresh.organization_eq comparable.organization textual name

/-- Validation of a fresh profile is decided by its violated names, unless a comparison cannot be
made. This needs a value that is neither a text nor missing, as does a failure to make the
profile. -/
theorem Provider.IsBuiltin.validation_decided {provider : Provider} {config : Config}
    (builtin : provider.IsBuiltin config) (context : Context) (submitted : Submission)
    (organization : Option Organization)
    (unnamed : ∀ known, organization = some known → known.valuesOf nameKey = []) (order : Order) :
    match provider.create context submitted.entries organization with
    | .error _ => ¬ Comparable submitted organization
    | .ok profile =>
      let result := (profile.run fun policy => Profile.validate policy order.visit).1
      Profile.DecidedBy result profile config ∨
        (∃ cause, result = .error (.mishap cause)) ∧ ¬ Comparable submitted organization := by
  cases created : provider.create context submitted.entries organization with
  | error fault =>
    intro comparable
    obtain ⟨profile, made, -⟩ := builtin.create_of_textual context comparable
    rw [made] at created
    cases created
  | ok profile =>
    have fresh := builtin.isFresh_create created
    have outcome := profile.run_cases (fun policy => Profile.validate policy order.visit)
      (Policy.leads_validate fresh.builtin fresh.holds order.visit)
    let names := order.visit profile.episode.values.names
    have perm : names.Perm profile.episode.values.names := order.perm _
    have found : ∀ errors, Policy.findings config profile.policy profile.episode names = .ok errors →
        errors = names.flatMap fun name => (profile.situation name).violations config := by
      intro errors
      apply Policy.findings_eq_ok
      exact fun name _ => fresh.finding_eq_ok unnamed name
    rcases outcome with ⟨_, after, result, nothing, -⟩ | ⟨fault, after, result, -, rejects⟩
    · left
      simp only [result]
      exact Profile.decidedBy_of_violations perm (Or.inl ⟨rfl, (found [] nothing).symm⟩)
    · simp only [result]
      unfold Policy.Rejects at rejects
      cases attempt : Policy.findings config profile.policy profile.episode names with
      | error cause =>
        rw [attempt] at rejects
        right
        refine ⟨⟨cause, congrArg Except.error rejects⟩, fun comparable => ?_⟩
        obtain ⟨errors, all⟩ := builtin.findings_of_comparable created comparable names
        rw [all] at attempt
        cases attempt
      | ok errors =>
        rw [attempt] at rejects
        obtain ⟨some, report, rfl, listed⟩ := rejects
        rw [found errors attempt] at some listed
        left
        exact Profile.decidedBy_of_violations perm (Or.inr ⟨report, rfl, some, listed⟩)

/-- A manager who changes a value that binds managers is rejected. -/
theorem Provider.validation_decided_changed :
    let submitted := Submission.ofPairs [("org_ro_tier", .text "gold")]
    let organization : Organization :=
      { name := .text "sample", storage := .entries [("org_ro_tier", [.text "basic"])] }
    ∃ profile report, (Provider.standard {}).create .updateProfile submitted.entries
        (some organization) = .ok profile ∧
      (profile.run fun policy => Profile.validate policy id).1 = .error (.rejected report) := by
  intro submitted organization
  have unnamed : ∀ known, some organization = some known → known.valuesOf nameKey = [] := by
    rintro known same
    cases same
    rfl
  have succeeds : ((Provider.standard {}).create .updateProfile submitted.entries
      (some organization)).toBool = true := by decide +kernel
  have created := eq_ok_of_toBool succeeds
  have decided := (Provider.isBuiltin_standard {}).validation_decided .updateProfile submitted
    (some organization) unnamed .listed
  rw [created] at decided
  rcases decided with decided | ⟨-, stuck⟩
  · obtain ⟨report, failed⟩ := decided.rejected.mpr ⟨"org_ro_tier", by decide +kernel⟩
    exact ⟨_, report, created, failed⟩
  · refine absurd ⟨?_, ?_⟩ stuck
    · intro entry mem
      rw [List.mem_singleton.mp mem]
      exact ⟨[.text "gold"], rfl, by simp [isTextual_text]⟩
    · rintro known same
      cases same
      refine ⟨isTextual_text "sample", fun name v mem => ?_⟩
      by_cases held : name = "org_ro_tier"
      · subst held
        rw [List.mem_singleton.mp mem]
        exact isTextual_text "basic"
      · simp [organization, Organization.valuesOf, Storage.valuesOf, Keyed.get?_cons, held] at mem

end ProfilePolicy
