import ProfilePolicy.Proofs.Authority
import ProfilePolicy.Proofs.MissingRules
import ProfilePolicy.Proofs.Restating
import ProfilePolicy.Proofs.Violations

/-!
# A name that was left out

A manager may leave the name out of a submission, or leave it blank, and the set then takes over the
name of the organization. Before that, declared names that are missing altogether are filled in with
what the organization has stored under them as attributes, and the name is a declared one. So an
attribute that is called like the name, and has contents, gets into the set in place of the name,
which is then not restored. The rule for the name compares it with the name of the organization.
-/

namespace ProfilePolicy

open Value Situation

/-- The submission tells nothing of the name: there is no value for it, or one without contents. -/
def Submission.LeavesNameOut (submitted : Submission) : Prop :=
  ∀ value, submitted.entries.get? nameKey = some value →
    ∃ items, value.normalized = .ok items ∧ contents items = []

/-- An attribute called like the name has contents and there is no value for the name. -/
def Organization.ShadowsName (organization : Organization) (submitted : Keyed Value) : Prop :=
  submitted.get? nameKey = none ∧ contentTexts (organization.valuesOf nameKey) ≠ []

namespace Policy

variable {policy : Policy} {config : Config} {catalog : Catalog} {submitted : Submission}
variable {organization : Organization} {values : AttributeValues} {episode : Episode}

/-- A declared name that was left out has what is stored under it. -/
theorem get?_fillDeclared_of_declared {declared : List String} {name : String}
    (missing : values.get? name = none) (mem : name ∈ declared)
    (notMarker : name ≠ readOnlyMarker) :
    (fillDeclared (some organization) values declared).get? name =
      some (present (organization.valuesOf name)) := by
  have held : ((fillDeclared (some organization) values declared).get? name).isSome = true := by
    rw [Keyed.get?_isSome_iff, mem_names_fillDeclared]
    exact Or.inr ⟨mem, notMarker⟩
  obtain ⟨given, found⟩ := Option.isSome_iff_exists.mp held
  rw [found, get?_fillDeclared_of_missing missing declared found]

/-- What the set holds under the name before the name is restored. -/
theorem get_filled_nameKey (organization : Organization) (catalog : Catalog)
    (builtin : policy.IsBuiltin) (manages : policy.context = .updateProfile)
    (leftOut : submitted.LeavesNameOut) (given : normalizeAll submitted.entries = .ok values) :
    let filled := policy.filled (some organization) catalog values
    submitted.entries.get? nameKey = none ∧
        filled.get nameKey = present (organization.valuesOf nameKey) ∨
      submitted.entries.get? nameKey ≠ none ∧ contents (filled.get nameKey) = [] := by
  intro filled
  have declared : nameKey ∈ policy.declared.names := by
    rw [builtin.declared, manages]
    decide
  rcases get?_normalizeAll given nameKey with ⟨none, missing⟩ | ⟨value, items, found, normal, held⟩
  · left
    refine ⟨none, ?_⟩
    have taken : filled.values.get? nameKey = some (present (organization.valuesOf nameKey)) :=
      get?_fillDeclared_of_declared missing declared (by decide)
    rw [Episode.get, taken, Option.getD_some]
  · right
    obtain ⟨items', normal', nothing⟩ := leftOut value found
    have taken : filled.values.get? nameKey = some items :=
      get?_fillDeclared_of_held held policy.declared.names
    rw [Episode.get, taken, Option.getD_some, found]
    rw [normal] at normal'
    cases normal'
    exact ⟨Option.some_ne_none value, nothing⟩

/-- The name is restored unless an attribute stands in its place. -/
theorem begin_of_leavesNameOut (builtin : policy.IsBuiltin) (holds : catalog.Holds config)
    (manages : policy.context = .updateProfile) (leftOut : submitted.LeavesNameOut)
    (textual : organization.IsTextual) (given : normalizeAll submitted.entries = .ok values) :
    ∃ episode, policy.begin submitted.entries (some organization) catalog = .ok episode ∧
      (organization.ShadowsName submitted.entries →
        episode.get nameKey = present (organization.valuesOf nameKey)) ∧
      (¬ organization.ShadowsName submitted.entries →
        episode.get nameKey = Validator.storedName (some organization)) := by
  have denied : policy.deniedByMetadata nameKey
      (policy.filled (some organization) catalog values) = true := by
    rw [builtin.deniedByMetadata_eq holds, manages]
    rfl
  have named : ((policy.filled (some organization) catalog values).values.put nameKey
      (Validator.storedName (some organization))).get? nameKey =
        some (Validator.storedName (some organization)) := by
    rw [Keyed.get?_put, if_pos rfl]
  have restoring : (∀ v ∈ (policy.filled (some organization) catalog values).get nameKey,
      v.IsTextual) → policy.begin submitted.entries (some organization) catalog =
        .ok (policy.restored (policy.filled (some organization) catalog values)) := by
    intro texts
    rw [begin, given]
    exact (restoreName_eq_ok_iff rfl).mpr ⟨texts, rfl⟩
  rcases get_filled_nameKey organization catalog builtin manages leftOut given with
    ⟨none, taken⟩ | ⟨some, nothing⟩
  · have texts : ∀ v ∈ present (organization.valuesOf nameKey), v.IsTextual :=
      fun v mem => textual.values nameKey v (List.mem_filter.mp mem).1
    refine ⟨_, restoring (taken ▸ texts), ?_, ?_⟩
    · rintro ⟨-, visible⟩
      rw [restored, taken, contentTexts_present, List.isEmpty_eq_false_iff.mpr visible]
      exact taken
    · intro unshadowed
      have blank : contentTexts (organization.valuesOf nameKey) = [] :=
        Classical.byContradiction fun visible => unshadowed ⟨none, visible⟩
      rw [restored, taken, contentTexts_present, blank, denied, persisted_nameKey]
      exact congrArg (Option.getD · []) named
  · obtain ⟨texts, blank⟩ := contents_eq_nil_iff.mp nothing
    refine ⟨_, restoring texts, fun shadowed => absurd shadowed.1 some, fun _ => ?_⟩
    rw [restored, blank, denied, persisted_nameKey]
    exact congrArg (Option.getD · []) named

/-- A manager's name is accepted exactly when it is the present one. -/
theorem finding_nameKey_eq_nil_iff (manages : policy.context = .updateProfile)
    (bound : episode.organization = some organization) (textual : organization.IsTextual) :
    finding config (policy.situation nameKey episode) = .ok [] ↔
      Keeps (Validator.storedName (some organization)) (episode.get nameKey) := by
  have value : (policy.situation nameKey episode).value = episode.get nameKey := rfl
  constructor
  · intro accepted
    rw [← value]
    exact keeps_name_of_accepted manages bound accepted
  · intro keeps
    have present : (policy.situation nameKey episode).organization.isSome = true :=
      congrArg Option.isSome bound
    have persisted : (policy.situation nameKey episode).persisted =
        Validator.storedName (some organization) := by
      rw [← bound]
      exact if_pos rfl
    have kept : Keeps (policy.situation nameKey episode).persisted
        (policy.situation nameKey episode).value := persisted ▸ keeps
    rw [finding, both_eq_nil_iff, repeated_eq_nil_iff, repeated_eq_nil_iff]
    constructor
    · intro _
      apply reports_eq_false_of_keeps _ present kept
      have known : (policy.situation nameKey episode).organization = some organization := bound
      rw [known]
      exact keeps.1
    · intro _
      apply reports_eq_false_of_keeps _ present kept
      rw [Profile.stored_situation bound]
      exact textual.values nameKey

theorem normalizeAll_eq_error {submitted : Keyed Value} {cause : Mishap}
    (h : normalizeAll submitted = .error cause) :
    ∃ entry ∈ submitted, entry.2.normalized = .error cause := by
  induction submitted with
  | nil => cases h
  | cons entry rest ih =>
    obtain ⟨name, value⟩ := entry
    rcases bind_eq_error h with own | ⟨items, -, later⟩
    · exact ⟨_, List.mem_cons_self, own⟩
    · rcases bind_eq_error later with others | ⟨values, -, done⟩
      · obtain ⟨entry, mem, stuck⟩ := ih others
        exact ⟨entry, List.mem_cons_of_mem _ mem, stuck⟩
      · cases done

end Policy

/-- What a manager's profile makes of a name that was left out. -/
structure Profile.TakesNameOver (profile : Profile) (organization : Organization)
    (submitted : Keyed Value) (errors : List FieldError) : Prop where
  validation : (profile.run fun policy => policy.validateName nameKey).1 =
    .ok (Policy.verdictOf errors)
  /-- The name of the organization is taken over and accepted. -/
  restored : ¬ organization.ShadowsName submitted →
    profile.episode.get nameKey = Validator.storedName (some organization) ∧ errors = []
  /-- An attribute stands in its place, which is accepted when it has the name as its contents. -/
  shadowed : organization.ShadowsName submitted →
    profile.episode.get nameKey = present (organization.valuesOf nameKey) ∧
      (errors = [] ↔ (contentTexts (Validator.storedName (some organization))).Perm
        (contentTexts (organization.valuesOf nameKey)))

theorem Profile.takesNameOver_of_begin {policy : Policy} {config : Config} {episode : Episode}
    {organization : Organization} {submitted : Keyed Value} (builtin : policy.IsBuiltin)
    (holds : episode.catalog.Holds config) (manages : policy.context = .updateProfile)
    (bound : episode.organization = some organization) (textual : organization.IsTextual)
    (shadowed : organization.ShadowsName submitted →
      episode.get nameKey = present (organization.valuesOf nameKey))
    (restored : ¬ organization.ShadowsName submitted →
      episode.get nameKey = Validator.storedName (some organization)) :
    ∃ errors, ({ policy, episode } : Profile).TakesNameOver organization submitted errors := by
  have stored : ∀ v ∈ Validator.storedName (some organization), v.IsTextual :=
    Policy.storedName_textual fun _ same => Option.some.inj same ▸ textual
  have given : ∀ v ∈ episode.get nameKey, v.IsTextual := by
    intro v mem
    by_cases shadows : organization.ShadowsName submitted
    · rw [shadowed shadows] at mem
      exact textual.values nameKey v (List.mem_filter.mp mem).1
    · rw [restored shadows] at mem
      exact stored v mem
  have comparable : (policy.situation nameKey episode).IsTextual := by
    refine ⟨given, ?_, ?_⟩
    · rw [Profile.stored_situation bound]
      exact textual.values nameKey
    · have known : (policy.situation nameKey episode).organization = some organization := bound
      rw [known]
      exact stored
  obtain ⟨errors, found⟩ : ∃ errors,
      Policy.finding config (policy.situation nameKey episode) = .ok errors :=
    Policy.finding_of_textual comparable
  have accepted : errors = [] ↔
      Keeps (Validator.storedName (some organization)) (episode.get nameKey) := by
    have silent : Policy.finding config (policy.situation nameKey episode) = .ok [] ↔
        Keeps (Validator.storedName (some organization)) (episode.get nameKey) :=
      Policy.finding_nameKey_eq_nil_iff manages bound textual
    rw [← silent, found, Except.ok.injEq]
  refine ⟨errors, ?_, fun unshadowed => ?_, fun shadows => ?_⟩
  · obtain ⟨after, -, result⟩ := Policy.computes_validateName builtin holds nameKey
    rw [found] at result
    simp only [Profile.run, result]
    rfl
  · have name := restored unshadowed
    rw [accepted, name]
    exact ⟨rfl, stored, stored, List.Perm.refl _⟩
  · have standsIn := shadowed shadows
    refine ⟨standsIn, ?_⟩
    rw [accepted, ← contentTexts_present (organization.valuesOf nameKey), ← standsIn]
    exact ⟨fun keeps => keeps.2.2, fun perm => ⟨stored, given, perm⟩⟩

/-- A manager who leaves the name out gets a profile unless another value cannot be read as a list.
The profile has the name of the organization and accepts it, unless an attribute called like the
name stands in its place. -/
theorem Provider.IsBuiltin.name_left_out {provider : Provider} {config : Config}
    (builtin : provider.IsBuiltin config) {submitted : Submission}
    (leftOut : submitted.LeavesNameOut) {organization : Organization}
    (textual : organization.IsTextual) :
    match provider.create .updateProfile submitted.entries (some organization) with
    | .ok profile => ∃ errors, profile.TakesNameOver organization submitted.entries errors
    | .error fault => ∃ entry ∈ submitted.entries, ∃ cause,
        entry.1 ≠ nameKey ∧ entry.2.normalized = .error cause ∧ fault = .mishap cause := by
  have found := builtin.policy_eq .updateProfile
  obtain ⟨manages, ofBuiltin⟩ := builtin.isBuiltin_policy found
  rw [Provider.create, found]
  cases given : Policy.normalizeAll submitted.entries with
  | ok values =>
    obtain ⟨episode, begun, shadowed, restored⟩ := Policy.begin_of_leavesNameOut ofBuiltin
      builtin.holds_catalog manages leftOut textual given
    have starts := Policy.begin_starts begun
    simp only [bind, Except.bind, begun]
    have holds : episode.catalog.Holds config := starts.2.2 ▸ builtin.holds_catalog
    exact Profile.takesNameOver_of_begin ofBuiltin holds manages starts.1 textual shadowed restored
  | error cause =>
    obtain ⟨⟨name, value⟩, mem, stuck⟩ := Policy.normalizeAll_eq_error given
    have begun : ∀ policy : Policy, policy.begin submitted.entries (some organization)
        provider.registry.catalog = .error cause := by
      intro policy
      rw [Policy.begin, given]
      rfl
    simp only [bind, Except.bind, begun]
    refine ⟨_, mem, cause, ?_, stuck, rfl⟩
    rintro rfl
    obtain ⟨items, normal, -⟩ := leftOut value (submitted.distinct.get?_of_mem mem)
    rw [stuck] at normal
    cases normal

/-- A manager who submits nothing gets a name that was never given to the organization, and the set
is rejected for it. -/
theorem Provider.name_left_out_of_shadowed :
    let organization : Organization :=
      { name := .text "sample", storage := .entries [("name", [.text "other"])] }
    let submitted := Submission.ofPairs []
    (Provider.standard {}).IsBuiltin {} ∧ submitted.LeavesNameOut ∧ organization.IsTextual ∧
    ∃ profile errors,
      (Provider.standard {}).create .updateProfile submitted.entries (some organization) =
        .ok profile ∧
      profile.TakesNameOver organization submitted.entries errors ∧
      profile.episode.get nameKey ≠ [organization.name] ∧ errors ≠ [] := by
  intro organization submitted
  have builtin := Provider.isBuiltin_standard {}
  have leftOut : submitted.LeavesNameOut := fun value found => by cases found
  have textual : organization.IsTextual := by
    refine ⟨isTextual_text "sample", fun name v mem => ?_⟩
    simp only [organization, Organization.valuesOf, Storage.valuesOf, Keyed.get?_cons] at mem
    split at mem
    · rw [List.mem_singleton.mp mem]
      exact isTextual_text "other"
    · cases mem
  have creates : ((Provider.standard {}).create .updateProfile submitted.entries
      (some organization)).toBool = true := by decide +kernel
  have created := eq_ok_of_toBool creates
  have told := builtin.name_left_out leftOut textual
  rw [created] at told
  obtain ⟨errors, takes⟩ := told
  have shadows : organization.ShadowsName submitted.entries := ⟨rfl, by decide⟩
  obtain ⟨standsIn, accepted⟩ := takes.shadowed shadows
  refine ⟨builtin, leftOut, textual, _, errors, created, takes, ?_, ?_⟩
  · rw [standsIn]
    intro same
    have words : "other" = "sample" := text.inj (List.cons.inj same).1
    revert words
    decide
  · rw [ne_eq, accepted]
    decide

end ProfilePolicy
