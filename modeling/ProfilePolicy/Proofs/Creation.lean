import ProfilePolicy.Proofs.Builtin
import ProfilePolicy.Proofs.Protection

/-!
# Creating profiles

The set of a fresh profile holds the names that were submitted, each once, and those declared by the
metadata; of the built-in metadata that is the name of the organization alone. The flag is not
raised, and neither the organization nor the metadata is touched.
-/

namespace ProfilePolicy

open Value

/-- What succeeds has the value it succeeds with. -/
theorem eq_ok_of_toBool {α : Type} [Inhabited α] {result : Except Fault α}
    (succeeds : result.toBool = true) : result = .ok (result.toOption.getD default) := by
  cases result with
  | ok value => rfl
  | error fault => cases succeeds

/-- Values submitted under names, each name once. -/
structure Submission where
  entries : Keyed Value
  distinct : Keyed.Distinct entries

/-- The submission of pairs; the last value of a repeated name counts. -/
def Submission.ofPairs (pairs : List (String × Value)) : Submission :=
  ⟨Keyed.ofPairs pairs, Keyed.distinct_ofPairs pairs⟩

namespace Policy

variable {policy : Policy} {config : Config} {submitted : Keyed Value}
variable {organization : Option Organization} {catalog : Catalog} {episode : Episode}

theorem names_normalizeAll {values : AttributeValues}
    (h : normalizeAll submitted = .ok values) : values.names = submitted.names := by
  induction submitted generalizing values with
  | nil =>
    cases h
    rfl
  | cons entry rest ih =>
    obtain ⟨name, value⟩ := entry
    obtain ⟨items, -, h⟩ := bind_eq_ok.mp h
    obtain ⟨values', others, h⟩ := bind_eq_ok.mp h
    cases h
    exact congrArg (name :: ·) (ih others)

theorem distinct_fillDeclared {values : AttributeValues} (distinct : Keyed.Distinct values)
    (declared : List String) : Keyed.Distinct (fillDeclared organization values declared) := by
  induction declared generalizing values with
  | nil => exact distinct
  | cons name rest ih =>
    rw [fillDeclared]
    split
    · exact ih distinct
    · exact ih (distinct.put name _)

/-- Only declared names are filled in, and never the read-only marker. -/
theorem mem_names_fillDeclared {values : AttributeValues} {declared : List String}
    {name : String} : name ∈ (fillDeclared organization values declared).names ↔
      name ∈ values.names ∨ name ∈ declared ∧ name ≠ readOnlyMarker := by
  induction declared generalizing values with
  | nil => simp [fillDeclared]
  | cons first rest ih =>
    rw [fillDeclared]
    by_cases skipped : (first == readOnlyMarker || values.holds first) = true
    · rw [if_pos skipped, ih, List.mem_cons]
      rw [Bool.or_eq_true, beq_iff_eq, Keyed.holds_iff_mem_names] at skipped
      constructor
      · rintro (held | ⟨mem, notMarker⟩)
        · exact Or.inl held
        · exact Or.inr ⟨Or.inr mem, notMarker⟩
      · rintro (held | ⟨rfl | mem, notMarker⟩)
        · exact Or.inl held
        · exact Or.inl (skipped.resolve_left notMarker)
        · exact Or.inr ⟨mem, notMarker⟩
    · rw [if_neg skipped, ih, Keyed.mem_names_put, List.mem_cons]
      rw [Bool.or_eq_true, beq_iff_eq, not_or] at skipped
      constructor
      · rintro ((rfl | held) | ⟨mem, notMarker⟩)
        · exact Or.inr ⟨Or.inl rfl, skipped.1⟩
        · exact Or.inl held
        · exact Or.inr ⟨Or.inr mem, notMarker⟩
      · rintro (held | ⟨rfl | mem, notMarker⟩)
        · exact Or.inl (Or.inr held)
        · exact Or.inl (Or.inl rfl)
        · exact Or.inr ⟨mem, notMarker⟩

/-- What is submitted under a name is not filled in. -/
theorem get?_fillDeclared_of_held {values : AttributeValues} {name : String} {given : List Value}
    (held : values.get? name = some given) (declared : List String) :
    (fillDeclared organization values declared).get? name = some given := by
  induction declared generalizing values with
  | nil => exact held
  | cons first rest ih =>
    rw [fillDeclared]
    split
    · exact ih held
    · rename_i missing
      have other : name ≠ first := by
        rintro rfl
        have listed : values.holds name = true := by
          rw [Keyed.holds_iff_mem_names, ← Keyed.get?_isSome_iff, held]
          rfl
        simp [listed] at missing
      apply ih
      rw [Keyed.get?_put, if_neg other]
      exact held

/-- A name that is not declared has what was submitted. -/
theorem get?_fillDeclared {values : AttributeValues} {name : String} {declared : List String}
    (unfilled : name ∈ declared → name = readOnlyMarker) :
    (fillDeclared organization values declared).get? name = values.get? name := by
  induction declared generalizing values with
  | nil => rfl
  | cons first rest ih =>
    have later : name ∈ rest → name = readOnlyMarker :=
      fun mem => unfilled (List.mem_cons_of_mem _ mem)
    rw [fillDeclared]
    split
    · exact ih later
    · rename_i filled
      have other : name ≠ first := by
        rintro rfl
        simp [unfilled List.mem_cons_self] at filled
      rw [ih later, Keyed.get?_put, if_neg other]

theorem get?_normalizeAll {values : AttributeValues} (h : normalizeAll submitted = .ok values)
    (name : String) :
    submitted.get? name = none ∧ values.get? name = none ∨
      ∃ value items, submitted.get? name = some value ∧ value.normalized = .ok items ∧
        values.get? name = some items := by
  induction submitted generalizing values with
  | nil =>
    cases h
    exact Or.inl ⟨rfl, rfl⟩
  | cons entry rest ih =>
    obtain ⟨first, value⟩ := entry
    obtain ⟨items, normal, h⟩ := bind_eq_ok.mp h
    obtain ⟨others, later, h⟩ := bind_eq_ok.mp h
    cases h
    rw [Keyed.get?_cons, Keyed.get?_cons]
    by_cases here : name = first
    · rw [if_pos here, if_pos here]
      exact Or.inr ⟨value, items, rfl, normal, rfl⟩
    · rw [if_neg here, if_neg here]
      exact ih later

def filled (policy : Policy) (organization : Option Organization) (catalog : Catalog)
    (values : AttributeValues) : Episode :=
  { organization, values := fillDeclared organization values policy.declared.names, catalog }

theorem begin_eq_ok (h : policy.begin submitted organization catalog = .ok episode) :
    ∃ values, normalizeAll submitted = .ok values ∧
      policy.restoreName (policy.filled organization catalog values) = .ok episode :=
  bind_eq_ok.mp h

/-- The episode after the name is restored: the present name stands in place of a blank one that may
not be written. -/
def restored (policy : Policy) (before : Episode) : Episode :=
  if (contentTexts (before.get nameKey)).isEmpty && policy.deniedByMetadata nameKey before then
    { before with values := before.values.put nameKey (before.persisted nameKey) }
  else before

/-- With an organization the name can be restored when it is compared with texts. -/
theorem restoreName_eq_ok_iff {before : Episode} (bound : before.organization.isNone = false) :
    policy.restoreName before = .ok episode ↔
      (∀ v ∈ before.get nameKey, v.IsTextual) ∧ policy.restored before = episode := by
  rw [restoreName, if_neg (by simp [bound]), map_eq_ok]
  constructor
  · rintro ⟨given, compared, rfl⟩
    obtain ⟨textual, rfl⟩ := nonBlank_eq_ok_iff.mp compared
    exact ⟨textual, rfl⟩
  · rintro ⟨textual, rfl⟩
    exact ⟨contentTexts (before.get nameKey), nonBlank_of_textual textual, rfl⟩

/-- Restoring the name puts the present name in place of a blank one that may not be written. -/
theorem restoreName_eq_ok {before : Episode} (h : policy.restoreName before = .ok episode) :
    episode = before ∧ (before.organization = none ∨
        policy.deniedByMetadata nameKey before = false ∨ contentTexts (before.get nameKey) ≠ []) ∨
      episode = { before with values := before.values.put nameKey (before.persisted nameKey) } := by
  by_cases unbound : before.organization.isNone = true
  · rw [restoreName, if_pos unbound] at h
    left
    exact ⟨(Except.ok.inj h).symm, Or.inl (Option.isNone_iff_eq_none.mp unbound)⟩
  · obtain ⟨-, rfl⟩ := (restoreName_eq_ok_iff (Bool.eq_false_iff.mpr unbound)).mp h
    rw [restored]
    split
    · exact Or.inr rfl
    · rename_i kept
      left
      refine ⟨rfl, Or.inr ?_⟩
      rcases Bool.and_eq_false_iff.mp (Bool.eq_false_iff.mpr kept) with given | allowed
      · exact Or.inr (List.isEmpty_eq_false_iff.mp given)
      · exact Or.inl allowed

end Policy

/-- A profile just made from a submission under the built-in metadata of a configuration. -/
structure Profile.IsFresh (profile : Profile) (config : Config) (context : Context)
    (submitted : Submission) (organization : Option Organization) : Prop where
  context_eq : profile.policy.context = context
  builtin : profile.policy.IsBuiltin
  holds : profile.episode.catalog.Holds config
  organization_eq : profile.episode.organization = organization
  validated_eq : profile.episode.validated = false
  distinct : Keyed.Distinct profile.episode.values
  /-- Apart from the name of the organization the set holds what was submitted. -/
  names : ∀ name, name ≠ nameKey →
    (name ∈ profile.episode.values.names ↔ name ∈ submitted.entries.names)
  /-- A manager's set is blank under the name only if the organization has no name either. -/
  restored : context = .updateProfile → organization.isSome = true →
    contentTexts (profile.episode.get nameKey) = [] →
      contentTexts (Validator.storedName organization) = []

theorem Profile.IsFresh.isSound {profile : Profile} {config : Config} {context : Context}
    {submitted : Submission} {organization : Option Organization}
    (fresh : profile.IsFresh config context submitted organization) :
    profile.IsSound config context := by
  refine ⟨fresh.context_eq, fresh.builtin, fresh.holds, fresh.distinct, fun raised => ?_⟩
  rw [fresh.validated_eq] at raised
  cases raised

namespace Policy

variable {policy : Policy} {config : Config} {submitted : Keyed Value}
variable {organization : Option Organization} {catalog : Catalog} {episode : Episode}

theorem mem_names_filled (builtin : policy.IsBuiltin) {values : AttributeValues}
    (given : normalizeAll submitted = .ok values) {name : String} (notName : name ≠ nameKey) :
    name ∈ (policy.filled organization catalog values).values.names ↔ name ∈ submitted.names := by
  rw [filled, mem_names_fillDeclared, names_normalizeAll given]
  constructor
  · rintro (listed | ⟨declared, notMarker⟩)
    · exact listed
    · have missing := Keyed.get?_eq_none_iff.mp (builtin.declared_other notMarker notName)
      exact absurd declared missing
  · exact Or.inl

theorem persisted_nameKey (episode : Episode) :
    episode.persisted nameKey = Validator.storedName episode.organization := by
  unfold Episode.persisted
  cases episode.organization with
  | none => rfl
  | some organization => exact if_pos BEq.rfl

/-- The profile of an episode that a submission begins is fresh. -/
theorem isFresh_begin {submitted : Submission} (builtin : policy.IsBuiltin)
    (holds : catalog.Holds config)
    (begun : policy.begin submitted.entries organization catalog = .ok episode) :
    ({ policy, episode } : Profile).IsFresh config policy.context submitted organization := by
  obtain ⟨values, given, restored⟩ := begin_eq_ok begun
  have held : Keyed.Distinct values := by
    rw [Keyed.Distinct, names_normalizeAll given]
    exact submitted.distinct
  have distinct : Keyed.Distinct (policy.filled organization catalog values).values :=
    distinct_fillDeclared held policy.declared.names
  rcases restoreName_eq_ok restored with ⟨rfl, present⟩ | rfl
  · refine ⟨rfl, builtin, holds, rfl, rfl, distinct, ?_, ?_⟩
    · intro name notName
      exact mem_names_filled builtin given notName
    · intro manager bound blank
      exfalso
      rcases present with unbound | allowed | given
      · have missing : organization = none := unbound
        rw [missing] at bound
        cases bound
      · rw [builtin.deniedByMetadata_eq holds, manager] at allowed
        cases allowed
      · exact given blank
  · refine ⟨rfl, builtin, holds, rfl, rfl, distinct.put nameKey _, ?_, ?_⟩
    · intro name notName
      refine Keyed.mem_names_put.trans ((or_iff_right notName).trans ?_)
      exact mem_names_filled builtin given notName
    · intro _ _ blank
      rw [Episode.get, Keyed.get?_put, if_pos rfl, Option.getD_some, persisted_nameKey] at blank
      exact blank

end Policy

theorem orMishap_eq_ok {α : Type} {result : Except Mishap α} {value : α}
    (h : orMishap result = .ok value) : result = .ok value := by
  cases result with
  | error cause => cases h
  | ok found =>
    cases h
    rfl

/-- What a provider makes from a submission is fresh. -/
theorem Provider.IsBuiltin.isFresh_create {provider : Provider} {config : Config}
    (builtin : provider.IsBuiltin config) {context : Context} {submitted : Submission}
    {organization : Option Organization} {profile : Profile}
    (h : provider.create context submitted.entries organization = .ok profile) :
    profile.IsFresh config context submitted organization := by
  obtain ⟨policy, found, h⟩ := bind_eq_ok.mp h
  obtain ⟨episode, begun, h⟩ := bind_eq_ok.mp h
  cases h
  obtain ⟨rfl, ofBuiltin⟩ := builtin.isBuiltin_policy found
  exact Policy.isFresh_begin ofBuiltin builtin.holds_catalog (orMishap_eq_ok begun)

/-! ## Submitting again -/

/-- Organizations that a submission cannot tell apart: what it takes over from an organization is
the name and what is stored under the name of the name. -/
structure NamedAlike (organization other : Option Organization) : Prop where
  bound : other.isNone = organization.isNone
  name : Validator.storedName other = Validator.storedName organization
  stored : Policy.storedValues other nameKey = Policy.storedValues organization nameKey

theorem NamedAlike.refl (organization : Option Organization) :
    NamedAlike organization organization :=
  ⟨rfl, rfl, rfl⟩

theorem NamedAlike.of_some {organization other : Organization} (name : other.name = organization.name)
    (stored : other.valuesOf nameKey = organization.valuesOf nameKey) :
    NamedAlike (some organization) (some other) := by
  refine ⟨rfl, ?_, ?_⟩
  · simp only [Validator.storedName, name]
  · simp only [Policy.storedValues, stored]

def Episode.moved (episode : Episode) (organization : Option Organization) (catalog : Catalog) :
    Episode :=
  { episode with organization, catalog }

namespace Policy

variable {policy policy' : Policy} {config config' : Config} {submitted : Keyed Value}
variable {organization other : Option Organization} {catalog catalog' : Catalog}

theorem begin_catalog {episode : Episode}
    (begun : policy.begin submitted organization catalog = .ok episode) :
    episode.catalog = catalog := by
  obtain ⟨values, -, restored⟩ := begin_eq_ok begun
  rcases restoreName_eq_ok restored with ⟨rfl, -⟩ | rfl
  · rfl
  · rfl

theorem fillDeclared_alike (alike : NamedAlike organization other) {declared : List String}
    (names : ∀ name ∈ declared, name = readOnlyMarker ∨ name = nameKey) (values : AttributeValues) :
    fillDeclared other values declared = fillDeclared organization values declared := by
  induction declared generalizing values with
  | nil => rfl
  | cons first rest ih =>
    have later := ih fun name mem => names name (List.mem_cons_of_mem _ mem)
    rw [fillDeclared, fillDeclared, later, later]
    rcases names first List.mem_cons_self with rfl | rfl
    · simp only [BEq.rfl, Bool.true_or, if_true]
    · rw [alike.stored]

theorem IsBuiltin.declared_names (builtin : policy.IsBuiltin) :
    ∀ name ∈ policy.declared.names, name = readOnlyMarker ∨ name = nameKey := by
  intro name mem
  refine Classical.byContradiction fun neither => ?_
  obtain ⟨notMarker, notName⟩ := not_or.mp neither
  exact Keyed.get?_eq_none_iff.mp (builtin.declared_other notMarker notName) mem

/-- Under other names the set has what was submitted. -/
theorem get?_restored (builtin : policy.IsBuiltin) {values : AttributeValues} {episode : Episode}
    (restored : policy.restoreName (policy.filled organization catalog values) = .ok episode)
    {name : String} (notName : name ≠ nameKey) :
    episode.values.get? name = values.get? name := by
  have unfilled : (policy.filled organization catalog values).values.get? name =
      values.get? name := by
    apply get?_fillDeclared
    intro mem
    exact (builtin.declared_names name mem).resolve_right notName
  rcases restoreName_eq_ok restored with ⟨rfl, -⟩ | rfl
  · exact unfilled
  · rw [Keyed.get?_put, if_neg notName, unfilled]

/-- Policies of one context restore the same name. -/
theorem restoreName_alike (builtin : policy.IsBuiltin) (builtin' : policy'.IsBuiltin)
    (sameContext : policy'.context = policy.context) {before : Episode}
    (holds : before.catalog.Holds config) (holds' : catalog'.Holds config')
    (alike : NamedAlike before.organization other) :
    policy'.restoreName (before.moved other catalog') =
      (policy.restoreName before).map (·.moved other catalog') := by
  have movedHolds : (before.moved other catalog').catalog.Holds config' := holds'
  have denial : policy'.deniedByMetadata nameKey (before.moved other catalog') =
      policy.deniedByMetadata nameKey before := by
    rw [builtin.deniedByMetadata_eq holds, builtin'.deniedByMetadata_eq movedHolds, sameContext]
  have name : (before.moved other catalog').persisted nameKey = before.persisted nameKey := by
    rw [persisted_nameKey, persisted_nameKey]
    exact alike.name
  have bound : (before.moved other catalog').organization.isNone = before.organization.isNone :=
    alike.bound
  have given : (before.moved other catalog').get nameKey = before.get nameKey := rfl
  rw [restoreName, restoreName, denial, name, bound, given]
  split
  · rfl
  · cases nonBlank (before.get nameKey) with
    | error cause => rfl
    | ok texts =>
      simp only [Except.map, apply_ite (Episode.moved · other catalog')]
      rfl

/-- Policies of one context make the same set of a submission, whatever patterns they have. -/
theorem begin_alike (builtin : policy.IsBuiltin) (builtin' : policy'.IsBuiltin)
    (sameContext : policy'.context = policy.context) (holds : catalog.Holds config)
    (holds' : catalog'.Holds config') (alike : NamedAlike organization other) :
    policy'.begin submitted other catalog' =
      (policy.begin submitted organization catalog).map (·.moved other catalog') := by
  have sameDeclared : policy'.declared = policy.declared := by
    rw [builtin.declared, builtin'.declared, sameContext]
  rw [begin, begin]
  cases normalizeAll submitted with
  | error cause => rfl
  | ok values =>
    let before := policy.filled organization catalog values
    have restores : policy'.restoreName (before.moved other catalog') =
        (policy.restoreName before).map (·.moved other catalog') :=
      restoreName_alike builtin builtin' sameContext holds holds' alike
    have filled := fillDeclared_alike alike builtin.declared_names values
    simp only [Bind.bind, Except.bind]
    rw [sameDeclared, filled]
    exact restores

end Policy

section Alike

variable {provider provider' : Provider} {config config' : Config} {context : Context}
variable {submitted : Keyed Value} {organization other : Option Organization} {profile : Profile}

theorem Provider.policy_of_create
    (created : provider.create context submitted organization = .ok profile) :
    provider.policy context = .ok profile.policy ∧
      profile.episode.catalog = provider.registry.catalog := by
  obtain ⟨policy, found, created⟩ := bind_eq_ok.mp created
  obtain ⟨episode, begun, created⟩ := bind_eq_ok.mp created
  cases created
  exact ⟨found, Policy.begin_catalog (orMishap_eq_ok begun)⟩

/-- Providers make the same set of a submission, whatever patterns they have. -/
theorem Provider.IsBuiltin.create_alike (builtin : provider.IsBuiltin config)
    (builtin' : provider'.IsBuiltin config') {policy : Policy}
    (found : provider'.policy context = .ok policy) (alike : NamedAlike organization other) :
    provider'.create context submitted other =
      (provider.create context submitted organization).map fun profile =>
        { policy, episode := profile.episode.moved other provider'.registry.catalog } := by
  obtain ⟨sameContext, ofBuiltin⟩ := builtin'.isBuiltin_policy found
  obtain ⟨first, found'⟩ : ∃ first, provider.policy context = .ok first :=
    ⟨_, builtin.policy_eq context⟩
  obtain ⟨sameContext', ofBuiltin'⟩ := builtin.isBuiltin_policy found'
  have begins : policy.begin submitted other provider'.registry.catalog =
      (first.begin submitted organization provider.registry.catalog).map
        (·.moved other provider'.registry.catalog) :=
    Policy.begin_alike ofBuiltin' ofBuiltin (sameContext.trans sameContext'.symm)
      builtin.holds_catalog builtin'.holds_catalog alike
  rw [Provider.create, Provider.create, found, found']
  simp only [Bind.bind, Except.bind, begins]
  cases first.begin submitted organization provider.registry.catalog <;> rfl

/-- A submission for an organization that looks like another one makes the same set for it. -/
theorem Provider.IsBuiltin.create_again (builtin : provider.IsBuiltin config)
    (alike : NamedAlike organization other)
    (created : provider.create context submitted organization = .ok profile) :
    provider.create context submitted other =
      .ok { profile with episode := { profile.episode with organization := other } } := by
  obtain ⟨found, catalog⟩ := Provider.policy_of_create created
  rw [builtin.create_alike builtin found alike, created, ← catalog]
  rfl

end Alike

/-! ## Texts -/

/-- The list a submitted value stands for can be told, and holds texts or missing values. -/
def Submission.IsTextual (submitted : Submission) : Prop :=
  ∀ entry ∈ submitted.entries, ∃ values, entry.2.normalized = .ok values ∧
    ∀ v ∈ values, v.IsTextual

structure Organization.IsTextual (organization : Organization) : Prop where
  name : organization.name.IsTextual
  values : ∀ name, ∀ v ∈ organization.valuesOf name, v.IsTextual

/-- Everything that is compared is a text or missing. -/
structure Comparable (submitted : Submission) (organization : Option Organization) : Prop where
  submitted : submitted.IsTextual
  organization : ∀ known, organization = some known → known.IsTextual

/-- Texts or missing values under every name. -/
def AllTextual (values : AttributeValues) : Prop :=
  ∀ name, ∀ v ∈ (values.get? name).getD [], v.IsTextual

theorem AllTextual.put {held : AttributeValues} (textual : AllTextual held) {values : List Value}
    (given : ∀ v ∈ values, v.IsTextual) (name : String) : AllTextual (held.put name values) := by
  intro other v mem
  rw [Keyed.get?_put] at mem
  split at mem
  · exact given v mem
  · exact textual other v mem

namespace Policy

variable {policy : Policy} {organization : Option Organization} {catalog : Catalog}

theorem normalizeAll_of_textual {submitted : Keyed Value}
    (textual : ∀ entry ∈ submitted, ∃ values, entry.2.normalized = .ok values ∧
      ∀ v ∈ values, v.IsTextual) :
    ∃ values, normalizeAll submitted = .ok values ∧ AllTextual values := by
  induction submitted with
  | nil => exact ⟨[], rfl, fun _ _ mem => absurd mem List.not_mem_nil⟩
  | cons entry rest ih =>
    obtain ⟨name, value⟩ := entry
    obtain ⟨own, normal, given⟩ := textual (name, value) List.mem_cons_self
    obtain ⟨others, normals, rests⟩ := ih fun entry mem => textual entry (List.mem_cons_of_mem _ mem)
    refine ⟨(name, own) :: others, ?_, ?_⟩
    · rw [normalizeAll, normal, normals]
      rfl
    · intro other v mem
      rw [Keyed.get?_cons] at mem
      split at mem
      · exact given v mem
      · exact rests other v mem

theorem storedValues_textual (known : ∀ known, organization = some known → known.IsTextual)
    (name : String) : ∀ v ∈ storedValues organization name, v.IsTextual := by
  intro v mem
  cases organization with
  | none => cases mem
  | some organization =>
    exact (known organization rfl).values name v (List.mem_filter.mp mem).1

theorem storedName_textual (known : ∀ known, organization = some known → known.IsTextual) :
    ∀ v ∈ Validator.storedName organization, v.IsTextual := by
  intro v mem
  cases organization with
  | none => cases mem
  | some organization =>
    unfold Validator.storedName at mem
    simp only at mem
    split at mem
    · cases mem
    · rw [List.mem_singleton.mp mem]
      exact (known organization rfl).name

theorem fillDeclared_textual (known : ∀ known, organization = some known → known.IsTextual)
    {values : AttributeValues} (textual : AllTextual values) (declared : List String) :
    AllTextual (fillDeclared organization values declared) := by
  induction declared generalizing values with
  | nil => exact textual
  | cons name rest ih =>
    rw [fillDeclared]
    split
    · exact ih textual
    · exact ih (textual.put (storedValues_textual known name) name)

theorem restoreName_of_textual {before : Episode}
    (known : ∀ known, before.organization = some known → known.IsTextual)
    (textual : AllTextual before.values) :
    ∃ episode, policy.restoreName before = .ok episode ∧ AllTextual episode.values := by
  rw [restoreName]
  split
  · exact ⟨before, rfl, textual⟩
  · have compared : nonBlank (before.get nameKey) = .ok (contentTexts (before.get nameKey)) :=
      nonBlank_of_textual (textual nameKey)
    rw [compared, Except.map]
    refine ⟨_, rfl, ?_⟩
    split
    · apply textual.put
      rw [persisted_nameKey]
      exact storedName_textual known
    · exact textual

/-- Texts can always be made into a set, and the set holds texts. -/
theorem begin_of_textual (policy : Policy) (catalog : Catalog) {submitted : Submission}
    (comparable : Comparable submitted organization) :
    ∃ episode, policy.begin submitted.entries organization catalog = .ok episode ∧
      AllTextual episode.values := by
  obtain ⟨values, normal, given⟩ := normalizeAll_of_textual comparable.submitted
  have textual := fillDeclared_textual comparable.organization given policy.declared.names
  rw [begin, normal]
  exact restoreName_of_textual comparable.organization textual

end Policy

theorem Provider.IsBuiltin.create_of_textual {provider : Provider} {config : Config}
    (builtin : provider.IsBuiltin config) (context : Context) {submitted : Submission}
    {organization : Option Organization} (comparable : Comparable submitted organization) :
    ∃ profile, provider.create context submitted.entries organization = .ok profile ∧
      AllTextual profile.episode.values := by
  cases found : provider.policy context with
  | error fault =>
    rw [builtin.policy_eq] at found
    cases found
  | ok policy =>
    obtain ⟨episode, begun, textual⟩ :=
      Policy.begin_of_textual policy provider.registry.catalog comparable
    refine ⟨{ policy, episode }, ?_, textual⟩
    rw [Provider.create, found]
    simp only [bind, Except.bind, begun]
    rfl

end ProfilePolicy
