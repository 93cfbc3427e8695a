import ProfilePolicy.Proofs.Difference
import ProfilePolicy.Proofs.Idempotence
import ProfilePolicy.Proofs.Violations

/-!
# Submitting the current state

A submission of all attributes as they are stored, with the name as it is or without it, is accepted
whatever is read-only. The set then has under every name the values stored there that are not
missing, and under the name of the organization that name: it was given, or a manager's set took it
over in place of nothing. So no contents are changed, and no rule reports anything. The update drops
blank values from the lists that have some and does nothing else.
-/

namespace ProfilePolicy

open Value

/-! ## The state as a submission -/

/-- The submission is the state of the organization: under every other name what is stored there,
and the name of the organization or nothing of it. -/
structure Submission.Restates (submitted : Submission) (organization : Organization) : Prop where
  attributes : ∀ name, name ≠ nameKey →
    submitted.entries.get? name = (organization.attributes.get? name).map .list
  name : submitted.entries.get? nameKey = none ∨
    submitted.entries.get? nameKey = some (.list [organization.name])

/-- The attributes of an organization as they are, with its name or without it. -/
def Organization.statement (organization : Organization) (named : Bool) : Keyed Value :=
  let attributes := organization.attributes.map fun entry => (entry.1, Value.list entry.2)
  if named then Keyed.put attributes nameKey (.list [organization.name]) else attributes

theorem Organization.distinct_statement {organization : Organization}
    (distinct : Keyed.Distinct organization.attributes) (named : Bool) :
    Keyed.Distinct (organization.statement named) := by
  have attributes : Keyed.Distinct (organization.statement false) := by
    rw [Keyed.Distinct, Keyed.names, statement, if_neg Bool.false_ne_true, List.map_map]
    exact distinct
  cases named with
  | false => exact attributes
  | true => exact attributes.put nameKey _

theorem Submission.restates_statement {organization : Organization}
    (distinct : Keyed.Distinct organization.attributes)
    (unlisted : nameKey ∉ organization.attributeNames) (named : Bool) :
    Restates ⟨organization.statement named, Organization.distinct_statement distinct named⟩
      organization := by
  have each : ∀ name, Keyed.get? (organization.statement false) name =
      (organization.attributes.get? name).map .list := Keyed.get?_map _ Value.list
  have missing : organization.attributes.get? nameKey = none := Keyed.get?_eq_none_iff.mpr unlisted
  cases named with
  | false =>
    refine ⟨fun name _ => each name, Or.inl ?_⟩
    exact (each nameKey).trans (by rw [missing, Option.map_none])
  | true =>
    have put : organization.statement true =
        Keyed.put (organization.statement false) nameKey (.list [organization.name]) := rfl
    refine ⟨fun name notName => ?_, Or.inr ?_⟩
    · simp only [put, Keyed.get?_put, if_neg notName, each]
    · simp only [put, Keyed.get?_put, if_true]

/-- An organization with the contents of another one. Only lists with a blank value are others. -/
structure Organization.Condenses (after before : Organization) : Prop where
  name : after.name = before.name
  contents : ∀ name, contents (after.valuesOf name) = contents (before.valuesOf name)
  others : ∀ name, ¬ HoldsBlank (before.valuesOf name) →
    after.valuesOf name = before.valuesOf name

theorem contentTexts_present (values : List Value) :
    contentTexts (present values) = contentTexts values := by
  induction values with
  | nil => rfl
  | cons first rest ih =>
    cases first with
    | text written =>
      have kept : present (text written :: rest) = text written :: present rest := rfl
      rw [kept, contentTexts_text_cons, contentTexts_text_cons, ih]
    | _ => exact ih

theorem contents_present (values : List Value) : contents (present values) = contents values := by
  rw [contents, contents, present, List.filter_filter]
  apply List.filter_congr
  intro value _
  cases value <;> simp [isContent, isNull]

theorem isTextual_of_present {values : List Value} (textual : ∀ v ∈ present values, v.IsTextual) :
    ∀ v ∈ values, v.IsTextual := by
  intro v mem
  by_cases missing : v = null
  · exact Or.inl missing
  · apply textual
    rw [present, List.mem_filter]
    refine ⟨mem, ?_⟩
    cases v <;> first | rfl | exact absurd rfl missing

theorem keeps_present {values : List Value} (textual : ∀ v ∈ values, v.IsTextual) :
    Situation.Keeps values (present values) := by
  refine ⟨textual, fun v mem => textual v (List.mem_filter.mp mem).1, ?_⟩
  rw [contentTexts_present]

theorem AttributeRow.get?_attributes (rows : List AttributeRow) (name : String) :
    ((attributes rows).get? name).getD [] = valuesOf rows name := by
  have collect : ∀ (rows : List AttributeRow) (found : Keyed StoredValues),
      ((rows.foldl (fun found row =>
        found.put row.name ((found.get? row.name).getD [] ++ [row.value])) found).get? name).getD [] =
        (found.get? name).getD [] ++ valuesOf rows name := by
    intro rows
    induction rows with
    | nil => exact fun found => (List.append_nil _).symm
    | cons row rest ih =>
      intro found
      rw [List.foldl_cons, ih, Keyed.get?_put, valuesOf_cons]
      by_cases same : name = row.name
      · subst same
        simp
      · simp [same, Ne.symm same]
  exact collect rows []

/-- What is listed under a name is what is stored there. -/
theorem Organization.get?_attributes (organization : Organization) (name : String) :
    (organization.attributes.get? name).getD [] = organization.valuesOf name := by
  rw [attributes, valuesOf]
  cases organization.storage with
  | entries map => rfl
  | rows held => exact AttributeRow.get?_attributes held name

theorem Submission.Restates.isTextual {submitted : Submission} {organization : Organization}
    (restates : submitted.Restates organization) (textual : organization.IsTextual) :
    submitted.IsTextual := by
  rintro ⟨name, value⟩ mem
  have found := submitted.distinct.get?_of_mem mem
  by_cases isName : name = nameKey
  · subst isName
    have given : value = .list [organization.name] := by
      rcases restates.name with leftOut | told
      · rw [leftOut] at found
        cases found
      · exact Option.some.inj (found.symm.trans told)
    subst given
    refine ⟨_, rfl, fun v kept => ?_⟩
    rw [List.mem_singleton.mp (List.mem_filter.mp kept).1]
    exact textual.name
  · rw [restates.attributes name isName] at found
    obtain ⟨stored, listed, rfl⟩ := Option.map_eq_some_iff.mp found
    refine ⟨_, rfl, fun v kept => ?_⟩
    apply textual.values name v
    rw [← organization.get?_attributes, listed]
    exact (List.mem_filter.mp kept).1

/-! ## The set of such a submission -/

/-- The set of a submission that is the current state. -/
structure Profile.Mirrors (profile : Profile) (organization : Organization) : Prop where
  bound : profile.episode.organization = some organization
  attributes : ∀ name, name ≠ nameKey →
    profile.episode.values.get? name = (organization.attributes.get? name).map present
  name : ∀ given, profile.episode.values.get? nameKey = some given →
    given = Validator.storedName (some organization)

theorem present_name (organization : Organization) :
    present [organization.name] = Validator.storedName (some organization) := by
  cases missing : organization.name.isNull with
  | true => simp [present, Validator.storedName, missing]
  | false => simp [present, Validator.storedName, missing]

namespace Policy

variable {policy : Policy} {config : Config} {submitted : Submission} {catalog : Catalog}
variable {organization : Organization} {values : AttributeValues} {episode : Episode}

theorem get?_normalizeAll_restates (restates : submitted.Restates organization)
    (given : normalizeAll submitted.entries = .ok values) {name : String} (notName : name ≠ nameKey) :
    values.get? name = (organization.attributes.get? name).map present := by
  have listed := restates.attributes name notName
  rcases get?_normalizeAll given name with ⟨none, missing⟩ | ⟨value, items, found, normal, held⟩
  · rw [none] at listed
    rw [missing, Option.map_eq_none_iff.mp listed.symm]
    rfl
  · rw [found] at listed
    obtain ⟨stored, known, rfl⟩ := Option.map_eq_some_iff.mp listed.symm
    rw [held, known, ← Except.ok.inj normal]
    rfl

/-- The name is in the set as it is, or not at all. -/
theorem get?_normalizeAll_name (restates : submitted.Restates organization)
    (given : normalizeAll submitted.entries = .ok values) :
    values.get? nameKey = none ∨
      values.get? nameKey = some (Validator.storedName (some organization)) := by
  rcases get?_normalizeAll given nameKey with ⟨-, missing⟩ | ⟨value, items, found, normal, held⟩
  · exact Or.inl missing
  · right
    rcases restates.name with leftOut | told
    · rw [leftOut] at found
      cases found
    · rw [told] at found
      cases found
      rw [held, ← Except.ok.inj normal, ← present_name]
      rfl

/-- What is filled in for a name is what is stored under it. -/
theorem get?_fillDeclared_of_missing {name : String} (missing : values.get? name = none)
    (declared : List String) {given : List Value}
    (held : (fillDeclared (some organization) values declared).get? name = some given) :
    given = present (organization.valuesOf name) := by
  induction declared generalizing values with
  | nil =>
    rw [fillDeclared, missing] at held
    cases held
  | cons first rest ih =>
    rw [fillDeclared] at held
    split at held
    · exact ih missing held
    · by_cases here : name = first
      · subst here
        have filled : (values.put name (storedValues (some organization) name)).get? name =
            some (present (organization.valuesOf name)) := by
          rw [Keyed.get?_put, if_pos rfl]
          rfl
        rw [get?_fillDeclared_of_held filled] at held
        exact (Option.some.inj held).symm
      · apply ih _ held
        rw [Keyed.get?_put, if_neg here]
        exact missing

/-- A manager's set takes the name over, and an administrator's set may do without it. -/
theorem get?_restored_name (builtin : policy.IsBuiltin) (holds : catalog.Holds config)
    (unnamed : organization.valuesOf nameKey = [])
    (named : values.get? nameKey = none ∨
      values.get? nameKey = some (Validator.storedName (some organization)))
    (restored : policy.restoreName (policy.filled (some organization) catalog values) = .ok episode)
    {given : List Value} (held : episode.values.get? nameKey = some given) :
    given = Validator.storedName (some organization) := by
  rcases restoreName_eq_ok restored with ⟨rfl, kept⟩ | rfl
  · rcases named with missing | told
    · -- what was filled in is nothing, and that is not kept for a manager
      exfalso
      have nothing : given = [] := by
        rw [get?_fillDeclared_of_missing missing _ held, unnamed]
        rfl
      rcases kept with unbound | allowed | visible
      · cases unbound
      · have administrator : policy.context = .updateMetadata := by
          rw [builtin.deniedByMetadata_eq holds] at allowed
          cases manages : policy.context with
          | updateMetadata => rfl
          | updateProfile =>
            rw [manages] at allowed
            cases allowed
        have undeclared : nameKey ∈ policy.declared.names → nameKey = readOnlyMarker := by
          rw [builtin.declared, administrator]
          exact List.mem_singleton.mp
        rw [filled, get?_fillDeclared undeclared, missing] at held
        cases held
      · rw [Episode.get, held, nothing] at visible
        exact visible rfl
    · have listed : (policy.filled (some organization) catalog values).values.get? nameKey =
          some (Validator.storedName (some organization)) := get?_fillDeclared_of_held told _
      exact Option.some.inj (held.symm.trans listed)
  · rw [Keyed.get?_put, if_pos rfl, persisted_nameKey] at held
    exact (Option.some.inj held).symm

end Policy

/-- The set of a submission that is the current state holds the current state. -/
theorem Provider.IsBuiltin.mirrors {provider : Provider} {config : Config}
    (builtin : provider.IsBuiltin config) {context : Context} {submitted : Submission}
    {organization : Organization} (restates : submitted.Restates organization)
    (unnamed : organization.valuesOf nameKey = []) {profile : Profile}
    (created : provider.create context submitted.entries (some organization) = .ok profile) :
    profile.Mirrors organization := by
  have bound := (builtin.isFresh_create created).organization_eq
  obtain ⟨policy, found, created⟩ := bind_eq_ok.mp created
  obtain ⟨episode, begun, created⟩ := bind_eq_ok.mp created
  cases created
  obtain ⟨-, ofBuiltin⟩ := builtin.isBuiltin_policy found
  obtain ⟨values, given, restored⟩ := Policy.begin_eq_ok (orMishap_eq_ok begun)
  refine ⟨bound, fun name notName => ?_, fun held listed => ?_⟩
  · rw [Policy.get?_restored ofBuiltin restored notName]
    exact Policy.get?_normalizeAll_restates restates given notName
  · exact Policy.get?_restored_name ofBuiltin builtin.holds_catalog unnamed
      (Policy.get?_normalizeAll_name restates given) restored listed

namespace Profile

variable {profile : Profile} {config : Config} {context : Context} {submitted : Submission}
variable {organization : Organization} {remove : Bool}

theorem Mirrors.given (mirrors : profile.Mirrors organization) {name : String}
    (notName : name ≠ nameKey) {given : List Value}
    (held : profile.episode.values.get? name = some given) :
    given = present (organization.valuesOf name) := by
  rw [mirrors.attributes name notName] at held
  obtain ⟨stored, listed, rfl⟩ := Option.map_eq_some_iff.mp held
  rw [← organization.get?_attributes, listed]
  rfl

/-- Nothing is stored under a name that is not in the set. -/
theorem Mirrors.missing (mirrors : profile.Mirrors organization) {name : String}
    (notName : name ≠ nameKey) (missing : profile.episode.values.get? name = none) :
    name ∉ organization.attributeNames := by
  rw [mirrors.attributes name notName, Option.map_eq_none_iff] at missing
  exact Keyed.get?_eq_none_iff.mp missing

/-- No name of the set has other contents than the present ones. -/
theorem Mirrors.not_changes (mirrors : profile.Mirrors organization) {name : String}
    (mem : name ∈ profile.episode.values.names) : ¬ (profile.situation name).Changes := by
  obtain ⟨given, held⟩ := Option.isSome_iff_exists.mp ((Keyed.get?_isSome_iff _ _).mpr mem)
  have value : (profile.situation name).value = given := Situation.value_of_get? held
  suffices same : contentTexts (profile.situation name).persisted = contentTexts given by
    rw [Situation.Changes, value, same, Classical.not_not]
  by_cases isName : name = nameKey
  · subst isName
    have persisted : (profile.situation nameKey).persisted =
        Validator.storedName (some organization) := by
      rw [← mirrors.bound]
      exact if_pos rfl
    rw [persisted, mirrors.name given held]
  · have persisted : (profile.situation name).persisted = organization.valuesOf name := by
      rw [Situation.persisted_of_ne isName, situation, stored_situation mirrors.bound]
    rw [persisted, mirrors.given isName held, contentTexts_present]

/-- Nothing is reported about the set, if it can be compared. -/
theorem Mirrors.finding_eq_nil (mirrors : profile.Mirrors organization)
    (fresh : profile.IsFresh config context submitted (some organization))
    (unnamed : organization.valuesOf nameKey = []) {name : String}
    (mem : name ∈ profile.episode.values.names) {errors : List FieldError}
    (found : Policy.finding config (profile.situation name) = .ok errors) : errors = [] := by
  have noAttribute : ∀ known, some organization = some known → known.valuesOf nameKey = [] := by
    rintro known same
    cases same
    exact unnamed
  rw [fresh.finding_eq_ok noAttribute name errors found]
  exact Situation.violations_of_not fun violated => mirrors.not_changes mem violated.1

theorem Mirrors.findings_eq_nil (mirrors : profile.Mirrors organization)
    (fresh : profile.IsFresh config context submitted (some organization))
    (unnamed : organization.valuesOf nameKey = []) {names : List String}
    (listed : ∀ name ∈ names, name ∈ profile.episode.values.names) {errors : List FieldError}
    (found : Policy.findings config profile.policy profile.episode names = .ok errors) :
    errors = [] := by
  induction names generalizing errors with
  | nil =>
    cases found
    rfl
  | cons first rest ih =>
    obtain ⟨own, others, here, later, rfl⟩ := Policy.both_eq_ok found
    have noneHere := mirrors.finding_eq_nil fresh unnamed (listed first List.mem_cons_self) here
    have noneLater := ih (fun name mem => listed name (List.mem_cons_of_mem _ mem)) later
    rw [noneHere, noneLater]
    rfl

/-- The current state is accepted, or a comparison cannot be made. -/
theorem Mirrors.validates (mirrors : profile.Mirrors organization)
    (fresh : profile.IsFresh config context submitted (some organization))
    (unnamed : organization.valuesOf nameKey = []) (order : Order) :
    (profile.run fun policy => Profile.validate policy order.visit).1 = .ok () ∨
      ∃ cause, (profile.run fun policy => Profile.validate policy order.visit).1 =
          .error (.mishap cause) ∧
        Policy.findings config profile.policy profile.episode
          (order.visit profile.episode.values.names) = .error cause := by
  have concluded := fresh.isSound.concludes order
  generalize (profile.run fun policy => Profile.validate policy order.visit).1 = result
    at concluded ⊢
  cases found : Policy.findings config profile.policy profile.episode
      (order.visit profile.episode.values.names) with
  | error cause =>
    rw [found] at concluded
    cases concluded
    exact Or.inr ⟨cause, rfl, rfl⟩
  | ok errors =>
    have visited : ∀ name ∈ order.visit profile.episode.values.names,
        name ∈ profile.episode.values.names := fun name mem => (order.perm _).mem_iff.mp mem
    rw [found, mirrors.findings_eq_nil fresh unnamed visited found] at concluded
    cases concluded with
    | accepted => exact Or.inl rfl
    | rejected some => exact absurd rfl some

/-- Writing what is stored drops blank values, if there are any, and changes nothing else. -/
theorem overwritten_present {stored left : StoredValues}
    (h : overwritten remove (present stored) stored = .ok left) :
    contents left = contents stored ∧ (¬ HoldsBlank stored → left = stored) := by
  rcases overwritten_eq_ok h with rfl | ⟨textual, rfl⟩
  · exact ⟨rfl, fun _ => rfl⟩
  · have kept := keeps_present (isTextual_of_present textual)
    constructor
    · have texts : ∀ v ∈ (contentTexts (present stored)).map text, v.IsTextual :=
        fun v mem => isTextual_of_mem_texts mem
      rw [contents_eq_contentTexts texts, contentTexts_contentTexts,
        ← contents_eq_contentTexts textual, contents_present]
    · intro none
      refine Classical.byContradiction fun changed => none ?_
      exact ((overwritten_ne_iff kept h).mp changed).1

/-- What an update leaves of the current state. -/
theorem Mirrors.updates (mirrors : profile.Mirrors organization) {name : String}
    {left : StoredValues} (updated : Updates config profile.policy remove profile.episode name left) :
    contents left = contents (organization.valuesOf name) ∧
      (¬ HoldsBlank (organization.valuesOf name) → left = organization.valuesOf name) := by
  have stored := stored_situation mirrors.bound profile.policy name
  suffices same : left = organization.valuesOf name ∨
      overwritten remove (present (organization.valuesOf name)) (organization.valuesOf name) =
        .ok left by
    rcases same with rfl | written
    · exact ⟨rfl, fun _ => rfl⟩
    · exact overwritten_present written
  unfold Updates at updated
  by_cases isName : name = nameKey
  · left
    subst isName
    rw [updated_nameKey, stored] at updated
    exact (Except.ok.inj updated).symm
  · cases held : profile.episode.values.get? name with
    | some given =>
      right
      rw [Situation.updated_of_submitted config remove isName held, stored,
        mirrors.given isName held] at updated
      exact updated
    | none =>
      left
      have empty := Organization.valuesOf_eq_nil_of_not_mem (mirrors.missing isName held)
      have leftOut : (profile.policy.situation name profile.episode).value = [] := by
        rw [Situation.value, Policy.situation, held]
        rfl
      rw [Situation.updated_of_missing config remove isName held,
        Situation.withdrawn_of_empty config leftOut (stored.trans empty), stored, empty, ite_self]
        at updated
      rw [empty, Except.ok.inj updated]

/-- However an update of the current state ends, it has condensed the organization. -/
theorem Mirrors.condenses (mirrors : profile.Mirrors organization)
    (sound : profile.IsSound config context) (validation removal : Order) :
    ∃ left, (profile.run fun policy =>
        Profile.update policy remove validation.visit removal.visit).2.episode.organization =
          some left ∧
      left.Condenses organization := by
  obtain ⟨left, writes, follows, partly⟩ :=
    sound.update_leaves remove mirrors.bound validation removal
  refine ⟨left, writes.organization, follows.name, fun name => ?_, fun name none => ?_⟩
  · rcases partly name with kept | updated
    · rw [kept]
    · exact (mirrors.updates updated).1
  · rcases partly name with kept | updated
    · exact kept
    · exact (mirrors.updates updated).2 none

/-- Every comparison that an update of the current state makes can be made among texts. -/
theorem Mirrors.decided (mirrors : profile.Mirrors organization)
    (textual : organization.IsTextual) :
    Decided config profile.policy remove profile.episode := by
  intro name
  have stored := stored_situation mirrors.bound profile.policy name
  unfold Updates
  by_cases isName : name = nameKey
  · subst isName
    exact ⟨_, updated_nameKey profile.episode⟩
  · cases held : profile.episode.values.get? name with
    | some given =>
      have texts := textual.values name
      have kept := keeps_present texts
      rw [Situation.updated_of_submitted config remove isName held, stored,
        mirrors.given isName held, overwritten_of_textual texts kept.2.1]
      exact ⟨_, rfl⟩
    | none =>
      have empty := Organization.valuesOf_eq_nil_of_not_mem (mirrors.missing isName held)
      have leftOut : (profile.policy.situation name profile.episode).value = [] := by
        rw [Situation.value, Policy.situation, held]
        rfl
      rw [Situation.updated_of_missing config remove isName held,
        Situation.withdrawn_of_empty config leftOut (stored.trans empty), stored, empty, ite_self]
      exact ⟨[], rfl⟩

/-- The calls for the current state set names under which a blank value is stored. -/
theorem Mirrors.mem_dueCalls (mirrors : profile.Mirrors organization)
    (distinct : Keyed.Distinct profile.episode.values) (textual : organization.IsTextual)
    {order : Order} {call : Call}
    (mem : call ∈ dueCalls config profile.policy remove order profile.episode organization) :
    ∃ name texts, call = .set name texts ∧ HoldsBlank (organization.valuesOf name) := by
  cases call with
  | set name texts =>
    obtain ⟨notName, submitted, writable, known⟩ := set_mem_dueCalls.mp mem
    have held : profile.episode.values.get? name = some submitted :=
      distinct.get?_of_mem (List.mem_filter.mp writable).1
    refine ⟨name, texts, rfl, Classical.byContradiction fun none => ?_⟩
    have kept := keeps_present (textual.values name)
    have unwritten : overwritten remove submitted (organization.valuesOf name) =
        .ok (organization.valuesOf name) := by
      rw [mirrors.given notName held]
      exact overwritten_of_not_blank kept fun blank => none blank.1
    rw [wanted_of_overwritten unwritten] at known
    cases known
  | remove name =>
    obtain ⟨-, listed, absent, notName, -⟩ := (remove_mem_dueCalls mirrors.bound).mp mem
    exact absurd listed (mirrors.missing notName (Keyed.get?_eq_none_iff.mpr absent))

end Profile

/-- What an update of the current state does. However it ends, it only drops blank values. Among
texts all it asks is to set names under which a blank value is stored, and it comes to its end
unless that is refused. -/
structure Profile.OnlyCondenses (profile : Profile) (organization : Organization)
    (update : Policy → Action Unit) : Prop where
  leaves : ∃ left, (profile.run update).2.episode.organization = some left ∧
    left.Condenses organization
  asks : organization.IsTextual → ∃ calls, profile.Asks update calls ∧
    (∀ call ∈ calls, ∃ name texts, call = .set name texts ∧
      HoldsBlank (organization.valuesOf name)) ∧
    ((∀ call ∈ calls, call.refusal organization = none) → (profile.run update).1 = .ok ())

/-- Submitting the current state is accepted and changes no contents, whatever is read-only. Only
values that are neither texts nor missing stand in the way of comparing it. -/
theorem Provider.IsBuiltin.restating_keeps_contents {provider : Provider} {config : Config}
    (builtin : provider.IsBuiltin config) (context : Context) {submitted : Submission}
    {organization : Organization} (restates : submitted.Restates organization)
    (unnamed : organization.valuesOf nameKey = []) :
    match provider.create context submitted.entries (some organization) with
    | .error _ => ¬ organization.IsTextual
    | .ok profile =>
      (∀ order : Order,
        let result := (profile.run fun policy => Profile.validate policy order.visit).1
        result = .ok () ∨ (∃ cause, result = .error (.mishap cause)) ∧ ¬ organization.IsTextual) ∧
      ∀ (remove : Bool) (validation removal : Order), profile.OnlyCondenses organization
        fun policy => Profile.update policy remove validation.visit removal.visit := by
  have comparable : organization.IsTextual → Comparable submitted (some organization) := by
    intro textual
    refine ⟨restates.isTextual textual, ?_⟩
    rintro known same
    cases same
    exact textual
  cases created : provider.create context submitted.entries (some organization) with
  | error fault =>
    intro textual
    obtain ⟨profile, made, -⟩ := builtin.create_of_textual context (comparable textual)
    rw [made] at created
    cases created
  | ok profile =>
    have fresh := builtin.isFresh_create created
    have mirrors := builtin.mirrors restates unnamed created
    refine ⟨fun order => ?_, fun remove validation removal => ⟨?_, fun textual => ?_⟩⟩
    · refine (mirrors.validates fresh unnamed order).imp_right ?_
      rintro ⟨cause, result, stuck⟩
      refine ⟨⟨cause, result⟩, fun textual => ?_⟩
      obtain ⟨errors, all⟩ := builtin.findings_of_comparable created (comparable textual)
        (order.visit profile.episode.values.names)
      rw [all] at stuck
      cases stuck
    · exact mirrors.condenses fresh.isSound validation removal
    · have accepted : Policy.Accepts config profile.policy profile.episode := by
        obtain ⟨errors, all⟩ :=
          builtin.findings_of_comparable created (comparable textual) profile.episode.values.names
        rw [mirrors.findings_eq_nil fresh unnamed (fun _ => id) all] at all
        exact Policy.findings_eq_nil_iff.mp all
      have decided : Profile.Decided config profile.policy remove profile.episode :=
        mirrors.decided textual
      have asks := fresh.isSound.asks_update mirrors.bound accepted decided validation removal
      refine ⟨_, asks, fun call mem => ?_, fun granted => asks.ends mirrors.bound granted⟩
      exact mirrors.mem_dueCalls fresh.distinct textual mem

/-- Every name is read-only for a manager, that of the organization included, and a list holds a
blank value. -/
theorem Provider.restating_keeps_contents_of_blank :
    let config : Config := { readOnly := ["*"], adminReadOnly := ["name"] }
    let organization : Organization :=
      { name := .text "sample"
        storage := .entries [("tier", [.text " ", .text "gold"]), ("empty", [])] }
    ∃ (submitted : Submission) (profile : Profile),
      submitted.entries = organization.statement true ∧
      submitted.Restates organization ∧ organization.valuesOf nameKey = [] ∧
      (Provider.standard config).create .updateProfile submitted.entries (some organization) =
        .ok profile ∧
      ∀ (remove : Bool) (validation removal : Order), profile.OnlyCondenses organization
        fun policy => Profile.update policy remove validation.visit removal.visit := by
  intro config organization
  have distinct : Keyed.Distinct organization.attributes := by
    unfold Keyed.Distinct
    decide
  let submitted : Submission :=
    ⟨organization.statement true, Organization.distinct_statement distinct true⟩
  have restates : submitted.Restates organization :=
    Submission.restates_statement distinct (by decide) true
  have unnamed : organization.valuesOf nameKey = [] := rfl
  have creates : ((Provider.standard config).create .updateProfile
      (organization.statement true) (some organization)).toBool = true := by decide +kernel
  have created : (Provider.standard config).create .updateProfile submitted.entries
      (some organization) = .ok _ := eq_ok_of_toBool creates
  have kept := (Provider.isBuiltin_standard config).restating_keeps_contents .updateProfile restates
    unnamed
  rw [created] at kept
  exact ⟨submitted, _, rfl, restates, unnamed, created, kept.2⟩

end ProfilePolicy
