import ProfilePolicy.Proofs.Authority
import ProfilePolicy.Proofs.Requests

/-!
# Who renames an organization

Only an administrator renames an organization, and only by putting a text that is not empty and
differs from the name. The patterns that bind administrators protect the name from this with one
gap: the rules take a blank name for one that was left out, and the service takes every text but the
empty one for a name. So where a pattern covers the name, it can still be changed to a blank one.
-/

namespace ProfilePolicy

open Value

theorem Value.text?_eq_some_iff {value : Value} {written : String} :
    value.text? = some written ↔ value = text written := by
  cases value <;> simp [text?]

namespace Provider.IsBuiltin

variable {provider : Provider} {config : Config} {submitted : Submission}
variable {organization : Organization} {profile : Profile} {name old : String}

/-- A name with contents is in the set as it was submitted. -/
theorem value_of_visible (builtin : provider.IsBuiltin config) {context : Context}
    (created : provider.create context submitted.entries (some organization) = .ok profile)
    (asks : submitted.entries.get? nameKey = some (.list [text name]))
    (visible : Text.isBlank name = false) :
    (profile.policy.situation nameKey profile.episode).value = [text name] := by
  obtain ⟨policy, found, created⟩ := bind_eq_ok.mp created
  obtain ⟨episode, begun, created⟩ := bind_eq_ok.mp created
  cases created
  obtain ⟨-, ofBuiltin⟩ := builtin.isBuiltin_policy found
  obtain ⟨values, given, -, -, named⟩ := Policy.get?_begin ofBuiltin rfl (orMishap_eq_ok begun)
  have listed : values.get? nameKey = some [text name] := by
    rcases Policy.get?_normalizeAll given nameKey with
      ⟨none, -⟩ | ⟨value, items, found, normal, held⟩
    · rw [asks] at none
      cases none
    · rw [asks] at found
      cases found
      cases normal
      exact held
  rcases (named _ listed).2 with blank | held
  · simp [visible] at blank
  · exact Situation.value_of_get? held

/-- Where a pattern covers the name, an administrator is granted no other name with contents. -/
theorem blank_of_renamed (builtin : provider.IsBuiltin config)
    (created : provider.create .updateMetadata submitted.entries (some organization) = .ok profile)
    (accepted : Policy.Accepts config profile.policy profile.episode)
    (named : organization.name = text old) (unshadowed : organization.valuesOf nameKey = [])
    (asks : submitted.entries.get? nameKey = some (.list [text name])) (differs : name ≠ old)
    (protects : config.Protects .updateMetadata nameKey) : Text.isBlank name = true := by
  by_contra visible
  have fresh := builtin.isFresh_create created
  have bound := fresh.organization_eq
  have value := builtin.value_of_visible created asks (Bool.eq_false_iff.mpr visible)
  have listed : nameKey ∈ profile.episode.values.names := by
    rw [← Keyed.get?_isSome_iff]
    by_contra absent
    rw [Policy.situation, Situation.value, Option.not_isSome_iff_eq_none.mp absent] at value
    cases value
  have found := accepted nameKey listed
  have unnamed : (profile.policy.situation nameKey profile.episode).stored = [] :=
    (Profile.stored_situation bound _ _).trans unshadowed
  have present : (profile.policy.situation nameKey profile.episode).persisted = [text old] := by
    have own : (profile.policy.situation nameKey profile.episode).persisted =
        Validator.storedName profile.episode.organization := if_pos rfl
    rw [own, bound, Validator.storedName, named]
    rfl
  have manages : (profile.policy.situation nameKey profile.episode).context ≠ .updateProfile := by
    intro manager
    have administers := fresh.context_eq.symm.trans manager
    cases administers
  have none := Policy.finding_eq_ok_of_eq rfl unnamed (fun manager => absurd manager manages) found
  have granted := Situation.violations_eq_nil_iff.mp none.symm
  rw [Situation.violated_of_eq rfl] at granted
  -- a name with contents that differs from the present one would be a violation
  apply granted
  have shown : contentTexts [text name] = [name] := by simp [visible]
  rw [Situation.Changes, value, present, shown]
  refine ⟨fun perm => ?_, Or.inr ⟨protects, List.cons_ne_nil _ _⟩⟩
  by_cases hidden : Text.isBlank old = true
  · simp [hidden] at perm
  · simp [hidden] at perm
    exact differs perm.symm

end Provider.IsBuiltin

namespace Api

/-- An administrator asks for another name than the stored one, and the service takes it for a
name. -/
def Request.Renames (request : Request) (id : Uuid) (stored : StoredOrganization) (name : String) :
    Prop :=
  ∃ change, request.Changes .updateMetadata id change ∧ change.name = some name ∧ name ≠ "" ∧
    stored.organization.name ≠ text name

theorem Route.changing_inj {context context' : Context} {spelling spelling' : String}
    (same : Route.changing context spelling = Route.changing context' spelling') :
    context = context' ∧ spelling = spelling' := by
  cases context <;> cases context' <;> cases same <;> exact ⟨rfl, rfl⟩

theorem Request.Carries.unique {α : Type} {request : Request} {form : Value → Reading α}
    {asked asked' : α} (carries : request.Carries form asked)
    (carries' : request.Carries form asked') : asked = asked' := by
  rw [carries_iff] at carries carries'
  exact Option.some.inj (carries.symm.trans carries')

/-- A request asks for one change. -/
theorem Request.Changes.unique {request : Request} {context context' : Context} {id id' : Uuid}
    {change change' : Change} (asked : request.Changes context id change)
    (asked' : request.Changes context' id' change') :
    context = context' ∧ id = id' ∧ change = change' := by
  obtain ⟨spelling, place, isId⟩ := asked.place
  obtain ⟨spelling', place', isId'⟩ := asked'.place
  obtain ⟨rfl, rfl⟩ := Route.changing_inj (Option.some.inj (place.symm.trans place'))
  exact ⟨rfl, Except.ok.inj (isId.symm.trans isId'), asked.body.unique asked'.body⟩

/-- A change renames a stored organization exactly when an administrator asks for a text that is not
empty and differs from the name. -/
theorem renames_eq_some_iff {context : Context} {change : Change} {stored : StoredOrganization}
    {old name : String} (named : stored.organization.name = text old) :
    renames context change stored = some name ↔
      context = .updateMetadata ∧ change.name = some name ∧ name ≠ "" ∧
        stored.organization.name ≠ text name := by
  unfold renames
  rw [named]
  cases change.name with
  | none => simp
  | some asked =>
    cases context with
    | updateProfile => simp [Context.isAdmin]
    | updateMetadata =>
      simp only [Context.isAdmin, Bool.true_and, same, Bool.and_eq_true, bne_iff_ne, ne_eq,
        Bool.not_eq_eq_eq_not, Bool.not_true, beq_eq_false_iff_ne, Option.ite_none_right_eq_some,
        Option.some.injEq, text.injEq, true_and]
      constructor
      · rintro ⟨taken, rfl⟩
        exact ⟨rfl, taken⟩
      · rintro ⟨rfl, taken⟩
        exact ⟨taken, rfl⟩

/-- The name that a change leaves: the one it asks for if it renames, else the one from before. -/
theorem Change.Makes.name_eq {change : Change} {provider : Provider} {config : Config}
    (builtin : provider.IsBuiltin config) {request : Request}
    (carries : request.Carries Change.ofValue change) {context : Context}
    {stored left : StoredOrganization} (kept : stored.organization.IsKept)
    (made : change.Makes provider context stored left) :
    left.organization.name =
      match renames context change stored with
      | some name => text name
      | none => stored.organization.name := by
  obtain ⟨profile, after, created, updated, rfl⟩ := made
  have fresh := carries.isFresh builtin created
  obtain ⟨organization, bound, follows, -⟩ := fresh.isSound.update_keeps fresh.organization_eq
    kept .sorted .sorted updated
  rw [bound, Option.getD_some]
  unfold Change.applied
  cases renames context change stored with
  | some name => rfl
  | none => exact follows.name

/-- Where a pattern covers the name, a change that renames gives a blank name. -/
theorem Change.Makes.blank_of_renames {change : Change} {provider : Provider} {config : Config}
    (builtin : provider.IsBuiltin config) {request : Request}
    (carries : request.Carries Change.ofValue change) {context : Context}
    {stored left : StoredOrganization} (kept : stored.organization.IsKept)
    (made : change.Makes provider context stored left) {name : String}
    (renamed : renames context change stored = some name)
    (protects : config.Protects .updateMetadata nameKey) : Text.isBlank name = true := by
  obtain ⟨profile, after, created, updated, -⟩ := made
  obtain ⟨old, named⟩ := kept.named
  obtain ⟨rfl, asked, -, differs⟩ := (renames_eq_some_iff named).mp renamed
  let submitted : Submission := ⟨_, carries.distinct_submission stored⟩
  have fresh := carries.isFresh builtin created
  obtain ⟨accepted, -⟩ :=
    fresh.isSound.of_update_ok fresh.organization_eq .sorted .sorted updated
  have asks : submitted.entries.get? nameKey = some (.list [text name]) := by
    simp only [submitted, submission, asked, Keyed.get?_put, if_true]
  have other : name ≠ old := by
    rintro rfl
    exact differs named
  have submits : provider.create .updateMetadata submitted.entries (some stored.organization) =
      .ok profile := created
  exact builtin.blank_of_renamed submits accepted named kept.nameless asks other protects

end Api

open Api Directory

/-- Putting to a stored organization of a directory that requests led to leaves its name, or an
administrator asked for another text that is not empty, which it then has. Where a pattern that
binds administrators covers the name, the text is blank. Every such request that is granted
renames. -/
theorem Directory.names_change_by_request (exchanges : List Exchange) (exchange : Exchange)
    (orderly : ∀ other ∈ exchange :: exchanges, other.IsOrderly) {provider : Provider}
    {config : Config} (provided : exchange.factory.create = .ok provider)
    (builtin : provider.IsBuiltin config) (method : exchange.request.method = "PUT") {id : Uuid}
    {stored : StoredOrganization} (found : (afterAll exchanges).find? id = some stored) :
    let before := afterAll exchanges
    ∃ left, (exchange.after before).find? id = some left ∧
      (left.organization.name = stored.organization.name ∨
        ∃ name, exchange.request.Renames id stored name ∧ exchange.status before = 204 ∧
          left.organization.name = text name ∧
          (config.Protects .updateMetadata nameKey → Text.isBlank name = true)) ∧
      ∀ name, exchange.request.Renames id stored name → exchange.status before = 204 →
        left.organization.name = text name := by
  intro before
  have own : exchange.IsOrderly := orderly exchange List.mem_cons_self
  have allKept : before.IsKept :=
    isKept_afterAll fun other mem => orderly other (List.mem_cons_of_mem _ mem)
  have kept := allKept.found found
  obtain ⟨old, named⟩ := kept.named
  have effect := own.effect before
  generalize exchange.status before = status at effect
  generalize exchange.after before = after at effect
  cases effect with
  | kept plain =>
    refine ⟨stored, found, Or.inl rfl, fun name _ granted => ?_⟩
    omega
  | created asked => exact absurd (asked.method.symm.trans method) (by decide)
  | deleted asked => exact absurd (asked.method.symm.trans method) (by decide)
  | @changed context id' change stored' left provider' asked foundChanged provided' made granted =>
    cases Except.ok.inj (provided.symm.trans provided')
    have place : left.id = id' := made.id_eq.trans (id_of_find? foundChanged)
    by_cases same : id = left.id
    · obtain rfl := same.trans place
      cases Option.some.inj (found.symm.trans foundChanged)
      have nameLeft := made.name_eq builtin asked.body kept
      refine ⟨left.reload, ?_, ?_, ?_⟩
      · rw [find?_put, if_pos same]
      · rw [StoredOrganization.reload_name, nameLeft]
        cases renamed : renames context change stored with
        | none => exact Or.inl rfl
        | some name =>
          obtain ⟨rfl, asks, some, differs⟩ := (renames_eq_some_iff named).mp renamed
          refine Or.inr ⟨name, ⟨change, asked, asks, some, differs⟩, rfl, rfl, fun protects => ?_⟩
          exact made.blank_of_renames builtin asked.body kept renamed protects
      · rintro name' ⟨change', asked', asks, some, differs⟩ -
        obtain ⟨rfl, -, rfl⟩ := asked.unique asked'
        rw [StoredOrganization.reload_name, nameLeft,
          (renames_eq_some_iff named).mpr ⟨rfl, asks, some, differs⟩]
    · refine ⟨stored, ?_, Or.inl rfl, ?_⟩
      · rw [find?_put, if_neg same]
        exact found
      · rintro name' ⟨change', asked', -⟩ -
        obtain ⟨-, rfl, -⟩ := asked.unique asked'
        exact absurd place.symm same

/-- An administrator makes the name blank although a configured pattern covers it. -/
theorem Directory.names_change_by_request_of_blank :
    let config : Config := { adminReadOnly := ["name"] }
    let supply : Supply := {
      id := .ofNat 1, correlationId := "c", time := "2026-01-01T00:00:00"
      stamp := { correlationId := "c", timestamp := "2026-01-01T00:00:00" } }
    let creating : Exchange := {
      factory := .under config, supply
      request := { method := "POST", path := "/api/organizations"
                   body := "\x7b\"name\":\"sample\",\"attributes\":\x7b\"plain\":[\"1\"]\x7d\x7d"
                   headers := [("Content-Type", "application/json")] } }
    let putting : Exchange := {
      factory := .under config, supply
      request := { method := "PUT"
                   path := "/api/organizations/00000000-0000-0000-0000-000000000001/manage"
                   body := "\x7b\"name\":\"   \"\x7d"
                   headers := [("Content-Type", "application/json")] } }
    config.Protects .updateMetadata nameKey ∧ ∃ stored left,
      (afterAll [creating]).find? (.ofNat 1) = some stored ∧
      stored.organization.name = text "sample" ∧ putting.status (afterAll [creating]) = 204 ∧
      (putting.after (afterAll [creating])).find? (.ofNat 1) = some left ∧
      left.organization.name = text "   " := by
  intro config supply creating putting
  have timed : Text.hasHalf supply.time = false := by decide +kernel
  have orderly : ∀ other ∈ [putting, creating], other.IsOrderly := by
    intro other mem
    simp only [List.mem_cons, List.not_mem_nil, or_false] at mem
    rcases mem with rfl | rfl
    · exact ⟨ProviderFactory.isBuiltin_under config, timed⟩
    · exact ⟨ProviderFactory.isBuiltin_under config, timed⟩
  have protects : config.Protects .updateMetadata nameKey := by decide +kernel
  have granted : putting.status (afterAll [creating]) = 204 := by decide +kernel
  have known : ((afterAll [creating]).find? (.ofNat 1)).map
      (fun stored => stored.organization.name.text?) = some (some "sample") := by decide +kernel
  have asked : (putting.request.carried? Change.ofValue).map (·.name) = some (some "   ") := by
    decide +kernel
  obtain ⟨stored, found, named⟩ := Option.map_eq_some_iff.mp known
  have name : stored.organization.name = text "sample" := Value.text?_eq_some_iff.mp named
  obtain ⟨change, carried, asks⟩ := Option.map_eq_some_iff.mp asked
  obtain ⟨left, found', -, renames⟩ := names_change_by_request [creating] putting orderly rfl
    (Provider.isBuiltin_standard config) rfl found
  have asksFor : putting.request.Changes .updateMetadata (.ofNat 1) change := by
    refine ⟨rfl, ⟨"00000000-0000-0000-0000-000000000001", by decide +kernel, ?_⟩,
      Request.carries_iff.mpr carried⟩
    exact toOption_eq_some_iff.mp (by decide +kernel)
  have differs : stored.organization.name ≠ text "   " := by
    rw [name]
    exact fun same => absurd (text.inj same) (by decide)
  have renamed := renames "   " ⟨change, asksFor, asks, by decide, differs⟩ granted
  exact ⟨protects, stored, left, found, name, granted, found', renamed⟩

end ProfilePolicy
