import ProfilePolicy.Profile

/-!
# Outcomes of actions

Two ways to say what an action does to an episode. `Leads` names a property of every outcome, of
the value and the episode after a success and of the fault and the episode after a failure. It
covers actions that write. `Computes` is for actions that only look: they give a known result and
leave the episode undisturbed but for its log and for copies of metadata.
-/

namespace ProfilePolicy

variable {α β : Type}

theorem bind_eq_ok {ε : Type} {result : Except ε α} {next : α → Except ε β} {value : β} :
    (result >>= next) = .ok value ↔ ∃ found, result = .ok found ∧ next found = .ok value := by
  cases result with
  | error cause => simp [bind, Except.bind]
  | ok found => simp [bind, Except.bind]

theorem bind_eq_error {ε : Type} {result : Except ε α} {next : α → Except ε β} {cause : ε}
    (h : (result >>= next) = .error cause) :
    result = .error cause ∨ ∃ value, result = .ok value ∧ next value = .error cause := by
  cases result with
  | error broken =>
    cases h
    exact Or.inl rfl
  | ok value => exact Or.inr ⟨value, rfl, h⟩

theorem map_eq_ok {ε : Type} {result : Except ε α} {next : α → β} {value : β} :
    result.map next = .ok value ↔ ∃ found, result = .ok found ∧ next found = value := by
  cases result with
  | error cause => simp [Except.map]
  | ok found => simp [Except.map]

/-- What looking may not change. The catalog may grow, but no entry in it changes. -/
structure Episode.Undisturbed (before after : Episode) : Prop where
  organization : after.organization = before.organization
  values : after.values = before.values
  validated : after.validated = before.validated
  catalog : before.catalog.entries <+: after.catalog.entries

namespace Episode.Undisturbed

theorem refl (episode : Episode) : Undisturbed episode episode :=
  ⟨rfl, rfl, rfl, List.prefix_rfl⟩

theorem trans {first second third : Episode} (earlier : Undisturbed first second)
    (later : Undisturbed second third) : Undisturbed first third :=
  ⟨later.organization.trans earlier.organization, later.values.trans earlier.values,
    later.validated.trans earlier.validated, earlier.catalog.trans later.catalog⟩

/-- Rules and predicates see the same situation afterwards. -/
theorem situation_eq {before after : Episode} (same : Undisturbed before after) (policy : Policy)
    (name : String) : policy.situation name after = policy.situation name before := by
  simp only [Policy.situation, same.organization, same.values]

end Episode.Undisturbed

namespace Action

/-- Every outcome of an action has a property. -/
def Leads (action : Action α) (episode : Episode) (done : α → Episode → Prop)
    (failed : Fault → Episode → Prop) : Prop :=
  match action episode with
  | .ok value after => done value after
  | .error fault after => failed fault after

theorem leads_of_ok {action : Action α} {episode after : Episode} {value : α}
    {done : α → Episode → Prop} {failed : Fault → Episode → Prop}
    (result : action episode = .ok value after) :
    Leads action episode done failed ↔ done value after := by
  rw [Leads, result]

theorem leads_of_error {action : Action α} {episode after : Episode} {fault : Fault}
    {done : α → Episode → Prop} {failed : Fault → Episode → Prop}
    (result : action episode = .error fault after) :
    Leads action episode done failed ↔ failed fault after := by
  rw [Leads, result]

theorem leads_bind {action : Action α} {next : α → Action β} {episode : Episode}
    {done : β → Episode → Prop} {failed : Fault → Episode → Prop} :
    Leads (action >>= next) episode done failed ↔
      Leads action episode (fun value after => Leads (next value) after done failed) failed := by
  simp only [Leads, bind, EStateM.bind]
  cases action episode <;> rfl

theorem leads_pure {value : α} {episode : Episode} {done : α → Episode → Prop}
    {failed : Fault → Episode → Prop} :
    Leads (pure value) episode done failed ↔ done value episode := Iff.rfl

theorem get_bind (next : Episode → Action α) (episode : Episode) :
    (get >>= next) episode = next episode episode := rfl

theorem bind_of_ok {action : Action α} {next : α → Action β} {episode after : Episode} {value : α}
    (result : action episode = .ok value after) :
    (action >>= next) episode = next value after := by
  simp only [bind, EStateM.bind, result]

theorem bind_of_error {action : Action α} {next : α → Action β} {episode after : Episode}
    {fault : Fault} (result : action episode = .error fault after) :
    (action >>= next) episode = .error fault after := by
  simp only [bind, EStateM.bind, result]

theorem leads_get {episode : Episode} {done : Episode → Episode → Prop}
    {failed : Fault → Episode → Prop} :
    Leads get episode done failed ↔ done episode episode := Iff.rfl

theorem leads_set {next episode : Episode} {done : PUnit → Episode → Prop}
    {failed : Fault → Episode → Prop} :
    Leads (set next) episode done failed ↔ done PUnit.unit next := Iff.rfl

theorem leads_throw {fault : Fault} {episode : Episode} {done : α → Episode → Prop}
    {failed : Fault → Episode → Prop} :
    Leads (throw fault) episode done failed ↔ failed fault episode := Iff.rfl

theorem leads_inspect {look : Episode → Except Mishap α} {episode : Episode}
    {done : α → Episode → Prop} {failed : Fault → Episode → Prop} :
    Leads (Policy.inspect look) episode done failed ↔
      (∀ value, look episode = .ok value → done value episode) ∧
        ∀ cause, look episode = .error cause → failed (.mishap cause) episode := by
  unfold Leads Policy.inspect
  cases look episode <;> simp

theorem Leads.mono {action : Action α} {episode : Episode} {done done' : α → Episode → Prop}
    {failed failed' : Fault → Episode → Prop} (h : Leads action episode done failed)
    (onDone : ∀ value after, done value after → done' value after)
    (onFailed : ∀ fault after, failed fault after → failed' fault after) :
    Leads action episode done' failed' := by
  unfold Leads at h ⊢
  cases result : action episode with
  | ok value after =>
    rw [result] at h
    exact onDone value after h
  | error fault after =>
    rw [result] at h
    exact onFailed fault after h

/-- An action succeeds or fails with what it leads to. -/
theorem Leads.cases {action : Action α} {episode : Episode} {done : α → Episode → Prop}
    {failed : Fault → Episode → Prop} (h : Leads action episode done failed) :
    (∃ value after, action episode = .ok value after ∧ done value after) ∨
      ∃ fault after, action episode = .error fault after ∧ failed fault after := by
  unfold Leads at h
  cases result : action episode with
  | ok value after =>
    rw [result] at h
    exact Or.inl ⟨value, after, rfl, h⟩
  | error fault after =>
    rw [result] at h
    exact Or.inr ⟨fault, after, rfl, h⟩

/-- An action that looks and gives a known result, a value or a mishap. -/
def Computes (action : Action α) (episode : Episode) (result : Except Mishap α) : Prop :=
  ∃ after, episode.Undisturbed after ∧ action episode =
    match result with
    | .ok value => .ok value after
    | .error cause => .error (.mishap cause) after

theorem computes_pure (value : α) (episode : Episode) :
    Computes (pure value) episode (.ok value) :=
  ⟨episode, .refl episode, rfl⟩

theorem computes_get (episode : Episode) : Computes get episode (.ok episode) :=
  ⟨episode, .refl episode, rfl⟩

theorem computes_inspect (look : Episode → Except Mishap α) (episode : Episode) :
    Computes (Policy.inspect look) episode (look episode) := by
  refine ⟨episode, .refl episode, ?_⟩
  unfold Policy.inspect
  cases look episode <;> rfl

/-- Looking again starts from an episode that looks the same. -/
theorem Computes.bind {action : Action α} {next : α → Action β} {episode : Episode}
    {first : Except Mishap α} {second : α → Except Mishap β}
    (h : Computes action episode first)
    (rest : ∀ value after, first = .ok value → episode.Undisturbed after →
      Computes (next value) after (second value)) :
    Computes (action >>= next) episode (first >>= second) := by
  obtain ⟨after, same, result⟩ := h
  cases first with
  | error cause =>
    refine ⟨after, same, ?_⟩
    simp only [Bind.bind, EStateM.bind, Except.bind, result]
  | ok value =>
    obtain ⟨final, same', result'⟩ := rest value after rfl same
    refine ⟨final, same.trans same', ?_⟩
    simp only [Bind.bind, EStateM.bind, Except.bind, result, result']

/-- What is found is known and the rest goes on with it. -/
theorem Computes.andThen {action : Action α} {next : α → Action β} {episode : Episode} {found : α}
    {result : Except Mishap β} (h : Computes action episode (.ok found))
    (rest : ∀ after, episode.Undisturbed after → Computes (next found) after result) :
    Computes (action >>= next) episode result := by
  have all : Computes (action >>= next) episode (Except.ok found >>= fun _ => result) := by
    refine h.bind fun value after known same => ?_
    cases known
    exact rest after same
  exact all

theorem Computes.leads {action : Action α} {episode : Episode} {result : Except Mishap α}
    (h : Computes action episode result) :
    Leads action episode
      (fun value after => episode.Undisturbed after ∧ result = .ok value)
      (fun fault after => episode.Undisturbed after ∧
        ∃ cause, fault = .mishap cause ∧ result = .error cause) := by
  obtain ⟨after, same, equation⟩ := h
  unfold Leads
  rw [equation]
  cases result with
  | ok value => exact ⟨same, rfl⟩
  | error cause => exact ⟨same, cause, rfl, rfl⟩

end Action

namespace Profile

open ProfilePolicy.Action

/-- An action run on a profile succeeds or fails with what it leads to. -/
theorem run_cases (profile : Profile) (action : Policy → Action α) {done : α → Episode → Prop}
    {failed : Fault → Episode → Prop}
    (h : Leads (action profile.policy) profile.episode done failed) :
    (∃ value after, profile.run action = (.ok value, { profile with episode := after }) ∧
        done value after) ∨
      ∃ fault after, profile.run action = (.error fault, { profile with episode := after }) ∧
        failed fault after := by
  unfold run
  rcases h.cases with ⟨value, after, result, holds⟩ | ⟨fault, after, result, holds⟩
  · rw [result]
    exact Or.inl ⟨value, after, rfl, holds⟩
  · rw [result]
    exact Or.inr ⟨fault, after, rfl, holds⟩

end Profile

end ProfilePolicy
