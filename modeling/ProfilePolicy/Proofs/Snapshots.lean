import ProfilePolicy.Proofs.Builtin
import ProfilePolicy.Proofs.Update
import ProfilePolicy.Settings

/-!
# Providers of different ages

A factory is reconfigured while providers taken from it, and profiles made by these, are in use.
Each provider is a snapshot: what a profile answers is what it answers alone, on a factory that was
put under one configuration and never touched again, namely the one that was in force when the
provider was taken.

The factory in use is compared with a ledger, which holds no metadata at all. The ledger notes the
configuration in force, the one that each provider was taken under, and for each profile what was
done with it. It answers by going through all of this again from the beginning, for one profile
alone.
-/

namespace ProfilePolicy

/-! ## What is done with a factory and what it hands out -/

inductive ConfigSource
  | entries (entries : Keyed Value)
  | deployment (settings : Settings) (contentAt : String → PathContent)

def ConfigSource.read : ConfigSource → Except Fault Config
  | entries values => Config.ofValues values
  | deployment settings contentAt => settings.load contentAt

/-- Reading a configuration, as a step of the factory that is to be put under it. -/
def ConfigSource.loaded (source : ConfigSource) : ProviderFactory.Step Config :=
  MonadExcept.ofExcept source.read

inductive Operation
  | validate (order : Order)
  | update (remove : Bool) (validation removal : Order)
  | isReadOnly (name : String)
  | validateName (name : String)
  | setValues (name : String) (value : Value)

inductive Operation.Result
  | done
  | readOnly (denied : Bool)
  | verdict (verdict : Policy.Verdict)

def Operation.action : Operation → Policy → Action Operation.Result
  | validate order, policy => do
    Profile.validate policy order.visit
    pure .done
  | update remove validation removal, policy => do
    Profile.update policy remove validation.visit removal.visit
    pure .done
  | isReadOnly name, policy => do
    let denied ← policy.isReadOnly name
    pure (.readOnly denied)
  | validateName name, policy => do
    let verdict ← policy.validateName name
    pure (.verdict verdict)
  | setValues name value, _ => do
    let episode ← get
    match episode.setValues name value with
    | .ok episode => set episode
    | .error cause => throw (.mishap cause)
    pure .done

/-- Operates on a profile with an empty log. It sees the organization as it is then. -/
def Profile.operate (profile : Profile) (organization : Option Organization)
    (operation : Operation) : Except Fault Operation.Result × Profile :=
  let episode := { profile.episode with organization, journal := [] }
  ({ profile with episode } : Profile).run operation.action

/-- Something done with a factory, with one of the providers it handed out, or with one of the
profiles that these made; they are numbered as they were handed out and made. -/
inductive Event
  | init (source : Option ConfigSource)
  | reload (source : ConfigSource)
  | take
  | create (provider : Nat) (context : Context) (submitted : Keyed Value)
      (organization : Option Organization)
  | operate (profile : Nat) (organization : Option Organization) (operation : Operation)

inductive Event.Answer
  /-- Whether the factory is initialized now. -/
  | configured (result : Except Fault Bool)
  | taken (result : Except Fault Unit)
  /-- The values of the new set. -/
  | created (result : Except Fault AttributeValues)
  /-- What the operation gives, and what it leaves of the organization and writes to the log. -/
  | operated (result : Except Fault Operation.Result) (organization : Option Organization)
      (journal : List Log.Record)
  /-- There is no such provider, or no such profile. -/
  | absent

def Event.Answer.denied? : Event.Answer → Option Bool
  | operated (.ok (.readOnly denied)) _ _ => some denied
  | _ => none

/-- The answers to events in turn, and the state in the end. -/
def answerAll {σ : Type} (handle : σ → Event → Event.Answer × σ) (state : σ) :
    List Event → List Event.Answer × σ
  | [] => ([], state)
  | event :: rest =>
    let (answer, next) := handle state event
    let (answers, last) := answerAll handle next rest
    (answer :: answers, last)

/-- A factory with the providers it handed out and the profiles that these made. -/
structure Office where
  factory : ProviderFactory
  providers : List Provider := []
  profiles : List Profile := []

namespace Office

/-- The factory is put under another configuration, or it fails to be. It is kept as the step left
it either way. -/
def configured (office : Office) (step : ProviderFactory.Step Log.Record) :
    Event.Answer × Office :=
  match step office.factory with
  | .ok _ factory => (.configured (.ok factory.initialized), { office with factory })
  | .error fault factory => (.configured (.error fault), { office with factory })

def handle (office : Office) : Event → Event.Answer × Office
  | .init none => office.configured (ProviderFactory.init none)
  | .init (some source) =>
    office.configured (source.loaded >>= fun config => ProviderFactory.init (some config))
  | .reload source => office.configured (source.loaded >>= ProviderFactory.reload)
  | .take =>
    match office.factory.create with
    | .ok provider => (.taken (.ok ()), { office with providers := office.providers ++ [provider] })
    | .error fault => (.taken (.error fault), office)
  | .create provider context submitted organization =>
    match office.providers[provider]? with
    | none => (.absent, office)
    | some provider =>
      match provider.create context submitted organization with
      | .ok profile =>
        (.created (.ok profile.episode.values),
          { office with profiles := office.profiles ++ [profile] })
      | .error fault => (.created (.error fault), office)
  | .operate position organization operation =>
    match office.profiles[position]? with
    | none => (.absent, office)
    | some profile =>
      let (result, profile) := profile.operate organization operation
      (.operated result profile.episode.organization profile.episode.journal,
        { office with profiles := office.profiles.set position profile })

def new (validators : Registry Validator) : Office :=
  { factory := ProviderFactory.new validators }

end Office

/-! ## The same alone -/

/-- The provider of a factory that was put under one configuration and never touched again. -/
def Provider.alone (validators : Registry Validator) (config : Config) : Except Fault Provider := do
  let (_, provider) ← ProviderFactory.provided validators config
  pure provider

/-- What is done with one profile from the beginning, and the configuration that its provider was
taken under. -/
structure Chronicle where
  config : Config
  context : Context
  submitted : Keyed Value
  organization : Option Organization
  operations : List (Option Organization × Operation) := []

/-- The profile after all that is done with it, if nothing else is ever done. -/
def Chronicle.profile (chronicle : Chronicle) (validators : Registry Validator) :
    Except Fault Profile := do
  let provider ← Provider.alone validators chronicle.config
  let profile ← provider.create chronicle.context chronicle.submitted chronicle.organization
  pure (chronicle.operations.foldl
    (fun profile operation => (profile.operate operation.1 operation.2).2) profile)

/-- What is known without any metadata: the configuration in force, the one that each provider was
taken under, and what was done with each profile. -/
structure Ledger where
  inForce : Option Config := none
  providers : List Config := []
  profiles : List Chronicle := []

namespace Ledger

/-- A configuration that is accepted is in force. -/
def configured (ledger : Ledger) (config : Except Fault Config) : Event.Answer × Ledger :=
  match config with
  | .ok config => (.configured (.ok true), { ledger with inForce := some config })
  | .error fault => (.configured (.error fault), ledger)

def handle (validators : Registry Validator) (ledger : Ledger) : Event → Event.Answer × Ledger
  | .init none => ledger.configured (.ok {})
  | .init (some source) => ledger.configured source.read
  | .reload source => ledger.configured source.read
  | .take =>
    match ledger.inForce with
    | some config =>
      (.taken (.ok ()), { ledger with providers := ledger.providers ++ [config] })
    | none => (.taken (.error (.usage .uninitializedProvider)), ledger)
  | .create provider context submitted organization =>
    match ledger.providers[provider]? with
    | none => (.absent, ledger)
    | some config =>
      let chronicle : Chronicle := { config, context, submitted, organization }
      match chronicle.profile validators with
      | .ok profile =>
        (.created (.ok profile.episode.values),
          { ledger with profiles := ledger.profiles ++ [chronicle] })
      | .error fault => (.created (.error fault), ledger)
  | .operate position organization operation =>
    match ledger.profiles[position]? with
    | none => (.absent, ledger)
    | some chronicle =>
      match chronicle.profile validators with
      | .error _ => (.absent, ledger)
      | .ok profile =>
        let (result, profile) := profile.operate organization operation
        let operations := chronicle.operations ++ [(organization, operation)]
        (.operated result profile.episode.organization profile.episode.journal,
          { ledger with profiles := ledger.profiles.set position { chronicle with operations } })

end Ledger

/-! ## Steps of a factory -/

namespace ProviderFactory

/-- Metadata is always built, so it is replaced as a whole. -/
theorem reload_eq (config : Config) (factory : ProviderFactory) :
    reload config factory =
      .ok (builtRecord (.builtin config) config)
        { factory with current := some (.builtin config) } := by
  rw [reload, MetadataRegistry.build_eq]
  rfl

/-- A step that fails leaves the factory as it was. -/
def Step.IsWhole {α : Type} (step : Step α) : Prop :=
  ∀ factory fault left, step factory = .error fault left → left = factory

/-- What can only fail by a result that is known before it starts is whole. -/
theorem Step.IsWhole.ofExcept_bind {α β : Type} {next : α → Step β}
    (whole : ∀ value, (next value).IsWhole) (result : Except Fault α) :
    (MonadExcept.ofExcept result >>= next : Step β).IsWhole := by
  intro factory fault left failed
  cases result with
  | error cause =>
    cases failed
    rfl
  | ok value => exact whole value factory fault left failed

/-- The metadata is built before the factory changes, so no metadata is half in force. -/
theorem isWhole_reload (config : Config) : (reload config).IsWhole := by
  refine .ofExcept_bind (fun registry factory fault left failed => ?_) _
  cases failed

end ProviderFactory

/-! ## The office and its ledger -/

def Provider.snapshot (validators : Registry Validator) (config : Config) : Provider :=
  { registry := MetadataRegistry.builtin config
    validators := (ProviderFactory.new validators).validators }

theorem Provider.alone_eq (validators : Registry Validator) (config : Config) :
    Provider.alone validators config = .ok (Provider.snapshot validators config) := by
  simp only [Provider.alone, ProviderFactory.provided, ProviderFactory.init, Option.getD_some,
    ProviderFactory.reload_eq]
  rfl

/-- A profile with which nothing was done yet is as its provider makes it. -/
theorem Chronicle.profile_of_new (validators : Registry Validator) (config : Config)
    (context : Context) (submitted : Keyed Value) (organization : Option Organization) :
    ({ config, context, submitted, organization } : Chronicle).profile validators =
      (Provider.snapshot validators config).create context submitted organization := by
  rw [Chronicle.profile, Provider.alone_eq]
  change (Provider.create _ context submitted organization >>= fun profile => pure profile) = _
  cases (Provider.snapshot validators config).create context submitted organization <;> rfl

/-- One more operation is done with the profile as it was left. -/
theorem Chronicle.profile_append {validators : Registry Validator} {chronicle : Chronicle}
    {profile : Profile} (made : chronicle.profile validators = .ok profile)
    (organization : Option Organization) (operation : Operation) :
    ({ chronicle with
        operations := chronicle.operations ++ [(organization, operation)] } : Chronicle).profile
      validators = .ok (profile.operate organization operation).2 := by
  obtain ⟨provider, taken, made⟩ := bind_eq_ok.mp made
  obtain ⟨fresh, created, made⟩ := bind_eq_ok.mp made
  cases made
  simp only [Chronicle.profile, taken, bind, Except.bind, created, List.foldl_append]
  rfl

structure Office.Agrees (office : Office) (validators : Registry Validator) (ledger : Ledger) :
    Prop where
  factory : office.factory = { ProviderFactory.new validators with
    current := ledger.inForce.map MetadataRegistry.builtin }
  providers : office.providers = ledger.providers.map (Provider.snapshot validators)
  profiles : ledger.profiles.map (·.profile validators) = office.profiles.map .ok

namespace Office.Agrees

variable {office : Office} {validators : Registry Validator} {ledger : Ledger}

theorem new (validators : Registry Validator) : (Office.new validators).Agrees validators {} :=
  ⟨rfl, rfl, rfl⟩

/-- What the factory hands out is the snapshot of the configuration in force. -/
theorem create_eq (agrees : office.Agrees validators ledger) :
    office.factory.create =
      match ledger.inForce with
      | some config => .ok (Provider.snapshot validators config)
      | none => .error (.usage .uninitializedProvider) := by
  rw [agrees.factory, ProviderFactory.create]
  cases ledger.inForce <;> rfl

/-- A configuration that is read is put in force, and one that is not leaves all as it is. -/
theorem configured (agrees : office.Agrees validators ledger) (config : Except Fault Config) :
    let step := MonadExcept.ofExcept config >>= ProviderFactory.reload
    (office.configured step).1 = (ledger.configured config).1 ∧
      (office.configured step).2.Agrees validators (ledger.configured config).2 := by
  intro step
  cases config with
  | error fault => exact ⟨rfl, agrees⟩
  | ok config =>
    have reloads : step office.factory = _ := ProviderFactory.reload_eq config office.factory
    simp only [Office.configured, reloads]
    refine ⟨rfl, ?_, agrees.providers, agrees.profiles⟩
    simp only [agrees.factory]
    rfl

theorem taken (agrees : office.Agrees validators ledger) (config : Config) :
    ({ office with providers := office.providers ++ [Provider.snapshot validators config] } :
      Office).Agrees validators { ledger with providers := ledger.providers ++ [config] } := by
  refine ⟨agrees.factory, ?_, agrees.profiles⟩
  simp only [agrees.providers, List.map_append, List.map_cons, List.map_nil]

theorem created (agrees : office.Agrees validators ledger) {chronicle : Chronicle}
    {profile : Profile} (made : chronicle.profile validators = .ok profile) :
    ({ office with profiles := office.profiles ++ [profile] } : Office).Agrees validators
      { ledger with profiles := ledger.profiles ++ [chronicle] } := by
  refine ⟨agrees.factory, agrees.providers, ?_⟩
  simp only [List.map_append, agrees.profiles, List.map_cons, made, List.map_nil]

theorem operated (agrees : office.Agrees validators ledger) {chronicle : Chronicle}
    {profile : Profile} (made : chronicle.profile validators = .ok profile) (position : Nat) :
    ({ office with profiles := office.profiles.set position profile } : Office).Agrees validators
      { ledger with profiles := ledger.profiles.set position chronicle } := by
  refine ⟨agrees.factory, agrees.providers, ?_⟩
  simp only [List.map_set, agrees.profiles, made]

/-- One event is answered as the ledger says, and the ledger still says how the office is. -/
theorem handle (agrees : office.Agrees validators ledger) (event : Event) :
    (office.handle event).1 = (ledger.handle validators event).1 ∧
      (office.handle event).2.Agrees validators (ledger.handle validators event).2 := by
  cases event with
  | init source =>
    cases source with
    | none => exact agrees.configured (.ok {})
    | some source => exact agrees.configured source.read
  | reload source => exact agrees.configured source.read
  | take =>
    have provided := agrees.create_eq
    cases inForce : ledger.inForce with
    | none =>
      rw [inForce] at provided
      simp only [Office.handle, provided, Ledger.handle, inForce]
      exact ⟨trivial, agrees⟩
    | some config =>
      rw [inForce] at provided
      simp only [Office.handle, provided, Ledger.handle, inForce]
      exact ⟨trivial, inForce ▸ agrees.taken config⟩
  | create position context submitted organization =>
    have found : office.providers[position]? =
        (ledger.providers[position]?).map (Provider.snapshot validators) := by
      rw [agrees.providers, List.getElem?_map]
    rw [Office.handle, Ledger.handle, found]
    cases ledger.providers[position]? with
    | none => exact ⟨rfl, agrees⟩
    | some config =>
      have alone := Chronicle.profile_of_new validators config context submitted organization
      simp only [Option.map_some, alone]
      cases made : (Provider.snapshot validators config).create context submitted organization with
      | error fault => exact ⟨rfl, agrees⟩
      | ok profile => exact ⟨rfl, agrees.created (alone.trans made)⟩
  | operate position organization operation =>
    have found : (ledger.profiles[position]?).map (·.profile validators) =
        (office.profiles[position]?).map .ok := by
      rw [← List.getElem?_map, agrees.profiles, List.getElem?_map]
    rw [Office.handle, Ledger.handle]
    cases held : ledger.profiles[position]? with
    | none =>
      rw [held] at found
      rw [Option.map_eq_none_iff.mp found.symm]
      exact ⟨rfl, agrees⟩
    | some chronicle =>
      rw [held] at found
      obtain ⟨profile, known, same⟩ := Option.map_eq_some_iff.mp found.symm
      have made : chronicle.profile validators = .ok profile := same.symm
      simp only [known, made]
      have continued := Chronicle.profile_append made organization operation
      exact ⟨trivial, agrees.operated continued position⟩

end Office.Agrees

/-! ## Events in turn -/

/-- Two ways to answer that agree on every event agree on all of them in turn. -/
theorem answerAll_of_related {σ τ : Type} {handle : σ → Event → Event.Answer × σ}
    {handle' : τ → Event → Event.Answer × τ} {related : σ → τ → Prop}
    (step : ∀ state state' event, related state state' →
      (handle state event).1 = (handle' state' event).1 ∧
        related (handle state event).2 (handle' state' event).2)
    {state : σ} {state' : τ} (start : related state state') (events : List Event) :
    (answerAll handle state events).1 = (answerAll handle' state' events).1 ∧
      related (answerAll handle state events).2 (answerAll handle' state' events).2 := by
  induction events generalizing state state' with
  | nil => exact ⟨rfl, start⟩
  | cons event rest ih =>
    obtain ⟨same, next⟩ := step state state' event start
    obtain ⟨others, last⟩ := ih next
    simp only [answerAll, same, others]
    exact ⟨trivial, last⟩

/-- The configuration that an event puts in force. -/
def Event.accepted? : Event → Option Config
  | .init none => some {}
  | .init (some source) | .reload source => source.read.toOption
  | _ => none

namespace Ledger

variable {validators : Registry Validator} {ledger : Ledger}

theorem configured_spec (config : Except Fault Config) :
    (ledger.configured config).2.inForce = config.toOption.or ledger.inForce ∧
      ((∀ flag, (ledger.configured config).1 ≠ .configured (.ok flag)) ↔
        config.toOption = none) := by
  cases config with
  | ok config => simp [configured, Except.toOption]
  | error fault => simp [configured, Except.toOption]

/-- An event puts its configuration in force and is answered so, or leaves the one in force. -/
theorem handle_spec (event : Event) :
    (ledger.handle validators event).2.inForce = event.accepted?.or ledger.inForce ∧
      ((∀ flag, (ledger.handle validators event).1 ≠ .configured (.ok flag)) ↔
        event.accepted? = none) := by
  cases event with
  | init source =>
    cases source with
    | none => exact configured_spec (.ok {})
    | some source => exact configured_spec source.read
  | reload source => exact configured_spec source.read
  | take =>
    simp only [handle, Event.accepted?]
    split <;> simp
  | create position context submitted organization =>
    simp only [handle, Event.accepted?]
    split
    · simp
    · split <;> simp
  | operate position organization operation =>
    simp only [handle, Event.accepted?]
    split
    · simp
    · split <;> simp

/-- After events the last configuration that was accepted is in force. -/
theorem inForce_eq (events : List Event) :
    (answerAll (Ledger.handle validators) ledger events).2.inForce =
      (events.filterMap Event.accepted?).getLast?.or ledger.inForce := by
  induction events generalizing ledger with
  | nil => rfl
  | cons event rest ih =>
    have first : (ledger.handle validators event).2.inForce = event.accepted?.or ledger.inForce :=
      (handle_spec event).1
    simp only [answerAll, ih, first]
    cases accepted : event.accepted? with
    | none => rw [List.filterMap_cons_none accepted, Option.none_or]
    | some config =>
      rw [List.filterMap_cons_some accepted, List.getLast?_cons]
      cases (rest.filterMap Event.accepted?).getLast? <;> rfl

/-- No event was answered as a success of configuring exactly when none had a configuration that
was accepted. -/
theorem answers_eq_nil_iff (events : List Event) :
    (∀ answer ∈ (answerAll (Ledger.handle validators) ledger events).1,
        ∀ flag, answer ≠ .configured (.ok flag)) ↔
      events.filterMap Event.accepted? = [] := by
  induction events generalizing ledger with
  | nil => simp [answerAll]
  | cons event rest ih =>
    have first : (∀ flag, (ledger.handle validators event).1 ≠ .configured (.ok flag)) ↔
        event.accepted? = none := (handle_spec event).2
    simp only [answerAll, List.forall_mem_cons, first, ih, List.filterMap_cons]
    cases event.accepted? <;> simp

end Ledger

namespace Office

open ProviderFactory

/-- An office is kept as it was by a step that fails and is whole. -/
theorem configured_of_failed {office : Office} {step : Step Log.Record} {fault : Fault}
    (whole : step.IsWhole) (failed : (office.configured step).1 = .configured (.error fault)) :
    (office.configured step).2 = office := by
  cases ran : step office.factory with
  | ok record factory =>
    simp only [configured, ran] at failed
    cases failed
  | error cause left =>
    have same : left = office.factory := whole _ _ _ ran
    simp only [configured, ran, same]

/-- An event that fails to configure leaves all as it is. -/
theorem handle_of_failed {office : Office} {event : Event} {fault : Fault}
    (failed : (office.handle event).1 = .configured (.error fault)) :
    (office.handle event).2 = office := by
  cases event with
  | init source =>
    cases source with
    | none => exact configured_of_failed (ProviderFactory.isWhole_reload {}) failed
    | some source => exact configured_of_failed (.ofExcept_bind isWhole_reload source.read) failed
  | reload source =>
    exact configured_of_failed (.ofExcept_bind isWhole_reload source.read) failed
  | take =>
    simp only [handle] at failed
    split at failed <;> cases failed
  | create position context submitted organization =>
    simp only [handle] at failed
    split at failed
    · cases failed
    · split at failed <;> cases failed
  | operate position organization operation =>
    simp only [handle] at failed
    split at failed <;> cases failed

theorem agrees_answerAll (validators : Registry Validator) (events : List Event) :
    (answerAll handle (.new validators) events).1 =
        (answerAll (Ledger.handle validators) {} events).1 ∧
      (answerAll handle (.new validators) events).2.Agrees validators
        (answerAll (Ledger.handle validators) {} events).2 := by
  have step : ∀ (office : Office) (ledger : Ledger) (event : Event),
      office.Agrees validators ledger →
        (office.handle event).1 = (ledger.handle validators event).1 ∧
          (office.handle event).2.Agrees validators (ledger.handle validators event).2 :=
    fun _ _ event agrees => agrees.handle event
  exact answerAll_of_related step (Agrees.new validators) events

/-- Whatever is done, in whatever order, every profile answers as it does alone, under the
configuration in force when its provider was taken. What fails to configure changes nothing; the
factory hands out what the last configuration that was accepted gives alone, and it fails to exactly
as long as none was. -/
theorem answers_as_alone (validators : Registry Validator) (events : List Event) :
    let answers := (answerAll handle (.new validators) events).1
    let office := (answerAll handle (.new validators) events).2
    answers = (answerAll (Ledger.handle validators) {} events).1 ∧
    (∀ event fault, (office.handle event).1 = .configured (.error fault) →
      (office.handle event).2 = office) ∧
    (office.factory.create =
      match (events.filterMap Event.accepted?).getLast? with
      | some config => Provider.alone validators config
      | none => .error (.usage .uninitializedProvider)) ∧
    ((office.handle .take).1 = .taken (.error (.usage .uninitializedProvider)) ↔
      ∀ answer ∈ answers, ∀ flag, answer ≠ .configured (.ok flag)) := by
  intro answers office
  obtain ⟨same, agrees⟩ := agrees_answerAll validators events
  have inForce : (answerAll (Ledger.handle validators) {} events).2.inForce =
      (events.filterMap Event.accepted?).getLast? :=
    (Ledger.inForce_eq events).trans (Option.or_none)
  have provided : office.factory.create =
      match (events.filterMap Event.accepted?).getLast? with
      | some config => Provider.alone validators config
      | none => .error (.usage .uninitializedProvider) := by
    rw [agrees.create_eq, inForce]
    simp only [Provider.alone_eq]
  refine ⟨same, fun event fault => handle_of_failed, provided, ?_⟩
  rw [show answers = _ from same, Ledger.answers_eq_nil_iff, ← List.getLast?_eq_none_iff]
  simp only [handle, provided, Provider.alone_eq]
  cases (events.filterMap Event.accepted?).getLast? <;> simp

-- Without patterns a stored value may be changed. Once a pattern covers its name, the profile that
-- was made before still says so, and one that is made afterwards does not.
example :
    let organization : Option Organization :=
      some { name := .text "sample", storage := .entries [("tier", [.text "basic"])] }
    let patterns : ConfigSource := .entries [(Setting.readOnly.key, .text "tier")]
    let events := [.init none, .take, .create 0 .updateProfile [] organization,
      .reload patterns, .take, .create 1 .updateProfile [] organization,
      .operate 0 organization (.isReadOnly "tier"), .operate 1 organization (.isReadOnly "tier")]
    (answerAll handle (.new []) events).1.filterMap Event.Answer.denied? = [false, true] := by
  decide +kernel

end Office

end ProfilePolicy
