import ProfilePolicy.Provider

/-!
# Sessions

A session works on one organization: a configuration is put in force, a provider is taken, profiles
are created and acted upon, and the organization may be changed directly in between. There is at
most one profile at a time. A step that fails keeps what it changed before it failed.
-/

namespace ProfilePolicy

structure Session where
  factory : ProviderFactory
  provider : Option Provider := none
  organization : Option Organization
  profile : Option Profile := none
  /-- The log records of the latest step. -/
  journal : List Log.Record := []
  deriving Inhabited

namespace Session

abbrev Step := EStateM Fault Session

/-- A step that changes nothing but may fail. -/
def lifted {α : Type} (result : Except Fault α) : Step α := fun session =>
  match result with
  | .ok value => .ok value session
  | .error fault => .error fault session

/-- A session under a configuration, with a provider over it; without one, a session whose factory
awaits its first configuration. -/
def start (config : Option Config) (organization : Option Organization) :
    Except Fault Session :=
  match config with
  | none => .ok { factory := ProviderFactory.new [], organization }
  | some config => do
    let (factory, provider) ← ProviderFactory.provided [] config
    pure { factory, provider := some provider, organization }

def onFactory {α : Type} (step : ProviderFactory.Step α) : Step α := fun session =>
  match step session.factory with
  | .ok value factory => .ok value { session with factory }
  | .error fault factory => .error fault { session with factory }

def configure (config : Option Config) : Step Bool := do
  let record ← onFactory (ProviderFactory.init config)
  modify fun session => { session with journal := session.journal ++ [record] }
  let session ← get
  pure session.factory.initialized

def takeProvider : Step (List Context) := do
  let session ← get
  let provider ← lifted session.factory.create
  set { session with provider := some provider }
  pure (provider.registry.contexts.map (·.1))

/-- Creates the profile of a submission. The profile of an earlier one is dropped even when this
fails. -/
def create (context : Context) (submitted : Keyed Value) : Step AttributeValues := do
  modify fun session => { session with profile := none }
  let session ← get
  match session.provider with
  | none => throw (.mishap (.noOperation "NoneType" "create"))
  | some provider =>
    let profile ← lifted (provider.create context submitted session.organization)
    set { session with profile := some profile }
    pure profile.episode.values

/-- Acts on the profile, if there is one. It sees the organization as it is now. -/
def act {α : Type} (action : Policy → Action α) : Step (Option α) := fun session =>
  match session.profile with
  | none => .ok none session
  | some profile =>
    let profile := { profile with
      episode := { profile.episode with organization := session.organization, journal := [] } }
    let (result, profile) := profile.run action
    let session := { session with
      profile := some profile
      organization := profile.episode.organization
      journal := session.journal ++ profile.episode.journal }
    match result with
    | .ok value => .ok (some value) session
    | .error fault => .error fault session

/-- Changes the organization directly, if there is one. -/
def change (write : Organization → Except Fault Unit × Organization) : Step (Option Unit) := do
  let session ← get
  match session.organization with
  | none => pure none
  | some organization =>
    let (result, organization) := write organization
    set { session with organization := some organization }
    lifted result
    pure (some ())

/-- Runs a step with an empty journal. -/
def run {α : Type} (session : Session) (step : Step α) : Except Fault α × Session :=
  match step { session with journal := [] } with
  | .ok value session => (.ok value, session)
  | .error fault session => (.error fault, session)

end Session

end ProfilePolicy
