import ProfilePolicy.Api.Form
import ProfilePolicy.Api.Guide
import ProfilePolicy.Api.Route
import ProfilePolicy.Directory
import ProfilePolicy.Http.Target
import ProfilePolicy.Http.Tracing
import ProfilePolicy.Json.Encoding
import ProfilePolicy.Json.Reader
import ProfilePolicy.Log.Service
import ProfilePolicy.Persistence
import ProfilePolicy.Provider
import ProfilePolicy.Text.LetterCase
import ProfilePolicy.Uuid.Parameter

/-!
# The service

The requests that the service answers over a directory of organizations. Creating an organization
stores its initial attributes as given. Changing one goes through the profile engine, which decides
what the caller may change; only an administrator can rename it. A change is stored as a whole or
not at all. The store comes with the request, like everything that a request takes from its
surroundings.

A request is refused for one of three reasons: it leads nowhere or cannot be read at all, what it
says cannot be used, or what it asks for fails. What nobody foresaw leaves the service without a
correlation id in its headers.
-/

namespace ProfilePolicy.Api

open ProfilePolicy.Http

structure Request where
  method : String
  path : String
  body : String := ""
  headers : Headers := []
  deriving Repr, Inhabited

/-- A request for the target of a reference; the letter case of its method does not matter. -/
def Request.to (method reference body : String) (headers : Headers) : Except Mishap Request := do
  let reference ← Target.read reference
  match headers.problem?.or reference.hostMishap? with
  | some cause => throw cause
  | none => pure { method := Text.upperPlain method, path := reference.target, body, headers }

/-- What the surroundings provide for a request: the id of an organization that it may create, a
correlation id, the stamp of errors, the time, and the store of the directory. -/
structure Supply where
  id : Uuid
  correlationId : String
  stamp : Stamp
  time : String
  store : Store := .plain
  deriving Inhabited

/-- Why a request is refused. -/
inductive Refusal
  /-- It leads nowhere or cannot be read at all; an HTTP status says why, or a detail does. -/
  | status (code : Nat) (detail : Value)
  /-- What it says cannot be used. -/
  | problems (problems : List RequestProblem)
  /-- What it asks for fails. -/
  | fault (fault : Fault)
  deriving Inhabited

/-- The serving of a request; a refusal keeps what was stored before it. -/
abbrev Serving := EStateM Refusal Directory

def orFault {α : Type} : Except Fault α → Serving α
  | .ok value => pure value
  | .error fault => throw (.fault fault)

def orProblems {α : Type} : Reading α → Serving α
  | .ok value => pure value
  | .error problems => throw (.problems problems)

def noContent : Answer := { status := 204, body := none }

def readId (spelling : String) : Reading Uuid :=
  match Uuid.ofParameter spelling with
  | .ok id => .ok id
  | .error refused =>
    problem ["path", "org_id"] ("Input should be a valid UUID, " ++ refused.message)

inductive Content
  | nothing
  /-- Bytes that are not said to be JSON. -/
  | bytes
  | json (value : Value)
  deriving Inhabited

def unreadable : Refusal :=
  .status 400 (.text "There was an error parsing the body")

def readContent (request : Request) : Serving Content :=
  if request.body == "" then pure .nothing
  else if !request.headers.holdJson then pure .bytes
  else
    match Json.decoded? (Text.utf8Bytes (Text.charsOf request.body)) with
    | none => throw unreadable
    | some chars =>
      match Json.read chars with
      | .ok value => pure (.json value)
      | .error .beyondLimits => throw unreadable
      | .error (.fault position) =>
        orProblems (problem ["body", toString position] "JSON decode error")

/-- A form in a body; a body is required. -/
def readForm {α : Type} (form : Value → Reading α) : Content → Reading α
  | .nothing => problem ["body"] "Field required"
  | .bytes => notRecord
  | .json value => form value

/-- The session of a store in which committing an organization may fail. -/
def sessionFor (store : Store) (directory : Directory) (stored : StoredOrganization) :
    Persistence.Session StoredOrganization :=
  { failure := (store.refusal? directory stored).map fun cause => (.commit, .mishap cause) }

/-- Stores an organization as a whole, or fails. -/
def save (supply : Supply) (stored : StoredOrganization) : Serving Unit := do
  let directory ← get
  let exchange := Persistence.saveEntity (sessionFor supply.store directory stored) supply.stamp
    stored
  let outcome ← orFault exchange.result
  orFault (Outcome.raise outcome)
  set (directory.put stored)

def fetch (supply : Supply) (id : Uuid) : Serving StoredOrganization := do
  let directory ← get
  let session : Persistence.Session StoredOrganization := { row := directory.find? id }
  let exchange := Persistence.fetchOne session supply.stamp id .null
  match ← orFault exchange.result with
  | .ok stored => pure stored
  | .error error => throw (.fault (.application error))

/-- The attributes with which an organization is created; the name is none of them. -/
def initialRows (attributes : List (String × List String)) : List AttributeRow :=
  attributes.foldl
    (fun rows entry =>
      if entry.1 == nameKey then rows
      else AttributeRow.replace rows entry.1 (entry.2.map Value.text))
    []

/-- Creates an organization. It is stored before it is known whether its attributes can be shown. -/
def create (supply : Supply) (request : Request) : Serving Answer := do
  let content ← readContent request
  let creation ← orProblems (readForm Creation.ofValue content)
  let stored : StoredOrganization := {
    id := supply.id
    organization := {
      name := .text creation.name
      storage := .rows (initialRows creation.attributes) }
    displayName := creation.displayName
    createdAt := supply.time }
  save supply stored
  let shown ← orFault (orMishap (stored.loaded supply.store))
  pure { status := 201, body := some shown.toRecord }

def display (supply : Supply) (spelling : String) : Serving Answer := do
  let id ← orProblems (readId spelling)
  let stored ← fetch supply id
  pure { status := 200, body := some stored.toRecord }

/-- What a change submits to the profile engine: its attributes, and a name in any case. -/
def submission (change : Change) (stored : StoredOrganization) : Keyed Value :=
  let attributes := change.attributes.map fun entry => (entry.1, Value.ofTexts entry.2)
  let name := match change.name with
    | some name => .text name
    | none => stored.organization.name
  Keyed.put attributes nameKey (.list [name])

def renames (context : Context) (change : Change) (stored : StoredOrganization) : Option String :=
  match change.name with
  | some name =>
    if context.isAdmin && name != "" && !stored.organization.name.same (.text name) then some name
    else none
  | none => none

def update (factory : ProviderFactory) (supply : Supply) (context : Context)
    (spelling : String) (request : Request) : Serving Answer := do
  let content ← readContent request
  let provider ← orFault factory.create
  let (id, change) ← orProblems (both (readId spelling) (readForm Change.ofValue content))
  let stored ← fetch supply id
  let profile ← orFault
    (provider.create context (submission change stored) (some stored.organization))
  let (result, profile) := profile.run fun policy =>
    Profile.update policy true sortedTexts sortedTexts
  orFault result
  let organization := profile.episode.organization.getD stored.organization
  let organization := match renames context change stored with
    | some name => organization.setName (.text name)
    | none => organization
  let displayName := match change.displayName with
    | some name => some name
    | none => stored.displayName
  save supply { stored with organization, displayName }
  pure noContent

def delete (supply : Supply) (spelling : String) : Serving Answer := do
  let id ← orProblems (readId spelling)
  let stored ← fetch supply id
  modify fun directory => directory.without stored.id
  pure noContent

def health (factory : ProviderFactory) : Answer :=
  { status := 200
    body := some (.record [
      ("status", .text "healthy"),
      ("version", .text Log.serviceVersion),
      ("profile_registry", .bool factory.initialized)]) }

def serveAt (factory : ProviderFactory) (supply : Supply) (request : Request) (route : Route) :
    Serving Answer :=
  if !route.methods.contains request.method then throw (.status 405 .null)
  else
    match route with
    | .health => pure (health factory)
    | .guide => pure { status := 200, body := some Guide.toRecord }
    | .page => pure { status := 200, body := none }
    | .collection => create supply request
    | .management id => update factory supply .updateMetadata id request
    | .organization id =>
      if request.method == "PUT" then update factory supply .updateProfile id request
      else if request.method == "DELETE" then delete supply id
      else display supply id

def serve (factory : ProviderFactory) (supply : Supply) (request : Request) : Serving Answer :=
  match Route.ofPath request.path with
  | some route => serveAt factory supply request route
  | none =>
    if Route.isRedirected request.path then pure { status := 307, body := none }
    else throw (.status 404 .null)

/-- The answer to a refused request; a mishap is not answered here. -/
def answerRefusal (headers : Headers) (stamp : Stamp) : Refusal → Except Fault Answer
  | .status code detail => orMishap (Answer.ofStatus headers stamp (.int code) detail)
  | .problems problems => .ok (Answer.ofProblems headers stamp problems)
  | .fault (.mishap cause) => .error (.mishap cause)
  | .fault fault => orMishap (Answer.ofFault headers stamp fault)

/-- An answer that can leave the service, unless half of a pair stands alone in its body. -/
def sendable (answer : Answer) : Except Fault Answer :=
  match answer.body with
  | some body =>
    if body.anyText Text.hasHalf then .error (.mishap .halfCharacter) else .ok answer
  | none => .ok answer

/-- The response to a request that met a fault which no answer foresees. -/
def unforeseen (headers : Headers) (stamp : Stamp) (fault : Fault) : Response :=
  let answer := match Answer.ofFault headers stamp fault with
    | .ok answer => answer
    | .error cause => Answer.ofUnexpected headers stamp cause.typeName cause.message
  { status := answer.status, correlation := none, body := answer.body }

/-- The response to a request, and the directory afterwards. -/
def respond (factory : ProviderFactory) (supply : Supply) (request : Request)
    (directory : Directory) : Response × Directory :=
  let headers := request.headers
  let (answered, directory) := match serve factory supply request directory with
    | .ok answer directory => (Except.ok answer, directory)
    | .error refusal directory => (answerRefusal headers supply.stamp refusal, directory)
  let binding := bindingOf headers supply.correlationId request.method request.path
  let response := match (trace binding false (answered.bind sendable)).result with
    | .ok response => response
    | .error fault => unforeseen headers supply.stamp fault
  (if request.method == "HEAD" then { response with body := none } else response, directory)

end ProfilePolicy.Api
