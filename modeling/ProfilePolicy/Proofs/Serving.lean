import ProfilePolicy.Api.Service
import ProfilePolicy.Proofs.Directory
import ProfilePolicy.Proofs.MissingRules
import ProfilePolicy.Proofs.Reading
import ProfilePolicy.Proofs.Visiting

/-!
# What a request can do

A request stores an organization that it creates, puts a changed one in the place of another, drops
one, or leaves the directory as it is. Everything that refuses a request comes before the directory
is written, with one exception: an organization without any value is stored and then cannot be
shown. What refuses a request is answered with the status of an error.
-/

namespace ProfilePolicy

def Order.sorted : Order :=
  ⟨sortedTexts, fun names => List.mergeSort_perm names _⟩

/-- Every provider that a factory hands out applies the built-in policy of some configuration. -/
def ProviderFactory.IsBuiltin (factory : ProviderFactory) : Prop :=
  ∀ provider, factory.create = .ok provider → ∃ config, provider.IsBuiltin config

/-! ## Rejections -/

namespace Profile

open ProfilePolicy.Action

/-- What the built-in policy rejects is a plain bad request. -/
theorem IsSound.status_of_rejected {profile : Profile} {config : Config} {context : Context}
    {organization : Organization} (sound : profile.IsSound config context)
    (fresh : profile.episode.validated = false)
    (bound : profile.episode.organization = some organization) {remove : Bool}
    (validation removal : Order) {report : Report}
    (failed : (profile.run fun policy =>
      Profile.update policy remove validation.visit removal.visit).1 = .error (.rejected report)) :
    report.status = 400 := by
  cases valid : (profile.run fun policy => Profile.validate policy validation.visit).1 with
  | error fault =>
    rw [run_update_of_invalid fresh valid] at failed
    cases failed
    exact (valid ▸ sound.concludes validation).status_eq
  | ok done =>
    -- what fails after an accepted validation is reported as something else
    obtain ⟨start, -, entered⟩ := update_start remove sound.builtin sound.holds bound
      (sound.accepts_of_validate validation valid) validation removal.visit
    rw [run, entered] at failed
    cases result : applyDifference profile.policy remove removal.visit start with
    | ok done after =>
      rw [reportingFailures_ok result] at failed
      cases failed
    | error fault after =>
      obtain ⟨told, -, reported⟩ := reportingFailures_error result
      rw [reported] at failed
      exact absurd (Except.error.inj failed) (reported_ne_rejected fault report)

end Profile

theorem Provider.create_ne_rejected {provider : Provider} {context : Context}
    {submitted : Keyed Value} {organization : Option Organization} {report : Report} :
    provider.create context submitted organization ≠ .error (.rejected report) := by
  intro failed
  rcases bind_eq_error failed with missing | ⟨policy, -, failed⟩
  · rw [Provider.policy] at missing
    split at missing <;> cases missing
  · rcases bind_eq_error failed with failed | ⟨episode, -, failed⟩
    · rw [orMishap.eq_def] at failed
      split at failed <;> cases failed
    · cases failed

/-! ## Statuses -/

theorem ErrorCode.le_httpStatus (code : ErrorCode) : 400 ≤ code.httpStatus := by
  cases code <;> decide

namespace Api

open ProfilePolicy.Http

/-- A refusal that is answered with the status of an error: every one but the rejection of a
submission, whose report has a status of its own. -/
def Refusal.IsError (refusal : Refusal) : Prop :=
  ∀ report, refusal = .fault (.rejected report) → 400 ≤ report.status

theorem le_status_ofRaised {headers : Headers} {error : AppError} {answer : Answer}
    (h : Answer.ofRaised headers error = .ok answer) : 400 ≤ answer.status := by
  obtain ⟨raised, -, rfl⟩ := map_eq_ok.mp h
  exact raised.code.le_httpStatus

theorem le_status_ofStatus {headers : Headers} {stamp : Stamp} {status detail : Value}
    {answer : Answer} (h : Answer.ofStatus headers stamp status detail = .ok answer) :
    400 ≤ answer.status := by
  obtain ⟨code, -, h⟩ := bind_eq_ok.mp h
  cases h
  exact code.le_httpStatus

theorem le_status_ofFault {headers : Headers} {stamp : Stamp} {fault : Fault} {answer : Answer}
    (isError : (Refusal.fault fault).IsError)
    (h : Answer.ofFault headers stamp fault = .ok answer) : 400 ≤ answer.status := by
  unfold Answer.ofFault at h
  split at h
  · cases h
    exact isError _ rfl
  · cases h
    exact ErrorCode.unexpectedError.le_httpStatus
  · split at h
    · exact le_status_ofRaised h
    · cases h
      exact ErrorCode.unexpectedError.le_httpStatus

theorem status_unforeseen (headers : Headers) (stamp : Stamp) (cause : Mishap) :
    (unforeseen headers stamp (.mishap cause)).status = 500 := by
  have internal : ErrorCode.unexpectedError.httpStatus = 500 := by decide
  exact internal

/-- What a refusal is answered with has the status of an error, unless only a mishap is left. -/
theorem le_status_answerRefusal (headers : Headers) (stamp : Stamp) {refusal : Refusal}
    (isError : refusal.IsError) :
    (∃ answer, answerRefusal headers stamp refusal = .ok answer ∧ 400 ≤ answer.status) ∨
      ∃ cause, answerRefusal headers stamp refusal = .error (.mishap cause) := by
  unfold answerRefusal
  split
  · rename_i code detail
    cases h : Answer.ofStatus headers stamp (.int code) detail with
    | ok answer => exact Or.inl ⟨answer, rfl, le_status_ofStatus h⟩
    | error cause => exact Or.inr ⟨cause, rfl⟩
  · exact Or.inl ⟨_, rfl, ErrorCode.validationGeneric.le_httpStatus⟩
  · exact Or.inr ⟨_, rfl⟩
  · rename_i fault _
    cases h : Answer.ofFault headers stamp fault with
    | ok answer => exact Or.inl ⟨answer, rfl, le_status_ofFault isError h⟩
    | error cause => exact Or.inr ⟨cause, rfl⟩

/-! ## Steps -/

namespace Serving

variable {α β : Type}

/-- Every outcome of a step has a property. -/
def Leads (step : Serving α) (before : Directory) (done : α → Directory → Prop)
    (refused : Refusal → Directory → Prop) : Prop :=
  match step before with
  | .ok value after => done value after
  | .error refusal after => refused refusal after

variable {step : Serving α} {before : Directory} {done done' : α → Directory → Prop}
variable {refused refused' : Refusal → Directory → Prop}

theorem Leads.mono (h : Leads step before done refused)
    (onDone : ∀ value after, done value after → done' value after)
    (onRefused : ∀ refusal after, refused refusal after → refused' refusal after) :
    Leads step before done' refused' := by
  unfold Leads at h ⊢
  cases result : step before with
  | ok value after =>
    rw [result] at h
    exact onDone value after h
  | error refusal after =>
    rw [result] at h
    exact onRefused refusal after h

theorem Leads.weaken (h : Leads step before done refused)
    (onRefused : ∀ refusal after, refused refusal after → refused' refusal after) :
    Leads step before done refused' :=
  h.mono (fun _ _ => id) onRefused

/-- A step that succeeds is followed by another one, and a step that refuses by nothing. -/
theorem Leads.bind {next : α → Serving β} {finished : β → Directory → Prop}
    (h : Leads step before done refused)
    (onDone : ∀ value after, done value after → Leads (next value) after finished refused) :
    Leads (step >>= next) before finished refused := by
  unfold Leads at h ⊢
  simp only [Bind.bind, EStateM.bind]
  cases result : step before with
  | ok value after =>
    rw [result] at h
    exact onDone value after h
  | error refusal after =>
    rw [result] at h
    exact h

end Serving

open Serving

/-! ## Responses -/

def leavingStatus (request : Request) (supply : Supply) : Except Fault Answer → Nat
  | .ok answer => answer.status
  | .error fault => (unforeseen request.headers supply.stamp fault).status

def sentStatus (request : Request) (supply : Supply) (answer : Answer) : Nat :=
  leavingStatus request supply (sendable answer)

def refusedStatus (request : Request) (supply : Supply) (refusal : Refusal) : Nat :=
  leavingStatus request supply ((answerRefusal request.headers supply.stamp refusal).bind sendable)

/-- A property of the status that leaves the service in the end and of the directory then. -/
def Serving.Tells (step : Serving Answer) (request : Request) (supply : Supply)
    (before : Directory) (told : Nat → Directory → Prop) : Prop :=
  Leads step before (fun answer after => told (sentStatus request supply answer) after)
    (fun refusal after => told (refusedStatus request supply refusal) after)

/-- What serving tells is what a response tells. -/
theorem respond_of_tells {factory : ProviderFactory} {supply : Supply} {request : Request}
    {before : Directory} {told : Nat → Directory → Prop}
    (h : (serve factory supply request).Tells request supply before told) :
    told (respond factory supply request before).1.status
      (respond factory supply request before).2 := by
  unfold Tells Leads at h
  cases served : serve factory supply request before with
  | ok answer after =>
    simp only [served, sentStatus] at h
    simp only [respond, served, Except.bind]
    revert h
    cases sendable answer <;> split <;> exact id
  | error refusal after =>
    simp only [served, refusedStatus] at h
    simp only [respond, served]
    revert h
    cases (answerRefusal request.headers supply.stamp refusal).bind sendable <;> split <;> exact id

/-- An answer leaves with its status, or as a failure nobody foresaw. -/
theorem sentStatus_eq (request : Request) (supply : Supply) (answer : Answer) :
    sentStatus request supply answer =
      if (answer.body.map (·.anyText Text.hasHalf)).getD false then 500 else answer.status := by
  unfold sentStatus sendable
  cases answer.body with
  | none => rfl
  | some body =>
    simp only [Option.map_some, Option.getD_some]
    split
    · exact status_unforeseen _ _ _
    · rfl

theorem refusedStatus_of_mishap (request : Request) (supply : Supply) (cause : Mishap) :
    refusedStatus request supply (.fault (.mishap cause)) = 500 :=
  status_unforeseen _ _ cause

/-- What is refused is told as an error. -/
theorem le_refusedStatus (request : Request) (supply : Supply) {refusal : Refusal}
    (isError : refusal.IsError) : 400 ≤ refusedStatus request supply refusal := by
  unfold refusedStatus
  rcases le_status_answerRefusal request.headers supply.stamp isError with
    ⟨answer, given, isFailure⟩ | ⟨cause, given⟩
  · have sent : 400 ≤ sentStatus request supply answer := by
      rw [sentStatus_eq]
      split
      · decide
      · exact isFailure
    rw [given]
    exact sent
  · have failure : 400 ≤ refusedStatus request supply (.fault (.mishap cause)) := by
      rw [refusedStatus_of_mishap]
      decide
    rw [given]
    exact failure

/-! ## Shared steps -/

/-- A refusal with the status of an error that leaves the directory as it was. -/
def Refusal.Spares (before : Directory) (refusal : Refusal) (after : Directory) : Prop :=
  after = before ∧ refusal.IsError

/-- A value that was known before, found without a change of the directory. -/
def Serving.Finds {α : Type} (known : α → Prop) (before : Directory) (value : α)
    (after : Directory) : Prop :=
  after = before ∧ known value

section Steps

variable {α : Type} {before : Directory}

theorem leads_orProblems (reading : Reading α) :
    Leads (orProblems reading) before (Finds (reading = .ok ·) before) (Refusal.Spares before) := by
  cases reading with
  | ok value => exact ⟨rfl, rfl⟩
  | error problems => exact ⟨rfl, nofun⟩

theorem leads_orFault {result : Except Fault α}
    (isError : ∀ fault, result = .error fault → (Refusal.fault fault).IsError) :
    Leads (orFault result) before (Finds (result = .ok ·) before) (Refusal.Spares before) := by
  cases result with
  | ok value => exact ⟨rfl, rfl⟩
  | error fault => exact ⟨rfl, isError fault rfl⟩

theorem isError_unreadable : unreadable.IsError := by
  intro report same
  cases same

/-- The body of a request is read in the same way whatever is stored. -/
theorem readContent_cases (request : Request) :
    (∃ content, readContent request = pure content) ∨
      ∃ refusal : Refusal, refusal.IsError ∧ readContent request = throw refusal := by
  unfold readContent
  split
  · exact Or.inl ⟨_, rfl⟩
  · split
    · exact Or.inl ⟨_, rfl⟩
    · split
      · exact Or.inr ⟨_, isError_unreadable, rfl⟩
      · split
        · exact Or.inl ⟨_, rfl⟩
        · exact Or.inr ⟨_, isError_unreadable, rfl⟩
        · exact Or.inr ⟨.problems _, nofun, rfl⟩

theorem leads_readContent (request : Request) :
    Leads (readContent request) before (Finds (readContent request = pure ·) before)
      (Refusal.Spares before) := by
  rcases readContent_cases request with ⟨content, read⟩ | ⟨refusal, isError, read⟩
  · rw [read]
    exact ⟨rfl, rfl⟩
  · rw [read]
    exact ⟨rfl, isError⟩

theorem fetch_of_found (supply : Supply) {id : Uuid} {stored : StoredOrganization}
    (found : before.find? id = some stored) : fetch supply id before = .ok stored before := by
  change (orFault (Persistence.fetchOne { row := before.find? id } supply.stamp id .null).result >>=
    _) before = _
  rw [found]
  rfl

theorem fetch_of_missing (supply : Supply) {id : Uuid} (missing : before.find? id = none) :
    fetch supply id before = .error (.fault (.application (AppError.notFound supply.stamp
      (.text Persistence.entityName) (.text id.text) (.text "database.fetch_one")))) before := by
  change (orFault (Persistence.fetchOne { row := before.find? id } supply.stamp id .null).result >>=
    _) before = _
  rw [missing]
  rfl

theorem leads_fetch (supply : Supply) (id : Uuid) :
    Leads (fetch supply id) before (Finds (before.find? id = some ·) before)
      (Refusal.Spares before) := by
  unfold Leads
  cases known : before.find? id with
  | none =>
    rw [fetch_of_missing supply known]
    exact ⟨rfl, nofun⟩
  | some stored =>
    rw [fetch_of_found supply known]
    exact ⟨rfl, rfl⟩

/-- Storing asks the directory first, and puts what it does not refuse. -/
theorem save_eq (supply : Supply) (stored : StoredOrganization) (before : Directory) :
    save supply stored before =
      (orFault (Persistence.saveEntity (sessionFor supply.store before stored) supply.stamp
        stored).result >>=
        fun outcome => orFault outcome.raise >>= fun _ => set (before.put stored)) before := rfl

theorem save_of_granted (supply : Supply) {stored : StoredOrganization}
    (granted : supply.store.refusal? before stored = none) :
    save supply stored before = .ok () (before.put stored) := by
  rw [save_eq, sessionFor, granted]
  rfl

/-- A commit that fails is told as an application error, or goes on as it is. -/
theorem saveEntity_of_failure {session : Persistence.Session α} {cause : Mishap}
    (failure : session.failure = some (.commit, .mishap cause)) (stamp : Stamp) (entity : α) :
    (∃ error, (Persistence.saveEntity session stamp entity).result = .ok (.error error)) ∨
      (Persistence.saveEntity session stamp entity).result = .error (.mishap cause) := by
  have calls : Persistence.makeCalls session [.add, .commit] =
      ([.add, .commit], some (.mishap cause)) := by
    simp only [Persistence.makeCalls, failure]
    rfl
  rw [Persistence.saveEntity, calls]
  dsimp only
  cases Persistence.databaseFailure? (.mishap cause) with
  | some error => exact Or.inl ⟨_, rfl⟩
  | none => exact Or.inr rfl

theorem save_of_refused (supply : Supply) {stored : StoredOrganization} {cause : Mishap}
    (refused : supply.store.refusal? before stored = some cause) :
    ∃ refusal : Refusal, refusal.IsError ∧ save supply stored before = .error refusal before := by
  have failure : (sessionFor supply.store before stored).failure = some (.commit, .mishap cause) :=
    congrArg (Option.map fun cause => (Persistence.Call.commit, Fault.mishap cause)) refused
  rw [save_eq]
  rcases saveEntity_of_failure failure supply.stamp stored with ⟨error, told⟩ | told
  · rw [told]
    exact ⟨.fault (.application error), nofun, rfl⟩
  · rw [told]
    exact ⟨.fault (.mishap cause), nofun, rfl⟩

theorem leads_save (supply : Supply) (stored : StoredOrganization) :
    Leads (save supply stored) before
      (fun _ after => supply.store.refusal? before stored = none ∧ after = before.put stored)
      (Refusal.Spares before) := by
  unfold Leads
  cases known : supply.store.refusal? before stored with
  | none =>
    rw [save_of_granted supply known]
    exact ⟨rfl, rfl⟩
  | some cause =>
    obtain ⟨refusal, isError, refused⟩ := save_of_refused supply known
    rw [refused]
    exact ⟨rfl, isError⟩

end Steps

/-! ## What is asked for -/

/-- The body of a request holds JSON that a form reads. -/
def Request.Carries {α : Type} (request : Request) (form : Value → Reading α) (asked : α) : Prop :=
  ∃ value, readContent request = pure (.json value) ∧ form value = .ok asked

def Request.carried? {α : Type} (request : Request) (form : Value → Reading α) : Option α :=
  match readContent request {} with
  | .ok (.json value) _ => (form value).toOption
  | _ => none

theorem toOption_eq_some_iff {ε α : Type} {result : Except ε α} {value : α} :
    result.toOption = some value ↔ result = .ok value := by
  cases result <;> simp [Except.toOption]

theorem Request.carries_iff {α : Type} {request : Request} {form : Value → Reading α} {asked : α} :
    request.Carries form asked ↔ request.carried? form = some asked := by
  constructor
  · rintro ⟨value, read, formed⟩
    have here : readContent request {} = .ok (.json value) {} := congrFun read {}
    rw [carried?, here]
    exact toOption_eq_some_iff.mpr formed
  · intro asked
    unfold carried? at asked
    rcases readContent_cases request with ⟨content, read⟩ | ⟨refusal, -, read⟩
    · have here : readContent request {} = .ok content {} := congrFun read {}
      rw [here] at asked
      cases content with
      | json value => exact ⟨value, read, toOption_eq_some_iff.mp asked⟩
      | nothing => cases asked
      | bytes => cases asked
    · have here : readContent request {} = .error refusal {} := congrFun read {}
      rw [here] at asked
      cases asked

def Route.changing : Context → String → Route
  | .updateProfile, id => .organization id
  | .updateMetadata, id => .management id

structure Request.Creates (request : Request) (creation : Creation) : Prop where
  method : request.method = "POST"
  place : Route.ofPath request.path = some .collection
  body : request.Carries Creation.ofValue creation

structure Request.Changes (request : Request) (context : Context) (id : Uuid) (change : Change) :
    Prop where
  method : request.method = "PUT"
  place : ∃ spelling, Route.ofPath request.path = some (Route.changing context spelling) ∧
    readId spelling = .ok id
  body : request.Carries Change.ofValue change

structure Request.Deletes (request : Request) (id : Uuid) : Prop where
  method : request.method = "DELETE"
  place : ∃ spelling, Route.ofPath request.path = some (.organization spelling) ∧
    readId spelling = .ok id

def Creation.stored (creation : Creation) (supply : Supply) : StoredOrganization :=
  { id := supply.id
    organization := {
      name := .text creation.name
      storage := .rows (initialRows creation.attributes) }
    displayName := creation.displayName
    createdAt := supply.time }

/-- What a change stores once the engine has updated the organization. -/
def Change.applied (change : Change) (context : Context) (stored : StoredOrganization)
    (organization : Organization) : StoredOrganization :=
  { stored with
    organization := match renames context change stored with
      | some name => organization.setName (.text name)
      | none => organization
    displayName := match change.displayName with
      | some name => some name
      | none => stored.displayName }

/-- A change makes a stored organization into another one: what it submits is accepted, the engine
updates the organization, and the name and the display name follow. -/
def Change.Makes (change : Change) (provider : Provider) (context : Context)
    (stored after : StoredOrganization) : Prop :=
  ∃ profile left,
    provider.create context (submission change stored) (some stored.organization) = .ok profile ∧
    (profile.run fun policy => Profile.update policy true sortedTexts sortedTexts) =
      (.ok (), left) ∧
    after = change.applied context stored (left.episode.organization.getD stored.organization)

/-! ## Handlers -/

section Handlers

variable {factory : ProviderFactory} {supply : Supply} {request : Request} {before : Directory}

theorem readForm_eq_ok {α : Type} {form : Value → Reading α} {content : Content} {read : α}
    (h : readForm form content = .ok read) :
    ∃ value, content = .json value ∧ form value = .ok read := by
  cases content with
  | json value => exact ⟨value, rfl, h⟩
  | nothing => cases h
  | bytes => cases h

structure Creation.Stores (creation : Creation) (supply : Supply) (request : Request)
    (before after : Directory) : Prop where
  body : request.Carries Creation.ofValue creation
  granted : supply.store.refusal? before (creation.stored supply) = none
  stored : after = before.put (creation.stored supply)

theorem leads_create (supply : Supply) (request : Request) :
    Leads (create supply request) before
      (fun answer after => ∃ creation : Creation, creation.Stores supply request before after ∧
        (creation.stored supply).hasRows = true ∧
        answer = { status := 201, body := some (creation.stored supply).toRecord })
      (fun refusal after => refusal.Spares before after ∨
        ∃ creation : Creation, creation.Stores supply request before after ∧
          (creation.stored supply).hasRows = false ∧
          ∃ cause, refusal = .fault (.mishap cause)) := by
  unfold create
  refine ((leads_readContent request).weaken fun _ _ => Or.inl).bind ?_
  rintro content _ ⟨rfl, read⟩
  refine ((leads_orProblems _).weaken fun _ _ => Or.inl).bind ?_
  rintro creation _ ⟨rfl, form⟩
  obtain ⟨value, rfl, form⟩ := readForm_eq_ok form
  refine ((leads_save supply (creation.stored supply)).weaken fun _ _ => Or.inl).bind ?_
  rintro _ _ ⟨granted, rfl⟩
  have stores : creation.Stores supply request _ _ := ⟨⟨value, read, form⟩, granted, rfl⟩
  change Leads (orFault (orMishap ((creation.stored supply).loaded supply.store)) >>= _) _ _ _
  cases rows : (creation.stored supply).hasRows with
  | true =>
    rw [StoredOrganization.loaded_of_hasRows rows]
    exact ⟨creation, stores, rows, rfl⟩
  | false =>
    obtain ⟨cause, failed⟩ := StoredOrganization.loaded_of_bare supply.store rows
    rw [failed]
    exact Or.inr ⟨creation, stores, rows, cause, rfl⟩

theorem isError_of_create (factory : ProviderFactory) (fault : Fault)
    (failed : factory.create = .error fault) : (Refusal.fault fault).IsError := by
  intro report same
  cases same
  rw [ProviderFactory.create] at failed
  split at failed <;> cases failed

structure Change.Stores (change : Change) (factory : ProviderFactory) (supply : Supply)
    (context : Context) (request : Request) (before after : Directory)
    (stored left : StoredOrganization) : Prop where
  body : request.Carries Change.ofValue change
  made : ∃ provider, factory.create = .ok provider ∧ change.Makes provider context stored left
  granted : supply.store.refusal? before left = none
  stored : after = before.put left

theorem namesOnce_of_readContent {value : Value} (read : readContent request = pure (.json value)) :
    value.NamesOnce := by
  unfold readContent at read
  -- two ways of reading are told apart by what they give on some directory
  split at read
  · cases congrFun read default
  · split at read
    · cases congrFun read default
    · split at read
      · cases congrFun read default
      · split at read
        · rename_i known
          cases congrFun read default
          exact Json.namesOnce_read known
        · cases congrFun read default
        · cases congrFun read default

/-- A change that the body of a request holds submits each name once. -/
theorem Request.Carries.distinct_submission {change : Change}
    (carries : request.Carries Change.ofValue change) (stored : StoredOrganization) :
    Keyed.Distinct (submission change stored) := by
  obtain ⟨value, read, form⟩ := carries
  have nodup := Change.nodup_of_ofValue (namesOnce_of_readContent read) form
  apply Keyed.Distinct.put
  unfold Keyed.Distinct Keyed.names
  rw [List.map_map]
  exact nodup

theorem Request.Carries.isFresh {change : Change} (carries : request.Carries Change.ofValue change)
    {provider : Provider} {config : Config} (builtin : provider.IsBuiltin config)
    {context : Context} {stored : StoredOrganization} {profile : Profile}
    (created : provider.create context (submission change stored) (some stored.organization) =
      .ok profile) :
    profile.IsFresh config context ⟨_, carries.distinct_submission stored⟩
      (some stored.organization) :=
  builtin.isFresh_create created

theorem leads_update (isBuiltin : factory.IsBuiltin) (supply : Supply) (context : Context)
    (spelling : String) (request : Request) :
    Leads (update factory supply context spelling request) before
      (fun answer after => answer = noContent ∧ ∃ id stored left, ∃ change : Change,
        readId spelling = .ok id ∧ before.find? id = some stored ∧
        change.Stores factory supply context request before after stored left)
      (Refusal.Spares before) := by
  unfold update
  refine (leads_readContent request).bind ?_
  rintro content _ ⟨rfl, read⟩
  refine (leads_orFault (isError_of_create factory)).bind ?_
  rintro provider _ ⟨rfl, provided⟩
  refine (leads_orProblems _).bind ?_
  rintro ⟨id, change⟩ _ ⟨rfl, form⟩
  obtain ⟨isId, form⟩ := both_eq_ok.mp form
  obtain ⟨value, rfl, form⟩ := readForm_eq_ok form
  refine (leads_fetch supply id).bind ?_
  rintro stored _ ⟨rfl, found⟩
  refine (leads_orFault fun fault failed report same => ?_).bind ?_
  · cases same
    exact absurd failed Provider.create_ne_rejected
  rintro profile _ ⟨rfl, created⟩
  have carries : request.Carries Change.ofValue change := ⟨value, read, form⟩
  cases ran : profile.run fun policy => Profile.update policy true sortedTexts sortedTexts with
  | mk result left =>
  refine (leads_orFault fun fault failed report same => ?_).bind ?_
  · cases same
    obtain ⟨config, builtin⟩ := isBuiltin provider provided
    have fresh := carries.isFresh builtin created
    have status := fresh.isSound.status_of_rejected fresh.validated_eq fresh.organization_eq
      .sorted .sorted ((congrArg Prod.fst ran).trans failed)
    omega
  rintro _ _ ⟨rfl, rfl⟩
  refine (leads_save supply (change.applied context stored
    (left.episode.organization.getD stored.organization))).bind ?_
  rintro _ _ ⟨granted, rfl⟩
  refine ⟨rfl, id, stored, _, change, isId, found, carries, ⟨provider, provided, ?_⟩, granted, rfl⟩
  exact ⟨profile, left, created, ran, rfl⟩

theorem leads_display (supply : Supply) (spelling : String) :
    Leads (display supply spelling) before
      (fun answer after => answer.status = 200 ∧ after = before) (Refusal.Spares before) := by
  unfold display
  refine (leads_orProblems _).bind ?_
  rintro id _ ⟨rfl, isId⟩
  refine (leads_fetch supply id).bind ?_
  rintro stored _ ⟨rfl, found⟩
  exact ⟨rfl, rfl⟩

theorem leads_delete (supply : Supply) (spelling : String) :
    Leads (delete supply spelling) before
      (fun answer after => answer = noContent ∧ ∃ id stored, readId spelling = .ok id ∧
        before.find? id = some stored ∧ after = before.without stored.id)
      (Refusal.Spares before) := by
  unfold delete
  refine (leads_orProblems _).bind ?_
  rintro id _ ⟨rfl, isId⟩
  refine (leads_fetch supply id).bind ?_
  rintro stored _ ⟨rfl, found⟩
  exact ⟨rfl, id, stored, isId, found, rfl⟩

end Handlers

/-! ## Requests -/

/-- What a request does: the status of its response and the directory afterwards. -/
inductive Effect (factory : ProviderFactory) (supply : Supply) (request : Request)
    (before : Directory) : Nat → Directory → Prop
  /-- It looks, is sent elsewhere or is refused. -/
  | kept {status : Nat} (plain : status = 200 ∨ status = 307 ∨ 400 ≤ status) :
      Effect factory supply request before status before
  /-- It stores a new organization, which can be shown if it has a value. -/
  | created {creation : Creation} (asked : request.Creates creation)
      (granted : supply.store.refusal? before (creation.stored supply) = none) :
      Effect factory supply request before
        (if (creation.stored supply).hasRows then 201 else 500)
        (before.put (creation.stored supply))
  /-- It stores a changed organization. -/
  | changed {context : Context} {id : Uuid} {change : Change} {stored left : StoredOrganization}
      {provider : Provider} (asked : request.Changes context id change)
      (found : before.find? id = some stored) (provided : factory.create = .ok provider)
      (made : change.Makes provider context stored left)
      (granted : supply.store.refusal? before left = none) :
      Effect factory supply request before 204 (before.put left)
  /-- It drops an organization. -/
  | deleted {id : Uuid} {stored : StoredOrganization} (asked : request.Deletes id)
      (found : before.find? id = some stored) :
      Effect factory supply request before 204 (before.without stored.id)

section Requests

variable {factory : ProviderFactory} {supply : Supply} {request : Request} {before : Directory}

theorem Effect.of_spares {refusal : Refusal} {after : Directory}
    (spares : refusal.Spares before after) :
    Effect factory supply request before (refusedStatus request supply refusal) after := by
  obtain ⟨rfl, isError⟩ := spares
  exact .kept (Or.inr (Or.inr (le_refusedStatus request supply isError)))

/-- What only looks is answered well, or it holds what cannot leave the service. -/
theorem Effect.of_looked {answer : Answer} (plain : answer.status = 200 ∨ answer.status = 307) :
    Effect factory supply request before (sentStatus request supply answer) before := by
  apply kept
  rw [sentStatus_eq]
  split
  · exact Or.inr (Or.inr (by decide))
  · exact plain.imp id Or.inl

/-- A creation that was stored is shown, unless it has no value. -/
theorem tells_create (timed : Text.hasHalf supply.time = false)
    (method : request.method = "POST") (place : Route.ofPath request.path = some .collection) :
    (create supply request).Tells request supply before
      (Effect factory supply request before) := by
  refine (leads_create supply request).mono ?_ ?_
  · rintro answer after ⟨creation, stores, some, rfl⟩
    have sent := StoredOrganization.anyText_toRecord (supply.store.admits stores.granted) timed
    have effect : Effect factory supply request before _ _ :=
      .created ⟨method, place, stores.body⟩ stores.granted
    rw [some, ← stores.stored] at effect
    rw [sentStatus_eq, Option.map_some, Option.getD_some, sent]
    exact effect
  · rintro refusal after (spares | ⟨creation, stores, none, cause, rfl⟩)
    · exact .of_spares spares
    · have effect : Effect factory supply request before _ _ :=
        .created ⟨method, place, stores.body⟩ stores.granted
      rw [none, ← stores.stored] at effect
      rw [refusedStatus_of_mishap]
      exact effect

/-- A change that was stored is answered without a body. -/
theorem tells_update (isBuiltin : factory.IsBuiltin) (method : request.method = "PUT")
    (context : Context) {spelling : String}
    (place : Route.ofPath request.path = some (Route.changing context spelling)) :
    (update factory supply context spelling request).Tells request supply before
      (Effect factory supply request before) := by
  refine (leads_update isBuiltin supply context spelling request).mono ?_ fun _ _ => .of_spares
  rintro answer after ⟨rfl, id, stored, left, change, isId, found, stores⟩
  obtain ⟨provider, provided, made⟩ := stores.made
  rw [stores.stored]
  exact .changed ⟨method, ⟨spelling, place, isId⟩, stores.body⟩ found provided made stores.granted

theorem tells_serveAt (isBuiltin : factory.IsBuiltin) (timed : Text.hasHalf supply.time = false)
    {route : Route} (place : Route.ofPath request.path = some route) :
    (serveAt factory supply request route).Tells request supply before
      (Effect factory supply request before) := by
  unfold serveAt
  split
  · exact .of_spares ⟨rfl, nofun⟩
  · rename_i allowed
    have method : request.method ∈ route.methods := by simpa using allowed
    cases route with
    | health => exact .of_looked (Or.inl rfl)
    | guide => exact .of_looked (Or.inl rfl)
    | page => exact .of_looked (Or.inl rfl)
    | collection => exact tells_create timed (List.mem_singleton.mp method) place
    | management spelling =>
      exact tells_update isBuiltin (List.mem_singleton.mp method) .updateMetadata place
    | organization spelling =>
      dsimp only
      split
      · rename_i put
        exact tells_update isBuiltin (beq_iff_eq.mp put) .updateProfile place
      · split
        · rename_i drops
          refine (leads_delete supply spelling).mono ?_ fun _ _ => .of_spares
          rintro answer after ⟨rfl, id, stored, isId, found, rfl⟩
          exact .deleted ⟨beq_iff_eq.mp drops, spelling, place, isId⟩ found
        · refine (leads_display supply spelling).mono ?_ fun _ _ => .of_spares
          rintro answer after ⟨shown, rfl⟩
          exact .of_looked (Or.inl shown)

/-- What a request does is known from the request and what is stored. -/
theorem respond_effect (isBuiltin : factory.IsBuiltin) (timed : Text.hasHalf supply.time = false)
    (request : Request) (before : Directory) :
    Effect factory supply request before (respond factory supply request before).1.status
      (respond factory supply request before).2 := by
  apply respond_of_tells
  unfold serve
  split
  · rename_i route place
    exact tells_serveAt isBuiltin timed place
  · split
    · exact .of_looked (Or.inr rfl)
    · exact .of_spares ⟨rfl, nofun⟩

theorem tells_create_of_granted (timed : Text.hasHalf supply.time = false) {creation : Creation}
    (carries : request.Carries Creation.ofValue creation)
    (granted : supply.store.refusal? before (creation.stored supply) = none) :
    (create supply request).Tells request supply before fun status after =>
      after = before.put (creation.stored supply) ∧
        status = if (creation.stored supply).hasRows then 201 else 500 := by
  obtain ⟨value, read, form⟩ := carries
  have formed : orProblems (readForm Creation.ofValue (.json value)) = pure creation := by
    rw [readForm, form]
    rfl
  have saved : create supply request = (save supply (creation.stored supply) >>= fun _ => do
      let shown ← orFault (orMishap ((creation.stored supply).loaded supply.store))
      pure { status := 201, body := some shown.toRecord }) := by
    rw [create, read, pure_bind, formed, pure_bind]
    rfl
  rw [saved]
  simp only [Tells, Leads, bind, EStateM.bind, save_of_granted supply granted]
  cases rows : (creation.stored supply).hasRows with
  | true =>
    rw [StoredOrganization.loaded_of_hasRows rows]
    refine ⟨rfl, ?_⟩
    rw [sentStatus_eq, Option.map_some, Option.getD_some,
      StoredOrganization.anyText_toRecord (supply.store.admits granted) timed]
    rfl
  | false =>
    obtain ⟨cause, failed⟩ := StoredOrganization.loaded_of_bare supply.store rows
    rw [failed]
    exact ⟨rfl, refusedStatus_of_mishap request supply cause⟩

theorem Request.Creates.serve_eq {creation : Creation} (asked : request.Creates creation) :
    serve factory supply request = create supply request := by
  have listed : Route.collection.methods.contains "POST" = true := by decide
  simp only [serve, asked.place, serveAt, asked.method, listed, Bool.not_true, Bool.false_eq_true,
    if_false]

/-- A creation that the directory accepts is stored, whether or not it can be shown. -/
theorem respond_of_creates (timed : Text.hasHalf supply.time = false) {creation : Creation}
    (asked : request.Creates creation)
    (granted : supply.store.refusal? before (creation.stored supply) = none) :
    (respond factory supply request before).2 = before.put (creation.stored supply) ∧
      (respond factory supply request before).1.status =
        if (creation.stored supply).hasRows then 201 else 500 := by
  have served : serve factory supply request = create supply request := asked.serve_eq
  have tells := tells_create_of_granted timed asked.body granted
  rw [← served] at tells
  exact respond_of_tells tells

end Requests

end Api

end ProfilePolicy
