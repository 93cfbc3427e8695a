import ProfilePolicy.Proofs.Keeping

/-!
# Requests in turn

Whatever requests are made, the directory holds organizations as the service keeps them, no two of
them under one name. A request that is answered as an error has changed nothing, unless it created
an organization without a value: that one is stored although it cannot be shown.
-/

namespace ProfilePolicy

namespace Api

structure Exchange where
  factory : ProviderFactory
  supply : Supply
  request : Request

namespace Exchange

/-- The factory applies the built-in policy of some configuration, and the time can be sent. -/
structure IsOrderly (exchange : Exchange) : Prop where
  isBuiltin : exchange.factory.IsBuiltin
  timed : Text.hasHalf exchange.supply.time = false

def status (exchange : Exchange) (before : Directory) : Nat :=
  (respond exchange.factory exchange.supply exchange.request before).1.status

def after (exchange : Exchange) (before : Directory) : Directory :=
  (respond exchange.factory exchange.supply exchange.request before).2

theorem IsOrderly.effect {exchange : Exchange} (orderly : exchange.IsOrderly) (before : Directory) :
    Effect exchange.factory exchange.supply exchange.request before (exchange.status before)
      (exchange.after before) :=
  respond_effect orderly.isBuiltin orderly.timed exchange.request before

end Exchange

end Api

namespace Directory

open Api

/-- The directory after requests in turn, which is empty at first. -/
def afterAll (exchanges : List Exchange) : Directory :=
  exchanges.foldl (fun directory exchange => exchange.after directory) {}

def IsKept (directory : Directory) : Prop :=
  ∀ stored ∈ directory.entries, stored.organization.IsKept

variable {before : Directory} {stored left : StoredOrganization} {id : Uuid}

theorem IsKept.found (kept : before.IsKept) (found : before.find? id = some stored) :
    stored.organization.IsKept := by
  obtain ⟨entry, mem, -, rfl⟩ := mem_of_find? found
  exact StoredOrganization.isKept_reload (kept entry mem)

theorem IsKept.put (kept : before.IsKept) (keptStored : stored.organization.IsKept) :
    (before.put stored).IsKept := by
  intro entry mem
  rcases mem_of_mem_put mem with rfl | held
  · exact keptStored
  · exact kept entry held

/-- Organizations under different identifiers have different names. -/
def NamesDiffer (directory : Directory) : Prop :=
  ∀ one ∈ directory.entries, ∀ other ∈ directory.entries,
    one.organization.name = other.organization.name → one.id = other.id

/-- What a directory admits has its name with nothing in common but what it replaces. -/
theorem Admits.id_eq (admitted : before.Admits stored) (kept : before.IsKept)
    {entry : StoredOrganization} (mem : entry ∈ before.entries)
    (same : entry.organization.name = stored.organization.name) : entry.id = stored.id := by
  by_contra differs
  obtain ⟨name, named⟩ := (kept entry mem).named
  have taken : before.nameTaken stored.organization.name stored.id = true :=
    List.any_eq_true.mpr ⟨entry, mem, by simp [differs, ← same, named, Value.same]⟩
  rw [admitted.nameFree] at taken
  cases taken

theorem NamesDiffer.put (differ : before.NamesDiffer) (kept : before.IsKept)
    (admitted : before.Admits stored) : (before.put stored).NamesDiffer := by
  intro one mem other mem' same
  rcases mem_of_mem_put mem with rfl | held
  · rcases mem_of_mem_put mem' with rfl | held'
    · rfl
    · exact (admitted.id_eq kept held' same.symm).symm
  · rcases mem_of_mem_put mem' with rfl | held'
    · exact admitted.id_eq kept held same
    · exact differ one held other held' same

end Directory

open Api Directory

/-- What a change leaves is under the identifier of what it changes. -/
theorem Api.Change.Makes.id_eq {change : Change} {provider : Provider} {context : Context}
    {stored left : StoredOrganization} (made : change.Makes provider context stored left) :
    left.id = stored.id := by
  obtain ⟨profile, after, -, -, rfl⟩ := made
  rfl

section Steps

variable {exchange : Exchange} {before : Directory}

/-- One request keeps the organizations of the directory as the service keeps them. -/
theorem Api.Exchange.IsOrderly.keeps (orderly : exchange.IsOrderly) (kept : before.IsKept) :
    (exchange.after before).IsKept := by
  have effect := orderly.effect before
  generalize exchange.status before = status at effect
  generalize exchange.after before = after at effect ⊢
  cases effect with
  | kept plain => exact kept
  | created asked granted => exact kept.put (asked.body.isKept_stored exchange.supply)
  | changed asked found provided made granted =>
    obtain ⟨config, builtin⟩ := orderly.isBuiltin _ provided
    exact kept.put (made.keeps builtin asked.body (kept.found found)).1
  | deleted asked found => exact fun entry mem => kept entry (List.mem_of_mem_filter mem)

/-- One request keeps names different, since the store takes no name twice. -/
theorem Api.Exchange.IsOrderly.namesDiffer (orderly : exchange.IsOrderly) (kept : before.IsKept)
    (differ : before.NamesDiffer) : (exchange.after before).NamesDiffer := by
  have effect := orderly.effect before
  generalize exchange.status before = status at effect
  generalize exchange.after before = after at effect ⊢
  cases effect with
  | kept plain => exact differ
  | created asked granted => exact differ.put kept (exchange.supply.store.admits granted)
  | changed asked found provided made granted =>
    exact differ.put kept (exchange.supply.store.admits granted)
  | deleted asked found =>
    exact fun one mem other mem' =>
      differ one (List.mem_of_mem_filter mem) other (List.mem_of_mem_filter mem')

end Steps

/-- Requests in turn keep all organizations as the service keeps them. -/
theorem Directory.isKept_afterAll {exchanges : List Exchange}
    (orderly : ∀ exchange ∈ exchanges, exchange.IsOrderly) : (afterAll exchanges).IsKept := by
  have empty : ({} : Directory).IsKept := fun _ mem => absurd mem List.not_mem_nil
  exact List.foldlRecOn exchanges _ empty fun before kept exchange mem =>
    (orderly exchange mem).keeps kept

/-- After any requests no two organizations have the same name. -/
theorem Directory.namesDiffer_afterAll {exchanges : List Exchange}
    (orderly : ∀ exchange ∈ exchanges, exchange.IsOrderly) :
    (afterAll exchanges).NamesDiffer := by
  let sound := fun after : Directory => after.IsKept ∧ after.NamesDiffer
  have empty : sound {} :=
    ⟨fun _ mem => absurd mem List.not_mem_nil, fun _ mem => absurd mem List.not_mem_nil⟩
  have step : ∀ before, sound before → ∀ exchange ∈ exchanges, sound (exchange.after before) := by
    rintro before ⟨kept, differ⟩ exchange mem
    exact ⟨(orderly exchange mem).keeps kept, (orderly exchange mem).namesDiffer kept differ⟩
  exact (List.foldlRecOn (motive := sound) exchanges _ empty step).2

/-- A request that is answered as an error has changed nothing, unless it created an organization
without a value. -/
theorem Api.Exchange.IsOrderly.after_of_error {exchange : Exchange} {before : Directory}
    (orderly : exchange.IsOrderly) (failed : 400 ≤ exchange.status before) :
    exchange.after before = before ∨ ∃ creation, exchange.request.Creates creation ∧
      creation.IsBare ∧ exchange.after before = before.put (creation.stored exchange.supply) := by
  have effect := orderly.effect before
  generalize exchange.status before = status at effect failed
  generalize exchange.after before = after at effect ⊢
  cases effect with
  | kept plain => exact Or.inl rfl
  | @created creation asked granted =>
    refine Or.inr ⟨creation, asked, ?_, rfl⟩
    rw [← asked.body.hasRows_eq_false_iff exchange.supply, ← Bool.not_eq_true]
    intro some
    rw [if_pos some] at failed
    omega
  | changed => omega
  | deleted => omega

/-- Putting leaves the values of an attribute, or texts that are not blank. -/
theorem Api.Exchange.IsOrderly.visible_of_put {exchange : Exchange} {before : Directory}
    (orderly : exchange.IsOrderly) (kept : before.IsKept) (method : exchange.request.method = "PUT")
    {id : Uuid} {stored left : StoredOrganization} (found : before.find? id = some stored)
    (found' : (exchange.after before).find? id = some left) (name : String) :
    left.organization.valuesOf name = stored.organization.valuesOf name ∨
      Visible (left.organization.valuesOf name) := by
  have effect := orderly.effect before
  generalize exchange.status before = status at effect
  generalize exchange.after before = after at effect found'
  cases effect with
  | kept plain =>
    rw [found] at found'
    cases found'
    exact Or.inl rfl
  | created asked granted =>
    exact absurd (asked.method.symm.trans method) (by decide)
  | @changed context id' change stored' left' provider asked foundChanged provided made granted =>
    rw [find?_put] at found'
    split at found'
    · rename_i same
      have own : id = id' := same.trans (made.id_eq.trans (id_of_find? foundChanged))
      subst own
      rw [found] at foundChanged
      cases foundChanged
      cases found'
      obtain ⟨config, builtin⟩ := orderly.isBuiltin _ provided
      obtain ⟨keptLeft, values⟩ := made.keeps builtin asked.body (kept.found found)
      rw [StoredOrganization.valuesOf_reload keptLeft.inRows]
      exact values name
    · rw [found] at found'
      cases found'
      exact Or.inl rfl
  | deleted asked foundDeleted =>
    exact absurd (asked.method.symm.trans method) (by decide)

/-- After any requests, each of them over a store that may fail as it likes, the directory tells
organizations in order, in its entries and as they come back. A request that is answered as an error
has changed nothing, with one exception that occurs whenever the store does not refuse: an
organization that is created without a value is stored and answered as an error. Where putting
changes the values of an attribute, it leaves texts that are not blank. -/
theorem Directory.requests_keep_order (exchanges : List Exchange) (exchange : Exchange)
    (orderly : ∀ other ∈ exchange :: exchanges, other.IsOrderly) :
    let before := afterAll exchanges
    let after := exchange.after before
    (∀ stored ∈ after.entries,
      stored.organization.IsTidy ∧ stored.reload.organization.IsTidy) ∧
    (400 ≤ exchange.status before →
      after = before ∨ ∃ creation, exchange.request.Creates creation ∧ creation.IsBare ∧
        after = before.put (creation.stored exchange.supply)) ∧
    (∀ creation, exchange.request.Creates creation → creation.IsBare →
      exchange.supply.store.refusal? before (creation.stored exchange.supply) = none →
      exchange.status before = 500 ∧ after = before.put (creation.stored exchange.supply)) ∧
    (exchange.request.method = "PUT" → ∀ id stored left, before.find? id = some stored →
      after.find? id = some left → ∀ name,
      left.organization.valuesOf name = stored.organization.valuesOf name ∨
        Visible (left.organization.valuesOf name)) := by
  intro before after
  have own : exchange.IsOrderly := orderly exchange List.mem_cons_self
  have kept : before.IsKept :=
    isKept_afterAll fun other mem => orderly other (List.mem_cons_of_mem _ mem)
  refine ⟨?_, own.after_of_error, ?_, ?_⟩
  · intro stored mem
    have keptStored := own.keeps kept stored mem
    exact ⟨keptStored.isTidy, (StoredOrganization.isKept_reload keptStored).isTidy⟩
  · intro creation asked bare granted
    obtain ⟨stores, status⟩ : after = before.put (creation.stored exchange.supply) ∧
        exchange.status before = if (creation.stored exchange.supply).hasRows then 201 else 500 :=
      respond_of_creates own.timed asked granted
    rw [(asked.body.hasRows_eq_false_iff exchange.supply).mpr bare] at status
    exact ⟨status, stores⟩
  · intro method id stored left found found' name
    exact own.visible_of_put kept method found found' name

def ProviderFactory.under (config : Config) : ProviderFactory :=
  { ProviderFactory.new [] with current := some (MetadataRegistry.builtin config) }

theorem ProviderFactory.isBuiltin_under (config : Config) : (under config).IsBuiltin := by
  intro provider created
  cases created
  exact ⟨config, Provider.isBuiltin_standard config⟩

/-- An organization without attributes is created in an empty directory. -/
theorem Directory.requests_keep_order_of_bare :
    let exchange : Exchange := {
      factory := .under {}
      supply := { id := .ofNat 1, correlationId := "c", time := "2026-01-01T00:00:00",
                  stamp := { correlationId := "c", timestamp := "2026-01-01T00:00:00" } }
      request := { method := "POST", path := "/api/organizations",
                   body := "\x7b\"name\":\"sample\"\x7d",
                   headers := [("Content-Type", "application/json")] } }
    exchange.IsOrderly ∧ ∃ creation, exchange.request.Creates creation ∧ creation.IsBare ∧
      exchange.status {} = 500 ∧
      exchange.after {} = ({} : Directory).put (creation.stored exchange.supply) := by
  intro exchange
  have orderly : exchange.IsOrderly := ⟨ProviderFactory.isBuiltin_under {}, by decide +kernel⟩
  have evaluated : ((exchange.request.carried? Creation.ofValue).map fun creation =>
      creation.attributes.isEmpty &&
        (({} : Directory).refusal? (creation.stored exchange.supply)).isNone) = some true := by
    decide +kernel
  obtain ⟨creation, carried, known⟩ := Option.map_eq_some_iff.mp evaluated
  obtain ⟨empty, granted⟩ := Bool.and_eq_true_iff.mp known
  have asked : exchange.request.Creates creation :=
    ⟨rfl, by decide +kernel, Request.carries_iff.mpr carried⟩
  have bare : creation.IsBare := by
    intro entry mem
    rw [List.isEmpty_iff.mp empty] at mem
    cases mem
  obtain ⟨-, -, stores, -⟩ :=
    requests_keep_order [] exchange fun other mem => List.mem_singleton.mp mem ▸ orderly
  obtain ⟨status, after⟩ := stores creation asked bare (Option.isNone_iff_eq_none.mp granted)
  exact ⟨orderly, creation, asked, bare, status, after⟩

end ProfilePolicy
