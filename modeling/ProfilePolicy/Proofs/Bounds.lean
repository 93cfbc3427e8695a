import ProfilePolicy.Proofs.Renaming

/-!
# How long names get

A new organization has a name of at least one character and at most as many as its form allows. The
form of a change allows any text, and a renaming takes every text but the empty one. So no name is
ever empty, and names stay within the bounds of creation exactly as long as no administrator is
granted a longer one.
-/

namespace ProfilePolicy

open Value Api

/-- A text has a character unless it is empty. -/
theorem Text.size_pos_iff {text : String} : 0 < Text.size text ↔ text ≠ "" := by
  have counted : ∀ cs : List Char, 0 < (Text.pieces cs).length ↔ cs ≠ [] := by
    intro cs
    fun_cases Text.pieces cs <;> simp
  rw [Text.size, counted, ne_eq, String.toList_eq_nil_iff]

namespace Api

/-- The name of a new organization is within the bounds of its form. -/
theorem size_of_readName {location : List String} {field : Option Value} {name : String}
    (h : readName location field = .ok name) :
    0 < Text.size name ∧ Text.size name ≤ longestName := by
  cases field with
  | none => cases h
  | some value =>
    unfold readName at h
    cases read : readText location value with
    | error problems =>
      simp only [read] at h
      cases h
    | ok given =>
      simp only [read] at h
      split at h
      · cases h
      · split at h
        · cases h
        · split at h
          · cases h
          · rename_i some short
            cases h
            refine ⟨Text.size_pos_iff.mpr ?_, Nat.le_of_not_lt short⟩
            rintro rfl
            exact some rfl

/-- A creation that is read from a body gives a name within the bounds of its form. -/
theorem Creation.size_of_ofValue {body : Value} {creation : Creation}
    (h : Creation.ofValue body = .ok creation) :
    0 < Text.size creation.name ∧ Text.size creation.name ≤ longestName := by
  obtain ⟨fields, -, h⟩ := bind_eq_ok.mp h
  obtain ⟨⟨name, displayName, attributes⟩, read, made⟩ := bind_eq_ok.mp h
  cases made
  exact size_of_readName (both_eq_ok.mp read).1

theorem Request.Creates.size_name {request : Request} {creation : Creation}
    (asked : request.Creates creation) :
    0 < Text.size creation.name ∧ Text.size creation.name ≤ longestName := by
  obtain ⟨value, -, form⟩ := asked.body
  exact Creation.size_of_ofValue form

/-- An administrator asks for a name for a stored organization and is granted it. -/
def Exchange.Gives (exchange : Exchange) (before : Directory) (name : String) : Prop :=
  ∃ id stored, before.find? id = some stored ∧ exchange.request.Renames id stored name ∧
    exchange.status before = 204

end Api

/-- The names of all organizations are texts of a kind. -/
def Directory.NamesAre (directory : Directory) (fits : String → Prop) : Prop :=
  ∀ stored ∈ directory.entries, ∃ name, stored.organization.name = text name ∧ fits name

namespace Directory

variable {before : Directory} {fits : String → Prop}

theorem NamesAre.put (named : before.NamesAre fits) {stored : StoredOrganization} {name : String}
    (own : stored.organization.name = text name) (fit : fits name) :
    (before.put stored).NamesAre fits := by
  intro entry mem
  rcases mem_of_mem_put mem with rfl | held
  · exact ⟨name, own, fit⟩
  · exact named entry held

theorem NamesAre.found (named : before.NamesAre fits) {id : Uuid} {stored : StoredOrganization}
    (found : before.find? id = some stored) :
    ∃ name, stored.organization.name = text name ∧ fits name := by
  obtain ⟨entry, mem, -, rfl⟩ := mem_of_find? found
  rw [StoredOrganization.reload_name]
  exact named entry mem

end Directory

namespace Api.Exchange

open Directory

variable {exchange : Exchange} {before : Directory} {fits : String → Prop}

/-- One request keeps names of a kind when the names that it creates and gives are of that kind. -/
theorem IsOrderly.namesAre (orderly : exchange.IsOrderly) (kept : before.IsKept)
    (named : before.NamesAre fits)
    (created : ∀ creation, exchange.request.Creates creation → fits creation.name)
    (given : ∀ name, exchange.Gives before name → fits name) :
    (exchange.after before).NamesAre fits := by
  have effect := orderly.effect before
  unfold Gives at given
  generalize exchange.status before = status at effect given
  generalize exchange.after before = after at effect ⊢
  cases effect with
  | kept plain => exact named
  | @created creation asked granted => exact named.put rfl (created creation asked)
  | @changed context id change stored left provider asked found provided made granted =>
    obtain ⟨config, builtin⟩ := orderly.isBuiltin _ provided
    obtain ⟨old, isText, fit⟩ := named.found found
    have nameLeft := made.name_eq builtin asked.body (kept.found found)
    cases renamed : renames context change stored with
    | none =>
      rw [renamed] at nameLeft
      exact named.put (nameLeft.trans isText) fit
    | some name =>
      rw [renamed] at nameLeft
      obtain ⟨rfl, asks, taken, differs⟩ := (renames_eq_some_iff isText).mp renamed
      have gives : exchange.request.Renames id stored name := ⟨change, asked, asks, taken, differs⟩
      exact named.put nameLeft (given name ⟨id, stored, found, gives, rfl⟩)
  | deleted asked found => exact fun entry mem => named entry (List.mem_of_mem_filter mem)

/-- What is given is stored. -/
theorem IsOrderly.stores_given (orderly : exchange.IsOrderly) (kept : before.IsKept) {name : String}
    (gives : exchange.Gives before name) :
    ∃ stored ∈ (exchange.after before).entries, stored.organization.name = text name := by
  obtain ⟨id, stored, found, ⟨change, asked, asks, taken, differs⟩, granted⟩ := gives
  have effect := orderly.effect before
  generalize exchange.status before = status at effect granted
  generalize exchange.after before = after at effect ⊢
  cases effect with
  | kept plain => omega
  | created asked' => exact absurd (asked'.method.symm.trans asked.method) (by decide)
  | deleted asked' => exact absurd (asked'.method.symm.trans asked.method) (by decide)
  | @changed context' id' change' stored' left provider asked' found' provided made _ =>
    obtain ⟨rfl, rfl, rfl⟩ := asked.unique asked'
    cases Option.some.inj (found.symm.trans found')
    obtain ⟨config, builtin⟩ := orderly.isBuiltin _ provided
    obtain ⟨old, named⟩ := (kept.found found).named
    have place : (before.put left).find? left.id = some left.reload := by
      rw [find?_put, if_pos rfl]
    obtain ⟨entry, mem, -, same⟩ := mem_of_find? place
    refine ⟨entry, mem, ?_⟩
    rw [← StoredOrganization.reload_name, same, StoredOrganization.reload_name,
      made.name_eq builtin asked.body (kept.found found),
      (renames_eq_some_iff named).mpr ⟨rfl, asks, taken, differs⟩]

end Api.Exchange

namespace Directory

variable {fits : String → Prop}

/-- Requests in turn keep names of a kind when all names that they create and give are of that
kind. -/
theorem NamesAre.foldl {before : Directory} (named : before.NamesAre fits) (kept : before.IsKept)
    {exchanges : List Exchange} (orderly : ∀ exchange ∈ exchanges, exchange.IsOrderly)
    (created : ∀ exchange ∈ exchanges, ∀ creation, exchange.request.Creates creation →
      fits creation.name)
    (given : ∀ earlier exchange later, exchanges = earlier ++ exchange :: later → ∀ name,
      exchange.Gives (earlier.foldl (fun directory exchange => exchange.after directory) before)
        name → fits name) :
    (exchanges.foldl (fun directory exchange => exchange.after directory) before).NamesAre
      fits := by
  induction exchanges generalizing before with
  | nil => exact named
  | cons exchange rest ih =>
    have own := orderly exchange List.mem_cons_self
    apply ih
    · exact own.namesAre kept named (created exchange List.mem_cons_self)
        (given [] exchange rest rfl)
    · exact own.keeps kept
    · exact fun other mem => orderly other (List.mem_cons_of_mem _ mem)
    · exact fun other mem => created other (List.mem_cons_of_mem _ mem)
    · intro earlier other later split
      exact given (exchange :: earlier) other later (congrArg (exchange :: ·) split)

theorem namesAre_afterAll {exchanges : List Exchange}
    (orderly : ∀ exchange ∈ exchanges, exchange.IsOrderly)
    (created : ∀ exchange ∈ exchanges, ∀ creation, exchange.request.Creates creation →
      fits creation.name)
    (given : ∀ earlier exchange later, exchanges = earlier ++ exchange :: later → ∀ name,
      exchange.Gives (afterAll earlier) name → fits name) :
    (afterAll exchanges).NamesAre fits := by
  have empty : ({} : Directory).NamesAre fits := fun _ mem => absurd mem List.not_mem_nil
  have emptyKept : ({} : Directory).IsKept := fun _ mem => absurd mem List.not_mem_nil
  exact empty.foldl emptyKept orderly created given

theorem afterAll_append_singleton (earlier : List Exchange) (exchange : Exchange) :
    afterAll (earlier ++ [exchange]) = exchange.after (afterAll earlier) := by
  rw [afterAll, afterAll, List.foldl_append, List.foldl_cons, List.foldl_nil]

/-- Requests in turn never leave an empty name. All along they leave names within the bounds of
creation exactly when no administrator is granted a longer one. -/
theorem names_within_bounds_iff {exchanges : List Exchange}
    (orderly : ∀ exchange ∈ exchanges, exchange.IsOrderly) :
    (afterAll exchanges).NamesAre (fun name => 0 < Text.size name) ∧
    ((∀ earlier later, exchanges = earlier ++ later →
        (afterAll earlier).NamesAre fun name => Text.size name ≤ longestName) ↔
      ∀ earlier exchange later, exchanges = earlier ++ exchange :: later → ∀ name,
        exchange.Gives (afterAll earlier) name → Text.size name ≤ longestName) := by
  refine ⟨?_, ?_, ?_⟩
  · apply namesAre_afterAll orderly
    · exact fun exchange _ creation asked => asked.size_name.1
    · rintro _ _ _ _ name ⟨_, _, _, ⟨_, _, _, taken, _⟩, _⟩
      exact Text.size_pos_iff.mpr taken
  · rintro bounded earlier exchange later rfl name gives
    have own := orderly exchange (List.mem_append_right _ List.mem_cons_self)
    have kept : (afterAll earlier).IsKept :=
      isKept_afterAll fun other mem => orderly other (List.mem_append_left _ mem)
    obtain ⟨stored, mem, isName⟩ := own.stores_given kept gives
    have reached := bounded (earlier ++ [exchange]) later (by simp)
    rw [afterAll_append_singleton] at reached
    obtain ⟨name', isName', fits⟩ := reached stored mem
    cases isName.symm.trans isName'
    exact fits
  · rintro given earlier later rfl
    apply namesAre_afterAll fun other mem => orderly other (List.mem_append_left _ mem)
    · exact fun exchange _ creation asked => asked.size_name.2
    · rintro before exchange after rfl
      exact given before exchange (after ++ later) (by simp)

/-- An administrator renames an organization within the bounds. -/
theorem names_within_bounds_iff_of_renamed :
    let supply : Supply := {
      id := .ofNat 1, correlationId := "c", time := "2026-01-01T00:00:00"
      stamp := { correlationId := "c", timestamp := "2026-01-01T00:00:00" } }
    let creating : Exchange := {
      factory := .under {}, supply
      request := { method := "POST", path := "/api/organizations"
                   body := "\x7b\"name\":\"sample\",\"attributes\":\x7b\"plain\":[\"1\"]\x7d\x7d"
                   headers := [("Content-Type", "application/json")] } }
    let putting : Exchange := {
      factory := .under {}, supply
      request := { method := "PUT"
                   path := "/api/organizations/00000000-0000-0000-0000-000000000001/manage"
                   body := "\x7b\"name\":\"renamed\"\x7d"
                   headers := [("Content-Type", "application/json")] } }
    (∀ exchange ∈ [creating, putting], exchange.IsOrderly) ∧
    putting.status (afterAll [creating]) = 204 ∧
    ∀ earlier later, [creating, putting] = earlier ++ later →
      (afterAll earlier).NamesAre fun name => Text.size name ≤ longestName := by
  intro supply creating putting
  have timed : Text.hasHalf supply.time = false := by decide +kernel
  have orderly : ∀ exchange ∈ [creating, putting], exchange.IsOrderly := by
    intro other mem
    simp only [List.mem_cons, List.not_mem_nil, or_false] at mem
    rcases mem with rfl | rfl
    · exact ⟨ProviderFactory.isBuiltin_under {}, timed⟩
    · exact ⟨ProviderFactory.isBuiltin_under {}, timed⟩
  have asked : (putting.request.carried? Change.ofValue).map (·.name) = some (some "renamed") := by
    decide +kernel
  obtain ⟨known, carried, asks⟩ := Option.map_eq_some_iff.mp asked
  refine ⟨orderly, by decide +kernel, (names_within_bounds_iff orderly).2.mpr ?_⟩
  rintro earlier exchange later split name ⟨id, stored, found, ⟨change, changes, given, -⟩, -⟩
  have listed : exchange ∈ [creating, putting] := by
    rw [split]
    exact List.mem_append_right _ List.mem_cons_self
  simp only [List.mem_cons, List.not_mem_nil, or_false] at listed
  rcases listed with rfl | rfl
  · exact absurd changes.method (by decide)
  · cases changes.body.unique (Request.carries_iff.mpr carried)
    cases asks.symm.trans given
    decide +kernel

end Directory

end ProfilePolicy
