import ProfilePolicy.Keyed

/-!
# Maps that hold each name once

A map built by putting values under names, starting from nothing, holds each name once. Then what is
found under a name is the only entry of that name, and an entry can be taken off the front.
-/

namespace ProfilePolicy.Keyed

universe u
variable {α : Type u}

/-- Every name is held once. -/
def Distinct (map : Keyed α) : Prop :=
  (names map).Nodup

theorem distinct_nil : Distinct ([] : Keyed α) :=
  List.nodup_nil

theorem distinct_cons {name : String} {value : α} {rest : Keyed α} :
    Distinct ((name, value) :: rest) ↔ name ∉ names rest ∧ Distinct rest := by
  simp only [Distinct, names, List.map_cons, List.nodup_cons]

theorem mem_names_put {map : Keyed α} {key name : String} {value : α} :
    name ∈ names (put map key value) ↔ name = key ∨ name ∈ names map := by
  rw [names_put]
  split
  · rename_i held
    exact ⟨Or.inr, fun h => h.elim (fun same => same ▸ held) id⟩
  · rw [List.mem_append, List.mem_singleton, or_comm]

theorem mem_names_without {map : Keyed α} {key name : String} :
    name ∈ names (without map key) ↔ name ≠ key ∧ name ∈ names map := by
  rw [← get?_isSome_iff, ← get?_isSome_iff, get?_without]
  by_cases same : name = key <;> simp [same]

theorem Distinct.put {map : Keyed α} (distinct : Distinct map) (name : String) (value : α) :
    Distinct (put map name value) := by
  unfold Distinct
  rw [names_put]
  split
  · exact distinct
  · rename_i fresh
    rw [List.nodup_append]
    refine ⟨distinct, by simp, ?_⟩
    rintro held mem other same
    rw [List.mem_singleton.mp same]
    exact fun h => fresh (h ▸ mem)

theorem mem_of_mem_put {map : Keyed α} {name : String} {value : α}
    {entry : String × α} (mem : entry ∈ map.put name value) :
    entry = (name, value) ∨ entry ∈ map := by
  induction map with
  | nil => exact Or.inl (List.mem_singleton.mp mem)
  | cons first rest ih =>
    obtain ⟨held, old⟩ := first
    rw [put] at mem
    split at mem
    · rename_i same
      rcases List.mem_cons.mp mem with rfl | later
      · exact Or.inl (by rw [beq_iff_eq.mp same])
      · exact Or.inr (List.mem_cons_of_mem _ later)
    · rcases List.mem_cons.mp mem with rfl | later
      · exact Or.inr List.mem_cons_self
      · exact (ih later).imp id (List.mem_cons_of_mem _)

theorem mem_of_get? {map : Keyed α} {name : String} {value : α}
    (found : map.get? name = some value) : (name, value) ∈ map := by
  induction map with
  | nil => cases found
  | cons first rest ih =>
    obtain ⟨held, old⟩ := first
    rw [get?_cons] at found
    split at found
    · rename_i same
      cases found
      exact same ▸ List.mem_cons_self
    · exact List.mem_cons_of_mem _ (ih found)

/-- A map of pairs holds each name once, whatever the pairs are. -/
theorem distinct_ofPairs (pairs : List (String × α)) : Distinct (ofPairs pairs) := by
  have all : ∀ map : Keyed α, Distinct map → Distinct (putAll map pairs) := by
    induction pairs with
    | nil => exact fun _ distinct => distinct
    | cons pair rest ih => exact fun map distinct => ih _ (distinct.put pair.1 pair.2)
  exact all [] distinct_nil

/-- What is found in a map of pairs is one of the pairs. -/
theorem mem_of_get?_ofPairs {pairs : List (String × α)} {name : String} {value : α}
    (found : get? (ofPairs pairs) name = some value) : (name, value) ∈ pairs := by
  have all : ∀ map : Keyed α, get? (putAll map pairs) name = some value →
      (name, value) ∈ pairs ∨ get? map name = some value := by
    clear found
    induction pairs with
    | nil => exact fun _ found => Or.inr found
    | cons pair rest ih =>
      intro map found
      rcases ih _ found with mem | earlier
      · exact Or.inl (List.mem_cons_of_mem _ mem)
      · rw [get?_put] at earlier
        split at earlier
        · rename_i same
          cases earlier
          exact Or.inl (same ▸ List.mem_cons_self)
        · exact Or.inr earlier
  rcases all [] found with mem | impossible
  · exact mem
  · cases impossible

theorem get?_eq_none_iff {map : Keyed α} {name : String} :
    get? map name = none ↔ name ∉ names map := by
  rw [← Option.not_isSome_iff_eq_none, get?_isSome_iff]

/-- In a map that holds each name once, an entry is what is found under its name. -/
theorem Distinct.get?_of_mem {map : Keyed α} (distinct : Distinct map) {entry : String × α}
    (mem : entry ∈ map) : get? map entry.1 = some entry.2 := by
  induction map with
  | nil => cases mem
  | cons first rest ih =>
    obtain ⟨fresh, distinctRest⟩ := distinct_cons.mp distinct
    rw [get?_cons]
    rcases List.mem_cons.mp mem with rfl | later
    · rw [if_pos rfl]
    · have other : entry.1 ≠ first.1 := by
        intro same
        exact fresh (same ▸ List.mem_map_of_mem later)
      rw [if_neg other]
      exact ih distinctRest later

/-- A map that holds each name once is told by its names in order and what is found under them. -/
theorem Distinct.eq_map {map : Keyed α} (distinct : Distinct map) {default : α} {value : String → α}
    (found : ∀ name, (get? map name).getD default = value name) :
    map = (names map).map fun name => (name, value name) := by
  rw [names, List.map_map]
  refine (List.map_id map).symm.trans (List.map_congr_left fun entry mem => ?_)
  have held := found entry.1
  rw [distinct.get?_of_mem mem] at held
  exact Prod.ext rfl held

theorem get?_map {β : Type u} (map : Keyed α) (change : α → β) (name : String) :
    get? (map.map fun entry => (entry.1, change entry.2)) name = (get? map name).map change := by
  induction map with
  | nil => rfl
  | cons first rest ih =>
    rw [List.map_cons, get?_cons, get?_cons, ih]
    split <;> rfl

/-- Leaving entries out by their names leaves the others as they are. -/
theorem get?_filter (map : Keyed α) (keep : String → Bool) (name : String) :
    get? (map.filter fun entry => keep entry.1) name =
      if keep name then get? map name else none := by
  induction map with
  | nil => simp
  | cons pair rest ih =>
    obtain ⟨held, old⟩ := pair
    by_cases kept : keep held = true
    · rw [List.filter_cons_of_pos (by exact kept), get?_cons, ih, get?_cons]
      by_cases same : name = held
      · simp [same, kept]
      · simp [same]
    · rw [List.filter_cons_of_neg (by exact kept), ih, get?_cons]
      by_cases same : name = held
      · simp [same, kept]
      · simp [same]

theorem Distinct.filter {map : Keyed α} (distinct : Distinct map) (keep : String × α → Bool) :
    Distinct (map.filter keep) :=
  List.Nodup.sublist (List.filter_sublist.map _) distinct

end ProfilePolicy.Keyed
