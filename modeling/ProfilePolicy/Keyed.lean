/-!
# Values under names, in order

A finite map from names to values that remembers the order in which its names were first put in.
Putting a value under a name already held keeps the name's place. A map built by the operations of
this module holds each name once; `get?` is the view through which the laws below describe them.
-/

namespace ProfilePolicy

universe u
variable {α : Type u}

/-- Values under names, in the order of first insertion. -/
abbrev Keyed (α : Type u) := List (String × α)

namespace Keyed

def get? (map : Keyed α) (name : String) : Option α :=
  List.lookup name map

def names (map : Keyed α) : List String :=
  map.map (·.1)

def holds (map : Keyed α) (name : String) : Bool :=
  map.any (·.1 == name)

/-- Puts a value under a name: in place when the name is held, else at the end. -/
def put : Keyed α → String → α → Keyed α
  | [], name, value => [(name, value)]
  | (held, old) :: rest, name, value =>
    if held == name then (held, value) :: rest else (held, old) :: put rest name value

def without (map : Keyed α) (name : String) : Keyed α :=
  map.filter (·.1 != name)

/-- Puts every pair of a list in turn; the last value of a repeated name stays. -/
def putAll (map : Keyed α) (pairs : List (String × α)) : Keyed α :=
  pairs.foldl (fun result pair => put result pair.1 pair.2) map

def ofPairs (pairs : List (String × α)) : Keyed α :=
  putAll [] pairs

@[simp] theorem get?_nil (name : String) : get? ([] : Keyed α) name = none := rfl

theorem get?_cons (held : String) (value : α) (rest : Keyed α) (name : String) :
    get? ((held, value) :: rest) name = if name = held then some value else get? rest name := by
  by_cases h : name = held
  · subst h; simp [get?]
  · have hb : (name == held) = false := by simpa using h
    simp [get?, List.lookup_cons, h, hb]

theorem get?_put (map : Keyed α) (name : String) (value : α) (other : String) :
    get? (put map name value) other = if other = name then some value else get? map other := by
  induction map with
  | nil => simp [put, get?_cons]
  | cons pair rest ih =>
    obtain ⟨held, old⟩ := pair
    by_cases h : held = name
    · subst h
      by_cases ho : other = held
      · simp [put, get?_cons, ho]
      · simp [put, get?_cons, ho]
    · have hb : (held == name) = false := by simpa using h
      by_cases ho : other = held
      · subst ho
        simp [put, hb, get?_cons, h]
      · simp [put, hb, get?_cons, ho, ih]

theorem get?_without (map : Keyed α) (name other : String) :
    get? (without map name) other = if other = name then none else get? map other := by
  induction map with
  | nil => simp [without]
  | cons pair rest ih =>
    obtain ⟨held, old⟩ := pair
    by_cases h : held = name
    · subst h
      have hd : without ((held, old) :: rest) held = without rest held := by
        simp [without]
      rw [hd, ih, get?_cons]
      by_cases ho : other = held <;> simp [ho]
    · have hd : without ((held, old) :: rest) name = (held, old) :: without rest name := by
        simp [without, h]
      rw [hd, get?_cons, ih, get?_cons]
      by_cases ho : other = held
      · subst ho; simp [h]
      · simp [ho]

theorem holds_iff_mem_names (map : Keyed α) (name : String) :
    holds map name = true ↔ name ∈ names map := by
  simp [holds, names]

theorem get?_isSome_iff (map : Keyed α) (name : String) :
    (get? map name).isSome = true ↔ name ∈ names map := by
  induction map with
  | nil => simp [names]
  | cons pair rest ih =>
    obtain ⟨held, old⟩ := pair
    by_cases h : name = held
    · simp [get?_cons, names, h]
    · rw [get?_cons, if_neg h, ih]
      simp [names, h]

theorem names_put (map : Keyed α) (name : String) (value : α) :
    names (put map name value) = if name ∈ names map then names map else names map ++ [name] := by
  induction map with
  | nil => simp [put, names]
  | cons pair rest ih =>
    obtain ⟨held, old⟩ := pair
    by_cases h : held = name
    · subst h; simp [put, names]
    · have hb : (held == name) = false := by simpa using h
      have hn : name ≠ held := fun e => h e.symm
      have hcons : names (put ((held, old) :: rest) name value) =
          held :: names (put rest name value) := by simp [put, hb, names]
      rw [hcons, ih]
      by_cases hm : name ∈ names rest
      · rw [if_pos hm, if_pos (by simpa [names, hn] using hm)]; simp [names]
      · rw [if_neg hm, if_neg (by simpa [names, hn] using hm)]; simp [names]

end Keyed

end ProfilePolicy
