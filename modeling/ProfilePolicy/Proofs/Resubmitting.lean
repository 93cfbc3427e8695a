import ProfilePolicy.Proofs.Denial

/-!
# Submitting a set again

Building a set normalizes what was submitted: missing values are dropped, declared names are filled
in, and the name of the organization is restored where it was left blank and may not be written. The
values of a set are settled: none of them is missing, every declared name is there, and restoring
the name leaves them alone, since what was restored once is the name of the organization. So a set
that is built from the values of a set has the same names in the same order and the same values.

This holds for any metadata. Whether the name may be written can depend on the values themselves,
and may be decided otherwise once the name is restored; the restored name stays all the same.
-/

namespace ProfilePolicy

namespace Keyed

variable {α : Type} {map : Keyed α} {name : String} {value : α}

/-- Putting a value under a name that has it already changes nothing. -/
theorem put_of_get? (held : map.get? name = some value) : map.put name value = map := by
  induction map with
  | nil => cases held
  | cons pair rest ih =>
    obtain ⟨first, old⟩ := pair
    rw [get?_cons] at held
    by_cases here : name = first
    · rw [if_pos here] at held
      cases held
      simp [put, here]
    · rw [if_neg here] at held
      have other : (first == name) = false := by simpa using fun same => here same.symm
      simp [put, other, ih held]

theorem mem_put {entry : String × α} (mem : entry ∈ map.put name value) :
    entry ∈ map ∨ entry = (name, value) := by
  induction map with
  | nil => exact Or.inr (List.mem_singleton.mp mem)
  | cons pair rest ih =>
    rw [put] at mem
    split at mem
    · rename_i same
      rcases List.mem_cons.mp mem with rfl | later
      · exact Or.inr (by rw [eq_of_beq same])
      · exact Or.inl (List.mem_cons_of_mem _ later)
    · rcases List.mem_cons.mp mem with rfl | later
      · exact Or.inl List.mem_cons_self
      · exact (ih later).imp (List.mem_cons_of_mem _) id

end Keyed

namespace AttributeValues

def asSubmitted (values : AttributeValues) : Keyed Value :=
  values.map fun entry => (entry.1, .list entry.2)

/-- No value is missing. -/
def IsFull (values : AttributeValues) : Prop :=
  ∀ entry ∈ values, ∀ value ∈ entry.2, value.isNull = false

variable {values : AttributeValues}

theorem IsFull.put (full : values.IsFull) {name : String} {given : List Value}
    (all : ∀ value ∈ given, value.isNull = false) : IsFull (values.put name given) := by
  intro entry mem
  rcases Keyed.mem_put mem with held | rfl
  · exact full entry held
  · exact all

end AttributeValues

theorem Value.isNull_of_normalized {value : Value} {items : List Value}
    (normal : value.normalized = .ok items) : ∀ item ∈ items, item.isNull = false := by
  have filtered : (value.items.map fun items => items.filter fun item => !item.isNull) = .ok items →
      ∀ item ∈ items, item.isNull = false := by
    intro normal item mem
    obtain ⟨all, -, rfl⟩ := map_eq_ok.mp normal
    simpa using (List.mem_filter.mp mem).2
  cases value with
  | null =>
    cases normal
    exact List.forall_mem_nil _
  | text written =>
    cases normal
    exact List.forall_mem_singleton.mpr rfl
  | _ => exact filtered normal

/-- A list without missing values is normal. -/
theorem Value.normalized_list {items : List Value} (all : ∀ item ∈ items, item.isNull = false) :
    (Value.list items).normalized = .ok items := by
  have kept : items.filter (fun item => !item.isNull) = items :=
    List.filter_eq_self.mpr fun item mem => by simpa using all item mem
  exact congrArg Except.ok kept

theorem Validator.mem_storedName {organization : Option Organization} {value : Value}
    (mem : value ∈ Validator.storedName organization) :
    value.isNull = false ∧ ∃ known, organization = some known ∧ value = known.name := by
  unfold storedName at mem
  split at mem
  · rename_i known
    split at mem
    · cases mem
    · rename_i given
      rw [List.mem_singleton.mp mem]
      exact ⟨Bool.eq_false_iff.mpr given, known, rfl, rfl⟩
  · cases mem

namespace Policy

variable {policy : Policy} {submitted : Keyed Value} {organization : Option Organization}
variable {catalog : Catalog} {values : AttributeValues} {episode : Episode}

/-! ## What is missing is dropped -/

theorem isFull_normalizeAll (given : normalizeAll submitted = .ok values) : values.IsFull := by
  induction submitted generalizing values with
  | nil =>
    cases given
    exact List.forall_mem_nil _
  | cons entry rest ih =>
    obtain ⟨items, normal, given⟩ := bind_eq_ok.mp given
    obtain ⟨others, later, given⟩ := bind_eq_ok.mp given
    cases given
    exact List.forall_mem_cons.mpr ⟨Value.isNull_of_normalized normal, ih later⟩

/-- Where no value is missing normalizing changes nothing. -/
theorem normalizeAll_asSubmitted (full : values.IsFull) :
    normalizeAll values.asSubmitted = .ok values := by
  induction values with
  | nil => rfl
  | cons entry rest ih =>
    obtain ⟨first, later⟩ := List.forall_mem_cons.mp full
    have others : normalizeAll (AttributeValues.asSubmitted rest) = .ok rest := ih later
    rw [AttributeValues.asSubmitted] at others ⊢
    rw [List.map_cons, normalizeAll, Value.normalized_list first, others]
    rfl

/-! ## Declared names are filled in -/

theorem isFull_fillDeclared (full : values.IsFull) (declared : List String) :
    (fillDeclared organization values declared).IsFull := by
  have stored : ∀ name, ∀ value ∈ storedValues organization name, value.isNull = false := by
    intro name value mem
    cases organization with
    | none => cases mem
    | some known => simpa using (List.mem_filter.mp mem).2
  induction declared generalizing values with
  | nil => exact full
  | cons name rest ih =>
    rw [fillDeclared]
    split
    · exact ih full
    · exact ih (full.put (stored name))

/-- Where every declared name is there nothing is filled in. -/
theorem fillDeclared_of_held {declared : List String}
    (held : ∀ name ∈ declared, name ≠ readOnlyMarker → name ∈ values.names) :
    fillDeclared organization values declared = values := by
  induction declared with
  | nil => rfl
  | cons name rest ih =>
    obtain ⟨first, later⟩ := List.forall_mem_cons.mp held
    have skipped : (name == readOnlyMarker || values.holds name) = true := by
      rw [Bool.or_eq_true, beq_iff_eq, Keyed.holds_iff_mem_names]
      exact (Classical.em _).imp_right first
    rw [fillDeclared, if_pos skipped]
    exact ih later

/-! ## The name is restored -/

/-- What restoring the name leaves it leaves again. The restored name may be denied or not when it
is looked at again, and it may be blank; if it is restored again it is the same. -/
theorem restoreName_restored {before : Episode}
    (named : ∀ value ∈ Validator.storedName before.organization, value.IsTextual)
    (restored : policy.restoreName before = .ok episode) :
    policy.restoreName episode = .ok episode := by
  rcases restoreName_eq_ok restored with ⟨rfl, -⟩ | rfl
  · exact restored
  · cases unbound : before.organization.isNone with
    | true => rw [restoreName, if_pos unbound]
    | false =>
      have held : (before.values.put nameKey (before.persisted nameKey)).get? nameKey =
          some (before.persisted nameKey) := by
        rw [Keyed.get?_put, if_pos rfl]
      refine (restoreName_eq_ok_iff (by exact unbound)).mpr ⟨?_, ?_⟩
      · rw [Episode.get, held, Option.getD_some, persisted_nameKey]
        exact named
      · unfold Policy.restored
        split
        · exact congrArg (fun values => { before with values }) (Keyed.put_of_get? held)
        · rfl

/-! ## Building a set -/

/-- Values that building a set leaves as they are. -/
structure IsSettled (policy : Policy) (episode : Episode) : Prop where
  full : episode.values.IsFull
  declared : ∀ name ∈ policy.declared.names, name ≠ readOnlyMarker → name ∈ episode.values.names
  restored : policy.restoreName episode = .ok episode

/-- A new set comes with nothing but its values. -/
theorem begin_eq_start (begun : policy.begin submitted organization catalog = .ok episode) :
    episode = { organization, values := episode.values, catalog } := by
  obtain ⟨values, -, restored⟩ := begin_eq_ok begun
  rcases restoreName_eq_ok restored with ⟨rfl, -⟩ | rfl <;> rfl

/-- The values of a new set are settled. -/
theorem isSettled_begin
    (named : ∀ value ∈ Validator.storedName organization, value.IsTextual)
    (begun : policy.begin submitted organization catalog = .ok episode) :
    policy.IsSettled episode := by
  obtain ⟨values, given, restored⟩ := begin_eq_ok begun
  have filled : (policy.filled organization catalog values).values.IsFull :=
    isFull_fillDeclared (isFull_normalizeAll given) policy.declared.names
  refine ⟨?_, fun name => mem_names_begin begun, restoreName_restored named restored⟩
  rcases restoreName_eq_ok restored with ⟨rfl, -⟩ | rfl
  · exact filled
  · refine filled.put ?_
    rw [persisted_nameKey]
    exact fun value mem => (Validator.mem_storedName mem).1

/-- Settled values are the values of the set that is built from them. -/
theorem IsSettled.begin_asSubmitted {organization : Option Organization} {catalog : Catalog}
    (settled : policy.IsSettled { organization, values, catalog }) :
    policy.begin values.asSubmitted organization catalog =
      .ok { organization, values, catalog } := by
  have filled : fillDeclared organization values policy.declared.names = values :=
    fillDeclared_of_held settled.declared
  rw [Policy.begin, normalizeAll_asSubmitted settled.full]
  simp only [bind, Except.bind, filled]
  exact settled.restored

end Policy

/-- The name of every entry is a declared one. -/
theorem ProfileMetadata.mem_names_declared {metadata : ProfileMetadata} {catalog : Catalog}
    {handle : Handle} (mem : handle ∈ metadata.attributes) :
    (catalog.entry handle).name ∈ (metadata.declared catalog).names := by
  have named : handle ∈ metadata.named (catalog.entry handle).name catalog :=
    List.mem_filter.mpr ⟨mem, BEq.rfl⟩
  rw [← Keyed.get?_isSome_iff, get?_declared]
  simpa using List.ne_nil_of_mem named

/-- Normalization is idempotent: a set that is built from the values of a set is the same set, with
the same names in the same order and the same values. Every declared name but the read-only marker
is in it. -/
theorem ProfileMetadata.normalization_idempotent (metadata : ProfileMetadata) (catalog : Catalog)
    (context : Context) (validators : Registry Validator) {submitted : Keyed Value}
    {organization : Option Organization}
    (named : ∀ known, organization = some known → known.name.IsTextual) :
    let policy : Policy := { context, declared := metadata.declared catalog, validators }
    ∀ episode, policy.begin submitted organization catalog = .ok episode →
      policy.begin episode.values.asSubmitted organization catalog = .ok episode ∧
      ∀ handle ∈ metadata.attributes, (catalog.entry handle).name ≠ readOnlyMarker →
        (catalog.entry handle).name ∈ episode.values.names := by
  intro policy episode begun
  have textual : ∀ value ∈ Validator.storedName organization, value.IsTextual := by
    intro value mem
    obtain ⟨-, known, bound, rfl⟩ := Validator.mem_storedName mem
    exact named known bound
  have settled := Policy.isSettled_begin textual begun
  have start := Policy.begin_eq_start begun
  constructor
  · rw [start] at settled
    exact settled.begin_asSubmitted.trans (congrArg Except.ok start.symm)
  · exact fun handle mem => settled.declared _ (mem_names_declared mem)

/-- The name may be written as soon as it is there. It is left out, so the blank name of the
organization is restored; when the set is submitted again the name is blank and may be written. -/
theorem ProfileMetadata.normalization_idempotent_of_blank_name :
    let organization : Organization := { name := .text " " }
    let catalog : Catalog := { entries := [
      { name := nameKey, writeAllowed := [fun situation => !situation.value.isEmpty] },
      { name := "tier" }, { name := readOnlyMarker }] }
    let metadata : ProfileMetadata := { context := .updateProfile, attributes := [0, 1, 2] }
    let policy : Policy :=
      { context := .updateProfile, declared := metadata.declared catalog, validators := [] }
    let values : AttributeValues :=
      [("plan", [.text "basic"]), (nameKey, [.text " "]), ("tier", [])]
    organization.name.IsTextual ∧
    policy.begin [("plan", .list [.null, .text "basic"])] (some organization) catalog =
      .ok { organization := some organization, values, catalog } ∧
    policy.begin values.asSubmitted (some organization) catalog =
      .ok { organization := some organization, values, catalog } := by
  intro organization catalog metadata policy values
  have named : ∀ known, some organization = some known → known.name.IsTextual := by
    intro known same
    cases same
    exact Value.isTextual_text " "
  have begun : policy.begin [("plan", .list [.null, .text "basic"])] (some organization) catalog =
      .ok { organization := some organization, values, catalog } := rfl
  obtain ⟨again, -⟩ := metadata.normalization_idempotent catalog .updateProfile [] named _ begun
  exact ⟨named organization rfl, begun, again⟩

end ProfilePolicy
