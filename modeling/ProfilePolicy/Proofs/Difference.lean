import ProfilePolicy.Proofs.Asking

/-!
# The difference that an update applies

An update that comes to its end leaves the name of the organization and the attribute called like it
alone. A submitted name has its non-blank values afterwards, or what was stored if these are already
the values that are not missing, or if there are none and nothing is to be removed. A name that was
left out is as before unless it is to be removed, and a read-only name is not removed as long as a
value comes first under it or a text that is not blank is stored. The last record of the log tells
which names were set and which were removed.
-/

namespace ProfilePolicy

open Value

/-! ## Comparing stored values with texts -/

theorem same_text_iff {value : Value} {written : String} :
    (value == text written) = true ↔ value = text written := by
  cases value <;> simp [BEq.beq, same, sameAsNumber, number?]

theorem contains_texts_iff {texts : List String} {value : Value} :
    (texts.map text).contains value = true ↔ ∃ written ∈ texts, value = text written := by
  rw [List.contains_iff_exists_mem_beq]
  constructor
  · rintro ⟨other, mem, same⟩
    obtain ⟨written, listed, rfl⟩ := List.mem_map.mp mem
    exact ⟨written, listed, same_text_iff.mp same⟩
  · rintro ⟨written, listed, rfl⟩
    exact ⟨text written, List.mem_map_of_mem listed, same_text_iff.mpr rfl⟩

/-- A list of any values is a permutation of texts when it counts as one. -/
theorem isPerm_texts_iff {values : List Value} {texts : List String} :
    values.isPerm (texts.map text) = true ↔ values.Perm (texts.map text) := by
  induction values generalizing texts with
  | nil => cases texts <;> simp [List.isPerm]
  | cons value rest ih =>
    have front : ∀ written ∈ texts,
        (texts.map text).Perm (text written :: (texts.erase written).map text) :=
      fun written listed => (List.perm_cons_erase listed).map text
    rw [List.isPerm, Bool.and_eq_true, contains_texts_iff]
    constructor
    · rintro ⟨⟨written, listed, rfl⟩, counted⟩
      rw [erase_texts, ih] at counted
      exact (counted.cons _).trans (front written listed).symm
    · intro perm
      obtain ⟨written, listed, rfl⟩ := List.mem_map.mp (perm.mem_iff.mp List.mem_cons_self)
      rw [erase_texts, ih]
      exact ⟨⟨written, listed, rfl⟩, (perm.trans (front written listed)).cons_inv⟩

theorem sameListItems_eq_ok {values : List Value} {texts : List String} {same : Bool}
    (h : sameListItems values (texts.map text) = .ok same) :
    same = true ↔ values.Perm (texts.map text) := by
  rw [sameListItems] at h
  by_cases lengths : values.length = (texts.map text).length
  · rw [if_neg (by simpa using lengths)] at h
    obtain ⟨_, -, h⟩ := bind_eq_ok.mp h
    obtain ⟨_, -, h⟩ := bind_eq_ok.mp h
    rw [← Except.ok.inj h, sameCollection, lengths, BEq.rfl, Bool.true_and, isPerm_texts_iff]
  · rw [if_pos (by simpa using lengths)] at h
    rw [← Except.ok.inj h]
    constructor
    · intro impossible
      cases impossible
    · intro perm
      exact absurd perm.length_eq lengths

/-! ## What is left under a name -/

def present (stored : StoredValues) : List Value :=
  stored.filter fun value => !value.isNull

/-- Nothing is stored that a read-only rule would keep: no value comes first, and none is more than
a blank text. -/
def Vacant (stored : StoredValues) : Prop :=
  stored.headD .null = .null ∧ contents stored = []

structure Overwrites (remove : Bool) (texts : List String) (stored left : StoredValues) :
    Prop where
  kept : (present stored).Perm (texts.map text) ∨ texts = [] ∧ remove = false → left = stored
  replaced : ¬ ((present stored).Perm (texts.map text) ∨ texts = [] ∧ remove = false) →
    left = texts.map text

theorem overwrites_of_overwritten {remove : Bool} {submitted stored : List Value}
    {left : StoredValues} (h : overwritten remove submitted stored = .ok left) :
    ∃ texts, nonBlank submitted = .ok texts ∧ Overwrites remove texts stored left := by
  obtain ⟨wanted, decided, rfl⟩ := map_eq_ok.mp h
  obtain ⟨texts, given, decided⟩ := bind_eq_ok.mp decided
  obtain ⟨same, compared, decided⟩ := bind_eq_ok.mp decided
  have agrees : (same || (texts.isEmpty && !remove)) = true ↔
      (present stored).Perm (texts.map text) ∨ texts = [] ∧ remove = false := by
    rw [Bool.or_eq_true, Bool.and_eq_true, sameListItems_eq_ok compared, List.isEmpty_iff,
      Bool.not_eq_true']
    rfl
  refine ⟨texts, given, ?_, ?_⟩
  · intro unchanged
    rw [← Except.ok.inj decided, if_pos (agrees.mpr unchanged)]
  · intro changed
    rw [← Except.ok.inj decided, if_neg (mt agrees.mp changed)]

structure Omits (remove : Bool) (isProtected : Prop) (stored left : StoredValues) : Prop where
  kept : remove = false ∨ isProtected ∧ ¬ Vacant stored → left = stored
  removed : ¬ (remove = false ∨ isProtected ∧ ¬ Vacant stored) → left = []

theorem omits_of_missing {config : Config} {remove : Bool} {situation : Situation}
    {left : StoredValues} (notName : situation.name ≠ nameKey)
    (missing : situation.values.get? situation.name = none)
    (h : situation.updated config remove = .ok left) :
    Omits remove (config.Protects situation.context situation.name) situation.stored left := by
  rw [Situation.updated_of_missing config remove notName missing] at h
  cases remove with
  | false =>
    cases h
    exact ⟨fun _ => rfl, fun asked => absurd (Or.inl rfl) asked⟩
  | true =>
    have leftOut : situation.value = [] := by
      rw [Situation.value, missing]
      rfl
    obtain ⟨rejected, known, rfl⟩ := map_eq_ok.mp h
    -- a rule rejects the name exactly when it is protected and something is stored
    have decides : rejected = true ↔
        config.Protects situation.context situation.name ∧ ¬ Vacant situation.stored := by
      have lets : Policy.rejection config situation = .ok false ↔
          (config.Protects situation.context situation.name → Vacant situation.stored) := by
        rw [Policy.rejection_eq_false_iff leftOut, Vacant, contents_eq_nil_iff]
      rw [known, Except.ok.injEq] at lets
      rw [← Bool.not_eq_false, lets, Classical.not_imp]
    constructor
    · rintro (impossible | guarded)
      · cases impossible
      · rw [if_pos (decides.mpr guarded)]
    · intro free
      rw [if_neg]
      intro yes
      exact free (Or.inr (decides.mp yes))

/-- An organization after an update that came to its end. The values are those of the set. -/
structure AppliesDifference (config : Config) (context : Context) (remove : Bool)
    (values : AttributeValues) (before after : Organization) : Prop where
  name : after.name = before.name
  nameAttribute : after.valuesOf nameKey = before.valuesOf nameKey
  submitted : ∀ name submitted, name ≠ nameKey → values.get? name = some submitted →
    ∃ texts, nonBlank submitted = .ok texts ∧
      Overwrites remove texts (before.valuesOf name) (after.valuesOf name)
  omitted : ∀ name, name ≠ nameKey → name ∉ values.names →
    Omits remove (config.Protects context name) (before.valuesOf name) (after.valuesOf name)

/-- The last record of a log tells which names calls set, in the order of the set, and which ones
they removed, in ascending order. No name is told as both. -/
structure RecordsCalls (context : Context) (organization : Organization) (values : AttributeValues)
    (calls : List Call) (journal : List Log.Record) : Prop where
  record : ∃ removed, journal.getLast? =
      some (.profileUpdated organization.name context (Call.setNames calls) removed) ∧
    removed.Perm (Call.removedNames calls) ∧
    removed.Pairwise fun left right => Text.isBefore right left = false
  inOrder : (Call.setNames calls).Sublist values.names
  disjoint : ∀ name ∈ Call.setNames calls, name ∉ Call.removedNames calls

theorem sortedTexts_perm (texts : List String) : (sortedTexts texts).Perm texts :=
  List.mergeSort_perm texts _

theorem pairwise_sortedTexts (texts : List String) :
    (sortedTexts texts).Pairwise fun left right => Text.isBefore right left = false := by
  have sorted : (sortedTexts texts).Pairwise fun left right =>
      (!Text.isBefore right left) = true := by
    apply List.pairwise_mergeSort
    · intro first second third
      simp only [Text.isBefore, Bool.not_eq_true', decide_eq_false_iff_not, List.not_lt]
      exact List.le_trans
    · intro left right
      simp only [Text.isBefore, Bool.or_eq_true, Bool.not_eq_true', decide_eq_false_iff_not,
        List.not_lt]
      exact List.le_total _ _
  exact sorted.imp fun h => by simpa using h

namespace Profile

variable {config : Config} {policy : Policy} {episode : Episode} {organization : Organization}
variable {remove : Bool}

theorem setNames_setCalls_sublist (entries : AttributeValues) :
    (Call.setNames (setCalls remove organization entries)).Sublist entries.names := by
  induction entries with
  | nil => exact List.Sublist.slnil
  | cons entry rest ih =>
    cases made : setCall? remove organization entry with
    | none =>
      rw [setCalls, List.filterMap_cons_none made]
      exact ih.cons entry.1
    | some call =>
      obtain ⟨-, texts, rfl, -⟩ := setCall?_eq_some made
      rw [setCalls, List.filterMap_cons_some made]
      exact ih.cons_cons entry.1

theorem setNames_dueCalls_sublist (order : Order) :
    (Call.setNames (dueCalls config policy remove order episode organization)).Sublist
      episode.values.names := by
  have noRemovals : Call.setNames (removeCalls config policy remove order episode) = [] := by
    cases remove with
    | false => rfl
    | true => exact Call.setNames_removals _
  rw [dueCalls, Call.setNames_append, noRemovals, List.append_nil]
  exact (setNames_setCalls_sublist _).trans (List.filter_sublist.map _)

theorem not_mem_of_removed (bound : episode.organization = some organization) (order : Order)
    {name : String}
    (mem : name ∈ Call.removedNames (dueCalls config policy remove order episode organization)) :
    name ∉ episode.values.names := by
  rw [dueCalls, Call.removedNames_append, removedNames_setCalls, List.nil_append] at mem
  cases remove with
  | false => cases mem
  | true =>
    rw [removeCalls, if_pos rfl, Call.removedNames_removals] at mem
    have visited := (List.mem_filter.mp mem).1
    exact ((mem_omitted bound).mp ((order.perm _).mem_iff.mp visited)).2

theorem recordsCalls_dueCalls (bound : episode.organization = some organization) (order : Order)
    {journal : List Log.Record}
    (recorded : journal.getLast? = some (updateRecord policy organization
      (dueCalls config policy remove order episode organization))) :
    RecordsCalls policy.context organization episode.values
      (dueCalls config policy remove order episode organization) journal := by
  refine ⟨⟨_, recorded, sortedTexts_perm _, pairwise_sortedTexts _⟩, ?_, ?_⟩
  · exact setNames_dueCalls_sublist order
  · intro name set removed
    exact not_mem_of_removed bound order removed ((setNames_dueCalls_sublist order).subset set)

theorem appliesDifference_of_updates {left : Organization}
    (bound : episode.organization = some organization) (follows : left.Follows organization)
    (all : ∀ name, Updates config policy remove episode name (left.valuesOf name)) :
    AppliesDifference config policy.context remove episode.values organization left := by
  constructor
  · exact follows.name
  · have kept := all nameKey
    unfold Updates at kept
    rw [updated_nameKey, stored_situation bound] at kept
    exact (Except.ok.inj kept).symm
  · intro name submitted notName found
    have written := all name
    unfold Updates at written
    rw [Situation.updated_of_submitted config remove notName found, stored_situation bound]
      at written
    exact overwrites_of_overwritten written
  · intro name notName absent
    have omits := omits_of_missing notName (Keyed.get?_eq_none_iff.mpr absent) (all name)
    rw [stored_situation bound] at omits
    exact omits

end Profile

/-- An update of a fresh profile that comes to its end applies exactly the difference, makes
exactly the calls for it and records them. -/
theorem Provider.IsBuiltin.update_applies_difference {provider : Provider} {config : Config}
    (builtin : provider.IsBuiltin config) {context : Context} {submitted : Submission}
    {organization : Organization} {profile after : Profile}
    (created : provider.create context submitted.entries (some organization) = .ok profile)
    (remove : Bool) (validation removal : Order)
    (updated : (profile.run fun policy =>
      Profile.update policy remove validation.visit removal.visit) = (.ok (), after)) :
    ∃ left calls, after.episode.organization = some left ∧
      AppliesDifference config context remove profile.episode.values organization left ∧
      profile.Asks (fun policy => Profile.update policy remove validation.visit removal.visit)
        calls ∧
      RecordsCalls context organization profile.episode.values calls after.episode.journal := by
  have fresh := builtin.isFresh_create created
  have sound := fresh.isSound
  have bound := fresh.organization_eq
  obtain ⟨accepted, leaves⟩ := sound.of_update_ok bound validation removal updated
  have decided := Profile.decided_of_leaves leaves
  obtain ⟨left, writes, follows, all⟩ := leaves
  have asks := sound.asks_update bound accepted decided validation removal
  have applied := Profile.appliesDifference_of_updates bound follows all
  obtain ⟨last, -, result, recorded⟩ :=
    sound.run_update remove bound accepted decided validation removal rfl
  rw [updated] at result
  obtain ⟨finished, rfl⟩ := Prod.mk.inj result
  have granted : (Call.performAll organization (Profile.dueCalls config profile.policy remove
      removal profile.episode organization)).1 = .ok () := by
    cases outcome : (Call.performAll organization (Profile.dueCalls config profile.policy remove
      removal profile.episode organization)).1 with
    | ok done => rfl
    | error fault =>
      rw [outcome] at finished
      cases finished
  have records := Profile.recordsCalls_dueCalls bound removal (recorded granted)
  rw [fresh.context_eq] at applied records
  exact ⟨left, _, writes.organization, applied, asks, records⟩

/-- A manager changes one attribute and leaves out two, one of which is read-only. -/
theorem Provider.update_applies_difference_of_manager :
    let organization : Organization :=
      { name := .text "sample", storage := .entries [("plain", [.text "1"]),
          ("spare", [.text "x"]), ("org_ro_tier", [.text "basic"])] }
    let submitted := Submission.ofPairs [("plain", .text "2")]
    let update := fun policy =>
      Profile.update policy true Order.listed.visit Order.listed.visit
    ∃ profile after left calls,
      (Provider.standard {}).IsBuiltin {} ∧
      (Provider.standard {}).create .updateProfile submitted.entries (some organization) =
        .ok profile ∧
      profile.run update = (.ok (), after) ∧ after.episode.organization = some left ∧
      AppliesDifference {} .updateProfile true profile.episode.values organization left ∧
      profile.Asks update calls ∧
      RecordsCalls .updateProfile organization profile.episode.values calls
        after.episode.journal := by
  intro organization submitted update
  have builtin := Provider.isBuiltin_standard {}
  have creates : ((Provider.standard {}).create .updateProfile submitted.entries
      (some organization)).toBool = true := by decide +kernel
  have created := eq_ok_of_toBool creates
  have succeeds : ((((Provider.standard {}).create .updateProfile submitted.entries
      (some organization)).toOption.getD default).run update).1.toBool = true := by decide +kernel
  have updated := Profile.run_eq_of_toBool succeeds
  obtain ⟨left, calls, rest⟩ :=
    builtin.update_applies_difference created true .listed .listed updated
  exact ⟨_, _, left, calls, builtin, created, updated, rest⟩

/-- Missing values do not count when stored values are compared with a submission, and a missing
value stored under a read-only name does not keep it from being removed. -/
theorem Provider.missing_values_not_compared :
    let organization : Organization :=
      { name := .text "sample",
        storage := .entries [("plain", [.null, .text "a"]), ("org_ro_x", [.null])] }
    let submitted := Submission.ofPairs [("name", .list [.text "sample"]),
      ("plain", .list [.text "a"])]
    let update := fun policy =>
      Profile.update policy true Order.listed.visit Order.listed.visit
    ∃ profile after left,
      (Provider.standard {}).create .updateProfile submitted.entries (some organization) =
        .ok profile ∧
      profile.run update = (.ok (), after) ∧ after.episode.organization = some left ∧
      (¬ (organization.valuesOf "plain").Perm [.text "a"] ∧
        left.valuesOf "plain" ≠ [.text "a"]) ∧
      Config.Protects {} .updateProfile "org_ro_x" ∧
        left.valuesOf "org_ro_x" ≠ organization.valuesOf "org_ro_x" := by
  intro organization submitted update
  have creates : ((Provider.standard {}).create .updateProfile submitted.entries
      (some organization)).toBool = true := by decide +kernel
  have created := eq_ok_of_toBool creates
  have succeeds : ((((Provider.standard {}).create .updateProfile submitted.entries
      (some organization)).toOption.getD default).run update).1.toBool = true := by decide +kernel
  have updated := Profile.run_eq_of_toBool succeeds
  -- what is stored in the end is told by lengths alone
  have lengths : ((((Provider.standard {}).create .updateProfile submitted.entries
      (some organization)).toOption.getD default).run update).2.episode.organization.map
        (fun left => ((left.valuesOf "plain").length, (left.valuesOf "org_ro_x").length)) =
      some (2, 0) := by decide +kernel
  obtain ⟨left, bound, same⟩ := Option.map_eq_some_iff.mp lengths
  obtain ⟨plain, readOnly⟩ := Prod.mk.inj same
  refine ⟨_, _, left, created, updated, bound, ⟨?_, ?_⟩, by decide, ?_⟩
  · intro perm
    cases perm.length_eq
  · intro kept
    rw [kept] at plain
    cases plain
  · intro kept
    rw [kept] at readOnly
    cases readOnly

end ProfilePolicy
