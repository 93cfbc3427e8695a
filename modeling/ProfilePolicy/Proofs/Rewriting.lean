import ProfilePolicy.Proofs.Edits

/-!
# When a protected list is rewritten

A successful edit keeps the contents under a protected name, but not always the list. Validation
compares contents, whereas the difference that is written compares all texts stored with the
contents submitted. So a submission that only repeats the contents, in whatever order, is written as
soon as a blank text is stored among them. Likewise a name that was left out is removed when a
missing value comes first and nothing of contents is stored. In all other cases the list stays as it
is.
-/

namespace ProfilePolicy

open Value

def HoldsBlank (values : List Value) : Prop :=
  ∃ written, text written ∈ values ∧ Text.isBlank written = true

/-- When a successful edit changes the list stored under a protected name. -/
inductive Rewrites (remove : Bool) (submitted : Prop) (stored : List Value) : Prop
  | written (given : submitted) (blank : HoldsBlank stored)
      (wanted : contents stored ≠ [] ∨ remove = true)
  | removed (leftOut : ¬ submitted) (asked : remove = true) (missing : stored.head? = some null)
      (empty : contents stored = [])

theorem rewrites_of_submitted {remove : Bool} {submitted : Prop} {stored : List Value}
    (given : submitted) :
    Rewrites remove submitted stored ↔
      HoldsBlank stored ∧ (contents stored ≠ [] ∨ remove = true) := by
  constructor
  · rintro (⟨_, blank, wanted⟩ | ⟨leftOut, _, _, _⟩)
    · exact ⟨blank, wanted⟩
    · exact absurd given leftOut
  · rintro ⟨blank, wanted⟩
    exact .written given blank wanted

theorem rewrites_of_left_out {remove : Bool} {submitted : Prop} {stored : List Value}
    (leftOut : ¬ submitted) :
    Rewrites remove submitted stored ↔
      remove = true ∧ stored.head? = some null ∧ contents stored = [] := by
  constructor
  · rintro (⟨given, _, _⟩ | ⟨_, asked, missing, empty⟩)
    · exact absurd given leftOut
    · exact ⟨asked, missing, empty⟩
  · rintro ⟨asked, missing, empty⟩
    exact .removed leftOut asked missing empty

theorem perm_filter_iff {texts : List String} {keep : String → Bool} :
    texts.Perm (texts.filter keep) ↔ ∀ written ∈ texts, keep written = true := by
  constructor
  · intro perm
    exact List.length_filter_eq_length_iff.mp perm.length_eq.symm
  · intro all
    rw [List.filter_eq_self.mpr all]

/-- The texts stored are the contents submitted unless a blank one is among them. -/
theorem texts_perm_iff {stored submitted : List Value}
    (perm : (contentTexts stored).Perm (contentTexts submitted)) :
    (stored.filterMap text?).Perm (contentTexts submitted) ↔ ¬ HoldsBlank stored := by
  have kept : (stored.filterMap text?).Perm (contentTexts submitted) ↔
      (stored.filterMap text?).Perm (contentTexts stored) :=
    ⟨fun h => h.trans perm.symm, fun h => h.trans perm⟩
  rw [kept, contentTexts, perm_filter_iff]
  constructor
  · rintro none ⟨written, mem, blank⟩
    have visible := none written (mem_texts_iff.mpr mem)
    rw [blank] at visible
    cases visible
  · intro none written mem
    cases blank : Text.isBlank written with
    | false => rfl
    | true => exact absurd ⟨written, mem_texts_iff.mp mem, blank⟩ none

theorem overwritten_of_textual {remove : Bool} {submitted stored : List Value}
    (textual : ∀ v ∈ stored, v.IsTextual) (textual' : ∀ v ∈ submitted, v.IsTextual) :
    overwritten remove submitted stored =
      .ok (if sameCollection (stored.filterMap text?) (contentTexts submitted) ||
          ((contentTexts submitted).isEmpty && !remove) then stored
        else (contentTexts submitted).map text) := by
  unfold overwritten replacement
  rw [nonBlank_of_textual textual', texts_of_textual textual]
  simp only [bind, Except.bind, sameListItems_texts, pure, Except.pure, Except.map]
  cases sameCollection (stored.filterMap text?) (contentTexts submitted) ||
    ((contentTexts submitted).isEmpty && !remove) <;> rfl

section Kept

variable {remove : Bool} {submitted stored : List Value} {left : StoredValues}

theorem contents_eq_nil_of_keeps (kept : Situation.Keeps stored submitted) :
    contents stored = [] ↔ contentTexts submitted = [] := by
  obtain ⟨textual, -, perm⟩ := kept
  rw [contents_eq_nil_iff, and_iff_right textual]
  constructor
  · intro none
    rw [none] at perm
    exact perm.nil_eq.symm
  · intro none
    rw [none] at perm
    exact perm.eq_nil

/-- Kept contents are written where a blank text is stored among them. -/
theorem overwritten_of_blank (kept : Situation.Keeps stored submitted) (blank : HoldsBlank stored)
    (wanted : contents stored ≠ [] ∨ remove = true) :
    overwritten remove submitted stored = .ok ((contentTexts submitted).map text) := by
  have differs : sameCollection (stored.filterMap text?) (contentTexts submitted) = false := by
    rw [← Bool.not_eq_true, sameCollection_iff_perm, texts_perm_iff kept.2.2]
    exact fun none => none blank
  have asked : ((contentTexts submitted).isEmpty && !remove) = false := by
    rw [Bool.and_eq_false_iff, Bool.not_eq_false', List.isEmpty_eq_false_iff, Ne,
      ← contents_eq_nil_of_keeps kept]
    exact wanted
  rw [overwritten_of_textual kept.1 kept.2.1, differs, asked]
  rfl

/-- Kept contents are not written otherwise. -/
theorem overwritten_of_not_blank (kept : Situation.Keeps stored submitted)
    (unwanted : ¬ (HoldsBlank stored ∧ (contents stored ≠ [] ∨ remove = true))) :
    overwritten remove submitted stored = .ok stored := by
  have passedOver : (sameCollection (stored.filterMap text?) (contentTexts submitted) ||
      ((contentTexts submitted).isEmpty && !remove)) = true := by
    rw [Bool.or_eq_true, sameCollection_iff_perm, texts_perm_iff kept.2.2, Bool.and_eq_true,
      List.isEmpty_iff, Bool.not_eq_true', ← contents_eq_nil_of_keeps kept]
    by_cases blank : HoldsBlank stored
    · right
      have neither := not_or.mp fun wanted => unwanted ⟨blank, wanted⟩
      exact ⟨Classical.not_not.mp neither.1, Bool.eq_false_iff.mpr neither.2⟩
    · exact Or.inl blank
  rw [overwritten_of_textual kept.1 kept.2.1, if_pos passedOver]

/-- The contents submitted are not the list of a name with a blank text. -/
theorem texts_ne_of_blank (submitted : List Value) (blank : HoldsBlank stored) :
    (contentTexts submitted).map text ≠ stored := by
  rintro rfl
  obtain ⟨written, mem, isBlank⟩ := blank
  obtain ⟨kept, listed, same⟩ := List.mem_map.mp mem
  cases same
  rw [isBlank_of_mem_contentTexts listed] at isBlank
  cases isBlank

/-- Writing a name whose contents are kept changes its list when a blank text is stored and there is
something to write. -/
theorem overwritten_ne_iff (kept : Situation.Keeps stored submitted)
    (h : overwritten remove submitted stored = .ok left) :
    left ≠ stored ↔ HoldsBlank stored ∧ (contents stored ≠ [] ∨ remove = true) := by
  constructor
  · intro changed
    refine Classical.byContradiction fun unwanted => changed ?_
    rw [overwritten_of_not_blank kept unwanted] at h
    exact (Except.ok.inj h).symm
  · rintro ⟨blank, wanted⟩
    rw [overwritten_of_blank kept blank wanted] at h
    cases h
    exact texts_ne_of_blank submitted blank

end Kept

namespace Situation

/-- Removing a protected name changes its list when a missing value comes first and nothing of
contents is stored. -/
theorem withdrawn_ne_iff {config : Config} {situation : Situation} {left : StoredValues}
    (leftOut : situation.value = []) (protects : config.Protects situation.context situation.name)
    (h : situation.withdrawn config = .ok left) :
    left ≠ situation.stored ↔ situation.stored.head? = some null ∧
      contents situation.stored = [] := by
  have removable : Policy.rejection config situation = .ok false ↔
      situation.stored.headD .null = .null ∧ contents situation.stored = [] := by
    rw [Policy.rejection_eq_false_iff leftOut, contents_eq_nil_iff]
    exact ⟨fun removable => removable protects, fun removable _ => removable⟩
  obtain ⟨kept, known, rfl⟩ := map_eq_ok.mp h
  rw [known] at removable
  cases kept with
  | true =>
    constructor
    · intro changed
      exact absurd rfl changed
    · rintro ⟨missing, empty⟩
      have head : situation.stored.headD .null = .null := by
        rw [List.headD_eq_head?_getD, missing, Option.getD_some]
      cases removable.mpr ⟨head, empty⟩
  | false =>
    obtain ⟨head, empty⟩ := removable.mp rfl
    rw [and_iff_left empty]
    cases stored : situation.stored with
    | nil => simp
    | cons first rest =>
      rw [stored, List.headD_cons] at head
      simp [head]

/-- What an update leaves under a protected name is another list exactly when it is rewritten. -/
theorem updated_ne_iff {config : Config} {remove : Bool} {situation : Situation}
    {left : StoredValues} (bound : situation.organization.isSome = true)
    (protects : config.Protects situation.context situation.name)
    (accepted : situation.name ∈ situation.values.names →
      Policy.finding config situation = .ok [])
    (h : situation.updated config remove = .ok left) :
    left ≠ situation.stored ↔ situation.name ≠ nameKey ∧
      Rewrites remove (situation.name ∈ situation.values.names) situation.stored := by
  by_cases isName : situation.name = nameKey
  · rw [updated, if_pos isName] at h
    cases h
    simp [isName]
  · rw [and_iff_right isName]
    by_cases listed : situation.name ∈ situation.values.names
    · obtain ⟨submitted, found⟩ :=
        Option.isSome_iff_exists.mp ((Keyed.get?_isSome_iff _ _).mpr listed)
      have kept := (Policy.finding_eq_nil_iff isName bound).mp (accepted listed) protects
      rw [value_of_get? found] at kept
      rw [updated_of_submitted config remove isName found] at h
      rw [overwritten_ne_iff kept h, rewrites_of_submitted listed]
    · have missing := Keyed.get?_eq_none_iff.mpr listed
      have leftOut : situation.value = [] := by
        rw [value, missing]
        rfl
      rw [updated_of_missing config remove isName missing] at h
      rw [rewrites_of_left_out listed]
      cases remove with
      | true => rw [withdrawn_ne_iff leftOut protects h, and_iff_right rfl]
      | false =>
        cases h
        simp

end Situation

namespace Edit

variable {provider : Provider} {config : Config}

/-- A successful edit was accepted and left under every name what it should. -/
theorem attempt_ok {organization : Organization} {edit : Edit} (builtin : provider.IsBuiltin config)
    (succeeds : (edit.attempt provider organization).1 = .ok ()) :
    ∃ profile : Profile, profile.IsFresh config edit.context edit.submitted (some organization) ∧
      Policy.Accepts config profile.policy profile.episode ∧
      ∀ name, Profile.Updates config profile.policy edit.remove profile.episode name
        ((edit.apply provider organization).valuesOf name) := by
  unfold apply
  unfold attempt at succeeds ⊢
  cases created : provider.create edit.context edit.submitted.entries (some organization) with
  | error fault =>
    rw [created] at succeeds
    cases succeeds
  | ok profile =>
    have fresh := builtin.isFresh_create created
    rw [created] at succeeds
    have outcome := profile.run_cases
      (fun policy => Profile.update policy edit.remove edit.validation.visit edit.removal.visit)
      (Profile.leads_update edit.remove fresh.builtin fresh.holds fresh.distinct
        fresh.organization_eq fresh.isSound.accepted edit.validation edit.removal)
    rcases outcome with ⟨_, after, result, accepted, left, writes, -, all⟩ |
      ⟨fault, after, failed, -⟩
    · refine ⟨profile, fresh, accepted, ?_⟩
      simp only [result, writes.organization, Option.getD_some]
      exact all
    · simp only [failed] at succeeds
      cases succeeds

/-- A successful edit changes the list under a protected name exactly when it rewrites it: when a
blank text is stored beside the contents that were kept, or a missing value before none. -/
theorem changes_protected_iff (builtin : provider.IsBuiltin config) {organization : Organization}
    {edit : Edit} (succeeds : (edit.attempt provider organization).1 = .ok ()) {name : String}
    (protects : config.Protects edit.context name) :
    (edit.apply provider organization).valuesOf name ≠ organization.valuesOf name ↔
      name ≠ nameKey ∧ Rewrites edit.remove (name ∈ edit.submitted.entries.names)
        (organization.valuesOf name) := by
  obtain ⟨profile, fresh, accepted, all⟩ := attempt_ok builtin succeeds
  have bound : (profile.policy.situation name profile.episode).organization.isSome = true :=
    congrArg Option.isSome fresh.organization_eq
  rw [← fresh.context_eq] at protects
  have changed := Situation.updated_ne_iff bound protects (accepted name) (all name)
  rw [Profile.stored_situation fresh.organization_eq] at changed
  rw [changed]
  apply and_congr_right
  intro notName
  have listed := propext (fresh.names name notName)
  rw [← listed]
  exact Iff.rfl

/-- A manager who submits the contents in another order rewrites them without the blank text. -/
theorem changes_protected_reordered :
    let organization : Organization :=
      { name := .text "sample", storage := .entries [("org_ro_x", [.text "", .text "a", .text "b"])] }
    let edit : Edit :=
      { context := .updateProfile, remove := false, validation := .listed, removal := .listed
        submitted := .ofPairs [("name", .list [.text "sample"]),
          ("org_ro_x", .list [.text "b", .text "a"])] }
    (edit.apply (Provider.standard {}) organization).valuesOf "org_ro_x" ≠
      organization.valuesOf "org_ro_x" := by
  intro organization edit
  have protects : Config.Protects {} .updateProfile "org_ro_x" := by decide
  have succeeded : (edit.attempt (Provider.standard {}) organization).1.toBool = true := by
    decide +kernel
  have succeeds : (edit.attempt (Provider.standard {}) organization).1 = .ok () :=
    (eq_ok_of_toBool succeeded).trans (congrArg Except.ok (Subsingleton.elim _ _))
  have given : "org_ro_x" ∈ edit.submitted.entries.names := by decide
  have blank : HoldsBlank (organization.valuesOf "org_ro_x") :=
    ⟨"", List.mem_cons_self, by decide⟩
  have wanted : contents (organization.valuesOf "org_ro_x") ≠ [] := by
    intro none
    have textual := (contents_eq_nil_iff.mp none).2
    revert textual
    decide
  exact (changes_protected_iff (Provider.isBuiltin_standard {}) succeeds protects).mpr
    ⟨by decide, .written given blank (Or.inl wanted)⟩

end Edit

end ProfilePolicy
