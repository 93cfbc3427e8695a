import ProfilePolicy.Proofs.Rows
import ProfilePolicy.Proofs.Serving

/-!
# Organizations as the service keeps them

The service keeps attributes as rows of texts, and none under the name of the organization. A
creation starts that way and a change leaves it that way: the engine writes texts that are not
blank, and never under the name of the organization. What is kept comes back as it was.
-/

namespace ProfilePolicy

open Value

/-- Collecting rows adds a value to a name, so no name is left without one. -/
theorem AttributeRow.ne_nil_of_mem_foldl {rows : List AttributeRow} {found : Keyed StoredValues}
    (valued : ∀ entry ∈ found, entry.2 ≠ []) {entry : String × StoredValues}
    (listed : entry ∈ rows.foldl (fun found row =>
      found.put row.name ((found.get? row.name).getD [] ++ [row.value])) found) : entry.2 ≠ [] := by
  induction rows generalizing found with
  | nil => exact valued entry listed
  | cons row rest ih =>
    refine ih ?_ listed
    intro entry mem
    rcases Keyed.mem_of_mem_put mem with rfl | held
    · exact List.append_ne_nil_of_right_ne_nil _ (List.cons_ne_nil _ _)
    · exact valued entry held

theorem AttributeRow.ne_nil_of_mem_attributes {rows : List AttributeRow}
    {entry : String × StoredValues} (listed : entry ∈ attributes rows) : entry.2 ≠ [] :=
  ne_nil_of_mem_foldl (fun _ mem => absurd mem List.not_mem_nil) listed

namespace Organization

/-- What is told about an organization is in order: no attribute is called like its name, and none
is listed without values. -/
structure IsTidy (organization : Organization) : Prop where
  nameless : nameKey ∉ organization.attributeNames
  valued : ∀ entry ∈ organization.attributes, entry.2 ≠ []

/-- Attributes are kept as rows that come back in order. -/
def InRows (organization : Organization) : Prop :=
  ∃ held, organization.storage = .rows held ∧ AttributeRow.Ordered held

structure IsKept (organization : Organization) : Prop where
  named : ∃ name, organization.name = text name
  inRows : organization.InRows
  texts : ∀ name, ∀ v ∈ organization.valuesOf name, ∃ written, v = text written
  nameless : organization.valuesOf nameKey = []
  willing : organization.refusals = none

variable {organization : Organization}

theorem IsKept.isTidy (kept : organization.IsKept) : organization.IsTidy := by
  obtain ⟨held, isRows, -⟩ := kept.inRows
  constructor
  · intro listed
    rw [attributeNames, attributes, isRows] at listed
    obtain ⟨row, mem, isName⟩ := AttributeRow.mem_names_attributes.mp listed
    have nameless := kept.nameless
    rw [valuesOf, isRows] at nameless
    exact AttributeRow.valuesOf_ne_nil mem (isName ▸ nameless)
  · intro entry listed
    rw [attributes, isRows] at listed
    exact AttributeRow.ne_nil_of_mem_attributes listed

theorem InRows.apply (inRows : organization.InRows) (call : Call) :
    (call.apply organization).InRows := by
  obtain ⟨held, isRows, ordered⟩ := inRows
  cases call with
  | set name texts =>
    refine ⟨AttributeRow.replace held name (texts.map text), ?_, ordered.replace name _⟩
    rw [Call.apply, isRows]
    rfl
  | remove name =>
    refine ⟨AttributeRow.without held name, ?_, ordered.without name⟩
    rw [Call.apply, isRows]
    rfl

theorem InRows.applyAll (inRows : organization.InRows) (calls : List Call) :
    (Call.applyAll organization calls).InRows := by
  induction calls generalizing organization with
  | nil => exact inRows
  | cons call rest ih => exact ih (inRows.apply call)

end Organization

namespace StoredOrganization

variable {stored : StoredOrganization}

/-- What is kept comes back with the same values. -/
theorem valuesOf_reload (inRows : stored.organization.InRows) (name : String) :
    stored.reload.organization.valuesOf name = stored.organization.valuesOf name := by
  obtain ⟨held, isRows, ordered⟩ := inRows
  unfold reload
  rw [isRows, Organization.valuesOf, Organization.valuesOf, isRows]
  exact AttributeRow.valuesOf_reload ordered name

theorem isKept_reload (kept : stored.organization.IsKept) : stored.reload.organization.IsKept := by
  refine ⟨?_, ?_, ?_, ?_, ?_⟩
  · rw [reload_name]
    exact kept.named
  · obtain ⟨held, isRows, -⟩ := kept.inRows
    refine ⟨AttributeRow.reload held, ?_, AttributeRow.ordered_reload held⟩
    rw [reload, isRows]
  · intro name
    rw [valuesOf_reload kept.inRows]
    exact kept.texts name
  · rw [valuesOf_reload kept.inRows]
    exact kept.nameless
  · obtain ⟨held, isRows, -⟩ := kept.inRows
    rw [reload, isRows]
    exact kept.willing

end StoredOrganization

/-! ## Creating -/

namespace Api

open Organization

def addInitial (rows : List AttributeRow) (entry : String × List String) : List AttributeRow :=
  if entry.1 == nameKey then rows
  else AttributeRow.replace rows entry.1 (entry.2.map text)

theorem initialRows_eq (attributes : List (String × List String)) :
    initialRows attributes = attributes.foldl addInitial [] := rfl

theorem valuesOf_addInitial (rows : List AttributeRow) (entry : String × List String)
    (name : String) :
    AttributeRow.valuesOf (addInitial rows entry) name =
      if name = entry.1 ∧ name ≠ nameKey then entry.2.map text
      else AttributeRow.valuesOf rows name := by
  unfold addInitial
  have replaced :
      AttributeRow.valuesOf (AttributeRow.replace rows entry.1 (entry.2.map text)) name =
      if name = entry.1 then entry.2.map text else AttributeRow.valuesOf rows name :=
    Storage.valuesOf_replace (.rows rows) entry.1 (entry.2.map text) name
  by_cases isName : entry.1 = nameKey
  · rw [if_pos (beq_iff_eq.mpr isName), if_neg fun h => h.2 (h.1.trans isName)]
  · rw [if_neg (by simpa using isName), replaced]
    by_cases own : name = entry.1
    · rw [if_pos own, if_pos ⟨own, own ▸ isName⟩]
    · rw [if_neg own, if_neg fun h => own h.1]

/-- What is given last under a name counts, and each name is given once. -/
theorem valuesOf_foldl_addInitial {attributes : List (String × List String)}
    (distinct : Keyed.Distinct attributes) (rows : List AttributeRow) (name : String) :
    AttributeRow.valuesOf (attributes.foldl addInitial rows) name =
      if name = nameKey ∨ name ∉ Keyed.names attributes then AttributeRow.valuesOf rows name
      else ((Keyed.get? attributes name).getD []).map text := by
  induction attributes generalizing rows with
  | nil => exact (if_pos (Or.inr List.not_mem_nil)).symm
  | cons entry rest ih =>
    obtain ⟨fresh, distinctRest⟩ := Keyed.distinct_cons.mp distinct
    have names : Keyed.names (entry :: rest) = entry.1 :: Keyed.names rest := rfl
    rw [List.foldl_cons, ih distinctRest, valuesOf_addInitial, Keyed.get?_cons, names]
    by_cases isName : name = nameKey
    · simp [isName]
    · by_cases own : name = entry.1
      · subst own
        simp [isName, fresh]
      · simp [isName, own]

/-- Initial attributes have the values that are given for them, and the name of the organization is
none of them. -/
theorem valuesOf_initialRows {attributes : List (String × List String)}
    (distinct : Keyed.Distinct attributes) (name : String) :
    AttributeRow.valuesOf (initialRows attributes) name =
      if name = nameKey then []
      else ((Keyed.get? attributes name).getD []).map text := by
  rw [initialRows_eq, valuesOf_foldl_addInitial distinct]
  by_cases isName : name = nameKey
  · simp [isName, AttributeRow.valuesOf]
  · by_cases given : name ∈ Keyed.names attributes
    · simp [isName, given]
    · simp [isName, given, Keyed.get?_eq_none_iff.mpr given, AttributeRow.valuesOf]

theorem ordered_addInitial {rows : List AttributeRow} (ordered : AttributeRow.Ordered rows)
    (entry : String × List String) : AttributeRow.Ordered (addInitial rows entry) := by
  unfold addInitial
  split
  · exact ordered
  · exact ordered.replace _ _

theorem ordered_foldl_addInitial {rows : List AttributeRow} (ordered : AttributeRow.Ordered rows)
    (attributes : List (String × List String)) :
    AttributeRow.Ordered (attributes.foldl addInitial rows) := by
  induction attributes generalizing rows with
  | nil => exact ordered
  | cons entry rest ih => exact ih (ordered_addInitial ordered entry)

theorem ordered_initialRows (attributes : List (String × List String)) :
    AttributeRow.Ordered (initialRows attributes) :=
  ordered_foldl_addInitial List.Pairwise.nil attributes

variable {request : Request} {creation : Creation}

theorem Request.Carries.distinct_creation (carries : request.Carries Creation.ofValue creation) :
    Keyed.Distinct creation.attributes := by
  obtain ⟨value, read, form⟩ := carries
  exact Creation.nodup_of_ofValue (namesOnce_of_readContent read) form

/-- A creation gives no value under any name but that of the organization. -/
def Creation.IsBare (creation : Creation) : Prop :=
  ∀ entry ∈ creation.attributes, entry.1 = nameKey ∨ entry.2 = []

theorem Request.Carries.isKept_stored (carries : request.Carries Creation.ofValue creation)
    (supply : Supply) : (creation.stored supply).organization.IsKept := by
  have values : ∀ name, (creation.stored supply).organization.valuesOf name =
      if name = nameKey then []
      else ((Keyed.get? creation.attributes name).getD []).map text :=
    valuesOf_initialRows carries.distinct_creation
  refine ⟨⟨creation.name, rfl⟩, ⟨_, rfl, ordered_initialRows _⟩, ?_, ?_, rfl⟩
  · intro name v mem
    rw [values] at mem
    split at mem
    · cases mem
    · obtain ⟨written, -, rfl⟩ := List.mem_map.mp mem
      exact ⟨written, rfl⟩
  · rw [values, if_pos rfl]

/-- A new organization has a value unless its creation gives none. -/
theorem Request.Carries.hasRows_eq_false_iff (carries : request.Carries Creation.ofValue creation)
    (supply : Supply) : (creation.stored supply).hasRows = false ↔ creation.IsBare := by
  have distinct := carries.distinct_creation
  have none : (creation.stored supply).hasRows = false ↔ initialRows creation.attributes = [] := by
    simp [Creation.stored, StoredOrganization.hasRows]
  rw [none]
  constructor
  · intro empty entry mem
    have values := valuesOf_initialRows distinct entry.1
    rw [empty, distinct.get?_of_mem mem] at values
    by_cases isName : entry.1 = nameKey
    · exact Or.inl isName
    · rw [if_neg isName] at values
      exact Or.inr (List.map_eq_nil_iff.mp values.symm)
  · intro bare
    rw [List.eq_nil_iff_forall_not_mem]
    intro row mem
    apply AttributeRow.valuesOf_ne_nil mem
    rw [valuesOf_initialRows distinct]
    split
    · rfl
    · rename_i notName
      cases given : Keyed.get? creation.attributes row.name with
      | none => rfl
      | some texts =>
        have empty : texts = [] := (bare _ (Keyed.mem_of_get? given)).resolve_left notName
        rw [empty]
        rfl

end Api

/-! ## Changing -/

/-- The values under a name are texts that are not blank. -/
def Visible (values : StoredValues) : Prop :=
  ∀ v ∈ values, ∃ written, v = text written ∧ Text.isBlank written = false

theorem visible_contents (submitted : List Value) :
    Visible ((contentTexts submitted).map text) := by
  intro v mem
  obtain ⟨written, held, rfl⟩ := List.mem_map.mp mem
  exact ⟨written, rfl, isBlank_of_mem_contentTexts held⟩

theorem Organization.IsKept.rename {organization : Organization} (kept : organization.IsKept)
    (name : String) : (organization.setName (text name)).IsKept :=
  ⟨⟨name, rfl⟩, kept.inRows, kept.texts, kept.nameless, kept.willing⟩

/-- An update keeps an organization as the service keeps it, and leaves texts that are not blank
where it changes anything. -/
theorem Profile.IsSound.update_keeps {profile after : Profile} {config : Config} {context : Context}
    {organization : Organization} {remove : Bool} (sound : profile.IsSound config context)
    (bound : profile.episode.organization = some organization) (kept : organization.IsKept)
    (validation removal : Order)
    (updated : (profile.run fun policy =>
      Profile.update policy remove validation.visit removal.visit) = (.ok (), after)) :
    ∃ left, after.episode.organization = some left ∧ left.Follows organization ∧ left.IsKept ∧
      ∀ name, left.valuesOf name = organization.valuesOf name ∨ Visible (left.valuesOf name) := by
  obtain ⟨-, left, writes, follows, all⟩ := sound.of_update_ok bound validation removal updated
  have values : ∀ name, left.valuesOf name = organization.valuesOf name ∨
      Visible (left.valuesOf name) := by
    intro name
    rcases Situation.updated_cases (all name) with same | empty | ⟨submitted, written⟩
    · rw [stored_situation bound] at same
      exact Or.inl same
    · rw [empty]
      exact Or.inr fun v mem => absurd mem List.not_mem_nil
    · rw [written]
      exact Or.inr (visible_contents submitted)
  have inRows : left.InRows := by
    have applies := sound.update_applies bound validation removal updated
    rw [writes.organization] at applies
    rw [Option.some.inj applies]
    exact kept.inRows.applyAll _
  refine ⟨left, writes.organization, follows, ⟨?_, inRows, ?_, ?_, ?_⟩, values⟩
  · rw [follows.name]
    exact kept.named
  · intro name v mem
    rcases values name with same | visible
    · exact kept.texts name v (same ▸ mem)
    · obtain ⟨written, isText, -⟩ := visible v mem
      exact ⟨written, isText⟩
  · have unwritten : (profile.policy.situation nameKey profile.episode).updated config remove =
        .ok (left.valuesOf nameKey) := all nameKey
    rw [Profile.updated_nameKey, stored_situation bound] at unwritten
    rw [← Except.ok.inj unwritten]
    exact kept.nameless
  · rw [follows.refusals]
    exact kept.willing

namespace Api

/-- A change keeps an organization as the service keeps it, and leaves texts that are not blank
where it changes anything. -/
theorem Change.Makes.keeps {provider : Provider} {config : Config}
    (builtin : provider.IsBuiltin config) {request : Request} {change : Change}
    (carries : request.Carries Change.ofValue change) {context : Context}
    {stored left : StoredOrganization} (kept : stored.organization.IsKept)
    (made : change.Makes provider context stored left) :
    left.organization.IsKept ∧ ∀ name,
      left.organization.valuesOf name = stored.organization.valuesOf name ∨
        Visible (left.organization.valuesOf name) := by
  obtain ⟨profile, after, created, updated, rfl⟩ := made
  have fresh := carries.isFresh builtin created
  obtain ⟨organization, bound, -, kept, values⟩ := fresh.isSound.update_keeps fresh.organization_eq
    kept .sorted .sorted updated
  rw [bound, Option.getD_some]
  unfold Change.applied
  dsimp only
  split
  · exact ⟨kept.rename _, values⟩
  · exact ⟨kept, values⟩

end Api

end ProfilePolicy
