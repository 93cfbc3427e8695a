import ProfilePolicy.Proofs.Creation
import ProfilePolicy.Proofs.Protection

/-!
# Edits in a row

An edit makes a fresh profile from a submission and updates the organization with it, whatever comes
of that. Any number of edits keeps the name of the organization and the contents under the names
that are protected in all of their contexts.
-/

namespace ProfilePolicy

open Value

/-- A submission under a context, and how it is applied. -/
structure Edit where
  context : Context
  submitted : Submission
  remove : Bool
  validation : Order
  removal : Order

/-- The outcome of an edit and the organization after it. An edit that fails leaves what it wrote
until then. -/
def Edit.attempt (provider : Provider) (organization : Organization) (edit : Edit) :
    Except Fault Unit × Organization :=
  match provider.create edit.context edit.submitted.entries (some organization) with
  | .error fault => (.error fault, organization)
  | .ok profile =>
    let (result, profile) := profile.run fun policy =>
      Profile.update policy edit.remove edit.validation.visit edit.removal.visit
    (result, profile.episode.organization.getD organization)

def Edit.apply (provider : Provider) (organization : Organization) (edit : Edit) : Organization :=
  (edit.attempt provider organization).2

def Edit.applyAll (provider : Provider) (organization : Organization) (edits : List Edit) :
    Organization :=
  edits.foldl (Edit.apply provider) organization

namespace Edit

variable {provider : Provider} {config : Config}

/-- One edit keeps what its context protects. -/
theorem apply_preserves (builtin : provider.IsBuiltin config) (organization : Organization)
    (edit : Edit) :
    (edit.apply provider organization).Preserves organization (config.Protects edit.context) := by
  unfold apply attempt
  cases created : provider.create edit.context edit.submitted.entries (some organization) with
  | error fault => exact .refl organization
  | ok profile =>
    have fresh := builtin.isFresh_create created
    obtain ⟨left, bound, preserves⟩ := fresh.isSound.update_preserves edit.remove
      fresh.organization_eq edit.validation edit.removal
    simp only [bound, Option.getD_some]
    exact preserves

/-- Edits in turn keep what is protected in all of their contexts. -/
theorem applyAll_preserves (builtin : provider.IsBuiltin config) {isProtected : String → Prop}
    (organization : Organization) (edits : List Edit)
    (protects : ∀ edit ∈ edits, ∀ name, isProtected name → config.Protects edit.context name) :
    (applyAll provider organization edits).Preserves organization isProtected := by
  induction edits generalizing organization with
  | nil => exact .refl organization
  | cons edit rest ih =>
    have first := apply_preserves builtin organization edit
    have later := ih (edit.apply provider organization) fun other mem =>
      protects other (List.mem_cons_of_mem _ mem)
    refine later.trans ⟨first.name, fun name isProtected => ?_⟩
    exact first.contents name (protects edit List.mem_cons_self name isProtected)

/-- No number of edits changes the name of an organization or the contents under the names that bind
administrators, and managers alone change no contents under the names that bind them. -/
theorem read_only_contents_survive (builtin : provider.IsBuiltin config)
    (organization : Organization) (edits : List Edit) :
    (applyAll provider organization edits).Preserves organization
        (config.Protects .updateMetadata) ∧
      ((∀ edit ∈ edits, edit.context = .updateProfile) →
        (applyAll provider organization edits).Preserves organization
          (config.Protects .updateProfile)) := by
  constructor
  · apply applyAll_preserves builtin
    intro edit _ name protects
    exact protects.manager edit.context
  · intro managers
    apply applyAll_preserves builtin
    intro edit mem name protects
    rw [managers edit mem]
    exact protects

/-- An administrator and a manager try to change attributes that bind them. -/
theorem read_only_contents_survive_of_two :
    let organization : Organization :=
      { name := .text "sample", storage := .entries [("admin_org_ro_tier", [.text "gold"])] }
    let edits : List Edit := [
      { context := .updateMetadata, remove := true, validation := .listed, removal := .listed
        submitted := .ofPairs [("admin_org_ro_tier", .text "basic")] },
      { context := .updateProfile, remove := true, validation := .listed, removal := .listed
        submitted := .ofPairs [("name", .null)] }]
    (Provider.standard {}).IsBuiltin {} ∧
      (contents [.text "gold"]).Perm
        (contents ((applyAll (Provider.standard {}) organization edits).valuesOf
          "admin_org_ro_tier")) := by
  intro organization edits
  have builtin := Provider.isBuiltin_standard {}
  have protects : Config.Protects {} .updateMetadata "admin_org_ro_tier" := by decide
  have survives := (read_only_contents_survive builtin organization edits).1
  exact ⟨builtin, survives.contents "admin_org_ro_tier" protects⟩

end Edit

end ProfilePolicy
