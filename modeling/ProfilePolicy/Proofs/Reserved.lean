import ProfilePolicy.Proofs.Idempotence
import ProfilePolicy.Proofs.Invariants

/-!
# The reserved name

The read-only marker is a name of metadata and not of an attribute: it is left out when declared
names are filled in. A submission may have a value under it all the same, which is then treated like
that of any other name. It gets into the set, and where the organization listed no such attribute an
update that comes to its end leaves one exactly if a text is not blank; one that breaks off leaves
none or the same one.

The writes behind this are those of any name that was not listed: it is written for its texts alone,
and a name without texts is never listed, since nothing differs from nothing.
-/

namespace ProfilePolicy

open Value

/-- The organization lists a name for given texts alone: it has these under the name, and there are
some. -/
def ListsFor (name : String) (texts : List String) (organization : Option Organization) : Prop :=
  ∀ known, organization = some known → name ∈ known.attributeNames →
    texts ≠ [] ∧ known.valuesOf name = texts.map text

namespace Episode

/-- Rules keep what only depends on the organization. -/
theorem keptByRules_of_organization (holds : Option Organization → Prop) :
    KeptByRules (fun episode => holds episode.organization) fun _ => True where
  copied _ _ held := ⟨trivial, held⟩
  replied _ _ _ _ _ held := held
  logged _ _ held := held
  accepted _ held := held

end Episode

namespace Profile

open ProfilePolicy.Action

variable {episode : Episode} {organization : Organization} {remove : Bool} {name : String}
variable {submitted : List Value} {updated texts : List String}

/-- What is written for a name are the texts that were submitted and are not blank, and they are not
what is stored. -/
theorem difference_eq_some
    (differs : difference remove name submitted episode = .ok (some updated)) :
    updated = contentTexts submitted ∧
      ¬ (storedUnder name episode).Perm (updated.map Value.text) := by
  obtain ⟨given, compared, decided⟩ := bind_eq_ok.mp differs
  obtain ⟨same, equal, decided⟩ := bind_eq_ok.mp decided
  obtain ⟨-, rfl⟩ := nonBlank_eq_ok_iff.mp compared
  have chosen := Except.ok.inj decided
  split at chosen
  · cases chosen
  · rename_i changed
    cases chosen
    rw [← sameListItems_eq_ok equal]
    exact ⟨rfl, fun kept => changed (by simp [kept])⟩

/-- A name that is listed for its texts alone is written for its texts alone: where it is not listed
nothing is stored under it, and no texts do not differ from that. -/
theorem writesKeep_listsFor {values : AttributeValues}
    (given : ∀ entry ∈ values, entry.1 = name → contentTexts entry.2 = texts) :
    WritesKeep (fun episode => ListsFor name texts episode.organization) remove values := by
  rintro ⟨written, submitted⟩ mem episode organization updated held bound differs known same listed
  cases same
  obtain ⟨rfl, changed⟩ := difference_eq_some differs
  rw [Call.valuesOf_apply]
  by_cases own : written = name
  · subst own
    have named : contentTexts submitted = texts := given _ mem rfl
    refine ⟨fun none => changed ?_, by simp [Call.name, Call.values, named]⟩
    have unlisted : written ∉ organization.attributeNames :=
      fun before => (held organization bound before).1 none
    have unstored : storedUnder written episode = [] := by
      rw [storedUnder, bound, Policy.storedValues,
        Organization.valuesOf_eq_nil_of_not_mem unlisted]
      rfl
    rw [unstored, named, none]
    exact List.Perm.nil
  · have other : name ≠ written := fun same => own same.symm
    rcases Call.mem_attributeNames_apply listed with ⟨_, set⟩ | ⟨before, -⟩
    · exact absurd (Call.set.inj set).1 own
    · obtain ⟨some, stored⟩ := held organization bound before
      exact ⟨some, (if_neg other).trans stored⟩

theorem removalsKeep_listsFor :
    RemovalsKeep fun episode => ListsFor name texts episode.organization := by
  intro episode organization removed held bound known same listed
  cases same
  rcases Call.mem_attributeNames_apply listed with ⟨_, impossible⟩ | ⟨before, kept⟩
  · cases impossible
  · have other : name ≠ removed := fun same => kept (congrArg Call.remove same.symm)
    obtain ⟨some, stored⟩ := held organization bound before
    exact ⟨some, by rw [Call.valuesOf_apply, Call.name, if_neg other, stored]⟩

variable {profile : Profile} {config : Config} {context : Context}

/-- However the update of a fresh profile ends, a name that was not listed is listed for the texts
alone that the set holds. -/
theorem IsSound.update_listsFor (sound : profile.IsSound config context)
    (lowered : profile.episode.validated = false) (remove : Bool)
    (unlisted : ∀ known, profile.episode.organization = some known → name ∉ known.attributeNames)
    (validation removal : Order) :
    ListsFor name (contentTexts (profile.episode.get name))
      (profile.run fun policy =>
        Profile.update policy remove validation.visit removal.visit).2.episode.organization := by
  let action : Policy → Action Unit := fun policy =>
    Profile.update policy remove validation.visit removal.visit
  let holds : Episode → Prop := fun episode =>
    ListsFor name (contentTexts (profile.episode.get name)) episode.organization
  have kept : Episode.KeptByRules holds fun _ => True := Episode.keptByRules_of_organization _
  have start : holds profile.episode := fun known bound listed =>
    absurd listed (unlisted known bound)
  have written : ∀ looked : Episode, profile.episode.Undisturbed looked → ∀ entry ∈
      profile.policy.writable { looked with validated := true }, entry.1 = name →
        contentTexts entry.2 = contentTexts (profile.episode.get name) := by
    rintro looked same entry mem rfl
    have held : entry ∈ profile.episode.values := same.values ▸ (List.mem_filter.mp mem).1
    rw [Episode.get, sound.distinct.get?_of_mem held, Option.getD_some]
  have ends : Ends holds (action profile.policy) profile.episode := by
    simp only [action, Profile.update, Ends, leads_bind, leads_get, lowered, Bool.false_eq_true,
      if_false]
    refine (Policy.leads_validate sound.builtin sound.holds validation.visit).mono ?_ ?_
    · rintro _ _ ⟨-, looked, same, rfl⟩
      have still : holds { looked with validated := true } := by
        simp only [holds, same.organization]
        exact start
      split
      · exact still
      · exact ends_reportingFailures kept (ends_applyDifference kept still
          (writesKeep_listsFor (written looked same)) removalsKeep_listsFor removal.visit)
    · rintro fault after ⟨same, -⟩
      simp only [holds, same.organization]
      exact start
  exact ends.run

/-- An update that comes to its end has written the texts that the set holds under a name. -/
theorem IsSound.valuesOf_of_update_ok (sound : profile.IsSound config context)
    (notName : name ≠ nameKey) (bound : profile.episode.organization = some organization)
    (unstored : organization.valuesOf name = [])
    (visible : contentTexts (profile.episode.get name) ≠ []) (validation removal : Order)
    {after : Profile}
    (updated : (profile.run fun policy =>
      Profile.update policy remove validation.visit removal.visit) = (.ok (), after))
    {left : Organization} (final : after.episode.organization = some left) :
    left.valuesOf name = (contentTexts (profile.episode.get name)).map text := by
  obtain ⟨-, written, writes, follows, each⟩ :=
    sound.of_update_ok bound validation removal updated
  cases final.symm.trans writes.organization
  have applied := appliesDifference_of_updates bound follows each
  rw [Episode.get] at visible ⊢
  cases found : profile.episode.values.get? name with
  | none =>
    rw [found] at visible
    exact absurd rfl visible
  | some submitted =>
    rw [found, Option.getD_some] at visible
    obtain ⟨texts, given, overwrites⟩ := applied.submitted name submitted notName found
    obtain ⟨-, rfl⟩ := nonBlank_eq_ok_iff.mp given
    refine overwrites.replaced ?_
    rw [unstored]
    rintro (kept | ⟨none, -⟩)
    · exact visible (List.map_eq_nil_iff.mp kept.symm.eq_nil)
    · exact visible none

end Profile

/-- A submission can give the reserved name a value like any other name. It is then in the set, and
where the organization listed no such attribute, an update that comes to its end leaves one exactly
if some text under it is not blank. However the update ends, the attribute is listed for these texts
alone, so there is none where the name was not submitted. -/
theorem Provider.IsBuiltin.marker_listed_iff {provider : Provider} {config : Config}
    (builtin : provider.IsBuiltin config) {context : Context} {submitted : Submission}
    {organization : Option Organization}
    (unlisted : ∀ known, organization = some known → readOnlyMarker ∉ known.attributeNames)
    {profile : Profile}
    (created : provider.create context submitted.entries organization = .ok profile)
    (remove : Bool) (validation removal : Order) :
    let texts := contentTexts (profile.episode.get readOnlyMarker)
    let ran := profile.run fun policy =>
      Profile.update policy remove validation.visit removal.visit
    (readOnlyMarker ∈ profile.episode.values.names ↔ readOnlyMarker ∈ submitted.entries.names) ∧
    (readOnlyMarker ∉ submitted.entries.names → texts = []) ∧
    ∀ left, ran.2.episode.organization = some left →
      (readOnlyMarker ∈ left.attributeNames →
        texts ≠ [] ∧ left.valuesOf readOnlyMarker = texts.map text) ∧
      (ran.1 = .ok () → (readOnlyMarker ∈ left.attributeNames ↔ texts ≠ [])) := by
  intro texts ran
  have fresh := builtin.isFresh_create created
  have sound := fresh.isSound
  have names := fresh.names readOnlyMarker (by decide)
  have unlistedBefore : ∀ known, profile.episode.organization = some known →
      readOnlyMarker ∉ known.attributeNames :=
    fun known bound => unlisted known (fresh.organization_eq.symm.trans bound)
  have listsFor : ListsFor readOnlyMarker texts ran.2.episode.organization :=
    sound.update_listsFor fresh.validated_eq remove unlistedBefore validation removal
  refine ⟨names, fun absent => ?_, fun left final => ⟨listsFor left final, fun finished => ?_⟩⟩
  · have missing : profile.episode.values.get? readOnlyMarker = none :=
      Keyed.get?_eq_none_iff.mpr (mt names.mp absent)
    simp only [texts, Episode.get, missing]
    rfl
  · refine ⟨fun listed => (listsFor left final listed).1, fun visible => ?_⟩
    have updated : ran = (.ok (), ran.2) := Prod.ext finished rfl
    obtain ⟨known, bound⟩ := sound.bound_of_update_ok validation removal updated
    have unstored : known.valuesOf readOnlyMarker = [] :=
      Organization.valuesOf_eq_nil_of_not_mem (unlistedBefore known bound)
    have written := sound.valuesOf_of_update_ok (by decide) bound unstored visible validation
      removal updated final
    refine Classical.byContradiction fun absent => visible ?_
    rw [Organization.valuesOf_eq_nil_of_not_mem absent] at written
    exact List.map_eq_nil_iff.mp written.symm

/-- An administrator submits a value under the reserved name, and it is stored. -/
theorem Provider.marker_listed_of_submitted :
    let organization : Organization := { name := .text "sample" }
    let submitted := Submission.ofPairs [(readOnlyMarker, .list [.text "x"])]
    let update := fun policy =>
      Profile.update policy false Order.listed.visit Order.listed.visit
    ∃ profile after left,
      (Provider.standard {}).IsBuiltin {} ∧ readOnlyMarker ∉ organization.attributeNames ∧
      (Provider.standard {}).create .updateMetadata submitted.entries (some organization) =
        .ok profile ∧
      readOnlyMarker ∈ profile.episode.values.names ∧
      profile.run update = (.ok (), after) ∧ after.episode.organization = some left ∧
      readOnlyMarker ∈ left.attributeNames := by
  intro organization submitted update
  have builtin := Provider.isBuiltin_standard {}
  have unlisted : ∀ known, some organization = some known →
      readOnlyMarker ∉ known.attributeNames := by
    intro known same
    cases same
    decide
  have creates : ((Provider.standard {}).create .updateMetadata submitted.entries
      (some organization)).toBool = true := by decide +kernel
  have created := eq_ok_of_toBool creates
  have succeeds : ((((Provider.standard {}).create .updateMetadata submitted.entries
      (some organization)).toOption.getD default).run update).1.toBool = true := by decide +kernel
  have updated := Profile.run_eq_of_toBool succeeds
  have visible : contentTexts (((Provider.standard {}).create .updateMetadata submitted.entries
      (some organization)).toOption.getD default |>.episode.get readOnlyMarker) ≠ [] := by
    decide +kernel
  have sound := (builtin.isFresh_create created).isSound
  obtain ⟨left, writes, -⟩ := (sound.of_update_ok rfl .listed .listed updated).2
  obtain ⟨names, -, listed⟩ := builtin.marker_listed_iff unlisted created false .listed .listed
  have stored := ((listed left writes.organization).2 (congrArg Prod.fst updated)).mpr visible
  exact ⟨_, _, left, builtin, unlisted organization rfl, created, names.mpr (by decide), updated,
    writes.organization, stored⟩

end ProfilePolicy
