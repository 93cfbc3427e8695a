import ProfilePolicy.Proofs.Creation

/-!
# Moves on one profile

A profile may be validated, updated and, in between, have values set, in any order. Setting values
does not lower the flag. So a raised flag says that every name is still valid exactly as long as the
values set under it are: validation and updates keep this by themselves, since a set that was
accepted is accepted again after it is written.
-/

namespace ProfilePolicy

open Value

inductive Move
  | validate (order : Order)
  | setValues (name : String) (value : Value)
  | update (remove : Bool) (validation removal : Order)

namespace Profile

/-- The profile after its values under a name were set; values that cannot be set change nothing. -/
def withValues (profile : Profile) (name : String) (value : Value) : Profile :=
  match profile.episode.setValues name value with
  | .ok episode => { profile with episode }
  | .error _ => profile

/-- The profile after a move, whatever comes of it. -/
def perform (profile : Profile) : Move → Profile
  | .validate order => (profile.run fun policy => validate policy order.visit).2
  | .setValues name value => profile.withValues name value
  | .update remove validation removal =>
    (profile.run fun policy => update policy remove validation.visit removal.visit).2

def performAll (profile : Profile) (moves : List Move) : Profile :=
  moves.foldl perform profile

def IsValid (profile : Profile) (name : String) : Prop :=
  ∃ verdict after, profile.policy.validateName name profile.episode = .ok verdict after ∧
    verdict.errors = []

/-- A raised flag says that every name of the set is valid. -/
def FlagHolds (profile : Profile) : Prop :=
  profile.episode.validated = true → ∀ name ∈ profile.episode.values.names, profile.IsValid name

/-- Values that are set while the flag is raised are valid. -/
def Careful (profile : Profile) (moves : List Move) : Prop :=
  ∀ before name value rest, moves = before ++ .setValues name value :: rest →
    (profile.performAll before).episode.validated = true →
    ∀ episode, (profile.performAll before).episode.setValues name value = .ok episode →
      (profile.performAll (before ++ [.setValues name value])).IsValid name

variable {profile : Profile} {config : Config} {context : Context}

theorem isValid_iff (builtin : profile.policy.IsBuiltin)
    (holds : profile.episode.catalog.Holds config) {name : String} :
    profile.IsValid name ↔
      Policy.finding config (profile.policy.situation name profile.episode) = .ok [] := by
  obtain ⟨after, -, result⟩ := Policy.computes_validateName builtin holds name
  unfold IsValid
  rw [result]
  cases found : Policy.finding config (profile.policy.situation name profile.episode) with
  | error cause => simp [Except.map]
  | ok errors =>
    constructor
    · rintro ⟨verdict, after', same, none⟩
      cases same
      exact congrArg Except.ok none
    · intro none
      cases none
      exact ⟨_, after, rfl, rfl⟩

theorem IsSound.flagHolds (sound : profile.IsSound config context) : profile.FlagHolds := by
  intro raised name mem
  exact (isValid_iff sound.builtin sound.holds).mpr (sound.accepted raised name mem)

/-! ## What one move preserves -/

theorem IsSound.of_undisturbed {after : Episode} (sound : profile.IsSound config context)
    (same : profile.episode.Undisturbed after) :
    ({ profile with episode := after } : Profile).IsSound config context := by
  refine ⟨sound.context_eq, sound.builtin, sound.holds.mono same.catalog, ?_, fun raised => ?_⟩
  · simp only [same.values]
    exact sound.distinct
  · have raisedBefore : profile.episode.validated = true := same.validated.symm.trans raised
    exact (sound.accepted raisedBefore).of_same same.organization same.values

theorem IsSound.of_accepts {after : Episode} (sound : profile.IsSound config context)
    (values : after.values = profile.episode.values)
    (grown : profile.episode.catalog.entries <+: after.catalog.entries)
    (accepted : Policy.Accepts config profile.policy after) :
    ({ profile with episode := after } : Profile).IsSound config context := by
  refine ⟨sound.context_eq, sound.builtin, sound.holds.mono grown, ?_, fun _ => accepted⟩
  simp only [values]
  exact sound.distinct

theorem IsSound.of_leaves {after : Episode} {organization : Organization} {remove : Bool}
    (sound : profile.IsSound config context)
    (bound : profile.episode.organization = some organization)
    (accepted : Policy.Accepts config profile.policy profile.episode)
    (h : profile.episode.Leaves organization
      (organization.OrKept (Updates config profile.policy remove profile.episode)) after) :
    ({ profile with episode := after } : Profile).IsSound config context := by
  have again := accepted.leaves bound h
  obtain ⟨left, writes, -, -⟩ := h
  exact sound.of_accepts writes.values writes.catalog again

theorem IsSound.validate (sound : profile.IsSound config context) (order : Order) :
    (profile.perform (.validate order)).IsSound config context := by
  have outcome := profile.run_cases (fun policy => Profile.validate policy order.visit)
    (Policy.leads_validate sound.builtin sound.holds order.visit)
  rw [perform]
  rcases outcome with ⟨_, _, result, nothing, looked, same, rfl⟩ | ⟨_, after, result, same, -⟩
  · rw [result]
    have accepted := accepts_of_visit order nothing
    exact sound.of_accepts same.values same.catalog
      (accepted.of_same same.organization same.values)
  · rw [result]
    exact sound.of_undisturbed same

theorem IsSound.update (sound : profile.IsSound config context) (remove : Bool)
    (validation removal : Order) :
    (profile.perform (.update remove validation removal)).IsSound config context := by
  rw [perform]
  cases bound : profile.episode.organization with
  | none =>
    have outcome := profile.run_cases
      (fun policy => Profile.update policy remove validation.visit removal.visit)
      (leads_update_unbound remove sound.builtin sound.holds bound validation removal)
    rcases outcome with ⟨_, _, _, impossible⟩ |
      ⟨_, after, result, same | ⟨accepted, unbound, values, grown⟩⟩
    · exact impossible.elim
    · rw [result]
      exact sound.of_undisturbed same
    · rw [result]
      exact sound.of_accepts values grown (accepted.of_same (unbound.trans bound.symm) values)
  | some organization =>
    have outcome := profile.run_cases
      (fun policy => Profile.update policy remove validation.visit removal.visit)
      (leads_update remove sound.builtin sound.holds sound.distinct bound sound.accepted
        validation removal)
    rcases outcome with ⟨_, after, result, accepted, all⟩ |
      ⟨_, after, result, same | ⟨accepted, partly⟩⟩
    · rw [result]
      exact sound.of_leaves bound accepted all.orKept
    · rw [result]
      exact sound.of_undisturbed same
    · rw [result]
      exact sound.of_leaves bound accepted partly

/-- Setting values keeps the other names valid. -/
theorem finding_put {policy : Policy} {episode : Episode} {name other : String}
    (values : List Value) (differs : other ≠ name) :
    Policy.finding config
        (policy.situation other { episode with values := episode.values.put name values }) =
      Policy.finding config (policy.situation other episode) := by
  apply Policy.finding_congr
  · rfl
  · rfl
  · simp only [Situation.value, Policy.situation, Keyed.get?_put, if_neg differs]
  · rfl
  · rfl
  · rfl

theorem setValues_eq_ok {episode after : Episode} {name : String} {value : Value}
    (h : episode.setValues name value = .ok after) :
    ∃ values, after = { episode with values := episode.values.put name values } := by
  obtain ⟨values, -, changed⟩ := map_eq_ok.mp h
  exact ⟨values, changed.symm⟩

/-- Setting values keeps what the flag says when they are valid, or the flag is not raised. -/
theorem IsSound.setValues (sound : profile.IsSound config context) (name : String) (value : Value)
    (careful : profile.episode.validated = true →
      ∀ episode, profile.episode.setValues name value = .ok episode →
        (profile.withValues name value).IsValid name) :
    (profile.withValues name value).IsSound config context := by
  unfold withValues at careful ⊢
  cases attempt : profile.episode.setValues name value with
  | error cause => exact sound
  | ok after =>
    simp only [attempt] at careful ⊢
    obtain ⟨values, rfl⟩ := setValues_eq_ok attempt
    refine ⟨sound.context_eq, sound.builtin, sound.holds, sound.distinct.put name values, ?_⟩
    intro raised other mem
    by_cases same : other = name
    · subst same
      refine (isValid_iff ?_ ?_).mp (careful raised _ rfl)
      · exact sound.builtin
      · exact sound.holds
    · rw [finding_put values same]
      exact sound.accepted raised other ((Keyed.mem_names_put.mp mem).resolve_left same)

/-! ## What moves in turn preserve -/

theorem performAll_append (profile : Profile) (before after : List Move) :
    profile.performAll (before ++ after) = (profile.performAll before).performAll after :=
  List.foldl_append

theorem Careful.of_cons {move : Move} {rest : List Move} (careful : profile.Careful (move :: rest)) :
    (profile.perform move).Careful rest := by
  intro before name value after split
  exact careful (move :: before) name value after (congrArg (move :: ·) split)

theorem Careful.of_append {before rest : List Move} (careful : profile.Careful (before ++ rest)) :
    profile.Careful before := by
  rintro earlier name value after rfl
  refine careful earlier name value (after ++ rest) ?_
  rw [List.append_assoc, List.cons_append]

/-- Careful moves keep a profile sound. -/
theorem IsSound.performAll (sound : profile.IsSound config context) {moves : List Move}
    (careful : profile.Careful moves) : (profile.performAll moves).IsSound config context := by
  induction moves generalizing profile with
  | nil => exact sound
  | cons move rest ih =>
    have first : (profile.perform move).IsSound config context := by
      cases move with
      | validate order => exact sound.validate order
      | setValues name value => exact sound.setValues name value (careful [] name value rest rfl)
      | update remove validation removal => exact sound.update remove validation removal
    exact ih first careful.of_cons

/-- What the flag says holds all along exactly when values set while it is raised are valid. -/
theorem IsSound.flagHolds_iff (sound : profile.IsSound config context) (moves : List Move) :
    (∀ before rest, moves = before ++ rest → (profile.performAll before).FlagHolds) ↔
      profile.Careful moves := by
  constructor
  · rintro flags before name value rest rfl raised episode set
    have reached := flags (before ++ [.setValues name value]) rest (by simp)
    have moved : profile.performAll (before ++ [.setValues name value]) =
        { profile.performAll before with episode } := by
      rw [performAll_append]
      simp only [Profile.performAll, List.foldl_cons, List.foldl_nil, perform, withValues]
      rw [Profile.performAll] at set
      rw [set]
    obtain ⟨values, rfl⟩ := setValues_eq_ok set
    rw [moved] at reached ⊢
    exact reached raised name (Keyed.mem_names_put.mpr (Or.inl rfl))
  · rintro careful before rest rfl
    exact (sound.performAll careful.of_append).flagHolds

end Profile

/-- On a fresh profile the raised flag says that every name is valid, in every state that moves
lead to, exactly when no values are set under it that are not valid. Then no update, whether it
succeeds or fails, changes the contents under a protected name. -/
theorem Provider.IsBuiltin.flagHolds_iff_careful {provider : Provider} {config : Config}
    (builtin : provider.IsBuiltin config) {context : Context} {submitted : Submission}
    {organization : Option Organization} {profile : Profile}
    (created : provider.create context submitted.entries organization = .ok profile)
    (moves : List Move) :
    ((∀ before rest, moves = before ++ rest → (profile.performAll before).FlagHolds) ↔
      profile.Careful moves) ∧
    (profile.Careful moves → ∀ before remove validation removal rest,
      moves = before ++ .update remove validation removal :: rest →
      ∀ stored, (profile.performAll before).episode.organization = some stored →
        ∃ left, (profile.performAll (before ++ [.update remove validation removal])).episode.organization
            = some left ∧ left.Preserves stored (config.Protects context)) := by
  have sound := (builtin.isFresh_create created).isSound
  refine ⟨sound.flagHolds_iff moves, ?_⟩
  rintro careful before remove validation removal rest rfl stored bound
  rw [Profile.performAll_append]
  exact (sound.performAll careful.of_append).update_preserves remove bound validation removal

/-- Once the set is accepted, a read-only value that is set is not looked at again. -/
theorem Provider.flag_outlives_values :
    let submitted := Submission.ofPairs [("org_ro_tier", .text "basic")]
    let organization : Organization :=
      { name := .text "sample", storage := .entries [("org_ro_tier", [.text "basic"])] }
    let moves := [Move.validate .listed, .setValues "org_ro_tier" (.text "gold")]
    ∃ profile, (Provider.standard {}).create .updateProfile submitted.entries
        (some organization) = .ok profile ∧
      ¬ ∀ before rest, moves = before ++ rest → (profile.performAll before).FlagHolds := by
  intro submitted organization moves
  have succeeds : ((Provider.standard {}).create .updateProfile submitted.entries
      (some organization)).toBool = true := by decide +kernel
  have created := eq_ok_of_toBool succeeds
  refine ⟨_, created, fun flags => ?_⟩
  have careful := ((Provider.isBuiltin_standard {}).flagHolds_iff_careful created moves).1.mp flags
  obtain ⟨verdict, after, result, none⟩ := careful [.validate .listed] "org_ro_tier" (.text "gold")
    [] rfl (by decide +kernel) _ rfl
  generalize reached : Profile.performAll _ _ = final at result
  have rejected : (match final.policy.validateName "org_ro_tier" final.episode with
      | .ok verdict _ => verdict.errors.isEmpty
      | .error _ _ => false) = false := by
    rw [← reached]
    decide +kernel
  rw [result] at rejected
  simp only [none, List.isEmpty_nil] at rejected
  cases rejected

end ProfilePolicy
