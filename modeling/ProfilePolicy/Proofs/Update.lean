import ProfilePolicy.Proofs.Writes

/-!
# Updating a profile

An update validates unless the flag is raised, and then writes. Writing and removing together leave
under every name what its situation before says, or what was there if a write was refused or a
comparison could not be made on the way.
-/

namespace ProfilePolicy

open Value

/-- An order in which names are visited: none is left out and none is added. -/
structure Order where
  visit : Visit
  perm : ∀ names, (visit names).Perm names

def Order.listed : Order :=
  ⟨id, fun _ => List.Perm.refl _⟩

namespace Profile

open ProfilePolicy.Action

variable {policy : Policy} {config : Config} {episode : Episode} {organization : Organization}
variable {remove : Bool}

/-- What an update leaves. -/
def Updates (config : Config) (policy : Policy) (remove : Bool) (episode : Episode) : Expectation :=
  fun name left => (policy.situation name episode).updated config remove = .ok left

/-- The set that is written has all names of the set but that of the organization. -/
theorem get?_writable (builtin : policy.IsBuiltin) (holds : episode.catalog.Holds config)
    {name : String} (notName : name ≠ nameKey) :
    (policy.writable episode).get? name = episode.values.get? name := by
  have allowed : (!policy.deniedByMetadata name episode) = true := by
    rw [builtin.deniedByMetadata_eq holds]
    simp [notName]
  rw [Policy.writable, Keyed.get?_filter episode.values
    (fun name => !policy.deniedByMetadata name episode) name, if_pos allowed]

theorem updated_nameKey (episode : Episode) :
    (policy.situation nameKey episode).updated config remove =
      .ok (policy.situation nameKey episode).stored :=
  if_pos rfl

/-- Names of the set and the name of the organization are treated by the writes alone. -/
theorem updated_of_mem (builtin : policy.IsBuiltin) (holds : episode.catalog.Holds config)
    {name : String} (present : name ∈ episode.values.names ∨ name = nameKey) :
    (policy.situation name episode).updated config remove =
      settled remove (policy.writable episode) name (policy.situation name episode).stored := by
  by_cases isName : name = nameKey
  · subst isName
    rw [updated_nameKey, settled_nameKey]
  · have held : (episode.values.get? name).isSome = true :=
      (Keyed.get?_isSome_iff _ _).mpr (present.resolve_right isName)
    obtain ⟨submitted, found⟩ := Option.isSome_iff_exists.mp held
    rw [settled, if_neg isName, get?_writable builtin holds isName, found]
    exact Situation.updated_of_submitted config remove isName found

/-- Names that were left out are not written. -/
theorem settled_writable_of_not_mem {name : String} (stored : StoredValues)
    (absent : name ∉ episode.values.names) :
    settled remove (policy.writable episode) name stored = .ok stored := by
  apply settled_of_not_mem
  intro listed
  obtain ⟨entry, mem, rfl⟩ := List.mem_map.mp listed
  exact absent (List.mem_map_of_mem (List.mem_filter.mp mem).1)

theorem mem_omitted {name : String} (bound : episode.organization = some organization) :
    name ∈ omitted episode ↔ name ∈ organization.attributeNames ∧ name ∉ episode.values.names := by
  unfold omitted
  rw [bound, List.mem_filter, ← Keyed.holds_iff_mem_names]
  simp

/-! ## Both phases -/

section Phases

variable {between : Episode} {now : Organization}

/-- What is written under a name of the set is what an update leaves. -/
theorem updates_of_present (builtin : policy.IsBuiltin) (holds : episode.catalog.Holds config)
    (bound : episode.organization = some organization) {name : String} {left : StoredValues}
    (present : name ∈ episode.values.names ∨ name = nameKey)
    (written : Settles remove (policy.writable episode) organization name left) :
    Updates config policy remove episode name left := by
  unfold Updates
  rw [updated_of_mem builtin holds present, stored_situation bound]
  exact written

/-- What is written is what an update leaves, or the name was left out and is as it was. -/
theorem updates_of_settles (builtin : policy.IsBuiltin) (holds : episode.catalog.Holds config)
    (bound : episode.organization = some organization) (name : String) (left : StoredValues)
    (written : Settles remove (policy.writable episode) organization name left) :
    organization.OrKept (Updates config policy remove episode) name left := by
  by_cases present : name ∈ episode.values.names ∨ name = nameKey
  · exact Or.inr (updates_of_present builtin holds bound present written)
  · left
    unfold Settles at written
    rw [settled_writable_of_not_mem _ (not_or.mp present).1] at written
    exact (Except.ok.inj written).symm

/-- Without removal this is all. -/
theorem updates_of_settles_keeping (builtin : policy.IsBuiltin)
    (holds : episode.catalog.Holds config) (bound : episode.organization = some organization)
    (name : String) (left : StoredValues)
    (written : Settles false (policy.writable episode) organization name left) :
    Updates config policy false episode name left := by
  by_cases present : name ∈ episode.values.names ∨ name = nameKey
  · exact updates_of_present builtin holds bound present written
  · obtain ⟨absent, notName⟩ := not_or.mp present
    unfold Settles at written
    rw [settled_writable_of_not_mem _ absent] at written
    unfold Updates
    rw [Situation.updated_of_missing config false notName (Keyed.get?_eq_none_iff.mpr absent),
      stored_situation bound]
    exact written

/-- Names of the set and the name of the organization are not removed. -/
theorem dropped_of_mem (writes : episode.Writes between now) (order : Order) {name : String}
    (present : name ∈ episode.values.names ∨ name = nameKey) :
    dropped config (order.visit (omitted between)) (policy.situation name between) =
      .ok (now.valuesOf name) := by
  rw [← stored_situation writes.organization policy name, dropped]
  apply if_neg
  rintro ⟨listed, notName⟩
  rcases present with mem | isName
  · have absent := ((mem_omitted writes.organization).mp ((order.perm _).mem_iff.mp listed)).2
    rw [writes.values] at absent
    exact absent mem
  · exact notName isName

/-- What is left after writing and removing is what an update leaves. -/
theorem updates_of_drops (builtin : policy.IsBuiltin) (holds : episode.catalog.Holds config)
    (bound : episode.organization = some organization) (writes : episode.Writes between now)
    (order : Order) (name : String) (left : StoredValues)
    (written : Settles true (policy.writable episode) organization name (now.valuesOf name))
    (removed : Drops config policy (order.visit (omitted between)) between name left) :
    Updates config policy true episode name left := by
  unfold Drops at removed
  by_cases present : name ∈ episode.values.names ∨ name = nameKey
  · rw [dropped_of_mem writes order present] at removed
    rw [← Except.ok.inj removed]
    exact updates_of_present builtin holds bound present written
  · unfold Settles at written
    unfold Updates
    obtain ⟨absent, notName⟩ := not_or.mp present
    have missing := Keyed.get?_eq_none_iff.mpr absent
    rw [settled_writable_of_not_mem _ absent] at written
    have kept := (Except.ok.inj written).symm
    rw [dropped_writes bound writes kept] at removed
    rw [Situation.updated_of_missing config true notName missing, if_pos rfl]
    by_cases listed : name ∈ order.visit (omitted between)
    · rw [dropped, if_pos ⟨listed, notName⟩] at removed
      exact removed
    · -- a name that is not even listed has nothing stored, so removing it is no change
      have unlisted : name ∉ now.attributeNames := by
        intro stored
        apply listed
        rw [(order.perm _).mem_iff, mem_omitted writes.organization, writes.values]
        exact ⟨stored, absent⟩
      have empty : (policy.situation name episode).stored = [] := by
        rw [stored_situation bound, ← kept]
        exact Organization.valuesOf_eq_nil_of_not_mem unlisted
      have leftOut : (policy.situation name episode).value = [] := by
        rw [Situation.value, Policy.situation, missing]
        rfl
      rw [Situation.withdrawn_of_empty config leftOut empty,
        dropped_of_stored_nil empty removed]

end Phases

/-- Writing what differs and removing what was left out. -/
theorem achieves_applyDifference (builtin : policy.IsBuiltin) (holds : episode.catalog.Holds config)
    (distinct : Keyed.Distinct episode.values) (bound : episode.organization = some organization)
    (order : Order) :
    Achieves (applyDifference policy remove order.visit) episode episode organization
      (Updates config policy remove episode) := by
  have unmoved := (Episode.Undisturbed.refl episode).writes bound
  rw [applyDifference, Achieves, leads_bind, leads_get, leads_bind]
  refine (achieves_writeAll (distinct.filter _) bound).mono ?_ ?_
  · rintro names between ⟨now, writes, follows, all⟩
    rw [leads_bind, leads_get]
    cases remove with
    | false =>
      simp only [Bool.false_eq_true, if_false, leads_bind, leads_pure, leads_get, leads_set]
      refine ⟨now, writes.trans ⟨writes.organization, rfl, List.prefix_rfl⟩, follows, fun name => ?_⟩
      exact updates_of_settles_keeping builtin holds bound name _ (all name)
    | true =>
      have here := fun name => updates_of_settles builtin holds bound name _ (all name)
      have step := fun name left =>
        updates_of_drops builtin holds bound writes order name left (all name)
      simp only [if_true, leads_bind, leads_get, leads_set]
      refine (achieves_removeAll builtin (holds.mono writes.catalog) _ writes.organization).mono ?_ ?_
      · rintro removed after ⟨left, writes', follows', gone⟩
        exact ⟨left, writes.trans (writes'.trans ⟨writes'.organization, rfl, List.prefix_rfl⟩),
          follows'.trans follows, fun name => step name _ (gone name)⟩
      · exact fun _ _ => writes.then_leaves follows (Organization.OrKept.step here step)
  · rintro _ after ⟨left, writes, follows, partly⟩
    refine ⟨left, writes, follows, fun name => ?_⟩
    rcases partly name with kept | written
    · exact Or.inl kept
    · exact updates_of_settles builtin holds bound name _ written

theorem leads_reportingFailures {action : Action Unit} {done : Unit → Episode → Prop}
    {failed : Episode → Prop} (h : Leads action episode done fun _ => failed)
    (logged : ∀ after record, failed after → failed (after.log record)) :
    Leads (reportingFailures action) episode done fun _ => failed := by
  unfold Leads at h ⊢
  unfold reportingFailures
  cases result : action episode with
  | ok value after =>
    rw [result] at h
    exact h
  | error fault after =>
    rw [result] at h
    cases words : fault.causeMessage? with
    | none =>
      simp only [words]
      exact h
    | some message =>
      simp only [words]
      exact logged after _ h

/-- Visiting all names in some order and finding nothing is acceptance. -/
theorem accepts_of_visit (order : Order)
    (nothing : Policy.findings config policy episode (order.visit episode.values.names) = .ok []) :
    Policy.Accepts config policy episode := by
  intro name mem
  exact Policy.findings_eq_nil_iff.mp nothing name ((order.perm _).mem_iff.mpr mem)

/-- The part of an update after validation. -/
theorem achieves_write (remove : Bool) (builtin : policy.IsBuiltin)
    (holds : episode.catalog.Holds config) (distinct : Keyed.Distinct episode.values)
    (bound : episode.organization = some organization) (order : Order) :
    Achieves (do
        let episode ← get
        if episode.organization.isNone then throw (.usage .unboundProfile)
        else reportingFailures (applyDifference policy remove order.visit)) episode episode
      organization (Updates config policy remove episode) := by
  have present : ¬ episode.organization.isNone = true := by
    rw [bound]
    exact Bool.false_ne_true
  rw [Achieves, leads_bind, leads_get, if_neg present]
  apply leads_reportingFailures (achieves_applyDifference builtin holds distinct bound order)
  rintro after record ⟨left, writes, follows, partly⟩
  exact ⟨left, writes.trans ⟨writes.organization, rfl, List.prefix_rfl⟩, follows, partly⟩

/-- An update that comes to its end was accepted and leaves under every name what it should. One
that does not has either left all as it was or was accepted and broke off. -/
theorem leads_update (remove : Bool) (builtin : policy.IsBuiltin)
    (holds : episode.catalog.Holds config) (distinct : Keyed.Distinct episode.values)
    (bound : episode.organization = some organization)
    (sound : episode.validated = true → Policy.Accepts config policy episode)
    (validation removal : Order) :
    Leads (update policy remove validation.visit removal.visit) episode
      (fun _ after => Policy.Accepts config policy episode ∧
        episode.Leaves organization (Updates config policy remove episode) after)
      (fun _ after => episode.Undisturbed after ∨ Policy.Accepts config policy episode ∧
        episode.Leaves organization
          (organization.OrKept (Updates config policy remove episode)) after) := by
  rw [update, leads_bind, leads_get]
  cases flag : episode.validated with
  | true =>
    have accepted := sound flag
    refine (achieves_write remove builtin holds distinct bound removal).mono ?_ ?_
    · exact fun _ after written => ⟨accepted, written⟩
    · exact fun _ after written => Or.inr ⟨accepted, written⟩
  | false =>
    simp only [Bool.false_eq_true, if_false]
    rw [leads_bind]
    refine (Policy.leads_validate builtin holds validation.visit).mono ?_ ?_
    · rintro _ raised ⟨nothing, looked, same, rfl⟩
      have accepted := accepts_of_visit validation nothing
      have sofar : episode.Writes { looked with validated := true } organization :=
        ⟨same.organization.trans bound, same.values, same.catalog⟩
      have expected : Updates config policy remove { looked with validated := true } =
          Updates config policy remove episode := by
        have situations : ∀ name, policy.situation name { looked with validated := true } =
            policy.situation name episode := same.situation_eq policy
        unfold Updates
        simp only [situations]
      have distinctLooked : Keyed.Distinct looked.values := same.values ▸ distinct
      have written := achieves_write remove builtin (holds.mono sofar.catalog) distinctLooked
        sofar.organization removal
      rw [expected] at written
      refine written.mono ?_ ?_
      · exact fun _ after h =>
          ⟨accepted, sofar.then_leaves (.refl organization) (fun _ _ => id) h⟩
      · exact fun _ after h =>
          Or.inr ⟨accepted, sofar.then_leaves (.refl organization) (fun _ _ => id) h⟩
    · exact fun _ after failed => Or.inl failed.1

/-- Without an organization an update fails after validation. -/
theorem leads_update_unbound (remove : Bool) (builtin : policy.IsBuiltin)
    (holds : episode.catalog.Holds config) (unbound : episode.organization = none)
    (validation removal : Order) :
    Leads (update policy remove validation.visit removal.visit) episode
      (fun _ _ => False)
      (fun _ after => episode.Undisturbed after ∨ Policy.Accepts config policy episode ∧
        after.organization = none ∧ after.values = episode.values ∧
          episode.catalog.entries <+: after.catalog.entries) := by
  rw [update, leads_bind, leads_get]
  cases flag : episode.validated with
  | true =>
    simp only [if_true, leads_bind, leads_get, unbound, Option.isNone_none, leads_throw]
    exact Or.inl (.refl episode)
  | false =>
    simp only [Bool.false_eq_true, if_false]
    rw [leads_bind]
    refine (Policy.leads_validate builtin holds validation.visit).mono ?_ ?_
    · rintro _ _ ⟨nothing, looked, same, rfl⟩
      have absent : looked.organization = none := same.organization.trans unbound
      have accepted := accepts_of_visit validation nothing
      rw [leads_bind, leads_get]
      simp only [absent, Option.isNone_none, if_true, leads_throw]
      exact Or.inr ⟨accepted, trivial, same.values, same.catalog⟩
    · exact fun _ after failed => Or.inl failed.1

end Profile

end ProfilePolicy
