import ProfilePolicy.Metadata
import Mathlib.Data.List.GetD
import Mathlib.Data.List.Nodup

/-!
# Rules that are listed twice

Rules are added to a list call by call. A call moves rules that are listed already to the end and
leaves out what is missing, but it adds its own rules as they are given. So a list is made up of its
calls in their order, each without the rules that a later call names, and a rule is listed as often
as the latest call that names it names it. It is listed twice exactly if that one call repeats it.

This holds for all metadata objects that are made, copied and added to in any order. A copy starts
out with the calls of what it was copied from and goes its own way from there.
-/

namespace ProfilePolicy

abbrev RuleCall := List (Option Rule)

namespace RuleCall

def rules (call : RuleCall) : List Rule :=
  call.filterMap id

/-- What the rules that a call adds are told apart by. -/
def identities (call : RuleCall) : List Nat :=
  call.rules.map (·.identity)

def Unnamed (calls : List RuleCall) (identity : Nat) : Prop :=
  ∀ call ∈ calls, identity ∉ call.identities

instance (calls : List RuleCall) (identity : Nat) : Decidable (Unnamed calls identity) :=
  inferInstanceAs (Decidable (∀ call ∈ calls, identity ∉ call.identities))

/-- What calls in turn leave: the rules of each call that no later call names. -/
def listed : List RuleCall → List Rule
  | [] => []
  | call :: later => call.rules.filter (fun rule => Unnamed later rule.identity) ++ listed later

/-- Of the calls that name a rule this is the latest. -/
def IsLatest (identity : Nat) (calls : List RuleCall) (call : RuleCall) : Prop :=
  identity ∈ call.identities ∧
    ∃ earlier later, calls = earlier ++ call :: later ∧ Unnamed later identity

variable {calls later : List RuleCall} {call : RuleCall} {identity : Nat}

theorem unnamed_cons :
    Unnamed (call :: later) identity ↔ identity ∉ call.identities ∧ Unnamed later identity :=
  List.forall_mem_cons

theorem unnamed_concat :
    Unnamed (calls ++ [call]) identity ↔ Unnamed calls identity ∧ identity ∉ call.identities := by
  simp [Unnamed, or_imp, forall_and]

/-- One more call takes its rules out of those that are left and puts them at the end. -/
theorem listed_concat (calls : List RuleCall) (call : RuleCall) :
    listed (calls ++ [call]) =
      (listed calls).filter (fun rule => rule.identity ∉ call.identities) ++ call.rules := by
  induction calls with
  | nil => simp [listed, Unnamed]
  | cons first later ih =>
    simp only [List.cons_append, listed, ih, List.filter_append, List.filter_filter,
      List.append_assoc]
    congr 1
    apply List.filter_congr
    intro rule _
    simp [unnamed_concat, Bool.and_comm]

/-- A call adds to the count of a rule if no later call names it. -/
theorem count_filter_unnamed (call : RuleCall) (later : List RuleCall) (identity : Nat) :
    ((call.rules.filter fun rule => Unnamed later rule.identity).map (·.identity)).count identity =
      if Unnamed later identity then call.identities.count identity else 0 := by
  have kept : (call.rules.filter fun rule => Unnamed later rule.identity).map (·.identity) =
      call.identities.filter fun identity => Unnamed later identity := by
    rw [identities, List.filter_map]
    rfl
  rw [kept]
  split
  · rename_i unnamed
    exact List.count_filter (by simpa using unnamed)
  · rename_i named
    apply List.count_eq_zero.mpr
    intro mem
    exact named (by simpa using (List.mem_filter.mp mem).2)

/-- A rule that no call names is not listed. -/
theorem count_listed_of_unnamed (unnamed : Unnamed calls identity) :
    ((listed calls).map (·.identity)).count identity = 0 := by
  induction calls with
  | nil => rfl
  | cons call later ih =>
    obtain ⟨here, there⟩ := unnamed_cons.mp unnamed
    rw [listed, List.map_append, List.count_append, count_filter_unnamed, if_pos there, ih there,
      List.count_eq_zero.mpr here]

/-- A rule is listed as often as the latest call that names it names it. -/
theorem count_listed (latest : IsLatest identity calls call) :
    ((listed calls).map (·.identity)).count identity = call.identities.count identity := by
  obtain ⟨named, earlier, later, rfl, unnamed⟩ := latest
  induction earlier with
  | nil =>
    rw [List.nil_append, listed, List.map_append, List.count_append, count_filter_unnamed,
      if_pos unnamed, count_listed_of_unnamed unnamed, Nat.add_zero]
  | cons first rest ih =>
    have overruled : ¬ Unnamed (rest ++ call :: later) identity := by
      intro all
      exact all call (by simp) named
    rw [List.cons_append, listed, List.map_append, List.count_append, count_filter_unnamed,
      if_neg overruled, ih, Nat.zero_add]

/-- A rule that is named at all is named by a latest call. -/
theorem exists_isLatest (named : ¬ Unnamed calls identity) :
    ∃ call, IsLatest identity calls call := by
  induction calls with
  | nil => exact absurd (fun _ mem => absurd mem List.not_mem_nil) named
  | cons first later ih =>
    by_cases unnamed : Unnamed later identity
    · have here : identity ∈ first.identities := by
        by_contra missing
        exact named (unnamed_cons.mpr ⟨missing, unnamed⟩)
      exact ⟨first, here, [], later, rfl, unnamed⟩
    · obtain ⟨call, mentioned, earlier, rest, rfl, overruling⟩ := ih unnamed
      exact ⟨call, mentioned, first :: earlier, rest, rfl, overruling⟩

theorem mem_listed_iff :
    identity ∈ (listed calls).map (·.identity) ↔ ∃ call ∈ calls, identity ∈ call.identities := by
  constructor
  · intro mem
    by_contra none
    have unnamed : Unnamed calls identity := fun call known named => none ⟨call, known, named⟩
    exact List.count_eq_zero.mp (count_listed_of_unnamed unnamed) mem
  · rintro ⟨call, known, named⟩
    obtain ⟨final, latest⟩ := exists_isLatest (fun unnamed => unnamed call known named)
    have counted := count_listed latest
    have positive := List.count_pos_iff.mpr latest.1
    exact List.count_pos_iff.mp (counted ▸ positive)

/-- No rule is listed twice exactly if no latest call repeats it. -/
theorem nodup_listed_iff :
    ((listed calls).map (·.identity)).Nodup ↔
      ∀ identity call, IsLatest identity calls call → call.identities.count identity = 1 := by
  rw [List.nodup_iff_count_le_one]
  constructor
  · intro once identity call latest
    have counted := count_listed latest
    have positive := List.count_pos_iff.mpr latest.1
    have atMost := once identity
    omega
  · intro once identity
    by_cases unnamed : Unnamed calls identity
    · simp [count_listed_of_unnamed unnamed]
    · obtain ⟨call, latest⟩ := exists_isLatest unnamed
      exact Nat.le_of_eq ((count_listed latest).trans (once identity call latest))

end RuleCall

/-! ## Metadata objects that are made, copied and added to -/

/-- Something done with metadata objects. -/
inductive Amendment
  /-- A new object that has no rules yet. -/
  | make (name : String) (writeAllowed : List Predicate)
  /-- A new object that is declared with rules. -/
  | declare (metadata : ProfileMetadata) (name : String) (call : RuleCall)
      (writeAllowed : List Predicate)
  | add (handle : Handle) (call : RuleCall)
  | clone (handle : Handle)
  | derive (base : ProfileMetadata) (context : Context)

/-- For every metadata object the calls that made up its rules. -/
abbrev Histories := List (List RuleCall)

namespace Histories

def clone (histories : Histories) (handle : Handle) : Histories :=
  histories ++ [histories.getD handle []]

end Histories

namespace Amendment

def apply (catalog : Catalog) : Amendment → Catalog
  | make name writeAllowed => (catalog.store { name, writeAllowed }).2
  | declare metadata name call writeAllowed =>
    (metadata.addAttribute name call writeAllowed catalog).2.2
  | add handle call => catalog.addRules handle call
  | clone handle => (catalog.clone handle).2
  | derive base context => (base.derive context catalog).2

def note (histories : Histories) : Amendment → Histories
  | make _ _ => histories ++ [[]]
  | declare _ _ call _ => histories ++ [[call]]
  | add handle call => histories.modify handle (· ++ [call])
  | clone handle => histories.clone handle
  | derive base _ => base.attributes.foldl Histories.clone histories

end Amendment

def Catalog.Lists (catalog : Catalog) (histories : Histories) : Prop :=
  catalog.entries.map (·.rules) = histories.map RuleCall.listed

theorem AttributeMetadata.addRules_rules (metadata : AttributeMetadata) (call : RuleCall) :
    (metadata.addRules call).rules =
      metadata.rules.filter (fun rule => rule.identity ∉ call.identities) ++ call.rules := by
  have same : ∀ rule : Rule, (!call.rules.any (·.identity == rule.identity)) =
      decide (rule.identity ∉ call.identities) := by
    intro rule
    rw [Bool.eq_iff_iff]
    simp [RuleCall.identities]
  exact congrArg (· ++ call.rules) (List.filter_congr fun rule _ => same rule)

namespace Catalog.Lists

variable {catalog : Catalog} {histories : Histories}

theorem entry (lists : catalog.Lists histories) (handle : Handle) :
    (catalog.entry handle).rules = RuleCall.listed (histories.getD handle []) := by
  have same : (catalog.entries.map (·.rules)).getD handle [] =
      (histories.map RuleCall.listed).getD handle [] := congrArg (·.getD handle []) lists
  have held : (catalog.entries.map (·.rules)).getD handle [] = (catalog.entry handle).rules :=
    List.getD_map catalog.entries { name := "" } AttributeMetadata.rules
  have left : (histories.map RuleCall.listed).getD handle [] =
      RuleCall.listed (histories.getD handle []) := List.getD_map histories [] RuleCall.listed
  exact held.symm.trans (same.trans left)

theorem store (lists : catalog.Lists histories) {metadata : AttributeMetadata}
    {calls : List RuleCall} (listed : metadata.rules = RuleCall.listed calls) :
    (catalog.store metadata).2.Lists (histories ++ [calls]) := by
  simp only [Lists, Catalog.store, List.map_append, List.map_cons, List.map_nil, listed]
  rw [lists]

theorem clone (lists : catalog.Lists histories) (handle : Handle) :
    (catalog.clone handle).2.Lists (histories.clone handle) :=
  lists.store (lists.entry handle)

theorem cloneAll (lists : catalog.Lists histories) (handles : List Handle) :
    (catalog.cloneAll handles).2.Lists (handles.foldl Histories.clone histories) := by
  induction handles generalizing catalog histories with
  | nil => exact lists
  | cons handle rest ih => exact ih (lists.clone handle)

theorem addRules (lists : catalog.Lists histories) (handle : Handle) (call : RuleCall) :
    (catalog.addRules handle call).Lists (histories.modify handle (· ++ [call])) := by
  apply List.ext_getElem?
  intro position
  have same : (catalog.entries[position]?).map AttributeMetadata.rules =
      (histories[position]?).map RuleCall.listed := by
    rw [← List.getElem?_map, lists, List.getElem?_map]
  simp only [Catalog.addRules, List.getElem?_map, List.getElem?_modify, Option.map_eq_map]
  cases held : catalog.entries[position]? with
  | none =>
    rw [held] at same
    simp [Option.map_eq_none_iff.mp same.symm]
  | some metadata =>
    rw [held] at same
    obtain ⟨calls, noted, listed⟩ := Option.map_eq_some_iff.mp same.symm
    simp only [noted, Option.map_some]
    split
    · rw [RuleCall.listed_concat, listed, AttributeMetadata.addRules_rules]
    · rw [listed]

/-- What is done with metadata objects leaves them listing what their calls leave. -/
theorem apply (lists : catalog.Lists histories) (amendment : Amendment) :
    (amendment.apply catalog).Lists (amendment.note histories) := by
  cases amendment with
  | make name writeAllowed => exact lists.store rfl
  | declare metadata name call writeAllowed =>
    refine lists.store ?_
    rw [AttributeMetadata.addRules_rules]
    simp [RuleCall.listed, RuleCall.Unnamed]
  | add handle call => exact lists.addRules handle call
  | clone handle => exact lists.clone handle
  | derive base context => exact lists.cloneAll base.attributes

theorem foldl (lists : catalog.Lists histories) (amendments : List Amendment) :
    (amendments.foldl Amendment.apply catalog).Lists
      (amendments.foldl Amendment.note histories) := by
  induction amendments generalizing catalog histories with
  | nil => exact lists
  | cons amendment rest ih => exact ih (lists.apply amendment)

end Catalog.Lists

/-- Whatever is done with metadata objects, in whatever order, each lists what its calls leave: all
rules that a call names, and last those of the latest call in the order of that call. A rule is
listed as often as the latest call that names it names it, so no rule is listed twice exactly if
none of these calls repeats it. -/
theorem Amendment.rules_listed (amendments : List Amendment) (handle : Handle) :
    let catalog := amendments.foldl Amendment.apply {}
    let calls := (amendments.foldl Amendment.note []).getD handle []
    let rules := (catalog.entry handle).rules
    let identities := rules.map (·.identity)
    rules = RuleCall.listed calls ∧
    (∀ earlier call, calls = earlier ++ [call] →
      ∃ others, rules = others ++ call.rules ∧ ∀ rule ∈ others, rule.identity ∉ call.identities) ∧
    (∀ identity, identity ∈ identities ↔ ∃ call ∈ calls, identity ∈ call.identities) ∧
    (∀ identity call, RuleCall.IsLatest identity calls call →
      identities.count identity = call.identities.count identity) ∧
    (identities.Nodup ↔
      ∀ identity call, RuleCall.IsLatest identity calls call →
        call.identities.count identity = 1) := by
  intro catalog calls rules identities
  have start : Catalog.Lists {} [] := rfl
  have lists : catalog.Lists (amendments.foldl Amendment.note []) := start.foldl amendments
  have listed : rules = RuleCall.listed calls := lists.entry handle
  have named : identities = (RuleCall.listed calls).map (·.identity) :=
    congrArg (List.map (·.identity)) listed
  refine ⟨listed, ?_, ?_, ?_, ?_⟩
  · intro earlier call split
    refine ⟨(RuleCall.listed earlier).filter fun rule => rule.identity ∉ call.identities, ?_, ?_⟩
    · rw [listed, split, RuleCall.listed_concat]
    · intro rule mem
      simpa using (List.mem_filter.mp mem).2
  · intro identity
    rw [named, RuleCall.mem_listed_iff]
  · intro identity call latest
    rw [named, RuleCall.count_listed latest]
  · rw [named, RuleCall.nodup_listed_iff]

/-- A rule that one call repeats is listed twice. -/
theorem Amendment.rules_listed_of_repeated :
    let rule : Rule := { identity := 0, validator := "probe" }
    let amendments : List Amendment :=
      [.make "x" [Predicate.always], .add 0 [some rule, none, some rule]]
    ¬ (((amendments.foldl Amendment.apply {}).entry 0).rules.map (·.identity)).Nodup := by
  intro rule amendments
  obtain ⟨-, -, -, -, once⟩ := Amendment.rules_listed amendments 0
  have latest : RuleCall.IsLatest 0 ((amendments.foldl Amendment.note []).getD 0 [])
      [some rule, none, some rule] := ⟨by decide, [], [], rfl, by decide⟩
  intro nodup
  exact absurd (once.mp nodup 0 _ latest) (by decide)

end ProfilePolicy
