import ProfilePolicy.Proofs.Action

/-!
# Listeners

Whoever validates a name may listen to its errors. An error is handed to all listeners as soon as
its rule is reported, before the next rule is run. Listeners do not look at the set, so they hear
the same as if all errors of the verdict were handed over in the end, each listener for itself.
-/

namespace ProfilePolicy.Policy

variable {Listener : Type} (hear : Listener → FieldError → Listener)

def tellAll (listeners : List Listener) (errors : List FieldError) : List Listener :=
  errors.foldl (fun told error => told.map fun listener => hear listener error) listeners

/-- What the validation of a name has come to: whether no rule was reported, and what the listeners
have heard. -/
structure Hearing (Listener : Type) where
  valid : Bool := true
  listeners : List Listener

def Hearing.and (hearing : Hearing Listener) (verdict : Verdict) : Hearing Listener :=
  { valid := hearing.valid && verdict.valid
    listeners := tellAll hear hearing.listeners verdict.errors }

def applyRulesTelling (policy : Policy) (name : String) (handle copy : Handle) :
    List Rule → Hearing Listener → Action (Hearing Listener)
  | [], hearing => pure hearing
  | rule :: rest, hearing => do
    let errors ← policy.runRule name copy rule
    if errors.isEmpty then policy.applyRulesTelling name handle copy rest hearing
    else
      let tolerated ← inspect (policy.isTolerated name handle)
      policy.logVerdict tolerated name rule errors
      if tolerated then policy.applyRulesTelling name handle copy rest hearing
      else
        policy.applyRulesTelling name handle copy rest
          { valid := false, listeners := tellAll hear hearing.listeners errors }

/-- Runs the rules of several metadata entries on a name while others listen. -/
def applyMetadataTelling (policy : Policy) (name : String) :
    List Handle → Hearing Listener → Action (Hearing Listener)
  | [], hearing => pure hearing
  | handle :: rest, hearing => do
    let copy ← copyOf handle
    let rules ← rulesOf handle
    let hearing ← policy.applyRulesTelling hear name handle copy rules hearing
    policy.applyMetadataTelling name rest hearing

def validateTelling (policy : Policy) (name : String) (listeners : List Listener) :
    Action (Hearing Listener) :=
  policy.applyMetadataTelling hear name (policy.candidates name) { listeners }

/-- All listeners hear the same errors in the same order. -/
theorem tellAll_eq (listeners : List Listener) (errors : List FieldError) :
    tellAll hear listeners errors = listeners.map fun listener => errors.foldl hear listener := by
  induction errors generalizing listeners with
  | nil => exact (List.map_id listeners).symm
  | cons error rest ih =>
    have first : tellAll hear listeners (error :: rest) =
        tellAll hear (listeners.map fun listener => hear listener error) rest := rfl
    rw [first, ih, List.map_map]
    rfl

variable {hear} {policy : Policy} {name : String} {handle copy : Handle}

theorem Hearing.and_and (hearing : Hearing Listener) (first second : Verdict) :
    (hearing.and hear first).and hear second = hearing.and hear (first.and second) := by
  simp only [Hearing.and, Verdict.and, Bool.and_assoc, tellAll, List.foldl_append]

theorem Hearing.and_empty (hearing : Hearing Listener) : hearing.and hear {} = hearing := by
  simp only [Hearing.and, Bool.and_true, tellAll, List.foldl_nil]

theorem applyRulesTelling_eq (rules : List Rule) (hearing : Hearing Listener) :
    policy.applyRulesTelling hear name handle copy rules hearing =
      hearing.and hear <$> policy.applyRules name handle copy rules := by
  induction rules generalizing hearing with
  | nil => rw [applyRulesTelling, applyRules, map_pure, Hearing.and_empty]
  | cons rule rest ih =>
    rw [applyRulesTelling, applyRules, map_bind]
    refine bind_congr fun errors => ?_
    split
    · exact ih hearing
    · rw [map_bind]
      refine bind_congr fun tolerated => ?_
      rw [map_bind]
      refine bind_congr fun _ => ?_
      cases tolerated with
      | true =>
        rw [if_pos rfl, ih, map_bind, map_eq_pure_bind]
        rfl
      | false =>
        rw [if_neg Bool.false_ne_true, ih, map_bind, map_eq_pure_bind]
        refine bind_congr fun others => ?_
        rw [if_neg Bool.false_ne_true, map_pure, ← Hearing.and_and]
        simp [Hearing.and]

theorem applyMetadataTelling_eq (handles : List Handle) (hearing : Hearing Listener) :
    policy.applyMetadataTelling hear name handles hearing =
      hearing.and hear <$> policy.applyMetadata name handles := by
  induction handles generalizing hearing with
  | nil => rw [applyMetadataTelling, applyMetadata, map_pure, Hearing.and_empty]
  | cons handle rest ih =>
    rw [applyMetadataTelling, applyMetadata, map_bind]
    refine bind_congr fun copy => ?_
    rw [map_bind]
    refine bind_congr fun rules => ?_
    rw [map_bind, applyRulesTelling_eq, bind_map_left]
    refine bind_congr fun verdict => ?_
    rw [ih, map_bind, map_eq_pure_bind]
    refine bind_congr fun others => ?_
    rw [map_pure, Hearing.and_and]

/-- Listening changes nothing, and every listener hears the errors of the verdict in order. -/
theorem validateTelling_eq (listeners : List Listener) :
    policy.validateTelling hear name listeners =
      (fun verdict => { valid := verdict.valid
                        listeners := listeners.map fun listener =>
                          verdict.errors.foldl hear listener }) <$> policy.validateName name := by
  rw [validateTelling, applyMetadataTelling_eq, validateName]
  refine congrArg (· <$> policy.applyMetadata name (policy.candidates name)) ?_
  funext verdict
  rw [Hearing.and, tellAll_eq, Bool.true_and]

end ProfilePolicy.Policy
