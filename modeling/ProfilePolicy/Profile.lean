import ProfilePolicy.Policy

/-!
# Profiles

A profile is one validation and update of a single organization. Validation visits every name of the
set and collects all errors before it rejects, so a caller gets one complete report. An update then
applies the smallest difference between the writable values and what is stored: names whose
non-blank values are stored already are left alone, emptied names are written only when removal is
asked for, and then stored names that were left out are removed unless they are read-only.

The order in which names are visited is a parameter, since nothing but the order of errors and log
records may depend on it. The organization's own name is never written here.
-/

namespace ProfilePolicy

abbrev Visit := List String → List String

/-- Texts in ascending order of their code points. -/
def sortedTexts (texts : List String) : List String :=
  texts.mergeSort fun left right => !Text.isBefore right left

structure Profile where
  policy : Policy
  episode : Episode
  deriving Inhabited

namespace Profile

def collectErrors (policy : Policy) (report : Report) : List String → Action Report
  | [] => pure report
  | name :: rest => do
    let verdict ← policy.validateName name
    collectErrors policy (report.addAll verdict.errors) rest

/-- Validates every name of the set; all errors are reported together. -/
def validate (policy : Policy) (visit : Visit) : Action Unit := do
  let episode ← get
  let report ← collectErrors policy .empty (visit episode.values.names)
  let episode ← get
  if report.errors.isEmpty then set { episode with validated := true }
  else
    set (episode.log (.validationFailed episode.organizationName policy.context
      (sortedTexts (report.errors.map (·.field)))))
    throw (.rejected report)

def setAttribute (name : String) (values : List String) : Action Unit := fun episode =>
  match episode.organization with
  | none => .ok () episode
  | some organization =>
    match organization.setAttribute name (values.map Value.text) with
    | .ok organization => .ok () { episode with organization := some organization }
    | .error fault => .error fault episode

def removeAttribute (name : String) : Action Unit := fun episode =>
  match episode.organization with
  | none => .ok () episode
  | some organization =>
    match organization.removeAttribute name with
    | .ok organization => .ok () { episode with organization := some organization }
    | .error fault => .error fault episode

/-- The values stored under a name of the organization that are not missing. -/
def storedUnder (name : String) (episode : Episode) : List Value :=
  Policy.storedValues episode.organization name

/-- What is to be written for a name, if anything: its non-blank values, unless they are stored
already or are none and nothing is to be removed. -/
def difference (remove : Bool) (name : String) (values : List Value) (episode : Episode) :
    Except Mishap (Option (List String)) := do
  let updated ← nonBlank values
  let same ← Value.sameListItems (storedUnder name episode) (updated.map Value.text)
  pure (if same || (updated.isEmpty && !remove) then none else some updated)

/-- Writes the values that differ, in order, and returns the names written. -/
def writeAll (remove : Bool) : AttributeValues → Action (List String)
  | [] => pure []
  | (name, values) :: rest =>
    if name == nameKey then writeAll remove rest
    else do
      let wanted ← Policy.inspect (difference remove name values)
      match wanted with
      | none => writeAll remove rest
      | some updated =>
        setAttribute name updated
        let written ← writeAll remove rest
        pure (name :: written)

/-- Removes the given names unless they are read-only, and returns the names removed. -/
def removeAll (policy : Policy) : List String → Action (List String)
  | [] => pure []
  | name :: rest =>
    if name == nameKey then removeAll policy rest
    else do
      let kept ← policy.isReadOnly name
      if kept then removeAll policy rest
      else
        removeAttribute name
        let removed ← removeAll policy rest
        pure (name :: removed)

/-- The stored names that the set does not hold. -/
def omitted (episode : Episode) : List String :=
  match episode.organization with
  | none => []
  | some organization =>
    organization.attributeNames.filter fun name => !episode.values.holds name

/-- Writes what differs and removes what was left out. -/
def applyDifference (policy : Policy) (remove : Bool) (visit : Visit) : Action Unit := do
  let episode ← get
  let written ← writeAll remove (policy.writable episode)
  let episode ← get
  let removed ← if remove then removeAll policy (visit (omitted episode)) else pure []
  let episode ← get
  set (episode.log (.profileUpdated episode.organizationName policy.context written
    (sortedTexts removed)))

/-- Reports what is not fatal by itself as the cause of a fault of persistence. -/
def reportingFailures (action : Action Unit) : Action Unit := fun episode =>
  match action episode with
  | .ok value episode => .ok value episode
  | .error fault episode =>
    match fault.causeMessage? with
    | none => .error fault.reported episode
    | some message =>
      .error fault.reported (episode.log (.updateFailed episode.organizationName message))

/-- Validates if that was not done yet, and applies the difference. -/
def update (policy : Policy) (remove : Bool) (validation removal : Visit) : Action Unit := do
  let episode ← get
  if episode.validated then pure () else validate policy validation
  let episode ← get
  if episode.organization.isNone then throw (.usage .unboundProfile)
  else reportingFailures (applyDifference policy remove removal)

def run {α : Type} (profile : Profile) (action : Policy → Action α) :
    Except Fault α × Profile :=
  match action profile.policy profile.episode with
  | .ok value episode => (.ok value, { profile with episode })
  | .error fault episode => (.error fault, { profile with episode })

end Profile

end ProfilePolicy
