import ProfilePolicy.Organization
import ProfilePolicy.Text.Half
import ProfilePolicy.Uuid
import ProfilePolicy.Value.Parts

/-!
# The directory of organizations

Organizations are kept under identifiers, with a display name and the time of their creation. No two
of them may have the same name: the directory refuses a change that would break this and stays as it
was. The attributes of an organization are kept as rows; a row list that was stored comes back
sorted by the positions of its rows. What cannot leave as bytes cannot be stored either.

The store behind the directory is known by what it promises: it takes nothing that the directory
does not admit, and it loads nothing for a caller who does not wait. It may refuse more, and its
failures are its own.
-/

namespace ProfilePolicy

structure StoredOrganization where
  id : Uuid
  organization : Organization
  displayName : Option String := none
  createdAt : String
  deriving Inhabited

namespace StoredOrganization

def hasRows (stored : StoredOrganization) : Bool :=
  match stored.organization.storage with
  | .entries map => !map.isEmpty
  | .rows held => !held.isEmpty

/-- The organization as it comes back from the store. -/
def reload (stored : StoredOrganization) : StoredOrganization :=
  match stored.organization.storage with
  | .entries _ => stored
  | .rows held =>
    { stored with
      organization := { stored.organization with storage := .rows (AttributeRow.reload held) } }

def attributesRecord (stored : StoredOrganization) : Value :=
  .record (stored.organization.attributes.map fun entry =>
    (entry.1, .list entry.2))

/-- Whether the name or the display name holds half of a pair, which cannot be stored. -/
def namesHoldHalf (stored : StoredOrganization) : Bool :=
  stored.organization.name.anyText Text.hasHalf || (stored.displayName.map Text.hasHalf).getD false

/-- Whether an attribute name or a value holds half of a pair, which cannot be stored. -/
def attributesHoldHalf (stored : StoredOrganization) : Bool :=
  stored.attributesRecord.anyText Text.hasHalf

def toRecord (stored : StoredOrganization) : Value :=
  .record [
    ("id", .text stored.id.text),
    ("name", stored.organization.name),
    ("displayName", .ofText? stored.displayName),
    ("attributes", stored.attributesRecord),
    ("createdAt", .text stored.createdAt)]

end StoredOrganization

structure Directory where
  entries : List StoredOrganization := []
  deriving Inhabited

namespace Directory

def find? (directory : Directory) (id : Uuid) : Option StoredOrganization :=
  (directory.entries.find? fun entry => entry.id == id).map StoredOrganization.reload

def nameTaken (directory : Directory) (name : Value) (id : Uuid) : Bool :=
  directory.entries.any fun entry => entry.id != id && entry.organization.name.same name

/-- All texts of an organization can be kept, and no other organization has its name. -/
structure Admits (directory : Directory) (stored : StoredOrganization) : Prop where
  names : stored.namesHoldHalf = false
  nameFree : directory.nameTaken stored.organization.name stored.id = false
  attributes : stored.attributesHoldHalf = false

/-- The failure with which an organization is refused that the directory does not admit. The names
are looked at first, and whether the name is taken comes before the attributes. -/
def refusal? (directory : Directory) (stored : StoredOrganization) : Option Mishap :=
  if stored.namesHoldHalf then some .halfCharacter
  else if directory.nameTaken stored.organization.name stored.id then
    let message := "UNIQUE constraint failed: organizations.name"
    some (.integrity message message)
  else if stored.attributesHoldHalf then some .halfCharacter
  else none

theorem admits_of_refusal? {directory : Directory} {stored : StoredOrganization}
    (granted : directory.refusal? stored = none) : directory.Admits stored := by
  unfold refusal? at granted
  split at granted
  · cases granted
  · rename_i names
    split at granted
    · cases granted
    · rename_i nameFree
      split at granted
      · cases granted
      · rename_i attributes
        exact ⟨Bool.eq_false_iff.mpr names, Bool.eq_false_iff.mpr nameFree,
          Bool.eq_false_iff.mpr attributes⟩

/-- Puts an organization in the place of the one under its identifier, or at the end. -/
def put (directory : Directory) (stored : StoredOrganization) : Directory :=
  if directory.entries.any (·.id == stored.id) then
    { entries := directory.entries.map fun entry =>
        if entry.id == stored.id then stored else entry }
  else { entries := directory.entries ++ [stored] }

def without (directory : Directory) (id : Uuid) : Directory :=
  { entries := directory.entries.filter (·.id != id) }

end Directory

/-- What keeps organizations. `refusal?` is the failure with which committing one is refused, and
`load` loads the rows of one that none was put into since it was made, which fails wherever nobody
waits for the store. -/
structure Store where
  refusal? : Directory → StoredOrganization → Option Mishap
  admits {directory : Directory} {stored : StoredOrganization} :
    refusal? directory stored = none → directory.Admits stored
  load : StoredOrganization → Except Mishap (List AttributeRow)
  fails (stored : StoredOrganization) : ∃ cause, load stored = .error cause

/-- A store that refuses only what the directory does not admit. -/
def Store.plain : Store where
  refusal? := Directory.refusal?
  admits := Directory.admits_of_refusal?
  load _ := .error (.outside "MissingGreenlet" "greenlet_spawn has not been called")
  fails _ := ⟨_, rfl⟩

instance : Inhabited Store := ⟨.plain⟩

/-- A new organization with its rows at hand: those that were put in, and if none was, those that
the store loads. -/
def StoredOrganization.loaded (store : Store) (stored : StoredOrganization) :
    Except Mishap StoredOrganization :=
  if stored.hasRows then .ok stored
  else do
    let rows ← store.load stored
    pure { stored with organization := { stored.organization with storage := .rows rows } }

end ProfilePolicy
