import ProfilePolicy.Mishap

/-!
# Management contexts

An organization's attributes are managed from one of two places, and the place decides which rules
apply to a submission.
-/

namespace ProfilePolicy

/-- Where an organization is being managed from. -/
inductive Context
  /-- A manager of the organization updates its profile. -/
  | updateProfile
  /-- An administrator of the platform updates its metadata. -/
  | updateMetadata
  deriving DecidableEq, Repr, Inhabited

namespace Context

def name : Context → String
  | updateProfile => "UPDATE_PROFILE"
  | updateMetadata => "UPDATE_METADATA"

def value : Context → String
  | updateProfile => "update_profile"
  | updateMetadata => "update_metadata"

def isAdmin : Context → Bool
  | updateProfile => false
  | updateMetadata => true

def all : List Context := [updateProfile, updateMetadata]

def ofValue (chosen : Value) : Except Mishap Context :=
  match all.find? fun context => (Value.text context.value).same chosen with
  | some context => .ok context
  | none => .error (.notMember chosen "ProfileContext")

def ofName (name : Value) : Except Mishap Context :=
  match all.find? fun context => (Value.text context.name).same name with
  | some context => .ok context
  | none => .error (.unknownKey name)

end Context

end ProfilePolicy
