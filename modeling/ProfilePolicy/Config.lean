import ProfilePolicy.Fault
import ProfilePolicy.Submission

/-!
# Read-only configuration

Two lists of patterns: one holds in the context of an organization's managers, the other in both
contexts. Settings arrive as values of unknown type. A setting is accepted when it is missing, a
single text, or something whose items are all texts that are not blank and have no star before their
last character once the white space around them is removed. The patterns are kept without that
white space.
-/

namespace ProfilePolicy

structure Config where
  readOnly : List String := []
  adminReadOnly : List String := []
  deriving DecidableEq, Repr, Inhabited

inductive Setting
  | readOnly
  | adminReadOnly
  deriving DecidableEq, Repr, Inhabited

namespace Setting

def fieldName : Setting → String
  | readOnly => "read_only_attributes"
  | adminReadOnly => "admin_read_only_attributes"

def key : Setting → String
  | readOnly => "read-only-attributes"
  | adminReadOnly => "admin-read-only-attributes"

end Setting

namespace Config

def starTooEarly (pattern : String) : Bool :=
  pattern.toList.dropLast.contains '*'

def checkPattern (setting : Setting) (item : Value) : Except Fault String :=
  match item with
  | .text written =>
    let pattern := Text.strip written
    if pattern == "" then .error (.configuration (.blankPattern setting.fieldName))
    else if starTooEarly pattern then
      .error (.configuration (.misplacedStar pattern setting.fieldName))
    else .ok pattern
  | _ => .error (.configuration (.blankPattern setting.fieldName))

/-- The items of a setting as patterns; the first offending item decides the fault. -/
def checkPatterns (setting : Setting) : List Value → Except Fault (List String)
  | [] => .ok []
  | item :: rest => do
    let pattern ← checkPattern setting item
    let patterns ← checkPatterns setting rest
    pure (pattern :: patterns)

/-- The items of a setting: none of a missing one, a single text as one item. -/
def settingItems : Value → Except Mishap (List Value)
  | .null => .ok []
  | .text written => .ok [.text written]
  | value => value.items

def checkSetting (setting : Setting) (value : Value) : Except Fault (List String) := do
  let items ← orMishap (settingItems value)
  checkPatterns setting items

/-- The configuration of two settings. The first setting is checked first. -/
def ofSettings (readOnly adminReadOnly : Value) : Except Fault Config := do
  let readOnly ← checkSetting .readOnly readOnly
  let adminReadOnly ← checkSetting .adminReadOnly adminReadOnly
  pure { readOnly, adminReadOnly }

/-- The value of a setting among named values; the key of configuration files goes before the
field's name. -/
def settingOf (values : Keyed Value) (setting : Setting) : Value :=
  ((values.get? setting.key).or (values.get? setting.fieldName)).getD .null

/-- The configuration of named values; names that are no setting are ignored. -/
def ofValues (values : Keyed Value) : Except Fault Config :=
  ofSettings (settingOf values .readOnly) (settingOf values .adminReadOnly)

end Config

end ProfilePolicy
