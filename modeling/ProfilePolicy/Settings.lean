import ProfilePolicy.Config
import ProfilePolicy.Value.Parts
import ProfilePolicy.Yaml.Document

/-!
# Settings of a deployment

The settings name the read-only patterns and, if they wish, a file with more of them. Settings
arrive as values of unknown type under their names, whose letter case does not matter, and are
checked in the order in which they are declared here; unknown names are ignored. A key of the file
replaces the setting it stands for, also when it has no value there.
-/

namespace ProfilePolicy

/-! ## Checking -/

/-- What a setting, or an item of one, should have been. -/
inductive Expected
  | list
  | text
  | whole
  /-- A text that shows a whole number. -/
  | wholeText
  /-- A number of no more than the most digits, or a real number of no more than 63 bits. -/
  | wholeSize
  /-- A real number without a fraction. -/
  | wholeReal
  | finite
  | truth
  /-- A word or a number that stands for a truth value. -/
  | truthWord
  deriving DecidableEq, Repr, Inhabited

def Expected.checkName : Expected → String
  | list => "list_type"
  | text => "string_type"
  | whole => "int_type"
  | wholeText => "int_parsing"
  | wholeSize => "int_parsing_size"
  | wholeReal => "int_from_float"
  | finite => "finite_number"
  | truth => "bool_type"
  | truthWord => "bool_parsing"

/-- A setting, or the item of one, of the wrong type. -/
structure SettingError where
  location : String
  expected : Expected
  deriving DecidableEq, Repr, Inhabited

inductive SettingType
  | text
  | textOrNull
  | texts
  | whole
  | truth
  deriving DecidableEq, Repr, Inhabited

def itemErrors (name : String) (items : List Value) : List SettingError :=
  items.zipIdx.filterMap fun (item, place) =>
    if item.text?.isSome then none else some ⟨name ++ "." ++ toString place, .text⟩

/-- White space around a number; the separators U+001C to U+001F are none. -/
def isNumberSpace (c : Char) : Bool :=
  Text.isBlankChar c && !(decide (28 ≤ c.toNat) && decide (c.toNat ≤ 31))

/-- What a text should have been that is no bare numeral: digits, the first of which is zero only
when it stands alone, after a minus sign or none. -/
def numeralFault? (cs : List Char) : Option Expected :=
  let body := match cs with
    | '-' :: rest => rest
    | cs => cs
  let digits := body.takeWhile Char.isDigit
  let signLength := cs.length - body.length
  if digits.head? == some '0' then (if body == ['0'] then none else some .wholeText)
  else if Text.mostDigits < signLength + digits.length then some .wholeSize
  else if digits.isEmpty || digits.length != body.length then some .wholeText
  else none

/-- What follows the zeros at the beginning of a numeral and the underscores among them, the last of
which stays where nothing else does or where a point follows. -/
def afterZeros (last : Char) : List Char → Option (List Char)
  | [] => some [last]
  | c :: rest =>
    if c == '0' || c == '_' then afterZeros c rest
    else if c.isDigit || c == '-' then some (c :: rest)
    else if c == '.' then some (last :: c :: rest)
    else none

def withoutZeros : List Char → Option (List Char)
  | [] => none
  | c :: rest =>
    if c == '0' then afterZeros c rest
    else if c.isDigit || c == '-' then some (c :: rest)
    else none

def withoutFraction (cs : List Char) : List Char :=
  match cs.dropWhile (· != '.') with
  | [] => cs
  | _ :: fraction =>
    if !fraction.isEmpty && fraction.all (· == '0') then cs.takeWhile (· != '.') else cs

/-- A numeral without the single underscores between its characters. -/
def withoutUnderscores (cs : List Char) : List Char :=
  let groups := Text.splitAt '_' cs
  if groups.all (!·.isEmpty) then groups.flatten else cs

/-- A text without a plus sign in front of something other than a minus sign. -/
def withoutPlus (cs : List Char) : List Char :=
  match cs with
  | '+' :: rest => if rest.head? == some '-' then cs else rest
  | cs => cs

/-- The bare numeral of a text: it may stand between blanks, after a plus sign and zeros and before
a fraction of zeros, and underscores may divide it. -/
def bareNumeral? (cs : List Char) : Option (List Char) :=
  (withoutZeros (withoutPlus (Text.trimChars isNumberSpace cs))).map fun digits =>
    withoutUnderscores (withoutFraction digits)

def wholeTextFault? (text : String) : Option Expected :=
  match numeralFault? text.toList with
  | some .wholeText =>
    match bareNumeral? text.toList with
    | some numeral => numeralFault? numeral
    | none => some .wholeText
  | fault => fault

def settingWords : List String :=
  ["0", "off", "f", "false", "n", "no", "1", "on", "t", "true", "y", "yes"]

def isWholeReal (number : Binary64) : Bool :=
  match number with
  | .infinite _ => false
  | .finite _ significand exponent =>
    let (num, den) := Binary64.scaleDown significand 1 (-exponent)
    num % den == 0

/-- The number of bits of a machine word beside its sign. -/
def wordBits : Nat := 63

def fitsWord (n : Int) : Bool :=
  decide (-(Nat.pow 2 wordBits : Int) ≤ n) && decide (n < Nat.pow 2 wordBits)

def wholeFault? : Value → Option Expected
  | .int _ | .bool _ => none
  | .text text => wholeTextFault? text
  | .real (.infinite _) | .other "float" => some .finite
  | .real number =>
    if !isWholeReal number then some .wholeReal
    else if number.isWithin wordBits then none
    else some .wholeSize
  | _ => some .whole

def truthFault? : Value → Option Expected
  | .bool _ => none
  | .text text => if settingWords.contains (Text.lower text) then none else some .truthWord
  | .int number =>
    if number == 0 || number == 1 then none
    else if fitsWord number then some .truthWord
    else some .truth
  | .real number =>
    if number.isInt 0 || number.isInt 1 then none
    else if isWholeReal number && number.isWithin wordBits then some .truthWord
    else some .truth
  | _ => some .truth

def SettingType.errors (name : String) : SettingType → Value → List SettingError
  | text, .text _ => []
  | text, _ => [⟨name, .text⟩]
  | textOrNull, .text _ | textOrNull, .null => []
  | textOrNull, _ => [⟨name, .text⟩]
  | texts, .list items => itemErrors name items
  | texts, _ => [⟨name, .list⟩]
  | whole, value => (wholeFault? value).toList.map fun expected => ⟨name, expected⟩
  | truth, value => (truthFault? value).toList.map fun expected => ⟨name, expected⟩

/-- The settings that are checked, in their order. -/
def declaredSettings : List (String × SettingType) := [
  ("DATABASE_URL", .text),
  ("BACKEND_HOST", .text),
  ("BACKEND_PORT", .whole),
  ("APP_DEBUG", .truth),
  ("LOG_LEVEL", .text),
  ("LOG_JSON", .truth),
  ("LOG_SQL", .truth),
  ("ORG_READ_ONLY_ATTRIBUTES", .texts),
  ("ORG_ADMIN_READ_ONLY_ATTRIBUTES", .texts),
  ("PROFILE_CONFIG_FILE", .textOrNull)]

/-- The values of settings under the names by which they are declared. A value under just that name
goes before one under a name in other letters. -/
def declaredValues (values : Keyed Value) : Keyed Value :=
  declaredSettings.filterMap fun (name, _) =>
    let sameName (entry : String × Value) : Bool := Text.lower entry.1 == Text.lower name
    ((values.get? name).or ((values.find? sameName).map (·.2))).map fun value => (name, value)

def settingErrors (values : Keyed Value) : List SettingError :=
  declaredSettings.flatMap fun (name, type) =>
    match values.get? name with
    | some value => type.errors name value
    | none => []

/-! ## Settings -/

/-- The settings of a deployment that concern profiles. -/
structure Settings where
  readOnly : List String := []
  adminReadOnly : List String := []
  /-- The path of a configuration file; the empty one stands for none. -/
  configFile : Option String := none
  deriving DecidableEq, Repr, Inhabited

inductive PathContent
  | missing
  | directory
  /-- The path, or a name in it, is longer than a path can be. -/
  | tooLong
  | file (text : String)
  deriving DecidableEq, Repr, Inhabited

namespace Settings

def ofValues (values : Keyed Value) : Except (List SettingError) Settings :=
  let values := declaredValues values
  match settingErrors values with
  | [] =>
    let settings : Value := .record values
    .ok {
      readOnly := settings.textParts "ORG_READ_ONLY_ATTRIBUTES"
      adminReadOnly := settings.textParts "ORG_ADMIN_READ_ONLY_ATTRIBUTES"
      configFile := (settings.part "PROFILE_CONFIG_FILE").text? }
  | errors => .error errors

/-- A path without the steps that lead nowhere: empty ones and single dots. Two slashes at its
beginning are another root than one. -/
def plainPath (path : String) : String :=
  let slashes := (path.toList.takeWhile (· == '/')).length
  let root := if slashes == 0 then "" else if slashes == 2 then "//" else "/"
  let steps := ((Text.splitAt '/' path.toList).map String.ofList).filter fun step =>
    step != "" && step != "."
  let plain := root ++ "/".intercalate steps
  if plain == "" then "." else plain

def fileEntries (path : String) : PathContent → Except Fault (Keyed Value)
  | .missing => .error (.configuration (.fileNotFound path))
  | .directory => .error (.mishap (.directoryNotFile (plainPath path)))
  | .tooLong => .error (.mishap (.nameTooLong (plainPath path)))
  | .file text =>
    match Yaml.Document.read text with
    | .ok .empty => .ok []
    | .ok (.mapping entries) => .ok entries
    | .ok .other => .error (.configuration (.fileNotMapping path))
    | .error .malformed => .error (.configuration (.fileInvalid path "malformed text"))
    | .error (.mishap cause) => .error (.mishap cause)

/-- The entries of the configuration file of the settings; no file has none. -/
def configuredEntries (settings : Settings) (contentAt : String → PathContent) :
    Except Fault (Keyed Value) :=
  match settings.configFile with
  | none | some "" => .ok []
  | some path => fileEntries path (contentAt (plainPath path))

/-- The configuration of the settings. An entry of the file goes before the setting. -/
def load (settings : Settings) (contentAt : String → PathContent) : Except Fault Config := do
  let entries ← settings.configuredEntries contentAt
  let valueOf (setting : Setting) (texts : List String) : Value :=
    (entries.get? setting.key).getD (.ofTexts texts)
  Config.ofSettings (valueOf .readOnly settings.readOnly)
    (valueOf .adminReadOnly settings.adminReadOnly)

end Settings

end ProfilePolicy
