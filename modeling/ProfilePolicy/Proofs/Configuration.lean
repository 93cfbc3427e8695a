import Mathlib.Data.List.DropRight
import ProfilePolicy.Config
import ProfilePolicy.Proofs.Action

/-!
# Accepted settings

A configuration is accepted when every item of both settings is a text that is not blank and has no
star before its last character once the white space around it is removed. What is kept then is
accepted again and stays as it is. Otherwise the first offending item decides the fault, the items
of the first setting going before those of the second.
-/

namespace ProfilePolicy

/-! ## White space -/

namespace Text

variable {drop : Char → Bool} {cs : List Char}

/-- Characters that neither begin nor end with one to be dropped. -/
def IsTrimmed (drop : Char → Bool) (cs : List Char) : Prop :=
  ∀ c, cs.head? = some c ∨ cs.getLast? = some c → drop c = false

theorem trimChars_eq_rdropWhile (drop : Char → Bool) (cs : List Char) :
    trimChars drop cs = (cs.dropWhile drop).rdropWhile drop := rfl

theorem trimChars_eq_nil_iff : trimChars drop cs = [] ↔ cs.all drop = true := by
  rw [trimChars_eq_rdropWhile, List.rdropWhile_eq_nil_iff, List.all_eq_true]
  constructor
  · intro rest c mem
    rw [← List.takeWhile_append_dropWhile (p := drop) (l := cs)] at mem
    rcases List.mem_append.mp mem with front | behind
    · exact List.mem_takeWhile_imp front
    · exact rest c behind
  · exact fun all c mem => all c ((List.dropWhile_sublist drop).subset mem)

theorem isTrimmed_trimChars : IsTrimmed drop (trimChars drop cs) := by
  intro c side
  rw [trimChars_eq_rdropWhile] at side
  rcases side with first | last
  · -- what remains begins where its beginning was dropped
    obtain ⟨rest, whole⟩ := List.rdropWhile_prefix drop (cs.dropWhile drop)
    have first' : (cs.dropWhile drop).head? = some c := by
      rw [← whole, List.head?_append, first, Option.some_or]
    have kept := List.head?_dropWhile_not drop cs
    rw [first'] at kept
    exact kept
  · have given : (cs.dropWhile drop).rdropWhile drop ≠ [] := fun none => by
      rw [none] at last
      cases last
    rw [List.getLast?_eq_some_getLast given] at last
    cases last
    exact Bool.eq_false_iff.mpr (List.rdropWhile_last_not drop _ given)

theorem trimChars_of_isTrimmed (trimmed : IsTrimmed drop cs) : trimChars drop cs = cs := by
  have front : cs.dropWhile drop = cs := by
    cases cs with
    | nil => rfl
    | cons c rest =>
      have kept : drop c = false := trimmed c (.inl rfl)
      exact List.dropWhile_cons_of_neg (Bool.eq_false_iff.mp kept)
  rw [trimChars_eq_rdropWhile, front, List.rdropWhile_eq_self_iff]
  exact fun given => Bool.eq_false_iff.mp
    (trimmed _ (.inr (List.getLast?_eq_some_getLast given)))

theorem strip_eq_empty_iff {s : String} : strip s = "" ↔ isBlank s = true := by
  rw [strip, isBlank, ← trimChars_eq_nil_iff, String.ofList_eq_empty_iff]

end Text

/-! ## Well-formed items -/

namespace Config

/-- A star stands nowhere but at the end. -/
def StarAtEnd (pattern : String) : Prop :=
  ∀ front back, pattern.toList = front ++ '*' :: back → back = []

structure IsPattern (pattern : String) : Prop where
  visible : Text.isBlank pattern = false
  trimmed : Text.IsTrimmed Text.isBlankChar pattern.toList
  starAtEnd : StarAtEnd pattern

/-- A text that is not blank. -/
def IsVisible (item : Value) : Prop :=
  ∃ written, item = .text written ∧ Text.isBlank written = false

/-- A text that is not blank and whose stars stand at the end once the white space around it is
removed. -/
def IsWellFormed (item : Value) : Prop :=
  ∃ written, item = .text written ∧ Text.isBlank written = false ∧ StarAtEnd (Text.strip written)

inductive Offends (setting : Setting) : Value → ConfigurationProblem → Prop
  | blank {item : Value} (hidden : ¬ IsVisible item) :
      Offends setting item (.blankPattern setting.fieldName)
  | star {written : String} (visible : Text.isBlank written = false)
      (early : ¬ StarAtEnd (Text.strip written)) :
      Offends setting (.text written) (.misplacedStar (Text.strip written) setting.fieldName)

theorem Offends.not_isWellFormed {setting : Setting} {item : Value} {problem : ConfigurationProblem}
    (h : Offends setting item problem) : ¬ IsWellFormed item := by
  rintro ⟨written, same, visible, atEnd⟩
  cases h with
  | blank hidden => exact hidden ⟨written, same, visible⟩
  | star _ early =>
    cases same
    exact early atEnd

theorem Offends.metadata {setting : Setting} {item : Value} {problem : ConfigurationProblem}
    (h : Offends setting item problem) :
    problem.metadata = [("setting", .text setting.fieldName)] := by
  cases h <;> rfl

theorem starTooEarly_eq_false_iff {pattern : String} :
    starTooEarly pattern = false ↔ StarAtEnd pattern := by
  rw [starTooEarly, StarAtEnd, ← Bool.not_eq_true, List.contains_iff_mem]
  constructor
  · intro absent front back whole
    by_contra more
    rw [whole, List.dropLast_append_of_ne_nil (List.cons_ne_nil _ _),
      List.dropLast_cons_of_ne_nil more] at absent
    exact absent (by simp)
  · intro atEnd mem
    obtain ⟨front, back, split⟩ := List.append_of_mem mem
    have given : pattern.toList ≠ [] := fun none => by
      rw [none] at mem
      cases mem
    have whole := List.dropLast_append_getLast given
    rw [split, List.append_assoc, List.cons_append] at whole
    exact List.append_ne_nil_of_right_ne_nil back (List.cons_ne_nil _ _) (atEnd _ _ whole.symm)

/-- A text without the white space around it is kept as it is. -/
theorem IsPattern.strip_eq {pattern : String} (h : IsPattern pattern) :
    Text.strip pattern = pattern := by
  rw [Text.strip, Text.trimChars_of_isTrimmed h.trimmed, String.ofList_toList]

theorem IsPattern.isWellFormed {pattern : String} (h : IsPattern pattern) :
    IsWellFormed (.text pattern) :=
  ⟨pattern, rfl, h.visible, by rw [h.strip_eq]; exact h.starAtEnd⟩

/-- What is kept of a well-formed text. -/
theorem isPattern_strip {written : String} (visible : Text.isBlank written = false)
    (atEnd : StarAtEnd (Text.strip written)) : IsPattern (Text.strip written) := by
  have trimmed : Text.IsTrimmed Text.isBlankChar (Text.strip written).toList := by
    rw [Text.strip, String.toList_ofList]
    exact Text.isTrimmed_trimChars
  refine ⟨?_, trimmed, atEnd⟩
  rw [← Bool.not_eq_true, ← Text.strip_eq_empty_iff] at visible ⊢
  rwa [Text.strip, Text.trimChars_of_isTrimmed trimmed, String.ofList_toList]

/-! ## One item, one setting -/

/-- An item is kept without the white space around it, or it offends. -/
theorem checkPattern_cases (setting : Setting) (item : Value) :
    (∃ written, item = .text written ∧ IsWellFormed item ∧
        checkPattern setting item = .ok (Text.strip written)) ∨
      ∃ problem, Offends setting item problem ∧
        checkPattern setting item = .error (.configuration problem) := by
  have foreign (noText : ∀ written, item ≠ .text written) : ¬ IsVisible item :=
    fun ⟨written, same, _⟩ => noText written same
  cases item with
  | text written =>
    rw [checkPattern]
    by_cases empty : Text.strip written = ""
    · right
      have hidden : ¬ IsVisible (.text written) := by
        rintro ⟨_, same, visible⟩
        cases same
        rw [Text.strip_eq_empty_iff.mp empty] at visible
        cases visible
      exact ⟨_, .blank hidden, if_pos (beq_iff_eq.mpr empty)⟩
    · have visible : Text.isBlank written = false :=
        Bool.eq_false_iff.mpr fun blank => empty (Text.strip_eq_empty_iff.mpr blank)
      rw [if_neg (beq_iff_eq.not.mpr empty)]
      cases early : starTooEarly (Text.strip written) with
      | false =>
        exact .inl ⟨written, rfl, ⟨written, rfl, visible, starTooEarly_eq_false_iff.mp early⟩, rfl⟩
      | true =>
        refine .inr ⟨_, .star visible fun atEnd => ?_, rfl⟩
        rw [starTooEarly_eq_false_iff.mpr atEnd] at early
        cases early
  | _ => exact .inr ⟨_, .blank (foreign fun _ same => by cases same), rfl⟩

/-- The items of a setting are kept in order, or the first of them that offends decides. -/
theorem checkPatterns_cases (setting : Setting) (items : List Value) :
    (∃ texts : List String, items = texts.map .text ∧
        (∀ item ∈ items, IsWellFormed item) ∧
        checkPatterns setting items = .ok (texts.map Text.strip)) ∨
      ∃ before item after problem, items = before ++ item :: after ∧
        (∀ earlier ∈ before, IsWellFormed earlier) ∧ Offends setting item problem ∧
        checkPatterns setting items = .error (.configuration problem) := by
  induction items with
  | nil => exact .inl ⟨[], rfl, List.forall_mem_nil _, rfl⟩
  | cons item rest ih =>
    rw [checkPatterns]
    rcases checkPattern_cases setting item with
      ⟨written, same, fine, result⟩ | ⟨problem, offends, result⟩
    · rw [result]
      rcases ih with ⟨texts, rfl, allFine, later⟩ |
        ⟨before, next, after, problem, rfl, fineBefore, offends, later⟩
      · refine .inl ⟨written :: texts, by rw [same, List.map_cons], ?_, by rw [later]; rfl⟩
        exact List.forall_mem_cons.mpr ⟨fine, allFine⟩
      · refine .inr ⟨item :: before, next, after, problem, rfl, ?_, offends, by rw [later]; rfl⟩
        exact List.forall_mem_cons.mpr ⟨fine, fineBefore⟩
    · exact .inr ⟨[], item, rest, problem, rfl, List.forall_mem_nil _, offends, by rw [result]; rfl⟩

/-! ## Both settings -/

/-- What may be given for a setting: nothing, a single text, or a list. -/
inductive Given
  | missing
  | single (written : String)
  | several (items : List Value)

namespace Given

def value : Given → Value
  | missing => .null
  | single written => .text written
  | several items => .list items

def items : Given → List Value
  | missing => []
  | single written => [.text written]
  | several items => items

theorem settingItems_value (given : Given) : settingItems given.value = .ok given.items := by
  cases given <;> rfl

end Given

theorem checkSetting_value (setting : Setting) (given : Given) :
    checkSetting setting given.value = checkPatterns setting given.items := by
  rw [checkSetting, given.settingItems_value]
  rfl

/-- The items of both settings in the order in which they are looked at. -/
def itemsOf (readOnly adminReadOnly : Given) : List (Setting × Value) :=
  readOnly.items.map (Setting.readOnly, ·) ++ adminReadOnly.items.map (Setting.adminReadOnly, ·)

theorem forall_itemsOf {readOnly adminReadOnly : Given} :
    (∀ entry ∈ itemsOf readOnly adminReadOnly, IsWellFormed entry.2) ↔
      (∀ item ∈ readOnly.items, IsWellFormed item) ∧
        ∀ item ∈ adminReadOnly.items, IsWellFormed item := by
  rw [itemsOf, List.forall_mem_append, List.forall_mem_map, List.forall_mem_map]

/-- The texts given for a setting are kept in order, without the white space around them. -/
def KeepsTexts (given : Given) (kept : List String) : Prop :=
  ∃ texts : List String, given.items = texts.map .text ∧ kept = texts.map Text.strip

/-- What is wrong with the first offending item. -/
def IsFirstOffence (items : List (Setting × Value)) (setting : Setting)
    (problem : ConfigurationProblem) : Prop :=
  ∃ before item after, items = before ++ (setting, item) :: after ∧
    (∀ earlier ∈ before, IsWellFormed earlier.2) ∧ Offends setting item problem

/-- What was given for both settings is kept, or the first offending item decides. -/
theorem ofSettings_cases (readOnly adminReadOnly : Given) :
    (∃ config, ofSettings readOnly.value adminReadOnly.value = .ok config ∧
        (∀ entry ∈ itemsOf readOnly adminReadOnly, IsWellFormed entry.2) ∧
        KeepsTexts readOnly config.readOnly ∧ KeepsTexts adminReadOnly config.adminReadOnly) ∨
      ∃ setting problem,
        ofSettings readOnly.value adminReadOnly.value = .error (.configuration problem) ∧
        IsFirstOffence (itemsOf readOnly adminReadOnly) setting problem := by
  have labelled (setting : Setting) {items : List Value} (fine : ∀ item ∈ items, IsWellFormed item) :
      ∀ entry ∈ items.map (setting, ·), IsWellFormed entry.2 :=
    List.forall_mem_map.mpr fine
  rw [ofSettings, checkSetting_value, checkSetting_value]
  rcases checkPatterns_cases .readOnly readOnly.items with
    ⟨texts, given, fine, first⟩ | ⟨before, item, after, problem, split, fine, offends, first⟩
  · rcases checkPatterns_cases .adminReadOnly adminReadOnly.items with
      ⟨texts', given', fine', second⟩ | ⟨before, item, after, problem, split, fine', offends, second⟩
    · left
      exact ⟨_, by rw [first, second]; rfl, forall_itemsOf.mpr ⟨fine, fine'⟩,
        ⟨texts, given, rfl⟩, ⟨texts', given', rfl⟩⟩
    · right
      refine ⟨.adminReadOnly, problem, by rw [first, second]; rfl,
        readOnly.items.map (.readOnly, ·) ++ before.map (.adminReadOnly, ·), item,
        after.map (.adminReadOnly, ·), ?_, ?_, offends⟩
      · rw [itemsOf, split, List.map_append, List.map_cons, List.append_assoc]
      · exact List.forall_mem_append.mpr ⟨labelled _ fine, labelled _ fine'⟩
  · right
    refine ⟨.readOnly, problem, by rw [first]; rfl, before.map (.readOnly, ·), item,
      after.map (.readOnly, ·) ++ adminReadOnly.items.map (.adminReadOnly, ·), ?_, labelled _ fine,
      offends⟩
    rw [itemsOf, split, List.map_append, List.map_cons, List.append_assoc, List.cons_append]

theorem KeepsTexts.isPattern {given : Given} {kept : List String} (h : KeepsTexts given kept)
    (fine : ∀ item ∈ given.items, IsWellFormed item) : ∀ pattern ∈ kept, IsPattern pattern := by
  obtain ⟨texts, items, rfl⟩ := h
  rw [items] at fine
  rintro _ mem
  obtain ⟨written, listed, rfl⟩ := List.mem_map.mp mem
  obtain ⟨_, same, visible, atEnd⟩ := fine (.text written) (List.mem_map_of_mem listed)
  cases same
  exact isPattern_strip visible atEnd

/-- Patterns that are kept are accepted again as they are. -/
theorem checkSetting_ofTexts (setting : Setting) {patterns : List String}
    (kept : ∀ pattern ∈ patterns, IsPattern pattern) :
    checkSetting setting (.ofTexts patterns) = .ok patterns := by
  apply (checkSetting_value setting (.several (patterns.map .text))).trans
  rcases checkPatterns_cases setting (patterns.map .text) with
    ⟨texts, same, -, again⟩ | ⟨before, item, after, problem, split, -, offends, -⟩
  · cases List.map_injective_iff.mpr (fun _ _ => Value.text.inj) same
    rw [Given.items, again, List.map_congr_left fun pattern mem => (kept pattern mem).strip_eq]
    exact congrArg Except.ok (List.map_id' patterns)
  · have mem : item ∈ patterns.map Value.text := by
      rw [split]
      exact List.mem_append_right before List.mem_cons_self
    obtain ⟨pattern, listed, rfl⟩ := List.mem_map.mp mem
    exact absurd (kept pattern listed).isWellFormed offends.not_isWellFormed

/-- A configuration is accepted exactly when all items of both settings are well-formed. Then it
holds the given texts in order, without the white space around them, each of them is a pattern, and
giving them again gives the same configuration. Otherwise the error names the setting of the first
offending item and says what is wrong with it. -/
theorem accepts_well_formed (readOnly adminReadOnly : Given) :
    ((∃ config, ofSettings readOnly.value adminReadOnly.value = .ok config) ↔
      ∀ entry ∈ itemsOf readOnly adminReadOnly, IsWellFormed entry.2) ∧
    (∀ config, ofSettings readOnly.value adminReadOnly.value = .ok config →
      KeepsTexts readOnly config.readOnly ∧ KeepsTexts adminReadOnly config.adminReadOnly ∧
      (∀ pattern ∈ config.readOnly ++ config.adminReadOnly, IsPattern pattern) ∧
      ofSettings (.ofTexts config.readOnly) (.ofTexts config.adminReadOnly) = .ok config) ∧
    ∀ fault, ofSettings readOnly.value adminReadOnly.value = .error fault →
      ∃ setting problem, fault = .configuration problem ∧
        problem.metadata = [("setting", .text setting.fieldName)] ∧
        IsFirstOffence (itemsOf readOnly adminReadOnly) setting problem := by
  rcases ofSettings_cases readOnly adminReadOnly with
    ⟨config, result, fine, keeps, keeps'⟩ | ⟨setting, problem, result, offence⟩
  · rw [result]
    refine ⟨⟨fun _ => fine, fun _ => ⟨config, rfl⟩⟩, ?_, fun fault impossible => by cases impossible⟩
    rintro _ ⟨⟩
    obtain ⟨first, second⟩ := forall_itemsOf.mp fine
    have kept := keeps.isPattern first
    have kept' := keeps'.isPattern second
    refine ⟨keeps, keeps', List.forall_mem_append.mpr ⟨kept, kept'⟩, ?_⟩
    rw [ofSettings, checkSetting_ofTexts _ kept, checkSetting_ofTexts _ kept']
    rfl
  · rw [result]
    obtain ⟨before, item, after, split, fine, offends⟩ := offence
    refine ⟨⟨?_, fun all => ?_⟩, fun _ impossible => (by cases impossible), ?_⟩
    · rintro ⟨config, impossible⟩
      cases impossible
    · have mem : (setting, item) ∈ itemsOf readOnly adminReadOnly := by
        rw [split]
        exact List.mem_append_right before List.mem_cons_self
      exact absurd (all _ mem) offends.not_isWellFormed
    · rintro _ ⟨⟩
      exact ⟨setting, problem, rfl, offends.metadata, before, item, after, split, fine, offends⟩

example :
    ofSettings (.list [.text " a* ", .text "*"]) (.text "\tb c\n") =
      .ok { readOnly := ["a*", "*"], adminReadOnly := ["b c"] } := by rfl

end Config

end ProfilePolicy
