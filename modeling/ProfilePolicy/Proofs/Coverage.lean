import Mathlib.Data.List.Forall2
import ProfilePolicy.Proofs.Matching

/-!
# What a list of patterns matches

A name is matched when a pattern of the list stands for it: the pattern ends in a star and the name
begins with what stands before the star, or the pattern ends in no star and is the name. Letters are
compared one by one, up to case. Neither the order of the list nor repetitions in it matter, and
neither does the case of any letter of the name.

There is one exception. Where the patterns differ in their last letter only, that letter is met as
one of a choice, and a capital beyond the first plane is met there by nothing, not even by itself.
-/

namespace ProfilePolicy

namespace Text

/-! ## Letters up to case -/

theorem sameLetter_iff {c d : Char} :
    sameLetter c d = true ↔ foldCode c.toNat = foldCode d.toNat := by
  rw [sameLetter, Bool.or_eq_true, beq_iff_eq, beq_iff_eq]
  constructor
  · rintro (rfl | same)
    · rfl
    · exact same
  · exact Or.inr

/-- Letters that agree one by one, up to case. -/
def SameLetters (cs ds : List Char) : Prop :=
  List.Forall₂ (fun c d => sameLetter c d = true) cs ds

theorem SameLetters.symm {cs ds : List Char} (same : SameLetters cs ds) : SameLetters ds cs := by
  induction same with
  | nil => exact .nil
  | cons first _ ih => exact .cons (sameLetter_iff.mpr (sameLetter_iff.mp first).symm) ih

theorem SameLetters.trans {cs ds es : List Char} (first : SameLetters cs ds)
    (second : SameLetters ds es) : SameLetters cs es := by
  induction first generalizing es with
  | nil => exact second
  | cons letter _ ih =>
    cases second with
    | cons letter' later =>
      exact .cons (sameLetter_iff.mpr ((sameLetter_iff.mp letter).trans (sameLetter_iff.mp letter')))
        (ih later)

/-- A beginning agrees with a beginning. -/
theorem SameLetters.of_append {front rest ds : List Char} (same : SameLetters (front ++ rest) ds) :
    ∃ front' rest', ds = front' ++ rest' ∧ SameLetters front front' := by
  induction front generalizing ds with
  | nil => exact ⟨[], ds, rfl, .nil⟩
  | cons c front ih =>
    cases same with
    | cons letter later =>
      obtain ⟨front', rest', rfl, same'⟩ := ih later
      exact ⟨_ :: front', rest', rfl, .cons letter same'⟩

/-- A text that keeps a sequence of code points, as all texts from outside do. -/
def KeepsCodes (text : String) : Prop :=
  ∀ piece ∈ pieces text.toList, pieceAt (codeOf piece) = piece

instance (text : String) : Decidable (KeepsCodes text) :=
  inferInstanceAs (Decidable (∀ piece ∈ pieces text.toList, pieceAt (codeOf piece) = piece))

/-- A piece of two ends in a character of the first plane that is no star. -/
theorem pieceAt_cases (code : Nat) :
    (∃ c, pieceAt code = [c]) ∨
      ∃ c, pieceAt code = [halfMark, c] ∧ c ≠ '*' ∧ c.toNat < 0x10000 := by
  unfold pieceAt
  split
  · rename_i half
    right
    have range : 0xD800 ≤ code ∧ code < 0xE000 := by
      simp [isHalf, isHighHalf, isLowHalf] at half
      omega
    have own : (Char.ofNat (code + halfShift)).toNat = code + halfShift :=
      toNat_ofNat (by unfold Nat.isValidChar halfShift; omega)
    refine ⟨_, rfl, ?_, ?_⟩
    · intro star
      rw [star] at own
      have : '*'.toNat = 42 := rfl
      unfold halfShift at own
      omega
    · rw [own]
      unfold halfShift
      omega
  · split
    · exact Or.inr ⟨halfMark, rfl, by decide, by decide⟩
    · exact Or.inl ⟨_, rfl⟩

end Text

namespace Pattern

open Text

/-! ## Alternatives -/

/-- Letters in front cover a beginning, and the places behind them cover the rest. -/
theorem covers_letters_append {cs ds : List Char} {tail : List Atom} :
    covers (cs.map .letter ++ tail) ds = true ↔
      ∃ front rest, ds = front ++ rest ∧ SameLetters cs front ∧ covers tail rest = true := by
  induction cs generalizing ds with
  | nil =>
    constructor
    · exact fun covered => ⟨[], ds, rfl, .nil, covered⟩
    · rintro ⟨front, rest, rfl, same, covered⟩
      cases same
      exact covered
  | cons c cs ih =>
    cases ds with
    | nil =>
      constructor
      · exact fun covered => by cases covered
      · rintro ⟨front, rest, none, same, -⟩
        rw [(List.append_eq_nil_iff.mp none.symm).1] at same
        cases same
    | cons d ds =>
      rw [List.map_cons, List.cons_append, covers, Bool.and_eq_true, ih]
      constructor
      · rintro ⟨letter, front, rest, rfl, same, covered⟩
        exact ⟨d :: front, rest, rfl, .cons letter same, covered⟩
      · rintro ⟨front, rest, split, same, covered⟩
        cases same with
        | cons letter later =>
          cases split
          exact ⟨letter, _, rest, rfl, later, covered⟩

theorem covers_letters {cs ds : List Char} :
    covers (cs.map .letter) ds = true ↔ SameLetters cs ds := by
  rw [← List.append_nil (cs.map Atom.letter), covers_letters_append]
  constructor
  · rintro ⟨front, rest, rfl, same, covered⟩
    rw [List.isEmpty_iff.mp covered, List.append_nil]
    exact same
  · exact fun same => ⟨ds, [], (List.append_nil ds).symm, same, rfl⟩

/-- A pattern stands for a name: it ends in a star and the name begins with what stands before the
star, or it ends in no star and is the name. -/
def StandsFor (pattern name : String) : Prop :=
  (∃ stem front rest, pattern.toList = stem ++ ['*'] ∧ name.toList = front ++ rest ∧
      SameLetters stem front) ∨
    pattern.toList.getLast? ≠ some '*' ∧ SameLetters pattern.toList name.toList

/-- By itself a pattern covers the names that it stands for. -/
theorem covers_atoms_iff {pattern name : String} :
    covers (atoms pattern.toList) name.toList = true ↔ StandsFor pattern name := by
  by_cases star : pattern.toList.getLast? = some '*'
  · obtain ⟨stem, split⟩ := List.getLast?_eq_some_iff.mp star
    have places : atoms pattern.toList = stem.map .letter ++ [.anything] := by
      rw [atoms, star, split, List.dropLast_concat]
      rfl
    rw [places, covers_letters_append, StandsFor, or_iff_left fun other => other.1 star]
    constructor
    · rintro ⟨front, rest, name, same, -⟩
      exact ⟨stem, front, rest, split, name, same⟩
    · rintro ⟨stem', front, rest, split', name, same⟩
      have one : stem' = stem := List.append_cancel_right (split'.symm.trans split)
      exact ⟨front, rest, name, one ▸ same, covers_anything rest⟩
  · have places : atoms pattern.toList = pattern.toList.map .letter := by
      rw [atoms, if_neg (by simpa using star)]
    rw [places, covers_letters, StandsFor, or_iff_right, and_iff_right star]
    rintro ⟨stem, -, -, split, -⟩
    exact star (List.getLast?_eq_some_iff.mpr ⟨stem, split⟩)

/-- A pattern stands for all spellings of a name. -/
theorem StandsFor.of_sameLetters {pattern name name' : String} (stands : StandsFor pattern name)
    (same : SameLetters name.toList name'.toList) : StandsFor pattern name' := by
  rcases stands with ⟨stem, front, rest, split, whole, letters⟩ | ⟨noStar, letters⟩
  · rw [whole] at same
    obtain ⟨front', rest', whole', same'⟩ := same.of_append
    exact Or.inl ⟨stem, front', rest', split, whole', letters.trans same'⟩
  · exact Or.inr ⟨noStar, letters.trans same⟩

/-! ## Choices -/

/-- Patterns are a choice when they begin alike, end in something else than a star, and are not all
the same. -/
theorem areChoice_iff {patterns : List (List (List Char))} :
    areChoice patterns = true ↔
      (∃ front, ∀ pattern ∈ patterns, ∃ last, last ≠ ['*'] ∧ pattern = front ++ [last]) ∧
        ∃ pattern ∈ patterns, ∃ other ∈ patterns, pattern ≠ other := by
  cases patterns with
  | nil => simp [areChoice]
  | cons first rest =>
    rw [areChoice, Bool.and_eq_true, List.all_eq_true, List.any_eq_true]
    constructor
    · rintro ⟨alike, other, mem, differs⟩
      refine ⟨⟨first.dropLast, fun pattern mem => ?_⟩, first, List.mem_cons_self, other,
        List.mem_cons_of_mem _ mem, ?_⟩
      · obtain ⟨ends, begins⟩ := Bool.and_eq_true_iff.mp (alike pattern mem)
        rw [Option.any_eq_true] at ends
        obtain ⟨last, found, noStar⟩ := ends
        obtain ⟨front, rfl⟩ := List.getLast?_eq_some_iff.mp found
        rw [List.dropLast_concat, beq_iff_eq] at begins
        exact ⟨last, by simpa using noStar, by rw [begins]⟩
      · rintro rfl
        simp at differs
    · rintro ⟨⟨front, alike⟩, pattern, mem, other, mem', differs⟩
      obtain ⟨last, noStar, rfl⟩ := alike first List.mem_cons_self
      refine ⟨fun pattern mem => ?_, ?_⟩
      · obtain ⟨last', noStar', rfl⟩ := alike pattern mem
        simpa using noStar'
      · -- of two patterns that differ, one is not the first
        refine Classical.byContradiction fun none => differs ?_
        have same : ∀ pattern ∈ (front ++ [last]) :: rest, pattern = front ++ [last] := by
          intro pattern mem
          rcases List.mem_cons.mp mem with same | mem
          · exact same
          · exact Classical.byContradiction fun other => none ⟨pattern, mem, by simpa using other⟩
        rw [same pattern mem, same other mem']

/-- Whether a list is a choice depends on what it holds alone. -/
theorem isChoice_congr {patterns others : List String}
    (same : ∀ pattern, pattern ∈ others ↔ pattern ∈ patterns) :
    isChoice others = isChoice patterns := by
  have held : ∀ pattern, pattern ∈ (others.map String.toList).map pieces ↔
      pattern ∈ (patterns.map String.toList).map pieces := by
    intro pattern
    simp only [List.map_map, List.mem_map, same]
  rw [Bool.eq_iff_iff, isChoice, isChoice, areChoice_iff, areChoice_iff]
  simp only [held]

/-- Whether a pattern of a list is met by nothing: the list is a choice, and the pattern ends in a
capital beyond the first plane. -/
def isLost (patterns : List String) (pattern : String) : Bool :=
  isChoice patterns && pattern.toList.getLast?.any isRemoteCapital

/-- How a text ends by its last piece. -/
theorem split_last {pattern : String} (keeps : KeepsCodes pattern) {front : List (List Char)}
    {last : List Char} (split : pieces pattern.toList = front ++ [last]) :
    pattern.toList = front.flatten ++ last ∧
      ((∃ c, last = [c]) ∨ ∃ c, last = [halfMark, c] ∧ c ≠ '*' ∧ c.toNat < 0x10000) := by
  constructor
  · rw [← flatten_pieces pattern.toList, split, List.flatten_append, List.flatten_singleton]
  · have own : pieceAt (codeOf last) = last :=
      keeps last (by rw [split]; exact List.mem_append_right _ (List.mem_singleton_self last))
    rw [← own]
    exact pieceAt_cases (codeOf last)

/-- The last letter of a pattern of a choice is no star. -/
theorem getLast?_ne_star {patterns : List String} (choice : isChoice patterns = true)
    {pattern : String} (mem : pattern ∈ patterns) (keeps : KeepsCodes pattern) :
    pattern.toList.getLast? ≠ some '*' := by
  obtain ⟨⟨front, alike⟩, -⟩ := areChoice_iff.mp choice
  obtain ⟨last, noStar, split⟩ := alike (pieces pattern.toList)
    (List.mem_map_of_mem (List.mem_map_of_mem mem))
  obtain ⟨whole, ⟨c, rfl⟩ | ⟨c, rfl, notStar, -⟩⟩ := split_last keeps split
  · rw [whole]
    simpa using noStar
  · rw [whole]
    simpa using notStar

theorem not_meetsChoice {c : Char} (capital : isRemoteCapital c = true) (d : Char) :
    meetsChoice c d = false := by
  rw [isRemoteCapital, Bool.and_eq_true, decide_eq_true_eq] at capital
  obtain ⟨remote, differs⟩ := capital
  rw [meetsChoice, if_neg (by omega)]
  refine Bool.eq_false_iff.mpr fun met => ?_
  have lower := lowerCode_of_lowerChar remote (eq_of_beq met)
  have own := (lowerCode_remote (lower ▸ remote)).2
  rw [lower] at own
  rw [lowerChar_of_lowerCode remote own] at differs
  simp at differs

/-- In a choice a pattern that ends in a capital beyond the first plane covers nothing. -/
theorem covers_choiceAtoms_eq_false {pattern : String} (keeps : KeepsCodes pattern)
    (capital : pattern.toList.getLast?.any isRemoteCapital = true) (cs : List Char) :
    covers (choiceAtoms pattern.toList) cs = false := by
  rcases List.eq_nil_or_concat' (pieces pattern.toList) with none | ⟨front, last, split⟩
  · rw [← flatten_pieces pattern.toList, none] at capital
    cases capital
  · obtain ⟨whole, ⟨c, rfl⟩ | ⟨c, rfl, -, near⟩⟩ := split_last keeps split
    · have places : choiceAtoms pattern.toList = front.flatten.map .letter ++ [.choice c] := by
        rw [choiceAtoms, split, List.getLast?_concat, whole, List.dropLast_concat]
      refine Bool.eq_false_iff.mpr fun covered => ?_
      rw [places, covers_letters_append] at covered
      obtain ⟨-, rest, -, -, met⟩ := covered
      rw [whole, List.getLast?_concat, Option.any_some] at capital
      cases rest with
      | nil => cases met
      | cons d rest =>
        rw [covers, not_meetsChoice capital d] at met
        cases met
    · -- a piece of two ends in the first plane
      rw [whole] at capital
      simp [isRemoteCapital] at capital
      omega

/-! ## Lists of patterns -/

/-- In a list a pattern covers the names that it stands for, unless it is lost there. -/
theorem covers_placesIn_iff {patterns : List String} {pattern : String} (mem : pattern ∈ patterns)
    (keeps : KeepsCodes pattern) {name : String} :
    covers (placesIn (isChoice patterns) pattern) name.toList = true ↔
      StandsFor pattern name ∧ isLost patterns pattern = false := by
  rw [placesIn, isLost]
  cases choice : isChoice patterns with
  | false => rw [if_neg Bool.false_ne_true, covers_atoms_iff, Bool.false_and, and_iff_left rfl]
  | true =>
    rw [if_pos rfl, Bool.true_and]
    cases capital : pattern.toList.getLast?.any isRemoteCapital with
    | true => simp [covers_choiceAtoms_eq_false keeps capital]
    | false =>
      have steady : isSteady pattern.toList = true := by
        have noStar := getLast?_ne_star choice mem keeps
        cases last : pattern.toList.getLast? with
        | none => rw [isSteady, last, Option.all_none]
        | some c =>
          rw [last] at capital noStar
          simpa [isSteady, last] using ⟨fun star => noStar (congrArg some star), capital⟩
      rw [and_iff_left rfl, ← covers_atoms_iff]
      exact ⟨covers_atoms, covers_choiceAtoms steady⟩

theorem fullMatch_iff {patterns : List String} (keeps : ∀ pattern ∈ patterns, KeepsCodes pattern)
    {matcher : Pattern} (compiled : compile patterns = some matcher) {name : String} :
    matcher.fullMatch name = true ↔
      ∃ pattern ∈ patterns, StandsFor pattern name ∧ isLost patterns pattern = false := by
  have given : patterns ≠ [] := by
    rintro rfl
    cases compiled
  rw [compile_eq given] at compiled
  cases compiled
  simp only [fullMatch, List.any_eq_true, List.mem_map, exists_exists_and_eq_and]
  constructor
  · rintro ⟨pattern, mem, covered⟩
    exact ⟨pattern, mem, (covers_placesIn_iff mem (keeps pattern mem)).mp covered⟩
  · rintro ⟨pattern, mem, stands⟩
    exact ⟨pattern, mem, (covers_placesIn_iff mem (keeps pattern mem)).mpr stands⟩

/-- What a list of patterns matches: the names that a pattern stands for which is not lost. Lists
that hold the same patterns match the same names, and so do all spellings of a name. -/
theorem matches_what_is_listed {patterns : List String} (given : patterns ≠ [])
    (keeps : ∀ pattern ∈ patterns, KeepsCodes pattern) :
    ∃ matcher, compile patterns = some matcher ∧
      (∀ name, matcher.fullMatch name = true ↔
        ∃ pattern ∈ patterns, StandsFor pattern name ∧ isLost patterns pattern = false) ∧
      (∀ others, (∀ pattern, pattern ∈ others ↔ pattern ∈ patterns) →
        ∃ matcher', compile others = some matcher' ∧
          ∀ name, matcher'.fullMatch name = matcher.fullMatch name) ∧
      ∀ name name', SameLetters name.toList name'.toList →
        matcher.fullMatch name' = matcher.fullMatch name := by
  refine ⟨_, compile_eq given, fun name => fullMatch_iff keeps (compile_eq given), ?_, ?_⟩
  · intro others same
    have given' : others ≠ [] := by
      obtain ⟨pattern, mem⟩ := List.exists_mem_of_ne_nil patterns given
      exact List.ne_nil_of_mem ((same pattern).mpr mem)
    refine ⟨_, compile_eq given', fun name => ?_⟩
    have keeps' : ∀ pattern ∈ others, KeepsCodes pattern :=
      fun pattern mem => keeps pattern ((same pattern).mp mem)
    rw [Bool.eq_iff_iff, fullMatch_iff keeps' (compile_eq given'),
      fullMatch_iff keeps (compile_eq given)]
    simp only [same, isLost, isChoice_congr same]
  · intro name name' spelling
    rw [Bool.eq_iff_iff, fullMatch_iff keeps (compile_eq given), fullMatch_iff keeps (compile_eq given)]
    constructor
    · rintro ⟨pattern, mem, stands, found⟩
      exact ⟨pattern, mem, stands.of_sameLetters spelling.symm, found⟩
    · rintro ⟨pattern, mem, stands, found⟩
      exact ⟨pattern, mem, stands.of_sameLetters spelling, found⟩

/-- Two names that differ in a capital beyond the first plane alone are a choice, so that neither is
matched, although each stands for itself. -/
theorem matches_what_is_listed_of_capitals :
    let patterns := ["x𐐀", "x𐐁"]
    patterns ≠ [] ∧ (∀ pattern ∈ patterns, KeepsCodes pattern) ∧
      ∃ matcher, compile patterns = some matcher ∧ StandsFor "x𐐀" "x𐐀" ∧
        matcher.fullMatch "x𐐀" = false := by
  intro patterns
  have given : patterns ≠ [] := List.cons_ne_nil _ _
  have keeps : ∀ pattern ∈ patterns, KeepsCodes pattern := by decide +kernel
  obtain ⟨matcher, compiled, whatMatches, -⟩ := matches_what_is_listed given keeps
  have lost : ∀ pattern ∈ patterns, isLost patterns pattern = true := by decide +kernel
  refine ⟨given, keeps, matcher, compiled, covers_atoms_iff.mp (by decide +kernel), ?_⟩
  refine Bool.eq_false_iff.mpr fun matched => ?_
  obtain ⟨pattern, mem, -, found⟩ := (whatMatches "x𐐀").mp matched
  rw [lost pattern mem] at found
  cases found

end Pattern

end ProfilePolicy
