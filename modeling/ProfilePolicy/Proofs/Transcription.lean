import ProfilePolicy.Proofs.Matching

/-!
# Pattern lists read back from their text

The text of a matcher tells the list of patterns it was compiled from. A bar that no backslash marks
stands between two patterns, a dot and a star without a mark at the end of one stand for its star,
and whatever follows a backslash stands for itself. A letter with a meaning of its own is always
written with its mark, so none of these can be mistaken for another, and no two lists have the same
text.
-/

namespace ProfilePolicy.Pattern

/-! ## Reading -/

/-- The parts of a text between the bars that no backslash marks. -/
def splitBars : List Char → List (List Char)
  | [] => [[]]
  | '\\' :: c :: rest => (splitBars rest).modifyHead (['\\', c] ++ ·)
  | '|' :: rest => [] :: splitBars rest
  | c :: rest => (splitBars rest).modifyHead (c :: ·)

def readPart : List Char → List Char
  | [] => []
  | ['.', '*'] => ['*']
  | '\\' :: c :: rest => c :: readPart rest
  | c :: rest => c :: readPart rest

def readText (written : String) : List String :=
  (splitBars written.toList).map fun part => String.ofList (readPart part)

/-! ## Parts -/

theorem readPart_marked (c : Char) (rest : List Char) :
    readPart ('\\' :: c :: rest) = c :: readPart rest := by
  rw [readPart]

theorem readPart_plain {c : Char} (unmarked : c ∉ marked) (rest : List Char) :
    readPart (c :: rest) = c :: readPart rest := by
  have notDot : c ≠ '.' := fun same => unmarked (by rw [same]; decide)
  have notBackslash : c ≠ '\\' := fun same => unmarked (by rw [same]; decide)
  rw [readPart]
  · exact fun same => absurd same notDot
  · exact fun _ _ same => absurd same notBackslash

/-- A letter is read back, with or without its mark. -/
theorem readPart_letter (c : Char) (rest : List Char) :
    readPart (writeAtom (.letter c) ++ rest) = c :: readPart rest := by
  rw [writeAtom]
  split
  · exact readPart_marked c rest
  · rename_i unmarked
    exact readPart_plain (by simpa using unmarked) rest

theorem readPart_letters (cs rest : List Char) :
    readPart ((cs.map Atom.letter).flatMap writeAtom ++ rest) = cs ++ readPart rest := by
  induction cs with
  | nil => rfl
  | cons c cs ih =>
    rw [List.map_cons, List.flatMap_cons, List.append_assoc, readPart_letter, ih, List.cons_append]

theorem readPart_map_letter (cs : List Char) :
    readPart ((cs.map Atom.letter).flatMap writeAtom) = cs := by
  have whole := readPart_letters cs []
  rwa [List.append_nil, readPart, List.append_nil] at whole

/-- A pattern is read back from the places it has by itself. -/
theorem readPart_atoms (pattern : List Char) :
    readPart ((atoms pattern).flatMap writeAtom) = pattern := by
  rcases atoms_cases pattern with same | ⟨front, rfl, same⟩
  · rw [same, readPart_map_letter]
  · rw [same, List.flatMap_append, readPart_letters]
    rfl

/-- A pattern is read back from the places it has in a choice. -/
theorem readPart_choiceAtoms (pattern : List Char) :
    readPart ((choiceAtoms pattern).flatMap writeAtom) = pattern := by
  rcases choiceAtoms_cases pattern with same | ⟨front, c, rfl, same⟩
  · rw [same, readPart_map_letter]
  · -- the place of a choice is written like a letter
    have written : ((front.map Atom.letter ++ [Atom.choice c]).flatMap writeAtom) =
        ((front ++ [c]).map Atom.letter).flatMap writeAtom := by
      rw [List.map_append, List.flatMap_append, List.flatMap_append]
      rfl
    rw [same, written, readPart_map_letter]

theorem readPart_placesIn (isChoice : Bool) (pattern : String) :
    readPart ((placesIn isChoice pattern).flatMap writeAtom) = pattern.toList := by
  unfold placesIn
  split
  · exact readPart_choiceAtoms pattern.toList
  · exact readPart_atoms pattern.toList

/-! ## Bars -/

theorem splitBars_plain {c : Char} (notBackslash : c ≠ '\\') (notBar : c ≠ '|')
    (rest : List Char) : splitBars (c :: rest) = (splitBars rest).modifyHead (c :: ·) := by
  rw [splitBars]
  · exact fun _ _ same => absurd same notBackslash
  · exact fun same => absurd same notBar

theorem splitBars_letter (c : Char) (rest : List Char) :
    splitBars (writeAtom (.letter c) ++ rest) =
      (splitBars rest).modifyHead (writeAtom (.letter c) ++ ·) := by
  rw [writeAtom]
  split
  · rfl
  · rename_i unmarked
    apply splitBars_plain
    · rintro rfl
      exact unmarked (by decide)
    · rintro rfl
      exact unmarked (by decide)

/-- No place is written with a bar that stands for itself. -/
theorem splitBars_atom (atom : Atom) (rest : List Char) :
    splitBars (writeAtom atom ++ rest) = (splitBars rest).modifyHead (writeAtom atom ++ ·) := by
  cases atom with
  | letter c => exact splitBars_letter c rest
  | choice c => exact splitBars_letter c rest
  | anything =>
    have star : splitBars ('*' :: rest) = (splitBars rest).modifyHead ('*' :: ·) :=
      splitBars_plain (by decide) (by decide) rest
    have dot : splitBars ('.' :: '*' :: rest) =
        (splitBars ('*' :: rest)).modifyHead ('.' :: ·) :=
      splitBars_plain (by decide) (by decide) ('*' :: rest)
    rw [writeAtom, List.cons_append, List.singleton_append, dot, star, List.modifyHead_modifyHead]
    rfl

theorem splitBars_atoms (alternative : List Atom) (rest : List Char) :
    splitBars (alternative.flatMap writeAtom ++ rest) =
      (splitBars rest).modifyHead (alternative.flatMap writeAtom ++ ·) := by
  induction alternative with
  | nil => exact (congrFun List.modifyHead_id (splitBars rest)).symm
  | cons atom atoms ih =>
    rw [List.flatMap_cons, List.append_assoc, splitBars_atom, ih, List.modifyHead_modifyHead]
    apply congrArg (List.modifyHead · (splitBars rest))
    funext part
    exact (List.append_assoc _ _ _).symm

/-- The parts of a text are the texts of the alternatives. -/
theorem splitBars_write {alternatives : List (List Atom)} (given : alternatives ≠ []) :
    splitBars (write alternatives) = alternatives.map (·.flatMap writeAtom) := by
  induction alternatives with
  | nil => exact absurd rfl given
  | cons alternative rest ih =>
    cases rest with
    | nil =>
      have last := splitBars_atoms alternative []
      rw [List.append_nil] at last
      rw [write, last]
      exact congrArg (· :: []) (List.append_nil _)
    | cons next others =>
      have bar : splitBars ('|' :: write (next :: others)) =
          [] :: splitBars (write (next :: others)) := rfl
      rw [write, splitBars_atoms, bar, ih (List.cons_ne_nil _ _), List.map_cons]
      · exact congrArg (· :: _) (List.append_nil _)
      · exact List.cons_ne_nil _ _

/-! ## Lists of patterns -/

theorem readText_text {patterns : List String} (given : patterns ≠ []) {matcher : Pattern}
    (compiled : compile patterns = some matcher) : readText matcher.text = patterns := by
  rw [compile_eq given] at compiled
  cases compiled
  have alternatives : patterns.map (placesIn (isChoice patterns)) ≠ [] := by
    simpa using given
  rw [readText, text, String.toList_ofList, splitBars_write alternatives, List.map_map, List.map_map]
  have same : ∀ pattern ∈ patterns,
      String.ofList (readPart ((placesIn (isChoice patterns) pattern).flatMap writeAtom)) =
        id pattern := by
    intro pattern _
    rw [readPart_placesIn, String.ofList_toList, id]
  exact (List.map_congr_left same).trans (List.map_id patterns)

/-- The text of a list of patterns tells the list, in order and with its repetitions, so that no
other list has the same text. -/
theorem patterns_of_text {patterns : List String} (given : patterns ≠ []) :
    ∃ written, (compile patterns).map text = some written ∧ readText written = patterns ∧
      ∀ others, (compile others).map text = some written → others = patterns := by
  have reads : ∀ {listed : List String} {written : String},
      (compile listed).map text = some written → readText written = listed := by
    intro listed written same
    obtain ⟨matcher, compiled, rfl⟩ := Option.map_eq_some_iff.mp same
    apply readText_text _ compiled
    rintro rfl
    cases compiled
  have written : (compile patterns).map text = some _ :=
    congrArg (Option.map text) (compile_eq given)
  refine ⟨_, written, reads written, fun others same => ?_⟩
  rw [← reads same, reads written]

/-- Patterns that hold bars, backslashes, dots and stars of their own, one of them empty and one of
them listed twice. -/
theorem patterns_of_text_of_marks :
    let patterns := ["a\\", "", "b|*", ".*", "a\\", "x*y \\"]
    patterns ≠ [] ∧
      ∃ written, (compile patterns).map text = some written ∧
        written = "a\\\\||b\\|.*|\\..*|a\\\\|x\\*y\\ \\\\" ∧ readText written = patterns := by
  intro patterns
  have given : patterns ≠ [] := List.cons_ne_nil _ _
  obtain ⟨written, compiled, reads, -⟩ := patterns_of_text given
  have shown : (compile patterns).map text =
      some "a\\\\||b\\|.*|\\..*|a\\\\|x\\*y\\ \\\\" := by decide +kernel
  exact ⟨given, written, compiled, Option.some.inj (compiled.symm.trans shown), reads⟩

end ProfilePolicy.Pattern
