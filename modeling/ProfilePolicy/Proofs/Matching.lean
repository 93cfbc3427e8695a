import Mathlib.Data.List.Basic
import ProfilePolicy.Pattern

/-!
# Pattern lists that grow

A name that a list of patterns matches is matched by a longer list too. Alternatives are compiled by
themselves, unless all of them differ in their last letter only. Then the last letters are one
choice, and in a choice a capital beyond the first plane matches nothing. So a list that grows into
such alternatives may lose what a pattern that ends in such a capital has matched, and nothing else.
-/

namespace ProfilePolicy

/-! ## Letters beyond the first plane -/

namespace Text

/-- Small letters of a run beyond the first plane are in no run, and small letters of the other runs
are in the first plane. -/
def CaseRun.isSettled (run : CaseRun) : Bool :=
  if 0x10000 ≤ run.first then
    caseRuns.all fun other =>
      decide (run.last + run.shift < other.first) || decide (other.last < run.first + run.shift)
  else decide (run.last + run.shift < 0x10000)

theorem isSettled_of_mem {run : CaseRun} (mem : run ∈ caseRuns) : run.isSettled = true := by
  have all : caseRuns.all CaseRun.isSettled = true := by decide +kernel
  exact List.all_eq_true.mp all run mem

theorem caseGroups_lt {group : List Nat} (mem : group ∈ caseGroups) {code : Nat}
    (grouped : code ∈ group) : code < 0x10000 := by
  have all : caseGroups.all (·.all (· < 0x10000)) = true := by decide +kernel
  have here := List.all_eq_true.mp (List.all_eq_true.mp all group mem) code grouped
  exact of_decide_eq_true here

theorem CaseRun.holds_iff {run : CaseRun} {code : Nat} :
    run.holds code = true ↔
      run.first ≤ code ∧ code ≤ run.last ∧ (code - run.first) % run.stride = 0 := by
  simp [holds, and_assoc]

/-- A small letter beyond the first plane is the small letter of letters beyond it alone, and it is
its own. -/
theorem lowerCode_remote {code : Nat} (remote : 0x10000 ≤ lowerCode code) :
    0x10000 ≤ code ∧ lowerCode (lowerCode code) = lowerCode code := by
  cases found : caseRuns.find? (·.holds code) with
  | none =>
    have self : lowerCode code = code := by rw [lowerCode, found]
    rw [self] at remote ⊢
    exact ⟨remote, self⟩
  | some run =>
    have shifted : lowerCode code = (code + run.shift).toNat := by rw [lowerCode, found]
    have mem := List.mem_of_find?_eq_some found
    have settled := isSettled_of_mem mem
    have held := List.find?_some found
    obtain ⟨first, last, -⟩ := CaseRun.holds_iff.mp held
    rw [CaseRun.isSettled] at settled
    split at settled
    · rename_i far
      refine ⟨Nat.le_trans far first, ?_⟩
      have none : caseRuns.find? (·.holds (lowerCode code)) = none := by
        rw [List.find?_eq_none]
        intro other listed held
        obtain ⟨low, high, -⟩ := CaseRun.holds_iff.mp held
        have apart := List.all_eq_true.mp settled other listed
        rw [Bool.or_eq_true, decide_eq_true_eq, decide_eq_true_eq] at apart
        omega
      rw [lowerCode, none]
    · have near := of_decide_eq_true settled
      omega

/-- A capital beyond the first plane. -/
def isRemoteCapital (c : Char) : Bool :=
  decide (0x10000 ≤ c.toNat) && lowerChar c != c

theorem toNat_of_eq_ofNat {c : Char} {code : Nat} (same : Char.ofNat code = c)
    (remote : 0x10000 ≤ c.toNat) : c.toNat = code := by
  subst same
  by_cases valid : code.isValidChar
  · exact toNat_ofNat valid
  · have zero : Char.ofNat code = '\x00' := dif_neg valid
    rw [zero] at remote
    exact absurd remote (by decide)

theorem toLower_lt {c : Char} (plain : c.toNat < 128) : c.toLower.toNat < 0x10000 := by
  have all : ∀ code < 128, (Char.ofNat code).toLower.toNat < 0x10000 := by decide +kernel
  have here := all c.toNat plain
  rwa [Char.ofNat_toNat] at here

/-- A character whose small letter is beyond the first plane. -/
theorem lowerCode_of_lowerChar {c d : Char} (remote : 0x10000 ≤ c.toNat)
    (lower : lowerChar d = c) : lowerCode d.toNat = c.toNat := by
  rw [lowerChar] at lower
  split at lower
  · rename_i plain
    have near := toLower_lt plain
    rw [lower] at near
    omega
  · exact (toNat_of_eq_ofNat lower remote).symm

/-- A character beyond the first plane, or one that has a small letter there, is in no group. -/
theorem foldCode_of_remote {code : Nat} (remote : 0x10000 ≤ lowerCode code) :
    foldCode code = lowerCode code := by
  have far := (lowerCode_remote remote).1
  have notDotted : (code == 304) = false := by
    rw [beq_eq_false_iff_ne]
    omega
  have none : caseGroups.find? (·.contains (lowerCode code)) = none := by
    rw [List.find?_eq_none]
    intro group mem grouped
    have near := caseGroups_lt mem (List.contains_iff_mem.mp grouped)
    omega
  simp only [foldCode, notDotted, Bool.false_eq_true, if_false, none]

/-- What stands for a letter beyond the first plane is its small letter. -/
theorem lowerCode_of_foldCode {code : Nat} (remote : 0x10000 ≤ foldCode code) :
    lowerCode code = foldCode code := by
  unfold foldCode at remote ⊢
  simp only at remote ⊢
  generalize low : (if (code == 304) = true then 105 else lowerCode code) = letter at remote ⊢
  cases found : caseGroups.find? (·.contains letter) with
  | some group =>
    rw [found] at remote
    exfalso
    have mem := List.mem_of_find?_eq_some found
    have held := List.find?_some found
    have grouped := List.contains_iff_mem.mp held
    cases group with
    | nil => cases grouped
    | cons first rest =>
      have near := caseGroups_lt mem List.mem_cons_self
      simp only [List.headD_cons] at remote
      omega
  | none =>
    rw [found] at remote
    simp only at remote ⊢
    split at low
    · subst low
      exact absurd remote (by decide)
    · exact low

theorem lowerChar_of_lowerCode {c d : Char} (remote : 0x10000 ≤ c.toNat)
    (lower : lowerCode d.toNat = c.toNat) : lowerChar d = c := by
  have far := (lowerCode_remote (lower ▸ remote)).1
  rw [lowerChar, if_neg (by omega), lower, Char.ofNat_toNat]

end Text

namespace Pattern

open Text

/-! ## Places -/

/-- What is met in a choice is the same letter. -/
theorem sameLetter_of_meetsChoice {c d : Char} (met : meetsChoice c d = true) :
    sameLetter c d = true := by
  rw [meetsChoice] at met
  split at met
  · exact met
  · rename_i far
    have remote : 0x10000 ≤ c.toNat := by omega
    have lower := lowerCode_of_lowerChar remote (eq_of_beq met)
    have remote' : 0x10000 ≤ lowerCode d.toNat := lower ▸ remote
    have own : lowerCode c.toNat = c.toNat := by
      rw [← lower]
      exact (lowerCode_remote remote').2
    have folded : foldCode c.toNat = foldCode d.toNat := by
      rw [foldCode_of_remote remote', lower, foldCode_of_remote (own.symm ▸ remote), own]
    rw [sameLetter, folded, BEq.rfl, Bool.or_true]

/-- Only capitals beyond the first plane are not met in a choice. -/
theorem meetsChoice_of_sameLetter {c d : Char} (steady : isRemoteCapital c = false)
    (same : sameLetter c d = true) : meetsChoice c d = true := by
  rw [meetsChoice]
  split
  · exact same
  · rename_i far
    have remote : 0x10000 ≤ c.toNat := by omega
    have small : lowerChar c = c := by
      simpa [isRemoteCapital, remote] using steady
    rw [beq_iff_eq]
    rw [sameLetter, Bool.or_eq_true, beq_iff_eq, beq_iff_eq] at same
    rcases same with rfl | folded
    · exact small
    · have own := lowerCode_of_lowerChar remote small
      have stands : foldCode c.toNat = c.toNat :=
        (foldCode_of_remote (own.symm ▸ remote)).trans own
      have there : foldCode d.toNat = c.toNat := folded.symm.trans stands
      exact lowerChar_of_lowerCode remote
        ((lowerCode_of_foldCode (there.symm ▸ remote)).trans there)

theorem nil_mem_suffixes (cs : List Char) : [] ∈ suffixes cs := by
  induction cs with
  | nil => exact List.mem_singleton.mpr rfl
  | cons c rest ih => exact List.mem_cons_of_mem _ ih

theorem covers_anything (cs : List Char) : covers [.anything] cs = true := by
  rw [covers, List.any_eq_true]
  exact ⟨[], nil_mem_suffixes cs, rfl⟩

/-- What may follow a sequence of places may be widened. -/
theorem covers_append_mono {tail wider : List Atom}
    (widens : ∀ cs, covers tail cs = true → covers wider cs = true) (front : List Atom)
    {cs : List Char} (covered : covers (front ++ tail) cs = true) :
    covers (front ++ wider) cs = true := by
  induction front generalizing cs with
  | nil => exact widens cs covered
  | cons atom rest ih =>
    rw [List.cons_append] at covered ⊢
    cases atom with
    | anything =>
      rw [covers, List.any_eq_true] at covered ⊢
      obtain ⟨suffix, mem, after⟩ := covered
      exact ⟨suffix, mem, ih after⟩
    | letter c =>
      cases cs with
      | nil => cases covered
      | cons d later =>
        rw [covers, Bool.and_eq_true] at covered ⊢
        exact ⟨covered.1, ih covered.2⟩
    | choice c =>
      cases cs with
      | nil => cases covered
      | cons d later =>
        rw [covers, Bool.and_eq_true] at covered ⊢
        exact ⟨covered.1, ih covered.2⟩

/-! ## Alternatives -/

theorem flatten_pieces (cs : List Char) : (pieces cs).flatten = cs := by
  induction cs using pieces.induct with
  | case1 => rfl
  | case2 c => rfl
  | case3 c d rest mark ih => rw [pieces, if_pos mark, List.flatten_cons, ih]; rfl
  | case4 c d rest other ih => rw [pieces, if_neg other, List.flatten_cons, ih]; rfl

/-- The places of a pattern of a choice are its letters, the last of which may be a choice. -/
theorem choiceAtoms_cases (pattern : List Char) :
    choiceAtoms pattern = pattern.map .letter ∨
      ∃ front c, pattern = front ++ [c] ∧
        choiceAtoms pattern = front.map .letter ++ [.choice c] := by
  rw [choiceAtoms]
  split
  · rename_i c last
    right
    obtain ⟨front, split⟩ := List.getLast?_eq_some_iff.mp last
    have whole : pattern = front.flatten ++ [c] := by
      rw [← flatten_pieces pattern, split, List.flatten_append]
      rfl
    refine ⟨front.flatten, c, whole, ?_⟩
    rw [whole, List.dropLast_concat]
  · exact Or.inl rfl

/-- The places of a pattern by itself are its letters, or those before a star and anything. -/
theorem atoms_cases (pattern : List Char) :
    atoms pattern = pattern.map .letter ∨
      ∃ front, pattern = front ++ ['*'] ∧ atoms pattern = front.map .letter ++ [.anything] := by
  rw [atoms]
  split
  · rename_i star
    right
    obtain ⟨front, rfl⟩ := List.getLast?_eq_some_iff.mp (eq_of_beq star)
    refine ⟨front, rfl, ?_⟩
    rw [List.dropLast_concat]
  · exact Or.inl rfl

/-- A pattern that is one of a choice covers no more than by itself. -/
theorem covers_atoms {pattern cs : List Char} (covered : covers (choiceAtoms pattern) cs = true) :
    covers (atoms pattern) cs = true := by
  have letters : covers (pattern.map .letter) cs = true := by
    rcases choiceAtoms_cases pattern with same | ⟨front, c, rfl, same⟩
    · rw [← same]
      exact covered
    · rw [same] at covered
      rw [List.map_append]
      refine covers_append_mono (fun cs met => ?_) _ covered
      cases cs with
      | nil => cases met
      | cons d rest =>
        simp only [covers, List.map_cons, List.map_nil, Bool.and_eq_true] at met ⊢
        exact ⟨sameLetter_of_meetsChoice met.1, met.2⟩
  rcases atoms_cases pattern with same | ⟨front, rfl, same⟩
  · rw [same]
    exact letters
  · rw [same]
    rw [List.map_append] at letters
    exact covers_append_mono (fun cs _ => covers_anything cs) _ letters

/-- A pattern that may be one of a choice without losing a match: it does not end in a capital
beyond the first plane. No pattern of a choice ends in a star. -/
def isSteady (pattern : List Char) : Bool :=
  pattern.getLast?.all fun c => c != '*' && !isRemoteCapital c

theorem covers_choiceAtoms {pattern cs : List Char} (steady : isSteady pattern = true)
    (covered : covers (atoms pattern) cs = true) : covers (choiceAtoms pattern) cs = true := by
  have letters : covers (pattern.map .letter) cs = true := by
    rcases atoms_cases pattern with same | ⟨front, rfl, -⟩
    · rw [← same]
      exact covered
    · simp [isSteady] at steady
  rcases choiceAtoms_cases pattern with same | ⟨front, c, rfl, same⟩
  · rw [same]
    exact letters
  · have small : isRemoteCapital c = false := by
      have last := steady
      simp [isSteady] at last
      exact last.2
    rw [same]
    rw [List.map_append] at letters
    refine covers_append_mono (fun cs met => ?_) _ letters
    cases cs with
    | nil => cases met
    | cons d rest =>
      simp only [covers, List.map_cons, List.map_nil, Bool.and_eq_true] at met ⊢
      exact ⟨meetsChoice_of_sameLetter small met.1, met.2⟩

/-! ## Lists of patterns -/

/-- Whether the alternatives of a list of patterns differ in their last letter only. -/
def isChoice (patterns : List String) : Bool :=
  areChoice ((patterns.map String.toList).map pieces)

/-- The places of a pattern in a list that is a choice or is none. -/
def placesIn (isChoice : Bool) (pattern : String) : List Atom :=
  if isChoice then choiceAtoms pattern.toList else atoms pattern.toList

theorem map_places (isChoice : Bool) (patterns : List String) :
    (patterns.map String.toList).map (if isChoice then choiceAtoms else atoms) =
      patterns.map (placesIn isChoice) := by
  rw [List.map_map]
  apply List.map_congr_left
  intro pattern _
  cases isChoice <;> rfl

theorem compile_eq {patterns : List String} (given : patterns ≠ []) :
    compile patterns = some { alternatives := patterns.map (placesIn (isChoice patterns)) } := by
  cases patterns with
  | nil => exact absurd rfl given
  | cons first rest =>
    rw [← map_places]
    rfl

/-- A name is matched when the places of a pattern of the list cover it. -/
theorem exists_compile_iff {patterns : List String} {name : String} :
    (∃ matcher, compile patterns = some matcher ∧ matcher.fullMatch name = true) ↔
      ∃ pattern ∈ patterns, covers (placesIn (isChoice patterns) pattern) name.toList = true := by
  by_cases empty : patterns = []
  · subst empty
    constructor
    · rintro ⟨matcher, compiled, -⟩
      cases compiled
    · rintro ⟨pattern, mem, -⟩
      cases mem
  · rw [compile_eq empty]
    simp only [Option.some.injEq, exists_eq_left', fullMatch, List.any_eq_true, List.mem_map,
      exists_exists_and_eq_and]

/-- A list of patterns grows into another one: none is left out, and where the longer one is a
choice and the shorter one is none, no pattern of the shorter one ends in a letter that is not met
there. -/
structure GrowsInto (fewer more : List String) : Prop where
  subset : ∀ pattern ∈ fewer, pattern ∈ more
  steady : isChoice more = true → isChoice fewer = false →
    ∀ pattern ∈ fewer, isSteady pattern.toList = true

theorem GrowsInto.refl (patterns : List String) : GrowsInto patterns patterns := by
  refine ⟨fun _ => id, fun isChoice isNone => ?_⟩
  rw [isChoice] at isNone
  cases isNone

/-- What a list of patterns matches is matched by a list that it grows into. -/
theorem GrowsInto.fullMatch {fewer more : List String} (grows : GrowsInto fewer more) {name : String}
    (matched : ∃ matcher, compile fewer = some matcher ∧ matcher.fullMatch name = true) :
    ∃ matcher, compile more = some matcher ∧ matcher.fullMatch name = true := by
  obtain ⟨pattern, mem, covered⟩ := exists_compile_iff.mp matched
  refine exists_compile_iff.mpr ⟨pattern, grows.subset pattern mem, ?_⟩
  unfold placesIn at covered ⊢
  cases after : isChoice more with
  | true =>
    cases before : isChoice fewer with
    | true =>
      rw [before] at covered
      exact covered
    | false =>
      rw [before] at covered
      exact covers_choiceAtoms (grows.steady after before pattern mem) covered
  | false =>
    cases before : isChoice fewer with
    | true =>
      rw [before] at covered
      exact covers_atoms covered
    | false =>
      rw [before] at covered
      exact covered

end Pattern

end ProfilePolicy
