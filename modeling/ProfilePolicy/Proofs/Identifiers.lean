import ProfilePolicy.Proofs.Configuration
import ProfilePolicy.Proofs.Directory
import ProfilePolicy.Uuid.Column

/-!
# Identifiers in a database

A database without a type for identifiers stores the thirty-two lower-case digits. Reading them
gives the identifier back, leading zeros included, so identifiers are stored alike only if they are
the same. Every spelling that is read as an identifier is stored as these digits: with dashes
anywhere, in capitals, in braces or after a mark.
-/

namespace ProfilePolicy

/-! ## Digits -/

namespace Text

/-- The hexadecimal digits of ASCII, in either letter case. -/
def plainDigits : List Char := "0123456789abcdefABCDEF".toList

theorem hexValue?_hexDigit : ∀ n < 16, hexValue? (hexDigit n) = some n := by
  decide

theorem hexValue?_of_plain : ∀ c ∈ plainDigits, (hexValue? c).isSome = true :=
  List.all_iff_forall_prop.mp (by decide)

theorem length_hexPadded (width n : Nat) : (hexPadded width n).length = width := by
  induction width generalizing n with
  | zero => rfl
  | succ width ih => rw [hexPadded, List.length_append, ih, List.length_singleton]

/-- Digits are read as the number that they were written for. -/
theorem hexNumber_hexPadded {width n : Nat} (fits : n < Nat.pow 16 width) :
    hexNumber (hexPadded width n) = n := by
  induction width generalizing n with
  | zero => exact (Nat.lt_one_iff.mp fits).symm
  | succ width ih =>
    have front : n / 16 < Nat.pow 16 width := (Nat.div_lt_iff_lt_mul (by decide)).mpr fits
    have last := hexValue?_hexDigit (n % 16) (Nat.mod_lt n (by decide))
    have split : hexNumber (hexPadded width (n / 16) ++ [hexDigit (n % 16)]) =
        16 * hexNumber (hexPadded width (n / 16)) + (hexValue? (hexDigit (n % 16))).getD 0 :=
      List.foldl_append
    rw [hexPadded, split, ih front, last, Option.getD_some, Nat.div_add_mod]

/-- A character is its own small letter, or it is a capital. -/
theorem toLower_eq_or_capital (c : Char) :
    c.toLower = c ∨ ∃ code < 91, 65 ≤ code ∧ Char.ofNat code = c := by
  by_cases capital : 'A'.val ≤ c.val ∧ c.val ≤ 'Z'.val
  · exact .inr ⟨c.toNat, Nat.lt_succ_of_le capital.2, capital.1, Char.ofNat_toNat c⟩
  · exact .inl (dif_neg capital)

theorem hexValue?_toLower (c : Char) : hexValue? c.toLower = hexValue? c := by
  have capitals : ∀ code < 91, 65 ≤ code →
      hexValue? (Char.ofNat code).toLower = hexValue? (Char.ofNat code) := by decide
  rcases toLower_eq_or_capital c with small | ⟨code, last, first, rfl⟩
  · rw [small]
  · exact capitals code last first

theorem mem_plainDigits_of_toLower {c : Char} (mem : c.toLower ∈ lowerDigits) : c ∈ plainDigits := by
  have capitals : ∀ code < 91, 65 ≤ code →
      (Char.ofNat code).toLower ∈ lowerDigits → Char.ofNat code ∈ plainDigits := by decide
  have digits : ∀ c ∈ lowerDigits, c ∈ plainDigits :=
    List.all_iff_forall_prop.mp (by decide)
  rcases toLower_eq_or_capital c with small | ⟨code, last, first, rfl⟩
  · exact digits c (small ▸ mem)
  · exact capitals code last first mem

/-- The letter case of digits makes no difference to their number. -/
theorem hexNumber_map_toLower (cs : List Char) : hexNumber (cs.map Char.toLower) = hexNumber cs := by
  simp only [hexNumber, List.foldl_map, hexValue?_toLower]

theorem hexDigits_of_plain {cs : List Char} (plain : ∀ c ∈ cs, c ∈ plainDigits) (value : Nat) :
    hexDigits value cs =
      some (cs.foldl (fun number c => 16 * number + (hexValue? c).getD 0) value, []) := by
  induction cs generalizing value with
  | nil => rfl
  | cons c rest ih =>
    have here := plain c List.mem_cons_self
    have score : c ≠ '_' := fun same => absurd (same ▸ here) (by decide)
    obtain ⟨d, digit⟩ := Option.isSome_iff_exists.mp (hexValue?_of_plain c here)
    rw [hexDigits, digit, List.foldl_cons, digit, Option.getD_some]
    · exact ih (fun d mem => plain d (List.mem_cons_of_mem c mem)) _
    · exact fun _ _ same => absurd same score

theorem dropHexMark_of_plain {cs : List Char} (plain : ∀ c ∈ cs, c ∈ plainDigits) :
    dropHexMark cs = cs := by
  fun_cases dropHexMark cs with
  | case1 rest => exact absurd (plain 'x' (by simp)) (by decide)
  | case2 rest => exact absurd (plain 'X' (by simp)) (by decide)
  | case3 rest => exact absurd (plain 'x' (by simp)) (by decide)
  | case4 rest => exact absurd (plain 'X' (by simp)) (by decide)
  | case5 => rfl

theorem plainDigit_of_plain : ∀ c ∈ plainDigits, plainDigit c = c ∧ isNumeralSpace c = false :=
  List.all_iff_forall_prop.mp (by decide)

/-- Plain digits are a numeral as they stand. -/
theorem hexNumeral?_of_plain {cs : List Char} (given : cs ≠ []) (plain : ∀ c ∈ cs, c ∈ plainDigits) :
    hexNumeral? cs = some (hexNumber cs) := by
  obtain ⟨c, rest, rfl⟩ := List.exists_cons_of_ne_nil given
  have here := plain c List.mem_cons_self
  have digits : ((c :: rest).dropWhile isNumeralSpace).map plainDigit = c :: rest := by
    rw [List.dropWhile_cons_of_neg (Bool.eq_false_iff.mp (plainDigit_of_plain c here).2)]
    exact (List.map_congr_left fun d mem => (plainDigit_of_plain d (plain d mem)).1).trans
      (List.map_id _)
  have unsigned : c ≠ '+' := fun same => absurd (same ▸ here) (by decide)
  obtain ⟨d, digit⟩ := Option.isSome_iff_exists.mp (hexValue?_of_plain c here)
  have later := hexDigits_of_plain (fun d mem => plain d (List.mem_cons_of_mem c mem)) d
  have marked := dropHexMark_of_plain plain
  simp [hexNumeral?, digits, unsigned, marked, digit, later, hexNumber]

/-! ## Pieces that are taken away -/

theorem removeAll_cons_of_not {piece rest : List Char} {c : Char}
    (other : ¬ piece.isPrefixOf (c :: rest) = true) :
    removeAll piece (c :: rest) = c :: removeAll piece rest := by
  rw [removeAll, if_neg other]

/-- A piece at the beginning is taken away. -/
theorem removeAll_append (c : Char) (piece rest : List Char) :
    removeAll (c :: piece) (c :: piece ++ rest) = removeAll (c :: piece) rest := by
  have first : (c :: piece).isPrefixOf (c :: (piece ++ rest)) = true :=
    List.isPrefixOf_iff_prefix.mpr (List.prefix_append (c :: piece) rest)
  rw [List.cons_append, removeAll, if_pos first, List.length_cons, Nat.add_sub_cancel,
    List.drop_left]

/-- Where the first character of a piece does not occur, nothing is taken away. -/
theorem removeAll_of_not_mem {c : Char} {piece cs : List Char} (absent : c ∉ cs) :
    removeAll (c :: piece) cs = cs := by
  induction cs with
  | nil => rw [removeAll]
  | cons d rest ih =>
    have other : ¬ (c :: piece).isPrefixOf (d :: rest) = true := by
      intro begins
      obtain ⟨behind, whole⟩ := List.isPrefixOf_iff_prefix.mp begins
      exact absent ((List.cons.inj whole).1 ▸ List.mem_cons_self)
    rw [removeAll_cons_of_not other, ih fun mem => absent (List.mem_cons_of_mem d mem)]

/-- A character that is not part of a piece stays behind what is left. -/
theorem removeAll_concat {piece : List Char} {last : Char} (given : piece ≠ []) (foreign : last ∉ piece)
    (cs : List Char) : removeAll piece (cs ++ [last]) = removeAll piece cs ++ [last] := by
  have begins : ∀ cs : List Char, piece <+: cs ++ [last] ↔ piece <+: cs := by
    intro cs
    rw [List.prefix_concat_iff]
    refine or_iff_right fun whole => foreign ?_
    rw [whole]
    exact List.mem_concat_self
  fun_induction removeAll piece cs with
  | case1 =>
    have other : ¬ piece.isPrefixOf [last] = true := by
      rw [List.isPrefixOf_iff_prefix]
      exact fun whole => given (List.prefix_nil.mp ((begins []).mp whole))
    rw [List.nil_append, removeAll_cons_of_not other, removeAll]
  | case2 c rest first ih =>
    have first' : piece.isPrefixOf (c :: (rest ++ [last])) = true :=
      List.isPrefixOf_iff_prefix.mpr ((begins (c :: rest)).mpr (List.isPrefixOf_iff_prefix.mp first))
    have short := (List.isPrefixOf_iff_prefix.mp first).length_le
    rw [List.cons_append, removeAll, if_pos first', List.drop_append_of_le_length, ih]
    rw [List.length_cons] at short
    omega
  | case3 c rest other ih =>
    have other' : ¬ piece.isPrefixOf (c :: (rest ++ [last])) = true := by
      rw [List.isPrefixOf_iff_prefix] at other ⊢
      exact fun whole => other ((begins (c :: rest)).mp whole)
    rw [List.cons_append, removeAll_cons_of_not other', ih, List.cons_append]

/-- Characters to be dropped on both sides make no difference. -/
theorem trimChars_between {drop : Char → Bool} {first last : Char} (dropped : drop first = true)
    (dropped' : drop last = true) (cs : List Char) :
    trimChars drop (first :: cs ++ [last]) = trimChars drop cs := by
  rw [trimChars_eq_rdropWhile, trimChars_eq_rdropWhile, List.cons_append,
    List.dropWhile_cons_of_pos dropped, List.dropWhile_append]
  split
  · rename_i all
    rw [List.isEmpty_iff.mp all, List.dropWhile_cons_of_pos dropped', List.dropWhile_nil]
  · exact List.rdropWhile_concat_pos drop _ last dropped'

end Text

/-! ## Spellings -/

namespace Uuid

open Text

/-- Spellings of an identifier: its digits in either letter case and with dashes anywhere, in braces
or after a mark. -/
inductive Spells (id : Uuid) : List Char → Prop
  | digits {body : List Char}
      (same : (body.filter fun c => c != '-').map Char.toLower = id.digits) : Spells id body
  | braced {spelling : List Char} (inner : Spells id spelling) :
      Spells id ('\x7b' :: spelling ++ ['\x7d'])
  | marked {mark : String} {spelling : List Char} (known : mark = "urn:" ∨ mark = "uuid:")
      (inner : Spells id spelling) : Spells id (mark.toList ++ spelling)

theorem toList_urn : "urn:".toList = ['u', 'r', 'n', ':'] := by
  decide

theorem toList_uuid : "uuid:".toList = ['u', 'u', 'i', 'd', ':'] := by
  decide

theorem digitsOf_eq (spelling : List Char) :
    digitsOf spelling = (trimChars isBrace (removeAll ['u', 'u', 'i', 'd', ':']
      (removeAll ['u', 'r', 'n', ':'] spelling))).filter fun c => c != '-' := by
  rw [digitsOf, toList_urn, toList_uuid]

/-- A piece without braces is taken away from between braces. -/
theorem removeAll_braced {c : Char} {piece : List Char} (opening : c ≠ '\x7b')
    (closing : '\x7d' ∉ c :: piece) (cs : List Char) :
    removeAll (c :: piece) ('\x7b' :: cs ++ ['\x7d']) =
      '\x7b' :: removeAll (c :: piece) cs ++ ['\x7d'] := by
  have other : ¬ (c :: piece).isPrefixOf ('\x7b' :: cs) = true := by
    intro begins
    obtain ⟨behind, whole⟩ := List.isPrefixOf_iff_prefix.mp begins
    exact opening (List.cons.inj whole).1
  rw [removeAll_concat (List.cons_ne_nil c piece) closing, removeAll_cons_of_not other]

/-- Braces around a spelling make no difference. -/
theorem digitsOf_braced (spelling : List Char) :
    digitsOf ('\x7b' :: spelling ++ ['\x7d']) = digitsOf spelling := by
  rw [digitsOf_eq, removeAll_braced (by decide) (by decide), removeAll_braced (by decide) (by decide),
    trimChars_between (by decide) (by decide), digitsOf_eq]

/-- A mark before a spelling makes no difference. -/
theorem digitsOf_marked {mark : String} (known : mark = "urn:" ∨ mark = "uuid:")
    (spelling : List Char) : digitsOf (mark.toList ++ spelling) = digitsOf spelling := by
  rcases known with rfl | rfl
  · rw [digitsOf_eq, digitsOf_eq, toList_urn, removeAll_append]
  · -- the mark that is looked for first begins nowhere in the other one
    have passed : removeAll ['u', 'r', 'n', ':'] (['u', 'u', 'i', 'd', ':'] ++ spelling) =
        ['u', 'u', 'i', 'd', ':'] ++ removeAll ['u', 'r', 'n', ':'] spelling := by
      simp [removeAll_cons_of_not]
    rw [digitsOf_eq, digitsOf_eq, toList_uuid, passed, removeAll_append]

variable {id : Uuid} {body spelling : List Char}

theorem mem_lowerDigits_of_mem_digits {c : Char} (mem : c ∈ id.digits) : c ∈ lowerDigits :=
  mem_lowerDigits_of_mem_hexPadded mem

theorem mem_plainDigits_of_same (same : body.map Char.toLower = id.digits) :
    ∀ c ∈ body, c ∈ plainDigits := fun _ mem =>
  mem_plainDigits_of_toLower (mem_lowerDigits_of_mem_digits (same ▸ List.mem_map_of_mem mem))

/-- The digits of a spelling are those of the identifier, some of them capitals. -/
theorem Spells.digitsOf_same (spells : Spells id spelling) :
    (digitsOf spelling).map Char.toLower = id.digits := by
  induction spells with
  | @digits body same =>
    have known : ∀ c ∈ body, c ∈ '-' :: plainDigits := by
      intro c mem
      by_cases dash : c = '-'
      · exact dash ▸ List.mem_cons_self
      · have kept : c ∈ body.filter fun c => c != '-' :=
          List.mem_filter.mpr ⟨mem, bne_iff_ne.mpr dash⟩
        exact List.mem_cons_of_mem _ (mem_plainDigits_of_same same c kept)
    have unmarked : 'u' ∉ body := fun mem => absurd (known 'u' mem) (by decide)
    have unbraced : IsTrimmed isBrace body := by
      have foreign : ∀ c ∈ '-' :: plainDigits, isBrace c = false :=
        List.all_iff_forall_prop.mp (by decide)
      rintro c (first | last)
      · exact foreign c (known c (List.mem_of_mem_head? first))
      · exact foreign c (known c (List.mem_of_mem_getLast? last))
    rw [digitsOf_eq, removeAll_of_not_mem unmarked, removeAll_of_not_mem unmarked,
      trimChars_of_isTrimmed unbraced]
    exact same
  | braced _ ih => rwa [digitsOf_braced]
  | marked known _ ih => rwa [digitsOf_marked known]

/-- Every spelling of an identifier is read as this identifier. -/
theorem ofText_of_spells (spells : Spells id spelling) :
    ofText (String.ofList spelling) = .ok id := by
  have same := spells.digitsOf_same
  have plain := mem_plainDigits_of_same same
  have length : (digitsOf spelling).length = 32 := by
    rw [← List.length_map Char.toLower, same, Uuid.digits, length_hexPadded]
  have whole : ∀ c ∈ digitsOf spelling, c ≠ halfMark := by
    rintro c mem rfl
    exact absurd (plain halfMark mem) (by decide)
  have given : digitsOf spelling ≠ [] := fun none => by
    rw [none] at length
    cases length
  have number : hexNumber (digitsOf spelling) = id.number := by
    rw [← hexNumber_map_toLower, same, Uuid.digits, hexNumber_hexPadded id.number_lt]
  have numeral := hexNumeral?_of_plain given plain
  rw [number] at numeral
  simp [ofText, pieces_of_plain whole, length, numeral, id.number_lt]

/-- The digits without dashes are a spelling. -/
theorem ofText_hex (id : Uuid) : ofText id.hex = .ok id := by
  refine ofText_of_spells (.digits ?_)
  have fixed : ∀ c ∈ lowerDigits, c ≠ '-' ∧ c.toLower = c :=
    List.all_iff_forall_prop.mp (by decide)
  have undashed : (id.digits.filter fun c => c != '-') = id.digits :=
    List.filter_eq_self.mpr fun c mem =>
      bne_iff_ne.mpr (fixed c (mem_lowerDigits_of_mem_digits mem)).1
  rw [undashed]
  exact (List.map_congr_left fun c mem => (fixed c (mem_lowerDigits_of_mem_digits mem)).2).trans
    (List.map_id _)

theorem hex_injective : Function.Injective hex := by
  intro id id' same
  have read : (.ok id : Except Mishap Uuid) = .ok id' := by
    rw [← ofText_hex id, same, ofText_hex]
  exact Except.ok.inj read

/-! ## Columns -/

theorem Dialect.ofName_of_ne {name : String} (portable : name ≠ "postgresql") :
    ofName name = .portable :=
  if_neg (beq_iff_eq.not.mpr portable)

theorem bind_id (id : Uuid) :
    bind .portable (some (.id id)) = .ok (some (.held (.text id.hex))) := rfl

theorem bind_text {spelling : String} (read : ofText spelling = .ok id) :
    bind .portable (some (.held (.text spelling))) = bind .portable (some (.id id)) := by
  simp [bind, Cell.read, ofValue, read]

theorem restore_hex (id : Uuid) : restore (some (.held (.text id.hex))) = .ok (some id) := by
  rw [restore, Cell.read, ofValue, ofText_hex, Except.map]

/-- What is stored is stored as it is. -/
theorem bind_bind {cell stored : Option Cell} (bound : bind .portable cell = .ok stored) :
    bind .portable stored = .ok stored := by
  cases cell with
  | none =>
    cases bound
    rfl
  | some cell =>
    obtain ⟨id, -, rfl⟩ := map_eq_ok.mp bound
    rw [bind_text (ofText_hex id), bind_id]

/-- Spellings are stored alike exactly if they are read as the same identifier. -/
theorem bind_text_eq_iff {first second : String} {id' : Uuid} (read : ofText first = .ok id)
    (read' : ofText second = .ok id') :
    bind .portable (some (.held (.text first))) = bind .portable (some (.held (.text second))) ↔
      id = id' := by
  rw [bind_text read, bind_text read', bind_id, bind_id]
  refine ⟨fun same => hex_injective ?_, fun same => same ▸ rfl⟩
  simpa using same

/-- A database without a type for identifiers stores each as its thirty-two lower-case digits and
gives it back. All its spellings are stored as these digits, and those of no other identifier are;
what is stored stays as it is when it is stored again. -/
theorem identifiers_survive_storage {name : String} (portable : name ≠ "postgresql") :
    let stored := bind (Dialect.ofName name)
    (∀ id : Uuid,
      id.hex.length = 32 ∧ (∀ c ∈ id.hex.toList, c ∈ lowerDigits) ∧
        stored (some (.id id)) = .ok (some (.held (.text id.hex))) ∧
        restore (some (.held (.text id.hex))) = .ok (some id)) ∧
      (∀ spelling id, ofText spelling = .ok id →
        stored (some (.held (.text spelling))) = stored (some (.id id))) ∧
      (∀ first second id id', ofText first = .ok id → ofText second = .ok id' →
        (stored (some (.held (.text first))) = stored (some (.held (.text second))) ↔ id = id')) ∧
      (∀ id spelling, Spells id spelling → ofText (String.ofList spelling) = .ok id) ∧
      ∀ cell cell', stored cell = .ok cell' → stored cell' = .ok cell' := by
  rw [Dialect.ofName_of_ne portable]
  refine ⟨fun id => ⟨?_, ?_, bind_id id, restore_hex id⟩, fun _ _ => bind_text,
    fun _ _ _ _ => bind_text_eq_iff, fun _ _ => ofText_of_spells, fun _ _ => bind_bind⟩
  · rw [hex, String.length_ofList, digits, length_hexPadded]
  · intro c mem
    rw [hex, String.toList_ofList] at mem
    exact mem_lowerDigits_of_mem_digits mem

/-- Braces, marks, dashes and capitals are not stored; leading zeros are. -/
theorem identifiers_survive_storage_in_braces :
    bind (Dialect.ofName "sqlite")
        (some (.held (.text "\x7burn:uuid:00000000-0000-0000-0000-0000000000AB\x7d"))) =
      .ok (some (.held (.text "000000000000000000000000000000ab"))) := by
  have portable : "sqlite" ≠ "postgresql" := by decide
  obtain ⟨kept, alike, -, spelled, -⟩ := identifiers_survive_storage portable
  have grouped : Spells (.ofNat 0xAB) "00000000-0000-0000-0000-0000000000AB".toList :=
    .digits (by decide)
  have read := spelled _ _ (.braced (.marked (.inl rfl) (.marked (.inr rfl) grouped)))
  exact (alike _ _ read).trans (kept (.ofNat 0xAB)).2.2.1

end Uuid

end ProfilePolicy
