/-!
# Halves of code unit pairs

A character beyond the first plane is written as a pair of code units. A half that stands alone is
no character, but texts may still hold one. A text keeps it as two characters, the mark U+FFFF and a
private character that tells the half; the mark itself, which is no character of any writing, is
kept twice. So a text is a sequence of pieces, one for each of its code points; texts are measured,
ordered and shown by these. A text with a half cannot leave as bytes.
-/

namespace ProfilePolicy.Text

def isHighHalf (unit : Nat) : Bool :=
  decide (0xD800 ≤ unit) && decide (unit < 0xDC00)

def isLowHalf (unit : Nat) : Bool :=
  decide (0xDC00 ≤ unit) && decide (unit < 0xE000)

def isHalf (unit : Nat) : Bool :=
  isHighHalf unit || isLowHalf unit

def pairCode (high low : Nat) : Nat :=
  0x10000 + (high - 0xD800) * 0x400 + (low - 0xDC00)

/-- The character that begins a piece of two. -/
def halfMark : Char := '\uFFFF'

/-- How far a half is from the private character that tells it. -/
def halfShift : Nat := 0x800

def pieceAt (code : Nat) : List Char :=
  if isHalf code then [halfMark, Char.ofNat (code + halfShift)]
  else if code == halfMark.toNat then [halfMark, halfMark]
  else [Char.ofNat code]

def pieces : List Char → List (List Char)
  | [] => []
  | [c] => [[c]]
  | c :: d :: rest => if c == halfMark then [c, d] :: pieces rest else [c] :: pieces (d :: rest)

def codeOf : List Char → Nat
  | [] => 0
  | [c] => c.toNat
  | c :: d :: _ => if d == halfMark then c.toNat else d.toNat - halfShift

def codes (cs : List Char) : List Nat :=
  (pieces cs).map codeOf

def size (text : String) : Nat :=
  (pieces text.toList).length

def isBefore (left right : String) : Bool :=
  decide (codes left.toList < codes right.toList)

/-- Characters as a text keeps them. -/
def ofChars (cs : List Char) : List Char :=
  cs.flatMap fun c => pieceAt c.toNat

/-- The characters that a text keeps; a half is none. -/
def charsOf (text : String) : List Char :=
  ((codes text.toList).filter (!isHalf ·)).map Char.ofNat

/-- A text with three marks in the place of every half. -/
def withoutHalves (text : String) : String :=
  String.ofList ((pieces text.toList).flatMap fun piece =>
    if isHalf (codeOf piece) then ['\uFFFD', '\uFFFD', '\uFFFD'] else piece)

/-- Whether a text holds a half that stands alone. -/
def hasHalf (text : String) : Bool :=
  (codes text.toList).any isHalf

/-! ## Pieces and code points -/

theorem pieces_cons {c : Char} (h : c ≠ halfMark) (rest : List Char) :
    pieces (c :: rest) = [c] :: pieces rest := by
  cases rest <;> simp [pieces, h]

theorem toNat_ofNat {code : Nat} (h : code.isValidChar) : (Char.ofNat code).toNat = code := by
  have hValid : Char.ofNat code = Char.ofNatAux code h := dif_pos h
  rw [hValid]
  rfl

end ProfilePolicy.Text
