/-!
# Characters in bytes

A character takes one byte to four. The first byte tells how many, and narrows what the second one
may be; all others of a character are continuations. Bytes that begin no character are cut into
malformed pieces, each as long as it could still have become a character.
-/

namespace ProfilePolicy.Text

def utf8Bytes (cs : List Char) : List Nat :=
  cs.flatMap fun c => (String.utf8EncodeChar c).map UInt8.toNat

def isContinuation (byte : Nat) : Bool :=
  decide (0x80 ≤ byte) && decide (byte ≤ 0xBF)

/-- The least and the greatest second byte after a first one of several, and how many there are in
all. -/
def leadingByte? (first : Nat) : Option (Nat × Nat × Nat) :=
  if 0xC2 ≤ first ∧ first ≤ 0xDF then some (0x80, 0xBF, 2)
  else if first = 0xE0 then some (0xA0, 0xBF, 3)
  else if first = 0xED then some (0x80, 0x9F, 3)
  else if 0xE1 ≤ first ∧ first ≤ 0xEF then some (0x80, 0xBF, 3)
  else if first = 0xF0 then some (0x90, 0xBF, 4)
  else if first = 0xF4 then some (0x80, 0x8F, 4)
  else if 0xF1 ≤ first ∧ first ≤ 0xF3 then some (0x80, 0xBF, 4)
  else none

/-- The continuations that follow a first byte, up to the number that it asks for. -/
def continuations (low high size : Nat) : List Nat → List Nat
  | [] => []
  | second :: rest =>
    if low ≤ second ∧ second ≤ high then
      second :: (rest.take (size - 2)).takeWhile isContinuation
    else []

/-- The character at the beginning of bytes and the number of its bytes; a malformed piece is no
character. -/
def utf8Piece (first : Nat) (rest : List Nat) : Option Char × Nat :=
  if first < 0x80 then (some (Char.ofNat first), 1)
  else
    match leadingByte? first with
    | none => (none, 1)
    | some (low, high, size) =>
      let others := continuations low high size rest
      if others.length + 1 == size then
        (some (Char.ofNat (others.foldl (fun code byte => 64 * code + byte % 64)
          (first % Nat.pow 2 (7 - size)))), size)
      else (none, others.length + 1)

/-- The characters and malformed pieces of bytes. -/
def utf8Pieces : List Nat → List (Option Char)
  | [] => []
  | first :: rest =>
    let (piece, size) := utf8Piece first rest
    piece :: utf8Pieces (rest.drop (size - 1))
termination_by bytes => bytes.length
decreasing_by simp only [List.length_drop, List.length_cons]; omega

/-- The characters of bytes that have no malformed piece. -/
def ofUtf8? (bytes : List Nat) : Option (List Char) :=
  (utf8Pieces bytes).mapM id

/-- The characters of bytes, with a mark in the place of every malformed piece. -/
def ofUtf8Marked (bytes : List Nat) : List Char :=
  (utf8Pieces bytes).map fun piece => piece.getD '\uFFFD'

end ProfilePolicy.Text
