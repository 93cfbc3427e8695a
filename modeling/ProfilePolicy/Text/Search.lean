/-!
# Pieces of a text

Looking for a piece of text inside another one, taking every occurrence of it away, and splitting at
a character.
-/

namespace ProfilePolicy.Text

def occursIn (piece : List Char) : List Char → Bool
  | [] => piece.isEmpty
  | c :: rest => piece.isPrefixOf (c :: rest) || occursIn piece rest

/-- A text without the occurrences of a piece, found from left to right. -/
def removeAll (piece : List Char) : List Char → List Char
  | [] => []
  | c :: rest =>
    if piece.isPrefixOf (c :: rest) then removeAll piece (rest.drop (piece.length - 1))
    else c :: removeAll piece rest
termination_by cs => cs.length
decreasing_by
  · simp only [List.length_drop, List.length_cons]; omega
  · simp

/-- The parts of a text between the occurrences of a character; there is always a first part. -/
def splitAt (separator : Char) : List Char → List (List Char)
  | [] => [[]]
  | c :: rest =>
    if c == separator then [] :: splitAt separator rest
    else
      match splitAt separator rest with
      | [] => [[c]]
      | part :: parts => (c :: part) :: parts

end ProfilePolicy.Text
