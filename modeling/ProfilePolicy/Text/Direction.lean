import ProfilePolicy.Text.Mark

/-!
# Directions of writing

Most letters are written from left to right, and those of some scripts from right to left. Numbers
run from left to right in any script, but with the digits of some they belong to the writing from
right to left. Other characters follow the writing around them. Only the characters that names may
hold are told apart here; the others count as whatever makes a table short.

In some scripts letters join with the next one, with the one before, or with both.
-/

namespace ProfilePolicy.Text

/-- The part that a character plays for the direction of a text. -/
inductive Direction
  | left
  | right
  | number
  /-- A number that belongs to the writing from right to left. -/
  | arabicNumber
  /-- A character that follows the writing around it. -/
  | neutral
  /-- A mark on the character before it. -/
  | mark
  deriving DecidableEq, Repr, Inhabited

def leftMarks : List Nat := [0xCBF, 0xCC6, 0x11A07, 0x11A08, 0x11C3F]

def numberRanges : List (Nat × Nat) := [(0x30, 0x39), (0x6F0, 0x6F9)]

/-- Inclusive ranges with the digits of numbers in the writing from right to left, in ascending
order. -/
def arabicNumberRanges : List (Nat × Nat) := [(0x660, 0x669), (0x10D30, 0x10D39)]

/-- Inclusive ranges with the characters that follow the writing around them, in ascending order. -/
def neutralRanges : List (Nat × Nat) := [
  (45, 45), (183, 183), (697, 698), (710, 719), (748, 748), (885, 885), (8204, 8205),
  (11823, 11823), (12539, 12539), (42623, 42623), (42775, 42783), (42888, 42888)
]

/-- Inclusive ranges with the letters that are written from right to left, in ascending order; the
marks and digits in them are none. -/
def rightRanges : List (Nat × Nat) := [
  (1488, 2249), (65139, 65139), (67584, 69622), (124928, 125273)
]

/-- The part that a code point plays for the direction of a text. -/
def directionOf (code : Nat) : Direction :=
  if leftMarks.contains code then .left
  else if isSpaceless code then .mark
  else if isWithin code numberRanges then .number
  else if isWithin code arabicNumberRanges then .arabicNumber
  else if isWithin code neutralRanges then .neutral
  else if isWithin code rightRanges then .right
  else .left

/-! ## Joining letters -/

def joiningNextRanges : List (Nat × Nat) := [
  (1568, 1568), (1574, 1574), (1576, 1576), (1578, 1582), (1587, 1607), (1609, 1610), (1646, 1647),
  (1657, 1671), (1690, 1727), (1729, 1730), (1740, 1740), (1742, 1742), (1744, 1745), (1786, 1788),
  (1791, 1791), (1810, 1812), (1818, 1821), (1823, 1831), (1833, 1833), (1835, 1835), (1837, 1838),
  (1870, 1880), (1884, 1898), (1901, 1904), (1906, 1906), (1909, 1911), (1914, 1919), (1994, 2026),
  (2113, 2117), (2120, 2120), (2122, 2131), (2133, 2133), (2144, 2144), (2146, 2149), (2152, 2152),
  (2182, 2182), (2185, 2189), (2208, 2217), (2223, 2224), (2227, 2232), (2234, 2248), (6176, 6264),
  (6279, 6314), (43072, 43122), (68288, 68292), (68301, 68301), (68307, 68316), (68318, 68320),
  (68480, 68480), (68482, 68482), (68486, 68488), (68490, 68491), (68493, 68493), (68496, 68496),
  (68864, 68897), (68899, 68899), (69424, 69426), (69428, 69444), (69488, 69491), (69494, 69552),
  (69554, 69555), (69560, 69560), (69563, 69564), (69566, 69567), (69569, 69569), (69572, 69572),
  (125218, 125251)
]

/-- Inclusive ranges with the letters that join with the one before, in ascending order. -/
def joiningLastRanges : List (Nat × Nat) := [
  (1568, 1568), (1570, 1610), (1646, 1651), (1657, 1749), (1774, 1775), (1786, 1788), (1791, 1919),
  (1994, 2026), (2112, 2144), (2146, 2149), (2151, 2178), (2182, 2182), (2185, 2220), (2222, 2248),
  (6176, 6264), (6279, 6314), (43072, 43121), (68288, 68293), (68295, 68298), (68302, 68310),
  (68312, 68321), (68324, 68324), (68480, 68497), (68865, 68899), (69424, 69444), (69488, 69552),
  (69554, 69558), (69560, 69567), (69569, 69572), (125218, 125251)
]

/-- Whether a text ends, but for marks, with a letter that joins with the next one; the text is
given in reverse. -/
def joinsNext (reversed : List Nat) : Bool :=
  match reversed.dropWhile isSpaceless with
  | [] => false
  | code :: _ => isWithin code joiningNextRanges

/-- Whether a text begins, but for marks, with a letter that joins with the one before. -/
def joinsLast (codes : List Nat) : Bool :=
  match codes.dropWhile isSpaceless with
  | [] => false
  | code :: _ => isWithin code joiningLastRanges

end ProfilePolicy.Text
