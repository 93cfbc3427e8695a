import ProfilePolicy.Text.Direction
import ProfilePolicy.Text.Half
import ProfilePolicy.Text.LetterCase
import ProfilePolicy.Text.NormalForm
import ProfilePolicy.Text.Punycode
import ProfilePolicy.Text.Quoted

/-!
# Labels of host names

The name of a host consists of labels. A label is a word: letters, digits, marks and hyphens of
any script in their composed form, where hyphens stand between other characters. A few more
characters may stand in some surroundings, and the directions in which the characters are written
must go together. A label in ASCII may be such a word in plain letters, which a mark tells.

Labels are lists of code points here. What is wrong with a label is told for the first place at
which something is.
-/

namespace ProfilePolicy.Http.Label

open ProfilePolicy.Text

inductive Problem
  | empty
  | notComposed
  | innerHyphens
  | outerHyphen
  | leadingMark
  /-- A code point that no label may hold. -/
  | foreign (code place : Nat) (label : List Nat)
  /-- A code point that may not stand in these surroundings. -/
  | misplaced (code place : Nat) (label : List Nat)
  /-- A joiner in surroundings that do not need one. -/
  | idle (code place : Nat) (label : List Nat)
  /-- The first character is none that a direction may begin with. -/
  | noDirection (label : List Nat)
  /-- A character that may not be written in the direction of the label. -/
  | wrongDirection (place : Nat) (toRight : Bool)
  | mixedNumbers
  /-- The last character is none that a direction may end with. -/
  | openDirection
  /-- Nothing follows the mark of a word in plain letters. -/
  | nothing
  /-- A word in plain letters ends with a hyphen. -/
  | lastHyphen
  /-- Plain letters that are no word. -/
  | unreadable
  deriving DecidableEq, Repr, Inhabited

def codeName (code : Nat) : String :=
  let width := if code < 0x10000 then 4 else if code < 0x100000 then 5 else 6
  "U+" ++ String.ofList ((hexPadded width code).map Char.toUpper)

def quotedLabel (label : List Nat) : String :=
  quoted (String.ofList (label.flatMap pieceAt))

def Problem.kind : Problem → String
  | foreign _ _ _ => "InvalidCodepoint"
  | misplaced _ _ _ => "InvalidCodepointContext"
  | noDirection _ | wrongDirection _ _ | mixedNumbers | openDirection => "IDNABidiError"
  | _ => "IDNAError"

def Problem.reason : Problem → String
  | empty => "Empty Label"
  | notComposed => "Label must be in Normalization Form C"
  | innerHyphens => "Label has disallowed hyphens in 3rd and 4th position"
  | outerHyphen => "Label must not start or end with a hyphen"
  | leadingMark => "Label begins with an illegal combining character"
  | foreign code place label =>
    "Codepoint " ++ codeName code ++ " at position " ++ toString place ++ " of " ++
      quotedLabel label ++ " not allowed"
  | misplaced code place label =>
    "Codepoint " ++ codeName code ++ " not allowed at position " ++ toString place ++ " in " ++
      quotedLabel label
  | idle code place label =>
    "Unknown codepoint adjacent to joiner " ++ codeName code ++ " at position " ++
      toString place ++ " in " ++ quotedLabel label
  | noDirection label =>
    "First codepoint in label " ++ quotedLabel label ++ " must be directionality L, R or AL"
  | wrongDirection place toRight =>
    "Invalid direction for codepoint at position " ++ toString place ++ " in a " ++
      (if toRight then "left-to-right" else "right-to-left") ++ " label"
  | mixedNumbers => "Can not mix numeral types in a right-to-left label"
  | openDirection => "Label ends with illegal codepoint directionality"
  | nothing => "Malformed A-label, no Punycode eligible content found"
  | lastHyphen => "A-label must not end with a hyphen"
  | unreadable => "Invalid A-label"

/-! ## Code points of labels -/

/-- Inclusive ranges with the code points that words are made of, in ascending order. Those in them
that have no visible form or a lower-case letter of their own are none. -/
def wordRanges : List (Nat × Nat) := [
  (45, 45), (48, 57), (97, 122), (223, 246), (248, 303), (305, 305), (309, 318), (322, 328),
  (331, 382), (384, 451), (462, 496), (501, 687), (697, 705), (710, 721), (748, 748), (750, 750),
  (768, 831), (834, 834), (838, 846), (848, 883), (887, 887), (891, 893), (912, 974), (983, 1007),
  (1011, 1011), (1016, 1153), (1155, 1159), (1163, 1369), (1376, 1414), (1416, 1416), (1425, 1469),
  (1471, 1471), (1473, 1474), (1476, 1477), (1479, 1522), (1552, 1562), (1568, 1599), (1601, 1631),
  (1646, 1652), (1657, 1747), (1749, 1756), (1759, 1768), (1770, 1775), (1786, 1791), (1808, 2037),
  (2045, 2045), (2048, 2093), (2112, 2139), (2144, 2183), (2185, 2391), (2400, 2403), (2406, 2415),
  (2417, 2519), (2528, 2545), (2556, 2556), (2558, 2610), (2613, 2613), (2616, 2641), (2652, 2652),
  (2662, 2677), (2689, 2799), (2809, 2903), (2911, 2927), (2929, 2929), (2946, 3055), (3072, 3183),
  (3200, 3203), (3205, 3406), (3412, 3415), (3423, 3439), (3450, 3571), (3585, 3634), (3636, 3642),
  (3648, 3662), (3664, 3673), (3713, 3762), (3764, 3801), (3806, 3840), (3851, 3851), (3864, 3865),
  (3872, 3881), (3893, 3893), (3895, 3895), (3897, 3897), (3902, 3906), (3908, 3916), (3918, 3921),
  (3923, 3926), (3928, 3931), (3933, 3944), (3946, 3954), (3956, 3956), (3962, 3968), (3970, 3972),
  (3974, 3986), (3988, 3996), (3998, 4001), (4003, 4006), (4008, 4011), (4013, 4024), (4026, 4028),
  (4038, 4038), (4096, 4169), (4176, 4253), (4304, 4346), (4349, 4351), (4608, 4959), (4992, 5007),
  (5024, 5109), (5121, 5740), (5743, 5786), (5792, 5866), (5873, 5940), (5952, 6067), (6070, 6099),
  (6103, 6103), (6108, 6121), (6160, 6459), (6470, 6617), (6656, 6683), (6688, 6809), (6823, 6823),
  (6832, 6845), (6847, 7001), (7019, 7027), (7040, 7155), (7168, 7223), (7232, 7293), (7376, 7378),
  (7380, 7467), (7471, 7471), (7483, 7483), (7502, 7502), (7531, 7543), (7545, 7578), (7616, 7833),
  (7836, 8048), (8050, 8050), (8052, 8052), (8054, 8054), (8056, 8056), (8058, 8058), (8060, 8060),
  (8112, 8113), (8118, 8118), (8134, 8134), (8144, 8146), (8150, 8151), (8160, 8162), (8164, 8167),
  (8182, 8182), (8526, 8526), (8580, 8580), (11312, 11387), (11393, 11492), (11500, 11507),
  (11520, 11623), (11647, 11775), (11823, 11823), (12293, 12295), (12330, 12333), (12348, 12348),
  (12353, 12442), (12445, 12446), (12449, 12538), (12540, 12542), (12549, 12591), (12704, 12735),
  (12784, 12799), (13312, 19903), (19968, 42124), (42192, 42237), (42240, 42508), (42512, 42607),
  (42612, 42621), (42623, 42651), (42654, 42725), (42736, 42737), (42775, 42783), (42787, 42863),
  (42865, 42888), (42892, 42969), (42998, 42999), (43002, 43047), (43052, 43052), (43072, 43123),
  (43136, 43205), (43216, 43255), (43259, 43259), (43261, 43309), (43312, 43347), (43392, 43456),
  (43471, 43481), (43488, 43609), (43616, 43638), (43642, 43741), (43744, 43759), (43762, 43866),
  (43872, 43880), (43968, 44010), (44012, 55203), (64014, 64015), (64017, 64017), (64019, 64020),
  (64031, 64031), (64033, 64033), (64035, 64036), (64039, 64041), (64286, 64286), (65056, 65071),
  (65139, 65139), (65536, 65786), (66045, 66272), (66304, 66335), (66349, 66368), (66370, 66377),
  (66384, 66461), (66464, 66511), (66600, 66915), (66967, 67456), (67584, 67669), (67680, 67702),
  (67712, 67742), (67808, 67829), (67840, 67861), (67872, 67897), (67968, 68023), (68030, 68031),
  (68096, 68159), (68192, 68220), (68224, 68252), (68288, 68295), (68297, 68326), (68352, 68405),
  (68416, 68437), (68448, 68466), (68480, 68497), (68608, 68850), (68864, 68921), (69248, 69292),
  (69296, 69404), (69415, 69456), (69488, 69509), (69552, 69572), (69600, 69702), (69734, 69818),
  (69826, 69951), (69956, 70003), (70006, 70084), (70089, 70092), (70094, 70106), (70108, 70108),
  (70144, 70199), (70206, 70312), (70320, 70730), (70736, 70745), (70750, 70853), (70855, 71104),
  (71128, 71232), (71236, 71257), (71296, 71352), (71360, 71481), (71488, 71738), (71872, 71913),
  (71935, 72003), (72016, 72161), (72163, 72254), (72263, 72345), (72349, 72349), (72368, 72768),
  (72784, 72793), (72818, 73462), (73648, 73648), (73728, 74649), (74880, 77808), (77824, 92777),
  (92784, 92916), (92928, 92982), (92992, 92995), (93008, 93017), (93027, 93823), (93952, 94177),
  (94179, 113817), (113821, 113822), (118528, 118598), (121344, 121398), (121403, 121452),
  (121461, 121461), (121476, 121476), (121499, 123214), (123536, 123641), (124896, 125124),
  (125136, 125273), (131072, 191456), (196608, 201546)
]

/-- Capital letters of a script whose words are written with them, as an inclusive range. -/
def capitalScript : List (Nat × Nat) := [(0x13A0, 0x13F5)]

/-- Whether a code point may stand anywhere in a word. -/
def isOfWords (code : Nat) : Bool :=
  isWithin code wordRanges && isVisible (Char.ofNat code) &&
    (lowerCode code == code || isWithin code capitalScript)

/-- Inclusive ranges with the Greek letters of words, in ascending order. -/
def greekRanges : List (Nat × Nat) := [
  (881, 993), (1011, 1020), (7462, 7466), (7936, 8182), (43877, 43877)
]

/-- Inclusive ranges with the Hebrew letters of words, in ascending order. -/
def hebrewRanges : List (Nat × Nat) := [
  (1425, 1524), (64286, 64286)
]

/-- Inclusive ranges with the Japanese and Chinese characters of words, in ascending order. -/
def kanaRanges : List (Nat × Nat) := [
  (12293, 12293), (12295, 12295), (12353, 12438), (12445, 12538), (12541, 12542), (12784, 40959),
  (64014, 64041), (94179, 94179), (94192, 94193), (110576, 110951), (131072, 201546)
]

/-- The character that joins what would not be joined. -/
def joiner : Nat := 0x200D

/-- The character that keeps apart what would be joined. -/
def nonJoiner : Nat := 0x200C

/-- Whether a joiner is needed between what comes before it, in reverse, and after it. -/
def isNeeded (code : Nat) (before after : List Nat) : Bool :=
  (before.head?.map markClass == some viramaClass) ||
    (code == nonJoiner && joinsNext before && joinsLast after)

/-- Inclusive ranges with the code points that may stand in some surroundings only, in ascending
order. -/
def boundRanges : List (Nat × Nat) := [
  (0xB7, 0xB7), (0x375, 0x375), (0x5F3, 0x5F4), (0x660, 0x669), (0x6F0, 0x6F9), (0x30FB, 0x30FB)
]

/-- Whether a code point may stand between what comes before it, in reverse, and after it. -/
def fits (code : Nat) (before after : List Nat) : Bool :=
  let others := before ++ after
  if code == 0xB7 then before.head? == some 0x6C && after.head? == some 0x6C
  else if code == 0x375 then after.head?.any (isWithin · greekRanges)
  else if code == 0x5F3 || code == 0x5F4 then before.head?.any (isWithin · hebrewRanges)
  else if code == 0x30FB then others.any (isWithin · kanaRanges)
  else if isWithin code [(0x660, 0x669)] then others.all (!isWithin · [(0x6F0, 0x6F9)])
  else others.all (!isWithin · [(0x660, 0x669)])

/-- The first problem with the code points of a label, from some place on. -/
def codeProblem? (label before : List Nat) : List Nat → Option Problem
  | [] => none
  | code :: after =>
    let place := before.length + 1
    if isOfWords code then codeProblem? label (code :: before) after
    else if code == joiner || code == nonJoiner then
      if isNeeded code before after then codeProblem? label (code :: before) after
      else some (.idle code place label)
    else if isWithin code boundRanges then
      if fits code before after then codeProblem? label (code :: before) after
      else some (.misplaced code place label)
    else some (.foreign code place label)

/-! ## Directions of labels -/

def leansRight (direction : Direction) : Bool :=
  direction == .right || direction == .arabicNumber

def isNumeric (direction : Direction) : Bool :=
  direction == .number || direction == .arabicNumber

/-- The first problem with the directions of a label that is written from right to left, after
digits of some kind and from some place on. -/
def rightProblem? (digits : Option Direction) (place : Nat) : List Direction → Option Problem
  | [] => none
  | direction :: rest =>
    if direction == .left then some (.wrongDirection place false)
    else if isNumeric direction then
      if digits.any (· != direction) then some .mixedNumbers
      else rightProblem? (some direction) (place + 1) rest
    else rightProblem? digits (place + 1) rest

/-- The first character of a label that is written from left to right and must not be. -/
def leftProblem? (place : Nat) : List Direction → Option Problem
  | [] => none
  | direction :: rest =>
    if leansRight direction then some (.wrongDirection place true)
    else leftProblem? (place + 1) rest

/-- Whether a direction may end with this, but for marks. -/
def closes (directions : List Direction) : Bool :=
  match directions.reverse.dropWhile (· == .mark) with
  | [] => false
  | last :: _ => last != .neutral

/-- What is wrong with the directions of a label; a label with nothing of the writing from right to
left may hold all others in any order. -/
def directionProblem? (label : List Nat) : Option Problem :=
  let directions := label.map directionOf
  if !directions.any leansRight then none
  else
    match directions.head? with
    | some .right =>
      (rightProblem? none 1 directions).or
        (if closes directions then none else some .openDirection)
    | some .left => leftProblem? 1 directions
    | _ => some (.noDirection label)

/-! ## Labels -/

def wordProblem? (label : List Nat) : Option Problem :=
  let hyphen := '-'.toNat
  if label.isEmpty then some .empty
  else if !isComposed label then some .notComposed
  else if (label.drop 2).take 2 == [hyphen, hyphen] then some .innerHyphens
  else if label.head? == some hyphen || label.getLast? == some hyphen then some .outerHyphen
  else if label.head?.any isMark then some .leadingMark
  else (codeProblem? label [] label).or (directionProblem? label)

def plainMark : List Char := "xn--".toList

/-- What is wrong with an ASCII label; the case of its letters does not matter. -/
def plainProblem? (label : List Char) : Option Problem :=
  let label := label.map Char.toLower
  if plainMark.isPrefixOf label then
    let plain := label.drop plainMark.length
    if plain.isEmpty then some .nothing
    else if plain.getLast? == some '-' then some .lastHyphen
    else
      match Punycode.read? plain with
      | none => some .unreadable
      | some word => wordProblem? word
  else wordProblem? (label.map Char.toNat)

/-- The most characters of a label in plain letters. -/
def longest : Nat := 63

/-- A label of a lower-case name in plain letters, unless it is no label. -/
def inPlain? (label : List Char) : Option (List Char) :=
  let isAscii := label.all (·.toNat < 128)
  let problem? := if isAscii then plainProblem? label else wordProblem? (label.map Char.toNat)
  let plain := if isAscii then label else plainMark ++ Punycode.write (label.map Char.toNat)
  if problem?.isNone && decide (plain.length ≤ longest) then some plain else none

end ProfilePolicy.Http.Label
