import ProfilePolicy.Http.Label
import ProfilePolicy.Text.Digits
import ProfilePolicy.Text.Search

/-!
# Hosts

The host of a reference is a name, or an address in numbers: four numbers joined by dots, or groups
of hexadecimal digits joined by colons between square brackets. A host that has the look of an
address must be one. The look of four numbers does not ask for dots: any single character may join
them, even a digit.

A name consists of labels. One with characters beyond ASCII must be a name that has a form in plain
letters. An ASCII name may be anything, but where it begins with a label in plain letters, it has to
be readable before a request is sent to it.
-/

namespace ProfilePolicy.Http.Host

/-! ## Four numbers -/

/-- The digits of a text between its other characters. -/
def digitRuns : List Char → List (List Char)
  | [] => [[]]
  | c :: rest =>
    match digitRuns rest with
    | [] => [[c]]
    | run :: runs => if c.isDigit then (c :: run) :: runs else [] :: run :: runs

/-- Whether a text has the look of four numbers with a character between each two. A run of digits
alone may be several numbers, of which every second digit joins two others. -/
def looksQuad (host : List Char) : Bool :=
  let runs := digitRuns host
  runs.all (!·.isEmpty) && decide (runs.length ≤ 4) &&
    decide (4 ≤ runs.foldl (fun numbers run => numbers + (run.length + 1) / 2) 0)

/-- Whether digits are a number below 256 without a zero in front. -/
def isOctet (digits : List Char) : Bool :=
  !digits.isEmpty && digits.all Char.isDigit && decide (digits.length ≤ 3) &&
    (digits == ['0'] || digits.head? != some '0') && decide (Text.decimalNumber digits < 256)

/-- Whether a text is four numbers joined by dots. -/
def isQuad (host : List Char) : Bool :=
  let octets := Text.splitAt '.' host
  octets.length == 4 && octets.all isOctet

/-! ## Groups of hexadecimal digits -/

/-- Whether digits are a group: one to four hexadecimal digits. -/
def isGroup (digits : List Char) : Bool :=
  !digits.isEmpty && decide (digits.length ≤ 4) && digits.all Text.isHexDigit

def mostGroups : Nat := 8

/-- The groups of an address, with four numbers at its end counting as two. -/
def groupsOf? (address : List Char) : Option (List (List Char)) :=
  let parts := Text.splitAt ':' address
  let last := parts.getLastD []
  if parts.length < 3 then none
  else if !last.contains '.' then some parts
  else if isQuad last then some (parts.dropLast ++ [['0'], ['0']])
  else none

/-- Whether the groups on one side of an omission are well formed. An empty group at the end of the
address is one only where it stands alone. -/
def isSide (groups : List (List Char)) : Bool :=
  groups == [[]] || groups.all isGroup

def sideLength (groups : List (List Char)) : Nat :=
  if groups == [[]] then 0 else groups.length

/-- Whether groups make an address. A single empty group that is not at an end stands for all that
are missing, of which there is at least one. -/
def isAddress (groups : List (List Char)) : Bool :=
  let inner := (groups.drop 1).dropLast
  if inner.all (!·.isEmpty) then groups.length == mostGroups && groups.all isGroup
  else
    let before := groups.take (1 + (inner.takeWhile (!·.isEmpty)).length)
    let after := groups.drop (before.length + 1)
    decide (groups.length ≤ mostGroups + 1) && isSide before && isSide after &&
      decide (sideLength before + sideLength after < mostGroups)

/-- Whether a text is an address of groups, perhaps with a zone after a percent sign. -/
def isGrouped (text : List Char) : Bool :=
  let address := text.takeWhile (· != '%')
  let zone := text.dropWhile (· != '%')
  (zone.isEmpty || (zone.length != 1 && !(zone.drop 1).contains '%')) &&
    (groupsOf? address).any isAddress

def bracketed? (host : List Char) : Option (List Char) :=
  match host with
  | '[' :: rest => if rest.getLast? == some ']' then some rest.dropLast else none
  | _ => none

/-! ## Names -/

def dots : List Char := ['.', '。', '．', '｡']

/-- The labels of a name, without an empty one at its end. -/
def labelsOf (name : List Char) : List (List Char) :=
  let labels := Text.splitAt '.' (name.map fun c => if dots.contains c then '.' else c)
  if labels.getLast? == some [] then labels.dropLast else labels

/-- The most characters of a name in plain letters with a dot after each label. -/
def longestName : Nat := 254

def isName (host : List Char) : Bool :=
  let labels := (labelsOf (Text.lower (String.ofList host)).toList).map Label.inPlain?
  labels.all Option.isSome &&
    decide (labels.foldl (fun length label => length + (label.getD []).length + 1) 0 ≤ longestName)

/-- Characters that stand for themselves in a host; the others are escaped. -/
def isPlain (c : Char) : Bool :=
  !([' ', '<', '>', '[', ']', '^'].contains c)

/-- An ASCII host as it is sent: in lower case, and escaped where it has to be. -/
def sent (host : List Char) : List Char :=
  host.flatMap fun c =>
    if isPlain c then [c.toLower] else '%' :: (Text.hexPadded 2 c.toNat).map Char.toUpper

/-- What is wrong with an ASCII name that begins with a label in plain letters. -/
def nameProblem? (host : List Char) : Option Label.Problem :=
  let name := sent host
  if Label.plainMark.isPrefixOf name then (labelsOf name).findSome? Label.plainProblem? else none

end ProfilePolicy.Http.Host
