import ProfilePolicy.Text.Mark

/-!
# The composed form of texts

A letter with a mark is one character or two, and marks of different classes may come in any order.
The composed form chooses one of these writings: what can be taken apart is taken apart, the marks
after a letter are sorted by their classes, and each mark is joined to its letter again if there is
a character for both and no mark of the same class stands between them. Texts are lists of code
points here.

Some characters are writings of other ones; a text with one of them is not composed, whatever else
is in it. So only the characters that composing can give have to be taken apart.
-/

namespace ProfilePolicy.Text

/-- Letters that join with a mark, and the characters that are both, in the same order. -/
structure Joining where
  mark : Nat
  letters : String
  joined : String

def joinings : List Joining := [
  ⟨768, "AEINOUWYaeinouwy¨ÂÊÔÜâêôüĂăĒēŌōƠ",
    "ÀÈÌǸÒÙẀỲàèìǹòùẁỳ῭ẦỀỒǛầềồǜẰằḔḕṐṑỜ"⟩,
  ⟨768, "ơƯưΑΕΗΙΟΥΩαεηιουωϊϋЕИеиἀἁἈἉἐἑἘἙἠ",
    "ờỪừᾺῈῊῚῸῪῺὰὲὴὶὸὺὼῒῢЀЍѐѝἂἃἊἋἒἓἚἛἢ"⟩,
  ⟨768, "ἡἨἩἰἱἸἹὀὁὈὉὐὑὙὠὡὨὩ᾿῾",
    "ἣἪἫἲἳἺἻὂὃὊὋὒὓὛὢὣὪὫ῍῝"⟩,
  ⟨769, "ACEGIKLMNOPRSUWYZacegiklmnoprsuw",
    "ÁĆÉǴÍḰĹḾŃÓṔŔŚÚẂÝŹáćéǵíḱĺḿńóṕŕśúẃ"⟩,
  ⟨769, "yz¨ÂÅÆÇÊÏÔÕØÜâåæçêïôõøüĂăĒēŌōŨũƠ",
    "ýź΅ẤǺǼḈẾḮỐṌǾǗấǻǽḉếḯốṍǿǘẮắḖḗṒṓṸṹỚ"⟩,
  ⟨769, "ơƯưΑΕΗΙΟΥΩαεηιουωϊϋϒГКгкἀἁἈἉἐἑἘἙ",
    "ớỨứΆΈΉΊΌΎΏάέήίόύώΐΰϓЃЌѓќἄἅἌἍἔἕἜἝ"⟩,
  ⟨769, "ἠἡἨἩἰἱἸἹὀὁὈὉὐὑὙὠὡὨὩ᾿῾",
    "ἤἥἬἭἴἵἼἽὄὅὌὍὔὕὝὤὥὬὭ῎῞"⟩,
  ⟨770, "ACEGHIJOSUWYZaceghijosuwyzẠạẸẹỌọ",
    "ÂĈÊĜĤÎĴÔŜÛŴŶẐâĉêĝĥîĵôŝûŵŷẑẬậỆệỘộ"⟩,
  ⟨771, "AEINOUVYaeinouvyÂÊÔâêôĂăƠơƯư",
    "ÃẼĨÑÕŨṼỸãẽĩñõũṽỹẪỄỖẫễỗẴẵỠỡỮữ"⟩,
  ⟨772, "AEGIOUYaegiouyÄÆÕÖÜäæõöüǪǫȦȧȮȯΑΙ",
    "ĀĒḠĪŌŪȲāēḡīōūȳǞǢȬȪǕǟǣȭȫǖǬǭǠǡȰȱᾹῙ"⟩,
  ⟨772, "ΥαιυИУиуḶḷṚṛ",
    "ῩᾱῑῡӢӮӣӯḸḹṜṝ"⟩,
  ⟨774, "AEGIOUaegiouȨȩΑΙΥαιυАЕЖИУаежиуẠạ",
    "ĂĔĞĬŎŬăĕğĭŏŭḜḝᾸῘῨᾰῐῠӐӖӁЙЎӑӗӂйўẶặ"⟩,
  ⟨775, "ABCDEFGHIMNOPRSTWXYZabcdefghmnop",
    "ȦḂĊḊĖḞĠḢİṀṄȮṖṘṠṪẆẊẎŻȧḃċḋėḟġḣṁṅȯṗ"⟩,
  ⟨775, "rstwxyzŚśŠšſṢṣ",
    "ṙṡṫẇẋẏżṤṥṦṧẛṨṩ"⟩,
  ⟨776, "AEHIOUWXYaehiotuwxyÕõŪūΙΥιυϒІАЕЖ",
    "ÄËḦÏÖÜẄẌŸäëḧïöẗüẅẍÿṎṏṺṻΪΫϊϋϔЇӒЁӜ"⟩,
  ⟨776, "ЗИОУЧЫЭаежзиоучыэіӘәӨө",
    "ӞӤӦӰӴӸӬӓёӝӟӥӧӱӵӹӭїӚӛӪӫ"⟩,
  ⟨777, "AEIOUYaeiouyÂÊÔâêôĂăƠơƯư",
    "ẢẺỈỎỦỶảẻỉỏủỷẨỂỔẩểổẲẳỞởỬử"⟩,
  ⟨778, "AUauwy",
    "ÅŮåůẘẙ"⟩,
  ⟨779, "OUouУу",
    "ŐŰőűӲӳ"⟩,
  ⟨780, "ACDEGHIKLNORSTUZacdeghijklnorstu",
    "ǍČĎĚǦȞǏǨĽŇǑŘŠŤǓŽǎčďěǧȟǐǰǩľňǒřšťǔ"⟩,
  ⟨780, "zÜüƷʒ",
    "žǙǚǮǯ"⟩,
  ⟨783, "AEIORUaeioruѴѵ",
    "ȀȄȈȌȐȔȁȅȉȍȑȕѶѷ"⟩,
  ⟨785, "AEIORUaeioru",
    "ȂȆȊȎȒȖȃȇȋȏȓȗ"⟩,
  ⟨787, "ΑΕΗΙΟΩαεηιορυω",
    "ἈἘἨἸὈὨἀἐἠἰὀῤὐὠ"⟩,
  ⟨788, "ΑΕΗΙΟΡΥΩαεηιορυω",
    "ἉἙἩἹὉῬὙὩἁἑἡἱὁῥὑὡ"⟩,
  ⟨795, "OUou",
    "ƠƯơư"⟩,
  ⟨803, "ABDEHIKLMNORSTUVWYZabdehiklmnors",
    "ẠḄḌẸḤỊḲḶṂṆỌṚṢṬỤṾẈỴẒạḅḍẹḥịḳḷṃṇọṛṣ"⟩,
  ⟨803, "tuvwyzƠơƯư",
    "ṭụṿẉỵẓỢợỰự"⟩,
  ⟨804, "Uu",
    "Ṳṳ"⟩,
  ⟨805, "Aa",
    "Ḁḁ"⟩,
  ⟨806, "STst",
    "ȘȚșț"⟩,
  ⟨807, "CDEGHKLNRSTcdeghklnrst",
    "ÇḐȨĢḨĶĻŅŖŞŢçḑȩģḩķļņŗşţ"⟩,
  ⟨808, "AEIOUaeiou",
    "ĄĘĮǪŲąęįǫų"⟩,
  ⟨813, "DELNTUdelntu",
    "ḒḘḼṊṰṶḓḙḽṋṱṷ"⟩,
  ⟨814, "Hh",
    "Ḫḫ"⟩,
  ⟨816, "EIUeiu",
    "ḚḬṴḛḭṵ"⟩,
  ⟨817, "BDKLNRTZbdhklnrtz",
    "ḆḎḴḺṈṞṮẔḇḏẖḵḻṉṟṯẕ"⟩,
  ⟨824, "<=>←→↔⇐⇒⇔∃∈∋∣∥∼≃≅≈≍≡≤≥≲≳≶≷≺≻≼≽⊂⊃",
    "≮≠≯↚↛↮⇍⇏⇎∄∉∌∤∦≁≄≇≉≭≢≰≱≴≵≸≹⊀⊁⋠⋡⊄⊅"⟩,
  ⟨824, "⊆⊇⊑⊒⊢⊨⊩⊫⊲⊳⊴⊵",
    "⊈⊉⋢⋣⊬⊭⊮⊯⋪⋫⋬⋭"⟩,
  ⟨834, "¨αηιυωϊϋἀἁἈἉἠἡἨἩἰἱἸἹὐὑὙὠὡὨὩ᾿῾",
    "῁ᾶῆῖῦῶῗῧἆἇἎἏἦἧἮἯἶἷἾἿὖὗὟὦὧὮὯ῏῟"⟩,
  ⟨837, "ΑΗΩάήαηωώἀἁἂἃἄἅἆἇἈἉἊἋἌἍἎἏἠἡἢἣἤἥἦ",
    "ᾼῌῼᾴῄᾳῃῳῴᾀᾁᾂᾃᾄᾅᾆᾇᾈᾉᾊᾋᾌᾍᾎᾏᾐᾑᾒᾓᾔᾕᾖ"⟩,
  ⟨837, "ἧἨἩἪἫἬἭἮἯὠὡὢὣὤὥὦὧὨὩὪὫὬὭὮὯὰὴὼᾶῆῶ",
    "ᾗᾘᾙᾚᾛᾜᾝᾞᾟᾠᾡᾢᾣᾤᾥᾦᾧᾨᾩᾪᾫᾬᾭᾮᾯᾲῂῲᾷῇῷ"⟩,
  ⟨2364, "नरळ",
    "ऩऱऴ"⟩,
  ⟨3031, "ஒ",
    "ஔ"⟩,
  ⟨4142, "ဥ",
    "ဦ"⟩,
  ⟨6965, "ᬅᬇᬉᬋᬍᬑ",
    "ᬆᬈᬊᬌᬎᬒ"⟩,
  ⟨12441, "うかきくけこさしすせそたちつてとはひふへほゝウカキクケコサシスセ",
    "ゔがぎぐげござじずぜぞだぢづでどばびぶべぼゞヴガギグゲゴザジズゼ"⟩,
  ⟨12441, "ソタチツテトハヒフヘホワヰヱヲヽ",
    "ゾダヂヅデドバビブベボヷヸヹヺヾ"⟩,
  ⟨12442, "はひふへほハヒフヘホ",
    "ぱぴぷぺぽパピプペポ"⟩
]

/-- The joinings of all other characters: a mark, what it joins with, and the character that is
both. -/
def otherJoinings : List (Nat × Nat × Nat) := [
  (1619, 1575, 1570), (1620, 1575, 1571), (1620, 1608, 1572), (1620, 1610, 1574),
  (1620, 1729, 1730), (1620, 1746, 1747), (1620, 1749, 1728), (1621, 1575, 1573),
  (2494, 2503, 2507), (2519, 2503, 2508), (2878, 2887, 2891), (2902, 2887, 2888),
  (2903, 2887, 2892), (3006, 3014, 3018), (3006, 3015, 3019), (3031, 3014, 3020),
  (3158, 3142, 3144), (3266, 3270, 3274), (3285, 3263, 3264), (3285, 3270, 3271),
  (3285, 3274, 3275), (3286, 3270, 3272), (3390, 3398, 3402), (3390, 3399, 3403),
  (3415, 3398, 3404), (3530, 3545, 3546), (3530, 3548, 3549), (3535, 3545, 3548),
  (3551, 3545, 3550), (6965, 6970, 6971), (6965, 6972, 6973), (6965, 6974, 6976),
  (6965, 6975, 6977), (6965, 6978, 6979), (69818, 69785, 69786), (69818, 69787, 69788),
  (69818, 69797, 69803), (69927, 69937, 69934), (69927, 69938, 69935), (70462, 70471, 70475),
  (70487, 70471, 70476), (70832, 70841, 70844), (70842, 70841, 70843), (70845, 70841, 70846),
  (71087, 71096, 71098), (71087, 71097, 71099), (71984, 71989, 71992)
]

/-- Inclusive ranges of code points with the characters that are writings of other ones, in
ascending order; the other code points in them are unassigned. -/
def replacedRanges : List (Nat × Nat) := [
  (832, 833), (835, 836), (884, 884), (894, 894), (903, 903), (2392, 2399), (2524, 2527),
  (2611, 2611), (2614, 2614), (2649, 2651), (2654, 2654), (2908, 2909), (3907, 3907), (3917, 3917),
  (3922, 3922), (3927, 3927), (3932, 3932), (3945, 3945), (3955, 3955), (3957, 3958), (3960, 3960),
  (3969, 3969), (3987, 3987), (3997, 3997), (4002, 4002), (4007, 4007), (4012, 4012), (4025, 4025),
  (8049, 8049), (8051, 8051), (8053, 8053), (8055, 8055), (8057, 8057), (8059, 8059), (8061, 8061),
  (8123, 8123), (8126, 8126), (8137, 8137), (8139, 8139), (8147, 8147), (8155, 8155), (8163, 8163),
  (8171, 8171), (8174, 8175), (8185, 8185), (8187, 8187), (8189, 8189), (8192, 8193), (8486, 8486),
  (8490, 8491), (9001, 9002), (10972, 10972), (63744, 64013), (64016, 64016), (64018, 64018),
  (64021, 64030), (64032, 64032), (64034, 64034), (64037, 64038), (64042, 64217), (64285, 64285),
  (64287, 64287), (64298, 64334), (119134, 119140), (119227, 119232), (194560, 195101)
]

/-! ## Syllables

The syllables of one script are numbered by their two or three parts. -/

def firstSyllable : Nat := 0xAC00

def firstLead : Nat := 0x1100

def firstVowel : Nat := 0x1161

/-- The place before the tails. -/
def noTail : Nat := 0x11A7

def leadCount : Nat := 19

def vowelCount : Nat := 21

/-- The number of tails; to have none counts as one. -/
def tailCount : Nat := 28

def syllableParts? (code : Nat) : Option (List Nat) :=
  let number := code - firstSyllable
  if code < firstSyllable || leadCount * vowelCount * tailCount ≤ number then none
  else
    let tail := number % tailCount
    some ([firstLead + number / tailCount / vowelCount,
      firstVowel + number / tailCount % vowelCount] ++ if tail == 0 then [] else [noTail + tail])

/-- The syllable of two parts, the first of which may be a syllable itself. -/
def syllable? (first second : Nat) : Option Nat :=
  if firstLead ≤ first && first < firstLead + leadCount &&
      firstVowel ≤ second && second < firstVowel + vowelCount then
    some (firstSyllable +
      ((first - firstLead) * vowelCount + (second - firstVowel)) * tailCount)
  else if (syllableParts? first).any (·.length == 2) &&
      noTail < second && second < noTail + tailCount then
    some (first + (second - noTail))
  else none

/-! ## Taking apart -/

def taken? (code : Nat) : Option (Nat × Nat) :=
  let usual? := joinings.findSome? fun joining =>
    ((joining.joined.toList.zip joining.letters.toList).lookup (Char.ofNat code)).map fun letter =>
      (letter.toNat, joining.mark)
  usual?.or ((otherJoinings.find? (·.2.2 == code)).map fun (mark, first, _) => (first, mark))

/-- The most marks that are joined in a character. -/
def mostJoined : Nat := 4

/-- The parts of a character, with so many marks at most. -/
def takenApart : Nat → Nat → List Nat
  | 0, code => [code]
  | marks + 1, code =>
    match syllableParts? code with
    | some parts => parts
    | none =>
      match taken? code with
      | some (first, mark) => takenApart marks first ++ [mark]
      | none => [code]

/-! ## Sorting and joining -/

/-- Puts a mark before the marks of higher classes, from the right. -/
def insertMark (kind code : Nat) : List Nat → List Nat
  | [] => [code]
  | last :: before =>
    if kind < markClass last then last :: insertMark kind code before else code :: last :: before

/-- Code points with the marks after each character sorted by their classes. -/
def sorted (codes : List Nat) : List Nat :=
  (codes.foldl (fun reversed code =>
    let kind := markClass code
    if kind == 0 then code :: reversed else insertMark kind code reversed) []).reverse

def joined? (first mark : Nat) : Option Nat :=
  let usual? := joinings.findSome? fun joining =>
    if joining.mark == mark then
      ((joining.letters.toList.zip joining.joined.toList).lookup (Char.ofNat first)).map Char.toNat
    else none
  let other? := (otherJoinings.find? fun (second, letter, _) => second == mark && letter == first)
  usual?.or ((other?.map (·.2.2)).or (syllable? first mark))

/-- Joins marks to the character before them. The marks that could not be joined come last first,
and the last class is that of the newest of them, or zero without any. -/
def joinedTo (letter : Nat) (marks : List Nat) (lastClass : Nat) : List Nat → List Nat
  | [] => letter :: marks.reverse
  | code :: rest =>
    let kind := markClass code
    match if marks.isEmpty || lastClass < kind then joined? letter code else none with
    | some both => joinedTo both marks lastClass rest
    | none =>
      if kind == 0 then letter :: marks.reverse ++ joinedTo code [] 0 rest
      else joinedTo letter (code :: marks) kind rest

/-- Sorted code points with all marks joined that can be; marks before the first character stay. -/
def joinedAll (codes : List Nat) : List Nat :=
  let leading := codes.takeWhile (markClass · != 0)
  match codes.drop leading.length with
  | [] => leading
  | letter :: rest => leading ++ joinedTo letter [] 0 rest

/-- Whether a text is in the composed form. -/
def isComposed (codes : List Nat) : Bool :=
  codes.all (!isWithin · replacedRanges) &&
    joinedAll (sorted (codes.flatMap (takenApart mostJoined))) == codes

end ProfilePolicy.Text
