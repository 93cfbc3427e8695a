/-!
# Blank text

A text is blank when it holds nothing but white space. White space here is the Unicode notion
together with the ASCII separators U+001C to U+001F; the zero-width space, the byte order mark and
the Mongolian vowel separator do not count.
-/

namespace ProfilePolicy.Text

/-- White space of any script. -/
def isBlankChar (c : Char) : Bool :=
  let code := c.toNat
  (decide (9 ≤ code) && decide (code ≤ 13)) || (decide (28 ≤ code) && decide (code ≤ 32)) ||
    code == 0x85 || code == 0xA0 || code == 0x1680 ||
    (decide (0x2000 ≤ code) && decide (code ≤ 0x200A)) ||
    code == 0x2028 || code == 0x2029 || code == 0x202F || code == 0x205F || code == 0x3000

/-- A text without any character but white space; the empty text is one. -/
def isBlank (s : String) : Bool :=
  s.toList.all isBlankChar

/-- The characters between the leading and the trailing ones that satisfy `drop`. -/
def trimChars (drop : Char → Bool) (cs : List Char) : List Char :=
  ((cs.dropWhile drop).reverse.dropWhile drop).reverse

def strip (s : String) : String :=
  String.ofList (trimChars isBlankChar s.toList)

end ProfilePolicy.Text
