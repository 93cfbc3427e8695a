/-!
# Bytes in a YAML text

Bytes are written to the base sixty-four, four digits for three bytes. Characters that are no digits
count for nothing; equals signs fill up the last group, and what follows it is not read.
-/

namespace ProfilePolicy.Yaml

/-- The value of a digit to the base sixty-four. -/
def sixBits? (c : Char) : Option Nat :=
  if 'A' ≤ c ∧ c ≤ 'Z' then some (c.toNat - 65)
  else if 'a' ≤ c ∧ c ≤ 'z' then some (c.toNat - 71)
  else if '0' ≤ c ∧ c ≤ '9' then some (c.toNat + 4)
  else if c == '+' then some 62
  else if c == '/' then some 63
  else none

def groupBytes : List Nat → List Nat
  | [a, b] => [4 * a + b / 16]
  | [a, b, c] => [4 * a + b / 16, 16 * (b % 16) + c / 4]
  | [a, b, c, d] => [4 * a + b / 16, 16 * (b % 16) + c / 4, 64 * (c % 4) + d]
  | _ => []

/-- The bytes of a text after the digits of an unfinished group and the signs that fill it up. -/
def bytesAfter? : List Nat → Nat → List Char → Option (List Nat)
  | group, _, [] => if group.isEmpty then some [] else none
  | group, signs, c :: rest =>
    if c == '=' then
      if group.length < 2 then bytesAfter? group signs rest
      else if 4 ≤ group.length + signs + 1 then some (groupBytes group)
      else bytesAfter? group (signs + 1) rest
    else
      match sixBits? c with
      | none => bytesAfter? group signs rest
      | some digit =>
        if group.length == 3 then
          (bytesAfter? [] 0 rest).map (groupBytes (group ++ [digit]) ++ ·)
        else bytesAfter? (group ++ [digit]) 0 rest

/-- The bytes of a text, which is all ASCII. -/
def bytes? (cs : List Char) : Option (List Nat) :=
  if cs.all fun c => c.toNat < 128 then bytesAfter? [] 0 cs else none

end ProfilePolicy.Yaml
