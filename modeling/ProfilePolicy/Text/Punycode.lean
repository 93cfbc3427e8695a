/-!
# Texts in plain letters

A text of any characters written with letters, digits and hyphens. Its ASCII characters come first,
then a hyphen, and then the others as a list of steps: going round and round through the places of
the text, with the next code point in each round, a step is the number of places up to the next
character. The digits of a step come lowest first. How many values a digit can have depends on its
place and on a bias, which follows the size of the steps before. Texts are lists of code points
here.
-/

namespace ProfilePolicy.Text.Punycode

def base : Nat := 36

def firstBias : Nat := 72

/-- The first code point that is not written as itself. -/
def firstCode : Nat := 0x80

def lastCode : Nat := 0x10FFFF

/-- The least digit that goes on, where a step has so many digits before. -/
def threshold (digits bias : Nat) : Nat :=
  max 1 (min 26 (base * (digits + 1) - bias))

theorem threshold_pos (digits bias : Nat) : 0 < threshold digits bias := by
  unfold threshold
  omega

theorem threshold_lt (digits bias : Nat) : threshold digits bias < base := by
  unfold threshold base
  omega

/-- The bias after a step, which is large when the digits of that step were. -/
def spread (bias step : Nat) : Nat :=
  if h : 455 < step then spread (bias + base) (step / 35)
  else bias + base * step / (step + 38)
termination_by step
decreasing_by omega

/-- The bias after a step that made a text so long; the first step is unusually large. -/
def nextBias (step length : Nat) ( isFirst : Bool) : Nat :=
  let step := if isFirst then step / 700 else step / 2
  spread 0 (step + step / length)

/-! ## Writing -/

def digitChar (digit : Nat) : Char :=
  Char.ofNat (if digit < 26 then 97 + digit else 22 + digit)

def writeStep (bias digits step : Nat) : List Char :=
  let least := threshold digits bias
  if _h : step < least then [digitChar step]
  else
    digitChar (least + (step - least) % (base - least)) ::
      writeStep bias (digits + 1) ((step - least) / (base - least))
termination_by step
decreasing_by
  have hPos : 0 < threshold digits bias := threshold_pos digits bias
  have hLe : (step - threshold digits bias) / (base - threshold digits bias) ≤
      step - threshold digits bias := Nat.div_le_self _ _
  omega

/-- What has been written when the places before one with some code point are done. -/
structure Progress where
  /-- The steps in reverse. -/
  steps : List (List Char) := []
  step : Nat := 0
  bias : Nat := firstBias
  /-- The number of characters that are written. -/
  length : Nat
  isFirst : Bool := true

def Progress.pass (round : Nat) (progress : Progress) (code : Nat) : Progress :=
  if code < round then { progress with step := progress.step + 1 }
  else if code == round then
    { steps := writeStep progress.bias 0 progress.step :: progress.steps
      step := 0
      bias := nextBias progress.step (progress.length + 1) progress.isFirst
      length := progress.length + 1
      isFirst := false }
  else progress

/-- Goes through the rounds of code points in ascending order, from one round on. -/
def writeRounds (codes : List Nat) (round : Nat) (progress : Progress) : List Nat → Progress
  | [] => progress
  | code :: rest =>
    let start :=
      { progress with step := progress.step + (code - round) * (progress.length + 1) }
    let passed := codes.foldl (Progress.pass code) start
    writeRounds codes (code + 1) { passed with step := passed.step + 1 } rest

def write (codes : List Nat) : List Char :=
  let plain := codes.filter (· < firstCode)
  let others := ((codes.filter (firstCode ≤ ·)).mergeSort (· ≤ ·)).eraseDups
  let progress := writeRounds codes firstCode { length := plain.length } others
  plain.map Char.ofNat ++ (if plain.isEmpty then [] else ['-']) ++ progress.steps.reverse.flatten

/-! ## Reading -/

def digitValue? (c : Char) : Option Nat :=
  if c.isLower then some (c.toNat - 97)
  else if c.isUpper then some (c.toNat - 65)
  else if c.isDigit then some (c.toNat - 22)
  else none

/-- Reads the rest of a step, with the value of its digits so far and the weight of the next one. -/
def readStep (bias digits weight value : Nat) : List Char → Option (Nat × List Char)
  | [] => none
  | c :: rest =>
    match digitValue? c with
    | none => none
    | some digit =>
      let least := threshold digits bias
      let value := value + digit * weight
      if digit < least then some (value, rest)
      else readStep bias (digits + 1) (weight * (base - least)) value rest

theorem readStep_length {bias digits weight value step : Nat} {cs rest : List Char}
    (h : readStep bias digits weight value cs = some (step, rest)) : rest.length < cs.length := by
  induction cs generalizing digits weight value with
  | nil => simp [readStep] at h
  | cons c cs ih =>
    simp only [readStep] at h
    split at h
    · simp at h
    · split at h
      · simp only [Option.some.injEq, Prod.mk.injEq] at h
        simp [h.2]
      · have hShorter := ih h
        simp only [List.length_cons]
        omega

/-- Reads steps into a text: a round begins at its first place. -/
def readSteps (codes : List Nat) (round place bias : Nat) ( isFirst : Bool) (cs : List Char) :
    Option (List Nat) :=
  if cs.isEmpty then some codes
  else
    match h : readStep bias 0 1 0 cs with
    | none => none
    | some (step, rest) =>
      let places := codes.length + 1
      let code := round + (place + step) / places
      let found := (place + step) % places
      if lastCode < code then none
      else
        readSteps (codes.take found ++ code :: codes.drop found) code (found + 1)
          (nextBias step places isFirst) false rest
termination_by cs.length
decreasing_by exact readStep_length h

def read? (cs : List Char) : Option (List Nat) :=
  let steps := (cs.reverse.takeWhile (· != '-')).reverse
  let plain := (cs.take (cs.length - steps.length)).dropLast
  readSteps (plain.map Char.toNat) firstCode 0 firstBias true steps

/-! ## Steps are read back -/

theorem digitValue?_digitChar {digit : Nat} (h : digit < base) :
    digitValue? (digitChar digit) = some digit := by
  have hAll : ∀ digit : Fin 36, digitValue? (digitChar digit) = some digit.val := by decide
  exact hAll ⟨digit, h⟩

/-- What a step that was written adds to the value read so far, whatever follows it. -/
theorem readStep_writeStep (bias digits step weight value : Nat) (rest : List Char) :
    readStep bias digits weight value (writeStep bias digits step ++ rest) =
      some (value + step * weight, rest) := by
  have hLess : threshold digits bias < base := threshold_lt digits bias
  have hPos : 0 < threshold digits bias := threshold_pos digits bias
  rw [writeStep]
  split
  · rename_i hSmall
    simp [readStep, digitValue?_digitChar (Nat.lt_trans hSmall hLess), hSmall]
  · rename_i hLarge
    have hBase : 0 < base - threshold digits bias := by omega
    have hMod := Nat.mod_lt (step - threshold digits bias) hBase
    have hDigit : threshold digits bias +
        (step - threshold digits bias) % (base - threshold digits bias) < base := by omega
    have hLe : (step - threshold digits bias) / (base - threshold digits bias) ≤
        step - threshold digits bias := Nat.div_le_self _ _
    simp only [List.cons_append, readStep, digitValue?_digitChar hDigit]
    rw [if_neg (by omega), readStep_writeStep]
    have hSum := Nat.mod_add_div (step - threshold digits bias) (base - threshold digits bias)
    generalize (step - threshold digits bias) % (base - threshold digits bias) = low at *
    generalize (step - threshold digits bias) / (base - threshold digits bias) = high at *
    have hStep : step = threshold digits bias + low + (base - threshold digits bias) * high := by
      omega
    refine congrArg (fun number => some (number, rest)) ?_
    rw [Nat.mul_comm weight, ← Nat.mul_assoc, Nat.mul_comm high]
    conv => rhs; rw [hStep]
    simp only [Nat.add_mul, Nat.add_assoc]
termination_by step

end ProfilePolicy.Text.Punycode
