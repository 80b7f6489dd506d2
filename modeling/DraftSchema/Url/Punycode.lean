import DraftSchema.Json.Token

/-!
# `DraftSchema.Url.Punycode`: text in the letters, digits and hyphen of ASCII

The characters of ASCII come first, with a hyphen behind them if there are any.
The others follow in the order of their code points. Each is told by a number:
how many steps further a pass over all places and all code points has to go to
reach it. A number is written in digits of base thirty-six, the last one below a
threshold that depends on the numbers before.
-/

set_option autoImplicit false

namespace DraftSchema.Url.Punycode

/-! ### Digits -/

/-- The digit of a value below thirty-six: a letter, then a decimal digit. -/
def digit (n : Nat) : Char := Char.ofNat (if n < 26 then 97 + n else 22 + n)

/-- The value of a digit. -/
def digitValue? (c : Char) : Option Nat :=
  if c.isLower then some (c.toNat - 97)
  else if c.isUpper then some (c.toNat - 65)
  else if c.isDigit then some (c.toNat - 22)
  else none

/-- The threshold at a place: a digit below it ends the number. -/
def threshold (bias place : Nat) : Nat := min 26 (max 1 (place - bias))

theorem threshold_pos (bias place : Nat) : 0 < threshold bias place := by
  unfold threshold; omega

/-- The distance between two places. -/
def placeWidth : Nat := 36

/-- Scales a step down until it is small; each round moves the bias by one
place. -/
def scaled (bias step : Nat) : Nat :=
  if 455 < step then scaled (bias + placeWidth) (step / 35)
  else bias + placeWidth * step / (step + 38)
termination_by step
decreasing_by exact Nat.div_lt_self (by omega) (by omega)

/-- The bias behind the number `step`, when `count` characters are written. -/
def nextBias (isFirst : Bool) (step count : Nat) : Nat :=
  let damped := if isFirst then step / 700 else step / 2
  scaled 0 (damped + damped / count)

/-- The digits of a number, from a place on. -/
def digits (bias place n : Nat) : List Char :=
  let t := threshold bias place
  if n < t then [digit n]
  else digit (t + (n - t) % (36 - t)) :: digits bias (place + placeWidth) ((n - t) / (36 - t))
termination_by n
decreasing_by
  have := threshold_pos bias place
  calc (n - threshold bias place) / (36 - threshold bias place)
      ≤ n - threshold bias place := Nat.div_le_self _ _
    _ < n := by omega

/-- Reads the digits of a number, whose places weigh `weight` from here on, and
adds it to `sum`. -/
def readDigits? (bias place weight sum : Nat) : List Char → Option (Nat × List Char)
  | [] => none
  | c :: rest => do
    let d ← digitValue? c
    let t := threshold bias place
    if d < t then return (sum + d * weight, rest)
    else readDigits? bias (place + placeWidth) (weight * (36 - t)) (sum + d * weight) rest

/-- A number takes at least one digit. -/
theorem length_of_readDigits? {bias place weight sum n : Nat} {cs rest : List Char}
    (h : readDigits? bias place weight sum cs = some (n, rest)) : rest.length < cs.length := by
  induction cs generalizing place weight sum with
  | nil => simp [readDigits?] at h
  | cons c cs ih =>
    simp only [readDigits?, Option.bind_eq_bind, Option.bind_eq_some_iff] at h
    obtain ⟨d, -, h⟩ := h
    split at h
    · cases h; simp
    · have := ih h; simp; omega

/-! ### Writing -/

/-- The bias at the start. -/
def firstBias : Nat := 72

/-- Where a writer is: the steps since the last number, the bias, and the number
of characters written. -/
structure Position where
  steps : Nat
  bias : Nat
  written : Nat

/-- The position behind the number of the steps made. The first number is the one
behind the `basic` characters of ASCII. -/
def Position.advance (basic : Nat) (p : Position) : Position :=
  ⟨0, nextBias (p.written == basic) p.steps (p.written + 1), p.written + 1⟩

/-- Passes over a text to tell where one code point stands in it. A place counts
as a step if the character there is written already. -/
def pass (basic point : Nat) (p : Position) : List Char → List Char × Position
  | [] => ([], p)
  | c :: rest =>
    if c.toNat < point then pass basic point { p with steps := p.steps + 1 } rest
    else if c.toNat = point then
      let (out, q) := pass basic point (p.advance basic) rest
      (digits p.bias placeWidth p.steps ++ out, q)
    else pass basic point p rest

/-- Passes over a text for each of the code points, which ascend. The steps to the
next one are those of a pass over the written characters for each code point in
between. -/
def passes (basic : Nat) (cs : List Char) (p : Position) (start : Nat) : List Nat → List Char
  | [] => []
  | point :: points =>
    let reached := { p with steps := p.steps + (point - start) * (p.written + 1) }
    let (out, q) := pass basic point reached cs
    out ++ passes basic cs { q with steps := q.steps + 1 } (point + 1) points

/-- Leaves out the numbers that follow an equal one. -/
def withoutRepeats : List Nat → List Nat
  | a :: b :: rest => if a = b then withoutRepeats (b :: rest) else a :: withoutRepeats (b :: rest)
  | l => l

/-- A character of ASCII. -/
def isBasic (c : Char) : Bool := c.toNat < 128

/-- The written form of a text. -/
def encode (cs : List Char) : List Char :=
  let basic := cs.filter isBasic
  let points := ((cs.filter (!isBasic ·)).map Char.toNat).mergeSort
  let origin : Position := ⟨0, firstBias, basic.length⟩
  basic ++ (if basic.isEmpty then [] else ['-'])
    ++ passes basic.length cs origin 128 (withoutRepeats points)

/-! ### Reading -/

/-- Reads the numbers behind the characters of ASCII, and puts each character in
its place among those that are known. -/
def insertAll? (bias point place : Nat) (known : List Char) (cs : List Char) :
    Option (List Char) :=
  match cs with
  | [] => some known
  | c :: rest =>
    match _h : readDigits? bias placeWidth 1 place (c :: rest) with
    | none => none
    | some (n, behind) =>
      -- The steps so far are whole passes over all places, and a place.
      let count := known.length + 1
      let point := point + n / count
      if point < 0xD800 ∨ (0xDFFF < point ∧ point < 0x110000) then
        insertAll? (nextBias (place == 0) (n - place) count) point (n % count + 1)
          (known.insertIdx (n % count) (Char.ofNat point)) behind
      else none
termination_by cs.length
decreasing_by exact length_of_readDigits? _h

/-- The characters of ASCII in front of the last hyphen, and the numbers behind
it. A hyphen that comes first parts nothing. -/
def parts (cs : List Char) : List Char × List Char :=
  let behind := (cs.reverse.takeWhile (· ≠ '-')).reverse
  let front := cs.take (cs.length - behind.length - 1)
  if front.isEmpty then ([], cs) else (front, behind)

/-- The text of a written form. -/
def decode? (cs : List Char) : Option (List Char) :=
  let (basic, numbers) := parts cs
  if basic.all isBasic then insertAll? firstBias 128 0 basic numbers else none

end DraftSchema.Url.Punycode
