import DraftSchema.Calendar.Text
import DraftSchema.Toml

/-!
# `DraftSchema.Toml.Scalar`: numbers, truth values and moments

A scalar is a word of letters, digits and a few marks. Digits may be parted by
single underscores. `Scalar.parse?` tells what a word stands for.
-/

set_option autoImplicit false

namespace DraftSchema.Toml.Scalar

/-- The characters of words. -/
def isWordChar (c : Char) : Bool :=
  c.isAlphanum || c = '_' || c = '-' || c = '+' || c = '.' || c = ':'

/-- The digits of a run that may be parted by single underscores. -/
def digits? (isDigit : Char → Bool) : List Char → Option (List Char)
  | [] => none
  | [c] => if isDigit c then some [c] else none
  | c :: '_' :: rest => if isDigit c then (digits? isDigit rest).map (c :: ·) else none
  | c :: d :: rest => if isDigit c then (digits? isDigit (d :: rest)).map (c :: ·) else none

/-- The number that digits of a base spell. -/
def inBase? (base : Nat) (cs : List Char) : Option Nat := do
  let isDigit (c : Char) : Bool := (Json.hexValue? c).any (· < base)
  let ds ← digits? isDigit cs
  return ds.foldl (fun n c => n * base + (Json.hexValue? c).getD 0) 0

/-- The number that decimal digits without a needless zero spell. -/
def decimal? (cs : List Char) : Option Nat :=
  match cs with
  | '0' :: _ :: _ => none
  | _ => inBase? 10 cs

/-- The sign of a word, true for minus, and what follows it. -/
def cutSign : List Char → Bool × List Char
  | '-' :: rest => (true, rest)
  | '+' :: rest => (false, rest)
  | cs => (false, cs)

/-- Integers fit into 128 bits. -/
def integerInRange (n : Int) : Bool := -Int.pow 2 127 ≤ n && n < Int.pow 2 128

/-- The integer that a word spells. -/
def integer? (cs : List Char) : Option Int := do
  let n ← match cs with
    | '0' :: 'x' :: rest => (inBase? 16 rest).map Int.ofNat
    | '0' :: 'o' :: rest => (inBase? 8 rest).map Int.ofNat
    | '0' :: 'b' :: rest => (inBase? 2 rest).map Int.ofNat
    | _ =>
      let (negative, cs) := cutSign cs
      (decimal? cs).map fun n => if negative then -(n : Int) else n
  if integerInRange n then some n else none

/-- The word is an exponent: a sign and digits. -/
def isExponent (cs : List Char) : Bool := (inBase? 10 (cutSign cs).2).isSome

/-- The word is a number with a fraction or an exponent, infinity, or no
number. -/
def isFloat (cs : List Char) : Bool :=
  let cs := (cutSign cs).2
  let isMark (c : Char) : Bool := c = 'e' || c = 'E'
  let base := cs.takeWhile (!isMark ·)
  let exponent := cs.dropWhile (!isMark ·)
  let whole := base.takeWhile (· ≠ '.')
  let fraction := base.dropWhile (· ≠ '.')
  cs = ['i', 'n', 'f'] || cs = ['n', 'a', 'n']
    || ((decimal? whole).isSome
        && (fraction.isEmpty || (inBase? 10 (fraction.drop 1)).isSome)
        && (exponent.isEmpty || isExponent (exponent.drop 1))
        && !(fraction.isEmpty && exponent.isEmpty))

/-! ### Moments -/

/-- Takes a date at full width. -/
def date : Scanner Calendar.Date := do
  let year ← Calendar.number 4 4
  Calendar.mark '-'
  let month ← Calendar.number 2 2
  Calendar.mark '-'
  let day ← Calendar.number 2 2
  return ⟨year, month, day⟩

/-- Takes a time of day at full width; the seconds may be left out. -/
def time : Scanner Calendar.Time := do
  let hour ← Calendar.number 2 2
  Calendar.mark ':'
  let minute ← Calendar.number 2 2
  match ← Scanner.peek with
  | some ':' =>
    Scanner.skip 1
    let second ← Calendar.number 2 2
    Calendar.optionalFraction
    return ⟨hour, minute, second⟩
  | _ => return ⟨hour, minute, 0⟩

/-- Takes an offset, if there is one. -/
def optionalOffset : Scanner Unit := do
  match ← Scanner.peek with
  | none => pure ()
  | some c =>
    Scanner.skip 1
    if c = 'Z' || c = 'z' then pure ()
    else
      Scanner.guard (c = '+' || c = '-')
      let hours ← Calendar.number 2 2
      Calendar.mark ':'
      let minutes ← Calendar.number 2 2
      Scanner.guard (hours < 24 && minutes < 60)

/-- Takes a time of day that exists. -/
def validTime : Scanner Unit := do Scanner.guard (← time).isValid

/-- Takes a date, with a time and an offset if they follow, or a time. -/
def moment : Scanner Unit := do
  if (← Scanner.lookAhead).drop 2 |>.head? |>.any (· = ':') then validTime
  else
    Scanner.guard (← date).isValid
    match ← Scanner.peek with
    | none => pure ()
    | some c =>
      Scanner.skip 1
      Scanner.guard (c = 'T' || c = 't' || c = ' ')
      validTime
      optionalOffset

/-- What a word stands for. -/
def parse? (cs : List Char) : Option Value :=
  if cs = ['t', 'r', 'u', 'e'] then some (.boolean true)
  else if cs = ['f', 'a', 'l', 's', 'e'] then some (.boolean false)
  else
    match integer? cs with
    | some n => some (.integer n)
    | none =>
      if isFloat cs then some .float
      else if (Scanner.run? moment cs).isSome then some .datetime
      else none

end DraftSchema.Toml.Scalar
