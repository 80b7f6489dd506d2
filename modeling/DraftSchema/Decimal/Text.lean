import DraftSchema.Decimal

/-!
# `DraftSchema.Decimal.Text`: reading and writing decimals

`Decimal.parse?` reads a sign, digits with at most one point, and an exponent.
Underscores may stand behind the first digit, and the point may come first or
last. `Decimal.text` writes a decimal positionally where that needs few zeros
and with an exponent elsewhere.
-/

set_option autoImplicit false

namespace DraftSchema.Decimal

/-- The digits of a run of digits and underscores; the first is a digit. -/
def digitRun? : List Char → Option (List Digit)
  | [] => none
  | c :: rest => do
    let d ← Digit.ofChar? c
    let ds ← (rest.filter (· ≠ '_')).mapM Digit.ofChar?
    return d :: ds

/-- The mantissa that a signed run of digits spells. A minus sign may not be
followed by a plus sign. -/
def mantissa? (cs : List Char) : Option Int :=
  match cs with
  | '-' :: '+' :: _ => none
  | '-' :: rest => (digitRun? rest).map fun ds => -(Digit.value ds : Int)
  | '+' :: rest => (digitRun? rest).map fun ds => (Digit.value ds : Int)
  | _ => (digitRun? cs).map fun ds => (Digit.value ds : Int)

/-- The value of an exponent: a sign and digits. -/
def exponent? (cs : List Char) : Option Int :=
  let digits? (cs : List Char) : Option Int :=
    if cs.isEmpty then none else (cs.mapM Digit.ofChar?).map fun ds => (Digit.value ds : Int)
  match cs with
  | '-' :: rest => (digits? rest).map (- ·)
  | '+' :: rest => digits? rest
  | _ => digits? cs

/-- Reads a decimal that takes up the whole text. -/
def parse? (text : String) : Option Decimal := do
  let cs := text.toList
  let isMark (c : Char) : Bool := c = 'e' || c = 'E'
  let base := cs.takeWhile (!isMark ·)
  let exponent ← match cs.dropWhile (!isMark ·) with
    | [] => some 0
    | _ :: rest => exponent? rest
  let lead := base.takeWhile (· ≠ '.')
  let trail := (base.dropWhile (· ≠ '.')).drop 1
  let mantissa ← mantissa? (lead ++ trail)
  ofParts? mantissa ((trail.filter (· ≠ '_')).length - exponent)

/-- The most zeros that are written in front of the first digit behind the
point. -/
def leadingZeroLimit : Nat := 5

/-- The most zeros that are written behind an integer. -/
def trailingZeroLimit : Nat := 15

/-- Puts a point in front of the last `n` digits, with a zero in front of the
point where no digit is left. -/
def withPoint (digits : List Char) (n : Nat) : List Char :=
  let padded := List.replicate (n + 1 - digits.length) '0' ++ digits
  padded.take (padded.length - n) ++ '.' :: padded.drop (padded.length - n)

/-- The text of a magnitude. -/
def magnitudeChars (magnitude : Nat) (scale : Int) : List Char :=
  let digits := Digit.chars (Digit.ofNat magnitude)
  if magnitude = 0 then ['0']
  else if 0 < scale then
    -- Too many zeros would come behind the point: one digit in front of it, and an exponent.
    if scale - digits.length > leadingZeroLimit then
      let exponent := Digit.chars (Digit.ofNat (scale - (digits.length - 1)).toNat)
      match digits with
      | d :: rest => (if rest.isEmpty then [d] else d :: '.' :: rest) ++ 'E' :: '-' :: exponent
      | [] => []
    else withPoint digits scale.toNat
  else if -scale ≤ trailingZeroLimit then digits ++ List.replicate (-scale).toNat '0'
  else digits ++ 'e' :: '+' :: Digit.chars (Digit.ofNat (-scale).toNat)

/-- The text of a decimal. -/
def text (d : Decimal) : String :=
  String.ofList ((if d.mantissa < 0 then ['-'] else []) ++ magnitudeChars d.mantissa.natAbs d.scale)

end DraftSchema.Decimal
