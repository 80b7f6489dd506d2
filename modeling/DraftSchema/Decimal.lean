import DraftSchema.Json.Number

/-!
# `DraftSchema.Decimal`: exact decimal numbers

A decimal is an integer mantissa and a scale, the number of digits behind the
point, which may be negative. Its value is `mantissa * 10 ^ (-scale)`. Two
decimals are compared by value, exactly, whatever their scales: the places of
the leading digits decide first, so that only decimals of the same magnitude
are ever aligned.
-/

set_option autoImplicit false

namespace DraftSchema

/-- The decimal number `mantissa * 10 ^ (-scale)`. -/
structure Decimal where
  mantissa : Int
  scale : Int
deriving DecidableEq, Repr

namespace Decimal

/-- The scales that a decimal may have: those of a signed 64-bit word. -/
def scaleInRange (scale : Int) : Bool := -Int.pow 2 63 ≤ scale && scale < Int.pow 2 63

/-- The decimal with a mantissa and a scale, if the scale is in range. -/
def ofParts? (mantissa scale : Int) : Option Decimal :=
  if scaleInRange scale then some ⟨mantissa, scale⟩ else none

/-- The place of the leading digit of a magnitude, counted from the point: the
magnitude is below `10 ^ place` and, unless it is zero, at least a tenth of it. -/
def place (magnitude : Nat) (scale : Int) : Int :=
  (Digit.ofNat magnitude).length - scale

/-- Compares two magnitudes on the finer of their two scales. -/
def compareAligned (m n : Nat) (s t : Int) : Ordering :=
  if s ≤ t then compare (m * Nat.pow 10 (t - s).toNat) n
  else compare m (n * Nat.pow 10 (s - t).toNat)

/-- Compares two magnitudes that are not zero. -/
def comparePositive (m n : Nat) (s t : Int) : Ordering :=
  match compare (place m s) (place n t) with
  | .eq => compareAligned m n s t
  | o => o

/-- Compares two decimals by value. -/
def compare (a b : Decimal) : Ordering :=
  match Ord.compare a.mantissa.sign b.mantissa.sign with
  | .eq =>
    if a.mantissa = 0 then .eq
    else if 0 < a.mantissa then
      comparePositive a.mantissa.natAbs b.mantissa.natAbs a.scale b.scale
    else comparePositive b.mantissa.natAbs a.mantissa.natAbs b.scale a.scale
  | o => o

/-- The first decimal is the smaller one. -/
def lt (a b : Decimal) : Bool := compare a b == .lt

/-- The first decimal is the smaller one, or both have the same value. -/
def le (a b : Decimal) : Bool := compare a b != .gt

/-- Two decimals have the same value. -/
def sameValue (a b : Decimal) : Bool := compare a b == .eq

/-- The decimal that a number literal spells, unless its scale is out of
range. -/
def ofNumber? (n : Json.Number) : Option Decimal :=
  let magnitude : Int := Digit.value (n.whole ++ n.fraction)
  let exponent : Int := (n.exponent.map Json.Exponent.value).getD 0
  ofParts? (if n.negative then -magnitude else magnitude) (n.fraction.length - exponent)

end Decimal
end DraftSchema
