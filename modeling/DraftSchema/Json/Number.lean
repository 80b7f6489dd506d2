import DraftSchema.Digits

/-!
# `DraftSchema.Json.Number`: number literals

A JSON number is kept as it was written: sign, whole part, fraction and
exponent, each a run of digits. Nothing is rounded, so a literal of any length
and any exponent keeps its exact value. The one thing that is not kept is the
spelling of the exponent mark: it is always written `e` with an explicit sign.
-/

set_option autoImplicit false

namespace DraftSchema.Json

/-- The exponent of a number literal. -/
structure Exponent where
  /-- The exponent carries a minus sign. -/
  negative : Bool
  digits : List Digit
deriving DecidableEq, Repr

/-- A number literal. An empty `fraction` means that no point was written. -/
structure Number where
  /-- The literal starts with a minus sign. -/
  negative : Bool
  whole : List Digit
  fraction : List Digit
  exponent : Option Exponent
deriving DecidableEq, Repr

namespace Exponent

/-- The exponent's value. -/
def value (e : Exponent) : Int :=
  if e.negative then -(Digit.value e.digits : Int) else Digit.value e.digits

/-- The exponent's text: `e`, an explicit sign, the digits as written. -/
def chars (e : Exponent) : List Char :=
  'e' :: (if e.negative then '-' else '+') :: Digit.chars e.digits

/-- Reads what follows the exponent mark, to the end. -/
def ofChars? (cs : List Char) : Option Exponent :=
  let (negative, cs) : Bool × List Char :=
    match cs with
    | '-' :: rest => (true, rest)
    | '+' :: rest => (false, rest)
    | _ => (false, cs)
  match Digit.span cs with
  | ([], _) => none
  | (ds, []) => some ⟨negative, ds⟩
  | (_, _ :: _) => none

end Exponent

namespace Number

/-- The literal of a natural number. -/
def ofNat (n : Nat) : Number := ⟨false, Digit.ofNat n, [], none⟩

/-- A literal without point and exponent is an integer. -/
def isInteger (n : Number) : Bool := n.fraction.isEmpty && n.exponent.isNone

/-- The value of a literal that spells a natural number; `-0` does not. -/
def toNat? (n : Number) : Option Nat :=
  if n.isInteger && !n.negative then some (Digit.value n.whole) else none

/-- The literal's text. -/
def chars (n : Number) : List Char :=
  (if n.negative then ['-'] else [])
    ++ Digit.chars n.whole
    ++ (if n.fraction.isEmpty then [] else '.' :: Digit.chars n.fraction)
    ++ (match n.exponent with | none => [] | some e => e.chars)

/-- The literal's text. -/
def text (n : Number) : String := String.ofList n.chars

/-- Reads the exponent of a literal whose other parts are known, to the end. -/
def withExponent? (negative : Bool) (whole fraction : List Digit) :
    List Char → Option Number
  | [] => some ⟨negative, whole, fraction, none⟩
  | c :: rest =>
    if c = 'e' ∨ c = 'E' then
      (Exponent.ofChars? rest).map fun e => ⟨negative, whole, fraction, some e⟩
    else none

/-- Reads fraction and exponent of a literal whose whole part is known. -/
def withFraction? (negative : Bool) (whole : List Digit) :
    List Char → Option Number
  | '.' :: rest =>
    match Digit.span rest with
    | ([], _) => none
    | (d :: ds, rest) => withExponent? negative whole (d :: ds) rest
  | rest => withExponent? negative whole [] rest

/-- Reads the whole part, which must not start with a needless zero. -/
def unsigned? (negative : Bool) (cs : List Char) : Option Number :=
  match Digit.span cs with
  | ([], _) => none
  | ([d], rest) => withFraction? negative [d] rest
  | (d :: d' :: ds, rest) =>
    if d = 0 then none else withFraction? negative (d :: d' :: ds) rest

/-- Reads a number literal that takes up the whole text. -/
def ofChars? : List Char → Option Number
  | '-' :: rest => unsigned? true rest
  | cs => unsigned? false cs

end Number
end DraftSchema.Json
