/-!
# `DraftSchema.Digits`: decimal digits and the numbers they spell

A `Digit` is a value below ten. Runs of digits are read off the front of a
character list with `Digit.span`, valued with `Digit.value`, and written with
`Digit.toChar`. `Digit.ofNat` spells a natural number without leading zeros.
-/

set_option autoImplicit false

namespace DraftSchema

/-- A decimal digit. -/
abbrev Digit := Fin 10

namespace Digit

/-- The digit that an ASCII character spells. -/
def ofChar? (c : Char) : Option Digit :=
  if h : '0'.toNat ≤ c.toNat ∧ c.toNat ≤ '9'.toNat then
    some ⟨c.toNat - '0'.toNat, by
      have h0 : '0'.toNat = 48 := rfl
      have h9 : '9'.toNat = 57 := rfl
      omega⟩
  else none

/-- The ASCII character of a digit. -/
def toChar (d : Digit) : Char := Char.ofNat ('0'.toNat + d.val)

/-- The longest run of digits at the front of a text, and what follows it. -/
def span : List Char → List Digit × List Char
  | [] => ([], [])
  | c :: rest =>
    match ofChar? c with
    | some d => let (ds, tail) := span rest; (d :: ds, tail)
    | none => ([], c :: rest)

/-- The number that a run of digits spells after `acc` has been read. -/
def valueFrom (acc : Nat) (ds : List Digit) : Nat :=
  ds.foldl (fun n d => n * 10 + d.val) acc

/-- The number that a run of digits spells; no digits spell zero. -/
def value (ds : List Digit) : Nat := valueFrom 0 ds

/-- The digits of `n`, most significant first, in front of `after`. -/
def ofNatBefore (n : Nat) (after : List Digit) : List Digit :=
  if h : n < 10 then ⟨n, h⟩ :: after
  else ofNatBefore (n / 10) (⟨n % 10, Nat.mod_lt n (by decide)⟩ :: after)

/-- The digits of `n`, most significant first, without leading zeros. Zero has
one digit. -/
def ofNat (n : Nat) : List Digit := ofNatBefore n []

/-- The text of a run of digits. -/
def chars (ds : List Digit) : List Char := ds.map toChar

theorem ofChar?_toChar (d : Digit) : ofChar? (toChar d) = some d := by
  revert d; decide

end Digit
end DraftSchema
