import DraftSchema.Proofs.Decimal.Value
import DraftSchema.SimpleSchema
import Mathlib.Tactic.Tauto

/-!
# `DraftSchema.Proofs.Satisfaction.Ranges`: ranges of numbers

A schema of numbers may have a bound at either end of a range, and the bound itself may be
excluded. Both ends are checked alike. The theorems:

* `rangeFaults_number`: what is found about a number is found at its two ends.
* `endFault?_eq_some`: what is found at an end, by the exact values of the number and the
  bound.
* `rangeFault?_eq_some`: so for the number that a literal spells.
-/

set_option autoImplicit false

namespace DraftSchema

/-- The two ends of a range of numbers. -/
inductive RangeEnd where
  | lower
  | upper
deriving DecidableEq, Repr

namespace RangeEnd

/-- A number lies beyond a bound at an end. -/
def Beyond : RangeEnd → ℚ → ℚ → Prop
  | .lower, q, bound => q < bound
  | .upper, q, bound => bound < q

/-- What is said about a number at an end. -/
def fault : RangeEnd → Json.Number → Decimal → Bool → SimpleSchema.Fault
  | .lower => .minimum
  | .upper => .maximum

end RangeEnd

namespace SimpleSchema

/-- The bound at an end. -/
def bound (schema : SimpleSchema) : RangeEnd → Option Decimal
  | .lower => schema.minimum
  | .upper => schema.maximum

/-- A bound at an end is excluded. -/
def excludes (schema : SimpleSchema) : RangeEnd → Bool
  | .lower => schema.exclusiveMinimum
  | .upper => schema.exclusiveMaximum

/-- A number is beyond the bound at an end, or at the bound where that is excluded. -/
def Passes (schema : SimpleSchema) (e : RangeEnd) (q : ℚ) (bound : Decimal) : Prop :=
  schema.bound e = some bound ∧
    (e.Beyond q bound.value ∨ schema.excludes e = true ∧ q = bound.value)

/-- What is found about a number at an end. -/
def endFault? (schema : SimpleSchema) : RangeEnd → Json.Number → Decimal → Option Fault
  | .lower => schema.minimumFault?
  | .upper => schema.maximumFault?

/-- What is found about the number that a literal spells at an end. No literal whose scale is not
in range spells one. -/
def rangeFault? (schema : SimpleSchema) (literal : Json.Number) (e : RangeEnd) : Option Fault :=
  (Decimal.ofNumber? literal).bind (schema.endFault? e literal)

/-- The faults of a number's range are what is found at the lower end and at the upper end. -/
theorem rangeFaults_number (schema : SimpleSchema) (literal : Json.Number) :
    schema.rangeFaults (.number literal)
      = (schema.rangeFault? literal .lower).toList
        ++ (schema.rangeFault? literal .upper).toList := by
  simp only [rangeFaults, rangeFault?]
  cases Decimal.ofNumber? literal <;> rfl

variable {schema : SimpleSchema} {e : RangeEnd} {literal : Json.Number}

/-- Of two tests of a number the first one counts only where the bound is excluded, and it
says so. -/
theorem test_eq_some {exclusive atOrBeyond beyond : Bool} {f : Bool → Fault} {found : Fault}
    (h : beyond = true → atOrBeyond = true) :
    (if (exclusive && atOrBeyond) = true then some (f true)
      else if beyond = true then some (f false) else none) = some found ↔
      (beyond = true ∨ exclusive = true ∧ atOrBeyond = true) ∧ found = f exclusive := by
  cases exclusive <;> cases beyond <;> simp_all [eq_comm]

/-- What is found at an end is that the number is outside there. -/
theorem endFault?_eq_some {d : Decimal} {found : Fault} :
    schema.endFault? e literal d = some found ↔
      ∃ b, schema.Passes e d.value b ∧ found = e.fault literal b (schema.excludes e) := by
  -- A number beyond a bound is not at it, so that each test is about one of the two.
  have hsplit : ∀ {exclusive : Prop} {p q : ℚ},
      p < q ∨ exclusive ∧ p ≤ q ↔ p < q ∨ exclusive ∧ p = q := by
    intro exclusive p q
    rw [le_iff_lt_or_eq]
    tauto
  have hle : ∀ {a b : Decimal}, a.lt b = true → a.le b = true := fun h =>
    Decimal.le_iff.mpr (Decimal.lt_iff.mp h).le
  cases e with
  | lower =>
    simp only [endFault?, minimumFault?, Passes, bound, excludes, RangeEnd.fault, RangeEnd.Beyond]
    rcases schema.minimum with _ | b
    · simp
    · refine (test_eq_some (f := Fault.minimum literal b) hle).trans ?_
      simp only [Decimal.lt_iff, Decimal.le_iff, Option.some.injEq, and_assoc, exists_eq_left',
        hsplit]
  | upper =>
    simp only [endFault?, maximumFault?, Passes, bound, excludes, RangeEnd.fault, RangeEnd.Beyond]
    rcases schema.maximum with _ | b
    · simp
    · refine (test_eq_some (f := Fault.maximum literal b) hle).trans ?_
      simp only [Decimal.lt_iff, Decimal.le_iff, Option.some.injEq, and_assoc, exists_eq_left',
        hsplit, eq_comm (a := b.value)]

/-- What is found about the number that a literal spells is that it is outside, if its scale is
in range. -/
theorem rangeFault?_eq_some {found : Fault} :
    schema.rangeFault? literal e = some found ↔
      Decimal.scaleInRange literal.scale = true ∧
        ∃ b, schema.Passes e literal.value b ∧ found = e.fault literal b (schema.excludes e) := by
  rw [rangeFault?, Option.bind_eq_some_iff]
  constructor
  · intro ⟨d, hd, hfound⟩
    rw [endFault?_eq_some, Decimal.value_ofNumber? hd] at hfound
    exact ⟨Decimal.isSome_ofNumber?.mp (Option.isSome_of_eq_some hd), hfound⟩
  · intro ⟨hscale, hpasses⟩
    have ⟨d, hd⟩ := Option.isSome_iff_exists.mp (Decimal.isSome_ofNumber?.mpr hscale)
    rw [← Decimal.value_ofNumber? hd] at hpasses
    exact ⟨d, hd, endFault?_eq_some.mpr hpasses⟩

end SimpleSchema
end DraftSchema
