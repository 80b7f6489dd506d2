import DraftSchema.Decimal
import Mathlib.Algebra.Order.Field.Power
import Mathlib.Data.Nat.Log
import Mathlib.Data.Rat.Cast.Order
import Mathlib.Tactic.Positivity
import Mathlib.Tactic.Ring
import Mathlib.Tactic.FieldSimp

/-!
# `DraftSchema.Proofs.Decimal.Value`: the numbers that decimals are

A decimal and a literal each stand for a rational number. Decimals are compared without
these numbers, by the places of their leading digits, and only where those agree by their
digits. The theorems:

* `value_ofNumber?`: the decimal that a literal spells is the number that it spells.
* `pow_place_le` and `lt_pow_place`: a magnitude lies between two powers of ten.
* `compare_eq`: comparing decimals compares the numbers that they are.
-/

set_option autoImplicit false

namespace DraftSchema

/-! ### Digits -/

namespace Digit

/-- What was read before some digits counts ten times as much for each of them. -/
theorem valueFrom_eq (acc : Nat) (ds : List Digit) :
    valueFrom acc ds = acc * 10 ^ ds.length + value ds := by
  unfold value
  induction ds generalizing acc with
  | nil => simp [valueFrom]
  | cons d rest ih =>
    have hstep : ∀ n, valueFrom n (d :: rest) = valueFrom (n * 10 + d.val) rest := fun _ => rfl
    rw [hstep, hstep, ih, ih (0 * 10 + d.val), List.length_cons, Nat.pow_succ]
    ring

/-- The number that two runs of digits spell one after the other. -/
theorem value_append (ds es : List Digit) :
    value (ds ++ es) = value ds * 10 ^ es.length + value es := by
  have happend : value (ds ++ es) = valueFrom (value ds) es := List.foldl_append
  rw [happend, valueFrom_eq]

/-- The digits of a number are one more than its logarithm, and what follows them. -/
theorem length_ofNatBefore (n : Nat) (after : List Digit) :
    (ofNatBefore n after).length = Nat.log 10 n + 1 + after.length := by
  induction n, after using ofNatBefore.induct with
  | case1 n after h =>
    rw [ofNatBefore, dif_pos h, Nat.log_of_lt h, List.length_cons]
    omega
  | case2 n after h ih =>
    rw [ofNatBefore, dif_neg h, ih, List.length_cons,
      Nat.log_of_one_lt_of_le (by decide) (Nat.le_of_not_lt h)]
    omega

/-- A number has one digit more than its logarithm. -/
theorem length_ofNat (n : Nat) : (ofNat n).length = Nat.log 10 n + 1 :=
  length_ofNatBefore n []

end Digit

/-! ### The numbers -/

/-- The number that a literal spells. -/
def Json.Number.value (n : Json.Number) : ℚ :=
  (if n.negative then -1 else 1)
    * (Digit.value n.whole + Digit.value n.fraction / 10 ^ n.fraction.length)
    * 10 ^ ((n.exponent.map Json.Exponent.value).getD 0)

/-- The number of the digits that a literal has behind the point when its exponent is
carried out. -/
def Json.Number.scale (n : Json.Number) : Int :=
  n.fraction.length - (n.exponent.map Json.Exponent.value).getD 0

namespace Decimal

/-- The number that a decimal is. -/
def value (d : Decimal) : ℚ := d.mantissa * 10 ^ (-d.scale)

/-- A literal spells a decimal if its scale is in range. -/
theorem isSome_ofNumber? {n : Json.Number} :
    (ofNumber? n).isSome ↔ scaleInRange n.scale = true := by
  unfold ofNumber? ofParts? Json.Number.scale
  split <;> simp_all

/-- The decimal that a literal spells is the number that it spells. -/
theorem value_ofNumber? {n : Json.Number} {d : Decimal} (h : ofNumber? n = some d) :
    d.value = n.value := by
  have hten : (10 : ℚ) ≠ 0 := by norm_num
  have hpow : ((10 : ℚ) ^ n.fraction.length) ≠ 0 := pow_ne_zero _ hten
  simp only [ofNumber?, ofParts?, Option.ite_none_right_eq_some, Option.some.injEq] at h
  obtain ⟨-, rfl⟩ := h
  simp only [value, Json.Number.value]
  rw [neg_sub, zpow_sub₀ hten, zpow_natCast, Digit.value_append]
  split
  · push_cast
    field_simp
  · push_cast
    field_simp

/-! ### Magnitudes -/

/-- The number that a magnitude with a scale is. -/
def magnitudeValue (m : Nat) (s : Int) : ℚ := m * 10 ^ (-s)

/-- A magnitude that is not zero is at least a tenth of the power of ten at its place. -/
theorem pow_place_le {m : Nat} (h : 0 < m) (s : Int) :
    (10 : ℚ) ^ (place m s - 1) ≤ magnitudeValue m s := by
  have hlog : (10 : ℚ) ^ Nat.log 10 m ≤ m := by
    exact_mod_cast Nat.pow_log_le_self 10 (Nat.ne_of_gt h)
  have hplace : place m s - 1 = (Nat.log 10 m : Int) + -s := by
    rw [place, Digit.length_ofNat]
    omega
  rw [hplace, zpow_add₀ (by norm_num), zpow_natCast, magnitudeValue]
  exact mul_le_mul_of_nonneg_right hlog (by positivity)

/-- A magnitude is below the power of ten at its place. -/
theorem lt_pow_place (m : Nat) (s : Int) : magnitudeValue m s < (10 : ℚ) ^ place m s := by
  have hlog : (m : ℚ) < 10 ^ (Nat.log 10 m + 1) := by
    exact_mod_cast Nat.lt_pow_succ_log_self (by decide) m
  have hplace : place m s = ((Nat.log 10 m + 1 : Nat) : Int) + -s := by
    rw [place, Digit.length_ofNat]
    omega
  rw [hplace, zpow_add₀ (by norm_num), zpow_natCast, magnitudeValue]
  exact mul_lt_mul_of_pos_right hlog (by positivity)

/-- Of two magnitudes at different places, the one at the lower place is smaller. -/
theorem magnitudeValue_lt_of_place_lt {m n : Nat} {s t : Int} (hn : 0 < n)
    (h : place m s < place n t) : magnitudeValue m s < magnitudeValue n t := by
  calc magnitudeValue m s < (10 : ℚ) ^ place m s := lt_pow_place m s
    _ ≤ 10 ^ (place n t - 1) := zpow_le_zpow_right₀ (by norm_num) (by omega)
    _ ≤ magnitudeValue n t := pow_place_le hn t

/-- A magnitude on a finer scale. -/
theorem magnitudeValue_eq_of_le (m : Nat) {s t : Int} (h : s ≤ t) :
    magnitudeValue m s = magnitudeValue (m * Nat.pow 10 (t - s).toNat) t := by
  have hexp : -s = ((t - s).toNat : Int) + -t := by omega
  unfold magnitudeValue
  rw [hexp, zpow_add₀ (by norm_num), zpow_natCast, Nat.pow_eq]
  push_cast
  ring

/-- On one scale, magnitudes are compared as they are. -/
theorem compare_magnitudeValue (m n : Nat) (s : Int) :
    Ord.compare (magnitudeValue m s) (magnitudeValue n s) = Ord.compare m n := by
  have hmono : StrictMono fun k : Nat => magnitudeValue k s := by
    intro k l hkl
    have hcast : (k : ℚ) < l := by exact_mod_cast hkl
    exact mul_lt_mul_of_pos_right hcast (by positivity)
  have hcmp := hmono.cmp_map_eq m n
  rwa [cmp_eq_compare, cmp_eq_compare] at hcmp

theorem compareAligned_eq (m n : Nat) (s t : Int) :
    compareAligned m n s t = Ord.compare (magnitudeValue m s) (magnitudeValue n t) := by
  unfold compareAligned
  split
  · rename_i h
    rw [magnitudeValue_eq_of_le m h, compare_magnitudeValue]
  · rename_i h
    rw [magnitudeValue_eq_of_le n (show t ≤ s by omega), compare_magnitudeValue]

theorem comparePositive_eq {m n : Nat} (hm : 0 < m) (hn : 0 < n) (s t : Int) :
    comparePositive m n s t = Ord.compare (magnitudeValue m s) (magnitudeValue n t) := by
  unfold comparePositive
  rcases lt_trichotomy (place m s) (place n t) with h | h | h
  · rw [compare_lt_iff_lt.mpr h, compare_lt_iff_lt.mpr (magnitudeValue_lt_of_place_lt hn h)]
  · rw [compare_eq_iff_eq.mpr h]
    exact compareAligned_eq m n s t
  · rw [compare_gt_iff_gt.mpr h, compare_gt_iff_gt.mpr (magnitudeValue_lt_of_place_lt hm h)]

/-! ### Decimals -/

theorem value_of_pos {d : Decimal} (h : 0 < d.mantissa) :
    d.value = magnitudeValue d.mantissa.natAbs d.scale := by
  have hcast : ((d.mantissa.natAbs : Int) : ℚ) = d.mantissa := by
    rw [Int.natAbs_of_nonneg (Int.le_of_lt h)]
  rw [value, magnitudeValue, ← hcast, Int.cast_natCast]

theorem value_of_neg {d : Decimal} (h : d.mantissa < 0) :
    d.value = -magnitudeValue d.mantissa.natAbs d.scale := by
  have hcast : ((d.mantissa.natAbs : Int) : ℚ) = -d.mantissa := by
    rw [Int.ofNat_natAbs_of_nonpos (Int.le_of_lt h), Int.cast_neg]
  rw [value, magnitudeValue, ← Int.cast_natCast, hcast]
  ring

theorem value_pos_iff {d : Decimal} : 0 < d.value ↔ 0 < d.mantissa := by
  rw [value, mul_pos_iff_of_pos_right (by positivity), Int.cast_pos]

theorem value_neg_iff {d : Decimal} : d.value < 0 ↔ d.mantissa < 0 := by
  rw [value, ← not_le, mul_nonneg_iff_of_pos_right (by positivity), Int.cast_nonneg_iff, not_le]

/-- Decimals of different signs are ordered by them. -/
theorem value_lt_of_sign_lt {a b : Decimal} (h : a.mantissa.sign < b.mantissa.sign) :
    a.value < b.value := by
  rcases lt_trichotomy a.mantissa 0 with ha | ha | ha
  · have hb : 0 ≤ b.mantissa := by
      by_contra hneg
      rw [Int.sign_eq_neg_one_of_neg ha, Int.sign_eq_neg_one_of_neg (by omega)] at h
      omega
    exact lt_of_lt_of_le (value_neg_iff.mpr ha)
      (not_lt.mp fun hlt => absurd (value_neg_iff.mp hlt) (by omega))
  · have hb : 0 < b.mantissa := by
      rw [ha, Int.sign_zero] at h
      exact Int.sign_pos_iff.mp h
    exact lt_of_le_of_lt (not_lt.mp fun hlt => absurd (value_pos_iff.mp hlt) (by omega))
      (value_pos_iff.mpr hb)
  · rw [Int.sign_eq_one_of_pos ha] at h
    rcases Int.sign_trichotomy b.mantissa with hb | hb | hb <;> omega

/-- Comparing decimals compares the numbers that they are. -/
theorem compare_eq (a b : Decimal) : compare a b = Ord.compare a.value b.value := by
  unfold compare
  rcases lt_trichotomy a.mantissa.sign b.mantissa.sign with h | h | h
  · rw [compare_lt_iff_lt.mpr h, compare_lt_iff_lt.mpr (value_lt_of_sign_lt h)]
  · rw [compare_eq_iff_eq.mpr h]
    -- Of one sign, the magnitudes decide, the other way round below zero.
    rcases lt_trichotomy a.mantissa 0 with ha | ha | ha
    · have hb : b.mantissa < 0 := by
        rw [Int.sign_eq_neg_one_of_neg ha] at h
        exact Int.sign_eq_neg_one_iff_neg.mp h.symm
      have hpos : ∀ {d : Decimal}, d.mantissa < 0 → 0 < d.mantissa.natAbs := by omega
      simp only [if_neg (Int.ne_of_lt ha), if_neg (Int.not_lt.mpr (Int.le_of_lt ha))]
      rw [comparePositive_eq (hpos hb) (hpos ha), value_of_neg ha, value_of_neg hb]
      have hanti : StrictAnti fun q : ℚ => -q := fun _ _ hlt => neg_lt_neg hlt
      rw [← cmp_eq_compare, ← cmp_eq_compare]
      exact (hanti.cmp_map_eq _ _).symm
    · have hb : b.mantissa = 0 := by
        rw [ha, Int.sign_zero] at h
        exact Int.sign_eq_zero_iff_zero.mp h.symm
      simp [value, ha, hb]
    · have hb : 0 < b.mantissa := by
        rw [Int.sign_eq_one_of_pos ha] at h
        exact Int.sign_eq_one_iff_pos.mp h.symm
      simp only [if_neg (Int.ne_of_gt ha), if_pos ha]
      rw [comparePositive_eq (by omega) (by omega), value_of_pos ha, value_of_pos hb]
  · rw [compare_gt_iff_gt.mpr h, compare_gt_iff_gt.mpr (value_lt_of_sign_lt h)]

theorem lt_iff {a b : Decimal} : a.lt b = true ↔ a.value < b.value := by
  rw [lt, compare_eq, beq_iff_eq, compare_lt_iff_lt]

theorem le_iff {a b : Decimal} : a.le b = true ↔ a.value ≤ b.value := by
  rw [le, compare_eq, bne_iff_ne, ne_eq, compare_gt_iff_gt, not_lt]

theorem sameValue_iff {a b : Decimal} : a.sameValue b = true ↔ a.value = b.value := by
  rw [sameValue, compare_eq, beq_iff_eq, compare_eq_iff_eq]

end Decimal
end DraftSchema
