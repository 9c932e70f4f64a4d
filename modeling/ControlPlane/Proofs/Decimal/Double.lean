import ControlPlane.Proofs.Decimal.Literal
import Mathlib.Algebra.Order.Field.Power
import Mathlib.Data.Rat.Cast.Order

namespace ControlPlane

theorem power_eq (base exponent : Nat) : power base exponent = base ^ exponent := rfl

theorem power_pos (exponent : Nat) : 0 < power 2 exponent := Nat.two_pow_pos exponent

namespace Double

variable {x : Double} {n : Int}

def toRat (x : Double) : ℚ := signed x.negative x.mantissa * 2 ^ x.exponent

theorem toInt?_of_nonneg (h : 0 ≤ x.exponent) :
    x.toInt? = some (signed x.negative (x.mantissa * power 2 x.exponent.toNat)) := by
  rw [toInt?, if_pos h]
  rfl

theorem toInt?_of_neg (h : x.exponent < 0) : x.toInt? =
    if x.mantissa % power 2 (-x.exponent).toNat = 0 then
      some (signed x.negative (x.mantissa / power 2 (-x.exponent).toNat))
    else none := by
  rw [toInt?, if_neg (Int.not_le.mpr h)]
  by_cases hmod : x.mantissa % power 2 (-x.exponent).toNat = 0
  · simp only [if_pos hmod]
    rfl
  · simp only [if_neg hmod]
    rfl

theorem exact_div_iff {negative : Bool} {m d : Nat} (hd : 0 < d) :
    (if m % d = 0 then some (signed negative (m / d)) else none) = some n ↔
      signed negative m = n * d := by
  split
  · rename_i hmod
    have hquotient : signed negative m = signed negative (m / d) * d := by
      rw [← signed_mul, Nat.div_mul_cancel (Nat.dvd_of_mod_eq_zero hmod)]
    rw [hquotient, Option.some.injEq, Int.mul_eq_mul_right_iff (by omega)]
  · rename_i hmod
    refine iff_of_false (by simp) fun h => hmod ?_
    have hm : m = n.natAbs * d := by
      rw [← natAbs_signed negative m, h, Int.natAbs_mul, Int.natAbs_natCast]
    rw [hm, Nat.mul_mod_left]

theorem toRat_of_nonneg (h : 0 ≤ x.exponent) :
    x.toRat = signed x.negative (x.mantissa * power 2 x.exponent.toNat) := by
  obtain ⟨k, hk⟩ := Int.eq_ofNat_of_zero_le h
  rw [toRat, hk, Int.toNat_natCast, zpow_natCast, signed_mul, power_eq]
  push_cast
  rfl

theorem toRat_eq_iff_of_neg (h : x.exponent < 0) : x.toRat = n ↔
    signed x.negative x.mantissa = n * power 2 (-x.exponent).toNat := by
  obtain ⟨k, hk⟩ := Int.eq_ofNat_of_zero_le (Int.neg_nonneg.mpr (Int.le_of_lt h))
  have hexponent : x.exponent = -(k : Int) := by omega
  have hpos : (2 : ℚ) ^ k ≠ 0 := pow_ne_zero k two_ne_zero
  rw [toRat, hexponent, zpow_neg, zpow_natCast, ← div_eq_mul_inv, div_eq_iff hpos, neg_neg,
    Int.toNat_natCast, power_eq]
  exact_mod_cast Iff.rfl

theorem toInt?_eq_some_iff : x.toInt? = some n ↔ x.toRat = n := by
  by_cases h : 0 ≤ x.exponent
  · rw [toInt?_of_nonneg h, toRat_of_nonneg h, Option.some.injEq, Int.cast_inj]
  · have hneg := Int.not_le.mp h
    rw [toInt?_of_neg hneg, exact_div_iff (power_pos _), toRat_eq_iff_of_neg hneg]

end Double

end ControlPlane
