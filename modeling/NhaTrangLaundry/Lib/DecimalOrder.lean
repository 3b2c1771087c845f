import NhaTrangLaundry.Lib.Decimal
import Mathlib.Algebra.Order.Field.Rat
import Mathlib.Algebra.Order.Field.Basic
import Mathlib.Tactic.Linarith

/-! The order of decimal numbers is the order of their values. -/

namespace NhaTrangLaundry.Lib.Decimal

def value (d : Decimal) : ℚ := d.coefficient * (10 : ℚ) ^ d.exponent

variable {a b c : Decimal}

lemma value_eq_scaled {e : Int} (h : e ≤ a.exponent) : a.value = a.scaled e * (10 : ℚ) ^ e := by
  have hexponent : a.exponent = (a.exponent - e).toNat + e := by omega
  have hpow : (10 : ℚ) ^ a.exponent = (10 : ℚ) ^ (a.exponent - e).toNat * (10 : ℚ) ^ e := by
    rw [← zpow_natCast, ← zpow_add₀ (by norm_num), ← hexponent]
  rw [value, hpow, scaled]
  push_cast
  ring

lemma le_iff : le a b ↔ a.value ≤ b.value := by
  have hscale : (0 : ℚ) < 10 ^ min a.exponent b.exponent := zpow_pos (by norm_num) _
  rw [value_eq_scaled (min_le_left a.exponent b.exponent),
    value_eq_scaled (min_le_right a.exponent b.exponent), mul_le_mul_iff_left₀ hscale, Int.cast_le]
  rfl

lemma lt_iff : lt a b ↔ a.value < b.value := by
  rw [lt, le_iff, not_le]

lemma same_iff : same a b ↔ a.value = b.value := by
  rw [same, le_iff, le_iff]
  exact le_antisymm_iff.symm

@[simp] lemma value_ofInt (n : Int) : (ofInt n).value = n := by
  simp [value, ofInt]

end NhaTrangLaundry.Lib.Decimal
