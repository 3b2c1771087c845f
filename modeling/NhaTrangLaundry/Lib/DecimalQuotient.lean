import NhaTrangLaundry.Lib.DecimalExact

/-! Differences, quotients by a power of ten, and the numbers on which decimal arithmetic is
exact. -/

namespace NhaTrangLaundry.Lib.Decimal

def sub (a b : Decimal) : Decimal :=
  fit ⟨a.scaled (min a.exponent b.exponent) - b.scaled (min a.exponent b.exponent),
    min a.exponent b.exponent⟩

/-- The number without the zeros at its end, at most `n` of them. -/
def dropZeros : Nat → Decimal → Decimal
  | 0, d => d
  | n + 1, d =>
    if d.coefficient % 10 = 0 then dropZeros n ⟨d.coefficient / 10, d.exponent + 1⟩ else d

/-- `d / 10 ** k`, whose exponent is as near to that of `d` as the quotient admits. -/
def divPow (d : Decimal) (k : Nat) : Decimal :=
  fit (dropZeros k ⟨d.coefficient, d.exponent - k⟩)

variable {a b d : Decimal} {e f : Int} {x y v : ℚ}

lemma fit_exact (h : Within e d) (hv : d.value < 10 ^ (28 + e)) : fit d = d := by
  refine fit_of_lt ?_
  have hpos : (0 : ℚ) < 10 ^ e := zpow_pos (by norm_num) e
  have hcast : ((d.coefficient.natAbs : Int) : ℚ) = (d.coefficient : ℚ) := by
    rw [Int.natAbs_of_nonneg h.nonneg]
  have hle : (d.coefficient : ℚ) * 10 ^ e ≤ d.value :=
    mul_le_mul_of_nonneg_left (zpow_le_zpow_right₀ (by norm_num) h.places)
      (Int.cast_nonneg h.nonneg)
  rw [zpow_add₀ (by norm_num)] at hv
  have hlt := lt_of_mul_lt_mul_right (hle.trans_lt hv) hpos.le
  rw [← hcast] at hlt
  have hlimit : (d.coefficient.natAbs : ℚ) < ((10 ^ 28 : Nat) : ℚ) := by
    push_cast
    exact_mod_cast hlt
  exact_mod_cast hlimit

/-- The number is `v`, with no digit below the place `e`. -/
structure Exact (e : Int) (d : Decimal) (v : ℚ) : Prop where
  within : Within e d
  value : d.value = v

lemma Exact.nonneg (h : Exact e d v) : 0 ≤ v := h.value ▸ value_nonneg h.within.nonneg

lemma exact_ofInt (n : Nat) : Exact 0 (ofInt n) n :=
  ⟨⟨Int.natCast_nonneg n, le_refl _⟩, by rw [value_ofInt, Int.cast_natCast]⟩

lemma Exact.fit (h : Exact e d v) (hv : v < 10 ^ (28 + e)) : Exact e (fit d) v := by
  rw [fit_exact h.within (h.value ▸ hv)]
  exact h

lemma Exact.add (ha : Exact e a x) (hb : Exact e b y) (hv : x + y < 10 ^ (28 + e)) :
    Exact e (add a b) (x + y) := by
  refine Exact.fit ⟨⟨?_, le_min ha.within.places hb.within.places⟩, ?_⟩ hv
  · exact add_nonneg (coefficient_scaled ha.within.nonneg _) (coefficient_scaled hb.within.nonneg _)
  · rw [value_scaled_add, ha.value, hb.value]

lemma value_scaled_sub (a b : Decimal) :
    Decimal.value ⟨a.scaled (min a.exponent b.exponent) - b.scaled (min a.exponent b.exponent),
      min a.exponent b.exponent⟩ = a.value - b.value := by
  rw [value_eq_scaled (min_le_left a.exponent b.exponent),
    value_eq_scaled (min_le_right a.exponent b.exponent), ← sub_mul, Decimal.value]
  push_cast
  rfl

lemma Exact.sub (ha : Exact e a x) (hb : Exact e b y) (hle : y ≤ x) (hv : x < 10 ^ (28 + e)) :
    Exact e (sub a b) (x - y) := by
  have hscaled : le b a := le_iff.mpr (by rwa [ha.value, hb.value])
  rw [le, min_comm] at hscaled
  have hy := hb.nonneg
  refine Exact.fit ⟨⟨sub_nonneg.mpr hscaled, le_min ha.within.places hb.within.places⟩, ?_⟩
    (by linarith)
  rw [value_scaled_sub, ha.value, hb.value]

lemma Exact.mul (ha : Exact e a x) (hb : Exact f b y) (hv : x * y < 10 ^ (28 + (e + f))) :
    Exact (e + f) (mul a b) (x * y) := by
  refine Exact.fit ⟨⟨Int.mul_nonneg ha.within.nonneg hb.within.nonneg,
    add_le_add ha.within.places hb.within.places⟩, ?_⟩ hv
  rw [← ha.value, ← hb.value, Decimal.value, Decimal.value, Decimal.value,
    zpow_add₀ (by norm_num)]
  push_cast
  ring

lemma Exact.dropZeros (h : Exact e d v) (n : Nat) : Exact e (dropZeros n d) v := by
  induction n generalizing d with
  | zero => exact h
  | succ n ih =>
    rw [Decimal.dropZeros]
    split_ifs with hzero
    · refine ih ⟨⟨Int.ediv_nonneg h.within.nonneg (by decide), ?_⟩, ?_⟩
      · have hplaces := h.within.places
        show e ≤ d.exponent + 1
        omega
      · have hcoefficient : d.coefficient = d.coefficient / 10 * 10 := by omega
        have hcast : (d.coefficient : ℚ) = (d.coefficient / 10 : Int) * 10 := by
          exact_mod_cast hcoefficient
        rw [← h.value, Decimal.value, Decimal.value, hcast, zpow_add₀ (by norm_num), zpow_one]
        ring
    · exact h

lemma Exact.divPow (h : Exact e d v) (k : Nat) (hv : v / 10 ^ k < 10 ^ (28 + (e - k))) :
    Exact (e - k) (divPow d k) (v / 10 ^ k) := by
  have hquotient : Exact (e - k) ⟨d.coefficient, d.exponent - k⟩ (v / 10 ^ k) := by
    refine ⟨⟨h.within.nonneg, sub_le_sub_right h.within.places _⟩, ?_⟩
    rw [← h.value, Decimal.value, Decimal.value, zpow_sub₀ (by norm_num), zpow_natCast]
    ring
  exact (hquotient.dropZeros k).fit hv

lemma Within.lower (h : Within e d) (hle : f ≤ e) : Within f d :=
  ⟨h.nonneg, hle.trans h.places⟩

end NhaTrangLaundry.Lib.Decimal
