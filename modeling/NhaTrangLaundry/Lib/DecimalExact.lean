import NhaTrangLaundry.Lib.DecimalOrder
import Mathlib.Data.Rat.Floor
import Mathlib.Algebra.Order.BigOperators.Group.List

/-! Sums and products of decimal numbers that are not negative: they are exact up to 28
digits, and large beyond. -/

namespace NhaTrangLaundry.Lib.Decimal

variable {a b d : Decimal} {n : Nat} {e : Int}

lemma value_nonneg (h : 0 ≤ d.coefficient) : 0 ≤ d.value :=
  mul_nonneg (Int.cast_nonneg h) (zpow_nonneg (by norm_num) _)

lemma excess_of_limit_le (h : limit ≤ n) : 1 ≤ excess n ∧ 10 ^ (27 + excess n) ≤ n := by
  have hlength : 28 < (Nat.toDigits 10 n).length := by
    by_contra hle
    exact absurd ((Nat.length_toDigits_le_iff (by decide) (by decide)).mp (not_lt.mp hle))
      (not_lt.mpr h)
  refine ⟨by rw [excess]; omega, ?_⟩
  by_contra hlt
  have hle := (Nat.length_toDigits_le_iff (by decide) (by omega)).mpr (not_le.mp hlt)
  rw [excess] at hle
  omega

lemma le_divHalfEven (n m : Nat) : n / m ≤ divHalfEven n m := by
  rw [divHalfEven]
  split_ifs
  · exact le_refl _
  · exact Nat.le_succ _

lemma le_rounded (h : limit ≤ n) : 10 ^ 27 ≤ divHalfEven n (10 ^ excess n) := by
  refine le_trans ?_ (le_divHalfEven _ _)
  rw [Nat.le_div_iff_mul_le (Nat.pow_pos (by decide)), ← Nat.pow_add]
  exact (excess_of_limit_le h).2

lemma fit_of_lt (h : d.coefficient.natAbs < limit) : fit d = d := by rw [fit, if_pos h]

lemma fit_of_le (hnonneg : 0 ≤ d.coefficient) (h : limit ≤ d.coefficient.natAbs) :
    fit d = ⟨divHalfEven d.coefficient.natAbs (10 ^ excess d.coefficient.natAbs),
      d.exponent + excess d.coefficient.natAbs⟩ := by
  have hlimit : 0 < limit := by decide
  have hpos : 0 < d.coefficient := by omega
  rw [fit, if_neg (not_lt.mpr h), Int.sign_eq_one_of_pos hpos, one_mul]

lemma coefficient_fit (h : 0 ≤ d.coefficient) : 0 ≤ (fit d).coefficient := by
  by_cases hlt : d.coefficient.natAbs < limit
  · rwa [fit_of_lt hlt]
  · rw [fit_of_le h (not_lt.mp hlt)]
    exact Int.natCast_nonneg _

lemma exponent_fit (h : 0 ≤ d.coefficient) : d.exponent ≤ (fit d).exponent := by
  by_cases hlt : d.coefficient.natAbs < limit
  · rw [fit_of_lt hlt]
  · rw [fit_of_le h (not_lt.mp hlt)]
    show d.exponent ≤ d.exponent + _
    omega

lemma fit_exact_or_large (h : 0 ≤ d.coefficient) :
    fit d = d ∨ (10 : ℚ) ^ (28 + d.exponent) ≤ (fit d).value := by
  by_cases hlt : d.coefficient.natAbs < limit
  · exact .inl (fit_of_lt hlt)
  right
  have hlimit := not_lt.mp hlt
  rw [fit_of_le h hlimit, value]
  dsimp only
  have hcoefficient : (10 : ℚ) ^ (27 : Int) ≤
      ((divHalfEven d.coefficient.natAbs (10 ^ excess d.coefficient.natAbs) : Nat) : Int) := by
    have := le_rounded hlimit
    exact_mod_cast this
  have hexcess := (excess_of_limit_le hlimit).1
  calc (10 : ℚ) ^ (28 + d.exponent)
      ≤ 10 ^ (27 + (d.exponent + excess d.coefficient.natAbs)) :=
        zpow_le_zpow_right₀ (by norm_num) (by omega)
    _ = 10 ^ (27 : Int) * 10 ^ (d.exponent + excess d.coefficient.natAbs) :=
        zpow_add₀ (by norm_num) _ _
    _ ≤ _ := mul_le_mul_of_nonneg_right hcoefficient (zpow_nonneg (by norm_num) _)

lemma coefficient_scaled (h : 0 ≤ d.coefficient) (e : Int) : 0 ≤ d.scaled e :=
  Int.mul_nonneg h (pow_nonneg (by decide) _)

lemma value_scaled_add (a b : Decimal) :
    value ⟨a.scaled (min a.exponent b.exponent) + b.scaled (min a.exponent b.exponent),
      min a.exponent b.exponent⟩ = a.value + b.value := by
  rw [value_eq_scaled (min_le_left a.exponent b.exponent),
    value_eq_scaled (min_le_right a.exponent b.exponent), ← add_mul, value]
  push_cast
  rfl

/-- Not negative, and with no digit below the place `e`. -/
structure Within (e : Int) (d : Decimal) : Prop where
  nonneg : 0 ≤ d.coefficient
  places : e ≤ d.exponent

lemma within_add (ha : Within e a) (hb : Within e b) : Within e (add a b) := by
  have hcoefficient := add_nonneg (coefficient_scaled ha.nonneg (min a.exponent b.exponent))
    (coefficient_scaled hb.nonneg (min a.exponent b.exponent))
  exact ⟨coefficient_fit hcoefficient, le_trans (le_min ha.places hb.places)
    (exponent_fit hcoefficient)⟩

lemma pow_places_le (h : Within e d) : (10 : ℚ) ^ (28 + e) ≤ 10 ^ (28 + d.exponent) :=
  zpow_le_zpow_right₀ (by norm_num) (by have := h.places; omega)

lemma add_exact_or_large (ha : Within e a) (hb : Within e b) :
    ((add a b).value = a.value + b.value ∧ (add a b).exponent = min a.exponent b.exponent) ∨
      (10 : ℚ) ^ (28 + e) ≤ (add a b).value := by
  have hcoefficient := add_nonneg (coefficient_scaled ha.nonneg (min a.exponent b.exponent))
    (coefficient_scaled hb.nonneg (min a.exponent b.exponent))
  have hwithin : Within e ⟨a.scaled (min a.exponent b.exponent) +
    b.scaled (min a.exponent b.exponent), min a.exponent b.exponent⟩ :=
    ⟨hcoefficient, le_min ha.places hb.places⟩
  rcases fit_exact_or_large hwithin.nonneg with hexact | hlarge
  · rw [add, hexact]
    exact .inl ⟨value_scaled_add a b, rfl⟩
  · exact .inr ((pow_places_le hwithin).trans hlarge)

lemma foldl_add_exact_or_large {qs : List Decimal} (hqs : ∀ q ∈ qs, Within e q ∧ q.exponent ≤ 0)
    (ha : Within e a) : Within e (qs.foldl add a) ∧
      (((qs.foldl add a).value = a.value + (qs.map value).sum ∧
          (a.exponent ≤ 0 → (qs.foldl add a).exponent ≤ 0)) ∨
        (10 : ℚ) ^ (28 + e) ≤ (qs.foldl add a).value) := by
  induction qs generalizing a with
  | nil => exact ⟨ha, .inl ⟨by simp, id⟩⟩
  | cons q qs ih =>
    obtain ⟨hq, hplaces⟩ := hqs q List.mem_cons_self
    have hrest := fun q' hq' => hqs q' (List.mem_cons_of_mem q hq')
    obtain ⟨hwithin, hsum⟩ := ih hrest (within_add ha hq)
    rw [List.foldl_cons, List.map_cons, List.sum_cons]
    refine ⟨hwithin, ?_⟩
    rcases hsum with ⟨hsum, hexponent⟩ | hlarge
    · rcases add_exact_or_large ha hq with ⟨hexact, hmin⟩ | hlarge
      · rw [hexact, add_assoc] at hsum
        exact .inl ⟨hsum, fun _ => hexponent (hmin ▸ (min_le_right _ _).trans hplaces)⟩
      · have hnonneg : 0 ≤ (qs.map value).sum := by
          refine List.sum_nonneg fun v hv => ?_
          obtain ⟨q', hq', rfl⟩ := List.mem_map.mp hv
          exact value_nonneg (hrest q' hq').1.nonneg
        right
        rw [hsum]
        linarith
    · exact .inr hlarge

lemma mul_exact_or_large (ha : 0 ≤ a.coefficient) (hb : 0 ≤ b.coefficient) :
    (mul a b).value = a.value * b.value ∨
      (10 : ℚ) ^ (28 + (a.exponent + b.exponent)) ≤ (mul a b).value := by
  have hproduct : 0 ≤ a.coefficient * b.coefficient := Int.mul_nonneg ha hb
  rcases @fit_exact_or_large ⟨a.coefficient * b.coefficient, a.exponent + b.exponent⟩ hproduct with
    hexact | hlarge
  · left
    rw [mul, hexact, value, value, value, zpow_add₀ (by norm_num)]
    push_cast
    ring
  · exact .inr hlarge

lemma coefficient_mul (ha : 0 ≤ a.coefficient) (hb : 0 ≤ b.coefficient) :
    0 ≤ (mul a b).coefficient :=
  coefficient_fit (Int.mul_nonneg ha hb)

lemma value_div (d : Decimal) : d.value =
    (d.coefficient * 10 ^ d.exponent.toNat : ℚ) / 10 ^ (-d.exponent).toNat := by
  rw [value]
  rcases le_total 0 d.exponent with h | h
  · obtain ⟨w, hw⟩ := Int.eq_ofNat_of_zero_le h
    have hdown : (-d.exponent).toNat = 0 := by omega
    have hup : d.exponent.toNat = w := by omega
    rw [hdown, hup, hw, pow_zero, div_one]
    rfl
  · obtain ⟨w, hw⟩ := Int.eq_ofNat_of_zero_le (neg_nonneg.mpr h)
    have hdown : (-d.exponent).toNat = w := by omega
    have hup : d.exponent.toNat = 0 := by omega
    have hexponent : d.exponent = -(w : Int) := by omega
    rw [hdown, hup, hexponent, pow_zero, mul_one, zpow_neg, zpow_natCast, div_eq_mul_inv]

lemma toInteger_floor (h : 0 ≤ d.coefficient) {k : Int} (hk : d.toInteger = some k) :
    k = ⌊d.value + 1 / 2⌋ := by
  rw [toInteger] at hk
  split_ifs at hk
  rw [Option.some.injEq] at hk
  subst hk
  obtain ⟨c, hc⟩ := Int.eq_ofNat_of_zero_le h
  have hvalue : d.value + 1 / 2 =
      ((2 * (c * 10 ^ d.exponent.toNat) + 10 ^ (-d.exponent).toNat : Nat) : ℚ) /
        ((2 * 10 ^ (-d.exponent).toNat : Nat) : ℚ) := by
    have hpow : (10 : ℚ) ^ (-d.exponent).toNat ≠ 0 := pow_ne_zero _ (by norm_num)
    rw [value_div, hc]
    push_cast
    field_simp
  rw [hvalue, Rat.floor_natCast_div_natCast, hc, Int.natAbs_natCast, divHalfUp]
  rcases Nat.eq_zero_or_pos c with rfl | hpos
  · have hpow : 0 < 10 ^ (-d.exponent).toNat := Nat.pow_pos (by decide)
    have hhalf : 10 ^ (-d.exponent).toNat / (2 * 10 ^ (-d.exponent).toNat) = 0 :=
      Nat.div_eq_of_lt (by omega)
    rw [Nat.zero_mul, Nat.mul_zero, Nat.zero_add, hhalf, Nat.cast_zero, Int.mul_zero]
    exact_mod_cast hhalf.symm
  · rw [Int.sign_natCast_of_ne_zero hpos.ne', one_mul]
    exact Int.natCast_ediv _ _

end NhaTrangLaundry.Lib.Decimal
