import NhaTrangLaundry.Lib.DecimalOrder

/-! The text of a decimal number that is not negative: equal numbers have one text, and it
is read back as the number without superfluous digits. -/

namespace NhaTrangLaundry.Lib.Decimal

open Text

/-- `n` with `w` fraction digits. -/
def fixed (n w : Nat) : Decimal := ⟨n, -w⟩

def Reduced (n w : Nat) : Prop := w = 0 ∨ n % 10 ≠ 0

variable {d a b : Decimal} {n m w v : Nat}

lemma exists_fixed (hcoefficient : 0 ≤ d.coefficient) (hexponent : d.exponent ≤ 0) :
    ∃ n w, d = fixed n w ∧ (w : Int) = -d.exponent := by
  obtain ⟨n, hn⟩ := Int.eq_ofNat_of_zero_le hcoefficient
  obtain ⟨w, hw⟩ := Int.eq_ofNat_of_zero_le (neg_nonneg.mpr hexponent)
  refine ⟨n, w, ?_, hw.symm⟩
  cases d with
  | mk coefficient exponent =>
    rw [fixed, Decimal.mk.injEq]
    exact ⟨hn, by rw [← hw, neg_neg]⟩

lemma value_fixed (n w : Nat) : (fixed n w).value = n / 10 ^ w := by
  rw [value, fixed, zpow_neg, zpow_natCast, div_eq_mul_inv]
  rfl

lemma text_fixed (n w : Nat) : (fixed n w).text = String.ofList (Nat.toDigits 10 (n / 10 ^ w) ++
    if trimmed (padded 10 w n) = [] then [] else '.' :: trimmed (padded 10 w n)) := by
  have hsign : ¬ (fixed n w).coefficient < 0 := not_lt.mpr (Int.natCast_nonneg n)
  have hup : (-(w : Int)).toNat = 0 := by omega
  have hdown : (- -(w : Int)).toNat = w := by omega
  rw [text, if_neg hsign, List.nil_append]
  simp only [fixed, hup, hdown, Int.natAbs_natCast, Nat.pow_zero, Nat.mul_one]

lemma trimmed_snoc_zero (cs : List Char) : trimmed (cs ++ ['0']) = trimmed cs := by
  simp [trimmed]

lemma trimmed_snoc {c : Char} (cs : List Char) (h : c ≠ '0') : trimmed (cs ++ [c]) = cs ++ [c] := by
  simp [trimmed, h]

lemma digitChar_ne_zero {k : Nat} (h : k < 10) (hne : k ≠ 0) : Nat.digitChar k ≠ '0' := by
  interval_cases k <;> simp_all [Nat.digitChar]

lemma trimmed_padded (h : Reduced n w) : trimmed (padded 10 w n) = padded 10 w n := by
  cases w with
  | zero => rfl
  | succ w =>
    have hlast : n % 10 ≠ 0 := h.resolve_left (Nat.succ_ne_zero w)
    rw [padded]
    exact trimmed_snoc _ (digitChar_ne_zero (Nat.mod_lt _ (by decide)) hlast)

lemma text_mul_ten (n w : Nat) : (fixed (n * 10) (w + 1)).text = (fixed n w).text := by
  have hdigits : trimmed (padded 10 (w + 1) (n * 10)) = trimmed (padded 10 w n) := by
    rw [padded, Nat.mul_div_cancel _ (by decide), Nat.mul_mod_left]
    exact trimmed_snoc_zero _
  have hwhole : n * 10 / 10 ^ (w + 1) = n / 10 ^ w := by
    rw [Nat.pow_succ, Nat.mul_div_mul_right _ _ (by decide)]
  rw [text_fixed, text_fixed, hdigits, hwhole]

lemma value_mul_ten (n w : Nat) : (fixed (n * 10) (w + 1)).value = (fixed n w).value := by
  rw [value_fixed, value_fixed, pow_succ]
  push_cast
  exact mul_div_mul_right _ _ (by norm_num)

lemma exists_reduced (n w : Nat) : ∃ m v, v ≤ w ∧ Reduced m v ∧
    (fixed m v).value = (fixed n w).value ∧ (fixed m v).text = (fixed n w).text := by
  induction w generalizing n with
  | zero => exact ⟨n, 0, le_refl 0, .inl rfl, rfl, rfl⟩
  | succ w ih =>
    by_cases hlast : n % 10 = 0
    · obtain ⟨m, v, hle, hreduced, hvalue, htext⟩ := ih (n / 10)
      have hn : n = n / 10 * 10 := by omega
      refine ⟨m, v, by omega, hreduced, ?_, ?_⟩
      · rw [hvalue, hn, value_mul_ten, ← hn]
      · rw [htext, hn, text_mul_ten, ← hn]
    · exact ⟨n, w + 1, le_refl _, .inr hlast, rfl, rfl⟩

lemma value_fixed_inj : (fixed n w).value = (fixed m v).value ↔ n * 10 ^ v = m * 10 ^ w := by
  have hw : (10 : ℚ) ^ w ≠ 0 := pow_ne_zero _ (by norm_num)
  have hv : (10 : ℚ) ^ v ≠ 0 := pow_ne_zero _ (by norm_num)
  rw [value_fixed, value_fixed, div_eq_div_iff hw hv]
  exact_mod_cast Iff.rfl

lemma width_le (hm : Reduced m v) (h : n * 10 ^ v = m * 10 ^ w) : v ≤ w := by
  by_contra hlt
  have hv : v = v - w - 1 + 1 + w := by omega
  have hpow : (10 : Nat) ^ v = 10 ^ (v - w - 1) * 10 * 10 ^ w := by
    rw [← Nat.pow_succ, ← Nat.pow_add, ← hv]
  rw [hpow, ← Nat.mul_assoc] at h
  have hm' : m = n * (10 ^ (v - w - 1) * 10) :=
    (Nat.eq_of_mul_eq_mul_right (Nat.pow_pos (by decide)) h).symm
  rcases hm with hzero | hlast
  · omega
  · exact hlast (by rw [hm', ← Nat.mul_assoc, Nat.mul_mod_left])

lemma reduced_unique (hn : Reduced n w) (hm : Reduced m v)
    (h : (fixed n w).value = (fixed m v).value) : n = m ∧ w = v := by
  rw [value_fixed_inj] at h
  have hwidth : w = v := le_antisymm (width_le hn h.symm) (width_le hm h)
  subst hwidth
  exact ⟨Nat.eq_of_mul_eq_mul_right (Nat.pow_pos (by decide)) h, rfl⟩

lemma text_congr (ha : 0 ≤ a.coefficient) (ha' : a.exponent ≤ 0) (hb : 0 ≤ b.coefficient)
    (hb' : b.exponent ≤ 0) (h : a.value = b.value) : a.text = b.text := by
  obtain ⟨n, w, rfl, -⟩ := exists_fixed ha ha'
  obtain ⟨m, v, rfl, -⟩ := exists_fixed hb hb'
  obtain ⟨n', w', -, hn, hvalue, htext⟩ := exists_reduced n w
  obtain ⟨m', v', -, hm, hvalue', htext'⟩ := exists_reduced m v
  obtain ⟨rfl, rfl⟩ := reduced_unique hn hm (by rw [hvalue, hvalue', h])
  rw [← htext, htext']

lemma isDigit_of_mem_toDigits {c : Char} (h : c ∈ Nat.toDigits 10 n) : isDigit c = true := by
  have hdigit := Nat.isDigit_of_mem_toDigits (by decide) (by decide) h
  rw [Char.isDigit, Bool.and_eq_true, decide_eq_true_iff, decide_eq_true_iff] at hdigit
  rw [isDigit, Bool.and_eq_true, decide_eq_true_iff, decide_eq_true_iff]
  exact hdigit

lemma isDigit_of_mem_padded {c : Char} (h : c ∈ padded 10 w n) : isDigit c = true := by
  obtain ⟨k, hk, rfl⟩ := mem_padded (by decide) h
  interval_cases k <;> decide

lemma numeral_toDigits (n : Nat) : numeral 10 (Nat.toDigits 10 n) 0 = some n := by
  induction n using Nat.strong_induction_on with
  | _ n ih =>
    by_cases h : n < 10
    · rw [Nat.toDigits_of_lt_base h, numeral, digit_digitChar (by decide) h]
      simp [numeral]
    · have hdigit : n % 10 < 10 := Nat.mod_lt _ (by decide)
      rw [Nat.toDigits_of_base_le (by decide) (by omega), numeral_append, ih (n / 10) (by omega),
        Option.bind_some, numeral, digit_digitChar (by decide) hdigit]
      dsimp only
      rw [numeral.eq_def, Option.some.injEq]
      omega

lemma text_reduced (h : Reduced n w) : (fixed n w).text.toList =
    Nat.toDigits 10 (n / 10 ^ w) ++ if w = 0 then [] else '.' :: padded 10 w n := by
  rw [text_fixed, String.toList_ofList, trimmed_padded h]
  cases w with
  | zero => rfl
  | succ w =>
    have hne : padded 10 (w + 1) n ≠ [] := by
      rw [padded]
      exact List.append_ne_nil_of_right_ne_nil _ (List.cons_ne_nil _ _)
    rw [if_neg hne, if_neg (Nat.succ_ne_zero w)]

lemma split_reduced (h : Reduced n w) : whole (fixed n w).text.toList = Nat.toDigits 10 (n / 10 ^ w) ∧
    rest (fixed n w).text.toList = if w = 0 then [] else '.' :: padded 10 w n := by
  have hall : ∀ c ∈ Nat.toDigits 10 (n / 10 ^ w), isDigit c = true :=
    fun c hc => isDigit_of_mem_toDigits hc
  rw [text_reduced h, whole, rest, List.takeWhile_append_of_pos hall,
    List.dropWhile_append_of_pos hall]
  cases w with
  | zero => exact ⟨List.append_nil _, rfl⟩
  | succ w =>
    have hpoint : isDigit '.' = false := by decide
    rw [if_neg (Nat.succ_ne_zero w), List.takeWhile_cons_of_neg (by rw [hpoint]; decide),
      List.dropWhile_cons_of_neg (by rw [hpoint]; decide)]
    exact ⟨List.append_nil _, rfl⟩

lemma pattern_reduced (h : Reduced n w) : pattern (fixed n w).text = true := by
  obtain ⟨hwhole, hrest⟩ := split_reduced h
  rw [pattern, hwhole, hrest, Bool.and_eq_true]
  constructor
  · rcases Nat.eq_zero_or_pos (n / 10 ^ w) with hzero | hpos
    · rw [hzero, Nat.toDigits_zero]
      rfl
    · have hne := toDigits_head_ne_zero (n / 10 ^ w) hpos
      simp [hne, Nat.toDigits_ne_nil]
  · cases w with
    | zero => rfl
    | succ w =>
      have hne : padded 10 (w + 1) n ≠ [] := by
        rw [padded]
        exact List.append_ne_nil_of_right_ne_nil _ (List.cons_ne_nil _ _)
      have hall : (padded 10 (w + 1) n).all isDigit = true :=
        List.all_eq_true.mpr fun c hc => isDigit_of_mem_padded hc
      rw [if_neg (Nat.succ_ne_zero w)]
      simp [hne, hall]

lemma ofText_reduced (h : Reduced n w) : ofText (fixed n w).text = some (fixed n w) := by
  obtain ⟨hwhole, hrest⟩ := split_reduced h
  have hfraction : (rest (fixed n w).text.toList).drop 1 = padded 10 w n := by
    rw [hrest]
    cases w with
    | zero => rfl
    | succ w => rw [if_neg (Nat.succ_ne_zero w)]; rfl
  have hread : numeral 10 (Nat.toDigits 10 (n / 10 ^ w) ++ padded 10 w n) 0 = some n := by
    have hpadded := @numeral_map_padded 10 id (by decide)
      (fun k hk => digit_digitChar (by decide) hk) w n (n / 10 ^ w)
    rw [List.map_id] at hpadded
    rw [numeral_append, numeral_toDigits, Option.bind_some, hpadded, Nat.mul_comm,
      Nat.div_add_mod]
  rw [ofText, if_pos (pattern_reduced h), hfraction, hwhole]
  dsimp only
  rw [hread, length_padded]
  rfl

lemma point_reduced (h : Reduced n w) (hpoint : '.' ∈ (fixed n w).text.toList) :
    w ≠ 0 ∧ (fixed n w).text.toList.getLast? ≠ some '0' := by
  rw [text_reduced h] at hpoint ⊢
  cases w with
  | zero =>
    rw [if_pos rfl, List.append_nil] at hpoint
    exact absurd (isDigit_of_mem_toDigits hpoint) (by decide)
  | succ w =>
    have hlast : n % 10 ≠ 0 := h.resolve_left (Nat.succ_ne_zero w)
    have hdigit := digitChar_ne_zero (Nat.mod_lt n (by decide)) hlast
    refine ⟨Nat.succ_ne_zero w, ?_⟩
    rw [if_neg (Nat.succ_ne_zero w), padded, ← List.cons_append, ← List.append_assoc,
      List.getLast?_concat]
    simpa using hdigit

end NhaTrangLaundry.Lib.Decimal
