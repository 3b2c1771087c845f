import NhaTrangLaundry.Web.Format

/-! The console's reader of quantities accepts what the pricing engine accepts. -/

namespace NhaTrangLaundry.Web.Format

open Lib Lib.Text Lib.Decimal Domain Domain.Pricing Domain.Catalog

variable {cs : List Char} {c : Char} {n : Nat}

lemma toNat_notZero (h : isDigit c = true) : notZero c = true ↔ c ≠ '0' := by
  rw [isDigit, Bool.and_eq_true, decide_eq_true_eq, decide_eq_true_eq] at h
  have hlow := toNat_le.mp h.1
  have hbounds : '0'.toNat = 48 ∧ '9'.toNat = 57 ∧ '1'.toNat = 49 := by decide
  rw [notZero, Bool.and_eq_true, decide_eq_true_eq, decide_eq_true_eq, toNat_le]
  constructor
  · rintro ⟨hone, -⟩ rfl
    omega
  · intro hne
    refine ⟨?_, h.2⟩
    by_contra hlt
    refine hne (Char.toNat_inj.mp ?_)
    omega

lemma pattern_parts (h : pattern (String.ofList cs) = true) :
    whole cs ≠ [] ∧ (whole cs = ['0'] ∨ (whole cs).head? ≠ some '0') ∧
      ((rest cs).drop 1).all isDigit = true ∧
      (rest cs = [] ∨ rest cs = '.' :: (rest cs).drop 1) := by
  rw [pattern, String.toList_ofList, Bool.and_eq_true, Bool.or_eq_true, Bool.and_eq_true] at h
  obtain ⟨hwhole, hrest⟩ := h
  have hparts : ((rest cs).drop 1).all isDigit = true ∧
      (rest cs = [] ∨ rest cs = '.' :: (rest cs).drop 1) := by
    cases hcs : rest cs with
    | nil => exact ⟨rfl, .inl rfl⟩
    | cons c fraction =>
      rw [hcs] at hrest
      simp only [Bool.and_eq_true, beq_iff_eq] at hrest
      obtain ⟨⟨rfl, -⟩, hall⟩ := hrest
      exact ⟨hall, .inr rfl⟩
  refine ⟨?_, ?_, hparts⟩
  · rcases hwhole with hzero | ⟨hne, -⟩
    · rw [beq_iff_eq] at hzero
      rw [hzero]
      exact List.cons_ne_nil _ _
    · simpa using hne
  · rcases hwhole with hzero | ⟨-, hhead⟩
    · exact .inl (by simpa using hzero)
    · exact .inr (by simpa using hhead)

lemma numeral_leading (hne : cs ≠ []) (hall : cs.all isDigit = true) (hhead : cs.head? ≠ some '0')
    (h : numeral 10 cs 0 = some n) : 10 ^ (cs.length - 1) ≤ n := by
  cases cs with
  | nil => exact absurd rfl hne
  | cons c cs =>
    rw [List.all_cons, Bool.and_eq_true] at hall
    obtain ⟨d, hd, hlt, hzero⟩ := digit_of_isDigit hall.1
    obtain ⟨m, hm, hle, -⟩ := numeral_digits hall.2 (0 * 10 + d)
    rw [numeral, hd] at h
    dsimp only at h
    rw [hm, Option.some.injEq] at h
    have hpos : 1 ≤ d := by
      by_contra hnone
      have hcount := hzero.mp (by omega)
      have hc : c ≠ '0' := by
        rintro rfl
        exact hhead rfl
      rw [(toNat_notZero hall.1).mpr hc] at hcount
      cases hcount
    rw [List.length_cons, Nat.add_sub_cancel]
    nlinarith [Nat.pow_pos (n := cs.length) (show 0 < 10 by decide)]

lemma ofText_parts (h : pattern (String.ofList cs) = true) :
    ∃ m n, numeral 10 (whole cs) 0 = some m ∧
      Decimal.ofText (String.ofList cs) = some (fixed n ((rest cs).drop 1).length) ∧
      m * 10 ^ ((rest cs).drop 1).length ≤ n ∧ n < (m + 1) * 10 ^ ((rest cs).drop 1).length ∧
      (m = 0 ↔ (whole cs).any notZero = false) ∧
      (n = m * 10 ^ ((rest cs).drop 1).length ↔ ((rest cs).drop 1).any notZero = false) := by
  obtain ⟨-, -, hfraction, -⟩ := pattern_parts h
  obtain ⟨m, hm, -, -, hzero⟩ := numeral_digits (all_whole cs) 0
  obtain ⟨n, hn, hle, hlt, hsame⟩ := numeral_digits hfraction m
  refine ⟨m, n, hm, ?_, hle, hlt, by simpa using hzero, hsame⟩
  rw [Decimal.ofText, if_pos h, String.toList_ofList]
  dsimp only
  rw [numeral_append, hm, Option.bind_some, hn]
  rfl

lemma any_notZero (h : pattern (String.ofList cs) = true) :
    cs.any notZero = ((whole cs).any notZero || ((rest cs).drop 1).any notZero) := by
  obtain ⟨-, -, -, hrest⟩ := pattern_parts h
  conv_lhs => rw [← whole_append_rest cs, List.any_append]
  rcases hrest with hnone | hpoint
  · rw [hnone]
    rfl
  · conv_lhs => rw [hpoint, List.any_cons]
    rfl

lemma within_iff {m k : Nat} (hk : k ≤ 3) (hle : m * 10 ^ k ≤ n) (hlt : n < (m + 1) * 10 ^ k) :
    ¬ maxNumericQuantity.lt (fixed n k) ↔ m < 10 ^ 9 := by
  have hmax : maxNumericQuantity = fixed 999999999999 3 := rfl
  rw [Decimal.lt_iff, hmax, value_fixed, value_fixed, not_lt, div_le_div_iff₀ (by positivity)
    (by positivity)]
  have hcast : (n : ℚ) * 10 ^ 3 ≤ (999999999999 : Nat) * 10 ^ k ↔
      n * 10 ^ 3 ≤ 999999999999 * 10 ^ k := by exact_mod_cast Iff.rfl
  rw [hcast]
  interval_cases k
  · omega
  · omega
  · omega
  · omega

lemma le_zero_iff (n k : Nat) : (fixed n k).le (Decimal.ofInt 0) ↔ n = 0 := by
  rw [Decimal.le_iff, value_fixed, value_ofInt, Int.cast_zero, div_le_iff₀ (by positivity),
    zero_mul]
  constructor
  · intro h
    exact Nat.le_zero.mp (by exact_mod_cast h)
  · rintro rfl
    simp

lemma integral_iff {m k : Nat} (hle : m * 10 ^ k ≤ n) (hlt : n < (m + 1) * 10 ^ k) :
    (fixed n k).integral ↔ n = m * 10 ^ k := by
  have hplaces : (- -(k : Int)).toNat = k := by omega
  have hquotient : n / 10 ^ k = m := by
    rw [Nat.div_eq_iff (Nat.pow_pos (by decide))]
    have hpow : 0 < 10 ^ k := Nat.pow_pos (by decide)
    have hsplit : (m + 1) * 10 ^ k = m * 10 ^ k + 10 ^ k := by ring
    omega
  rw [Decimal.integral, fixed, hplaces]
  have hcast : (n : Int) % 10 ^ k = 0 ↔ n % 10 ^ k = 0 := by exact_mod_cast Iff.rfl
  rw [hcast, ← Nat.dvd_iff_mod_eq_zero]
  constructor
  · intro hdvd
    rw [← hquotient, Nat.div_mul_cancel hdvd]
  · rintro rfl
    exact Dvd.intro_left m rfl

lemma accepted_iff {P : Prop} [Decidable P] {q : Decimal} :
    (∃ d, (if P then refuse .missingRequiredFact
      else .ok q : Except Canonical.PyException Decimal) = .ok d) ↔ ¬ P := by
  constructor
  · rintro ⟨d, hd⟩ hP
    rw [if_pos hP] at hd
    cases hd
  · exact fun hP => ⟨q, if_neg hP⟩

lemma quantity_iff (h : pattern (String.ofList cs) = true) (unit : QuantityUnit) :
    (∃ d, quantity (String.ofList cs) unit = .ok d) ↔
      (whole cs).length ≤ 9 ∧ ((rest cs).drop 1).length ≤ 3 ∧ cs.any notZero = true ∧
        ¬ (((rest cs).drop 1).any notZero = true ∧ unit ∈ countUnits) := by
  obtain ⟨hne, hwhole, -, -⟩ := pattern_parts h
  obtain ⟨m, n, hm, htext, hle, hlt, hzero, hsame⟩ := ofText_parts h
  have hpow : 0 < 10 ^ ((rest cs).drop 1).length := Nat.pow_pos (by decide)
  have hdigits : m < 10 ^ 9 ↔ (whole cs).length ≤ 9 := by
    obtain ⟨m', hm', -, hbound, -⟩ := numeral_digits (all_whole cs) 0
    rw [hm, Option.some.injEq] at hm'
    subst hm'
    rw [Nat.zero_add, Nat.one_mul] at hbound
    constructor
    · intro hsmall
      rcases hwhole with hone | hhead
      · rw [hone]
        decide
      · have hleading := numeral_leading hne (all_whole cs) hhead hm
        have hlength := (Nat.pow_lt_pow_iff_right (by decide)).mp (hleading.trans_lt hsmall)
        omega
    · exact fun hlength => hbound.trans_le (Nat.pow_le_pow_right (by decide) hlength)
  have hpositive : ¬ n = 0 ↔ cs.any notZero = true := by
    rw [any_notZero h, Bool.or_eq_true, ← Bool.not_eq_false, ← hzero,
      ← Bool.not_eq_false (((rest cs).drop 1).any notZero), ← hsame]
    constructor
    · intro hn
      by_contra hnone
      rw [not_or, not_not, not_not] at hnone
      rw [hnone.1, Nat.zero_mul] at hnone
      exact hn hnone.2
    · rintro (hm0 | hfraction) rfl
      · have hm1 : 1 ≤ m := Nat.one_le_iff_ne_zero.mpr hm0
        nlinarith
      · refine hfraction ?_
        omega
  have hexponent : (fixed n ((rest cs).drop 1).length).exponent < -3 ↔
      ¬ ((rest cs).drop 1).length ≤ 3 := by
    show -((((rest cs).drop 1).length : Nat) : Int) < -3 ↔ _
    omega
  rw [quantity, htext]
  dsimp only
  rw [accepted_iff, not_or, not_or, not_or, le_zero_iff, hpositive, hexponent, not_not,
    integral_iff hle hlt, hsame, Bool.not_eq_false]
  constructor
  · rintro ⟨hpos, hmax, hplaces, hcounted⟩
    exact ⟨hdigits.mp ((within_iff hplaces hle hlt).mp hmax), hplaces, hpos,
      fun hfraction => hcounted ⟨hfraction.2, hfraction.1⟩⟩
  · rintro ⟨hlength, hplaces, hpos, hcounted⟩
    exact ⟨hpos, (within_iff hplaces hle hlt).mpr (hdigits.mpr hlength), hplaces,
      fun hfraction => hcounted ⟨hfraction.2, hfraction.1⟩⟩

lemma pattern_of_quantity {s : String} {unit : QuantityUnit} {d : Decimal}
    (h : quantity s unit = .ok d) : pattern s = true := by
  by_contra hpattern
  rw [quantity, Decimal.ofText, if_neg hpattern] at h
  cases h

lemma candidate_nil : candidate [] = [] := by decide

/-- The console sends a quantity exactly where the engine accepts what it sends for the unit: the
text as it was typed, without the spaces around it, with one comma read as the point. -/
theorem console_reads_quantities (value : String) (unit : QuantityUnit) (q : String) :
    parseQuantity value (some unit) = some q ↔
      q = String.ofList (candidate (trim value.toList)) ∧ ∃ d, quantity q unit = .ok d := by
  rw [parseQuantity]
  constructor
  · intro h
    split_ifs at h with hempty hpattern hlengths hpositive hcounted
    obtain rfl := Option.some.inj h
    rw [not_or, not_lt, not_lt] at hlengths
    refine ⟨rfl, (quantity_iff hpattern unit).mpr ⟨hlengths.1, hlengths.2, hpositive, ?_⟩⟩
    rintro ⟨hfraction, hunit⟩
    exact hcounted ⟨hfraction, unit, rfl, hunit⟩
  · rintro ⟨rfl, d, hd⟩
    have hpattern := pattern_of_quantity hd
    obtain ⟨hwhole, hplaces, hpositive, hcounted⟩ := (quantity_iff hpattern unit).mp ⟨d, hd⟩
    have hempty : trim value.toList ≠ [] := by
      intro hnil
      rw [hnil, candidate_nil] at hpositive
      cases hpositive
    rw [if_neg hempty, if_neg (not_not.mpr hpattern), if_neg (by omega),
      if_neg (not_not.mpr hpositive), if_neg]
    rintro ⟨hfraction, u, hu, hunit⟩
    obtain rfl := Option.some.inj hu
    exact hcounted ⟨hfraction, hunit⟩

end NhaTrangLaundry.Web.Format
