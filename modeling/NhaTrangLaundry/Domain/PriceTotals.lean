import NhaTrangLaundry.Domain.PriceTiers
import NhaTrangLaundry.Domain.Quotes
import NhaTrangLaundry.Lib.DecimalExact
import NhaTrangLaundry.Lib.DecimalText

/-! The price of a service depends on the total of its quantities only, and the total is
written as the snapshot of a quote takes it. -/

namespace NhaTrangLaundry.Domain.Pricing

open Lib Decimal Catalog Canonical Outcome Distinct StrEnum

def PriceResult.ignoringInputs (result : PriceResult) : PriceResult :=
  { result with trace := { result.trace with inputQuantities := [], quantityBases := [] } }

def quantityOf (line : PriceLine) : ℚ := ((ofText line.quantity).map value).getD 0

def exactTotal (lines : List PriceLine) (code : String) : ℚ :=
  ((lines.filter fun line => line.serviceCode = code).map quantityOf).sum

def SameTotals (lines lines' : List PriceLine) : Prop :=
  ∀ code, exactTotal lines code = exactTotal lines' code

/-- A quantity that is accepted, or a sum of such. -/
structure Counted (q : Decimal) : Prop where
  within : Within (-3) q
  exponent : q.exponent ≤ 0
  pos : 0 < q.value
  le_max : q.value ≤ maxNumericQuantity.value

section

variable {q q' : Decimal} {text : String} {unit : QuantityUnit} {p amount : Int}

lemma ofText_fixed (h : ofText text = some q) : 0 ≤ q.coefficient ∧ q.exponent ≤ 0 := by
  rw [ofText] at h
  split_ifs at h
  obtain ⟨n, hn, rfl⟩ := Option.map_eq_some_iff.mp h
  obtain ⟨m, -, hm⟩ := Option.bind_eq_some_iff.mp hn
  cases hm
  exact ⟨Int.natCast_nonneg m, by show -((_ : Nat) : Int) ≤ 0; omega⟩

lemma quantity_ok (h : quantity text unit = .ok q) :
    ofText text = some q ∧ Counted q ∧ (unit ∈ countUnits → q.integral) := by
  rw [quantity] at h
  cases hread : ofText text with
  | none => rw [hread] at h; cases h
  | some read =>
    rw [hread] at h
    dsimp only at h
    split_ifs at h with hrefused
    · cases h
    · cases h
      push Not at hrefused
      obtain ⟨hzero, hmax, hplaces, hcount⟩ := hrefused
      obtain ⟨hnonneg, hexponent⟩ := ofText_fixed hread
      rw [le_iff, value_ofInt, not_le] at hzero
      rw [lt_iff, not_lt] at hmax
      exact ⟨rfl, ⟨⟨hnonneg, hplaces⟩, hexponent, by exact_mod_cast hzero, hmax⟩, hcount⟩

lemma integral_fixed {n w : Nat} : (fixed n w).integral ↔ n % 10 ^ w = 0 := by
  have hdown : (- -(w : Int)).toNat = w := by omega
  show (n : Int) % 10 ^ (- -(w : Int)).toNat = 0 ↔ _
  rw [hdown]
  exact_mod_cast Iff.rfl

lemma integral_iff (hnonneg : 0 ≤ q.coefficient) (hexponent : q.exponent ≤ 0) :
    q.integral ↔ ∃ k : Int, q.value = k := by
  obtain ⟨n, w, rfl, -⟩ := exists_fixed hnonneg hexponent
  have hpow : (10 : ℚ) ^ w ≠ 0 := pow_ne_zero _ (by norm_num)
  rw [integral_fixed, value_fixed]
  constructor
  · intro h
    refine ⟨(n / 10 ^ w : Nat), ?_⟩
    rw [div_eq_iff hpow]
    exact_mod_cast (Nat.div_mul_cancel (Nat.dvd_of_mod_eq_zero h)).symm
  · rintro ⟨k, hk⟩
    rw [div_eq_iff hpow] at hk
    have hint : (n : Int) = k * 10 ^ w := by exact_mod_cast hk
    have hdvd : ((10 ^ w : Nat) : Int) ∣ n := ⟨k, by rw [hint]; push_cast; ring⟩
    exact Nat.mod_eq_zero_of_dvd (Int.natCast_dvd_natCast.mp hdvd)

lemma integral_sum {qs : List Decimal} (h : ∀ q ∈ qs, ∃ k : Int, q.value = k) :
    ∃ k : Int, (qs.map value).sum = k := by
  induction qs with
  | nil => exact ⟨0, by simp⟩
  | cons q qs ih =>
    obtain ⟨k, hk⟩ := h q List.mem_cons_self
    obtain ⟨k', hk'⟩ := ih fun q' hq' => h q' (List.mem_cons_of_mem q hq')
    exact ⟨k + k', by rw [List.map_cons, List.sum_cons, hk, hk']; push_cast; rfl⟩

lemma Counted.exists_reduced (h : Counted q) : ∃ m v, v ≤ 3 ∧ Reduced m v ∧
    (fixed m v).value = q.value ∧ q.text = (fixed m v).text := by
  obtain ⟨n, w, rfl, hw⟩ := exists_fixed h.within.nonneg h.exponent
  obtain ⟨m, v, hle, hreduced, hvalue, htext⟩ := Decimal.exists_reduced n w
  have := h.within.places
  exact ⟨m, v, by omega, hreduced, hvalue, htext.symm⟩

lemma canonicalPositiveDecimal_text (h : Counted q) :
    Quotes.canonicalPositiveDecimal q.text = .ok () := by
  obtain ⟨m, v, hv, hreduced, hvalue, htext⟩ := h.exists_reduced
  have hplaces : ¬ (fixed m v).exponent < -3 := by
    show ¬ -(v : Int) < -3
    omega
  rw [htext, Quotes.canonicalPositiveDecimal, ofText_reduced hreduced]
  dsimp only
  rw [Quotes.check, require_ok]
  push Not
  refine ⟨?_, ?_, not_lt.mp hplaces, fun hpoint => (point_reduced hreduced hpoint).2⟩
  · rw [le_iff, hvalue, value_ofInt, not_le]
    exact_mod_cast h.pos
  · rw [lt_iff, hvalue, not_lt]
    exact h.le_max

lemma no_point (h : Counted q) (hintegral : ∃ k : Int, q.value = k) : '.' ∉ q.text.toList := by
  obtain ⟨m, v, -, hreduced, hvalue, htext⟩ := h.exists_reduced
  intro hpoint
  rw [htext] at hpoint
  have hv := (point_reduced hreduced hpoint).1
  rw [← hvalue] at hintegral
  have hfraction : (fixed m v).integral :=
    (integral_iff (Int.natCast_nonneg m) (by show -(v : Int) ≤ 0; omega)).mpr hintegral
  rw [integral_fixed] at hfraction
  refine hreduced.resolve_left hv (Nat.mod_eq_zero_of_dvd ?_)
  exact (dvd_pow_self 10 hv).trans (Nat.dvd_of_mod_eq_zero hfraction)

end

section

variable {q q' : Decimal} {rule : PriceRule} {tier : PriceTier} {tiers : List PriceTier}
  {lines lines' : List (PriceLine × Decimal)} {p amount : Int} {result result' : PriceResult}

lemma maxNumericQuantity_lt : maxNumericQuantity.value < (10 : ℚ) ^ (28 + (-3) : Int) := by
  rw [Decimal.value, maxNumericQuantity]
  norm_num

lemma totalQuantity_exact (hlines : ∀ line ∈ lines, Counted line.2)
    (hmax : ¬ maxNumericQuantity.lt (totalQuantity lines)) :
    (totalQuantity lines).value = (lines.map fun line => line.2.value).sum ∧
      Within (-3) (totalQuantity lines) ∧ (totalQuantity lines).exponent ≤ 0 := by
  have hqs : ∀ q ∈ lines.map Prod.snd, Within (-3) q ∧ q.exponent ≤ 0 := by
    intro q hq
    obtain ⟨line, hline, rfl⟩ := List.mem_map.mp hq
    exact ⟨(hlines line hline).within, (hlines line hline).exponent⟩
  have hzero : Within (-3) (ofInt 0) := ⟨le_refl 0, by decide⟩
  obtain ⟨hwithin, ⟨hsum, hexponent⟩ | hlarge⟩ := foldl_add_exact_or_large hqs hzero
  · refine ⟨?_, hwithin, hexponent (le_refl 0)⟩
    rw [totalQuantity, hsum, List.map_map, value_ofInt, Int.cast_zero, zero_add]
    rfl
  · rw [lt_iff, not_lt] at hmax
    exact absurd (hlarge.trans hmax) (not_le.mpr maxNumericQuantity_lt)

lemma totalQuantity_counted (hne : lines ≠ []) (hlines : ∀ line ∈ lines, Counted line.2)
    (hmax : ¬ maxNumericQuantity.lt (totalQuantity lines)) : Counted (totalQuantity lines) := by
  obtain ⟨hsum, hwithin, hexponent⟩ := totalQuantity_exact hlines hmax
  refine ⟨hwithin, hexponent, ?_, not_lt.mp (mt lt_iff.mpr hmax)⟩
  rw [hsum]
  refine List.sum_pos _ (fun v hv => ?_) (by simpa using hne)
  obtain ⟨line, hline, rfl⟩ := List.mem_map.mp hv
  exact (hlines line hline).pos

lemma roundVnd_mul (hq : Within (-3) q) (hp : 0 ≤ p)
    (h : roundVnd (q.mul (ofInt p)) = .ok amount) : amount = ⌊q.value * p + 1 / 2⌋ := by
  have hp' : 0 ≤ (ofInt p).coefficient := hp
  rw [roundVnd] at h
  cases hround : (q.mul (ofInt p)).toInteger with
  | none => rw [hround] at h; cases h
  | some rounded =>
    rw [hround] at h
    dsimp only at h
    split_ifs at h with hrefused
    · cases h
    · cases h
      push Not at hrefused
      have hfloor := toInteger_floor (coefficient_mul hq.nonneg hp') hround
      rcases mul_exact_or_large hq.nonneg hp' with hexact | hlarge
      · rw [hfloor, hexact, value_ofInt]
      · have hplaces : (28 + (-3) : Int) ≤ 28 + (q.exponent + (ofInt p).exponent) := by
          have := hq.places
          show _ ≤ 28 + (q.exponent + 0)
          omega
        have hpow : (10 : ℚ) ^ (28 + (-3) : Int) ≤ 10 ^ (28 + (q.exponent + (ofInt p).exponent)) :=
          zpow_le_zpow_right₀ (by norm_num) hplaces
        have hbig : ((10 ^ 25 : Int) : ℚ) ≤ (q.mul (ofInt p)).value + 1 / 2 := by
          have hcast : ((10 ^ 25 : Int) : ℚ) = 10 ^ (28 + (-3) : Int) := by norm_num
          rw [hcast]
          exact hpow.trans (hlarge.trans (le_add_of_nonneg_right (by norm_num)))
        have hover := Int.le_floor.mpr hbig
        rw [← hfloor] at hover
        have hmax : maxBigintVnd < 10 ^ 25 := by decide
        omega

lemma covers_congr (h : q.value = q'.value) (tier : PriceTier) : covers q tier = covers q' tier := by
  rw [covers, covers]
  congr 1
  · rw [startsBy, startsBy]
    split
    · rw [decide_eq_decide, le_iff, le_iff, h]
    · rfl
  · rw [endsAfter, endsAfter]
    split
    · rfl
    · rw [decide_eq_decide, lt_iff, lt_iff, h]
    · rfl

lemma selectTier_congr (h : q.value = q'.value) (tiers : List PriceTier) :
    selectTier q tiers = selectTier q' tiers := by
  rw [selectTier_eq, selectTier_eq]
  exact congrArg (fun accepts => tiers.zipIdx.find? accepts)
    (funext fun t => covers_congr h t.1)

lemma max_congr (h : q.value = q'.value) (b : Decimal) :
    (q.max b = q ∧ q'.max b = q') ∨ q.max b = q'.max b := by
  rw [Decimal.max, Decimal.max]
  by_cases hlt : q.lt b
  · have hlt' : q'.lt b := by rwa [lt_iff, ← h, ← lt_iff]
    rw [if_pos hlt, if_pos hlt']
    exact .inr rfl
  · have hlt' : ¬ q'.lt b := by rwa [lt_iff, ← h, ← lt_iff]
    rw [if_neg hlt, if_neg hlt']
    exact .inl ⟨rfl, rfl⟩

lemma billableQuantity_congr (h : q.value = q'.value) (tier : PriceTier) :
    (billableQuantity q tier = q ∧ billableQuantity q' tier = q') ∨
      billableQuantity q tier = billableQuantity q' tier := by
  rw [billableQuantity, billableQuantity]
  split <;> exact max_congr h _

lemma unitPrice_of_validateTiers {expected : Decimal} (h : validateTiers tiers expected = .ok ())
    (hmem : tier ∈ tiers) : validPositiveVnd tier.unitPriceVnd := by
  induction tiers generalizing expected with
  | nil => cases hmem
  | cons first rest ih =>
    have hfirst : validPositiveVnd first.unitPriceVnd := by
      rw [validateTiers] at h
      split at h
      · cases h
      · split_ifs at h with hinvalid
        · cases h
        · push Not at hinvalid
          exact hinvalid.2.2.2.1
    rcases List.mem_cons.mp hmem with rfl | hrest
    · exact hfirst
    · cases placed_of_validateTiers h with
      | opened _ _ _ htiers => exact ih htiers hrest
      | closed _ _ _ _ htiers => exact ih htiers hrest

lemma text_counted (hq : Counted q) (hq' : Counted q') (h : q.value = q'.value) : q.text = q'.text :=
  text_congr hq.within.nonneg hq.exponent hq'.within.nonneg hq'.exponent h

lemma priceGroup_same (hrule : validateRule rule = .ok ()) (hq : Counted q) (hq' : Counted q')
    (h : q.value = q'.value) (hr : priceGroup rule q (groupTrace rule lines q) = .ok result)
    (hr' : priceGroup rule q' (groupTrace rule lines' q') = .ok result') :
    result.ignoringInputs = result'.ignoringInputs := by
  have htext := text_counted hq hq' h
  cases htype : rule.ruleType with
  | fixedPerUnit =>
    rw [validateRule, htype, require_ok] at hrule
    obtain ⟨⟨p, hprice, hpos⟩, -⟩ := hrule
    rw [Option.mem_def] at hprice
    simp only [priceGroup, htype, hprice] at hr hr'
    obtain ⟨amount, hamount, hr⟩ := bind_ok.mp hr
    obtain ⟨amount', hamount', hr'⟩ := bind_ok.mp hr'
    cases hr
    cases hr'
    have hsame : amount = amount' := by
      rw [roundVnd_mul hq.within hpos.1.le hamount, roundVnd_mul hq'.within hpos.1.le hamount', h]
    simp only [PriceResult.ignoringInputs, exactResult, groupTrace, htext, hsame]
  | fixedPerOrder =>
    rw [validateRule, htype, require_ok] at hrule
    obtain ⟨⟨p, hprice, hpos⟩, -⟩ := hrule
    rw [Option.mem_def] at hprice
    simp only [priceGroup, htype, hprice] at hr hr'
    obtain ⟨_, -, hr⟩ := bind_ok.mp hr
    obtain ⟨_, -, hr'⟩ := bind_ok.mp hr'
    cases hr
    cases hr'
    simp only [PriceResult.ignoringInputs, exactResult, groupTrace, htext]
  | rangePerUnit =>
    rw [validateRule, htype, require_ok] at hrule
    obtain ⟨⟨lo, hlo, hi, hhi, hlopos, hhipos, -⟩, -⟩ := hrule
    rw [Option.mem_def] at hlo hhi
    simp only [priceGroup, htype, hlo, hhi] at hr hr'
    obtain ⟨minimum, hminimum, hr⟩ := bind_ok.mp hr
    obtain ⟨maximum, hmaximum, hr⟩ := bind_ok.mp hr
    obtain ⟨minimum', hminimum', hr'⟩ := bind_ok.mp hr'
    obtain ⟨maximum', hmaximum', hr'⟩ := bind_ok.mp hr'
    cases hr
    cases hr'
    have hsameMin : minimum = minimum' := by
      rw [roundVnd_mul hq.within hlopos.1.le hminimum, roundVnd_mul hq'.within hlopos.1.le hminimum',
        h]
    have hsameMax : maximum = maximum' := by
      rw [roundVnd_mul hq.within hhipos.1.le hmaximum, roundVnd_mul hq'.within hhipos.1.le hmaximum',
        h]
    simp only [PriceResult.ignoringInputs, rangeResult, groupTrace, htext, hsameMin, hsameMax]
  | aggregateTierPerUnit =>
    obtain ⟨-, htiers⟩ := validateTiers_of_validateRule htype hrule
    simp only [priceGroup, htype] at hr hr'
    rw [← selectTier_congr h] at hr'
    cases hselect : selectTier q rule.tiers with
    | none => rw [hselect] at hr; cases hr
    | some selected =>
      obtain ⟨tier, index⟩ := selected
      have hpos := unitPrice_of_validateTiers htiers (selectTier_mem hselect).1
      rw [hselect] at hr hr'
      obtain ⟨amount, hamount, hr⟩ := bind_ok.mp hr
      obtain ⟨amount', hamount', hr'⟩ := bind_ok.mp hr'
      cases hr
      cases hr'
      have hbilled : (billableQuantity q tier).text = (billableQuantity q' tier).text ∧
          amount = amount' := by
        rcases billableQuantity_congr h tier with ⟨hown, hown'⟩ | hminimum
        · rw [hown] at hamount
          rw [hown'] at hamount'
          refine ⟨by rw [hown, hown', htext], ?_⟩
          rw [roundVnd_mul hq.within hpos.1.le hamount, roundVnd_mul hq'.within hpos.1.le hamount', h]
        · rw [hminimum, hamount'] at hamount
          exact ⟨by rw [hminimum], (Except.ok.inj hamount).symm⟩
      simp only [PriceResult.ignoringInputs, exactResult, groupTrace, htext, hbilled.1, hbilled.2]
  | manual =>
    rw [validateRule, htype] at hrule
    cases hrule

lemma priceGroup_trace {trace : CalculationTrace} (h : priceGroup rule q trace = .ok result) :
    result.trace.aggregateQuantity = trace.aggregateQuantity ∧ result.trace.unit = trace.unit := by
  rw [priceGroup.eq_def] at h
  split at h
  · obtain ⟨amount, -, h⟩ := bind_ok.mp h
    cases h
    exact ⟨rfl, rfl⟩
  · obtain ⟨_, -, h⟩ := bind_ok.mp h
    cases h
    exact ⟨rfl, rfl⟩
  · obtain ⟨minimum, -, h⟩ := bind_ok.mp h
    obtain ⟨maximum, -, h⟩ := bind_ok.mp h
    cases h
    exact ⟨rfl, rfl⟩
  · split at h
    · cases h
    · obtain ⟨amount, -, h⟩ := bind_ok.mp h
      cases h
      exact ⟨rfl, rfl⟩
  · cases h

end

section

variable {rules : String → Option PriceRule} {lines lines' : List PriceLine} {line : PriceLine}
  {pair : PriceLine × Decimal} {grouped : List (PriceLine × Decimal)} {code : String}
  {results results' : List (String × PriceResult)} {result : PriceResult}

lemma readLine_ok (h : readLine rules line = .ok pair) : pair.1 = line ∧
    (∃ rule, rules line.serviceCode = some rule ∧ line.unit = rule.unit) ∧
      quantity line.quantity line.unit = .ok pair.2 := by
  rw [readLine] at h
  split at h
  · cases h
  · next rule hrule =>
    obtain ⟨_, -, h⟩ := bind_ok.mp h
    obtain ⟨_, hunit, h⟩ := bind_ok.mp h
    obtain ⟨q, hq, h⟩ := bind_ok.mp h
    cases h
    exact ⟨rfl, ⟨rule, hrule, require_ok.mp hunit⟩, hq⟩

lemma quantityOf_of_quantity {q : Decimal} (h : quantity line.quantity line.unit = .ok q) :
    quantityOf line = q.value := by
  rw [quantityOf, (quantity_ok h).1]
  rfl

def groupOf (grouped : List (PriceLine × Decimal)) (code : String) : List (PriceLine × Decimal) :=
  grouped.filter fun l => l.1.serviceCode = code

lemma sum_groupOf (h : List.Forall₂ (fun line pair => readLine rules line = .ok pair) lines grouped)
    (code : String) :
    ((groupOf grouped code).map fun l => l.2.value).sum = exactTotal lines code := by
  induction h with
  | nil => rfl
  | @cons line pair lines grouped hread _ ih =>
    obtain ⟨hline, -, hq⟩ := readLine_ok hread
    have hvalue := quantityOf_of_quantity hq
    rw [groupOf, exactTotal] at ih ⊢
    by_cases hcode : line.serviceCode = code
    · rw [List.filter_cons_of_pos (by simp [hline, hcode]), List.filter_cons_of_pos (by simp [hcode]),
        List.map_cons, List.map_cons, List.sum_cons, List.sum_cons, ih, hvalue]
    · rw [List.filter_cons_of_neg (by simp [hline, hcode]), List.filter_cons_of_neg (by simp [hcode])]
      exact ih

lemma counted_grouped
    (h : List.Forall₂ (fun line pair => readLine rules line = .ok pair) lines grouped)
    (hpair : pair ∈ grouped) : Counted pair.2 ∧ pair.1 ∈ lines ∧ ∃ rule,
      rules pair.1.serviceCode = some rule ∧ (rule.unit ∈ countUnits → ∃ k : Int, pair.2.value = k) := by
  obtain ⟨line, hline, hread⟩ := forall₂_mem_right h hpair
  obtain ⟨rfl, ⟨rule, hrule, hunit⟩, hq⟩ := readLine_ok hread
  obtain ⟨-, hcounted, hintegral⟩ := quantity_ok hq
  refine ⟨hcounted, hline, rule, hrule, fun hcount => ?_⟩
  exact (integral_iff hcounted.within.nonneg hcounted.exponent).mp (hintegral (hunit ▸ hcount))

lemma exists_grouped
    (h : List.Forall₂ (fun line pair => readLine rules line = .ok pair) lines grouped)
    (hcode : code ∈ lines.map PriceLine.serviceCode) : groupOf grouped code ≠ [] := by
  induction h with
  | nil => cases hcode
  | @cons line pair lines grouped hread _ ih =>
    obtain ⟨hline, -, -⟩ := readLine_ok hread
    rw [groupOf]
    by_cases hfirst : line.serviceCode = code
    · rw [List.filter_cons_of_pos (by simp [hline, hfirst])]
      exact List.cons_ne_nil _ _
    · rw [List.filter_cons_of_neg (by simp [hline, hfirst])]
      refine ih ((List.mem_cons.mp hcode).resolve_left ?_)
      exact fun hsame => hfirst hsame.symm

structure PricedFrom (rules : String → Option PriceRule) (lines : List PriceLine) (code : String)
    (result : PriceResult) : Prop where
  pos : 0 < exactTotal lines code
  exact_total : ∃ rule group q, rules code = some rule ∧ validateRule rule = .ok () ∧ Counted q ∧
    q.value = exactTotal lines code ∧ (rule.unit ∈ countUnits → ∃ k : Int, q.value = k) ∧
      priceGroup rule q (groupTrace rule group q) = .ok result

lemma pricedFrom_of_price
    (h : List.Forall₂ (fun line pair => readLine rules line = .ok pair) lines grouped)
    (hcode : code ∈ lines.map PriceLine.serviceCode) {rule : PriceRule} (hrule : rules code = some rule)
    (hprice : price rule (groupOf grouped code) = .ok result) : PricedFrom rules lines code result := by
  obtain ⟨_, hvalid, hprice⟩ := bind_ok.mp hprice
  obtain ⟨_, hmax, hprice⟩ := bind_ok.mp hprice
  have hgroup : ∀ pair ∈ groupOf grouped code, pair.1.serviceCode = code ∧ pair ∈ grouped := by
    intro pair hpair
    obtain ⟨hmem, hof⟩ := List.mem_filter.mp hpair
    exact ⟨by simpa using hof, hmem⟩
  have hcounted : ∀ pair ∈ groupOf grouped code, Counted pair.2 :=
    fun pair hpair => (counted_grouped h (hgroup pair hpair).2).1
  have htotal := totalQuantity_counted (exists_grouped h hcode) hcounted (require_ok.mp hmax)
  have hsum := (totalQuantity_exact hcounted (require_ok.mp hmax)).1
  refine ⟨?_, rule, _, _, hrule, hvalid, htotal, hsum.trans (sum_groupOf h code), ?_, hprice⟩
  · rw [← sum_groupOf h code, ← hsum]
    exact htotal.pos
  · intro hunit
    rw [hsum, ← Function.comp_def value Prod.snd, ← List.map_map]
    refine integral_sum fun q hq => ?_
    obtain ⟨pair, hpair, rfl⟩ := List.mem_map.mp hq
    obtain ⟨-, -, rule', hrule', hintegral⟩ := counted_grouped h (hgroup pair hpair).2
    rw [(hgroup pair hpair).1, hrule] at hrule'
    cases hrule'
    exact hintegral hunit

lemma priceService_ok {priced : String × PriceResult}
    (h : priceService rules grouped code = .ok priced) : priced.1 = code ∧
      ∃ rule, rules code = some rule ∧ price rule (groupOf grouped code) = .ok priced.2 := by
  rw [priceService] at h
  split at h
  · cases h
  · next rule hrule =>
    obtain ⟨result, hresult, h⟩ := bind_ok.mp h
    cases h
    exact ⟨rfl, rule, hrule, hresult⟩

lemma codes_of_priced {codes : List String}
    (h : List.Forall₂ (fun code priced => priceService rules grouped code = .ok priced) codes results) :
    results.map Prod.fst = codes := by
  induction h with
  | nil => rfl
  | cons hfirst _ ih => rw [List.map_cons, (priceService_ok hfirst).1, ih]

lemma priceLines_ok (h : priceLines rules lines = .ok results) :
    (∀ code, code ∈ results.map Prod.fst ↔ code ∈ lines.map PriceLine.serviceCode) ∧
      ∀ code result, (code, result) ∈ results → PricedFrom rules lines code result := by
  obtain ⟨_, -, h⟩ := bind_ok.mp h
  obtain ⟨grouped, hgrouped, h⟩ := bind_ok.mp h
  have hread := mapM_ok.mp hgrouped
  have hpriced := mapM_ok.mp h
  refine ⟨fun code => by rw [codes_of_priced hpriced, mem_firstsBy_id], fun code result hmem => ?_⟩
  obtain ⟨code', hcode', hservice⟩ := forall₂_mem_right hpriced hmem
  obtain ⟨rfl, rule, hrule, hprice⟩ := priceService_ok hservice
  exact pricedFrom_of_price hread (mem_firstsBy_id.mp hcode') hrule hprice

lemma exactTotal_of_not_mem (h : code ∉ lines.map PriceLine.serviceCode) :
    exactTotal lines code = 0 := by
  have hnone : lines.filter (fun line => line.serviceCode = code) = [] := by
    rw [List.filter_eq_nil_iff]
    intro line hline hof
    exact h (List.mem_map.mpr ⟨line, hline, by simpa using hof⟩)
  rw [exactTotal, hnone]
  rfl

lemma mem_results_iff (h : priceLines rules lines = .ok results) :
    code ∈ results.map Prod.fst ↔ 0 < exactTotal lines code := by
  obtain ⟨hcodes, hpriced⟩ := priceLines_ok h
  constructor
  · intro hmem
    obtain ⟨⟨code', result⟩, hpair, rfl⟩ := List.mem_map.mp hmem
    exact (hpriced _ _ hpair).pos
  · intro hpos
    rw [hcodes]
    by_contra hnot
    exact hpos.ne' (exactTotal_of_not_mem hnot)

/-- Two requests are priced alike: the same services, each with the same result but for the
lines that its trace lists. -/
structure PricedAlike (results results' : List (String × PriceResult)) : Prop where
  services : ∀ code, code ∈ results.map Prod.fst ↔ code ∈ results'.map Prod.fst
  prices : ∀ code result result', (code, result) ∈ results → (code, result') ∈ results' →
    result.ignoringInputs = result'.ignoringInputs

/-- The total of a result is written as a snapshot takes it. -/
structure Written (result : PriceResult) : Prop where
  canonical : Quotes.canonicalPositiveDecimal result.trace.aggregateQuantity = .ok ()
  count : result.trace.unit ∈ countUnits → '.' ∉ result.trace.aggregateQuantity.toList

lemma pricedAlike (h : priceLines rules lines = .ok results)
    (h' : priceLines rules lines' = .ok results') (htotals : SameTotals lines lines') :
    PricedAlike results results' := by
  refine ⟨fun code => by rw [mem_results_iff h, mem_results_iff h', htotals code], ?_⟩
  intro code result result' hmem hmem'
  obtain ⟨-, rule, group, q, hrule, hvalid, hq, hvalue, -, hprice⟩ := (priceLines_ok h).2 _ _ hmem
  obtain ⟨-, rule', group', q', hrule', -, hq', hvalue', -, hprice'⟩ := (priceLines_ok h').2 _ _ hmem'
  rw [hrule] at hrule'
  cases hrule'
  exact priceGroup_same hvalid hq hq' (by rw [hvalue, hvalue', htotals code]) hprice hprice'

lemma written (h : priceLines rules lines = .ok results) (hmem : (code, result) ∈ results) :
    Written result := by
  obtain ⟨-, rule, group, q, -, -, hq, -, hintegral, hprice⟩ := (priceLines_ok h).2 _ _ hmem
  obtain ⟨htext, hunit⟩ := priceGroup_trace hprice
  constructor
  · rw [htext]
    exact canonicalPositiveDecimal_text hq
  · rw [htext, hunit]
    exact fun hcount => no_point hq (hintegral hcount)

lemma sameTotals_of_perm (h : lines.Perm lines') : SameTotals lines lines' :=
  fun _ => ((h.filter _).map _).sum_eq

lemma sameTotals_of_parts {before parts after : List PriceLine}
    (hcode : ∀ part ∈ parts, part.serviceCode = line.serviceCode)
    (hsum : (parts.map quantityOf).sum = quantityOf line) :
    SameTotals (before ++ line :: after) (before ++ parts ++ after) := by
  intro code
  simp only [exactTotal, List.filter_append, List.map_append, List.sum_append, List.filter_cons]
  by_cases hline : line.serviceCode = code
  · have hparts : parts.filter (fun part => part.serviceCode = code) = parts :=
      List.filter_eq_self.mpr fun part hpart => by simp [hcode part hpart, hline]
    simp [hline, hparts, hsum, add_assoc]
  · have hparts : parts.filter (fun part => part.serviceCode = code) = [] :=
      List.filter_eq_nil_iff.mpr fun part hpart => by simp [hcode part hpart, hline]
    simp [hline, hparts]

end

/-- Requests with the same exact totals are priced alike, as are the same lines in another order
or in parts; and every total is written as the snapshot of a quote takes it. -/
theorem priceLines_by_totals (rules : String → Option PriceRule) (lines : List PriceLine)
    (results : List (String × PriceResult)) (h : priceLines rules lines = .ok results) :
    (∀ lines' results', priceLines rules lines' = .ok results' →
        SameTotals lines lines' → PricedAlike results results') ∧
      (∀ lines', lines.Perm lines' → SameTotals lines lines') ∧
      (∀ before line after parts, lines = before ++ line :: after →
        (∀ part ∈ parts, part.serviceCode = line.serviceCode) →
        (parts.map quantityOf).sum = quantityOf line →
          SameTotals lines (before ++ parts ++ after)) ∧
      ∀ code result, (code, result) ∈ results → Written result := by
  refine ⟨fun lines' results' h' => pricedAlike h h', fun lines' => sameTotals_of_perm, ?_,
    fun code result => written h⟩
  rintro before line after parts rfl hcode hsum
  exact sameTotals_of_parts hcode hsum

def washed (quantity : String) : PriceLine := ⟨"WASH_DRY", quantity, .kg, .staffMeasurement⟩

def washRules (code : String) : Option PriceRule :=
  if code = "WASH_DRY" then some washDryTiers else none

/-- Three kilograms and a half, at once or with the half weighed apart. -/
theorem priceLines_by_totals_washed :
    ∃ results results', priceLines washRules [washed "3.5"] = .ok results ∧
      priceLines washRules [washed "3.0", washed "0.50"] = .ok results' ∧
        PricedAlike results results' := by
  obtain ⟨results, h⟩ := exists_ok (x := priceLines washRules [washed "3.5"]) (by decide +kernel)
  obtain ⟨results', h'⟩ := exists_ok (x := priceLines washRules [washed "3.0", washed "0.50"])
    (by decide +kernel)
  obtain ⟨halike, -, hparts, -⟩ := priceLines_by_totals washRules [washed "3.5"] results h
  refine ⟨results, results', h, h', halike _ _ h' ?_⟩
  refine hparts [] (washed "3.5") [] [washed "3.0", washed "0.50"] rfl ?_ (by decide +kernel)
  intro part hpart
  rcases List.mem_cons.mp hpart with rfl | hpart
  · rfl
  · rw [List.mem_singleton.mp hpart]
    rfl

end NhaTrangLaundry.Domain.Pricing
