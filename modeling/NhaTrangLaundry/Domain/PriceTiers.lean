import NhaTrangLaundry.Domain.Pricing
import NhaTrangLaundry.Lib.DecimalOrder

/-! The tiers of a checked rule: each quantity falls in one of them, unless a tier
starts at the mark the check keeps for an open end. -/

namespace NhaTrangLaundry.Domain.Pricing

open Lib Decimal Catalog Canonical Outcome

def startsBy (q : Decimal) (tier : PriceTier) : Bool :=
  match tier.minimumQuantity with
  | .finite minimum => decide (minimum.le q)
  | .special => false

def endsAfter (q : Decimal) (tier : PriceTier) : Bool :=
  match tier.maximumQuantityExclusive with
  | none => true
  | some (.finite upper) => decide (q.lt upper)
  | some .special => false

/-- `minimum_quantity <= q < maximum_quantity_exclusive`. -/
def covers (q : Decimal) (tier : PriceTier) : Bool := startsBy q tier && endsAfter q tier

def startsAtMark (tier : PriceTier) : Prop :=
  match tier.minimumQuantity with
  | .finite minimum => minimum.same openEnd
  | .special => False

/-- What one step of the check says of a tier that starts at `expected`. -/
inductive Placed (expected : Decimal) (tier : PriceTier) (tiers : List PriceTier) : Prop where
  | opened {minimum : Decimal} (hminimum : tier.minimumQuantity = .finite minimum)
      (hsame : minimum.value = expected.value) (hopen : tier.maximumQuantityExclusive = none)
      (hrest : validateTiers tiers openEnd = .ok ())
  | closed {minimum upper : Decimal} (hminimum : tier.minimumQuantity = .finite minimum)
      (hsame : minimum.value = expected.value)
      (hclosed : tier.maximumQuantityExclusive = some (.finite upper))
      (hlonger : minimum.value < upper.value) (hrest : validateTiers tiers upper = .ok ())

variable {q expected : Decimal} {tier : PriceTier} {tiers : List PriceTier}

lemma value_openEnd : openEnd.value = -1 := by simp [openEnd]

lemma placed_of_validateTiers (h : validateTiers (tier :: tiers) expected = .ok ()) :
    Placed expected tier tiers := by
  rw [validateTiers] at h
  split at h
  · cases h
  · next minimum hminimum =>
    split_ifs at h with hinvalid
    · cases h
    · push Not at hinvalid
      have hsame := same_iff.mp hinvalid.2.2.1
      split at h
      · next upper hclosed =>
        split_ifs at h with hle
        · cases h
        · exact .closed hminimum hsame hclosed (lt_iff.mp hle) h
      · next hnotclosed =>
        have hopen : tier.maximumQuantityExclusive = none := by
          cases hmaximum : tier.maximumQuantityExclusive with
          | none => rfl
          | some upper =>
            cases upper with
            | finite upper => exact absurd hmaximum (hnotclosed upper)
            | special => simp [hmaximum, finite] at hinvalid
        exact .opened hminimum hsame hopen h

lemma same_of_validateTiers_nil (h : validateTiers [] expected = .ok ()) : expected.value = -1 := by
  rw [validateTiers, require_ok, same_iff, value_openEnd] at h
  exact h

lemma covers_opened {minimum : Decimal} (hminimum : tier.minimumQuantity = .finite minimum)
    (hopen : tier.maximumQuantityExclusive = none) :
    covers q tier = true ↔ minimum.value ≤ q.value := by
  simp [covers, startsBy, endsAfter, hminimum, hopen, le_iff]

lemma covers_closed {minimum upper : Decimal} (hminimum : tier.minimumQuantity = .finite minimum)
    (hclosed : tier.maximumQuantityExclusive = some (.finite upper)) :
    covers q tier = true ↔ minimum.value ≤ q.value ∧ q.value < upper.value := by
  simp [covers, startsBy, endsAfter, hminimum, hclosed, le_iff, lt_iff]

lemma startsAtMark_iff {minimum : Decimal} (hminimum : tier.minimumQuantity = .finite minimum) :
    startsAtMark tier ↔ minimum.value = -1 := by
  rw [startsAtMark, hminimum, ← value_openEnd]
  exact same_iff

lemma exists_covers (hvalid : validateTiers tiers expected = .ok ()) (hne : tiers ≠ [])
    (hstart : -1 ≤ expected.value) (hq : expected.value ≤ q.value) :
    ∃ tier ∈ tiers, covers q tier = true := by
  induction tiers generalizing expected with
  | nil => exact absurd rfl hne
  | cons tier tiers ih =>
    cases placed_of_validateTiers hvalid with
    | opened hminimum hsame hopen hrest =>
      exact ⟨tier, List.mem_cons_self, (covers_opened hminimum hopen).mpr (by rwa [hsame])⟩
    | @closed minimum upper hminimum hsame hclosed hlonger hrest =>
      by_cases hbelow : q.value < upper.value
      · refine ⟨tier, List.mem_cons_self, (covers_closed hminimum hclosed).mpr ⟨?_, hbelow⟩⟩
        rwa [hsame]
      · rw [hsame] at hlonger
        have hmore : tiers ≠ [] := by
          rintro rfl
          linarith [same_of_validateTiers_nil hrest]
        obtain ⟨found, hmem, hcovers⟩ := ih hrest hmore (by linarith) (not_lt.mp hbelow)
        exact ⟨found, List.mem_cons_of_mem _ hmem, hcovers⟩

lemma marked_after_open (hrest : validateTiers tiers openEnd = .ok ()) (hne : tiers ≠ []) :
    ∃ tier ∈ tiers, startsAtMark tier := by
  cases tiers with
  | nil => exact absurd rfl hne
  | cons next rest =>
    refine ⟨next, List.mem_cons_self, ?_⟩
    cases placed_of_validateTiers hrest with
    | opened hminimum hsame _ _ => exact (startsAtMark_iff hminimum).mpr (hsame.trans value_openEnd)
    | closed hminimum hsame _ _ _ => exact (startsAtMark_iff hminimum).mpr (hsame.trans value_openEnd)

lemma last_of_open (hrest : validateTiers tiers openEnd = .ok ())
    (hmark : ∀ tier ∈ tiers, ¬ startsAtMark tier) : tiers = [] := by
  by_contra hne
  obtain ⟨tier, hmem, hmarked⟩ := marked_after_open hrest hne
  exact hmark tier hmem hmarked

lemma countP_below (hvalid : validateTiers tiers expected = .ok ())
    (hmark : ∀ tier ∈ tiers, ¬ startsAtMark tier) (hq : q.value < expected.value) :
    tiers.countP (covers q) = 0 := by
  induction tiers generalizing expected with
  | nil => rfl
  | cons tier tiers ih =>
    have hrestmark := fun t ht => hmark t (List.mem_cons_of_mem _ ht)
    cases placed_of_validateTiers hvalid with
    | opened hminimum hsame hopen hrest =>
      have hout : ¬ covers q tier = true := by
        rw [covers_opened hminimum hopen, hsame, not_le]
        exact hq
      rw [List.countP_cons_of_neg hout, last_of_open hrest hrestmark, List.countP_nil]
    | closed hminimum hsame hclosed hlonger hrest =>
      have hout : ¬ covers q tier = true := by
        rw [covers_closed hminimum hclosed, hsame]
        exact fun h => absurd h.1 (not_le.mpr hq)
      rw [List.countP_cons_of_neg hout]
      exact ih hrest hrestmark (by linarith)

lemma countP_eq_one (hvalid : validateTiers tiers expected = .ok ()) (hne : tiers ≠ [])
    (hmark : ∀ tier ∈ tiers, ¬ startsAtMark tier) (hstart : -1 < expected.value)
    (hq : expected.value ≤ q.value) : tiers.countP (covers q) = 1 := by
  induction tiers generalizing expected with
  | nil => exact absurd rfl hne
  | cons tier tiers ih =>
    have hrestmark := fun t ht => hmark t (List.mem_cons_of_mem _ ht)
    cases placed_of_validateTiers hvalid with
    | opened hminimum hsame hopen hrest =>
      have hin : covers q tier = true := by rwa [covers_opened hminimum hopen, hsame]
      rw [List.countP_cons_of_pos hin, last_of_open hrest hrestmark, List.countP_nil]
    | @closed minimum upper hminimum hsame hclosed hlonger hrest =>
      have hcovers := covers_closed (q := q) hminimum hclosed
      rw [hsame] at hlonger hcovers
      by_cases hbelow : q.value < upper.value
      · rw [List.countP_cons_of_pos (hcovers.mpr ⟨hq, hbelow⟩), countP_below hrest hrestmark hbelow]
      · have hmore : tiers ≠ [] := by
          rintro rfl
          linarith [same_of_validateTiers_nil hrest]
        rw [List.countP_cons_of_neg fun h => hbelow (hcovers.mp h).2]
        exact ih hrest hmore hrestmark (by linarith) (not_lt.mp hbelow)

lemma covers_after_open (hrest : validateTiers tiers openEnd = .ok ()) (hne : tiers ≠ [])
    (hq : -1 ≤ q.value) : ∃ tier ∈ tiers, covers q tier = true :=
  exists_covers hrest hne value_openEnd.ge (by rwa [value_openEnd])

lemma not_marked_of_start {minimum : Decimal} (hminimum : tier.minimumQuantity = .finite minimum)
    (hsame : minimum.value = expected.value) (hstart : -1 < expected.value) :
    ¬ startsAtMark tier := by
  rw [startsAtMark_iff hminimum, hsame]
  exact hstart.ne'

lemma marked_later (hmarked : ∃ t ∈ tier :: tiers, startsAtMark t) (h : ¬ startsAtMark tier) :
    ∃ t ∈ tiers, startsAtMark t := by
  obtain ⟨found, hmem, hfound⟩ := hmarked
  rcases List.mem_cons.mp hmem with rfl | htail
  · exact absurd hfound h
  · exact ⟨found, htail, hfound⟩

lemma exists_covers_marked (hvalid : validateTiers tiers expected = .ok ())
    (hmarked : ∃ tier ∈ tiers, startsAtMark tier) (hstart : -1 < expected.value)
    (hq : -1 ≤ q.value) : ∃ tier ∈ tiers, covers q tier = true := by
  induction tiers generalizing expected with
  | nil =>
    obtain ⟨tier, hmem, -⟩ := hmarked
    cases hmem
  | cons tier tiers ih =>
    cases placed_of_validateTiers hvalid with
    | opened hminimum hsame hopen hrest =>
      have hunmarked := not_marked_of_start hminimum hsame hstart
      obtain ⟨t, ht, -⟩ := marked_later hmarked hunmarked
      obtain ⟨found, hmem, hcovers⟩ := covers_after_open hrest (List.ne_nil_of_mem ht) hq
      exact ⟨found, List.mem_cons_of_mem _ hmem, hcovers⟩
    | closed hminimum hsame hclosed hlonger hrest =>
      have hunmarked := not_marked_of_start hminimum hsame hstart
      obtain ⟨found, hmem, hcovers⟩ := ih hrest (marked_later hmarked hunmarked) (by linarith)
      exact ⟨found, List.mem_cons_of_mem _ hmem, hcovers⟩

lemma two_le_countP (hvalid : validateTiers tiers expected = .ok ())
    (hmarked : ∃ tier ∈ tiers, startsAtMark tier) (hstart : -1 < expected.value)
    (hq : expected.value ≤ q.value) : 2 ≤ tiers.countP (covers q) := by
  induction tiers generalizing expected with
  | nil =>
    obtain ⟨tier, hmem, -⟩ := hmarked
    cases hmem
  | cons tier tiers ih =>
    cases placed_of_validateTiers hvalid with
    | opened hminimum hsame hopen hrest =>
      have hunmarked := not_marked_of_start hminimum hsame hstart
      obtain ⟨t, ht, -⟩ := marked_later hmarked hunmarked
      have hin : covers q tier = true := by rwa [covers_opened hminimum hopen, hsame]
      have hlater : 0 < tiers.countP (covers q) :=
        List.countP_pos_iff.mpr (covers_after_open hrest (List.ne_nil_of_mem ht) (by linarith))
      rw [List.countP_cons_of_pos hin]
      omega
    | @closed minimum upper hminimum hsame hclosed hlonger hrest =>
      have hunmarked := not_marked_of_start hminimum hsame hstart
      have htail := marked_later hmarked hunmarked
      have hcovers := covers_closed (q := q) hminimum hclosed
      rw [hsame] at hlonger hcovers
      by_cases hbelow : q.value < upper.value
      · have hlater : 0 < tiers.countP (covers q) :=
          List.countP_pos_iff.mpr (exists_covers_marked hrest htail (by linarith) (by linarith))
        rw [List.countP_cons_of_pos (hcovers.mpr ⟨hq, hbelow⟩)]
        omega
      · rw [List.countP_cons_of_neg fun h => hbelow (hcovers.mp h).2]
        exact ih hrest htail (by linarith) (not_lt.mp hbelow)

lemma selectTier_eq : selectTier q tiers = tiers.zipIdx.find? fun t => covers q t.1 := rfl

lemma selectTier_mem {index : Nat} (h : selectTier q tiers = some (tier, index)) :
    tier ∈ tiers ∧ covers q tier = true := by
  rw [selectTier_eq] at h
  obtain ⟨hindex, htier⟩ := List.mem_zipIdx' (List.mem_of_find?_eq_some h)
  have hcovers := List.find?_some h
  exact ⟨htier ▸ List.getElem_mem hindex, hcovers⟩

lemma selectTier_isSome (h : ∃ tier ∈ tiers, covers q tier = true) :
    ∃ t, selectTier q tiers = some t := by
  obtain ⟨tier, hmem, hcovers⟩ := h
  obtain ⟨index, hindex, rfl⟩ := List.getElem_of_mem hmem
  rw [← Option.isSome_iff_exists, selectTier_eq, List.find?_isSome]
  exact ⟨(tiers[index], index), List.mem_zipIdx_iff_getElem?.mpr (by simp [hindex]), hcovers⟩

lemma eq_of_countP_eq_one {tier' : PriceTier} (hone : tiers.countP (covers q) = 1)
    (hmem : tier ∈ tiers) (hcovers : covers q tier = true) (hmem' : tier' ∈ tiers)
    (hcovers' : covers q tier' = true) : tier = tier' := by
  rw [List.countP_eq_length_filter, List.length_eq_one_iff] at hone
  obtain ⟨only, honly⟩ := hone
  have hin : tier ∈ [only] := honly ▸ List.mem_filter.mpr ⟨hmem, hcovers⟩
  have hin' : tier' ∈ [only] := honly ▸ List.mem_filter.mpr ⟨hmem', hcovers'⟩
  rw [List.mem_singleton.mp hin, List.mem_singleton.mp hin']

lemma selectTier_perm {tiers' : List PriceTier} (hone : tiers.countP (covers q) = 1)
    (hperm : tiers'.Perm tiers) :
    ∃ tier index index', selectTier q tiers = some (tier, index) ∧
      selectTier q tiers' = some (tier, index') := by
  have hcovered : ∃ tier ∈ tiers, covers q tier = true :=
    List.countP_pos_iff.mp (by omega)
  have hcovered' : ∃ tier ∈ tiers', covers q tier = true := by
    obtain ⟨tier, hmem, hcovers⟩ := hcovered
    exact ⟨tier, hperm.mem_iff.mpr hmem, hcovers⟩
  obtain ⟨⟨tier, index⟩, hselect⟩ := selectTier_isSome hcovered
  obtain ⟨⟨tier', index'⟩, hselect'⟩ := selectTier_isSome hcovered'
  obtain ⟨hmem, hcovers⟩ := selectTier_mem hselect
  obtain ⟨hmem', hcovers'⟩ := selectTier_mem hselect'
  have hsame := eq_of_countP_eq_one hone hmem hcovers (hperm.mem_iff.mp hmem') hcovers'
  exact ⟨tier, index, index', hselect, by rw [hselect', hsame]⟩

/-- Each positive quantity falls in one tier, which is the one selected and priced by
in whatever order the tiers are scanned. -/
def Unambiguous (rule : PriceRule) : Prop :=
  ∀ q : Decimal, (ofInt 0).lt q →
    rule.tiers.countP (covers q) = 1 ∧
    (∃ t, selectTier q rule.tiers = some t) ∧
    ∀ tiers : List PriceTier, tiers.Perm rule.tiers →
      (selectTier q tiers).map Prod.fst = (selectTier q rule.tiers).map Prod.fst ∧
      ∀ trace, (priceGroup { rule with tiers } q trace).map PriceResult.listAmountVnd =
        (priceGroup rule q trace).map PriceResult.listAmountVnd

lemma validateTiers_of_validateRule {rule : PriceRule} (htype : rule.ruleType = .aggregateTierPerUnit)
    (h : validateRule rule = .ok ()) :
    rule.tiers ≠ [] ∧ validateTiers rule.tiers (ofInt 0) = .ok () := by
  rw [validateRule, htype] at h
  obtain ⟨_, hrequired, hvalid⟩ := bind_ok.mp h
  have hne := (require_ok.mp hrequired).2.2.2
  exact ⟨fun hnil => hne (by rw [hnil]; rfl), hvalid⟩

lemma priceGroup_tiers (rule : PriceRule) (htype : rule.ruleType = .aggregateTierPerUnit)
    {trace : CalculationTrace} {index : Nat} (h : selectTier q rule.tiers = some (tier, index)) :
    (priceGroup rule q trace).map PriceResult.listAmountVnd =
      (roundVnd ((billableQuantity q tier).mul (ofInt tier.unitPriceVnd))).map some := by
  simp only [priceGroup, htype, h]
  cases roundVnd ((billableQuantity q tier).mul (ofInt tier.unitPriceVnd)) <;> rfl

theorem unambiguous_iff (rule : PriceRule) (htype : rule.ruleType = .aggregateTierPerUnit)
    (hvalid : validateRule rule = .ok ()) :
    Unambiguous rule ↔ ∀ tier ∈ rule.tiers, ¬ startsAtMark tier := by
  obtain ⟨hne, htiers⟩ := validateTiers_of_validateRule htype hvalid
  have hstart : -1 < (ofInt 0).value := by simp
  constructor
  · intro hunambiguous
    by_contra hmarked
    push Not at hmarked
    have hone := (hunambiguous (ofInt 1) (by decide)).1
    have htwo := two_le_countP (q := ofInt 1) htiers hmarked hstart (by simp)
    omega
  · intro hmark q hq
    rw [lt_iff] at hq
    have hone := countP_eq_one htiers hne hmark hstart hq.le
    refine ⟨hone, ?_, ?_⟩
    · obtain ⟨tier, index, -, hselect, -⟩ := selectTier_perm hone (List.Perm.refl _)
      exact ⟨_, hselect⟩
    · intro tiers hperm
      obtain ⟨tier, index, index', hselect, hselect'⟩ := selectTier_perm hone hperm
      refine ⟨by rw [hselect, hselect']; rfl, fun trace => ?_⟩
      have hscanned : (priceGroup { rule with tiers } q trace).map PriceResult.listAmountVnd =
          (roundVnd ((billableQuantity q tier).mul (ofInt tier.unitPriceVnd))).map some :=
        priceGroup_tiers { rule with tiers } htype hselect'
      rw [hscanned, priceGroup_tiers rule htype hselect]

def washDryTiers : PriceRule where
  serviceCode := "WASH_DRY"
  ruleType := .aggregateTierPerUnit
  unitPriceVnd := none
  rangeMinVnd := none
  rangeMaxVnd := none
  tiers := [⟨.finite (ofInt 0), some (.finite (ofInt 6)), 25000, some (.finite (ofInt 1))⟩,
    ⟨.finite (ofInt 6), none, 20000, none⟩]
  unit := .kg

theorem washDryTiers_unambiguous :
    Unambiguous washDryTiers ↔ ∀ tier ∈ washDryTiers.tiers, ¬ startsAtMark tier :=
  unambiguous_iff washDryTiers rfl (by decide)

def markedTiers : PriceRule :=
  { washDryTiers with
    tiers := [⟨.finite (ofInt 0), none, 25000, none⟩, ⟨.finite (ofInt (-1)), none, 20000, none⟩] }

/-- The check accepts the rule; two tiers cover one kilogram, and the order of the scan
decides which price it gets. -/
theorem markedTiers_ambiguous :
    validateRule markedTiers = .ok () ∧ markedTiers.tiers.countP (covers (ofInt 1)) = 2 ∧
      (selectTier (ofInt 1) markedTiers.tiers).map (fun t => t.1.unitPriceVnd) = some 25000 ∧
      (selectTier (ofInt 1) markedTiers.tiers.reverse).map (fun t => t.1.unitPriceVnd) =
        some 20000 ∧
      ¬ Unambiguous markedTiers := by
  refine ⟨by decide, by decide, by decide, by decide, fun h => ?_⟩
  have hone := (h (ofInt 1) (by decide)).1
  have htwo : markedTiers.tiers.countP (covers (ofInt 1)) = 2 := by decide
  omega

end NhaTrangLaundry.Domain.Pricing
