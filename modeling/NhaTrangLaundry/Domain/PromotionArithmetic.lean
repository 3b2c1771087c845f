import NhaTrangLaundry.Domain.Promotion
import NhaTrangLaundry.Lib.RemainderShares

/-! The discount of an evaluation: how it is rounded, how it falls on the lines, and
that the order of the lines does not matter. -/

namespace NhaTrangLaundry.Domain.Promotion

open Lib Catalog Canonical Outcome Sorting Distinct LargestRemainder

/-- What the line checks of an evaluation leave standing. -/
structure ValidLines (lines : List PromotionLine) : Prop where
  distinct : (lines.map PromotionLine.lineId).Nodup
  named : ∀ line ∈ lines, line.lineId ≠ ""
  amount : ∀ line ∈ lines, 0 ≤ line.listAmountVnd ∧ line.listAmountVnd ≤ maxBigintVnd
  rate : ∀ line ∈ lines, rateFits line

variable {lines lines' : List PromotionLine} {line : PromotionLine} {seen : List String}
  {start subtotal rate : Int}

lemma validateLine_ok : validateLine line seen = .ok () ↔
    (line.lineId ≠ "" ∧ line.lineId ∉ seen) ∧
      (0 ≤ line.listAmountVnd ∧ line.listAmountVnd ≤ maxBigintVnd) ∧ rateFits line := by
  rw [validateLine, requireVnd]
  constructor
  · intro h
    obtain ⟨_, hid, h⟩ := bind_ok.mp h
    obtain ⟨_, hamount, h⟩ := bind_ok.mp h
    exact ⟨require_ok.mp hid, require_ok.mp hamount, require_ok.mp h⟩
  · rintro ⟨hid, hamount, hrate⟩
    rw [require_true hid, require_true hamount, require_true hrate]
    rfl

lemma checkedAdd_ok {a b sum : Int} : checkedAdd a b = .ok sum ↔ a + b ≤ maxBigintVnd ∧ sum = a + b := by
  rw [checkedAdd]
  split_ifs with h
  · simp only [false_iff, not_and]
    omega
  · rw [Except.ok.injEq, eq_comm]
    exact ⟨fun hsum => ⟨by omega, hsum⟩, And.right⟩

lemma subtotalOf_cons : subtotalOf (line :: lines) = line.listAmountVnd + subtotalOf lines := rfl

lemma subtotalOf_nonneg (h : ∀ line ∈ lines, 0 ≤ line.listAmountVnd) : 0 ≤ subtotalOf lines :=
  List.sum_nonneg fun a ha => by
    obtain ⟨line, hmem, rfl⟩ := List.mem_map.mp ha
    exact h line hmem

lemma listSubtotal_ok (hstart : start ≤ maxBigintVnd) : listSubtotal lines seen start = .ok subtotal ↔
    ValidLines lines ∧ (∀ line ∈ lines, line.lineId ∉ seen) ∧
      start + subtotalOf lines ≤ maxBigintVnd ∧ subtotal = start + subtotalOf lines := by
  induction lines generalizing seen start with
  | nil =>
    rw [listSubtotal, Except.ok.injEq, eq_comm]
    have hzero : start + subtotalOf [] = start := Int.add_zero _
    rw [hzero]
    exact ⟨fun h => ⟨⟨List.nodup_nil, by simp, by simp, by simp⟩, by simp, hstart, h⟩,
      fun h => h.2.2.2⟩
  | cons line lines ih =>
    rw [subtotalOf_cons]
    constructor
    · intro h
      rw [listSubtotal] at h
      obtain ⟨_, hline, h⟩ := bind_ok.mp h
      obtain ⟨sum, hsum, h⟩ := bind_ok.mp h
      obtain ⟨⟨hname, hnew⟩, hamount, hfits⟩ := validateLine_ok.mp hline
      obtain ⟨hroom, rfl⟩ := checkedAdd_ok.mp hsum
      obtain ⟨hvalid, hunseen, htotal, hresult⟩ := (ih hroom).mp h
      refine ⟨⟨?_, ?_, ?_, ?_⟩, ?_, by omega, by omega⟩
      · rw [List.map_cons, List.nodup_cons]
        refine ⟨fun hmem => ?_, hvalid.distinct⟩
        obtain ⟨other, hother, heq⟩ := List.mem_map.mp hmem
        exact hunseen other hother (heq ▸ List.mem_cons_self)
      · exact List.forall_mem_cons.mpr ⟨hname, hvalid.named⟩
      · exact List.forall_mem_cons.mpr ⟨hamount, hvalid.amount⟩
      · exact List.forall_mem_cons.mpr ⟨hfits, hvalid.rate⟩
      · refine List.forall_mem_cons.mpr ⟨hnew, fun other hother hseen => ?_⟩
        exact hunseen other hother (List.mem_cons_of_mem _ hseen)
    · rintro ⟨hvalid, hunseen, htotal, rfl⟩
      obtain ⟨hnotin, hdistinct⟩ := List.nodup_cons.mp hvalid.distinct
      obtain ⟨hname, hnames⟩ := List.forall_mem_cons.mp hvalid.named
      obtain ⟨hamount, hamounts⟩ := List.forall_mem_cons.mp hvalid.amount
      obtain ⟨hfits, hrates⟩ := List.forall_mem_cons.mp hvalid.rate
      obtain ⟨hnew, hothers⟩ := List.forall_mem_cons.mp hunseen
      have hrest := subtotalOf_nonneg fun l hl => (hamounts l hl).1
      have hroom : start + line.listAmountVnd ≤ maxBigintVnd := by omega
      rw [listSubtotal, validateLine_ok.mpr ⟨⟨hname, hnew⟩, hamount, hfits⟩, ok_bind,
        checkedAdd_ok.mpr ⟨hroom, rfl⟩, ok_bind]
      refine (ih hroom).mpr ⟨⟨hdistinct, hnames, hamounts, hrates⟩, ?_, by omega, by omega⟩
      intro other hother hseen
      rcases List.mem_cons.mp hseen with heq | hseen
      · exact hnotin (List.mem_map.mpr ⟨other, hother, heq⟩)
      · exact hothers other hother hseen

lemma ValidLines.perm (h : ValidLines lines) (hp : lines.Perm lines') : ValidLines lines' where
  distinct := (hp.map _).nodup_iff.mp h.distinct
  named line hmem := h.named line (hp.mem_iff.mpr hmem)
  amount line hmem := h.amount line (hp.mem_iff.mpr hmem)
  rate line hmem := h.rate line (hp.mem_iff.mpr hmem)

lemma subtotalOf_perm (hp : lines.Perm lines') : subtotalOf lines = subtotalOf lines' :=
  (hp.map _).sum_eq

lemma listSubtotal_perm (hp : lines.Perm lines') (h : listSubtotal lines [] 0 = .ok subtotal) :
    listSubtotal lines' [] 0 = .ok subtotal := by
  have hstart : (0 : Int) ≤ maxBigintVnd := by decide
  rw [listSubtotal_ok hstart] at h ⊢
  rw [← subtotalOf_perm hp]
  exact ⟨h.1.perm hp, by simp, h.2.2⟩

lemma eligibleSubtotal_ok (h : ValidLines lines) (hroom : subtotalOf lines ≤ maxBigintVnd) :
    eligibleSubtotal lines = .ok (subtotalOf (lines.filter isAuto)) := by
  have hfold : ∀ (l : List PromotionLine) (start : Int), (∀ line ∈ l, 0 ≤ line.listAmountVnd) →
      start + subtotalOf l ≤ maxBigintVnd →
      l.foldlM (fun subtotal line => checkedAdd subtotal line.listAmountVnd) start =
        .ok (start + subtotalOf l) := by
    intro l
    induction l with
    | nil =>
      intro start _ _
      rw [List.foldlM_nil]
      exact congrArg Except.ok (Int.add_zero start).symm
    | cons line l ih =>
      intro start hnonneg hsum
      obtain ⟨-, hrest⟩ := List.forall_mem_cons.mp hnonneg
      have htail := subtotalOf_nonneg hrest
      rw [subtotalOf_cons] at hsum ⊢
      rw [List.foldlM_cons, checkedAdd_ok.mpr ⟨by omega, rfl⟩, ok_bind, ih _ hrest (by omega)]
      exact congrArg Except.ok (by omega)
  have hnonneg : ∀ line ∈ lines.filter isAuto, 0 ≤ line.listAmountVnd := fun line hmem =>
    (h.amount line (List.mem_of_mem_filter hmem)).1
  have hle : subtotalOf (lines.filter isAuto) ≤ subtotalOf lines := by
    refine List.Sublist.sum_le_sum (List.filter_sublist.map _) fun a ha => ?_
    obtain ⟨line, hmem, rfl⟩ := List.mem_map.mp ha
    exact (h.amount line hmem).1
  rw [eligibleSubtotal, hfold _ _ hnonneg (by omega), Int.zero_add]

def weightsOf (lines : List PromotionLine) : List (String × Int) :=
  lines.map fun line => (line.lineId, line.listAmountVnd)

lemma groupShares_eq : groupShares lines rate =
    sharesOf (weightsOf lines) rate rateDenominator (roundedGroupDiscount (subtotalOf lines * rate)) :=
  rfl

lemma map_fst_weightsOf : (weightsOf lines).map Prod.fst = lines.map PromotionLine.lineId := by
  rw [weightsOf, List.map_map]
  rfl

lemma map_snd_weightsOf : (weightsOf lines).map Prod.snd = lines.map PromotionLine.listAmountVnd := by
  rw [weightsOf, List.map_map]
  rfl

lemma balanced_rounded : LargestRemainder.Balanced (weightsOf lines) rate rateDenominator
    (roundedGroupDiscount (subtotalOf lines * rate)) := by
  have hdenominator : 0 < rateDenominator := by decide
  have hsum := sum_floors_remainders (weightsOf lines) rate rateDenominator
  obtain ⟨hlow, hhigh⟩ := sum_remainders_bounds (weightsOf lines) rate hdenominator
  rw [map_snd_weightsOf] at hsum
  rw [LargestRemainder.Balanced, roundedGroupDiscount, subtotalOf, ← hsum]
  simp only [rateDenominator] at hlow hhigh ⊢
  omega

lemma mem_rateGroup : line ∈ rateGroup lines rate ↔
    line ∈ lines ∧ line.resolution = .autoIfTargeted ∧ line.rateBps = some rate := by
  rw [rateGroup, List.mem_filter, Bool.and_eq_true, isAuto, decide_eq_true_eq, decide_eq_true_eq]

lemma mem_rates : rate ∈ rates lines ↔
    ∃ line ∈ lines, line.resolution = .autoIfTargeted ∧ line.rateBps = some rate := by
  rw [rates, sortedSet, mem_sortBy, List.mem_dedup, List.mem_filterMap]
  constructor
  · rintro ⟨line, hmem, hrate⟩
    rw [List.mem_filter, isAuto, decide_eq_true_eq] at hmem
    exact ⟨line, hmem.1, hmem.2, hrate⟩
  · rintro ⟨line, hmem, hauto, hrate⟩
    exact ⟨line, List.mem_filter.mpr ⟨hmem, decide_eq_true hauto⟩, hrate⟩

lemma map_fst_groupShares : ((groupShares lines rate).map Prod.fst).Perm
    (lines.map PromotionLine.lineId) := by
  rw [groupShares_eq, map_fst_sharesOf, ← map_fst_weightsOf]
  exact (sortBy_perm _ _).map _

lemma sum_groupShares : ((groupShares lines rate).map Prod.snd).sum =
    roundedGroupDiscount (subtotalOf lines * rate) := by
  rw [groupShares_eq, map_snd_sharesOf]
  exact sum_finalAllocations (by decide) balanced_rounded

lemma mem_groupShares {k : String} {x : Int} (h : (k, x) ∈ groupShares lines rate) :
    ∃ line ∈ lines, line.lineId = k ∧
      (x = line.listAmountVnd * rate / rateDenominator ∨
        x = line.listAmountVnd * rate / rateDenominator + 1 ∧
          line.listAmountVnd * rate % rateDenominator ≠ 0) := by
  rw [groupShares_eq] at h
  obtain ⟨w, hw, hx⟩ := mem_sharesOf (by decide) balanced_rounded h
  obtain ⟨line, hline, heq⟩ := List.mem_map.mp hw
  cases heq
  exact ⟨line, hline, rfl, hx⟩

lemma eq_of_lineId (h : ValidLines lines) {other : PromotionLine} (hline : line ∈ lines)
    (hother : other ∈ lines) (hid : line.lineId = other.lineId) : line = other :=
  List.inj_on_of_nodup_map h.distinct hline hother hid

lemma nodup_allocations (h : ValidLines lines) : ((allocations lines).map Prod.fst).Nodup := by
  rw [allocations, List.map_flatMap, List.nodup_flatMap]
  constructor
  · intro rate _
    rw [map_fst_groupShares.nodup_iff]
    exact h.distinct.sublist (List.filter_sublist.map _)
  · refine (nodup_sortedSet _).imp fun {a b} hne => ?_
    intro k ha hb
    rw [map_fst_groupShares.mem_iff, List.mem_map] at ha hb
    obtain ⟨line, hline, rfl⟩ := ha
    obtain ⟨other, hother, hid⟩ := hb
    rw [mem_rateGroup] at hline hother
    rw [eq_of_lineId h hother.1 hline.1 hid, hline.2.2, Option.some_inj] at hother
    exact hne hother.2.2

lemma mem_map_fst_allocations {k : String} : k ∈ (allocations lines).map Prod.fst ↔
    ∃ rate, ∃ line ∈ rateGroup lines rate, line.lineId = k := by
  rw [allocations, List.map_flatMap, List.mem_flatMap]
  constructor
  · rintro ⟨rate, -, hk⟩
    obtain ⟨line, hline, hid⟩ := List.mem_map.mp (map_fst_groupShares.mem_iff.mp hk)
    exact ⟨rate, line, hline, hid⟩
  · rintro ⟨rate, line, hline, hid⟩
    obtain ⟨hmem, hauto, hrate⟩ := mem_rateGroup.mp hline
    exact ⟨rate, mem_rates.mpr ⟨line, hmem, hauto, hrate⟩,
      map_fst_groupShares.mem_iff.mpr (List.mem_map.mpr ⟨line, hline, hid⟩)⟩

lemma lookup_auto (h : ValidLines lines) (hline : line ∈ lines)
    (hauto : line.resolution = .autoIfTargeted) (hrate : line.rateBps = some rate) :
    ∃ x, (allocations lines).lookup line.lineId = some x ∧
      (x = line.listAmountVnd * rate / rateDenominator ∨
        x = line.listAmountVnd * rate / rateDenominator + 1 ∧
          line.listAmountVnd * rate % rateDenominator ≠ 0) := by
  have hgroup : line ∈ rateGroup lines rate := mem_rateGroup.mpr ⟨hline, hauto, hrate⟩
  have hkey : line.lineId ∈ (groupShares (rateGroup lines rate) rate).map Prod.fst :=
    map_fst_groupShares.mem_iff.mpr (List.mem_map_of_mem hgroup)
  obtain ⟨⟨k, x⟩, hshare, hk⟩ := List.mem_map.mp hkey
  obtain ⟨other, hother, hid, hx⟩ := mem_groupShares hshare
  have hsame : other = line := eq_of_lineId h (mem_rateGroup.mp hother).1 hline (hid.trans hk)
  rw [hsame] at hx
  refine ⟨x, lookup_of_mem (nodup_allocations h) ?_, hx⟩
  rw [← hk]
  exact List.mem_flatMap.mpr ⟨rate, mem_rates.mpr ⟨line, hline, hauto, hrate⟩, hshare⟩

lemma lookup_other (h : ValidLines lines) (hline : line ∈ lines)
    (hother : line.resolution ≠ .autoIfTargeted) : (allocations lines).lookup line.lineId = none := by
  refine lookup_of_not_mem fun hmem => ?_
  obtain ⟨rate, targeted, htargeted, hid⟩ := mem_map_fst_allocations.mp hmem
  obtain ⟨hin, hauto, -⟩ := mem_rateGroup.mp htargeted
  rw [eq_of_lineId h hin hline hid] at hauto
  exact hother hauto

lemma sharesTotal_allocations : sharesTotal (allocations lines) =
    ((rates lines).map fun rate => roundedGroupDiscount (subtotalOf (rateGroup lines rate) * rate)).sum := by
  rw [sharesTotal, allocations, List.map_flatMap, List.flatMap_def, List.sum_flatten, List.map_map]
  refine congrArg List.sum (List.map_congr_left fun rate _ => ?_)
  exact sum_groupShares

lemma discount_spec (h : ValidLines lines) (hline : line ∈ lines) :
    (line.resolution = .autoIfTargeted → ∃ rate, line.rateBps = some rate ∧
      |(adjustmentOf (allocations lines) line).discountVnd * rateDenominator -
        line.listAmountVnd * rate| < rateDenominator) ∧
    (line.resolution ≠ .autoIfTargeted →
      (adjustmentOf (allocations lines) line).discountVnd = 0) ∧
    0 ≤ (adjustmentOf (allocations lines) line).discountVnd ∧
    (adjustmentOf (allocations lines) line).discountVnd ≤ line.listAmountVnd := by
  have hamount := (h.amount line hline).1
  by_cases hauto : line.resolution = .autoIfTargeted
  · have hfits := h.rate line hline
    cases hrate : line.rateBps with
    | none =>
      rw [rateFits, hauto, hrate] at hfits
      exact hfits.elim
    | some rate =>
      rw [rateFits, hauto, hrate] at hfits
      obtain ⟨x, hfound, hx⟩ := lookup_auto h hline hauto hrate
      have hdiscount : (adjustmentOf (allocations lines) line).discountVnd = x := by
        rw [adjustmentOf, hfound, Option.getD_some]
      obtain ⟨hbelow, habove⟩ := share_close (by decide) hx
      obtain ⟨hlow, hhigh⟩ := share_bounds hamount hfits.1.le hfits.2 (by decide) hx
      rw [hdiscount]
      refine ⟨fun _ => ⟨rate, rfl, ?_⟩, fun hnot => absurd hauto hnot, hlow, hhigh⟩
      rw [abs_lt, Int.mul_comm x]
      constructor
      · linarith
      · linarith
  · have hdiscount : (adjustmentOf (allocations lines) line).discountVnd = 0 := by
      rw [adjustmentOf, lookup_other h hline hauto, Option.getD_none]
    rw [hdiscount]
    exact ⟨fun hnot => absurd hnot hauto, fun _ => rfl, le_rfl, hamount⟩

lemma sum_discounts (h : ValidLines lines) :
    ((lines.map (adjustmentOf (allocations lines))).map PromotionLineAdjustment.discountVnd).sum =
      sharesTotal (allocations lines) := by
  have hkeys : ∀ k ∈ (allocations lines).map Prod.fst, k ∈ lines.map PromotionLine.lineId := by
    intro k hk
    obtain ⟨rate, line, hline, rfl⟩ := mem_map_fst_allocations.mp hk
    exact List.mem_map_of_mem (mem_rateGroup.mp hline).1
  rw [sharesTotal, ← sum_lookup (nodup_allocations h) h.distinct hkeys, List.map_map, List.map_map]
  rfl

lemma sharesTotal_le (h : ValidLines lines) : sharesTotal (allocations lines) ≤ subtotalOf lines := by
  rw [← sum_discounts h, subtotalOf, List.map_map]
  exact List.sum_le_sum fun line hline => (discount_spec h hline).2.2.2

variable {policy : PromotionPolicy} {occasion : Occasion} {result : PromotionResult}

lemma rates_perm (hp : lines.Perm lines') : rates lines = rates lines' := by
  refine sortedSet_congr fun rate => ?_
  exact ((hp.filter _).filterMap _).mem_iff

lemma weightsOf_perm (hp : lines.Perm lines') : (weightsOf lines).Perm (weightsOf lines') := hp.map _

lemma groupAllocation_perm (hd : (lines.map PromotionLine.lineId).Nodup) (hp : lines.Perm lines') :
    groupAllocation lines rate = groupAllocation lines' rate := by
  rw [groupAllocation, groupAllocation, subtotalOf_perm hp]
  have hids : ((weightsOf lines).map Prod.fst).Nodup := by
    rw [map_fst_weightsOf]
    exact hd
  exact allocate_perm (weightsOf_perm hp) hids

lemma nodup_rateGroup (h : ValidLines lines) :
    ((rateGroup lines rate).map PromotionLine.lineId).Nodup :=
  h.distinct.sublist (List.filter_sublist.map _)

lemma allocations_perm (h : ValidLines lines) (hp : lines.Perm lines') :
    allocations lines = allocations lines' := by
  rw [allocations, allocations, rates_perm hp]
  refine List.flatMap_congr fun rate _ => ?_
  rw [groupShares, groupShares, groupAllocation_perm (nodup_rateGroup h) (hp.filter _)]
  rfl

lemma allocationGroups_perm (h : ValidLines lines) (hp : lines.Perm lines') :
    allocationGroups lines = allocationGroups lines' := by
  rw [allocationGroups, allocationGroups, rates_perm hp]
  refine List.map_congr_left fun rate _ => ?_
  rw [groupTrace, groupTrace, groupAllocation_perm (nodup_rateGroup h) (hp.filter _)]
  congr 1
  · exact subtotalOf_perm (hp.filter _)
  · exact congrArg (· * rate) (subtotalOf_perm (hp.filter _))
  · exact congrArg (fun s => roundedGroupDiscount (s * rate)) (subtotalOf_perm (hp.filter _))

lemma any_perm (p : PromotionLine → Bool) (hp : lines.Perm lines') : lines.any p = lines'.any p :=
  hp.any_eq

lemma relevant_perm (hp : lines.Perm lines') : relevant lines = relevant lines' := by
  rw [relevant, relevant, any_perm _ hp, any_perm _ hp]

lemma applies_perm (hp : lines.Perm lines') :
    applies policy lines occasion = applies policy lines' occasion := by
  rw [applies, applies, relevant_perm hp]

lemma firstStatus_perm (hp : lines.Perm lines') :
    firstStatus policy lines occasion = firstStatus policy lines' occasion := by
  rw [firstStatus, firstStatus, relevant_perm hp, any_perm _ hp]

lemma appliedShares_perm (h : ValidLines lines) (hp : lines.Perm lines') :
    appliedShares policy lines occasion = appliedShares policy lines' occasion := by
  rw [appliedShares, appliedShares, applies_perm hp, allocations_perm h hp]

lemma appliedGroups_perm (h : ValidLines lines) (hp : lines.Perm lines') :
    appliedGroups policy lines occasion = appliedGroups policy lines' occasion := by
  rw [appliedGroups, appliedGroups, applies_perm hp, allocationGroups_perm h hp]

lemma appliedShares_inside (lines : List PromotionLine)
    (hinside : insideInterval policy (referenceAt occasion) = true) :
    appliedShares policy lines occasion = allocations lines := by
  rw [appliedShares, applies, hinside, Bool.and_true]
  split_ifs with hrelevant
  · rfl
  · have hnone : rates lines = [] := by
      refine List.eq_nil_iff_forall_not_mem.mpr fun rate hrate => ?_
      obtain ⟨line, hline, hauto, -⟩ := mem_rates.mp hrate
      refine hrelevant ?_
      rw [relevant, List.any_eq_true.mpr ⟨line, hline, decide_eq_true hauto⟩, Bool.true_or]
    rw [allocations, hnone, List.flatMap_nil]

lemma evaluatePromotion_ok (h : evaluatePromotion policy lines occasion = .ok result) :
    ValidLines lines ∧ subtotalOf lines ≤ maxBigintVnd ∧
      result.listServiceSubtotalVnd = subtotalOf lines ∧
      result.discountAmountVnd = sharesTotal (appliedShares policy lines occasion) ∧
      result.adjustments = lines.map (adjustmentOf (appliedShares policy lines occasion)) := by
  obtain ⟨_, -, h⟩ := bind_ok.mp h
  obtain ⟨_, -, h⟩ := bind_ok.mp h
  obtain ⟨_, -, h⟩ := bind_ok.mp h
  obtain ⟨_, -, h⟩ := bind_ok.mp h
  obtain ⟨_, -, h⟩ := bind_ok.mp h
  obtain ⟨subtotal, hsubtotal, h⟩ := bind_ok.mp h
  obtain ⟨hvalid, -, hroom, rfl⟩ := (listSubtotal_ok (by decide)).mp hsubtotal
  rw [Int.zero_add] at hroom
  dsimp only at h
  split at h
  all_goals
    obtain ⟨eligible, -, h⟩ := bind_ok.mp h
    obtain ⟨_, -, h⟩ := bind_ok.mp h
    obtain ⟨total, -, h⟩ := bind_ok.mp h
    cases h
    exact ⟨hvalid, hroom, Int.zero_add _, rfl, rfl⟩

lemma evaluatePromotion_perm (hp : lines.Perm lines')
    (h : evaluatePromotion policy lines occasion = .ok result) :
    evaluatePromotion policy lines' occasion = .ok
      { result with
        adjustments := lines'.map (adjustmentOf (appliedShares policy lines occasion)) } := by
  obtain ⟨hvalid, hroom, -⟩ := evaluatePromotion_ok h
  have hvalid' := hvalid.perm hp
  rw [evaluatePromotion] at h ⊢
  obtain ⟨_, hpolicy, h⟩ := bind_ok.mp h
  obtain ⟨_, haware, h⟩ := bind_ok.mp h
  obtain ⟨_, hevent, h⟩ := bind_ok.mp h
  obtain ⟨_, hfee, h⟩ := bind_ok.mp h
  obtain ⟨_, hlines, h⟩ := bind_ok.mp h
  obtain ⟨subtotal, hsubtotal, h⟩ := bind_ok.mp h
  have hlines' : ¬ lines'.isEmpty = true := by
    have hne := require_ok.mp hlines
    rw [List.isEmpty_iff] at hne ⊢
    rintro rfl
    exact hne hp.eq_nil
  have heligible : eligibleSubtotal lines' = eligibleSubtotal lines := by
    rw [eligibleSubtotal_ok hvalid hroom, subtotalOf_perm (hp.filter _),
      eligibleSubtotal_ok hvalid' (by rw [← subtotalOf_perm hp]; exact hroom)]
  have hstatus : status policy lines' occasion = status policy lines occasion := by
    rw [status, status, firstStatus_perm hp]
  have houtcome : outcome policy lines' occasion = outcome policy lines occasion := by
    rw [outcome, outcome, firstStatus_perm hp]
  have hreasons : ∀ discount,
      reasons policy lines' occasion discount = reasons policy lines occasion discount := by
    intro discount
    rw [reasons, reasons, firstStatus_perm hp, any_perm _ hp]
  rw [hpolicy, ok_bind, haware, ok_bind, hevent, ok_bind, hfee, ok_bind, require_true hlines', ok_bind,
    listSubtotal_perm hp hsubtotal, ok_bind, heligible, ← applies_perm hp, ← appliedShares_perm hvalid hp,
    ← appliedGroups_perm hvalid hp, hstatus, houtcome]
  simp only [hreasons]
  dsimp only at h
  split at h
  all_goals
    next happlies =>
      obtain ⟨eligible, hresult, h⟩ := bind_ok.mp h
      obtain ⟨_, hbounded, h⟩ := bind_ok.mp h
      obtain ⟨total, htotal, h⟩ := bind_ok.mp h
      cases h
      simp [happlies, hresult, hbounded, htotal]

def lineOf (adjustment : PromotionLineAdjustment) : PromotionLine :=
  ⟨adjustment.lineId, adjustment.listAmountVnd, adjustment.resolution, adjustment.rateBps⟩

theorem promotion_arithmetic (policy : PromotionPolicy) (lines : List PromotionLine)
    (occasion : Occasion) (hinside : insideInterval policy (referenceAt occasion) = true) :
    (∀ subtotal, listSubtotal lines [] 0 = .ok subtotal →
      sharesTotal (appliedShares policy lines occasion) ≤ subtotal) ∧
    ∀ result, evaluatePromotion policy lines occasion = .ok result →
      result.discountAmountVnd = ((rates lines).map fun rate =>
        (subtotalOf (rateGroup lines rate) * rate + 5000) / 10000).sum ∧
      result.adjustments.map lineOf = lines ∧
      (∀ a ∈ result.adjustments,
        (a.resolution = .autoIfTargeted → ∃ rate, a.rateBps = some rate ∧
          |a.discountVnd * 10000 - a.listAmountVnd * rate| < 10000) ∧
        (a.resolution ≠ .autoIfTargeted → a.discountVnd = 0) ∧
        0 ≤ a.discountVnd ∧ a.discountVnd ≤ a.listAmountVnd) ∧
      (result.adjustments.map PromotionLineAdjustment.discountVnd).sum = result.discountAmountVnd ∧
      ∀ lines', lines.Perm lines' → ∃ adjustments,
        evaluatePromotion policy lines' occasion = .ok { result with adjustments } ∧
        result.adjustments.Perm adjustments := by
  have hshares := appliedShares_inside lines hinside
  constructor
  · intro subtotal hsubtotal
    obtain ⟨hvalid, -, -, rfl⟩ := (listSubtotal_ok (by decide)).mp hsubtotal
    rw [hshares, Int.zero_add]
    exact sharesTotal_le hvalid
  · intro result hresult
    obtain ⟨hvalid, -, -, hdiscount, hadjustments⟩ := evaluatePromotion_ok hresult
    have hpermuted := fun lines' (hp : lines.Perm lines') => evaluatePromotion_perm hp hresult
    rw [hshares] at hdiscount hadjustments hpermuted
    refine ⟨?_, ?_, ?_, ?_, fun lines' hp => ⟨_, hpermuted lines' hp, ?_⟩⟩
    · rw [hdiscount, sharesTotal_allocations]
      rfl
    · rw [hadjustments, List.map_map]
      exact List.map_id lines
    · intro a ha
      rw [hadjustments] at ha
      obtain ⟨line, hline, rfl⟩ := List.mem_map.mp ha
      exact discount_spec hvalid hline
    · rw [hadjustments, hdiscount]
      exact sum_discounts hvalid
    · rw [hadjustments]
      exact hp.map _

def augustPolicy : PromotionPolicy where
  code := "AUGUST"
  startAt := .ofUtc (739464 * dayMicros) (by decide)
  endAtExclusive := .ofUtc (739495 * dayMicros) (by decide)
  timezone := "Asia/Ho_Chi_Minh"
  eligibilityEvent := some .quotePresented
  stackingAllowed := false

def augustMorning : Occasion where
  evaluationAt := .ofUtc (739470 * dayMicros) (by decide)
  eligibilityEvent := none
  eligibilityAt := none
  deliveryFeeVnd := 15000
  otherPromotionPresent := false

def augustLines : List PromotionLine :=
  [⟨"line-2", 33333, .autoIfTargeted, some 1500⟩, ⟨"line-1", 33333, .autoIfTargeted, some 1500⟩,
    ⟨"line-3", 80000, .notEligible, none⟩]

/-- A third of the lines has no rate, and the two others share the odd dong of their group. -/
theorem augustLines_arithmetic :
    (∃ subtotal, listSubtotal augustLines [] 0 = .ok subtotal ∧
      sharesTotal (appliedShares augustPolicy augustLines augustMorning) ≤ subtotal) ∧
    ∃ result, evaluatePromotion augustPolicy augustLines augustMorning = .ok result ∧
      result.discountAmountVnd = ((rates augustLines).map fun rate =>
        (subtotalOf (rateGroup augustLines rate) * rate + 5000) / 10000).sum ∧
      result.adjustments.map lineOf = augustLines ∧
      (∀ a ∈ result.adjustments,
        (a.resolution = .autoIfTargeted → ∃ rate, a.rateBps = some rate ∧
          |a.discountVnd * 10000 - a.listAmountVnd * rate| < 10000) ∧
        (a.resolution ≠ .autoIfTargeted → a.discountVnd = 0) ∧
        0 ≤ a.discountVnd ∧ a.discountVnd ≤ a.listAmountVnd) ∧
      (result.adjustments.map PromotionLineAdjustment.discountVnd).sum = result.discountAmountVnd ∧
      ∀ lines', augustLines.Perm lines' → ∃ adjustments,
        evaluatePromotion augustPolicy lines' augustMorning = .ok { result with adjustments } ∧
        result.adjustments.Perm adjustments := by
  obtain ⟨hlisted, hevaluated⟩ :=
    promotion_arithmetic augustPolicy augustLines augustMorning (by decide)
  have hsubtotal : listSubtotal augustLines [] 0 = .ok 146666 := by decide
  have hreturns : (evaluatePromotion augustPolicy augustLines augustMorning).toOption.isSome := by
    decide +kernel
  refine ⟨⟨_, hsubtotal, hlisted _ hsubtotal⟩, ?_⟩
  cases hresult : evaluatePromotion augustPolicy augustLines augustMorning with
  | error e =>
    rw [hresult] at hreturns
    cases hreturns
  | ok result => exact ⟨result, rfl, hevaluated result hresult⟩

end NhaTrangLaundry.Domain.Promotion
