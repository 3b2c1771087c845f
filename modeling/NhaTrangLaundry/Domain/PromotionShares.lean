import NhaTrangLaundry.Domain.AcceptedRevisions

/-! What a promotion takes off each line: evaluations of the same lines that grant the same discount
share it alike. -/

namespace NhaTrangLaundry.Domain.QuoteComposition

open Lib Catalog Canonical Outcome Sorting Distinct Quotes Promotion RangePrices Remedies StrEnum
open LargestRemainder (Allocation lookup_of_mem)

def resultShare (result : PromotionResult) (lineId : String) : Int :=
  ((allocatedOf result).lookup lineId).getD 0

lemma lookup_zero {α : Type} (key : α → String) (items : List α) (k : String) :
    ((items.map fun item => (key item, (0 : Int))).lookup k).getD 0 = 0 := by
  induction items with
  | nil => rfl
  | cons item items ih =>
    rw [List.map_cons, List.lookup_cons]
    split
    · rfl
    · exact ih

section Evaluations

variable {policy policy' : PromotionPolicy} {lines lines' : List PromotionLine}
  {occasion occasion' : Occasion} {raw raw' : PromotionResult} {line : PromotionLine}

lemma resultShare_raw (h : evaluatePromotion policy lines occasion = .ok raw) (hline : line ∈ lines) :
    resultShare raw line.lineId =
      ((appliedShares policy lines occasion).lookup line.lineId).getD 0 := by
  obtain ⟨hvalid, -, -, -, hadjustments⟩ := evaluatePromotion_ok h
  have hrows : allocatedOf raw = lines.map fun line =>
      (line.lineId, ((appliedShares policy lines occasion).lookup line.lineId).getD 0) := by
    rw [allocatedOf, hadjustments, List.map_map]
    rfl
  have hkeys : ((allocatedOf raw).map Prod.fst).Nodup := by
    rw [hrows, List.map_map]
    exact hvalid.distinct
  have hmem : (line.lineId, ((appliedShares policy lines occasion).lookup line.lineId).getD 0) ∈
      allocatedOf raw := by
    rw [hrows]
    exact List.mem_map_of_mem hline
  rw [resultShare, lookup_of_mem hkeys hmem, Option.getD_some]

lemma share_zero (hvalid : ValidLines lines) (hzero : sharesTotal (allocations lines) = 0)
    (hline : line ∈ lines) : ((allocations lines).lookup line.lineId).getD 0 = 0 := by
  have hspec : ∀ line ∈ lines, 0 ≤ (adjustmentOf (allocations lines) line).discountVnd :=
    fun line hline => (discount_spec hvalid hline).2.2.1
  have hle : (adjustmentOf (allocations lines) line).discountVnd ≤
      ((lines.map (adjustmentOf (allocations lines))).map
        PromotionLineAdjustment.discountVnd).sum := by
    refine List.single_le_sum ?_ _ ?_
    · intro x hx
      rw [List.map_map] at hx
      obtain ⟨other, hother, rfl⟩ := List.mem_map.mp hx
      exact hspec other hother
    · exact List.mem_map_of_mem (List.mem_map_of_mem hline)
  rw [sum_discounts hvalid, hzero] at hle
  exact le_antisymm hle (hspec line hline)

lemma resultShare_granted (h : evaluatePromotion policy lines occasion = .ok raw)
    (hline : line ∈ lines) : resultShare (granted raw) line.lineId =
      if (granted raw).discountAmountVnd = 0 then 0
      else ((allocations lines).lookup line.lineId).getD 0 := by
  obtain ⟨hvalid, -, -, hdiscount, -⟩ := evaluatePromotion_ok h
  rw [granted]
  split_ifs with hwithheld hzero hzero
  · rw [resultShare, allocatedOf, withheldByStacking, List.map_map]
    exact lookup_zero PromotionLineAdjustment.lineId _ _
  · exact absurd rfl hzero
  · rw [resultShare_raw h hline]
    rw [hdiscount, appliedShares] at hzero
    rw [appliedShares]
    split_ifs at hzero ⊢ with happlies
    · exact share_zero hvalid hzero hline
    · rfl
  · rw [resultShare_raw h hline]
    rw [hdiscount, appliedShares] at hzero
    rw [appliedShares]
    split_ifs at hzero ⊢ with happlies
    · rfl
    · exact absurd rfl hzero

lemma resultShare_agree (h : evaluatePromotion policy lines occasion = .ok raw)
    (h' : evaluatePromotion policy' lines' occasion' = .ok raw') (hperm : lines.Perm lines')
    (hsame : (granted raw').discountAmountVnd = (granted raw).discountAmountVnd)
    (hline : line ∈ lines) :
    resultShare (granted raw') line.lineId = resultShare (granted raw) line.lineId := by
  obtain ⟨hvalid, -⟩ := evaluatePromotion_ok h
  rw [resultShare_granted h' (hperm.mem_iff.mp hline), resultShare_granted h hline, hsame,
    allocations_perm hvalid hperm]

lemma sum_granted (h : evaluatePromotion policy lines occasion = .ok raw) :
    ((granted raw).adjustments.map PromotionLineAdjustment.discountVnd).sum =
      (granted raw).discountAmountVnd := by
  obtain ⟨hvalid, -, -, hdiscount, hadjustments⟩ := evaluatePromotion_ok h
  rw [granted]
  split_ifs with hwithheld
  · rw [withheldByStacking, List.map_map]
    exact List.sum_eq_zero fun x hx => by
      obtain ⟨item, -, rfl⟩ := List.mem_map.mp hx
      rfl
  · rw [hadjustments, hdiscount, appliedShares]
    split_ifs with happlies
    · exact sum_discounts hvalid
    · rw [List.map_map]
      exact List.sum_eq_zero fun x hx => by
        obtain ⟨item, -, rfl⟩ := List.mem_map.mp hx
        rfl

end Evaluations

def Discounted (line : QuoteLineSnapshot) (discount : Int) : Prop :=
  line.amounts.discountMin = discount ∧ line.amounts.discountMax = discount

lemma discounted_promotion {line : QuoteLineSnapshot} (hexact : line.amounts.isRange = false)
    (h : Discounted line 0) (allocated : List (String × Int)) :
    Discounted (discountedLine allocated line) ((allocated.lookup line.lineId).getD 0) := by
  rw [discountedLine]
  split
  · next amounts hamounts =>
    rw [hamounts] at hexact
    cases hexact
  · split
    · next hnone =>
      rw [hnone]
      exact h
    · next share hshare =>
      rw [hshare]
      split_ifs with hzero
      · rw [hzero]
        exact h
      · exact ⟨rfl, rfl⟩

lemma discounted_credit {line : QuoteLineSnapshot} {discount : Int}
    (hexact : line.amounts.isRange = false) (h : Discounted line discount)
    (shares : List (String × Int)) : Discounted (creditedLine shares line)
      (discount + (shares.lookup line.lineId).getD 0) := by
  obtain ⟨hmin, hmax⟩ := h
  rw [creditedLine]
  split
  · next amounts hamounts =>
    rw [hamounts] at hexact
    cases hexact
  · next amounts hamounts =>
    rw [hamounts] at hmin hmax
    rw [← hmin]
    exact ⟨rfl, rfl⟩

lemma promotionLine_discounted (program : PromotionProgram) (allocated : List (String × Int))
    (line : QuoteLineSnapshot) :
    promotionLine program (discountedLine allocated line) = promotionLine program line := by
  rw [discountedLine]
  split
  · rfl
  · next amounts hamounts =>
    split
    · rfl
    · split_ifs
      · rfl
      · rw [promotionLine, promotionLine, hamounts]

lemma promotionLine_credited (program : PromotionProgram) (shares : List (String × Int))
    (line : QuoteLineSnapshot) :
    promotionLine program (creditedLine shares line) = promotionLine program line := by
  rw [creditedLine]
  split
  · rfl
  · next amounts hamounts => rw [promotionLine, promotionLine, hamounts]

lemma promotionLine_exact {program : PromotionProgram} {line : QuoteLineSnapshot}
    {one : PromotionLine} (h : promotionLine program line = .ok one) :
    line.amounts.isRange = false ∧ one.lineId = line.lineId := by
  rw [promotionLine] at h
  split at h
  · next amounts hamounts =>
    cases h
    exact ⟨by rw [hamounts]; rfl, rfl⟩
  · cases h

lemma creditWeight_exact {line : QuoteLineSnapshot} {weight : String × Int}
    (h : creditWeight line = .ok weight) : line.amounts.isRange = false := by
  rw [creditWeight] at h
  split at h
  · next amounts hamounts =>
    rw [hamounts]
    rfl
  · cases h

lemma forall₂_mem_left {α β : Type} {R : α → β → Prop} {l : List α} {m : List β}
    (h : List.Forall₂ R l m) {a : α} (ha : a ∈ l) : ∃ b ∈ m, R a b := by
  induction h with
  | nil => cases ha
  | cons hone _ ih =>
    rcases List.mem_cons.mp ha with rfl | hmem
    · exact ⟨_, List.mem_cons_self, hone⟩
    · obtain ⟨b, hb, hab⟩ := ih hmem
      exact ⟨b, List.mem_cons_of_mem _ hb, hab⟩

/-- The evaluation of a programme on these lines, in some order. -/
structure Evaluated (lines : List QuoteLineSnapshot) (published : PublishedPromotionProgram)
    (result : PromotionResult) : Prop where
  evaluation : ∃ promotionLines ordered occasion raw,
    lines.mapM (promotionLine published.program) = .ok promotionLines ∧
      promotionLines.Perm ordered ∧
      evaluatePromotion published.program.policy ordered occasion = .ok raw ∧ result = granted raw

lemma mapM_of_map {program : PromotionProgram} {f : QuoteLineSnapshot → QuoteLineSnapshot}
    (hf : ∀ line, promotionLine program (f line) = promotionLine program line)
    {lines : List QuoteLineSnapshot} {promotionLines : List PromotionLine}
    (h : lines.mapM (promotionLine program) = .ok promotionLines) :
    (lines.map f).mapM (promotionLine program) = .ok promotionLines := by
  refine mapM_ok.mpr (List.forall₂_map_left_iff.mpr ?_)
  exact (mapM_ok.mp h).imp fun line one hone => (hf line).trans hone

lemma Evaluated.of_map {lines lines' : List QuoteLineSnapshot} {result : PromotionResult}
    {published : PublishedPromotionProgram} {f : QuoteLineSnapshot → QuoteLineSnapshot}
    (h : Evaluated lines published result)
    (hf : ∀ line, promotionLine published.program (f line) = promotionLine published.program line)
    (hperm : lines'.Perm (lines.map f)) : Evaluated lines' published result := by
  obtain ⟨promotionLines, ordered, occasion, raw, hlines, hordered, hraw, hresult⟩ := h.evaluation
  obtain ⟨promotionLines', hlines', hperm'⟩ := mapM_perm hperm (mapM_of_map hf hlines)
  exact ⟨promotionLines', ordered, occasion, raw, hlines', hperm'.trans hordered, hraw, hresult⟩

lemma Evaluated.exact {lines : List QuoteLineSnapshot} {published : PublishedPromotionProgram}
    {result : PromotionResult} (h : Evaluated lines published result) :
    ∀ line ∈ lines, line.amounts.isRange = false := by
  obtain ⟨promotionLines, _, _, _, hlines, -⟩ := h.evaluation
  intro line hline
  obtain ⟨one, -, hone⟩ := forall₂_mem_left (mapM_ok.mp hlines) hline
  exact (promotionLine_exact hone).1

lemma Evaluated.agree {lines : List QuoteLineSnapshot}
    {published published' : PublishedPromotionProgram} {result result' : PromotionResult}
    (h : Evaluated lines published result) (h' : Evaluated lines published' result')
    (hprogram : published'.program = published.program)
    (hsame : result'.discountAmountVnd = result.discountAmountVnd) :
    ∀ line ∈ lines, resultShare result' line.lineId = resultShare result line.lineId := by
  obtain ⟨promotionLines, ordered, _, raw, hlines, hordered, hraw, rfl⟩ := h.evaluation
  obtain ⟨promotionLines', ordered', _, raw', hlines', hordered', hraw', rfl⟩ := h'.evaluation
  rw [hprogram, hlines] at hlines'
  cases hlines'
  intro line hline
  obtain ⟨one, hmem, hone⟩ := forall₂_mem_left (mapM_ok.mp hlines) hline
  rw [← (promotionLine_exact hone).2]
  exact resultShare_agree hraw hraw' (hordered.symm.trans hordered') hsame
    (hordered.mem_iff.mp hmem)

lemma Evaluated.sum {lines : List QuoteLineSnapshot} {published : PublishedPromotionProgram}
    {result : PromotionResult} (h : Evaluated lines published result) :
    (result.adjustments.map PromotionLineAdjustment.discountVnd).sum = result.discountAmountVnd := by
  obtain ⟨_, _, _, raw, -, -, hraw, rfl⟩ := h.evaluation
  exact sum_granted hraw

lemma evaluated_ok {published : PublishedPromotionProgram} {lines : List QuoteLineSnapshot}
    {adjustments : List QuoteAdjustmentSnapshot} {evaluationAt : Datetime}
    {eligibilityAt : Option Datetime} {result : PromotionResult}
    (h : evaluated published lines adjustments evaluationAt eligibilityAt = .ok result) :
    Evaluated lines published result := by
  obtain ⟨promotionLines, hlines, h⟩ := bind_ok.mp h
  split at h
  · next raw hraw =>
    cases h
    exact ⟨promotionLines, promotionLines, _, raw, hlines, .refl _, hraw, rfl⟩
  · cases h
  · cases h

variable [Unicodedata]

/-- One evaluation, as it is put onto the revision. -/
structure Projected (published : PublishedPromotionProgram) (lines : List QuoteLineSnapshot)
    (result : PromotionResult) (trace : CalculationTraceSnapshot) (outcome : PromotionOutcome) :
    Prop where
  traces : outcome.traces = [trace]
  captured : capturePromotion result published = .ok trace
  discounted : outcome.lines = lines.map (discountedLine (allocatedOf result))
  evaluated : Evaluated lines published result
  references : outcome.configurationSnapshots = [promotionReferenceOf published]
  discount : outcome.discountVnd = result.discountAmountVnd

lemma promotionOutcome_projected {published : Option PublishedPromotionProgram}
    {lines : List QuoteLineSnapshot} {adjustments : List QuoteAdjustmentSnapshot} {banded : Bool}
    {evaluationAt : Datetime} {eligibilityAt : Option Datetime} {outcome : PromotionOutcome}
    (h : promotionOutcome published lines adjustments banded evaluationAt eligibilityAt =
      .ok outcome) :
    (outcome.traces = [] ∧ outcome.lines = lines) ∨
      ∃ programme result trace, published = some programme ∧
        Projected programme lines result trace outcome := by
  cases published with
  | none =>
    cases h
    exact .inl ⟨rfl, rfl⟩
  | some published =>
    rw [promotionOutcome] at h
    split_ifs at h with hbanded
    · cases h
      exact .inl ⟨rfl, rfl⟩
    · obtain ⟨result, hresult, h⟩ := bind_ok.mp h
      obtain ⟨trace, htrace, h⟩ := bind_ok.mp h
      cases h
      exact .inr ⟨published, result, trace, rfl, rfl, escaping_ok.mp htrace, rfl,
        evaluated_ok hresult, rfl, rfl⟩

end NhaTrangLaundry.Domain.QuoteComposition
