import NhaTrangLaundry.Domain.CancellationMoney
import NhaTrangLaundry.Domain.CreditAllocation
import NhaTrangLaundry.Domain.RemedyLimits

/-! Which of the authorised money remedies can be paid and spent. -/

namespace NhaTrangLaundry.Domain.RemedyLimits

open Lib Outcome Catalog Canonical Pricing Promotion Settlement CancellationMoney

def linePieces (line : RemedyLineFacts) : Int :=
  if (itemFee line).1 = .unit ∧ line.unitPriceVnd.isSome then wholePieces line.quantity else 1

/-- The fee of the line's items together, never above what the line was charged. -/
def lineFee (line : RemedyLineFacts) : Int :=
  if 1 < linePieces line then min ((itemFee line).2 * linePieces line) line.netAmountVnd
  else (itemFee line).2

def lineProducts (policy : RemedyPolicy) (line : RemedyLineFacts) : List Int :=
  (if 1 < linePieces line then [(itemFee line).2 * linePieces line] else []) ++
    [(itemFee line).2 * policy.damageCompensationMultiple,
      lineFee line * policy.damageCompensationMultiple]

def claimedLine (facts : RemedyOrderFacts) (request : RemedyRequest) : Option RemedyLineFacts :=
  request.orderLineId.bind fun lineId => facts.lines.lookup lineId

def products (policy : RemedyPolicy) (facts : RemedyOrderFacts) (request : RemedyRequest) :
    List Int :=
  if request.kind = .lateDeliveryCredit then
    (facts.settledTotalVnd.map fun settled => settled * policy.lateDeliveryCreditRateBps).toList
  else ((claimedLine facts request).map (lineProducts policy)).getD []

/-- An amount that the table of credits takes, that a large enough bill takes off, and that a
cancellation counts with any other credits. -/
structure Spendable (amountVnd : Int) : Prop where
  inserted : 0 < amountVnd
  allocated : ∀ nets, amountVnd ≤ Remedies.weightsTotal nets →
    ∃ allocation, Remedies.allocateRemedyCredit nets amountVnd = .ok allocation
  planned : ∀ resolution refundableVnd issued spent, wholeVnd refundableVnd →
    (∀ credit ∈ issued ++ spent, 0 < credit.amountVnd ∨ credit.amountVnd = amountVnd) →
    ∃ plan, cancellationMoneyPlan resolution refundableVnd issued spent = .ok plan

/-- The remedy can be paid and spent, and no product leaves the range of the documents. -/
structure Payable (policy : RemedyPolicy) (facts : RemedyOrderFacts) (request : RemedyRequest)
    (authorized : RemedyAuthorized) : Prop where
  amount : ∃ amountVnd ceilingVnd, authorized.amountVnd = some amountVnd ∧
    authorized.ceilingVnd = some ceilingVnd ∧ 1 ≤ amountVnd ∧ amountVnd ≤ ceilingVnd ∧
    amountVnd ≤ maxJcsInteger ∧ Spendable amountVnd
  products : ∀ product ∈ products policy facts request, product ≤ maxJcsInteger

def CreditRounds (policy : RemedyPolicy) (facts : RemedyOrderFacts) : Prop :=
  ∃ settled ∈ facts.settledTotalVnd,
    rateDenominator / 2 ≤ settled * policy.lateDeliveryCreditRateBps ∧
      settled * policy.lateDeliveryCreditRateBps ≤ maxJcsInteger

/-- The claim asks for something, and its line's fees stay in range when they are multiplied. -/
def ClaimCounts (policy : RemedyPolicy) (facts : RemedyOrderFacts) (request : RemedyRequest) : Prop :=
  (∃ amountVnd ∈ request.amountVnd, 1 ≤ amountVnd) ∧ ∀ line ∈ claimedLine facts request,
    (1 < linePieces line → (itemFee line).2 * linePieces line ≤ maxJcsInteger) ∧
      lineFee line * policy.damageCompensationMultiple ≤ maxJcsInteger

variable {policy : RemedyPolicy} {facts : RemedyOrderFacts} {request : RemedyRequest}
  {committed : RemedyCommitments} {authorized : RemedyAuthorized} {line : RemedyLineFacts}

lemma itemFee_le_net (line : RemedyLineFacts) : (itemFee line).2 ≤ line.netAmountVnd := by
  unfold itemFee
  split
  · exact le_rfl
  split
  · split
    · exact min_le_right _ _
    · split
      · exact le_rfl
      · exact le_rfl
  · exact le_rfl

lemma itemFee_le_lineFee (line : RemedyLineFacts) : (itemFee line).2 ≤ lineFee line := by
  rw [lineFee]
  split
  · next hpieces =>
    refine le_min ?_ (itemFee_le_net line)
    exact le_mul_of_one_le_right (itemFee_nonneg line) (le_of_lt hpieces)
  · exact le_rfl

lemma itemCompensationTerms_ceilings {lineId : String} {terms : ItemCompensationTerms}
    (h : itemCompensationTerms policy facts lineId = some terms) :
    ∃ line, facts.lines.lookup lineId = some line ∧
      terms.ceilingVnd = (itemFee line).2 * policy.damageCompensationMultiple ∧
      terms.lineCeilingVnd = lineFee line * policy.damageCompensationMultiple := by
  obtain ⟨line, hline, rfl⟩ := Option.map_eq_some_iff.mp h
  exact ⟨line, hline, rfl, rfl⟩

lemma lineProducts_le : (∀ product ∈ lineProducts policy line, product ≤ maxJcsInteger) ↔
    (1 < linePieces line → (itemFee line).2 * linePieces line ≤ maxJcsInteger) ∧
      lineFee line * policy.damageCompensationMultiple ≤ maxJcsInteger := by
  have hitem : (itemFee line).2 * policy.damageCompensationMultiple ≤
      lineFee line * policy.damageCompensationMultiple := by
    have hmultiple := policy.multiple_pos
    exact mul_le_mul_of_nonneg_right (itemFee_le_lineFee line) (by omega)
  constructor
  · intro h
    refine ⟨fun hpieces => h _ ?_, h _ ?_⟩
    · rw [lineProducts, if_pos hpieces]
      exact List.mem_append_left _ List.mem_cons_self
    · exact List.mem_append_right _ (by simp)
  · rintro ⟨hcount, hline⟩ product hproduct
    rw [lineProducts, List.mem_append] at hproduct
    rcases hproduct with hproduct | hproduct
    · split at hproduct
      · next hpieces =>
        rw [List.mem_singleton] at hproduct
        exact hproduct ▸ hcount hpieces
      · cases hproduct
    · simp only [List.mem_cons, List.not_mem_nil, or_false] at hproduct
      rcases hproduct with rfl | rfl
      · exact hitem.trans hline
      · exact hline

lemma spendable_of_pos {amountVnd : Int} (hpos : 1 ≤ amountVnd) (hmax : amountVnd ≤ maxJcsInteger) :
    Spendable amountVnd where
  inserted := hpos
  allocated nets hroom :=
    ⟨_, (Remedies.allocateRemedyCredit_ok hpos).mpr ⟨⟨hroom, hmax⟩, rfl⟩⟩
  planned resolution refundableVnd issued spent hwhole hcredits := by
    have hpositive : ∀ credit ∈ issued ++ spent, 0 < credit.amountVnd := by
      intro credit hcredit
      rcases hcredits credit hcredit with h | h
      · exact h
      · omega
    rw [cancellationMoneyPlan, require_true hwhole, ok_bind, require_true hpositive, ok_bind]
    split
    · exact ⟨_, rfl⟩
    · exact ⟨_, rfl⟩

lemma evaluateLateDelivery_authorized
    (h : evaluateLateDelivery policy facts request committed = .authorized authorized) :
    ∃ settled, facts.settledTotalVnd = some settled ∧ authorized.kind = request.kind ∧
      authorized.amountVnd = some (roundHalfUp (settled * policy.lateDeliveryCreditRateBps)) ∧
      authorized.ceilingVnd = some (roundHalfUp (settled * policy.lateDeliveryCreditRateBps)) := by
  unfold evaluateLateDelivery at h
  split at h
  · cases h
  split at h
  · cases h
  split at h
  · cases h
  split at h
  · cases h
  · next settled hsettled =>
    cases h
    exact ⟨settled, hsettled, rfl, rfl, rfl⟩

lemma one_le_roundHalfUp {numerator : Int} :
    1 ≤ roundHalfUp numerator ↔ rateDenominator / 2 ≤ numerator := by
  simp only [roundHalfUp, rateDenominator]
  omega

lemma roundHalfUp_le {numerator : Int} (h : rateDenominator / 2 ≤ numerator) :
    roundHalfUp numerator ≤ numerator := by
  simp only [roundHalfUp, rateDenominator] at h ⊢
  omega

lemma payable_late (hkind : request.kind = .lateDeliveryCredit)
    (h : evaluateLateDelivery policy facts request committed = .authorized authorized) :
    Payable policy facts request authorized ↔ CreditRounds policy facts := by
  obtain ⟨settled, hsettled, -, hamount, hceiling⟩ := evaluateLateDelivery_authorized h
  have hproducts : products policy facts request = [settled * policy.lateDeliveryCreditRateBps] := by
    rw [products, if_pos hkind, hsettled]
    rfl
  constructor
  · intro hpayable
    obtain ⟨amountVnd, -, hpaid, -, hpos, -⟩ := hpayable.amount
    rw [hamount, Option.some.injEq] at hpaid
    refine ⟨settled, hsettled, one_le_roundHalfUp.mp (hpaid ▸ hpos), hpayable.products _ ?_⟩
    rw [hproducts]
    exact List.mem_singleton_self _
  · rintro ⟨settled', hsettled', hhalf, hmax⟩
    rw [hsettled] at hsettled'
    cases hsettled'
    have hcredit := (roundHalfUp_le hhalf).trans hmax
    refine ⟨⟨_, _, hamount, hceiling, one_le_roundHalfUp.mpr hhalf, le_rfl, hcredit,
      spendable_of_pos (one_le_roundHalfUp.mpr hhalf) hcredit⟩, fun product hproduct => ?_⟩
    rw [hproducts, List.mem_singleton] at hproduct
    exact hproduct ▸ hmax

lemma payable_item {lineId : String} {amountVnd : Int} {terms : ItemCompensationTerms}
    (hkind : request.kind ∈ itemKinds) (hline : request.orderLineId = some lineId)
    (hasked : request.amountVnd = some amountVnd) (hvalid : validAmount amountVnd)
    (hterms : itemCompensationTerms policy facts lineId = some terms)
    (h : ItemAuthorized policy terms request committed amountVnd authorized) :
    Payable policy facts request authorized ↔ ClaimCounts policy facts request := by
  obtain ⟨line, hlookup, -⟩ := itemCompensationTerms_ceilings hterms
  have hclaimed : claimedLine facts request = some line := by
    rw [claimedLine, hline, Option.bind_some, hlookup]
  have hlate : request.kind ≠ .lateDeliveryCredit := by
    intro hlate
    rw [hlate] at hkind
    exact absurd hkind (by decide)
  have hproducts : products policy facts request = lineProducts policy line := by
    rw [products, if_neg hlate, hclaimed]
    rfl
  constructor
  · intro hpayable
    obtain ⟨paid, -, hpaid, -, hpos, -⟩ := hpayable.amount
    rw [h.amount, Option.some.injEq] at hpaid
    refine ⟨⟨amountVnd, hasked, hpaid ▸ hpos⟩, fun line' hline' => ?_⟩
    rw [hclaimed] at hline'
    cases hline'
    exact lineProducts_le.mp (hproducts ▸ hpayable.products)
  · rintro ⟨⟨asked, hasked', hpos⟩, hcounts⟩
    rw [hasked] at hasked'
    cases hasked'
    refine ⟨⟨_, _, h.amount, h.ceiling, hpos, h.withinClaim, hvalid.2,
      spendable_of_pos hpos hvalid.2⟩, ?_⟩
    rw [hproducts]
    exact lineProducts_le.mpr (hcounts line hclaimed)

/-- An authorised money remedy can be paid and spent exactly when the claim asks for something,
or the late credit rounds to something, and the products it is computed from stay in range. -/
theorem payable_iff (policy : RemedyPolicy) (facts : RemedyOrderFacts) (request : RemedyRequest)
    (requestedAt : Datetime) (committed : RemedyCommitments) (authorized : RemedyAuthorized)
    (h : evaluateRemedy policy facts request requestedAt committed = .ok (.authorized authorized))
    (hmoney : authorized.kind ≠ .freeRewash) :
    Payable policy facts request authorized ↔
      if request.kind = .lateDeliveryCredit then CreditRounds policy facts
      else ClaimCounts policy facts request := by
  rcases evaluateRemedy_cases h with ⟨hlate, hcredit⟩ | ⟨-, hfree⟩ |
    ⟨hkind, lineId, amountVnd, terms, openedAt, closesAt, hline, hasked, hvalid, hterms, hitem⟩
  · rw [if_pos hlate]
    exact payable_late hlate hcredit
  · exact absurd hfree hmoney
  · have hlate : request.kind ≠ .lateDeliveryCredit := by
      intro hlate
      rw [hlate] at hkind
      exact absurd hkind (by decide)
    rw [if_neg hlate]
    exact payable_item hkind hline hasked hvalid hterms (evaluateItem_authorized hvalid.1 hitem)

section Shirt

lemma canonical_one : Quotes.canonicalPositiveDecimal "1" = .ok () := by decide

def shirt : RemedyLineFacts where
  serviceCode := "WASH_SHIRT"
  unit := .item
  quantity := "1"
  unitPriceVnd := some 60000
  netAmountVnd := 60000
  canonical_quantity := canonical_one
  price_nonneg := by decide
  net_nonneg := by decide

lemma morning_lt : 63871200000000000 < wallLimit := by decide

def morning : Datetime := Datetime.ofUtc 63871200000000000 morning_lt

def returnedShirt : RemedyOrderFacts where
  goodsReturnedAt := some morning
  settledTotalVnd := some 60000
  lines := [("L1", shirt)]
  expectsReturnLeg := false
  returnLegSucceeded := false
  refunded := false

lemma valid_zero : validAmount 0 := by decide

def uncommitted : RemedyCommitments := ⟨0, 0, none, valid_zero, valid_zero, by decide⟩

def damagedShirt (amountVnd : Int) : RemedyRequest :=
  ⟨.damageCompensation, true, some "L1", some amountVnd, none, none⟩

def nextMorning : Datetime := Datetime.ofUtc 63871286400000000 (by decide)

def shirtRemedy (amountVnd : Int) : RemedyAuthorized where
  kind := .damageCompensation
  amountVnd := some amountVnd
  direction := some .credit
  ceilingVnd := some 300000
  windowOpenedAt := some morning
  windowClosesAt := some nextMorning
  ownerReasons := []
  itemFeeBasis := some .unit
  itemFeeVnd := some 60000
  lineCeilingVnd := some 300000
  garmentIndex := some 1

theorem payable_shirt : Payable published returnedShirt (damagedShirt 50000) (shirtRemedy 50000) ↔
    ClaimCounts published returnedShirt (damagedShirt 50000) :=
  payable_iff published returnedShirt (damagedShirt 50000) morning uncommitted (shirtRemedy 50000)
    (by decide) (by decide)

/-- A claim of nothing is authorised, and can be neither paid nor spent. -/
theorem nothing_authorised : ¬ ∀ policy facts request requestedAt committed authorized,
    evaluateRemedy policy facts request requestedAt committed = .ok (.authorized authorized) →
    authorized.kind ≠ .freeRewash → Payable policy facts request authorized := by
  intro h
  have hpayable := h published returnedShirt (damagedShirt 0) morning uncommitted (shirtRemedy 0)
    (by decide) (by decide)
  obtain ⟨amountVnd, -, hamount, -, hpos, -⟩ := hpayable.amount
  cases hamount
  exact absurd hpos (by decide)

end Shirt

end NhaTrangLaundry.Domain.RemedyLimits
