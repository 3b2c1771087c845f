import NhaTrangLaundry.Domain.QuoteComposition
import NhaTrangLaundry.Domain.Remedies

/-! Revisions derived from stored ones: a credit reserved, a band closed, a price
accepted, and a composition that carries credits. -/

namespace NhaTrangLaundry.Domain.QuoteComposition

open Lib Catalog Canonical Outcome Distinct Quotes Promotion RangePrices Remedies StrEnum
open LargestRemainder (Allocation)

def remedyCreditComponentVersion : String := "remedy-credit-v1"

def remedyCreditAdjustmentPrefix : String := "remedy-credit-"

def remedyCreditComponentPrefix : String := "REMEDY_CREDIT_"

def remedyCreditReleasedComponentPrefix : String := "REMEDY_CREDIT_RELEASED_"

def unacceptableStatuses : List QuoteRevisionStatus := [.acceptedFinal, .superseded, .expired, .rejected]

def uncreditableStatuses : List QuoteRevisionStatus := .approved :: unacceptableStatuses

/-- `text.removeprefix(prefix)` of a text that starts with it. -/
def suffixAfter (start text : String) : Option String :=
  if start.toList.isPrefixOf text.toList then
    some (String.ofList (text.toList.drop start.toList.length))
  else none

/-- The credit one `REMEDY_CREDIT` row reserves. -/
def reservedCredit (item : QuoteAdjustmentSnapshot) : Except PyException RemedyCredit :=
  match suffixAfter remedyCreditAdjustmentPrefix item.adjustmentId with
  | none => .error (.quoteSnapshotError "a remedy credit adjustment does not name its credit")
  | some name =>
    match item.sourceVersionId with
    | none => .error (.quoteSnapshotError "a remedy credit adjustment is not an exact, sourced credit")
    | some policyVersionId => do
      require (item.amountMinVnd = item.amountMaxVnd)
        (.quoteSnapshotError "a remedy credit adjustment is not an exact, sourced credit")
      match Uuid.ofText name with
      | none => .error (.quoteSnapshotError "a remedy credit adjustment does not name its credit")
      | some creditId => .ok ⟨creditId, item.amountMinVnd, policyVersionId, item.approvalId⟩

def isRemedyCredit (item : QuoteAdjustmentSnapshot) : Bool := item.kind = .remedyCredit

def reservedRemedyCredits (priced : ImmutableQuoteSnapshot) : Except PyException (List RemedyCredit) :=
  (priced.data.adjustments.filter isRemedyCredit).mapM reservedCredit

def releasedName (trace : CalculationTraceSnapshot) : Option String :=
  suffixAfter remedyCreditReleasedComponentPrefix trace.component

def releasedId (name : String) : Except PyException Uuid :=
  match Uuid.ofText name with
  | some creditId => .ok creditId
  | none => .error (.quoteSnapshotError "a released-credit trace does not name its credit")

def releasedRemedyCreditIds (priced : ImmutableQuoteSnapshot) : Except PyException (List Uuid) :=
  (priced.data.calculationTraces.filterMap releasedName).mapM releasedId

/-- What each line can still absorb; a band has no single amount. -/
def creditWeight (line : QuoteLineSnapshot) : Except Failure (String × Int) :=
  match line.amounts with
  | .exact amounts => .ok (line.lineId, amounts.netAmountVnd)
  | .range _ => unresolved (value RemedyRefusal.remedyCreditRevisionNotOpen)

def creditedLine (shares : List (String × Int)) (line : QuoteLineSnapshot) : QuoteLineSnapshot :=
  match line.amounts with
  | .range _ => line
  | .exact amounts =>
    { line with
      amounts := .exact
        { amounts with
          discountAmountVnd := amounts.discountAmountVnd + (shares.lookup line.lineId).getD 0
          netAmountVnd := amounts.netAmountVnd - (shares.lookup line.lineId).getD 0 } }

def creditedTotals (totals : QuoteTotalsSnapshot) (credit : Int) : QuoteTotalsSnapshot :=
  let discount := totals.discountAmountMinVnd + credit
  let subtotal := totals.listServiceSubtotalMinVnd - discount
  { totals with
    discountAmountMinVnd := discount
    discountAmountMaxVnd := totals.discountAmountMaxVnd + credit
    netServiceSubtotalMinVnd := subtotal
    netServiceSubtotalMaxVnd := subtotal
    displayTotalMinVnd := totals.deliveryFeeVnd.map fun fee =>
      subtotal + fee + totals.approvedSurchargeVnd
    displayTotalMaxVnd := totals.deliveryFeeVnd.map fun fee =>
      subtotal + fee + totals.approvedSurchargeVnd }

def creditAdjustment (credit : RemedyCredit) : QuoteAdjustmentSnapshot where
  adjustmentId := remedyCreditAdjustmentPrefix ++ credit.creditId.str
  kind := .remedyCredit
  direction := .credit
  amountMinVnd := credit.amountVnd
  amountMaxVnd := credit.amountVnd
  reasonCode := remedyCreditReasonCode
  sourceVersionId := some credit.policyVersionId
  approvalId := credit.approvalId

def creditJson (credit : RemedyCredit) (weights : List (String × Int))
    (allocation : Allocation String) : Json :=
  .obj [("credit_id", .str credit.creditId.str), ("credit_vnd", .int credit.amountVnd),
    ("policy_version_id", .str credit.policyVersionId.str),
    ("weights_vnd", .arr (allocation.orderedIds.map fun id =>
      .obj [("line_id", .str id), ("net_amount_vnd", .int ((weights.lookup id).getD 0))])),
    ("floor_allocations_vnd", ints allocation.floorAllocations),
    ("remainders", ints allocation.remainders),
    ("remainder_award_order", texts allocation.remainderAwardOrder),
    ("final_allocations_vnd", ints allocation.finalAllocations),
    ("rounding", .str largestRemainderRule)]

def creditComponent (creditId : Uuid) : String := remedyCreditComponentPrefix ++ creditId.hexUpper

def releasedComponent (creditId : Uuid) : String :=
  remedyCreditReleasedComponentPrefix ++ creditId.hexUpper

def creditedData (data : QuoteRevisionData) (revision : Int) (credit : RemedyCredit)
    (allocation : Allocation String) (trace : CalculationTraceSnapshot) : QuoteRevisionData :=
  { data with
    revision := revision
    lines := data.lines.map (creditedLine (perLine allocation))
    adjustments := data.adjustments ++ [creditAdjustment credit]
    totals := creditedTotals data.totals credit.amountVnd
    reasonCodes := data.reasonCodes ++ [remedyCreditApplied]
    calculationTraces := data.calculationTraces ++ [trace] }

/-- The discount on the bill comes from a programme that may not stack. -/
def notStackable : Option FrozenPromotion → Prop
  | none => False
  | some frozen => frozen.stackingAllowed = false ∧ frozen.discountAmountVnd ≠ 0

instance (frozen : Option FrozenPromotion) : Decidable (notStackable frozen) := by
  unfold notStackable
  split <;> infer_instance

def creditAllocation (weights : List (String × Int)) (credit : RemedyCredit) :
    Except Failure (Allocation String) :=
  match allocateRemedyCredit weights credit.amountVnd with
  | .ok allocation => .ok allocation
  | .error refusal => unresolved (value refusal)

def promotionReference (priced : ImmutableQuoteSnapshot) : Option ConfigurationSnapshotReference :=
  priced.data.configurationSnapshots.find? fun item =>
    item.configType = promotionSnapshotConfigType

/-- The programme at hand is not the one the revision cites. -/
def programmeMoved (reference : Option ConfigurationSnapshotReference)
    (promotion : Option PublishedPromotionProgram) : Prop :=
  match reference with
  | none => False
  | some reference => ∀ published ∈ promotion, published.versionId ≠ reference.versionId

instance (reference : Option ConfigurationSnapshotReference)
    (promotion : Option PublishedPromotionProgram) : Decidable (programmeMoved reference promotion) := by
  unfold programmeMoved
  split <;> infer_instance

def frozenDiscount : Option FrozenPromotion → Int
  | none => 0
  | some frozen => frozen.discountAmountVnd

/-- The bands of the open lines, gathered line by line; a discounted band or two
bands for one service cannot be read. -/
def storedBands : List QuoteLineSnapshot → List (String × PriceBand) → Option (List (String × PriceBand))
  | [], bands => some bands
  | line :: lines, bands =>
    match line.amounts with
    | .exact _ => storedBands lines bands
    | .range amounts =>
      if line.serviceCode ∈ bands.map Prod.fst ∨ amounts.discountMinVnd ≠ 0 ∨
          amounts.discountMaxVnd ≠ 0 then none
      else storedBands lines
        (bands ++ [(line.serviceCode, ⟨amounts.netAmountMinVnd, amounts.netAmountMaxVnd⟩)])

def storedPriceBands (priced : ImmutableQuoteSnapshot) : Option (List (String × PriceBand)) :=
  storedBands priced.data.lines []

def closedLine (amounts : List (String × Int)) (line : QuoteLineSnapshot) : QuoteLineSnapshot :=
  match line.amounts with
  | .exact _ => line
  | .range _ =>
    { line with amounts := exactAmounts none ((amounts.lookup line.serviceCode).getD 0) }

def sameKeys {α β : Type} (l : List (String × α)) (l' : List (String × β)) : Prop :=
  (∀ k ∈ l.map Prod.fst, k ∈ l'.map Prod.fst) ∧ ∀ k ∈ l'.map Prod.fst, k ∈ l.map Prod.fst

instance {α β : Type} (l : List (String × α)) (l' : List (String × β)) :
    Decidable (sameKeys l l') := by
  unfold sameKeys
  infer_instance

def closedTotals (totals : QuoteTotalsSnapshot) (lines : List QuoteLineSnapshot) (discount fee : Int) :
    QuoteTotalsSnapshot :=
  let subtotal := lineSum lines (·.listMin)
  let net := subtotal - discount
  { totals with
    listServiceSubtotalMinVnd := subtotal
    listServiceSubtotalMaxVnd := subtotal
    discountAmountMinVnd := discount
    discountAmountMaxVnd := discount
    netServiceSubtotalMinVnd := net
    netServiceSubtotalMaxVnd := net
    displayTotalMinVnd := some (net + fee + totals.approvedSurchargeVnd)
    displayTotalMaxVnd := some (net + fee + totals.approvedSurchargeVnd) }

def closedData (data : QuoteRevisionData) (revision : Int) (attestation : RangePriceAttestation)
    (promoted : PromotionOutcome) (fee : Int) : QuoteRevisionData :=
  { data with
    revision := revision
    finality := .approvedExact
    status := .approved
    lines := promoted.lines
    adjustments := data.adjustments ++ promoted.adjustments
    totals := closedTotals data.totals promoted.lines promoted.discountVnd fee
    calculationTraces := revisedTraces data.calculationTraces promoted.traces
    reasonCodes := revisedReasonCodes
      (data.reasonCodes.filter (· ≠ value ErrorCode.rangePriceRequiresHuman)) promoted.reasonCodes
    approvalId := attestation.approvalId }

def acceptedData (data : QuoteRevisionData) (revision : Int) :
    Option PromotionOutcome → QuoteRevisionData
  | none =>
    { data with
      revision := revision
      finality := .approvedExact
      status := .acceptedFinal
      promotionEligibilityEvent := none
      promotionEligibilityAt := none }
  | some verified =>
    { data with
      revision := revision
      finality := .approvedExact
      status := .acceptedFinal
      promotionEligibilityEvent := verified.eligibilityEvent
      promotionEligibilityAt := verified.eligibilityAt
      reasonCodes := revisedReasonCodes data.reasonCodes verified.reasonCodes
      calculationTraces := revisedTraces data.calculationTraces verified.traces }

def verifiedApprovals : Option PromotionOutcome → List String
  | none => []
  | some verified => verified.requiredApprovals

def pricebookOf (data : QuoteRevisionData) : Option ConfigurationSnapshotReference :=
  data.configurationSnapshots.find? fun item => item.configType = "PRICEBOOK"

def orUnresolved {α : Type} (code : String) : Option α → Except Failure α
  | some a => .ok a
  | none => unresolved code

def attestedAmounts (priced : ImmutableQuoteSnapshot) (attestation : RangePriceAttestation) :
    Except Failure (List (String × Int)) := do
  let pricebook ← orUnresolved (value ErrorCode.validationError) (pricebookOf priced.data)
  require (attestation.approvalId ≠ none) (.unresolved [value ErrorCode.humanApprovalRequired])
  let bands ← orUnresolved (value ErrorCode.validationError) (storedPriceBands priced)
  match resolveRangePrices bands pricebook.versionId pricebook.version attestation with
  | .error refusal => unresolved (value refusal)
  | .ok amounts => do
    require (sameKeys amounts bands) (.unresolved [value ErrorCode.rangePriceRequiresHuman])
    .ok amounts

variable [Unicodedata]

def redeemRemedyCredit (priced : ImmutableQuoteSnapshot) (revision : Int) (credit : RemedyCredit) :
    Except Failure ImmutableQuoteSnapshot := do
  let reserved ← escaping (reservedRemedyCredits priced)
  require (∀ item ∈ reserved, item.creditId ≠ credit.creditId)
    (.unresolved [value RemedyRefusal.remedyCreditAlreadyOnQuote])
  require (priced.data.finality ≠ .range ∧ priced.data.status ∉ uncreditableStatuses)
    (.unresolved [value RemedyRefusal.remedyCreditRevisionNotOpen])
  let frozen ← escaping (frozenPromotion priced)
  require (¬ notStackable frozen)
    (.unresolved [value RemedyRefusal.remedyCreditPromotionNotStackable])
  let weights ← priced.data.lines.mapM creditWeight
  let allocation ← creditAllocation weights credit
  guarded (do
    let trace ← captureCalculationTrace (creditComponent credit.creditId)
      remedyCreditComponentVersion (.json (creditJson credit weights allocation))
    buildQuoteSnapshot (creditedData priced.data revision credit allocation trace))

def closeRangePrices (priced : ImmutableQuoteSnapshot) (revision : Int)
    (attestation : RangePriceAttestation) (promotion : Option PublishedPromotionProgram)
    (closedAt : Option Datetime) : Except Failure ImmutableQuoteSnapshot := do
  let data := priced.data
  require (data.finality = .range)
    (.unresolved [value RangePriceRefusal.rangePriceNotApplicable])
  let outstanding := outstandingApprovals [data.requiredApprovals]
  require (outstanding = []) (.unresolved outstanding)
  require (data.quoteId = attestation.quoteId ∧ data.revision = attestation.revision)
    (.unresolved [value ErrorCode.validationError])
  let amounts ← attestedAmounts priced attestation
  let closedLines := data.lines.map (closedLine amounts)
  refuseWith (exactnessRefusal closedLines data.totals.deliveryFeeVnd)
  let reference := promotionReference priced
  require (¬ programmeMoved reference promotion) (.unresolved [promotionChangedSinceQuote])
  require (promotion.isNone ∨ closedAt.isSome) (.unresolved [value ErrorCode.missingRequiredFact])
  let promoted ← promotionOutcome promotion closedLines data.adjustments false
    (closedAt.getD data.pricedAt) none
  require (reference.isSome ∨ promoted.discountVnd = 0)
    (.unresolved [promotionPublishedSinceApproval])
  let outstanding := outstandingApprovals [data.requiredApprovals, promoted.requiredApprovals]
  require (outstanding = []) (.unresolved outstanding)
  guarded (buildQuoteSnapshot
    (closedData data revision attestation promoted (data.totals.deliveryFeeVnd.getD 0)))

def reverifiedEligibility (priced : ImmutableQuoteSnapshot)
    (promotion : Option PublishedPromotionProgram) (acceptedAt : Option Datetime) :
    Except Failure (Option PromotionOutcome) :=
  let reference := promotionReference priced
  if reference.isNone ∧ promotion.isNone then .ok none
  else
    match acceptedAt with
    | none => unresolved (value ErrorCode.missingRequiredFact)
    | some acceptedAt => do
      require (¬ programmeMoved reference promotion) (.unresolved [promotionChangedSinceQuote])
      let frozen ← escaping (frozenPromotion priced)
      require (reference.isNone ∨ frozen.isSome) (.unresolved [value ErrorCode.validationError])
      let recomputed ← promotionOutcome promotion priced.data.lines priced.data.adjustments false
        acceptedAt (some acceptedAt)
      require (recomputed.discountVnd = frozenDiscount frozen)
        (.unresolved [promotionChangedSinceQuote])
      if reference.isNone then .ok none
      else do
        require (recomputed.eligibilityEvent ≠ none)
          (.unresolved [value ErrorCode.promotionEligibilityUnresolved])
        .ok (some recomputed)

def acceptQuoteRevision (priced : ImmutableQuoteSnapshot) (revision : Int)
    (promotion : Option PublishedPromotionProgram) (acceptedAt : Option Datetime) :
    Except Failure ImmutableQuoteSnapshot := do
  let data := priced.data
  require (data.status ∉ unacceptableStatuses) (.unresolved ["QUOTE_ALREADY_FINAL"])
  require (data.finality ≠ .range) (.unresolved [value ErrorCode.rangePriceRequiresHuman])
  require (∀ line ∈ data.lines, line.quantityBasis ≠ .customerEstimate)
    (.unresolved ["QUOTE_QUANTITY_NOT_MEASURED"])
  require (data.totals.deliveryFeeVnd ≠ none) (.unresolved ["QUOTE_DELIVERY_FEE_UNRESOLVED"])
  let verified ← reverifiedEligibility priced promotion acceptedAt
  let outstanding := outstandingApprovals [data.requiredApprovals, verifiedApprovals verified]
  require (outstanding = []) (.unresolved outstanding)
  guarded (buildQuoteSnapshot (acceptedData data revision verified))

def releasedTrace (credit : RemedyCredit) (reason : String) :
    Except PyException CalculationTraceSnapshot :=
  captureCalculationTrace (releasedComponent credit.creditId) remedyCreditComponentVersion
    (.json (.obj [("credit_id", .str credit.creditId.str), ("credit_vnd", .int credit.amountVnd),
      ("policy_version_id", .str credit.policyVersionId.str), ("reason_code", .str reason),
      ("outcome", .str "RELEASED_UNSPENT")]))

def releasedData (data : QuoteRevisionData) (traces : List CalculationTraceSnapshot) :
    QuoteRevisionData :=
  { data with
    reasonCodes := data.reasonCodes ++ [remedyCreditReleased]
    calculationTraces := data.calculationTraces ++ traces }

/-- Write onto the revision which credits it could not carry, and why. -/
def stateReleasedCredits (snapshot : ImmutableQuoteSnapshot) (released : List (RemedyCredit × String)) :
    Except Failure ImmutableQuoteSnapshot :=
  guarded (do
    let traces ← released.mapM fun r => releasedTrace r.1 r.2
    buildQuoteSnapshot (releasedData snapshot.data traces))

/-- Offer each credit to the bill; a refusal releases it. -/
def carryCredits (revision : Int) : List RemedyCredit → ImmutableQuoteSnapshot →
    List (RemedyCredit × String) →
    Except Failure (ImmutableQuoteSnapshot × List (RemedyCredit × String))
  | [], snapshot, released => .ok (snapshot, released)
  | credit :: credits, snapshot, released =>
    match redeemRemedyCredit snapshot revision credit with
    | .ok carried => carryCredits revision credits carried released
    | .error (.unresolved codes) =>
      carryCredits revision credits snapshot (released ++ [(credit, codes.headD "")])
    | .error (.raised e) => .error (.raised e)

def composeQuoteRevision (request : QuoteRequest) (remedyCredits : List RemedyCredit)
    (spentRemedyCreditIds : List Uuid) : Except Failure ImmutableQuoteSnapshot := do
  let credits := firstsBy (·.creditId) remedyCredits
  let live := credits.filter fun item => item.creditId ∉ spentRemedyCreditIds
  let spent := credits.filter fun item => item.creditId ∈ spentRemedyCreditIds
  let snapshot ← composeFresh request
  let (snapshot, released) ← carryCredits request.revision live snapshot
    (spent.map fun item => (item, value RemedyRefusal.remedyCreditAlreadyRedeemed))
  if released = [] then .ok snapshot else stateReleasedCredits snapshot released

end NhaTrangLaundry.Domain.QuoteComposition
