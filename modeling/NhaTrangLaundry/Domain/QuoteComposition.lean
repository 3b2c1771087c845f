import NhaTrangLaundry.Domain.Delivery
import NhaTrangLaundry.Domain.Pricing
import NhaTrangLaundry.Domain.QuotePromotion
import NhaTrangLaundry.Domain.RangePrices

/-! Composing one revision from the engines' results. -/

namespace NhaTrangLaundry.Domain.QuoteComposition

open Lib Catalog Canonical Outcome Sorting Distinct Quotes Promotion Delivery Pricing RangePrices
open StrEnum

def quoteEngineVersion : String := "quote-engine-v1"

def pricingComponentVersion : String := "pricing-v1"

def deliveryComponentVersion : String := "delivery-v1"

def baseReasonCodes : List String := ["TAX_TREATMENT_UNVERIFIED"]

def baseRequiredApprovals : List String := []

def deliveryFeeUnresolved : String := "DELIVERY_FEE_UNRESOLVED"

def serviceVersionNamespace : Uuid := ⟨0x6f9619ff8b86d011b42d00c04fc964ff⟩

structure RequestedLine where
  serviceCode : String
  quantity : String
  unit : QuantityUnit
  quantityBasis : QuantityBasis

structure PricebookProvenance where
  versionId : Uuid
  version : Int
  snapshotHash : String

/-- The arguments of a composition, without the credits it carries. -/
structure QuoteRequest where
  quoteId : Uuid
  revision : Int
  rules : String → Option PriceRule
  requested : List RequestedLine
  pricebook : PricebookProvenance
  pricedAt : Datetime
  delivery : DeliveryFacts
  rangePrices : Option RangePriceAttestation
  presentRangeAsBand : Bool
  promotion : Option PublishedPromotionProgram

def engineLine (line : RequestedLine) : PriceLine :=
  ⟨line.serviceCode, line.quantity, line.unit, line.quantityBasis⟩

/-- The interval drawn for a line, if it was not priced exactly. -/
def publishedBand (result : PriceResult) : Option PriceBand :=
  match result.finality, result.listAmountVnd, result.rangeMinVnd, result.rangeMaxVnd with
  | .range, none, some minimum, some maximum => some ⟨minimum, maximum⟩
  | _, _, _, _ => none

def publishedBands (results : List (String × PriceResult)) : List (String × PriceBand) :=
  results.filterMap fun r => (publishedBand r.2).map fun band => (r.1, band)

def chosenAmounts (request : QuoteRequest) (results : List (String × PriceResult)) :
    Except Failure (List (String × Int)) :=
  match request.rangePrices with
  | none => .ok []
  | some attestation =>
    match resolveRangePrices (publishedBands results) request.pricebook.versionId
        request.pricebook.version attestation with
    | .error refusal => unresolved (value refusal)
    | .ok amounts =>
      if amounts ≠ [] ∧ attestation.approvalId = none then
        unresolved (value ErrorCode.humanApprovalRequired)
      else .ok amounts

/-- The reasons one result cannot become part of the revision asked for. -/
def unresolvedReason (chosen : List (String × Int)) (presentAsBand : Bool)
    (r : String × PriceResult) : List String :=
  if (publishedBand r.2).isSome then
    if r.1 ∉ chosen.map Prod.fst ∧ presentAsBand = false then
      [value ErrorCode.rangePriceRequiresHuman]
    else []
  else if r.2.requiresHuman ∨ r.2.finality ≠ .estimate then
    [value ErrorCode.rangePriceRequiresHuman]
  else if r.2.listAmountVnd = none then [value ErrorCode.priceRuleUnresolved]
  else []

def unresolvedReasons (results : List (String × PriceResult)) (chosen : List (String × Int))
    (presentAsBand : Bool) : List String :=
  sortedSet (results.flatMap (unresolvedReason chosen presentAsBand))

def singleBasis (result : PriceResult) : Option QuantityBasis :=
  match result.trace.quantityBases.dedup with
  | [basis] => some basis
  | _ => none

def bandAmounts (band : PriceBand) (unitMinimum unitMaximum : Int) : LineAmounts :=
  .range
    { kind := "RANGE"
      unitPriceMinVnd := unitMinimum
      unitPriceMaxVnd := unitMaximum
      listAmountMinVnd := band.minimumVnd
      listAmountMaxVnd := band.maximumVnd
      discountMinVnd := 0
      discountMaxVnd := 0
      netAmountMinVnd := band.minimumVnd
      netAmountMaxVnd := band.maximumVnd }

def exactAmounts (unitPrice : Option Int) (amount : Int) : LineAmounts :=
  .exact ⟨"EXACT", unitPrice, amount, 0, amount⟩

def lineAmounts (chosen : List (String × Int)) (r : String × PriceResult) :
    Except Failure LineAmounts :=
  match publishedBand r.2, chosen.lookup r.1 with
  | some band, none =>
    match r.2.trace.rangeMinUnitVnd, r.2.trace.rangeMaxUnitVnd with
    | some unitMinimum, some unitMaximum => .ok (bandAmounts band unitMinimum unitMaximum)
    | _, _ => unresolved (value ErrorCode.priceRuleUnresolved)
  | _, some amount => .ok (exactAmounts r.2.trace.unitPriceVnd amount)
  | none, none =>
    match r.2.listAmountVnd with
    | some amount => .ok (exactAmounts r.2.trace.unitPriceVnd amount)
    | none => unresolved (value ErrorCode.priceRuleUnresolved)

def pricingTraceValue (trace : CalculationTrace) : Value :=
  .dataclass [("service_code", .str trace.serviceCode), ("rule_type", enumValue trace.ruleType),
    ("unit", enumValue trace.unit), ("input_quantities", .seq (trace.inputQuantities.map .str)),
    ("quantity_bases", .seq (trace.quantityBases.map enumValue)),
    ("aggregate_quantity", .str trace.aggregateQuantity),
    ("billable_quantity", .str trace.billableQuantity),
    ("selected_tier", optional (fun n : Nat => .int n) trace.selectedTier),
    ("unit_price_vnd", optional .int trace.unitPriceVnd),
    ("range_min_unit_vnd", optional .int trace.rangeMinUnitVnd),
    ("range_max_unit_vnd", optional .int trace.rangeMaxUnitVnd), ("rounding", .str trace.rounding)]

def serviceVersionId (pricebook : PricebookProvenance) (serviceCode : String) : Uuid :=
  Uuid.uuid5 (Uuid.uuid5 serviceVersionNamespace pricebook.versionId.str) serviceCode

def lineId (index : Nat) : String := "line-" ++ String.ofList (Nat.toDigits 10 index)

/-- What a delivery result gives a revision: the fee, its row and its reasons. -/
structure DeliveryOutcome where
  fee : Option Int
  adjustments : List QuoteAdjustmentSnapshot
  reasons : List String

def deliveryAdjustment (fee : Int) (resolution : DeliveryFeeResolution) :
    QuoteAdjustmentSnapshot where
  adjustmentId := "delivery"
  kind := .delivery
  direction := .debit
  amountMinVnd := fee
  amountMaxVnd := fee
  reasonCode := value resolution
  sourceVersionId := none
  approvalId := none

def deliveryOutcome (delivery : DeliveryResult) : DeliveryOutcome :=
  match delivery.feeOutcome, delivery.deliveryFeeVnd with
  | .allow, some fee =>
    ⟨some fee, if fee = 0 then [] else [deliveryAdjustment fee delivery.feeResolution],
      delivery.reasonCodes.map value⟩
  | _, _ => ⟨none, [], deliveryFeeUnresolved :: delivery.reasonCodes.map value⟩

def deliveryJson (delivery : DeliveryResult) : Json :=
  .obj [("fulfillment_mode", .str (value delivery.trace.fulfillmentMode)),
    ("verified_distance_m", optionalInt delivery.trace.verifiedDistanceM),
    ("distance_zone", optionalText delivery.trace.distanceZone),
    ("fee_rule", .str delivery.trace.feeRule),
    ("fee_resolution", .str (value delivery.feeResolution)),
    ("fee_outcome", .str (value delivery.feeOutcome)),
    ("delivery_fee_vnd", optionalInt delivery.deliveryFeeVnd),
    ("manual_fee_candidate_vnd", optionalInt delivery.trace.manualFeeCandidateVnd),
    ("customer_acknowledged_manual_fee", .bool delivery.trace.customerAcknowledgedManualFee),
    ("delivery_job_required", .bool delivery.trace.deliveryJobRequired),
    ("dispatch_authorized", .bool delivery.trace.dispatchAuthorized)]

/-- What `APPROVED_EXACT` demands of the lines and the fee. -/
def exactnessRefusal (lines : List QuoteLineSnapshot) (fee : Option Int) : Option String :=
  if ∃ line ∈ lines, line.quantityBasis = .customerEstimate then some "QUOTE_QUANTITY_NOT_MEASURED"
  else if fee = none then some "QUOTE_DELIVERY_FEE_UNRESOLVED"
  else none

def refuseWith : Option String → Except Failure Unit
  | none => .ok ()
  | some code => unresolved code

def finality (banded closed : Bool) : QuoteFinality × QuoteRevisionStatus :=
  if banded then (.range, .reviewRequired)
  else if closed then (.approvedExact, .approved)
  else (.estimate, .reviewRequired)

def isBanded (lines : List QuoteLineSnapshot) : Bool := lines.any fun line => line.amounts.isRange

def pricebookReference (pricebook : PricebookProvenance) : ConfigurationSnapshotReference :=
  ⟨"PRICEBOOK", pricebook.versionId, pricebook.version, pricebook.snapshotHash⟩

def freshTotals (lines : List QuoteLineSnapshot) (discount : Int) (fee : Option Int) :
    QuoteTotalsSnapshot where
  listServiceSubtotalMinVnd := lineSum lines (·.listMin)
  listServiceSubtotalMaxVnd := lineSum lines (·.listMax)
  discountAmountMinVnd := discount
  discountAmountMaxVnd := discount
  netServiceSubtotalMinVnd := lineSum lines (·.listMin) - discount
  netServiceSubtotalMaxVnd := lineSum lines (·.listMax) - discount
  deliveryFeeVnd := fee
  approvedSurchargeVnd := 0
  displayTotalMinVnd := fee.map fun fee => lineSum lines (·.listMin) - discount + fee
  displayTotalMaxVnd := fee.map fun fee => lineSum lines (·.listMax) - discount + fee

def addDay (moment : Datetime) : Except PyException Datetime :=
  match moment.addMicros dayMicros with
  | some later => .ok later
  | none => .error .overflowError

variable [Unicodedata]

def quoteEngineHash : String :=
  match canonicalDocument (.json (.obj [("engine", .str quoteEngineVersion)])) true with
  | .ok document => document.snapshotHash
  | .error _ => ""

def composedLine (request : QuoteRequest) (chosen : List (String × Int))
    (entry : (String × PriceResult) × Nat) :
    Except Failure (QuoteLineSnapshot × CalculationTraceSnapshot) :=
  match singleBasis entry.1.2 with
  | none => unresolved (value ErrorCode.measurementPolicyUnresolved)
  | some basis => do
    let amounts ← lineAmounts chosen entry.1
    let trace ← escaping (captureCalculationTrace ("PRICING_" ++ entry.1.1) pricingComponentVersion
      (pricingTraceValue entry.1.2.trace))
    .ok ({ lineId := lineId entry.2
           serviceCode := entry.1.1
           serviceVersionId := serviceVersionId request.pricebook entry.1.1
           quantityBasis := basis
           quantity := entry.1.2.trace.aggregateQuantity
           unit := entry.1.2.trace.unit
           amounts := amounts
           priceTraceHash := trace.trace.snapshotHash }, trace)

/-- Everything the engines contributed before the revision is assembled. -/
structure Parts where
  chosen : List (String × Int)
  lines : List QuoteLineSnapshot
  traces : List CalculationTraceSnapshot
  delivery : DeliveryOutcome
  promoted : PromotionOutcome

def freshData (request : QuoteRequest) (parts : Parts) (validUntil : Datetime) :
    QuoteRevisionData where
  schemaVersion := 1
  quoteId := request.quoteId
  revision := request.revision
  finality := (finality (isBanded parts.lines) (!parts.chosen.isEmpty)).1
  status := (finality (isBanded parts.lines) (!parts.chosen.isEmpty)).2
  pricedAt := request.pricedAt
  validUntil := some validUntil
  currency := "VND"
  configurationSnapshots :=
    pricebookReference request.pricebook :: parts.promoted.configurationSnapshots
  lines := parts.promoted.lines
  adjustments := parts.delivery.adjustments ++ parts.promoted.adjustments
  totals := freshTotals parts.lines parts.promoted.discountVnd parts.delivery.fee
  calculationTraces := parts.traces ++ parts.promoted.traces
  calculationEngineVersion := quoteEngineVersion
  calculationEngineHash := quoteEngineHash
  promotionEligibilityEvent := parts.promoted.eligibilityEvent
  promotionEligibilityAt := parts.promoted.eligibilityAt
  reasonCodes := baseReasonCodes ++ parts.delivery.reasons ++ parts.promoted.reasonCodes ++
    (if isBanded parts.lines then [value ErrorCode.rangePriceRequiresHuman] else [])
  requiredApprovals := baseRequiredApprovals ++ parts.promoted.requiredApprovals
  approvalId :=
    match request.rangePrices with
    | none => none
    | some attestation => if parts.chosen.isEmpty then none else attestation.approvalId
  taxTreatment := "UNVERIFIED"
  customerEstimateAcknowledgedAt := none

def pricedResults (request : QuoteRequest) : Except Failure (List (String × PriceResult)) :=
  match priceLines request.rules (request.requested.map engineLine) with
  | .ok results => .ok results
  | .error (.pricingError code) => unresolved (value code)
  | .error e => .error (.raised e)

def deliveryResult (request : QuoteRequest) : Except Failure DeliveryResult :=
  match evaluateDelivery request.delivery with
  | .ok delivery => .ok delivery
  | .error (.deliveryError code) => unresolved (value code)
  | .error e => .error (.raised e)

def composedLines (request : QuoteRequest) (chosen : List (String × Int))
    (results : List (String × PriceResult)) :
    Except Failure (List (QuoteLineSnapshot × CalculationTraceSnapshot)) :=
  ((sortBy Prod.fst results).zipIdx 1).mapM (composedLine request chosen)

def composedDelivery (request : QuoteRequest) :
    Except Failure (DeliveryResult × CalculationTraceSnapshot) := do
  let delivery ← deliveryResult request
  let trace ← escaping (captureCalculationTrace "DELIVERY" deliveryComponentVersion
    (.json (deliveryJson delivery)))
  .ok (delivery, trace)

def composedParts (request : QuoteRequest) : Except Failure Parts := do
  require (¬ request.requested.isEmpty) (.unresolved [value ErrorCode.missingRequiredFact])
  let results ← pricedResults request
  let chosen ← chosenAmounts request results
  let reasons := unresolvedReasons results chosen
    (request.presentRangeAsBand && request.rangePrices.isNone)
  require (reasons = []) (.unresolved reasons)
  let composed ← composedLines request chosen results
  let delivery ← composedDelivery request
  let outcome := deliveryOutcome delivery.1
  let lines := composed.map Prod.fst
  refuseWith (if chosen.isEmpty then none else exactnessRefusal lines outcome.fee)
  let promoted ← promotionOutcome request.promotion lines outcome.adjustments (isBanded lines)
    request.pricedAt none
  let outstanding := outstandingApprovals [baseRequiredApprovals, promoted.requiredApprovals]
  require (chosen.isEmpty ∨ outstanding = []) (.unresolved outstanding)
  .ok ⟨chosen, lines, composed.map Prod.snd ++ [delivery.2], outcome, promoted⟩

def composeFresh (request : QuoteRequest) : Except Failure ImmutableQuoteSnapshot := do
  let parts ← composedParts request
  let validUntil ← escaping (addDay request.pricedAt)
  guarded (buildQuoteSnapshot (freshData request parts validUntil))

end NhaTrangLaundry.Domain.QuoteComposition
