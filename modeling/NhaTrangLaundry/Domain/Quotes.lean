import NhaTrangLaundry.Domain.Canonical
import NhaTrangLaundry.Lib.Decimal
import NhaTrangLaundry.Lib.Distinct

/-! Immutable quote revisions: their data, their validation and their document. -/

namespace NhaTrangLaundry.Domain.Quotes

open Lib Catalog Canonical Outcome Sorting Distinct StrEnum

def maxJcsInteger : Int := 9007199254740991

def isUpper (c : Char) : Bool := 'A' ≤ c && c ≤ 'Z'

def isCodeChar (c : Char) : Bool := isUpper c || Decimal.isDigit c || c == '_'

/-- `^[A-Z][A-Z0-9_]{1,62}$`. -/
def codePattern (s : String) : Bool :=
  match s.toList with
  | [] => false
  | c :: cs => isUpper c && cs.all isCodeChar && 1 ≤ cs.length && cs.length ≤ 62

def isLowerHex (c : Char) : Bool := Decimal.isDigit c || ('a' ≤ c && c ≤ 'f')

/-- `^JCS-SHA256-V1:[0-9a-f]{64}$`. -/
def hashPattern (s : String) : Bool :=
  hashPrefix.toList.isPrefixOf s.toList && (s.toList.drop 14).length == 64 &&
    (s.toList.drop 14).all isLowerHex

inductive QuoteAdjustmentKind where
  | promotion
  | manualDiscount
  | surcharge
  | delivery
  | remedyCredit
deriving DecidableEq

instance : StrEnum QuoteAdjustmentKind where
  value
    | .promotion => "PROMOTION"
    | .manualDiscount => "MANUAL_DISCOUNT"
    | .surcharge => "SURCHARGE"
    | .delivery => "DELIVERY"
    | .remedyCredit => "REMEDY_CREDIT"
  members := [.promotion, .manualDiscount, .surcharge, .delivery, .remedyCredit]
  ofValue_value := by intro a; cases a <;> decide
  value_ascii := by intro a; cases a <;> decide

structure ConfigurationSnapshotReference where
  configType : String
  versionId : Uuid
  version : Int
  snapshotHash : String
deriving DecidableEq

structure ExactLineAmounts where
  kind : String
  unitPriceVnd : Option Int
  listAmountVnd : Int
  discountAmountVnd : Int
  netAmountVnd : Int
deriving DecidableEq

structure RangeLineAmounts where
  kind : String
  unitPriceMinVnd : Int
  unitPriceMaxVnd : Int
  listAmountMinVnd : Int
  listAmountMaxVnd : Int
  discountMinVnd : Int
  discountMaxVnd : Int
  netAmountMinVnd : Int
  netAmountMaxVnd : Int
deriving DecidableEq

inductive LineAmounts where
  | exact (amounts : ExactLineAmounts)
  | range (amounts : RangeLineAmounts)
deriving DecidableEq

structure QuoteLineSnapshot where
  lineId : String
  serviceCode : String
  serviceVersionId : Uuid
  quantityBasis : QuantityBasis
  quantity : String
  unit : QuantityUnit
  amounts : LineAmounts
  priceTraceHash : String
deriving DecidableEq

structure QuoteAdjustmentSnapshot where
  adjustmentId : String
  kind : QuoteAdjustmentKind
  direction : AdjustmentDirection
  amountMinVnd : Int
  amountMaxVnd : Int
  reasonCode : String
  sourceVersionId : Option Uuid
  approvalId : Option Uuid
deriving DecidableEq

structure CalculationTraceSnapshot where
  component : String
  engineVersion : String
  trace : CanonicalDocument
deriving DecidableEq

structure QuoteTotalsSnapshot where
  listServiceSubtotalMinVnd : Int
  listServiceSubtotalMaxVnd : Int
  discountAmountMinVnd : Int
  discountAmountMaxVnd : Int
  netServiceSubtotalMinVnd : Int
  netServiceSubtotalMaxVnd : Int
  deliveryFeeVnd : Option Int
  approvedSurchargeVnd : Int
  displayTotalMinVnd : Option Int
  displayTotalMaxVnd : Option Int
deriving DecidableEq

/-- One revision. The tax amount is `None` by its type and has no field here. -/
structure QuoteRevisionData where
  schemaVersion : Int
  quoteId : Uuid
  revision : Int
  finality : QuoteFinality
  status : QuoteRevisionStatus
  pricedAt : Datetime
  validUntil : Option Datetime
  currency : String
  configurationSnapshots : List ConfigurationSnapshotReference
  lines : List QuoteLineSnapshot
  adjustments : List QuoteAdjustmentSnapshot
  totals : QuoteTotalsSnapshot
  calculationTraces : List CalculationTraceSnapshot
  calculationEngineVersion : String
  calculationEngineHash : String
  promotionEligibilityEvent : Option PromotionEligibilityEvent
  promotionEligibilityAt : Option Datetime
  reasonCodes : List String
  requiredApprovals : List String
  approvalId : Option Uuid
  taxTreatment : String
  customerEstimateAcknowledgedAt : Option Datetime
deriving DecidableEq

structure ImmutableQuoteSnapshot where
  data : QuoteRevisionData
  document : CanonicalDocument
deriving DecidableEq

def check (c : Prop) [Decidable c] (message : String) : Except PyException Unit :=
  require c (.quoteSnapshotError message)

def money (value : Int) : Except PyException Unit :=
  check (0 ≤ value ∧ value ≤ maxJcsInteger) "money must be a nonnegative JCS-safe integer VND"

def aware (value : Datetime) : Except PyException Unit :=
  check value.aware "quote timestamps must be timezone-aware"

def canonicalPositiveDecimal (value : String) : Except PyException Unit :=
  match Decimal.ofText value with
  | none => .error (.quoteSnapshotError "quantity must be a canonical decimal string")
  | some decimal =>
    check (¬ (decimal.le (Decimal.ofInt 0) ∨ (⟨999999999999, -3⟩ : Decimal).lt decimal ∨
      decimal.exponent < -3 ∨ ('.' ∈ value.toList ∧ value.toList.getLast? = some '0')))
      "quantity must be normalized without rounding"

def validateConfigurations (references : List ConfigurationSnapshotReference) :
    Except PyException Unit := do
  check (references ≠ [] ∧ (references.map (·.configType)).Nodup)
    "configuration snapshot references must be unique"
  check ((references.filter (·.configType = "PRICEBOOK")).length = 1)
    "exactly one pricebook snapshot is required"
  references.forM fun item =>
    check (codePattern item.configType ∧ 0 < item.version ∧ hashPattern item.snapshotHash)
      "invalid configuration snapshot reference"

def validateExact (amounts : ExactLineAmounts) : Except PyException Unit := do
  check (amounts.kind = "EXACT") "invalid exact line discriminator"
  money amounts.listAmountVnd
  money amounts.discountAmountVnd
  money amounts.netAmountVnd
  amounts.unitPriceVnd.toList.forM money
  check (amounts.discountAmountVnd ≤ amounts.listAmountVnd ∧
    amounts.netAmountVnd = amounts.listAmountVnd - amounts.discountAmountVnd)
    "exact line amounts do not reconcile"

def validateRange (amounts : RangeLineAmounts) : Except PyException Unit := do
  check (amounts.kind = "RANGE") "invalid range line discriminator"
  [amounts.unitPriceMinVnd, amounts.unitPriceMaxVnd, amounts.listAmountMinVnd,
    amounts.listAmountMaxVnd, amounts.discountMinVnd, amounts.discountMaxVnd,
    amounts.netAmountMinVnd, amounts.netAmountMaxVnd].forM money
  check (amounts.unitPriceMinVnd ≤ amounts.unitPriceMaxVnd ∧
    amounts.listAmountMinVnd ≤ amounts.listAmountMaxVnd ∧
    amounts.discountMinVnd ≤ amounts.discountMaxVnd ∧
    amounts.netAmountMinVnd ≤ amounts.netAmountMaxVnd ∧
    amounts.netAmountMinVnd = amounts.listAmountMinVnd - amounts.discountMinVnd ∧
    amounts.netAmountMaxVnd = amounts.listAmountMaxVnd - amounts.discountMaxVnd)
    "range line amounts do not reconcile"

def validateAmounts : LineAmounts → Except PyException Unit
  | .exact amounts => validateExact amounts
  | .range amounts => validateRange amounts

def validateLine (line : QuoteLineSnapshot) : Except PyException Unit := do
  check (line.lineId ≠ "" ∧ codePattern line.serviceCode) "invalid quote line identity"
  canonicalPositiveDecimal line.quantity
  check (¬ (line.unit ∈ [.item, .pair, .set, .animalPlushItem, .case] ∧ '.' ∈ line.quantity.toList))
    "count quantity must be an integer"
  check (hashPattern line.priceTraceHash) "quote line is missing a canonical price trace hash"
  validateAmounts line.amounts

def validateLines (lines : List QuoteLineSnapshot) : Except PyException Unit := do
  check (lines ≠ [] ∧ (lines.map (·.lineId)).Nodup) "quote lines must be non-empty and unique"
  lines.forM validateLine

def LineAmounts.listMin : LineAmounts → Int
  | .exact a => a.listAmountVnd
  | .range a => a.listAmountMinVnd

def LineAmounts.listMax : LineAmounts → Int
  | .exact a => a.listAmountVnd
  | .range a => a.listAmountMaxVnd

def LineAmounts.discountMin : LineAmounts → Int
  | .exact a => a.discountAmountVnd
  | .range a => a.discountMinVnd

def LineAmounts.discountMax : LineAmounts → Int
  | .exact a => a.discountAmountVnd
  | .range a => a.discountMaxVnd

def LineAmounts.isRange : LineAmounts → Bool
  | .exact _ => false
  | .range _ => true

def lineSum (lines : List QuoteLineSnapshot) (figure : LineAmounts → Int) : Int :=
  (lines.map fun line => figure line.amounts).sum

def isDiscount (item : QuoteAdjustmentSnapshot) : Bool :=
  item.kind = .promotion || item.kind = .manualDiscount || item.kind = .remedyCredit

def validateKind (item : QuoteAdjustmentSnapshot) : Except PyException Unit :=
  match item.kind with
  | .promotion => check (item.direction = .credit) "discount adjustments must be credits"
  | .manualDiscount => do
    check (item.direction = .credit) "discount adjustments must be credits"
    check (item.approvalId ≠ none) "manual discounts require approval"
  | .remedyCredit => do
    check (item.direction = .credit) "a remedy credit must be a credit"
    check (item.amountMinVnd = item.amountMaxVnd) "a remedy credit must be exact"
    check (item.sourceVersionId ≠ none) "a remedy credit must name its policy version"
  | .delivery =>
    check (item.direction = .debit ∧ item.amountMinVnd = item.amountMaxVnd)
      "delivery adjustment must be an exact debit"
  | .surcharge => do
    check (item.direction = .debit ∧ item.approvalId ≠ none) "surcharges require an approved debit"
    check (item.amountMinVnd = item.amountMaxVnd) "approved surcharge must be exact"

def validateAdjustment (item : QuoteAdjustmentSnapshot) : Except PyException Unit := do
  check (item.adjustmentId ≠ "" ∧ codePattern item.reasonCode) "invalid adjustment identity"
  money item.amountMinVnd
  money item.amountMaxVnd
  check (item.amountMinVnd ≤ item.amountMaxVnd) "adjustment range is inverted"
  validateKind item

def adjustmentSum (adjustments : List QuoteAdjustmentSnapshot) (p : QuoteAdjustmentSnapshot → Bool)
    (figure : QuoteAdjustmentSnapshot → Int) : Int :=
  ((adjustments.filter p).map figure).sum

def validateAdjustments (adjustments : List QuoteAdjustmentSnapshot) (totals : QuoteTotalsSnapshot) :
    Except PyException Unit := do
  check (adjustments.map (·.adjustmentId)).Nodup "adjustment IDs must be unique"
  adjustments.forM validateAdjustment
  check (adjustmentSum adjustments isDiscount (·.amountMinVnd) = totals.discountAmountMinVnd ∧
    adjustmentSum adjustments isDiscount (·.amountMaxVnd) = totals.discountAmountMaxVnd)
    "credit adjustments do not match line discounts"
  check (adjustmentSum adjustments (·.kind = .delivery) (·.amountMinVnd) =
      totals.deliveryFeeVnd.getD 0 ∧
    adjustmentSum adjustments (·.kind = .surcharge) (·.amountMinVnd) = totals.approvedSurchargeVnd)
    "debit adjustments do not match quote totals"

def expectedTotals (lines : List QuoteLineSnapshot) : List Int :=
  [lineSum lines (·.listMin), lineSum lines (·.listMax), lineSum lines (·.discountMin),
    lineSum lines (·.discountMax), lineSum lines (·.listMin) - lineSum lines (·.discountMin),
    lineSum lines (·.listMax) - lineSum lines (·.discountMax)]

def actualTotals (totals : QuoteTotalsSnapshot) : List Int :=
  [totals.listServiceSubtotalMinVnd, totals.listServiceSubtotalMaxVnd,
    totals.discountAmountMinVnd, totals.discountAmountMaxVnd,
    totals.netServiceSubtotalMinVnd, totals.netServiceSubtotalMaxVnd]

def validateDisplay (totals : QuoteTotalsSnapshot) : Except PyException Unit :=
  match totals.deliveryFeeVnd with
  | none =>
    check (totals.displayTotalMinVnd = none ∧ totals.displayTotalMaxVnd = none)
      "display total requires a resolved delivery fee"
  | some fee => do
    check (totals.displayTotalMinVnd =
        some (totals.netServiceSubtotalMinVnd + fee + totals.approvedSurchargeVnd) ∧
      totals.displayTotalMaxVnd =
        some (totals.netServiceSubtotalMaxVnd + fee + totals.approvedSurchargeVnd))
      "display total does not reconcile"
    money (totals.netServiceSubtotalMinVnd + fee + totals.approvedSurchargeVnd)
    money (totals.netServiceSubtotalMaxVnd + fee + totals.approvedSurchargeVnd)

def validateTotalsAndAdjustments (lines : List QuoteLineSnapshot)
    (adjustments : List QuoteAdjustmentSnapshot) (totals : QuoteTotalsSnapshot) :
    Except PyException Unit := do
  check (actualTotals totals = expectedTotals lines) "quote totals do not match line snapshots"
  (actualTotals totals).forM money
  money totals.approvedSurchargeVnd
  totals.deliveryFeeVnd.toList.forM money
  validateAdjustments adjustments totals
  validateDisplay totals

def editable : List QuoteRevisionStatus :=
  [.draft, .provisional, .reviewRequired, .acknowledgedEstimate]

def validateAcknowledgment (data : QuoteRevisionData) : Except PyException Unit :=
  match data.customerEstimateAcknowledgedAt with
  | none => .ok ()
  | some acknowledged => do
    aware acknowledged
    check (data.finality = .estimate ∧ data.pricedAt.instant ≤ acknowledged.instant)
      "estimate acknowledgment evidence is invalid"

/-- The revision is accepted under a programme whose eligibility nothing resolved. -/
def promotionUnresolved (data : QuoteRevisionData) : Prop :=
  data.status = .acceptedFinal ∧
    (∃ item ∈ data.configurationSnapshots, item.configType = "PROMOTION") ∧
    data.promotionEligibilityEvent = none

instance (data : QuoteRevisionData) : Decidable (promotionUnresolved data) := by
  unfold promotionUnresolved
  infer_instance

def validateFinality (data : QuoteRevisionData) : Except PyException Unit := do
  check ((∃ line ∈ data.lines, line.amounts.isRange = true) ↔ data.finality = .range)
    "range lines and quote finality disagree"
  check (¬ (data.finality = .range ∧ data.status = .acceptedFinal))
    "range quote cannot be accepted as final"
  check (¬ (data.finality = .estimate ∧ (data.status = .acceptedFinal ∨ data.approvalId ≠ none)))
    "estimate cannot become approved final"
  check (data.status = .acknowledgedEstimate ↔ data.customerEstimateAcknowledgedAt ≠ none)
    "estimate acknowledgment status requires timestamp evidence"
  validateAcknowledgment data
  check (¬ (data.finality = .approvedExact ∧ (data.requiredApprovals ≠ [] ∨
    data.totals.deliveryFeeVnd = none ∨
    (∃ line ∈ data.lines, line.quantityBasis = .customerEstimate) ∨ promotionUnresolved data ∨
    data.status ∈ editable)))
    "approved exact quote lacks final evidence"

def validateIdentity (data : QuoteRevisionData) : Except PyException Unit :=
  check (data.schemaVersion = 1 ∧ 0 < data.revision ∧ data.currency = "VND")
    "invalid quote revision identity"

def validateValidity (data : QuoteRevisionData) : Except PyException Unit := do
  aware data.pricedAt
  data.validUntil.toList.forM fun validUntil => do
    aware validUntil
    check (data.pricedAt.instant < validUntil.instant) "quote validity must end after pricing"

def validateEngine (data : QuoteRevisionData) : Except PyException Unit := do
  check (data.taxTreatment = "UNVERIFIED") "tax policy is not published"
  check (Text.strip data.calculationEngineVersion ≠ "" ∧ hashPattern data.calculationEngineHash)
    "calculation engine identity is incomplete"

def validateEligibility (data : QuoteRevisionData) : Except PyException Unit := do
  check (data.promotionEligibilityEvent = none ↔ data.promotionEligibilityAt = none)
    "promotion eligibility event and time must resolve together"
  data.promotionEligibilityAt.toList.forM aware

def validateCodes (data : QuoteRevisionData) : Except PyException Unit :=
  (data.reasonCodes ++ data.requiredApprovals).forM fun code =>
    check (codePattern code) "reason and approval codes must be canonical"

def optional {α : Type} (value : α → Value) : Option α → Value
  | none => .none
  | some a => value a

def enumValue {α : Type} [StrEnum α] (a : α) : Value := .enum (.str (value a))

def referenceValue (item : ConfigurationSnapshotReference) : Value :=
  .dataclass [("config_type", .str item.configType), ("version_id", .uuid item.versionId),
    ("version", .int item.version), ("snapshot_hash", .str item.snapshotHash)]

def amountsValue : LineAmounts → Value
  | .exact a =>
    .dataclass [("kind", .str a.kind), ("unit_price_vnd", optional .int a.unitPriceVnd),
      ("list_amount_vnd", .int a.listAmountVnd), ("discount_amount_vnd", .int a.discountAmountVnd),
      ("net_amount_vnd", .int a.netAmountVnd)]
  | .range a =>
    .dataclass [("kind", .str a.kind), ("unit_price_min_vnd", .int a.unitPriceMinVnd),
      ("unit_price_max_vnd", .int a.unitPriceMaxVnd),
      ("list_amount_min_vnd", .int a.listAmountMinVnd),
      ("list_amount_max_vnd", .int a.listAmountMaxVnd), ("discount_min_vnd", .int a.discountMinVnd),
      ("discount_max_vnd", .int a.discountMaxVnd), ("net_amount_min_vnd", .int a.netAmountMinVnd),
      ("net_amount_max_vnd", .int a.netAmountMaxVnd)]

def lineValue (line : QuoteLineSnapshot) : Value :=
  .dataclass [("line_id", .str line.lineId), ("service_code", .str line.serviceCode),
    ("service_version_id", .uuid line.serviceVersionId),
    ("quantity_basis", enumValue line.quantityBasis), ("quantity", .str line.quantity),
    ("unit", enumValue line.unit), ("amounts", amountsValue line.amounts),
    ("price_trace_hash", .str line.priceTraceHash)]

def adjustmentValue (item : QuoteAdjustmentSnapshot) : Value :=
  .dataclass [("adjustment_id", .str item.adjustmentId), ("kind", enumValue item.kind),
    ("direction", enumValue item.direction), ("amount_min_vnd", .int item.amountMinVnd),
    ("amount_max_vnd", .int item.amountMaxVnd), ("reason_code", .str item.reasonCode),
    ("source_version_id", optional .uuid item.sourceVersionId),
    ("approval_id", optional .uuid item.approvalId)]

def traceValue (trace : CalculationTraceSnapshot) : Value :=
  .dataclass [("component", .str trace.component), ("engine_version", .str trace.engineVersion),
    ("trace", .document trace.trace)]

def totalsValue (totals : QuoteTotalsSnapshot) : Value :=
  .dataclass [("list_service_subtotal_min_vnd", .int totals.listServiceSubtotalMinVnd),
    ("list_service_subtotal_max_vnd", .int totals.listServiceSubtotalMaxVnd),
    ("discount_amount_min_vnd", .int totals.discountAmountMinVnd),
    ("discount_amount_max_vnd", .int totals.discountAmountMaxVnd),
    ("net_service_subtotal_min_vnd", .int totals.netServiceSubtotalMinVnd),
    ("net_service_subtotal_max_vnd", .int totals.netServiceSubtotalMaxVnd),
    ("delivery_fee_vnd", optional .int totals.deliveryFeeVnd),
    ("approved_surcharge_vnd", .int totals.approvedSurchargeVnd),
    ("display_total_min_vnd", optional .int totals.displayTotalMinVnd),
    ("display_total_max_vnd", optional .int totals.displayTotalMaxVnd)]

def dataValue (data : QuoteRevisionData) : Value :=
  .dataclass [("schema_version", .int data.schemaVersion), ("quote_id", .uuid data.quoteId),
    ("revision", .int data.revision), ("finality", enumValue data.finality),
    ("status", enumValue data.status), ("priced_at", .datetime data.pricedAt),
    ("valid_until", optional .datetime data.validUntil), ("currency", .str data.currency),
    ("configuration_snapshots", .seq (data.configurationSnapshots.map referenceValue)),
    ("lines", .seq (data.lines.map lineValue)),
    ("adjustments", .seq (data.adjustments.map adjustmentValue)),
    ("totals", totalsValue data.totals),
    ("calculation_traces", .seq (data.calculationTraces.map traceValue)),
    ("calculation_engine_version", .str data.calculationEngineVersion),
    ("calculation_engine_hash", .str data.calculationEngineHash),
    ("promotion_eligibility_event", optional enumValue data.promotionEligibilityEvent),
    ("promotion_eligibility_at", optional .datetime data.promotionEligibilityAt),
    ("reason_codes", .seq (data.reasonCodes.map .str)),
    ("required_approvals", .seq (data.requiredApprovals.map .str)),
    ("approval_id", optional .uuid data.approvalId), ("tax_treatment", .str data.taxTreatment),
    ("tax_vnd", .none),
    ("customer_estimate_acknowledged_at", optional .datetime data.customerEstimateAcknowledgedAt)]

def normalized (data : QuoteRevisionData) : QuoteRevisionData :=
  { data with
    configurationSnapshots := sortBy (·.configType) data.configurationSnapshots
    lines := sortBy (·.lineId) data.lines
    adjustments := sortBy (·.adjustmentId) data.adjustments
    calculationTraces := sortBy (·.component) data.calculationTraces
    reasonCodes := sortedSet data.reasonCodes
    requiredApprovals := sortedSet data.requiredApprovals }

variable [Unicodedata]

def captureCalculationTrace (component engineVersion : String) (trace : Value) :
    Except PyException CalculationTraceSnapshot := do
  check (codePattern component ∧ Text.strip engineVersion ≠ "") "invalid calculation trace identity"
  match canonicalDocument trace true with
  | .ok document => .ok ⟨component, engineVersion, document⟩
  | .error (.canonicalizationError _) =>
    .error (.quoteSnapshotError "calculation trace is not canonical")
  | .error e => .error e

def validateTraces (traces : List CalculationTraceSnapshot) (lines : List QuoteLineSnapshot) :
    Except PyException Unit := do
  check (traces ≠ [] ∧ (traces.map (·.component)).Nodup)
    "calculation traces must be non-empty and unique"
  traces.forM fun trace =>
    check (codePattern trace.component ∧ Text.strip trace.engineVersion ≠ "" ∧
      verifyCanonicalDocument trace.trace) "invalid calculation trace"
  check (∀ line ∈ lines, line.priceTraceHash ∈ traces.map (·.trace.snapshotHash))
    "line price trace is not embedded in the revision"

def validateRevision (data : QuoteRevisionData) : Except PyException Unit := do
  validateIdentity data
  validateValidity data
  validateEngine data
  validateConfigurations data.configurationSnapshots
  validateLines data.lines
  validateTraces data.calculationTraces data.lines
  validateTotalsAndAdjustments data.lines data.adjustments data.totals
  validateFinality data
  validateEligibility data
  validateCodes data

def buildQuoteSnapshot (data : QuoteRevisionData) : Except PyException ImmutableQuoteSnapshot := do
  validateRevision (normalized data)
  match canonicalDocument (dataValue (normalized data)) true with
  | .ok document => .ok ⟨normalized data, document⟩
  | .error (.canonicalizationError _) =>
    .error (.quoteSnapshotError "quote snapshot is not canonical")
  | .error e => .error e

def verifyQuoteSnapshot (snapshot : ImmutableQuoteSnapshot) : Except PyException Bool :=
  if verifyCanonicalDocument snapshot.document then
    match buildQuoteSnapshot snapshot.data with
    | .ok rebuilt => .ok (rebuilt.document = snapshot.document ∧ rebuilt.data = snapshot.data)
    | .error (.canonicalizationError _) => .ok false
    | .error (.quoteSnapshotError _) => .ok false
    | .error e => .error e
  else .ok false

end NhaTrangLaundry.Domain.Quotes
