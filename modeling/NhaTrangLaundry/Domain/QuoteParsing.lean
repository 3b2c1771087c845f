import NhaTrangLaundry.Domain.Quotes

/-! Reading a stored revision payload back into the snapshot it was written from. -/

namespace NhaTrangLaundry.Domain.Quotes

open Lib Catalog Canonical Outcome Text

namespace Payload

/-- `str(value)` of a scalar. -/
def text : Json → Option String
  | .str s => some s
  | .int n => some (String.ofList (Json.intText n))
  | .bool true => some "True"
  | .bool false => some "False"
  | .null => some "None"
  | .arr _ | .obj _ => none

/-- `int(text)` of a sign and decimal digits. -/
def integerText : List Char → Option Int
  | '-' :: c :: cs => (numeral 10 (c :: cs) 0).map fun n => -(n : Int)
  | '+' :: c :: cs => (numeral 10 (c :: cs) 0).map fun n => (n : Int)
  | c :: cs => (numeral 10 (c :: cs) 0).map fun n => (n : Int)
  | [] => none

/-- `int(value)`. -/
def integer : Json → Option Int
  | .int n => some n
  | .bool true => some 1
  | .bool false => some 0
  | .str s => integerText s.toList
  | .null | .arr _ | .obj _ => none

def items : Json → Option (List Json)
  | .arr xs => some xs
  | .obj fields => some (fields.map fun f => .str f.1)
  | .str s => some (s.toList.map fun c => .str (String.ofList [c]))
  | .null | .bool _ | .int _ => none

/-- `value.get(key)`. -/
def getD (j : Json) (key : String) : Option Json :=
  match j with
  | .obj _ => some ((j.get? key).getD .null)
  | _ => none

def field {α : Type} (j : Json) (key : String) (read : Json → Option α) : Option α := do
  let value ← j.get? key
  read value

/-- The value under a key that may be `None` or absent. -/
def optionalField {α : Type} (j : Json) (key : String) (read : Json → Option α) :
    Option (Option α) := do
  let value ← getD j key
  match value with
  | .null => some none
  | _ => some <$> read value

def member (α : Type) [StrEnum α] (j : Json) : Option α := do
  let s ← text j
  ofValue α s

def uuid (j : Json) : Option Uuid := do
  let s ← text j
  Uuid.ofText s

def moment (j : Json) : Option Datetime := do
  let s ← text j
  Datetime.ofMomentText s

def keywords (names : List String) : Json → Bool
  | .obj fields => fields.all (fun f => f.1 ∈ names) && names.all fun n => n ∈ fields.map Prod.fst
  | _ => false

def amount : Json → Option Int
  | .int n => some n
  | _ => none

def optionalAmount : Json → Option (Option Int)
  | .int n => some (some n)
  | .null => some none
  | _ => none

def plainText : Json → Option String
  | .str s => some s
  | _ => none

def sequence {α : Type} (read : Json → Option α) (j : Json) : Option (List α) := do
  let xs ← items j
  xs.mapM read

end Payload

open Payload

def referenceOf (item : Json) : Option ConfigurationSnapshotReference := do
  let configType ← field item "config_type" text
  let versionId ← field item "version_id" uuid
  let version ← field item "version" integer
  let snapshotHash ← field item "snapshot_hash" text
  some ⟨configType, versionId, version, snapshotHash⟩

def exactOf (amounts : Json) : Option ExactLineAmounts :=
  if keywords ["kind", "unit_price_vnd", "list_amount_vnd", "discount_amount_vnd",
      "net_amount_vnd"] amounts then do
    let kind ← field amounts "kind" plainText
    let unitPriceVnd ← field amounts "unit_price_vnd" optionalAmount
    let listAmountVnd ← field amounts "list_amount_vnd" amount
    let discountAmountVnd ← field amounts "discount_amount_vnd" amount
    let netAmountVnd ← field amounts "net_amount_vnd" amount
    some ⟨kind, unitPriceVnd, listAmountVnd, discountAmountVnd, netAmountVnd⟩
  else none

def rangeOf (amounts : Json) : Option RangeLineAmounts :=
  if keywords ["kind", "unit_price_min_vnd", "unit_price_max_vnd", "list_amount_min_vnd",
      "list_amount_max_vnd", "discount_min_vnd", "discount_max_vnd", "net_amount_min_vnd",
      "net_amount_max_vnd"] amounts then do
    let kind ← field amounts "kind" plainText
    let unitPriceMinVnd ← field amounts "unit_price_min_vnd" amount
    let unitPriceMaxVnd ← field amounts "unit_price_max_vnd" amount
    let listAmountMinVnd ← field amounts "list_amount_min_vnd" amount
    let listAmountMaxVnd ← field amounts "list_amount_max_vnd" amount
    let discountMinVnd ← field amounts "discount_min_vnd" amount
    let discountMaxVnd ← field amounts "discount_max_vnd" amount
    let netAmountMinVnd ← field amounts "net_amount_min_vnd" amount
    let netAmountMaxVnd ← field amounts "net_amount_max_vnd" amount
    some ⟨kind, unitPriceMinVnd, unitPriceMaxVnd, listAmountMinVnd, listAmountMaxVnd,
      discountMinVnd, discountMaxVnd, netAmountMinVnd, netAmountMaxVnd⟩
  else none

def amountsOf (amounts : Json) : Option LineAmounts := do
  let kind ← field amounts "kind" text
  if kind = "EXACT" then .exact <$> exactOf amounts else .range <$> rangeOf amounts

/-- `_line`. -/
def lineOf (item : Json) : Option QuoteLineSnapshot := do
  let amounts ← item.get? "amounts"
  let lineId ← field item "line_id" text
  let serviceCode ← field item "service_code" text
  let serviceVersionId ← field item "service_version_id" uuid
  let quantityBasis ← field item "quantity_basis" (member QuantityBasis)
  let quantity ← field item "quantity" text
  let unit ← field item "unit" (member QuantityUnit)
  let amounts ← amountsOf amounts
  let priceTraceHash ← field item "price_trace_hash" text
  some ⟨lineId, serviceCode, serviceVersionId, quantityBasis, quantity, unit, amounts,
    priceTraceHash⟩

/-- `_adjustment`. -/
def adjustmentOf (item : Json) : Option QuoteAdjustmentSnapshot := do
  let adjustmentId ← field item "adjustment_id" text
  let kind ← field item "kind" (member QuoteAdjustmentKind)
  let direction ← field item "direction" (member AdjustmentDirection)
  let amountMinVnd ← field item "amount_min_vnd" integer
  let amountMaxVnd ← field item "amount_max_vnd" integer
  let reasonCode ← field item "reason_code" text
  let sourceVersionId ← optionalField item "source_version_id" uuid
  let approvalId ← optionalField item "approval_id" uuid
  some ⟨adjustmentId, kind, direction, amountMinVnd, amountMaxVnd, reasonCode, sourceVersionId,
    approvalId⟩

def totalsOf (totals : Json) : Option QuoteTotalsSnapshot :=
  if keywords ["list_service_subtotal_min_vnd", "list_service_subtotal_max_vnd",
      "discount_amount_min_vnd", "discount_amount_max_vnd", "net_service_subtotal_min_vnd",
      "net_service_subtotal_max_vnd", "delivery_fee_vnd", "approved_surcharge_vnd",
      "display_total_min_vnd", "display_total_max_vnd"] totals then do
    let listServiceSubtotalMinVnd ← field totals "list_service_subtotal_min_vnd" amount
    let listServiceSubtotalMaxVnd ← field totals "list_service_subtotal_max_vnd" amount
    let discountAmountMinVnd ← field totals "discount_amount_min_vnd" amount
    let discountAmountMaxVnd ← field totals "discount_amount_max_vnd" amount
    let netServiceSubtotalMinVnd ← field totals "net_service_subtotal_min_vnd" amount
    let netServiceSubtotalMaxVnd ← field totals "net_service_subtotal_max_vnd" amount
    let deliveryFeeVnd ← field totals "delivery_fee_vnd" optionalAmount
    let approvedSurchargeVnd ← field totals "approved_surcharge_vnd" amount
    let displayTotalMinVnd ← field totals "display_total_min_vnd" optionalAmount
    let displayTotalMaxVnd ← field totals "display_total_max_vnd" optionalAmount
    some ⟨listServiceSubtotalMinVnd, listServiceSubtotalMaxVnd, discountAmountMinVnd,
      discountAmountMaxVnd, netServiceSubtotalMinVnd, netServiceSubtotalMaxVnd, deliveryFeeVnd,
      approvedSurchargeVnd, displayTotalMinVnd, displayTotalMaxVnd⟩
  else none

/-- `str(payload.get("tax_treatment", "UNVERIFIED"))`. -/
def taxTreatmentOf (payload : Json) : Option String :=
  match payload.get? "tax_treatment" with
  | none => some "UNVERIFIED"
  | some value => text value

variable [Unicodedata]

def traceOf (item : Json) : Option CalculationTraceSnapshot := do
  let component ← field item "component" text
  let engineVersion ← field item "engine_version" text
  let document ← field item "trace" fun trace => (canonicalDocument (.json trace) true).toOption
  some ⟨component, engineVersion, document⟩

def dataOf (payload : Json) : Option QuoteRevisionData := do
  let schemaVersion ← field payload "schema_version" integer
  let quoteId ← field payload "quote_id" uuid
  let revision ← field payload "revision" integer
  let finality ← field payload "finality" (member QuoteFinality)
  let status ← field payload "status" (member QuoteRevisionStatus)
  let pricedAt ← field payload "priced_at" moment
  let validUntil ← optionalField payload "valid_until" moment
  let currency ← field payload "currency" text
  let configurationSnapshots ← field payload "configuration_snapshots" (sequence referenceOf)
  let lines ← field payload "lines" (sequence lineOf)
  let adjustments ← field payload "adjustments" (sequence adjustmentOf)
  let totals ← field payload "totals" totalsOf
  let calculationTraces ← field payload "calculation_traces" (sequence traceOf)
  let calculationEngineVersion ← field payload "calculation_engine_version" text
  let calculationEngineHash ← field payload "calculation_engine_hash" text
  let promotionEligibilityEvent ←
    optionalField payload "promotion_eligibility_event" (member PromotionEligibilityEvent)
  let promotionEligibilityAt ← optionalField payload "promotion_eligibility_at" moment
  let reasonCodes ← field payload "reason_codes" (sequence text)
  let requiredApprovals ← field payload "required_approvals" (sequence text)
  let approvalId ← optionalField payload "approval_id" uuid
  let taxTreatment ← taxTreatmentOf payload
  let customerEstimateAcknowledgedAt ←
    optionalField payload "customer_estimate_acknowledged_at" moment
  some ⟨schemaVersion, quoteId, revision, finality, status, pricedAt, validUntil, currency,
    configurationSnapshots, lines, adjustments, totals, calculationTraces,
    calculationEngineVersion, calculationEngineHash, promotionEligibilityEvent,
    promotionEligibilityAt, reasonCodes, requiredApprovals, approvalId, taxTreatment,
    customerEstimateAcknowledgedAt⟩

def parseQuoteRevision (payload : Json) : Except PyException ImmutableQuoteSnapshot :=
  match dataOf payload with
  | none => .error (.quoteRevisionParseError "stored quote revision is not readable")
  | some data =>
    match buildQuoteSnapshot data with
    | .error (.quoteSnapshotError _) =>
      .error (.quoteRevisionParseError "stored quote revision does not rebuild")
    | result => result

end NhaTrangLaundry.Domain.Quotes
