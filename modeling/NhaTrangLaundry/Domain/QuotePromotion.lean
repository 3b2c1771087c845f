import NhaTrangLaundry.Domain.Promotion
import NhaTrangLaundry.Domain.QuoteParsing

/-! How a promotion is evaluated on a revision, frozen onto it and read back. -/

namespace NhaTrangLaundry.Domain.QuoteComposition

open Lib Catalog Canonical Outcome Distinct Quotes Promotion StrEnum

/-- Why a call returns no revision: an `UnresolvedQuote` with its reason codes, or
an exception that escapes. A `ComposedQuote` is the snapshot it holds, so a
`QuoteComposition` is an `Except Failure ImmutableQuoteSnapshot`. -/
inductive Failure where
  | unresolved (reasonCodes : List String)
  | raised (e : PyException)
deriving DecidableEq

def unresolved {α : Type} (code : String) : Except Failure α := .error (.unresolved [code])

/-- A call outside any `try`: what it raises escapes. -/
def escaping {α : Type} : Except PyException α → Except Failure α
  | .ok a => .ok a
  | .error e => .error (.raised e)

/-- A call under `except QuoteSnapshotError`. -/
def guarded {α : Type} : Except PyException α → Except Failure α
  | .ok a => .ok a
  | .error (.quoteSnapshotError _) => unresolved (value ErrorCode.validationError)
  | .error e => .error (.raised e)

def promotionSnapshotConfigType : String := "PROMOTION"

def promotionPolicyVersion : String := "promotion-dec-002-v1"

def promotionComponent : String := "PROMOTION"

def promotionComponentVersion : String := "promotion-v1"

def promotionNotPublished : String := "PROMOTION_NOT_PUBLISHED"

def promotionPendingBandClose : String := "PROMOTION_PENDING_BAND_CLOSE"

def promotionChangedSinceQuote : String := "PROMOTION_CHANGED_SINCE_QUOTE"

def promotionPublishedSinceApproval : String := "PROMOTION_PUBLISHED_SINCE_APPROVAL"

def acceptanceEligibilityEvent : PromotionEligibilityEvent := .storeCommercialAccepted

def promotionAdjustmentId : String := "promotion"

def promotionReasonCodes : List String :=
  (members : List PromotionReason).map value ++ [promotionNotPublished, promotionPendingBandClose]

def approvalOutstandingPrefix : String := "APPROVAL_OUTSTANDING_"

/-- The promotion result a stored revision carries. -/
structure FrozenPromotion where
  policyCode : String
  configurationVersionId : Uuid
  configurationVersion : Int
  status : String
  discountAmountVnd : Int
  listServiceSubtotalVnd : Int
  eligibleServiceSubtotalVnd : Int
  rateBps : List Int
  intervalStartAt : String
  intervalEndAtExclusive : String
  candidateInsideInterval : Bool
  eligibilityResolved : Bool
  reasonCodes : List String
  stackingAllowed : Bool
deriving DecidableEq

/-- `bool(value)`. -/
def truthy : Json → Bool
  | .null => false
  | .bool b => b
  | .int n => n ≠ 0
  | .str s => s ≠ ""
  | .arr xs => !xs.isEmpty
  | .obj fields => !fields.isEmpty

open Payload

def frozenOf (payload : Json) : Option FrozenPromotion := do
  let groups ← payload.get? "allocation_groups"
  let policyCode ← field payload "policy_code" text
  let configurationVersionId ← field payload "configuration_version_id" uuid
  let configurationVersion ← field payload "configuration_version" integer
  let status ← field payload "status" text
  let discountAmountVnd ← field payload "discount_amount_vnd" integer
  let listServiceSubtotalVnd ← field payload "list_service_subtotal_vnd" integer
  let eligibleServiceSubtotalVnd ← field payload "eligible_service_subtotal_vnd" integer
  let rateBps ← sequence (fun group => field group "rate_bps" integer) groups
  let intervalStartAt ← field payload "interval_start_at" text
  let intervalEndAtExclusive ← field payload "interval_end_at_exclusive" text
  let candidateInsideInterval ← field payload "candidate_inside_interval" (some ∘ truthy)
  let eligibilityResolved ← field payload "eligibility_resolved" (some ∘ truthy)
  let reasonCodes ← field payload "reason_codes" (sequence text)
  let stackingAllowed ← field payload "stacking_allowed" (some ∘ truthy)
  some ⟨policyCode, configurationVersionId, configurationVersion, status, discountAmountVnd,
    listServiceSubtotalVnd, eligibleServiceSubtotalVnd, rateBps, intervalStartAt,
    intervalEndAtExclusive, candidateInsideInterval, eligibilityResolved, reasonCodes,
    stackingAllowed⟩

def promotionTraceOf (priced : ImmutableQuoteSnapshot) : Option CalculationTraceSnapshot :=
  priced.data.calculationTraces.find? fun item => item.component = promotionComponent

/-- The promotion frozen onto a stored revision, if one was evaluated on it. A
trace that cannot be read raises. -/
def frozenPromotion (priced : ImmutableQuoteSnapshot) :
    Except PyException (Option FrozenPromotion) :=
  match promotionTraceOf priced with
  | none => .ok none
  | some trace =>
    match Json.loads trace.trace.canonicalJson with
    | none => .error (.valueError "canonical bytes are not JSON")
    | some (.obj fields) =>
      match frozenOf (.obj fields) with
      | some frozen => .ok (some frozen)
      | none => .error .keyError
    | some _ => .ok none

/-- What one evaluation contributes to a revision. -/
structure PromotionOutcome where
  lines : List QuoteLineSnapshot
  discountVnd : Int
  adjustments : List QuoteAdjustmentSnapshot
  traces : List CalculationTraceSnapshot
  configurationSnapshots : List ConfigurationSnapshotReference
  reasonCodes : List String
  requiredApprovals : List String
  eligibilityEvent : Option PromotionEligibilityEvent
  eligibilityAt : Option Datetime

def otherPromotionPresent (adjustments : List QuoteAdjustmentSnapshot) : Bool :=
  adjustments.any fun item => item.direction = .credit && item.adjustmentId ≠ promotionAdjustmentId

def withheldByStacking (result : PromotionResult) : PromotionResult :=
  { result with
    eligibleServiceSubtotalVnd := 0
    discountAmountVnd := 0
    netServiceSubtotalVnd := result.listServiceSubtotalVnd
    displayTotalVnd := result.listServiceSubtotalVnd + result.deliveryFeeVnd
    adjustments := result.adjustments.map fun item =>
      { item with discountVnd := 0, netAmountVnd := item.listAmountVnd }
    reasonCodes := result.reasonCodes.filter (· ≠ .promotionApplied)
    trace := { result.trace with allocationGroups := [] } }

/-- One priced line as the engine takes it; a band has no amount to discount. -/
def promotionLine (program : PromotionProgram) (line : QuoteLineSnapshot) :
    Except Failure PromotionLine :=
  match line.amounts with
  | .exact amounts =>
    .ok ⟨line.lineId, amounts.listAmountVnd, (program.ruleFor line.serviceCode).resolution,
      (program.ruleFor line.serviceCode).rateBps⟩
  | .range _ => unresolved (value ErrorCode.validationError)

/-- The engine's reasons, with a programme that has ended said to be outside its
interval. -/
def promotionReasons (result : PromotionResult) (evaluationAt policyEnd : Datetime) : List String :=
  let reasons := result.reasonCodes.map value
  if evaluationAt.instant < policyEnd.instant then reasons
  else
    let ended := reasons.filter (· ≠ value PromotionReason.promotionEligibilityUnresolved)
    if value PromotionReason.promotionOutsideInterval ∈ ended then ended
    else ended ++ [value PromotionReason.promotionOutsideInterval]

def momentText (moment : Datetime) : Except PyException String :=
  match moment.momentText with
  | some s => .ok s
  | none => .error .overflowError

def optionalText : Option String → Json
  | none => .null
  | some s => .str s

def optionalInt : Option Int → Json
  | none => .null
  | some n => .int n

def ints (ns : List Int) : Json := .arr (ns.map .int)

def texts (ss : List String) : Json := .arr (ss.map .str)

def groupJson (group : PromotionAllocationTrace) : Json :=
  .obj [("rate_bps", .int group.rateBps), ("eligible_line_ids", texts group.eligibleLineIds),
    ("eligible_subtotal_vnd", .int group.eligibleSubtotalVnd),
    ("exact_discount_numerator", .int group.exactDiscountNumerator),
    ("exact_discount_denominator", .int group.exactDiscountDenominator),
    ("rounded_discount_vnd", .int group.roundedDiscountVnd),
    ("floor_allocations_vnd", ints group.floorAllocationsVnd),
    ("remainders", ints group.remainders),
    ("remainder_award_order", texts group.remainderAwardOrder),
    ("final_allocations_vnd", ints group.finalAllocationsVnd)]

def lineJson (item : PromotionLineAdjustment) : Json :=
  .obj [("line_id", .str item.lineId), ("list_amount_vnd", .int item.listAmountVnd),
    ("rate_bps", optionalInt item.rateBps), ("discount_vnd", .int item.discountVnd),
    ("net_amount_vnd", .int item.netAmountVnd), ("resolution", .str (value item.resolution))]

structure TraceMoments where
  intervalStartAt : String
  intervalEndAtExclusive : String
  observedEligibilityAt : Option String
  candidateReferenceAt : String

def traceMoments (result : PromotionResult) (policy : PromotionPolicy) :
    Except PyException TraceMoments := do
  let intervalStartAt ← momentText policy.startAt
  let intervalEndAtExclusive ← momentText policy.endAtExclusive
  let observedEligibilityAt ←
    match result.trace.observedEligibilityAt with
    | none => .ok none
    | some moment => some <$> momentText moment
  let candidateReferenceAt ← momentText result.trace.candidateReferenceAt
  .ok ⟨intervalStartAt, intervalEndAtExclusive, observedEligibilityAt, candidateReferenceAt⟩

/-- `str` of a configured event, which may be missing. -/
def eventText : Option PromotionEligibilityEvent → String
  | none => "None"
  | some event => value event

def promotionJson (result : PromotionResult) (published : PublishedPromotionProgram)
    (moments : TraceMoments) : Json :=
  .obj [("policy_code", .str published.program.policy.code),
    ("policy_rule_version", .str promotionPolicyVersion),
    ("configuration_version_id", .str published.versionId.str),
    ("configuration_version", .int published.version),
    ("timezone", .str published.program.policy.timezone),
    ("interval_start_at", .str moments.intervalStartAt),
    ("interval_end_at_exclusive", .str moments.intervalEndAtExclusive),
    ("stacking_allowed", .bool published.program.policy.stackingAllowed),
    ("status", .str (value result.status)), ("outcome", .str (value result.outcome)),
    ("configured_eligibility_event", .str (eventText result.trace.configuredEligibilityEvent)),
    ("observed_eligibility_event", optionalText (result.trace.observedEligibilityEvent.map value)),
    ("observed_eligibility_at", optionalText moments.observedEligibilityAt),
    ("candidate_reference_at", .str moments.candidateReferenceAt),
    ("candidate_inside_interval", .bool result.trace.candidateInsideInterval),
    ("eligibility_resolved", .bool result.trace.eligibilityResolved),
    ("list_service_subtotal_vnd", .int result.listServiceSubtotalVnd),
    ("eligible_service_subtotal_vnd", .int result.eligibleServiceSubtotalVnd),
    ("discount_amount_vnd", .int result.discountAmountVnd),
    ("net_service_subtotal_vnd", .int result.netServiceSubtotalVnd),
    ("rounding", .str result.trace.rounding),
    ("delivery_discount_vnd", .int result.trace.deliveryDiscountVnd),
    ("allocation_groups", .arr (result.trace.allocationGroups.map groupJson)),
    ("lines", .arr (result.adjustments.map lineJson)),
    ("reason_codes", texts (result.reasonCodes.map value))]

variable [Unicodedata]

/-- The `PROMOTION` trace of an evaluation. -/
def capturePromotion (result : PromotionResult) (published : PublishedPromotionProgram) :
    Except PyException CalculationTraceSnapshot := do
  let moments ← traceMoments result published.program.policy
  captureCalculationTrace promotionComponent promotionComponentVersion
    (.json (promotionJson result published moments))

def discountedLine (allocated : List (String × Int)) (line : QuoteLineSnapshot) :
    QuoteLineSnapshot :=
  match line.amounts with
  | .range _ => line
  | .exact amounts =>
    match allocated.lookup line.lineId with
    | none => line
    | some share =>
      if share = 0 then line
      else
        { line with
          amounts := .exact
            { amounts with
              discountAmountVnd := share
              netAmountVnd := amounts.listAmountVnd - share } }

def promotionAdjustments (published : PublishedPromotionProgram) (discount : Int) :
    List QuoteAdjustmentSnapshot :=
  if discount = 0 then []
  else
    [{ adjustmentId := promotionAdjustmentId
       kind := .promotion
       direction := .credit
       amountMinVnd := discount
       amountMaxVnd := discount
       reasonCode := published.program.policy.code
       sourceVersionId := some published.versionId
       approvalId := none }]

def promotionReferenceOf (published : PublishedPromotionProgram) : ConfigurationSnapshotReference :=
  ⟨promotionSnapshotConfigType, published.versionId, published.version, published.snapshotHash⟩

def occasionOf (adjustments : List QuoteAdjustmentSnapshot) (evaluationAt : Datetime)
    (eligibilityAt : Option Datetime) : Occasion where
  evaluationAt := evaluationAt
  eligibilityEvent := eligibilityAt.map fun _ => acceptanceEligibilityEvent
  eligibilityAt := eligibilityAt
  deliveryFeeVnd := 0
  otherPromotionPresent := otherPromotionPresent adjustments

def granted (result : PromotionResult) : PromotionResult :=
  if .promotionStackingRequiresHuman ∈ result.reasonCodes then withheldByStacking result else result

def evaluated (published : PublishedPromotionProgram) (lines : List QuoteLineSnapshot)
    (adjustments : List QuoteAdjustmentSnapshot) (evaluationAt : Datetime)
    (eligibilityAt : Option Datetime) : Except Failure PromotionResult := do
  let promotionLines ← lines.mapM (promotionLine published.program)
  match evaluatePromotion published.program.policy promotionLines
      (occasionOf adjustments evaluationAt eligibilityAt) with
  | .ok result => .ok (granted result)
  | .error (.promotionError code) => unresolved (value code)
  | .error e => .error (.raised e)

def allocatedOf (result : PromotionResult) : List (String × Int) :=
  result.adjustments.map fun item => (item.lineId, item.discountVnd)

def projected (published : PublishedPromotionProgram) (lines : List QuoteLineSnapshot)
    (evaluationAt : Datetime) (result : PromotionResult) (trace : CalculationTraceSnapshot) :
    PromotionOutcome where
  lines := lines.map (discountedLine (allocatedOf result))
  discountVnd := result.discountAmountVnd
  adjustments := promotionAdjustments published result.discountAmountVnd
  traces := [trace]
  configurationSnapshots := [promotionReferenceOf published]
  reasonCodes :=
    promotionReasons result evaluationAt published.program.policy.endAtExclusive
  requiredApprovals := []
  eligibilityEvent := result.eligibilityEvent
  eligibilityAt := result.eligibilityAt

def notEvaluated (lines : List QuoteLineSnapshot) (references : List ConfigurationSnapshotReference)
    (reason : String) : PromotionOutcome :=
  ⟨lines, 0, [], [], references, [reason], [], none, none⟩

def promotionOutcome (published : Option PublishedPromotionProgram) (lines : List QuoteLineSnapshot)
    (adjustments : List QuoteAdjustmentSnapshot) (banded : Bool) (evaluationAt : Datetime)
    (eligibilityAt : Option Datetime) : Except Failure PromotionOutcome :=
  match published with
  | none => .ok (notEvaluated lines [] promotionNotPublished)
  | some published =>
    if banded then
      .ok (notEvaluated lines [promotionReferenceOf published] promotionPendingBandClose)
    else do
      let result ← evaluated published lines adjustments evaluationAt eligibilityAt
      let trace ← escaping (capturePromotion result published)
      .ok (projected published lines evaluationAt result trace)

omit [Unicodedata] in
def outstandingApprovals (sources : List (List String)) : List String :=
  (firstsBy id sources.flatten).map (approvalOutstandingPrefix ++ ·)

def revisedReasonCodes (inherited recomputed : List String) : List String :=
  inherited.filter (· ∉ promotionReasonCodes) ++ recomputed

def revisedTraces (inherited recomputed : List CalculationTraceSnapshot) :
    List CalculationTraceSnapshot :=
  inherited.filter (fun trace => trace.component ∉ recomputed.map (·.component)) ++ recomputed

end NhaTrangLaundry.Domain.QuoteComposition
