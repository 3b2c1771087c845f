import NhaTrangLaundry.Domain.Canonical
import NhaTrangLaundry.Lib.Distinct
import NhaTrangLaundry.Lib.LargestRemainder

/-! Promotion decisions: the published programme, its targets, and the discount
allocated over the lines. -/

namespace NhaTrangLaundry.Domain.Promotion

open Lib Catalog Canonical Outcome Sorting Distinct LargestRemainder

def maxBigintVnd : Int := 9223372036854775807

def rateDenominator : Int := 10000

def largestRemainderRule : String := "ROUND_HALF_UP_1_VND_THEN_LARGEST_REMAINDER_LINE_ID_ASC"

inductive PromotionReason where
  | promotionApplied
  | promotionOutsideInterval
  | promotionNotTargeted
  | promotionTargetRequiresHuman
  | promotionStackingRequiresHuman
  | promotionEligibilityUnresolved
deriving DecidableEq

instance : StrEnum PromotionReason where
  value
    | .promotionApplied => "PROMOTION_APPLIED"
    | .promotionOutsideInterval => "PROMOTION_OUTSIDE_INTERVAL"
    | .promotionNotTargeted => "PROMOTION_NOT_TARGETED"
    | .promotionTargetRequiresHuman => "PROMOTION_TARGET_REQUIRES_HUMAN"
    | .promotionStackingRequiresHuman => "PROMOTION_STACKING_REQUIRES_HUMAN"
    | .promotionEligibilityUnresolved => StrEnum.value ErrorCode.promotionEligibilityUnresolved
  members := [.promotionApplied, .promotionOutsideInterval, .promotionNotTargeted,
    .promotionTargetRequiresHuman, .promotionStackingRequiresHuman, .promotionEligibilityUnresolved]
  ofValue_value := by intro a; cases a <;> decide
  value_ascii := by intro a; cases a <;> decide

structure PromotionPolicy where
  code : String
  startAt : Datetime
  endAtExclusive : Datetime
  timezone : String
  eligibilityEvent : Option PromotionEligibilityEvent
  stackingAllowed : Bool

structure PromotionServiceRule where
  serviceCode : String
  resolution : PromotionResolution
  rateBps : Option Int

structure PromotionProgram where
  policy : PromotionPolicy
  services : String → Option PromotionServiceRule

/-- The rule for a service; a service the programme does not name is outside it. -/
def PromotionProgram.ruleFor (program : PromotionProgram) (serviceCode : String) :
    PromotionServiceRule :=
  match program.services serviceCode with
  | none => ⟨serviceCode, .notEligible, none⟩
  | some rule => rule

structure PublishedPromotionProgram where
  program : PromotionProgram
  versionId : Uuid
  version : Int
  snapshotHash : String

structure PromotionLine where
  lineId : String
  listAmountVnd : Int
  resolution : PromotionResolution
  rateBps : Option Int
deriving DecidableEq

structure PromotionLineAdjustment where
  lineId : String
  listAmountVnd : Int
  rateBps : Option Int
  discountVnd : Int
  netAmountVnd : Int
  resolution : PromotionResolution
deriving DecidableEq

structure PromotionAllocationTrace where
  rateBps : Int
  eligibleLineIds : List String
  eligibleSubtotalVnd : Int
  exactDiscountNumerator : Int
  exactDiscountDenominator : Int
  roundedDiscountVnd : Int
  floorAllocationsVnd : List Int
  remainders : List Int
  remainderAwardOrder : List String
  finalAllocationsVnd : List Int
deriving DecidableEq

structure PromotionCalculationTrace where
  policyCode : String
  intervalStartAt : Datetime
  intervalEndAtExclusive : Datetime
  configuredEligibilityEvent : Option PromotionEligibilityEvent
  observedEligibilityEvent : Option PromotionEligibilityEvent
  observedEligibilityAt : Option Datetime
  candidateReferenceAt : Datetime
  candidateInsideInterval : Bool
  eligibilityResolved : Bool
  allocationGroups : List PromotionAllocationTrace
  rounding : String
  deliveryDiscountVnd : Int

structure PromotionResult where
  status : PromotionStatus
  outcome : PolicyOutcome
  listServiceSubtotalVnd : Int
  eligibleServiceSubtotalVnd : Int
  discountAmountVnd : Int
  netServiceSubtotalVnd : Int
  deliveryFeeVnd : Int
  displayTotalVnd : Int
  eligibilityEvent : Option PromotionEligibilityEvent
  eligibilityAt : Option Datetime
  adjustments : List PromotionLineAdjustment
  reasonCodes : List PromotionReason
  trace : PromotionCalculationTrace

structure Occasion where
  evaluationAt : Datetime
  eligibilityEvent : Option PromotionEligibilityEvent
  eligibilityAt : Option Datetime
  deliveryFeeVnd : Int
  otherPromotionPresent : Bool

def validationError : PyException := .promotionError .validationError

def requireAware (value : Datetime) : Except PyException Unit :=
  require value.aware validationError

def requireVnd (value : Int) : Except PyException Unit :=
  require (0 ≤ value ∧ value ≤ maxBigintVnd) validationError

def checkedAdd (first second : Int) : Except PyException Int :=
  if maxBigintVnd < first + second then .error validationError else .ok (first + second)

def validatePolicy (policy : PromotionPolicy) : Except PyException Unit := do
  require (policy.code ≠ "" ∧ policy.timezone = "Asia/Ho_Chi_Minh") validationError
  requireAware policy.startAt
  requireAware policy.endAtExclusive
  require (policy.startAt.instant < policy.endAtExclusive.instant) validationError

def rateFits (line : PromotionLine) : Prop :=
  match line.resolution, line.rateBps with
  | .notEligible, rate => rate = none
  | _, none => False
  | _, some rate => 0 < rate ∧ rate ≤ rateDenominator

instance (line : PromotionLine) : Decidable (rateFits line) := by
  unfold rateFits
  split <;> infer_instance

def validateLine (line : PromotionLine) (seenLineIds : List String) : Except PyException Unit := do
  require (line.lineId ≠ "" ∧ line.lineId ∉ seenLineIds) validationError
  requireVnd line.listAmountVnd
  require (rateFits line) validationError

def listSubtotal : List PromotionLine → List String → Int → Except PyException Int
  | [], _, subtotal => .ok subtotal
  | line :: lines, seenLineIds, subtotal => do
    validateLine line seenLineIds
    let subtotal ← checkedAdd subtotal line.listAmountVnd
    listSubtotal lines (line.lineId :: seenLineIds) subtotal

def isAuto (line : PromotionLine) : Bool := line.resolution = .autoIfTargeted

def isHuman (line : PromotionLine) : Bool := line.resolution = .humanConfirm

def eligibleSubtotal (lines : List PromotionLine) : Except PyException Int :=
  (lines.filter isAuto).foldlM (fun subtotal line => checkedAdd subtotal line.listAmountVnd) 0

def rateGroup (lines : List PromotionLine) (rate : Int) : List PromotionLine :=
  lines.filter fun line => isAuto line && line.rateBps = some rate

def subtotalOf (lines : List PromotionLine) : Int := (lines.map PromotionLine.listAmountVnd).sum

def roundedGroupDiscount (numerator : Int) : Int :=
  (numerator + rateDenominator / 2) / rateDenominator

def groupAllocation (lines : List PromotionLine) (rate : Int) : Allocation String :=
  allocate (lines.map fun line => (line.lineId, line.listAmountVnd)) rate rateDenominator
    (roundedGroupDiscount (subtotalOf lines * rate))

/-- `_allocate_group`: the share of each line. -/
def groupShares (lines : List PromotionLine) (rate : Int) : List (String × Int) :=
  (groupAllocation lines rate).orderedIds.zip (groupAllocation lines rate).finalAllocations

/-- `_allocate_group`: its working. -/
def groupTrace (lines : List PromotionLine) (rate : Int) : PromotionAllocationTrace where
  rateBps := rate
  eligibleLineIds := (groupAllocation lines rate).orderedIds
  eligibleSubtotalVnd := subtotalOf lines
  exactDiscountNumerator := subtotalOf lines * rate
  exactDiscountDenominator := rateDenominator
  roundedDiscountVnd := roundedGroupDiscount (subtotalOf lines * rate)
  floorAllocationsVnd := (groupAllocation lines rate).floorAllocations
  remainders := (groupAllocation lines rate).remainders
  remainderAwardOrder := (groupAllocation lines rate).remainderAwardOrder
  finalAllocationsVnd := (groupAllocation lines rate).finalAllocations

def rates (lines : List PromotionLine) : List Int :=
  sortedSet ((lines.filter isAuto).filterMap PromotionLine.rateBps)

def allocations (lines : List PromotionLine) : List (String × Int) :=
  (rates lines).flatMap fun rate => groupShares (rateGroup lines rate) rate

def allocationGroups (lines : List PromotionLine) : List PromotionAllocationTrace :=
  (rates lines).map fun rate => groupTrace (rateGroup lines rate) rate

def adjustmentOf (shares : List (String × Int)) (line : PromotionLine) : PromotionLineAdjustment where
  lineId := line.lineId
  listAmountVnd := line.listAmountVnd
  rateBps := line.rateBps
  discountVnd := (shares.lookup line.lineId).getD 0
  netAmountVnd := line.listAmountVnd - (shares.lookup line.lineId).getD 0
  resolution := line.resolution

def sharesTotal (shares : List (String × Int)) : Int := (shares.map Prod.snd).sum

def referenceAt (occasion : Occasion) : Datetime :=
  occasion.eligibilityAt.getD occasion.evaluationAt

def insideInterval (policy : PromotionPolicy) (moment : Datetime) : Bool :=
  policy.startAt.instant ≤ moment.instant ∧ moment.instant < policy.endAtExclusive.instant

def eligibilityResolved (policy : PromotionPolicy) (occasion : Occasion) : Bool :=
  policy.eligibilityEvent.isSome && occasion.eligibilityEvent = policy.eligibilityEvent &&
    occasion.eligibilityAt.isSome

def relevant (lines : List PromotionLine) : Bool := lines.any isAuto || lines.any isHuman

/-- Another credit is there and the programme may not stack. -/
def stackingBlocked (policy : PromotionPolicy) (occasion : Occasion) : Bool :=
  occasion.otherPromotionPresent && !policy.stackingAllowed

/-- The status and outcome before stacking is looked at, with the reason they give. -/
def firstStatus (policy : PromotionPolicy) (lines : List PromotionLine) (occasion : Occasion) :
    PromotionStatus × PolicyOutcome × List PromotionReason :=
  if !relevant lines then (.notApplicable, .allow, [.promotionNotTargeted])
  else if !eligibilityResolved policy occasion then
    (.provisional, .requireHuman, [.promotionEligibilityUnresolved])
  else if !insideInterval policy (referenceAt occasion) then
    (.ineligible, .allow, [.promotionOutsideInterval])
  else if lines.any isHuman || stackingBlocked policy occasion then
    (.requiresHuman, .requireHuman, [])
  else (.eligible, .allow, [])

def stackingRefused (policy : PromotionPolicy) (occasion : Occasion) : Bool :=
  insideInterval policy (referenceAt occasion) && stackingBlocked policy occasion

def status (policy : PromotionPolicy) (lines : List PromotionLine) (occasion : Occasion) :
    PromotionStatus :=
  let first := (firstStatus policy lines occasion).1
  if stackingRefused policy occasion && first ≠ .provisional && first ≠ .notApplicable then
    .requiresHuman
  else first

def outcome (policy : PromotionPolicy) (lines : List PromotionLine) (occasion : Occasion) :
    PolicyOutcome :=
  if stackingRefused policy occasion then .requireHuman
  else (firstStatus policy lines occasion).2.1

def reasons (policy : PromotionPolicy) (lines : List PromotionLine) (occasion : Occasion)
    (discount : Int) : List PromotionReason :=
  (firstStatus policy lines occasion).2.2 ++
    (if insideInterval policy (referenceAt occasion) && lines.any isHuman then
      [.promotionTargetRequiresHuman] else []) ++
    (if stackingRefused policy occasion then [.promotionStackingRequiresHuman] else []) ++
    (if discount ≠ 0 then [.promotionApplied] else [])

def calculationTrace (policy : PromotionPolicy) (occasion : Occasion)
    (groups : List PromotionAllocationTrace) : PromotionCalculationTrace where
  policyCode := policy.code
  intervalStartAt := policy.startAt
  intervalEndAtExclusive := policy.endAtExclusive
  configuredEligibilityEvent := policy.eligibilityEvent
  observedEligibilityEvent := occasion.eligibilityEvent
  observedEligibilityAt := occasion.eligibilityAt
  candidateReferenceAt := referenceAt occasion
  candidateInsideInterval := insideInterval policy (referenceAt occasion)
  eligibilityResolved := eligibilityResolved policy occasion
  allocationGroups := groups
  rounding := largestRemainderRule
  deliveryDiscountVnd := 0

/-- The programme is applied: it has a target and the moment lies in its interval. -/
def applies (policy : PromotionPolicy) (lines : List PromotionLine) (occasion : Occasion) : Bool :=
  relevant lines && insideInterval policy (referenceAt occasion)

def appliedShares (policy : PromotionPolicy) (lines : List PromotionLine) (occasion : Occasion) :
    List (String × Int) :=
  if applies policy lines occasion then allocations lines else []

def appliedGroups (policy : PromotionPolicy) (lines : List PromotionLine) (occasion : Occasion) :
    List PromotionAllocationTrace :=
  if applies policy lines occasion then allocationGroups lines else []

def evaluatePromotion (policy : PromotionPolicy) (lines : List PromotionLine) (occasion : Occasion) :
    Except PyException PromotionResult := do
  validatePolicy policy
  requireAware occasion.evaluationAt
  require (∀ d ∈ occasion.eligibilityAt, d.aware) validationError
  requireVnd occasion.deliveryFeeVnd
  require (¬ lines.isEmpty) (.promotionError .missingRequiredFact)
  let subtotal ← listSubtotal lines [] 0
  let eligible ← if applies policy lines occasion then eligibleSubtotal lines else .ok 0
  let shares := appliedShares policy lines occasion
  require (sharesTotal shares ≤ subtotal) validationError
  let displayTotal ← checkedAdd (subtotal - sharesTotal shares) occasion.deliveryFeeVnd
  .ok
    { status := status policy lines occasion
      outcome := outcome policy lines occasion
      listServiceSubtotalVnd := subtotal
      eligibleServiceSubtotalVnd := eligible
      discountAmountVnd := sharesTotal shares
      netServiceSubtotalVnd := subtotal - sharesTotal shares
      deliveryFeeVnd := occasion.deliveryFeeVnd
      displayTotalVnd := displayTotal
      eligibilityEvent :=
        if eligibilityResolved policy occasion then occasion.eligibilityEvent else none
      eligibilityAt := if eligibilityResolved policy occasion then occasion.eligibilityAt else none
      adjustments := lines.map (adjustmentOf shares)
      reasonCodes := reasons policy lines occasion (sharesTotal shares)
      trace := calculationTrace policy occasion (appliedGroups policy lines occasion) }

end NhaTrangLaundry.Domain.Promotion
