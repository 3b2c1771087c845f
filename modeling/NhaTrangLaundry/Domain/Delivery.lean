import NhaTrangLaundry.Domain.Canonical
import NhaTrangLaundry.Lib.Decimal

/-! Delivery fee and vehicle decisions. -/

namespace NhaTrangLaundry.Domain.Delivery

open Lib Catalog Canonical Outcome

def maxNumericWeightKg : Decimal := ⟨999999999999, -3⟩

def maxBigint : Int := 9223372036854775807

inductive DeliveryVehicle where
  | motorcycle
  | car
deriving DecidableEq

inductive DeliveryFeeResolution where
  | notApplicable
  | autoFixed
  | humanApproved
  | humanInputRequired
deriving DecidableEq

instance : StrEnum DeliveryFeeResolution where
  value
    | .notApplicable => "NOT_APPLICABLE"
    | .autoFixed => "AUTO_FIXED"
    | .humanApproved => "HUMAN_APPROVED"
    | .humanInputRequired => "HUMAN_INPUT_REQUIRED"
  members := [.notApplicable, .autoFixed, .humanApproved, .humanInputRequired]
  ofValue_value := by intro a; cases a <;> decide
  value_ascii := by intro a; cases a <;> decide

inductive DeliveryReason where
  | selfServiceNoDeliveryJob
  | nearZoneFree
  | midZoneFixedFee
  | farZoneManualFee
  | oneLegPriceUnresolved
  | manualFeeRecordedAndAcknowledged
  | deliveryDistanceUnverified
  | deliveryFeeRequiresHuman
  | transportWeightRequiresHuman
  | vehicleRecommendationOnly
  | slotApprovalRequired
deriving DecidableEq

instance : StrEnum DeliveryReason where
  value
    | .selfServiceNoDeliveryJob => "SELF_SERVICE_NO_DELIVERY_JOB"
    | .nearZoneFree => "NEAR_ZONE_FREE"
    | .midZoneFixedFee => "MID_ZONE_FIXED_FEE"
    | .farZoneManualFee => "FAR_ZONE_MANUAL_FEE"
    | .oneLegPriceUnresolved => "ONE_LEG_PRICE_UNRESOLVED"
    | .manualFeeRecordedAndAcknowledged => "MANUAL_FEE_RECORDED_AND_ACKNOWLEDGED"
    | .deliveryDistanceUnverified => StrEnum.value ErrorCode.deliveryDistanceUnverified
    | .deliveryFeeRequiresHuman => StrEnum.value ErrorCode.deliveryFeeRequiresHuman
    | .transportWeightRequiresHuman => "TRANSPORT_WEIGHT_REQUIRES_HUMAN"
    | .vehicleRecommendationOnly => "VEHICLE_RECOMMENDATION_ONLY"
    | .slotApprovalRequired => StrEnum.value ErrorCode.slotApprovalRequired
  members := [.selfServiceNoDeliveryJob, .nearZoneFree, .midZoneFixedFee, .farZoneManualFee,
    .oneLegPriceUnresolved, .manualFeeRecordedAndAcknowledged, .deliveryDistanceUnverified,
    .deliveryFeeRequiresHuman, .transportWeightRequiresHuman, .vehicleRecommendationOnly,
    .slotApprovalRequired]
  ofValue_value := by intro a; cases a <;> decide
  value_ascii := by intro a; cases a <;> decide

structure DeliveryCalculationTrace where
  fulfillmentMode : FulfillmentMode
  verifiedDistanceM : Option Int
  distanceZone : Option String
  plannedTransportWeightKg : Option String
  vehicleThresholdKg : String
  feeRule : String
  manualFeeCandidateVnd : Option Int
  customerAcknowledgedManualFee : Bool
  deliveryJobRequired : Bool
  dispatchAuthorized : Bool

structure DeliveryResult where
  deliveryFeeVnd : Option Int
  feeResolution : DeliveryFeeResolution
  feeOutcome : PolicyOutcome
  vehicleRecommendation : Option DeliveryVehicle
  vehicleOutcome : PolicyOutcome
  slotOutcome : PolicyOutcome
  overallOutcome : PolicyOutcome
  deliveryJobRequired : Bool
  reasonCodes : List DeliveryReason
  trace : DeliveryCalculationTrace

structure DeliveryFacts where
  fulfillmentMode : FulfillmentMode
  verifiedDistanceM : Option Int
  plannedTransportWeightKg : Option String
  approvedManualFeeVnd : Option Int
  customerAcknowledgedManualFee : Bool

def refuse {α : Type} (code : ErrorCode) : Except PyException α := .error (.deliveryError code)

def distanceZone : Option Int → Option String
  | none => none
  | some distance =>
    if distance ≤ 2000 then some "LE_2_KM"
    else if distance ≤ 6000 then some "GT_2_LE_6_KM"
    else some "GT_6_KM"

/-- `_validate_distance` and `_validate_vnd`: a figure that is given is a bigint. -/
def validateBigint (value : Option Int) : Except PyException Unit :=
  require (∀ n ∈ value, 0 ≤ n ∧ n ≤ maxBigint) (.deliveryError .validationError)

def weight (value : String) : Except PyException Decimal :=
  match Decimal.ofText value with
  | none => refuse .missingRequiredFact
  | some w =>
    if w.le (Decimal.ofInt 0) ∨ maxNumericWeightKg.lt w ∨ w.exponent < -3 then
      refuse .missingRequiredFact
    else .ok w

def plannedWeight : Option String → Except PyException (Option Decimal)
  | none => .ok none
  | some value => some <$> weight value

def resolveVehicle : Option Decimal → Option DeliveryVehicle × PolicyOutcome
  | none => (none, .requireHuman)
  | some w => (some (if w.lt (Decimal.ofInt 20) then .motorcycle else .car), .allow)

/-- How a fee was settled, and the reasons it adds. -/
structure FeeDecision where
  fee : Option Int
  resolution : DeliveryFeeResolution
  outcome : PolicyOutcome
  reasons : List DeliveryReason
  rule : String

/-- `_resolve_manual_fee`, after the reason that sent the fee to a person. -/
def resolveManualFee (facts : DeliveryFacts) (reason : DeliveryReason) (rule : String) : FeeDecision :=
  match facts.approvedManualFeeVnd, facts.customerAcknowledgedManualFee with
  | some fee, true =>
    ⟨some fee, .humanApproved, .allow, [reason, .manualFeeRecordedAndAcknowledged], rule⟩
  | _, _ => ⟨none, .humanInputRequired, .requireHuman, [reason, .deliveryFeeRequiresHuman], rule⟩

def rejectManualOverride (facts : DeliveryFacts) : Except PyException Unit :=
  require (facts.approvedManualFeeVnd = none ∧ facts.customerAcknowledgedManualFee = false)
    (.deliveryError .validationError)

def decideFee (facts : DeliveryFacts) : Except PyException FeeDecision :=
  if facts.fulfillmentMode = .pickupOnly ∨ facts.fulfillmentMode = .returnOnly then
    .ok (resolveManualFee facts .oneLegPriceUnresolved "ONE_LEG_HUMAN_PRICE")
  else
    match facts.verifiedDistanceM with
    | none => do
      rejectManualOverride facts
      .ok ⟨none, .humanInputRequired, .requireHuman,
        [.deliveryDistanceUnverified, .deliveryFeeRequiresHuman], "VERIFIED_DISTANCE_REQUIRED"⟩
    | some distance =>
      if distance ≤ 2000 then do
        rejectManualOverride facts
        .ok ⟨some 0, .autoFixed, .allow, [.nearZoneFree], "DISTANCE_M_LE_2000"⟩
      else if distance ≤ 6000 then do
        rejectManualOverride facts
        .ok ⟨some 10000, .autoFixed, .allow, [.midZoneFixedFee], "2000_LT_DISTANCE_M_LE_6000"⟩
      else .ok (resolveManualFee facts .farZoneManualFee "DISTANCE_M_GT_6000_HUMAN_PRICE")

def selfService (facts : DeliveryFacts) : DeliveryResult where
  deliveryFeeVnd := some 0
  feeResolution := .notApplicable
  feeOutcome := .allow
  vehicleRecommendation := none
  vehicleOutcome := .allow
  slotOutcome := .allow
  overallOutcome := .allow
  deliveryJobRequired := false
  reasonCodes := [.selfServiceNoDeliveryJob]
  trace :=
    { fulfillmentMode := facts.fulfillmentMode
      verifiedDistanceM := facts.verifiedDistanceM
      distanceZone := distanceZone facts.verifiedDistanceM
      plannedTransportWeightKg := facts.plannedTransportWeightKg
      vehicleThresholdKg := "20"
      feeRule := "NO_DELIVERY_JOB"
      manualFeeCandidateVnd := none
      customerAcknowledgedManualFee := false
      deliveryJobRequired := false
      dispatchAuthorized := false }

/-- The shop carries the laundry: the slot always waits for a person. -/
def carried (facts : DeliveryFacts) (planned : Option Decimal) (decision : FeeDecision) :
    DeliveryResult where
  deliveryFeeVnd := decision.fee
  feeResolution := decision.resolution
  feeOutcome := decision.outcome
  vehicleRecommendation := (resolveVehicle planned).1
  vehicleOutcome := (resolveVehicle planned).2
  slotOutcome := .requireHuman
  overallOutcome := .requireHuman
  deliveryJobRequired := true
  reasonCodes :=
    (if (resolveVehicle planned).1 = none then .transportWeightRequiresHuman
      else .vehicleRecommendationOnly) :: decision.reasons ++ [.slotApprovalRequired]
  trace :=
    { fulfillmentMode := facts.fulfillmentMode
      verifiedDistanceM := facts.verifiedDistanceM
      distanceZone := distanceZone facts.verifiedDistanceM
      plannedTransportWeightKg := facts.plannedTransportWeightKg
      vehicleThresholdKg := "20"
      feeRule := decision.rule
      manualFeeCandidateVnd := facts.approvedManualFeeVnd
      customerAcknowledgedManualFee := facts.customerAcknowledgedManualFee
      deliveryJobRequired := true
      dispatchAuthorized := false }

def evaluateDelivery (facts : DeliveryFacts) : Except PyException DeliveryResult := do
  validateBigint facts.verifiedDistanceM
  let planned ← plannedWeight facts.plannedTransportWeightKg
  validateBigint facts.approvedManualFeeVnd
  if facts.fulfillmentMode = .selfDropSelfCollect then do
    rejectManualOverride facts
    .ok (selfService facts)
  else do
    let decision ← decideFee facts
    .ok (carried facts planned decision)

end NhaTrangLaundry.Domain.Delivery
