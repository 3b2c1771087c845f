import NhaTrangLaundry.Domain.Catalog
import NhaTrangLaundry.Lib.Outcome
import NhaTrangLaundry.Lib.Datetime

/-! The three axes of an order, and the transitions that each of them admits. -/

namespace NhaTrangLaundry.Domain.Orders

open Lib Outcome Catalog

inductive IntakeStatus where
  | awaitingHandoff
  | receivedPendingInspection
  | waitingPriceApproval
  | waitingCustomerReconfirmation
  | waitingSlotApproval
  | accepted
  | rejected
deriving DecidableEq

inductive RewashReason where
  | notClean
  | machineFault
  | other
deriving DecidableEq

inductive IntakeRejectionReason where
  | notServiceable
  | damagedOnArrival
  | other
deriving DecidableEq

def modesExpectingPickup : List FulfillmentMode := [.pickupAndReturn, .pickupOnly]

/-- Why a command on an order is stale, illegal, or missing required facts. -/
inductive OrderTransitionError where
  | refused (message : String)
  | stepRequiresHuman (reasonCodes : List String)
  | goodsMayNotLeave (reasonCode : String)
  | refundMethodRequired
deriving DecidableEq

structure IntakeReadiness where
  custodyRecorded : Bool
  quantityBasisApproved : Bool
  serviceClassified : Bool
  exactPriceApproved : Bool
  customerReconfirmationSatisfied : Bool
  slotApproved : Bool
deriving DecidableEq

def IntakeReadiness.ready (r : IntakeReadiness) : Bool :=
  r.custodyRecorded && r.quantityBasisApproved && r.serviceClassified && r.exactPriceApproved &&
    r.customerReconfirmationSatisfied && r.slotApproved

structure OrderState where
  commercial : CommercialOrderStatus
  intake : IntakeStatus
  production : ProductionStatus
  fulfillmentMode : FulfillmentMode
  balance : OrderBalanceStatus
  requiredDeliveryLegsSucceeded : Bool
  selfCollectionRecorded : Bool
  productionAcceptedAt : Option Datetime
  productionResumeStatus : Option ProductionStatus
deriving DecidableEq

def commercialTransitions : CommercialOrderStatus → List CommercialOrderStatus
  | .draft => [.requested, .cancelled]
  | .requested => [.storeConfirmationPending, .cancelled]
  | .storeConfirmationPending => [.confirmed, .cancelled]
  | .confirmed => [.active, .cancelled]
  | .active => [.cancellationReview]
  | .cancellationReview => [.cancelled, .active]
  | .cancelled => []
  | .completed => []

def intakeSequence : List IntakeStatus :=
  [.awaitingHandoff, .receivedPendingInspection, .waitingPriceApproval,
    .waitingCustomerReconfirmation, .waitingSlotApproval, .accepted]

def custodyNotHeldIntakeStatuses : List IntakeStatus := [.awaitingHandoff, .rejected]

def terminalCommercialStatuses : List CommercialOrderStatus := [.cancelled, .completed]

def customerNotChargedResolutions : List CustodyResolution :=
  [.returnedUnwashedRefunded, .shopFaultNoCharge]

def productionSequence : List ProductionStatus :=
  [.notStarted, .queued, .inProcess, .qualityCheck, .readyAtStore, .released]

def balanceAfterCancellation (balance : OrderBalanceStatus) (resolution : Option CustodyResolution) :
    Except OrderTransitionError OrderBalanceStatus :=
  if balance = .unpaid then .ok balance
  else if resolution = some .unclaimedDisposed ∧ (balance = .paid ∨ balance = .partiallyPaid) then
    .ok balance
  else if balance = .paid ∨ balance = .partiallyPaid then
    if ∃ r ∈ resolution, r ∈ customerNotChargedResolutions then .ok .refunded
    else .error (.refused ("HUMAN_APPROVAL_REQUIRED: the order was paid, and this resolution does " ++
      "not say the money went back to the customer"))
  else .error (.refused ("NOT_SUPPORTED: cancelling an order with this balance is not a supported " ++
    "settlement shape"))

def rejectResolutionContradictingTheRecord (state : OrderState)
    (resolution : Option CustodyResolution) : Except OrderTransitionError Unit := do
  require (¬ (resolution = some .notReceived ∧ state.intake ≠ .awaitingHandoff))
    (.refused ("INVALID_STATE_TRANSITION: the order records custody of the goods, " ++
      "so they cannot be resolved as never received"))
  require (¬ (resolution = some .returnedUnwashedRefunded ∧ state.production ≠ .notStarted))
    (.refused ("INVALID_STATE_TRANSITION: production has begun on the goods, " ++
      "so they cannot be resolved as returned unwashed"))
  require (¬ (resolution = some .unclaimedDisposed ∧
      (state.production ≠ .readyAtStore ∨ state.selfCollectionRecorded)))
    (.refused ("INVALID_STATE_TRANSITION: only finished laundry still on the shelf " ++
      "can be disposed of as unclaimed"))

/-- `_work_has_begun`: anything a cancellation would have to resolve. -/
def workHasBegun (state : OrderState) : Prop :=
  state.production ≠ .notStarted ∨ state.intake ∉ custodyNotHeldIntakeStatuses ∨
    state.balance ≠ .unpaid

instance (state : OrderState) : Decidable (workHasBegun state) := by
  unfold workHasBegun
  infer_instance

structure CancellationFacts where
  cancellationApproved : Bool
  custodyAndFinancialResolutionRecorded : Bool
  custodyResolution : Option CustodyResolution
  unclaimedDisposalVerified : Bool
deriving DecidableEq

def CancellationFacts.of (resolution : Option CustodyResolution) (disposalVerified : Bool) :
    CancellationFacts :=
  ⟨resolution.isSome, resolution.isSome, resolution, disposalVerified⟩

/-- The edge into `COMPLETED`. -/
def completeOrder (state : OrderState) : Except OrderTransitionError OrderState := do
  require (state.commercial = .active) (.refused "INVALID_STATE_TRANSITION: order is not active")
  require (state.production = .released)
    (.refused "INVALID_STATE_TRANSITION: production is not released")
  require (state.requiredDeliveryLegsSucceeded ∨ state.selfCollectionRecorded)
    (.refused "INVALID_STATE_TRANSITION: fulfillment is incomplete")
  require (state.balance = .paid ∨ state.balance = .onAccount)
    (.refused "INVALID_STATE_TRANSITION: balance is not settled")
  .ok { state with commercial := .completed }

/-- The edges into `CANCELLED`: free before work starts, reviewed after. -/
def cancelOrder (state : OrderState) (facts : CancellationFacts) :
    Except OrderTransitionError OrderState :=
  if state.commercial = .cancellationReview then do
    require (facts.cancellationApproved ∧ facts.custodyAndFinancialResolutionRecorded)
      (.refused "HUMAN_APPROVAL_REQUIRED: cancellation resolution is incomplete")
    rejectResolutionContradictingTheRecord state facts.custodyResolution
    let balance ← balanceAfterCancellation state.balance facts.custodyResolution
    .ok { state with commercial := .cancelled, balance }
  else do
    require (¬ workHasBegun state)
      (.refused "HUMAN_APPROVAL_REQUIRED: work has begun; cancel through cancellation review")
    .ok { state with commercial := .cancelled }

def transitionCommercial (state : OrderState) (target : CommercialOrderStatus)
    (facts : CancellationFacts) : Except OrderTransitionError OrderState := do
  require (¬ (facts.custodyResolution = some .unclaimedDisposed ∧
      facts.unclaimedDisposalVerified = false))
    (.refused ("HUMAN_APPROVAL_REQUIRED: disposal of unclaimed laundry is the owner's, " ++
      "on its own route (DEC-036)"))
  if target = .completed then completeOrder state
  else do
    require (target ∈ commercialTransitions state.commercial)
      (.refused "INVALID_STATE_TRANSITION: illegal commercial transition")
    require (target = .active → state.intake = .accepted)
      (.refused "INVALID_STATE_TRANSITION: intake is not accepted")
    if target = .cancelled then cancelOrder state facts
    else .ok { state with commercial := target }

/-- The edge into `ACCEPTED`: every readiness fact, and the instant production accepted. -/
def acceptIntake (state : OrderState) (readiness : Option IntakeReadiness)
    (productionAcceptedAt : Option Datetime) : Except OrderTransitionError OrderState := do
  require (∃ r ∈ readiness, r.ready) (.refused "HUMAN_APPROVAL_REQUIRED: intake blockers remain")
  require (∃ d ∈ productionAcceptedAt, d.aware)
    (.refused "VALIDATION_ERROR: production acceptance time is required")
  require (state.productionAcceptedAt = none)
    (.refused "INVALID_STATE_TRANSITION: production was already accepted")
  .ok { state with intake := .accepted, productionAcceptedAt }

/-- Advance intake; waiting states may be skipped only when final readiness is proven. -/
def transitionIntake (state : OrderState) (target : IntakeStatus)
    (readiness : Option IntakeReadiness) (productionAcceptedAt : Option Datetime) :
    Except OrderTransitionError OrderState := do
  require (state.commercial ∉ terminalCommercialStatuses)
    (.refused "INVALID_STATE_TRANSITION: order is closed")
  require (state.intake ≠ .accepted ∧ state.intake ≠ .rejected)
    (.refused "INVALID_STATE_TRANSITION: intake is terminal")
  if target = .rejected then do
    require (state.intake ≠ .awaitingHandoff)
      (.refused "INVALID_STATE_TRANSITION: custody was never received")
    .ok { state with intake := target }
  else do
    require (target ∈ intakeSequence) (.refused "INVALID_STATE_TRANSITION: invalid intake target")
    require (intakeSequence.idxOf state.intake < intakeSequence.idxOf target)
      (.refused "INVALID_STATE_TRANSITION: intake cannot move backward")
    require (state.intake = .awaitingHandoff → target = .receivedPendingInspection)
      (.refused "INVALID_STATE_TRANSITION: handoff must be recorded first")
    if target = .accepted then acceptIntake state readiness productionAcceptedAt
    else .ok { state with intake := target }

/-- The ways out of `EXCEPTION`: where it interrupted, or any earlier point. -/
def resolveException (state : OrderState) (target : ProductionStatus) :
    Except OrderTransitionError OrderState :=
  match state.productionResumeStatus with
  | none => .error (.refused "INVALID_STATE_TRANSITION: invalid exception resume target")
  | some resume => do
    require (target ∈ productionSequence)
      (.refused "INVALID_STATE_TRANSITION: invalid exception resume target")
    require (productionSequence.idxOf target ≤ productionSequence.idxOf resume)
      (.refused "INVALID_STATE_TRANSITION: an exception cannot resume past where it interrupted")
    .ok { state with production := target, productionResumeStatus := none }

/-- Hold the work, or record an exception of it; where it stood is kept. -/
def interrupt (state : OrderState) (target : ProductionStatus) (message : String) :
    Except OrderTransitionError OrderState := do
  require (state.production ≠ .notStarted) (.refused message)
  .ok { state with production := target, productionResumeStatus := some state.production }

def transitionProduction (state : OrderState) (target : ProductionStatus) :
    Except OrderTransitionError OrderState := do
  require (state.commercial ∉ terminalCommercialStatuses)
    (.refused "INVALID_STATE_TRANSITION: order is closed")
  require (target ≠ .notStarted ∧ target ≠ state.production)
    (.refused "INVALID_STATE_TRANSITION: invalid production target")
  require (state.intake = .accepted)
    (.refused "INVALID_STATE_TRANSITION: intake is not accepted")
  if state.production = .onHold then do
    require (state.productionResumeStatus = some target)
      (.refused "INVALID_STATE_TRANSITION: invalid hold resume target")
    .ok { state with production := target, productionResumeStatus := none }
  else if state.production = .exception then resolveException state target
  else if state.production = .released then
    .error (.refused "INVALID_STATE_TRANSITION: production is terminal")
  else if target = .onHold then
    interrupt state target "INVALID_STATE_TRANSITION: unstarted work cannot be held"
  else if target = .exception then
    interrupt state target "INVALID_STATE_TRANSITION: unstarted work has no production exception"
  else do
    require (target ∈ productionSequence ∧
        productionSequence.idxOf target = productionSequence.idxOf state.production + 1)
      (.refused "INVALID_STATE_TRANSITION: illegal production transition")
    .ok { state with production := target, productionResumeStatus := none }

end NhaTrangLaundry.Domain.Orders
