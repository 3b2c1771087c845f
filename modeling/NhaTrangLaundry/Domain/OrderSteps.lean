import NhaTrangLaundry.Domain.Handover
import NhaTrangLaundry.Domain.Orders

/-! Business steps over the axes of an order: the transitions a step is made of, and
the steps that may come next. -/

namespace NhaTrangLaundry.Domain.OrderSteps

open Lib Outcome Catalog Settlement Payments Handover Orders

inductive OrderStep where
  | receive
  | startWash
  | qualityCheck
  | markReady
  | hold
  | resume
  | rewash
  | release
  | handOver
  | complete
  | cancel
  | rejectIntake
  | reopen
  | takePayment
  | collect
  | deliveryPickup
  | deliveryReturn
deriving DecidableEq

def OrderStep.value : OrderStep → String
  | .receive => "RECEIVE"
  | .startWash => "START_WASH"
  | .qualityCheck => "QUALITY_CHECK"
  | .markReady => "MARK_READY"
  | .hold => "HOLD"
  | .resume => "RESUME"
  | .rewash => "REWASH"
  | .release => "RELEASE"
  | .handOver => "HAND_OVER"
  | .complete => "COMPLETE"
  | .cancel => "CANCEL"
  | .rejectIntake => "REJECT_INTAKE"
  | .reopen => "REOPEN"
  | .takePayment => "TAKE_PAYMENT"
  | .collect => "COLLECT"
  | .deliveryPickup => "DELIVERY_PICKUP"
  | .deliveryReturn => "DELIVERY_RETURN"

def stepOrder : List OrderStep :=
  [.receive, .startWash, .qualityCheck, .markReady, .hold, .resume, .rewash, .release, .handOver,
    .complete, .cancel, .rejectIntake, .reopen, .takePayment, .collect, .deliveryPickup,
    .deliveryReturn]

def compositeSteps : List OrderStep :=
  [.receive, .startWash, .qualityCheck, .markReady, .hold, .resume, .rewash, .release, .handOver,
    .complete, .cancel, .rejectIntake, .reopen]

def neverPrimarySteps : List OrderStep := [.rewash, .rejectIntake]

def rewashFromProduction : List ProductionStatus := [.qualityCheck, .readyAtStore]

def rejectIntakeFrom : List IntakeStatus :=
  [.receivedPendingInspection, .waitingPriceApproval, .waitingCustomerReconfirmation,
    .waitingSlotApproval]

def commercialBeforeActive : List CommercialOrderStatus :=
  [.draft, .requested, .storeConfirmationPending, .confirmed]

/-- The four readiness facts that the bound quote revision holds. -/
structure QuoteReadinessFacts where
  quantityBasisApproved : Bool
  serviceClassified : Bool
  exactPriceApproved : Bool
  customerReconfirmationSatisfied : Bool
deriving DecidableEq

def deriveIntakeReadiness (intake : IntakeStatus) (quote : QuoteReadinessFacts)
    (slotApproved : Bool) : IntakeReadiness :=
  ⟨intake ≠ .awaitingHandoff, quote.quantityBasisApproved, quote.serviceClassified,
    quote.exactPriceApproved, quote.customerReconfirmationSatisfied, slotApproved⟩

/-- The reason code of every readiness fact that is not true. -/
def readinessBlockers (r : IntakeReadiness) : List String :=
  ([(r.custodyRecorded, "CUSTODY_NOT_RECORDED"), (r.quantityBasisApproved, "QUANTITY_NOT_MEASURED"),
    (r.serviceClassified, "SERVICE_NOT_CLASSIFIED"),
    (r.exactPriceApproved, "EXACT_PRICE_NOT_APPROVED"),
    (r.customerReconfirmationSatisfied, "CUSTOMER_AGREEMENT_MISSING"),
    (r.slotApproved, "SLOT_APPROVAL_REQUIRED")].filter fun fact => !fact.1).map Prod.snd

/-- Everything that a step decision reads about one order. -/
structure StepFacts where
  state : OrderState
  quoteReadiness : QuoteReadinessFacts
  quotedTotal : QuotedTotal
  settlementShape : Option SettlementShape
  pickupLegSucceeded : Bool
deriving DecidableEq

inductive AxisTarget where
  | commercial (target : CommercialOrderStatus)
  | intake (target : IntakeStatus)
  | production (target : ProductionStatus)
deriving DecidableEq

structure PlannedTransition where
  target : AxisTarget
  intakeReadiness : Option IntakeReadiness := none
  custodyResolution : Option CustodyResolution := none
  rewashReason : Option RewashReason := none
  rejectionReason : Option IntakeRejectionReason := none
  refundMethod : Option PaymentMethod := none
deriving DecidableEq

def nothingToDo : OrderTransitionError :=
  .refused "INVALID_STATE_TRANSITION: this step has nothing to do for the order now"

def orderIsClosed : OrderTransitionError := .refused "INVALID_STATE_TRANSITION: order is closed"

/-- A copy of the state with the transitions applied to it so far. -/
structure Simulation where
  state : OrderState
  planned : List PlannedTransition

namespace Simulation

def commercial (sim : Simulation) (target : CommercialOrderStatus)
    (resolution : Option CustodyResolution) : Except OrderTransitionError Simulation := do
  let state ← transitionCommercial sim.state target (.of resolution false)
  .ok ⟨state, sim.planned ++ [{ target := .commercial target, custodyResolution := resolution }]⟩

def intake (sim : Simulation) (target : IntakeStatus) (readiness : Option IntakeReadiness)
    (acceptedAt : Option Datetime) : Except OrderTransitionError Simulation := do
  let state ← transitionIntake sim.state target readiness acceptedAt
  .ok ⟨state, sim.planned ++ [{ target := .intake target, intakeReadiness := readiness }]⟩

def production (sim : Simulation) (target : ProductionStatus) :
    Except OrderTransitionError Simulation := do
  let state ← transitionProduction sim.state target
  .ok ⟨state, sim.planned ++ [{ target := .production target }]⟩

/-- The first transition says why the step was taken. -/
def noteFirst (sim : Simulation) (note : PlannedTransition → PlannedTransition) : Simulation :=
  ⟨sim.state, sim.planned.modifyHead note⟩

/-- The last transition, into `CANCELLED`, says how the money goes back. -/
def noteLast (sim : Simulation) (note : PlannedTransition → PlannedTransition) : Simulation :=
  ⟨sim.state, sim.planned.modify (sim.planned.length - 1) note⟩

end Simulation

def requireProduction (state : OrderState) (expected : ProductionStatus) :
    Except OrderTransitionError Unit := do
  require (state.commercial ∉ terminalCommercialStatuses) orderIsClosed
  require (state.production = expected)
    (.refused "INVALID_STATE_TRANSITION: illegal production transition")

def receiveHandoff (sim : Simulation) : Except OrderTransitionError Simulation :=
  if sim.state.intake = .awaitingHandoff then
    sim.intake .receivedPendingInspection none none
  else .ok sim

def requestDraft (sim : Simulation) : Except OrderTransitionError Simulation :=
  if sim.state.commercial = .draft then sim.commercial .requested none else .ok sim

def commercialToConfirmed : List CommercialOrderStatus :=
  [.requested, .storeConfirmationPending, .confirmed]

def confirmTowards (sim : Simulation) (target : CommercialOrderStatus) :
    Except OrderTransitionError Simulation :=
  if sim.state.commercial ∈ commercialToConfirmed ∧
      commercialToConfirmed.idxOf sim.state.commercial < commercialToConfirmed.idxOf target then
    sim.commercial target none
  else .ok sim

def acceptGoods (sim : Simulation) (facts : StepFacts) (slotApproved : Bool)
    (acceptedAt : Datetime) : Except OrderTransitionError Simulation :=
  if sim.state.intake = .accepted then .ok sim
  else do
    let readiness := deriveIntakeReadiness sim.state.intake facts.quoteReadiness slotApproved
    require (readinessBlockers readiness = [] ∨ sim.state.intake = .rejected)
      (.stepRequiresHuman (readinessBlockers readiness))
    sim.intake .accepted (some readiness) (some acceptedAt)

def planReceive (sim : Simulation) (facts : StepFacts) (slotApproved : Bool)
    (acceptedAt : Datetime) : Except OrderTransitionError Simulation := do
  require (facts.state.commercial ∉ [.active, .cancellationReview]) nothingToDo
  let sim ← receiveHandoff sim
  let sim ← requestDraft sim
  let sim ← commercialToConfirmed.tail.foldlM confirmTowards sim
  let sim ← acceptGoods sim facts slotApproved acceptedAt
  sim.commercial .active none

def planStartWash (sim : Simulation) : Except OrderTransitionError Simulation := do
  require (sim.state.commercial = .active)
    (.refused "INVALID_STATE_TRANSITION: washing starts only on an active order")
  if sim.state.production = .notStarted then do
    let sim ← sim.production .queued
    sim.production .inProcess
  else do
    requireProduction sim.state .queued
    sim.production .inProcess

def planResume (sim : Simulation) : Except OrderTransitionError Simulation := do
  require (sim.state.production = .onHold ∨ sim.state.production = .exception) nothingToDo
  match sim.state.productionResumeStatus with
  | none => .error (.refused "INVALID_STATE_TRANSITION: invalid hold resume target")
  | some resume => sim.production resume

def planRelease (sim : Simulation) : Except OrderTransitionError Simulation := do
  requireProduction sim.state .readyAtStore
  require (goodsMayLeave sim.state.balance = true) (.goodsMayNotLeave "RELEASE_REQUIRES_PAYMENT")
  sim.production .released

def planHandOver (sim : Simulation) : Except OrderTransitionError Simulation :=
  if sim.state.production = .released then sim.commercial .completed none
  else do
    requireProduction sim.state .readyAtStore
    let sim ← sim.production .released
    sim.commercial .completed none

def planCancel (sim : Simulation) (resolution : Option CustodyResolution) :
    Except OrderTransitionError Simulation :=
  if sim.state.commercial = .active then do
    let sim ← sim.commercial .cancellationReview none
    sim.commercial .cancelled resolution
  else sim.commercial .cancelled resolution

def attachRefundMethod (sim : Simulation) (before : OrderState) (method : Option PaymentMethod) :
    Except OrderTransitionError Simulation :=
  if sim.state.balance = .refunded ∧ before.balance ≠ .refunded then
    match method with
    | none => .error .refundMethodRequired
    | some method => .ok (sim.noteLast fun last => { last with refundMethod := some method })
  else do
    require (method = none) (.refused ("VALIDATION_ERROR: refund_method is taken only by a " ++
      "cancellation that hands money back"))
    .ok sim

def planReopen (sim : Simulation) : Except OrderTransitionError Simulation := do
  require (sim.state.commercial = .cancellationReview) nothingToDo
  sim.commercial .active none

def planRewash (sim : Simulation) (reason : Option RewashReason) :
    Except OrderTransitionError Simulation := do
  require (sim.state.commercial ∉ terminalCommercialStatuses) orderIsClosed
  require (sim.state.commercial = .active)
    (.refused "INVALID_STATE_TRANSITION: laundry is washed again only on an active order")
  require (sim.state.production ∈ rewashFromProduction)
    (.refused ("INVALID_STATE_TRANSITION: a rewash starts at quality check or from the shelf, " ++
      "before the goods leave the shop"))
  require (sim.state.selfCollectionRecorded = false)
    (.refused ("INVALID_STATE_TRANSITION: the customer is recorded as having taken the goods; " ++
      "a garment brought back is a complaint"))
  require (reason ≠ none) (.refused "VALIDATION_ERROR: REWASH requires rewash_reason")
  let sim ← sim.production .exception
  let sim ← sim.production .inProcess
  .ok (sim.noteFirst fun first => { first with rewashReason := reason })

def planRejectIntake (sim : Simulation) (reason : Option IntakeRejectionReason) :
    Except OrderTransitionError Simulation := do
  require (sim.state.commercial ∉ terminalCommercialStatuses) orderIsClosed
  require (sim.state.commercial ∈ commercialBeforeActive)
    (.refused ("INVALID_STATE_TRANSITION: goods are refused only before the order is accepted " ++
      "for work"))
  require (sim.state.intake ≠ .awaitingHandoff)
    (.refused "INVALID_STATE_TRANSITION: nothing was received, so there is nothing to refuse")
  require (sim.state.intake ∈ rejectIntakeFrom)
    (.refused "INVALID_STATE_TRANSITION: goods are refused only while they wait on the counter")
  require (reason ≠ none) (.refused "VALIDATION_ERROR: REJECT_INTAKE requires rejection_reason")
  let sim ← sim.intake .rejected none none
  let sim ← sim.commercial .cancelled none
  .ok (sim.noteFirst fun first => { first with rejectionReason := reason })

structure StepArguments where
  slotApproved : Bool
  custodyResolution : Option CustodyResolution
  acceptedAt : Datetime
  rewashReason : Option RewashReason := none
  rejectionReason : Option IntakeRejectionReason := none
  refundMethod : Option PaymentMethod := none
deriving DecidableEq

def simulateStep (step : OrderStep) (facts : StepFacts) (args : StepArguments) :
    Except OrderTransitionError Simulation :=
  let sim : Simulation := ⟨facts.state, []⟩
  match step with
  | .receive => planReceive sim facts args.slotApproved args.acceptedAt
  | .startWash => planStartWash sim
  | .qualityCheck => do
    requireProduction sim.state .inProcess
    sim.production .qualityCheck
  | .markReady => do
    requireProduction sim.state .qualityCheck
    sim.production .readyAtStore
  | .hold => sim.production .onHold
  | .resume => planResume sim
  | .release => planRelease sim
  | .handOver => planHandOver sim
  | .complete => sim.commercial .completed none
  | .cancel => do
    let sim ← planCancel sim args.custodyResolution
    attachRefundMethod sim facts.state args.refundMethod
  | .reopen => planReopen sim
  | .rewash => planRewash sim args.rewashReason
  | .rejectIntake => planRejectIntake sim args.rejectionReason
  | _ => .error nothingToDo

/-- `plan_step`, with the state that its simulation ends in. -/
def simulatedPlan (step : OrderStep) (facts : StepFacts) (args : StepArguments) :
    Except OrderTransitionError Simulation := do
  require (step ∈ compositeSteps) (.refused ("INVALID_STATE_TRANSITION: " ++ step.value ++
    " is recorded on its own route, not as a step"))
  require (args.rewashReason = none ∨ step = .rewash)
    (.refused "VALIDATION_ERROR: rewash_reason is taken only by REWASH")
  require (args.rejectionReason = none ∨ step = .rejectIntake)
    (.refused "VALIDATION_ERROR: rejection_reason is taken only by REJECT_INTAKE")
  require (args.custodyResolution = none ∨ step ∉ neverPrimarySteps)
    (.refused ("VALIDATION_ERROR: custody_resolution is not taken by " ++ step.value))
  require (args.refundMethod = none ∨ step = .cancel)
    (.refused "VALIDATION_ERROR: refund_method is taken only by CANCEL")
  let sim ← simulateStep step facts args
  require (sim.planned ≠ []) nothingToDo
  .ok sim

def planStep (step : OrderStep) (facts : StepFacts) (args : StepArguments) :
    Except OrderTransitionError (List PlannedTransition) :=
  Simulation.planned <$> simulatedPlan step facts args

/-- The instant that `next_steps` hands `plan_step` for a dry run. -/
def dryRunInstant : Datetime := .ofUtc (730119 * dayMicros) (by decide)

def dryRun (resolution : Option CustodyResolution) : StepArguments :=
  { slotApproved := true, custodyResolution := resolution, acceptedAt := dryRunInstant }

def legal (step : OrderStep) (facts : StepFacts) (args : StepArguments) : Bool :=
  (planStep step facts args).isOk

/-- `_cancel_legal`: whether a cancellation is accepted, and whether it hands money back. -/
def cancelLegal (facts : StepFacts) (resolution : Option CustodyResolution) : Bool × Bool :=
  match planStep .cancel facts (dryRun resolution) with
  | .ok _ => (true, false)
  | .error .refundMethodRequired =>
    (legal .cancel facts { dryRun resolution with refundMethod := some .tienMat }, true)
  | .error _ => (false, false)

def paymentLegal (facts : StepFacts) : Bool :=
  facts.state.commercial = .active && facts.state.balance ∈ payableBalances &&
    match facts.quotedTotal.minimumVnd with
    | none => false
    | some total =>
      (evaluateSettlement facts.quotedTotal total false facts.state.fulfillmentMode false).isOk

/-- A request field that the caller of a step must supply. -/
inductive RequiredField where
  | slotApproved
  | custodyResolution
  | refundMethod
  | rewashReason
  | rejectionReason
  | amountVnd
  | method
deriving DecidableEq

structure NextStep where
  step : OrderStep
  primary : Bool
  requires : List RequiredField := []
  custodyResolutions : List CustodyResolution := []
  rewashReasons : List RewashReason := []
  rejectionReasons : List IntakeRejectionReason := []
deriving DecidableEq

def custodyResolutions : List CustodyResolution :=
  [.notReceived, .returnedUnwashedRefunded, .shopFaultNoCharge, .unclaimedDisposed]

def rewashReasons : List RewashReason := [.notClean, .machineFault, .other]

def intakeRejectionReasons : List IntakeRejectionReason :=
  [.notServiceable, .damagedOnArrival, .other]

def offered (step : OrderStep) (accepted : Bool) (requires : List RequiredField) :
    Option NextStep :=
  if accepted then some { step, primary := false, requires } else none

/-- The offer of `CANCEL`: without a resolution if that is accepted, else with those that are. -/
def offeredCancel (facts : StepFacts) : Option NextStep :=
  if (cancelLegal facts none).1 then
    offered .cancel true (if (cancelLegal facts none).2 then [.refundMethod] else [])
  else
    let accepted := custodyResolutions.filter fun r => (cancelLegal facts (some r)).1
    let refunds := accepted.any fun r => (cancelLegal facts (some r)).2
    if accepted = [] then none
    else some {
      step := .cancel
      primary := false
      requires := if refunds then [.custodyResolution, .refundMethod] else [.custodyResolution]
      custodyResolutions := accepted }

def offeredRewash (facts : StepFacts) : Option NextStep :=
  let accepted := rewashReasons.filter fun reason =>
    legal .rewash facts { dryRun none with rewashReason := some reason }
  if accepted = [] then none
  else some { step := .rewash, primary := false, requires := [.rewashReason], rewashReasons := accepted }

def offeredRejectIntake (facts : StepFacts) : Option NextStep :=
  let accepted := intakeRejectionReasons.filter fun reason =>
    legal .rejectIntake facts { dryRun none with rejectionReason := some reason }
  if accepted = [] then none
  else some {
    step := .rejectIntake
    primary := false
    requires := [.rejectionReason]
    rejectionReasons := accepted }

/-- `HAND_OVER` in the list, before it is renamed at `RELEASED`. -/
def handOverLegal (facts : StepFacts) : Bool := legal .handOver facts (dryRun none)

/-- `_legal_steps`: what the list says of each step. -/
def legalSteps (facts : StepFacts) : OrderStep → Option NextStep
  | .receive => offered .receive (legal .receive facts (dryRun none)) [.slotApproved]
  | .cancel => offeredCancel facts
  | .rewash => offeredRewash facts
  | .rejectIntake => offeredRejectIntake facts
  | .release => offered .release (legal .release facts (dryRun none) &&
      !(handOverLegal facts && facts.state.production ≠ .released)) []
  | .handOver =>
    offered .handOver (handOverLegal facts && facts.state.production ≠ .released) []
  | .takePayment => offered .takePayment (paymentLegal facts) [.amountVnd, .method]
  | .collect => offered .collect ((evaluateCollection facts.state.commercial facts.state.production
      facts.state.balance facts.settlementShape facts.state.selfCollectionRecorded).isNone) []
  | .deliveryPickup => offered .deliveryPickup (facts.state.commercial = .active &&
      facts.state.fulfillmentMode ∈ modesExpectingPickup && !facts.pickupLegSucceeded) []
  | .deliveryReturn => offered .deliveryReturn (facts.state.commercial = .active &&
      facts.state.fulfillmentMode ∈ modesExpectingReturn &&
      !facts.state.requiredDeliveryLegsSucceeded &&
      (deliveryRefusal facts.state.balance facts.state.production).isNone) []
  | step => offered step (legal step facts (dryRun none)) []

/-- `_primary_order`: the natural next event, in preference order. -/
def primaryOrder (facts : StepFacts) : List OrderStep :=
  if facts.state.commercial = .cancellationReview then [.cancel, .reopen]
  else [.receive, .resume, .startWash, .qualityCheck, .markReady] ++
    if facts.state.fulfillmentMode ∈ modesExpectingReturn then
      [.takePayment, .release, .deliveryReturn, .handOver, .complete]
    else [.takePayment, .collect, .handOver, .complete]

def primaryStep (facts : StepFacts) : Option OrderStep :=
  let found := fun step => (legalSteps facts step).isSome
  let candidates := stepOrder.filter fun step => found step && step ∉ neverPrimarySteps
  (primaryOrder facts).find? found <|>
    candidates.find? (fun step => step ∉ [OrderStep.cancel, .hold]) <|> candidates.head?

def nextSteps (facts : StepFacts) : List NextStep :=
  stepOrder.filterMap fun step => (legalSteps facts step).map fun item =>
    { item with primary := some item.step = primaryStep facts }

end NhaTrangLaundry.Domain.OrderSteps
