import NhaTrangLaundry.Domain.OrderSteps
import NhaTrangLaundry.Db.Payments

/-! One order as its repositories write it: transitions and steps, settlements,
payments, collections, delivery legs, waivers, account charges and their payments, and
disposal. -/

namespace NhaTrangLaundry.Db.Orders

open Lib Outcome Domain Catalog Canonical Settlement Unclaimed Accounts Handover
open Domain.Orders OrderSteps Domain.Payments

inductive DeliveryLegKind where
  | pickup
  | return
deriving DecidableEq

inductive DeliveryLegOutcome where
  | succeeded
  | failed
deriving DecidableEq

/-- A row of `delivery_legs`. -/
structure DeliveryLeg where
  legKind : DeliveryLegKind
  outcome : DeliveryLegOutcome
deriving DecidableEq

/-- The row of `customer_account_charges`, with the storage fee that was fixed with it. -/
structure AccountCharge where
  owedVnd : Int
  paidBeforeVnd : Int
  amountVnd : Int
  storageFeeVnd : Int
  collectedByCustomer : Bool
deriving DecidableEq

/-- The row of `order_refunds`. -/
structure OrderRefund where
  refundedAmountVnd : Int
  nettedRemedyVnd : Int
  custodyResolution : CustodyResolution
  refundMethod : PaymentMethod
deriving DecidableEq

/-- The rows of one order, and the storage policy in force. -/
structure OrderRow where
  state : OrderState
  quotedTotal : QuotedTotal
  quoteReadiness : QuoteReadinessFacts
  productionReadyAt : Option Int
  storageHolds : List StorageHold
  storagePolicy : Option StoragePolicy
  waived : Bool
  payments : List Int
  settlement : Option Payments.OrderSettlement
  fixedFeeVnd : Option Int
  charge : Option AccountCharge
  deliveryLegs : List DeliveryLeg
  refund : Option OrderRefund
deriving DecidableEq

inductive Refusal where
  | raised (e : PyException)
  | transition (e : OrderTransitionError)
  | creditChain
  | payment (e : Payments.Refusal)
  | settlement (reasonCode : String)
  | settlementShape (refusal : SettlementRefusal)
  | collection (refusal : CollectionRefusal)
  | deliveryLeg (message : String)
  | deliveryRefused (refusal : DeliveryRefusal)
  | account (refusal : AccountRefusal)
  | accountState (message : String)
  | disposal (code : String)
  | database
deriving DecidableEq

namespace OrderRow

/-- `OrderRepository.create`. -/
def created (mode : FulfillmentMode) (quotedTotal : QuotedTotal) (readiness : QuoteReadinessFacts)
    (policy : Option StoragePolicy) : OrderRow where
  state := ⟨.requested, .awaitingHandoff, .notStarted, mode, .unpaid, false, false, none, none⟩
  quotedTotal
  quoteReadiness := readiness
  productionReadyAt := none
  storageHolds := []
  storagePolicy := policy
  waived := false
  payments := []
  settlement := none
  fixedFeeVnd := none
  charge := none
  deliveryLegs := []
  refund := none

def stepFacts (row : OrderRow) : StepFacts where
  state := row.state
  quoteReadiness := row.quoteReadiness
  quotedTotal := row.quotedTotal
  settlementShape := row.settlement.map Payments.OrderSettlement.shape
  pickupLegSucceeded := row.deliveryLegs.any fun leg =>
    leg.legKind = .pickup && leg.outcome = .succeeded

/-- The order as the till reads it: there is one exactly when the quote presents a single total. -/
def till (row : OrderRow) : Option Payments.Order :=
  match row.quotedTotal.minimumVnd, row.quotedTotal.maximumVnd with
  | some minimum, some maximum =>
    if minimum = maximum then
      some {
        quotedTotalVnd := minimum
        commercial := row.state.commercial
        production := row.state.production
        productionResumeStatus := row.state.productionResumeStatus
        fulfillmentMode := row.state.fulfillmentMode
        selfCollectionRecorded := row.state.selfCollectionRecorded
        productionReadyAt := row.productionReadyAt
        storageHolds := row.storageHolds
        storagePolicy := row.storagePolicy
        waived := row.waived
        balance := row.state.balance
        payments := row.payments
        settlement := row.settlement
        fixedFeeVnd := row.fixedFeeVnd }
    else none
  | _, _ => none

def withTill (row : OrderRow) (till : Payments.Order) : OrderRow :=
  { row with
    state := { row.state with
      balance := till.balance
      selfCollectionRecorded := till.selfCollectionRecorded }
    waived := till.waived
    payments := till.payments
    settlement := till.settlement
    fixedFeeVnd := till.fixedFeeVnd }

end OrderRow

/-- One transition of a row that its caller has locked; `creditChain` is what the remedy
credits of the order answer a cancellation, refused or the đồng they net. -/
structure TransitionCommand where
  target : AxisTarget
  intakeReadiness : Option IntakeReadiness
  productionAcceptedAt : Option Datetime
  custodyResolution : Option CustodyResolution
  unclaimedDisposalVerified : Bool
  refundMethod : Option PaymentMethod
  creditChain : Option Int
  occurredAt : Datetime
deriving DecidableEq

/-- The domain's answer to a transition, and the rule that goods leave only when paid. -/
def domainTransition (state : OrderState) (command : TransitionCommand) :
    Except OrderTransitionError OrderState :=
  match command.target with
  | .commercial target => transitionCommercial state target
      (.of command.custodyResolution command.unclaimedDisposalVerified)
  | .intake target =>
    transitionIntake state target command.intakeReadiness command.productionAcceptedAt
  | .production target => do
    let next ← transitionProduction state target
    require (next.production = .released → goodsMayLeave state.balance = true)
      (.goodsMayNotLeave "RELEASE_REQUIRES_PAYMENT")
    .ok next

def refunding (current next : OrderState) : Prop :=
  (current.balance = .paid ∨ current.balance = .partiallyPaid) ∧ next.balance = .refunded

instance (current next : OrderState) : Decidable (refunding current next) := by
  unfold refunding
  infer_instance

/-- What `_apply_locked_transition` checks before it reads the ledgers. -/
def decideTransition (state : OrderState) (command : TransitionCommand) :
    Except OrderTransitionError OrderState := do
  let next ← domainTransition state command
  require (refunding state next → command.refundMethod ≠ none) .refundMethodRequired
  require (¬ refunding state next → command.refundMethod = none)
    (.refused ("VALIDATION_ERROR: refund_method is taken only by a cancellation that hands money " ++
      "back"))
  .ok next

/-- `_refund_source`: the settlement's amount, or the ledger's sum of a deposit. -/
def refundSource (row : OrderRow) : Option Int :=
  if row.state.balance = .partiallyPaid then
    if 0 < row.payments.sum then some row.payments.sum else none
  else row.settlement.map Payments.OrderSettlement.paidAmountVnd

def refundForCancellation (row : OrderRow) (command : TransitionCommand) :
    Except Refusal OrderRefund :=
  match command.custodyResolution, command.refundMethod with
  | none, _ => .error (.transition (.refused
      "HUMAN_APPROVAL_REQUIRED: a refund needs a custody resolution"))
  | some _, none => .error (.transition .refundMethodRequired)
  | some resolution, some method =>
    match refundSource row with
    | some amount => .ok ⟨amount, 0, resolution, method⟩
    | none => .error (.transition (.refused (if row.state.balance = .partiallyPaid then
        "the order reads partly paid but no payment is recorded; nothing can be refunded"
      else
        "the order reads paid but no settlement records the payment; nothing can be refunded")))

def refundOf (row : OrderRow) (next : OrderState) (command : TransitionCommand) :
    Except Refusal (Option OrderRefund) :=
  if refunding row.state next then some <$> refundForCancellation row command else .ok none

/-- The đồng that the credit chain nets; it is asked only by the move into `CANCELLED`. -/
def nettedBy (current next : OrderState) (command : TransitionCommand) : Except Refusal Int :=
  if next.commercial = .cancelled ∧ current.commercial ≠ .cancelled then
    match command.creditChain with
    | none => .error .creditChain
    | some netted => .ok netted
  else .ok 0

def OrderRefund.net (refund : OrderRefund) (nettedVnd : Int) : OrderRefund :=
  { refund with
    refundedAmountVnd := refund.refundedAmountVnd - nettedVnd
    nettedRemedyVnd := nettedVnd }

/-- `_ready_clock_effect`: the stamp to write, and whether the time on record survives. -/
def readyClockEffect (movingProduction : Bool) (before after : ProductionStatus)
    (resumeTo : Option ProductionStatus) (moment : Int) : Option Int × Bool :=
  if movingProduction = false then (none, true)
  else if after = .readyAtStore then
    if before ∈ shelfInterruptions then (none, true) else (some moment, false)
  else if after = .released then (none, true)
  else if after ∈ shelfInterruptions ∧ resumeTo = some .readyAtStore then (none, true)
  else (none, false)

def movesProduction : AxisTarget → Bool
  | .production _ => true
  | _ => false

/-- The write of `production_ready_at`. -/
def readyAtAfter (row : OrderRow) (next : OrderState) (command : TransitionCommand) : Option Int :=
  let moment := command.occurredAt.instant
  let moving := movesProduction command.target
  let effect := readyClockEffect moving row.state.production next.production
    next.productionResumeStatus moment
  effect.1 <|> (if effect.2 then row.productionReadyAt else none) <|>
    if moving ∧ next.production = .readyAtStore then some moment else none

def storageHoldMove (row : OrderRow) (next : OrderState) (command : TransitionCommand) :
    Option HoldMove :=
  if movesProduction command.target then
    holdMove row.state.production next.production next.productionResumeStatus
  else none

def endHolds (holds : List StorageHold) (moment : Int) : List StorageHold :=
  holds.map fun hold => if hold.resumedAt = none then { hold with resumedAt := some moment } else hold

/-- The write of `order_storage_holds`: one open row at most, and none that ends before it began. -/
def holdsAfter (row : OrderRow) (next : OrderState) (command : TransitionCommand) :
    Except Refusal (List StorageHold) :=
  let moment := command.occurredAt.instant
  match storageHoldMove row next command with
  | some .start => do
    require (∀ hold ∈ row.storageHolds, hold.resumedAt ≠ none) .database
    .ok (row.storageHolds ++ [⟨moment, none⟩])
  | some .finish => do
    require (∀ hold ∈ row.storageHolds, hold.resumedAt = none → hold.heldAt ≤ moment) .database
    .ok (endHolds row.storageHolds moment)
  | none => .ok row.storageHolds

/-- `OrderRepository._apply_locked_transition`. -/
def applyLockedTransition (row : OrderRow) (command : TransitionCommand) :
    Except Refusal OrderRow := do
  let next ← (decideTransition row.state command).mapError .transition
  let refund ← refundOf row next command
  let netted ← nettedBy row.state next command
  let holds ← holdsAfter row next command
  .ok { row with
    state := next
    refund := refund.map (OrderRefund.net · netted) <|> row.refund
    productionReadyAt := readyAtAfter row next command
    storageHolds := holds }

/-- `OrderRepository.transition`; the per-axis routes never vouch for a disposal. -/
def transition (row : OrderRow) (command : TransitionCommand) : Except Refusal OrderRow :=
  applyLockedTransition row { command with unclaimedDisposalVerified := false }

def plannedCommand (planned : PlannedTransition) (creditChain : Option Int) (moment : Datetime) :
    TransitionCommand where
  target := planned.target
  intakeReadiness := planned.intakeReadiness
  productionAcceptedAt := if planned.target = .intake .accepted then some moment else none
  custodyResolution := planned.custodyResolution
  unclaimedDisposalVerified := false
  refundMethod := planned.refundMethod
  creditChain
  occurredAt := moment

/-- `timestamp + timedelta(microseconds=index)`. -/
def momentAt (occurredAt : Datetime) (index : Nat) : Except Refusal Datetime :=
  ofOption (.raised .overflowError) (occurredAt.addMicros index)

/-- The transitions of a plan, written one at a time from the given position on. -/
def executePlan (creditChain : Option Int) (occurredAt : Datetime) :
    Nat → OrderRow → List PlannedTransition → Except Refusal OrderRow
  | _, row, [] => .ok row
  | index, row, planned :: plan => do
    let moment ← momentAt occurredAt index
    let row ← applyLockedTransition row (plannedCommand planned creditChain moment)
    executePlan creditChain occurredAt (index + 1) row plan

/-- `OrderRepository.execute_step`. -/
def executeStep (row : OrderRow) (step : OrderStep) (args : StepArguments)
    (creditChain : Option Int) : Except Refusal OrderRow := do
  let plan ← (planStep step row.stepFacts args).mapError .transition
  executePlan creditChain args.acceptedAt 0 row plan

/-- The storage fee that an exact-total settlement reads. -/
def feeAtSettlement (row : OrderRow) (attestedAt : Int) : Except Refusal Int :=
  match row.till with
  | none => .ok 0
  | some till => OrderStorageFee.amountVnd <$> (till.storageFeeAt attestedAt).mapError .raised

def writeSettlement (row : OrderRow) (paidAmountVnd : Int) (shape : SettlementShape) : OrderRow :=
  { row with
    settlement := some ⟨row.quotedTotal.minimumVnd.getD 0, paidAmountVnd, shape⟩
    payments := if 0 < paidAmountVnd then row.payments ++ [paidAmountVnd] else row.payments
    state := { row.state with
      balance := .paid
      selfCollectionRecorded := shape = .exactPaymentSelfCollection } }

/-- The exact-total settlement: `SettlementRepository.record`. -/
def settle (row : OrderRow) (paidAmountVnd : Int) (collectedByCustomer : Bool) (attestedAt : Int) :
    Except Refusal OrderRow := do
  require (row.state.commercial = .active) (.settlement "ORDER_NOT_ACTIVE")
  require (row.state.balance ≠ .partiallyPaid) (.settlement "ORDER_PARTLY_PAID")
  require (row.state.balance = .unpaid) (.settlement "ALREADY_SETTLED")
  let fee ← feeAtSettlement row attestedAt
  require (fee ≤ 0) (.settlement "STORAGE_FEE_OWED")
  let shape ← (evaluateSettlement row.quotedTotal paidAmountVnd collectedByCustomer
    row.state.fulfillmentMode false).mapError .settlementShape
  require (shape = .exactPaymentSelfCollection → row.state.production ∈ handoverReadyProduction)
    (.settlement "GOODS_NOT_READY_FOR_HANDOVER")
  .ok (writeSettlement row paidAmountVnd shape)

/-- The refusal of a payment when the quote presents no single total. -/
def unpresented (row : OrderRow) : PaymentRefusal :=
  if row.state.commercial ≠ .active then .orderNotActive
  else if row.state.balance ∉ payableBalances then .nothingOwed
  else .noPresentableTotal

/-- `PaymentRepository.record`. -/
def takePayment (row : OrderRow) (command : Payments.PaymentCommand) : Except Refusal OrderRow :=
  match row.till with
  | none => .error (.payment (.payment (unpresented row)))
  | some till => do
    let till ← (Payments.record till command).mapError .payment
    .ok (row.withTill till)

/-- `UnclaimedRepository.waive_storage_fee`. -/
def waive (row : OrderRow) (occurredAt : Int) : Except Refusal OrderRow :=
  match row.till with
  | none => .error (.payment (.waiver "NO_STORAGE_FEE_OWED"))
  | some till => do
    let till ← (Payments.waiveStorageFee till occurredAt).mapError .payment
    .ok (row.withTill till)

/-- `SettlementRepository.record_collection`. -/
def recordCollection (row : OrderRow) : Except Refusal OrderRow :=
  match evaluateCollection row.state.commercial row.state.production row.state.balance
    (row.settlement.map Payments.OrderSettlement.shape) row.state.selfCollectionRecorded with
  | some refusal => .error (.collection refusal)
  | none => do
    require (row.state.balance = .paid) (.settlement "STALE_VERSION")
    .ok { row with state := { row.state with selfCollectionRecorded := true } }

/-- A trip of the courier is written, and the first return that succeeds is the arrival. -/
def writeLeg (row : OrderRow) (leg : DeliveryLeg) : OrderRow :=
  { row with
    deliveryLegs := row.deliveryLegs ++ [leg]
    state := { row.state with
      requiredDeliveryLegsSucceeded := row.state.requiredDeliveryLegsSucceeded ||
        (leg.legKind = .return && leg.outcome = .succeeded) } }

/-- `DeliveryLegRepository.record`. -/
def recordLeg (row : OrderRow) (leg : DeliveryLeg) : Except Refusal OrderRow := do
  require (row.state.commercial = .active)
    (.deliveryLeg "only an active order can have a delivery recorded")
  require (row.state.fulfillmentMode ≠ .selfDropSelfCollect)
    (.deliveryLeg "this order has no delivery: the customer brings and collects it themselves")
  require (leg.legKind = .return → row.state.fulfillmentMode ∈ modesExpectingReturn)
    (.deliveryLeg "this order's fulfilment mode has no return leg")
  require (leg.legKind = .pickup → row.state.fulfillmentMode ∈ modesExpectingPickup)
    (.deliveryLeg "this order's fulfilment mode has no pickup leg")
  match leg.legKind, deliveryRefusal row.state.balance row.state.production with
  | .return, some refusal => .error (.deliveryRefused refusal)
  | _, _ => do
    require (leg.outcome = .succeeded → leg ∉ row.deliveryLegs)
      (.deliveryLeg "this delivery was already recorded as successful")
    .ok (writeLeg row leg)

def writeCharge (row : OrderRow) (accepted : AccountChargeAccepted) (storageFeeVnd : Int) :
    OrderRow :=
  { row with
    charge := some ⟨accepted.owedVnd, accepted.paidBeforeVnd, accepted.amountVnd, storageFeeVnd,
      accepted.collectedByCustomer⟩
    fixedFeeVnd := if 0 < storageFeeVnd then some storageFeeVnd else row.fixedFeeVnd
    state := { row.state with
      balance := .onAccount
      selfCollectionRecorded := row.state.selfCollectionRecorded || accepted.collectedByCustomer } }

def owedOnAccount (row : OrderRow) (at_ : Int) :
    Except Refusal (OrderStorageFee × Option Int) :=
  match row.till with
  | none => .ok (⟨.noSingleTotal, 0, none, 0⟩, none)
  | some till => do
    let storage ← (till.storageFeeAt at_).mapError .raised
    let charges ← (owedCharges row.quotedTotal storage.amountVnd).mapError .raised
    match charges with
    | none => .ok (storage, none)
    | some charges => do
      let owed ← (owedTotal charges).mapError .raised
      .ok (storage, some owed)

/-- `AccountRepository.charge`; `standing` is the account's, read under its lock. -/
def chargeAccount (row : OrderRow) (standing : Option AccountStanding) (collectedByCustomer : Bool)
    (at_ : Int) : Except Refusal OrderRow := do
  let owed ← owedOnAccount row at_
  let outcome ← (evaluateAccountCharge row.state.commercial row.state.production row.state.balance
    row.state.fulfillmentMode row.state.selfCollectionRecorded owed.2 row.payments.sum
    collectedByCustomer standing).mapError .raised
  match outcome with
  | .refused refusal => .error (.account refusal)
  | .accepted accepted => do
    require (0 < owed.1.amountVnd → owed.1.fee.isSome ∧ row.storagePolicy.isSome)
      (.raised (.valueError "AssertionError"))
    .ok (writeCharge row accepted owed.1.amountVnd)

def writeAccountSettlement (row : OrderRow) (charge : AccountCharge) (amountVnd : Int)
    (shape : SettlementShape) : OrderRow :=
  { row with
    payments := row.payments ++ [amountVnd]
    settlement := some ⟨charge.owedVnd, row.payments.sum + amountVnd, shape⟩
    state := { row.state with balance := .paid } }

/-- `_allocate`: the share of an account's payment that one order on it is paid. -/
def allocate (row : OrderRow) (amountVnd : Int) : Except Refusal OrderRow :=
  match row.charge with
  | none => .error (.accountState "AssertionError")
  | some charge => do
    require (row.state.balance = .onAccount)
      (.accountState "STALE_VERSION: an order on the account is no longer on it")
    require (row.payments.sum + amountVnd ≤ charge.owedVnd)
      (.accountState "an account payment would pay an order past what it owed")
    require (1 ≤ amountVnd) .database
    if row.payments.sum + amountVnd = charge.owedVnd then do
      let shape ← (evaluateSettlement row.quotedTotal (charge.owedVnd - charge.storageFeeVnd) false
        row.state.fulfillmentMode true).mapError .settlementShape
      .ok (writeAccountSettlement row charge amountVnd shape)
    else .ok { row with payments := row.payments ++ [amountVnd] }

def disposalCommand (target : CommercialOrderStatus) (resolution : Option CustodyResolution)
    (creditChain : Option Int) (moment : Datetime) : TransitionCommand where
  target := .commercial target
  intakeReadiness := none
  productionAcceptedAt := none
  custodyResolution := resolution
  unclaimedDisposalVerified := resolution.isSome
  refundMethod := none
  creditChain
  occurredAt := moment

/-- `UnclaimedRepository.dispose`; `verdict` is the rest of `disposal_verdict`: the published
policy, the days waited and the contact attempts. -/
def dispose (row : OrderRow) (verdict : Bool) (creditChain : Option Int) (occurredAt : Datetime) :
    Except Refusal OrderRow := do
  require (awaitingPickup row.state.commercial row.state.production row.state.fulfillmentMode
    row.state.selfCollectionRecorded = true) (.disposal "NOT_AWAITING_PICKUP")
  require (verdict = true) (.disposal "DISPOSAL_REFUSED")
  require (row.till.isSome = true) (.disposal "NO_SINGLE_TOTAL")
  let first ← momentAt occurredAt 1
  let second ← momentAt occurredAt 2
  let reviewed ← applyLockedTransition row
    (disposalCommand .cancellationReview none creditChain first)
  applyLockedTransition reviewed
    (disposalCommand .cancelled (some .unclaimedDisposed) creditChain second)

/-- A command on the order, with what its surroundings answer it. -/
inductive Command where
  | transition (command : TransitionCommand)
  | step (step : OrderStep) (args : StepArguments) (creditChain : Option Int)
  | settle (paidAmountVnd : Int) (collectedByCustomer : Bool) (attestedAt : Int)
  | pay (command : Payments.PaymentCommand)
  | collect
  | leg (leg : DeliveryLeg)
  | waive (occurredAt : Int)
  | charge (standing : Option AccountStanding) (collectedByCustomer : Bool) (at_ : Int)
  | accountPayment (amountVnd : Int)
  | dispose (verdict : Bool) (creditChain : Option Int) (occurredAt : Datetime)
  | publish (policy : Option StoragePolicy)

def attempt (row : OrderRow) : Command → Except Refusal OrderRow
  | .transition command => transition row command
  | .step step args creditChain => executeStep row step args creditChain
  | .settle paid collected attestedAt => settle row paid collected attestedAt
  | .pay command => takePayment row command
  | .collect => recordCollection row
  | .leg leg => recordLeg row leg
  | .waive occurredAt => waive row occurredAt
  | .charge standing collected at_ => chargeAccount row standing collected at_
  | .accountPayment amountVnd => allocate row amountVnd
  | .dispose verdict creditChain occurredAt => dispose row verdict creditChain occurredAt
  | .publish policy => .ok { row with storagePolicy := policy }

/-- A command that is refused leaves the order as it is. -/
def apply (row : OrderRow) (command : Command) : OrderRow :=
  match attempt row command with
  | .ok row' => row'
  | .error _ => row

def run (row : OrderRow) (commands : List Command) : OrderRow := commands.foldl apply row

end NhaTrangLaundry.Db.Orders
