import NhaTrangLaundry.Domain.Payments
import NhaTrangLaundry.Domain.Unclaimed

/-! One order at the counter: its production moves, its payments, its storage fee and
the waiver of it, as the repositories write them. -/

namespace NhaTrangLaundry.Db.Payments

open Lib Outcome Domain Catalog Canonical Settlement Unclaimed Payments

/-- The row of `order_settlements`. -/
structure OrderSettlement where
  expectedTotalVnd : Int
  paidAmountVnd : Int
  shape : SettlementShape
deriving DecidableEq

/-- The facts of one order that its money is decided over, and the storage policy in
force; `quotedTotalVnd` is the single total its quote presents. -/
structure Order where
  quotedTotalVnd : Int
  commercial : CommercialOrderStatus
  production : ProductionStatus
  productionResumeStatus : Option ProductionStatus
  fulfillmentMode : FulfillmentMode
  selfCollectionRecorded : Bool
  productionReadyAt : Option Int
  storageHolds : List StorageHold
  storagePolicy : Option StoragePolicy
  waived : Bool
  balance : OrderBalanceStatus
  payments : List Int
  settlement : Option OrderSettlement
  fixedFeeVnd : Option Int
deriving DecidableEq

namespace Order

def paidVnd (order : Order) : Int := order.payments.sum

def quoted (order : Order) : QuotedTotal := ⟨some order.quotedTotalVnd, some order.quotedTotalVnd⟩

def holdsSinceReady (order : Order) : List StorageHold :=
  order.storageHolds.filter fun hold =>
    order.productionReadyAt.any fun ready => ready ≤ hold.heldAt

/-- `storage_fee_for_order`. -/
def storageFeeAt (order : Order) (moment : Int) : Except PyException OrderStorageFee :=
  orderStorageFee order.storagePolicy
    (storageClock order.commercial order.production order.productionResumeStatus
      order.fulfillmentMode order.selfCollectionRecorded)
    order.productionReadyAt moment (some order.quotedTotalVnd) order.waived
    order.settlement.isSome order.fixedFeeVnd order.paidVnd order.holdsSinceReady

/-- Tổng · Đã trả · Còn lại, as the order reads at a moment. -/
def positionAt (order : Order) (moment : Int) : Except PyException PaymentPosition := do
  let fee ← order.storageFeeAt moment
  let charges ← owedCharges order.quoted fee.amountVnd
  paymentPosition charges order.paidVnd

end Order

structure PaymentCommand where
  amountVnd : Int
  method : PaymentMethod
  transferSeen : Bool
  bankRefLast : Option String
  collectedByCustomer : Bool
  recordedAt : Int

inductive Refusal where
  | raised (e : PyException)
  | payment (refusal : PaymentRefusal)
  | settlement (refusal : SettlementRefusal)
  | goodsNotReadyForHandover
  | waiver (code : String)
  | database
deriving DecidableEq

def settlingShape (order : Order) (accepted : PaymentAccepted) (storageFeeVnd : Int) :
    Except Refusal SettlementShape := do
  let shape ← (evaluateSettlement order.quoted (accepted.owedVnd - storageFeeVnd)
    accepted.collectedByCustomer order.fulfillmentMode false).mapError .settlement
  require (shape = .exactPaymentSelfCollection → order.production ∈ handoverReadyProduction)
    .goodsNotReadyForHandover
  .ok shape

/-- The ledger row of a payment; nothing is written for 0 đồng. -/
def ledgered (order : Order) (accepted : PaymentAccepted) : List Int :=
  if 0 < accepted.amountVnd then order.payments ++ [accepted.amountVnd] else order.payments

def writePartial (order : Order) (accepted : PaymentAccepted) : Order :=
  { order with payments := ledgered order accepted, balance := accepted.balanceAfter }

def writeSettling (order : Order) (accepted : PaymentAccepted) (storageFeeVnd : Int)
    (shape : SettlementShape) : Order :=
  { order with
    payments := ledgered order accepted
    balance := accepted.balanceAfter
    settlement := some ⟨accepted.owedVnd, accepted.paidAfterVnd, shape⟩
    fixedFeeVnd := if 0 < storageFeeVnd then some storageFeeVnd else order.fixedFeeVnd
    selfCollectionRecorded := order.selfCollectionRecorded || shape = .exactPaymentSelfCollection }

/-- `PaymentRepository.record`. -/
def record (order : Order) (command : PaymentCommand) : Except Refusal Order := do
  let storage ← (order.storageFeeAt command.recordedAt).mapError .raised
  let charges ← (owedCharges order.quoted storage.amountVnd).mapError .raised
  let outcome ← (evaluatePayment order.commercial order.balance charges order.paidVnd
    command.amountVnd command.method command.transferSeen command.bankRefLast
    command.collectedByCustomer).mapError .raised
  match outcome with
  | .refused refusal => .error (.payment refusal)
  | .accepted accepted =>
    if accepted.completes then do
      let shape ← settlingShape order accepted storage.amountVnd
      .ok (writeSettling order accepted storage.amountVnd shape)
    else .ok (writePartial order accepted)

/-- The rows of a waiver that leaves nothing owed. -/
def writeWaiverSettlement (order : Order) (effect : WaiverEffect) (shape : SettlementShape) :
    Order :=
  { order with
    waived := true
    settlement := some ⟨effect.owedAfterVnd, effect.owedAfterVnd, shape⟩
    fixedFeeVnd := if 0 < effect.keptVnd then some effect.keptVnd else order.fixedFeeVnd
    balance := .paid }

def waiveStorageFee (order : Order) (occurredAt : Int) : Except Refusal Order := do
  let storage ← (order.storageFeeAt occurredAt).mapError .raised
  require (order.waived = false) (.waiver "STORAGE_FEE_ALREADY_WAIVED")
  require (storage.status ≠ .policyUnpublished) (.waiver "STORAGE_POLICY_UNPUBLISHED")
  let effect ← (waiverEffect storage (some order.quotedTotalVnd) order.paidVnd).mapError .raised
  match effect with
  | none => .error (.waiver "NO_STORAGE_FEE_OWED")
  | some effect =>
    if effect.settles then do
      let shape ← (evaluateSettlement order.quoted effect.quotedTotalVnd false order.fulfillmentMode
        false).mapError .settlement
      require (order.balance = .partiallyPaid) (.waiver "STALE_VERSION")
      .ok (writeWaiverSettlement order effect shape)
    else .ok { order with waived := true }

/-- `_ready_clock_effect` of a production move, and the write it decides. -/
def readyAtAfter (order : Order) (after : ProductionStatus) (resumeTo : Option ProductionStatus)
    (moment : Int) : Option Int :=
  if after = .readyAtStore then
    if order.production ∈ shelfInterruptions then order.productionReadyAt <|> some moment
    else some moment
  else if after = .released then order.productionReadyAt
  else if after ∈ shelfInterruptions ∧ resumeTo = some .readyAtStore then order.productionReadyAt
  else none

/-- A move of the laundry, of those the domain permits or any other: the ready time and
the hold record it writes. -/
def moveProduction (order : Order) (after : ProductionStatus) (resumeTo : Option ProductionStatus)
    (moment : Int) : Except Refusal Order := do
  let moved := { order with
    production := after
    productionResumeStatus := resumeTo
    productionReadyAt := readyAtAfter order after resumeTo moment }
  match holdMove order.production after resumeTo with
  | none => .ok moved
  | some .start => do
    require (∀ hold ∈ order.storageHolds, hold.resumedAt ≠ none) .database
    .ok { moved with storageHolds := order.storageHolds ++ [⟨moment, none⟩] }
  | some .finish => do
    require (∀ hold ∈ order.storageHolds, hold.resumedAt = none → hold.heldAt ≤ moment) .database
    .ok { moved with storageHolds := order.storageHolds.map fun hold =>
      if hold.resumedAt = none then ⟨hold.heldAt, some moment⟩ else hold }

inductive Step where
  | move (after : ProductionStatus) (resumeTo : Option ProductionStatus) (moment : Int)
  | publish (policy : Option StoragePolicy)
  | waive (occurredAt : Int)
  | pay (command : PaymentCommand)

def attempt (order : Order) : Step → Except Refusal Order
  | .move after resumeTo moment => moveProduction order after resumeTo moment
  | .publish policy => .ok { order with storagePolicy := policy }
  | .waive occurredAt => waiveStorageFee order occurredAt
  | .pay command => record order command

/-- A step that is refused leaves the order as it is. -/
def apply (order : Order) (step : Step) : Order :=
  match attempt order step with
  | .ok order' => order'
  | .error _ => order

def run (order : Order) (steps : List Step) : Order := steps.foldl apply order

end NhaTrangLaundry.Db.Payments
