import Mathlib.Data.Prod.Lex
import NhaTrangLaundry.Db.Orders
import NhaTrangLaundry.Domain.AccountStatements

/-! One customer account: the three ledgers it appends to, the figures that are read from
them, and the commands that write them under the account's lock. -/

namespace NhaTrangLaundry.Db.Accounts

open Lib Outcome Sorting Sums Domain Canonical Domain.Accounts Domain.Payments
open Db.Orders hiding Refusal Command allocate attempt apply run

/-- A row of `customer_account_charges`. -/
structure ChargeRow (ChargeId OrderId : Type) where
  id : ChargeId
  orderId : OrderId
  owedVnd : Int
  paidBeforeVnd : Int
  amountVnd : Int
  chargedAt : Int
deriving DecidableEq

/-- A row of `customer_account_payments`. -/
structure PaymentRow where
  amountVnd : Int
  recordedAt : Int
deriving DecidableEq

/-- A row of `customer_account_allocations`. -/
structure AllocationRow (ChargeId : Type) where
  chargeId : ChargeId
  amountVnd : Int
deriving DecidableEq

/-- The account of one customer, and the orders of that customer. -/
structure Account (ChargeId OrderId : Type) where
  status : AccountStatus
  creditLimitVnd : Option Int
  overdueBlockLiftedUntil : Option Int
  charges : List (ChargeRow ChargeId OrderId)
  payments : List PaymentRow
  allocations : List (AllocationRow ChargeId)
  orders : OrderId → OrderRow

/-- The figures of one month's statement. -/
structure StatementFigures where
  openingVnd : Int
  chargesVnd : Int
  chargeCount : Nat
  paymentsVnd : Int
  paymentCount : Nat
  closingVnd : Int
deriving DecidableEq

inductive Refusal where
  | accountTermsUnpublished
  | raised (e : PyException)
  | order (e : Orders.Refusal)
  | payment (refusal : PaymentRefusal)
  | database
deriving DecidableEq

section Figures

variable {ChargeId OrderId : Type} [LinearOrder ChargeId]

namespace Account

def charged (account : Account ChargeId OrderId) : Int :=
  (account.charges.map ChargeRow.amountVnd).sum

def paid (account : Account ChargeId OrderId) : Int :=
  (account.payments.map PaymentRow.amountVnd).sum

def chargedBefore (account : Account ChargeId OrderId) (at_ : Int) : Int :=
  sumIf account.charges (fun charge => charge.chargedAt < at_) ChargeRow.amountVnd

def paidBefore (account : Account ChargeId OrderId) (at_ : Int) : Int :=
  sumIf account.payments (fun payment => payment.recordedAt < at_) PaymentRow.amountVnd

def outstandingVnd (account : Account ChargeId OrderId) : Int := account.charged - account.paid

/-- The money charged before an instant that every payment so far has not covered. -/
def unpaidBefore (account : Account ChargeId OrderId) (at_ : Int) : Int :=
  max (account.chargedBefore at_ - account.paid) 0

/-- `_STANDING_SQL`, at the instant a command reads it. -/
def standing (account : Account ChargeId OrderId) (now : Int) :
    Except PyException AccountStanding := do
  let upper ← dueUpper now
  .ok {
    status := account.status
    creditLimitVnd := account.creditLimitVnd
    outstandingVnd := account.outstandingVnd
    overdueVnd := account.unpaidBefore upper
    overdueBlockLiftedUntil := account.overdueBlockLiftedUntil
    asOf := now }

def allocated (account : Account ChargeId OrderId) (charge : ChargeRow ChargeId OrderId) : Int :=
  sumIf account.allocations (fun row => row.chargeId = charge.id) AllocationRow.amountVnd

def remaining (account : Account ChargeId OrderId) (charge : ChargeRow ChargeId OrderId) : Int :=
  charge.amountVnd - account.allocated charge

/-- The rows of `_OPEN_CHARGES_SQL`, oldest charge first. -/
def openRows (account : Account ChargeId OrderId) : List (ChargeRow ChargeId OrderId) :=
  sortBy (fun charge => toLex (charge.chargedAt, charge.id))
    (account.charges.filter fun charge => account.allocated charge < charge.amountVnd)

def openCharges (account : Account ChargeId OrderId) : List (OpenCharge (ChargeId × OrderId)) :=
  account.openRows.map fun charge => ⟨(charge.id, charge.orderId), account.remaining charge⟩

/-- `_STATEMENT_SQL`. -/
def statement (account : Account ChargeId OrderId) (month : Month) : StatementFigures :=
  let lower := monthStartInstant month
  let upper := monthStartInstant month.succ
  let charges := account.charges.filter fun charge =>
    lower ≤ charge.chargedAt ∧ charge.chargedAt < upper
  let payments := account.payments.filter fun payment =>
    lower ≤ payment.recordedAt ∧ payment.recordedAt < upper
  let opening := account.chargedBefore lower - account.paidBefore lower
  let during := (charges.map ChargeRow.amountVnd).sum
  let received := (payments.map PaymentRow.amountVnd).sum
  ⟨opening, during, charges.length, received, payments.length, opening + during - received⟩

end Account

end Figures

/-- `AccountChargeCommand`, with the fresh id of the charge and whether the account terms
are published. -/
structure AccountChargeCommand (ChargeId OrderId : Type) where
  chargeId : ChargeId
  orderId : OrderId
  collectedByCustomer : Bool
  termsPublished : Bool
  at_ : Int

structure AccountPaymentCommand where
  amountVnd : Int
  method : PaymentMethod
  transferSeen : Bool
  bankRefLast : Option String
  at_ : Int

/-- A command on the account; between them the owner changes its limit, its status and the
lift of its block, and the orders that are not on it change in their own ways. -/
inductive Command (ChargeId OrderId : Type) where
  | charge (command : AccountChargeCommand ChargeId OrderId)
  | recordPayment (command : AccountPaymentCommand)
  | update (creditLimitVnd : Option Int) (status : AccountStatus)
  | lift (until_ : Int)
  | order (orderId : OrderId) (row : OrderRow)

variable {ChargeId OrderId : Type} [LinearOrder ChargeId] [DecidableEq OrderId]

namespace Account

def chargeRow (command : AccountChargeCommand ChargeId OrderId) (charge : AccountCharge) :
    ChargeRow ChargeId OrderId :=
  ⟨command.chargeId, command.orderId, charge.owedVnd, charge.paidBeforeVnd, charge.amountVnd,
    command.at_⟩

/-- `AccountRepository.charge`. -/
def charge (account : Account ChargeId OrderId) (command : AccountChargeCommand ChargeId OrderId) :
    Except Refusal (Account ChargeId OrderId) := do
  require (command.termsPublished = true) .accountTermsUnpublished
  let standing ← (account.standing command.at_).mapError .raised
  let row ← (chargeAccount (account.orders command.orderId) (some standing)
    command.collectedByCustomer command.at_).mapError .order
  require (∀ charge ∈ account.charges,
    charge.id ≠ command.chargeId ∧ charge.orderId ≠ command.orderId) .database
  match row.charge with
  | none => .error .database
  | some charge =>
    .ok { account with
      charges := account.charges ++ [chargeRow command charge]
      orders := Function.update account.orders command.orderId row }

/-- `_allocate`: the share of a payment that one order on the account is paid. -/
def allocate (account : Account ChargeId OrderId) (share : Allocation (ChargeId × OrderId)) :
    Except Refusal (Account ChargeId OrderId) := do
  let row ← (Orders.allocate (account.orders share.chargeId.2) share.amountVnd).mapError .order
  .ok { account with
    allocations := account.allocations ++ [⟨share.chargeId.1, share.amountVnd⟩]
    orders := Function.update account.orders share.chargeId.2 row }

/-- `AccountRepository.record_payment`. -/
def recordPayment (account : Account ChargeId OrderId) (command : AccountPaymentCommand) :
    Except Refusal (Account ChargeId OrderId) := do
  let standing ← (account.standing command.at_).mapError .raised
  let refusal ← (accountPaymentRefusal standing.outstandingVnd command.amountVnd command.method
    command.transferSeen command.bankRefLast).mapError .raised
  match refusal with
  | some refusal => .error (.payment refusal)
  | none => do
    let shares ← (allocateOldestFirst command.amountVnd account.openCharges).mapError .raised
    let header := { account with
      payments := account.payments ++ [⟨command.amountVnd, command.at_⟩] }
    shares.foldlM allocate header

def attempt (account : Account ChargeId OrderId) :
    Command ChargeId OrderId → Except Refusal (Account ChargeId OrderId)
  | .charge command => account.charge command
  | .recordPayment command => account.recordPayment command
  | .update creditLimitVnd status => .ok { account with creditLimitVnd, status }
  | .lift until_ => .ok { account with overdueBlockLiftedUntil := some until_ }
  | .order orderId row => do
    require (∀ charge ∈ account.charges, charge.orderId ≠ orderId) .database
    .ok { account with orders := Function.update account.orders orderId row }

/-- A command that is refused leaves the account as it is. -/
def apply (account : Account ChargeId OrderId) (command : Command ChargeId OrderId) :
    Account ChargeId OrderId :=
  match account.attempt command with
  | .ok account' => account'
  | .error _ => account

def run (account : Account ChargeId OrderId) (commands : List (Command ChargeId OrderId)) :
    Account ChargeId OrderId :=
  commands.foldl apply account

def opened (creditLimitVnd : Option Int) (orders : OrderId → OrderRow) :
    Account ChargeId OrderId :=
  ⟨.active, creditLimitVnd, none, [], [], [], orders⟩

end Account

def Command.at? : Command ChargeId OrderId → Option Int
  | .charge command => some command.at_
  | .recordPayment command => some command.at_
  | _ => none

end NhaTrangLaundry.Db.Accounts
