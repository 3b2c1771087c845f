import NhaTrangLaundry.Domain.CancellationMoney
import NhaTrangLaundry.Lib.Sorting

/-! The ledger of a customer's orders and remedy credits, and what cancelling an
order without charge writes to it. -/

namespace NhaTrangLaundry.Db.CancellationMoney

open Lib Outcome Sorting Domain Catalog CancellationMoney

/-- A row of `remedy_credits`. -/
structure Credit where
  id : Uuid
  kind : RemedyKind
  amountVnd : Int
  issuedFrom : Uuid
  issuedAt : Int
  spentOn : Option Uuid
  voided : Bool
  reissueOf : Option Uuid
deriving DecidableEq

def Credit.state (credit : Credit) : CreditState :=
  if credit.voided then .voided else if credit.spentOn.isSome then .spent else .unspent

/-- The cash of each order, the credits, and of each cancelled order its refund and
whether the refund took the whole value of what it netted. -/
structure Ledger where
  cash : List (Uuid × Int)
  credits : List Credit
  refunded : List (Uuid × Int)
  covered : List (Uuid × Bool)
deriving DecidableEq

namespace Ledger

def latest (ledger : Ledger) (credit : Credit) : Bool :=
  ledger.credits.all fun r => r.reissueOf ≠ some credit.id

def inOrder (credits : List Credit) : List Credit :=
  sortBy (fun c => [c.issuedAt, (c.id.int : Int)]) credits

def issued (ledger : Ledger) (orderId : Uuid) : List Credit :=
  inOrder (ledger.credits.filter fun c => c.issuedFrom = orderId && ledger.latest c)

def spent (ledger : Ledger) (orderId : Uuid) : List Credit :=
  inOrder (ledger.credits.filter fun c => c.spentOn = some orderId)

def issuedFact (credit : Credit) : RemedyCreditFact :=
  ⟨credit.id, credit.kind, credit.amountVnd, credit.state, false⟩

def spentFact (ledger : Ledger) (credit : Credit) : RemedyCreditFact :=
  ⟨credit.id, credit.kind, credit.amountVnd, credit.state,
    ledger.covered.lookup credit.issuedFrom = some false⟩

end Ledger

/-- One cancellation without charge: the order, its resolution, its time, and the ids
minted for the credits it reissues. -/
structure Cancellation where
  orderId : Uuid
  resolution : Option CustodyResolution
  occurredAt : Int
  reissueIds : Uuid → Uuid
  withoutCharge : resolution ≠ some .unclaimedDisposed

def void (plan : CancellationMoneyPlan) (credit : Credit) : Credit :=
  if credit.id ∈ plan.voided.map RemedyCreditFact.creditId then { credit with voided := true }
  else credit

def reissue (x : Cancellation) (original : Credit) : Credit where
  id := x.reissueIds original.id
  kind := original.kind
  amountVnd := original.amountVnd
  issuedFrom := original.issuedFrom
  issuedAt := x.occurredAt
  spentOn := none
  voided := false
  reissueOf := some original.id

def cashOf (ledger : Ledger) (orderId : Uuid) : Except MoneyError Int :=
  match ledger.cash.lookup orderId with
  | some cash => .ok cash
  | none => .error .keyError

def cancel (ledger : Ledger) (x : Cancellation) : Except MoneyError Ledger := do
  let cash ← cashOf ledger x.orderId
  let spent := ledger.spent x.orderId
  let plan ← cancellationMoneyPlan x.resolution cash
    ((ledger.issued x.orderId).map Ledger.issuedFact) (spent.map ledger.spentFact)
  let figures ← plan.figures
  plan.requireAllowed (some figures)
  let credits := ledger.credits.map (void plan) ++
    (spent.filter fun c => c.state = .spent).map (reissue x)
  require (credits.map Credit.id).Nodup .database
  .ok { ledger with
    credits := credits
    refunded := (x.orderId, plan.refundVnd) :: ledger.refunded
    covered := (x.orderId, plan.nettedVnd = face plan.netted) :: ledger.covered }

/-- Cancel one order after the other, up to the first that is refused. -/
def run : Ledger → List Cancellation → Except MoneyError Ledger
  | ledger, [] => .ok ledger
  | ledger, x :: xs => do
    let ledger ← cancel ledger x
    run ledger xs

/-- What the customer is out of pocket, less what the shop still owes in credits. -/
def total (ledger : Ledger) : Int :=
  (ledger.cash.map Prod.snd).sum - (ledger.refunded.map Prod.snd).sum -
    ((ledger.credits.filter fun c => c.state = .unspent).map Credit.amountVnd).sum

end NhaTrangLaundry.Db.CancellationMoney
