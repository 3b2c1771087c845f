import NhaTrangLaundry.Domain.Canonical
import NhaTrangLaundry.Domain.Settlement

/-! Account customers: the owner's limit, the overdue block, and the payment of an
account oldest charge first. Instants are microseconds of the UTC clock. -/

namespace NhaTrangLaundry.Domain.Accounts

open Lib Outcome Canonical Settlement

inductive AccountStatus where
  | active
  | suspended
deriving DecidableEq

inductive AccountRefusal where
  | notAnAccountCustomer
  | accountSuspended
  | accountLimitUnset
  | accountLimitExceeded
  | accountOverdue
  | orderNotActive
  | nothingOwed
  | noPresentableTotal
  | goodsNotReadyForHandover
  | accountChargeIsTheHandover
  | collectionWasNotByTheCustomer
  | alreadyCollected
deriving DecidableEq

/-- The facts of an account that an order leaving on it is decided over. -/
structure AccountStanding where
  status : AccountStatus
  creditLimitVnd : Option Int
  outstandingVnd : Int
  overdueVnd : Int
  overdueBlockLiftedUntil : Option Int
  asOf : Int
deriving DecidableEq

def AccountStanding.overdue (standing : AccountStanding) : Bool := 0 < standing.overdueVnd

def AccountStanding.blockLifted (standing : AccountStanding) : Bool :=
  standing.overdueBlockLiftedUntil.any fun until_ => standing.asOf < until_

structure AccountHandoverFacts where
  standing : AccountStanding
  orderRemainingVnd : Int
deriving DecidableEq

/-- Whether the account lets the goods of an order leave unpaid; `none` means it does. -/
def accountHandoverRefusal (facts : AccountHandoverFacts) :
    Except PyException (Option AccountRefusal) :=
  if facts.standing.status = .suspended then .ok (some .accountSuspended)
  else match facts.standing.creditLimitVnd with
    | none => .ok (some .accountLimitUnset)
    | some limit =>
      if facts.standing.overdue ∧ facts.standing.blockLifted = false then
        .ok (some .accountOverdue)
      else do
        require (wholeVnd facts.orderRemainingVnd ∧ wholeVnd facts.standing.outstandingVnd)
          (.valueError "account amounts must be non-negative whole đồng")
        .ok (if limit < facts.standing.outstandingVnd + facts.orderRemainingVnd then
          some .accountLimitExceeded else none)

/-- An order on the account with money still owed on it. -/
structure OpenCharge (Id : Type) where
  chargeId : Id
  remainingVnd : Int
deriving DecidableEq

structure Allocation (Id : Type) where
  chargeId : Id
  amountVnd : Int
  settles : Bool
deriving DecidableEq

variable {Id : Type}

/-- The loop of `allocate_oldest_first`, with `left` đồng to place. -/
def allocateFrom : Int → List (OpenCharge Id) → Except PyException (List (Allocation Id))
  | left, [] => do
    require (left = 0) (.valueError "the payment is larger than what the account owes")
    .ok []
  | left, item :: rest => do
    require (wholeVnd item.remainingVnd ∧ 1 ≤ item.remainingVnd)
      (.valueError "an open charge owes at least 1 đồng")
    if left = 0 then .ok []
    else do
      let take := min left item.remainingVnd
      let allocations ← allocateFrom (left - take) rest
      .ok (⟨item.chargeId, take, take = item.remainingVnd⟩ :: allocations)

def allocateOldestFirst (amountVnd : Int) (openCharges : List (OpenCharge Id)) :
    Except PyException (List (Allocation Id)) := do
  require (wholeVnd amountVnd ∧ 1 ≤ amountVnd)
    (.valueError "an account payment is at least 1 đồng")
  allocateFrom amountVnd openCharges

end NhaTrangLaundry.Domain.Accounts
