import NhaTrangLaundry.Domain.Canonical
import NhaTrangLaundry.Domain.Settlement

/-! Part payments with a method, measured against the charges of an order. -/

namespace NhaTrangLaundry.Domain.Payments

open Lib Outcome Catalog Canonical Settlement

inductive PaymentMethod where
  | tienMat
  | chuyenKhoan
deriving DecidableEq

inductive ChargeKind where
  | quotedTotal
  | storageFee
deriving DecidableEq

structure OrderCharge where
  kind : ChargeKind
  amountVnd : Int
deriving DecidableEq

inductive PaymentRefusal where
  | noPresentableTotal
  | orderNotActive
  | nothingOwed
  | paymentAmountInvalid
  | overpaymentRefused
  | transferNotSeen
  | bankRefInvalid
  | handoverRequiresFullPayment
deriving DecidableEq

/-- `^[A-Z0-9]{2,12}$`. -/
def bankRefPattern (reference : String) : Bool :=
  2 ≤ reference.toList.length && reference.toList.length ≤ 12 &&
    reference.toList.all fun c => ('A' ≤ c && c ≤ 'Z') || ('0' ≤ c && c ≤ '9')

def payableBalances : List OrderBalanceStatus := [.unpaid, .partiallyPaid]

def owedCharges (quoted : QuotedTotal) (storageFeeVnd : Int) :
    Except PyException (Option (List OrderCharge)) :=
  match quoted.minimumVnd, quoted.maximumVnd with
  | some minimum, some maximum =>
    if minimum ≠ maximum ∨ ¬ wholeVnd minimum then .ok none
    else do
      require (wholeVnd storageFeeVnd)
        (.valueError "a storage fee must be a non-negative whole number of đồng")
      .ok (some (⟨.quotedTotal, minimum⟩ ::
        if 0 < storageFeeVnd then [⟨.storageFee, storageFeeVnd⟩] else []))
  | _, _ => .ok none

def owedTotal (charges : List OrderCharge) : Except PyException Int := do
  require (∀ charge ∈ charges, wholeVnd charge.amountVnd)
    (.valueError "a charge must be a non-negative whole number of đồng")
  .ok (charges.map OrderCharge.amountVnd).sum

structure PaymentPosition where
  charges : List OrderCharge
  owedVnd : Option Int
  paidVnd : Int
  remainingVnd : Option Int
deriving DecidableEq

def paymentPosition (charges : Option (List OrderCharge)) (paidVnd : Int) :
    Except PyException PaymentPosition := do
  require (wholeVnd paidVnd)
    (.valueError "the paid amount must be a non-negative whole number of đồng")
  match charges with
  | none => .ok ⟨[], none, paidVnd, none⟩
  | some charges => do
    let owed ← owedTotal charges
    require (paidVnd ≤ owed) (.valueError "the order's payments exceed what it owes")
    .ok ⟨charges, some owed, paidVnd, some (owed - paidVnd)⟩

structure PaymentAccepted where
  amountVnd : Int
  owedVnd : Int
  paidAfterVnd : Int
  remainingAfterVnd : Int
  balanceAfter : OrderBalanceStatus
  collectedByCustomer : Bool
deriving DecidableEq

def PaymentAccepted.completes (accepted : PaymentAccepted) : Bool := accepted.balanceAfter = .paid

inductive PaymentOutcome where
  | accepted (payment : PaymentAccepted)
  | refused (refusal : PaymentRefusal)
deriving DecidableEq

def takeAmount (owedVnd paidVnd amountVnd : Int) (collectedByCustomer : Bool) : PaymentOutcome :=
  let remaining := owedVnd - paidVnd
  if amountVnd = 0 ∧ remaining = 0 then
    .accepted ⟨0, owedVnd, paidVnd, 0, .paid, collectedByCustomer⟩
  else if amountVnd < 1 then .refused .paymentAmountInvalid
  else if remaining = 0 then .refused .nothingOwed
  else if remaining < amountVnd then .refused .overpaymentRefused
  else
    let paidAfter := paidVnd + amountVnd
    let remainingAfter := owedVnd - paidAfter
    let balanceAfter := if remainingAfter = 0 then OrderBalanceStatus.paid else .partiallyPaid
    if collectedByCustomer ∧ balanceAfter ≠ .paid then .refused .handoverRequiresFullPayment
    else .accepted ⟨amountVnd, owedVnd, paidAfter, remainingAfter, balanceAfter, collectedByCustomer⟩

def evaluatePayment (commercial : CommercialOrderStatus) (balance : OrderBalanceStatus)
    (charges : Option (List OrderCharge)) (paidVnd amountVnd : Int) (method : PaymentMethod)
    (transferSeen : Bool) (bankRefLast : Option String) (collectedByCustomer : Bool) :
    Except PyException PaymentOutcome :=
  if commercial ≠ .active then .ok (.refused .orderNotActive)
  else if balance ∉ payableBalances then .ok (.refused .nothingOwed)
  else match charges with
    | none => .ok (.refused .noPresentableTotal)
    | some charges =>
      if ¬ wholeVnd amountVnd then .ok (.refused .paymentAmountInvalid)
      else if method = .chuyenKhoan ∧ transferSeen = false then .ok (.refused .transferNotSeen)
      else if ∃ reference ∈ bankRefLast, method ≠ .chuyenKhoan ∨ bankRefPattern reference = false then
        .ok (.refused .bankRefInvalid)
      else do
        let position ← paymentPosition (some charges) paidVnd
        match position.owedVnd with
        | some owed => .ok (takeAmount owed paidVnd amountVnd collectedByCustomer)
        | none => .error (.valueError "AssertionError")

end NhaTrangLaundry.Domain.Payments
