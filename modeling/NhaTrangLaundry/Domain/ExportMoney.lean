import NhaTrangLaundry.Domain.Payments

/-! What the money columns of one order say in the owner's export. -/

namespace NhaTrangLaundry.Domain.ExportMoney

open Lib Outcome Catalog Canonical Settlement Payments

structure ExportedMoney where
  owedVnd : Option Int
  paidCashVnd : Int
  paidTransferVnd : Int
  paidVnd : Int
  remainingVnd : Option Int
deriving DecidableEq

/-- Nothing more is ever taken on a cancelled order, so nothing remains of it. -/
def exportedMoney (commercial : CommercialOrderStatus) (quoted : QuotedTotal)
    (paidCashVnd paidTransferVnd paidVnd storageFeeVnd : Int) :
    Except PyException ExportedMoney := do
  require (0 ≤ paidCashVnd ∧ 0 ≤ paidTransferVnd ∧ 0 ≤ paidVnd)
    (.valueError "a ledger sum must be a non-negative whole number of đồng")
  require (paidCashVnd + paidTransferVnd = paidVnd)
    (.valueError "the cash and transfer sums do not add up to the ledger's total")
  let charges ← owedCharges quoted storageFeeVnd
  let position ← paymentPosition charges paidVnd
  .ok ⟨position.owedVnd, paidCashVnd, paidTransferVnd, paidVnd,
    if commercial = .cancelled then some 0 else position.remainingVnd⟩

end NhaTrangLaundry.Domain.ExportMoney
