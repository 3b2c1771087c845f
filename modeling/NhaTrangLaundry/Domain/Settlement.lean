import NhaTrangLaundry.Domain.Catalog

/-! The shapes in which an order is paid in full. -/

namespace NhaTrangLaundry.Domain.Settlement

open Catalog

def maxSettlementVnd : Int := 9007199254740991

def wholeVnd (value : Int) : Prop := 0 ≤ value ∧ value ≤ maxSettlementVnd

instance (value : Int) : Decidable (wholeVnd value) :=
  inferInstanceAs (Decidable (0 ≤ value ∧ value ≤ maxSettlementVnd))

inductive SettlementShape where
  | exactPaymentSelfCollection
  | exactPaymentPrepaidDelivery
  | exactPaymentPrepaidSelfCollection
  | exactPaymentOnAccount
deriving DecidableEq

inductive SettlementRefusal where
  | noPresentableTotal
  | totalIsARange
  | amountIsNotTheExactTotal
  | collectionWasNotByTheCustomer
deriving DecidableEq

structure QuotedTotal where
  minimumVnd : Option Int
  maximumVnd : Option Int
deriving DecidableEq

def evaluateSettlement (quoted : QuotedTotal) (tenderedVnd : Int) (collectedByCustomer : Bool)
    (fulfillmentMode : FulfillmentMode) (onAccount : Bool) :
    Except SettlementRefusal SettlementShape :=
  if ¬ wholeVnd tenderedVnd then .error .amountIsNotTheExactTotal
  else match quoted.minimumVnd, quoted.maximumVnd with
    | some minimum, some maximum =>
      if minimum ≠ maximum then .error .totalIsARange
      else if ¬ wholeVnd minimum then .error .noPresentableTotal
      else if tenderedVnd ≠ minimum then .error .amountIsNotTheExactTotal
      else if onAccount then
        if collectedByCustomer then .error .collectionWasNotByTheCustomer
        else .ok .exactPaymentOnAccount
      else if collectedByCustomer then
        if fulfillmentMode ∈ modesExpectingReturn then .error .collectionWasNotByTheCustomer
        else .ok .exactPaymentSelfCollection
      else if fulfillmentMode ∉ modesExpectingReturn then .ok .exactPaymentPrepaidSelfCollection
      else .ok .exactPaymentPrepaidDelivery
    | _, _ => .error .noPresentableTotal

def handoverReadyProduction : List ProductionStatus := [.readyAtStore, .released]

end NhaTrangLaundry.Domain.Settlement
