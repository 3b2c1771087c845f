import NhaTrangLaundry.Domain.Accounts
import NhaTrangLaundry.Domain.Payments

/-! Every door the goods leave by: the laundry is finished, and its money lets it
leave. -/

namespace NhaTrangLaundry.Domain.Handover

open Lib Outcome Catalog Canonical Settlement Payments Accounts

def goodsMayLeaveBalances : List OrderBalanceStatus := [.paid, .onAccount]

/-- `goods_may_leave` of a balance, no account beside it. -/
def goodsMayLeave (balance : OrderBalanceStatus) : Bool := balance ∈ goodsMayLeaveBalances

/-- `goods_may_leave` of an order that an account may carry. -/
def goodsMayLeaveOn (balance : OrderBalanceStatus) (account : AccountHandoverFacts) :
    Except PyException Bool :=
  if balance ∈ goodsMayLeaveBalances then .ok true
  else if balance ∉ payableBalances then .ok false
  else do
    let refusal ← accountHandoverRefusal account
    .ok refusal.isNone

inductive DeliveryRefusal where
  | goodsNotReadyForHandover
  | deliveryRequiresPayment
deriving DecidableEq

/-- Why the courier may not take the goods to the customer, or `none`. -/
def deliveryRefusal (balance : OrderBalanceStatus) (production : ProductionStatus) :
    Option DeliveryRefusal :=
  if production ∉ handoverReadyProduction then some .goodsNotReadyForHandover
  else if goodsMayLeave balance = false then some .deliveryRequiresPayment
  else none

inductive CollectionRefusal where
  | orderNotActive
  | alreadyCollected
  | collectionRequiresPayment
  | notAPrepaidSelfCollection
  | goodsNotReadyForHandover
deriving DecidableEq

/-- Why a pickup may not be recorded, or `none`. -/
def evaluateCollection (commercial : CommercialOrderStatus) (production : ProductionStatus)
    (balance : OrderBalanceStatus) (settlementShape : Option SettlementShape)
    (selfCollectionRecorded : Bool) : Option CollectionRefusal :=
  if commercial ≠ .active then some .orderNotActive
  else if selfCollectionRecorded then some .alreadyCollected
  else if goodsMayLeave balance = false then some .collectionRequiresPayment
  else if settlementShape ≠ some .exactPaymentPrepaidSelfCollection then
    some .notAPrepaidSelfCollection
  else if production ∉ handoverReadyProduction then some .goodsNotReadyForHandover
  else none

structure AccountChargeAccepted where
  amountVnd : Int
  owedVnd : Int
  paidBeforeVnd : Int
  outstandingAfterVnd : Int
  collectedByCustomer : Bool
deriving DecidableEq

inductive AccountChargeOutcome where
  | accepted (charge : AccountChargeAccepted)
  | refused (refusal : AccountRefusal)
deriving DecidableEq

def admitToAccount (balance : OrderBalanceStatus) (owedVnd paidVnd : Int)
    (collectedByCustomer : Bool) (standing : AccountStanding) :
    Except PyException AccountChargeOutcome := do
  let facts : AccountHandoverFacts := ⟨standing, owedVnd - paidVnd⟩
  let admitted ← goodsMayLeaveOn balance facts
  if admitted then
    .ok (.accepted ⟨owedVnd - paidVnd, owedVnd, paidVnd,
      standing.outstandingVnd + (owedVnd - paidVnd), collectedByCustomer⟩)
  else do
    let refusal ← accountHandoverRefusal facts
    match refusal with
    | some refusal => .ok (.refused refusal)
    | none => .error (.valueError "AssertionError")

/-- Whether the finished goods of an order leave now, with what it owes put on the account. -/
def evaluateAccountCharge (commercial : CommercialOrderStatus) (production : ProductionStatus)
    (balance : OrderBalanceStatus) (fulfillmentMode : FulfillmentMode)
    (selfCollectionRecorded : Bool) (owedVnd : Option Int) (paidVnd : Int)
    (collectedByCustomer : Bool) (standing : Option AccountStanding) :
    Except PyException AccountChargeOutcome :=
  if commercial ≠ .active then .ok (.refused .orderNotActive)
  else match standing with
    | none => .ok (.refused .notAnAccountCustomer)
    | some standing =>
      if balance ∉ payableBalances then .ok (.refused .nothingOwed)
      else match owedVnd with
        | none => .ok (.refused .noPresentableTotal)
        | some owed => do
          require (wholeVnd owed ∧ wholeVnd paidVnd ∧ paidVnd ≤ owed)
            (.valueError "the order's money does not add up")
          if owed - paidVnd = 0 then .ok (.refused .nothingOwed)
          else if fulfillmentMode ∈ modesExpectingReturn ∧ collectedByCustomer then
            .ok (.refused .collectionWasNotByTheCustomer)
          else if fulfillmentMode ∉ modesExpectingReturn ∧ collectedByCustomer = false then
            .ok (.refused .accountChargeIsTheHandover)
          else if selfCollectionRecorded then .ok (.refused .alreadyCollected)
          else if production ∉ handoverReadyProduction then
            .ok (.refused .goodsNotReadyForHandover)
          else admitToAccount balance owed paidVnd collectedByCustomer standing

lemma goodsMayLeave_iff {balance : OrderBalanceStatus} :
    goodsMayLeave balance = true ↔ balance = .paid ∨ balance = .onAccount := by
  simp [goodsMayLeave, goodsMayLeaveBalances]

lemma deliveryRefusal_none {balance : OrderBalanceStatus} {production : ProductionStatus} :
    deliveryRefusal balance production = none ↔
      production ∈ handoverReadyProduction ∧ goodsMayLeave balance = true := by
  unfold deliveryRefusal
  split
  · next h => simp [h]
  · next h =>
    split
    · next hb => simp [hb]
    · next hb => simpa [Decidable.not_not.mp h] using hb

lemma evaluateCollection_none {commercial : CommercialOrderStatus} {production : ProductionStatus}
    {balance : OrderBalanceStatus} {shape : Option SettlementShape} {collected : Bool} :
    evaluateCollection commercial production balance shape collected = none ↔
      commercial = .active ∧ collected = false ∧ goodsMayLeave balance = true ∧
        shape = some .exactPaymentPrepaidSelfCollection ∧
        production ∈ handoverReadyProduction := by
  unfold evaluateCollection
  constructor
  · intro h
    split at h
    · cases h
    · next hc =>
      split at h
      · cases h
      · next hr =>
        split at h
        · cases h
        · next hb =>
          split at h
          · cases h
          · next hs =>
            split at h
            · cases h
            · next hp => exact ⟨not_not.mp hc, by simpa using hr, by simpa using hb,
                not_not.mp hs, not_not.mp hp⟩
  · rintro ⟨rfl, rfl, hb, rfl, hp⟩
    simp [hb, hp]

lemma evaluateAccountCharge_accepted {commercial : CommercialOrderStatus}
    {production : ProductionStatus} {balance : OrderBalanceStatus} {mode : FulfillmentMode}
    {recorded : Bool} {owedVnd : Option Int} {paidVnd : Int} {collected : Bool}
    {standing : Option AccountStanding} {charge : AccountChargeAccepted}
    (h : evaluateAccountCharge commercial production balance mode recorded owedVnd paidVnd collected
      standing = .ok (.accepted charge)) :
    commercial = .active ∧ balance ∈ payableBalances ∧ production ∈ handoverReadyProduction ∧
      recorded = false ∧ (collected = true ↔ mode ∉ modesExpectingReturn) ∧
      charge.collectedByCustomer = collected ∧ owedVnd = some charge.owedVnd ∧
      charge.paidBeforeVnd = paidVnd ∧ charge.amountVnd = charge.owedVnd - paidVnd ∧
      wholeVnd charge.owedVnd ∧ wholeVnd paidVnd ∧ 0 < charge.amountVnd ∧
      ∃ facts, standing = some facts ∧
        accountHandoverRefusal ⟨facts, charge.amountVnd⟩ = .ok none ∧
        charge.outstandingAfterVnd = facts.outstandingVnd + charge.amountVnd := by
  unfold evaluateAccountCharge at h
  split at h
  · simp at h
  next hc =>
  cases standing with
  | none => simp at h
  | some facts =>
  dsimp only at h
  split at h
  · simp at h
  next hb =>
  cases owedVnd with
  | none => simp at h
  | some owed =>
  dsimp only at h
  obtain ⟨_, hwhole, h⟩ := bind_ok.mp h
  rw [require_ok] at hwhole
  split at h
  · simp at h
  next hrem =>
  split at h
  · simp at h
  next hret =>
  split at h
  · simp at h
  next hcol =>
  split at h
  · simp at h
  next hrec =>
  split at h
  · simp at h
  next hprod =>
  have hb' := Decidable.not_not.mp hb
  unfold admitToAccount at h
  obtain ⟨admitted, hadm, h⟩ := bind_ok.mp h
  cases admitted with
  | false =>
    simp only [Bool.false_eq_true, if_false] at h
    obtain ⟨refusal, -, h⟩ := bind_ok.mp h
    cases refusal <;> simp at h
  | true =>
    rw [if_pos rfl] at h
    cases h
    have hnot : balance ∉ goodsMayLeaveBalances := by
      revert hb'
      cases balance <;> decide
    rw [goodsMayLeaveOn, if_neg hnot, if_neg hb] at hadm
    obtain ⟨refusal, href, hnone⟩ := bind_ok.mp hadm
    cases refusal with
    | some _ => simp at hnone
    | none =>
      refine ⟨not_not.mp hc, hb', not_not.mp hprod, by simpa using hrec, ?_, rfl, rfl, rfl, rfl,
        hwhole.1, hwhole.2.1, ?_, facts, rfl, href, rfl⟩
      · constructor
        · intro ht hin
          exact hret ⟨hin, ht⟩
        · intro hout
          by_contra hf
          exact hcol ⟨hout, by simpa using hf⟩
      · dsimp only
        omega

end NhaTrangLaundry.Domain.Handover
