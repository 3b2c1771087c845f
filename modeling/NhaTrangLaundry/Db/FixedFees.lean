import NhaTrangLaundry.Db.OrderAxes
import NhaTrangLaundry.Db.PaymentsOwed
import NhaTrangLaundry.Domain.WaiverPreview

/-! The storage fee that a command fixes: the row of it, beside a settlement or an account charge,
and the basis that the row states. -/

namespace NhaTrangLaundry.Db.Orders

open Lib Outcome Domain Catalog Canonical Settlement Unclaimed Accounts Handover
open Domain.Orders OrderSteps Domain.Payments

inductive FeeBasis where
  | accrued
  | alreadyPaid
deriving DecidableEq

/-- A row of `order_storage_fees`, with the version of the policy that computed it. -/
structure FixedFee (V : Type) where
  amountVnd : Int
  daysWaiting : Option Int
  chargeableDays : Option Int
  policyVersionId : Option V
  basis : FeeBasis
deriving DecidableEq

section

variable {V : Type}

def OrderRow.publishedVersion (row : OrderRow) (versionId : V) : Option V :=
  row.storagePolicy.map fun _ => versionId

/-- `insert_fixed_storage_fee`, beside a settlement. -/
def insertFixedStorageFee (storage : OrderStorageFee) (published : Option V) (amountVnd : Int) :
    FixedFee V :=
  match storage.fee, published with
  | some trace, some versionId =>
    if 0 < trace.chargeableDays ∧ trace.amountVnd = amountVnd then
      ⟨amountVnd, some trace.daysWaiting, some trace.chargeableDays, some versionId, .accrued⟩
    else ⟨amountVnd, none, none, none, .alreadyPaid⟩
  | _, _ => ⟨amountVnd, none, none, none, .alreadyPaid⟩

/-- The row that an account charge writes; its basis is the column's default. -/
def chargedStorageFee (storage : OrderStorageFee) (published : Option V) :
    Except Refusal (FixedFee V) :=
  match storage.fee, published with
  | some trace, some versionId =>
    .ok ⟨storage.amountVnd, some trace.daysWaiting, some trace.chargeableDays, some versionId,
      .accrued⟩
  | _, _ => .error (.raised (.valueError "AssertionError"))

def payFixing (row : OrderRow) (versionId : V) (command : Payments.PaymentCommand) :
    Except Refusal (OrderRow × Option (FixedFee V)) := do
  let paid ← takePayment row command
  match row.till with
  | none => .ok (paid, none)
  | some till => do
    let storage ← (till.storageFeeAt command.recordedAt).mapError .raised
    .ok (paid, if paid.state.balance = .paid ∧ 0 < storage.amountVnd then
      some (insertFixedStorageFee storage (row.publishedVersion versionId) storage.amountVnd)
      else none)

def keptBy (effect : Option WaiverEffect) : Option Int :=
  match effect with
  | some effect => if effect.settles ∧ 0 < effect.keptVnd then some effect.keptVnd else none
  | none => none

def waiveFixing (row : OrderRow) (versionId : V) (occurredAt : Int) :
    Except Refusal (OrderRow × Option (FixedFee V)) := do
  let waived ← waive row occurredAt
  match row.till with
  | none => .ok (waived, none)
  | some till => do
    let storage ← (till.storageFeeAt occurredAt).mapError .raised
    let effect ← (waiverEffect storage (some till.quotedTotalVnd) till.paidVnd).mapError .raised
    .ok (waived, (keptBy effect).map
      (insertFixedStorageFee storage (row.publishedVersion versionId)))

def chargeFixing (row : OrderRow) (versionId : V) (standing : Option AccountStanding)
    (collectedByCustomer : Bool) (at_ : Int) : Except Refusal (OrderRow × Option (FixedFee V)) := do
  let charged ← chargeAccount row standing collectedByCustomer at_
  let owed ← owedOnAccount row at_
  if 0 < owed.1.amountVnd then do
    let fee ← chargedStorageFee owed.1 (row.publishedVersion versionId)
    .ok (charged, some fee)
  else .ok (charged, none)

def Computes (till : Payments.Order) (moment : Int) (owedNow : OrderStorageFee) : Prop :=
  unfixedStorageFee till.storagePolicy
    (storageClock till.commercial till.production till.productionResumeStatus till.fulfillmentMode
      till.selfCollectionRecorded)
    till.productionReadyAt moment (some till.quotedTotalVnd) till.waived till.holdsSinceReady =
      .ok owedNow

/-- What the policy in force computes for the order at a moment, its waiver and its clock counted. -/
def OrderRow.computedFee (row : OrderRow) (moment : Int) (trace : StorageFee) : Prop :=
  ∃ till owedNow, row.till = some till ∧ Computes till moment owedNow ∧ owedNow.fee = some trace

/-- The fee that a command fixed: within the ledger's constraints, part of what was settled with
it, and accrued exactly when the policy computed it. -/
structure FixedTrue (row row' : OrderRow) (versionId : V) (moment : Int) (settled : Option Int)
    (fee : FixedFee V) : Prop where
  positive : 0 < fee.amountVnd
  written : row'.fixedFeeVnd = some fee.amountVnd
  total : ∃ total, row.quotedTotal = ⟨some total, some total⟩ ∧ settled = some (total + fee.amountVnd)
  basis : (fee.basis = .accrued ∧ row.storagePolicy.isSome = true ∧
      ∃ trace, row.computedFee moment trace ∧ trace.amountVnd = fee.amountVnd ∧
        fee.daysWaiting = some trace.daysWaiting ∧ fee.chargeableDays = some trace.chargeableDays ∧
        0 < trace.chargeableDays ∧ trace.chargeableDays ≤ trace.daysWaiting ∧
        fee.policyVersionId = some versionId) ∨
    (fee.basis = .alreadyPaid ∧ (∀ trace, row.computedFee moment trace →
        trace.amountVnd ≠ fee.amountVnd) ∧
      fee.daysWaiting = none ∧ fee.chargeableDays = none ∧ fee.policyVersionId = none)

end

section Computed

variable {policy : Option StoragePolicy} {clock : StorageClock} {readyAt quoted : Option Int}
  {asOf : Int} {waived : Bool} {holds : List StorageHold} {owedNow : OrderStorageFee}

lemma unfixedStorageFee_trace
    (h : unfixedStorageFee policy clock readyAt asOf quoted waived holds = .ok owedNow) :
    (owedNow.amountVnd = 0 ∧ owedNow.fee = none) ∨
      ∃ p ready total paused trace, policy = some p ∧ readyAt = some ready ∧ quoted = some total ∧
        storageFee p ready asOf total holds paused = .ok trace ∧ owedNow.fee = some trace ∧
        owedNow.amountVnd = trace.amountVnd := by
  rw [unfixedStorageFee.eq_def] at h
  split at h
  · cases h
    exact .inl ⟨rfl, rfl⟩
  split at h
  · cases h
    exact .inl ⟨rfl, rfl⟩
  · cases h
    exact .inl ⟨rfl, rfl⟩
  split at h
  · cases h
    exact .inl ⟨rfl, rfl⟩
  next p ready hclock =>
  cases quoted with
  | none =>
    cases h
    exact .inl ⟨rfl, rfl⟩
  | some total =>
    obtain ⟨trace, htrace, h⟩ := bind_ok.mp h
    refine .inr ⟨p, ready, total, _, trace, rfl, rfl, rfl, htrace, ?_⟩
    split_ifs at h with hzero
    · cases h
      exact ⟨rfl, hzero.symm⟩
    · cases h
      exact ⟨rfl, rfl⟩
    · cases h
      exact ⟨rfl, rfl⟩

lemma storageFee_days {p : StoragePolicy} {ready total : Int} {paused : Bool} {trace : StorageFee}
    (h : storageFee p ready asOf total holds paused = .ok trace) (hpos : 0 < trace.amountVnd) :
    0 < trace.chargeableDays ∧ trace.chargeableDays ≤ trace.daysWaiting := by
  obtain ⟨_, -, h⟩ := bind_ok.mp h
  obtain ⟨waited, -, h⟩ := bind_ok.mp h
  cases h
  have hfree := p.freeDays_range.1
  have huncapped : 0 < max 0 (waited - p.freeDays) * p.feePerStartedDayVnd :=
    lt_of_lt_of_le hpos (min_le_left _ _)
  have hchargeable : 0 < max 0 (waited - p.freeDays) := by
    refine lt_of_le_of_ne (le_max_left _ _) fun hzero => ?_
    rw [← hzero, Int.zero_mul] at huncapped
    exact lt_irrefl _ huncapped
  refine ⟨hchargeable, ?_⟩
  show max 0 (waited - p.freeDays) ≤ waited
  omega

end Computed

section Written

variable {V : Type} {row row' : OrderRow} {till till' : Payments.Order} {versionId : V} {moment : Int}
  {storage owedNow : OrderStorageFee} {published : Option V}

lemma till_policy (h : row.till = some till) : till.storagePolicy = row.storagePolicy := by
  unfold OrderRow.till at h
  split at h
  · split at h
    · cases h
      rfl
    · cases h
  · cases h

lemma computedFee_iff (htill : row.till = some till) (hnow : Computes till moment owedNow)
    {trace : StorageFee} : row.computedFee moment trace ↔ owedNow.fee = some trace := by
  constructor
  · rintro ⟨till', owedNow', htill', hnow', htrace⟩
    rw [htill] at htill'
    cases htill'
    rw [Computes, hnow'] at hnow
    cases hnow
    exact htrace
  · exact fun htrace => ⟨till, owedNow, htill, hnow, htrace⟩

lemma insertFixedStorageFee_basis {amount : Int} (htill : row.till = some till)
    (hnow : Computes till moment owedNow) (hfee : storage.fee = owedNow.fee) (hpos : 0 < amount)
    {fee : FixedFee V}
    (h : insertFixedStorageFee storage (row.publishedVersion versionId) amount = fee) :
    fee.amountVnd = amount ∧
    ((fee.basis = .accrued ∧ row.storagePolicy.isSome = true ∧
        ∃ trace, row.computedFee moment trace ∧ trace.amountVnd = fee.amountVnd ∧
          fee.daysWaiting = some trace.daysWaiting ∧ fee.chargeableDays = some trace.chargeableDays ∧
          0 < trace.chargeableDays ∧ trace.chargeableDays ≤ trace.daysWaiting ∧
          fee.policyVersionId = some versionId) ∨
      (fee.basis = .alreadyPaid ∧ (∀ trace, row.computedFee moment trace →
          trace.amountVnd ≠ fee.amountVnd) ∧
        fee.daysWaiting = none ∧ fee.chargeableDays = none ∧ fee.policyVersionId = none)) := by
  obtain ⟨-, hnone⟩ | ⟨p, ready, total, paused, trace, hpolicy, -, -, htrace, hsome, -⟩ :=
    unfixedStorageFee_trace hnow
  · rw [insertFixedStorageFee.eq_def, hfee, hnone] at h
    cases h
    refine ⟨rfl, .inr ⟨rfl, fun trace' htrace' => ?_, rfl, rfl, rfl⟩⟩
    rw [computedFee_iff htill hnow, hnone] at htrace'
    cases htrace'
  · rw [till_policy htill] at hpolicy
    have hpublished : row.publishedVersion versionId = some versionId := by
      rw [OrderRow.publishedVersion, hpolicy]
      rfl
    rw [insertFixedStorageFee.eq_def, hfee, hsome, hpublished] at h
    dsimp only at h
    by_cases haccrued : 0 < trace.chargeableDays ∧ trace.amountVnd = amount
    · rw [if_pos haccrued] at h
      cases h
      obtain ⟨hcharged, hdays⟩ := storageFee_days htrace (haccrued.2 ▸ hpos)
      exact ⟨rfl, .inl ⟨rfl, by rw [hpolicy]; rfl, trace, (computedFee_iff htill hnow).mpr hsome,
        haccrued.2, rfl, rfl, hcharged, hdays, rfl⟩⟩
    · rw [if_neg haccrued] at h
      cases h
      refine ⟨rfl, .inr ⟨rfl, fun trace' htrace' hamount => ?_, rfl, rfl, rfl⟩⟩
      rw [computedFee_iff htill hnow, hsome] at htrace'
      cases htrace'
      exact haccrued ⟨(storageFee_days htrace (hamount ▸ hpos)).1, hamount⟩

lemma storageFeeAt_open (hsettlement : till.settlement = none) (hfixed : till.fixedFeeVnd = none)
    (h : till.storageFeeAt moment = .ok storage) :
    ∃ owedNow already, Computes till moment owedNow ∧
      feeAlreadyPaid till.paidVnd (some till.quotedTotalVnd) = .ok already ∧
      storage.fee = owedNow.fee ∧
      ((storage.amountVnd = already ∧ owedNow.amountVnd < already) ∨
        storage.amountVnd = owedNow.amountVnd) := by
  rw [Payments.Order.storageFeeAt, hsettlement, hfixed, Option.isSome_none] at h
  obtain ⟨owedNow, already, hnow, halready, hstorage⟩ := orderStorageFee_unsettled.mp h
  refine ⟨owedNow, already, hnow, halready, ?_⟩
  by_cases hless : owedNow.amountVnd < already
  · rw [if_pos hless] at hstorage
    subst hstorage
    exact ⟨rfl, .inl ⟨rfl, hless⟩⟩
  · rw [if_neg hless] at hstorage
    subst hstorage
    exact ⟨rfl, .inr rfl⟩

lemma open_of_status (h : till.storageFeeAt moment = .ok storage)
    (hstatus : storage.status ≠ .fixed) : till.settlement = none ∧ till.fixedFeeVnd = none := by
  rw [Payments.Order.storageFeeAt, orderStorageFee.eq_def] at h
  cases hfixed : till.fixedFeeVnd with
  | some fixed =>
    rw [hfixed] at h
    cases h
    exact absurd rfl hstatus
  | none =>
    rw [hfixed] at h
    cases hsettlement : till.settlement with
    | none => exact ⟨rfl, rfl⟩
    | some settlement =>
      rw [hsettlement, Option.isSome_some] at h
      cases h
      exact absurd rfl hstatus

lemma owedCharges_total {total fee : Int} {charges : List OrderCharge}
    (h : owedCharges ⟨some total, some total⟩ fee = .ok (some charges)) : wholeVnd total := by
  by_contra hwhole
  rw [owedCharges.eq_def] at h
  dsimp only at h
  rw [if_pos (.inr hwhole)] at h
  cases h

lemma record_paid {command : Payments.PaymentCommand} (h : Payments.record till command = .ok till') :
    till.balance ∈ payableBalances ∧ ∃ storage,
      till.storageFeeAt command.recordedAt = .ok storage ∧
      ((till'.balance ≠ .paid ∧ till'.fixedFeeVnd = till.fixedFeeVnd) ∨
        (till'.balance = .paid ∧
          till'.fixedFeeVnd = (if 0 < storage.amountVnd then some storage.amountVnd
            else till.fixedFeeVnd) ∧
          till'.settlement.map Payments.OrderSettlement.expectedTotalVnd =
            some (till.quotedTotalVnd + storage.amountVnd) ∧
          till'.paidVnd = till.quotedTotalVnd + storage.amountVnd)) := by
  obtain ⟨storage, hstorage, h⟩ := bind_ok.mp h
  obtain ⟨charges, hcharges, h⟩ := bind_ok.mp h
  obtain ⟨outcome, houtcome, hwrite⟩ := bind_ok.mp h
  rw [mapError_ok] at hstorage hcharges houtcome
  cases outcome with
  | refused refusal => cases hwrite
  | accepted accepted =>
    obtain ⟨hpayable, cs, owed, hcs, howed, htake⟩ := Payments.evaluatePayment_accepted houtcome
    rw [hcs] at hcharges
    obtain ⟨-, cs', hcs', howed'⟩ := Payments.owedCharges_ok (owedCharges_total hcharges) hcharges
    cases hcs'
    rw [howed] at howed'
    cases howed'
    obtain ⟨hnonneg, -, hsame, hafter, hbalance⟩ := Payments.takeAmount_accepted htake
    refine ⟨hpayable, storage, hstorage, ?_⟩
    dsimp only at hwrite
    by_cases hcompletes : accepted.completes = true
    · rw [if_pos hcompletes] at hwrite
      obtain ⟨shape, -, hwrite⟩ := bind_ok.mp hwrite
      cases hwrite
      have hpaid : accepted.balanceAfter = .paid := of_decide_eq_true hcompletes
      refine .inr ⟨hpaid, rfl, ?_, ?_⟩
      · rw [← hsame]
        rfl
      · rcases hbalance with ⟨-, howedAfter⟩ | ⟨hpartly, -⟩
        · rw [← howedAfter, hafter]
          exact Payments.sum_ledgered hnonneg
        · rw [hpaid] at hpartly
          cases hpartly
    · rw [if_neg hcompletes] at hwrite
      cases hwrite
      exact .inl ⟨fun hpaid => hcompletes (decide_eq_true hpaid), rfl⟩

lemma waiverEffect_some {total paid : Int} {effect : WaiverEffect}
    (h : waiverEffect storage (some total) paid = .ok (some effect)) :
    storage.status ∈ [StorageFeeStatus.accruing, .paused] ∧
      feeAlreadyPaid paid (some total) = .ok effect.keptVnd ∧
      0 < storage.amountVnd - effect.keptVnd ∧ effect.owedAfterVnd = total + effect.keptVnd ∧
      effect.remainingAfterVnd = total + effect.keptVnd - paid := by
  rw [waiverEffect.eq_def] at h
  dsimp only at h
  by_cases hstatus : storage.status ∉ [StorageFeeStatus.accruing, .paused]
  · rw [if_pos hstatus] at h
    cases h
  rw [if_neg hstatus] at h
  obtain ⟨covered, hcovered, h⟩ := bind_ok.mp h
  obtain ⟨_, hkept, h⟩ := bind_ok.mp h
  rw [require_ok] at hkept
  by_cases hnone : storage.amountVnd - storage.alreadyPaidVnd ≤ 0
  · rw [if_pos hnone] at h
    cases h
  · rw [if_neg hnone] at h
    cases h
    refine ⟨not_not.mp hstatus, ?_, not_le.mp hnone, rfl, rfl⟩
    rw [hcovered, hkept]

lemma waiveStorageFee_cases (h : Payments.waiveStorageFee till moment = .ok till') :
    ∃ storage effect, till.storageFeeAt moment = .ok storage ∧
      waiverEffect storage (some till.quotedTotalVnd) till.paidVnd = .ok (some effect) ∧
      ((effect.settles = true ∧
          ∃ shape, till' = Payments.writeWaiverSettlement till effect shape) ∨
        (effect.settles = false ∧ till' = { till with waived := true })) := by
  obtain ⟨storage, hstorage, h⟩ := bind_ok.mp h
  obtain ⟨_, -, h⟩ := bind_ok.mp h
  obtain ⟨_, -, h⟩ := bind_ok.mp h
  obtain ⟨effect, heffect, h⟩ := bind_ok.mp h
  rw [mapError_ok] at hstorage heffect
  cases effect with
  | none => cases h
  | some effect =>
    refine ⟨storage, effect, hstorage, heffect, ?_⟩
    dsimp only at h
    cases hsettles : effect.settles with
    | true =>
      rw [hsettles, if_pos rfl] at h
      obtain ⟨shape, -, h⟩ := bind_ok.mp h
      obtain ⟨_, -, h⟩ := bind_ok.mp h
      cases h
      exact .inl ⟨rfl, shape, rfl⟩
    | false =>
      rw [hsettles, if_neg Bool.false_ne_true] at h
      cases h
      exact .inr ⟨rfl, rfl⟩

end Written

/-- What a command fixed, if anything, is true of the order before it and of the rows after it. -/
def Fixes {V : Type} (row : OrderRow) (versionId : V) (moment : Int) (settled : OrderRow → Option Int)
    (result : Except Refusal (OrderRow × Option (FixedFee V))) : Prop :=
  ∀ row' written, result = .ok (row', written) →
    match written with
    | none => row'.fixedFeeVnd = row.fixedFeeVnd
    | some fee => FixedTrue row row' versionId moment (settled row') fee

def settlementTotal (row : OrderRow) : Option Int :=
  row.settlement.map Payments.OrderSettlement.expectedTotalVnd

def chargeTotal (row : OrderRow) : Option Int := row.charge.map AccountCharge.owedVnd

def Accompanies {V : Type} (result : Except Refusal (OrderRow × Option (FixedFee V)))
    (command : Except Refusal OrderRow) : Prop :=
  ∀ row', command = .ok row' ↔ ∃ written, result = .ok (row', written)

/-- The three commands fix the fee as the ledger and the policy have it; the charge finds its
trace and its policy whenever it fixes one. -/
structure FeesTrue {V : Type} (row : OrderRow) (versionId : V) : Prop where
  pay : ∀ command, Accompanies (payFixing row versionId command) (takePayment row command) ∧
    Fixes row versionId command.recordedAt settlementTotal (payFixing row versionId command)
  waive : ∀ occurredAt, Accompanies (waiveFixing row versionId occurredAt) (waive row occurredAt) ∧
    Fixes row versionId occurredAt settlementTotal (waiveFixing row versionId occurredAt)
  charge : ∀ standing collected at_,
    Accompanies (chargeFixing row versionId standing collected at_)
      (chargeAccount row standing collected at_) ∧
    Fixes row versionId at_ chargeTotal (chargeFixing row versionId standing collected at_)
  asserted : ∀ standing collected at_ owed accepted, owedOnAccount row at_ = .ok owed →
    evaluateAccountCharge row.state.commercial row.state.production row.state.balance
      row.state.fulfillmentMode row.state.selfCollectionRecorded owed.2 row.payments.sum collected
      standing = .ok (.accepted accepted) → 0 < owed.1.amountVnd →
      row.storagePolicy.isSome = true ∧ ∃ trace, owed.1.fee = some trace ∧
        row.computedFee at_ trace ∧ trace.amountVnd = owed.1.amountVnd ∧
        0 < trace.chargeableDays ∧ trace.chargeableDays ≤ trace.daysWaiting

def MoneyOpen (row : OrderRow) : Prop :=
  row.state.balance ∈ payableBalances → row.settlement = none ∧ row.fixedFeeVnd = none

section Commands

variable {V : Type} {row row' : OrderRow} {till : Payments.Order} {versionId : V}

lemma takePayment_ok {command : Payments.PaymentCommand} :
    takePayment row command = .ok row' ↔
      ∃ till till', row.till = some till ∧ Payments.record till command = .ok till' ∧
        row' = row.withTill till' := by
  rw [takePayment.eq_def]
  cases htill : row.till with
  | none => simp
  | some till =>
    constructor
    · intro h
      obtain ⟨till', htill', h⟩ := bind_ok.mp h
      cases h
      exact ⟨till, till', rfl, mapError_ok.mp htill', rfl⟩
    · rintro ⟨_, till', ⟨⟩, hrecord, rfl⟩
      exact bind_ok.mpr ⟨till', mapError_ok.mpr hrecord, rfl⟩

lemma waive_ok {occurredAt : Int} :
    waive row occurredAt = .ok row' ↔
      ∃ till till', row.till = some till ∧ Payments.waiveStorageFee till occurredAt = .ok till' ∧
        row' = row.withTill till' := by
  rw [waive.eq_def]
  cases htill : row.till with
  | none => simp
  | some till =>
    constructor
    · intro h
      obtain ⟨till', htill', h⟩ := bind_ok.mp h
      cases h
      exact ⟨till, till', rfl, mapError_ok.mp htill', rfl⟩
    · rintro ⟨_, till', ⟨⟩, hwaive, rfl⟩
      exact bind_ok.mpr ⟨till', mapError_ok.mpr hwaive, rfl⟩

lemma payFixing_ok {command : Payments.PaymentCommand} {written : Option (FixedFee V)} :
    payFixing row versionId command = .ok (row', written) ↔
      takePayment row command = .ok row' ∧ ∃ till storage, row.till = some till ∧
        till.storageFeeAt command.recordedAt = .ok storage ∧
        written = if row'.state.balance = .paid ∧ 0 < storage.amountVnd then
          some (insertFixedStorageFee storage (row.publishedVersion versionId) storage.amountVnd)
          else none := by
  rw [payFixing]
  constructor
  · intro h
    obtain ⟨paid, hpaid, h⟩ := bind_ok.mp h
    obtain ⟨till, till', htill, -, -⟩ := takePayment_ok.mp hpaid
    rw [htill] at h
    obtain ⟨storage, hstorage, h⟩ := bind_ok.mp h
    cases h
    exact ⟨hpaid, till, storage, htill, mapError_ok.mp hstorage, rfl⟩
  · rintro ⟨hpaid, till, storage, htill, hstorage, rfl⟩
    rw [hpaid, ok_bind, htill]
    exact bind_ok.mpr ⟨storage, mapError_ok.mpr hstorage, rfl⟩

lemma waiveFixing_ok {occurredAt : Int} {written : Option (FixedFee V)} :
    waiveFixing row versionId occurredAt = .ok (row', written) ↔
      waive row occurredAt = .ok row' ∧ ∃ till storage effect, row.till = some till ∧
        till.storageFeeAt occurredAt = .ok storage ∧
        waiverEffect storage (some till.quotedTotalVnd) till.paidVnd = .ok effect ∧
        written = (keptBy effect).map
          (insertFixedStorageFee storage (row.publishedVersion versionId)) := by
  rw [waiveFixing]
  constructor
  · intro h
    obtain ⟨waived, hwaived, h⟩ := bind_ok.mp h
    obtain ⟨till, till', htill, -, -⟩ := waive_ok.mp hwaived
    rw [htill] at h
    obtain ⟨storage, hstorage, h⟩ := bind_ok.mp h
    obtain ⟨effect, heffect, h⟩ := bind_ok.mp h
    cases h
    exact ⟨hwaived, till, storage, effect, htill, mapError_ok.mp hstorage, mapError_ok.mp heffect, rfl⟩
  · rintro ⟨hwaived, till, storage, effect, htill, hstorage, heffect, rfl⟩
    rw [hwaived, ok_bind, htill]
    exact bind_ok.mpr ⟨storage, mapError_ok.mpr hstorage,
      bind_ok.mpr ⟨effect, mapError_ok.mpr heffect, rfl⟩⟩

lemma payFixing_true (hopen : MoneyOpen row) (command : Payments.PaymentCommand) :
    Accompanies (payFixing row versionId command) (takePayment row command) ∧
      Fixes row versionId command.recordedAt settlementTotal (payFixing row versionId command) := by
  constructor
  · intro row'
    constructor
    · intro h
      obtain ⟨till, till', htill, hrecord, -⟩ := takePayment_ok.mp h
      obtain ⟨-, storage, hstorage, -⟩ := record_paid hrecord
      exact ⟨_, payFixing_ok.mpr ⟨h, till, storage, htill, hstorage, rfl⟩⟩
    · rintro ⟨written, h⟩
      exact (payFixing_ok.mp h).1
  · intro row' written h
    obtain ⟨htaken, till, storage, htill, hstorage, rfl⟩ := payFixing_ok.mp h
    obtain ⟨_, till', htill', hrecord, rfl⟩ := takePayment_ok.mp htaken
    rw [htill] at htill'
    cases htill'
    obtain ⟨hpayable, storage', hstorage', hpaid⟩ := record_paid hrecord
    rw [hstorage] at hstorage'
    cases hstorage'
    obtain ⟨hquoted, -, -, -, -, hbalance, -, hsettled, hfee, -⟩ := till_eq htill
    rw [hbalance] at hpayable
    obtain ⟨hsettlement, hfixed⟩ := hopen hpayable
    obtain ⟨owedNow, already, hnow, -, htrace, -⟩ :=
      storageFeeAt_open (hsettled.trans hsettlement) (hfee.trans hfixed) hstorage
    obtain ⟨hnot, hkept⟩ | ⟨hbalance', hwrites, htotal, -⟩ := hpaid
    · rw [if_neg fun hboth => hnot hboth.1]
      exact hkept.trans hfee
    · by_cases hpos : 0 < storage.amountVnd
      · rw [if_pos ⟨hbalance', hpos⟩]
        rw [if_pos hpos] at hwrites
        obtain ⟨hamount, hbasis⟩ :=
          @insertFixedStorageFee_basis V row till versionId command.recordedAt storage owedNow
            storage.amountVnd htill hnow htrace hpos _ rfl
        refine ⟨hpos.trans_eq hamount.symm, ?_, ⟨till.quotedTotalVnd, hquoted, ?_⟩, hbasis⟩
        · rw [hamount]
          exact hwrites
        · rw [hamount]
          exact htotal
      · rw [if_neg fun hboth => hpos hboth.2]
        rw [if_neg hpos] at hwrites
        exact hwrites.trans hfee

lemma waiveFixing_true (occurredAt : Int) :
    Accompanies (waiveFixing row versionId occurredAt) (waive row occurredAt) ∧
      Fixes row versionId occurredAt settlementTotal (waiveFixing row versionId occurredAt) := by
  constructor
  · intro row'
    constructor
    · intro h
      obtain ⟨till, till', htill, hwaive, -⟩ := waive_ok.mp h
      obtain ⟨storage, effect, hstorage, heffect, -⟩ := waiveStorageFee_cases hwaive
      exact ⟨_, waiveFixing_ok.mpr ⟨h, till, storage, some effect, htill, hstorage, heffect, rfl⟩⟩
    · rintro ⟨written, h⟩
      exact (waiveFixing_ok.mp h).1
  · intro row' written h
    obtain ⟨hwaived, till, storage, effect, htill, hstorage, heffect, rfl⟩ := waiveFixing_ok.mp h
    obtain ⟨_, till', htill', hwaive, rfl⟩ := waive_ok.mp hwaived
    rw [htill] at htill'
    cases htill'
    obtain ⟨storage', effect', hstorage', heffect', hcases⟩ := waiveStorageFee_cases hwaive
    rw [hstorage] at hstorage'
    cases hstorage'
    rw [heffect] at heffect'
    cases heffect'
    obtain ⟨hstatus, -, -, howed, -⟩ := waiverEffect_some heffect
    have hnotFixed : storage.status ≠ .fixed := by
      intro hfixed
      rw [hfixed] at hstatus
      simp at hstatus
    obtain ⟨hsettlement, hfixed⟩ := open_of_status hstorage hnotFixed
    obtain ⟨hquoted, -, -, -, -, -, -, -, hfee, -⟩ := till_eq htill
    obtain ⟨owedNow, already, hnow, -, htrace, -⟩ := storageFeeAt_open hsettlement hfixed hstorage
    obtain ⟨hsettles, shape, rfl⟩ | ⟨hnone, rfl⟩ := hcases
    · rw [keptBy]
      by_cases hpos : 0 < effect'.keptVnd
      · rw [if_pos ⟨hsettles, hpos⟩]
        obtain ⟨hamount, hbasis⟩ :=
          @insertFixedStorageFee_basis V row till versionId occurredAt storage owedNow
            effect'.keptVnd htill hnow htrace hpos _ rfl
        refine ⟨hpos.trans_eq hamount.symm, ?_, ⟨till.quotedTotalVnd, hquoted, ?_⟩, hbasis⟩
        · rw [hamount]
          exact if_pos hpos
        · rw [hamount, ← howed]
          rfl
      · rw [if_neg fun hboth => hpos hboth.2]
        exact (if_neg hpos).trans hfee
    · rw [keptBy, if_neg fun hboth => Bool.false_ne_true (hnone.symm.trans hboth.1)]
      exact hfee

lemma owedOnAccount_ok {at_ : Int} {owed : OrderStorageFee × Option Int} {total : Int}
    (h : owedOnAccount row at_ = .ok owed) (howed : owed.2 = some total) :
    ∃ till, row.till = some till ∧ till.storageFeeAt at_ = .ok owed.1 ∧
      total = till.quotedTotalVnd + owed.1.amountVnd := by
  rw [owedOnAccount.eq_def] at h
  cases htill : row.till with
  | none =>
    rw [htill] at h
    cases h
    cases howed
  | some till =>
    rw [htill] at h
    obtain ⟨storage, hstorage, h⟩ := bind_ok.mp h
    obtain ⟨charges, hcharges, h⟩ := bind_ok.mp h
    rw [mapError_ok] at hstorage hcharges
    cases charges with
    | none =>
      cases h
      cases howed
    | some charges =>
      obtain ⟨sum, hsum, h⟩ := bind_ok.mp h
      cases h
      cases howed
      rw [mapError_ok] at hsum
      rw [(till_eq htill).1] at hcharges
      obtain ⟨-, cs, hcs, hsum'⟩ :=
        Payments.owedCharges_ok (owedCharges_total hcharges) hcharges
      cases hcs
      rw [hsum] at hsum'
      cases hsum'
      exact ⟨till, rfl, hstorage, rfl⟩

/-- A charge that leaves something owed on the account fixes only a fee that the policy computed:
what is already paid of a fee is owed no more. -/
lemma charge_asserted (hopen : MoneyOpen row) {standing : Option AccountStanding} {collected : Bool}
    {at_ : Int} {owed : OrderStorageFee × Option Int} {accepted : AccountChargeAccepted}
    (howed : owedOnAccount row at_ = .ok owed)
    (haccepted : evaluateAccountCharge row.state.commercial row.state.production row.state.balance
      row.state.fulfillmentMode row.state.selfCollectionRecorded owed.2 row.payments.sum collected
      standing = .ok (.accepted accepted)) (hpos : 0 < owed.1.amountVnd) :
    row.storagePolicy.isSome = true ∧ ∃ trace, owed.1.fee = some trace ∧
      row.computedFee at_ trace ∧ trace.amountVnd = owed.1.amountVnd ∧
      0 < trace.chargeableDays ∧ trace.chargeableDays ≤ trace.daysWaiting := by
  obtain ⟨-, hpayable, -, -, -, -, hsome, -, hamount, -, -, hleft, -⟩ :=
    evaluateAccountCharge_accepted haccepted
  obtain ⟨till, htill, hstorage, htotal⟩ := owedOnAccount_ok howed hsome
  obtain ⟨-, -, -, -, -, -, hpayments, hsettled, hfee, -⟩ := till_eq htill
  obtain ⟨hsettlement, hfixed⟩ := hopen hpayable
  obtain ⟨owedNow, already, hnow, halready, htrace, hcases⟩ :=
    storageFeeAt_open (hsettled.trans hsettlement) (hfee.trans hfixed) hstorage
  have hpaid : till.paidVnd = row.payments.sum := congrArg List.sum hpayments
  have hcovered := (feeAlreadyPaid_ok.mp halready).2
  dsimp only at hcovered
  have hcharged : owed.1.amountVnd = owedNow.amountVnd := by
    rcases hcases with ⟨hsame, -⟩ | hsame
    · omega
    · exact hsame
  obtain ⟨hzero, -⟩ | ⟨p, ready, quoted, paused, trace, hpolicy, -, -, hcomputed, hsome', htraced⟩ :=
    unfixedStorageFee_trace hnow
  · omega
  rw [till_policy htill] at hpolicy
  obtain ⟨hdays, hwaited⟩ := storageFee_days hcomputed (by omega)
  exact ⟨by rw [hpolicy]; rfl, trace, htrace.trans hsome', (computedFee_iff htill hnow).mpr hsome',
    by omega, hdays, hwaited⟩

lemma chargeAccount_ok {standing : Option AccountStanding} {collected : Bool} {at_ : Int}
    (h : chargeAccount row standing collected at_ = .ok row') :
    ∃ owed accepted, owedOnAccount row at_ = .ok owed ∧
      evaluateAccountCharge row.state.commercial row.state.production row.state.balance
        row.state.fulfillmentMode row.state.selfCollectionRecorded owed.2 row.payments.sum collected
        standing = .ok (.accepted accepted) ∧
      row' = writeCharge row accepted owed.1.amountVnd := by
  obtain ⟨owed, howed, h⟩ := bind_ok.mp h
  obtain ⟨outcome, houtcome, h⟩ := bind_ok.mp h
  rw [mapError_ok] at houtcome
  cases outcome with
  | refused refusal => cases h
  | accepted accepted =>
    obtain ⟨_, -, h⟩ := bind_ok.mp h
    cases h
    exact ⟨owed, accepted, howed, houtcome, rfl⟩

lemma chargedStorageFee_some {storage : OrderStorageFee} {trace : StorageFee}
    (htrace : storage.fee = some trace) (hpolicy : row.storagePolicy.isSome = true) :
    chargedStorageFee storage (row.publishedVersion versionId) =
      .ok ⟨storage.amountVnd, some trace.daysWaiting, some trace.chargeableDays, some versionId,
        .accrued⟩ := by
  obtain ⟨p, hp⟩ := Option.isSome_iff_exists.mp hpolicy
  rw [chargedStorageFee.eq_def, htrace, OrderRow.publishedVersion, hp]
  rfl

lemma chargeFixing_true (hopen : MoneyOpen row) (standing : Option AccountStanding)
    (collected : Bool) (at_ : Int) :
    Accompanies (chargeFixing row versionId standing collected at_)
        (chargeAccount row standing collected at_) ∧
      Fixes row versionId at_ chargeTotal (chargeFixing row versionId standing collected at_) := by
  constructor
  · intro row'
    constructor
    · intro h
      obtain ⟨owed, accepted, howed, haccepted, -⟩ := chargeAccount_ok h
      rw [chargeFixing, h, ok_bind, howed, ok_bind]
      by_cases hpos : 0 < owed.1.amountVnd
      · obtain ⟨hpolicy, trace, htrace, -⟩ := charge_asserted hopen howed haccepted hpos
        rw [if_pos hpos, chargedStorageFee_some htrace hpolicy, ok_bind]
        exact ⟨_, rfl⟩
      · rw [if_neg hpos]
        exact ⟨_, rfl⟩
    · rintro ⟨written, h⟩
      obtain ⟨charged, hcharged, h⟩ := bind_ok.mp h
      obtain ⟨owed, -, h⟩ := bind_ok.mp h
      split_ifs at h
      · obtain ⟨fee, -, h⟩ := bind_ok.mp h
        cases h
        exact hcharged
      · cases h
        exact hcharged
  · intro row' written h
    obtain ⟨charged, hcharged, h⟩ := bind_ok.mp h
    obtain ⟨owed, howed, h⟩ := bind_ok.mp h
    obtain ⟨owed', accepted, howed', haccepted, rfl⟩ := chargeAccount_ok hcharged
    rw [howed] at howed'
    cases howed'
    by_cases hpos : 0 < owed.1.amountVnd
    · obtain ⟨hpolicy, trace, htrace, hcomputed, hamount, hdays, hwaited⟩ :=
        charge_asserted hopen howed haccepted hpos
      rw [if_pos hpos, chargedStorageFee_some htrace hpolicy, ok_bind] at h
      cases h
      obtain ⟨-, -, -, -, -, -, hsome, -⟩ := evaluateAccountCharge_accepted haccepted
      obtain ⟨till, htill, -, htotal⟩ := owedOnAccount_ok howed hsome
      exact ⟨hpos, if_pos hpos, ⟨till.quotedTotalVnd, (till_eq htill).1, congrArg some htotal⟩,
        .inl ⟨rfl, hpolicy, trace, hcomputed, hamount, rfl, rfl, hdays, hwaited, rfl⟩⟩
    · rw [if_neg hpos] at h
      cases h
      exact if_neg hpos

lemma feesTrue_of_open (hopen : MoneyOpen row) : FeesTrue row versionId :=
  ⟨payFixing_true hopen, waiveFixing_true, chargeFixing_true hopen,
    fun _ _ _ _ _ howed haccepted hpos => charge_asserted hopen howed haccepted hpos⟩

end Commands

def SettledPartly (row : OrderRow) : Prop :=
  ∀ occurredAt till storage effect, row.till = some till →
    till.storageFeeAt occurredAt = .ok storage →
    waiverEffect storage (some till.quotedTotalVnd) till.paidVnd = .ok (some effect) →
    effect.settles = true → row.state.balance = .partiallyPaid

section Runs

variable {row row' : OrderRow} {till : Payments.Order} {moment : Int}
  {owedNow storage : OrderStorageFee}

lemma storageClock_counting {commercial : CommercialOrderStatus} {production : ProductionStatus}
    {resumeTo : Option ProductionStatus} {mode : FulfillmentMode} {collected : Bool}
    (h : storageClock commercial production resumeTo mode collected ≠ .stopped) :
    commercial = .active ∧ collected = false ∧ mode ∉ modesExpectingReturn := by
  rw [storageClock] at h
  split_ifs at h with hawaiting hpaused
  · rw [awaitingPickup] at hawaiting
    simp only [Bool.and_eq_true, decide_eq_true_eq, Bool.not_eq_true'] at hawaiting
    exact ⟨hawaiting.1.1.1, hawaiting.1.2, hawaiting.2⟩
  · exact ⟨hpaused.1, hpaused.2.2.2.1, hpaused.2.2.2.2⟩
  · exact absurd rfl h

lemma computes_counting (hnow : Computes till moment owedNow) (hcharged : owedNow.amountVnd ≠ 0) :
    till.commercial = .active ∧ till.selfCollectionRecorded = false ∧
      till.fulfillmentMode ∉ modesExpectingReturn := by
  refine @storageClock_counting till.commercial till.production till.productionResumeStatus
    till.fulfillmentMode till.selfCollectionRecorded fun hstopped => ?_
  rw [Computes, hstopped, unfixedStorageFee.eq_def] at hnow
  split at hnow
  · cases hnow
    exact hcharged rfl
  split at hnow
  · cases hnow
    exact hcharged rfl
  · cases hnow
    exact hcharged rfl
  · rw [if_pos ⟨by decide, by simp [pausedSince]⟩] at hnow
    cases hnow
    exact hcharged rfl

/-- What a command keeps of the money of an order that can still be paid. -/
structure OpenMoney (row : OrderRow) : Prop where
  payable : MoneyOpen row
  unpaid : row.state.balance = .unpaid → row.payments = []

lemma openMoney_created (mode : FulfillmentMode) (quoted : QuotedTotal)
    (readiness : QuoteReadinessFacts) (policy : Option StoragePolicy) :
    OpenMoney (.created mode quoted readiness policy) :=
  ⟨fun _ => ⟨rfl, rfl⟩, fun _ => rfl⟩

lemma OpenMoney.transition {command : TransitionCommand} (h : OpenMoney row)
    (happly : applyLockedTransition row command = .ok row') : OpenMoney row' := by
  obtain ⟨next, refund, holds, hdecide, -, -, rfl⟩ := applyLockedTransition_ok happly
  obtain hkept | ⟨-, hrefunded⟩ := balance_decide hdecide
  · refine ⟨fun hpayable => h.payable ?_, fun hunpaid => h.unpaid ?_⟩
    · rw [← hkept]
      exact hpayable
    · rw [← hkept]
      exact hunpaid
  · constructor
    · intro hpayable
      dsimp only at hpayable
      rw [hrefunded] at hpayable
      simp [payableBalances] at hpayable
    · intro hunpaid
      dsimp only at hunpaid
      rw [hrefunded] at hunpaid
      cases hunpaid

lemma openMoney_closed (hnot : row.state.balance ∉ payableBalances) : OpenMoney row := by
  refine ⟨fun hpayable => absurd hpayable hnot, fun hunpaid => absurd ?_ hnot⟩
  rw [hunpaid]
  decide

lemma OpenMoney.entry (h : OpenMoney row) (hentry : Entry row row') : OpenMoney row' := by
  cases hentry with
  | settled => exact openMoney_closed (by simp [writeSettlement, payableBalances])
  | paidPart hactive hpayable => exact ⟨fun _ => h.payable hpayable, fun hunpaid => by cases hunpaid⟩
  | paidOff => exact openMoney_closed (by simp [payableBalances])
  | waived => exact ⟨h.payable, h.unpaid⟩
  | waivedOff => exact openMoney_closed (by simp [payableBalances])
  | collected => exact ⟨h.payable, h.unpaid⟩
  | leg => exact ⟨h.payable, h.unpaid⟩
  | charged => exact openMoney_closed (by simp [writeCharge, payableBalances])
  | allocatedPart honAccount => exact openMoney_closed (by simp [honAccount, payableBalances])
  | allocatedOff => exact openMoney_closed (by simp [writeAccountSettlement, payableBalances])
  | published => exact ⟨h.payable, h.unpaid⟩

lemma OpenMoney.change (h : OpenMoney row) (hchange : Change row row') : OpenMoney row' := by
  cases hchange with
  | transition command happly => exact h.transition happly
  | entry hentry => exact h.entry hentry

/-- A waiver settles only an order that has been paid a part: nothing else is left to be read. -/
lemma settledPartly_of_sound (h : OpenMoney row) (hmoney : MoneyAgrees row) : SettledPartly row := by
  intro occurredAt till storage effect htill hstorage heffect hsettles
  obtain ⟨hstatus, halready, hwaived, -, hremaining⟩ := waiverEffect_some heffect
  have hnotFixed : storage.status ≠ .fixed := by
    intro hfixed
    rw [hfixed] at hstatus
    simp at hstatus
  obtain ⟨hsettlement, hfixed⟩ := open_of_status hstorage hnotFixed
  obtain ⟨owedNow, already, hnow, halready', -, hcases⟩ := storageFeeAt_open hsettlement hfixed hstorage
  rw [halready] at halready'
  cases halready'
  have hamount : storage.amountVnd = owedNow.amountVnd := by
    rcases hcases with ⟨hsame, -⟩ | hsame
    · omega
    · exact hsame
  have hkept := feeAlreadyPaid_nonneg halready
  have htotal : 0 ≤ till.quotedTotalVnd := ((feeAlreadyPaid_ok.mp halready).1.2 _ rfl).1
  obtain ⟨-, hcapped⟩ := Payments.unfixedStorageFee_amount htotal hnow
  have hpaid : till.paidVnd = till.quotedTotalVnd + effect.keptVnd := by
    have hzero : effect.remainingAfterVnd = 0 := of_decide_eq_true hsettles
    omega
  obtain ⟨-, hcommercial, -, hmode, hself, -, hpayments, hsettled, -, -⟩ := till_eq htill
  obtain ⟨hactive, hcollected, hreturns⟩ := computes_counting hnow (by omega)
  cases hbalance : row.state.balance with
  | unpaid =>
    have hnone : till.paidVnd = 0 := by
      rw [Payments.Order.paidVnd, hpayments, h.unpaid hbalance]
      rfl
    omega
  | partiallyPaid => rfl
  | paid => exact absurd (hsettled ▸ hsettlement) (hmoney.paid hbalance)
  | onAccount =>
    rcases hmoney.onAccount hbalance with hself' | hmode'
    · rw [← hself, hcollected] at hself'
      cases hself'
    · rw [← hmode] at hmode'
      exact absurd hmode' hreturns
  | refunded =>
    have hcancelled := hmoney.refunded hbalance
    rw [← hcommercial, hactive] at hcancelled
    cases hcancelled
  | overpaid => exact absurd hbalance hmoney.known

/-- A fee is fixed once, and truly: of any order whose money is open, and in every state that an
order reaches. -/
theorem fixed_fees_true {V : Type} (versionId : V) :
    (∀ row : OrderRow, row.settlement = none → row.fixedFeeVnd = none → FeesTrue row versionId) ∧
    ∀ mode quoted readiness policy commands,
      FeesTrue (run (.created mode quoted readiness policy) commands) versionId ∧
        SettledPartly (run (.created mode quoted readiness policy) commands) := by
  refine ⟨fun row hsettlement hfixed => feesTrue_of_open fun _ => ⟨hsettlement, hfixed⟩, ?_⟩
  intro mode quoted readiness policy commands
  have hopen : OpenMoney (run (.created mode quoted readiness policy) commands) :=
    run_induction (fun _ _ h hchange => h.change hchange)
      (openMoney_created mode quoted readiness policy) commands
  have hsound := (sound_created mode quoted readiness policy).run commands
  exact ⟨feesTrue_of_open hopen.payable, settledPartly_of_sound hopen hsound.money⟩

end Runs

end NhaTrangLaundry.Db.Orders
