import NhaTrangLaundry.Domain.Canonical
import NhaTrangLaundry.Domain.Settlement
import NhaTrangLaundry.Lib.Sorting

/-! Laundry waiting for pickup: the clock that holds stop, the storage fee, and its
waiver. Instants are microseconds of the UTC clock. -/

namespace NhaTrangLaundry.Domain.Unclaimed

open Lib Outcome Sorting Catalog Canonical Settlement

/-- The owner's figures, within the bounds of a published document. -/
structure StoragePolicy where
  freeDays : Int
  feePerStartedDayVnd : Int
  feeCapPercent : Int
  freeDays_range : 1 ≤ freeDays ∧ freeDays ≤ 365
  fee_range : 1 ≤ feePerStartedDayVnd ∧ feePerStartedDayVnd ≤ 1000000
  percent_range : 1 ≤ feeCapPercent ∧ feeCapPercent ≤ 100
deriving DecidableEq

/-- The offset of the shop's clock, `Asia/Ho_Chi_Minh`. -/
def shopOffset : Int := 7 * 3600 * 1000000

def shopDate (moment : Int) : Except PyException Int := do
  require (0 ≤ moment + shopOffset ∧ moment + shopOffset < wallLimit) .overflowError
  .ok ((moment + shopOffset) / dayMicros)

def daysWaiting (readyAt asOf : Int) : Except PyException Int := do
  let today ← shopDate asOf
  let ready ← shopDate readyAt
  .ok (max 0 (today - ready))

def awaitingPickup (commercial : CommercialOrderStatus) (production : ProductionStatus)
    (fulfillmentMode : FulfillmentMode) (selfCollectionRecorded : Bool) : Bool :=
  commercial = .active && production = .readyAtStore && !selfCollectionRecorded &&
    fulfillmentMode ∉ modesExpectingReturn

inductive StorageClock where
  | running
  | paused
  | stopped
deriving DecidableEq

def shelfInterruptions : List ProductionStatus := [.onHold, .exception]

def storageClock (commercial : CommercialOrderStatus) (production : ProductionStatus)
    (resumeTo : Option ProductionStatus) (fulfillmentMode : FulfillmentMode)
    (selfCollectionRecorded : Bool) : StorageClock :=
  if awaitingPickup commercial production fulfillmentMode selfCollectionRecorded then .running
  else if commercial = .active ∧ production ∈ shelfInterruptions ∧ resumeTo = some .readyAtStore ∧
      selfCollectionRecorded = false ∧ fulfillmentMode ∉ modesExpectingReturn then .paused
  else .stopped

structure StorageHold where
  heldAt : Int
  resumedAt : Option Int
deriving DecidableEq

inductive HoldMove where
  | start
  | finish
deriving DecidableEq

def holdMove (before after : ProductionStatus) (resumeTo : Option ProductionStatus) :
    Option HoldMove :=
  if after ∈ shelfInterruptions ∧ before = .readyAtStore ∧ resumeTo = some .readyAtStore then
    some .start
  else if before = .onHold ∧ after = .readyAtStore then some .finish
  else if before = .exception then some .finish
  else none

/-- The shop days the laundry has waited at `asOf`, the time on hold taken out. -/
def countedDays (readyAt asOf : Int) (holds : List StorageHold) (paused : Bool) :
    Except PyException Int := do
  let since := sortBy StorageHold.heldAt (holds.filter fun hold => readyAt ≤ hold.heldAt)
  let openHolds := (since.filter fun hold => hold.resumedAt.isNone).map StorageHold.heldAt
  let stop := match openHolds.getLast? with
    | some heldAt => if paused then min asOf heldAt else asOf
    | none => asOf
  let heldTime := (since.map fun hold => match hold.resumedAt with
    | some resumedAt => if hold.heldAt < stop then
        max hold.heldAt (min resumedAt stop) - hold.heldAt else 0
    | none => 0).sum
  let _calendar ← daysWaiting readyAt stop
  require (0 ≤ stop - heldTime) .overflowError
  daysWaiting readyAt (stop - heldTime)

structure StorageFee where
  daysWaiting : Int
  chargeableDays : Int
  feePerStartedDayVnd : Int
  uncappedVnd : Int
  capVnd : Int
  amountVnd : Int
deriving DecidableEq

def storageFee (policy : StoragePolicy) (readyAt asOf quotedTotalVnd : Int)
    (holds : List StorageHold) (paused : Bool) : Except PyException StorageFee := do
  require (wholeVnd quotedTotalVnd)
    (.valueError "the quoted total must be a non-negative whole number of đồng")
  let waited ← countedDays readyAt asOf holds paused
  let chargeable := max 0 (waited - policy.freeDays)
  let uncapped := chargeable * policy.feePerStartedDayVnd
  let cap := quotedTotalVnd * policy.feeCapPercent / 100
  .ok ⟨waited, chargeable, policy.feePerStartedDayVnd, uncapped, cap, min uncapped cap⟩

inductive StorageFeeStatus where
  | fixed
  | alreadyPaid
  | waived
  | policyUnpublished
  | notWaiting
  | noSingleTotal
  | freePeriod
  | accruing
  | paused
deriving DecidableEq

structure OrderStorageFee where
  status : StorageFeeStatus
  amountVnd : Int
  fee : Option StorageFee
  alreadyPaidVnd : Int
deriving DecidableEq

def feeAlreadyPaid (paidVnd : Int) (quotedTotalVnd : Option Int) : Except PyException Int := do
  require (wholeVnd paidVnd ∧ ∀ total ∈ quotedTotalVnd, wholeVnd total)
    (.valueError "amounts are non-negative whole numbers of đồng")
  .ok (match quotedTotalVnd with
    | none => 0
    | some total => max 0 (paidVnd - total))

/-- A hold since the laundry was ready is still open. -/
def pausedSince (clock : StorageClock) (ready : Int) (holds : List StorageHold) : Bool :=
  clock = .paused && holds.any fun hold => hold.resumedAt.isNone && ready ≤ hold.heldAt

def waitingFee (policy : StoragePolicy) (ready asOf : Int) (quotedTotalVnd : Option Int)
    (holds : List StorageHold) (paused : Bool) : Except PyException OrderStorageFee :=
  match quotedTotalVnd with
  | none => .ok ⟨.noSingleTotal, 0, none, 0⟩
  | some total => do
    let fee ← storageFee policy ready asOf total holds paused
    .ok (if fee.amountVnd = 0 then ⟨.freePeriod, 0, some fee, 0⟩
      else ⟨if paused then .paused else .accruing, fee.amountVnd, some fee, 0⟩)

def unfixedStorageFee (policy : Option StoragePolicy) (clock : StorageClock) (readyAt : Option Int)
    (asOf : Int) (quotedTotalVnd : Option Int) (waived : Bool) (holds : List StorageHold) :
    Except PyException OrderStorageFee :=
  if waived then .ok ⟨.waived, 0, none, 0⟩
  else match policy, readyAt with
    | none, _ => .ok ⟨.policyUnpublished, 0, none, 0⟩
    | some _, none => .ok ⟨.notWaiting, 0, none, 0⟩
    | some policy, some ready =>
      if clock ≠ .running ∧ pausedSince clock ready holds = false then .ok ⟨.notWaiting, 0, none, 0⟩
      else waitingFee policy ready asOf quotedTotalVnd holds (pausedSince clock ready holds)

/-- The storage fee one order owes at `asOf`, from its stored facts. -/
def orderStorageFee (policy : Option StoragePolicy) (clock : StorageClock) (readyAt : Option Int)
    (asOf : Int) (quotedTotalVnd : Option Int) (waived settled : Bool) (fixedVnd : Option Int)
    (paidVnd : Int) (holds : List StorageHold) : Except PyException OrderStorageFee :=
  match fixedVnd with
  | some fixed => .ok ⟨.fixed, fixed, none, 0⟩
  | none =>
    if settled then .ok ⟨.fixed, 0, none, 0⟩
    else do
      let owedNow ← unfixedStorageFee policy clock readyAt asOf quotedTotalVnd waived holds
      let already ← feeAlreadyPaid paidVnd quotedTotalVnd
      .ok (if owedNow.amountVnd < already then ⟨.alreadyPaid, already, owedNow.fee, already⟩
        else ⟨owedNow.status, owedNow.amountVnd, owedNow.fee, already⟩)

structure WaiverEffect where
  quotedTotalVnd : Int
  waivedVnd : Int
  keptVnd : Int
  owedAfterVnd : Int
  remainingAfterVnd : Int
deriving DecidableEq

/-- Whether the waiver leaves nothing owed, and so settles the order with it. -/
def WaiverEffect.settles (effect : WaiverEffect) : Bool := effect.remainingAfterVnd = 0

def waiverEffect (fee : OrderStorageFee) (quotedTotalVnd : Option Int) (paidVnd : Int) :
    Except PyException (Option WaiverEffect) :=
  match quotedTotalVnd with
  | none => .ok none
  | some total =>
    if fee.status ∉ [StorageFeeStatus.accruing, .paused] then .ok none
    else do
      let kept := fee.alreadyPaidVnd
      let covered ← feeAlreadyPaid paidVnd quotedTotalVnd
      require (kept = covered) (.valueError "the fee was computed against a different ledger")
      let waived := fee.amountVnd - kept
      .ok (if waived ≤ 0 then none
        else some ⟨total, waived, kept, total + kept, total + kept - paidVnd⟩)

end NhaTrangLaundry.Domain.Unclaimed
