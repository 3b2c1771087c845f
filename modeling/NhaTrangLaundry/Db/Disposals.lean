import NhaTrangLaundry.Db.FixedFees
import NhaTrangLaundry.Db.WaitingDays
import NhaTrangLaundry.Domain.CancellationMoney
import NhaTrangLaundry.Domain.Disposal

/-! The disposal of an order's laundry: the verdict as its three readers compute it, and the act
with the rows it writes. -/

namespace NhaTrangLaundry.Db.Disposals

open Lib Outcome Sorting Newest Domain Catalog Canonical Settlement Unclaimed CancellationMoney
open Domain.Orders Domain.Payments Db.Orders

/-- A row of `order_contact_attempts`. -/
structure ContactAttempt where
  id : Uuid
  attemptedAt : Int
deriving DecidableEq

def attemptTimesLimit : Nat := 200

def latestFirst (attempts : List ContactAttempt) : List ContactAttempt :=
  sortBy (fun attempt => [-attempt.attemptedAt, -(attempt.id.int : Int)]) attempts

def attemptTimes (attempts : List ContactAttempt) : List Int :=
  ((latestFirst attempts).take attemptTimesLimit).map ContactAttempt.attemptedAt

/-- The attempt times of a row of the waiting list: those same rows, oldest first. -/
def recentTimes (attempts : List ContactAttempt) : List Int := sortBy id (attemptTimes attempts)

/-- The rows of an order with its contact attempts and its remedy credits, and the policy in force
with the figures of the disposal. -/
structure UnclaimedOrder where
  row : OrderRow
  policy : Option DisposalPolicy
  attempts : List ContactAttempt
  issuedFromOrder : List RemedyCreditFact
  spentOnOrder : List RemedyCreditFact
  published : row.storagePolicy = policy.map DisposalPolicy.toStoragePolicy
  positive : ∀ credit ∈ issuedFromOrder ++ spentOnOrder, 0 < credit.amountVnd

namespace UnclaimedOrder

def clock (order : UnclaimedOrder) : StorageClock :=
  storageClock order.row.state.commercial order.row.state.production
    order.row.state.productionResumeStatus order.row.state.fulfillmentMode
    order.row.state.selfCollectionRecorded

def quotedTotalVnd (order : UnclaimedOrder) : Option Int :=
  match order.row.quotedTotal.minimumVnd, order.row.quotedTotal.maximumVnd with
  | some minimum, some maximum => if minimum = maximum then some minimum else none
  | _, _ => none

def paidVnd (order : UnclaimedOrder) : Int := order.row.payments.sum

/-- `STORAGE_HOLDS_SQL`. -/
def holds (order : UnclaimedOrder) : List StorageHold :=
  match order.row.productionReadyAt with
  | none => []
  | some readyAt => WaitingDays.storageHoldsSql order.row.storageHolds readyAt

/-- `storage_fee_for_order`. -/
def storageFeeAt (order : UnclaimedOrder) (moment : Int) : Except PyException OrderStorageFee :=
  orderStorageFee order.row.storagePolicy order.clock order.row.productionReadyAt moment
    order.quotedTotalVnd order.row.waived order.row.settlement.isSome order.row.fixedFeeVnd
    order.paidVnd order.holds

/-- The verdict of `dispose`, and of the order page. -/
def disposeVerdict (order : UnclaimedOrder) (asOf : Int) : Except PyException DisposalVerdict :=
  disposalVerdict order.policy (order.clock = .running) order.row.productionReadyAt asOf
    (attemptTimes order.attempts) order.holds (order.clock = .paused)

/-- The verdict of the waiting list, whose rows also check their day count. -/
def listVerdict (order : UnclaimedOrder) (asOf : Int) :
    Except WaitingDays.WaitingFailure DisposalVerdict := do
  let _clock ← WaitingDays.readWait order.row.productionReadyAt order.row.storageHolds asOf
  (disposalVerdict order.policy
    (awaitingPickup order.row.state.commercial order.row.state.production
      order.row.state.fulfillmentMode order.row.state.selfCollectionRecorded)
    order.row.productionReadyAt asOf (recentTimes order.attempts) order.holds false).mapError .clock

/-- What the remedy credits of the order answer a disposal, which refunds nothing and was shown
no figures. -/
def creditChain (order : UnclaimedOrder) : Option Int :=
  match cancellationMoneyPlan (some .unclaimedDisposed) 0 order.issuedFromOrder
    order.spentOnOrder with
  | .error _ => none
  | .ok plan =>
    match plan.requireAllowed none with
    | .error _ => none
    | .ok _ => some plan.nettedVnd

end UnclaimedOrder

/-- The row of `order_disposals`. -/
structure OrderDisposal where
  daysWaiting : Int
  attemptsCounted : Nat
  attemptDays : Nat
  storageFeeVnd : Int
  money : DisposalMoney
deriving DecidableEq

def OrderDisposal.Checked (d : OrderDisposal) : Prop :=
  0 < d.daysWaiting ∧ 0 < d.attemptsCounted ∧ 0 < d.attemptDays ∧ d.attemptDays ≤ d.attemptsCounted ∧
    0 ≤ d.money.owedVnd ∧ 0 ≤ d.storageFeeVnd ∧ d.storageFeeVnd ≤ d.money.owedVnd ∧
    0 ≤ d.money.keptVnd ∧ 0 ≤ d.money.writtenOffVnd ∧
    d.money.keptVnd + d.money.writtenOffVnd = d.money.owedVnd

instance (d : OrderDisposal) : Decidable d.Checked :=
  inferInstanceAs (Decidable (0 < d.daysWaiting ∧ 0 < d.attemptsCounted ∧ 0 < d.attemptDays ∧
    d.attemptDays ≤ d.attemptsCounted ∧ 0 ≤ d.money.owedVnd ∧ 0 ≤ d.storageFeeVnd ∧
    d.storageFeeVnd ≤ d.money.owedVnd ∧ 0 ≤ d.money.keptVnd ∧ 0 ≤ d.money.writtenOffVnd ∧
    d.money.keptVnd + d.money.writtenOffVnd = d.money.owedVnd))

inductive Refusal where
  | unclaimed (refusals : List DisposalRefusal)
  | noSingleTotal
  | raised (e : PyException)
  | order (refusal : Orders.Refusal)
deriving DecidableEq

/-- `UnclaimedRepository.dispose`. -/
def dispose (order : UnclaimedOrder) (occurredAt : Datetime) :
    Except Refusal (OrderRow × OrderDisposal) := do
  let fee ← (order.storageFeeAt occurredAt.instant).mapError .raised
  let verdict ← (order.disposeVerdict occurredAt.instant).mapError .raised
  require (verdict.allowed = true) (.unclaimed verdict.refusals)
  let total ← ofOption .noSingleTotal order.quotedTotalVnd
  let money ← (disposalMoney (total + fee.amountVnd) order.paidVnd).mapError .raised
  let disposal : OrderDisposal := ⟨verdict.daysWaiting.getD 0, verdict.attemptsCounted,
    verdict.attemptDays, fee.amountVnd, money⟩
  require disposal.Checked (.order .database)
  let row ← (Orders.dispose order.row true order.creditChain occurredAt).mapError .order
  .ok (row, disposal)

def UnclaimedOrder.Justified (order : UnclaimedOrder) (asOf : Int) : Prop :=
  order.clock = .running ∧ ∃ policy ∈ order.policy, ∃ readyAt ∈ order.row.productionReadyAt,
    Justifies policy readyAt asOf (order.attempts.map ContactAttempt.attemptedAt)
      order.row.storageHolds

variable {order : UnclaimedOrder} {attempts : List ContactAttempt} {asOf : Int}

lemma newestFirst_latest : NewestFirst ((latestFirst attempts).map ContactAttempt.attemptedAt) := by
  refine List.pairwise_map.mpr ((sortBy_sorted _ attempts).imp fun {a b} hle => ?_)
  have hfirst : -a.attemptedAt ≤ -b.attemptedAt := by
    rcases lt_trichotomy (-a.attemptedAt) (-b.attemptedAt) with hlt | heq | hgt
    · exact le_of_lt hlt
    · exact le_of_eq heq
    · exact absurd (List.Lex.rel hgt) (not_lt.mpr hle)
  omega

lemma latest_perm : ((latestFirst attempts).map ContactAttempt.attemptedAt).Perm
    (attempts.map ContactAttempt.attemptedAt) :=
  (sortBy_perm _ attempts).map _

lemma attemptTimes_eq : attemptTimes attempts =
    ((latestFirst attempts).map ContactAttempt.attemptedAt).take attemptTimesLimit := by
  rw [attemptTimes, List.map_take]

lemma clock_running : order.clock = .running ↔
    awaitingPickup order.row.state.commercial order.row.state.production
      order.row.state.fulfillmentMode order.row.state.selfCollectionRecorded = true := by
  rw [UnclaimedOrder.clock, storageClock]
  split_ifs with hawaiting hpaused
  · exact iff_of_true rfl hawaiting
  · exact iff_of_false (fun h => by cases h) hawaiting
  · exact iff_of_false (fun h => by cases h) hawaiting

lemma heldTime_holds {readyAt : Int} (hready : order.row.productionReadyAt = some readyAt) :
    heldTime readyAt asOf order.holds = heldTime readyAt asOf order.row.storageHolds := by
  rw [UnclaimedOrder.holds, hready, heldTime, heldTime, WaitingDays.holdsSince_storageHoldsSql]
  rfl

lemma justifies_holds {policy : DisposalPolicy} {readyAt : Int} {times : List Int}
    (hready : order.row.productionReadyAt = some readyAt) :
    Justifies policy readyAt asOf times order.holds ↔
      Justifies policy readyAt asOf times order.row.storageHolds := by
  constructor
  · exact fun h => ⟨h.ready, h.calendar, heldTime_holds hready ▸ h.waited, h.attempts, h.days⟩
  · exact fun h => ⟨h.ready, h.calendar, (heldTime_holds hready).symm ▸ h.waited, h.attempts, h.days⟩

/-- The shop days of the attempts that are read, since the laundry was ready. -/
def UnclaimedOrder.daysRead (order : UnclaimedOrder) : Nat :=
  shopDays (countedSince order.row.productionReadyAt (attemptTimes order.attempts))

lemma disposeVerdict_allows : Allows (order.disposeVerdict asOf) ↔
    order.Justified asOf ∧ ∀ policy ∈ order.policy, policy.disposalMinAttemptDays ≤ order.daysRead := by
  by_cases hclock : order.clock = .running
  · have hpaused : decide (order.clock = .paused) = false := by
      rw [hclock]
      rfl
    rw [UnclaimedOrder.disposeVerdict, hpaused, disposalVerdict_allows, decide_eq_true_iff,
      UnclaimedOrder.Justified, UnclaimedOrder.daysRead, attemptTimes_eq]
    have hone : ∀ policy readyAt, order.row.productionReadyAt = some readyAt →
        (Justifies policy readyAt asOf (((latestFirst order.attempts).map
            ContactAttempt.attemptedAt).take attemptTimesLimit) order.holds ↔
          Justifies policy readyAt asOf (order.attempts.map ContactAttempt.attemptedAt)
              order.row.storageHolds ∧ policy.disposalMinAttemptDays ≤
            shopDays (countedSince (some readyAt) (((latestFirst order.attempts).map
              ContactAttempt.attemptedAt).take attemptTimesLimit))) := by
      intro policy readyAt hready
      have hlimit : policy.disposalMinAttempts ≤ attemptTimesLimit :=
        policy.attempts_range.2.trans (by decide)
      rw [justifies_holds hready, justifies_newest newestFirst_latest hlimit,
        justifies_perm latest_perm]
    constructor
    · rintro ⟨hrunning, policy, hpolicy, readyAt, hready, h⟩
      obtain ⟨hjust, hdays⟩ := (hone policy readyAt hready).mp h
      refine ⟨⟨hrunning, policy, hpolicy, readyAt, hready, hjust⟩, fun policy' hpolicy' => ?_⟩
      rw [Option.mem_unique hpolicy' hpolicy, hready]
      exact hdays
    · rintro ⟨⟨hrunning, policy, hpolicy, readyAt, hready, hjust⟩, hdays⟩
      refine ⟨hrunning, policy, hpolicy, readyAt, hready, (hone policy readyAt hready).mpr ⟨hjust, ?_⟩⟩
      have hread := hdays policy hpolicy
      rw [hready] at hread
      exact hread
  · constructor
    · rintro ⟨verdict, hverdict, hallowed⟩
      obtain ⟨days, -, hverdict⟩ := bind_ok.mp hverdict
      obtain ⟨clock, -, hverdict⟩ := bind_ok.mp hverdict
      obtain ⟨eligible, -, hverdict⟩ := bind_ok.mp hverdict
      cases hverdict
      rw [DisposalVerdict.allowed, List.isEmpty_iff, List.append_eq_nil_iff, List.append_eq_nil_iff]
        at hallowed
      exact absurd (.inl (decide_eq_false hclock)) (refusedIf_nil.mp hallowed.1.2)
    · exact fun h => absurd h.1.1 hclock

lemma readWait_of_clock {clock : Option WaitingClock}
    (h : clockSince order.row.productionReadyAt asOf order.holds false = .ok clock) :
    WaitingDays.readWait order.row.productionReadyAt order.row.storageHolds asOf = .ok clock := by
  rw [UnclaimedOrder.holds] at h
  cases hready : order.row.productionReadyAt with
  | none =>
    rw [hready] at h
    cases h
    exact (WaitingDays.waiting_days_agree 0 asOf order.row.storageHolds).2.2.2
  | some readyAt =>
    rw [hready] at h
    obtain ⟨running, hrunning, rfl⟩ := map_ok.mp h
    obtain ⟨-, hdays, -⟩ := WaitingDays.waiting_days_agree readyAt asOf order.row.storageHolds
    rw [WaitingDays.readWait, hrunning, mapError_ok.mpr rfl, ok_bind, WaitingDays.requireSameDays,
      hdays running hrunning]
    exact bind_ok.mpr ⟨(), if_pos rfl, rfl⟩

lemma listVerdict_ok (hclock : order.clock = .running) {verdict : DisposalVerdict} :
    order.listVerdict asOf = .ok verdict ↔ order.disposeVerdict asOf = .ok verdict := by
  have hsame : order.disposeVerdict asOf = disposalVerdict order.policy
      (awaitingPickup order.row.state.commercial order.row.state.production
        order.row.state.fulfillmentMode order.row.state.selfCollectionRecorded)
      order.row.productionReadyAt asOf (recentTimes order.attempts) order.holds false := by
    rw [clock_running.mp hclock, UnclaimedOrder.disposeVerdict, hclock,
      disposalVerdict_perm (sortBy_perm id (attemptTimes order.attempts)).symm]
    rfl
  rw [UnclaimedOrder.listVerdict, ← hsame]
  constructor
  · intro h
    obtain ⟨clock, -, h⟩ := bind_ok.mp h
    exact mapError_ok.mp h
  · intro h
    have hverdict := h
    rw [hsame] at h
    obtain ⟨days, -, h⟩ := bind_ok.mp h
    obtain ⟨clock, hread, -⟩ := bind_ok.mp h
    exact bind_ok.mpr ⟨clock, readWait_of_clock hread, mapError_ok.mpr hverdict⟩

end NhaTrangLaundry.Db.Disposals
