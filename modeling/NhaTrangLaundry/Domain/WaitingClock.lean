import Mathlib.Algebra.Order.BigOperators.Group.List
import NhaTrangLaundry.Domain.Unclaimed

/-! The one clock of the customer's lateness: days since the laundry was ready, the time
on hold not counted. -/

namespace NhaTrangLaundry.Domain.Unclaimed

open Lib Outcome Sorting Canonical

structure WaitingClock where
  readyOn : Int
  days : Int
  heldDays : Int
  paused : Bool
  lifted : List (Int × Int)
deriving DecidableEq

/-- The holds since the laundry was last ready, oldest first. -/
def holdsSince (readyAt : Int) (holds : List StorageHold) : List StorageHold :=
  sortBy StorageHold.heldAt (holds.filter fun hold => readyAt ≤ hold.heldAt)

def frozenAt (since : List StorageHold) (paused : Bool) : Option Int :=
  if paused then ((since.filter fun hold => hold.resumedAt.isNone).map StorageHold.heldAt).getLast?
  else none

def liftedUpTo (stop : Int) (hold : StorageHold) : Option (Int × Int) :=
  match hold.resumedAt with
  | none => none
  | some resumedAt =>
    if hold.heldAt < stop then some (hold.heldAt, max hold.heldAt (min resumedAt stop)) else none

def liftedHolds (since : List StorageHold) (stop : Int) : List (Int × Int) :=
  since.filterMap (liftedUpTo stop)

def waitingClock (readyAt asOf : Int) (holds : List StorageHold) (paused : Bool) :
    Except PyException WaitingClock := do
  let since := holdsSince readyAt holds
  let stop := ((frozenAt since paused).map (min asOf)).getD asOf
  let counted := liftedHolds since stop
  let heldTime := (counted.map fun hold => hold.2 - hold.1).sum
  let calendar ← daysWaiting readyAt stop
  require (0 ≤ stop - heldTime) .overflowError
  let days ← daysWaiting readyAt (stop - heldTime)
  let readyOn ← shopDate readyAt
  .ok ⟨readyOn, days, calendar - days, (frozenAt since paused).isSome, counted⟩

variable {readyAt asOf : Int} {holds since : List StorageHold} {paused : Bool} {stop : Int}

lemma sum_liftedHolds : ((liftedHolds since stop).map fun hold => hold.2 - hold.1).sum =
    (since.map fun hold => match hold.resumedAt with
      | some resumedAt => if hold.heldAt < stop then
          max hold.heldAt (min resumedAt stop) - hold.heldAt else 0
      | none => 0).sum := by
  induction since with
  | nil => rfl
  | cons hold since ih =>
    rw [List.map_cons, List.sum_cons, ← ih, liftedHolds, liftedHolds]
    cases hresumed : hold.resumedAt with
    | none => simp [liftedUpTo, hresumed]
    | some resumedAt =>
      by_cases hbegun : hold.heldAt < stop
      · simp [liftedUpTo, hresumed, hbegun]
      · simp [liftedUpTo, hresumed, hbegun]

lemma shopDate_ok {moment day : Int} : shopDate moment = .ok day ↔
    (0 ≤ moment + shopOffset ∧ moment + shopOffset < wallLimit) ∧
      day = (moment + shopOffset) / dayMicros := by
  rw [shopDate]
  constructor
  · intro h
    obtain ⟨_, hin, h⟩ := bind_ok.mp h
    cases h
    exact ⟨require_ok.mp hin, rfl⟩
  · rintro ⟨hin, rfl⟩
    rw [require_true hin]
    rfl

lemma daysWaiting_ok {moment days : Int} : daysWaiting readyAt moment = .ok days ↔
    (0 ≤ moment + shopOffset ∧ moment + shopOffset < wallLimit) ∧
      (0 ≤ readyAt + shopOffset ∧ readyAt + shopOffset < wallLimit) ∧
      days = max 0 ((moment + shopOffset) / dayMicros - (readyAt + shopOffset) / dayMicros) := by
  rw [daysWaiting]
  constructor
  · intro h
    obtain ⟨today, htoday, h⟩ := bind_ok.mp h
    obtain ⟨ready, hready, h⟩ := bind_ok.mp h
    cases h
    obtain ⟨hin, rfl⟩ := shopDate_ok.mp htoday
    obtain ⟨hin', rfl⟩ := shopDate_ok.mp hready
    exact ⟨hin, hin', rfl⟩
  · rintro ⟨hin, hin', rfl⟩
    rw [shopDate_ok.mpr ⟨hin, rfl⟩, ok_bind, shopDate_ok.mpr ⟨hin', rfl⟩]
    rfl

/-- The time the holds took from a clock that reads to `asOf`. -/
def heldTime (readyAt asOf : Int) (holds : List StorageHold) : Int :=
  ((liftedHolds (holdsSince readyAt holds) asOf).map fun hold => hold.2 - hold.1).sum

lemma heldTime_nonneg : 0 ≤ heldTime readyAt asOf holds := by
  refine List.sum_nonneg fun held hmem => ?_
  obtain ⟨lifted, hlifted, rfl⟩ := List.mem_map.mp hmem
  obtain ⟨hold, -, hhold⟩ := List.mem_filterMap.mp hlifted
  rw [liftedUpTo] at hhold
  split at hhold
  · cases hhold
  · split_ifs at hhold
    cases hhold
    exact Int.sub_nonneg_of_le (le_max_left _ _)

lemma waitingClock_running {clock : WaitingClock} :
    waitingClock readyAt asOf holds false = .ok clock ↔
      (0 ≤ readyAt + shopOffset ∧ readyAt + shopOffset < wallLimit) ∧
      (0 ≤ asOf + shopOffset ∧ asOf + shopOffset < wallLimit) ∧
      0 ≤ asOf - heldTime readyAt asOf holds ∧
      clock = ⟨(readyAt + shopOffset) / dayMicros,
        max 0 ((asOf - heldTime readyAt asOf holds + shopOffset) / dayMicros -
          (readyAt + shopOffset) / dayMicros),
        max 0 ((asOf + shopOffset) / dayMicros - (readyAt + shopOffset) / dayMicros) -
          max 0 ((asOf - heldTime readyAt asOf holds + shopOffset) / dayMicros -
            (readyAt + shopOffset) / dayMicros),
        false, liftedHolds (holdsSince readyAt holds) asOf⟩ := by
  have hclock : waitingClock readyAt asOf holds false = (do
      let calendar ← daysWaiting readyAt asOf
      require (0 ≤ asOf - heldTime readyAt asOf holds) .overflowError
      let days ← daysWaiting readyAt (asOf - heldTime readyAt asOf holds)
      let readyOn ← shopDate readyAt
      .ok ⟨readyOn, days, calendar - days, false, liftedHolds (holdsSince readyAt holds) asOf⟩) := rfl
  have hnonneg : 0 ≤ heldTime readyAt asOf holds := heldTime_nonneg
  have hoffset : 0 ≤ shopOffset := by decide
  rw [hclock]
  constructor
  · intro h
    obtain ⟨calendar, hcalendar, h⟩ := bind_ok.mp h
    obtain ⟨_, hroom, h⟩ := bind_ok.mp h
    obtain ⟨days, hdays, h⟩ := bind_ok.mp h
    obtain ⟨readyOn, hready, h⟩ := bind_ok.mp h
    obtain ⟨hasOf, hin, rfl⟩ := daysWaiting_ok.mp hcalendar
    obtain ⟨-, -, rfl⟩ := daysWaiting_ok.mp hdays
    obtain ⟨-, rfl⟩ := shopDate_ok.mp hready
    cases h
    exact ⟨hin, hasOf, require_ok.mp hroom, rfl⟩
  · rintro ⟨hready, hasOf, hroom, rfl⟩
    have hread : 0 ≤ asOf - heldTime readyAt asOf holds + shopOffset ∧
        asOf - heldTime readyAt asOf holds + shopOffset < wallLimit := by omega
    rw [daysWaiting_ok.mpr ⟨hasOf, hready, rfl⟩, ok_bind, require_true hroom, ok_bind,
      daysWaiting_ok.mpr ⟨hread, hready, rfl⟩, ok_bind, shopDate_ok.mpr ⟨hready, rfl⟩]
    rfl

lemma days_from (stop held : Int) (frozen : Bool) (lifted : List (Int × Int)) :
    (do
      let _calendar ← daysWaiting readyAt stop
      require (0 ≤ stop - held) .overflowError
      daysWaiting readyAt (stop - held)) =
    (do
      let calendar ← daysWaiting readyAt stop
      require (0 ≤ stop - held) .overflowError
      let days ← daysWaiting readyAt (stop - held)
      let readyOn ← shopDate readyAt
      .ok (⟨readyOn, days, calendar - days, frozen, lifted⟩ : WaitingClock)).map WaitingClock.days := by
  cases hcalendar : daysWaiting readyAt stop with
  | error e => rfl
  | ok calendar =>
    rw [ok_bind, ok_bind]
    by_cases hroom : 0 ≤ stop - held
    · rw [require_true hroom, ok_bind, ok_bind]
      cases hdays : daysWaiting readyAt (stop - held) with
      | error e => rfl
      | ok days =>
        have hready := (daysWaiting_ok.mp hdays).2.1
        rw [ok_bind, shopDate_ok.mpr ⟨hready, rfl⟩]
        rfl
    · rw [require_false hroom]
      rfl

/-- The fee counts by the days of the clock. -/
theorem countedDays_eq : countedDays readyAt asOf holds paused =
    (waitingClock readyAt asOf holds paused).map WaitingClock.days := by
  rw [waitingClock, frozenAt, ← days_from, sum_liftedHolds, countedDays, ← holdsSince]
  generalize (((holdsSince readyAt holds).filter fun hold => hold.resumedAt.isNone).map
    StorageHold.heldAt).getLast? = opened
  cases opened with
  | none => cases paused <;> rfl
  | some heldAt => cases paused <;> rfl

end NhaTrangLaundry.Domain.Unclaimed
