import NhaTrangLaundry.Domain.WaitingClock

/-! The day count of the waiting reads, as their statement computes it, and as the clock
does from the holds the same row carries. -/

namespace NhaTrangLaundry.Db.WaitingDays

open Lib Outcome Sorting Domain.Canonical Domain.Unclaimed

/-- `STORAGE_HOLDS_SQL`: the order's holds since it was last ready, oldest first. -/
def storageHoldsSql (rows : List StorageHold) (readyAt : Int) : List StorageHold :=
  sortBy StorageHold.heldAt (rows.filter fun h => readyAt ≤ h.heldAt)

/-- `greatest(interval '0', least(h.resumed_at, as_of) - h.held_at)` of a row of
`_HELD_TIME_SQL`, whose predicate leaves the others out. -/
def heldOf (readyAt asOf : Int) (h : StorageHold) : Option Int :=
  match h.resumedAt with
  | none => none
  | some resumedAt =>
    if readyAt ≤ h.heldAt ∧ h.heldAt < asOf then some (max 0 (min resumedAt asOf - h.heldAt)) else none

def heldTimeSql (rows : List StorageHold) (readyAt asOf : Int) : Int :=
  (rows.filterMap (heldOf readyAt asOf)).sum

def shopDaySql (moment : Int) : Int := (moment + shopOffset) / dayMicros

def waitingDaysSql (productionReadyAt : Option Int) (rows : List StorageHold) (asOf : Int) :
    Option Int :=
  productionReadyAt.map fun readyAt =>
    max 0 (shopDaySql (asOf - heldTimeSql rows readyAt asOf) - shopDaySql readyAt)

inductive WaitingFailure where
  | waitingCountDisagrees
  | clock (e : PyException)
deriving DecidableEq

def requireSameDays (sqlDays : Option Int) (clock : Option WaitingClock) : Except WaitingFailure Unit :=
  if sqlDays = clock.map WaitingClock.days then .ok () else .error .waitingCountDisagrees

/-- A row of a waiting read: its clock, and the check against the statement's count. -/
def readWait (productionReadyAt : Option Int) (rows : List StorageHold) (asOf : Int) :
    Except WaitingFailure (Option WaitingClock) :=
  match productionReadyAt with
  | none => do
    requireSameDays (waitingDaysSql none rows asOf) none
    .ok none
  | some readyAt => do
    let clock ← (waitingClock readyAt asOf (storageHoldsSql rows readyAt) false).mapError .clock
    requireSameDays (waitingDaysSql (some readyAt) rows asOf) (some clock)
    .ok (some clock)

/-- The ready time, the instant read at, and that instant less the time held are on days
of the calendar. -/
def InCalendar (rows : List StorageHold) (readyAt asOf : Int) : Prop :=
  (0 ≤ readyAt + shopOffset ∧ readyAt + shopOffset < wallLimit) ∧
    (0 ≤ asOf + shopOffset ∧ asOf + shopOffset < wallLimit) ∧
    0 ≤ asOf - heldTimeSql rows readyAt asOf

variable {rows : List StorageHold} {readyAt asOf : Int}

lemma holdsSince_storageHoldsSql :
    holdsSince readyAt (storageHoldsSql rows readyAt) = storageHoldsSql rows readyAt := by
  rw [holdsSince]
  have hall : (storageHoldsSql rows readyAt).filter (fun h => readyAt ≤ h.heldAt) =
      storageHoldsSql rows readyAt := by
    refine List.filter_eq_self.mpr fun h hmem => ?_
    exact (List.mem_filter.mp (mem_sortBy.mp hmem)).2
  rw [hall]
  exact sortBy_idem _ _

lemma clamp_eq (resumedAt heldAt asOf : Int) :
    max heldAt (min resumedAt asOf) - heldAt = max 0 (min resumedAt asOf - heldAt) := by
  omega

lemma heldTime_eq_sql :
    heldTime readyAt asOf (storageHoldsSql rows readyAt) = heldTimeSql rows readyAt asOf := by
  rw [heldTime, holdsSince_storageHoldsSql]
  have hsorted : ((liftedHolds (storageHoldsSql rows readyAt) asOf).map fun hold => hold.2 - hold.1).sum =
      ((liftedHolds (rows.filter fun h => readyAt ≤ h.heldAt) asOf).map
        fun hold => hold.2 - hold.1).sum :=
    (((sortBy_perm _ _).filterMap _).map _).sum_eq
  rw [hsorted, heldTimeSql]
  clear hsorted
  induction rows with
  | nil => rfl
  | cons h rows ih =>
    rw [liftedHolds] at ih ⊢
    by_cases hsince : readyAt ≤ h.heldAt
    · rw [List.filter_cons_of_pos (by simpa using hsince)]
      cases hresumed : h.resumedAt with
      | none => simpa [liftedUpTo, heldOf, hresumed] using ih
      | some resumedAt =>
        by_cases hbegun : h.heldAt < asOf
        · simpa [liftedUpTo, heldOf, hresumed, hsince, hbegun, clamp_eq] using ih
        · simpa [liftedUpTo, heldOf, hresumed, hsince, hbegun] using ih
    · rw [List.filter_cons_of_neg (by simpa using hsince)]
      cases hresumed : h.resumedAt with
      | none => simpa [heldOf, hresumed] using ih
      | some resumedAt => simpa [heldOf, hresumed, hsince] using ih

/-- The running clock reads the statement's count, as long as the calendar has its days;
the check of the two never refuses. -/
theorem waiting_days_agree (readyAt asOf : Int) (rows : List StorageHold) :
    ((∃ clock, waitingClock readyAt asOf (storageHoldsSql rows readyAt) false = .ok clock) ↔
      InCalendar rows readyAt asOf) ∧
    (∀ clock, waitingClock readyAt asOf (storageHoldsSql rows readyAt) false = .ok clock →
      waitingDaysSql (some readyAt) rows asOf = some clock.days) ∧
    readWait (some readyAt) rows asOf ≠ .error .waitingCountDisagrees ∧
    readWait none rows asOf = .ok none := by
  have hdays : ∀ clock, waitingClock readyAt asOf (storageHoldsSql rows readyAt) false = .ok clock →
      waitingDaysSql (some readyAt) rows asOf = some clock.days := by
    intro clock hclock
    obtain ⟨-, -, -, rfl⟩ := waitingClock_running.mp hclock
    rw [heldTime_eq_sql]
    rfl
  refine ⟨⟨?_, ?_⟩, hdays, ?_, rfl⟩
  · rintro ⟨clock, hclock⟩
    obtain ⟨hready, hasOf, hroom, -⟩ := waitingClock_running.mp hclock
    rw [heldTime_eq_sql] at hroom
    exact ⟨hready, hasOf, hroom⟩
  · rintro ⟨hready, hasOf, hroom⟩
    rw [← heldTime_eq_sql] at hroom
    exact ⟨_, waitingClock_running.mpr ⟨hready, hasOf, hroom, rfl⟩⟩
  · rw [readWait]
    cases hclock : waitingClock readyAt asOf (storageHoldsSql rows readyAt) false with
    | error e =>
      intro h
      cases h
    | ok clock =>
      have hsame : requireSameDays (waitingDaysSql (some readyAt) rows asOf) (some clock) = .ok () := by
        rw [requireSameDays, hdays clock hclock]
        exact if_pos rfl
      rw [mapError_ok.mpr rfl, ok_bind, hsame]
      intro h
      cases h

/-- Two overlapping holds can take more time out than the calendar has. -/
theorem overlapping_holds_overflow :
    waitingClock dayMicros (739500 * dayMicros)
        (storageHoldsSql [⟨dayMicros, some (739500 * dayMicros)⟩, ⟨dayMicros, some (739500 * dayMicros)⟩]
          dayMicros) false = .error .overflowError ∧
      waitingDaysSql (some dayMicros)
        [⟨dayMicros, some (739500 * dayMicros)⟩, ⟨dayMicros, some (739500 * dayMicros)⟩]
        (739500 * dayMicros) = some 0 := by
  decide

end NhaTrangLaundry.Db.WaitingDays
