import NhaTrangLaundry.Domain.UnheldTime

/-! The first day of the storage fee, as the customer is told it, against the fee that is
charged. -/

namespace NhaTrangLaundry.Domain.Unclaimed

open Lib Outcome Sorting Canonical Settlement

/-- The shop day on which the count first reads `day`. -/
def WaitingClock.fallsOn (clock : WaitingClock) (day : Int) : Except PyException (Option Int) := do
  let reached ← clock.reaches day
  match reached with
  | none => .ok none
  | some reached => some <$> shopDate reached

def feeStartsOn (clock : WaitingClock) (policy : StoragePolicy) : Except PyException Int := do
  let starts ← clock.fallsOn (policy.freeDays + 1)
  ofOption (.valueError "laundry on hold has no fee day yet") starts

variable {readyAt asOf stop t u candidate next : Int} {holds since further : List StorageHold}
  {hold : StorageHold} {paused frozen : Bool} {clock : WaitingClock} {policy : StoragePolicy}

lemma feeStartsOn_ok {day : Int} : feeStartsOn clock policy = .ok day ↔ ∃ reached,
    clock.reaches (policy.freeDays + 1) = .ok (some reached) ∧ shopDate reached = .ok day := by
  rw [feeStartsOn, WaitingClock.fallsOn]
  constructor
  · intro h
    obtain ⟨starts, hstarts, h⟩ := bind_ok.mp h
    obtain ⟨reached, hreached, hstarts⟩ := bind_ok.mp hstarts
    cases reached with
    | none =>
      cases hstarts
      cases h
    | some reached =>
      obtain ⟨day', hday', hsome⟩ := map_ok.mp hstarts
      cases hsome
      cases h
      exact ⟨reached, hreached, hday'⟩
  · rintro ⟨reached, hreached, hday⟩
    rw [hreached, ok_bind]
    dsimp only
    rw [hday]
    rfl

lemma le_pastHold {held : Int × Int} (hheld : held.1 ≤ held.2)
    (h : pastHold candidate held = .ok next) :
    candidate ≤ next ∧ next ≤ candidate + (held.2 - held.1) ∧
      (candidate + shopOffset < wallLimit → next + shopOffset < wallLimit) := by
  rw [pastHold_ok] at h
  split_ifs at h with hbefore
  · obtain ⟨hroom, rfl⟩ := h
    exact ⟨by omega, le_refl _, fun _ => hroom⟩
  · subst h
    exact ⟨le_refl _, by omega, id⟩

lemma foldlM_pastHold_bounds {lifted : List (Int × Int)} (hlifted : ∀ held ∈ lifted, held.1 ≤ held.2)
    (h : lifted.foldlM pastHold candidate = .ok next) :
    candidate ≤ next ∧ next ≤ candidate + (lifted.map fun held => held.2 - held.1).sum := by
  induction lifted generalizing candidate with
  | nil =>
    cases h
    exact ⟨le_refl _, by simp⟩
  | cons held lifted ih =>
    rw [List.foldlM_cons] at h
    obtain ⟨middle, hmiddle, h⟩ := bind_ok.mp h
    obtain ⟨hle, hle', -⟩ := le_pastHold (hlifted held List.mem_cons_self) hmiddle
    obtain ⟨hrest, hrest'⟩ := ih (fun held' hmem => hlifted held' (List.mem_cons_of_mem held hmem)) h
    rw [List.map_cons, List.sum_cons]
    exact ⟨by omega, by omega⟩

/-- The hold is over by `t`. -/
def Lifted (t : Int) (hold : StorageHold) : Prop :=
  ∃ resumedAt ∈ hold.resumedAt, hold.heldAt ≤ resumedAt ∧ resumedAt ≤ t

lemma taken_lifted (h : Lifted t hold) (htu : t ≤ u) : taken u hold = taken t hold := by
  obtain ⟨resumedAt, hresumed, -, hle⟩ := h
  rw [Option.mem_def] at hresumed
  rw [taken, taken, hresumed]
  dsimp only
  omega

lemma heldTime_lifted (hlifted : ∀ hold ∈ holds, Lifted t hold) (htu : t ≤ u) :
    heldTime readyAt u holds = heldTime readyAt t holds := by
  rw [heldTime_eq, heldTime_eq]
  exact congrArg List.sum (List.map_congr_left fun hold hmem =>
    taken_lifted (hlifted hold (List.mem_of_mem_filter hmem)) htu)

lemma foldlM_pastHold_lifted (hlifted : ∀ hold ∈ since, Lifted t hold) (htu : t ≤ u)
    (hroom : candidate + shopOffset < wallLimit) :
    (liftedHolds since u).foldlM pastHold candidate =
      (liftedHolds since t).foldlM pastHold candidate := by
  induction since generalizing candidate with
  | nil => rfl
  | cons hold since ih =>
    have hrest := fun {candidate} => @ih candidate fun hold' hmem =>
      hlifted hold' (List.mem_cons_of_mem hold hmem)
    obtain ⟨resumedAt, hresumed, hheld, hover⟩ := hlifted hold List.mem_cons_self
    rw [Option.mem_def] at hresumed
    by_cases hbegun : hold.heldAt < t
    · have hat : ∀ stop, t ≤ stop → liftedUpTo stop hold = some (hold.heldAt, resumedAt) := by
        intro stop hstop
        have hend : max hold.heldAt (min resumedAt stop) = resumedAt := by omega
        rw [liftedUpTo, hresumed]
        dsimp only
        rw [if_pos (by omega), hend]
      rw [liftedHolds, liftedHolds, List.filterMap_cons_some (hat u htu),
        List.filterMap_cons_some (hat t (le_refl t)), List.foldlM_cons, List.foldlM_cons]
      cases hnext : pastHold candidate (hold.heldAt, resumedAt) with
      | error e => rfl
      | ok next =>
        rw [ok_bind, ok_bind]
        exact hrest ((le_pastHold hheld hnext).2.2 hroom)
    · -- a hold lifted as it began, at `t` itself, takes no time
      have hnone : liftedUpTo t hold = none := by
        rw [liftedUpTo, hresumed]
        exact if_neg hbegun
      rw [liftedHolds, liftedHolds, List.filterMap_cons_none hnone]
      cases hlater : liftedUpTo u hold with
      | none =>
        rw [List.filterMap_cons_none hlater]
        exact hrest hroom
      | some held =>
        have hempty : held.1 = held.2 := by
          rw [liftedUpTo, hresumed] at hlater
          dsimp only at hlater
          split_ifs at hlater
          cases hlater
          dsimp only
          omega
        have hstays : pastHold candidate held = .ok candidate := by
          rw [pastHold_ok]
          split_ifs <;> omega
        rw [List.filterMap_cons_some hlater, List.foldlM_cons, hstays, ok_bind]
        exact hrest hroom

lemma clockTo_days (h : clockTo readyAt stop (holdsSince readyAt holds) frozen = .ok clock) :
    clock.days = (runningClock readyAt stop holds).days := by
  obtain ⟨calendar, -, h⟩ := bind_ok.mp h
  obtain ⟨_, -, h⟩ := bind_ok.mp h
  obtain ⟨days, hdays, h⟩ := bind_ok.mp h
  obtain ⟨readyOn, -, h⟩ := bind_ok.mp h
  cases h
  exact (daysWaiting_ok.mp hdays).2.2

/-- The end of the clock: the moment it is read, or the start of an open hold before it. -/
def clockEnd (readyAt asOf : Int) (holds : List StorageHold) (paused : Bool) : Int :=
  ((frozenAt (holdsSince readyAt holds) paused).map (min asOf)).getD asOf

def HeldFits (readyAt asOf : Int) (holds : List StorageHold) (paused : Bool) : Prop :=
  heldTime readyAt (clockEnd readyAt asOf holds paused) holds ≤ clockEnd readyAt asOf holds paused

lemma clockEnd_le : clockEnd readyAt u holds paused ≤ u := by
  rw [clockEnd]
  cases frozenAt (holdsSince readyAt holds) paused with
  | none => exact le_refl u
  | some heldAt => exact min_le_left u heldAt

lemma clockEnd_cases : clockEnd readyAt u holds paused = u ∨
    ∃ hold ∈ holds, hold.resumedAt = none ∧ clockEnd readyAt u holds paused = hold.heldAt := by
  rw [clockEnd]
  cases hfrozen : frozenAt (holdsSince readyAt holds) paused with
  | none => exact .inl rfl
  | some heldAt =>
    rw [frozenAt] at hfrozen
    split_ifs at hfrozen
    obtain ⟨hold, hmem, rfl⟩ := List.mem_map.mp (List.mem_of_getLast? hfrozen)
    obtain ⟨hsince, hopen⟩ := List.mem_filter.mp hmem
    have hin : hold ∈ holds := by
      rw [holdsSince, mem_sortBy] at hsince
      exact List.mem_of_mem_filter hsince
    rw [Option.map_some, Option.getD_some]
    rcases le_total u hold.heldAt with hbefore | hafter
    · exact .inl (min_eq_left hbefore)
    · exact .inr ⟨hold, hin, by simpa using hopen, min_eq_right hafter⟩

lemma days_of_waitingClock (h : waitingClock readyAt u holds paused = .ok clock) :
    clock.days = (runningClock readyAt (clockEnd readyAt u holds paused) holds).days := by
  rw [waitingClock_eq_clockTo] at h
  exact clockTo_days h

lemma clockTo_returns : (∃ clock, clockTo readyAt stop (holdsSince readyAt holds) frozen = .ok clock) ↔
    (0 ≤ readyAt + shopOffset ∧ readyAt + shopOffset < wallLimit) ∧
      (0 ≤ stop + shopOffset ∧ stop + shopOffset < wallLimit) ∧
      heldTime readyAt stop holds ≤ stop := by
  have hrunning : clockTo readyAt stop (holdsSince readyAt holds) false =
      waitingClock readyAt stop holds false := rfl
  have hfalse : (∃ clock, clockTo readyAt stop (holdsSince readyAt holds) false = .ok clock) ↔
      (0 ≤ readyAt + shopOffset ∧ readyAt + shopOffset < wallLimit) ∧
        (0 ≤ stop + shopOffset ∧ stop + shopOffset < wallLimit) ∧
        heldTime readyAt stop holds ≤ stop := by
    rw [hrunning]
    constructor
    · rintro ⟨clock, hclock⟩
      obtain ⟨hready, hstop, hfits, -⟩ := waitingClock_running.mp hclock
      exact ⟨hready, hstop, by omega⟩
    · rintro ⟨hready, hstop, hfits⟩
      exact ⟨_, waitingClock_running.mpr ⟨hready, hstop, by omega, rfl⟩⟩
  cases frozen with
  | false => exact hfalse
  | true =>
    rw [← hfalse, clockTo_frozen]
    constructor
    · rintro ⟨clock, hclock⟩
      obtain ⟨running, hrun, -⟩ := map_ok.mp hclock
      exact ⟨running, hrun⟩
    · rintro ⟨running, hrun⟩
      exact ⟨_, map_ok.mpr ⟨running, hrun, rfl⟩⟩

lemma waitingClock_returns : (∃ clock, waitingClock readyAt u holds paused = .ok clock) ↔
    (0 ≤ readyAt + shopOffset ∧ readyAt + shopOffset < wallLimit) ∧
      (0 ≤ clockEnd readyAt u holds paused + shopOffset ∧
        clockEnd readyAt u holds paused + shopOffset < wallLimit) ∧
      HeldFits readyAt u holds paused := by
  rw [waitingClock_eq_clockTo, clockTo_returns]
  exact Iff.rfl

lemma storageFee_ok {total : Int} {fee : StorageFee}
    (h : storageFee policy readyAt u total holds paused = .ok fee) : 0 ≤ total ∧
      ∃ clock, waitingClock readyAt u holds paused = .ok clock ∧
        fee.chargeableDays = max 0 (clock.days - policy.freeDays) ∧
        fee.amountVnd = min (fee.chargeableDays * policy.feePerStartedDayVnd)
          (total * policy.feeCapPercent / 100) := by
  obtain ⟨_, hwhole, h⟩ := bind_ok.mp h
  obtain ⟨waited, hwaited, h⟩ := bind_ok.mp h
  cases h
  rw [countedDays_eq] at hwaited
  cases hclock : waitingClock readyAt u holds paused with
  | error e => rw [hclock] at hwaited; cases hwaited
  | ok clock =>
    rw [hclock] at hwaited
    cases hwaited
    exact ⟨(require_ok.mp hwhole).1, clock, rfl, rfl, rfl⟩

lemma storageFee_returns {total : Int} :
    (∃ fee, storageFee policy readyAt u total holds paused = .ok fee) ↔
      wholeVnd total ∧ ∃ clock, waitingClock readyAt u holds paused = .ok clock := by
  constructor
  · rintro ⟨fee, hfee⟩
    obtain ⟨_, hwhole, -⟩ := bind_ok.mp hfee
    obtain ⟨-, clock, hclock, -⟩ := storageFee_ok hfee
    exact ⟨require_ok.mp hwhole, clock, hclock⟩
  · rintro ⟨hwhole, clock, hclock⟩
    rw [storageFee, require_true hwhole, ok_bind, countedDays_eq, hclock]
    exact ⟨_, rfl⟩

lemma heldTime_append : heldTime readyAt asOf (holds ++ further) =
    heldTime readyAt asOf holds + heldTime readyAt asOf further := by
  rw [heldTime_eq, heldTime_eq, heldTime_eq, List.filter_append, List.map_append, List.sum_append]

/-- At `t` the laundry waits, no hold open, within its free days; the fee is said to start
on `day`. -/
structure Told (policy : StoragePolicy) (readyAt t : Int) (holds : List StorageHold) (day : Int) :
    Prop where
  lifted : ∀ hold ∈ holds, Lifted t hold
  waits : readyAt ≤ t
  told : ∃ clock, waitingClock readyAt t holds false = .ok clock ∧
    clock.days ≤ policy.freeDays ∧ feeStartsOn clock policy = .ok day

lemma Told.instant {day : Int} (h : Told policy readyAt t holds day) : ∃ reached,
    dayStart ((readyAt + shopOffset) / dayMicros + (policy.freeDays + 1)) + shopOffset < wallLimit ∧
      (liftedHolds (holdsSince readyAt holds) t).foldlM pastHold
        (dayStart ((readyAt + shopOffset) / dayMicros + (policy.freeDays + 1))) = .ok reached ∧
      day = (reached + shopOffset) / dayMicros := by
  have hfree := policy.freeDays_range.1
  obtain ⟨clock, hclock, -, hday⟩ := h.told
  obtain ⟨-, -, -, rfl⟩ := waitingClock_running.mp hclock
  obtain ⟨reached, hreached, hdate⟩ := feeStartsOn_ok.mp hday
  obtain ⟨hroom, hfold⟩ := (@reaches_running readyAt t holds _ _ (by omega)).mp hreached
  exact ⟨reached, hroom, hfold, (shopDate_ok.mp hdate).2⟩

lemma lifted_since (h : ∀ hold ∈ holds, Lifted t hold) :
    ∀ hold ∈ holdsSince readyAt holds, Lifted t hold := by
  intro hold hmem
  rw [holdsSince, mem_sortBy] at hmem
  exact h hold (List.mem_of_mem_filter hmem)

lemma reached_le {reached : Int} (h : (liftedHolds (holdsSince readyAt holds) t).foldlM pastHold
    candidate = .ok reached) : reached ≤ candidate + heldTime readyAt t holds := by
  refine (foldlM_pastHold_bounds (fun held hmem => ?_) h).2
  exact (mem_liftedHolds hmem).2.1

lemma Told.calendar {day : Int} (h : Told policy readyAt t holds day) :
    (0 ≤ readyAt + shopOffset ∧ readyAt + shopOffset < wallLimit) ∧
      0 ≤ t + shopOffset ∧ heldTime readyAt t holds ≤ t := by
  obtain ⟨clock, hclock, -, -⟩ := h.told
  obtain ⟨hready, hread, hfits, -⟩ := waitingClock_running.mp hclock
  exact ⟨hready, hread.1, by omega⟩

/-- A hold that is still open began at `t` or later, so the clock reads past the holds of then. -/
lemma Told.le_clockEnd {day : Int} (h : Told policy readyAt t holds day) (htu : t ≤ u)
    (hfurther : ∀ hold ∈ further, t ≤ hold.heldAt) :
    t ≤ clockEnd readyAt u (holds ++ further) paused := by
  rcases @clockEnd_cases readyAt u (holds ++ further) paused with hend | ⟨hold, hmem, hopen, hend⟩
  · rw [hend]
    exact htu
  · rw [hend]
    rcases List.mem_append.mp hmem with hmem | hmem
    · obtain ⟨resumedAt, hresumed, -⟩ := h.lifted hold hmem
      rw [hopen] at hresumed
      cases hresumed
    · exact hfurther hold hmem

lemma heldTime_further (hfurther : ∀ hold ∈ further, t ≤ hold.heldAt) :
    heldTime readyAt t further = 0 := by
  rw [heldTime_eq]
  refine List.sum_eq_zero fun time htime => ?_
  obtain ⟨hold, hmem, rfl⟩ := List.mem_map.mp htime
  have hlater := hfurther hold (List.mem_of_mem_filter hmem)
  rw [taken]
  cases hold.resumedAt with
  | none => rfl
  | some resumedAt =>
    dsimp only
    omega

/-- Further holds that do not meet never take more than the time since `t`. -/
lemma Told.heldFits {day : Int} (h : Told policy readyAt t holds day) (htu : t ≤ u)
    (hfurther : ∀ hold ∈ further, t ≤ hold.heldAt) (hapart : Apart further) :
    HeldFits readyAt u (holds ++ further) paused := by
  have hlater : t ≤ clockEnd readyAt u (holds ++ further) paused := h.le_clockEnd htu hfurther
  have hsame := @heldTime_lifted readyAt t _ holds h.lifted hlater
  have hstep := @heldTime_step readyAt _ _ further hapart hlater
  have hfits := h.calendar.2.2
  rw [heldTime_further hfurther] at hstep
  rw [HeldFits, heldTime_append]
  omega

lemma Told.reads {day today : Int} (h : Told policy readyAt t holds day) (htu : t ≤ u)
    (hfurther : ∀ hold ∈ further, t ≤ hold.heldAt) (htoday : shopDate u = .ok today) :
    (∃ clock, waitingClock readyAt u (holds ++ further) paused = .ok clock) ↔
      HeldFits readyAt u (holds ++ further) paused := by
  have hlater : t ≤ clockEnd readyAt u (holds ++ further) paused := h.le_clockEnd htu hfurther
  have hend : clockEnd readyAt u (holds ++ further) paused ≤ u := clockEnd_le
  obtain ⟨hready, hzero, -⟩ := h.calendar
  obtain ⟨hu, -⟩ := shopDate_ok.mp htoday
  rw [waitingClock_returns]
  constructor
  · rintro ⟨-, -, hfits⟩
    exact hfits
  · intro hfits
    exact ⟨hready, ⟨by omega, by omega⟩, hfits⟩

lemma Told.no_fee {day total today : Int} {fee : StorageFee}
    (h : Told policy readyAt t holds day) (htu : t ≤ u) (hfurther : ∀ hold ∈ further, t ≤ hold.heldAt)
    (htoday : shopDate u = .ok today) (hbefore : today < day)
    (hfee : storageFee policy readyAt u total (holds ++ further) paused = .ok fee) :
    fee.chargeableDays = 0 ∧ fee.amountVnd = 0 := by
  have hpos : (0 : Int) < dayMicros := by decide
  have hfree := policy.freeDays_range.1
  obtain ⟨htotal, clock, hclock, hchargeable, hamount⟩ := storageFee_ok hfee
  obtain ⟨reached, -, hreached, rfl⟩ := h.instant
  have hdays := days_of_waitingClock hclock
  have hstop : clockEnd readyAt u (holds ++ further) paused ≤ u := clockEnd_le
  have hlater : t ≤ clockEnd readyAt u (holds ++ further) paused := h.le_clockEnd htu hfurther
  obtain ⟨-, rfl⟩ := shopDate_ok.mp htoday
  generalize clockEnd readyAt u (holds ++ further) paused = stop at hdays hstop hlater
  have hzero : clock.days ≤ policy.freeDays := by
    by_contra hover
    rw [not_le, hdays] at hover
    have hcome := (@le_days_iff readyAt stop (holds ++ further) (policy.freeDays + 1) (by omega)).mp
      (by omega)
    have hheld := reached_le hreached
    have hsame := @heldTime_lifted readyAt t stop holds h.lifted hlater
    have hmore : 0 ≤ heldTime readyAt stop further := heldTime_nonneg
    rw [heldTime_append] at hcome
    have hsoon : reached + shopOffset ≤ u + shopOffset := by omega
    have hdate := Int.ediv_le_ediv hpos hsoon
    omega
  have hnone : fee.chargeableDays = 0 := by omega
  refine ⟨hnone, ?_⟩
  have hcap : 0 ≤ total * policy.feeCapPercent / 100 :=
    Int.ediv_nonneg (Int.mul_nonneg htotal (by have := policy.percent_range.1; omega)) (by decide)
  rw [hamount, hnone, Int.zero_mul]
  exact min_eq_left hcap

lemma Told.charged {day total today : Int} {fee : StorageFee}
    (h : Told policy readyAt t holds day) (hapart : Apart holds) (htu : t ≤ u)
    (htoday : shopDate u = .ok today) (hafter : day < today)
    (hfee : storageFee policy readyAt u total holds false = .ok fee) : 1 ≤ fee.chargeableDays := by
  have hpos : (0 : Int) < dayMicros := by decide
  have hfree := policy.freeDays_range.1
  obtain ⟨-, clock, hclock, hchargeable, -⟩ := storageFee_ok hfee
  obtain ⟨-, hasOf, -, rfl⟩ := waitingClock_running.mp hclock
  obtain ⟨reached, hroom, hreached, rfl⟩ := h.instant
  obtain ⟨-, rfl⟩ := shopDate_ok.mp htoday
  have hcome : reached ≤ u := by
    by_contra hlater
    have hdate := Int.ediv_le_ediv hpos (show u + shopOffset ≤ reached + shopOffset by omega)
    omega
  have hsince := @lifted_since readyAt t holds h.lifted
  have hreachedLater := foldlM_pastHold_lifted hsince htu hroom
  have hreaches := (reaches_iff hapart hasOf.2 (d := policy.freeDays + 1) (by omega)).mp
    ⟨reached, (reaches_running (by omega)).mpr ⟨hroom, hreachedLater.trans hreached⟩, hcome⟩
  have hdays := (@le_days_iff readyAt u holds (policy.freeDays + 1) (by omega)).mpr hreaches
  rw [runningClock] at hdays
  dsimp only at hdays hchargeable
  omega

lemma Told.later {day day' : Int} (h : Told policy readyAt t holds day) (htu : t ≤ u)
    (hfurther : ∀ hold ∈ further, t ≤ hold.heldAt)
    (hclock : waitingClock readyAt u (holds ++ further) false = .ok clock)
    (hday : feeStartsOn clock policy = .ok day') : day ≤ day' := by
  have hpos : (0 : Int) < dayMicros := by decide
  have hfree := policy.freeDays_range.1
  obtain ⟨-, -, -, rfl⟩ := waitingClock_running.mp hclock
  obtain ⟨reached, hroom, hreached, rfl⟩ := h.instant
  obtain ⟨reached', hreached', hdate⟩ := feeStartsOn_ok.mp hday
  obtain ⟨-, rfl⟩ := shopDate_ok.mp hdate
  obtain ⟨-, hfold⟩ := (@reaches_running readyAt u (holds ++ further) _ _ (by omega)).mp hreached'
  have hsorted : holdsSince readyAt (holds ++ further) =
      holdsSince readyAt holds ++ holdsSince readyAt further := by
    rw [holdsSince, List.filter_append]
    refine sortBy_append fun hold hmem hold' hmem' => ?_
    obtain ⟨resumedAt, -, hheld, hover⟩ := h.lifted hold (List.mem_of_mem_filter hmem)
    have := hfurther hold' (List.mem_of_mem_filter hmem')
    omega
  rw [hsorted, liftedHolds, List.filterMap_append, List.foldlM_append] at hfold
  obtain ⟨middle, hmiddle, hfold⟩ := bind_ok.mp hfold
  rw [← liftedHolds, foldlM_pastHold_lifted (lifted_since h.lifted) htu hroom, hreached] at hmiddle
  cases hmiddle
  have hle := (foldlM_pastHold_bounds (fun held hmem => (mem_liftedHolds hmem).2.1) hfold).1
  exact Int.ediv_le_ediv hpos (by omega)

/-- No storage fee is charged before the day that the customer was told, a fee is charged after it
unless the laundry is held again, and the day only ever moves back. -/
theorem no_fee_before_told (policy : StoragePolicy) (readyAt t : Int) (holds : List StorageHold)
    (day : Int) (h : Told policy readyAt t holds day) :
    (∀ u total paused further today, t ≤ u →
        (∀ hold ∈ further, t ≤ hold.heldAt ∧ hold.heldAt ≤ u) → shopDate u = .ok today →
        ((∃ fee, storageFee policy readyAt u total (holds ++ further) paused = .ok fee) ↔
          wholeVnd total ∧ HeldFits readyAt u (holds ++ further) paused) ∧
        (Apart further → HeldFits readyAt u (holds ++ further) paused) ∧
        (today < day → ∀ fee,
          storageFee policy readyAt u total (holds ++ further) paused = .ok fee →
          fee.chargeableDays = 0 ∧ fee.amountVnd = 0)) ∧
      (Apart holds → ∀ u total today, t ≤ u → shopDate u = .ok today → day < today →
        wholeVnd total → ∃ fee, storageFee policy readyAt u total holds false = .ok fee ∧
          1 ≤ fee.chargeableDays) ∧
      ∀ u further clock day', t ≤ u →
        (∀ hold ∈ further, t ≤ hold.heldAt ∧ Lifted u hold) →
        waitingClock readyAt u (holds ++ further) false = .ok clock →
        clock.days ≤ policy.freeDays → feeStartsOn clock policy = .ok day' → day ≤ day' := by
  refine ⟨?_, ?_, ?_⟩
  · intro u total paused further today htu hfurther htoday
    have hbegun := fun hold hmem => (hfurther hold hmem).1
    refine ⟨?_, h.heldFits htu hbegun, ?_⟩
    · rw [storageFee_returns, h.reads htu hbegun htoday]
    · intro hbefore fee hfee
      exact h.no_fee htu hbegun htoday hbefore hfee
  · intro hapart u total today htu htoday hafter hwhole
    have hfits : HeldFits readyAt u (holds ++ []) false :=
      h.heldFits htu (List.forall_mem_nil _) List.Pairwise.nil
    have hreads := (h.reads htu (List.forall_mem_nil _) htoday).mpr hfits
    rw [List.append_nil] at hreads
    obtain ⟨fee, hfee⟩ := storageFee_returns.mpr ⟨hwhole, hreads⟩
    exact ⟨fee, hfee, h.charged hapart htu htoday hafter hfee⟩
  · intro u further clock day' htu hfurther hclock _ hday
    exact h.later htu (fun hold hmem => (hfurther hold hmem).1) hclock hday

/-- Ready on the day `1000`, one day free, and held for an hour: the fee is told for the day
`1002`, none is charged on the day before while the laundry is held again, a day of it is charged
on `1003`, and after a second hold, of a day, the fee is told for `1003`. -/
theorem no_fee_before_told_held :
    Told ⟨1, 1000, 100, by decide, by decide, by decide⟩ (1000 * dayMicros) (1001 * dayMicros)
        [⟨1000 * dayMicros + 3600000000, some (1000 * dayMicros + 7200000000)⟩] 1002 ∧
      (∃ fee, storageFee ⟨1, 1000, 100, by decide, by decide, by decide⟩ (1000 * dayMicros)
        (1001 * dayMicros + 3600000000) 50000
        ([⟨1000 * dayMicros + 3600000000, some (1000 * dayMicros + 7200000000)⟩] ++
          [⟨1001 * dayMicros + 1800000000, none⟩]) true = .ok fee ∧
        fee.chargeableDays = 0 ∧ fee.amountVnd = 0) ∧
      (∃ fee, storageFee ⟨1, 1000, 100, by decide, by decide, by decide⟩ (1000 * dayMicros)
        (1003 * dayMicros) 50000
        [⟨1000 * dayMicros + 3600000000, some (1000 * dayMicros + 7200000000)⟩] false = .ok fee ∧
        1 ≤ fee.chargeableDays) ∧
      ∃ clock, waitingClock (1000 * dayMicros) (1002 * dayMicros)
          ([⟨1000 * dayMicros + 3600000000, some (1000 * dayMicros + 7200000000)⟩] ++
            [⟨1001 * dayMicros, some (1002 * dayMicros)⟩]) false = .ok clock ∧
        clock.days ≤ 1 ∧
        feeStartsOn clock ⟨1, 1000, 100, by decide, by decide, by decide⟩ = .ok 1003 ∧
        (1002 : Int) ≤ 1003 := by
  have htold : Told ⟨1, 1000, 100, by decide, by decide, by decide⟩ (1000 * dayMicros)
      (1001 * dayMicros) [⟨1000 * dayMicros + 3600000000, some (1000 * dayMicros + 7200000000)⟩]
      1002 := by
    refine ⟨fun hold hmem => ?_, by decide, ?_⟩
    · rw [List.mem_singleton.mp hmem]
      exact ⟨_, rfl, by decide, by decide⟩
    · exact ⟨⟨1000, 1, 0, false, [(1000 * dayMicros + 3600000000, 1000 * dayMicros + 7200000000)]⟩,
        by decide, by decide, by decide⟩
  obtain ⟨hbefore, hafter, hlater⟩ := no_fee_before_told _ _ _ _ _ htold
  refine ⟨htold, ?_, ?_, ?_⟩
  · obtain ⟨hreturns, hfits, hfree⟩ := hbefore (1001 * dayMicros + 3600000000) 50000 true
      [⟨1001 * dayMicros + 1800000000, none⟩] 1001 (by decide)
      (fun hold hmem => by rw [List.mem_singleton.mp hmem]; decide) (by decide)
    obtain ⟨fee, hfee⟩ := hreturns.mpr ⟨by decide, hfits (List.pairwise_singleton _ _)⟩
    exact ⟨fee, hfee, hfree (by decide) fee hfee⟩
  · exact hafter (List.pairwise_singleton _ _) (1003 * dayMicros) 50000 1003 (by decide) (by decide)
      (by decide) (by decide)
  · have hclock : waitingClock (1000 * dayMicros) (1002 * dayMicros)
        ([⟨1000 * dayMicros + 3600000000, some (1000 * dayMicros + 7200000000)⟩] ++
          [⟨1001 * dayMicros, some (1002 * dayMicros)⟩]) false =
        .ok ⟨1000, 1, 1, false, [(1000 * dayMicros + 3600000000, 1000 * dayMicros + 7200000000),
          (1001 * dayMicros, 1002 * dayMicros)]⟩ := by
      decide
    refine ⟨_, hclock, by decide, by decide, ?_⟩
    refine hlater (1002 * dayMicros) _ _ 1003 (by decide) (fun hold hmem => ?_) hclock (by decide)
      (by decide)
    rw [List.mem_singleton.mp hmem]
    exact ⟨by decide, _, rfl, by decide, by decide⟩

/-- Two holds of the same thirteen hours, recorded twice, take a day and two hours out of the
count: the fee that was told for the day `1002` is not charged on the day after. -/
theorem free_after_told_under_equal_holds :
    Told ⟨1, 1000, 100, by decide, by decide, by decide⟩ (1000 * dayMicros)
        (1001 * dayMicros + 108000000000)
        [⟨1001 * dayMicros + 61200000000, some (1001 * dayMicros + 108000000000)⟩,
          ⟨1001 * dayMicros + 61200000000, some (1001 * dayMicros + 108000000000)⟩] 1002 ∧
      1001 * dayMicros + 108000000000 ≤ 1002 * dayMicros + 61200000000 ∧
      shopDate (1002 * dayMicros + 61200000000) = .ok 1003 ∧
      ∃ fee, storageFee ⟨1, 1000, 100, by decide, by decide, by decide⟩ (1000 * dayMicros)
        (1002 * dayMicros + 61200000000) 50000
        [⟨1001 * dayMicros + 61200000000, some (1001 * dayMicros + 108000000000)⟩,
          ⟨1001 * dayMicros + 61200000000, some (1001 * dayMicros + 108000000000)⟩] false = .ok fee ∧
        fee.chargeableDays = 0 := by
  refine ⟨⟨fun hold hmem => ?_, by decide, ?_⟩, by decide, by decide, ?_⟩
  · have hsame : hold = ⟨1001 * dayMicros + 61200000000, some (1001 * dayMicros + 108000000000)⟩ := by
      simpa using hmem
    rw [hsame]
    exact ⟨_, rfl, by decide, by decide⟩
  · exact ⟨⟨1000, 1, 1, false, [(1001 * dayMicros + 61200000000, 1001 * dayMicros + 108000000000),
      (1001 * dayMicros + 61200000000, 1001 * dayMicros + 108000000000)]⟩, by decide, by decide,
      by decide⟩
  · exact ⟨⟨1, 0, 1000, 0, 50000, 0⟩, by decide, rfl⟩

end NhaTrangLaundry.Domain.Unclaimed
