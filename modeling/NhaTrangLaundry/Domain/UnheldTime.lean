import Mathlib.Algebra.BigOperators.Ring.Finset
import NhaTrangLaundry.Domain.WaitingClock
import NhaTrangLaundry.Lib.Spans

/-! The waiting clock measures the time that is not held: the days it counts and the
instants it says they are reached are inverse to each other. -/

namespace NhaTrangLaundry.Domain.Unclaimed

open Lib Outcome Sorting Spans Canonical

def dayStart (day : Int) : Int := day * dayMicros - shopOffset

def pastHold (candidate : Int) (hold : Int × Int) : Except PyException Int :=
  if hold.1 < candidate then do
    require (candidate + (hold.2 - hold.1) + shopOffset < wallLimit) .overflowError
    .ok (candidate + (hold.2 - hold.1))
  else .ok candidate

/-- The instant at which the count reaches a day, the holds already lifted skipped over. -/
def WaitingClock.reaches (clock : WaitingClock) (day : Int) : Except PyException (Option Int) :=
  if clock.paused then .ok none
  else do
    require (0 ≤ day) (.valueError "a day count is never negative")
    require (dayStart (clock.readyOn + day) + shopOffset < wallLimit)
      (.valueError "year is out of range")
    some <$> clock.lifted.foldlM pastHold (dayStart (clock.readyOn + day))

/-- The hold lasts at the moment: until its end, or without end while it is open. -/
def StorageHold.Lasts (hold : StorageHold) (moment : Int) : Prop :=
  hold.heldAt ≤ moment ∧ ∀ resumedAt ∈ hold.resumedAt, moment < resumedAt

def Apart (holds : List StorageHold) : Prop :=
  holds.Pairwise fun hold hold' => ∀ moment, hold.Lasts moment → ¬ hold'.Lasts moment

variable {readyAt asOf asOf' stop stop' candidate : Int} {holds since : List StorageHold}
  {hold : StorageHold} {paused : Bool}

/-- What a hold takes from the time up to `stop`. -/
def taken (stop : Int) (hold : StorageHold) : Int :=
  match hold.resumedAt with
  | none => 0
  | some resumedAt => max 0 (min resumedAt stop - hold.heldAt)

lemma taken_nonneg : 0 ≤ taken stop hold := by
  rw [taken]
  split
  · exact le_refl 0
  · exact le_max_left _ _

lemma sum_taken_nonneg : 0 ≤ (since.map (taken stop)).sum := by
  refine List.sum_nonneg fun time htime => ?_
  obtain ⟨hold, -, rfl⟩ := List.mem_map.mp htime
  exact taken_nonneg

lemma sum_taken_eq : ((liftedHolds since stop).map fun hold => hold.2 - hold.1).sum =
    (since.map (taken stop)).sum := by
  rw [sum_liftedHolds]
  refine congrArg List.sum (List.map_congr_left fun hold _ => ?_)
  rw [taken.eq_def]
  cases hold.resumedAt with
  | none => rfl
  | some resumedAt =>
    dsimp only
    split_ifs <;> omega

lemma heldTime_eq : heldTime readyAt asOf holds =
    ((holds.filter fun hold => readyAt ≤ hold.heldAt).map (taken asOf)).sum := by
  rw [heldTime, sum_taken_eq, holdsSince]
  exact ((sortBy_perm _ _).map _).sum_eq

def heldIn (a b : Int) (hold : StorageHold) : Finset Int :=
  match hold.resumedAt with
  | none => ∅
  | some resumedAt => overlap a b hold.heldAt resumedAt

lemma mem_heldIn {a b n : Int} : n ∈ heldIn a b hold ↔
    ∃ resumedAt ∈ hold.resumedAt, max hold.heldAt a ≤ n ∧ n < min resumedAt b := by
  rw [heldIn.eq_def]
  cases hold.resumedAt with
  | none => simp
  | some resumedAt => simp [mem_overlap]

lemma lasts_of_mem_heldIn {a b n : Int} (h : n ∈ heldIn a b hold) :
    hold.Lasts n ∧ a ≤ n ∧ n < b := by
  obtain ⟨resumedAt, hresumed, hle, hlt⟩ := mem_heldIn.mp h
  refine ⟨⟨by omega, fun resumedAt' hresumed' => ?_⟩, by omega, by omega⟩
  rw [Option.mem_def] at hresumed hresumed'
  rw [hresumed] at hresumed'
  cases hresumed'
  omega

lemma sum_heldIn_le (hapart : Apart since) {a b : Int} (h : a ≤ b) :
    (since.map fun hold => ((heldIn a b hold).card : Int)).sum ≤ b - a := by
  have hdisjoint : (since.map (heldIn a b)).Pairwise fun t t' => ∀ n ∈ t, n ∉ t' := by
    refine List.pairwise_map.mpr (hapart.imp fun hnever n hn hn' => ?_)
    exact hnever n (lasts_of_mem_heldIn hn).1 (lasts_of_mem_heldIn hn').1
  have hsub : ∀ t ∈ since.map (heldIn a b), ∀ n ∈ t, n ∈ overlap a b a b := by
    intro t ht n hn
    obtain ⟨hold, -, rfl⟩ := List.mem_map.mp ht
    obtain ⟨-, hle, hlt⟩ := lasts_of_mem_heldIn hn
    exact mem_overlap.mpr ⟨by omega, by omega⟩
  have hcount := sum_card_le hdisjoint hsub
  have hwindow : ((overlap a b a b).card : Int) = b - a := by
    rw [card_overlap]
    omega
  rw [List.map_map] at hcount
  have hcast : (since.map fun hold => ((heldIn a b hold).card : Int)).sum =
      (((since.map (Finset.card ∘ heldIn a b)).sum : Nat) : Int) := by
    rw [Nat.cast_list_sum, List.map_map]
    rfl
  rw [hcast]
  omega

lemma taken_add_heldIn (h : stop ≤ stop') :
    taken stop' hold = taken stop hold + ((heldIn stop stop' hold).card : Int) := by
  rw [taken.eq_def, taken.eq_def, heldIn.eq_def]
  cases hold.resumedAt with
  | none => rfl
  | some resumedAt =>
    dsimp only
    rw [card_overlap]
    omega

/-- A hold that begins no earlier than `start` takes its part of the time since then. -/
lemma taken_eq_heldIn {start : Int} (h : start ≤ hold.heldAt) :
    taken stop hold = ((heldIn start stop hold).card : Int) := by
  rw [taken.eq_def, heldIn.eq_def]
  cases hold.resumedAt with
  | none => rfl
  | some resumedAt =>
    dsimp only
    rw [card_overlap]
    omega

lemma apart_filter (hapart : Apart holds) (p : StorageHold → Bool) : Apart (holds.filter p) :=
  List.Pairwise.filter p hapart

lemma heldTime_step (hapart : Apart holds) (h : asOf ≤ asOf') :
    heldTime readyAt asOf' holds ≤ heldTime readyAt asOf holds + (asOf' - asOf) := by
  have hwindow := sum_heldIn_le (apart_filter hapart fun hold => readyAt ≤ hold.heldAt) h
  rw [heldTime_eq, heldTime_eq]
  have hsplit : ∀ l : List StorageHold, (l.map (taken asOf')).sum = (l.map (taken asOf)).sum +
      (l.map fun hold => ((heldIn asOf asOf' hold).card : Int)).sum := by
    intro l
    rw [← List.sum_map_add]
    exact congrArg List.sum (List.map_congr_left fun hold _ => taken_add_heldIn h)
  rw [hsplit]
  omega

lemma heldTime_le (hapart : Apart holds) (h : readyAt ≤ asOf) :
    heldTime readyAt asOf holds ≤ asOf - readyAt := by
  have hwindow := sum_heldIn_le (apart_filter hapart fun hold => readyAt ≤ hold.heldAt) h
  rw [heldTime_eq]
  refine le_of_eq_of_le (congrArg List.sum (List.map_congr_left fun hold hmem => ?_)) hwindow
  exact taken_eq_heldIn (by simpa using (List.mem_filter.mp hmem).2)

lemma pastHold_ok {held : Int × Int} {next : Int} : pastHold candidate held = .ok next ↔
    if held.1 < candidate then candidate + (held.2 - held.1) + shopOffset < wallLimit ∧
      next = candidate + (held.2 - held.1) else next = candidate := by
  rw [pastHold]
  split_ifs with h
  · constructor
    · intro hok
      obtain ⟨_, hroom, hok⟩ := bind_ok.mp hok
      cases hok
      exact ⟨require_ok.mp hroom, rfl⟩
    · rintro ⟨hroom, rfl⟩
      rw [require_true hroom, ok_bind]
  · exact ⟨fun hok => (Except.ok.inj hok).symm, fun hnext => by rw [hnext]⟩

lemma foldlM_pastHold_skip {lifted : List (Int × Int)} (h : ∀ held ∈ lifted, candidate ≤ held.1) :
    lifted.foldlM pastHold candidate = .ok candidate := by
  induction lifted with
  | nil => rfl
  | cons held lifted ih =>
    have hskip : pastHold candidate held = .ok candidate :=
      pastHold_ok.mpr (by rw [if_neg (not_lt.mpr (h held List.mem_cons_self))])
    rw [List.foldlM_cons, hskip, ok_bind]
    exact ih fun held' hmem => h held' (List.mem_cons_of_mem held hmem)

lemma mem_liftedHolds {held : Int × Int} (h : held ∈ liftedHolds since stop) :
    held.1 < stop ∧ held.1 ≤ held.2 ∧ ∃ hold ∈ since, held.1 = hold.heldAt ∧ hold.resumedAt.isSome := by
  obtain ⟨hold, hmem, hlifted⟩ := List.mem_filterMap.mp h
  rw [liftedUpTo] at hlifted
  split at hlifted
  · cases hlifted
  · next resumedAt hresumed =>
    split_ifs at hlifted with hbegun
    cases hlifted
    exact ⟨hbegun, le_max_left _ _, hold, hmem, rfl, by rw [hresumed]; rfl⟩

/-- Past the holds, a candidate is reached by `asOf` exactly when it is with all the time they
take added to it. -/
lemma reached_iff (hsorted : since.Pairwise fun hold hold' => hold.heldAt ≤ hold'.heldAt)
    (hapart : Apart since) (hasOf : asOf + shopOffset < wallLimit) :
    (∃ reached, (liftedHolds since asOf).foldlM pastHold candidate = .ok reached ∧ reached ≤ asOf) ↔
      candidate + (since.map (taken asOf)).sum ≤ asOf := by
  induction since generalizing candidate with
  | nil =>
    rw [List.map_nil, List.sum_nil, add_zero]
    constructor
    · rintro ⟨reached, hreached, hle⟩
      cases hreached
      exact hle
    · exact fun hle => ⟨candidate, rfl, hle⟩
  | cons hold since ih =>
    obtain ⟨hfirst, hsortedRest⟩ := List.pairwise_cons.mp hsorted
    obtain ⟨-, hapartRest⟩ := List.pairwise_cons.mp hapart
    have hrest : ∀ candidate, _ := fun candidate => @ih candidate hsortedRest hapartRest
    rw [List.map_cons, List.sum_cons]
    cases hlifted : liftedUpTo asOf hold with
    | none =>
      have htaken : taken asOf hold = 0 := by
        cases hresumed : hold.resumedAt with
        | none => rw [taken.eq_def, hresumed]
        | some resumedAt =>
          rw [liftedUpTo, hresumed] at hlifted
          dsimp only at hlifted
          split_ifs at hlifted with hbegun
          rw [taken.eq_def, hresumed]
          dsimp only
          omega
      rw [liftedHolds, List.filterMap_cons_none hlifted, htaken, zero_add]
      exact hrest candidate
    | some held =>
      have hheld : held.1 = hold.heldAt ∧ held.1 < asOf ∧ held.2 - held.1 = taken asOf hold := by
        cases hresumed : hold.resumedAt with
        | none =>
          rw [liftedUpTo, hresumed] at hlifted
          cases hlifted
        | some resumedAt =>
          rw [liftedUpTo, hresumed] at hlifted
          dsimp only at hlifted
          split_ifs at hlifted with hbegun
          cases hlifted
          rw [taken.eq_def, hresumed]
          exact ⟨rfl, hbegun, by dsimp only; omega⟩
      obtain ⟨hstart, hbegun, htaken⟩ := hheld
      rw [liftedHolds, List.filterMap_cons_some hlifted, List.foldlM_cons]
      by_cases hbefore : held.1 < candidate
      · by_cases hroom : candidate + (held.2 - held.1) + shopOffset < wallLimit
        · have hmoved : pastHold candidate held = .ok (candidate + taken asOf hold) :=
            pastHold_ok.mpr (by rw [if_pos hbefore, htaken] at *; exact ⟨hroom, rfl⟩)
          rw [hmoved, ok_bind, ← add_assoc]
          exact hrest (candidate + taken asOf hold)
        · -- the instant lies beyond the calendar, and `asOf` within it
          have hsum := @sum_taken_nonneg asOf since
          have hover : pastHold candidate held = .error .overflowError := by
            rw [pastHold, if_pos hbefore, require_false hroom, error_bind]
          rw [hover, error_bind]
          constructor
          · rintro ⟨reached, hreached, -⟩
            cases hreached
          · intro hle
            omega
      · have hlater : ∀ hold' ∈ hold :: since, hold.heldAt ≤ hold'.heldAt := by
          intro hold' hmem
          rcases List.mem_cons.mp hmem with rfl | hmem
          · exact le_refl _
          · exact hfirst hold' hmem
        have hskip : pastHold candidate held = .ok candidate :=
          pastHold_ok.mpr (by rw [if_neg hbefore])
        have hstays : (since.filterMap (liftedUpTo asOf)).foldlM pastHold candidate = .ok candidate := by
          refine foldlM_pastHold_skip fun held' hmem => ?_
          obtain ⟨-, -, hold', hmem', hstart', -⟩ := mem_liftedHolds hmem
          have := hfirst hold' hmem'
          omega
        -- every hold from here on lies between the candidate and `asOf`
        have hwindow := sum_heldIn_le hapart (a := hold.heldAt) (b := asOf) (by omega)
        have hparts : ((hold :: since).map (taken asOf)).sum =
            ((hold :: since).map fun hold' => ((heldIn hold.heldAt asOf hold').card : Int)).sum :=
          congrArg List.sum (List.map_congr_left fun hold' hmem => taken_eq_heldIn (hlater hold' hmem))
        rw [← hparts, List.map_cons, List.sum_cons] at hwindow
        rw [hskip, ok_bind, hstays]
        constructor
        · intro _
          omega
        · intro _
          exact ⟨candidate, rfl, by omega⟩

lemma apart_perm {holds' : List StorageHold} (h : holds.Perm holds') : Apart holds ↔ Apart holds' :=
  h.pairwise_iff fun hnever moment hlasts hlasts' => hnever moment hlasts' hlasts

lemma apart_since (hapart : Apart holds) : Apart (holdsSince readyAt holds) :=
  (apart_perm (sortBy_perm _ _)).mpr (apart_filter hapart _)

structure InCalendar (readyAt asOf : Int) : Prop where
  ready : 0 ≤ readyAt
  later : readyAt ≤ asOf
  limit : asOf + shopOffset < wallLimit

/-- The clock that runs from `readyAt` to `asOf`. -/
def runningClock (readyAt asOf : Int) (holds : List StorageHold) : WaitingClock :=
  ⟨(readyAt + shopOffset) / dayMicros,
    max 0 ((asOf - heldTime readyAt asOf holds + shopOffset) / dayMicros -
      (readyAt + shopOffset) / dayMicros),
    max 0 ((asOf + shopOffset) / dayMicros - (readyAt + shopOffset) / dayMicros) -
      max 0 ((asOf - heldTime readyAt asOf holds + shopOffset) / dayMicros -
        (readyAt + shopOffset) / dayMicros),
    false, liftedHolds (holdsSince readyAt holds) asOf⟩

lemma waitingClock_eq (hapart : Apart holds) (h : InCalendar readyAt asOf) :
    waitingClock readyAt asOf holds false = .ok (runningClock readyAt asOf holds) := by
  have hoffset : 0 ≤ shopOffset := by decide
  have hheld := heldTime_le hapart h.later
  have hready := h.ready
  have hlater := h.later
  have hlimit := h.limit
  exact waitingClock_running.mpr ⟨by omega, by omega, by omega, rfl⟩

lemma reaches_running {d reached : Int} (hd : 0 ≤ d) :
    (runningClock readyAt asOf holds).reaches d = .ok (some reached) ↔
      dayStart ((readyAt + shopOffset) / dayMicros + d) + shopOffset < wallLimit ∧
        (liftedHolds (holdsSince readyAt holds) asOf).foldlM pastHold
          (dayStart ((readyAt + shopOffset) / dayMicros + d)) = .ok reached := by
  have hreaches : (runningClock readyAt asOf holds).reaches d = (do
      require (dayStart ((readyAt + shopOffset) / dayMicros + d) + shopOffset < wallLimit)
        (.valueError "year is out of range")
      some <$> (liftedHolds (holdsSince readyAt holds) asOf).foldlM pastHold
        (dayStart ((readyAt + shopOffset) / dayMicros + d))) := by
    rw [WaitingClock.reaches, if_neg (by rw [runningClock]; exact Bool.false_ne_true),
      require_true hd, ok_bind]
    rfl
  rw [hreaches]
  constructor
  · intro h
    obtain ⟨_, hroom, h⟩ := bind_ok.mp h
    obtain ⟨reached', hok, hsame⟩ := map_ok.mp h
    cases hsame
    exact ⟨require_ok.mp hroom, hok⟩
  · rintro ⟨hroom, hok⟩
    rw [require_true hroom, ok_bind]
    exact map_ok.mpr ⟨reached, hok, rfl⟩

lemma reaches_iff (hapart : Apart holds) (hasOf : asOf + shopOffset < wallLimit) {d : Int}
    (hd : 0 ≤ d) :
    (∃ reached, (runningClock readyAt asOf holds).reaches d = .ok (some reached) ∧ reached ≤ asOf) ↔
      dayStart ((readyAt + shopOffset) / dayMicros + d) + heldTime readyAt asOf holds ≤ asOf := by
  have hsum : heldTime readyAt asOf holds = ((holdsSince readyAt holds).map (taken asOf)).sum :=
    sum_taken_eq
  have hnonneg : 0 ≤ heldTime readyAt asOf holds := heldTime_nonneg
  have hreached : (∃ reached, (liftedHolds (holdsSince readyAt holds) asOf).foldlM pastHold
      (dayStart ((readyAt + shopOffset) / dayMicros + d)) = .ok reached ∧ reached ≤ asOf) ↔ _ :=
    reached_iff (sortBy_sorted _ _) (apart_since hapart) hasOf
  rw [hsum, ← hreached]
  constructor
  · rintro ⟨reached, hok, hle⟩
    exact ⟨reached, ((reaches_running hd).mp hok).2, hle⟩
  · rintro ⟨reached, hok, hle⟩
    have hsoon := hreached.mp ⟨reached, hok, hle⟩
    exact ⟨reached, (reaches_running hd).mpr ⟨by omega, hok⟩, hle⟩

lemma le_days_iff {d : Int} (hd : 1 ≤ d) : d ≤ (runningClock readyAt asOf holds).days ↔
    dayStart ((readyAt + shopOffset) / dayMicros + d) + heldTime readyAt asOf holds ≤ asOf := by
  have hpos : (0 : Int) < dayMicros := by decide
  have hdays : (runningClock readyAt asOf holds).days =
      max 0 ((asOf - heldTime readyAt asOf holds + shopOffset) / dayMicros -
        (readyAt + shopOffset) / dayMicros) := rfl
  have hfloor := @Int.le_ediv_iff_mul_le ((readyAt + shopOffset) / dayMicros + d)
    (asOf - heldTime readyAt asOf holds + shopOffset) dayMicros hpos
  rw [hdays, dayStart]
  constructor
  · intro hle
    have := hfloor.mp (by omega)
    omega
  · intro hle
    have := hfloor.mpr (by omega)
    omega

lemma days_mono (hapart : Apart holds) (h : asOf ≤ asOf') :
    (runningClock readyAt asOf holds).days ≤ (runningClock readyAt asOf' holds).days := by
  have hpos : (0 : Int) < dayMicros := by decide
  have hstep := @heldTime_step readyAt asOf asOf' holds hapart h
  have hfloor : (asOf - heldTime readyAt asOf holds + shopOffset) / (dayMicros : Int) ≤
      (asOf' - heldTime readyAt asOf' holds + shopOffset) / dayMicros :=
    Int.ediv_le_ediv hpos (by omega)
  show max 0 _ ≤ max 0 _
  omega

lemma calendar_days (h : InCalendar readyAt asOf) :
    daysWaiting readyAt asOf = .ok ((runningClock readyAt asOf holds).days +
      (runningClock readyAt asOf holds).heldDays) := by
  have hoffset : 0 ≤ shopOffset := by decide
  have hready := h.ready
  have hlater := h.later
  have hlimit := h.limit
  refine daysWaiting_ok.mpr ⟨by omega, by omega, ?_⟩
  show max 0 _ + (max 0 _ - max 0 _) = _
  omega

/-- The open hold ends at `moment`. -/
def liftAt (moment : Int) (holds : List StorageHold) : List StorageHold :=
  holds.map fun hold =>
    if hold.resumedAt = none then { hold with resumedAt := some moment } else hold

lemma lifted_of_open {hold' : StorageHold} (hopen : hold.resumedAt = none)
    (hnever : ∀ moment, hold.Lasts moment → ¬ hold'.Lasts moment) :
    ∃ resumedAt, hold'.resumedAt = some resumedAt ∧
      (resumedAt ≤ hold'.heldAt ∨ resumedAt ≤ hold.heldAt) := by
  have hlasts : hold.Lasts (max hold.heldAt hold'.heldAt) := by
    refine ⟨le_max_left _ _, fun resumedAt hresumed => ?_⟩
    rw [hopen] at hresumed
    cases hresumed
  cases hresumed : hold'.resumedAt with
  | none =>
    refine absurd ⟨le_max_right _ _, fun resumedAt hresumed' => ?_⟩ (hnever _ hlasts)
    rw [hresumed] at hresumed'
    cases hresumed'
  | some resumedAt =>
    refine ⟨resumedAt, rfl, ?_⟩
    by_contra hmeets
    push Not at hmeets
    refine hnever _ hlasts ⟨le_max_right _ _, fun resumedAt' hresumed' => ?_⟩
    rw [hresumed] at hresumed'
    cases hresumed'
    exact max_lt hmeets.2 hmeets.1

structure OpenAt (holds : List StorageHold) (hold : StorageHold) (rest : List StorageHold) : Prop where
  perm : holds.Perm (hold :: rest)
  opened : hold.resumedAt = none
  ended : ∀ hold' ∈ rest, ∃ resumedAt, hold'.resumedAt = some resumedAt ∧
    (resumedAt ≤ hold'.heldAt ∨ resumedAt ≤ hold.heldAt)

lemma openAt_of_mem (hapart : Apart holds) (hmem : hold ∈ holds) (hopen : hold.resumedAt = none) :
    OpenAt holds hold (holds.erase hold) := by
  have hperm := List.perm_cons_erase hmem
  obtain ⟨hfirst, -⟩ := List.pairwise_cons.mp ((apart_perm hperm).mp hapart)
  exact ⟨hperm, hopen, fun hold' hmem' => lifted_of_open hopen (hfirst hold' hmem')⟩

lemma frozenAt_openAt {rest : List StorageHold} (h : OpenAt holds hold rest)
    (hready : readyAt ≤ hold.heldAt) :
    frozenAt (holdsSince readyAt holds) true = some hold.heldAt := by
  have hclosed : rest.filter (fun hold' => hold'.resumedAt.isNone) = [] := by
    rw [List.filter_eq_nil_iff]
    intro hold' hmem
    obtain ⟨resumedAt, hresumed, -⟩ := h.ended hold' hmem
    simp [hresumed]
  have hsince : (holdsSince readyAt holds).Perm
      ((hold :: rest).filter fun hold => readyAt ≤ hold.heldAt) :=
    (sortBy_perm _ _).trans (h.perm.filter _)
  have honly : ((holdsSince readyAt holds).filter fun hold => hold.resumedAt.isNone) = [hold] := by
    refine List.perm_singleton.mp ((hsince.filter _).trans ?_)
    rw [List.filter_comm, List.filter_cons_of_pos (by simp [h.opened]), hclosed,
      List.filter_cons_of_pos (by simpa using hready), List.filter_nil]
  rw [frozenAt, if_pos rfl, honly]
  rfl

def clockTo (readyAt stop : Int) (since : List StorageHold) (frozen : Bool) :
    Except PyException WaitingClock := do
  let counted := liftedHolds since stop
  let heldTime := (counted.map fun hold => hold.2 - hold.1).sum
  let calendar ← daysWaiting readyAt stop
  require (0 ≤ stop - heldTime) .overflowError
  let days ← daysWaiting readyAt (stop - heldTime)
  let readyOn ← shopDate readyAt
  .ok ⟨readyOn, days, calendar - days, frozen, counted⟩

lemma waitingClock_eq_clockTo : waitingClock readyAt asOf holds paused =
    clockTo readyAt (((frozenAt (holdsSince readyAt holds) paused).map (min asOf)).getD asOf)
      (holdsSince readyAt holds) (frozenAt (holdsSince readyAt holds) paused).isSome := rfl

lemma clockTo_frozen : clockTo readyAt stop since true =
    (clockTo readyAt stop since false).map fun clock => { clock with paused := true } := by
  rw [clockTo, clockTo]
  cases daysWaiting readyAt stop with
  | error e => rfl
  | ok calendar =>
    rw [ok_bind, ok_bind]
    cases require (0 ≤ stop - ((liftedHolds since stop).map fun hold => hold.2 - hold.1).sum)
        PyException.overflowError with
    | error e => rfl
    | ok _ =>
      rw [ok_bind, ok_bind]
      cases daysWaiting readyAt
          (stop - ((liftedHolds since stop).map fun hold => hold.2 - hold.1).sum) with
      | error e => rfl
      | ok days =>
        rw [ok_bind, ok_bind]
        cases shopDate readyAt <;> rfl

lemma waitingClock_paused {rest : List StorageHold} (h : OpenAt holds hold rest)
    (hready : readyAt ≤ hold.heldAt) (hasOf : hold.heldAt ≤ asOf) :
    waitingClock readyAt asOf holds true =
      (waitingClock readyAt hold.heldAt holds false).map fun clock => { clock with paused := true } := by
  have hrunning : frozenAt (holdsSince readyAt holds) false = none := rfl
  rw [waitingClock_eq_clockTo, waitingClock_eq_clockTo, frozenAt_openAt h hready, hrunning,
    Option.map_some, Option.getD_some, min_eq_right hasOf]
  exact clockTo_frozen

lemma heldTime_perm {holds' : List StorageHold} (h : holds.Perm holds') :
    heldTime readyAt asOf holds = heldTime readyAt asOf holds' := by
  rw [heldTime_eq, heldTime_eq]
  exact ((h.filter _).map _).sum_eq

lemma heldTime_cons (h : readyAt ≤ hold.heldAt) : heldTime readyAt asOf (hold :: holds) =
    taken asOf hold + heldTime readyAt asOf holds := by
  rw [heldTime_eq, heldTime_eq, List.filter_cons_of_pos (by simpa using h), List.map_cons,
    List.sum_cons]

lemma heldTime_liftAt {rest : List StorageHold} (h : OpenAt holds hold rest)
    (hready : readyAt ≤ hold.heldAt) (hasOf : hold.heldAt ≤ asOf) :
    heldTime readyAt asOf (liftAt asOf holds) =
      heldTime readyAt hold.heldAt holds + (asOf - hold.heldAt) := by
  have hrest : liftAt asOf rest = rest := by
    refine (List.map_congr_left fun hold' hmem => ?_).trans (List.map_id rest)
    obtain ⟨resumedAt, hresumed, -⟩ := h.ended hold' hmem
    rw [if_neg (by rw [hresumed]; exact Option.some_ne_none _), id]
  have hlift : liftAt asOf (hold :: rest) = { hold with resumedAt := some asOf } :: rest := by
    conv_rhs => rw [← hrest]
    rw [liftAt, List.map_cons, if_pos h.opened]
    rfl
  have hsame : heldTime readyAt asOf rest = heldTime readyAt hold.heldAt rest := by
    rw [heldTime_eq, heldTime_eq]
    refine congrArg List.sum (List.map_congr_left fun hold' hmem => ?_)
    obtain ⟨resumedAt, hresumed, hover⟩ := h.ended hold' (List.mem_of_mem_filter hmem)
    rw [taken, taken, hresumed]
    dsimp only
    omega
  have hopened : taken hold.heldAt hold = 0 := by rw [taken, h.opened]
  have hlifted : taken asOf { hold with resumedAt := some asOf } = asOf - hold.heldAt := by
    rw [taken]
    dsimp only
    omega
  have hperm : (liftAt asOf holds).Perm (liftAt asOf (hold :: rest)) := h.perm.map _
  have hsplit : heldTime readyAt asOf ({ hold with resumedAt := some asOf } :: rest) =
      taken asOf { hold with resumedAt := some asOf } + heldTime readyAt asOf rest :=
    heldTime_cons hready
  rw [heldTime_perm hperm, heldTime_perm h.perm, heldTime_cons hready, hopened, hlift, hsplit,
    hlifted, hsame]
  omega

lemma days_liftAt {rest : List StorageHold} (h : OpenAt holds hold rest) (hapart : Apart holds)
    (hready : readyAt ≤ hold.heldAt) (hasOf : hold.heldAt ≤ asOf)
    (hcalendar : InCalendar readyAt asOf) :
    ∃ lifted, waitingClock readyAt asOf (liftAt asOf holds) false = .ok lifted ∧
      lifted.days = (runningClock readyAt hold.heldAt holds).days := by
  have hoffset : 0 ≤ shopOffset := by decide
  have hheld := heldTime_le hapart hready
  have hlifted := heldTime_liftAt h hready hasOf
  have hzero := hcalendar.ready
  have hlater := hcalendar.later
  have hlimit := hcalendar.limit
  refine ⟨_, waitingClock_running.mpr ⟨by omega, by omega, by omega, rfl⟩, ?_⟩
  have hstop : asOf - heldTime readyAt asOf (liftAt asOf holds) =
      hold.heldAt - heldTime readyAt hold.heldAt holds := by omega
  dsimp only
  rw [hstop]
  rfl

lemma waitingClock_closed (hclosed : ∀ hold ∈ holds, hold.resumedAt ≠ none) :
    waitingClock readyAt asOf holds paused = waitingClock readyAt asOf holds false := by
  have hnone : frozenAt (holdsSince readyAt holds) paused = none := by
    have hempty : (holdsSince readyAt holds).filter (fun hold => hold.resumedAt.isNone) = [] := by
      rw [List.filter_eq_nil_iff]
      intro hold hmem
      rw [holdsSince, mem_sortBy] at hmem
      simpa using hclosed hold (List.mem_of_mem_filter hmem)
    rw [frozenAt, hempty]
    split_ifs <;> rfl
  rw [waitingClock_eq_clockTo, waitingClock_eq_clockTo, hnone]
  rfl

/-- A clock that is read while it runs: the days it counts are those whose instants have come,
with the days held they make up the calendar, and later it counts no fewer. -/
structure CountsUnheld (readyAt asOf : Int) (holds : List StorageHold) (clock : WaitingClock) :
    Prop where
  running : clock.paused = false
  reaches : ∀ d, 1 ≤ d →
    (d ≤ clock.days ↔ ∃ reached, clock.reaches d = .ok (some reached) ∧ reached ≤ asOf)
  calendar : daysWaiting readyAt asOf = .ok (clock.days + clock.heldDays)
  later : ∀ asOf' clock', asOf ≤ asOf' → waitingClock readyAt asOf' holds false = .ok clock' →
    clock.days ≤ clock'.days

/-- A clock that an open hold stops: it counts what it counted when the hold began, and counts
the same once the hold is lifted. -/
structure CountsHeld (readyAt asOf : Int) (holds : List StorageHold) (hold : StorageHold)
    (clock : WaitingClock) : Prop where
  paused : clock.paused = true
  began : ∃ began, waitingClock readyAt hold.heldAt holds false = .ok began ∧ clock.days = began.days
  lifted : ∃ lifted, waitingClock readyAt asOf (liftAt asOf holds) false = .ok lifted ∧
    lifted.days = clock.days

lemma countsUnheld (hapart : Apart holds) (h : InCalendar readyAt asOf) :
    CountsUnheld readyAt asOf holds (runningClock readyAt asOf holds) := by
  refine ⟨rfl, fun d hd => ?_, calendar_days h, fun asOf' clock' hle hclock' => ?_⟩
  · rw [le_days_iff hd, reaches_iff hapart h.limit (by omega)]
  · obtain ⟨-, -, -, rfl⟩ := waitingClock_running.mp hclock'
    exact days_mono hapart hle

/-- The waiting clock measures the time that is not held. -/
theorem waitingClock_unheld (readyAt : Int) (holds : List StorageHold) (hapart : Apart holds) :
    (∀ asOf paused, InCalendar readyAt asOf →
        (paused = true → ∀ hold ∈ holds, hold.resumedAt ≠ none) →
        ∃ clock, waitingClock readyAt asOf holds paused = .ok clock ∧
          CountsUnheld readyAt asOf holds clock) ∧
      ∀ hold ∈ holds, hold.resumedAt = none → readyAt ≤ hold.heldAt →
        ∀ asOf, hold.heldAt ≤ asOf → InCalendar readyAt asOf →
          ∃ clock, waitingClock readyAt asOf holds true = .ok clock ∧
            CountsHeld readyAt asOf holds hold clock := by
  constructor
  · intro asOf paused hcalendar hclosed
    refine ⟨runningClock readyAt asOf holds, ?_, countsUnheld hapart hcalendar⟩
    cases paused with
    | false => exact waitingClock_eq hapart hcalendar
    | true =>
      rw [waitingClock_closed (hclosed rfl)]
      exact waitingClock_eq hapart hcalendar
  · intro hold hmem hopen hready asOf hasOf hcalendar
    have hopened := openAt_of_mem hapart hmem hopen
    have hlimit := hcalendar.limit
    have hbegan := waitingClock_eq hapart ⟨hcalendar.ready, hready, by omega⟩
    refine ⟨{ runningClock readyAt hold.heldAt holds with paused := true }, ?_, rfl, ?_, ?_⟩
    · rw [waitingClock_paused hopened hready hasOf, hbegan]
      rfl
    · exact ⟨_, hbegan, rfl⟩
    · exact days_liftAt hopened hapart hready hasOf hcalendar

/-- Ready at noon on the day `1000`, held over a night and open again on the day `1003`. -/
def overnight : List StorageHold :=
  [⟨1001 * dayMicros, some (1001 * dayMicros + 50000000000)⟩, ⟨1003 * dayMicros, none⟩]

theorem waitingClock_unheld_overnight :
    ∃ clock, waitingClock (1000 * dayMicros) (1005 * dayMicros) overnight true = .ok clock ∧
      CountsHeld (1000 * dayMicros) (1005 * dayMicros) overnight ⟨1003 * dayMicros, none⟩ clock := by
  have hapart : Apart overnight := by
    refine List.pairwise_cons.mpr ⟨fun hold' hmem => ?_, List.pairwise_singleton _ _⟩
    rw [List.mem_singleton.mp hmem]
    intro moment hlasts hlasts'
    have hbefore := hlasts.2 _ rfl
    have hafter : 1003 * dayMicros ≤ moment := hlasts'.1
    have hlong : (1001 * dayMicros + 50000000000 : Int) < 1003 * dayMicros := by decide
    omega
  exact (waitingClock_unheld (1000 * dayMicros) overnight hapart).2 ⟨1003 * dayMicros, none⟩
    (List.mem_cons_of_mem _ List.mem_cons_self) rfl (by decide) (1005 * dayMicros) (by decide)
    ⟨by decide, by decide, by decide⟩

end NhaTrangLaundry.Domain.Unclaimed
