import NhaTrangLaundry.Domain.FeeStart
import NhaTrangLaundry.Lib.Newest

/-! The disposal of laundry nobody came back for: the rule about the order, and what becomes of
its money. -/

namespace NhaTrangLaundry.Domain.Unclaimed

open Lib Outcome Canonical Newest

/-- The owner's figures with those of the disposal, within the bounds of a published document. -/
structure DisposalPolicy extends StoragePolicy where
  disposalFromDay : Int
  disposalMinAttempts : Nat
  disposalMinAttemptDays : Nat
  fromDay_range : 1 ≤ disposalFromDay ∧ disposalFromDay ≤ 3650
  attempts_range : 1 ≤ disposalMinAttempts ∧ disposalMinAttempts ≤ 20
  attemptDays_range : 1 ≤ disposalMinAttemptDays ∧ disposalMinAttemptDays ≤ 20
  afterFreeDays : freeDays < disposalFromDay
  daysNeedAttempts : disposalMinAttemptDays ≤ disposalMinAttempts
deriving DecidableEq

inductive DisposalRefusal where
  | storagePolicyUnpublished
  | notAwaitingPickup
  | disposalTooEarly
  | contactAttemptsTooFew
  | contactDaysTooFew
deriving DecidableEq

structure DisposalVerdict where
  refusals : List DisposalRefusal
  daysWaiting : Option Int
  attemptsCounted : Nat
  attemptDays : Nat
  eligibleOn : Option Int
deriving DecidableEq

def DisposalVerdict.allowed (verdict : DisposalVerdict) : Bool := verdict.refusals.isEmpty

def clockSince (readyAt : Option Int) (asOf : Int) (holds : List StorageHold) (paused : Bool) :
    Except PyException (Option WaitingClock) :=
  match readyAt with
  | none => .ok none
  | some readyAt => some <$> waitingClock readyAt asOf holds paused

def eligibleOn (policy : Option DisposalPolicy) (clock : Option WaitingClock) :
    Except PyException (Option Int) :=
  match policy, clock with
  | some policy, some clock => clock.fallsOn policy.disposalFromDay
  | _, _ => .ok none

def DisposalPolicy.refusals (policy : DisposalPolicy) (waited : Option Int)
    (attempts attemptDays : Nat) : List DisposalRefusal :=
  (if ∀ days ∈ waited, days < policy.disposalFromDay then [.disposalTooEarly] else []) ++
  (if attempts < policy.disposalMinAttempts then [.contactAttemptsTooFew] else []) ++
  (if attemptDays < policy.disposalMinAttemptDays then [.contactDaysTooFew] else [])

/-- The attempts that count: those at or after the time the laundry was last ready. -/
def countedSince (readyAt : Option Int) (attemptTimes : List Int) : List Int :=
  match readyAt with
  | none => []
  | some readyAt => onSince readyAt attemptTimes

def disposalVerdict (policy : Option DisposalPolicy) (awaiting : Bool) (readyAt : Option Int)
    (asOf : Int) (attemptTimes : List Int) (holds : List StorageHold) (paused : Bool) :
    Except PyException DisposalVerdict := do
  let counted := countedSince readyAt attemptTimes
  let days ← counted.mapM shopDate
  let clock ← clockSince readyAt asOf holds paused
  let waited := clock.map WaitingClock.days
  let eligible ← eligibleOn policy clock
  .ok ⟨(if policy.isNone then [.storagePolicyUnpublished] else []) ++
    (if awaiting = false ∨ readyAt = none then [.notAwaitingPickup] else []) ++
    (policy.map fun policy => policy.refusals waited counted.length days.toFinset.card).getD [],
    waited, counted.length, days.toFinset.card, eligible⟩

structure DisposalMoney where
  owedVnd : Int
  keptVnd : Int
  writtenOffVnd : Int
deriving DecidableEq

def disposalMoney (owedVnd paidVnd : Int) : Except PyException DisposalMoney := do
  require (0 ≤ owedVnd ∧ 0 ≤ paidVnd) (.valueError "amounts are non-negative whole numbers of đồng")
  require (paidVnd ≤ owedVnd) (.valueError "the order's payments exceed what it owes")
  .ok ⟨owedVnd, paidVnd, owedVnd - paidVnd⟩

def Allows (answer : Except PyException DisposalVerdict) : Prop :=
  ∃ verdict, answer = .ok verdict ∧ verdict.allowed = true

def shopDay (moment : Int) : Int := (moment + shopOffset) / dayMicros

def shopDays (moments : List Int) : Nat := (moments.map shopDay).toFinset.card

/-- A record of contact justifies the disposal of laundry that is ready: the time not held reached
the disposal day, and enough attempts were made since, on enough days of the calendar. -/
structure Justifies (policy : DisposalPolicy) (readyAt asOf : Int) (attemptTimes : List Int)
    (holds : List StorageHold) : Prop where
  ready : 0 ≤ readyAt + shopOffset
  calendar : ∀ moment ∈ asOf :: countedSince (some readyAt) attemptTimes,
    moment + shopOffset < wallLimit
  waited : shopDay readyAt + policy.disposalFromDay ≤ shopDay (asOf - heldTime readyAt asOf holds)
  attempts : policy.disposalMinAttempts ≤ (countedSince (some readyAt) attemptTimes).length
  days : policy.disposalMinAttemptDays ≤ shopDays (countedSince (some readyAt) attemptTimes)

variable {policy : DisposalPolicy} {readyAt asOf candidate : Int} {attemptTimes moments : List Int}
  {holds : List StorageHold}

lemma mapM_shopDate {days : List Int} : moments.mapM shopDate = .ok days ↔
    (∀ moment ∈ moments, 0 ≤ moment + shopOffset ∧ moment + shopOffset < wallLimit) ∧
      days = moments.map shopDay := by
  induction moments generalizing days with
  | nil =>
    rw [List.mapM_nil, pure_ok]
    constructor
    · rintro rfl
      exact ⟨fun moment hmem => absurd hmem List.not_mem_nil, rfl⟩
    · rintro ⟨-, rfl⟩
      rfl
  | cons moment moments ih =>
    rw [List.mapM_cons]
    constructor
    · intro h
      obtain ⟨day, hday, h⟩ := bind_ok.mp h
      obtain ⟨rest, hrest, h⟩ := bind_ok.mp h
      obtain ⟨hin, rfl⟩ := shopDate_ok.mp hday
      obtain ⟨hall, rfl⟩ := ih.mp hrest
      cases h
      exact ⟨List.forall_mem_cons.mpr ⟨hin, hall⟩, rfl⟩
    · rintro ⟨hall, rfl⟩
      obtain ⟨hin, hrest⟩ := List.forall_mem_cons.mp hall
      rw [shopDate_ok.mpr ⟨hin, rfl⟩, ok_bind, ih.mpr ⟨hrest, rfl⟩]
      rfl

lemma foldlM_pastHold_le {lifted : List (Int × Int)} (hheld : ∀ held ∈ lifted, held.1 ≤ held.2)
    (hlimit : candidate + (lifted.map fun held => held.2 - held.1).sum + shopOffset < wallLimit) :
    ∃ reached, lifted.foldlM pastHold candidate = .ok reached ∧ candidate ≤ reached ∧
      reached ≤ candidate + (lifted.map fun held => held.2 - held.1).sum := by
  induction lifted generalizing candidate with
  | nil => exact ⟨candidate, rfl, le_refl _, by simp⟩
  | cons held lifted ih =>
    obtain ⟨hfirst, hrest⟩ := List.forall_mem_cons.mp hheld
    rw [List.map_cons, List.sum_cons] at hlimit ⊢
    have hnonneg : 0 ≤ (lifted.map fun held => held.2 - held.1).sum := by
      refine List.sum_nonneg fun time htime => ?_
      obtain ⟨held', hmem, rfl⟩ := List.mem_map.mp htime
      exact Int.sub_nonneg_of_le (hrest held' hmem)
    by_cases hbefore : held.1 < candidate
    · obtain ⟨reached, hreached, hle, hle'⟩ := @ih (candidate + (held.2 - held.1)) hrest (by omega)
      refine ⟨reached, ?_, by omega, by omega⟩
      rw [List.foldlM_cons, pastHold, if_pos hbefore, require_true (by omega), ok_bind, ok_bind]
      exact hreached
    · obtain ⟨reached, hreached, hle, hle'⟩ := @ih candidate hrest (by omega)
      refine ⟨reached, ?_, hle, by omega⟩
      rw [List.foldlM_cons, pastHold, if_neg hbefore, ok_bind]
      exact hreached

lemma fallsOn_of_waited {clock : WaitingClock} {day : Int} (hday : 0 ≤ day)
    (hclock : waitingClock readyAt asOf holds false = .ok clock)
    (hwaited : shopDay readyAt + day ≤ shopDay (asOf - heldTime readyAt asOf holds)) :
    ∃ reachedOn, clock.fallsOn day = .ok (some reachedOn) := by
  obtain ⟨⟨hready, -⟩, ⟨-, hasOf⟩, -, rfl⟩ := waitingClock_running.mp hclock
  have hmicros : (0 : Int) < dayMicros := by decide
  have hoffset : 0 ≤ shopOffset := by decide
  have hfrom : 0 ≤ shopDay readyAt := Int.ediv_nonneg hready (le_of_lt hmicros)
  have hstart : 0 ≤ (shopDay readyAt + day) * dayMicros := by positivity
  have hreached : (shopDay readyAt + day) * dayMicros ≤
      asOf - heldTime readyAt asOf holds + shopOffset :=
    (Int.le_ediv_iff_mul_le hmicros).mp hwaited
  have hheld : ∀ held ∈ liftedHolds (holdsSince readyAt holds) asOf, held.1 ≤ held.2 :=
    fun held hmem => (mem_liftedHolds hmem).2.1
  have hnonneg : 0 ≤ heldTime readyAt asOf holds := heldTime_nonneg
  obtain ⟨reached, hfold, hle, hle'⟩ := @foldlM_pastHold_le (dayStart (shopDay readyAt + day)) _ hheld
    (by rw [← heldTime, dayStart]; omega)
  rw [← heldTime] at hle'
  rw [dayStart] at hle hle'
  refine ⟨shopDay reached, ?_⟩
  rw [WaitingClock.fallsOn, WaitingClock.reaches, if_neg Bool.false_ne_true, require_true hday,
    ok_bind, require_true]
  · rw [ok_bind]
    dsimp only
    rw [← shopDay, hfold]
    show some <$> shopDate reached = _
    rw [shopDate_ok.mpr ⟨⟨by omega, by omega⟩, rfl⟩]
    rfl
  · dsimp only
    rw [← shopDay, dayStart]
    omega

lemma refusedIf_nil {c : Prop} [Decidable c] {refusal : DisposalRefusal} :
    (if c then [refusal] else []) = [] ↔ ¬ c := by
  by_cases h : c
  · rw [if_pos h]
    exact iff_of_false (List.cons_ne_nil _ _) (not_not.mpr h)
  · rw [if_neg h]
    exact iff_of_true rfl h

lemma refusals_nil {waited : Option Int} {attempts attemptDays : Nat} :
    policy.refusals waited attempts attemptDays = [] ↔
      (∃ days ∈ waited, policy.disposalFromDay ≤ days) ∧ policy.disposalMinAttempts ≤ attempts ∧
        policy.disposalMinAttemptDays ≤ attemptDays := by
  rw [DisposalPolicy.refusals, List.append_eq_nil_iff, List.append_eq_nil_iff, and_assoc,
    refusedIf_nil, refusedIf_nil, refusedIf_nil]
  push Not
  rfl

lemma le_days_running {day : Int} (hday : 1 ≤ day) : day ≤
    max 0 ((asOf - heldTime readyAt asOf holds + shopOffset) / dayMicros -
      (readyAt + shopOffset) / dayMicros) ↔
      shopDay readyAt + day ≤ shopDay (asOf - heldTime readyAt asOf holds) := by
  rw [shopDay, shopDay]
  omega

lemma waitingClock_of_justifies (h : Justifies policy readyAt asOf attemptTimes holds) :
    waitingClock readyAt asOf holds false = .ok (runningClock readyAt asOf holds) := by
  have hmicros : (0 : Int) < dayMicros := by decide
  have hoffset : 0 ≤ shopOffset ∧ shopOffset < dayMicros := by decide
  have hday := policy.fromDay_range.1
  have hwaited := (Int.le_ediv_iff_mul_le hmicros).mp h.waited
  have hfrom : 0 ≤ shopDay readyAt := Int.ediv_nonneg h.ready (le_of_lt hmicros)
  have hnext : readyAt + shopOffset < (shopDay readyAt + 1) * dayMicros :=
    Int.lt_ediv_add_one_mul_self _ hmicros
  have hmono : (shopDay readyAt + 1) * dayMicros ≤
      (shopDay readyAt + policy.disposalFromDay) * dayMicros :=
    mul_le_mul_of_nonneg_right (by omega) (le_of_lt hmicros)
  have hfirst : 1 * (dayMicros : Int) ≤ (shopDay readyAt + 1) * dayMicros :=
    mul_le_mul_of_nonneg_right (by omega) (le_of_lt hmicros)
  have hheld : 0 ≤ heldTime readyAt asOf holds := heldTime_nonneg
  have hasOf := h.calendar asOf List.mem_cons_self
  exact waitingClock_running.mpr ⟨⟨h.ready, by omega⟩, ⟨by omega, hasOf⟩, by omega, rfl⟩

lemma disposalVerdict_allows {policy : Option DisposalPolicy} {awaiting : Bool}
    {readyAt : Option Int} :
    Allows (disposalVerdict policy awaiting readyAt asOf attemptTimes holds false) ↔
      awaiting = true ∧ ∃ p ∈ policy, ∃ ready ∈ readyAt,
        Justifies p ready asOf attemptTimes holds := by
  constructor
  · rintro ⟨verdict, hverdict, hallowed⟩
    obtain ⟨days, hdays, hverdict⟩ := bind_ok.mp hverdict
    obtain ⟨clock, hclock, hverdict⟩ := bind_ok.mp hverdict
    obtain ⟨eligible, -, hverdict⟩ := bind_ok.mp hverdict
    cases hverdict
    rw [DisposalVerdict.allowed, List.isEmpty_iff, List.append_eq_nil_iff, List.append_eq_nil_iff]
      at hallowed
    obtain ⟨⟨hpublished, hawaiting⟩, hrefusals⟩ := hallowed
    cases policy with
    | none => cases hpublished
    | some policy =>
      have hnot := refusedIf_nil.mp hawaiting
      push Not at hnot
      obtain ⟨hready, hsome⟩ := hnot
      obtain ⟨ready, rfl⟩ := Option.ne_none_iff_exists'.mp hsome
      obtain ⟨running, hrunning, rfl⟩ := map_ok.mp hclock
      obtain ⟨hin, rfl⟩ := mapM_shopDate.mp hdays
      obtain ⟨⟨waited, hwaited, hlate⟩, hattempts, hattemptDays⟩ := refusals_nil.mp hrefusals
      cases hwaited
      obtain ⟨hbegan, hasOf, -, rfl⟩ := waitingClock_running.mp hrunning
      refine ⟨by simpa using hready, policy, rfl, ready, rfl, hbegan.1,
        List.forall_mem_cons.mpr ⟨hasOf.2, fun moment hmem => (hin moment hmem).2⟩,
        (le_days_running policy.fromDay_range.1).mp hlate, hattempts, hattemptDays⟩
  · rintro ⟨rfl, policy, rfl, ready, rfl, hjust⟩
    obtain ⟨hasOf, hcounted⟩ := List.forall_mem_cons.mp hjust.calendar
    have hclock := waitingClock_of_justifies hjust
    obtain ⟨reachedOn, hfalls⟩ :=
      fallsOn_of_waited (by have := policy.fromDay_range.1; omega) hclock hjust.waited
    have hsince : clockSince (some ready) asOf holds false =
        .ok (some (runningClock ready asOf holds)) := by
      rw [clockSince, hclock]
      rfl
    have hdays : (countedSince (some ready) attemptTimes).mapM shopDate =
        .ok ((countedSince (some ready) attemptTimes).map shopDay) := by
      refine mapM_shopDate.mpr ⟨fun moment hmem => ⟨?_, hcounted moment hmem⟩, rfl⟩
      have hready := hjust.ready
      have hsinceReady : ready ≤ moment := of_decide_eq_true (List.mem_filter.mp hmem).2
      omega
    have hwaited := (le_days_running policy.fromDay_range.1).mpr hjust.waited
    refine ⟨_, bind_ok.mpr ⟨_, hdays, bind_ok.mpr ⟨_, hsince, bind_ok.mpr ⟨_, hfalls, rfl⟩⟩⟩, ?_⟩
    rw [DisposalVerdict.allowed, List.isEmpty_iff]
    exact List.append_eq_nil_iff.mpr
      ⟨rfl, refusals_nil.mpr ⟨⟨_, rfl, hwaited⟩, hjust.attempts, hjust.days⟩⟩

lemma countedSince_perm {times times' : List Int} (h : times.Perm times') (ready : Option Int) :
    (countedSince ready times).Perm (countedSince ready times') := by
  cases ready with
  | none => exact List.Perm.refl _
  | some ready => exact h.filter _

lemma shopDays_perm {times times' : List Int} (h : times.Perm times') :
    shopDays times = shopDays times' := by
  rw [shopDays, shopDays, List.toFinset_eq_of_perm _ _ (h.map shopDay)]

lemma justifies_perm {times times' : List Int} (h : times.Perm times') :
    Justifies policy readyAt asOf times holds ↔ Justifies policy readyAt asOf times' holds := by
  have himp : ∀ {times times' : List Int}, times.Perm times' →
      Justifies policy readyAt asOf times holds → Justifies policy readyAt asOf times' holds := by
    intro times times' h hjust
    have hcounted := countedSince_perm h (some readyAt)
    refine ⟨hjust.ready, fun moment hmem => hjust.calendar moment ?_, hjust.waited,
      hjust.attempts.trans_eq hcounted.length_eq, hjust.days.trans_eq (shopDays_perm hcounted)⟩
    exact (hcounted.symm.cons asOf).mem_iff.mp hmem
  exact ⟨himp h, himp h.symm⟩

lemma justifies_newest {limit : Nat} (hnewest : NewestFirst attemptTimes)
    (hlimit : policy.disposalMinAttempts ≤ limit) :
    Justifies policy readyAt asOf (attemptTimes.take limit) holds ↔
      Justifies policy readyAt asOf attemptTimes holds ∧ policy.disposalMinAttemptDays ≤
        shopDays (countedSince (some readyAt) (attemptTimes.take limit)) := by
  have hpos : 0 < limit := lt_of_lt_of_le policy.attempts_range.1 hlimit
  have hcalendar : (∀ moment ∈ onSince readyAt (attemptTimes.take limit),
      moment + shopOffset < wallLimit) ↔
      ∀ moment ∈ onSince readyAt attemptTimes, moment + shopOffset < wallLimit := by
    have hbound := @bounded_take Int _ readyAt ((wallLimit : Int) - shopOffset) _ _ hnewest hpos
    simpa only [lt_sub_iff_add_lt] using hbound
  constructor
  · intro h
    obtain ⟨hasOf, hcounted⟩ := List.forall_mem_cons.mp h.calendar
    exact ⟨⟨h.ready, List.forall_mem_cons.mpr ⟨hasOf, hcalendar.mp hcounted⟩, h.waited,
      (enough_take hnewest hlimit).mp h.attempts, h.days.trans (days_take_le shopDay)⟩, h.days⟩
  · rintro ⟨h, hdays⟩
    obtain ⟨hasOf, hcounted⟩ := List.forall_mem_cons.mp h.calendar
    exact ⟨h.ready, List.forall_mem_cons.mpr ⟨hasOf, hcalendar.mpr hcounted⟩, h.waited,
      (enough_take hnewest hlimit).mpr h.attempts, hdays⟩

lemma mapM_shopDate_error (h : ¬ ∀ moment ∈ moments,
    0 ≤ moment + shopOffset ∧ moment + shopOffset < wallLimit) :
    moments.mapM shopDate = .error .overflowError := by
  induction moments with
  | nil => exact absurd (fun moment hmem => absurd hmem List.not_mem_nil) h
  | cons moment moments ih =>
    rw [List.mapM_cons]
    by_cases hin : 0 ≤ moment + shopOffset ∧ moment + shopOffset < wallLimit
    · rw [shopDate_ok.mpr ⟨hin, rfl⟩, ok_bind, ih fun hrest =>
        h (List.forall_mem_cons.mpr ⟨hin, hrest⟩)]
      rfl
    · rw [shopDate, require_false hin]
      rfl

lemma disposalVerdict_perm {policy : Option DisposalPolicy} {awaiting paused : Bool}
    {readyAt : Option Int} {times times' : List Int} (h : times.Perm times') :
    disposalVerdict policy awaiting readyAt asOf times holds paused =
      disposalVerdict policy awaiting readyAt asOf times' holds paused := by
  have hcounted := countedSince_perm h readyAt
  rw [disposalVerdict, disposalVerdict]
  by_cases hin : ∀ moment ∈ countedSince readyAt times,
      0 ≤ moment + shopOffset ∧ moment + shopOffset < wallLimit
  · have hin' : ∀ moment ∈ countedSince readyAt times',
        0 ≤ moment + shopOffset ∧ moment + shopOffset < wallLimit :=
      fun moment hmem => hin moment (hcounted.mem_iff.mpr hmem)
    rw [mapM_shopDate.mpr ⟨hin, rfl⟩, mapM_shopDate.mpr ⟨hin', rfl⟩, ok_bind, ok_bind,
      hcounted.length_eq, List.toFinset_eq_of_perm _ _ (hcounted.map shopDay)]
  · have hin' : ¬ ∀ moment ∈ countedSince readyAt times',
        0 ≤ moment + shopOffset ∧ moment + shopOffset < wallLimit :=
      fun hall => hin fun moment hmem => hall moment (hcounted.mem_iff.mp hmem)
    rw [mapM_shopDate_error hin, mapM_shopDate_error hin']
    rfl

end NhaTrangLaundry.Domain.Unclaimed
