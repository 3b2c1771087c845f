import NhaTrangLaundry.Domain.PromiseTimes

/-! What the sums of a promise keep to: the opening hours, the order of their arguments, their own
sums, and the Tết days that are not published. -/

namespace NhaTrangLaundry.Domain.Promise

open Lib Outcome Gregorian Canonical Unclaimed Ticks

namespace TurnaroundPolicy

/-- A sum ends later than its start, in opening hours, at a time that a person may set. -/
def Offered (policy : TurnaroundPolicy)
    (add : Datetime → Nat → Except PromiseError (Option Int)) : Prop :=
  ∀ start hours moment, add start hours = .ok (some moment) →
    policy.offers start.instant moment ∧
      ∀ at_ : Datetime, at_.aware → at_.instant = moment →
        checkPromiseTime policy at_ start = .ok moment

/-- A sum stops at the Tết days that are not published, of those from its start to where it ends
once they are, and at no others. -/
def StopsAtTet (policy : TurnaroundPolicy)
    (add : TurnaroundPolicy → Datetime → Nat → Except PromiseError (Option Int)) : Prop :=
  (∀ start hours moment, add policy.published start hours = .ok (some moment) →
    (add policy start hours = .ok none ↔
      policy.tetWithin (shopDay start.instant) (shopDay moment)) ∧
    (add policy start hours ≠ .ok none → add policy start hours = .ok (some moment))) ∧
  ∀ start hours moment, add policy start hours = .ok (some moment) →
    ¬ policy.tetWithin (shopDay start.instant) (shopDay moment)

end TurnaroundPolicy

def Ordered (add : Datetime → Nat → Except PromiseError (Option Int)) : Prop :=
  ∀ (start start' : Datetime) (hours hours' : Nat) (moment moment' : Int),
    start.instant ≤ start'.instant → hours ≤ hours' → add start hours = .ok (some moment) →
      add start' hours' = .ok (some moment') → moment ≤ moment'

def Additive (add : Datetime → Nat → Except PromiseError (Option Int)) : Prop :=
  ∀ (start : Datetime) (a b : Nat) (moment : Int), (minuteMicros : Int) ∣ start.instant → 0 < a →
    0 < b → add start (a + b) = .ok (some moment) →
      ∃ between, add start a = .ok (some between) ∧
        ∀ at_ : Datetime, at_.aware → at_.instant = between → add at_ b = .ok (some moment)

section

variable {policy : TurnaroundPolicy}

lemma openTick_block (n : Nat) (hoff : ¬ minuteMicros ∣ n) :
    policy.openTick n ↔ policy.openTick (n + 1) := by
  have hcloses := policy.closes_lt
  have hclock := Nat.div_add_mod n dayMicros
  have hmod : n % dayMicros < dayMicros := Nat.mod_lt n (by decide)
  have hdays : minuteMicros ∣ dayMicros * (n / dayMicros) := Dvd.dvd.mul_right (by decide) _
  have hclockOff : ¬ minuteMicros ∣ n % dayMicros := fun h => hoff (hclock ▸ Nat.dvd_add hdays h)
  have hopensNe : n % dayMicros ≠ policy.opensAt := fun h => hclockOff (h ▸ policy.onMinute.1)
  have hclosesNe : n % dayMicros ≠ policy.closesAt := fun h => hclockOff (h ▸ policy.onMinute.2)
  rw [Nat.mul_comm] at hclock
  by_cases hlast : n % dayMicros + 1 < dayMicros
  · obtain ⟨hday, htime⟩ := @clock_of_day (n / dayMicros) (n % dayMicros + 1) hlast
    rw [← Nat.add_assoc, hclock] at hday htime
    rw [TurnaroundPolicy.openTick, TurnaroundPolicy.openTick, hday, htime]
    refine and_congr_right fun _ => ?_
    omega
  · have hnext : n + 1 = (n / dayMicros + 1) * dayMicros + 0 := by
      rw [Nat.add_mul]
      omega
    have htime := (@clock_of_day (n / dayMicros + 1) 0 (by decide)).2
    rw [← hnext] at htime
    have hminute : ¬ n % dayMicros ≤ policy.closesAt := by omega
    rw [TurnaroundPolicy.openTick, TurnaroundPolicy.openTick, htime]
    constructor
    · rintro ⟨-, -, hbefore⟩
      exact absurd hbefore hminute
    · rintro ⟨-, hafter, -⟩
      omega

lemma hours_on_minute (hours : Nat) : minuteMicros ∣ hours * hourMicros :=
  Dvd.dvd.mul_left (by decide) hours

namespace Reaches

variable {start start' : Datetime} {hours hours' wall wall' l l' a b : Nat}

lemma mono (h : Reaches policy start hours wall l) (h' : Reaches policy start' hours' wall' l')
    (hstart : start.instant ≤ start'.instant) (hle : hours ≤ hours') :
    floorMinute l ≤ floorMinute l' := by
  have hwall := (shopClock_ok h.clock).2
  have hwall' := (shopClock_ok h'.clock).2
  exact floorMinute_mono (h.lands.mono h'.lands (by omega) (Nat.mul_le_mul_right _ hle))

lemma minute (h : Reaches policy start hours wall l) (hstart : (minuteMicros : Int) ∣ start.instant) :
    minuteMicros ∣ l := by
  have hwall := (shopClock_ok h.clock).2
  have hminute : (minuteMicros : Int) ∣ wall := hwall ▸ Int.dvd_add hstart (by decide)
  exact h.lands.dvd (by decide) openTick_block (Int.natCast_dvd_natCast.mp hminute)
    (hours_on_minute hours)

lemma split (h : Reaches policy start (a + b) wall l) (ha : 0 < a) (hb : 0 < b) :
    ∃ m, m ≤ l ∧ wall ≤ m ∧ Reaches policy start a wall m ∧
      Lands policy.openTick m (b * hourMicros) l := by
  have hdelta := h.delta
  have hwalked := h.walked
  have hlast := h.last
  have hlands := h.lands
  rw [Nat.add_mul] at hlands
  obtain ⟨m, hml, hm, hrest⟩ := hlands.split (hour_pos ha)
  have hday : m / dayMicros ≤ l / dayMicros := Nat.div_le_div_right hml
  have hwall := hm.le (hour_pos ha)
  exact ⟨m, hml, by omega, ⟨h.clock, ha, by omega, hm, by omega, by omega⟩, hrest⟩

end Reaches

lemma addOpeningHours_offered : policy.Offered (addOpeningHours policy) := by
  intro start hours moment h
  obtain ⟨wall, l, hreaches, rfl, -⟩ := addOpeningHours_some h
  have hopen := openAt_floorMinute hreaches.lands.tick
  have hlater := hreaches.lt_floor
  have hoffset := (shopClock_bounds hreaches.clock).1
  refine ⟨⟨hreaches.offers, floorMinute l, rfl, hopen⟩, fun at_ haware hinstant => ?_⟩
  rw [← hinstant]
  refine checkPromiseTime_landing hreaches.aware haware hinstant ?_ (minute_dvd_floorMinute l) hopen
    (by omega) hreaches.limit
  rw [hinstant]
  exact hreaches.offers

lemma addCalendarHours_offered : policy.Offered (addCalendarHours policy) := by
  intro start hours moment h
  obtain ⟨wall, l, hrolls, rfl, hlast, -⟩ := addCalendarHours_some h
  obtain ⟨⟨⟨hopen, -⟩, -⟩, hminute⟩ := hrolls.least
  obtain ⟨haware, hclock⟩ := shopClock_ok hrolls.clock
  have hlater := hrolls.later
  have hoffset := (shopClock_bounds hrolls.clock).1
  have hlimit : l < wallLimit := (Nat.div_lt_iff_lt_mul (by decide)).mp (Nat.lt_of_succ_lt hlast)
  have hafter : start.instant < (l : Int) - shopOffset := by omega
  refine ⟨⟨hafter, l, rfl, hopen⟩, fun at_ haware' hinstant => ?_⟩
  rw [← hinstant]
  refine checkPromiseTime_landing haware haware' hinstant ?_ hminute hopen (by omega) hlimit
  rw [hinstant]
  exact hafter

lemma addOpeningHours_ordered : Ordered (addOpeningHours policy) := by
  intro start start' hours hours' moment moment' hstart hle h h'
  obtain ⟨wall, l, hreaches, rfl, -⟩ := addOpeningHours_some h
  obtain ⟨wall', l', hreaches', rfl, -⟩ := addOpeningHours_some h'
  have hmono := hreaches.mono hreaches' hstart hle
  omega

lemma addCalendarHours_ordered : Ordered (addCalendarHours policy) := by
  intro start start' hours hours' moment moment' hstart hle h h'
  obtain ⟨wall, l, hrolls, rfl, -, -⟩ := addCalendarHours_some h
  obtain ⟨wall', l', hrolls', rfl, -, -⟩ := addCalendarHours_some h'
  obtain ⟨⟨hopen, hfrom⟩, -⟩ := hrolls'.least.1
  have hwall := (shopClock_ok hrolls.clock).2
  have hwall' := (shopClock_ok hrolls'.clock).2
  have hmul := Nat.mul_le_mul_right hourMicros hle
  have hfloor : floorMinute (wall + hours * hourMicros) ≤ floorMinute (wall' + hours' * hourMicros) :=
    floorMinute_mono (by omega)
  have hleast : l ≤ l' := hrolls.least.1.2 ⟨hopen, hfloor.trans hfrom⟩
  omega

lemma addOpeningHours_additive : Additive (addOpeningHours policy) := by
  intro start a b moment hminute ha hb h
  obtain ⟨wall, l, hreaches, rfl, htet⟩ := addOpeningHours_some h
  obtain ⟨m, hml, hwm, hfirst, hrest⟩ := hreaches.split ha hb
  have hdays : wall / dayMicros ≤ m / dayMicros := Nat.div_le_div_right hwm
  have hdays' : m / dayMicros ≤ l / dayMicros := Nat.div_le_div_right hml
  have hfirstTet : ¬ policy.tetWithin (wall / dayMicros) (m / dayMicros) := by
    rintro ⟨n, hn, hn', hunknown⟩
    exact htet ⟨n, hn, by omega, hunknown⟩
  have hrestTet : ¬ policy.tetWithin (m / dayMicros) (l / dayMicros) := by
    rintro ⟨n, hn, hn', hunknown⟩
    exact htet ⟨n, by omega, hn', hunknown⟩
  have hfloor := floorMinute_of_dvd (hfirst.minute hminute)
  have hlimit := hfirst.limit
  have hoffset := (shopClock_bounds hreaches.clock).1
  refine ⟨_, hfirst.add_some hfirstTet, fun at_ haware hinstant => ?_⟩
  rw [hfloor] at hinstant hlimit
  have hdelta := hreaches.delta
  have hwalked := hreaches.walked
  have hsecond : Reaches policy at_ b m l :=
    ⟨shopClock_of_instant haware hinstant (by omega) hlimit, hb, by omega, hrest, by omega,
      hreaches.last⟩
  exact hsecond.add_some hrestTet

lemma addOpeningHours_stopsAtTet : policy.StopsAtTet addOpeningHours := by
  refine ⟨fun start hours moment h => ?_, fun start hours moment h => ?_⟩
  · obtain ⟨wall, l, hreaches, rfl, -⟩ := addOpeningHours_some h
    have hpolicy : Reaches policy start hours wall l :=
      ⟨hreaches.clock, hreaches.positive, hreaches.delta, hreaches.lands, hreaches.walked, hreaches.last⟩
    rw [shopDay, shopDay, shopWall_of_clock hreaches.clock, shopWall_landing, floorMinute_day]
    by_cases htet : policy.tetWithin (wall / dayMicros) (l / dayMicros)
    · rw [hpolicy.add_none htet]
      exact ⟨iff_of_true rfl htet, fun hne => absurd rfl hne⟩
    · rw [hpolicy.add_some htet]
      exact ⟨iff_of_false (fun heq => by cases heq) htet, fun _ => rfl⟩
  · obtain ⟨wall, l, hreaches, rfl, htet⟩ := addOpeningHours_some h
    rw [shopDay, shopDay, shopWall_of_clock hreaches.clock, shopWall_landing, floorMinute_day]
    exact htet

lemma addCalendarHours_stopsAtTet : policy.StopsAtTet addCalendarHours := by
  refine ⟨fun start hours moment h => ?_, fun start hours moment h => ?_⟩
  · obtain ⟨wall, l, hrolls, rfl, hlast, -⟩ := addCalendarHours_some h
    rw [shopDay, shopDay, shopWall_of_clock hrolls.clock, shopWall_landing]
    by_cases htet : policy.tetWithin (wall / dayMicros) (l / dayMicros)
    · rw [hrolls.ofPublished.add_none htet]
      exact ⟨iff_of_true rfl htet, fun hne => absurd rfl hne⟩
    · rw [hrolls.ofPublished.add_some hlast htet]
      exact ⟨iff_of_false (fun heq => by cases heq) htet, fun _ => rfl⟩
  · obtain ⟨wall, l, hrolls, rfl, -, htet⟩ := addCalendarHours_some h
    rw [shopDay, shopDay, shopWall_of_clock hrolls.clock, shopWall_landing]
    exact htet

lemma addCalendarHours_none {start : Datetime} {hours : Nat}
    (h : addCalendarHours policy start hours = .ok none) :
    ∃ l, IsLeast {w | policy.openAt w ∧
        floorMinute (shopWall start.instant + hours * hourMicros) ≤ w} l ∧
      policy.tetWithin (shopDay start.instant) (l / dayMicros) := by
  obtain ⟨wall, l, hrolls, ⟨htet, -⟩ | ⟨-, -, hsome⟩⟩ := addCalendarHours_rolls h
  · refine ⟨l, ?_, ?_⟩
    · rw [shopWall_of_clock hrolls.clock]
      exact hrolls.least.1
    · rw [shopDay, shopWall_of_clock hrolls.clock]
      exact htet
  · cases hsome

lemma addOpeningHours_earliest {start : Datetime} {hours : Nat} {moment : Int}
    (h : addOpeningHours policy start hours = .ok (some moment)) :
    ∃ l, moment = floorMinute l - shopOffset ∧
      policy.openTime (shopWall start.instant) l = hours * hourMicros ∧
      ∀ m < l, policy.openTime (shopWall start.instant) m < hours * hourMicros := by
  obtain ⟨wall, l, hreaches, rfl, -⟩ := addOpeningHours_some h
  rw [shopWall_of_clock hreaches.clock]
  exact ⟨l, rfl, hreaches.lands.elapsed_eq, fun m hm =>
    hreaches.lands.elapsed_lt (hour_pos hreaches.positive) hm⟩

end

/-- The opening hours of a promise are counted, offered, ordered and added as the shop keeps them,
its calendar hours are offered and ordered as well, and both stop at an unpublished Tết. -/
theorem promise_keeps_hours (policy : TurnaroundPolicy) :
    (∀ start hours moment, addOpeningHours policy start hours = .ok (some moment) →
      ∃ l, moment = floorMinute l - shopOffset ∧
        policy.openTime (shopWall start.instant) l = hours * hourMicros ∧
        ∀ m < l, policy.openTime (shopWall start.instant) m < hours * hourMicros) ∧
    (policy.Offered (addOpeningHours policy) ∧ policy.Offered (addCalendarHours policy)) ∧
    (Ordered (addOpeningHours policy) ∧ Ordered (addCalendarHours policy)) ∧
    Additive (addOpeningHours policy) ∧
    (policy.StopsAtTet addOpeningHours ∧ policy.StopsAtTet addCalendarHours) ∧
    (∀ start hours, addOpeningHours policy start hours = .ok none →
      ∃ n, shopDay start.instant ≤ n ∧ policy.tetUnknown n ∧
        policy.openTime (shopWall start.instant) (n * dayMicros) < hours * hourMicros) ∧
    ∀ start hours, addCalendarHours policy start hours = .ok none →
      ∃ l, IsLeast {w | policy.openAt w ∧
          floorMinute (shopWall start.instant + hours * hourMicros) ≤ w} l ∧
        policy.tetWithin (shopDay start.instant) (l / dayMicros) :=
  ⟨fun _ _ _ => addOpeningHours_earliest,
    ⟨addOpeningHours_offered, addCalendarHours_offered⟩,
    ⟨addOpeningHours_ordered, addCalendarHours_ordered⟩,
    addOpeningHours_additive,
    ⟨addOpeningHours_stopsAtTet, addCalendarHours_stopsAtTet⟩,
    fun _ _ => addOpeningHours_none,
    fun _ _ => addCalendarHours_none⟩

lemma daily_opens : 8 * hourMicros < 20 * hourMicros := by decide

lemma daily_closes : 20 * hourMicros < dayMicros := by decide

lemma daily_minutes : minuteMicros ∣ 8 * hourMicros ∧ minuteMicros ∣ 20 * hourMicros := by decide

lemma daily_express : 0 < 2 := by decide

def dailyPolicy : TurnaroundPolicy where
  opensAt := 8 * hourMicros
  closesAt := 20 * hourMicros
  recurringClosed := []
  closedDates := [739471]
  tetYears := []
  scopes := fun _ => .human
  services := []
  expressHours := 2
  opens_lt := daily_opens
  closes_lt := daily_closes
  onMinute := daily_minutes
  express_pos := daily_express

def dayBefore : Datetime := .ofUtc (739470 * dayMicros + 8 * hourMicros) (by decide)

/-- Eight opening hours pass the closed day and end at eleven on the next; eight hours of the
calendar end in the night, and are moved to the next opening. -/
theorem dailyPolicy_keeps_hours :
    addOpeningHours dailyPolicy dayBefore 8 = .ok (some (739472 * dayMicros + 4 * hourMicros)) ∧
    addCalendarHours dailyPolicy dayBefore 8 = .ok (some (739472 * dayMicros + hourMicros)) ∧
    (∃ l, (739472 * dayMicros + 4 * hourMicros : Int) = floorMinute l - shopOffset ∧
      dailyPolicy.openTime (shopWall dayBefore.instant) l = 8 * hourMicros) ∧
    dailyPolicy.offers dayBefore.instant (739472 * dayMicros + hourMicros) := by
  have hopening : addOpeningHours dailyPolicy dayBefore 8 =
      .ok (some (739472 * dayMicros + 4 * hourMicros)) := by decide +kernel
  have hcalendar : addCalendarHours dailyPolicy dayBefore 8 =
      .ok (some (739472 * dayMicros + hourMicros)) := by decide +kernel
  obtain ⟨hearliest, ⟨-, hoffered⟩, -⟩ := promise_keeps_hours dailyPolicy
  obtain ⟨l, hmoment, htime, -⟩ := hearliest _ _ _ hopening
  exact ⟨hopening, hcalendar, ⟨l, hmoment, htime⟩, (hoffered _ _ _ hcalendar).1⟩

end NhaTrangLaundry.Domain.Promise
