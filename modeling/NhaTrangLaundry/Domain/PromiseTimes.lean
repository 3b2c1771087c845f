import NhaTrangLaundry.Domain.PromiseHours
import Mathlib.Order.Bounds.Defs

/-! The two sums of a promise: opening hours counted, and calendar hours rolled to an opening. -/

namespace NhaTrangLaundry.Domain.Promise

open Lib Outcome Gregorian Canonical Unclaimed Ticks
open Nat (count)

def shopWall (moment : Int) : Nat := (moment + shopOffset).toNat

def shopDay (moment : Int) : Nat := shopWall moment / dayMicros

@[irreducible] def everyYear : List Nat := (List.range lastYear).map Nat.succ

def TurnaroundPolicy.published (policy : TurnaroundPolicy) : TurnaroundPolicy :=
  { policy with tetYears := everyYear }

section

variable {policy : TurnaroundPolicy} {start moment : Datetime} {hours wall l n : Nat}

lemma shopWall_of_clock (h : shopClock moment = .ok wall) : shopWall moment.instant = wall := by
  rw [shopWall, ← (shopClock_ok h).2, Int.toNat_natCast]

lemma shopWall_landing (l : Nat) : shopWall ((l : Int) - shopOffset) = l := by
  rw [shopWall, Int.sub_add_cancel, Int.toNat_natCast]

lemma shopClock_bounds (h : shopClock moment = .ok wall) :
    shopOffset ≤ (wall : Int) ∧ wall < wallLimit := by
  obtain ⟨_, -, h⟩ := bind_ok.mp h
  obtain ⟨utc, -, h⟩ := bind_ok.mp h
  obtain ⟨_, hlimit, h⟩ := bind_ok.mp h
  rw [require_ok] at hlimit
  cases h
  have hoffset : (0 : Int) ≤ shopOffset := by decide
  omega

lemma shopClock_of_instant (haware : moment.aware) (hinstant : moment.instant = wall - shopOffset)
    (hoffset : shopOffset ≤ (wall : Int)) (hlimit : wall < wallLimit) :
    shopClock moment = .ok wall := by
  have hpos : (0 : Int) ≤ shopOffset := by decide
  have hrange : 0 ≤ moment.instant ∧ moment.instant < wallLimit := by omega
  have hutc : moment.toUtc = some (Datetime.ofUtc moment.instant.toNat (by omega)) := by
    rw [Datetime.toUtc, dif_pos hrange]
  have hwall := Datetime.wall_toUtc hutc
  rw [shopClock, require_true haware, ok_bind, hutc, ofOption, ok_bind,
    require_true (by rw [hwall]; omega), ok_bind]
  congr 1
  omega

lemma floorMinute_day (l : Nat) : floorMinute l / dayMicros = l / dayMicros := by
  have hlow : l / dayMicros * dayMicros ≤ floorMinute l :=
    le_floorMinute (Dvd.dvd.mul_left (by decide) _) (Nat.div_mul_le_self l dayMicros)
  refine le_antisymm (Nat.div_le_div_right (floorMinute_le l)) ?_
  exact (Nat.le_div_iff_mul_le (by decide)).mpr hlow

lemma minute_dvd_floorMinute (l : Nat) : minuteMicros ∣ floorMinute l :=
  Nat.dvd_sub_mod l

lemma floorMinute_of_dvd (h : minuteMicros ∣ l) : floorMinute l = l := by
  rw [floorMinute, Nat.mod_eq_zero_of_dvd h, Nat.sub_zero]

lemma openAt_iff : policy.openAt l ↔ ¬ policy.isClosed (l / dayMicros) ∧
    l / dayMicros * dayMicros + policy.opensAt ≤ l ∧
    l ≤ l / dayMicros * dayMicros + policy.closesAt := by
  have hclock := Nat.div_add_mod l dayMicros
  rw [Nat.mul_comm] at hclock
  rw [TurnaroundPolicy.openAt]
  refine and_congr_right fun _ => ?_
  omega

lemma openAt_floorMinute (h : policy.openTick l) : policy.openAt (floorMinute l) := by
  have hopen : policy.openAt l := ⟨h.1, h.2.1.le, h.2.2⟩
  obtain ⟨hday, hopens, hcloses⟩ := openAt_iff.mp hopen
  exact openAt_of_within hday (le_floorMinute (minute_dvd_opening _) hopens)
    ((floorMinute_le l).trans hcloses)

lemma checkPromiseTime_landing (hstart : start.aware) (haware : moment.aware)
    (hinstant : moment.instant = l - shopOffset) (hafter : start.instant < moment.instant)
    (hminute : minuteMicros ∣ l) (hopen : policy.openAt l) (hoffset : shopOffset ≤ (l : Int))
    (hlimit : l < wallLimit) : checkPromiseTime policy moment start = .ok moment.instant := by
  rw [checkPromiseTime, shopClock_of_instant haware hinstant hoffset hlimit, ok_bind,
    require_true hstart, ok_bind, floorMinute_of_dvd hminute]
  dsimp only
  rw [require_true (by omega), ok_bind, require_true hopen.1, ok_bind, require_true hopen.2, ok_bind,
    shopInstant, require_true hoffset, ok_bind, hinstant]

end

section Opening

variable {policy : TurnaroundPolicy} {start start' : Datetime} {hours hours' wall wall' l l' : Nat}
  {moment : Int}

/-- Where the hours have passed by the opening hours, within reach of the walk. -/
structure Reaches (policy : TurnaroundPolicy) (start : Datetime) (hours wall l : Nat) : Prop where
  clock : shopClock start = .ok wall
  positive : 0 < hours
  delta : hours / 24 ≤ 999999999
  lands : Lands policy.openTick wall (hours * hourMicros) l
  walked : l / dayMicros < wall / dayMicros + maxDaysWalked
  last : l / dayMicros < maxDay

lemma requireHours_ok {u : Unit} (h : requireHours start hours = .ok u) : start.aware ∧ 0 < hours := by
  obtain ⟨_, haware, h⟩ := bind_ok.mp h
  exact ⟨require_ok.mp haware, require_ok.mp h⟩

lemma hoursDelta_bound {delta : Nat} (h : hoursDelta hours = .ok delta) : hours / 24 ≤ 999999999 := by
  obtain ⟨_, hbound, -⟩ := bind_ok.mp h
  exact require_ok.mp hbound

lemma hour_pos (h : 0 < hours) : 0 < hours * hourMicros :=
  Nat.mul_pos h (by decide)

lemma wall_within (wall : Nat) :
    wall / dayMicros * dayMicros ≤ wall ∧ wall < (wall / dayMicros + 1) * dayMicros :=
  ⟨Nat.div_mul_le_self _ _, Nat.lt_mul_of_div_lt (Nat.lt_succ_self _) (by decide)⟩

lemma day_lt_maxDay (h : wall < wallLimit) : wall / dayMicros < maxDay :=
  Nat.div_lt_of_lt_mul (by rwa [Nat.mul_comm])

namespace Reaches

lemma aware (h : Reaches policy start hours wall l) : start.aware := (shopClock_ok h.clock).1

lemma lt_floor (h : Reaches policy start hours wall l) : wall < floorMinute l :=
  lt_of_lt_of_le (lt_floorMinute_add h.positive)
    (floorMinute_mono (h.lands.le (hour_pos h.positive)))

lemma limit (h : Reaches policy start hours wall l) : floorMinute l < wallLimit := by
  have hlast := h.last
  rw [← floorMinute_day, Nat.div_lt_iff_lt_mul (by decide)] at hlast
  exact hlast

lemma add_eq (h : Reaches policy start hours wall l) : addOpeningHours policy start hours =
    walkOpening policy maxDaysWalked (wall / dayMicros) wall (hours * hourMicros) >>= fun landing =>
      match landing with
      | none => .ok none
      | some landing => some <$> shopInstant landing := by
  rw [addOpeningHours, requireHours, require_true h.aware, ok_bind, require_true h.positive, ok_bind,
    h.clock, ok_bind, hoursDelta, require_true h.delta, ok_bind]
  rfl

lemma add_none (h : Reaches policy start hours wall l)
    (htet : policy.tetWithin (wall / dayMicros) (l / dayMicros)) :
    addOpeningHours policy start hours = .ok none := by
  obtain ⟨hnone, -⟩ := walkOpening_of_lands (wall_within wall).1 (wall_within wall).2
    (hour_pos h.positive) h.lands h.walked h.last
  rw [h.add_eq, hnone htet, ok_bind]

lemma add_some (h : Reaches policy start hours wall l)
    (htet : ¬ policy.tetWithin (wall / dayMicros) (l / dayMicros)) :
    addOpeningHours policy start hours = .ok (some ((floorMinute l : Int) - shopOffset)) := by
  obtain ⟨-, hsome⟩ := walkOpening_of_lands (wall_within wall).1 (wall_within wall).2
    (hour_pos h.positive) h.lands h.walked h.last
  have hoffset := (shopClock_bounds h.clock).1
  have hlater := h.lt_floor
  rw [h.add_eq, hsome htet, ok_bind]
  dsimp only
  rw [shopInstant, require_true (by omega)]
  rfl

lemma offers (h : Reaches policy start hours wall l) :
    start.instant < (floorMinute l : Int) - shopOffset := by
  have hclock := (shopClock_ok h.clock).2
  have hlater := h.lt_floor
  omega

end Reaches

lemma addOpeningHours_some (h : addOpeningHours policy start hours = .ok (some moment)) :
    ∃ wall l, Reaches policy start hours wall l ∧ moment = floorMinute l - shopOffset ∧
      ¬ policy.tetWithin (wall / dayMicros) (l / dayMicros) := by
  obtain ⟨_, hrequired, h⟩ := bind_ok.mp h
  obtain ⟨wall, hwall, h⟩ := bind_ok.mp h
  obtain ⟨remaining, hremaining, h⟩ := bind_ok.mp h
  obtain ⟨landing, hlanding, h⟩ := bind_ok.mp h
  obtain ⟨-, hpos⟩ := requireHours_ok hrequired
  cases hoursDelta_ok hremaining
  cases landing with
  | none => cases h
  | some landing =>
    obtain ⟨moment', hmoment, h⟩ := map_ok.mp h
    cases h
    cases shopInstant_ok hmoment
    obtain ⟨l, hlands, hl, hwalked, hlast, htet⟩ :=
      walkOpening_lands (wall_within wall).1 (wall_within wall).2 (hour_pos hpos)
        (day_lt_maxDay (shopClock_bounds hwall).2) hlanding
    subst hl
    exact ⟨wall, l, ⟨hwall, hpos, hoursDelta_bound hremaining, hlands, hwalked, hlast⟩, rfl, htet⟩

lemma addOpeningHours_none (h : addOpeningHours policy start hours = .ok none) :
    ∃ n, shopDay start.instant ≤ n ∧ policy.tetUnknown n ∧
      policy.openTime (shopWall start.instant) (n * dayMicros) < hours * hourMicros := by
  obtain ⟨_, hrequired, h⟩ := bind_ok.mp h
  obtain ⟨wall, hwall, h⟩ := bind_ok.mp h
  obtain ⟨remaining, hremaining, h⟩ := bind_ok.mp h
  obtain ⟨landing, hlanding, h⟩ := bind_ok.mp h
  obtain ⟨-, hpos⟩ := requireHours_ok hrequired
  cases hoursDelta_ok hremaining
  cases landing with
  | none =>
    rw [shopDay, shopWall_of_clock hwall]
    exact walkOpening_none (wall_within wall).1 (wall_within wall).2 (hour_pos hpos) hlanding
  | some landing =>
    obtain ⟨_, -, h⟩ := map_ok.mp h
    cases h

end Opening

section Calendar

variable {policy : TurnaroundPolicy} {start : Datetime} {hours wall l today landing n : Nat}
  {moment : Int}

lemma openAt_day_le {w : Nat} (h : policy.openAt w) (hday : today ≤ w / dayMicros) :
    today * dayMicros + policy.opensAt ≤ w := by
  obtain ⟨-, hopens, -⟩ := openAt_iff.mp h
  have hmul := Nat.mul_le_mul_right dayMicros hday
  omega

lemma day_of_within (hopens : today * dayMicros + policy.opensAt ≤ landing)
    (hcloses : landing ≤ today * dayMicros + policy.closesAt) : landing / dayMicros = today := by
  have hlt := policy.closes_lt
  obtain ⟨t, rfl⟩ := Nat.exists_eq_add_of_le (show today * dayMicros ≤ landing by omega)
  exact (clock_of_day (by omega)).1

lemma rolled_le {first : Nat × Nat} {w : Nat} (h : rolled policy landing = .ok first)
    (hw : policy.openAt w) (hle : landing ≤ w) : first.2 ≤ w := by
  have hday : landing / dayMicros ≤ w / dayMicros := Nat.div_le_div_right hle
  obtain ⟨-, hopens, hcloses⟩ := openAt_iff.mp hw
  rw [rolled] at h
  by_cases hearly : landing % dayMicros < policy.opensAt
  · rw [if_pos hearly] at h
    cases h
    exact openAt_day_le hw hday
  rw [if_neg hearly] at h
  by_cases hlate : policy.closesAt < landing % dayMicros
  · rw [if_pos hlate] at h
    obtain ⟨tomorrow, htomorrow, h⟩ := bind_ok.mp h
    cases dayAfter_ok htomorrow
    cases h
    refine openAt_day_le hw (lt_of_le_of_ne hday fun hsame => ?_)
    have hclock := Nat.div_add_mod landing dayMicros
    rw [hsame, Nat.mul_comm] at hclock
    omega
  · rw [if_neg hlate] at h
    cases h
    exact hle

lemma rolled_minute {first : Nat × Nat} (h : rolled policy landing = .ok first)
    (hminute : minuteMicros ∣ landing) : minuteMicros ∣ first.2 := by
  rw [rolled] at h
  by_cases hearly : landing % dayMicros < policy.opensAt
  · rw [if_pos hearly] at h
    cases h
    exact minute_dvd_opening _
  rw [if_neg hearly] at h
  by_cases hlate : policy.closesAt < landing % dayMicros
  · rw [if_pos hlate] at h
    obtain ⟨tomorrow, -, h⟩ := bind_ok.mp h
    cases h
    exact minute_dvd_opening _
  · rw [if_neg hlate] at h
    cases h
    exact hminute

lemma nextOpen_least {days : Nat} {found : Nat × Nat}
    (h : nextOpen policy days today landing = .ok found)
    (hopens : today * dayMicros + policy.opensAt ≤ landing)
    (hcloses : landing ≤ today * dayMicros + policy.closesAt) (hminute : minuteMicros ∣ landing) :
    found.1 = found.2 / dayMicros ∧ minuteMicros ∣ found.2 ∧
      ∀ w, policy.openAt w → landing ≤ w → found.2 ≤ w := by
  induction days generalizing today landing with
  | zero => cases h
  | succ days ih =>
    rw [nextOpen] at h
    by_cases hopen : ¬ policy.isClosed today
    · rw [if_pos hopen] at h
      cases h
      exact ⟨(day_of_within hopens hcloses).symm, hminute, fun _ _ hle => hle⟩
    · rw [if_neg hopen] at h
      obtain ⟨tomorrow, htomorrow, h⟩ := bind_ok.mp h
      cases dayAfter_ok htomorrow
      obtain ⟨hday, hfound, hleast⟩ := ih h (le_refl _)
        (Nat.add_le_add_left policy.opens_lt.le _) (minute_dvd_opening _)
      refine ⟨hday, hfound, fun w hw hle => hleast w hw (openAt_day_le hw ?_)⟩
      have hsame : landing / dayMicros ≤ w / dayMicros := Nat.div_le_div_right hle
      rw [day_of_within hopens hcloses] at hsame
      refine lt_of_le_of_ne hsame fun heq => hopen ?_
      rw [heq]
      exact hw.1

lemma nextOpen_published (days today landing : Nat) :
    nextOpen policy.published days today landing = nextOpen policy days today landing := by
  induction days generalizing today landing with
  | zero => rfl
  | succ days ih =>
    rw [nextOpen, nextOpen]
    simp only [ih]
    rfl

/-- Where the hours end on the clock, rolled to a time at which the shop is open. -/
structure Rolls (policy : TurnaroundPolicy) (start : Datetime) (hours wall l : Nat) : Prop where
  clock : shopClock start = .ok wall
  positive : 0 < hours
  delta : hours / 24 ≤ 999999999
  limit : wall + hours * hourMicros < wallLimit
  search : (do
    let first ← rolled policy (floorMinute (wall + hours * hourMicros))
    nextOpen policy maxDaysWalked first.1 first.2) = .ok (l / dayMicros, l)

lemma tetWithin_iff_walked {first last : Nat} :
    (∃ n ∈ List.range' first (last + 1 - first), policy.tetUnknown n) ↔
      policy.tetWithin first last := by
  constructor
  · rintro ⟨n, hn, htet⟩
    rw [List.mem_range'_1] at hn
    exact ⟨n, hn.1, by omega, htet⟩
  · rintro ⟨n, hfirst, hlast, htet⟩
    exact ⟨n, List.mem_range'_1.mpr ⟨hfirst, by omega⟩, htet⟩

lemma Rolls.least (h : Rolls policy start hours wall l) :
    IsLeast {w | policy.openAt w ∧ floorMinute (wall + hours * hourMicros) ≤ w} l ∧
      minuteMicros ∣ l := by
  obtain ⟨first, hfirst, hfound⟩ := bind_ok.mp h.search
  obtain ⟨hopens, hcloses, hle⟩ := rolled_ok hfirst
  obtain ⟨hopen, hlater⟩ := nextOpen_ok hfound hopens hcloses
  obtain ⟨-, hminute, hleast⟩ :=
    nextOpen_least hfound hopens hcloses (rolled_minute hfirst (minute_dvd_floorMinute _))
  exact ⟨⟨⟨hopen, hle.trans hlater⟩, fun w hw => hleast w hw.1 (rolled_le hfirst hw.1 hw.2)⟩, hminute⟩

lemma Rolls.later (h : Rolls policy start hours wall l) : wall < l :=
  lt_of_lt_of_le (lt_floorMinute_add h.positive) h.least.1.1.2

lemma Rolls.ofPublished (h : Rolls policy.published start hours wall l) :
    Rolls policy start hours wall l := by
  refine ⟨h.clock, h.positive, h.delta, h.limit, ?_⟩
  obtain ⟨first, hfirst, hfound⟩ := bind_ok.mp h.search
  rw [nextOpen_published] at hfound
  exact bind_ok.mpr ⟨first, hfirst, hfound⟩

lemma addCalendarHours_rolls {found : Option Int} (h : addCalendarHours policy start hours = .ok found) :
    ∃ wall l, Rolls policy start hours wall l ∧
      ((policy.tetWithin (wall / dayMicros) (l / dayMicros) ∧ found = none) ∨
        (¬ policy.tetWithin (wall / dayMicros) (l / dayMicros) ∧ l / dayMicros + 1 < maxDay ∧
          found = some ((l : Int) - shopOffset))) := by
  obtain ⟨_, hrequired, h⟩ := bind_ok.mp h
  obtain ⟨wall, hwall, h⟩ := bind_ok.mp h
  obtain ⟨delta, hdelta, h⟩ := bind_ok.mp h
  obtain ⟨_, hlimit, h⟩ := bind_ok.mp h
  obtain ⟨first, hfirst, h⟩ := bind_ok.mp h
  obtain ⟨landing, hlanding, hfound⟩ := bind_ok.mp h
  obtain ⟨-, hpos⟩ := requireHours_ok hrequired
  have hbound := hoursDelta_bound hdelta
  obtain rfl := hoursDelta_ok hdelta
  obtain ⟨hopens, hcloses, -⟩ := rolled_ok hfirst
  obtain ⟨hday, -, -⟩ :=
    nextOpen_least hlanding hopens hcloses (rolled_minute hfirst (minute_dvd_floorMinute _))
  refine ⟨wall, landing.2, ⟨hwall, hpos, hbound, require_ok.mp hlimit,
    bind_ok.mpr ⟨first, hfirst, by rw [hlanding, ← hday]⟩⟩, ?_⟩
  rw [← hday]
  dsimp only at hfound
  by_cases htet : policy.tetWithin (wall / dayMicros) landing.1
  · rw [if_pos (tetWithin_iff_walked.mpr htet)] at hfound
    cases hfound
    exact .inl ⟨htet, rfl⟩
  · rw [if_neg (fun hwalked => htet (tetWithin_iff_walked.mp hwalked))] at hfound
    obtain ⟨tomorrow, htomorrow, hfound⟩ := bind_ok.mp hfound
    obtain ⟨moment', hmoment, hfound⟩ := map_ok.mp hfound
    obtain ⟨_, hlast, -⟩ := bind_ok.mp htomorrow
    cases shopInstant_ok hmoment
    exact .inr ⟨htet, require_ok.mp hlast, hfound.symm⟩

namespace Rolls

lemma add_eq (h : Rolls policy start hours wall l) : addCalendarHours policy start hours =
    if ∃ n ∈ List.range' (wall / dayMicros) (l / dayMicros + 1 - wall / dayMicros),
      policy.tetUnknown n then .ok none
    else dayAfter (l / dayMicros) >>= fun _ => some <$> shopInstant l := by
  obtain ⟨first, hfirst, hfound⟩ := bind_ok.mp h.search
  rw [addCalendarHours, requireHours, require_true (shopClock_ok h.clock).1, ok_bind,
    require_true h.positive, ok_bind, h.clock, ok_bind, hoursDelta, require_true h.delta, ok_bind,
    ok_bind, require_true h.limit, ok_bind, hfirst, ok_bind, hfound, ok_bind]

lemma add_none (h : Rolls policy start hours wall l)
    (htet : policy.tetWithin (wall / dayMicros) (l / dayMicros)) :
    addCalendarHours policy start hours = .ok none := by
  rw [h.add_eq, if_pos (tetWithin_iff_walked.mpr htet)]

lemma add_some (h : Rolls policy start hours wall l) (hlast : l / dayMicros + 1 < maxDay)
    (htet : ¬ policy.tetWithin (wall / dayMicros) (l / dayMicros)) :
    addCalendarHours policy start hours = .ok (some ((l : Int) - shopOffset)) := by
  have hoffset := (shopClock_bounds h.clock).1
  have hlater := h.later
  rw [h.add_eq, if_neg (fun hwalked => htet (tetWithin_iff_walked.mp hwalked)), dayAfter, require_true hlast, ok_bind, ok_bind, shopInstant,
    require_true (by omega)]
  rfl

end Rolls

lemma addCalendarHours_some (h : addCalendarHours policy start hours = .ok (some moment)) :
    ∃ wall l, Rolls policy start hours wall l ∧ moment = l - shopOffset ∧
      l / dayMicros + 1 < maxDay ∧ ¬ policy.tetWithin (wall / dayMicros) (l / dayMicros) := by
  obtain ⟨wall, l, hrolls, ⟨-, hnone⟩ | ⟨htet, hlast, hsome⟩⟩ := addCalendarHours_rolls h
  · cases hnone
  · cases hsome
    exact ⟨wall, l, hrolls, rfl, hlast, htet⟩

end Calendar

end NhaTrangLaundry.Domain.Promise
