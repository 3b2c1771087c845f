import NhaTrangLaundry.Domain.Promise
import NhaTrangLaundry.Lib.Ticks

/-! The hours of a promise, counted by the opening hours: where they end, and how they add up. -/

namespace NhaTrangLaundry.Domain.Promise

open Lib Outcome Gregorian Canonical Unclaimed Ticks
open Nat (count)

namespace TurnaroundPolicy

/-- The microsecond that ends at `wall` is opening time. -/
def openTick (policy : TurnaroundPolicy) (wall : Nat) : Prop :=
  ¬ policy.isClosed (wall / dayMicros) ∧ policy.opensAt < wall % dayMicros ∧
    wall % dayMicros ≤ policy.closesAt

instance decidableOpenTick (policy : TurnaroundPolicy) : DecidablePred policy.openTick :=
  fun _ => inferInstanceAs (Decidable (_ ∧ _))

/-- The opening time after `a`, up to `b`. -/
def openTime (policy : TurnaroundPolicy) (a b : Nat) : Nat := elapsed policy.openTick a b

/-- A day of the walk falls in a Tết window that is not published. -/
def tetWithin (policy : TurnaroundPolicy) (first last : Nat) : Prop :=
  ∃ n, first ≤ n ∧ n ≤ last ∧ policy.tetUnknown n

end TurnaroundPolicy

section

variable {policy : TurnaroundPolicy} {days today cursor remaining n l : Nat}

lemma clock_of_day {t : Nat} (ht : t < dayMicros) :
    (today * dayMicros + t) / dayMicros = today ∧ (today * dayMicros + t) % dayMicros = t := by
  constructor
  · rw [Nat.mul_comm, Nat.mul_add_div (by decide), Nat.div_eq_of_lt ht, Nat.add_zero]
  · rw [Nat.mul_comm, Nat.mul_add_mod, Nat.mod_eq_of_lt ht]

lemma openTick_iff (today : Nat) (hfirst : today * dayMicros ≤ n)
    (hlast : n ≤ (today + 1) * dayMicros + policy.opensAt) :
    policy.openTick n ↔ ¬ policy.isClosed today ∧ today * dayMicros + policy.opensAt < n ∧
      n ≤ today * dayMicros + policy.closesAt := by
  have hopens := policy.opens_lt
  have hcloses := policy.closes_lt
  rw [Nat.add_mul] at hlast
  by_cases htoday : n < today * dayMicros + 1 * dayMicros
  · obtain ⟨t, rfl⟩ := Nat.exists_eq_add_of_le hfirst
    obtain ⟨hday, hclock⟩ := @clock_of_day today t (by omega)
    rw [TurnaroundPolicy.openTick, hday, hclock, Nat.add_lt_add_iff_left, Nat.add_le_add_iff_left]
  · obtain ⟨t, rfl⟩ := Nat.exists_eq_add_of_le (not_lt.mp htoday)
    rw [← Nat.add_mul, TurnaroundPolicy.openTick, (@clock_of_day (today + 1) t (by omega)).2,
      Nat.add_mul]
    constructor
    · rintro ⟨-, hlate, -⟩
      omega
    · rintro ⟨-, -, hearly⟩
      omega

lemma count_moved (hstart : today * dayMicros ≤ cursor) :
    count policy.openTick (max cursor (today * dayMicros + policy.opensAt) + 1) =
      count policy.openTick (cursor + 1) := by
  refine count_rest (le_max_left _ _) fun n hafter hbefore => ?_
  rw [openTick_iff today (by omega) (by rw [Nat.add_mul]; omega)]
  omega

lemma lands_today (hstart : today * dayMicros ≤ cursor) (hopen : ¬ policy.isClosed today)
    (hpos : 0 < remaining)
    (hends : max cursor (today * dayMicros + policy.opensAt) + remaining ≤
      today * dayMicros + policy.closesAt) :
    Lands policy.openTick cursor remaining
      (max cursor (today * dayMicros + policy.opensAt) + remaining) := by
  have hcloses := policy.closes_lt
  have hrun : Lands policy.openTick (max cursor (today * dayMicros + policy.opensAt)) remaining
      (max cursor (today * dayMicros + policy.opensAt) + remaining) := by
    refine lands_run hpos fun n hafter hbefore => ?_
    rw [openTick_iff today (by omega) (by rw [Nat.add_mul]; omega)]
    exact ⟨hopen, by omega, by omega⟩
  have hlands := (lands_iff_of_count (k := 0) (count_moved hstart)).mpr hrun
  rwa [Nat.zero_add] at hlands

lemma count_tomorrow (hstart : today * dayMicros ≤ cursor) (hopen : ¬ policy.isClosed today)
    (hlate : max cursor (today * dayMicros + policy.opensAt) ≤ today * dayMicros + policy.closesAt) :
    count policy.openTick ((today + 1) * dayMicros + policy.opensAt + 1) =
      count policy.openTick (cursor + 1) + (today * dayMicros + policy.closesAt -
        max cursor (today * dayMicros + policy.opensAt)) := by
  have hcloses := policy.closes_lt
  have hopens := policy.opens_lt
  rw [Nat.add_mul]
  have hrun : count policy.openTick (today * dayMicros + policy.closesAt + 1) =
      count policy.openTick (max cursor (today * dayMicros + policy.opensAt) + 1) +
        (today * dayMicros + policy.closesAt -
          max cursor (today * dayMicros + policy.opensAt)) := by
    have hsplit : max cursor (today * dayMicros + policy.opensAt) + (today * dayMicros +
        policy.closesAt - max cursor (today * dayMicros + policy.opensAt)) =
          today * dayMicros + policy.closesAt := by omega
    rw [← count_run fun n hafter hbefore => ?_, hsplit]
    rw [openTick_iff today (by omega) (by rw [Nat.add_mul]; omega)]
    exact ⟨hopen, by omega, by omega⟩
  have hnight : count policy.openTick (today * dayMicros + 1 * dayMicros + policy.opensAt + 1) =
      count policy.openTick (today * dayMicros + policy.closesAt + 1) := by
    refine count_rest (by omega) fun n hafter hbefore => ?_
    rw [openTick_iff today (by omega) (by rw [Nat.add_mul]; omega)]
    omega
  rw [hnight, hrun, count_moved hstart]

lemma count_tomorrow_rest (hstart : today * dayMicros ≤ cursor)
    (hcursor : cursor < (today + 1) * dayMicros)
    (hrest : ¬ (¬ policy.isClosed today ∧
      max cursor (today * dayMicros + policy.opensAt) < today * dayMicros + policy.closesAt)) :
    count policy.openTick ((today + 1) * dayMicros + policy.opensAt + 1) =
      count policy.openTick (cursor + 1) := by
  rw [Nat.add_mul] at hcursor ⊢
  refine count_rest (by omega) fun n hafter hbefore => ?_
  rw [openTick_iff today (by omega) (by rw [Nat.add_mul]; omega)]
  rintro ⟨hopen, hopens, hcloses⟩
  refine hrest ⟨hopen, ?_⟩
  omega

lemma walkOpening_step (days : Nat) (hstart : today * dayMicros ≤ cursor)
    (hcursor : cursor < (today + 1) * dayMicros) (hpos : 0 < remaining)
    (htet : ¬ policy.tetUnknown today) :
    (∃ l, Lands policy.openTick cursor remaining l ∧ l / dayMicros = today ∧
      walkOpening policy (days + 1) today cursor remaining = .ok (some (floorMinute l))) ∨
    ∃ gone left, 0 < left ∧ remaining = gone + left ∧
      count policy.openTick ((today + 1) * dayMicros + policy.opensAt + 1) =
        count policy.openTick (cursor + 1) + gone ∧
      walkOpening policy (days + 1) today cursor remaining =
        dayAfter today >>= fun tomorrow =>
          walkOpening policy days tomorrow (tomorrow * dayMicros + policy.opensAt) left := by
  have hcloses := policy.closes_lt
  rw [walkOpening, if_neg htet]
  dsimp only
  by_cases hopen : ¬ policy.isClosed today ∧
      max cursor (today * dayMicros + policy.opensAt) < today * dayMicros + policy.closesAt
  · rw [if_pos hopen]
    by_cases hends : max cursor (today * dayMicros + policy.opensAt) + remaining ≤
        today * dayMicros + policy.closesAt
    · rw [if_pos hends]
      refine .inl ⟨_, lands_today hstart hopen.1 hpos hends, ?_, rfl⟩
      obtain ⟨t, ht⟩ := Nat.exists_eq_add_of_le
        (show today * dayMicros ≤ max cursor (today * dayMicros + policy.opensAt) + remaining by omega)
      rw [ht, (clock_of_day (by omega)).1]
    · rw [if_neg hends]
      exact .inr ⟨_, _, by omega, by omega, count_tomorrow hstart hopen.1 hopen.2.le, rfl⟩
  · rw [if_neg hopen]
    exact .inr ⟨0, remaining, hpos, (Nat.zero_add _).symm,
      count_tomorrow_rest hstart hcursor hopen, rfl⟩

end

section

variable {policy : TurnaroundPolicy} {days today cursor remaining n l : Nat}

lemma tetWithin_succ {last : Nat} (h : today ≤ last) :
    policy.tetWithin today last ↔ policy.tetUnknown today ∨ policy.tetWithin (today + 1) last := by
  constructor
  · rintro ⟨n, hfirst, hlast, htet⟩
    obtain rfl | hlater := Nat.eq_or_lt_of_le hfirst
    · exact .inl htet
    · exact .inr ⟨n, hlater, hlast, htet⟩
  · rintro (htet | ⟨n, hfirst, hlast, htet⟩)
    · exact ⟨today, le_refl _, h, htet⟩
    · exact ⟨n, by omega, hlast, htet⟩

lemma opening_lt (policy : TurnaroundPolicy) (today : Nat) :
    today * dayMicros + policy.opensAt < (today + 1) * dayMicros := by
  have hopens := policy.opens_lt
  have hcloses := policy.closes_lt
  rw [Nat.add_mul]
  omega

lemma day_of_le (h : today * dayMicros ≤ l) : today ≤ l / dayMicros :=
  (Nat.le_div_iff_mul_le (by decide)).mpr h

lemma walkOpening_lands {landing : Nat} (hstart : today * dayMicros ≤ cursor)
    (hcursor : cursor < (today + 1) * dayMicros) (hpos : 0 < remaining) (hday : today < maxDay)
    (h : walkOpening policy days today cursor remaining = .ok (some landing)) :
    ∃ l, Lands policy.openTick cursor remaining l ∧ landing = floorMinute l ∧
      l / dayMicros < today + days ∧ l / dayMicros < maxDay ∧
      ¬ policy.tetWithin today (l / dayMicros) := by
  induction days generalizing today cursor remaining with
  | zero => cases h
  | succ days ih =>
    by_cases htet : policy.tetUnknown today
    · rw [walkOpening, if_pos htet] at h
      cases h
    obtain ⟨l, hlands, hl, hwalk⟩ | ⟨gone, left, hleft, hsum, hcount, hwalk⟩ :=
      walkOpening_step days hstart hcursor hpos htet
    · rw [hwalk] at h
      cases h
      refine ⟨l, hlands, rfl, by omega, by omega, ?_⟩
      rw [hl, tetWithin_succ (le_refl _)]
      rintro (htoday | ⟨n, hfirst, hlast, -⟩)
      · exact htet htoday
      · omega
    · rw [hwalk] at h
      obtain ⟨tomorrow, htomorrow, h⟩ := bind_ok.mp h
      have hnext : today + 1 < maxDay := by
        obtain ⟨_, hreq, -⟩ := bind_ok.mp htomorrow
        exact require_ok.mp hreq
      cases dayAfter_ok htomorrow
      obtain ⟨l, hlands, hlanding, hwithin, hlast, hpublished⟩ :=
        ih (Nat.le_add_right _ _) (opening_lt policy _) hleft hnext h
      have hday : today + 1 ≤ l / dayMicros := day_of_le (by have := hlands.le hleft; omega)
      subst hsum
      refine ⟨l, (lands_iff_of_count hcount).mpr hlands, hlanding, by omega, hlast, ?_⟩
      rw [tetWithin_succ (by omega)]
      rintro (htoday | hlater)
      · exact htet htoday
      · exact hpublished hlater

lemma walkOpening_of_lands (hstart : today * dayMicros ≤ cursor)
    (hcursor : cursor < (today + 1) * dayMicros) (hpos : 0 < remaining)
    (hlands : Lands policy.openTick cursor remaining l) (hwithin : l / dayMicros < today + days)
    (hlast : l / dayMicros < maxDay) :
    (policy.tetWithin today (l / dayMicros) →
      walkOpening policy days today cursor remaining = .ok none) ∧
    (¬ policy.tetWithin today (l / dayMicros) →
      walkOpening policy days today cursor remaining = .ok (some (floorMinute l))) := by
  induction days generalizing today cursor remaining with
  | zero =>
    have hday : today ≤ l / dayMicros := day_of_le (by have := hlands.le hpos; omega)
    omega
  | succ days ih =>
    have hday : today ≤ l / dayMicros := day_of_le (by have := hlands.le hpos; omega)
    rw [tetWithin_succ hday]
    by_cases htet : policy.tetUnknown today
    · rw [walkOpening, if_pos htet]
      exact ⟨fun _ => rfl, fun hnone => absurd (.inl htet) hnone⟩
    obtain ⟨l', hlands', hl', hwalk⟩ | ⟨gone, left, hleft, hsum, hcount, hwalk⟩ :=
      walkOpening_step days hstart hcursor hpos htet
    · obtain rfl := hlands.unique hlands'
      rw [hwalk, hl']
      refine ⟨?_, fun _ => rfl⟩
      rintro (htoday | ⟨n, hfirst, hlast, -⟩)
      · exact absurd htoday htet
      · omega
    · subst hsum
      have hnext := (lands_iff_of_count hcount).mp hlands
      have hlater : today + 1 ≤ l / dayMicros := day_of_le (by have := hnext.le hleft; omega)
      have hafter : dayAfter today = .ok (today + 1) := by
        rw [dayAfter, require_true (by omega)]
        rfl
      obtain ⟨hnone, hsome⟩ := ih (Nat.le_add_right _ _) (opening_lt policy _) hleft hnext (by omega)
      rw [hwalk, hafter, ok_bind]
      refine ⟨fun h => hnone (h.resolve_left htet), fun h => hsome fun hlater => h (.inr hlater)⟩

lemma walkOpening_none (hstart : today * dayMicros ≤ cursor)
    (hcursor : cursor < (today + 1) * dayMicros) (hpos : 0 < remaining)
    (h : walkOpening policy days today cursor remaining = .ok none) :
    ∃ n, today ≤ n ∧ policy.tetUnknown n ∧ policy.openTime cursor (n * dayMicros) < remaining := by
  induction days generalizing today cursor remaining with
  | zero => cases h
  | succ days ih =>
    by_cases htet : policy.tetUnknown today
    · have hback : count policy.openTick (today * dayMicros + 1) ≤ count policy.openTick (cursor + 1) :=
        Nat.count_monotone _ (by omega)
      refine ⟨today, le_refl _, htet, ?_⟩
      rw [TurnaroundPolicy.openTime, elapsed]
      omega
    obtain ⟨l, -, -, hwalk⟩ | ⟨gone, left, hleft, hsum, hcount, hwalk⟩ :=
      walkOpening_step days hstart hcursor hpos htet
    · rw [hwalk] at h
      cases h
    · rw [hwalk] at h
      obtain ⟨tomorrow, htomorrow, h⟩ := bind_ok.mp h
      cases dayAfter_ok htomorrow
      obtain ⟨n, hn, hunknown, htime⟩ := ih (Nat.le_add_right _ _) (opening_lt policy _) hleft h
      refine ⟨n, by omega, hunknown, ?_⟩
      rw [TurnaroundPolicy.openTime, elapsed] at htime ⊢
      omega

end

end NhaTrangLaundry.Domain.Promise
