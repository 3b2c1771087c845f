import NhaTrangLaundry.Lib.Text
import Mathlib.Data.Nat.Find

/-! Points in time as `datetime.datetime` has them: a wall clock in the proleptic
Gregorian calendar of the years 1 to 9999, with an optional offset from UTC. -/

namespace NhaTrangLaundry.Lib

namespace Gregorian

def isLeap (y : Nat) : Bool := y % 4 == 0 && (y % 100 != 0 || y % 400 == 0)

/-- The days of the years before `y`, counted from year 1. -/
def daysBeforeYear (y : Nat) : Nat :=
  365 * (y - 1) + (y - 1) / 4 + (y - 1) / 400 - (y - 1) / 100

def daysInMonth (y m : Nat) : Nat :=
  if m = 2 then (if isLeap y then 29 else 28)
  else if m = 4 ∨ m = 6 ∨ m = 9 ∨ m = 11 then 30
  else 31

/-- The days of the first `k` months of year `y`. -/
def daysOfMonths (y : Nat) : Nat → Nat
  | 0 => 0
  | k + 1 => daysOfMonths y k + daysInMonth y (k + 1)

def lastYear : Nat := 9999

def maxDay : Nat := 3652059

def year (n : Nat) : Nat := Nat.findGreatest (fun k => daysBeforeYear (k + 1) ≤ n) 9998 + 1

def dayOfYear (n : Nat) : Nat := n - daysBeforeYear (year n)

def month (n : Nat) : Nat :=
  Nat.findGreatest (fun k => daysOfMonths (year n) k ≤ dayOfYear n) 11 + 1

def day (n : Nat) : Nat := dayOfYear n - daysOfMonths (year n) (month n - 1) + 1

def ordinal (y m d : Nat) : Nat := daysBeforeYear y + daysOfMonths y (m - 1) + (d - 1)

def validDate (y m d : Nat) : Prop :=
  1 ≤ y ∧ y ≤ lastYear ∧ 1 ≤ m ∧ m ≤ 12 ∧ 1 ≤ d ∧ d ≤ daysInMonth y m

instance (y m d : Nat) : Decidable (validDate y m d) := by
  unfold validDate
  infer_instance

lemma daysOfMonths_twelve (y : Nat) : daysOfMonths y 12 = if isLeap y then 366 else 365 := by
  cases hleap : isLeap y <;> simp [daysOfMonths, daysInMonth, hleap]

lemma daysBeforeYear_succ (y : Nat) (h : 1 ≤ y) :
    daysBeforeYear (y + 1) = daysBeforeYear y + daysOfMonths y 12 := by
  obtain ⟨k, rfl⟩ : ∃ k, y = k + 1 := ⟨y - 1, by omega⟩
  have hle : k / 100 ≤ k := Nat.div_le_self k 100
  have h100 : 100 ∣ k + 1 → 4 ∣ k + 1 := fun h => Dvd.dvd.trans (by decide) h
  have h400 : 400 ∣ k + 1 → 100 ∣ k + 1 := fun h => Dvd.dvd.trans (by decide) h
  rw [daysOfMonths_twelve]
  simp only [daysBeforeYear, isLeap, Nat.add_sub_cancel, Nat.succ_div, Bool.and_eq_true,
    Bool.or_eq_true, beq_iff_eq, bne_iff_ne, ne_eq, ← Nat.dvd_iff_mod_eq_zero]
  generalize k / 4 = a, k / 100 = b, k / 400 = c at hle ⊢
  by_cases h₄ : 4 ∣ k + 1
  · by_cases h₁ : 100 ∣ k + 1
    · by_cases h₂ : 400 ∣ k + 1 <;> simp [h₄, h₁, h₂] <;> omega
    · have h₂ : ¬ 400 ∣ k + 1 := fun h => h₁ (h400 h)
      simp [h₄, h₁, h₂]
      omega
  · have h₁ : ¬ 100 ∣ k + 1 := fun h => h₄ (h100 h)
    have h₂ : ¬ 400 ∣ k + 1 := fun h => h₁ (h400 h)
    simp only [h₄, h₁, h₂, if_false, false_and]
    clear h₄ h₁ h₂ h100 h400
    omega

lemma year_bounds (n : Nat) : 1 ≤ year n ∧ year n ≤ lastYear := by
  have := Nat.findGreatest_le (P := fun k => daysBeforeYear (k + 1) ≤ n) 9998
  unfold year lastYear
  omega

lemma daysBeforeYear_year_le (n : Nat) : daysBeforeYear (year n) ≤ n :=
  Nat.findGreatest_spec (P := fun k => daysBeforeYear (k + 1) ≤ n) (Nat.zero_le 9998)
    (by simp [daysBeforeYear])

lemma lt_daysBeforeYear_year_succ {n : Nat} (h : n < maxDay) : n < daysBeforeYear (year n + 1) := by
  by_cases hlast : year n = lastYear
  · rw [hlast]
    exact lt_of_lt_of_le h (by decide)
  · have hbound := (year_bounds n).2
    refine lt_of_not_ge fun hle => ?_
    refine Nat.findGreatest_is_greatest (P := fun k => daysBeforeYear (k + 1) ≤ n) (n := 9998)
      (k := year n) ?_ ?_ hle
    · exact Nat.lt_succ_self _
    · unfold lastYear at hlast hbound
      omega

lemma dayOfYear_lt {n : Nat} (h : n < maxDay) : dayOfYear n < daysOfMonths (year n) 12 := by
  have hlow := daysBeforeYear_year_le n
  have hhigh := lt_daysBeforeYear_year_succ h
  rw [daysBeforeYear_succ _ (year_bounds n).1] at hhigh
  unfold dayOfYear
  omega

lemma month_bounds (n : Nat) : 1 ≤ month n ∧ month n ≤ 12 := by
  have := Nat.findGreatest_le (P := fun k => daysOfMonths (year n) k ≤ dayOfYear n) 11
  unfold month
  omega

lemma daysOfMonths_month_le (n : Nat) : daysOfMonths (year n) (month n - 1) ≤ dayOfYear n :=
  Nat.findGreatest_spec (P := fun k => daysOfMonths (year n) k ≤ dayOfYear n) (Nat.zero_le 11)
    (Nat.zero_le _)

lemma dayOfYear_lt_month {n : Nat} (h : n < maxDay) :
    dayOfYear n < daysOfMonths (year n) (month n) := by
  by_cases hlast : month n = 12
  · rw [hlast]
    exact dayOfYear_lt h
  · have hbound := (month_bounds n).2
    refine lt_of_not_ge fun hle => ?_
    refine Nat.findGreatest_is_greatest (P := fun k => daysOfMonths (year n) k ≤ dayOfYear n)
      (n := 11) (k := month n) ?_ ?_ hle
    · exact Nat.lt_succ_self _
    · omega

lemma day_bounds {n : Nat} (h : n < maxDay) : 1 ≤ day n ∧ day n ≤ daysInMonth (year n) (month n) := by
  have hlow := daysOfMonths_month_le n
  have hhigh := dayOfYear_lt_month h
  obtain ⟨k, hk⟩ : ∃ k, month n = k + 1 := ⟨month n - 1, by have := (month_bounds n).1; omega⟩
  rw [hk, Nat.add_sub_cancel] at hlow
  rw [hk, daysOfMonths] at hhigh
  unfold day
  rw [hk, Nat.add_sub_cancel]
  omega

lemma validDate_of_lt {n : Nat} (h : n < maxDay) : validDate (year n) (month n) (day n) :=
  ⟨(year_bounds n).1, (year_bounds n).2, (month_bounds n).1, (month_bounds n).2,
    (day_bounds h).1, (day_bounds h).2⟩

lemma ordinal_date {n : Nat} (h : n < maxDay) : ordinal (year n) (month n) (day n) = n := by
  have hyear := daysBeforeYear_year_le n
  have hmonth := daysOfMonths_month_le n
  have hday := day_bounds h
  unfold ordinal day dayOfYear at *
  omega

end Gregorian

open Gregorian Text

def dayMicros : Nat := 86400000000

def wallLimit : Nat := maxDay * dayMicros

structure Datetime where
  wall : Nat
  utcoffset : Option Int
  wall_lt : wall < wallLimit
  offset_lt : ∀ o ∈ utcoffset, -(dayMicros : Int) < o ∧ o < dayMicros
deriving DecidableEq

namespace Datetime

/-- A timestamp can be placed in time only when it carries an offset. -/
def aware (d : Datetime) : Prop := d.utcoffset.isSome

instance (d : Datetime) : Decidable d.aware := by
  unfold aware
  infer_instance

def instant (d : Datetime) : Int := d.wall - d.utcoffset.getD 0

lemma zero_lt_wallLimit : 0 < wallLimit := by decide

def ofUtc (w : Nat) (h : w < wallLimit) : Datetime := ⟨w, some 0, h, by decide +revert⟩

/-- `astimezone(UTC)`; there is no result outside the years 1 to 9999. -/
def toUtc (d : Datetime) : Option Datetime :=
  if h : 0 ≤ d.instant ∧ d.instant < wallLimit then
    some (ofUtc d.instant.toNat (by omega))
  else none

/-- `d + timedelta`; there is no result outside the years 1 to 9999. -/
def addMicros (d : Datetime) (δ : Int) : Option Datetime :=
  if h : 0 ≤ d.wall + δ ∧ d.wall + δ < wallLimit then
    some ⟨(d.wall + δ).toNat, d.utcoffset, by omega, d.offset_lt⟩
  else none

def clockText (t : Nat) : List Char :=
  padded 10 2 (t / 3600000000) ++ ':' :: (padded 10 2 (t / 60000000 % 60) ++
    ':' :: (padded 10 2 (t / 1000000 % 60) ++ '.' :: padded 10 6 (t % 1000000)))

def stamp (w : Nat) : List Char :=
  padded 10 4 (year (w / dayMicros)) ++ '-' :: (padded 10 2 (month (w / dayMicros)) ++
    '-' :: (padded 10 2 (day (w / dayMicros)) ++ 'T' :: clockText (w % dayMicros)))

/-- `astimezone(UTC).isoformat(timespec="microseconds")` with the offset spelled `Z`. -/
def momentText (d : Datetime) : Option String :=
  d.toUtc.map fun u => String.ofList (stamp u.wall ++ ['Z'])

def readNumber (w : Nat) (cs : List Char) : Option (Nat × List Char) :=
  if w ≤ cs.length then (numeral 10 (cs.take w) 0).map fun n => (n, cs.drop w) else none

def expect (c : Char) : List Char → Option (List Char)
  | [] => none
  | x :: r => if x = c then some r else none

/-- `HH:MM`, with optional seconds and microseconds. -/
def readClock (cs : List Char) : Option (Nat × List Char) := do
  let h ← readNumber 2 cs
  let r ← expect ':' h.2
  let m ← readNumber 2 r
  if h.1 < 24 ∧ m.1 < 60 then
    match m.2 with
    | ':' :: r => do
      let s ← readNumber 2 r
      if s.1 < 60 then
        match s.2 with
        | '.' :: r => do
          let f ← readNumber 6 r
          some (((h.1 * 60 + m.1) * 60 + s.1) * 1000000 + f.1, f.2)
        | r => some (((h.1 * 60 + m.1) * 60 + s.1) * 1000000, r)
      else none
    | r => some ((h.1 * 60 + m.1) * 60000000, r)
  else none

def readOffset : List Char → Option (Option Int)
  | [] => some none
  | c :: cs => do
    let t ← readClock cs
    if t.2 = [] then
      if c = '+' then some (some t.1) else if c = '-' then some (some (-t.1)) else none
    else none

def ofParts (w : Nat) (o : Option Int) : Option Datetime :=
  if h : w < wallLimit ∧ ∀ x ∈ o, -(dayMicros : Int) < x ∧ x < dayMicros then
    some ⟨w, o, h.1, h.2⟩
  else none

/-- `datetime.fromisoformat` on the texts `isoformat` writes. -/
def fromisoformat (cs : List Char) : Option Datetime := do
  let y ← readNumber 4 cs
  let r ← expect '-' y.2
  let m ← readNumber 2 r
  let r ← expect '-' m.2
  let d ← readNumber 2 r
  if validDate y.1 m.1 d.1 then
    match d.2 with
    | [] => ofParts (ordinal y.1 m.1 d.1 * dayMicros) none
    | _ :: r => do
      let t ← readClock r
      let o ← readOffset t.2
      ofParts (ordinal y.1 m.1 d.1 * dayMicros + t.1) o
  else none

/-- `datetime.fromisoformat(text.replace("Z", "+00:00"))`. -/
def ofMomentText (s : String) : Option Datetime :=
  fromisoformat (s.toList.flatMap fun c => if c = 'Z' then ['+', '0', '0', ':', '0', '0'] else [c])

lemma readNumber_padded {w n : Nat} (h : n < 10 ^ w) (r : List Char) :
    readNumber w (padded 10 w n ++ r) = some (n, r) := by
  have hlen := length_padded 10 w n
  have htake : (padded 10 w n ++ r).take w = padded 10 w n := by
    rw [List.take_append_of_le_length (by omega), List.take_of_length_le (by omega)]
  have hdrop : (padded 10 w n ++ r).drop w = r := by
    rw [List.drop_append_of_le_length (by omega), List.drop_of_length_le (by omega), List.nil_append]
  rw [readNumber, if_pos (by simp [hlen]), htake, hdrop, numeral_padded (by decide) (by decide) h]
  rfl

lemma readClock_clockText {t : Nat} (h : t < dayMicros) (r : List Char) :
    readClock (clockText t ++ r) = some (t, r) := by
  have hh : t / 3600000000 < 24 := by unfold dayMicros at h; omega
  have hm : t / 60000000 % 60 < 60 := Nat.mod_lt _ (by decide)
  have hs : t / 1000000 % 60 < 60 := Nat.mod_lt _ (by decide)
  have hf : t % 1000000 < 10 ^ 6 := Nat.mod_lt _ (by decide)
  have hsum : ((t / 3600000000 * 60 + t / 60000000 % 60) * 60 + t / 1000000 % 60) * 1000000 +
      t % 1000000 = t := by omega
  simp only [readClock, clockText, List.append_assoc, List.cons_append]
  rw [readNumber_padded (by omega)]
  simp only [Option.bind_eq_bind, Option.bind_some, expect, if_pos]
  rw [readNumber_padded (by omega)]
  simp only [Option.bind_some, hh, hm, and_self, if_true]
  rw [readNumber_padded (by omega)]
  simp only [Option.bind_some, hs, if_true]
  rw [readNumber_padded hf]
  simp only [Option.bind_some, hsum]

lemma daysInMonth_le (y m : Nat) : daysInMonth y m ≤ 31 := by
  unfold daysInMonth
  split
  · split <;> omega
  · split <;> omega

lemma readOffset_zero : readOffset ['+', '0', '0', ':', '0', '0'] = some (some 0) := rfl

lemma fromisoformat_parts {y m d t : Nat} (hvalid : validDate y m d) (ht : t < dayMicros)
    (hw : ordinal y m d * dayMicros + t < wallLimit) :
    fromisoformat (padded 10 4 y ++ '-' :: (padded 10 2 m ++ '-' :: (padded 10 2 d ++
      'T' :: (clockText t ++ ['+', '0', '0', ':', '0', '0'])))) =
      some (ofUtc (ordinal y m d * dayMicros + t) hw) := by
  have hdays := daysInMonth_le y m
  have hy : y < 10 ^ 4 := by
    have := hvalid.2.1
    unfold lastYear at this
    omega
  have hm : m < 10 ^ 2 := by have := hvalid.2.2.2.1; omega
  have hd : d < 10 ^ 2 := by have := hvalid.2.2.2.2.2; omega
  simp only [fromisoformat]
  rw [readNumber_padded hy]
  simp only [Option.bind_eq_bind, Option.bind_some, expect, if_pos]
  rw [readNumber_padded hm]
  simp only [Option.bind_some, if_true]
  rw [readNumber_padded hd]
  rw [Option.bind_some, if_pos hvalid]
  dsimp only
  rw [readClock_clockText ht, Option.bind_some, readOffset_zero, Option.bind_some]
  rw [ofParts, dif_pos ⟨hw, (ofUtc 0 (by decide)).offset_lt⟩]
  rfl

lemma fromisoformat_stamp {w : Nat} (h : w < wallLimit) :
    fromisoformat (stamp w ++ ['+', '0', '0', ':', '0', '0']) = some (ofUtc w h) := by
  have hday : w / dayMicros < maxDay := by
    unfold wallLimit at h
    exact Nat.div_lt_of_lt_mul (by rwa [Nat.mul_comm] at h)
  have hsum : ordinal (year (w / dayMicros)) (month (w / dayMicros)) (day (w / dayMicros)) *
      dayMicros + w % dayMicros = w := by
    rw [ordinal_date hday, Nat.mul_comm]
    exact Nat.div_add_mod w dayMicros
  have hread := fromisoformat_parts (validDate_of_lt hday) (Nat.mod_lt w (by decide))
    (lt_of_eq_of_lt hsum h)
  simp only [stamp, List.append_assoc, List.cons_append]
  rw [hread]
  congr 2

lemma digitChar_ne_Z {d : Nat} (h : d < 10) : Nat.digitChar d ≠ 'Z' := by
  interval_cases d <;> decide

lemma stamp_ne_Z {w : Nat} {c : Char} (h : c ∈ stamp w) : c ≠ 'Z' := by
  have hdigits : ∀ k n, c ∈ padded 10 k n → c ≠ 'Z' := by
    intro k n hc
    obtain ⟨d, hd, rfl⟩ := mem_padded (by decide) hc
    exact digitChar_ne_Z hd
  simp only [stamp, clockText, List.mem_append, List.mem_cons] at h
  rcases h with h | h | h | h | h | h | h | h | h | h | h | h | h
  all_goals first | exact hdigits _ _ h | (rw [h]; decide)

lemma ofMomentText_momentText {d : Datetime} {s : String} (h : d.momentText = some s) :
    ofMomentText s = d.toUtc := by
  rw [momentText, Option.map_eq_some_iff] at h
  obtain ⟨u, hu, rfl⟩ := h
  have hfix : ∀ cs : List Char, (∀ c ∈ cs, c ≠ 'Z') → cs.flatMap
      (fun c => if c = 'Z' then ['+', '0', '0', ':', '0', '0'] else [c]) = cs := by
    intro cs hcs
    induction cs with
    | nil => rfl
    | cons c cs ih =>
      rw [List.forall_mem_cons] at hcs
      rw [List.flatMap_cons, if_neg hcs.1, ih hcs.2]
      rfl
  rw [ofMomentText, String.toList_ofList, List.flatMap_append, hfix _ fun c => stamp_ne_Z]
  have hread := fromisoformat_stamp u.wall_lt
  rw [hu]
  have hutc : u = ofUtc u.wall u.wall_lt := by
    unfold toUtc at hu
    split at hu
    · cases hu
      rfl
    · cases hu
  rw [hutc]
  exact hread

lemma toUtc_ofUtc (w : Nat) (h : w < wallLimit) : (ofUtc w h).toUtc = some (ofUtc w h) := by
  have hi : (ofUtc w h).instant = w := by simp [instant, ofUtc]
  have hlt : (w : Int) < wallLimit := by exact_mod_cast h
  simp only [toUtc, hi]
  rw [dif_pos ⟨Int.natCast_nonneg w, hlt⟩]
  simp

lemma instant_addMicros {d m : Datetime} {δ : Int} (h : d.addMicros δ = some m) :
    m.instant = d.instant + δ := by
  rw [addMicros] at h
  by_cases hr : 0 ≤ d.wall + δ ∧ d.wall + δ < wallLimit
  · rw [dif_pos hr] at h
    cases h
    simp only [instant, Int.toNat_of_nonneg hr.1]
    omega
  · rw [dif_neg hr] at h
    cases h

lemma instant_toUtc {d u : Datetime} (h : d.toUtc = some u) :
    u.instant = d.instant ∧ u.aware ∧ u.toUtc = some u := by
  unfold toUtc at h
  split at h
  · next hr =>
    cases h
    refine ⟨?_, rfl, toUtc_ofUtc _ _⟩
    simp only [instant, ofUtc, Option.getD_some, sub_zero]
    exact Int.toNat_of_nonneg hr.1
  · cases h

lemma wall_toUtc {d u : Datetime} (h : d.toUtc = some u) : (u.wall : Int) = d.instant := by
  rw [toUtc] at h
  by_cases hr : 0 ≤ d.instant ∧ d.instant < wallLimit
  · rw [dif_pos hr] at h
    cases h
    exact Int.toNat_of_nonneg hr.1
  · rw [dif_neg hr] at h
    cases h

end Datetime

end NhaTrangLaundry.Lib
