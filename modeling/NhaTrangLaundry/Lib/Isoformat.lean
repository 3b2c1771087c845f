import NhaTrangLaundry.Lib.Date

/-! The texts that `isoformat` writes by default, and what `fromisoformat` reads of them. -/

namespace NhaTrangLaundry.Lib

open Text Gregorian

namespace Date

/-- `date.fromisoformat` on a text that `isoformat` writes. -/
def fromisoformat (cs : List Char) : Option Date := do
  let y ← Datetime.readNumber 4 cs
  let r ← Datetime.expect '-' y.2
  let m ← Datetime.readNumber 2 r
  let r ← Datetime.expect '-' m.2
  let d ← Datetime.readNumber 2 r
  if h : d.2 = [] ∧ validDate y.1 m.1 d.1 ∧ Gregorian.ordinal y.1 m.1 d.1 < maxDay then
    some ⟨Gregorian.ordinal y.1 m.1 d.1, h.2.2⟩
  else none

lemma fromisoformat_isoformat (d : Date) : fromisoformat d.isoformat.toList = some d := by
  have hday : d.ordinal < maxDay := d.ordinal_lt
  have hordinal := ordinal_date hday
  simp only [isoformat, String.toList_ofList, fromisoformat]
  rw [Datetime.readNumber_padded (year_lt _)]
  simp only [Option.bind_eq_bind, Option.bind_some, Datetime.expect, if_true]
  rw [Datetime.readNumber_padded (month_lt _)]
  simp only [Option.bind_some, if_true]
  have hread := Datetime.readNumber_padded (day_lt hday) []
  rw [List.append_nil] at hread
  rw [hread, Option.bind_some, dif_pos ⟨rfl, validDate_of_lt hday, lt_of_eq_of_lt hordinal hday⟩]
  cases d
  simp only [hordinal]

end Date

namespace Datetime

def secondsText (t : Nat) : List Char :=
  padded 10 2 (t / 1000000 % 60) ++
    if t % 1000000 = 0 then [] else '.' :: padded 10 6 (t % 1000000)

def timeText (t : Nat) : List Char :=
  padded 10 2 (t / 3600000000) ++ ':' :: (padded 10 2 (t / 60000000 % 60) ++ ':' :: secondsText t)

def offsetText (o : Int) : List Char :=
  (if o < 0 then '-' else '+') :: (padded 10 2 (o.natAbs / 3600000000) ++
    ':' :: (padded 10 2 (o.natAbs / 60000000 % 60) ++
      if o.natAbs % 60000000 = 0 then [] else ':' :: secondsText o.natAbs))

/-- `datetime.isoformat()`. -/
def isoformat (d : Datetime) : String :=
  String.ofList (padded 10 4 (year (d.wall / dayMicros)) ++
    '-' :: (padded 10 2 (month (d.wall / dayMicros)) ++
      '-' :: (padded 10 2 (day (d.wall / dayMicros)) ++
        'T' :: (timeText (d.wall % dayMicros) ++ (d.utcoffset.map offsetText).getD []))))

/-- What follows a time does not continue its fraction. -/
def Ends (r : List Char) : Prop := ∀ c ∈ r.head?, c ≠ '.'

lemma readClock_minutes {t : Nat} (h : t < dayMicros) (r : List Char) (hends : ∀ c ∈ r.head?, c ≠ ':')
    (hwhole : t % 60000000 = 0) :
    readClock (padded 10 2 (t / 3600000000) ++ ':' :: (padded 10 2 (t / 60000000 % 60) ++ r)) =
      some (t, r) := by
  have hh : t / 3600000000 < 24 := by unfold dayMicros at h; omega
  have hm : t / 60000000 % 60 < 60 := Nat.mod_lt _ (by decide)
  have hsum : (t / 3600000000 * 60 + t / 60000000 % 60) * 60000000 = t := by omega
  simp only [readClock]
  rw [readNumber_padded (by omega)]
  simp only [Option.bind_eq_bind, Option.bind_some, expect, if_true]
  rw [readNumber_padded (by omega)]
  simp only [Option.bind_some, hh, hm, and_self, if_true]
  cases r with
  | nil => simp only [hsum]
  | cons c r =>
    have hc : c ≠ ':' := hends c rfl
    split
    · next heq => exact absurd (List.cons.inj heq).1 hc
    · simp only [hsum]

lemma readClock_seconds {t : Nat} (h : t < dayMicros) (r : List Char) (hends : Ends r) :
    readClock (padded 10 2 (t / 3600000000) ++ ':' :: (padded 10 2 (t / 60000000 % 60) ++
      ':' :: (secondsText t ++ r))) = some (t, r) := by
  have hh : t / 3600000000 < 24 := by unfold dayMicros at h; omega
  have hm : t / 60000000 % 60 < 60 := Nat.mod_lt _ (by decide)
  have hs : t / 1000000 % 60 < 60 := Nat.mod_lt _ (by decide)
  have hf : t % 1000000 < 10 ^ 6 := Nat.mod_lt _ (by decide)
  have hsum : ((t / 3600000000 * 60 + t / 60000000 % 60) * 60 + t / 1000000 % 60) * 1000000 +
      t % 1000000 = t := by omega
  simp only [readClock, secondsText, List.append_assoc]
  rw [readNumber_padded (by omega)]
  simp only [Option.bind_eq_bind, Option.bind_some, expect, if_true]
  rw [readNumber_padded (by omega)]
  simp only [Option.bind_some, hh, hm, and_self, if_true]
  rw [readNumber_padded (by omega)]
  simp only [Option.bind_some, hs, if_true]
  by_cases hzero : t % 1000000 = 0
  · have hwhole : ((t / 3600000000 * 60 + t / 60000000 % 60) * 60 + t / 1000000 % 60) * 1000000 = t := by
      rw [← Nat.add_zero (_ * 1000000), ← hzero]
      exact hsum
    rw [if_pos hzero, List.nil_append]
    cases r with
    | nil => simp only [hwhole]
    | cons c r =>
      have hc : c ≠ '.' := hends c rfl
      split
      · next heq => exact absurd (List.cons.inj heq).1 hc
      · simp only [hwhole]
  · rw [if_neg hzero]
    simp only [List.cons_append]
    rw [readNumber_padded hf]
    simp only [Option.bind_some, hsum]

lemma readOffset_offsetText {o : Int} (h : -(dayMicros : Int) < o ∧ o < dayMicros) :
    readOffset (offsetText o) = some (some o) := by
  have hlt : o.natAbs < dayMicros := by omega
  have hclock : readClock (padded 10 2 (o.natAbs / 3600000000) ++
      ':' :: (padded 10 2 (o.natAbs / 60000000 % 60) ++
        if o.natAbs % 60000000 = 0 then [] else ':' :: secondsText o.natAbs)) =
      some (o.natAbs, []) := by
    by_cases hwhole : o.natAbs % 60000000 = 0
    · rw [if_pos hwhole]
      exact readClock_minutes hlt [] (fun _ hc => nomatch hc) hwhole
    · rw [if_neg hwhole]
      have hread := readClock_seconds hlt [] (fun _ hc => nomatch hc)
      rw [List.append_nil] at hread
      exact hread
  rw [offsetText, readOffset]
  simp only [hclock, Option.bind_eq_bind, Option.bind_some, if_true]
  by_cases hneg : o < 0
  · have habs : -(o.natAbs : Int) = o := by omega
    simp only [hneg, if_true, habs, Char.reduceEq, if_false]
  · have habs : (o.natAbs : Int) = o := by omega
    simp only [hneg, if_false, if_true, habs]

lemma ends_offset (o : Option Int) : Ends ((o.map offsetText).getD []) := by
  cases o with
  | none => exact fun _ hc => nomatch hc
  | some o =>
    rintro c hc
    simp only [Option.map_some, Option.getD_some, offsetText, List.head?_cons, Option.mem_def,
      Option.some.injEq] at hc
    subst hc
    split <;> decide

lemma readOffset_text {o : Option Int} (h : ∀ x ∈ o, -(dayMicros : Int) < x ∧ x < dayMicros) :
    readOffset ((o.map offsetText).getD []) = some o := by
  cases o with
  | none => rfl
  | some o => exact readOffset_offsetText (h o rfl)

/-- A timestamp is read back from the text it is written as. -/
theorem fromisoformat_isoformat (d : Datetime) : fromisoformat d.isoformat.toList = some d := by
  have hday : d.wall / dayMicros < maxDay := by
    have hwall := d.wall_lt
    rw [wallLimit] at hwall
    exact Nat.div_lt_of_lt_mul (by rwa [Nat.mul_comm] at hwall)
  have hsum : ordinal (year (d.wall / dayMicros)) (month (d.wall / dayMicros))
      (day (d.wall / dayMicros)) * dayMicros + d.wall % dayMicros = d.wall := by
    rw [ordinal_date hday, Nat.mul_comm]
    exact Nat.div_add_mod d.wall dayMicros
  have hclock := readClock_seconds (Nat.mod_lt d.wall (by decide)) _ (ends_offset d.utcoffset)
  simp only [isoformat, String.toList_ofList, fromisoformat, timeText, List.append_assoc,
    List.cons_append]
  rw [readNumber_padded (Date.year_lt _)]
  simp only [Option.bind_eq_bind, Option.bind_some, expect, if_true]
  rw [readNumber_padded (Date.month_lt _)]
  simp only [Option.bind_some, if_true]
  rw [readNumber_padded (Date.day_lt hday), Option.bind_some, if_pos (validDate_of_lt hday)]
  dsimp only
  rw [hclock, Option.bind_some, readOffset_text d.offset_lt, Option.bind_some]
  dsimp only
  rw [ofParts, dif_pos ⟨hsum.symm ▸ d.wall_lt, d.offset_lt⟩]
  cases d
  simp only [hsum]

end Datetime

end NhaTrangLaundry.Lib
