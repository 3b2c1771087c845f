import NhaTrangLaundry.Lib.Sums
import Mathlib.Data.List.Nodup

/-! Sums of rows by day: the days of a window, the rows joined to them, and the sums of
each day's group and of all the groups together. -/

namespace NhaTrangLaundry.Lib.DaySums

open Sums

variable {α : Type} {day : α → Int} {p : α → Prop} [DecidablePred p] {f : α → Int} {rows : List α}

def days (first last : Int) : List Int :=
  (List.range (last + 1 - first).toNat).map fun i => first + (i : Nat)

lemma mem_days {first last d : Int} : d ∈ days first last ↔ first ≤ d ∧ d ≤ last := by
  rw [days, List.mem_map]
  simp only [List.mem_range]
  constructor
  · rintro ⟨i, hi, rfl⟩
    omega
  · rintro ⟨hfirst, hlast⟩
    exact ⟨(d - first).toNat, by omega, by omega⟩

lemma days_nodup (first last : Int) : (days first last).Nodup := by
  refine List.nodup_range.map fun i j (h : first + (i : Nat) = first + (j : Nat)) => ?_
  omega

/-- The instants of a run of days, in a zone that is `offset` ahead, are those between two local
midnights. -/
lemma day_bounds {length offset at_ first last : Int} (h : 0 < length) :
    first ≤ (at_ + offset) / length ∧ (at_ + offset) / length ≤ last ↔
      first * length - offset ≤ at_ ∧ at_ < (last + 1) * length - offset := by
  have hlast : (at_ + offset) / length ≤ last ↔ at_ + offset < (last + 1) * length := by
    rw [← Int.lt_add_one_iff, Int.ediv_lt_iff_lt_mul h]
  rw [Int.le_ediv_iff_mul_le h, hlast]
  omega

def joinDay (rows : List α) (day : α → Int) (d : Int) : List (Int × Option α) :=
  if rows.filter (fun r => day r = d) = [] then [(d, none)]
  else (rows.filter fun r => day r = d).map fun r => (d, some r)

/-- `days d LEFT JOIN rows w ON w.day = d`. -/
def leftJoin (ds : List Int) (rows : List α) (day : α → Int) : List (Int × Option α) :=
  ds.flatMap (joinDay rows day)

/-- `sum(f) FILTER (WHERE p)` over a group of joined rows. -/
def sumOf (group : List (Int × Option α)) (p : α → Prop) [DecidablePred p] (f : α → Int) : Int :=
  sumIf (group.filterMap Prod.snd) p f

lemma fst_joinDay {d : Int} {r : Int × Option α} (h : r ∈ joinDay rows day d) : r.1 = d := by
  rw [joinDay] at h
  split_ifs at h with hnone
  · rw [List.mem_singleton.mp h]
  · obtain ⟨a, -, rfl⟩ := List.mem_map.mp h
    rfl

lemma rows_joinDay (d : Int) :
    (joinDay rows day d).filterMap Prod.snd = rows.filter fun r => day r = d := by
  rw [joinDay]
  split_ifs with hnone
  · rw [hnone]
    rfl
  · rw [List.filterMap_map]
    exact List.filterMap_some

lemma leftJoin_cons (d : Int) (ds : List Int) :
    leftJoin (d :: ds) rows day = joinDay rows day d ++ leftJoin ds rows day :=
  List.flatMap_cons

lemma sumOf_leftJoin (ds : List Int) :
    sumOf (leftJoin ds rows day) p f =
      (ds.map fun d => sumIf rows (fun r => day r = d ∧ p r) f).sum := by
  induction ds with
  | nil => rfl
  | cons d ds ih =>
    rw [sumOf, leftJoin_cons, List.filterMap_append, rows_joinDay, sumIf_append, sumIf_filter,
      List.map_cons, List.sum_cons, ← ih]
    rfl

lemma filter_joinDay (d e : Int) :
    (joinDay rows day e).filter (fun r => r.1 = d) = if e = d then joinDay rows day e else [] := by
  split_ifs with he
  · refine List.filter_eq_self.mpr fun r hr => ?_
    simpa using (fst_joinDay hr).trans he
  · refine List.filter_eq_nil_iff.mpr fun r hr => ?_
    simpa using fun h => he ((fst_joinDay hr).symm.trans h)

lemma leftJoin_day {d : Int} {ds : List Int} (hn : ds.Nodup) (hd : d ∈ ds) :
    (leftJoin ds rows day).filter (fun r => r.1 = d) = joinDay rows day d := by
  induction ds with
  | nil => cases hd
  | cons e ds ih =>
    rw [List.nodup_cons] at hn
    rw [leftJoin_cons, List.filter_append, filter_joinDay]
    by_cases he : e = d
    · subst he
      have hrest : (leftJoin ds rows day).filter (fun r => r.1 = e) = [] := by
        refine List.filter_eq_nil_iff.mpr fun r hr => ?_
        obtain ⟨e', he', hr⟩ := List.mem_flatMap.mp hr
        have hne : e' ≠ e := fun h => hn.1 (h ▸ he')
        simpa [fst_joinDay hr] using hne
      rw [hrest, if_pos rfl, List.append_nil]
    · rw [if_neg he, ih hn.2 ((List.mem_cons.mp hd).resolve_left (Ne.symm he)), List.nil_append]

lemma sumOf_day {d : Int} {ds : List Int} (hn : ds.Nodup) (hd : d ∈ ds) :
    sumOf ((leftJoin ds rows day).filter fun r => r.1 = d) p f =
      sumIf rows (fun r => day r = d ∧ p r) f := by
  rw [sumOf, leftJoin_day hn hd, rows_joinDay, sumIf_filter]

lemma sum_days (rows : List α) (day : α → Int) (p : α → Prop) [DecidablePred p] (f : α → Int)
    (first last : Int) :
    ((days first last).map fun d => sumIf rows (fun r => day r = d ∧ p r) f).sum =
      sumIf rows (fun r => (first ≤ day r ∧ day r ≤ last) ∧ p r) f := by
  have hkeys : sumIf (days first last) (fun _ => True)
      (fun d => sumIf (rows.filter p) (fun r => day r = d) f) =
      sumIf (rows.filter p) (fun r => ∃ d ∈ days first last, True ∧ day r = d) f :=
    sumIf_sumIf_key (by simpa using days_nodup first last)
  rw [sumIf_eq_sum fun _ _ => trivial] at hkeys
  have hgroups : ((days first last).map fun d => sumIf rows (fun r => day r = d ∧ p r) f) =
      (days first last).map fun d => sumIf (rows.filter p) (fun r => day r = d) f := by
    refine List.map_congr_left fun d _ => ?_
    rw [sumIf_filter]
    exact sumIf_congr fun r _ => And.comm
  rw [hgroups]
  refine hkeys.trans ?_
  rw [sumIf_filter]
  refine sumIf_congr fun r _ => ?_
  simp only [true_and, ← mem_days]
  constructor
  · rintro ⟨hp, d, hd, rfl⟩
    exact ⟨hd, hp⟩
  · rintro ⟨hd, hp⟩
    exact ⟨hp, _, hd, rfl⟩

lemma sum_map_sub (l : List α) (f g : α → Int) :
    (l.map fun a => f a - g a).sum = (l.map f).sum - (l.map g).sum := by
  induction l with
  | nil => rfl
  | cons a l ih =>
    rw [List.map_cons, List.map_cons, List.map_cons, List.sum_cons, List.sum_cons, List.sum_cons, ih]
    omega

end NhaTrangLaundry.Lib.DaySums
