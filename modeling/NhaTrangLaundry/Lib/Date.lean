import Mathlib.Data.List.FinRange
import NhaTrangLaundry.Lib.Datetime

/-! Calendar days of the years 1 to 9999, and their texts. -/

namespace NhaTrangLaundry.Lib

open Text Gregorian Datetime

structure Date where
  ordinal : Nat
  ordinal_lt : ordinal < maxDay
deriving DecidableEq

namespace Date

def isoformat (d : Date) : String :=
  String.ofList (padded 10 4 (year d.ordinal) ++ '-' :: (padded 10 2 (month d.ordinal) ++
    '-' :: padded 10 2 (day d.ordinal)))

lemma padded_injective {w m n : Nat} (hm : m < 10 ^ w) (hn : n < 10 ^ w)
    (h : padded 10 w m = padded 10 w n) : m = n := by
  have hread := numeral_padded (b := 10) (by decide) (by decide) hm
  rw [h, numeral_padded (by decide) (by decide) hn] at hread
  exact (Option.some.inj hread).symm

lemma year_lt (n : Nat) : year n < 10 ^ 4 := by
  have := (year_bounds n).2
  rw [lastYear] at this
  omega

lemma month_lt (n : Nat) : month n < 10 ^ 2 := by
  have := (month_bounds n).2
  omega

lemma day_lt {n : Nat} (h : n < maxDay) : day n < 10 ^ 2 := by
  have hday := (day_bounds h).2
  have hlength := daysInMonth_le (year n) (month n)
  omega

lemma isoformat_injective : Function.Injective isoformat := by
  intro d e h
  have htext := String.ofList_inj.mp h
  obtain ⟨hyear, htext⟩ := List.append_inj htext (by rw [length_padded, length_padded])
  obtain ⟨hmonth, htext⟩ :=
    List.append_inj (List.cons_inj_right _ |>.mp htext) (by rw [length_padded, length_padded])
  have hyear := padded_injective (year_lt _) (year_lt _) hyear
  have hmonth := padded_injective (month_lt _) (month_lt _) hmonth
  have hday := padded_injective (day_lt d.ordinal_lt) (day_lt e.ordinal_lt)
    (List.cons_inj_right _ |>.mp htext)
  have hordinal : d.ordinal = e.ordinal := by
    rw [← ordinal_date d.ordinal_lt, ← ordinal_date e.ordinal_lt, hyear, hmonth, hday]
  cases d
  cases e
  congr

lemma ascii_isoformat (d : Date) : ascii d.isoformat := by
  have hdigits : ∀ w n : Nat, ∀ c ∈ padded 10 w n, c.toNat < 128 := by
    intro w n c hc
    obtain ⟨k, hk, rfl⟩ := mem_padded (by decide) hc
    exact digitChar_ascii (by omega)
  refine ascii_ofList.mpr fun c hc => ?_
  rw [List.mem_append, List.mem_cons, List.mem_append, List.mem_cons] at hc
  rcases hc with hc | rfl | hc | rfl | hc
  · exact hdigits _ _ c hc
  · decide
  · exact hdigits _ _ c hc
  · decide
  · exact hdigits _ _ c hc

def through (first last : Date) : List Date :=
  (List.finRange (last.ordinal + 1 - first.ordinal)).map fun i : Fin _ =>
    ⟨first.ordinal + i.val, by have := last.ordinal_lt; omega⟩

lemma flatMap_through {α : Type} (first last : Date) (f : Nat → List α) :
    (through first last).flatMap (fun d => f d.ordinal) =
      (List.range (last.ordinal + 1 - first.ordinal)).flatMap fun i => f (first.ordinal + i) := by
  rw [through, List.flatMap_map, ← List.map_coe_finRange_eq_range, List.flatMap_map]

end Date

end NhaTrangLaundry.Lib
