import NhaTrangLaundry.Lib.JsonLoads
import Mathlib.Data.String.Basic

/-! `json.dumps(value, ensure_ascii=False, sort_keys=True, separators=(",", ":"))`:
members in the order of the code points of their names. -/

namespace NhaTrangLaundry.Lib.Json

open Sorting

mutual

def keyed : Json → Json
  | .arr xs => .arr (keyedList xs)
  | .obj fs => .obj (sortBy (fun f => f.1) (keyedFields fs))
  | .null => .null
  | .bool b => .bool b
  | .int n => .int n
  | .str s => .str s

def keyedList : List Json → List Json
  | [] => []
  | x :: xs => keyed x :: keyedList xs

def keyedFields : List (String × Json) → List (String × Json)
  | [] => []
  | (k, v) :: fs => (k, keyed v) :: keyedFields fs

end

def Alike (j j' : Json) : Prop := keyed j = keyed j'

def sortedDumps (j : Json) : String := String.ofList (inOrder (keyed j))

lemma keyedList_eq (xs : List Json) : keyedList xs = xs.map keyed := by
  induction xs with
  | nil => rfl
  | cons x xs ih => simp [keyedList, ih]

lemma keyedFields_eq (fs : List (String × Json)) :
    keyedFields fs = fs.map fun f => (f.1, keyed f.2) := by
  induction fs with
  | nil => rfl
  | cons f fs ih => simp [keyedFields, ih]

lemma distinct_keyed {j : Json} (h : distinct j) : distinct (keyed j) := by
  induction j using induction with
  | null => trivial
  | bool b => trivial
  | int n => trivial
  | str s => trivial
  | arr xs ih =>
    rw [distinct, distinctList_iff] at h
    rw [keyed, distinct, distinctList_iff, keyedList_eq, List.forall_mem_map]
    exact fun x hx => ih x hx (h x hx)
  | obj fs ih =>
    rw [distinct, distinctFields_iff] at h
    have hperm := sortBy_perm (fun f : String × Json => f.1) (keyedFields fs)
    rw [keyed, distinct, distinctFields_iff]
    constructor
    · rw [(hperm.map Prod.fst).nodup_iff, keyedFields_eq, List.map_map]
      exact h.1
    · intro f hf
      rw [hperm.mem_iff, keyedFields_eq, List.mem_map] at hf
      obtain ⟨g, hg, rfl⟩ := hf
      exact ih g hg (h.2 g hg)

lemma sortedDumps_eq {j j' : Json} (hd : distinct j) (hd' : distinct j') :
    sortedDumps j = sortedDumps j' ↔ Alike j j' := by
  constructor
  · intro h
    exact inOrder_injective (distinct_keyed hd) (distinct_keyed hd') (String.ofList_injective h)
  · intro h
    rw [sortedDumps, sortedDumps, show keyed j = keyed j' from h]

end NhaTrangLaundry.Lib.Json
