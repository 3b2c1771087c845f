import NhaTrangLaundry.Lib.Sorting
import Mathlib.Data.List.Dedup

/-! Lists without repeats: the first element of every key, in order, and the
sorted list of the members of a set. -/

namespace NhaTrangLaundry.Lib.Distinct

open Sorting

variable {α κ : Type*}

section Firsts

variable [DecidableEq κ] {key : α → κ} {l : List α} {a : α}

def firstsBy (key : α → κ) : List α → List α
  | [] => []
  | a :: l => a :: (firstsBy key l).filter fun b => key b ≠ key a

lemma firstsBy_sublist (key : α → κ) (l : List α) : (firstsBy key l).Sublist l := by
  induction l with
  | nil => exact List.Sublist.refl _
  | cons a l ih => exact (List.filter_sublist.trans ih).cons_cons a

lemma mem_of_mem_firstsBy (h : a ∈ firstsBy key l) : a ∈ l := (firstsBy_sublist key l).mem h

lemma nodup_firstsBy (key : α → κ) (l : List α) : ((firstsBy key l).map key).Nodup := by
  induction l with
  | nil => exact List.nodup_nil
  | cons a l ih =>
    rw [firstsBy, List.map_cons, List.nodup_cons]
    refine ⟨?_, ih.sublist (List.filter_sublist.map key)⟩
    simp

lemma exists_mem_firstsBy (key : α → κ) (h : a ∈ l) : ∃ b ∈ firstsBy key l, key b = key a := by
  induction l with
  | nil => simp at h
  | cons c l ih =>
    by_cases hkey : key c = key a
    · exact ⟨c, List.mem_cons_self, hkey⟩
    · rcases List.mem_cons.mp h with rfl | h
      · exact absurd rfl hkey
      · obtain ⟨b, hb, heq⟩ := ih h
        refine ⟨b, List.mem_cons_of_mem _ (List.mem_filter.mpr ⟨hb, ?_⟩), heq⟩
        simpa [heq] using fun h => hkey h.symm

lemma mem_map_firstsBy {k : κ} : k ∈ (firstsBy key l).map key ↔ k ∈ l.map key := by
  constructor
  · intro h
    obtain ⟨a, ha, rfl⟩ := List.mem_map.mp h
    exact List.mem_map_of_mem (mem_of_mem_firstsBy ha)
  · intro h
    obtain ⟨a, ha, rfl⟩ := List.mem_map.mp h
    obtain ⟨b, hb, heq⟩ := exists_mem_firstsBy key ha
    exact List.mem_map.mpr ⟨b, hb, heq⟩

lemma mem_firstsBy_id {l : List κ} {k : κ} : k ∈ firstsBy id l ↔ k ∈ l := by
  have h : k ∈ (firstsBy id l).map id ↔ k ∈ l.map id := mem_map_firstsBy
  simpa using h

end Firsts

section SortedSet

variable [LinearOrder κ] {l l' : List κ}

/-- `sorted(set(l))`. -/
def sortedSet (l : List κ) : List κ := sortBy id l.dedup

@[simp] lemma mem_sortedSet {k : κ} : k ∈ sortedSet l ↔ k ∈ l := by
  rw [sortedSet, mem_sortBy, List.mem_dedup]

lemma nodup_sortedSet (l : List κ) : (sortedSet l).Nodup :=
  (sortBy_perm id _).nodup_iff.mpr l.nodup_dedup

lemma sortedSet_congr (h : ∀ k, k ∈ l ↔ k ∈ l') : sortedSet l = sortedSet l' := by
  refine sortBy_eq_of_perm ?_ (by simpa using l.nodup_dedup)
  refine (List.perm_ext_iff_of_nodup l.nodup_dedup l'.nodup_dedup).mpr fun k => ?_
  rw [List.mem_dedup, List.mem_dedup, h]

@[simp] lemma sortedSet_idem (l : List κ) : sortedSet (sortedSet l) = sortedSet l :=
  sortedSet_congr fun _ => mem_sortedSet

lemma filter_sortedSet (p : κ → Bool) (l : List κ) :
    (sortedSet l).filter p = sortedSet (l.filter p) := by
  rw [sortedSet, filter_sortBy p (by simpa using l.nodup_dedup)]
  refine sortBy_eq_of_perm ?_ (by simpa using l.nodup_dedup.filter p)
  refine (List.perm_ext_iff_of_nodup (l.nodup_dedup.filter p) (l.filter p).nodup_dedup).mpr
    fun k => ?_
  simp

end SortedSet

end NhaTrangLaundry.Lib.Distinct
