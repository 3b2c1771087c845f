import Mathlib.Data.List.Induction
import NhaTrangLaundry.Lib.Sorting

/-! The keys of a sorted list and the latest entry of a list, neither of which hangs on
the order the list came in. -/

namespace NhaTrangLaundry.Lib.Extremes

open Sorting

variable {α κ : Type*} [LinearOrder κ] {key : α → κ}

lemma map_key_sortBy (key : α → κ) (l : List α) : (sortBy key l).map key = sortBy id (l.map key) :=
  map_sortBy key key id l fun _ _ _ _ => Iff.rfl

lemma map_key_sortBy_of_perm {l l' : List α} (hp : l.Perm l') :
    (sortBy key l).map key = (sortBy key l').map key := by
  have hkeys : (sortBy id (l.map key)).Perm (sortBy id (l'.map key)) :=
    (sortBy_perm id _).trans ((hp.map key).trans (sortBy_perm id _).symm)
  rw [map_key_sortBy, map_key_sortBy]
  refine List.Perm.eq_of_pairwise ?_ (sortBy_sorted id _) (sortBy_sorted id _) hkeys
  intro a b _ _ hab hba
  exact le_antisymm hab hba

/-- The later of the entry kept so far and the next one, which wins a tie. -/
def later (key : α → κ) : Option α → α → Option α
  | none, a => some a
  | some b, a => if key b ≤ key a then some a else some b

def latest (key : α → κ) (l : List α) : Option α := l.foldl (later key) none

lemma latest_append (l : List α) (a : α) :
    latest key (l ++ [a]) = later key (latest key l) a := by
  rw [latest, List.foldl_append]
  rfl

lemma later_mem {best : Option α} {a m : α} (h : later key best a = some m) :
    best = some m ∨ a = m := by
  cases best with
  | none => exact .inr (Option.some.inj h)
  | some b =>
    rw [later] at h
    split at h
    · exact .inr (Option.some.inj h)
    · exact .inl h

lemma latest_mem {l : List α} {m : α} (h : latest key l = some m) : m ∈ l := by
  induction l using List.reverseRecOn with
  | nil => cases h
  | append_singleton l a ih =>
    rw [latest_append] at h
    rcases later_mem h with hkept | rfl
    · exact List.mem_append_left _ (ih hkept)
    · exact List.mem_append_right _ (List.mem_singleton_self _)

lemma later_right_comm {a b : α} (hne : key a ≠ key b) (best : Option α) :
    later key (later key best a) b = later key (later key best b) a := by
  cases best with
  | none =>
    rw [later, later, later, later]
    rcases lt_or_gt_of_ne hne with hab | hba
    · rw [if_pos hab.le, if_neg hab.not_ge]
    · rw [if_neg hba.not_ge, if_pos hba.le]
  | some c =>
    rw [later, later]
    by_cases hca : key c ≤ key a <;> by_cases hcb : key c ≤ key b
    · rw [if_pos hca, if_pos hcb, later, later]
      rcases lt_or_gt_of_ne hne with hab | hba
      · rw [if_pos hab.le, if_neg hab.not_ge]
      · rw [if_neg hba.not_ge, if_pos hba.le]
    · rw [if_pos hca, if_neg hcb, later, later, if_pos hca,
        if_neg (not_le.mpr (lt_of_lt_of_le (not_le.mp hcb) hca))]
    · rw [if_neg hca, if_pos hcb, later, later, if_pos hcb,
        if_neg (not_le.mpr (lt_of_lt_of_le (not_le.mp hca) hcb))]
    · rw [if_neg hca, if_neg hcb, later, later, if_neg hca, if_neg hcb]

lemma latest_eq_of_perm {l l' : List α} (hp : l.Perm l') (hn : (l.map key).Nodup) :
    latest key l = latest key l' := by
  refine hp.foldl_eq' (fun a ha b hb best => ?_) none
  by_cases hab : a = b
  · rw [hab]
  · exact later_right_comm (fun hkey => hab (List.inj_on_of_nodup_map hn ha hb hkey)) best

end NhaTrangLaundry.Lib.Extremes
