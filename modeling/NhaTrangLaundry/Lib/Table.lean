import Mathlib.Data.List.Nodup
import Mathlib.Tactic.Common

/-! Rows under a primary key: reading one and writing one. -/

namespace NhaTrangLaundry.Lib.Table

variable {ρ κ : Type} [DecidableEq κ] (key : ρ → κ)

def lookup (rows : List ρ) (k : κ) : Option ρ := rows.find? fun r => key r = k

def put (rows : List ρ) (row : ρ) : List ρ := rows.map fun r => if key r = key row then row else r

variable {key}

lemma lookup_key {rows : List ρ} {k : κ} {r : ρ} (h : lookup key rows k = some r) : key r = k := by
  simpa using List.find?_some h

lemma lookup_mem {rows : List ρ} {k : κ} {r : ρ} (h : lookup key rows k = some r) : r ∈ rows :=
  List.mem_of_find?_eq_some h

lemma lookup_of_mem {rows : List ρ} (hn : (rows.map key).Nodup) {r : ρ} (h : r ∈ rows) :
    lookup key rows (key r) = some r := by
  induction rows with
  | nil => simp at h
  | cons x rows ih =>
    rw [List.map_cons, List.nodup_cons] at hn
    rcases List.mem_cons.mp h with rfl | h
    · simp [lookup]
    · have hne : key x ≠ key r := fun he => hn.1 (he ▸ List.mem_map_of_mem h)
      simpa [lookup, hne] using ih hn.2 h

lemma map_key_put (rows : List ρ) (row : ρ) : (put key rows row).map key = rows.map key := by
  rw [put, List.map_map]
  refine List.map_congr_left fun r _ => ?_
  by_cases h : key r = key row <;> simp [h]

lemma lookup_put (rows : List ρ) (row : ρ) (k : κ) :
    lookup key (put key rows row) k =
      if key row = k then (lookup key rows k).map fun _ => row else lookup key rows k := by
  induction rows with
  | nil => simp [lookup, put]
  | cons x rows ih =>
    simp only [lookup, put, List.map_cons, List.find?_cons] at ih ⊢
    by_cases hx : key x = key row
    · by_cases hk : key row = k
      · simp [hx, hk]
      · rw [if_pos hx]
        simp only [hk, decide_false, if_false] at ih ⊢
        simp only [hx, hk, decide_false]
        exact ih
    · rw [if_neg hx]
      by_cases hxk : key x = k
      · have hk : key row ≠ k := fun h => hx (hxk.trans h.symm)
        simp [hxk, hk]
      · simp only [hxk, decide_false]
        exact ih

lemma lookup_none {rows : List ρ} {k : κ} : lookup key rows k = none ↔ k ∉ rows.map key := by
  rw [lookup, List.find?_eq_none, List.mem_map]
  constructor
  · rintro h ⟨r, hr, rfl⟩
    exact h r hr (by simp)
  · intro h r hr hk
    exact h ⟨r, hr, by simpa using hk⟩

lemma nodup_map_snoc {rows : List ρ} {row : ρ} (hn : (rows.map key).Nodup)
    (hnew : lookup key rows (key row) = none) : ((rows ++ [row]).map key).Nodup := by
  rw [List.map_append, List.nodup_append]
  refine ⟨hn, List.nodup_singleton _, ?_⟩
  intro a ha b hb hab
  rw [List.map_singleton, List.mem_singleton] at hb
  subst hb
  exact lookup_none.mp hnew (hab ▸ ha)

lemma lookup_snoc {rows : List ρ} {row : ρ} (hnew : lookup key rows (key row) = none) (k : κ) :
    lookup key (rows ++ [row]) k = if key row = k then some row else lookup key rows k := by
  rw [lookup, List.find?_append]
  by_cases hk : key row = k
  · subst hk
    have hnew' : rows.find? (fun r => key r = key row) = none := hnew
    rw [hnew', if_pos rfl]
    simp
  · rw [if_neg hk, List.find?_singleton, if_neg (by simpa using hk), Option.or_none]
    rfl

lemma lookup_put_same {rows : List ρ} {row r : ρ} (h : lookup key rows (key row) = some r) :
    lookup key (put key rows row) (key row) = some row := by
  rw [lookup_put, if_pos rfl, h]
  rfl

lemma lookup_put_ne (rows : List ρ) {row : ρ} {k : κ} (h : key row ≠ k) :
    lookup key (put key rows row) k = lookup key rows k := by
  rw [lookup_put, if_neg h]

lemma mem_put {rows : List ρ} {row old : ρ} (hold : old ∈ rows) (hkey : key row = key old) (r : ρ) :
    r ∈ put key rows row ↔ r = row ∨ (r ∈ rows ∧ key r ≠ key row) := by
  rw [put, List.mem_map]
  constructor
  · rintro ⟨x, hx, rfl⟩
    by_cases h : key x = key row
    · rw [if_pos h]
      exact .inl rfl
    · rw [if_neg h]
      exact .inr ⟨hx, h⟩
  · rintro (rfl | ⟨hr, hne⟩)
    · exact ⟨old, hold, if_pos hkey.symm⟩
    · exact ⟨r, hr, if_neg hne⟩

lemma mem_put_self {rows : List ρ} {row old : ρ} (hold : old ∈ rows) (hkey : key row = key old) :
    row ∈ put key rows row :=
  (mem_put hold hkey row).mpr (.inl rfl)

omit [DecidableEq κ] in
lemma eq_of_column {column : ρ → Option κ} {rows : List ρ} (hn : (rows.filterMap column).Nodup)
    {r s : ρ} (hr : r ∈ rows) (hs : s ∈ rows) {k : κ} (hrk : column r = some k)
    (hsk : column s = some k) : r = s := by
  induction rows with
  | nil => cases hr
  | cons x rows ih =>
    cases hx : column x with
    | none =>
      rw [List.filterMap_cons_none hx] at hn
      have hne : ∀ y, column y = some k → y ≠ x := by
        rintro y hy rfl
        rw [hx] at hy
        cases hy
      exact ih hn ((List.mem_cons.mp hr).resolve_left (hne r hrk))
        ((List.mem_cons.mp hs).resolve_left (hne s hsk))
    | some j =>
      rw [List.filterMap_cons_some hx, List.nodup_cons] at hn
      have hnot : ∀ y ∈ rows, column y ≠ some j := fun y hy h =>
        hn.1 (List.mem_filterMap.mpr ⟨y, hy, h⟩)
      rcases List.mem_cons.mp hr with rfl | hr' <;> rcases List.mem_cons.mp hs with rfl | hs'
      · rfl
      · exact absurd (hsk.trans (hrk.symm.trans hx)) (hnot s hs')
      · exact absurd (hrk.trans (hsk.symm.trans hx)) (hnot r hr')
      · exact ih hn.2 hr' hs'

end NhaTrangLaundry.Lib.Table
