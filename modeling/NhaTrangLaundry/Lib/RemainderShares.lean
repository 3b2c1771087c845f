import NhaTrangLaundry.Lib.LargestRemainder
import Mathlib.Algebra.Order.BigOperators.Group.List
import Mathlib.Algebra.BigOperators.Ring.List
import Mathlib.Algebra.BigOperators.Group.Finset.Basic
import Mathlib.Data.Finset.Card
import Mathlib.Tactic.Linarith
import Mathlib.Tactic.Ring

/-! The shares of a split by largest remainder: they add up to the total, and each is
its exact share rounded down or up. -/

namespace NhaTrangLaundry.Lib.LargestRemainder

open Sorting

variable {α κ : Type} [LinearOrder κ]

def floorOf (multiplier denominator : Int) (w : κ × Int) : Int := w.2 * multiplier / denominator

def remainderOf (multiplier denominator : Int) (w : κ × Int) : Int := w.2 * multiplier % denominator

def unsettled (multiplier denominator : Int) (weights : List (κ × Int)) : Nat :=
  weights.countP fun w => remainderOf multiplier denominator w ≠ 0

def Balanced (weights : List (κ × Int)) (multiplier denominator total : Int) : Prop :=
  (weights.map (floorOf multiplier denominator)).sum ≤ total ∧
    total ≤ (weights.map (floorOf multiplier denominator)).sum +
      unsettled multiplier denominator weights

def sharesOf (weights : List (κ × Int)) (multiplier denominator total : Int) : List (κ × Int) :=
  (allocate weights multiplier denominator total).orderedIds.zip
    (allocate weights multiplier denominator total).finalAllocations

section Lookup

variable [BEq κ] [LawfulBEq κ] {shares : List (κ × Int)}

omit [LinearOrder κ] in
lemma lookup_of_mem (hn : (shares.map Prod.fst).Nodup) {k : κ} {x : Int} (h : (k, x) ∈ shares) :
    shares.lookup k = some x := by
  induction shares with
  | nil => cases h
  | cons share shares ih =>
    rw [List.map_cons, List.nodup_cons] at hn
    rcases List.mem_cons.mp h with rfl | htail
    · exact List.lookup_cons_self
    · have hne : (k == share.1) = false := by
        rw [beq_eq_false_iff_ne]
        rintro rfl
        exact hn.1 (List.mem_map.mpr ⟨_, htail, rfl⟩)
      rw [List.lookup_cons, hne]
      exact ih hn.2 htail

omit [LinearOrder κ] [LawfulBEq κ] in
lemma lookup_of_not_mem [LawfulBEq κ] {k : κ} (h : k ∉ shares.map Prod.fst) :
    shares.lookup k = none := by
  rw [List.lookup_eq_none_iff]
  intro share hmem
  rw [bne_iff_ne]
  rintro rfl
  exact h (List.mem_map_of_mem (f := Prod.fst) hmem)

lemma sum_lookup (hn : (shares.map Prod.fst).Nodup) {keys : List κ} (hkeys : keys.Nodup)
    (hsub : ∀ k ∈ shares.map Prod.fst, k ∈ keys) :
    (keys.map fun k => (shares.lookup k).getD 0).sum = (shares.map Prod.snd).sum := by
  have hown : (shares.map Prod.fst).map (fun k => (shares.lookup k).getD 0) = shares.map Prod.snd := by
    rw [List.map_map]
    refine List.map_congr_left fun share hmem => ?_
    rw [Function.comp_apply, lookup_of_mem hn hmem, Option.getD_some]
  rw [← hown, ← List.sum_toFinset _ hkeys, ← List.sum_toFinset _ hn]
  refine (Finset.sum_subset ?_ fun k _ hout => ?_).symm
  · intro k hk
    rw [List.mem_toFinset] at hk ⊢
    exact hsub k hk
  · rw [List.mem_toFinset] at hout
    rw [lookup_of_not_mem hout, Option.getD_none]

end Lookup

lemma forall_mem_take {p : α → Prop} [DecidablePred p] {l : List α}
    (hl : l.Pairwise fun a b => p b → p a) {k : Nat} (hk : k ≤ l.countP (p ·)) :
    ∀ a ∈ l.take k, p a := by
  induction l generalizing k with
  | nil => simp
  | cons a l ih =>
    obtain ⟨hhead, htail⟩ := List.pairwise_cons.mp hl
    cases k with
    | zero => simp
    | succ k =>
      have ha : p a := by
        by_contra hnot
        rw [List.countP_cons_of_neg (by simpa using hnot)] at hk
        obtain ⟨b, hb, hpb⟩ := List.countP_pos_iff.mp (Nat.lt_of_lt_of_le k.succ_pos hk)
        exact hnot (hhead b hb (by simpa using hpb))
      rw [List.countP_cons_of_pos (by simpa using ha)] at hk
      rw [List.take_succ_cons, List.forall_mem_cons]
      exact ⟨ha, ih htail (by omega)⟩

lemma countP_range_mem {n : Nat} {places : List Nat} (hn : places.Nodup)
    (hlt : ∀ i ∈ places, i < n) : (List.range n).countP (· ∈ places) = places.length := by
  have hfiltered : ((List.range n).filter (· ∈ places)).toFinset = places.toFinset := by
    ext i
    simpa using hlt i
  rw [List.countP_eq_length_filter, ← List.toFinset_card_of_nodup (List.nodup_range.filter _),
    hfiltered, List.toFinset_card_of_nodup hn]

lemma sum_awarded {floors : List Int} {places : List Nat} (hn : places.Nodup)
    (hlt : ∀ i ∈ places, i < floors.length) :
    (awarded floors places).sum = floors.sum + places.length := by
  have hsplit : ∀ k, (floors.mapIdx fun i floor => if i + k ∈ places then floor + 1 else floor).sum =
      floors.sum + ((List.range' k floors.length).countP (· ∈ places) : Nat) := by
    clear hlt
    induction floors with
    | nil => simp
    | cons floor floors ih =>
      intro k
      have hnext := ih (k + 1)
      simp only [← Nat.add_assoc] at hnext
      rw [List.mapIdx_cons, List.sum_cons, List.sum_cons, List.length_cons, List.range'_succ,
        List.countP_cons]
      simp only [Nat.add_right_comm _ 1 k, hnext, Nat.zero_add, decide_eq_true_eq]
      split_ifs <;> push_cast <;> ring
  rw [awarded, ← countP_range_mem hn hlt, List.range_eq_range']
  exact hsplit 0

section Shares

variable {weights : List (κ × Int)} {multiplier denominator total : Int}

omit [LinearOrder κ] in
lemma sum_floors_remainders (weights : List (κ × Int)) (multiplier denominator : Int) :
    denominator * (weights.map (floorOf multiplier denominator)).sum +
        (weights.map (remainderOf multiplier denominator)).sum =
      (weights.map Prod.snd).sum * multiplier := by
  induction weights with
  | nil => simp
  | cons w weights ih =>
    have hdiv : denominator * floorOf multiplier denominator w + remainderOf multiplier denominator w =
        w.2 * multiplier := Int.mul_ediv_add_emod _ _
    simp only [List.map_cons, List.sum_cons]
    linarith

omit [LinearOrder κ] in
lemma sum_remainders_bounds (weights : List (κ × Int)) (multiplier : Int) (hd : 0 < denominator) :
    0 ≤ (weights.map (remainderOf multiplier denominator)).sum ∧
      (weights.map (remainderOf multiplier denominator)).sum ≤
        (denominator - 1) * unsettled multiplier denominator weights := by
  induction weights with
  | nil => simp [unsettled]
  | cons w weights ih =>
    have hlow : 0 ≤ remainderOf multiplier denominator w := Int.emod_nonneg _ hd.ne'
    have hhigh : remainderOf multiplier denominator w < denominator := Int.emod_lt_of_pos _ hd
    have hcount : unsettled multiplier denominator (w :: weights) =
        unsettled multiplier denominator weights +
          if remainderOf multiplier denominator w ≠ 0 then 1 else 0 := by
      simp [unsettled, List.countP_cons]
    rw [List.map_cons, List.sum_cons, hcount]
    split_ifs with hzero
    · push_cast
      constructor
      · linarith
      · linarith
    · rw [not_not] at hzero
      rw [hzero, zero_add, Nat.add_zero]
      exact ih

lemma mem_awardOrder {ids : List κ} {remainders : List Int} {e : (κ × Int) × Nat}
    (h : e ∈ awardOrder ids remainders) : (ids.zip remainders)[e.2]? = some e.1 :=
  List.mem_zipIdx_iff_getElem?.mp (mem_sortBy.mp h)

lemma nodup_awardOrder (ids : List κ) (remainders : List Int) :
    ((awardOrder ids remainders).map Prod.snd).Nodup := by
  rw [awardOrder, ((sortBy_perm _ _).map Prod.snd).nodup_iff, List.zipIdx_map_snd]
  exact List.nodup_range'

lemma awardOrder_sorted {ids : List κ} {remainders : List Int} (hr : ∀ r ∈ remainders, 0 ≤ r) :
    (awardOrder ids remainders).Pairwise fun a b => b.1.2 ≠ 0 → a.1.2 ≠ 0 := by
  refine (sortBy_sorted _ _).imp_of_mem fun {a b} _ hb hle => ?_
  have hb' := List.mem_of_getElem? (mem_awardOrder hb)
  have hpos := hr b.1.2 (List.of_mem_zip hb').2
  have hfirst : -a.1.2 ≤ -b.1.2 := by
    rcases Prod.Lex.toLex_le_toLex.mp hle with hlt | heq
    · exact hlt.le
    · exact heq.1.le
  intro hnonzero
  omega

lemma countP_awardOrder {ids : List κ} {remainders : List Int}
    (hlength : ids.length = remainders.length) :
    (awardOrder ids remainders).countP (fun e => e.1.2 ≠ 0) = remainders.countP (· ≠ 0) := by
  have hmap : (ids.zip remainders).zipIdx.map (fun e => e.1.2) = remainders := by
    rw [← Function.comp_def Prod.snd Prod.fst, ← List.map_map, List.zipIdx_map_fst,
      List.map_snd_zip hlength.ge]
  calc (awardOrder ids remainders).countP (fun e => e.1.2 ≠ 0)
      = (ids.zip remainders).zipIdx.countP (fun e => e.1.2 ≠ 0) := (sortBy_perm _ _).countP_eq _
    _ = ((ids.zip remainders).zipIdx.map fun e => e.1.2).countP (· ≠ 0) := by
        rw [List.countP_map]
        rfl
    _ = remainders.countP (· ≠ 0) := by rw [hmap]

def awards (weights : List (κ × Int)) (multiplier denominator total : Int) :
    List ((κ × Int) × Nat) :=
  slice (total - ((sortBy Prod.fst weights).map (floorOf multiplier denominator)).sum)
    (awardOrder ((sortBy Prod.fst weights).map Prod.fst)
      ((sortBy Prod.fst weights).map (remainderOf multiplier denominator)))

lemma finalAllocations_eq :
    (allocate weights multiplier denominator total).finalAllocations =
      awarded ((sortBy Prod.fst weights).map (floorOf multiplier denominator))
        ((awards weights multiplier denominator total).map Prod.snd) := rfl

lemma sum_floors_sorted :
    ((sortBy Prod.fst weights).map (floorOf multiplier denominator)).sum =
      (weights.map (floorOf multiplier denominator)).sum :=
  ((sortBy_perm Prod.fst weights).map _).sum_eq

lemma awards_eq_take (h : Balanced weights multiplier denominator total) :
    awards weights multiplier denominator total =
      (awardOrder ((sortBy Prod.fst weights).map Prod.fst)
        ((sortBy Prod.fst weights).map (remainderOf multiplier denominator))).take
        (total - (weights.map (floorOf multiplier denominator)).sum).toNat := by
  rw [awards, sum_floors_sorted, slice, if_pos (by linarith [h.1])]

lemma unsettled_sorted :
    ((sortBy Prod.fst weights).map (remainderOf multiplier denominator)).countP (· ≠ 0) =
      unsettled multiplier denominator weights := by
  rw [List.countP_map, (sortBy_perm Prod.fst weights).countP_eq]
  rfl

lemma length_awards (h : Balanced weights multiplier denominator total) :
    ((awards weights multiplier denominator total).length : Int) =
      total - (weights.map (floorOf multiplier denominator)).sum := by
  have hlength : unsettled multiplier denominator weights ≤ weights.length := List.countP_le_length
  have horder : (awardOrder ((sortBy Prod.fst weights).map Prod.fst)
      ((sortBy Prod.fst weights).map (remainderOf multiplier denominator))).length =
        weights.length := by
    simp [awardOrder]
  have hlow := h.1
  have hhigh := h.2
  rw [awards_eq_take h, List.length_take, horder]
  omega

lemma mem_awards (hd : 0 < denominator) (h : Balanced weights multiplier denominator total)
    {e : (κ × Int) × Nat} (he : e ∈ awards weights multiplier denominator total) :
    ∃ w, (sortBy Prod.fst weights)[e.2]? = some w ∧ remainderOf multiplier denominator w ≠ 0 := by
  rw [awards_eq_take h] at he
  have hnonneg : ∀ r ∈ (sortBy Prod.fst weights).map (remainderOf multiplier denominator), 0 ≤ r := by
    intro r hr
    obtain ⟨w, -, rfl⟩ := List.mem_map.mp hr
    exact Int.emod_nonneg _ hd.ne'
  have hcount : (total - (weights.map (floorOf multiplier denominator)).sum).toNat ≤
      (awardOrder ((sortBy Prod.fst weights).map Prod.fst)
        ((sortBy Prod.fst weights).map (remainderOf multiplier denominator))).countP
        (fun e => e.1.2 ≠ 0) := by
    rw [countP_awardOrder (by simp), unsettled_sorted]
    have hhigh := h.2
    omega
  have hnonzero := forall_mem_take (awardOrder_sorted hnonneg) hcount e he
  have hplace := mem_awardOrder (List.mem_of_mem_take he)
  rw [List.zip_map', List.getElem?_map, Option.map_eq_some_iff] at hplace
  obtain ⟨w, hw, heq⟩ := hplace
  refine ⟨w, hw, ?_⟩
  rw [← heq] at hnonzero
  exact hnonzero

/-- The shares add up to the total. -/
theorem sum_finalAllocations (hd : 0 < denominator)
    (h : Balanced weights multiplier denominator total) :
    (allocate weights multiplier denominator total).finalAllocations.sum = total := by
  have hnodup : ((awards weights multiplier denominator total).map Prod.snd).Nodup := by
    rw [awards_eq_take h]
    exact (nodup_awardOrder _ _).sublist ((List.take_sublist _ _).map _)
  have hplaces : ∀ i ∈ (awards weights multiplier denominator total).map Prod.snd,
      i < ((sortBy Prod.fst weights).map (floorOf multiplier denominator)).length := by
    intro i hi
    obtain ⟨e, he, rfl⟩ := List.mem_map.mp hi
    obtain ⟨w, hw, -⟩ := mem_awards hd h he
    rw [List.length_map]
    exact (List.getElem?_eq_some_iff.mp hw).1
  rw [finalAllocations_eq, sum_awarded hnodup hplaces, List.length_map, length_awards h,
    sum_floors_sorted]
  ring

/-- Each share is the floor of the exact one, or one more where that is not whole. -/
theorem mem_sharesOf (hd : 0 < denominator) (h : Balanced weights multiplier denominator total)
    {k : κ} {x : Int} (hx : (k, x) ∈ sharesOf weights multiplier denominator total) :
    ∃ w, (k, w) ∈ weights ∧ (x = w * multiplier / denominator ∨
      x = w * multiplier / denominator + 1 ∧ w * multiplier % denominator ≠ 0) := by
  obtain ⟨i, hi⟩ := List.mem_iff_getElem?.mp hx
  rw [sharesOf, List.getElem?_zip_eq_some, orderedIds_allocate, finalAllocations_eq, awarded,
    List.getElem?_map, List.getElem?_mapIdx, List.getElem?_map, Option.map_eq_some_iff] at hi
  obtain ⟨⟨w, hw, rfl⟩, hshare⟩ := hi
  refine ⟨w.2, mem_sortBy.mp (List.mem_of_getElem? hw), ?_⟩
  rw [hw, Option.map_some, Option.map_some, Option.some_inj] at hshare
  split_ifs at hshare with hawarded
  · obtain ⟨e, he, rfl⟩ := List.mem_map.mp hawarded
    obtain ⟨w', hw', hnonzero⟩ := mem_awards hd h he
    rw [hw, Option.some_inj] at hw'
    subst hw'
    exact .inr ⟨hshare.symm, hnonzero⟩
  · exact .inl hshare.symm

lemma map_fst_sharesOf :
    (sharesOf weights multiplier denominator total).map Prod.fst =
      (sortBy Prod.fst weights).map Prod.fst := by
  rw [sharesOf, List.map_fst_zip length_finalAllocations.ge, orderedIds_allocate]

lemma map_snd_sharesOf :
    (sharesOf weights multiplier denominator total).map Prod.snd =
      (allocate weights multiplier denominator total).finalAllocations := by
  rw [sharesOf, List.map_snd_zip length_finalAllocations.le]

lemma share_close {w x : Int} (hd : 0 < denominator) (hx : x = w * multiplier / denominator ∨
    x = w * multiplier / denominator + 1 ∧ w * multiplier % denominator ≠ 0) :
    w * multiplier - denominator < denominator * x ∧
      denominator * x < w * multiplier + denominator := by
  have hdiv := Int.mul_ediv_add_emod (w * multiplier) denominator
  have hlow := Int.emod_nonneg (w * multiplier) hd.ne'
  have hhigh := Int.emod_lt_of_pos (w * multiplier) hd
  rcases hx with rfl | ⟨rfl, hnonzero⟩
  · constructor
    · linarith
    · linarith
  · rw [Int.mul_add, Int.mul_one]
    constructor
    · linarith
    · have hpos : 0 < w * multiplier % denominator := by omega
      linarith

lemma share_bounds {w x : Int} (hw : 0 ≤ w) (hm : 0 ≤ multiplier) (hle : multiplier ≤ denominator)
    (hd : 0 < denominator) (hx : x = w * multiplier / denominator ∨
      x = w * multiplier / denominator + 1 ∧ w * multiplier % denominator ≠ 0) :
    0 ≤ x ∧ x ≤ w := by
  have hfloor : 0 ≤ w * multiplier / denominator := Int.ediv_nonneg (Int.mul_nonneg hw hm) hd.le
  have hclose := (share_close hd hx).2
  have hexact : w * multiplier ≤ denominator * w := by
    rw [Int.mul_comm denominator w]
    exact Int.mul_le_mul_of_nonneg_left hle hw
  constructor
  · omega
  · have hnext : denominator * x < denominator * (w + 1) := by
      rw [Int.mul_add, Int.mul_one]
      linarith
    have hlt := lt_of_mul_lt_mul_left hnext hd.le
    omega

omit [LinearOrder κ] in
lemma balanced_exact (hd : 0 < (weights.map Prod.snd).sum) :
    Balanced weights total (weights.map Prod.snd).sum total := by
  have hsum := sum_floors_remainders weights total (weights.map Prod.snd).sum
  obtain ⟨hlow, hhigh⟩ := sum_remainders_bounds weights total hd
  generalize (weights.map Prod.snd).sum = denominator at hsum hd hlow hhigh ⊢
  generalize (weights.map (remainderOf total denominator)).sum = left at hsum hlow hhigh
  have hshort : denominator * (total - (weights.map (floorOf total denominator)).sum) = left := by
    rw [Int.mul_sub]
    linarith
  constructor
  · have hnonneg : 0 ≤ denominator * (total - (weights.map (floorOf total denominator)).sum) := by
      rw [hshort]
      exact hlow
    have := nonneg_of_mul_nonneg_right hnonneg hd
    omega
  · have hcount : (0 : Int) ≤ unsettled total denominator weights := Int.natCast_nonneg _
    have hmost : denominator * (total - (weights.map (floorOf total denominator)).sum) ≤
        denominator * unsettled total denominator weights := by
      rw [hshort]
      linarith
    have := le_of_mul_le_mul_left hmost hd
    omega

end Shares

end NhaTrangLaundry.Lib.LargestRemainder
