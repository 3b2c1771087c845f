import Mathlib.Algebra.Ring.Int.Defs
import NhaTrangLaundry.Lib.Sorting
import Mathlib.Order.Lex
import Mathlib.Data.Prod.Lex

/-! Splitting a whole total over weighted keys: every key takes the floor of its
share, and the units left over go to the largest remainders. -/

namespace NhaTrangLaundry.Lib.LargestRemainder

open Sorting

variable {α κ : Type} [LinearOrder κ]

structure Allocation (κ : Type) where
  orderedIds : List κ
  floorAllocations : List Int
  remainders : List Int
  remainderAwardOrder : List κ
  finalAllocations : List Int
deriving DecidableEq

/-- `l[:k]`, which drops from the end when `k` is negative. -/
def slice (k : Int) (l : List α) : List α :=
  if 0 ≤ k then l.take k.toNat else l.take (l.length - (-k).toNat)

/-- The places of the keys, largest remainder first and ties by key. -/
def awardOrder (ids : List κ) (remainders : List Int) : List ((κ × Int) × Nat) :=
  sortBy (fun e => toLex (-e.1.2, e.1.1)) (ids.zip remainders).zipIdx

def awarded (floors : List Int) (places : List Nat) : List Int :=
  floors.mapIdx fun i floor => if i ∈ places then floor + 1 else floor

/-- The total split in proportion to `weight * multiplier / denominator`, for a
positive denominator. -/
def allocate (weights : List (κ × Int)) (multiplier denominator total : Int) : Allocation κ :=
  let ordered := sortBy Prod.fst weights
  let floors := ordered.map fun w => w.2 * multiplier / denominator
  let remainders := ordered.map fun w => w.2 * multiplier % denominator
  let awards := slice (total - floors.sum) (awardOrder (ordered.map Prod.fst) remainders)
  ⟨ordered.map Prod.fst, floors, remainders, awards.map fun e => e.1.1,
    awarded floors (awards.map Prod.snd)⟩

variable {weights weights' : List (κ × Int)} {multiplier denominator total : Int}

/-- The answer does not depend on the order in which the keys are given. -/
theorem allocate_perm (h : weights.Perm weights') (hn : (weights.map Prod.fst).Nodup) :
    allocate weights multiplier denominator total =
      allocate weights' multiplier denominator total := by
  unfold allocate
  rw [sortBy_eq_of_perm h hn]

@[simp] lemma orderedIds_allocate :
    (allocate weights multiplier denominator total).orderedIds =
      (sortBy Prod.fst weights).map Prod.fst := rfl

@[simp] lemma length_awarded (floors : List Int) (places : List Nat) :
    (awarded floors places).length = floors.length := by
  simp [awarded]

lemma length_finalAllocations :
    (allocate weights multiplier denominator total).finalAllocations.length =
      (allocate weights multiplier denominator total).orderedIds.length := by
  simp [allocate]

end NhaTrangLaundry.Lib.LargestRemainder
