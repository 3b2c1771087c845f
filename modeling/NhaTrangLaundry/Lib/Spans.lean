import Mathlib.Data.Finset.Card
import Mathlib.Algebra.BigOperators.Group.List.Basic
import Mathlib.Tactic.Linarith

/-! Spans of time that do not meet: together they last no longer than the window they lie in. -/

namespace NhaTrangLaundry.Lib.Spans

lemma sum_card_le {α : Type*} [DecidableEq α] {l : List (Finset α)} {s : Finset α}
    (hapart : l.Pairwise fun t t' => ∀ a ∈ t, a ∉ t') (hsub : ∀ t ∈ l, ∀ a ∈ t, a ∈ s) :
    (l.map Finset.card).sum ≤ s.card := by
  induction l generalizing s with
  | nil => exact Nat.zero_le _
  | cons t l ih =>
    obtain ⟨hfirst, hrest⟩ := List.pairwise_cons.mp hapart
    have hin : t ⊆ s := hsub t List.mem_cons_self
    have hleft : ∀ t' ∈ l, ∀ a ∈ t', a ∈ s \ t := by
      intro t' ht' a ha
      exact Finset.mem_sdiff.mpr ⟨hsub t' (List.mem_cons_of_mem t ht') a ha,
        fun hat => hfirst t' ht' a hat ha⟩
    have hcount := ih hrest hleft
    rw [Finset.card_sdiff_of_subset hin] at hcount
    have hle := Finset.card_le_card hin
    rw [List.map_cons, List.sum_cons]
    omega

/-- The part of the time from `a` to `b` that lies in the span from `x` to `y`. -/
def overlap (a b x y : Int) : Finset Int :=
  (Finset.range (min y b - max x a).toNat).image fun k : Nat => max x a + (k : Int)

variable {a b x y n : Int}

lemma mem_overlap : n ∈ overlap a b x y ↔ max x a ≤ n ∧ n < min y b := by
  rw [overlap, Finset.mem_image]
  constructor
  · rintro ⟨k, hk, rfl⟩
    have := Finset.mem_range.mp hk
    omega
  · rintro ⟨hle, hlt⟩
    exact ⟨(n - max x a).toNat, Finset.mem_range.mpr (by omega), by omega⟩

lemma card_overlap : ((overlap a b x y).card : Int) = max 0 (min y b - max x a) := by
  have hinjective : Function.Injective fun k : Nat => max x a + (k : Int) := by
    intro k k' hk
    dsimp only at hk
    omega
  rw [overlap, Finset.card_image_of_injective _ hinjective, Finset.card_range]
  omega

end NhaTrangLaundry.Lib.Spans
