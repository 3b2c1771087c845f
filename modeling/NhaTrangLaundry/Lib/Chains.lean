import Mathlib.Logic.Relation
import Mathlib.Tactic.Common

/-! Chains: the connected parts of a relation in which nothing has two successors or two
predecessors. -/

namespace NhaTrangLaundry.Lib.Chains

open Relation

variable {α : Type} {r : α → α → Prop}

lemma reaches_of_eqvGen (hr : Relator.RightUnique r) (hl : Relator.LeftUnique r) {a b : α}
    (h : EqvGen r a b) : ReflTransGen r a b ∨ ReflTransGen r b a := by
  induction h with
  | rel a b h => exact .inl (.single h)
  | refl a => exact .inl .refl
  | symm a b _ ih => exact ih.symm
  | trans a b c _ _ ihab ihbc =>
    rcases ihab with hab | hba <;> rcases ihbc with hbc | hcb
    · exact .inl (hab.trans hbc)
    · -- both lead to the middle one: read the relation backwards
      have hswap : Relator.RightUnique (Function.swap r) := fun x y z hy hz => hl hy hz
      have hab' := reflTransGen_swap.mpr hab
      have hcb' := reflTransGen_swap.mpr hcb
      rcases ReflTransGen.total_of_right_unique hswap hab' hcb' with h | h
      · exact .inr (reflTransGen_swap.mp h)
      · exact .inl (reflTransGen_swap.mp h)
    · exact ReflTransGen.total_of_right_unique hr hba hbc
    · exact .inr (hcb.trans hba)

lemma eq_of_reaches {a b : α} (hlast : ∀ c, ¬ r a c) (h : ReflTransGen r a b) : a = b := by
  rcases ReflTransGen.cases_head h with h | ⟨c, hac, -⟩
  · exact h
  · exact absurd hac (hlast c)

lemma last_unique (hr : Relator.RightUnique r) (hl : Relator.LeftUnique r) {a b : α}
    (h : EqvGen r a b) (ha : ∀ c, ¬ r a c) (hb : ∀ c, ¬ r b c) : a = b := by
  rcases reaches_of_eqvGen hr hl h with h | h
  · exact eq_of_reaches ha h
  · exact (eq_of_reaches hb h).symm

end NhaTrangLaundry.Lib.Chains
