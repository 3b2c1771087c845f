import Mathlib.Algebra.BigOperators.Group.List.Basic
import Mathlib.Algebra.Order.BigOperators.Group.List
import Mathlib.Algebra.Ring.Int.Defs
import NhaTrangLaundry.Lib.Sorting

/-! Sums of integers over a list, by condition. -/

namespace NhaTrangLaundry.Lib.Sums

open Sorting

variable {α β κ : Type}

/-- The sum of `f` over the elements with the property. -/
def sumIf (l : List α) (p : α → Prop) [DecidablePred p] (f : α → Int) : Int :=
  (l.map fun a => if p a then f a else 0).sum

variable {p q : α → Prop} [DecidablePred p] [DecidablePred q] {f : α → Int} {l : List α}

lemma sumIf_cons (a : α) : sumIf (a :: l) p f = (if p a then f a else 0) + sumIf l p f := rfl

lemma sumIf_append {l' : List α} : sumIf (l ++ l') p f = sumIf l p f + sumIf l' p f := by
  simp [sumIf]

lemma sumIf_perm {l' : List α} (h : l.Perm l') : sumIf l p f = sumIf l' p f :=
  (h.map _).sum_eq

lemma sumIf_congr (h : ∀ a ∈ l, p a ↔ q a) : sumIf l p f = sumIf l q f := by
  refine congrArg List.sum (List.map_congr_left fun a ha => ?_)
  simp only [h a ha]

lemma sumIf_congr_fun {g : α → Int} (h : ∀ a ∈ l, p a → f a = g a) :
    sumIf l p f = sumIf l p g := by
  refine congrArg List.sum (List.map_congr_left fun a ha => ?_)
  by_cases hp : p a
  · simp only [hp, if_true, h a ha hp]
  · simp only [hp, if_false]

lemma sumIf_map {l : List β} (g : β → α) :
    sumIf (l.map g) p f = sumIf l (fun b => p (g b)) (fun b => f (g b)) := by
  rw [sumIf, List.map_map]
  rfl

lemma sum_filter (l : List α) (p : α → Prop) [DecidablePred p] (f : α → Int) :
    ((l.filter p).map f).sum = sumIf l p f := by
  induction l with
  | nil => rfl
  | cons a l ih =>
    rw [sumIf_cons, ← ih]
    by_cases h : p a <;> simp [h]

lemma sumIf_filter : sumIf (l.filter q) p f = sumIf l (fun a => q a ∧ p a) f := by
  induction l with
  | nil => rfl
  | cons a l ih =>
    rw [sumIf_cons, ← ih]
    by_cases h : q a <;> simp [h, sumIf_cons]

lemma sum_filter_bool (b : α → Bool) : ((l.filter b).map f).sum = sumIf l (fun a => b a) f := by
  have h := sum_filter l (fun a => b a = true) f
  simpa only [Bool.decide_eq_true] using h

lemma sumIf_filter_bool (b : α → Bool) :
    sumIf (l.filter b) p f = sumIf l (fun a => b a ∧ p a) f := by
  have h := sumIf_filter (l := l) (p := p) (q := fun a => b a = true) (f := f)
  simpa only [Bool.decide_eq_true] using h

lemma sumIf_nonneg (h : ∀ a ∈ l, p a → 0 ≤ f a) : 0 ≤ sumIf l p f := by
  refine List.sum_nonneg fun x hx => ?_
  obtain ⟨a, ha, rfl⟩ := List.mem_map.mp hx
  split_ifs with hp
  · exact h a ha hp
  · exact le_refl 0

lemma sumIf_eq_zero (h : ∀ a ∈ l, ¬ p a) : sumIf l p f = 0 := by
  induction l with
  | nil => rfl
  | cons a l ih =>
    rw [sumIf_cons, if_neg (h a List.mem_cons_self),
      ih fun b hb => h b (List.mem_cons_of_mem _ hb), Int.add_zero]

lemma sumIf_mono (h : ∀ a ∈ l, p a → q a) (hf : ∀ a ∈ l, q a → 0 ≤ f a) :
    sumIf l p f ≤ sumIf l q f := by
  induction l with
  | nil => exact le_refl 0
  | cons a l ih =>
    rw [sumIf_cons, sumIf_cons]
    have htail := ih (fun b hb => h b (List.mem_cons_of_mem _ hb))
      fun b hb => hf b (List.mem_cons_of_mem _ hb)
    have hpq := h a List.mem_cons_self
    have hfa := hf a List.mem_cons_self
    by_cases hp : p a
    · simp only [hp, hpq hp, if_true]
      omega
    · by_cases hq : q a
      · have := hfa hq
        simp only [hp, hq, if_true, if_false]
        omega
      · simp only [hp, hq, if_false]
        omega

lemma sumIf_add_le (h : ∀ a ∈ l, p a → q a) (hf : ∀ a ∈ l, q a → 0 ≤ f a) {a : α} (ha : a ∈ l)
    (hout : ¬ p a) (hin : q a) : sumIf l p f + f a ≤ sumIf l q f := by
  induction l with
  | nil => cases ha
  | cons b l ih =>
    rw [sumIf_cons, sumIf_cons]
    have htail := fun c (hc : c ∈ l) => h c (List.mem_cons_of_mem _ hc)
    have hftail := fun c (hc : c ∈ l) => hf c (List.mem_cons_of_mem _ hc)
    rcases List.mem_cons.mp ha with rfl | ha
    · have := sumIf_mono htail hftail
      simp only [hout, hin, if_true, if_false]
      omega
    · have := ih htail hftail ha
      have hpq := h b List.mem_cons_self
      have hfb := hf b List.mem_cons_self
      by_cases hp : p b
      · simp only [hp, hpq hp, if_true]
        omega
      · by_cases hq : q b
        · have := hfb hq
          simp only [hp, hq, if_true, if_false]
          omega
        · simp only [hp, hq, if_false]
          omega

lemma sumIf_eq_sum (h : ∀ a ∈ l, p a) : sumIf l p f = (l.map f).sum :=
  congrArg List.sum (List.map_congr_left fun a ha => if_pos (h a ha))

lemma sumIf_add {r : α → Prop} [DecidablePred r]
    (h : ∀ a ∈ l, (r a ↔ p a ∨ q a) ∧ ¬ (p a ∧ q a)) :
    sumIf l r f = sumIf l p f + sumIf l q f := by
  induction l with
  | nil => rfl
  | cons a l ih =>
    simp only [sumIf_cons, ih fun b hb => h b (List.mem_cons_of_mem _ hb)]
    obtain ⟨hr, hpq⟩ := h a List.mem_cons_self
    by_cases hp : p a <;> by_cases hq : q a <;> simp_all <;> omega

lemma sumIf_sub {g : α → Int} :
    sumIf l p (fun a => f a - g a) = sumIf l p f - sumIf l p g := by
  induction l with
  | nil => rfl
  | cons a l ih =>
    simp only [sumIf_cons, ih]
    split_ifs <;> omega

lemma sumIf_sumIf_key [DecidableEq κ] {key : α → κ} (hn : (l.map key).Nodup) {s : List β}
    {link : β → κ} {g : β → Int} :
    sumIf l p (fun a => sumIf s (fun b => link b = key a) g) =
      sumIf s (fun b => ∃ a ∈ l, p a ∧ link b = key a) g := by
  induction l with
  | nil => exact (sumIf_eq_zero (by simp)).symm
  | cons a l ih =>
    rw [List.map_cons, List.nodup_cons] at hn
    rw [sumIf_cons, ih hn.2]
    have hsplit : sumIf s (fun b => ∃ c ∈ a :: l, p c ∧ link b = key c) g =
        sumIf s (fun b => p a ∧ link b = key a) g +
          sumIf s (fun b => ∃ c ∈ l, p c ∧ link b = key c) g := by
      refine sumIf_add fun b _ => ⟨by simp, ?_⟩
      rintro ⟨⟨-, ha⟩, c, hc, -, hkey⟩
      exact hn.1 (List.mem_map.mpr ⟨c, hc, hkey.symm.trans ha⟩)
    rw [hsplit]
    by_cases hp : p a
    · simp [hp]
    · simp only [hp, if_false, false_and]
      rw [sumIf_eq_zero fun b _ hf => hf]

lemma sumIf_key [DecidableEq κ] {l : List (κ × Int)} (hn : (l.map Prod.fst).Nodup) {k : κ} {v : Int}
    (h : l.lookup k = some v) (f : κ × Int → Int) : sumIf l (fun a => a.1 = k) f = f (k, v) := by
  induction l with
  | nil => simp at h
  | cons a l ih =>
    rw [List.map_cons, List.nodup_cons] at hn
    rw [sumIf_cons]
    rw [List.lookup_cons] at h
    by_cases hk : a.1 = k
    · rw [if_pos hk, sumIf_eq_zero, Int.add_zero]
      · have hv : a.2 = v := by simpa [hk] using h
        rw [← hk, ← hv]
      · intro b hb hbk
        exact hn.1 (List.mem_map.mpr ⟨b, hb, hbk.trans hk.symm⟩)
    · have hne : (k == a.1) = false := by simpa using Ne.symm hk
      rw [hne] at h
      rw [if_neg hk, Int.zero_add]
      exact ih hn.2 h

end NhaTrangLaundry.Lib.Sums
