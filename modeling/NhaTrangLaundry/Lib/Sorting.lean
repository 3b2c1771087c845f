import Mathlib.Data.List.Sort
import Mathlib.Data.String.Basic

/-! Stable sorting of a list by a key, and what survives it when the keys are
pairwise distinct. -/

namespace NhaTrangLaundry.Lib.Sorting

variable {α β κ : Type*} [LinearOrder κ]

def sortBy (key : α → κ) (l : List α) : List α :=
  l.insertionSort (fun a b => key a ≤ key b)

instance keyTotal (key : α → κ) : Std.Total (fun a b => key a ≤ key b) :=
  ⟨fun a b => le_total (key a) (key b)⟩

instance keyTrans (key : α → κ) : IsTrans α (fun a b => key a ≤ key b) :=
  ⟨fun _ _ _ hab hbc => le_trans hab hbc⟩

lemma sortBy_perm (key : α → κ) (l : List α) : (sortBy key l).Perm l :=
  List.perm_insertionSort _ l

@[simp] lemma mem_sortBy {key : α → κ} {l : List α} {a : α} : a ∈ sortBy key l ↔ a ∈ l :=
  (sortBy_perm key l).mem_iff

@[simp] lemma length_sortBy (key : α → κ) (l : List α) : (sortBy key l).length = l.length :=
  (sortBy_perm key l).length_eq

@[simp] lemma sortBy_eq_nil {key : α → κ} {l : List α} : sortBy key l = [] ↔ l = [] := by
  rw [← List.length_eq_zero_iff, length_sortBy, List.length_eq_zero_iff]

lemma sortBy_sorted (key : α → κ) (l : List α) :
    (sortBy key l).Pairwise (fun a b => key a ≤ key b) :=
  List.pairwise_insertionSort _ l

lemma sortBy_of_sorted {key : α → κ} {l : List α}
    (h : l.Pairwise (fun a b => key a ≤ key b)) : sortBy key l = l :=
  h.insertionSort_eq

@[simp] lemma sortBy_idem (key : α → κ) (l : List α) : sortBy key (sortBy key l) = sortBy key l :=
  sortBy_of_sorted (sortBy_sorted key l)

lemma orderedInsert_append (key : α → κ) {a : α} {m : List α} (l : List α)
    (h : ∀ b ∈ m, key a ≤ key b) :
    (l ++ m).orderedInsert (fun a b => key a ≤ key b) a =
      l.orderedInsert (fun a b => key a ≤ key b) a ++ m := by
  induction l with
  | nil =>
    cases m with
    | nil => rfl
    | cons b m => exact if_pos (h b List.mem_cons_self)
  | cons c l ih =>
    rw [List.cons_append, List.orderedInsert, List.orderedInsert]
    split_ifs
    · rfl
    · rw [ih, List.cons_append]

lemma sortBy_append {key : α → κ} {l m : List α} (h : ∀ a ∈ l, ∀ b ∈ m, key a ≤ key b) :
    sortBy key (l ++ m) = sortBy key l ++ sortBy key m := by
  induction l with
  | nil => rfl
  | cons a l ih =>
    have hrest := ih fun a' ha' => h a' (List.mem_cons_of_mem a ha')
    have hfirst : ∀ b ∈ sortBy key m, key a ≤ key b :=
      fun b hb => h a List.mem_cons_self b (mem_sortBy.mp hb)
    rw [sortBy] at hrest ⊢
    rw [List.cons_append, List.insertionSort_cons, hrest]
    exact orderedInsert_append key _ hfirst

lemma map_sortBy {γ : Type*} [LinearOrder γ] (f : α → β) (key : α → κ) (key' : β → γ)
    (l : List α) (h : ∀ a ∈ l, ∀ b ∈ l, key a ≤ key b ↔ key' (f a) ≤ key' (f b)) :
    (sortBy key l).map f = sortBy key' (l.map f) :=
  List.map_insertionSort _ _ f l h

lemma nodup_map_sortBy {key : α → κ} {f : α → β} {l : List α} :
    ((sortBy key l).map f).Nodup ↔ (l.map f).Nodup :=
  ((sortBy_perm key l).map f).nodup_iff

lemma eq_of_perm_of_sorted {key : α → κ} {l l' : List α} (hp : l.Perm l')
    (hn : (l.map key).Nodup) (hl : l.Pairwise (fun a b => key a ≤ key b))
    (hl' : l'.Pairwise (fun a b => key a ≤ key b)) : l = l' := by
  refine List.Perm.eq_of_pairwise ?_ hl hl' hp
  intro a b ha hb hab hba
  exact List.inj_on_of_nodup_map hn ha (hp.mem_iff.mpr hb) (le_antisymm hab hba)

lemma sortBy_eq_of_perm {key : α → κ} {l l' : List α} (hp : l.Perm l')
    (hn : (l.map key).Nodup) : sortBy key l = sortBy key l' := by
  refine eq_of_perm_of_sorted ?_ (nodup_map_sortBy.mpr hn) (sortBy_sorted key l)
    (sortBy_sorted key l')
  exact (sortBy_perm key l).trans (hp.trans (sortBy_perm key l').symm)

lemma filter_sortBy {key : α → κ} (p : α → Bool) {l : List α} (hn : (l.map key).Nodup) :
    (sortBy key l).filter p = sortBy key (l.filter p) := by
  refine eq_of_perm_of_sorted ?_ ?_ ((sortBy_sorted key l).filter p) (sortBy_sorted key _)
  · exact ((sortBy_perm key l).filter p).trans (sortBy_perm key _).symm
  · exact (nodup_map_sortBy.mpr hn).sublist (List.filter_sublist.map key)

lemma filter_or_of_pairwise {p q r : α → Bool} {l : List α} (hr : ∀ a, r a = (p a || q a))
    (hl : l.Pairwise fun a b => q a = true → p b = false) (hd : ∀ a, p a = true → q a = false) :
    l.filter r = l.filter p ++ l.filter q := by
  induction l with
  | nil => rfl
  | cons a l ih =>
    rw [List.pairwise_cons] at hl
    have ih := ih hl.2
    cases hp : p a with
    | true => rw [List.filter_cons_of_pos (by rw [hr, hp, Bool.true_or]), List.filter_cons_of_pos hp,
        List.filter_cons_of_neg (by rw [hd a hp]; exact Bool.false_ne_true), ih, List.cons_append]
    | false =>
      rw [List.filter_cons_of_neg (p := p) (by rw [hp]; exact Bool.false_ne_true)]
      cases hq : q a with
      | false => rw [List.filter_cons_of_neg (by rw [hr, hp, hq]; exact Bool.false_ne_true),
          List.filter_cons_of_neg (by rw [hq]; exact Bool.false_ne_true), ih]
      | true =>
        have hnone : l.filter p = [] := by
          rw [List.filter_eq_nil_iff]
          intro b hb
          rw [hl.1 b hb hq]
          exact Bool.false_ne_true
        rw [List.filter_cons_of_pos (by rw [hr, hp, hq, Bool.false_or]),
          List.filter_cons_of_pos hq, ih, hnone, List.nil_append, List.nil_append]

lemma filter_days {day : α → Int} {l : List α} (hl : l.Pairwise fun a b => day a ≤ day b)
    (first : Int) (n : Nat) :
    (l.filter fun a => first ≤ day a ∧ day a < first + n) =
      (List.range n).flatMap fun i => l.filter fun a => day a = first + (i : Nat) := by
  induction n with
  | zero =>
    rw [List.range_zero, List.flatMap_nil, List.filter_eq_nil_iff]
    intro a _
    simp only [decide_eq_true_eq, not_and, not_lt]
    omega
  | succ n ih =>
    rw [List.range_succ, List.flatMap_append, ← ih, List.flatMap_singleton]
    refine filter_or_of_pairwise ?_ ?_ ?_
    · intro a
      rw [← Bool.decide_or, decide_eq_decide]
      omega
    · refine hl.imp fun hab hb => ?_
      simp only [decide_eq_true_eq, decide_eq_false_iff_not] at hb ⊢
      omega
    · intro a ha
      simp only [decide_eq_true_eq, decide_eq_false_iff_not] at ha ⊢
      omega

end NhaTrangLaundry.Lib.Sorting
