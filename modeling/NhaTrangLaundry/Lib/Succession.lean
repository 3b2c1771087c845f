import Mathlib.Data.List.Nodup
import Mathlib.Tactic.Common

/-! Lists in which each item names the one before it. -/

namespace NhaTrangLaundry.Lib.Succession

variable {α ι : Type} (key : α → ι) (before : α → Option ι)

/-- The first item names `start`, and every other one the item before it. -/
def Linked (start : Option ι) : List α → Prop
  | [] => True
  | a :: l => before a = start ∧ Linked (some (key a)) l

variable {key before} {start : Option ι} {l : List α} {a b : α}

lemma Linked.append (h : Linked key before start l)
    (ha : before a = (l.getLast?.map key).or start) : Linked key before start (l ++ [a]) := by
  induction l generalizing start with
  | nil => exact ⟨ha, trivial⟩
  | cons b l ih =>
    refine ⟨h.1, ih h.2 ?_⟩
    cases l with
    | nil => exact ha
    | cons c l =>
      rw [List.getLast?_cons_cons] at ha
      rw [ha, List.getLast?_cons]
      rfl

lemma Linked.last_unnamed (h : Linked key before start (l ++ [a]))
    (hn : ((l ++ [a]).map key).Nodup) (hstart : ∀ k ∈ start, k ∉ (l ++ [a]).map key) :
    ∀ b ∈ l ++ [a], before b ≠ some (key a) := by
  induction l generalizing start with
  | nil =>
    intro b hb heq
    rw [List.mem_singleton.mp hb, h.1] at heq
    exact hstart (key a) heq (by simp)
  | cons c l ih =>
    intro b hb heq
    rw [List.cons_append, List.map_cons, List.nodup_cons] at hn
    rcases List.mem_cons.mp hb with rfl | hmem
    · rw [h.1] at heq
      exact hstart (key a) heq (by simp)
    · refine ih h.2 hn.2 ?_ b hmem heq
      rintro k ⟨⟩
      exact hn.1

lemma Linked.named (h : Linked key before start l) (ha : a ∈ l) (hlast : l.getLast? ≠ some a) :
    ∃ b ∈ l, before b = some (key a) := by
  induction l generalizing start with
  | nil => cases ha
  | cons c l ih =>
    cases l with
    | nil =>
      rw [List.mem_singleton.mp ha] at hlast
      exact absurd rfl hlast
    | cons d l =>
      rw [List.getLast?_cons_cons] at hlast
      rcases List.mem_cons.mp ha with rfl | hmem
      · exact ⟨d, List.mem_cons_of_mem _ List.mem_cons_self, h.2.1⟩
      · obtain ⟨b, hb, hnames⟩ := ih h.2 hmem hlast
        exact ⟨b, List.mem_cons_of_mem _ hb, hnames⟩

lemma Linked.unnamed_iff (h : Linked key before none l) (hn : (l.map key).Nodup) (ha : a ∈ l) :
    (∀ b ∈ l, before b ≠ some (key a)) ↔ l.getLast? = some a := by
  constructor
  · intro hunnamed
    by_contra hlast
    obtain ⟨b, hb, hnames⟩ := h.named ha hlast
    exact hunnamed b hb hnames
  · intro hlast
    obtain ⟨l', rfl⟩ := List.getLast?_eq_some_iff.mp hlast
    exact h.last_unnamed hn fun k hk => by cases hk

end NhaTrangLaundry.Lib.Succession
