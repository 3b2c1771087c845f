import Mathlib.Data.List.Induction
import Mathlib.Tactic.Common

/-! Calls that run at once over a shared state. What holds of the shared state, of each
call and of each pair of calls is kept when one call moves and disturbs no other. -/

namespace NhaTrangLaundry.Lib

variable {σ κ : Type}

/-- What is committed, and the calls made so far, each where it stands. -/
structure Interleaved (σ κ : Type) where
  shared : σ
  calls : List κ

namespace Interleaved

/-- Call `i` moves, and commits what the shared state becomes. -/
def put (w : Interleaved σ κ) (i : Nat) (call : κ) (shared : σ) : Interleaved σ κ :=
  ⟨shared, w.calls.set i call⟩

def enter (w : Interleaved σ κ) (call : κ) : Interleaved σ κ := ⟨w.shared, w.calls ++ [call]⟩

structure Coherent (Shared : σ → Prop) (Own : σ → κ → Prop) (Apart : κ → κ → Prop)
    (w : Interleaved σ κ) : Prop where
  shared : Shared w.shared
  own : ∀ {i : Nat} {c : κ}, w.calls[i]? = some c → Own w.shared c
  apart : ∀ {i j : Nat} {c d : κ}, i ≠ j → w.calls[i]? = some c → w.calls[j]? = some d → Apart c d

variable {Shared : σ → Prop} {Own : σ → κ → Prop} {Apart : κ → κ → Prop} {w : Interleaved σ κ}

@[simp] lemma shared_put (i : Nat) (call : κ) (shared : σ) : (w.put i call shared).shared = shared :=
  rfl

lemma getElem?_put_self {i : Nat} {c : κ} (h : w.calls[i]? = some c) (call : κ) (shared : σ) :
    (w.put i call shared).calls[i]? = some call := by
  rw [put, List.getElem?_set_self (List.getElem?_eq_some_iff.mp h).1]

lemma getElem?_put_ne {i j : Nat} (h : i ≠ j) (call : κ) (shared : σ) :
    (w.put i call shared).calls[j]? = w.calls[j]? := by
  rw [put, List.getElem?_set_ne h]

lemma getElem?_put {i j : Nat} {call c : κ} {shared : σ}
    (h : (w.put i call shared).calls[j]? = some c) :
    (j = i ∧ c = call) ∨ (j ≠ i ∧ w.calls[j]? = some c) := by
  by_cases hij : j = i
  · subst hij
    obtain ⟨hlt, hget⟩ := List.getElem?_eq_some_iff.mp h
    left
    refine ⟨rfl, ?_⟩
    simpa [put] using hget.symm
  · right
    rw [getElem?_put_ne (Ne.symm hij)] at h
    exact ⟨hij, h⟩

lemma getElem?_enter {j : Nat} {call c : κ} (h : (w.enter call).calls[j]? = some c) :
    (j = w.calls.length ∧ c = call) ∨ (j < w.calls.length ∧ w.calls[j]? = some c) := by
  rw [enter, List.getElem?_append] at h
  split at h
  · exact .inr ⟨‹_›, h⟩
  · obtain ⟨hlt, hget⟩ := List.getElem?_eq_some_iff.mp h
    rw [List.length_singleton] at hlt
    left
    refine ⟨by omega, ?_⟩
    simpa using hget.symm

lemma getElem?_enter_of_some {j : Nat} {c : κ} (h : w.calls[j]? = some c) (call : κ) :
    (w.enter call).calls[j]? = some c := by
  rw [enter, List.getElem?_append_left (List.getElem?_eq_some_iff.mp h).1, h]

lemma Coherent.put (h : Coherent Shared Own Apart w) (hsymm : ∀ {c d}, Apart c d → Apart d c)
    {i : Nat} {c call : κ} {shared : σ} (hc : w.calls[i]? = some c) (hshared : Shared shared)
    (hown : Own shared call)
    (hothers : ∀ j d, j ≠ i → w.calls[j]? = some d → Own w.shared d → Apart c d →
      Own shared d ∧ Apart call d) :
    Coherent Shared Own Apart (w.put i call shared) := by
  refine ⟨hshared, fun {j d} hd => ?_, fun {j k d e} hjk hd he => ?_⟩
  · rcases getElem?_put hd with ⟨-, rfl⟩ | ⟨hj, hold⟩
    · exact hown
    · exact (hothers j d hj hold (h.own hold) (h.apart hj.symm hc hold)).1
  · rcases getElem?_put hd with ⟨rfl, rfl⟩ | ⟨hj, hold⟩
    · rcases getElem?_put he with ⟨rfl, -⟩ | ⟨hk, he⟩
      · exact absurd rfl hjk
      · exact (hothers k e hk he (h.own he) (h.apart hk.symm hc he)).2
    · rcases getElem?_put he with ⟨rfl, rfl⟩ | ⟨hk, he⟩
      · exact hsymm (hothers j d hj hold (h.own hold) (h.apart hj.symm hc hold)).2
      · exact h.apart hjk hold he

lemma Coherent.enter (h : Coherent Shared Own Apart w) (hsymm : ∀ {c d}, Apart c d → Apart d c)
    {call : κ} (hown : Own w.shared call) (hothers : ∀ d ∈ w.calls, Own w.shared d → Apart call d) :
    Coherent Shared Own Apart (w.enter call) := by
  refine ⟨h.shared, fun {j d} hd => ?_, fun {j k d e} hjk hd he => ?_⟩
  · rcases getElem?_enter hd with ⟨-, rfl⟩ | ⟨-, hold⟩
    · exact hown
    · exact h.own hold
  · rcases getElem?_enter hd with ⟨rfl, rfl⟩ | ⟨-, hold⟩
    · rcases getElem?_enter he with ⟨rfl, -⟩ | ⟨-, he⟩
      · exact absurd rfl hjk
      · exact hothers e (List.mem_of_getElem? he) (h.own he)
    · rcases getElem?_enter he with ⟨rfl, rfl⟩ | ⟨-, he⟩
      · exact hsymm (hothers d (List.mem_of_getElem? hold) (h.own hold))
      · exact h.apart hjk hold he

end Interleaved

end NhaTrangLaundry.Lib
