import Mathlib.Data.Nat.Count
import Mathlib.Tactic.Common

/-! A clock that runs only at some of its ticks: the tick on which a given running time has
passed, and how such ticks compose. -/

namespace NhaTrangLaundry.Lib.Ticks

open Nat (count)

variable {p : Nat → Prop} [DecidablePred p] {a b k k' l l' m : Nat}

/-- The running ticks after `a`, up to `b`. -/
def elapsed (p : Nat → Prop) [DecidablePred p] (a b : Nat) : Nat :=
  count p (b + 1) - count p (a + 1)

/-- The running tick `l` is the last of the `k` after `a`. -/
structure Lands (p : Nat → Prop) [DecidablePred p] (a k l : Nat) : Prop where
  tick : p l
  passed : count p (l + 1) = count p (a + 1) + k

lemma count_run (h : ∀ n, a < n → n ≤ a + k → p n) : count p (a + k + 1) = count p (a + 1) + k := by
  rw [Nat.add_right_comm, Nat.count_add]
  congr 1
  exact Nat.count_of_forall fun n hn => h _ (by omega) (by omega)

lemma count_rest (hle : a ≤ b) (h : ∀ n, a < n → n ≤ b → ¬ p n) : count p (b + 1) = count p (a + 1) := by
  obtain ⟨k, rfl⟩ := Nat.exists_eq_add_of_le hle
  have hnone : count (fun i => p (a + 1 + i)) k = 0 :=
    Nat.count_of_forall_not fun n hn => h (a + 1 + n) (by omega) (by omega)
  rw [Nat.add_right_comm, Nat.count_add, hnone, Nat.add_zero]

lemma lands_run (hk : 0 < k) (h : ∀ n, a < n → n ≤ a + k → p n) : Lands p a k (a + k) :=
  ⟨h _ (by omega) (le_refl _), count_run h⟩

lemma lands_iff_of_count (h : count p (b + 1) = count p (a + 1) + k) :
    Lands p a (k + k') l ↔ Lands p b k' l := by
  constructor
  · intro hl
    refine ⟨hl.tick, ?_⟩
    rw [hl.passed, h, Nat.add_assoc]
  · intro hl
    refine ⟨hl.tick, ?_⟩
    rw [hl.passed, h, Nat.add_assoc]

namespace Lands

lemma mono (h : Lands p a k l) (h' : Lands p b k' l') (hab : a ≤ b) (hk : k ≤ k') : l ≤ l' := by
  by_contra hlt
  have hstart : count p (a + 1) ≤ count p (b + 1) := Nat.count_monotone p (by omega)
  have hend : count p (l' + 1) ≤ count p l := Nat.count_monotone p (by omega)
  have htick := Nat.count_succ_eq_succ_count_iff.mpr h.tick
  have hpassed := h.passed
  have hpassed' := h'.passed
  omega

lemma unique (h : Lands p a k l) (h' : Lands p a k l') : l = l' :=
  le_antisymm (h.mono h' (le_refl _) (le_refl _)) (h'.mono h (le_refl _) (le_refl _))

lemma elapsed_eq (h : Lands p a k l) : elapsed p a l = k := by
  rw [elapsed, h.passed, Nat.add_sub_cancel_left]

lemma elapsed_lt (h : Lands p a k l) (hk : 0 < k) (hm : m < l) : elapsed p a m < k := by
  have hend : count p (m + 1) ≤ count p l := Nat.count_monotone p (by omega)
  have htick := Nat.count_succ_eq_succ_count_iff.mpr h.tick
  have hpassed := h.passed
  rw [elapsed]
  omega

lemma le (h : Lands p a k l) (hk : 0 < k) : a + k ≤ l := by
  have hlater : a ≤ l := by
    by_contra hlt
    have hback : count p (l + 1) ≤ count p (a + 1) := Nat.count_monotone p (by omega)
    have hpassed := h.passed
    omega
  obtain ⟨n, rfl⟩ := Nat.exists_eq_add_of_le hlater
  have hcount := Nat.count_add p (a + 1) n
  have hle : count (fun i => p (a + 1 + i)) n ≤ n := Nat.count_le _
  have hpassed := h.passed
  rw [Nat.add_right_comm, hcount] at hpassed
  omega

end Lands

lemma exists_lands (hk : 0 < k) (h : count p (a + 1) + k ≤ count p (m + 1)) :
    ∃ l, l ≤ m ∧ Lands p a k l := by
  induction m with
  | zero =>
    have hstart : count p (0 + 1) ≤ count p (a + 1) := Nat.count_monotone p (by omega)
    omega
  | succ m ih =>
    by_cases hpassed : count p (a + 1) + k ≤ count p (m + 1)
    · obtain ⟨l, hle, hl⟩ := ih hpassed
      exact ⟨l, by omega, hl⟩
    · by_cases htick : p (m + 1)
      · have hsucc := Nat.count_succ_eq_succ_count_iff.mpr htick
        exact ⟨m + 1, le_refl _, htick, by omega⟩
      · have hsucc := Nat.count_succ_eq_count_iff.mpr htick
        omega

lemma Lands.split (h : Lands p a (k + k') l) (hk : 0 < k) : ∃ m, m ≤ l ∧ Lands p a k m ∧ Lands p m k' l := by
  have hpassed := h.passed
  obtain ⟨m, hle, hm⟩ := exists_lands (p := p) (a := a) (k := k) (m := l) hk (by omega)
  exact ⟨m, hle, hm, (lands_iff_of_count hm.passed).mp h⟩

section Blocks

variable {s : Nat}

omit [DecidablePred p] in
lemma tick_of_block {q r : Nat} (hblock : ∀ n, ¬ s ∣ n → (p n ↔ p (n + 1))) (hr : r < s) :
    p (q * s + r + 1) ↔ p (q * s + 1) := by
  induction r with
  | zero => rfl
  | succ r ih =>
    have hoff : ¬ s ∣ q * s + r + 1 := by
      rw [Nat.add_assoc, ← Nat.dvd_add_iff_right (Nat.dvd_mul_left s q)]
      exact Nat.not_dvd_of_pos_of_lt (Nat.succ_pos r) hr
    rw [← ih (by omega), ← Nat.add_assoc, ← hblock _ hoff]

lemma dvd_count (hblock : ∀ n, ¬ s ∣ n → (p n ↔ p (n + 1))) (q : Nat) :
    ∃ c, count p (q * s + 1) = count p 1 + s * c := by
  induction q with
  | zero => exact ⟨0, by simp⟩
  | succ q ih =>
    obtain ⟨c, hc⟩ := ih
    have hinside : ∀ n, q * s < n → n ≤ q * s + s → (p n ↔ p (q * s + 1)) := fun n hafter hbefore => by
      obtain ⟨r, rfl⟩ := Nat.exists_eq_add_of_lt hafter
      exact tick_of_block hblock (by omega)
    rw [Nat.succ_mul]
    by_cases hrun : p (q * s + 1)
    · refine ⟨c + 1, ?_⟩
      rw [count_run fun n hafter hbefore => (hinside n hafter hbefore).mpr hrun, hc, Nat.mul_succ,
        Nat.add_assoc]
    · refine ⟨c, ?_⟩
      rw [← hc]
      exact count_rest (Nat.le_add_right _ _) fun n hafter hbefore h =>
        hrun ((hinside n hafter hbefore).mp h)

lemma Lands.dvd (hs : 0 < s) (hblock : ∀ n, ¬ s ∣ n → (p n ↔ p (n + 1))) (ha : s ∣ a)
    (hk : s ∣ k) (h : Lands p a k l) : s ∣ l := by
  obtain ⟨i, rfl⟩ := ha
  obtain ⟨j, rfl⟩ := hk
  by_contra hoff
  have hrem : 0 < l % s := Nat.pos_of_ne_zero fun hzero => hoff (Nat.dvd_of_mod_eq_zero hzero)
  have hlt : l % s < s := Nat.mod_lt _ hs
  have hl : l / s * s + l % s = l := by
    rw [Nat.mul_comm]
    exact Nat.div_add_mod l s
  have hrun : count p (l / s * s + l % s + 1) = count p (l / s * s + 1) + l % s := by
    refine count_run fun n hafter hbefore => ?_
    obtain ⟨r, rfl⟩ := Nat.exists_eq_add_of_lt hafter
    obtain ⟨t, ht⟩ := Nat.exists_eq_add_of_lt (show 0 < l % s from hrem)
    have htick := h.tick
    rw [← hl, ht, Nat.zero_add, ← Nat.add_assoc, tick_of_block hblock (by omega)] at htick
    rwa [tick_of_block hblock (by omega)]
  obtain ⟨c, hc⟩ := dvd_count hblock i
  obtain ⟨d, hd⟩ := dvd_count hblock (l / s)
  have hpassed := h.passed
  rw [hl] at hrun
  rw [hrun, hd, Nat.mul_comm s i, hc, Nat.add_assoc, Nat.add_assoc, Nat.add_left_cancel_iff,
    ← Nat.mul_add] at hpassed
  have hrest : l % s % s = 0 := by
    have hmod := congrArg (· % s) hpassed
    simpa only [Nat.mul_add_mod, Nat.mul_mod_right] using hmod
  rw [Nat.mod_mod] at hrest
  omega

end Blocks

end NhaTrangLaundry.Lib.Ticks
