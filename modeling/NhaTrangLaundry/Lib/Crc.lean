import Mathlib.Data.Nat.Notation
import Mathlib.Logic.Function.Iterate
import Mathlib.Tactic.Common

/-! Cyclic checksums without reflection, over any register of `k + m` bits fed
`k` bits at a time from the top. A polynomial with a constant term makes the
register reversible; two words in a row never cancel each other out. -/

namespace NhaTrangLaundry.Lib.Crc

variable {w k m : Nat}

/-- One turn of the register: shift left, feed the polynomial back when a bit falls out. -/
def shift (poly register : BitVec w) : BitVec w :=
  if register.msb then (register <<< 1) ^^^ poly else register <<< 1

def absorb (poly : BitVec (k + m)) (register : BitVec (k + m)) (word : BitVec k) : BitVec (k + m) :=
  (shift poly)^[k] (register ^^^ (word ++ 0#m))

def checksum (poly start : BitVec (k + m)) (message : List (BitVec k)) : BitVec (k + m) :=
  message.foldl (absorb poly) start

lemma xor_swap (a b p : BitVec w) : a ^^^ b ^^^ p = a ^^^ p ^^^ b := by
  rw [BitVec.xor_assoc, BitVec.xor_comm b p, ← BitVec.xor_assoc]

lemma xor_cancel (a b p : BitVec w) : a ^^^ p ^^^ (b ^^^ p) = a ^^^ b := by
  rw [← BitVec.xor_assoc, xor_swap a p b, BitVec.xor_assoc, BitVec.xor_self, BitVec.xor_zero]

lemma xor_exchange {a b p q : BitVec w} (h : a ^^^ p = b ^^^ q) : a ^^^ b = p ^^^ q :=
  calc a ^^^ b = a ^^^ p ^^^ (b ^^^ p) := (xor_cancel a b p).symm
    _ = q ^^^ b ^^^ (p ^^^ b) := by rw [h, BitVec.xor_comm b q, BitVec.xor_comm b p]
    _ = p ^^^ q := by rw [xor_cancel, BitVec.xor_comm]

lemma shift_xor (poly a b : BitVec w) : shift poly (a ^^^ b) = shift poly a ^^^ shift poly b := by
  simp only [shift, BitVec.msb_xor, BitVec.shiftLeft_xor_distrib]
  cases a.msb <;> cases b.msb <;> simp only [Bool.xor_false, Bool.xor_true, Bool.not_false,
    Bool.not_true, if_true, if_false, Bool.false_eq_true]
  · rw [BitVec.xor_assoc]
  · rw [xor_swap]
  · rw [xor_cancel]

lemma iterate_shift_xor (poly a b : BitVec w) (n : Nat) :
    (shift poly)^[n] (a ^^^ b) = (shift poly)^[n] a ^^^ (shift poly)^[n] b := by
  induction n generalizing a b with
  | zero => rfl
  | succ n ih => rw [Function.iterate_succ_apply, shift_xor, ih]; rfl

lemma getLsbD_shift_zero {poly : BitVec w} (hp : poly.getLsbD 0 = true) (register : BitVec w) :
    (shift poly register).getLsbD 0 = register.msb := by
  cases h : register.msb with
  | true => simp [shift, h, hp]
  | false => simp [shift, h]

lemma eq_of_shift {poly register result : BitVec w} (hp : poly.getLsbD 0 = true)
    (h : shift poly register = result) (hlow : result.getLsbD 0 = false) :
    register = result >>> 1 := by
  have htop : register.msb = false := by rw [← getLsbD_shift_zero hp, h, hlow]
  have hmoved : register <<< 1 = result := by rw [← h, shift, htop]; rfl
  apply BitVec.eq_of_getLsbD_eq
  intro i hi
  rw [← hmoved, BitVec.getLsbD_ushiftRight, BitVec.getLsbD_shiftLeft]
  by_cases hlast : i + 1 = w
  · have hbit : register.getLsbD i = false := by
      rw [BitVec.msb_eq_getLsbD_last, show w - 1 = i by omega] at htop
      exact htop
    simp [hbit, Nat.add_comm 1 i, hlast]
  · simp [show 1 + i < w by omega]

lemma eq_of_iterate_shift {poly : BitVec w} (hp : poly.getLsbD 0 = true) {n : Nat}
    {register result : BitVec w} (h : (shift poly)^[n] register = result)
    (hlow : ∀ i < n, result.getLsbD i = false) : register = result >>> n := by
  induction n generalizing result with
  | zero => simpa using h
  | succ n ih =>
    rw [Function.iterate_succ_apply'] at h
    have hback := eq_of_shift hp h (hlow 0 (Nat.succ_pos n))
    have hstill : ∀ i < n, (result >>> 1).getLsbD i = false := by
      intro i hi
      rw [BitVec.getLsbD_ushiftRight]
      exact hlow (1 + i) (by omega)
    rw [ih hback hstill, ← BitVec.shiftRight_add, Nat.add_comm 1 n]

lemma shift_injective {poly : BitVec w} (hp : poly.getLsbD 0 = true) :
    Function.Injective (shift poly) := by
  intro a b h
  have hzero : shift poly (a ^^^ b) = 0 := by rw [shift_xor, h, BitVec.xor_self]; rfl
  have hdiff : a ^^^ b = 0 := by simpa using eq_of_shift hp hzero (by simp)
  exact BitVec.xor_eq_zero_iff.mp hdiff

lemma absorb_injective {poly : BitVec (k + m)} (hp : poly.getLsbD 0 = true) (word : BitVec k) :
    Function.Injective fun register => absorb poly register word := by
  intro a b h
  have hfed := (shift_injective hp).iterate k h
  exact BitVec.xor_left_inj (word ++ 0#m) |>.mp hfed

lemma checksum_injective {poly : BitVec (k + m)} (hp : poly.getLsbD 0 = true)
    (message : List (BitVec k)) : Function.Injective fun start => checksum poly start message := by
  induction message with
  | nil => exact Function.injective_id
  | cons word message ih => exact ih.comp (absorb_injective hp word)

lemma high_injective {a b : BitVec k} (h : a ++ 0#m = b ++ 0#m) : a = b := by
  apply BitVec.eq_of_getLsbD_eq
  intro i hi
  have hbit := congrArg (fun v : BitVec (k + m) => v.getLsbD (m + i)) h
  simpa [BitVec.getLsbD_append, show ¬ m + i < m by omega] using hbit

lemma high_xor (a b : BitVec k) : (a ++ 0#m) ^^^ (b ++ 0#m) = (a ^^^ b) ++ 0#m := by
  rw [BitVec.xor_append, BitVec.xor_zero]

/-- A word at the top that `k` turns move to another word at the top is no word at all,
when the register holds two words side by side. -/
lemma high_eq_zero {poly : BitVec (k + m)} (hp : poly.getLsbD 0 = true) (hk : k ≤ m)
    {a b : BitVec k} (h : (shift poly)^[k] (a ++ 0#m) = b ++ 0#m) : a = 0 := by
  have hlow : ∀ i < k, (b ++ 0#m).getLsbD i = false := by
    intro i hi
    simp [BitVec.getLsbD_append, show i < m by omega]
  have hback := eq_of_iterate_shift hp h hlow
  apply BitVec.eq_of_getLsbD_eq
  intro i hi
  have hbit := congrArg (fun v : BitVec (k + m) => v.getLsbD (m + i)) hback
  simp only [BitVec.getLsbD_append, BitVec.getLsbD_ushiftRight] at hbit
  rw [if_neg (by omega), if_neg (by omega), Nat.add_sub_cancel_left] at hbit
  rw [hbit, BitVec.getLsbD_of_ge b _ (by omega)]
  simp

lemma word_eq {poly : BitVec (k + m)} (hp : poly.getLsbD 0 = true) {register : BitVec (k + m)}
    {a b : BitVec k} (h : absorb poly register a = absorb poly register b) : a = b := by
  have hfed := (shift_injective hp).iterate k h
  exact high_injective (BitVec.xor_right_inj register |>.mp hfed)

lemma words_eq {poly : BitVec (k + m)} (hp : poly.getLsbD 0 = true) (hk : k ≤ m)
    {register : BitVec (k + m)} {a b a' b' : BitVec k}
    (h : absorb poly (absorb poly register a) b = absorb poly (absorb poly register a') b') :
    a = a' ∧ b = b' := by
  have hfed : absorb poly register a ^^^ (b ++ 0#m) = absorb poly register a' ^^^ (b' ++ 0#m) :=
    (shift_injective hp).iterate k h
  have hdiff : (shift poly)^[k] ((a ^^^ a') ++ 0#m) = (b ^^^ b') ++ 0#m := by
    have hsame := xor_exchange hfed
    rw [← high_xor b b', ← hsame, absorb, absorb, ← iterate_shift_xor, BitVec.xor_comm register,
      BitVec.xor_comm register, xor_cancel, high_xor]
  have ha : a = a' := BitVec.xor_eq_zero_iff.mp (high_eq_zero hp hk hdiff)
  refine ⟨ha, ?_⟩
  subst ha
  exact word_eq hp h

lemma checksum_separates {poly : BitVec (k + m)} (hp : poly.getLsbD 0 = true) (hk : k ≤ m)
    {message other : List (BitVec k)} (start : BitVec (k + m)) (i : Nat)
    (hlength : message.length = other.length)
    (hsame : ∀ j, j ≠ i → j ≠ i + 1 → message[j]? = other[j]?)
    (h : checksum poly start message = checksum poly start other) : message = other := by
  induction message generalizing other start i with
  | nil => exact (List.length_eq_zero_iff.mp hlength.symm).symm
  | cons a message ih =>
    obtain _ | ⟨a', other⟩ := other
    · cases hlength
    have hrest : message.length = other.length := Nat.succ.inj hlength
    cases i with
    | succ i =>
      -- the first words are the same, and the difference lies further on
      obtain rfl : a = a' := by simpa using hsame 0 (by omega) (by omega)
      have hlater : ∀ j, j ≠ i → j ≠ i + 1 → message[j]? = other[j]? := by
        intro j hj hj'
        simpa using hsame (j + 1) (by omega) (by omega)
      rw [ih _ i hrest hlater h]
    | zero =>
      -- only the first two words can differ
      obtain _ | ⟨b, message⟩ := message
      · obtain rfl : other = [] := List.length_eq_zero_iff.mp hrest.symm
        rw [word_eq hp h]
      obtain _ | ⟨b', other⟩ := other
      · cases hrest
      obtain rfl : message = other := by
        apply List.ext_getElem?
        intro j
        simpa using hsame (j + 2) (by omega) (by omega)
      obtain ⟨rfl, rfl⟩ := words_eq hp hk (checksum_injective hp message h)
      rfl

end NhaTrangLaundry.Lib.Crc
