import NhaTrangLaundry.Domain.Accounts
import Mathlib.Algebra.BigOperators.Group.List.Basic
import Mathlib.Data.List.Forall2

/-! A payment on an account, split across its open charges, and a payment split in two. -/

namespace NhaTrangLaundry.Domain.Accounts

open Lib Outcome Settlement

variable {Id : Type} {charges rest : List (OpenCharge Id)} {item : OpenCharge Id}
  {allocations : List (Allocation Id)} {left amount a b : Int}

/-- Every charge owes at least 1 đồng, and no more than the system can hold. -/
def Open (charges : List (OpenCharge Id)) : Prop :=
  ∀ item ∈ charges, wholeVnd item.remainingVnd ∧ 1 ≤ item.remainingVnd

def totalOwed (charges : List (OpenCharge Id)) : Int := (charges.map OpenCharge.remainingVnd).sum

/-- The allocations of `left` đồng: each charge in turn, the last one perhaps in part. -/
inductive Fills : Int → List (OpenCharge Id) → List (Allocation Id) → Prop
  | nothing (charges : List (OpenCharge Id)) : Fills 0 charges []
  | part {left : Int} {item : OpenCharge Id} (rest : List (OpenCharge Id)) (hpos : 0 < left)
    (hlt : left < item.remainingVnd) : Fills left (item :: rest) [⟨item.chargeId, left, false⟩]
  | whole {left : Int} {item : OpenCharge Id} {rest : List (OpenCharge Id)}
    {allocations : List (Allocation Id)} (hpos : 0 < item.remainingVnd)
    (h : Fills (left - item.remainingVnd) rest allocations) :
    Fills left (item :: rest) (⟨item.chargeId, item.remainingVnd, true⟩ :: allocations)

lemma Open.tail (h : Open (item :: rest)) : Open rest := fun i hi => h i (List.mem_cons_of_mem _ hi)

lemma totalOwed_cons : totalOwed (item :: rest) = item.remainingVnd + totalOwed rest := by
  rw [totalOwed, List.map_cons, List.sum_cons, ← totalOwed]

lemma allocateFrom_zero (hopen : Open charges) : allocateFrom 0 charges = .ok [] := by
  cases charges with
  | nil => rfl
  | cons item rest => rw [allocateFrom, require_true (hopen item List.mem_cons_self)]; rfl

lemma exists_fills (hopen : Open charges) (hnonneg : 0 ≤ left) (hle : left ≤ totalOwed charges) :
    ∃ allocations, allocateFrom left charges = .ok allocations ∧ Fills left charges allocations := by
  induction charges generalizing left with
  | nil =>
    obtain rfl : left = 0 := le_antisymm hle hnonneg
    exact ⟨[], rfl, .nothing []⟩
  | cons item rest ih =>
    rcases hnonneg.lt_or_eq with hpos | rfl
    swap
    · exact ⟨[], allocateFrom_zero hopen, .nothing _⟩
    have hitem := hopen item List.mem_cons_self
    rw [totalOwed_cons] at hle
    rw [allocateFrom, require_true hitem, ok_bind, if_neg hpos.ne']
    by_cases hpart : left < item.remainingVnd
    · refine ⟨_, ?_, .part rest hpos hpart⟩
      rw [min_eq_left hpart.le]
      dsimp only
      rw [Int.sub_self, allocateFrom_zero hopen.tail, decide_eq_false hpart.ne]
      rfl
    · have hleft : left - item.remainingVnd ≤ totalOwed rest := by omega
      obtain ⟨allocations, hallocations, hfills⟩ := ih hopen.tail (by omega) hleft
      refine ⟨_, ?_, .whole hitem.2 hfills⟩
      rw [min_eq_right (not_lt.mp hpart)]
      dsimp only
      rw [hallocations, decide_eq_true rfl]
      rfl

lemma Fills.nonneg (h : Fills left charges allocations) : 0 ≤ left := by
  induction h with
  | nothing charges => exact le_rfl
  | part rest hpos hlt => exact hpos.le
  | whole hpos h ih => omega

lemma Fills.sum_eq (h : Fills left charges allocations) :
    (allocations.map Allocation.amountVnd).sum = left := by
  induction h with
  | nothing charges => rfl
  | part rest hpos hlt => exact Int.add_zero _
  | whole hpos h ih =>
    rw [List.map_cons, List.sum_cons, ih]
    exact add_sub_cancel _ _

lemma Fills.positive (h : Fills left charges allocations) : ∀ al ∈ allocations, 0 < al.amountVnd := by
  induction h with
  | nothing charges => simp
  | part rest hpos hlt => simpa using hpos
  | whole hpos h ih => exact List.forall_mem_cons.mpr ⟨hpos, ih⟩

lemma Fills.reached (h : Fills left charges allocations) :
    List.Forall₂ (fun item al => al.chargeId = item.chargeId ∧ al.amountVnd ≤ item.remainingVnd ∧
      (al.settles = true ↔ al.amountVnd = item.remainingVnd))
      (charges.take allocations.length) allocations := by
  induction h with
  | nothing charges => exact .nil
  | part rest hpos hlt =>
    exact .cons ⟨rfl, hlt.le, (fun h => nomatch h), fun h => absurd h hlt.ne⟩ .nil
  | whole hpos h ih => exact .cons ⟨rfl, le_rfl, (fun _ => rfl), fun _ => rfl⟩ ih

lemma Fills.settled (h : Fills left charges allocations) :
    ∀ al ∈ allocations.dropLast, al.settles = true := by
  induction h with
  | nothing charges => simp
  | part rest hpos hlt => simp
  | @whole left item rest allocations hpos h ih =>
    cases allocations with
    | nil => simp
    | cons al allocations =>
      rw [List.dropLast_cons_cons]
      exact List.forall_mem_cons.mpr ⟨rfl, ih⟩

def reduced : List (OpenCharge Id) → List (Allocation Id) → List (OpenCharge Id)
  | charges, [] => charges
  | [], _ :: _ => []
  | item :: rest, al :: allocations =>
    if al.settles then reduced rest allocations
    else ⟨item.chargeId, item.remainingVnd - al.amountVnd⟩ :: reduced rest allocations

def paidDown : Int → List (OpenCharge Id) → List (OpenCharge Id)
  | _, [] => []
  | left, item :: rest =>
    if left < item.remainingVnd then ⟨item.chargeId, item.remainingVnd - left⟩ :: rest
    else paidDown (left - item.remainingVnd) rest

lemma reduced_nil (charges : List (OpenCharge Id)) : reduced charges [] = charges := by
  cases charges <;> rfl

lemma paidDown_zero (hopen : Open charges) : paidDown 0 charges = charges := by
  cases charges with
  | nil => rfl
  | cons item rest =>
    rw [paidDown, if_pos (Int.lt_of_lt_of_le Int.zero_lt_one (hopen item List.mem_cons_self).2),
      Int.sub_zero]

lemma reduced_eq_paidDown (hopen : Open charges) (h : Fills left charges allocations) :
    reduced charges allocations = paidDown left charges := by
  induction h with
  | nothing charges => rw [reduced_nil, paidDown_zero hopen]
  | part rest hpos hlt => rw [reduced, if_neg Bool.false_ne_true, reduced_nil, paidDown, if_pos hlt]
  | whole hpos h ih =>
    have hleft := h.nonneg
    rw [reduced, if_pos rfl, ih hopen.tail, paidDown, if_neg (by omega)]

lemma paidDown_add (ha : 0 ≤ a) (hb : 0 ≤ b) : paidDown b (paidDown a charges) = paidDown (a + b) charges := by
  induction charges generalizing a with
  | nil => rfl
  | cons item rest ih =>
    rw [paidDown, paidDown]
    by_cases hfirst : a < item.remainingVnd
    · rw [if_pos hfirst, paidDown]
      dsimp only
      by_cases hboth : a + b < item.remainingVnd
      · rw [if_pos hboth, if_pos (by omega), Int.sub_sub]
      · rw [if_neg hboth, if_neg (by omega), show b - (item.remainingVnd - a) =
          a + b - item.remainingVnd by omega]
    · rw [if_neg hfirst, if_neg (by omega), ih (by omega),
        show a - item.remainingVnd + b = a + b - item.remainingVnd by omega]

lemma open_paidDown (hopen : Open charges) (ha : 0 ≤ a) : Open (paidDown a charges) := by
  induction charges generalizing a with
  | nil => exact hopen
  | cons item rest ih =>
    have hitem := hopen item List.mem_cons_self
    rw [paidDown]
    split
    · refine List.forall_mem_cons.mpr ⟨⟨⟨?_, ?_⟩, ?_⟩, hopen.tail⟩ <;> dsimp only
      · omega
      · exact (Int.sub_le_self _ ha).trans hitem.1.2
      · omega
    · exact ih hopen.tail (by omega)

lemma totalOwed_paidDown (ha : 0 ≤ a) (hle : a ≤ totalOwed charges) :
    totalOwed (paidDown a charges) = totalOwed charges - a := by
  induction charges generalizing a with
  | nil =>
    obtain rfl : a = 0 := le_antisymm hle ha
    rfl
  | cons item rest ih =>
    rw [totalOwed_cons] at hle ⊢
    rw [paidDown]
    split
    · rw [totalOwed_cons]
      dsimp only
      omega
    · rw [ih (by omega) (by omega)]
      omega

lemma allocateOldestFirst_eq (hpos : 1 ≤ amount) (hmax : amount ≤ maxSettlementVnd)
    (charges : List (OpenCharge Id)) :
    allocateOldestFirst amount charges = allocateFrom amount charges := by
  rw [allocateOldestFirst, require_true ⟨⟨by omega, hmax⟩, hpos⟩]
  rfl

/-- A payment settles the oldest charges first, and split in two it leaves the same charges. -/
theorem allocateOldestFirst_split (hopen : Open charges) :
    (∀ amount, 1 ≤ amount → amount ≤ maxSettlementVnd → amount ≤ totalOwed charges →
      ∃ allocations, allocateOldestFirst amount charges = .ok allocations ∧
        (∀ al ∈ allocations, 0 < al.amountVnd) ∧
        (allocations.map Allocation.amountVnd).sum = amount ∧
        List.Forall₂ (fun item al => al.chargeId = item.chargeId ∧
          al.amountVnd ≤ item.remainingVnd ∧
            (al.settles = true ↔ al.amountVnd = item.remainingVnd))
          (charges.take allocations.length) allocations ∧
        ∀ al ∈ allocations.dropLast, al.settles = true) ∧
    ∀ a b, 1 ≤ a → 1 ≤ b → a + b ≤ maxSettlementVnd → a + b ≤ totalOwed charges →
      ∃ first second both, allocateOldestFirst a charges = .ok first ∧
        allocateOldestFirst b (reduced charges first) = .ok second ∧
        allocateOldestFirst (a + b) charges = .ok both ∧
        reduced (reduced charges first) second = reduced charges both := by
  constructor
  · intro amount hpos hmax hle
    obtain ⟨allocations, hallocations, hfills⟩ := exists_fills hopen (by omega) hle
    rw [allocateOldestFirst_eq hpos hmax]
    exact ⟨allocations, hallocations, hfills.positive, hfills.sum_eq, hfills.reached, hfills.settled⟩
  · intro a b ha hb hmax hle
    obtain ⟨first, hfirst, hfills⟩ := exists_fills hopen (show 0 ≤ a by omega) (by omega)
    have hreduced := reduced_eq_paidDown hopen hfills
    have hopen' : Open (paidDown a charges) := open_paidDown hopen (by omega)
    have htotal := totalOwed_paidDown (show 0 ≤ a by omega) (show a ≤ totalOwed charges by omega)
    obtain ⟨second, hsecond, hfills'⟩ := exists_fills hopen' (show 0 ≤ b by omega) (by omega)
    obtain ⟨both, hboth, hfills''⟩ := exists_fills hopen (show 0 ≤ a + b by omega) hle
    refine ⟨first, second, both, ?_, ?_, ?_, ?_⟩
    · rw [allocateOldestFirst_eq ha (by omega), hfirst]
    · rw [allocateOldestFirst_eq hb (by omega), hreduced, hsecond]
    · rw [allocateOldestFirst_eq (by omega) hmax, hboth]
    · rw [hreduced, reduced_eq_paidDown hopen' hfills', paidDown_add (by omega) (by omega),
        reduced_eq_paidDown hopen hfills'']

/-- 150 đồng on charges of 100 and 80, paid at once or as 90 and 60. -/
theorem allocateOldestFirst_split_two :
    ∃ first second both, allocateOldestFirst 90 [⟨1, 100⟩, ⟨2, 80⟩] = .ok first ∧
      allocateOldestFirst 60 (reduced [⟨1, 100⟩, ⟨2, 80⟩] first) = .ok second ∧
      allocateOldestFirst (90 + 60) [⟨1, 100⟩, ⟨2, 80⟩] = .ok both ∧
      reduced (reduced [⟨1, 100⟩, ⟨2, 80⟩] first) second =
        reduced [(⟨1, 100⟩ : OpenCharge Nat), ⟨2, 80⟩] both :=
  (@allocateOldestFirst_split Nat [⟨1, 100⟩, ⟨2, 80⟩]
    (by simp [Open, wholeVnd, maxSettlementVnd])).2 90 60 (by decide) (by decide) (by decide) (by decide)

/-- More than the system can hold is no payment, whatever is owed. -/
theorem allocateOldestFirst_too_large : ¬ ∀ (charges : List (OpenCharge Nat)) (amount : Int),
    (∀ item ∈ charges, 0 < item.remainingVnd) → 1 ≤ amount → amount ≤ totalOwed charges →
      ∃ allocations, allocateOldestFirst amount charges = .ok allocations := by
  intro h
  obtain ⟨allocations, hallocations⟩ := h [⟨1, maxSettlementVnd⟩, ⟨2, 1⟩] (maxSettlementVnd + 1)
    (by simp [maxSettlementVnd]) (by decide) (by decide)
  cases hallocations

end NhaTrangLaundry.Domain.Accounts
