import NhaTrangLaundry.Domain.Payments
import NhaTrangLaundry.Domain.Unclaimed

/-! What an order is charged, and what a payment that is taken leaves owed. -/

namespace NhaTrangLaundry.Domain.Payments

open Lib Outcome Catalog Canonical Settlement Unclaimed

lemma takeAmount_accepted {owed paid amount : Int} {collected : Bool} {a : PaymentAccepted}
    (h : takeAmount owed paid amount collected = .accepted a) :
    0 ≤ a.amountVnd ∧ a.amountVnd = amount ∧ a.owedVnd = owed ∧
      a.paidAfterVnd = paid + a.amountVnd ∧
      ((a.balanceAfter = .paid ∧ a.paidAfterVnd = owed) ∨
        (a.balanceAfter = .partiallyPaid ∧ 0 < a.amountVnd ∧ a.paidAfterVnd ≤ owed)) := by
  simp only [takeAmount] at h
  split at h
  · next hnone =>
    cases h
    exact ⟨le_refl 0, hnone.1.symm, rfl, by simp, .inl ⟨rfl, by show paid = owed; omega⟩⟩
  split at h
  · cases h
  split at h
  · cases h
  split at h
  · cases h
  by_cases hzero : owed - (paid + amount) = 0
  · simp only [hzero, if_true, ne_eq, not_true_eq_false, and_false, if_false] at h
    cases h
    refine ⟨by show 0 ≤ amount; omega, rfl, rfl, rfl, .inl ⟨rfl, ?_⟩⟩
    show paid + amount = owed
    omega
  · simp only [hzero, if_false] at h
    split at h
    · cases h
    · cases h
      refine ⟨by show 0 ≤ amount; omega, rfl, rfl, rfl, .inr ⟨rfl, ?_, ?_⟩⟩
      · show 0 < amount
        omega
      · show paid + amount ≤ owed
        omega

lemma evaluatePayment_accepted {commercial : CommercialOrderStatus} {balance : OrderBalanceStatus}
    {charges : Option (List OrderCharge)} {paid amount : Int} {method : PaymentMethod}
    {seen collected : Bool} {reference : Option String} {a : PaymentAccepted}
    (h : evaluatePayment commercial balance charges paid amount method seen reference collected =
      .ok (.accepted a)) :
    balance ∈ payableBalances ∧ ∃ cs owed, charges = some cs ∧ owedTotal cs = .ok owed ∧
      takeAmount owed paid amount collected = .accepted a := by
  unfold evaluatePayment at h
  split at h
  · cases h
  split at h
  · cases h
  next hbalance =>
  refine ⟨not_not.mp hbalance, ?_⟩
  split at h
  · cases h
  next cs =>
  split at h
  · cases h
  split at h
  · cases h
  split at h
  · cases h
  rw [bind_ok] at h
  obtain ⟨position, hposition, h⟩ := h
  simp only [paymentPosition, bind_ok, require_ok] at hposition
  obtain ⟨-, -, owed, howed, -, -, hposition⟩ := hposition
  cases hposition
  exact ⟨cs, owed, rfl, howed, by simpa using h⟩

lemma owedCharges_ok {total fee : Int} (htotal : wholeVnd total)
    {charges : Option (List OrderCharge)}
    (h : owedCharges ⟨some total, some total⟩ fee = .ok charges) :
    wholeVnd fee ∧ ∃ cs, charges = some cs ∧ owedTotal cs = .ok (total + fee) := by
  simp only [owedCharges, ne_eq, not_true_eq_false, false_or, htotal, if_false, bind_ok,
    require_ok] at h
  obtain ⟨-, hfee, h⟩ := h
  cases h
  refine ⟨hfee, _, rfl, ?_⟩
  by_cases hpos : 0 < fee
  · simp [owedTotal, hpos, htotal, hfee, require]
  · have hzero : fee = 0 := le_antisymm (not_lt.mp hpos) hfee.1
    simp [owedTotal, hzero, htotal, require]

lemma owedCharges_whole {total fee : Int} (htotal : wholeVnd total) (hfee : wholeVnd fee) :
    ∃ charges, owedCharges ⟨some total, some total⟩ fee = .ok charges := by
  simp [owedCharges, htotal, hfee, require]

lemma storageFee_amount {policy : StoragePolicy} {ready asOf total : Int} {holds : List StorageHold}
    {paused : Bool} {fee : StorageFee} (h : storageFee policy ready asOf total holds paused = .ok fee) :
    0 ≤ fee.amountVnd ∧ fee.amountVnd ≤ total := by
  simp only [storageFee, bind_ok, require_ok] at h
  obtain ⟨-, htotal, waited, -, h⟩ := h
  cases h
  have hcap : 0 ≤ total * policy.feeCapPercent :=
    Int.mul_nonneg htotal.1 (by have := policy.percent_range; omega)
  have hcap' : total * policy.feeCapPercent ≤ total * 100 :=
    Int.mul_le_mul_of_nonneg_left policy.percent_range.2 htotal.1
  have huncapped : 0 ≤ max 0 (waited - policy.freeDays) * policy.feePerStartedDayVnd :=
    Int.mul_nonneg (le_max_left _ _) (by have := policy.fee_range; omega)
  constructor
  · show 0 ≤ min _ _
    omega
  · show min _ _ ≤ total
    omega

lemma unfixedStorageFee_amount {policy : Option StoragePolicy} {clock : StorageClock}
    {ready : Option Int} {asOf total : Int} {waived : Bool} {holds : List StorageHold}
    {fee : OrderStorageFee} (htotal : 0 ≤ total)
    (h : unfixedStorageFee policy clock ready asOf (some total) waived holds = .ok fee) :
    0 ≤ fee.amountVnd ∧ fee.amountVnd ≤ total := by
  unfold unfixedStorageFee at h
  split at h
  · cases h
    exact ⟨le_refl 0, htotal⟩
  split at h
  · cases h
    exact ⟨le_refl 0, htotal⟩
  · cases h
    exact ⟨le_refl 0, htotal⟩
  split at h
  · cases h
    exact ⟨le_refl 0, htotal⟩
  simp only [waitingFee, bind_ok] at h
  obtain ⟨computed, hcomputed, h⟩ := h
  have hamount := storageFee_amount hcomputed
  split at h
  · cases h
    exact ⟨le_refl 0, htotal⟩
  · cases h
    exact hamount

end NhaTrangLaundry.Domain.Payments
