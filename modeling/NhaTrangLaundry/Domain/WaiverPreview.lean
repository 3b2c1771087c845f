import NhaTrangLaundry.Domain.OwedCharges

/-! What the waiver of a storage fee promises, against what is computed once it is made. -/

namespace NhaTrangLaundry.Domain.Payments

open Lib Outcome Catalog Canonical Settlement Unclaimed

section

variable {policy : Option StoragePolicy} {clock : StorageClock} {readyAt quoted : Option Int}
  {asOf paid already total : Int} {waived : Bool} {holds : List StorageHold}
  {fee owedNow : OrderStorageFee}

lemma feeAlreadyPaid_ok : feeAlreadyPaid paid quoted = .ok already ↔
    (wholeVnd paid ∧ ∀ total ∈ quoted, wholeVnd total) ∧
      (match quoted with
        | none => 0
        | some total => max 0 (paid - total)) = already := by
  rw [feeAlreadyPaid.eq_def]
  constructor
  · intro h
    obtain ⟨_, hwhole, h⟩ := bind_ok.mp h
    exact ⟨require_ok.mp hwhole, Except.ok.inj h⟩
  · rintro ⟨hwhole, h⟩
    rw [require_true hwhole, ok_bind]
    exact congrArg Except.ok h

lemma feeAlreadyPaid_nonneg (h : feeAlreadyPaid paid quoted = .ok already) : 0 ≤ already := by
  rw [← (feeAlreadyPaid_ok.mp h).2]
  cases quoted with
  | none => exact le_refl 0
  | some total => exact le_max_left _ _

lemma orderStorageFee_unsettled :
    orderStorageFee policy clock readyAt asOf quoted waived false none paid holds = .ok fee ↔
      ∃ owedNow already, unfixedStorageFee policy clock readyAt asOf quoted waived holds =
          .ok owedNow ∧ feeAlreadyPaid paid quoted = .ok already ∧
        fee = if owedNow.amountVnd < already then ⟨.alreadyPaid, already, owedNow.fee, already⟩
          else ⟨owedNow.status, owedNow.amountVnd, owedNow.fee, already⟩ := by
  rw [orderStorageFee.eq_def]
  dsimp only
  rw [if_neg Bool.false_ne_true]
  constructor
  · intro h
    obtain ⟨owedNow, hnow, h⟩ := bind_ok.mp h
    obtain ⟨already, halready, h⟩ := bind_ok.mp h
    exact ⟨owedNow, already, hnow, halready, (Except.ok.inj h).symm⟩
  · rintro ⟨owedNow, already, hnow, halready, rfl⟩
    rw [hnow, ok_bind, halready]
    rfl

lemma orderStorageFee_waived (halready : feeAlreadyPaid paid quoted = .ok already) :
    ∃ after, orderStorageFee policy clock readyAt asOf quoted true false none paid holds =
      .ok after ∧ after.amountVnd = already := by
  have hnow : unfixedStorageFee policy clock readyAt asOf quoted true holds =
      .ok ⟨.waived, 0, none, 0⟩ := rfl
  refine ⟨_, orderStorageFee_unsettled.mpr ⟨_, already, hnow, halready, rfl⟩, ?_⟩
  have hnonneg := feeAlreadyPaid_nonneg halready
  split_ifs with h
  · rfl
  · exact le_antisymm hnonneg (not_lt.mp h)

lemma unfixedStorageFee_charged
    (h : unfixedStorageFee policy clock readyAt asOf quoted waived holds = .ok owedNow)
    (hcharged : owedNow.amountVnd ≠ 0) :
    owedNow.status ∈ [StorageFeeStatus.accruing, .paused] ∧ quoted.isSome = true := by
  rw [unfixedStorageFee.eq_def] at h
  split at h
  · cases h
    exact absurd rfl hcharged
  split at h
  · cases h
    exact absurd rfl hcharged
  · cases h
    exact absurd rfl hcharged
  split at h
  · cases h
    exact absurd rfl hcharged
  rw [waitingFee.eq_def] at h
  split at h
  · cases h
    exact absurd rfl hcharged
  obtain ⟨computed, -, h⟩ := bind_ok.mp h
  split_ifs at h
  · cases h
    exact absurd rfl hcharged
  · cases h
    exact ⟨by simp, rfl⟩
  · cases h
    exact ⟨by simp, rfl⟩

end

section

variable {commercial : CommercialOrderStatus} {balance : OrderBalanceStatus}
  {charges : List OrderCharge} {paid owed : Int} {method : PaymentMethod} {seen collected : Bool}
  {reference : Option String} {position : PaymentPosition}

def Stated (method : PaymentMethod) (seen : Bool) (reference : Option String) : Prop :=
  (method = .chuyenKhoan → seen = true) ∧
    ∀ text ∈ reference, method = .chuyenKhoan ∧ bankRefPattern text = true

lemma paymentPosition_of_owed (howed : owedTotal charges = .ok owed) (hpaid : wholeVnd paid)
    (hcovered : paid ≤ owed) :
    paymentPosition (some charges) paid = .ok ⟨charges, some owed, paid, some (owed - paid)⟩ := by
  rw [paymentPosition.eq_def, require_true hpaid, ok_bind]
  dsimp only
  rw [howed, ok_bind, require_true hcovered, ok_bind]

lemma evaluatePayment_zero (howed : owedTotal charges = .ok owed) (hpaid : wholeVnd paid)
    (hcovered : paid ≤ owed) (hstated : Stated method seen reference) :
    (∃ accepted, evaluatePayment commercial balance (some charges) paid 0 method seen reference
        collected = .ok (.accepted accepted) ∧ accepted.completes = true) ↔
      commercial = .active ∧ balance ∈ payableBalances ∧ owed - paid = 0 := by
  constructor
  · rintro ⟨accepted, h, hcompletes⟩
    have hactive : commercial = .active := by
      by_contra hne
      rw [evaluatePayment.eq_def, if_pos hne] at h
      cases h
    obtain ⟨hbalance, cs, owed', hcs, howed', htake⟩ := evaluatePayment_accepted h
    cases hcs
    rw [howed] at howed'
    cases howed'
    obtain ⟨-, hamount, -, hafter, ⟨-, hfull⟩ | ⟨hsplit, -⟩⟩ := takeAmount_accepted htake
    · exact ⟨hactive, hbalance, by omega⟩
    · rw [PaymentAccepted.completes, hsplit] at hcompletes
      cases hcompletes
  · rintro ⟨rfl, hbalance, hzero⟩
    have hbank : ¬ ∃ text ∈ reference, method ≠ .chuyenKhoan ∨ bankRefPattern text = false := by
      rintro ⟨text, htext, hmethod | hpattern⟩
      · exact hmethod (hstated.2 text htext).1
      · rw [(hstated.2 text htext).2] at hpattern
        cases hpattern
    have hseen : ¬ (method = .chuyenKhoan ∧ seen = false) := by
      rintro ⟨hmethod, hunseen⟩
      rw [hstated.1 hmethod] at hunseen
      cases hunseen
    refine ⟨⟨0, owed, paid, 0, .paid, collected⟩, ?_, rfl⟩
    rw [evaluatePayment.eq_def, if_neg (not_not_intro rfl), if_neg (not_not_intro hbalance)]
    dsimp only
    rw [if_neg (not_not_intro (by decide)), if_neg hseen, if_neg hbank,
      paymentPosition_of_owed howed hpaid hcovered, ok_bind]
    dsimp only
    rw [takeAmount, if_pos ⟨rfl, hzero⟩]

end

/-- What a waiver said it would do, against the fee as it reads afterwards. -/
structure Previewed (effect : WaiverEffect) (after : OrderStorageFee) (quoted : Option Int)
    (paid : Int) : Prop where
  kept : after.amountVnd = effect.keptVnd
  waived : 0 < effect.waivedVnd
  remaining : 0 ≤ effect.remainingAfterVnd
  charged : ∃ charges position, owedCharges ⟨quoted, quoted⟩ after.amountVnd = .ok (some charges) ∧
    paymentPosition (some charges) paid = .ok position ∧
    position.owedVnd = some effect.owedAfterVnd ∧
    position.remainingVnd = some effect.remainingAfterVnd ∧
    ∀ commercial balance method seen reference collected, Stated method seen reference →
      ((∃ accepted, evaluatePayment commercial balance (some charges) paid 0 method seen reference
          collected = .ok (.accepted accepted) ∧ accepted.completes = true) ↔
        commercial = .active ∧ balance ∈ payableBalances ∧ effect.settles = true)

section

variable {policy : Option StoragePolicy} {clock : StorageClock} {readyAt quoted : Option Int}
  {asOf paid already : Int} {waived : Bool} {holds : List StorageHold}
  {fee after : OrderStorageFee} {effect : WaiverEffect}

lemma waiverEffect_other (hstatus : fee.status ∉ [StorageFeeStatus.accruing, .paused]) :
    waiverEffect fee quoted paid = .ok none := by
  rw [waiverEffect.eq_def]
  cases quoted with
  | none => rfl
  | some total => exact if_pos hstatus

lemma waiverEffect_accrued {total : Int} (hstatus : fee.status ∈ [StorageFeeStatus.accruing, .paused])
    (halready : feeAlreadyPaid paid (some total) = .ok already) (hkept : fee.alreadyPaidVnd = already) :
    waiverEffect fee (some total) paid = .ok (if fee.amountVnd - already ≤ 0 then none else
      some ⟨total, fee.amountVnd - already, already, total + already, total + already - paid⟩) := by
  rw [waiverEffect.eq_def]
  dsimp only
  rw [if_neg (not_not_intro hstatus), halready, ok_bind, require_true hkept, ok_bind, hkept]

lemma waiverEffect_unsettled
    (h : orderStorageFee policy clock readyAt asOf quoted waived false none paid holds = .ok fee)
    (halready : feeAlreadyPaid paid quoted = .ok already) :
    (waiverEffect fee quoted paid = .ok none ∧ fee.amountVnd = already) ∨
      ∃ total, quoted = some total ∧ 0 < fee.amountVnd - already ∧
        waiverEffect fee quoted paid = .ok (some ⟨total, fee.amountVnd - already, already,
          total + already, total + already - paid⟩) := by
  obtain ⟨owedNow, already', hnow, halready', hfee⟩ := orderStorageFee_unsettled.mp h
  rw [halready] at halready'
  cases halready'
  by_cases hless : owedNow.amountVnd < already
  · rw [if_pos hless] at hfee
    refine .inl ⟨waiverEffect_other ?_, by rw [hfee]⟩
    simp [hfee]
  rw [if_neg hless] at hfee
  have hamount : fee.amountVnd = owedNow.amountVnd := by rw [hfee]
  have hkept : fee.alreadyPaidVnd = already := by rw [hfee]
  have hnonneg := feeAlreadyPaid_nonneg halready
  by_cases hstatus : fee.status ∈ [StorageFeeStatus.accruing, .paused]
  · cases quoted with
    | none =>
      refine .inl ⟨by rw [waiverEffect.eq_def], ?_⟩
      by_contra hne
      have hcharged : owedNow.amountVnd ≠ 0 := by omega
      exact absurd (unfixedStorageFee_charged hnow hcharged).2 (by decide)
    | some total =>
      rw [waiverEffect_accrued hstatus halready hkept]
      by_cases hnone : fee.amountVnd - already ≤ 0
      · exact .inl ⟨congrArg Except.ok (if_pos hnone), by omega⟩
      · exact .inr ⟨total, rfl, not_le.mp hnone, congrArg Except.ok (if_neg hnone)⟩
  · refine .inl ⟨waiverEffect_other hstatus, ?_⟩
    have hzero : owedNow.amountVnd = 0 := by
      by_contra hcharged
      refine hstatus ?_
      rw [hfee]
      exact (unfixedStorageFee_charged hnow hcharged).1
    omega

/-- The preview of a waiver never fails on the fee that is read, and does what it says: a waiver
that takes something off leaves the order owing what it keeps, and one that takes nothing
off leaves the fee as it is. -/
theorem waiverEffect_previewed
    (h : orderStorageFee policy clock readyAt asOf quoted waived false none paid holds = .ok fee) :
    ∃ preview after, waiverEffect fee quoted paid = .ok preview ∧
      orderStorageFee policy clock readyAt asOf quoted true false none paid holds = .ok after ∧
      (∀ effect, preview = some effect → Previewed effect after quoted paid) ∧
      (preview = none → after.amountVnd = fee.amountVnd) := by
  obtain ⟨owedNow, already, -, halready, -⟩ := orderStorageFee_unsettled.mp h
  obtain ⟨after, hafter, hamount⟩ := @orderStorageFee_waived policy clock readyAt quoted asOf paid
    already holds halready
  rcases waiverEffect_unsettled h halready with ⟨hnone, hfee⟩ | ⟨total, rfl, hpos, hsome⟩
  · exact ⟨none, after, hnone, hafter, (fun effect hne => nomatch hne),
      fun _ => hamount.trans hfee.symm⟩
  · refine ⟨_, after, hsome, hafter, ?_, fun hne => nomatch hne⟩
    rintro effect heffect
    cases heffect
    obtain ⟨⟨hpaid, htotals⟩, hmax⟩ := feeAlreadyPaid_ok.mp halready
    have htotal : wholeVnd total := htotals total rfl
    have hcovered : paid ≤ total + already := by
      have hbeyond : paid - total ≤ already := hmax ▸ le_max_right 0 (paid - total)
      omega
    have hwhole : wholeVnd after.amountVnd := by
      have hpaid₀ := hpaid.1
      have hpaid₁ := hpaid.2
      have htotal₀ := htotal.1
      rw [hamount, ← hmax]
      exact ⟨le_max_left _ _, max_le (hpaid₀.trans hpaid₁) (by omega)⟩
    obtain ⟨charges, hcharges⟩ := owedCharges_whole htotal hwhole
    obtain ⟨-, cs, rfl, howed⟩ := owedCharges_ok htotal hcharges
    rw [hamount] at howed
    refine ⟨hamount, hpos, sub_nonneg.mpr hcovered, cs, _, hcharges,
      paymentPosition_of_owed howed hpaid hcovered, rfl, rfl, ?_⟩
    intro commercial balance method seen reference collected hstated
    rw [evaluatePayment_zero howed hpaid hcovered hstated, WaiverEffect.settles,
      decide_eq_true_iff]

end

lemma dear_days : (1 : Int) ≤ 1 ∧ (1 : Int) ≤ 365 := by decide

lemma dear_percent : (1 : Int) ≤ 100 ∧ (100 : Int) ≤ 100 := by decide

def dearPolicy : StoragePolicy := ⟨1, 1000, 100, dear_days, by decide, dear_percent⟩

/-- Three days on the shelf, and one đồng of the fee already paid. -/
theorem waiverEffect_previewed_accruing :
    ∃ preview after, waiverEffect ⟨.accruing, 2000, some ⟨3, 2, 1000, 2000, 100000, 2000⟩, 1⟩
        (some 100000) 100001 = .ok preview ∧
      orderStorageFee (some dearPolicy) .running (some (1000 * dayMicros)) (1003 * dayMicros)
        (some 100000) true false none 100001 [] = .ok after ∧
      (∀ effect, preview = some effect → Previewed effect after (some 100000) 100001) ∧
      (preview = none → after.amountVnd = 2000) := by
  have hfee : orderStorageFee (some dearPolicy) .running (some (1000 * dayMicros))
      (1003 * dayMicros) (some 100000) false false none 100001 [] =
        .ok ⟨.accruing, 2000, some ⟨3, 2, 1000, 2000, 100000, 2000⟩, 1⟩ := by
    decide
  exact waiverEffect_previewed hfee

end NhaTrangLaundry.Domain.Payments
