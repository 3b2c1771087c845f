import NhaTrangLaundry.Domain.Payments
import NhaTrangLaundry.Domain.VietQr

/-! The amount an order's QR asks for, against the payments that the counter records. -/

namespace NhaTrangLaundry.Domain.VietQr

open Lib Outcome Catalog Canonical Settlement Payments

inductive QrRefusal where
  | bankAccountUnpublished
  | nothingOwed
  | orderNotActive
  | noPresentableTotal
  | monthNotStarted
  | amountAboveRemaining
  | amountInvalid
deriving DecidableEq

inductive QrAmount where
  | amount (vnd : Int)
  | refused (refusal : QrRefusal)
deriving DecidableEq

def owingBalances : List OrderBalanceStatus := [.unpaid, .partiallyPaid]

def orderQrAmount (commercial : CommercialOrderStatus) (balance : OrderBalanceStatus)
    (remainingVnd partVnd : Option Int) : Except VietQrError QrAmount :=
  if balance ∉ owingBalances then .ok (.refused .nothingOwed)
  else if commercial ≠ .active then .ok (.refused .orderNotActive)
  else match remainingVnd with
    | none => .ok (.refused .noPresentableTotal)
    | some remaining =>
      if remaining = 0 then .ok (.refused .nothingOwed)
      else match partVnd with
        | none => QrAmount.amount <$> requireAmount remaining
        | some part =>
          if ¬ (1 ≤ part ∧ part ≤ maxSettlementVnd) then .ok (.refused .amountInvalid)
          else if remaining < part then .ok (.refused .amountAboveRemaining)
          else .ok (.amount part)

variable {commercial : CommercialOrderStatus} {balance : OrderBalanceStatus}
  {charges : Option (List OrderCharge)} {paid remaining : Int} {part : Option Int}
  {position : PaymentPosition} {reference : Option String}

lemma paymentPosition_ok (h : paymentPosition charges paid = .ok position) :
    (charges = none ∧ position.owedVnd = none ∧ position.remainingVnd = none) ∨
      ∃ cs owed, charges = some cs ∧ position.owedVnd = some owed ∧
        position.remainingVnd = some (owed - paid) ∧ 0 ≤ paid ∧ paid ≤ owed := by
  obtain ⟨_, hpaid, h⟩ := bind_ok.mp h
  have hwhole := require_ok.mp hpaid
  cases charges with
  | none =>
    cases h
    exact .inl ⟨rfl, rfl, rfl⟩
  | some cs =>
    obtain ⟨owed, howed, h⟩ := bind_ok.mp h
    obtain ⟨_, hcovered, h⟩ := bind_ok.mp h
    cases h
    exact .inr ⟨cs, owed, rfl, rfl, rfl, hwhole.1, require_ok.mp hcovered⟩

lemma orderQrAmount_owing (hbalance : balance ∈ owingBalances) (hpos : 0 < remaining)
    (hmax : remaining ≤ maxSettlementVnd) :
    orderQrAmount .active balance (some remaining) part =
      match part with
      | none => .ok (.amount remaining)
      | some part =>
        if ¬ (1 ≤ part ∧ part ≤ maxSettlementVnd) then .ok (.refused .amountInvalid)
        else if remaining < part then .ok (.refused .amountAboveRemaining)
        else .ok (.amount part) := by
  rw [orderQrAmount.eq_def, if_neg (not_not_intro hbalance), if_neg (not_not_intro rfl)]
  dsimp only
  rw [if_neg hpos.ne']
  cases part with
  | some part => rfl
  | none => rw [requireAmount, require_true ⟨hpos, hmax⟩]; rfl

lemma evaluatePayment_transfer {cs : List OrderCharge} {owed amount : Int}
    (hbalance : balance ∈ payableBalances) (hwhole : wholeVnd amount)
    (hreference : ∀ r ∈ reference, bankRefPattern r = true)
    (hposition : paymentPosition (some cs) paid = .ok position)
    (howed : position.owedVnd = some owed) :
    evaluatePayment .active balance (some cs) paid amount .chuyenKhoan true reference false =
      .ok (takeAmount owed paid amount false) := by
  have hgood : ¬ ∃ r ∈ reference, PaymentMethod.chuyenKhoan ≠ .chuyenKhoan ∨
      bankRefPattern r = false := by
    rintro ⟨r, hr, hmethod | hpattern⟩
    · exact hmethod rfl
    · exact Bool.noConfusion (hpattern.symm.trans (hreference r hr))
  rw [evaluatePayment, if_neg (not_not_intro rfl), if_neg (not_not_intro hbalance),
    if_neg (not_not_intro hwhole), if_neg (fun h => Bool.noConfusion h.2), if_neg hgood, hposition,
    ok_bind, howed]

lemma takeAmount_moves {owed amount : Int} {payment : PaymentAccepted} (hpos : 0 < amount) :
    takeAmount owed paid amount false = .accepted payment ↔
      amount ≤ owed - paid ∧ payment = ⟨amount, owed, paid + amount, owed - (paid + amount),
        if owed - (paid + amount) = 0 then .paid else .partiallyPaid, false⟩ := by
  rw [takeAmount]
  dsimp only
  rw [if_neg (fun h => hpos.ne' h.1), if_neg (by omega)]
  by_cases hnone : owed - paid = 0
  · rw [if_pos hnone]
    exact ⟨(fun h => nomatch h), fun h => absurd h.1 (by omega)⟩
  rw [if_neg hnone]
  by_cases hmore : owed - paid < amount
  · rw [if_pos hmore]
    exact ⟨(fun h => nomatch h), fun h => absurd h.1 (by omega)⟩
  · rw [if_neg hmore, if_neg (fun h => Bool.noConfusion h.1)]
    constructor
    · intro h
      cases h
      exact ⟨by omega, rfl⟩
    · rintro ⟨-, rfl⟩
      rfl

/-- The counter records this amount as a seen transfer, the goods staying in the shop. -/
def Recorded (commercial : CommercialOrderStatus) (balance : OrderBalanceStatus)
    (charges : Option (List OrderCharge)) (paid : Int) (reference : Option String) (amount : Int)
    (payment : PaymentAccepted) : Prop :=
  evaluatePayment commercial balance charges paid amount .chuyenKhoan true reference false =
    .ok (.accepted payment)

lemma recorded_active {amount : Int} {payment : PaymentAccepted}
    (h : Recorded commercial balance charges paid reference amount payment) :
    commercial = .active ∧ balance ∈ payableBalances ∧ wholeVnd amount := by
  rw [Recorded, evaluatePayment.eq_def] at h
  by_cases hactive : commercial = .active
  swap
  · rw [if_pos hactive] at h
    cases h
  rw [if_neg (not_not_intro hactive)] at h
  by_cases hbalance : balance ∈ payableBalances
  swap
  · rw [if_pos hbalance] at h
    cases h
  rw [if_neg (not_not_intro hbalance)] at h
  cases charges with
  | none => cases h
  | some cs =>
    by_cases hwhole : wholeVnd amount
    · exact ⟨hactive, hbalance, hwhole⟩
    · dsimp only at h
      rw [if_pos hwhole] at h
      cases h

lemma recorded_iff {cs : List OrderCharge} {owed amount : Int} (hbalance : balance ∈ payableBalances)
    (hposition : paymentPosition (some cs) paid = .ok position) (howed : position.owedVnd = some owed)
    (hreference : ∀ r ∈ reference, bankRefPattern r = true) (hpos : 1 ≤ amount) :
    (∃ payment, Recorded .active balance (some cs) paid reference amount payment) ↔
      amount ≤ maxSettlementVnd ∧ amount ≤ owed - paid := by
  constructor
  · rintro ⟨payment, h⟩
    have hwhole := (recorded_active h).2.2
    rw [Recorded, evaluatePayment_transfer hbalance hwhole hreference hposition howed,
      Except.ok.injEq, takeAmount_moves hpos] at h
    exact ⟨hwhole.2, h.1⟩
  · rintro ⟨hmax, hle⟩
    have hwhole : wholeVnd amount := ⟨by omega, hmax⟩
    refine ⟨⟨amount, owed, paid + amount, owed - (paid + amount),
      if owed - (paid + amount) = 0 then .paid else .partiallyPaid, false⟩, ?_⟩
    rw [Recorded, evaluatePayment_transfer hbalance hwhole hreference hposition howed,
      Except.ok.injEq, takeAmount_moves hpos]
    exact ⟨hle, rfl⟩

lemma remaining_of_recorded {amount : Int} {payment : PaymentAccepted}
    (hposition : paymentPosition charges paid = .ok position)
    (hreference : ∀ r ∈ reference, bankRefPattern r = true)
    (hremaining : position.remainingVnd = some remaining)
    (h : Recorded commercial balance charges paid reference amount payment) :
    payment.remainingAfterVnd = remaining - amount := by
  obtain ⟨rfl, hbalance, hwhole⟩ := recorded_active h
  rcases paymentPosition_ok hposition with ⟨-, -, hnone⟩ | ⟨cs, owed, rfl, howed, hsome, -, -⟩
  · cases hnone.symm.trans hremaining
  · cases hsome.symm.trans hremaining
    rw [Recorded, evaluatePayment_transfer hbalance hwhole hreference hposition howed,
      Except.ok.injEq] at h
    rcases hwhole.1.lt_or_eq with hpos | rfl
    · obtain ⟨-, rfl⟩ := (takeAmount_moves hpos).mp h
      dsimp only
      omega
    · rw [takeAmount] at h
      dsimp only at h
      split at h
      · next hnone =>
        cases h
        dsimp only
        omega
      · rw [if_pos Int.zero_lt_one] at h
        cases h

lemma answers_of {answer : Option Int} {refusal : QrRefusal}
    (hanswer : orderQrAmount commercial balance position.remainingVnd part =
      .ok (answer.elim (.refused refusal) .amount))
    (hrecorded : ∀ asked, answer = some asked ↔ 1 ≤ asked ∧ ∃ remaining,
      position.remainingVnd = some remaining ∧ asked = part.getD remaining ∧
        ∃ payment, Recorded commercial balance charges paid reference asked payment) :
    (∀ asked, orderQrAmount commercial balance position.remainingVnd part = .ok (.amount asked) ↔
      1 ≤ asked ∧ ∃ remaining, position.remainingVnd = some remaining ∧
        asked = part.getD remaining ∧
        ∃ payment, Recorded commercial balance charges paid reference asked payment) ∧
    ((∃ asked, orderQrAmount commercial balance position.remainingVnd part = .ok (.amount asked)) ∨
      ∃ refusal, orderQrAmount commercial balance position.remainingVnd part =
        .ok (.refused refusal)) := by
  constructor
  · intro asked
    rw [hanswer, ← hrecorded]
    cases answer <;> simp
  · cases answer with
    | none => exact .inr ⟨refusal, hanswer⟩
    | some asked => exact .inl ⟨asked, hanswer⟩

/-- The QR asks for money exactly where the counter records that amount, and never for another
one; it is refused by name where nothing is left to pay. -/
theorem orderQrAmount_iff (hposition : paymentPosition charges paid = .ok position)
    (howed : ∀ owed ∈ position.owedVnd, owed ≤ maxSettlementVnd)
    (hreference : ∀ r ∈ reference, bankRefPattern r = true) :
    (∀ asked, orderQrAmount commercial balance position.remainingVnd part = .ok (.amount asked) ↔
      1 ≤ asked ∧ ∃ remaining, position.remainingVnd = some remaining ∧
        asked = part.getD remaining ∧
        ∃ payment, Recorded commercial balance charges paid reference asked payment) ∧
    (∀ remaining asked payment, position.remainingVnd = some remaining →
      Recorded commercial balance charges paid reference asked payment →
        payment.remainingAfterVnd = remaining - asked) ∧
    ((∃ asked, orderQrAmount commercial balance position.remainingVnd part = .ok (.amount asked)) ∨
      ∃ refusal, orderQrAmount commercial balance position.remainingVnd part =
        .ok (.refused refusal)) := by
  suffices h : ∃ (answer : Option Int) (refusal : QrRefusal),
      orderQrAmount commercial balance position.remainingVnd part =
        .ok (answer.elim (.refused refusal) .amount) ∧
      ∀ asked, answer = some asked ↔ 1 ≤ asked ∧ ∃ remaining,
        position.remainingVnd = some remaining ∧ asked = part.getD remaining ∧
          ∃ payment, Recorded commercial balance charges paid reference asked payment by
    obtain ⟨answer, refusal, hanswer, hrecorded⟩ := h
    obtain ⟨hiff, hanswers⟩ := answers_of hanswer hrecorded
    exact ⟨hiff, fun _ _ _ hremaining => remaining_of_recorded hposition hreference hremaining,
      hanswers⟩
  by_cases hbalance : balance ∈ owingBalances
  swap
  · refine ⟨none, .nothingOwed, by rw [orderQrAmount.eq_def, if_pos hbalance]; rfl, fun asked => ?_⟩
    refine ⟨(fun h => nomatch h), ?_⟩
    rintro ⟨-, remaining, -, -, payment, h⟩
    exact absurd (recorded_active h).2.1 hbalance
  by_cases hactive : commercial = .active
  swap
  · refine ⟨none, .orderNotActive, ?_, fun asked => ⟨(fun h => nomatch h), ?_⟩⟩
    · rw [orderQrAmount.eq_def, if_neg (not_not_intro hbalance), if_pos hactive]
      rfl
    · rintro ⟨-, remaining, -, -, payment, h⟩
      exact absurd (recorded_active h).1 hactive
  subst hactive
  rcases paymentPosition_ok hposition with ⟨-, -, hnone⟩ | ⟨cs, owed, rfl, hsome, hremaining, hpaid, hle⟩
  · refine ⟨none, .noPresentableTotal, ?_, fun asked => ⟨(fun h => nomatch h), ?_⟩⟩
    · rw [orderQrAmount.eq_def, if_neg (not_not_intro hbalance), if_neg (not_not_intro rfl), hnone]
      rfl
    · rintro ⟨-, remaining, hremaining, -⟩
      cases hnone.symm.trans hremaining
  have hrecorded : ∀ asked, 1 ≤ asked →
      ((∃ payment, Recorded .active balance (some cs) paid reference asked payment) ↔
        asked ≤ maxSettlementVnd ∧ asked ≤ owed - paid) := fun asked =>
    recorded_iff hbalance hposition hsome hreference
  have hmax := howed owed hsome
  rw [hremaining]
  by_cases hzero : owed - paid = 0
  · refine ⟨none, .nothingOwed, ?_, fun asked => ⟨(fun h => nomatch h), ?_⟩⟩
    · rw [orderQrAmount.eq_def, if_neg (not_not_intro hbalance), if_neg (not_not_intro rfl)]
      exact if_pos hzero
    · rintro ⟨hpos, remaining, -, -, h⟩
      have := ((hrecorded asked hpos).mp h).2
      omega
  rw [orderQrAmount_owing hbalance (by omega) (by omega)]
  cases part with
  | none =>
    refine ⟨some (owed - paid), .nothingOwed, rfl, fun asked => ⟨fun h => ?_, ?_⟩⟩
    · cases h
      exact ⟨by omega, _, rfl, rfl, (hrecorded _ (by omega)).mpr ⟨by omega, le_rfl⟩⟩
    · rintro ⟨-, remaining, h, rfl, -⟩
      cases h
      rfl
  | some part =>
    dsimp only
    by_cases hvalid : 1 ≤ part ∧ part ≤ maxSettlementVnd
    swap
    · refine ⟨none, .amountInvalid, if_pos hvalid, fun asked => ⟨(fun h => nomatch h), ?_⟩⟩
      rintro ⟨hpos, remaining, -, rfl, h⟩
      exact absurd ⟨hpos, ((hrecorded _ hpos).mp h).1⟩ hvalid
    rw [if_neg (not_not_intro hvalid)]
    by_cases hmore : owed - paid < part
    · refine ⟨none, .amountAboveRemaining, if_pos hmore, fun asked => ⟨(fun h => nomatch h), ?_⟩⟩
      rintro ⟨hpos, remaining, -, rfl, h⟩
      exact absurd ((hrecorded _ hpos).mp h).2 (not_le_of_gt hmore)
    · refine ⟨some part, .nothingOwed, if_neg hmore, fun asked => ⟨fun h => ?_, ?_⟩⟩
      · cases h
        exact ⟨hvalid.1, _, rfl, rfl, (hrecorded _ hvalid.1).mpr ⟨hvalid.2, le_of_not_gt hmore⟩⟩
      · rintro ⟨-, remaining, -, rfl, -⟩
        rfl

/-- An order of 100.000 đồng of which 40.000 are paid: the QR asks for the part of 50.000. -/
theorem orderQrAmount_part :
    orderQrAmount .active .partiallyPaid (some 60000) (some 50000) = .ok (.amount 50000) :=
  ((@orderQrAmount_iff .active .partiallyPaid (some [⟨.quotedTotal, 100000⟩]) 40000 (some 50000)
    ⟨[⟨.quotedTotal, 100000⟩], some 100000, 40000, some 60000⟩ none (by decide) (by decide)
    (by simp)).1 50000).mpr ⟨by decide, 60000, rfl, rfl, _, rfl⟩

/-- A bill that a credit covered is settled with 0 đồng, for which there is no QR. -/
theorem orderQrAmount_nothing_left : ¬ ∀ commercial balance charges paid position part asked,
    paymentPosition charges paid = .ok position →
      (orderQrAmount commercial balance position.remainingVnd part = .ok (.amount asked) ↔
        ∃ remaining, position.remainingVnd = some remaining ∧ asked = part.getD remaining ∧
          ∃ payment, Recorded commercial balance charges paid none asked payment) := by
  intro h
  have hsettles := (h .active .unpaid (some [⟨.quotedTotal, 0⟩]) 0
    ⟨[⟨.quotedTotal, 0⟩], some 0, 0, some 0⟩ none 0 (by decide)).mpr ⟨0, rfl, rfl, _, rfl⟩
  cases hsettles

end NhaTrangLaundry.Domain.VietQr
