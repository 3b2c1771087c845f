import Mathlib.Algebra.Order.BigOperators.Group.List
import NhaTrangLaundry.Db.Payments
import NhaTrangLaundry.Domain.OwedCharges

/-! An order never owes less than it has been paid, in any interleaving of production
moves, policy changes, waivers and payments. -/

namespace NhaTrangLaundry.Db.Payments

open Lib Outcome Domain Catalog Canonical Settlement Unclaimed Payments

/-- The waiting clock of the order can be read at the moment: its dates are in the
calendar. -/
def ClockReads (order : Order) (moment : Int) : Prop :=
  ∀ ready ∈ order.productionReadyAt, ∀ paused, ∃ days,
    countedDays ready moment order.holdsSinceReady paused = .ok days

lemma unfixedStorageFee_reads {order : Order} {moment : Int} (htotal : wholeVnd order.quotedTotalVnd)
    (h : ClockReads order moment) (clock : StorageClock) :
    ∃ fee, unfixedStorageFee order.storagePolicy clock order.productionReadyAt moment
      (some order.quotedTotalVnd) order.waived order.holdsSinceReady = .ok fee := by
  unfold unfixedStorageFee
  split
  · exact ⟨_, rfl⟩
  split
  · exact ⟨_, rfl⟩
  · exact ⟨_, rfl⟩
  next policy ready _ hready =>
  split
  · exact ⟨_, rfl⟩
  obtain ⟨days, hdays⟩ := h ready hready (pausedSince clock ready order.holdsSinceReady)
  simp only [waitingFee, storageFee]
  rw [require_true htotal, ok_bind, hdays]
  exact ⟨_, rfl⟩

/-- What every step keeps, as long as the ledger fits. -/
structure Inv (order : Order) : Prop where
  total : wholeVnd order.quotedTotalVnd
  positive : ∀ amount ∈ order.payments, 0 < amount
  fits : order.paidVnd ≤ maxSettlementVnd
  within : order.paidVnd ≤ 2 * order.quotedTotalVnd
  unsettled : order.settlement = none → order.fixedFeeVnd = none ∧
    order.balance = if order.payments = [] then .unpaid else .partiallyPaid
  settled : order.settlement ≠ none → order.balance = .paid ∧
    wholeVnd (order.fixedFeeVnd.getD 0) ∧
    order.paidVnd = order.quotedTotalVnd + order.fixedFeeVnd.getD 0

section

variable {order order' : Order}

lemma Inv.paid_whole (h : Inv order) : wholeVnd order.paidVnd :=
  ⟨List.sum_nonneg fun a ha => le_of_lt (h.positive a ha), h.fits⟩

lemma storageFeeAt_unsettled (h : Inv order) (hs : order.settlement = none) {moment : Int} :
    (∀ fee, order.storageFeeAt moment = .ok fee →
      fee.alreadyPaidVnd = max 0 (order.paidVnd - order.quotedTotalVnd) ∧
      fee.alreadyPaidVnd ≤ fee.amountVnd ∧ 0 ≤ fee.amountVnd ∧
      fee.amountVnd ≤ order.quotedTotalVnd) ∧
    (ClockReads order moment → ∃ fee, order.storageFeeAt moment = .ok fee) := by
  have hfixed := (h.unsettled hs).1
  have hpaid := h.paid_whole
  have halready : feeAlreadyPaid order.paidVnd (some order.quotedTotalVnd) =
      .ok (max 0 (order.paidVnd - order.quotedTotalVnd)) := by
    simp [feeAlreadyPaid, hpaid, h.total, require]
  simp only [Order.storageFeeAt, orderStorageFee, hfixed, hs, Option.isSome_none, Bool.false_eq_true,
    if_false, halready, ok_bind]
  constructor
  · intro fee hfee
    rw [bind_ok] at hfee
    obtain ⟨owedNow, howed, hfee⟩ := hfee
    have hamount := unfixedStorageFee_amount h.total.1 howed
    have hwithin := h.within
    have htotal := h.total.1
    split_ifs at hfee with hlt
    · cases hfee
      refine ⟨rfl, le_refl _, le_max_left _ _, ?_⟩
      show max _ _ ≤ _
      omega
    · cases hfee
      exact ⟨rfl, not_lt.mp hlt, hamount⟩
  · intro hreads
    obtain ⟨owedNow, howed⟩ := unfixedStorageFee_reads h.total hreads
      (storageClock order.commercial order.production order.productionResumeStatus
        order.fulfillmentMode order.selfCollectionRecorded)
    rw [howed]
    exact ⟨_, rfl⟩

lemma storageFeeAt_settled (hs : order.settlement ≠ none) (moment : Int) :
    order.storageFeeAt moment = .ok ⟨.fixed, order.fixedFeeVnd.getD 0, none, 0⟩ := by
  have hsome : order.settlement.isSome = true := Option.isSome_iff_ne_none.mpr hs
  cases hf : order.fixedFeeVnd <;> simp [Order.storageFeeAt, orderStorageFee, hf, hsome]

lemma sum_ledgered {accepted : PaymentAccepted} (h : 0 ≤ accepted.amountVnd) :
    (ledgered order accepted).sum = order.paidVnd + accepted.amountVnd := by
  unfold ledgered
  split_ifs with hpos
  · simp [Order.paidVnd]
  · have : accepted.amountVnd = 0 := le_antisymm (not_lt.mp hpos) h
    rw [this, Int.add_zero]
    rfl

lemma positive_ledgered (h : Inv order) (accepted : PaymentAccepted) :
    ∀ amount ∈ ledgered order accepted, 0 < amount := by
  unfold ledgered
  split_ifs with hpos
  · intro amount hamount
    rcases List.mem_append.mp hamount with hold | hnew
    · exact h.positive amount hold
    · rw [List.mem_singleton.mp hnew]
      exact hpos
  · exact h.positive

lemma record_ok (h : Inv order) {command : PaymentCommand} (hok : record order command = .ok order') :
    order.settlement = none ∧ ∃ fee accepted, order.storageFeeAt command.recordedAt = .ok fee ∧
      0 ≤ accepted.amountVnd ∧ accepted.amountVnd = command.amountVnd ∧
      ((accepted.balanceAfter = .partiallyPaid ∧ 0 < accepted.amountVnd ∧
          order.paidVnd + accepted.amountVnd ≤ order.quotedTotalVnd + fee.amountVnd ∧
          order' = writePartial order accepted) ∨
        (accepted.balanceAfter = .paid ∧
          order.paidVnd + accepted.amountVnd = order.quotedTotalVnd + fee.amountVnd ∧
          ∃ shape, order' = writeSettling order accepted fee.amountVnd shape)) := by
  simp only [record, bind_ok, mapError_ok] at hok
  obtain ⟨fee, hfee, charges, hcharges, outcome, houtcome, hok⟩ := hok
  split at hok
  · cases hok
  next accepted =>
  obtain ⟨hbalance, cs, owed, rfl, howed, htake⟩ := evaluatePayment_accepted houtcome
  obtain ⟨-, cs', hcs, howed'⟩ := owedCharges_ok h.total hcharges
  cases hcs
  rw [howed] at howed'
  cases howed'
  obtain ⟨hnonneg, hamount, -, hafter, hcases⟩ := takeAmount_accepted htake
  have hs : order.settlement = none := by
    by_contra hs
    rw [(h.settled hs).1] at hbalance
    cases hbalance with | tail _ hb => cases hb with | tail _ hb => cases hb
  refine ⟨hs, fee, accepted, hfee, hnonneg, hamount, ?_⟩
  rcases hcases with ⟨hpaid, hfull⟩ | ⟨hsplit, hpos, hle⟩
  · refine .inr ⟨hpaid, hafter ▸ hfull, ?_⟩
    simp only [PaymentAccepted.completes, hpaid, decide_true, if_true, bind_ok] at hok
    obtain ⟨shape, -, hok⟩ := hok
    cases hok
    exact ⟨shape, rfl⟩
  · refine .inl ⟨hsplit, hpos, hafter ▸ hle, ?_⟩
    simp only [PaymentAccepted.completes, hsplit, reduceCtorEq, decide_false, Bool.false_eq_true,
      if_false] at hok
    cases hok
    rfl

/-- A payment that is offered does not take the ledger beyond the bound, or takes it
beyond all that the order can ever owe. -/
def Fits (order : Order) : Step → Prop
  | .pay command => maxSettlementVnd < order.paidVnd + command.amountVnd →
      2 * order.quotedTotalVnd < order.paidVnd + command.amountVnd
  | _ => True

lemma inv_record (h : Inv order) {command : PaymentCommand} (hok : record order command = .ok order')
    (hfits : Fits order (.pay command)) : Inv order' := by
  obtain ⟨hs, fee, accepted, hfee, hnonneg, hamount, hcases⟩ := record_ok h hok
  obtain ⟨-, -, hfee₀, hfee₁⟩ := (storageFeeAt_unsettled h hs).1 fee hfee
  have hpositive := positive_ledgered h accepted
  have hsum := @sum_ledgered order accepted hnonneg
  have hle : order.paidVnd + accepted.amountVnd ≤ order.quotedTotalVnd + fee.amountVnd := by
    rcases hcases with ⟨-, -, hle, -⟩ | ⟨-, heq, -⟩
    · exact hle
    · exact le_of_eq heq
  have hwithin : (ledgered order accepted).sum ≤ 2 * order.quotedTotalVnd := by omega
  have hbound : (ledgered order accepted).sum ≤ maxSettlementVnd := by
    by_contra hover
    have := hfits (by omega)
    omega
  rcases hcases with ⟨hbalance, hpos, -, rfl⟩ | ⟨hbalance, hfull, shape, rfl⟩
  · refine ⟨h.total, hpositive, hbound, hwithin, fun _ => ⟨(h.unsettled hs).1, ?_⟩,
      fun hne => absurd hs hne⟩
    have hne : ledgered order accepted ≠ [] := by simp [ledgered, hpos]
    show accepted.balanceAfter = if ledgered order accepted = [] then _ else _
    rw [if_neg hne, hbalance]
  · refine ⟨h.total, hpositive, hbound, hwithin, (fun hne => by cases hne), fun _ => ?_⟩
    have hfixed : (writeSettling order accepted fee.amountVnd shape).fixedFeeVnd.getD 0 =
        fee.amountVnd := by
      simp only [writeSettling, (h.unsettled hs).1]
      split_ifs with hpos
      · rfl
      · exact le_antisymm hfee₀ (not_lt.mp hpos)
    rw [hfixed]
    exact ⟨hbalance, ⟨hfee₀, le_trans hfee₁ h.total.2⟩, hsum.trans hfull⟩

lemma waiveStorageFee_ok (h : Inv order) {moment : Int}
    (hok : waiveStorageFee order moment = .ok order') :
    order.settlement = none ∧ (order' = { order with waived := true } ∨
      ∃ effect shape, effect.keptVnd = max 0 (order.paidVnd - order.quotedTotalVnd) ∧
        order.paidVnd = order.quotedTotalVnd + effect.keptVnd ∧
        order' = writeWaiverSettlement order effect shape) := by
  simp only [waiveStorageFee, bind_ok, mapError_ok, require_ok] at hok
  obtain ⟨fee, hfee, -, -, -, -, effect, heffect, hok⟩ := hok
  cases effect with
  | none => cases hok
  | some effect =>
    simp only [waiverEffect] at heffect
    split at heffect
    · cases heffect
    next hstatus =>
    -- a settled order's fee is fixed, and a fixed fee is not waived
    have hs : order.settlement = none := by
      by_contra hs
      rw [storageFeeAt_settled hs] at hfee
      cases hfee
      simp at hstatus
    refine ⟨hs, ?_⟩
    have hkept := ((storageFeeAt_unsettled h hs).1 fee hfee).1
    simp only [bind_ok, require_ok] at heffect
    obtain ⟨-, -, -, -, heffect⟩ := heffect
    rw [Except.ok.injEq] at heffect
    split at heffect
    · cases heffect
    · rw [Option.some.injEq] at heffect
      subst heffect
      simp only at hok
      split at hok
      · next hsettles =>
        simp only [bind_ok, mapError_ok, require_ok] at hok
        obtain ⟨shape, -, -, -, hok⟩ := hok
        cases hok
        simp only [WaiverEffect.settles, decide_eq_true_eq] at hsettles
        exact .inr ⟨_, shape, hkept, by show _ = _ + fee.alreadyPaidVnd; omega, rfl⟩
      · cases hok
        exact .inl rfl

lemma inv_waive (h : Inv order) {moment : Int} (hok : waiveStorageFee order moment = .ok order') :
    Inv order' := by
  obtain ⟨hs, rfl | ⟨effect, shape, hkept, hpaid, rfl⟩⟩ := waiveStorageFee_ok h hok
  · exact ⟨h.total, h.positive, h.fits, h.within, h.unsettled, h.settled⟩
  · refine ⟨h.total, h.positive, h.fits, h.within, (fun hne => by cases hne), fun _ => ?_⟩
    have hfixed : (writeWaiverSettlement order effect shape).fixedFeeVnd.getD 0 =
        effect.keptVnd := by
      simp only [writeWaiverSettlement, (h.unsettled hs).1]
      split_ifs with hpos
      · rfl
      · exact le_antisymm (hkept ▸ le_max_left _ _) (not_lt.mp hpos)
    have hfits := h.fits
    have htotal := h.total.1
    refine ⟨rfl, ?_, hfixed ▸ hpaid⟩
    rw [hfixed]
    exact ⟨hkept ▸ le_max_left _ _, by omega⟩

lemma moveProduction_money {after : ProductionStatus} {resumeTo : Option ProductionStatus}
    {moment : Int} (hok : moveProduction order after resumeTo moment = .ok order') :
    order'.quotedTotalVnd = order.quotedTotalVnd ∧ order'.payments = order.payments ∧
      order'.settlement = order.settlement ∧ order'.fixedFeeVnd = order.fixedFeeVnd ∧
      order'.balance = order.balance := by
  unfold moveProduction at hok
  simp only at hok
  split at hok
  · cases hok
    exact ⟨rfl, rfl, rfl, rfl, rfl⟩
  · simp only [bind_ok, require_ok] at hok
    obtain ⟨-, -, hok⟩ := hok
    cases hok
    exact ⟨rfl, rfl, rfl, rfl, rfl⟩
  · simp only [bind_ok, require_ok] at hok
    obtain ⟨-, -, hok⟩ := hok
    cases hok
    exact ⟨rfl, rfl, rfl, rfl, rfl⟩

lemma inv_move (h : Inv order) {after : ProductionStatus} {resumeTo : Option ProductionStatus}
    {moment : Int} (hok : moveProduction order after resumeTo moment = .ok order') : Inv order' := by
  obtain ⟨htotal, hpayments, hsettlement, hfixed, hbalance⟩ := moveProduction_money hok
  have hpaid : order'.paidVnd = order.paidVnd := congrArg List.sum hpayments
  constructor
  · exact htotal ▸ h.total
  · exact hpayments ▸ h.positive
  · exact hpaid ▸ h.fits
  · rw [hpaid, htotal]
    exact h.within
  · rw [hsettlement, hfixed, hbalance, hpayments]
    exact h.unsettled
  · rw [hsettlement, hfixed, hbalance, hpaid, htotal]
    exact h.settled

lemma inv_apply (h : Inv order) {step : Step} (hfits : Fits order step) : Inv (apply order step) := by
  unfold apply
  split
  · next order' hok =>
    cases step with
    | move after resumeTo moment => exact inv_move h hok
    | publish policy =>
      cases hok
      exact ⟨h.total, h.positive, h.fits, h.within, h.unsettled, h.settled⟩
    | waive moment => exact inv_waive h hok
    | pay command => exact inv_record h hok hfits
  · exact h

lemma apply_paid (h : Inv order) (hpaid : order.balance = .paid) (step : Step) :
    (apply order step).balance = .paid ∧ (apply order step).payments = order.payments := by
  have hs : order.settlement ≠ none := by
    intro hs
    rw [(h.unsettled hs).2] at hpaid
    split at hpaid <;> cases hpaid
  unfold apply
  split
  · next order' hok =>
    cases step with
    | move after resumeTo moment =>
      obtain ⟨-, hpayments, -, -, hbalance⟩ := moveProduction_money hok
      exact ⟨hbalance.trans hpaid, hpayments⟩
    | publish policy =>
      cases hok
      exact ⟨hpaid, rfl⟩
    | waive moment => exact absurd (waiveStorageFee_ok h hok).1 hs
    | pay command => exact absurd (record_ok h hok).1 hs
  · exact ⟨hpaid, rfl⟩

end

lemma run_append (order : Order) (steps steps' : List Step) :
    run order (steps ++ steps') = run (run order steps) steps' := List.foldl_append

def AllFit (order : Order) (steps : List Step) : Prop :=
  ∀ pre step post, steps = pre ++ step :: post → Fits (run order pre) step

lemma allFit_nil (order : Order) : AllFit order [] := by
  intro pre step post h
  simp at h

lemma allFit_cons {order : Order} {step : Step} {steps : List Step} :
    AllFit order (step :: steps) ↔ Fits order step ∧ AllFit (apply order step) steps := by
  constructor
  · intro h
    refine ⟨h [] step steps rfl, fun pre step' post hsteps => ?_⟩
    exact h (step :: pre) step' post (by rw [hsteps, List.cons_append])
  · rintro ⟨hstep, hrest⟩ pre step' post hsteps
    cases pre with
    | nil =>
      cases hsteps
      exact hstep
    | cons first pre =>
      cases hsteps
      exact hrest pre step' post rfl

lemma inv_run {order : Order} (h : Inv order) {steps : List Step} (hfits : AllFit order steps) :
    Inv (run order steps) := by
  induction steps generalizing order with
  | nil => exact h
  | cons step steps ih =>
    obtain ⟨hstep, hrest⟩ := allFit_cons.mp hfits
    exact ih (inv_apply h hstep) hrest

lemma run_paid {order : Order} (h : Inv order) {steps : List Step} (hfits : AllFit order steps)
    (hpaid : order.balance = .paid) :
    (run order steps).balance = .paid ∧ (run order steps).payments = order.payments := by
  induction steps generalizing order with
  | nil => exact ⟨hpaid, rfl⟩
  | cons step steps ih =>
    obtain ⟨hstep, hrest⟩ := allFit_cons.mp hfits
    obtain ⟨hbalance, hpayments⟩ := apply_paid h hpaid step
    obtain ⟨hb, hp⟩ := ih (inv_apply h hstep) hrest hbalance
    exact ⟨hb, hp.trans hpayments⟩

/-- The order as it is taken in: a single total, and no money yet. -/
structure Opening (order : Order) : Prop where
  total : wholeVnd order.quotedTotalVnd
  balance : order.balance = .unpaid
  payments : order.payments = []
  settlement : order.settlement = none
  fixedFee : order.fixedFeeVnd = none

lemma inv_opening {order : Order} (h : Opening order) : Inv order := by
  have htotal := h.total.1
  refine ⟨h.total, by simp [h.payments], ?_, ?_, fun _ => ⟨h.fixedFee, ?_⟩,
    fun hne => absurd h.settlement hne⟩
  · simp [Order.paidVnd, h.payments, maxSettlementVnd]
  · simp [Order.paidVnd, h.payments, htotal]
  · simp [h.balance, h.payments]

/-- The money of an order is in order: at every moment its ledger is within what it
owes and can be stated; it reads unpaid or partly paid as its ledger says until it is
settled; and once paid it owes exactly what it was paid. -/
structure Sound (order : Order) : Prop where
  reads : ∀ moment, ClockReads order moment → ∃ fee, order.storageFeeAt moment = .ok fee
  covered : ∀ moment fee, order.storageFeeAt moment = .ok fee →
    order.paidVnd ≤ order.quotedTotalVnd + fee.amountVnd
  stated : ∀ moment fee, order.storageFeeAt moment = .ok fee →
    ∃ position, order.positionAt moment = .ok position
  open_unpaid : order.settlement = none → (order.balance = .unpaid ↔ order.payments = [])
  open_partial : order.settlement = none → order.payments ≠ [] → order.balance = .partiallyPaid
  paid_full : order.balance = .paid →
    order.paidVnd = order.quotedTotalVnd + order.fixedFeeVnd.getD 0
  paid_after : order.balance = .paid → ∀ moment, ∃ fee, order.storageFeeAt moment = .ok fee ∧
    order.quotedTotalVnd + fee.amountVnd = order.paidVnd

lemma Inv.sound {order : Order} (h : Inv order) : Sound order := by
  have hpaid : order.balance = .paid → order.settlement ≠ none := by
    intro hb hs
    rw [(h.unsettled hs).2] at hb
    split at hb <;> cases hb
  have hfee : ∀ moment fee, order.storageFeeAt moment = .ok fee →
      wholeVnd fee.amountVnd ∧ order.paidVnd ≤ order.quotedTotalVnd + fee.amountVnd := by
    intro moment fee hfee
    by_cases hs : order.settlement = none
    · obtain ⟨hkept, hle, hnonneg, htotal⟩ := (storageFeeAt_unsettled h hs).1 fee hfee
      exact ⟨⟨hnonneg, le_trans htotal h.total.2⟩, by omega⟩
    · rw [storageFeeAt_settled hs] at hfee
      cases hfee
      obtain ⟨-, hwhole, heq⟩ := h.settled hs
      exact ⟨hwhole, le_of_eq heq⟩
  constructor
  · intro moment hreads
    by_cases hs : order.settlement = none
    · exact (storageFeeAt_unsettled h hs).2 hreads
    · exact ⟨_, storageFeeAt_settled hs moment⟩
  · exact fun moment fee hok => (hfee moment fee hok).2
  · intro moment fee hok
    obtain ⟨hwhole, hle⟩ := hfee moment fee hok
    obtain ⟨charges, hcharges⟩ := owedCharges_whole h.total hwhole
    obtain ⟨-, cs, rfl, howed⟩ := owedCharges_ok h.total hcharges
    simp only [Order.positionAt, hok, ok_bind, Order.quoted, hcharges, paymentPosition]
    rw [require_true h.paid_whole, ok_bind, howed, ok_bind, require_true hle]
    exact ⟨_, rfl⟩
  · intro hs
    rw [(h.unsettled hs).2]
    by_cases hempty : order.payments = [] <;> simp [hempty]
  · intro hs hne
    rw [(h.unsettled hs).2, if_neg hne]
  · exact fun hb => (h.settled (hpaid hb)).2.2
  · exact fun hb moment => ⟨_, storageFeeAt_settled (hpaid hb) moment, (h.settled (hpaid hb)).2.2.symm⟩

/-- In every run whose payments keep the ledger within the bound, the money of the
order is in order in every state reached, and stays as it is once the order is paid. -/
theorem order_owes_what_it_was_paid {order : Order} (h : Opening order) {steps : List Step}
    (hfits : AllFit order steps) :
    ∀ pre post, steps = pre ++ post → Sound (run order pre) ∧
      ((run order pre).balance = .paid → (run order steps).balance = .paid ∧
        (run order steps).payments = (run order pre).payments) := by
  intro pre post hsteps
  have hpre : AllFit order pre := fun a step b hab =>
    hfits a step (b ++ post) (by rw [hsteps, hab, List.append_assoc, List.cons_append])
  have hpost : AllFit (run order pre) post := by
    intro a step b hab
    have := hfits (pre ++ a) step b (by rw [hsteps, hab, List.append_assoc])
    rw [run_append] at this
    exact this
  have hinv := inv_run (inv_opening h) hpre
  refine ⟨hinv.sound, fun hpaid => ?_⟩
  rw [hsteps, run_append]
  exact run_paid hinv hpost hpaid

/-- Laundry on the shelf since the day `1000`, under a policy of one free day. -/
def shelved (quotedTotalVnd : Int) : Order where
  quotedTotalVnd := quotedTotalVnd
  commercial := .active
  production := .readyAtStore
  productionResumeStatus := none
  fulfillmentMode := .selfDropSelfCollect
  selfCollectionRecorded := false
  productionReadyAt := some (1000 * dayMicros)
  storageHolds := []
  storagePolicy := some ⟨1, 1000000, 100, by decide, by decide, by decide⟩
  waived := false
  balance := .unpaid
  payments := []
  settlement := none
  fixedFeeVnd := none

/-- Cash on the day `1003`. -/
def cash (amountVnd : Int) : Step :=
  .pay ⟨amountVnd, .tienMat, false, none, false, 1003 * dayMicros⟩

/-- The quoted total, then two days' fee: the order is paid, and owes what it was paid. -/
theorem order_owes_what_it_was_paid_shelved :
    (run (shelved 100000000) [cash 100000000, cash 2000000]).balance = .paid ∧
      Sound (run (shelved 100000000) [cash 100000000, cash 2000000]) := by
  have hfits : AllFit (shelved 100000000) [cash 100000000, cash 2000000] := by
    refine allFit_cons.mpr ⟨?_, allFit_cons.mpr ⟨?_, allFit_nil _⟩⟩
    · show maxSettlementVnd < (shelved 100000000).paidVnd + 100000000 → _
      exact fun hover => absurd hover (by decide)
    · show maxSettlementVnd < (apply (shelved 100000000) (cash 100000000)).paidVnd + 2000000 → _
      exact fun hover => absurd hover (by decide)
  refine ⟨by decide, ?_⟩
  exact (order_owes_what_it_was_paid ⟨by decide, rfl, rfl, rfl, rfl⟩ hfits _ []
    (List.append_nil _).symm).1

/-- A total at the bound and one đồng of its fee: neither the fee nor the position of
the order can be read any more. -/
theorem order_ledger_beyond_bound :
    ∃ steps, Opening (shelved maxSettlementVnd) ∧
      (∃ moment e, ClockReads (run (shelved maxSettlementVnd) steps) moment ∧
        (run (shelved maxSettlementVnd) steps).storageFeeAt moment = .error (.valueError e) ∧
        ∀ charges, ∃ e, paymentPosition charges (run (shelved maxSettlementVnd) steps).paidVnd =
          .error (.valueError e)) ∧
      ¬ Sound (run (shelved maxSettlementVnd) steps) := by
  have hreads : ClockReads (run (shelved maxSettlementVnd) [cash maxSettlementVnd, cash 1])
      (1003 * dayMicros) := by
    intro ready hready paused
    have hat : (run (shelved maxSettlementVnd) [cash maxSettlementVnd, cash 1]).productionReadyAt =
      some (1000 * dayMicros) := by decide
    rw [hat] at hready
    cases hready
    cases paused <;> exact ⟨3, by decide⟩
  have hfee : (run (shelved maxSettlementVnd) [cash maxSettlementVnd, cash 1]).storageFeeAt
      (1003 * dayMicros) = .error (.valueError "amounts are non-negative whole numbers of đồng") := by
    decide
  have hpaid : ¬ wholeVnd (run (shelved maxSettlementVnd)
      [cash maxSettlementVnd, cash 1]).paidVnd := by decide
  refine ⟨[cash maxSettlementVnd, cash 1], ⟨by decide, rfl, rfl, rfl, rfl⟩, ?_, fun hsound => ?_⟩
  · refine ⟨_, _, hreads, hfee, fun charges => ?_⟩
    simp only [paymentPosition, require_false hpaid, error_bind]
    exact ⟨_, rfl⟩
  · obtain ⟨fee, hok⟩ := hsound.reads _ hreads
    rw [hfee] at hok
    cases hok

end NhaTrangLaundry.Db.Payments
