import NhaTrangLaundry.Db.Disposals
import NhaTrangLaundry.Db.HandedOver

/-! What an order keeps of its money until its laundry is disposed of, and what the disposal does:
the two transitions, the balance, and the figures of the record. -/

namespace NhaTrangLaundry.Db.Disposals

open Lib Outcome Sorting Newest Domain Catalog Canonical Settlement Unclaimed CancellationMoney
open Domain.Orders Domain.Payments Db.Orders

variable {row row' : OrderRow}

def Leaves (row : OrderRow) : Prop :=
  row.state.selfCollectionRecorded = true ∨ row.state.fulfillmentMode ∈ modesExpectingReturn

/-- The ledger covers the quoted total and the fee that was fixed, and nothing more. -/
def Covered (row : OrderRow) : Prop :=
  ∃ total, row.quotedTotal = ⟨some total, some total⟩ ∧ 0 ≤ total ∧ 0 ≤ row.fixedFeeVnd.getD 0 ∧
    row.payments.sum = total + row.fixedFeeVnd.getD 0

def PaidCovered (row : OrderRow) : Prop :=
  row.state.balance = .paid → Leaves row ∨ Covered row

lemma PaidCovered.transition {command : TransitionCommand} (h : PaidCovered row)
    (happly : applyLockedTransition row command = .ok row') : PaidCovered row' := by
  obtain ⟨hself, -, hmode⟩ := flags_transition happly
  obtain ⟨next, refund, holds, hdecide, -, -, rfl⟩ := applyLockedTransition_ok happly
  intro hpaid
  have hbalance : row.state.balance = .paid := by
    rcases balance_decide hdecide with hkept | ⟨-, hrefunded⟩
    · exact hkept.symm.trans hpaid
    · cases hpaid.symm.trans hrefunded
  rcases h hbalance with hleaves | hcovered
  · left
    rw [Leaves, hself, hmode]
    exact hleaves
  · exact .inr hcovered

lemma PaidCovered.executePlan {chain : Option Int} {occurredAt : Datetime} {index : Nat}
    {plan : List OrderSteps.PlannedTransition} (h : PaidCovered row)
    (hexecute : executePlan chain occurredAt index row plan = .ok row') : PaidCovered row' := by
  induction plan generalizing index row with
  | nil =>
    cases hexecute
    exact h
  | cons planned plan ih =>
    obtain ⟨moment, -, hexecute⟩ := bind_ok.mp hexecute
    obtain ⟨row₁, h₁, hexecute⟩ := bind_ok.mp hexecute
    exact ih (h.transition h₁) hexecute

lemma covered_settle (hopen : OpenMoney row) {paid moment : Int} {collected : Bool}
    (h : settle row paid collected moment = .ok row') : Covered row' := by
  obtain ⟨_, -, h⟩ := bind_ok.mp h
  obtain ⟨_, -, h⟩ := bind_ok.mp h
  obtain ⟨_, hunpaid, h⟩ := bind_ok.mp h
  obtain ⟨fee, -, h⟩ := bind_ok.mp h
  obtain ⟨_, -, h⟩ := bind_ok.mp h
  obtain ⟨shape, heval, h⟩ := bind_ok.mp h
  obtain ⟨_, -, h⟩ := bind_ok.mp h
  cases h
  rw [require_ok] at hunpaid
  rw [mapError_ok] at heval
  obtain ⟨hwhole, hquoted, -, -⟩ := evaluateSettlement_ok heval
  have hfixed : row.fixedFeeVnd = none := (hopen.payable (by rw [hunpaid]; decide)).2
  have hledger : row.payments = [] := hopen.unpaid hunpaid
  refine ⟨paid, hquoted, hwhole.1, ?_, ?_⟩
  · rw [writeSettlement, hfixed]
    exact le_refl 0
  · rw [writeSettlement, hfixed, hledger]
    dsimp only
    split_ifs with hpos
    · simp
    · have hzero := hwhole.1
      simp only [List.sum_nil, Option.getD_none]
      omega

lemma storageFeeAt_nonneg {till : Payments.Order} {moment : Int} {storage : OrderStorageFee}
    (hsettlement : till.settlement = none) (hfixed : till.fixedFeeVnd = none)
    (h : till.storageFeeAt moment = .ok storage) :
    0 ≤ till.quotedTotalVnd ∧ 0 ≤ storage.amountVnd := by
  obtain ⟨owedNow, already, hnow, halready, -, hcases⟩ := storageFeeAt_open hsettlement hfixed h
  have htotal : 0 ≤ till.quotedTotalVnd := ((feeAlreadyPaid_ok.mp halready).1.2 _ rfl).1
  refine ⟨htotal, ?_⟩
  rcases hcases with ⟨hsame, -⟩ | hsame
  · rw [hsame]
    exact feeAlreadyPaid_nonneg halready
  · rw [hsame]
    exact (Payments.unfixedStorageFee_amount htotal hnow).1

lemma covered_pay (hopen : OpenMoney row) {command : Payments.PaymentCommand}
    (h : takePayment row command = .ok row') : PaidCovered row' := by
  obtain ⟨till, till', htill, hrecord, rfl⟩ := takePayment_ok.mp h
  obtain ⟨hpayable, storage, hstorage, hcases⟩ := record_paid hrecord
  obtain ⟨hquoted, -, -, -, -, hbalance, -, hsettled, hfee, -⟩ := till_eq htill
  rw [hbalance] at hpayable
  obtain ⟨hsettlement, hfixed⟩ := hopen.payable hpayable
  obtain ⟨htotal, hnonneg⟩ :=
    storageFeeAt_nonneg (hsettled.trans hsettlement) (hfee.trans hfixed) hstorage
  intro hpaid
  rcases hcases with ⟨hnot, -⟩ | ⟨-, hwritten, -, hsum⟩
  · exact absurd hpaid hnot
  · have hgetD : till'.fixedFeeVnd.getD 0 = storage.amountVnd := by
      rw [hwritten, hfee, hfixed]
      split_ifs with hpos
      · rfl
      · exact le_antisymm hnonneg (not_lt.mp hpos)
    refine .inr ⟨till.quotedTotalVnd, hquoted, htotal, hnonneg.trans_eq hgetD.symm, ?_⟩
    show till'.payments.sum = till.quotedTotalVnd + till'.fixedFeeVnd.getD 0
    rw [hgetD]
    exact hsum

lemma covered_waive (h : PaidCovered row) {moment : Int} (hwaive : waive row moment = .ok row') :
    PaidCovered row' := by
  obtain ⟨till, till', htill, hwaived, rfl⟩ := waive_ok.mp hwaive
  obtain ⟨hquoted, -, -, -, hself, hbalance, hpayments, hsettled, hfee, -⟩ := till_eq htill
  obtain ⟨storage, effect, hstorage, heffect, hcases⟩ := waiveStorageFee_cases hwaived
  intro hpaid
  rcases hcases with ⟨hsettles, shape, rfl⟩ | ⟨-, rfl⟩
  · obtain ⟨hstatus, halready, -, -, hremaining⟩ := waiverEffect_some heffect
    have hnotFixed : storage.status ≠ .fixed := by
      intro hfixed
      rw [hfixed] at hstatus
      simp at hstatus
    obtain ⟨-, hfixed⟩ := open_of_status hstorage hnotFixed
    have hkept := feeAlreadyPaid_nonneg halready
    have htotal : 0 ≤ till.quotedTotalVnd := ((feeAlreadyPaid_ok.mp halready).1.2 _ rfl).1
    have hzero : effect.remainingAfterVnd = 0 := of_decide_eq_true hsettles
    have hgetD : (if 0 < effect.keptVnd then some effect.keptVnd else till.fixedFeeVnd).getD 0 =
        effect.keptVnd := by
      rw [hfixed]
      split_ifs with hpos
      · rfl
      · exact le_antisymm hkept (not_lt.mp hpos)
    refine .inr ⟨till.quotedTotalVnd, hquoted, htotal, hkept.trans_eq hgetD.symm, ?_⟩
    show till.payments.sum = till.quotedTotalVnd + (if 0 < effect.keptVnd then some effect.keptVnd
      else till.fixedFeeVnd).getD 0
    rw [hgetD]
    have hsum : till.paidVnd = till.payments.sum := rfl
    omega
  · rcases h (hbalance.symm.trans hpaid) with hleaves | ⟨total, hsame, htotal, hnonneg, hsum⟩
    · left
      show till.selfCollectionRecorded = true ∨ row.state.fulfillmentMode ∈ modesExpectingReturn
      rw [hself]
      exact hleaves
    · refine .inr ⟨total, hsame, htotal, ?_, ?_⟩
      · show 0 ≤ till.fixedFeeVnd.getD 0
        rw [hfee]
        exact hnonneg
      · show till.payments.sum = total + till.fixedFeeVnd.getD 0
        rw [hpayments, hfee]
        exact hsum

lemma PaidCovered.attempt (h : PaidCovered row) (hopen : OpenMoney row) (hsound : Sound row)
    {command : Command} (hok : attempt row command = .ok row') : PaidCovered row' := by
  cases command with
  | transition command => exact h.transition hok
  | step step args chain =>
    obtain ⟨plan, -, hexecute⟩ := bind_ok.mp hok
    exact h.executePlan hexecute
  | settle paid collected attestedAt => exact fun _ => .inr (covered_settle hopen hok)
  | pay command => exact covered_pay hopen hok
  | collect =>
    rw [Orders.attempt, recordCollection] at hok
    split at hok
    · cases hok
    · obtain ⟨_, -, hok⟩ := bind_ok.mp hok
      cases hok
      exact fun _ => .inl (.inl rfl)
  | leg leg =>
    obtain ⟨-, -, -, -, -, rfl⟩ := recordLeg_ok.mp hok
    exact h
  | waive occurredAt => exact covered_waive h hok
  | charge standing collected moment =>
    obtain ⟨owed, accepted, -, -, rfl⟩ := chargeAccount_ok hok
    exact fun hpaid => by cases hpaid
  | accountPayment amount =>
    rw [Orders.attempt, allocate] at hok
    split at hok
    · cases hok
    obtain ⟨_, honAccount, hok⟩ := bind_ok.mp hok
    obtain ⟨_, -, hok⟩ := bind_ok.mp hok
    obtain ⟨_, -, hok⟩ := bind_ok.mp hok
    have hleaves : Leaves row := hsound.money.onAccount (require_ok.mp honAccount)
    split at hok
    · obtain ⟨shape, -, hok⟩ := bind_ok.mp hok
      cases hok
      exact fun _ => .inl hleaves
    · cases hok
      exact fun _ => .inl hleaves
  | dispose verdict chain occurredAt =>
    obtain ⟨-, _, _, reviewed, h₁, h₂⟩ := dispose_ok hok
    exact (h.transition h₁).transition h₂
  | publish policy =>
    cases hok
    exact h

lemma balance_unclaimed {balance balance' : OrderBalanceStatus}
    (h : balanceAfterCancellation balance (some .unclaimedDisposed) = .ok balance') :
    balance' = balance := by
  rcases balanceAfterCancellation_ok.mp h with ⟨hunpaid, hafter⟩ | ⟨-, -, hsame⟩ |
    ⟨⟨resolution, ⟨⟩, hmem⟩, -, -⟩
  · exact hafter.trans hunpaid.symm
  · exact hsame
  · simp [customerNotChargedResolutions] at hmem

lemma transition_keeps_rest {target : CommercialOrderStatus} {resolution : Option CustodyResolution}
    {chain : Option Int} {moment : Datetime}
    (h : applyLockedTransition row (disposalCommand target resolution chain moment) = .ok row') :
    ∃ next, CommercialMove row.state (.of resolution resolution.isSome) target next ∧
      row' = { row with state := next } := by
  obtain ⟨next, hnext, h⟩ := bind_ok.mp h
  obtain ⟨refund, hrefund, h⟩ := bind_ok.mp h
  obtain ⟨netted, -, h⟩ := bind_ok.mp h
  obtain ⟨holds, hholds, h⟩ := bind_ok.mp h
  obtain ⟨hdomain, hrefunding⟩ := decideTransition_ok.mp (mapError_ok.mp hnext)
  have hnot : ¬ refunding row.state next := fun hr => hrefunding.mp hr rfl
  rw [refundOf, if_neg hnot] at hrefund
  cases hrefund
  have hmove : storageHoldMove row next (disposalCommand target resolution chain moment) = none := rfl
  rw [holdsAfter, hmove] at hholds
  cases hholds
  have hready : readyAtAfter row next (disposalCommand target resolution chain moment) =
      row.productionReadyAt := by
    cases hstamp : row.productionReadyAt <;>
      simp [readyAtAfter, readyClockEffect, movesProduction, disposalCommand, hstamp]
  rw [hready] at h
  cases h
  exact ⟨next, (transitionCommercial_ok.mp hdomain).2, rfl⟩

lemma dispose_closes {verdict : Bool} {chain : Option Int} {occurredAt : Datetime}
    (h : Orders.dispose row verdict chain occurredAt = .ok row') :
    row' = { row with state := { row.state with commercial := .cancelled } } := by
  obtain ⟨-, first, second, reviewed, h₁, h₂⟩ := dispose_ok h
  obtain ⟨next, hmove, rfl⟩ := transition_keeps_rest h₁
  obtain ⟨closed, hclose, rfl⟩ := transition_keeps_rest h₂
  have hnext : next = { row.state with commercial := .cancellationReview } := by
    cases hmove
    rfl
  subst hnext
  cases hclose with
  | cancelReviewed _ _ _ hbalance =>
    rw [balance_unclaimed hbalance]
  | cancelDirect _ hreview => exact absurd rfl hreview
  | advance _ hcancel => exact absurd rfl hcancel

/-- What a disposal did to an order, and what its record says. -/
structure Closed (order : UnclaimedOrder) (asOf : Int) (row : OrderRow) (d : OrderDisposal) :
    Prop where
  justified : order.Justified asOf
  closed : row = { order.row with state := { order.row.state with commercial := .cancelled } }
  kept : d.money.keptVnd = order.row.payments.sum
  writtenOff : d.money.keptVnd + d.money.writtenOffVnd = d.money.owedVnd ∧ 0 ≤ d.money.writtenOffVnd
  owed : ∃ total fee, order.quotedTotalVnd = some total ∧ order.storageFeeAt asOf = .ok fee ∧
    d.money.owedVnd = total + fee.amountVnd ∧ d.storageFeeVnd = fee.amountVnd
  paid : order.row.state.balance = .paid → d.money.writtenOffVnd = 0

lemma owed_of_paid {order : UnclaimedOrder} (h : PaidCovered order.row) (hsound : Orders.Sound order.row)
    (hpaid : order.row.state.balance = .paid) (hawaiting : order.clock = .running) {asOf total : Int}
    (htotal : order.quotedTotalVnd = some total) {fee : OrderStorageFee}
    (hfee : order.storageFeeAt asOf = .ok fee) : total + fee.amountVnd = order.row.payments.sum := by
  have hshelf := clock_running.mp hawaiting
  simp only [awaitingPickup, Bool.and_eq_true, decide_eq_true_eq, Bool.not_eq_true'] at hshelf
  obtain ⟨⟨⟨-, -⟩, hself⟩, hmode⟩ := hshelf
  rcases h hpaid with (hcollected | hreturns) | ⟨quoted, hquoted, -, -, hsum⟩
  · exact absurd (hself.symm.trans hcollected) Bool.false_ne_true
  · exact absurd hreturns hmode
  · have hsame : total = quoted := by
      rw [UnclaimedOrder.quotedTotalVnd, hquoted] at htotal
      simpa using htotal.symm
    have hsettled : order.row.settlement.isSome = true :=
      Option.isSome_iff_ne_none.mpr (hsound.money.paid hpaid)
    have hamount : fee.amountVnd = order.row.fixedFeeVnd.getD 0 := by
      rw [UnclaimedOrder.storageFeeAt, orderStorageFee.eq_def, hsettled] at hfee
      cases hfixed : order.row.fixedFeeVnd with
      | some fixed =>
        rw [hfixed] at hfee
        cases hfee
        rfl
      | none =>
        rw [hfixed] at hfee
        cases hfee
        rfl
    rw [hsame, hamount, hsum]

lemma dispose_closed {order : UnclaimedOrder} (h : PaidCovered order.row)
    (hsound : Orders.Sound order.row) {occurredAt : Datetime} {d : OrderDisposal}
    (hdispose : dispose order occurredAt = .ok (row, d)) :
    Closed order occurredAt.instant row d := by
  obtain ⟨fee, hfee, hdispose⟩ := bind_ok.mp hdispose
  obtain ⟨verdict, hverdict, hdispose⟩ := bind_ok.mp hdispose
  obtain ⟨_, hallowed, hdispose⟩ := bind_ok.mp hdispose
  obtain ⟨total, htotal, hdispose⟩ := bind_ok.mp hdispose
  obtain ⟨money, hmoney, hdispose⟩ := bind_ok.mp hdispose
  obtain ⟨_, hchecked, hdispose⟩ := bind_ok.mp hdispose
  obtain ⟨closed, hclosed, hdispose⟩ := bind_ok.mp hdispose
  cases hdispose
  rw [mapError_ok] at hfee hverdict hmoney hclosed
  rw [require_ok] at hallowed hchecked
  rw [ofOption_ok] at htotal
  obtain ⟨_, -, hmoney⟩ := bind_ok.mp hmoney
  obtain ⟨_, -, hmoney⟩ := bind_ok.mp hmoney
  cases hmoney
  have hjustified := (disposeVerdict_allows.mp ⟨verdict, hverdict, hallowed⟩).1
  exact {
    justified := hjustified
    closed := dispose_closes hclosed
    kept := rfl
    writtenOff := by
      obtain ⟨-, -, -, -, -, -, -, -, hwritten, hsum⟩ := hchecked
      exact ⟨hsum, hwritten⟩
    owed := ⟨total, fee, htotal, hfee, rfl, rfl⟩
    paid := by
      intro hpaid
      have howed := owed_of_paid h hsound hpaid hjustified.1 htotal hfee
      show total + fee.amountVnd - order.paidVnd = 0
      rw [howed, UnclaimedOrder.paidVnd, sub_self] }

/-- What the run of an order keeps for its disposal. -/
structure Kept (row : OrderRow) : Prop where
  sound : Orders.Sound row
  openMoney : OpenMoney row
  covered : PaidCovered row

lemma Kept.apply (h : Kept row) (command : Command) : Kept (Orders.apply row command) where
  sound := h.sound.run [command]
  openMoney := run_induction (fun _ _ hkept hchange => hkept.change hchange) h.openMoney [command]
  covered := by
    unfold Orders.apply
    split
    · next row' hok => exact h.covered.attempt h.openMoney h.sound hok
    · exact h.covered

lemma Kept.run (h : Kept row) (commands : List Command) : Kept (Orders.run row commands) := by
  unfold Orders.run
  induction commands generalizing row with
  | nil => exact h
  | cons command commands ih => exact ih (h.apply command)

lemma kept_created (mode : FulfillmentMode) (quoted : QuotedTotal)
    (readiness : OrderSteps.QuoteReadinessFacts) (policy : Option StoragePolicy) :
    Kept (.created mode quoted readiness policy) where
  sound := sound_created mode quoted readiness policy
  openMoney := openMoney_created mode quoted readiness policy
  covered := fun hpaid => by cases hpaid

lemma Closed.stays {order : UnclaimedOrder} {asOf : Int} {d : OrderDisposal}
    (h : Closed order asOf row d) (later : List Command) :
    SameAxes row.state (Orders.run row later).state := by
  refine closed_run ?_ later
  rw [h.closed]
  exact List.mem_of_elem_eq_true rfl

/-- The verdict on an order of any run follows its whole record, read by the newest attempts; the
waiting list shows that verdict; and a disposal closes the order for good, keeps what was paid and
writes off the rest of what was owed, which for a paid order is nothing. -/
theorem disposal_follows_record (mode : FulfillmentMode) (quoted : QuotedTotal)
    (readiness : OrderSteps.QuoteReadinessFacts) (policy : Option StoragePolicy) (commands : List Command)
    (order : UnclaimedOrder)
    (horder : order.row = Orders.run (.created mode quoted readiness policy) commands) :
    (∀ asOf, Allows (order.disposeVerdict asOf) ↔ order.Justified asOf ∧
      ∀ policy ∈ order.policy, policy.disposalMinAttemptDays ≤ order.daysRead) ∧
    (∀ asOf verdict, order.clock = .running →
      (order.listVerdict asOf = .ok verdict ↔ order.disposeVerdict asOf = .ok verdict)) ∧
    ∀ occurredAt row d, dispose order occurredAt = .ok (row, d) →
      Closed order occurredAt.instant row d ∧
        ∀ later, SameAxes row.state (Orders.run row later).state := by
  have hkept : Kept order.row := by
    rw [horder]
    exact (kept_created mode quoted readiness policy).run commands
  refine ⟨fun _ => disposeVerdict_allows, fun _ _ hclock => listVerdict_ok hclock, ?_⟩
  intro occurredAt row d hdispose
  have hclosed := dispose_closed hkept.covered hkept.sound hdispose
  exact ⟨hclosed, hclosed.stays⟩

def shelfClock (n : Fin 20) : Datetime :=
  .ofUtc (730119 * dayMicros + n * dayMicros) (by
    have hlt := n.isLt
    revert n
    decide)

def shelfPolicy : DisposalPolicy where
  freeDays := 2
  feePerStartedDayVnd := 5000
  feeCapPercent := 90
  freeDays_range := by decide
  fee_range := by decide
  percent_range := by decide
  disposalFromDay := 5
  disposalMinAttempts := 2
  disposalMinAttemptDays := 2
  fromDay_range := by decide
  attempts_range := by decide
  attemptDays_range := by decide
  afterFreeDays := by decide
  daysNeedAttempts := by decide

def shelfStep (step : OrderSteps.OrderStep) : Command :=
  .step step ⟨true, none, shelfClock 0, none, none, none⟩ (some 0)

def shelfRun : List Command :=
  [shelfStep .receive, shelfStep .startWash, shelfStep .qualityCheck, shelfStep .markReady]

def shelfRow : OrderRow :=
  Orders.run (.created .selfDropSelfCollect ⟨some 100000, some 100000⟩ ⟨true, true, true, true⟩
    (some shelfPolicy.toStoragePolicy)) shelfRun

def shelfOrder : UnclaimedOrder where
  row := shelfRow
  policy := some shelfPolicy
  attempts := [⟨⟨1⟩, (shelfClock 2).instant⟩, ⟨⟨2⟩, (shelfClock 4).instant⟩]
  issuedFromOrder := []
  spentOnOrder := []
  published := rfl
  positive := by decide

/-- Laundry that was called about twice is disposed of on its seventh day. -/
theorem shelf_disposal_follows :
    ∃ row d, dispose shelfOrder (shelfClock 6) = .ok (row, d) ∧
      Closed shelfOrder (shelfClock 6).instant row d ∧ d.money.writtenOffVnd = 120000 := by
  have hok : (dispose shelfOrder (shelfClock 6)).toOption.map
      (fun disposed => disposed.2.money.writtenOffVnd) = some 120000 := by
    decide
  cases hdispose : dispose shelfOrder (shelfClock 6) with
  | error e =>
    rw [hdispose] at hok
    cases hok
  | ok disposed =>
    obtain ⟨row, d⟩ := disposed
    have hclosed := ((disposal_follows_record .selfDropSelfCollect ⟨some 100000, some 100000⟩
      ⟨true, true, true, true⟩ (some shelfPolicy.toStoragePolicy) shelfRun shelfOrder rfl).2.2
      (shelfClock 6) row d hdispose).1
    rw [hdispose] at hok
    exact ⟨row, d, rfl, hclosed, Option.some.inj hok⟩

end NhaTrangLaundry.Db.Disposals
