import NhaTrangLaundry.Db.GoodsLeave

/-! The axes of an order agree with each other, and with its money, after every command. -/

namespace NhaTrangLaundry.Db.Orders

open Lib Outcome Domain Catalog Settlement Unclaimed Handover Domain.Orders OrderSteps
open Domain.Payments

def workedCommercial : List CommercialOrderStatus := [.active, .cancellationReview, .completed]

structure AxesAgree (s : OrderState) : Prop where
  started : s.production ≠ .notStarted → s.intake = .accepted
  accepted : s.intake = .accepted → s.productionAcceptedAt ≠ none
  stopped : s.productionResumeStatus ≠ none ↔ s.production = .onHold ∨ s.production = .exception
  resume : ∀ status ∈ s.productionResumeStatus, status ∈ startedProduction
  worked : s.commercial ∈ workedCommercial → s.intake = .accepted
  opened : s.commercial ≠ .draft

/-- What the rows of an order say of its money and of its goods. -/
structure MoneyAgrees (row : OrderRow) : Prop where
  early : row.state.commercial ∉ workedCommercial → row.state.commercial ≠ .cancelled →
    row.state.balance = .unpaid
  known : row.state.balance ≠ .overpaid
  refunded : row.state.balance = .refunded → row.state.commercial = .cancelled
  paid : row.state.balance = .paid → row.settlement ≠ none
  partly : row.state.balance = .partiallyPaid → 0 < row.payments.sum
  positive : ∀ amount ∈ row.payments, 0 < amount
  onAccount : row.state.balance = .onAccount → row.state.selfCollectionRecorded = true ∨
    row.state.fulfillmentMode ∈ modesExpectingReturn
  arrived : row.state.requiredDeliveryLegsSucceeded = false →
    (⟨.return, .succeeded⟩ : DeliveryLeg) ∉ row.deliveryLegs
  dated : ∃ moment : Datetime, ∀ hold ∈ row.storageHolds, hold.heldAt ≤ moment.instant

lemma axesAgree_created (mode : FulfillmentMode) (quoted : QuotedTotal)
    (readiness : QuoteReadinessFacts) (policy : Option StoragePolicy) :
    AxesAgree (OrderRow.created mode quoted readiness policy).state := by
  constructor <;> simp [OrderRow.created, workedCommercial]

lemma moneyAgrees_created (mode : FulfillmentMode) (quoted : QuotedTotal)
    (readiness : QuoteReadinessFacts) (policy : Option StoragePolicy) :
    MoneyAgrees (.created mode quoted readiness policy) := by
  refine ⟨?_, ?_, ?_, ?_, ?_, ?_, ?_, ?_, Datetime.ofUtc 0 (by decide), ?_⟩ <;>
    simp [OrderRow.created]

section

variable {s s' : OrderState}

lemma AxesAgree.commercial {facts : CancellationFacts} {target : CommercialOrderStatus}
    (h : AxesAgree s) (hmove : CommercialMove s facts target s') : AxesAgree s' := by
  have hworked : target ∈ workedCommercial → s.intake = .accepted := by
    intro htarget
    cases hmove with
    | complete hactive => exact h.worked (by rw [hactive]; decide)
    | cancelReviewed => simp [workedCommercial] at htarget
    | cancelDirect => simp [workedCommercial] at htarget
    | advance hedge _ _ hintake =>
      by_cases ha : target = .active
      · exact hintake ha
      · -- the review is entered from active work only
        have hfrom : s.commercial = .active := by
          revert hedge htarget ha
          cases s.commercial <;> cases target <;> decide
        exact h.worked (by rw [hfrom]; decide)
  have hopened : target ≠ .draft := by
    cases hmove with
    | complete => decide
    | cancelReviewed => decide
    | cancelDirect => decide
    | advance hedge =>
      rintro rfl
      revert hedge
      cases s.commercial <;> decide
  rw [hmove.keeps]
  exact ⟨h.started, h.accepted, h.stopped, h.resume, hworked, hopened⟩

lemma AxesAgree.intake {readiness : Option IntakeReadiness} {acceptedAt : Option Datetime}
    {target : IntakeStatus} (h : AxesAgree s) (hopen : s.intake ≠ .accepted)
    (hmove : IntakeMove s readiness acceptedAt target s') : AxesAgree s' := by
  have hnot : s.production = .notStarted := by
    by_contra hp
    exact hopen (h.started hp)
  have hunworked : s.commercial ∉ workedCommercial := fun hw => hopen (h.worked hw)
  have haccepted : target = .accepted → s'.productionAcceptedAt ≠ none := by
    intro ht
    cases hmove with
    | reject => cases ht
    | advance _ _ _ hne => exact absurd ht hne
    | accept _ _ hmoment =>
      obtain ⟨d, hd, -⟩ := hmoment
      exact Option.ne_none_iff_exists'.mpr ⟨d, hd⟩
  rw [hmove.keeps]
  exact ⟨fun hp => absurd hnot hp, haccepted, h.stopped, h.resume, fun hw => absurd hw hunworked,
    h.opened⟩

lemma AxesAgree.production {target : ProductionStatus} (h : AxesAgree s)
    (haccepted : s.intake = .accepted) (hmove : ProductionMove s target s') : AxesAgree s' := by
  have hstopped : (s'.productionResumeStatus ≠ none ↔ target = .onHold ∨ target = .exception) ∧
      ∀ status ∈ s'.productionResumeStatus, status ∈ startedProduction := by
    cases hmove with
    | resumeHold _ hresume =>
      have hgoes : ¬ (target = .onHold ∨ target = .exception) := by
        have hstarted := h.resume _ hresume
        rintro (rfl | rfl) <;> simp [startedProduction] at hstarted
      exact ⟨by simpa using hgoes, by simp⟩
    | resolve _ _ hmember =>
      have hgoes : ¬ (target = .onHold ∨ target = .exception) := by
        rintro (rfl | rfl) <;> simp [productionSequence] at hmember
      exact ⟨by simpa using hgoes, by simp⟩
    | interrupt htarget hstarted =>
      refine ⟨by simp [htarget], ?_⟩
      simpa [startedProduction] using hstarted
    | advance hedge =>
      have hgoes : ¬ (target = .onHold ∨ target = .exception) := by
        rintro (rfl | rfl) <;> simp at hedge
      exact ⟨by simpa using hgoes, by simp⟩
  rw [hmove.keeps] at hstopped ⊢
  exact ⟨fun _ => haccepted, fun _ => h.accepted haccepted, hstopped.1, hstopped.2, h.worked, h.opened⟩

lemma AxesAgree.decide {command : TransitionCommand} (h : AxesAgree s)
    (hdecide : decideTransition s command = .ok s') : AxesAgree s' := by
  cases axisMove_of_decide hdecide with
  | commercial target _ hmove => exact h.commercial hmove
  | intake target _ _ hintake hmove => exact h.intake hintake.1 hmove
  | production target _ _ haccepted _ _ hmove => exact h.production haccepted hmove

end

variable {row row' : OrderRow}

lemma rows_transition {command : TransitionCommand}
    (happly : applyLockedTransition row command = .ok row') :
    row'.payments = row.payments ∧ row'.settlement = row.settlement ∧
      row'.deliveryLegs = row.deliveryLegs ∧
      ∀ moment : Datetime, (∀ hold ∈ row.storageHolds, hold.heldAt ≤ moment.instant) →
        ∃ moment' : Datetime, ∀ hold ∈ row'.storageHolds, hold.heldAt ≤ moment'.instant := by
  obtain ⟨next, refund, holds, -, hholds, -, rfl⟩ := applyLockedTransition_ok happly
  refine ⟨rfl, rfl, rfl, fun moment hmoment => ?_⟩
  unfold holdsAfter at hholds
  dsimp only at hholds ⊢
  split at hholds
  · obtain ⟨_, -, hholds⟩ := bind_ok.mp hholds
    cases hholds
    -- the new hold begins at the command's own moment
    rcases le_total moment.instant command.occurredAt.instant with hle | hle
    · refine ⟨command.occurredAt, fun hold hm => ?_⟩
      rcases List.mem_append.mp hm with hm | hm
      · exact (hmoment hold hm).trans hle
      · rw [List.mem_singleton.mp hm]
    · refine ⟨moment, fun hold hm => ?_⟩
      rcases List.mem_append.mp hm with hm | hm
      · exact hmoment hold hm
      · rw [List.mem_singleton.mp hm]
        exact hle
  · obtain ⟨_, -, hholds⟩ := bind_ok.mp hholds
    cases hholds
    refine ⟨moment, fun hold hm => ?_⟩
    unfold endHolds at hm
    obtain ⟨old, hold, rfl⟩ := List.mem_map.mp hm
    have := hmoment old hold
    split <;> exact this
  · cases hholds
    exact ⟨moment, hmoment⟩

lemma decide_open {s s' : OrderState} {command : TransitionCommand}
    (hdecide : decideTransition s command = .ok s') :
    s.commercial ∉ terminalCommercialStatuses := by
  cases axisMove_of_decide hdecide with
  | commercial target _ hmove =>
    intro hclosed
    cases hmove with
    | complete hactive => simp [hactive, terminalCommercialStatuses] at hclosed
    | cancelReviewed hreview => simp [hreview, terminalCommercialStatuses] at hclosed
    | cancelDirect hedge =>
      revert hclosed hedge
      cases s.commercial <;> decide
    | advance hedge =>
      simp only [terminalCommercialStatuses, List.mem_cons, List.not_mem_nil, or_false] at hclosed
      rcases hclosed with hc | hc <;> simp [hc, commercialTransitions] at hedge
  | intake target _ hopen => exact hopen
  | production target _ hopen => exact hopen

lemma early_decide {s s' : OrderState} {command : TransitionCommand}
    (hdecide : decideTransition s command = .ok s') (hworked : s'.commercial ∉ workedCommercial)
    (hcancelled : s'.commercial ≠ .cancelled) : s.commercial ∉ workedCommercial := by
  cases axisMove_of_decide hdecide with
  | commercial target _ hmove =>
    cases hmove with
    | complete => simp [workedCommercial] at hworked
    | cancelReviewed => exact absurd rfl hcancelled
    | cancelDirect => exact absurd rfl hcancelled
    | advance hedge =>
      dsimp only at hworked hcancelled
      clear hdecide
      revert hedge hworked hcancelled
      cases s.commercial <;> cases target <;> decide
  | intake target _ _ _ hmove =>
    rw [hmove.keeps] at hworked
    exact hworked
  | production target _ _ _ _ _ hmove =>
    rw [hmove.keeps] at hworked
    exact hworked

lemma balance_decide {s s' : OrderState} {command : TransitionCommand}
    (hdecide : decideTransition s command = .ok s') :
    s'.balance = s.balance ∨ s'.commercial = .cancelled ∧ s'.balance = .refunded := by
  cases axisMove_of_decide hdecide with
  | commercial target _ hmove =>
    cases hmove with
    | cancelReviewed _ _ _ hbalance =>
      rcases balanceAfterCancellation_ok.mp hbalance with ⟨hu, rfl⟩ | ⟨-, -, rfl⟩ | ⟨-, -, rfl⟩
      · exact .inl hu.symm
      · exact .inl rfl
      · exact .inr ⟨rfl, rfl⟩
    | _ => exact .inl rfl
  | intake target _ _ _ hmove =>
    rw [hmove.keeps]
    exact .inl rfl
  | production target _ _ _ _ _ hmove =>
    rw [hmove.keeps]
    exact .inl rfl

lemma MoneyAgrees.transition {command : TransitionCommand} (h : MoneyAgrees row)
    (happly : applyLockedTransition row command = .ok row') : MoneyAgrees row' := by
  obtain ⟨hself, hlegs, hmode⟩ := flags_transition happly
  obtain ⟨hpayments, hsettlement, htrips, hdates⟩ := rows_transition happly
  obtain ⟨moment, hmoment⟩ := h.dated
  obtain ⟨next, refund, holds, hdecide, -, -, hrow⟩ := applyLockedTransition_ok happly
  have hnext : row'.state = next := by rw [hrow]
  rw [← hnext] at hdecide
  have hopen := decide_open hdecide
  have hnot : row.state.commercial ≠ .cancelled := by
    intro hc
    simp [hc, terminalCommercialStatuses] at hopen
  have hsame : row'.state.commercial ≠ .cancelled → row'.state.balance = row.state.balance :=
    fun hc => (balance_decide hdecide).resolve_right fun hr => hc hr.1
  have hbalance : row'.state.balance ≠ .refunded → row'.state.balance = row.state.balance :=
    fun hb => (balance_decide hdecide).resolve_right fun hr => hb hr.2
  refine ⟨fun hworked hc => ?_, fun hb => ?_, fun hb => ?_, fun hb => ?_, fun hb => ?_, ?_,
    fun hb => ?_, ?_, hdates moment hmoment⟩
  · rw [hsame hc]
    exact h.early (early_decide hdecide hworked hc) hnot
  · rw [hbalance (by simp [hb])] at hb
    exact h.known hb
  · rcases balance_decide hdecide with hkept | ⟨hc, -⟩
    · rw [hkept] at hb
      exact absurd (h.refunded hb) hnot
    · exact hc
  · rw [hsettlement]
    exact h.paid (by rw [← hbalance (by simp [hb]), hb])
  · rw [hpayments]
    exact h.partly (by rw [← hbalance (by simp [hb]), hb])
  · rw [hpayments]
    exact h.positive
  · rw [hself, hmode]
    exact h.onAccount (by rw [← hbalance (by simp [hb]), hb])
  · rw [hlegs, htrips]
    exact h.arrived

lemma MoneyAgrees.worked (h : MoneyAgrees row) (hpaid : row.state.balance ≠ .unpaid)
    (hworked : row.state.commercial ∉ workedCommercial) : row.state.commercial = .cancelled := by
  by_contra hc
  exact hpaid (h.early hworked hc)

lemma positive_append {payments : List Int} {amount : Int} (h : ∀ p ∈ payments, 0 < p)
    (hamount : 0 < amount) : ∀ p ∈ payments ++ [amount], 0 < p := by
  intro p hp
  rcases List.mem_append.mp hp with hp | hp
  · exact h p hp
  · rw [List.mem_singleton.mp hp]
    exact hamount

lemma sum_nonneg_of_positive {payments : List Int} (h : ∀ p ∈ payments, 0 < p) :
    0 ≤ payments.sum :=
  List.sum_nonneg fun p hp => (h p hp).le

lemma MoneyAgrees.entry (h : MoneyAgrees row) (hentry : Entry row row') : MoneyAgrees row' := by
  have hdated := h.dated
  have hunworked : row.state.commercial = .active →
      row.state.commercial ∉ workedCommercial → False := by
    intro hactive hw
    simp [hactive, workedCommercial] at hw
  cases hentry with
  | @settled paid shape hactive hunpaid hshape =>
    refine ⟨fun hw => (hunworked hactive hw).elim, by simp [writeSettlement],
      by simp [writeSettlement], by simp [writeSettlement], by simp [writeSettlement], ?_,
      by simp [writeSettlement], h.arrived, hdated⟩
    intro p hp
    unfold writeSettlement at hp
    dsimp only at hp
    split at hp
    · next hpos => exact positive_append h.positive hpos p hp
    · exact h.positive p hp
  | paidPart hactive hpayable hpositive =>
    refine ⟨fun hw => (hunworked hactive hw).elim, by simp, by simp, by simp, fun _ => ?_,
      positive_append h.positive hpositive, by simp, h.arrived, hdated⟩
    have := sum_nonneg_of_positive h.positive
    simp only [List.sum_append, List.sum_singleton]
    omega
  | paidOff payments settlement fixed hactive hpayable hledger hshape =>
    refine ⟨fun hw => (hunworked hactive hw).elim, by simp, by simp, by simp, by simp, ?_, by simp,
      h.arrived, hdated⟩
    rcases hledger with rfl | ⟨amount, hpos, rfl⟩
    · exact h.positive
    · exact positive_append h.positive hpos
  | waived =>
    exact ⟨h.early, h.known, h.refunded, h.paid, h.partly, h.positive, h.onAccount, h.arrived,
      hdated⟩
  | waivedOff settlement fixed hpartly hshape =>
    have hpaid : row.state.balance ≠ .unpaid := by simp [hpartly]
    exact ⟨fun hw hc => absurd (h.worked hpaid hw) hc, by simp, by simp, by simp, by simp,
      h.positive, by simp, h.arrived, hdated⟩
  | collected hactive hpaid hready hprepaid =>
    exact ⟨h.early, h.known, h.refunded, h.paid, h.partly, h.positive, fun _ => .inl rfl, h.arrived,
      hdated⟩
  | @leg leg hactive hreturn =>
    refine ⟨h.early, h.known, h.refunded, h.paid, h.partly, h.positive, h.onAccount, ?_, hdated⟩
    intro hnone hm
    obtain ⟨hnone, hleg⟩ := Bool.or_eq_false_iff.mp hnone
    rcases List.mem_append.mp hm with hm | hm
    · exact h.arrived hnone hm
    · rw [← List.mem_singleton.mp hm] at hleg
      simp at hleg
  | @charged accepted fee hactive hpayable hready hcollected =>
    refine ⟨fun hw => (hunworked hactive hw).elim, by simp [writeCharge], by simp [writeCharge],
      by simp [writeCharge], by simp [writeCharge], h.positive, fun _ => ?_, h.arrived, hdated⟩
    by_cases hmode : row.state.fulfillmentMode ∈ modesExpectingReturn
    · exact .inr hmode
    · left
      simp [writeCharge, hcollected.mpr hmode]
  | allocatedPart honAccount hpositive =>
    exact ⟨h.early, h.known, h.refunded, h.paid, fun hb => by simp [honAccount] at hb,
      positive_append h.positive hpositive, h.onAccount, h.arrived, hdated⟩
  | allocatedOff honAccount hpositive =>
    have hpaid : row.state.balance ≠ .unpaid := by simp [honAccount]
    exact ⟨fun hw hc => absurd (h.worked hpaid hw) hc, by simp [writeAccountSettlement],
      by simp [writeAccountSettlement], by simp [writeAccountSettlement],
      by simp [writeAccountSettlement], positive_append h.positive hpositive,
      by simp [writeAccountSettlement], h.arrived, hdated⟩
  | published =>
    exact ⟨h.early, h.known, h.refunded, h.paid, h.partly, h.positive, h.onAccount, h.arrived,
      hdated⟩

structure Sound (row : OrderRow) : Prop where
  axes : AxesAgree row.state
  money : MoneyAgrees row

lemma sound_created (mode : FulfillmentMode) (quoted : QuotedTotal)
    (readiness : QuoteReadinessFacts) (policy : Option StoragePolicy) :
    Sound (.created mode quoted readiness policy) :=
  ⟨axesAgree_created mode quoted readiness policy, moneyAgrees_created mode quoted readiness policy⟩

lemma Sound.change (h : Sound row) (hchange : Change row row') : Sound row' := by
  cases hchange with
  | transition command happly =>
    refine ⟨?_, h.money.transition happly⟩
    obtain ⟨next, refund, holds, hdecide, -, -, rfl⟩ := applyLockedTransition_ok happly
    exact h.axes.decide hdecide
  | entry hentry =>
    refine ⟨?_, h.money.entry hentry⟩
    rw [hentry.axes.1]
    exact ⟨h.axes.started, h.axes.accepted, h.axes.stopped, h.axes.resume, h.axes.worked,
      h.axes.opened⟩

lemma Sound.run (h : Sound row) (commands : List Command) : Sound (run row commands) :=
  run_induction (fun _ _ h hchange => h.change hchange) h commands

lemma acceptedAt_change {moment : Datetime} (h : row.state.productionAcceptedAt = some moment)
    (hchange : Change row row') : row'.state.productionAcceptedAt = some moment := by
  cases hchange with
  | transition command happly =>
    obtain ⟨next, refund, holds, hdecide, -, -, rfl⟩ := applyLockedTransition_ok happly
    cases axisMove_of_decide hdecide with
    | commercial target _ hmove =>
      rw [hmove.keeps]
      exact h
    | intake target _ _ _ hmove =>
      cases hmove with
      | reject => exact h
      | advance => exact h
      | accept _ _ _ hfirst => simp [h] at hfirst
    | production target _ _ _ _ _ hmove =>
      rw [hmove.keeps]
      exact h
  | entry hentry =>
    rw [hentry.axes.1]
    exact h

def SameAxes (s s' : OrderState) : Prop :=
  s'.commercial = s.commercial ∧ s'.intake = s.intake ∧ s'.production = s.production ∧
    s'.productionResumeStatus = s.productionResumeStatus ∧
    s'.productionAcceptedAt = s.productionAcceptedAt

lemma closed_run (hclosed : row.state.commercial ∈ terminalCommercialStatuses)
    (commands : List Command) : SameAxes row.state (run row commands).state := by
  refine run_induction (P := fun current => SameAxes row.state current.state)
    (fun current next h hchange => ?_) ⟨rfl, rfl, rfl, rfl, rfl⟩ commands
  cases hchange with
  | transition command happly =>
    obtain ⟨_, _, _, hdecide, -, -, -⟩ := applyLockedTransition_ok happly
    refine absurd ?_ (decide_open hdecide)
    rw [h.1]
    exact hclosed
  | entry hentry =>
    rw [hentry.axes.1]
    exact h

/-- An order that holds the customer's money, or was cancelled and handed it back. -/
def HoldsMoney (s : OrderState) : Prop :=
  ((s.balance = .paid ∨ s.balance = .partiallyPaid) ∧ s.commercial ≠ .cancelled) ∨
    (s.commercial = .cancelled ∧ s.balance = .refunded)

lemma HoldsMoney.transition {command : TransitionCommand} (h : HoldsMoney row.state)
    (hdisposal : command.unclaimedDisposalVerified = false)
    (happly : applyLockedTransition row command = .ok row') : HoldsMoney row'.state := by
  obtain ⟨next, refund, holds, hdecide, -, -, rfl⟩ := applyLockedTransition_ok happly
  have hopen := decide_open hdecide
  rcases h with ⟨hmoney, hnot⟩ | ⟨hc, -⟩
  swap
  · simp [hc, terminalCommercialStatuses] at hopen
  cases axisMove_of_decide hdecide with
  | commercial target htarget hmove =>
    cases hmove with
    | complete => exact .inl ⟨hmoney, by simp⟩
    | cancelReviewed _ _ _ hbalance =>
      refine .inr ⟨rfl, ?_⟩
      rcases balanceAfterCancellation_ok.mp hbalance with ⟨hu, -⟩ | ⟨hr, -, -⟩ | ⟨-, -, hb⟩
      · rcases hmoney with hb | hb <;> simp [hu] at hb
      · obtain ⟨hdomain, -⟩ := decideTransition_ok.mp hdecide
        simp only [domainTransition, htarget] at hdomain
        exact absurd ⟨hr, hdisposal⟩ (transitionCommercial_ok.mp hdomain).1
      · exact hb
    | cancelDirect _ _ hidle =>
      refine absurd (.inr (.inr ?_)) hidle
      rcases hmoney with hb | hb <;> simp [hb]
    | advance _ hcancel => exact .inl ⟨hmoney, hcancel⟩
  | intake target _ _ _ hmove =>
    rw [hmove.keeps]
    exact .inl ⟨hmoney, hnot⟩
  | production target _ _ _ _ _ hmove =>
    rw [hmove.keeps]
    exact .inl ⟨hmoney, hnot⟩

lemma HoldsMoney.executePlan {chain : Option Int} {occurredAt : Datetime} {index : Nat}
    {plan : List PlannedTransition} (h : HoldsMoney row.state)
    (hexecute : executePlan chain occurredAt index row plan = .ok row') :
    HoldsMoney row'.state := by
  induction plan generalizing index row with
  | nil =>
    cases hexecute
    exact h
  | cons planned plan ih =>
    unfold Orders.executePlan at hexecute
    obtain ⟨moment, -, hexecute⟩ := bind_ok.mp hexecute
    obtain ⟨row₁, h₁, hexecute⟩ := bind_ok.mp hexecute
    exact ih (h.transition rfl h₁) hexecute

lemma refunded_attempt {command : Command} (hok : attempt row command = .ok row')
    (hmoney : row.state.balance = .paid ∨ row.state.balance = .partiallyPaid)
    (hopen : row.state.commercial ≠ .cancelled) (hcancelled : row'.state.commercial = .cancelled)
    (hdispose : ∀ verdict chain occurredAt, command ≠ .dispose verdict chain occurredAt) :
    row'.state.balance = .refunded := by
  have h : HoldsMoney row.state := .inl ⟨hmoney, hopen⟩
  have hend : HoldsMoney row'.state → row'.state.balance = .refunded := by
    rintro (⟨-, hnot⟩ | ⟨-, hb⟩)
    · exact absurd hcancelled hnot
    · exact hb
  rcases attempt_cases hok with ⟨c, -, hok⟩ | ⟨_, _, _, -, hok⟩ | ⟨_, _, _, rfl, -⟩ | hentry
  · have hmade := h.transition rfl hok
    exact hend hmade
  · obtain ⟨plan, -, hexecute⟩ := bind_ok.mp hok
    exact hend (h.executePlan hexecute)
  · exact absurd rfl (hdispose _ _ _)
  · rw [hentry.axes.1] at hcancelled
    exact absurd hcancelled hopen

lemma refunded_run (h : row.state.commercial = .cancelled ∧ row.state.balance = .refunded)
    (commands : List Command) : (run row commands).state.balance = .refunded := by
  refine (run_induction (P := fun row => row.state.commercial = .cancelled ∧
    row.state.balance = .refunded) (fun current next h hchange => ?_) h commands).2
  obtain ⟨hc, hb⟩ := h
  cases hchange with
  | transition command happly =>
    obtain ⟨_, _, _, hdecide, -, -, -⟩ := applyLockedTransition_ok happly
    simpa [hc, terminalCommercialStatuses] using decide_open hdecide
  | entry hentry =>
    refine ⟨by rw [hentry.axes.1]; exact hc, ?_⟩
    cases hentry with
    | settled hactive => simp [hc] at hactive
    | paidPart hactive => simp [hc] at hactive
    | paidOff _ _ _ hactive => simp [hc] at hactive
    | waived => exact hb
    | waivedOff _ _ hpartly => simp [hb] at hpartly
    | collected hactive => simp [hc] at hactive
    | leg hactive => simp [hc] at hactive
    | charged hactive => simp [hc] at hactive
    | allocatedPart honAccount => simp [hb] at honAccount
    | allocatedOff honAccount => simp [hb] at honAccount
    | published => exact hb

end NhaTrangLaundry.Db.Orders
