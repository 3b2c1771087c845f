import NhaTrangLaundry.Db.OrderAxes

/-! No order is stuck: from every order that commands lead to, commands lead on to its
completion or its cancellation. -/

namespace NhaTrangLaundry.Db.Orders

open Lib Outcome Domain Catalog Settlement Unclaimed Handover Domain.Orders OrderSteps
open Domain.Payments

def Closes (row : OrderRow) : Prop :=
  ∃ (commands : List Command) (row' : OrderRow), commands.foldlM attempt row = .ok row' ∧
    row'.state.commercial ∈ terminalCommercialStatuses

variable {row row' : OrderRow}

lemma closes_of_closed (h : row.state.commercial ∈ terminalCommercialStatuses) : Closes row :=
  ⟨[], row, rfl, h⟩

lemma Closes.after {command : Command} (hok : attempt row command = .ok row')
    (h : Closes row') : Closes row := by
  obtain ⟨commands, last, hrun, hclosed⟩ := h
  refine ⟨command :: commands, last, ?_, hclosed⟩
  rw [List.foldlM_cons, hok]
  exact hrun

/-- A transition of one axis, with nothing else to say. -/
def plainCommand (target : AxisTarget) (moment : Datetime) : TransitionCommand where
  target
  intakeReadiness := none
  productionAcceptedAt := none
  custodyResolution := none
  unclaimedDisposalVerified := false
  refundMethod := none
  creditChain := some 0
  occurredAt := moment

lemma transition_written {command : TransitionCommand} {next : OrderState}
    {holds : List StorageHold} (hplain : command.unclaimedDisposalVerified = false)
    (hdecide : decideTransition row.state command = .ok next)
    (hrefund : refunding row.state next → refundSource row ≠ none ∧ command.custodyResolution ≠ none)
    (hchain : command.creditChain ≠ none) (hholds : holdsAfter row next command = .ok holds) :
    ∃ row', attempt row (.transition command) = .ok row' ∧ row'.state = next := by
  have hsame : { command with unclaimedDisposalVerified := false } = command := by
    rw [← hplain]
  obtain ⟨netted, hnetted⟩ := Option.ne_none_iff_exists'.mp hchain
  have hnet : ∃ netted, nettedBy row.state next command = .ok netted := by
    unfold nettedBy
    rw [hnetted]
    split
    · exact ⟨netted, rfl⟩
    · exact ⟨0, rfl⟩
  have hgiven : ∃ refund, refundOf row next command = .ok refund := by
    unfold refundOf
    split
    · next hr =>
      obtain ⟨hsource, hresolution⟩ := hrefund hr
      obtain ⟨amount, hamount⟩ := Option.ne_none_iff_exists'.mp hsource
      obtain ⟨resolution, hresolution⟩ := Option.ne_none_iff_exists'.mp hresolution
      obtain ⟨method, hmethod⟩ :=
        Option.ne_none_iff_exists'.mp ((decideTransition_ok.mp hdecide).2.mp hr)
      refine ⟨some ⟨amount, 0, resolution, method⟩, ?_⟩
      simp [refundForCancellation, hresolution, hmethod, hamount]
    · exact ⟨none, rfl⟩
  obtain ⟨netted, hnet⟩ := hnet
  obtain ⟨refund, hgiven⟩ := hgiven
  rw [attempt, transition, hsame, applyLockedTransition, mapError_ok.mpr hdecide, ok_bind, hgiven,
    ok_bind, hnet, ok_bind, hholds]
  exact ⟨_, rfl, rfl⟩

def Leads (row : OrderRow) (next : OrderState) : Prop :=
  ∃ command row', attempt row command = .ok row' ∧ row'.state = next ∧ Sound row'

lemma Leads.closes {next : OrderState} (h : Leads row next)
    (hnext : ∀ row', Sound row' → row'.state = next → Closes row') : Closes row := by
  obtain ⟨command, row', hok, hstate, hsound⟩ := h
  exact (hnext row' hsound hstate).after hok

lemma Sound.refundSource (h : Sound row) {next : OrderState} (hr : refunding row.state next) :
    refundSource row ≠ none := by
  unfold Orders.refundSource
  rcases hr.1 with hb | hb
  · rw [if_neg (by simp [hb]), Ne, Option.map_eq_none_iff]
    exact h.money.paid hb
  · rw [if_pos hb, if_pos (h.money.partly hb)]
    exact Option.some_ne_none _

lemma leads_transition (h : Sound row) (command : TransitionCommand) {next : OrderState}
    {holds : List StorageHold} (hplain : command.unclaimedDisposalVerified = false)
    (hdecide : decideTransition row.state command = .ok next)
    (hresolution : refunding row.state next → command.custodyResolution ≠ none)
    (hchain : command.creditChain ≠ none) (hholds : holdsAfter row next command = .ok holds) :
    Leads row next := by
  obtain ⟨row', hok, hstate⟩ := transition_written hplain hdecide
    (fun hr => ⟨h.refundSource hr, hresolution hr⟩) hchain hholds
  have happly : applyLockedTransition row command = attempt row (.transition command) := by
    rw [attempt, transition, ← hplain]
  exact ⟨_, row', hok, hstate, h.change (.transition command (happly.trans hok))⟩

lemma leads_commercial (h : Sound row) {target : CommercialOrderStatus} {next : OrderState}
    (resolution : Option CustodyResolution) (hdisposal : resolution ≠ some .unclaimedDisposed)
    (hmove : CommercialMove row.state (.of resolution false) target next)
    (hresolution : refunding row.state next → resolution ≠ none) : Leads row next := by
  refine leads_transition h
    { plainCommand (.commercial target) (.ofUtc 0 (by decide)) with
      custodyResolution := resolution
      refundMethod := if refunding row.state next then some .tienMat else none }
    rfl (decideTransition_ok.mpr ⟨?_, ?_⟩) hresolution (Option.some_ne_none _) rfl
  · exact transitionCommercial_ok.mpr ⟨fun hc => hdisposal hc.1, hmove⟩
  · by_cases hr : refunding row.state next <;> simp [hr]

lemma leads_reject (h : Sound row) (hopen : row.state.commercial ∉ terminalCommercialStatuses)
    (haccepted : row.state.intake ≠ .accepted) (hrejected : row.state.intake ≠ .rejected)
    (hreceived : row.state.intake ≠ .awaitingHandoff) :
    Leads row { row.state with intake := .rejected } := by
  have hnot : ¬ refunding row.state { row.state with intake := .rejected } := by
    rintro ⟨hb | hb, hr⟩ <;> simp [hb] at hr
  refine leads_transition h (plainCommand (.intake .rejected) (.ofUtc 0 (by decide))) rfl
    (decideTransition_ok.mpr ⟨?_, by simp [hnot, plainCommand]⟩) (fun hr => absurd hr hnot)
    (Option.some_ne_none _) rfl
  exact transitionIntake_ok.mpr ⟨hopen, haccepted, hrejected, .reject hreceived⟩

lemma leads_production (h : Sound row) {target : ProductionStatus} {next : OrderState}
    (hopen : row.state.commercial ∉ terminalCommercialStatuses)
    (haccepted : row.state.intake = .accepted)
    (hmoves : target ∈ productionSequence ∧ target ≠ .notStarted ∧ target ≠ row.state.production)
    (hpaid : target = .released → goodsMayLeave row.state.balance = true)
    (hmove : ProductionMove row.state target next) : Leads row next := by
  have hbalance : next.balance = row.state.balance := by rw [hmove.keeps]
  have hnot : ¬ refunding row.state next := by
    rintro ⟨hb | hb, hr⟩ <;> simp [hbalance, hb] at hr
  obtain ⟨moment, hmoment⟩ := h.money.dated
  have hgoes : next.production ∉ shelfInterruptions := by
    rw [hmove.production_eq]
    have hm := hmoves.1
    revert hm
    cases target <;> decide
  have hholds : ∃ holds,
      holdsAfter row next (plainCommand (.production target) moment) = .ok holds := by
    have hbegins : storageHoldMove row next (plainCommand (.production target) moment) ≠
        some .start := by
      simp only [storageHoldMove, plainCommand, movesProduction, holdMove, hgoes, false_and,
        if_true, if_false]
      split
      · simp
      · split <;> simp
    unfold holdsAfter
    dsimp only
    split
    · next hstart => exact absurd hstart hbegins
    · have hended : ∀ hold ∈ row.storageHolds, hold.resumedAt = none →
          hold.heldAt ≤ moment.instant := fun hold hm _ => hmoment hold hm
      exact ⟨_, bind_ok.mpr ⟨(), require_ok.mpr hended, rfl⟩⟩
    · exact ⟨_, rfl⟩
  obtain ⟨holds, hholds⟩ := hholds
  refine leads_transition h (plainCommand (.production target) moment) rfl
    (decideTransition_ok.mpr ⟨?_, by simp [hnot, plainCommand]⟩) (fun hr => absurd hr hnot)
    (Option.some_ne_none _) hholds
  have hnext : transitionProduction row.state target = .ok next :=
    transitionProduction_ok.mpr ⟨hopen, hmoves.2.1, hmoves.2.2, haccepted, hmove⟩
  have hleave : next.production = .released → goodsMayLeave row.state.balance = true := by
    rw [hmove.production_eq]
    exact hpaid
  simp only [domainTransition, plainCommand]
  rw [hnext, ok_bind, require_true hleave]
  rfl

lemma leads_return (h : Sound row) (hactive : row.state.commercial = .active)
    (hmode : row.state.fulfillmentMode ∈ modesExpectingReturn)
    (hready : row.state.production ∈ handoverReadyProduction)
    (hleave : goodsMayLeave row.state.balance = true)
    (hnone : row.state.requiredDeliveryLegsSucceeded = false) :
    Leads row { row.state with requiredDeliveryLegsSucceeded := true } := by
  let leg : DeliveryLeg := ⟨.return, .succeeded⟩
  have hself : row.state.fulfillmentMode ≠ .selfDropSelfCollect := by
    intro hm
    simp [hm, modesExpectingReturn] at hmode
  have hok : recordLeg row leg = .ok (writeLeg row leg) :=
    recordLeg_ok.mpr ⟨hactive, hself, fun _ => ⟨hmode, deliveryRefusal_none.mpr ⟨hready, hleave⟩⟩,
      by simp [leg], fun _ => h.money.arrived hnone, rfl⟩
  refine ⟨.leg leg, _, hok, ?_, h.change (.entry (entry_leg hok))⟩
  simp [writeLeg, leg]

lemma closes_review (h : Sound row) (hreview : row.state.commercial = .cancellationReview)
    (hcash : row.state.balance ≠ .onAccount) : Closes row := by
  have hbalance : ∃ balance,
      balanceAfterCancellation row.state.balance (some .shopFaultNoCharge) = .ok balance := by
    have hknown := h.money.known
    have hrefunded : row.state.balance ≠ .refunded := by
      intro hb
      simpa [hreview] using h.money.refunded hb
    revert hcash hknown hrefunded
    cases row.state.balance <;> simp [balanceAfterCancellation, customerNotChargedResolutions]
  obtain ⟨balance, hbalance⟩ := hbalance
  refine (leads_commercial h (some .shopFaultNoCharge) (by decide)
    (.cancelReviewed hreview (by simp [CancellationFacts.of]) (by
      simp [CancellationFacts.of, rejectResolutionContradictingTheRecord, require]) hbalance)
    (fun _ => Option.some_ne_none _)).closes fun row' _ hstate => closes_of_closed ?_
  simp [hstate, terminalCommercialStatuses]

lemma not_refunding_commercial {s : OrderState} {commercial : CommercialOrderStatus} :
    ¬ refunding s { s with commercial } := by
  rintro ⟨hb | hb, hr⟩ <;> simp [hb] at hr

lemma leads_advance (h : Sound row) {target : CommercialOrderStatus}
    (hedge : target ∈ commercialTransitions row.state.commercial) (hcancel : target ≠ .cancelled)
    (hcomplete : target ≠ .completed) (hintake : target = .active → row.state.intake = .accepted) :
    Leads row { row.state with commercial := target } :=
  leads_commercial h none (by simp) (.advance hedge hcancel hcomplete hintake)
    fun hr => absurd hr not_refunding_commercial

lemma closes_active (h : Sound row) (hactive : row.state.commercial = .active)
    (hcash : row.state.balance ≠ .onAccount) : Closes row := by
  have hedge : .cancellationReview ∈ commercialTransitions row.state.commercial := by
    rw [hactive]
    decide
  refine (leads_advance h hedge (by decide) (by decide) (by simp)).closes fun row' h' hstate => ?_
  exact closes_review h' (by rw [hstate]) (by rw [hstate]; exact hcash)

lemma closes_idle (h : Sound row) (hedge : .cancelled ∈ commercialTransitions row.state.commercial)
    (hreview : row.state.commercial ≠ .cancellationReview) (hidle : ¬ workHasBegun row.state) :
    Closes row := by
  refine (leads_commercial h none (by simp) (.cancelDirect hedge hreview hidle)
    fun hr => absurd hr not_refunding_commercial).closes fun row' _ hstate => closes_of_closed ?_
  simp [hstate, terminalCommercialStatuses]

lemma closes_accepted (h : Sound row) (haccepted : row.state.intake = .accepted)
    (hcash : row.state.balance ≠ .onAccount)
    (hearly : row.state.commercial ∈ [CommercialOrderStatus.requested, .storeConfirmationPending,
      .confirmed]) : Closes row := by
  have hconfirmed : ∀ row, Sound row → row.state.intake = .accepted →
      row.state.balance ≠ .onAccount → row.state.commercial = .confirmed → Closes row := by
    intro row h haccepted hcash hc
    have hedge : .active ∈ commercialTransitions row.state.commercial := by rw [hc]; decide
    refine (leads_advance h hedge (by decide) (by decide) fun _ => haccepted).closes
      fun row' h' hstate => ?_
    exact closes_active h' (by rw [hstate]) (by rw [hstate]; exact hcash)
  have hpending : ∀ row, Sound row → row.state.intake = .accepted →
      row.state.balance ≠ .onAccount → row.state.commercial = .storeConfirmationPending →
        Closes row := by
    intro row h haccepted hcash hc
    have hedge : .confirmed ∈ commercialTransitions row.state.commercial := by rw [hc]; decide
    refine (leads_advance h hedge (by decide) (by decide) (by simp)).closes
      fun row' h' hstate => ?_
    exact hconfirmed row' h' (by rw [hstate]; exact haccepted) (by rw [hstate]; exact hcash)
      (by rw [hstate])
  simp only [List.mem_cons, List.not_mem_nil, or_false] at hearly
  rcases hearly with hc | hc | hc
  · have hedge : .storeConfirmationPending ∈ commercialTransitions row.state.commercial := by
      rw [hc]
      decide
    refine (leads_advance h hedge (by decide) (by decide) (by simp)).closes
      fun row' h' hstate => ?_
    exact hpending row' h' (by rw [hstate]; exact haccepted) (by rw [hstate]; exact hcash)
      (by rw [hstate])
  · exact hpending row h haccepted hcash hc
  · exact hconfirmed row h haccepted hcash hc

lemma closes_early (h : Sound row)
    (hearly : row.state.commercial ∈ [CommercialOrderStatus.requested, .storeConfirmationPending,
      .confirmed]) : Closes row := by
  have hshape : row.state.commercial ∉ workedCommercial ∧
      row.state.commercial ∉ terminalCommercialStatuses ∧
      row.state.commercial ≠ .cancelled ∧ row.state.commercial ≠ .cancellationReview ∧
      .cancelled ∈ commercialTransitions row.state.commercial := by
    revert hearly
    cases row.state.commercial <;> decide
  obtain ⟨hunworked, hopen, hcancelled, hreview, hedge⟩ := hshape
  have hunpaid := h.money.early hunworked hcancelled
  by_cases haccepted : row.state.intake = .accepted
  · exact closes_accepted h haccepted (by simp [hunpaid]) hearly
  have hnot : row.state.production = .notStarted := by
    by_contra hp
    exact haccepted (h.axes.started hp)
  by_cases hheld : row.state.intake ∈ custodyNotHeldIntakeStatuses
  · refine closes_idle h hedge hreview ?_
    simp [workHasBegun, hnot, hheld, hunpaid]
  · simp only [custodyNotHeldIntakeStatuses, List.mem_cons, List.not_mem_nil, or_false,
      not_or] at hheld
    refine (leads_reject h hopen haccepted hheld.2 hheld.1).closes fun row' h' hstate => ?_
    refine closes_idle h' (by rw [hstate]; exact hedge) (by rw [hstate]; exact hreview) ?_
    simp [hstate, workHasBegun, hnot, hunpaid, custodyNotHeldIntakeStatuses]

/-- An order on an account, its laundry still the shop's to finish. -/
structure Carried (row : OrderRow) : Prop where
  sound : Sound row
  active : row.state.commercial = .active
  onAccount : row.state.balance = .onAccount

lemma Carried.accepted (h : Carried row) : row.state.intake = .accepted :=
  h.sound.axes.worked (by rw [h.active]; decide)

lemma Carried.complete (h : Carried row) (hreleased : row.state.production = .released)
    (harrived : row.state.requiredDeliveryLegsSucceeded = true ∨
      row.state.selfCollectionRecorded = true) : Closes row := by
  refine (leads_commercial h.sound none (by simp)
    (.complete h.active hreleased harrived (.inr h.onAccount))
    fun hr => absurd hr not_refunding_commercial).closes fun row' _ hstate => closes_of_closed ?_
  simp [hstate, terminalCommercialStatuses]

lemma Carried.closes_released (h : Carried row) (hreleased : row.state.production = .released) :
    Closes row := by
  by_cases harrived : row.state.requiredDeliveryLegsSucceeded = true ∨
      row.state.selfCollectionRecorded = true
  · exact h.complete hreleased harrived
  rw [not_or, Bool.not_eq_true] at harrived
  have hmode := (h.sound.money.onAccount h.onAccount).resolve_left harrived.2
  have hleave : goodsMayLeave row.state.balance = true := goodsMayLeave_iff.mpr (.inr h.onAccount)
  have hready : row.state.production ∈ handoverReadyProduction := by
    rw [hreleased]
    decide
  refine (leads_return h.sound h.active hmode hready hleave harrived.1).closes
    fun row' h' hstate => ?_
  exact Carried.complete ⟨h', by rw [hstate]; exact h.active, by rw [hstate]; exact h.onAccount⟩
    (by rw [hstate]; exact hreleased) (.inl (by rw [hstate]))

lemma Carried.move (h : Carried row) {target : ProductionStatus} {next : OrderState}
    (hmoves : target ∈ productionSequence ∧ target ≠ .notStarted ∧ target ≠ row.state.production)
    (hmove : ProductionMove row.state target next)
    (hnext : ∀ row', Carried row' → row'.state.production = target → Closes row') :
    Closes row := by
  have hopen : row.state.commercial ∉ terminalCommercialStatuses := by
    rw [h.active]
    decide
  refine (leads_production h.sound hopen h.accepted hmoves
    (fun _ => goodsMayLeave_iff.mpr (.inr h.onAccount)) hmove).closes fun row' h' hstate => ?_
  rw [hmove.keeps] at hstate
  exact hnext row' ⟨h', by rw [hstate]; exact h.active, by rw [hstate]; exact h.onAccount⟩
    (by rw [hstate])

lemma Carried.forward (h : Carried row) {before target : ProductionStatus}
    (hbefore : row.state.production = before)
    (hedge : (before, target) ∈ [(ProductionStatus.notStarted, ProductionStatus.queued),
      (.queued, .inProcess), (.inProcess, .qualityCheck), (.qualityCheck, .readyAtStore),
      (.readyAtStore, .released)])
    (hnext : ∀ row', Carried row' → row'.state.production = target → Closes row') :
    Closes row := by
  have hmoves : target ∈ productionSequence ∧ target ≠ .notStarted ∧ target ≠ before := by
    revert hedge
    cases before <;> cases target <;> decide
  rw [← hbefore] at hmoves hedge
  exact h.move hmoves (.advance hedge) hnext

lemma Carried.closes_going (h : Carried row) (hgoing : row.state.production ∈ productionSequence) :
    Closes row := by
  have hready : ∀ row, Carried row → row.state.production = .readyAtStore → Closes row :=
    fun row h hp => h.forward hp (by decide) fun row' h' hp' => h'.closes_released hp'
  have hchecked : ∀ row, Carried row → row.state.production = .qualityCheck → Closes row :=
    fun row h hp => h.forward hp (by decide) hready
  have hwashing : ∀ row, Carried row → row.state.production = .inProcess → Closes row :=
    fun row h hp => h.forward hp (by decide) hchecked
  have hqueued : ∀ row, Carried row → row.state.production = .queued → Closes row :=
    fun row h hp => h.forward hp (by decide) hwashing
  simp only [productionSequence, List.mem_cons, List.not_mem_nil, or_false] at hgoing
  rcases hgoing with hp | hp | hp | hp | hp | hp
  · exact h.forward hp (by decide) hqueued
  · exact hqueued row h hp
  · exact hwashing row h hp
  · exact hchecked row h hp
  · exact hready row h hp
  · exact h.closes_released hp

lemma Carried.closes (h : Carried row) : Closes row := by
  by_cases hgoing : row.state.production ∈ productionSequence
  · exact h.closes_going hgoing
  have hstopped : row.state.production = .onHold ∨ row.state.production = .exception := by
    revert hgoing
    cases row.state.production <;> decide
  obtain ⟨resume, hresume⟩ :=
    Option.ne_none_iff_exists'.mp (h.sound.axes.stopped.mpr hstopped)
  have hstarted := h.sound.axes.resume resume hresume
  have hshape : resume ∈ productionSequence ∧ resume ≠ .notStarted := by
    revert hstarted
    cases resume <;> decide
  have hmoves : resume ≠ row.state.production := by
    rintro rfl
    exact hgoing hshape.1
  have hmove : ProductionMove row.state resume
      { row.state with production := resume, productionResumeStatus := none } := by
    rcases hstopped with hp | hp
    · exact .resumeHold hp hresume
    · exact .resolve hp hresume hshape.1 le_rfl
  refine h.move ⟨hshape.1, hshape.2, hmoves⟩ hmove fun row' h' hp => h'.closes_going ?_
  rw [hp]
  exact hshape.1

lemma Sound.closes (h : Sound row) : Closes row := by
  by_cases honAccount : row.state.balance = .onAccount
  · by_cases hreview : row.state.commercial = .cancellationReview
    · -- the review is given up, and the order completed
      have hedge : .active ∈ commercialTransitions row.state.commercial := by
        rw [hreview]
        decide
      have haccepted := h.axes.worked (by rw [hreview]; decide)
      refine (leads_advance h hedge (by decide) (by decide) fun _ => haccepted).closes
        fun row' h' hstate => ?_
      exact Carried.closes ⟨h', by rw [hstate], by rw [hstate]; exact honAccount⟩
    · by_cases hclosed : row.state.commercial ∈ terminalCommercialStatuses
      · exact closes_of_closed hclosed
      · have hactive : row.state.commercial = .active := by
          have hworked := h.money.worked (by simp [honAccount])
          revert hworked hreview hclosed
          cases row.state.commercial <;> decide
        exact Carried.closes ⟨h, hactive, honAccount⟩
  · cases hc : row.state.commercial with
    | draft => exact absurd hc h.axes.opened
    | requested => exact closes_early h (by rw [hc]; decide)
    | storeConfirmationPending => exact closes_early h (by rw [hc]; decide)
    | confirmed => exact closes_early h (by rw [hc]; decide)
    | active => exact closes_active h hc honAccount
    | cancellationReview => exact closes_review h hc honAccount
    | cancelled => exact closes_of_closed (by rw [hc]; decide)
    | completed => exact closes_of_closed (by rw [hc]; decide)

lemma acceptedAt_run {moment : Datetime} (h : row.state.productionAcceptedAt = some moment)
    (commands : List Command) : (run row commands).state.productionAcceptedAt = some moment :=
  run_induction (fun _ _ h hchange => acceptedAt_change h hchange) h commands

/-- For every run of commands on a new order: work means accepted goods, and the moment of
acceptance is written once; a stop remembers a stage of the work; an order that is worked on
was accepted; a closed order keeps its axes; money in hand when an order is cancelled is handed
back, unless the laundry was disposed of; and an open order can be closed by accepted
commands. -/
theorem order_axes_and_never_stuck (mode : FulfillmentMode) (quoted : QuotedTotal)
    (readiness : QuoteReadinessFacts) (policy : Option StoragePolicy) (commands : List Command) :
    let row := run (.created mode quoted readiness policy) commands
    (row.state.production ≠ .notStarted →
        row.state.intake = .accepted ∧ row.state.productionAcceptedAt ≠ none) ∧
      (∀ moment, row.state.productionAcceptedAt = some moment →
        ∀ more, (run row more).state.productionAcceptedAt = some moment) ∧
      (row.state.productionResumeStatus ≠ none ↔
        row.state.production = .onHold ∨ row.state.production = .exception) ∧
      (∀ status ∈ row.state.productionResumeStatus,
        status ∈ [ProductionStatus.queued, .inProcess, .qualityCheck, .readyAtStore]) ∧
      (row.state.commercial = .active ∨ row.state.commercial = .cancellationReview ∨
        row.state.commercial = .completed → row.state.intake = .accepted) ∧
      (row.state.commercial = .cancelled ∨ row.state.commercial = .completed →
        ∀ more, SameAxes row.state (run row more).state) ∧
      (∀ command, row.state.balance = .paid ∨ row.state.balance = .partiallyPaid →
        row.state.commercial ≠ .cancelled → (apply row command).state.commercial = .cancelled →
        (∀ verdict chain occurredAt, command ≠ .dispose verdict chain occurredAt) →
        ∀ more, (run (apply row command) more).state.balance = .refunded) ∧
      (row.state.commercial ≠ .cancelled → row.state.commercial ≠ .completed →
        ∃ (more : List Command) (row' : OrderRow), more.foldlM attempt row = .ok row' ∧
          (row'.state.commercial = .cancelled ∨ row'.state.commercial = .completed)) := by
  intro row
  have h : Sound row := (sound_created mode quoted readiness policy).run commands
  refine ⟨fun hp => ⟨h.axes.started hp, h.axes.accepted (h.axes.started hp)⟩,
    fun moment hm more => acceptedAt_run hm more, h.axes.stopped, h.axes.resume, fun hw => ?_,
    fun hc more => closed_run ?_ more, fun command hmoney hopen hcancelled hdispose more => ?_,
    fun _ _ => ?_⟩
  · exact h.axes.worked (by simpa [workedCommercial] using hw)
  · simpa [terminalCommercialStatuses] using hc
  · unfold apply at hcancelled ⊢
    split at hcancelled
    · next row' hok =>
      exact refunded_run ⟨hcancelled, refunded_attempt hok hmoney hopen hcancelled hdispose⟩ more
    · exact absurd hcancelled hopen
  · obtain ⟨more, row', hrun, hclosed⟩ := h.closes
    exact ⟨more, row', hrun, by simpa [terminalCommercialStatuses] using hclosed⟩

end NhaTrangLaundry.Db.Orders
