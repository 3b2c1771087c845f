import NhaTrangLaundry.Db.OrderReplay

/-! Goods leave only when paid, at every door and in every run of commands. -/

namespace NhaTrangLaundry.Db.Orders

open Lib Outcome Domain Catalog Settlement Unclaimed Handover Domain.Orders OrderSteps
open Domain.Payments

def Left (s : OrderState) : Prop :=
  s.production = .released ∨ s.selfCollectionRecorded = true ∨
    s.requiredDeliveryLegsSucceeded = true

/-- One of the three records of goods that left was made between the two states. -/
def Leaving (s s' : OrderState) : Prop :=
  (s.production ≠ .released ∧ s'.production = .released) ∨
    (s.selfCollectionRecorded = false ∧ s'.selfCollectionRecorded = true) ∨
    (s.requiredDeliveryLegsSucceeded = false ∧ s'.requiredDeliveryLegsSucceeded = true)

section

variable {s s' : OrderState}

lemma Leaving.released (h : Leaving s s')
    (hself : s'.selfCollectionRecorded = s.selfCollectionRecorded)
    (hlegs : s'.requiredDeliveryLegsSucceeded = s.requiredDeliveryLegsSucceeded) :
    s.production ≠ .released ∧ s'.production = .released := by
  rcases h with hr | ⟨hf, ht⟩ | ⟨hf, ht⟩
  · exact hr
  · rw [hself, hf] at ht
    cases ht
  · rw [hlegs, hf] at ht
    cases ht

lemma not_leaving (hproduction : s'.production = s.production)
    (hself : s'.selfCollectionRecorded = s.selfCollectionRecorded)
    (hlegs : s'.requiredDeliveryLegsSucceeded = s.requiredDeliveryLegsSucceeded) :
    ¬ Leaving s s' := by
  intro h
  obtain ⟨hf, ht⟩ := h.released hself hlegs
  exact hf (hproduction ▸ ht)

end

def startedProduction : List ProductionStatus :=
  [.queued, .inProcess, .qualityCheck, .readyAtStore]

/-- What every command keeps of an order: goods that left are settled, and each door
serves the modes that it is for. -/
structure Guarded (row : OrderRow) : Prop where
  settled : Left row.state → row.state.balance = .paid ∨ row.state.balance = .onAccount ∨
    row.state.balance = .refunded
  refunded : row.state.balance = .refunded → row.state.commercial = .cancelled
  collected : row.state.selfCollectionRecorded = true →
    row.state.fulfillmentMode ∉ modesExpectingReturn
  delivered : row.state.requiredDeliveryLegsSucceeded = true →
    row.state.fulfillmentMode ∈ modesExpectingReturn
  prepaid : row.settlement.map Payments.OrderSettlement.shape =
    some .exactPaymentPrepaidSelfCollection → row.state.fulfillmentMode ∉ modesExpectingReturn
  completed : row.state.commercial = .completed → row.state.production = .released ∧
    (row.state.selfCollectionRecorded = true ∨ row.state.requiredDeliveryLegsSucceeded = true) ∧
    (row.state.balance = .paid ∨ row.state.balance = .onAccount)
  resume : ∀ status ∈ row.state.productionResumeStatus, status ∈ startedProduction

lemma guarded_created (mode : FulfillmentMode) (quoted : QuotedTotal)
    (readiness : QuoteReadinessFacts) (policy : Option StoragePolicy) :
    Guarded (.created mode quoted readiness policy) := by
  constructor <;> simp [OrderRow.created, Left]

variable {row row' : OrderRow}

lemma Guarded.not_left (h : Guarded row) (hpayable : row.state.balance ∈ payableBalances) :
    ¬ Left row.state := by
  intro hleft
  rcases h.settled hleft with hb | hb | hb <;> simp [hb, payableBalances] at hpayable

lemma not_completed (hactive : row.state.commercial = .active) :
    row.state.commercial ≠ .completed := by
  rw [hactive]
  decide

lemma guarded_commercial {facts : CancellationFacts} {target : CommercialOrderStatus}
    {s : OrderState} (h : Guarded row) (hmove : CommercialMove row.state facts target s)
    {refund : Option OrderRefund} {ready : Option Int} {holds : List StorageHold} :
    Guarded { row with
      state := s
      refund := refund
      productionReadyAt := ready
      storageHolds := holds } := by
  have hopen : row.state.commercial ≠ .cancelled := by
    intro hc
    cases hmove with
    | complete hactive => simp [hc] at hactive
    | cancelReviewed hreview => simp [hc] at hreview
    | cancelDirect hedge => simp [hc, commercialTransitions] at hedge
    | advance hedge => simp [hc, commercialTransitions] at hedge
  have hnot : row.state.balance ≠ .refunded := fun hb => hopen (h.refunded hb)
  cases hmove with
  | complete hactive hreleased harrived hsettled =>
    refine ⟨h.settled, fun hb => absurd hb hnot, h.collected, h.delivered, h.prepaid, fun _ => ?_,
      h.resume⟩
    exact ⟨hreleased, harrived.symm, hsettled⟩
  | cancelReviewed hreview happroved hrecord hbalance =>
    refine ⟨fun hleft => ?_, fun _ => rfl, h.collected, h.delivered, h.prepaid, by simp, h.resume⟩
    rcases balanceAfterCancellation_ok.mp hbalance with ⟨hu, rfl⟩ | ⟨-, -, rfl⟩ | ⟨-, -, rfl⟩
    · rcases h.settled hleft with hb | hb | hb <;> simp [hu] at hb
    · exact h.settled hleft
    · exact .inr (.inr rfl)
  | cancelDirect hedge hreview hidle =>
    exact ⟨h.settled, fun _ => rfl, h.collected, h.delivered, h.prepaid, by simp, h.resume⟩
  | advance hedge hcancel hcomplete hintake =>
    exact ⟨h.settled, fun hb => absurd hb hnot, h.collected, h.delivered, h.prepaid,
      fun hc => absurd hc hcomplete, h.resume⟩

lemma guarded_production {target : ProductionStatus} {s : OrderState} (h : Guarded row)
    (hopen : row.state.commercial ∉ terminalCommercialStatuses)
    (hpaid : target = .released → goodsMayLeave row.state.balance = true)
    (hmove : ProductionMove row.state target s)
    {refund : Option OrderRefund} {ready : Option Int} {holds : List StorageHold} :
    Guarded { row with
      state := s
      refund := refund
      productionReadyAt := ready
      storageHolds := holds } := by
  have hresume : ∀ status ∈ s.productionResumeStatus, status ∈ startedProduction := by
    cases hmove with
    | interrupt _ hstarted => simpa [startedProduction] using hstarted
    | _ => simp
  rw [hmove.keeps] at hresume ⊢
  refine ⟨fun hleft => ?_, h.refunded, h.collected, h.delivered, h.prepaid, fun hc => ?_, hresume⟩
  · rcases hleft with hr | hflag
    · rcases goodsMayLeave_iff.mp (hpaid hr) with hb | hb
      · exact .inl hb
      · exact .inr (.inl hb)
    · exact h.settled (.inr hflag)
  · have hcompleted : row.state.commercial = .completed := hc
    simp [terminalCommercialStatuses, hcompleted] at hopen

lemma guarded_transition {command : TransitionCommand} (h : Guarded row)
    (happly : applyLockedTransition row command = .ok row') : Guarded row' := by
  obtain ⟨next, refund, holds, hdecide, -, -, rfl⟩ := applyLockedTransition_ok happly
  cases axisMove_of_decide hdecide with
  | commercial target _ hmove => exact guarded_commercial h hmove
  | intake target _ hopen _ hmove =>
    rw [hmove.keeps]
    exact ⟨h.settled, h.refunded, h.collected, h.delivered, h.prepaid, h.completed, h.resume⟩
  | production target _ hopen _ _ hpaid hmove => exact guarded_production h hopen hpaid hmove

lemma guarded_entry (h : Guarded row) (hentry : Entry row row') : Guarded row' := by
  cases hentry with
  | settled hactive hunpaid hshape =>
    refine ⟨fun _ => .inl rfl, by simp [writeSettlement], ?_, h.delivered, ?_,
      fun hc => absurd hc (not_completed hactive), h.resume⟩
    · intro hself
      exact (hshape.collected (by simpa [writeSettlement] using hself)).1
    · intro hprepaid
      exact hshape.prepaid (by simpa [writeSettlement] using hprepaid)
  | paidPart hactive hpayable hpositive =>
    exact ⟨fun hleft => absurd hleft (h.not_left hpayable), by simp, h.collected, h.delivered,
      h.prepaid, fun hc => absurd hc (not_completed hactive), h.resume⟩
  | paidOff payments settlement fixed hactive hpayable hledger hshape =>
    refine ⟨fun _ => .inl rfl, by simp, ?_, h.delivered, ?_,
      fun hc => absurd hc (not_completed hactive), h.resume⟩
    · intro hself
      rcases Bool.or_eq_true _ _ ▸ hself with hself | hself
      · exact h.collected hself
      · exact (hshape.collected (by simpa using hself)).1
    · intro hprepaid
      exact hshape.prepaid (by simpa using hprepaid)
  | waived => exact ⟨h.settled, h.refunded, h.collected, h.delivered, h.prepaid, h.completed, h.resume⟩
  | waivedOff settlement fixed hpartly hshape =>
    refine ⟨fun _ => .inl rfl, by simp, h.collected, h.delivered, ?_, fun hc => ?_, h.resume⟩
    · intro hprepaid
      exact hshape.prepaid (by simpa using hprepaid)
    · obtain ⟨hreleased, hflag, -⟩ := h.completed hc
      exact ⟨hreleased, hflag, .inl rfl⟩
  | collected hactive hpaid hready hprepaid =>
    exact ⟨fun _ => .inl hpaid, h.refunded, fun _ => h.prepaid hprepaid, h.delivered, h.prepaid,
      fun hc => absurd hc (not_completed hactive), h.resume⟩
  | leg hactive hreturn =>
    refine ⟨fun hleft => ?_, h.refunded, h.collected, fun hlegs => ?_, h.prepaid,
      fun hc => absurd hc (not_completed hactive), h.resume⟩
    · rcases hleft with hr | hself | hlegs
      · exact h.settled (.inl hr)
      · exact h.settled (.inr (.inl hself))
      · rcases Bool.or_eq_true _ _ ▸ hlegs with hlegs | hlegs
        · exact h.settled (.inr (.inr hlegs))
        · simp only [Bool.and_eq_true, decide_eq_true_eq] at hlegs
          obtain ⟨-, -, hleave⟩ := hreturn hlegs.1
          rcases goodsMayLeave_iff.mp hleave with hb | hb
          · exact .inl hb
          · exact .inr (.inl hb)
    · rcases Bool.or_eq_true _ _ ▸ hlegs with hlegs | hlegs
      · exact h.delivered hlegs
      · simp only [Bool.and_eq_true, decide_eq_true_eq] at hlegs
        exact (hreturn hlegs.1).1
  | charged hactive hpayable hready hcollected =>
    refine ⟨fun _ => .inr (.inl rfl), by simp [writeCharge], fun hself => ?_, h.delivered, h.prepaid,
      fun hc => absurd hc (not_completed hactive), h.resume⟩
    rcases Bool.or_eq_true _ _ ▸ hself with hself | hself
    · exact h.collected hself
    · exact hcollected.mp hself
  | allocatedPart honAccount hpositive =>
    exact ⟨h.settled, h.refunded, h.collected, h.delivered, h.prepaid, h.completed, h.resume⟩
  | allocatedOff honAccount hpositive =>
    refine ⟨fun _ => .inl rfl, by simp [writeAccountSettlement], h.collected, h.delivered,
      by simp [writeAccountSettlement], fun hc => ?_, h.resume⟩
    obtain ⟨hreleased, hflag, -⟩ := h.completed hc
    exact ⟨hreleased, hflag, .inl rfl⟩
  | published =>
    exact ⟨h.settled, h.refunded, h.collected, h.delivered, h.prepaid, h.completed, h.resume⟩

lemma guarded_change (h : Guarded row) (hchange : Change row row') : Guarded row' := by
  cases hchange with
  | transition command happly => exact guarded_transition h happly
  | entry hentry => exact guarded_entry h hentry

lemma guarded_run (h : Guarded row) (commands : List Command) : Guarded (run row commands) :=
  run_induction (fun _ _ h hchange => guarded_change h hchange) h commands

lemma flags_transition {command : TransitionCommand}
    (happly : applyLockedTransition row command = .ok row') :
    row'.state.selfCollectionRecorded = row.state.selfCollectionRecorded ∧
      row'.state.requiredDeliveryLegsSucceeded = row.state.requiredDeliveryLegsSucceeded ∧
      row'.state.fulfillmentMode = row.state.fulfillmentMode := by
  obtain ⟨next, refund, holds, hdecide, -, -, rfl⟩ := applyLockedTransition_ok happly
  cases axisMove_of_decide hdecide with
  | commercial target _ hmove =>
    rw [hmove.keeps]
    exact ⟨rfl, rfl, rfl⟩
  | intake target _ _ _ hmove =>
    rw [hmove.keeps]
    exact ⟨rfl, rfl, rfl⟩
  | production target _ _ _ _ _ hmove =>
    rw [hmove.keeps]
    exact ⟨rfl, rfl, rfl⟩

lemma flags_executePlan {chain : Option Int} {occurredAt : Datetime} {index : Nat}
    {plan : List PlannedTransition} (h : executePlan chain occurredAt index row plan = .ok row') :
    row'.state.selfCollectionRecorded = row.state.selfCollectionRecorded ∧
      row'.state.requiredDeliveryLegsSucceeded = row.state.requiredDeliveryLegsSucceeded ∧
      row'.state.fulfillmentMode = row.state.fulfillmentMode := by
  induction plan generalizing index row with
  | nil =>
    cases h
    exact ⟨rfl, rfl, rfl⟩
  | cons planned plan ih =>
    unfold executePlan at h
    obtain ⟨moment, -, h⟩ := bind_ok.mp h
    obtain ⟨row₁, h₁, h⟩ := bind_ok.mp h
    obtain ⟨hself, hlegs, hmode⟩ := flags_transition h₁
    obtain ⟨hself', hlegs', hmode'⟩ := ih h
    exact ⟨hself'.trans hself, hlegs'.trans hlegs, hmode'.trans hmode⟩

lemma released_from {target : ProductionStatus} {s s' : OrderState}
    (hresume : ∀ status ∈ s.productionResumeStatus, status ∈ startedProduction)
    (hmove : ProductionMove s target s') (htarget : target = .released) :
    s.production = .readyAtStore := by
  subst htarget
  cases hmove with
  | resumeHold _ hsome => simp [hsome, startedProduction] at hresume
  | resolve hexception hsome hmember hback =>
    rename_i resume
    have hstarted := hresume resume hsome
    exfalso
    revert hstarted hback
    cases resume <;> decide
  | interrupt htarget => rcases htarget with ht | ht <;> cases ht
  | advance hedge => simpa using hedge

def LeavesSettled (s s' : OrderState) : Prop :=
  (s.production = .readyAtStore ∨ s.production = .released) ∧
    (s'.balance = .paid ∨ s'.balance = .onAccount)

lemma leaving_transition {command : TransitionCommand} (h : Guarded row)
    (happly : applyLockedTransition row command = .ok row')
    (hleaving : Leaving row.state row'.state) : LeavesSettled row.state row'.state := by
  obtain ⟨hself, hlegs, -⟩ := flags_transition happly
  obtain ⟨next, refund, holds, hdecide, -, -, rfl⟩ := applyLockedTransition_ok happly
  have hreleased := hleaving.released hself hlegs
  cases axisMove_of_decide hdecide with
  | commercial target _ hmove =>
    rw [hmove.keeps] at hreleased
    exact absurd hreleased.2 hreleased.1
  | intake target _ _ _ hmove =>
    rw [hmove.keeps] at hreleased
    exact absurd hreleased.2 hreleased.1
  | production target _ _ _ _ hpaid hmove =>
    have htarget : target = .released := by
      rw [← hmove.production_eq]
      exact hreleased.2
    refine ⟨.inl (released_from h.resume hmove htarget), ?_⟩
    rw [hmove.keeps]
    exact goodsMayLeave_iff.mp (hpaid htarget)

lemma handoverReady {production : ProductionStatus} (h : production ∈ handoverReadyProduction) :
    production = .readyAtStore ∨ production = .released := by
  simpa [handoverReadyProduction] using h

lemma leaving_entry (hentry : Entry row row') (hleaving : Leaving row.state row'.state) :
    LeavesSettled row.state row'.state := by
  cases hentry with
  | settled hactive hunpaid hshape =>
    refine ⟨handoverReady ?_, .inl rfl⟩
    rcases hleaving with ⟨hf, ht⟩ | ⟨hf, ht⟩ | ⟨hf, ht⟩
    · exact absurd ht hf
    · exact (hshape.collected (by simpa [writeSettlement] using ht)).2
    · simp [writeSettlement, hf] at ht
  | paidPart hactive hpayable hpositive => exact absurd hleaving (not_leaving rfl rfl rfl)
  | paidOff payments settlement fixed hactive hpayable hledger hshape =>
    refine ⟨handoverReady ?_, .inl rfl⟩
    rcases hleaving with ⟨hf, ht⟩ | ⟨hf, ht⟩ | ⟨hf, ht⟩
    · exact absurd ht hf
    · exact (hshape.collected (by simpa [hf] using ht)).2
    · simp [hf] at ht
  | waived => exact absurd hleaving (not_leaving rfl rfl rfl)
  | waivedOff settlement fixed hpartly hshape => exact absurd hleaving (not_leaving rfl rfl rfl)
  | collected hactive hpaid hready hprepaid => exact ⟨handoverReady hready, .inl hpaid⟩
  | leg hactive hreturn =>
    rcases hleaving with ⟨hf, ht⟩ | ⟨hf, ht⟩ | ⟨hf, ht⟩
    · exact absurd ht hf
    · simp [writeLeg, hf] at ht
    · simp only [writeLeg, hf, Bool.false_or, Bool.and_eq_true, decide_eq_true_eq] at ht
      obtain ⟨-, hready, hleave⟩ := hreturn ht.1
      exact ⟨handoverReady hready, goodsMayLeave_iff.mp hleave⟩
  | charged hactive hpayable hready hcollected => exact ⟨handoverReady hready, .inr rfl⟩
  | allocatedPart honAccount hpositive => exact absurd hleaving (not_leaving rfl rfl rfl)
  | allocatedOff honAccount hpositive => exact absurd hleaving (not_leaving rfl rfl rfl)
  | published => exact absurd hleaving (not_leaving rfl rfl rfl)

lemma leaving_step {step : OrderStep} {args : StepArguments} {chain : Option Int} (h : Guarded row)
    (hok : executeStep row step args chain = .ok row')
    (hleaving : Leaving row.state row'.state) : LeavesSettled row.state row'.state := by
  obtain ⟨plan, hplan, hexecute⟩ := bind_ok.mp hok
  rw [mapError_ok] at hplan
  obtain ⟨sim, hsim, rfl⟩ := planStep_ok.mp hplan
  obtain ⟨moment, -, hstate⟩ := agrees_executePlan (.refl _) (simulatedPlan_traced hsim) hexecute
  obtain ⟨hself, hlegs, -⟩ := flags_executePlan hexecute
  have hreleased := hleaving.released hself hlegs
  have hresume : row.state.productionResumeStatus ≠ some .released := by
    intro hsome
    simpa [startedProduction] using h.resume _ hsome
  rw [hstate] at hreleased ⊢
  obtain ⟨hready, hpaid⟩ := (simulateStep_production (simulatedPlan_ok.mp hsim).2.2.2.2.2.1).released
    hresume hreleased.2 hreleased.1
  exact ⟨.inl hready, goodsMayLeave_iff.mp hpaid⟩

lemma commercial_same_production {target : CommercialOrderStatus} {command : TransitionCommand}
    (htarget : command.target = .commercial target)
    (happly : applyLockedTransition row command = .ok row') :
    row'.state.production = row.state.production := by
  obtain ⟨next, refund, holds, hdecide, -, -, rfl⟩ := applyLockedTransition_ok happly
  cases axisMove_of_decide hdecide with
  | commercial _ _ hmove => rw [hmove.keeps]
  | intake _ htarget' => cases htarget.symm.trans htarget'
  | production _ htarget' => cases htarget.symm.trans htarget'

lemma leaving_attempt {command : Command} (h : Guarded row) (hok : attempt row command = .ok row')
    (hleaving : Leaving row.state row'.state) : LeavesSettled row.state row'.state := by
  rcases attempt_cases hok with ⟨c, -, hok⟩ | ⟨_, _, _, -, hok⟩ | ⟨_, _, _, -, hok⟩ | hentry
  · exact leaving_transition h hok hleaving
  · exact leaving_step h hok hleaving
  · obtain ⟨-, _, _, reviewed, h₁, h₂⟩ := dispose_ok hok
    obtain ⟨hself₁, hlegs₁, -⟩ := flags_transition h₁
    obtain ⟨hself₂, hlegs₂, -⟩ := flags_transition h₂
    have hp₁ := commercial_same_production rfl h₁
    have hp₂ := commercial_same_production rfl h₂
    exact absurd hleaving (not_leaving (hp₂.trans hp₁) (hself₂.trans hself₁) (hlegs₂.trans hlegs₁))
  · exact leaving_entry hentry hleaving

/-- For every run of commands on a new order: a command that records goods as having left
found them finished and leaves them settled; goods that left are paid, on account or, on a
cancelled order, refunded; each record is made only in the modes it is for; and a completed
order is released, handed over and settled. -/
theorem goods_leave_only_when_paid (mode : FulfillmentMode) (quoted : QuotedTotal)
    (readiness : QuoteReadinessFacts) (policy : Option StoragePolicy) (commands : List Command) :
    let row := run (.created mode quoted readiness policy) commands
    (∀ command, Leaving row.state (apply row command).state →
      (row.state.production = .readyAtStore ∨ row.state.production = .released) ∧
        ((apply row command).state.balance = .paid ∨
          (apply row command).state.balance = .onAccount)) ∧
      (Left row.state → row.state.balance = .paid ∨ row.state.balance = .onAccount ∨
        row.state.balance = .refunded) ∧
      (row.state.balance = .refunded → row.state.commercial = .cancelled) ∧
      (row.state.selfCollectionRecorded = true →
        row.state.fulfillmentMode ∉ modesExpectingReturn) ∧
      (row.state.requiredDeliveryLegsSucceeded = true →
        row.state.fulfillmentMode ∈ modesExpectingReturn) ∧
      (row.state.commercial = .completed → row.state.production = .released ∧
        (row.state.selfCollectionRecorded = true ∨
          row.state.requiredDeliveryLegsSucceeded = true) ∧
        (row.state.balance = .paid ∨ row.state.balance = .onAccount)) := by
  intro row
  have h : Guarded row := guarded_run (guarded_created mode quoted readiness policy) commands
  refine ⟨fun command hleaving => ?_, h.settled, h.refunded, h.collected, h.delivered, h.completed⟩
  cases hok : attempt row command with
  | ok row' =>
    simp only [apply, hok] at hleaving ⊢
    exact leaving_attempt h hok hleaving
  | error e =>
    simp only [apply, hok] at hleaving
    exact absurd hleaving (not_leaving rfl rfl rfl)

end NhaTrangLaundry.Db.Orders
