import NhaTrangLaundry.Domain.OrderMoves
import NhaTrangLaundry.Domain.OrderSteps

/-! A plan is the trace of its simulation: its transitions, followed one at a time from
the order's state, end where the simulation ended. -/

namespace NhaTrangLaundry.Domain.OrderSteps

open Lib Outcome Catalog Settlement Payments Handover Orders

def PlannedTransition.follow (acceptedAt : Datetime) (s : OrderState) (planned : PlannedTransition) :
    Except OrderTransitionError OrderState :=
  match planned.target with
  | .commercial target => transitionCommercial s target (.of planned.custodyResolution false)
  | .intake target => transitionIntake s target planned.intakeReadiness
      (if target = .accepted then some acceptedAt else none)
  | .production target => transitionProduction s target

def followPlan (acceptedAt : Datetime) (s : OrderState) (plan : List PlannedTransition) :
    Except OrderTransitionError OrderState :=
  plan.foldlM (PlannedTransition.follow acceptedAt) s

/-- The transitions planned so far lead from `s` to the simulated state. -/
def Simulation.Traced (acceptedAt : Datetime) (s : OrderState) (sim : Simulation) : Prop :=
  followPlan acceptedAt s sim.planned = .ok sim.state

section

variable {acceptedAt : Datetime} {s : OrderState} {sim sim' : Simulation}

lemma traced_start : Simulation.Traced acceptedAt s ⟨s, []⟩ := rfl

lemma traced_append {planned : PlannedTransition} {state : OrderState}
    (h : sim.Traced acceptedAt s) (hstep : planned.follow acceptedAt sim.state = .ok state) :
    Simulation.Traced acceptedAt s ⟨state, sim.planned ++ [planned]⟩ := by
  have htrace : sim.planned.foldlM (PlannedTransition.follow acceptedAt) s = .ok sim.state := h
  unfold Simulation.Traced followPlan
  rw [List.foldlM_append, htrace, ok_bind, List.foldlM_cons, hstep]
  rfl

lemma traced_commercial {target : CommercialOrderStatus} {resolution : Option CustodyResolution}
    (h : sim.Traced acceptedAt s) (hstep : sim.commercial target resolution = .ok sim') :
    sim'.Traced acceptedAt s := by
  obtain ⟨state, hstate, hstep⟩ := bind_ok.mp hstep
  cases hstep
  exact traced_append h hstate

lemma traced_intake {target : IntakeStatus} {readiness : Option IntakeReadiness}
    {moment : Option Datetime} (h : sim.Traced acceptedAt s)
    (hmoment : moment = if target = .accepted then some acceptedAt else none)
    (hstep : sim.intake target readiness moment = .ok sim') : sim'.Traced acceptedAt s := by
  obtain ⟨state, hstate, hstep⟩ := bind_ok.mp hstep
  cases hstep
  rw [hmoment] at hstate
  exact traced_append h hstate

lemma traced_production {target : ProductionStatus} (h : sim.Traced acceptedAt s)
    (hstep : sim.production target = .ok sim') : sim'.Traced acceptedAt s := by
  obtain ⟨state, hstate, hstep⟩ := bind_ok.mp hstep
  cases hstep
  exact traced_append h hstate

def Silent (note : PlannedTransition → PlannedTransition) : Prop :=
  ∀ p, (note p).target = p.target ∧ (note p).custodyResolution = p.custodyResolution ∧
    (note p).intakeReadiness = p.intakeReadiness

lemma follow_note {note : PlannedTransition → PlannedTransition} (hnote : Silent note)
    (p : PlannedTransition) : (note p).follow acceptedAt s = p.follow acceptedAt s := by
  obtain ⟨htarget, hresolution, hreadiness⟩ := hnote p
  unfold PlannedTransition.follow
  rw [htarget, hresolution, hreadiness]

lemma followPlan_modify {note : PlannedTransition → PlannedTransition} (hnote : Silent note)
    (plan : List PlannedTransition) (i : Nat) :
    followPlan acceptedAt s (plan.modify i note) = followPlan acceptedAt s plan := by
  induction plan generalizing i s with
  | nil => simp
  | cons p plan ih =>
    cases i with
    | zero =>
      rw [List.modify_zero_cons]
      unfold followPlan
      rw [List.foldlM_cons, List.foldlM_cons, follow_note hnote]
    | succ i =>
      rw [List.modify_succ_cons]
      unfold followPlan at ih ⊢
      rw [List.foldlM_cons, List.foldlM_cons]
      congr 1
      funext state
      exact ih i

lemma traced_noteLast {note : PlannedTransition → PlannedTransition} (hnote : Silent note)
    (h : sim.Traced acceptedAt s) : (sim.noteLast note).Traced acceptedAt s := by
  unfold Simulation.Traced Simulation.noteLast
  rw [followPlan_modify hnote]
  exact h

lemma traced_noteFirst {note : PlannedTransition → PlannedTransition} (hnote : Silent note)
    (h : sim.Traced acceptedAt s) : (sim.noteFirst note).Traced acceptedAt s := by
  have hhead : sim.planned.modifyHead note = sim.planned.modify 0 note := by
    cases sim.planned <;> simp
  unfold Simulation.Traced Simulation.noteFirst
  rw [hhead, followPlan_modify hnote]
  exact h

lemma traced_confirmTowards {target : CommercialOrderStatus} (h : sim.Traced acceptedAt s)
    (hstep : confirmTowards sim target = .ok sim') : sim'.Traced acceptedAt s := by
  unfold confirmTowards at hstep
  split at hstep
  · exact traced_commercial h hstep
  · cases hstep
    exact h

lemma traced_receive {facts : StepFacts} {slotApproved : Bool} (h : sim.Traced acceptedAt s)
    (hstep : planReceive sim facts slotApproved acceptedAt = .ok sim') :
    sim'.Traced acceptedAt s := by
  unfold planReceive at hstep
  obtain ⟨_, -, hstep⟩ := bind_ok.mp hstep
  obtain ⟨sim₁, h₁, hstep⟩ := bind_ok.mp hstep
  obtain ⟨sim₂, h₂, hstep⟩ := bind_ok.mp hstep
  obtain ⟨sim₃, h₃, hstep⟩ := bind_ok.mp hstep
  obtain ⟨sim₄, h₄, hstep⟩ := bind_ok.mp hstep
  have ht₁ : sim₁.Traced acceptedAt s := by
    unfold receiveHandoff at h₁
    split at h₁
    · exact traced_intake h rfl h₁
    · cases h₁
      exact h
  have ht₂ : sim₂.Traced acceptedAt s := by
    unfold requestDraft at h₂
    split at h₂
    · exact traced_commercial ht₁ h₂
    · cases h₂
      exact ht₁
  have ht₃ : sim₃.Traced acceptedAt s := by
    simp only [commercialToConfirmed, List.tail_cons, List.foldlM_cons, List.foldlM_nil,
      bind_ok, pure_ok] at h₃
    obtain ⟨middle, hmiddle, last, hlast, rfl⟩ := h₃
    exact traced_confirmTowards (traced_confirmTowards ht₂ hmiddle) hlast
  have ht₄ : sim₄.Traced acceptedAt s := by
    unfold acceptGoods at h₄
    split at h₄
    · cases h₄
      exact ht₃
    · obtain ⟨_, -, h₄⟩ := bind_ok.mp h₄
      exact traced_intake ht₃ rfl h₄
  exact traced_commercial ht₄ hstep

lemma traced_cancel {resolution : Option CustodyResolution} (h : sim.Traced acceptedAt s)
    (hstep : planCancel sim resolution = .ok sim') : sim'.Traced acceptedAt s := by
  unfold planCancel at hstep
  split at hstep
  · obtain ⟨sim₁, h₁, hstep⟩ := bind_ok.mp hstep
    exact traced_commercial (traced_commercial h h₁) hstep
  · exact traced_commercial h hstep

lemma traced_attachRefundMethod {before : OrderState} {method : Option PaymentMethod}
    (h : sim.Traced acceptedAt s) (hstep : attachRefundMethod sim before method = .ok sim') :
    sim'.Traced acceptedAt s := by
  unfold attachRefundMethod at hstep
  split at hstep
  · cases method with
    | none => cases hstep
    | some method =>
      cases hstep
      exact traced_noteLast (fun p => ⟨rfl, rfl, rfl⟩) h
  · obtain ⟨_, -, hstep⟩ := bind_ok.mp hstep
    cases hstep
    exact h

lemma traced_rewash {reason : Option RewashReason} (h : sim.Traced acceptedAt s)
    (hstep : planRewash sim reason = .ok sim') : sim'.Traced acceptedAt s := by
  unfold planRewash at hstep
  iterate 5 obtain ⟨_, -, hstep⟩ := bind_ok.mp hstep
  obtain ⟨sim₁, h₁, hstep⟩ := bind_ok.mp hstep
  obtain ⟨sim₂, h₂, hstep⟩ := bind_ok.mp hstep
  cases hstep
  exact traced_noteFirst (fun p => ⟨rfl, rfl, rfl⟩) (traced_production (traced_production h h₁) h₂)

lemma traced_rejectIntake {reason : Option IntakeRejectionReason} (h : sim.Traced acceptedAt s)
    (hstep : planRejectIntake sim reason = .ok sim') : sim'.Traced acceptedAt s := by
  unfold planRejectIntake at hstep
  iterate 5 obtain ⟨_, -, hstep⟩ := bind_ok.mp hstep
  obtain ⟨sim₁, h₁, hstep⟩ := bind_ok.mp hstep
  obtain ⟨sim₂, h₂, hstep⟩ := bind_ok.mp hstep
  cases hstep
  exact traced_noteFirst (fun p => ⟨rfl, rfl, rfl⟩) (traced_commercial (traced_intake h rfl h₁) h₂)

end

lemma simulateStep_traced {step : OrderStep} {facts : StepFacts} {args : StepArguments}
    {sim : Simulation} (h : simulateStep step facts args = .ok sim) :
    sim.Traced args.acceptedAt facts.state := by
  have hstart : Simulation.Traced args.acceptedAt facts.state ⟨facts.state, []⟩ := traced_start
  cases step with
  | receive => exact traced_receive hstart h
  | startWash =>
    replace h : planStartWash ⟨facts.state, []⟩ = .ok sim := h
    unfold planStartWash at h
    obtain ⟨_, -, h⟩ := bind_ok.mp h
    split at h
    · obtain ⟨sim₁, h₁, h⟩ := bind_ok.mp h
      exact traced_production (traced_production hstart h₁) h
    · obtain ⟨_, -, h⟩ := bind_ok.mp h
      exact traced_production hstart h
  | qualityCheck =>
    obtain ⟨_, -, h⟩ := bind_ok.mp h
    exact traced_production hstart h
  | markReady =>
    obtain ⟨_, -, h⟩ := bind_ok.mp h
    exact traced_production hstart h
  | hold => exact traced_production hstart h
  | resume =>
    replace h : planResume ⟨facts.state, []⟩ = .ok sim := h
    unfold planResume at h
    obtain ⟨_, -, h⟩ := bind_ok.mp h
    split at h
    · cases h
    · exact traced_production hstart h
  | rewash => exact traced_rewash hstart h
  | release =>
    obtain ⟨_, -, h⟩ := bind_ok.mp h
    obtain ⟨_, -, h⟩ := bind_ok.mp h
    exact traced_production hstart h
  | handOver =>
    replace h : planHandOver ⟨facts.state, []⟩ = .ok sim := h
    unfold planHandOver at h
    split at h
    · exact traced_commercial hstart h
    · obtain ⟨_, -, h⟩ := bind_ok.mp h
      obtain ⟨sim₁, h₁, h⟩ := bind_ok.mp h
      exact traced_commercial (traced_production hstart h₁) h
  | complete => exact traced_commercial hstart h
  | cancel =>
    obtain ⟨sim₁, h₁, h⟩ := bind_ok.mp h
    exact traced_attachRefundMethod (traced_cancel hstart h₁) h
  | rejectIntake => exact traced_rejectIntake hstart h
  | reopen =>
    obtain ⟨_, -, h⟩ := bind_ok.mp h
    exact traced_commercial hstart h
  | takePayment => cases h
  | collect => cases h
  | deliveryPickup => cases h
  | deliveryReturn => cases h

section

variable {sim sim' : Simulation}

lemma commercial_production {target : CommercialOrderStatus} {resolution : Option CustodyResolution}
    (h : sim.commercial target resolution = .ok sim') :
    sim'.state.production = sim.state.production := by
  obtain ⟨state, hstate, h⟩ := bind_ok.mp h
  cases h
  rw [(transitionCommercial_ok.mp hstate).2.keeps]

lemma intake_production {target : IntakeStatus} {readiness : Option IntakeReadiness}
    {moment : Option Datetime} (h : sim.intake target readiness moment = .ok sim') :
    sim'.state.production = sim.state.production := by
  obtain ⟨state, hstate, h⟩ := bind_ok.mp h
  cases h
  rw [(transitionIntake_ok.mp hstate).2.2.2.keeps]

lemma production_production {target : ProductionStatus} (h : sim.production target = .ok sim') :
    sim'.state.production = target ∧ sim'.state.balance = sim.state.balance := by
  obtain ⟨state, hstate, h⟩ := bind_ok.mp h
  cases h
  rw [(transitionProduction_ok.mp hstate).2.2.2.2.keeps]
  exact ⟨rfl, rfl⟩

lemma completed_balance {resolution : Option CustodyResolution}
    (h : sim.commercial .completed resolution = .ok sim') :
    goodsMayLeave sim'.state.balance = true := by
  obtain ⟨state, hstate, h⟩ := bind_ok.mp h
  cases h
  cases (transitionCommercial_ok.mp hstate).2 with
  | complete _ _ _ hsettled => exact goodsMayLeave_iff.mpr hsettled
  | advance _ _ hcomplete => exact absurd rfl hcomplete

lemma receive_production {facts : StepFacts} {slotApproved : Bool} {acceptedAt : Datetime}
    (h : planReceive sim facts slotApproved acceptedAt = .ok sim') :
    sim'.state.production = sim.state.production := by
  unfold planReceive at h
  obtain ⟨_, -, h⟩ := bind_ok.mp h
  obtain ⟨sim₁, h₁, h⟩ := bind_ok.mp h
  obtain ⟨sim₂, h₂, h⟩ := bind_ok.mp h
  obtain ⟨sim₃, h₃, h⟩ := bind_ok.mp h
  obtain ⟨sim₄, h₄, h⟩ := bind_ok.mp h
  have hp₁ : sim₁.state.production = sim.state.production := by
    unfold receiveHandoff at h₁
    split at h₁
    · exact intake_production h₁
    · cases h₁
      rfl
  have hp₂ : sim₂.state.production = sim₁.state.production := by
    unfold requestDraft at h₂
    split at h₂
    · exact commercial_production h₂
    · cases h₂
      rfl
  have hconfirm : ∀ {sim sim' : Simulation} {target}, confirmTowards sim target = .ok sim' →
      sim'.state.production = sim.state.production := by
    intro sim sim' target h
    unfold confirmTowards at h
    split at h
    · exact commercial_production h
    · cases h
      rfl
  have hp₃ : sim₃.state.production = sim₂.state.production := by
    simp only [commercialToConfirmed, List.tail_cons, List.foldlM_cons, List.foldlM_nil,
      bind_ok, pure_ok] at h₃
    obtain ⟨middle, hmiddle, last, hlast, rfl⟩ := h₃
    exact (hconfirm hlast).trans (hconfirm hmiddle)
  have hp₄ : sim₄.state.production = sim₃.state.production := by
    unfold acceptGoods at h₄
    split at h₄
    · cases h₄
      rfl
    · obtain ⟨_, -, h₄⟩ := bind_ok.mp h₄
      exact intake_production h₄
  exact (commercial_production h).trans (hp₄.trans (hp₃.trans (hp₂.trans hp₁)))

lemma cancel_production {resolution : Option CustodyResolution} {before : OrderState}
    {method : Option PaymentMethod} {sim₁ : Simulation} (h₁ : planCancel sim resolution = .ok sim₁)
    (h : attachRefundMethod sim₁ before method = .ok sim') :
    sim'.state = sim₁.state ∧ sim₁.state.production = sim.state.production := by
  constructor
  · unfold attachRefundMethod at h
    split at h
    · cases method with
      | none => cases h
      | some method =>
        cases h
        rfl
    · obtain ⟨_, -, h⟩ := bind_ok.mp h
      cases h
      rfl
  · unfold planCancel at h₁
    split at h₁
    · obtain ⟨sim₂, h₂, h₁⟩ := bind_ok.mp h₁
      exact (commercial_production h₁).trans (commercial_production h₂)
    · exact commercial_production h₁

end

lemma requireProduction_ok {state : OrderState} {expected : ProductionStatus} {u : Unit} :
    requireProduction state expected = .ok u ↔
      state.commercial ∉ terminalCommercialStatuses ∧ state.production = expected := by
  unfold requireProduction
  constructor
  · intro h
    obtain ⟨_, hopen, h⟩ := bind_ok.mp h
    exact ⟨require_ok.mp hopen, require_ok.mp h⟩
  · rintro ⟨hopen, hproduction⟩
    rw [require_true hopen, require_true hproduction]
    rfl

/-- Where each step finds production, and where it leaves it. -/
inductive ProductionStep (s s' : OrderState) : OrderStep → Prop where
  | still {step : OrderStep} (hsame : s'.production = s.production) : ProductionStep s s' step
  | startWash (hfrom : s.production = .notStarted ∨ s.production = .queued)
      (hto : s'.production = .inProcess) : ProductionStep s s' .startWash
  | qualityCheck (hfrom : s.production = .inProcess) (hto : s'.production = .qualityCheck) :
      ProductionStep s s' .qualityCheck
  | markReady (hfrom : s.production = .qualityCheck) (hto : s'.production = .readyAtStore) :
      ProductionStep s s' .markReady
  | hold (hmove : ProductionMove s .onHold s') : ProductionStep s s' .hold
  | resume (hfrom : s.production = .onHold ∨ s.production = .exception)
      (hto : s.productionResumeStatus = some s'.production) : ProductionStep s s' .resume
  | rewash (hfrom : s.production ∈ rewashFromProduction)
      (huncollected : s.selfCollectionRecorded = false) (hto : s'.production = .inProcess) :
      ProductionStep s s' .rewash
  | letGo {step : OrderStep} (hfrom : s.production = .readyAtStore)
      (hto : s'.production = .released) (hpaid : goodsMayLeave s'.balance = true) :
      ProductionStep s s' step

lemma productionStep_startWash {s : OrderState} {sim : Simulation}
    (h : planStartWash ⟨s, []⟩ = .ok sim) : ProductionStep s sim.state .startWash := by
  unfold planStartWash at h
  obtain ⟨_, -, h⟩ := bind_ok.mp h
  split at h
  · next hfrom =>
    obtain ⟨sim₁, -, h⟩ := bind_ok.mp h
    exact .startWash (.inl hfrom) (production_production h).1
  · obtain ⟨_, hfrom, h⟩ := bind_ok.mp h
    exact .startWash (.inr (requireProduction_ok.mp hfrom).2) (production_production h).1

lemma productionStep_resume {s : OrderState} {sim : Simulation}
    (h : planResume ⟨s, []⟩ = .ok sim) : ProductionStep s sim.state .resume := by
  unfold planResume at h
  obtain ⟨_, hfrom, h⟩ := bind_ok.mp h
  split at h
  · cases h
  · next resume hresume =>
    refine .resume (require_ok.mp hfrom) ?_
    rw [(production_production h).1]
    exact hresume

lemma productionStep_rewash {s : OrderState} {sim : Simulation} {reason : Option RewashReason}
    (h : planRewash ⟨s, []⟩ reason = .ok sim) : ProductionStep s sim.state .rewash := by
  unfold planRewash at h
  obtain ⟨_, -, h⟩ := bind_ok.mp h
  obtain ⟨_, -, h⟩ := bind_ok.mp h
  obtain ⟨_, hfrom, h⟩ := bind_ok.mp h
  obtain ⟨_, hself, h⟩ := bind_ok.mp h
  obtain ⟨_, -, h⟩ := bind_ok.mp h
  obtain ⟨sim₁, -, h⟩ := bind_ok.mp h
  obtain ⟨sim₂, h₂, h⟩ := bind_ok.mp h
  cases h
  exact .rewash (require_ok.mp hfrom) (require_ok.mp hself) (production_production h₂).1

lemma productionStep_release {s : OrderState} {sim : Simulation}
    (h : planRelease ⟨s, []⟩ = .ok sim) : ProductionStep s sim.state .release := by
  obtain ⟨_, hready, h⟩ := bind_ok.mp h
  obtain ⟨_, hpaid, h⟩ := bind_ok.mp h
  refine .letGo (requireProduction_ok.mp hready).2 (production_production h).1 ?_
  rw [(production_production h).2]
  exact require_ok.mp hpaid

lemma productionStep_handOver {s : OrderState} {sim : Simulation}
    (h : planHandOver ⟨s, []⟩ = .ok sim) : ProductionStep s sim.state .handOver := by
  unfold planHandOver at h
  split at h
  · exact .still (commercial_production h)
  · obtain ⟨_, hready, h⟩ := bind_ok.mp h
    obtain ⟨sim₁, h₁, h⟩ := bind_ok.mp h
    refine .letGo (requireProduction_ok.mp hready).2 ?_ (completed_balance h)
    rw [commercial_production h, (production_production h₁).1]

lemma simulateStep_production {step : OrderStep} {facts : StepFacts} {args : StepArguments}
    {sim : Simulation} (h : simulateStep step facts args = .ok sim) :
    ProductionStep facts.state sim.state step := by
  cases step with
  | receive => exact .still (receive_production h)
  | startWash => exact productionStep_startWash h
  | qualityCheck =>
    obtain ⟨_, hfrom, h⟩ := bind_ok.mp h
    exact .qualityCheck (requireProduction_ok.mp hfrom).2 (production_production h).1
  | markReady =>
    obtain ⟨_, hfrom, h⟩ := bind_ok.mp h
    exact .markReady (requireProduction_ok.mp hfrom).2 (production_production h).1
  | hold =>
    obtain ⟨state, hstate, h⟩ := bind_ok.mp h
    cases h
    exact .hold (transitionProduction_ok.mp hstate).2.2.2.2
  | resume => exact productionStep_resume h
  | rewash => exact productionStep_rewash h
  | release => exact productionStep_release h
  | handOver => exact productionStep_handOver h
  | complete => exact .still (commercial_production h)
  | cancel =>
    obtain ⟨sim₁, h₁, h⟩ := bind_ok.mp h
    obtain ⟨hstate, hproduction⟩ := cancel_production h₁ h
    exact .still (by rw [hstate, hproduction])
  | rejectIntake =>
    replace h : planRejectIntake ⟨facts.state, []⟩ args.rejectionReason = .ok sim := h
    unfold planRejectIntake at h
    iterate 5 obtain ⟨_, -, h⟩ := bind_ok.mp h
    obtain ⟨sim₁, h₁, h⟩ := bind_ok.mp h
    obtain ⟨sim₂, h₂, h⟩ := bind_ok.mp h
    cases h
    exact .still ((commercial_production h₂).trans (intake_production h₁))
  | reopen =>
    obtain ⟨_, -, h⟩ := bind_ok.mp h
    exact .still (commercial_production h)
  | takePayment => cases h
  | collect => cases h
  | deliveryPickup => cases h
  | deliveryReturn => cases h

section

variable {s s' : OrderState} {step : OrderStep}

lemma ProductionStep.released (h : ProductionStep s s' step)
    (hresume : s.productionResumeStatus ≠ some .released) (hreleased : s'.production = .released)
    (hbefore : s.production ≠ .released) :
    s.production = .readyAtStore ∧ goodsMayLeave s'.balance = true := by
  cases h with
  | still hsame => exact absurd (hsame ▸ hreleased) hbefore
  | startWash _ hto => cases hreleased.symm.trans hto
  | qualityCheck _ hto => cases hreleased.symm.trans hto
  | markReady _ hto => cases hreleased.symm.trans hto
  | hold hmove => cases hreleased.symm.trans hmove.production_eq
  | resume _ hto => exact absurd (hreleased ▸ hto) hresume
  | rewash _ _ hto => cases hreleased.symm.trans hto
  | letGo hfrom _ hpaid => exact ⟨hfrom, hpaid⟩

lemma ProductionStep.released_stays (h : ProductionStep s s' step)
    (hreleased : s.production = .released) : s'.production = .released := by
  cases h with
  | still hsame => exact hsame.trans hreleased
  | startWash hfrom => rcases hfrom with hfrom | hfrom <;> cases hreleased.symm.trans hfrom
  | qualityCheck hfrom => cases hreleased.symm.trans hfrom
  | markReady hfrom => cases hreleased.symm.trans hfrom
  | hold hmove => exact (hmove.not_released hreleased).elim
  | resume hfrom => rcases hfrom with hfrom | hfrom <;> cases hreleased.symm.trans hfrom
  | rewash hfrom => simp [hreleased, rewashFromProduction] at hfrom
  | letGo _ hto => exact hto

/-- Laundry on the shelf leaves it by a step only to be let go, held, or washed again before
the customer is recorded as having taken it; and laundry let go stays so. -/
lemma ProductionStep.shelf (h : ProductionStep s s' step)
    (hshelf : s.production ∈ handoverReadyProduction)
    (hoff : s'.production ∉ handoverReadyProduction) :
    s.production = .readyAtStore ∧
      (step = .hold ∨ (step = .rewash ∧ s.selfCollectionRecorded = false)) := by
  cases h with
  | still hsame => exact absurd (hsame ▸ hshelf) hoff
  | startWash hfrom => rcases hfrom with hfrom | hfrom <;> simp [hfrom, handoverReadyProduction] at hshelf
  | qualityCheck hfrom => simp [hfrom, handoverReadyProduction] at hshelf
  | markReady hfrom => simp [hfrom, handoverReadyProduction] at hshelf
  | hold hmove =>
    refine ⟨?_, .inl rfl⟩
    cases hmove with
    | resumeHold hhold => simp [hhold, handoverReadyProduction] at hshelf
    | resolve hexception => simp [hexception, handoverReadyProduction] at hshelf
    | interrupt _ hstarted =>
      revert hstarted hshelf
      cases s.production <;> decide
    | advance hedge => simp at hedge
  | resume hfrom => rcases hfrom with hfrom | hfrom <;> simp [hfrom, handoverReadyProduction] at hshelf
  | rewash hfrom huncollected =>
    refine ⟨?_, .inr ⟨rfl, huncollected⟩⟩
    revert hfrom hshelf
    cases s.production <;> decide
  | letGo _ hto => simp [hto, handoverReadyProduction] at hoff

end

lemma simulatedPlan_ok {step : OrderStep} {facts : StepFacts} {args : StepArguments}
    {sim : Simulation} :
    simulatedPlan step facts args = .ok sim ↔
      step ∈ compositeSteps ∧ (args.rewashReason = none ∨ step = .rewash) ∧
        (args.rejectionReason = none ∨ step = .rejectIntake) ∧
        (args.custodyResolution = none ∨ step ∉ neverPrimarySteps) ∧
        (args.refundMethod = none ∨ step = .cancel) ∧ simulateStep step facts args = .ok sim ∧
        sim.planned ≠ [] := by
  unfold simulatedPlan
  constructor
  · intro h
    obtain ⟨_, h₁, h⟩ := bind_ok.mp h
    obtain ⟨_, h₂, h⟩ := bind_ok.mp h
    obtain ⟨_, h₃, h⟩ := bind_ok.mp h
    obtain ⟨_, h₄, h⟩ := bind_ok.mp h
    obtain ⟨_, h₅, h⟩ := bind_ok.mp h
    obtain ⟨sim', hsim, h⟩ := bind_ok.mp h
    obtain ⟨_, hplanned, h⟩ := bind_ok.mp h
    cases h
    exact ⟨require_ok.mp h₁, require_ok.mp h₂, require_ok.mp h₃, require_ok.mp h₄,
      require_ok.mp h₅, hsim, require_ok.mp hplanned⟩
  · rintro ⟨h₁, h₂, h₃, h₄, h₅, hsim, hplanned⟩
    rw [require_true h₁, ok_bind, require_true h₂, ok_bind, require_true h₃, ok_bind,
      require_true h₄, ok_bind, require_true h₅, ok_bind, hsim, ok_bind, require_true hplanned]
    rfl

lemma planStep_ok {step : OrderStep} {facts : StepFacts} {args : StepArguments}
    {plan : List PlannedTransition} :
    planStep step facts args = .ok plan ↔
      ∃ sim, simulatedPlan step facts args = .ok sim ∧ sim.planned = plan := map_ok

lemma simulatedPlan_traced {step : OrderStep} {facts : StepFacts} {args : StepArguments}
    {sim : Simulation} (h : simulatedPlan step facts args = .ok sim) :
    followPlan args.acceptedAt facts.state sim.planned = .ok sim.state :=
  simulateStep_traced (simulatedPlan_ok.mp h).2.2.2.2.2.1

end NhaTrangLaundry.Domain.OrderSteps
