import NhaTrangLaundry.Domain.OrderListing
import NhaTrangLaundry.Db.OrderReplay

/-! What the console offers is what the server does: the list of next steps, the plans they
are listed for, and the checks that the writer makes again on each transition of a plan. -/

namespace NhaTrangLaundry.Db.Orders

open Lib Outcome Domain Catalog Settlement Handover Domain.Orders OrderSteps Domain.Payments

/-- The checks of `_apply_locked_transition` on the transitions of a plan, each at its own
moment. -/
def replayPlan (moments : Nat → Datetime) :
    Nat → OrderState → List PlannedTransition → Except OrderTransitionError OrderState
  | _, s, [] => .ok s
  | index, s, planned :: plan => do
    let s ← decideTransition s (plannedCommand planned none (moments index))
    replayPlan moments (index + 1) s plan

/-- A plan that resolves no custody and names no refund, and that lets go of goods only under a
condition. -/
def Quiet (leaves : Prop) (plan : List PlannedTransition) : Prop :=
  ∀ planned ∈ plan, planned.custodyResolution = none ∧ planned.refundMethod = none ∧
    (planned.target = .production .released → leaves)

lemma Quiet.append {leaves : Prop} {plan : List PlannedTransition} {planned : PlannedTransition}
    (h : Quiet leaves plan) (hresolution : planned.custodyResolution = none)
    (hmethod : planned.refundMethod = none)
    (hleaves : planned.target = .production .released → leaves) :
    Quiet leaves (plan ++ [planned]) := by
  intro p hp
  rcases List.mem_append.mp hp with hp | hp
  · exact h p hp
  · rw [List.mem_singleton.mp hp]
    exact ⟨hresolution, hmethod, hleaves⟩

section

variable {leaves : Prop} {sim sim' : Simulation}

lemma quiet_commercial {target : CommercialOrderStatus} (h : Quiet leaves sim.planned)
    (hstep : sim.commercial target none = .ok sim') : Quiet leaves sim'.planned := by
  obtain ⟨state, -, hstep⟩ := bind_ok.mp hstep
  cases hstep
  exact h.append rfl rfl (by simp)

lemma quiet_intake {target : IntakeStatus} {readiness : Option IntakeReadiness}
    {moment : Option Datetime} (h : Quiet leaves sim.planned)
    (hstep : sim.intake target readiness moment = .ok sim') : Quiet leaves sim'.planned := by
  obtain ⟨state, -, hstep⟩ := bind_ok.mp hstep
  cases hstep
  exact h.append rfl rfl (by simp)

lemma quiet_production {target : ProductionStatus} (h : Quiet leaves sim.planned)
    (hleaves : target = .released → leaves) (hstep : sim.production target = .ok sim') :
    Quiet leaves sim'.planned := by
  obtain ⟨state, -, hstep⟩ := bind_ok.mp hstep
  cases hstep
  exact h.append rfl rfl (by simpa using hleaves)

lemma quiet_noteFirst {note : PlannedTransition → PlannedTransition} (h : Quiet leaves sim.planned)
    (hnote : ∀ p, (note p).custodyResolution = p.custodyResolution ∧
      (note p).refundMethod = p.refundMethod ∧ (note p).target = p.target) :
    Quiet leaves (sim.noteFirst note).planned := by
  unfold Simulation.noteFirst
  cases hplan : sim.planned with
  | nil => simp [Quiet]
  | cons first rest =>
    rw [hplan] at h
    intro p hp
    rw [List.modifyHead_cons, List.mem_cons] at hp
    rcases hp with rfl | hp
    · obtain ⟨hr, hm, ht⟩ := hnote first
      rw [hr, hm, ht]
      exact h first List.mem_cons_self
    · exact h p (List.mem_cons_of_mem first hp)

lemma quiet_receive {facts : StepFacts} {slotApproved : Bool} {acceptedAt : Datetime}
    (h : Quiet leaves sim.planned)
    (hstep : planReceive sim facts slotApproved acceptedAt = .ok sim') :
    Quiet leaves sim'.planned := by
  unfold planReceive at hstep
  obtain ⟨_, -, hstep⟩ := bind_ok.mp hstep
  obtain ⟨sim₁, h₁, hstep⟩ := bind_ok.mp hstep
  obtain ⟨sim₂, h₂, hstep⟩ := bind_ok.mp hstep
  obtain ⟨sim₃, h₃, hstep⟩ := bind_ok.mp hstep
  obtain ⟨sim₄, h₄, hstep⟩ := bind_ok.mp hstep
  have hq₁ : Quiet leaves sim₁.planned := by
    unfold receiveHandoff at h₁
    split at h₁
    · exact quiet_intake h h₁
    · cases h₁
      exact h
  have hq₂ : Quiet leaves sim₂.planned := by
    unfold requestDraft at h₂
    split at h₂
    · exact quiet_commercial hq₁ h₂
    · cases h₂
      exact hq₁
  have hconfirm : ∀ {sim sim' : Simulation} {target}, Quiet leaves sim.planned →
      confirmTowards sim target = .ok sim' → Quiet leaves sim'.planned := by
    intro sim sim' target h hstep
    unfold confirmTowards at hstep
    split at hstep
    · exact quiet_commercial h hstep
    · cases hstep
      exact h
  have hq₃ : Quiet leaves sim₃.planned := by
    simp only [commercialToConfirmed, List.tail_cons, List.foldlM_cons, List.foldlM_nil,
      bind_ok, pure_ok] at h₃
    obtain ⟨middle, hmiddle, last, hlast, rfl⟩ := h₃
    exact hconfirm (hconfirm hq₂ hmiddle) hlast
  have hq₄ : Quiet leaves sim₄.planned := by
    unfold acceptGoods at h₄
    split at h₄
    · cases h₄
      exact hq₃
    · obtain ⟨_, -, h₄⟩ := bind_ok.mp h₄
      exact quiet_intake hq₃ h₄
  exact quiet_commercial hq₄ hstep

end

/-- Where a plan lets go of goods: with a balance that lets them leave, or resuming work that was
stopped after its release. -/
def MayLetGo (step : OrderStep) (s : OrderState) : Prop :=
  goodsMayLeave s.balance = true ∨ step = .resume ∧ s.productionResumeStatus = some .released

lemma quiet_step {step : OrderStep} {facts : StepFacts} {args : StepArguments} {sim : Simulation}
    (hcancel : step ≠ .cancel) (h : simulateStep step facts args = .ok sim) :
    Quiet (MayLetGo step facts.state) sim.planned := by
  have hstart : ∀ leaves, Quiet leaves (Simulation.planned ⟨facts.state, []⟩) := by
    intro leaves
    simp [Quiet]
  cases step with
  | receive => exact quiet_receive (hstart _) h
  | startWash =>
    replace h : planStartWash ⟨facts.state, []⟩ = .ok sim := h
    unfold planStartWash at h
    obtain ⟨_, -, h⟩ := bind_ok.mp h
    split at h
    · obtain ⟨sim₁, h₁, h⟩ := bind_ok.mp h
      exact quiet_production (quiet_production (hstart _) (by simp) h₁) (by simp) h
    · obtain ⟨_, -, h⟩ := bind_ok.mp h
      exact quiet_production (hstart _) (by simp) h
  | qualityCheck =>
    obtain ⟨_, -, h⟩ := bind_ok.mp h
    exact quiet_production (hstart _) (by simp) h
  | markReady =>
    obtain ⟨_, -, h⟩ := bind_ok.mp h
    exact quiet_production (hstart _) (by simp) h
  | hold => exact quiet_production (hstart _) (by simp) h
  | resume =>
    replace h : planResume ⟨facts.state, []⟩ = .ok sim := h
    unfold planResume at h
    obtain ⟨_, -, h⟩ := bind_ok.mp h
    split at h
    · cases h
    · next resume hresume =>
      refine quiet_production (hstart _) (fun ht => .inr ⟨rfl, ?_⟩) h
      rw [← ht]
      exact hresume
  | rewash =>
    replace h : planRewash ⟨facts.state, []⟩ args.rewashReason = .ok sim := h
    unfold planRewash at h
    iterate 5 obtain ⟨_, -, h⟩ := bind_ok.mp h
    obtain ⟨sim₁, h₁, h⟩ := bind_ok.mp h
    obtain ⟨sim₂, h₂, h⟩ := bind_ok.mp h
    cases h
    exact quiet_noteFirst (quiet_production (quiet_production (hstart _) (by simp) h₁) (by simp) h₂)
      fun p => ⟨rfl, rfl, rfl⟩
  | release =>
    obtain ⟨_, -, h⟩ := bind_ok.mp h
    obtain ⟨_, hpaid, h⟩ := bind_ok.mp h
    exact quiet_production (hstart _) (fun _ => .inl (require_ok.mp hpaid)) h
  | handOver =>
    replace h : planHandOver ⟨facts.state, []⟩ = .ok sim := h
    unfold planHandOver at h
    split at h
    · exact quiet_commercial (hstart _) h
    · obtain ⟨_, -, h⟩ := bind_ok.mp h
      obtain ⟨sim₁, h₁, h⟩ := bind_ok.mp h
      refine quiet_commercial (quiet_production (hstart _) (fun _ => .inl ?_) h₁) h
      -- the order is completed, so its balance was settled when the goods were let go
      obtain ⟨state, hstate, -⟩ := bind_ok.mp h
      cases (transitionCommercial_ok.mp hstate).2 with
      | complete _ _ _ hsettled =>
        rw [(production_production h₁).2] at hsettled
        exact goodsMayLeave_iff.mpr hsettled
      | advance _ _ hcomplete => exact absurd rfl hcomplete
  | complete => exact quiet_commercial (hstart _) h
  | cancel => exact absurd rfl hcancel
  | rejectIntake =>
    replace h : planRejectIntake ⟨facts.state, []⟩ args.rejectionReason = .ok sim := h
    unfold planRejectIntake at h
    iterate 5 obtain ⟨_, -, h⟩ := bind_ok.mp h
    obtain ⟨sim₁, h₁, h⟩ := bind_ok.mp h
    obtain ⟨sim₂, h₂, h⟩ := bind_ok.mp h
    cases h
    exact quiet_noteFirst (quiet_commercial (quiet_intake (hstart _) h₁) h₂)
      fun p => ⟨rfl, rfl, rfl⟩
  | reopen =>
    obtain ⟨_, -, h⟩ := bind_ok.mp h
    exact quiet_commercial (hstart _) h
  | takePayment => cases h
  | collect => cases h
  | deliveryPickup => cases h
  | deliveryReturn => cases h

section

variable {acceptedAt : Datetime} {moments : Nat → Datetime} {s s' r : OrderState}
  {planned : PlannedTransition} {plan : List PlannedTransition}

lemma follow_balance (hresolution : planned.custodyResolution = none)
    (h : planned.follow acceptedAt s = .ok s') : s'.balance = s.balance := by
  unfold PlannedTransition.follow at h
  split at h
  · rw [hresolution] at h
    cases (transitionCommercial_ok.mp h).2 with
    | complete => rfl
    | cancelReviewed _ happroved => simp [CancellationFacts.of] at happroved
    | cancelDirect => rfl
    | advance => rfl
  · rw [(transitionIntake_ok.mp h).2.2.2.keeps]
  · rw [(transitionProduction_ok.mp h).2.2.2.2.keeps]

lemma followPlan_balance (hresolution : ∀ planned ∈ plan, planned.custodyResolution = none)
    (h : followPlan acceptedAt s plan = .ok s') : s'.balance = s.balance := by
  induction plan generalizing s with
  | nil =>
    cases h
    rfl
  | cons planned plan ih =>
    unfold followPlan at h ih
    rw [List.foldlM_cons] at h
    obtain ⟨s₁, hs₁, h⟩ := bind_ok.mp h
    rw [ih (fun p hp => hresolution p (List.mem_cons_of_mem planned hp)) h]
    exact follow_balance (hresolution planned List.mem_cons_self) hs₁

lemma follow_aware (htarget : planned.target = .intake .accepted)
    (h : planned.follow acceptedAt s = .ok s') : acceptedAt.aware := by
  unfold PlannedTransition.follow at h
  simp only [htarget, if_true] at h
  cases (transitionIntake_ok.mp h).2.2.2 with
  | advance _ _ _ hne => exact absurd rfl hne
  | accept _ _ hmoment => simpa using hmoment

lemma replay_quiet (haware : acceptedAt.aware → ∀ index, (moments index).aware) (h : Agrees s r)
    (hfollow : followPlan acceptedAt s plan = .ok s')
    (hquiet : Quiet (goodsMayLeave s.balance = true) plan) (index : Nat) :
    ∃ r', replayPlan moments index r plan = .ok r' ∧ Agrees s' r' := by
  induction plan generalizing s r index with
  | nil =>
    cases hfollow
    exact ⟨r, rfl, h⟩
  | cons planned plan ih =>
    unfold followPlan at hfollow ih
    rw [List.foldlM_cons] at hfollow
    obtain ⟨s₁, hs₁, hfollow⟩ := bind_ok.mp hfollow
    obtain ⟨hresolution, hmethod, hleave⟩ := hquiet planned List.mem_cons_self
    have hbalance := follow_balance hresolution hs₁
    have hnot : ¬ refunding s s₁ := by
      rintro ⟨hb | hb, hr⟩ <;> simp [hbalance, hb] at hr
    obtain ⟨r₁, hr₁, hagrees⟩ := decide_planned none (moments index) h
      (fun ht => haware (follow_aware ht hs₁) index) hs₁ (iff_of_false hnot (by simp [hmethod])) hleave
    have hrest : Quiet (goodsMayLeave s₁.balance = true) plan := by
      rw [hbalance]
      exact fun p hp => hquiet p (List.mem_cons_of_mem planned hp)
    obtain ⟨r', hr', hdone⟩ := ih hagrees hfollow hrest (index + 1)
    exact ⟨r', bind_ok.mpr ⟨r₁, hr₁, hr'⟩, hdone⟩

lemma replay_acceptedAt {index : Nat} (h : replayPlan moments index s plan = .ok s') :
    (∃ k planned, plan[k]? = some planned ∧ planned.target = .intake .accepted ∧
        s'.productionAcceptedAt = some (moments (index + k))) ∨
      ((∀ planned ∈ plan, planned.target ≠ .intake .accepted) ∧
        s'.productionAcceptedAt = s.productionAcceptedAt) := by
  induction plan generalizing s index with
  | nil =>
    cases h
    exact .inr ⟨by simp, rfl⟩
  | cons planned plan ih =>
    obtain ⟨s₁, hs₁, h⟩ := bind_ok.mp h
    rcases ih h with ⟨k, later, hk, htarget, hmoment⟩ | ⟨hnone, hsame⟩
    · refine .inl ⟨k + 1, later, hk, htarget, ?_⟩
      rw [hmoment]
      congr 2
      omega
    by_cases htarget : planned.target = .intake .accepted
    · refine .inl ⟨0, planned, rfl, htarget, ?_⟩
      rw [hsame]
      obtain ⟨hdomain, -⟩ := decideTransition_ok.mp hs₁
      simp only [domainTransition, plannedCommand, htarget, if_true] at hdomain
      cases (transitionIntake_ok.mp hdomain).2.2.2 with
      | advance _ _ _ hne => exact absurd rfl hne
      | accept => rfl
    · refine .inr ⟨?_, ?_⟩
      · intro p hp
        rcases List.mem_cons.mp hp with rfl | hp
        · exact htarget
        · exact hnone p hp
      · rw [hsame]
        cases axisMove_of_decide hs₁ with
        | commercial _ _ hmove => rw [hmove.keeps]
        | intake target ht _ _ hmove =>
          cases hmove with
          | reject => rfl
          | advance => rfl
          | accept => exact absurd ht htarget
        | production _ _ _ _ _ _ hmove => rw [hmove.keeps]

lemma follow_acceptedAt (htarget : planned.target ≠ .intake .accepted)
    (h : planned.follow acceptedAt s = .ok s') :
    s'.productionAcceptedAt = s.productionAcceptedAt := by
  unfold PlannedTransition.follow at h
  split at h
  · rw [(transitionCommercial_ok.mp h).2.keeps]
  · next target ht =>
    cases (transitionIntake_ok.mp h).2.2.2 with
    | reject => rfl
    | advance => rfl
    | accept => exact absurd ht htarget
  · rw [(transitionProduction_ok.mp h).2.2.2.2.keeps]

lemma followPlan_acceptedAt (hnone : ∀ planned ∈ plan, planned.target ≠ .intake .accepted)
    (h : followPlan acceptedAt s plan = .ok s') :
    s'.productionAcceptedAt = s.productionAcceptedAt := by
  induction plan generalizing s with
  | nil =>
    cases h
    rfl
  | cons planned plan ih =>
    unfold followPlan at h ih
    rw [List.foldlM_cons] at h
    obtain ⟨s₁, hs₁, h⟩ := bind_ok.mp h
    rw [ih (fun p hp => hnone p (List.mem_cons_of_mem planned hp)) h]
    exact follow_acceptedAt (hnone planned List.mem_cons_self) hs₁

end

lemma cancel_plan {facts : StepFacts} {args : StepArguments} {sim : Simulation}
    (h : simulateStep .cancel facts args = .ok sim) :
    ∃ review, Quiet False review ∧ sim.planned = review ++
      [{ target := .commercial .cancelled
         custodyResolution := args.custodyResolution
         refundMethod := args.refundMethod }] := by
  obtain ⟨sim₁, h₁, h⟩ := bind_ok.mp h
  have hplanned : ∃ review, Quiet False review ∧ sim₁.planned = review ++
      [{ target := .commercial .cancelled, custodyResolution := args.custodyResolution }] := by
    unfold planCancel at h₁
    split at h₁
    · obtain ⟨sim₂, h₂, h₁⟩ := bind_ok.mp h₁
      obtain ⟨state, -, h₁⟩ := bind_ok.mp h₁
      cases h₁
      exact ⟨sim₂.planned, quiet_commercial (by simp [Quiet]) h₂, rfl⟩
    · obtain ⟨state, -, h₁⟩ := bind_ok.mp h₁
      cases h₁
      exact ⟨[], by simp [Quiet], rfl⟩
  obtain ⟨review, hquiet, hplanned⟩ := hplanned
  refine ⟨review, hquiet, ?_⟩
  unfold attachRefundMethod at h
  split at h
  · cases hmethod : args.refundMethod with
    | none => simp [hmethod] at h
    | some method =>
      simp only [hmethod] at h
      cases h
      simp [Simulation.noteLast, hplanned, List.modify_eq_take_drop]
  · obtain ⟨_, hnone, h⟩ := bind_ok.mp h
    cases h
    rw [hplanned, require_ok.mp hnone]

lemma replayPlan_append {moments : Nat → Datetime} {index : Nat} {s s₁ : OrderState}
    {plan rest : List PlannedTransition} (h : replayPlan moments index s plan = .ok s₁) :
    replayPlan moments index s (plan ++ rest) =
      replayPlan moments (index + plan.length) s₁ rest := by
  induction plan generalizing s index with
  | nil =>
    cases h
    rfl
  | cons planned plan ih =>
    obtain ⟨s₂, hs₂, h⟩ := bind_ok.mp h
    rw [List.cons_append, replayPlan, hs₂, ok_bind, ih h, List.length_cons]
    congr 1
    omega

lemma replay_cancel {facts : StepFacts} {args : StepArguments} {sim : Simulation}
    {moments : Nat → Datetime}
    (haware : args.acceptedAt.aware → ∀ index, (moments index).aware)
    (h : simulatedPlan .cancel facts args = .ok sim) :
    ∃ r', replayPlan moments 0 facts.state sim.planned = .ok r' ∧ Agrees sim.state r' := by
  obtain ⟨-, -, -, -, -, hsimulate, -⟩ := simulatedPlan_ok.mp h
  have htraced := simulateStep_traced hsimulate
  obtain ⟨-, -, -, hmethod⟩ := simulatedPlan_cancel.mp ⟨sim, h⟩
  obtain ⟨review, hquiet, hplanned⟩ := cancel_plan hsimulate
  have hrefunds : facts.state.balance = .paid ∨ facts.state.balance = .partiallyPaid ↔
      sim.state.balance = .refunded ∧ facts.state.balance ≠ .refunded := by
    obtain ⟨sim₁, h₁, hattach⟩ := bind_ok.mp hsimulate
    rw [(cancel_production h₁ hattach).1]
    exact (cancel_refunds h₁).symm
  unfold Simulation.Traced at htraced
  rw [hplanned] at htraced ⊢
  unfold followPlan at htraced
  rw [List.foldlM_append] at htraced
  obtain ⟨s₁, hs₁, htraced⟩ := bind_ok.mp htraced
  rw [List.foldlM_cons] at htraced
  obtain ⟨s₂, hs₂, htraced⟩ := bind_ok.mp htraced
  cases htraced
  have hquiet' : Quiet (goodsMayLeave facts.state.balance = true) review :=
    fun p hp => ⟨(hquiet p hp).1, (hquiet p hp).2.1, fun ht => ((hquiet p hp).2.2 ht).elim⟩
  obtain ⟨r₁, hr₁, hagrees⟩ := replay_quiet haware (.refl _) hs₁ hquiet' 0
  have hbalance := followPlan_balance (fun p hp => (hquiet p hp).1) hs₁
  have hrefunding : refunding s₁ sim.state ↔ args.refundMethod ≠ none := by
    unfold refunding
    rw [hmethod, hbalance]
    exact ⟨fun hb => hb.1, fun hb => ⟨hb, (hrefunds.mp hb).1⟩⟩
  obtain ⟨r', hr', hdone⟩ := decide_planned none (moments (0 + review.length)) hagrees
    (fun ht => by cases ht) hs₂ hrefunding (fun ht => by cases ht)
  refine ⟨r', ?_, hdone⟩
  rw [replayPlan_append hr₁, replayPlan, hr', ok_bind]
  rfl

lemma replay_resume {facts : StepFacts} {args : StepArguments} {sim : Simulation}
    {moments : Nat → Datetime} {r' : OrderState}
    (h : simulatedPlan .resume facts args = .ok sim)
    (hreplay : replayPlan moments 0 facts.state sim.planned = .ok r')
    (hresume : facts.state.productionResumeStatus = some .released) :
    goodsMayLeave facts.state.balance = true := by
  obtain ⟨-, -, -, -, -, hsimulate, -⟩ := simulatedPlan_ok.mp h
  replace hsimulate : planResume ⟨facts.state, []⟩ = .ok sim := hsimulate
  unfold planResume at hsimulate
  obtain ⟨_, -, hsimulate⟩ := bind_ok.mp hsimulate
  simp only [hresume] at hsimulate
  obtain ⟨state, -, hsimulate⟩ := bind_ok.mp hsimulate
  cases hsimulate
  obtain ⟨s₁, hs₁, -⟩ := bind_ok.mp hreplay
  cases axisMove_of_decide hs₁ with
  | production target ht _ _ _ hpaid =>
    cases ht
    exact hpaid rfl
  | commercial _ ht => cases ht
  | intake _ ht => cases ht

lemma replay_step {step : OrderStep} {facts : StepFacts} {args : StepArguments} {sim : Simulation}
    {moments : Nat → Datetime}
    (haware : args.acceptedAt.aware → ∀ index, (moments index).aware)
    (h : simulatedPlan step facts args = .ok sim)
    (hnot : ¬ (step = .resume ∧ facts.state.productionResumeStatus = some .released ∧
      goodsMayLeave facts.state.balance = false)) :
    ∃ r', replayPlan moments 0 facts.state sim.planned = .ok r' ∧ Agrees sim.state r' := by
  by_cases hcancel : step = .cancel
  · subst hcancel
    exact replay_cancel haware h
  obtain ⟨-, -, -, -, -, hsimulate, -⟩ := simulatedPlan_ok.mp h
  have hquiet := quiet_step hcancel hsimulate
  refine replay_quiet haware (.refl _) (simulatedPlan_traced h) (fun p hp => ?_) 0
  obtain ⟨hresolution, hmethod, hleave⟩ := hquiet p hp
  refine ⟨hresolution, hmethod, fun ht => ?_⟩
  rcases hleave ht with hpaid | ⟨hstep, hresume⟩
  · exact hpaid
  · by_contra hpaid
    exact hnot ⟨hstep, hresume, by simpa using hpaid⟩

lemma recordCollection_ok {row : OrderRow} :
    (∃ row', recordCollection row = .ok row') ↔
      evaluateCollection row.state.commercial row.state.production row.state.balance
        (row.settlement.map Payments.OrderSettlement.shape) row.state.selfCollectionRecorded =
          none ∧ row.state.balance = .paid := by
  unfold recordCollection
  split
  · next refusal hrefusal => simp [hrefusal]
  · next hnone => simp [hnone, bind_ok, require_ok]

lemma offered_isSome {step : OrderStep} {accepted : Bool} {requires : List RequiredField} :
    (offered step accepted requires).isSome = true ↔ accepted = true := by
  unfold offered
  split <;> simp_all

lemma collect_listed {row : OrderRow} :
    (∃ row', recordCollection row = .ok row') ↔
      Listed row.stepFacts .collect ∧ row.state.balance = .paid := by
  rw [recordCollection_ok, listed_iff]
  simp only [legalSteps, offered_isSome, Option.isNone_iff_eq_none]
  rfl

lemma return_listed {row : OrderRow} (hflag : row.state.requiredDeliveryLegsSucceeded = true ↔
      (⟨.return, .succeeded⟩ : DeliveryLeg) ∈ row.deliveryLegs) :
    (∃ row', recordLeg row ⟨.return, .succeeded⟩ = .ok row') ↔
      Listed row.stepFacts .deliveryReturn := by
  rw [listed_iff]
  simp only [legalSteps, offered_isSome, Bool.and_eq_true, decide_eq_true_eq, Bool.not_eq_true',
    Option.isNone_iff_eq_none]
  constructor
  · rintro ⟨row', hok⟩
    obtain ⟨hactive, -, hreturn, -, hnew, -⟩ := recordLeg_ok.mp hok
    obtain ⟨hmode, hrefusal⟩ := hreturn rfl
    refine ⟨⟨⟨hactive, hmode⟩, ?_⟩, hrefusal⟩
    rw [← Bool.not_eq_true]
    exact fun harrived => hnew rfl (hflag.mp harrived)
  · rintro ⟨⟨⟨hactive, hmode⟩, hnone⟩, hrefusal⟩
    have hself : row.state.fulfillmentMode ≠ .selfDropSelfCollect := by
      intro hm
      have hmode' : row.state.fulfillmentMode ∈ modesExpectingReturn := hmode
      simp [hm, modesExpectingReturn] at hmode'
    refine ⟨_, recordLeg_ok.mpr ⟨hactive, hself, fun _ => ⟨hmode, hrefusal⟩, by simp, fun _ hm => ?_,
      rfl⟩⟩
    have harrived := hflag.mpr hm
    have hnone' : row.state.requiredDeliveryLegsSucceeded = false := hnone
    rw [hnone'] at harrived
    cases harrived

lemma replay_end {facts : StepFacts} {step : OrderStep} {args : StepArguments} {sim : Simulation}
    {moments : Nat → Datetime} {s' : OrderState} (hsim : simulatedPlan step facts args = .ok sim)
    (hreplay : replayPlan moments 0 facts.state sim.planned = .ok s') (h : Agrees sim.state s') :
    s' = { sim.state with productionAcceptedAt := s'.productionAcceptedAt } ∧
      (s'.productionAcceptedAt = sim.state.productionAcceptedAt ∨
        ∃ k planned, sim.planned[k]? = some planned ∧ planned.target = .intake .accepted ∧
          s'.productionAcceptedAt = some (moments k)) := by
  refine ⟨?_, ?_⟩
  · obtain ⟨moment, -, rfl⟩ := h
    rfl
  · rcases replay_acceptedAt hreplay with ⟨k, planned, hk, htarget, hmoment⟩ | ⟨hnone, hsame⟩
    · rw [Nat.zero_add] at hmoment
      exact .inr ⟨k, planned, hk, htarget, hmoment⟩
    · left
      rw [hsame, followPlan_acceptedAt hnone (simulatedPlan_traced hsim)]

/-- For every order's facts: each composite step that is listed is accepted with the answers its
entry asks for; each that is accepted is listed, the release while the handover is listed and the
handover of released goods apart, which are offered as the handover and the completion; payment,
collection and return are listed exactly when their own rules accept them; at most one entry is
primary, and an ordinary one; a closed order lists nothing. And the writer accepts every
transition of an accepted plan and ends where its simulation did, but for the moment of
acceptance, unless the plan resumes work stopped after its release on an order whose money does
not let the goods leave. -/
theorem console_offers_what_server_does (facts : StepFacts) :
    (∀ entry ∈ nextSteps facts, entry.step ∈ compositeSteps → ∀ args, Answers entry args →
        ∃ plan, planStep entry.step facts args = .ok plan) ∧
      (∀ step args plan, planStep step facts args = .ok plan → Listed facts step ∨
        (step = .release ∧ Listed facts .handOver) ∨
        (step = .handOver ∧ facts.state.production = .released ∧ Listed facts .complete)) ∧
      (∀ storageFeeVnd paidVnd charges,
        owedCharges facts.quotedTotal storageFeeVnd = .ok charges → 0 ≤ paidVnd →
        (∀ list ∈ charges, ∀ owed, owedTotal list = .ok owed →
          paidVnd ≤ owed ∧ owed ≤ maxSettlementVnd) →
        (Listed facts .takePayment ↔ ∃ amount method seen reference collected accepted,
          evaluatePayment facts.state.commercial facts.state.balance charges paidVnd amount method
            seen reference collected = .ok (.accepted accepted))) ∧
      (∀ row : OrderRow, row.stepFacts = facts →
        ((∃ row', recordCollection row = .ok row') ↔
          Listed facts .collect ∧ row.state.balance = .paid)) ∧
      (∀ row : OrderRow, row.stepFacts = facts →
        (row.state.requiredDeliveryLegsSucceeded = true ↔
          (⟨.return, .succeeded⟩ : DeliveryLeg) ∈ row.deliveryLegs) →
        ((∃ row', recordLeg row ⟨.return, .succeeded⟩ = .ok row') ↔
          Listed facts .deliveryReturn)) ∧
      ((nextSteps facts).filter NextStep.primary).length ≤ 1 ∧
      (∀ entry ∈ nextSteps facts, entry.primary = true → entry.step ∉ neverPrimarySteps) ∧
      (facts.state.commercial = .cancelled ∨ facts.state.commercial = .completed →
        nextSteps facts = []) ∧
      (∀ step args sim, simulatedPlan step facts args = .ok sim → ∀ moments : Nat → Datetime,
        (args.acceptedAt.aware → ∀ index, (moments index).aware) →
        ((∃ s', replayPlan moments 0 facts.state sim.planned = .ok s' ∧
          s' = { sim.state with productionAcceptedAt := s'.productionAcceptedAt } ∧
          (s'.productionAcceptedAt = sim.state.productionAcceptedAt ∨
            ∃ k planned, sim.planned[k]? = some planned ∧ planned.target = .intake .accepted ∧
              s'.productionAcceptedAt = some (moments k))) ↔
          ¬ (step = .resume ∧ facts.state.productionResumeStatus = some .released ∧
            goodsMayLeave facts.state.balance = false))) := by
  refine ⟨fun entry h hcomposite args hargs => listed_accepted h hcomposite hargs, ?_, ?_, ?_, ?_,
    primary_unique facts, ?_, ?_, ?_⟩
  · intro step args plan h
    obtain ⟨sim, hsim, -⟩ := planStep_ok.mp h
    exact accepted_listed hsim
  · intro fee paid charges hcharges hpaid howed
    rw [← paymentLegal_iff hcharges hpaid howed, listed_iff]
    exact offered_isSome
  · rintro row rfl
    exact collect_listed
  · rintro row rfl hflag
    exact return_listed hflag
  · intro entry h hprimary
    exact primaryStep_ordinary ((primary_iff h).mp hprimary)
  · intro hclosed
    exact nextSteps_closed (by simpa [terminalCommercialStatuses] using hclosed)
  · intro step args sim hsim moments haware
    constructor
    · rintro ⟨s', hreplay, -⟩ ⟨rfl, hresume, hleave⟩
      rw [replay_resume hsim hreplay hresume] at hleave
      cases hleave
    · intro hnot
      obtain ⟨s', hreplay, hagrees⟩ := replay_step haware hsim hnot
      exact ⟨s', hreplay, replay_end hsim hreplay hagrees⟩

/-- Facts that no stored row has: work stopped after its release, on an unpaid order. -/
def stoppedAfterRelease : StepFacts where
  state := ⟨.active, .accepted, .onHold, .selfDropSelfCollect, .unpaid, false, false,
    some dryRunInstant, some .released⟩
  quoteReadiness := ⟨true, true, true, true⟩
  quotedTotal := ⟨some 100000, some 100000⟩
  settlementShape := none
  pickupLegSucceeded := false

def newAtCounter : StepFacts where
  state := ⟨.requested, .awaitingHandoff, .notStarted, .selfDropSelfCollect, .unpaid, false, false,
    none, none⟩
  quoteReadiness := ⟨true, true, true, true⟩
  quotedTotal := ⟨some 100000, some 100000⟩
  settlementShape := none
  pickupLegSucceeded := false

def stepMoments (index : Nat) : Datetime :=
  (dryRunInstant.addMicros index).getD dryRunInstant

/-- A plan the writer refuses, and a plan whose replay ends in another state than its
simulation. -/
theorem replay_differs :
    (∃ sim, simulatedPlan .resume stoppedAfterRelease (dryRun none) = .ok sim ∧
        replayPlan stepMoments 0 stoppedAfterRelease.state sim.planned =
          .error (.goodsMayNotLeave "RELEASE_REQUIRES_PAYMENT")) ∧
      ∃ sim s', simulatedPlan .receive newAtCounter (dryRun none) = .ok sim ∧
        replayPlan stepMoments 0 newAtCounter.state sim.planned = .ok s' ∧ s' ≠ sim.state := by
  refine ⟨⟨_, rfl, by decide⟩, _, _, rfl, rfl, by decide⟩

end NhaTrangLaundry.Db.Orders
