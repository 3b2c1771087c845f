import NhaTrangLaundry.Domain.OrderPlans

/-! The list of next steps: what it offers is accepted, what is accepted it offers. -/

namespace NhaTrangLaundry.Domain.OrderSteps

open Lib Outcome Catalog Canonical Settlement Payments Handover Orders

def Listed (facts : StepFacts) (step : OrderStep) : Prop :=
  ∃ item ∈ nextSteps facts, item.step = step

/-- The arguments are those that an entry of the list asks for: a slot that is approved, one of
the listed answers to each question, and nothing that was not asked. -/
structure Answers (item : NextStep) (args : StepArguments) : Prop where
  slot : args.slotApproved = true
  aware : args.acceptedAt.aware
  resolution : if .custodyResolution ∈ item.requires then
      ∃ r ∈ args.custodyResolution, r ∈ item.custodyResolutions
    else args.custodyResolution = none
  rewash : if .rewashReason ∈ item.requires then ∃ r ∈ args.rewashReason, r ∈ item.rewashReasons
    else args.rewashReason = none
  rejection : if .rejectionReason ∈ item.requires then
      ∃ r ∈ args.rejectionReason, r ∈ item.rejectionReasons
    else args.rejectionReason = none
  refund : args.refundMethod ≠ none ↔ .refundMethod ∈ item.requires

lemma isOk_iff {ε α : Type} {x : Except ε α} : x.isOk = true ↔ ∃ a, x = .ok a := by
  cases x <;> simp [Except.isOk, Except.toBool]

lemma legal_iff {step : OrderStep} {facts : StepFacts} {args : StepArguments} :
    legal step facts args = true ↔ ∃ sim, simulatedPlan step facts args = .ok sim := by
  unfold legal planStep
  rw [isOk_iff]
  constructor
  · rintro ⟨plan, h⟩
    obtain ⟨sim, hsim, -⟩ := map_ok.mp h
    exact ⟨sim, hsim⟩
  · rintro ⟨sim, hsim⟩
    exact ⟨sim.planned, map_ok.mpr ⟨sim, hsim, rfl⟩⟩

lemma commercial_planned {sim sim' : Simulation} {target : CommercialOrderStatus}
    {resolution : Option CustodyResolution} (h : sim.commercial target resolution = .ok sim') :
    sim'.planned ≠ [] := by
  obtain ⟨state, -, h⟩ := bind_ok.mp h
  cases h
  simp

lemma cancel_planned {sim sim' : Simulation} {resolution : Option CustodyResolution}
    (h : planCancel sim resolution = .ok sim') : sim'.planned ≠ [] := by
  unfold planCancel at h
  split at h
  · obtain ⟨_, -, h⟩ := bind_ok.mp h
    exact commercial_planned h
  · exact commercial_planned h

lemma cancel_refunds {s : OrderState} {sim : Simulation} {resolution : Option CustodyResolution}
    (h : planCancel ⟨s, []⟩ resolution = .ok sim) :
    (sim.state.balance = .refunded ∧ s.balance ≠ .refunded) ↔
      (s.balance = .paid ∨ s.balance = .partiallyPaid) := by
  have hlast : ∀ {sim₁ : Simulation}, sim₁.state.balance = s.balance →
      sim₁.commercial .cancelled resolution = .ok sim →
      ((sim.state.balance = .refunded ∧ s.balance ≠ .refunded) ↔
        (s.balance = .paid ∨ s.balance = .partiallyPaid)) := by
    intro sim₁ hsame h
    obtain ⟨state, hstate, h⟩ := bind_ok.mp h
    cases h
    obtain ⟨hdisposal, hmove⟩ := transitionCommercial_ok.mp hstate
    cases hmove with
    | cancelReviewed _ _ _ hbalance =>
      rw [hsame] at hbalance
      rcases balanceAfterCancellation_ok.mp hbalance with ⟨hu, rfl⟩ | ⟨hr, -, -⟩ | ⟨-, hb, rfl⟩
      · simp [hu]
      · exact absurd ⟨hr, rfl⟩ hdisposal
      · rcases hb with hb | hb <;> simp [hb]
    | cancelDirect _ _ hidle =>
      have hunpaid : s.balance = .unpaid := by
        by_contra hb
        exact hidle (.inr (.inr (by rw [hsame]; exact hb)))
      simp [hsame, hunpaid]
    | advance _ hcancel => exact absurd rfl hcancel
  unfold planCancel at h
  split at h
  · obtain ⟨sim₁, h₁, h⟩ := bind_ok.mp h
    refine hlast ?_ h
    obtain ⟨state, hstate, h₁⟩ := bind_ok.mp h₁
    cases h₁
    cases (transitionCommercial_ok.mp hstate).2 with
    | advance => rfl
  · exact hlast rfl h

lemma simulatedPlan_cancel {facts : StepFacts} {args : StepArguments} :
    (∃ sim, simulatedPlan .cancel facts args = .ok sim) ↔
      args.rewashReason = none ∧ args.rejectionReason = none ∧
        (∃ sim, planCancel ⟨facts.state, []⟩ args.custodyResolution = .ok sim) ∧
        (args.refundMethod ≠ none ↔
          facts.state.balance = .paid ∨ facts.state.balance = .partiallyPaid) := by
  constructor
  · rintro ⟨sim, h⟩
    obtain ⟨-, hrewash, hrejection, -, -, h, -⟩ := simulatedPlan_ok.mp h
    obtain ⟨sim₁, h₁, h⟩ := bind_ok.mp h
    refine ⟨hrewash.resolve_right (by decide), hrejection.resolve_right (by decide), ⟨sim₁, h₁⟩, ?_⟩
    rw [← cancel_refunds h₁]
    unfold attachRefundMethod at h
    split at h
    · next hr =>
      rw [iff_true_right hr]
      intro hnone
      rw [hnone] at h
      cases h
    · next hr =>
      rw [iff_false_right hr]
      obtain ⟨_, hnone, -⟩ := bind_ok.mp h
      exact not_not.mpr (require_ok.mp hnone)
  · rintro ⟨hrewash, hrejection, ⟨sim₁, h₁⟩, hmethod⟩
    rw [← cancel_refunds h₁] at hmethod
    have hattach : ∃ sim, attachRefundMethod sim₁ facts.state args.refundMethod = .ok sim ∧
        sim.planned ≠ [] := by
      have hplanned := cancel_planned h₁
      unfold attachRefundMethod
      split
      · next hr =>
        obtain ⟨method, hm⟩ := Option.ne_none_iff_exists'.mp (hmethod.mpr hr)
        rw [hm]
        refine ⟨_, rfl, ?_⟩
        intro hnil
        apply hplanned
        have := congrArg List.length hnil
        simpa [Simulation.noteLast] using this
      · next hr =>
        have hnone : args.refundMethod = none := by
          by_contra hm
          exact hr (hmethod.mp hm)
        rw [require_true hnone]
        exact ⟨sim₁, rfl, hplanned⟩
    obtain ⟨sim, hsim, hplanned⟩ := hattach
    refine ⟨sim, simulatedPlan_ok.mpr ⟨by decide, .inl hrewash, .inl hrejection, .inr (by decide),
      .inr rfl, ?_, hplanned⟩⟩
    exact bind_ok.mpr ⟨sim₁, h₁, hsim⟩

lemma planStep_cancel_required {facts : StepFacts} {resolution : Option CustodyResolution}
    {sim : Simulation} (h : planCancel ⟨facts.state, []⟩ resolution = .ok sim)
    (hmoney : facts.state.balance = .paid ∨ facts.state.balance = .partiallyPaid) :
    planStep .cancel facts (dryRun resolution) = .error .refundMethodRequired := by
  have hsimulate : simulateStep .cancel facts (dryRun resolution) = .error .refundMethodRequired := by
    change (planCancel ⟨facts.state, []⟩ resolution >>= fun sim =>
      attachRefundMethod sim facts.state none) = _
    rw [h, ok_bind, attachRefundMethod, if_pos ((cancel_refunds h).mpr hmoney)]
  unfold planStep simulatedPlan
  rw [require_true (by decide), ok_bind, require_true (.inl rfl), ok_bind, require_true (.inl rfl),
    ok_bind, require_true (.inr (by decide)), ok_bind, require_true (.inl rfl), ok_bind, hsimulate]
  rfl

lemma cancelLegal_spec (facts : StepFacts) (resolution : Option CustodyResolution) :
    ((cancelLegal facts resolution).1 = true ↔
        ∃ sim, planCancel ⟨facts.state, []⟩ resolution = .ok sim) ∧
      ((cancelLegal facts resolution).1 = true → ((cancelLegal facts resolution).2 = true ↔
        facts.state.balance = .paid ∨ facts.state.balance = .partiallyPaid)) := by
  have hplanned : (∃ sim, simulatedPlan .cancel facts (dryRun resolution) = .ok sim) ↔
      (∃ sim, planCancel ⟨facts.state, []⟩ resolution = .ok sim) ∧
        ¬ (facts.state.balance = .paid ∨ facts.state.balance = .partiallyPaid) := by
    rw [simulatedPlan_cancel]
    simp [dryRun]
  have hmethod : legal .cancel facts { dryRun resolution with refundMethod := some .tienMat } = true ↔
      (∃ sim, planCancel ⟨facts.state, []⟩ resolution = .ok sim) ∧
        (facts.state.balance = .paid ∨ facts.state.balance = .partiallyPaid) := by
    rw [legal_iff, simulatedPlan_cancel]
    simp [dryRun]
  cases hplan : planStep .cancel facts (dryRun resolution) with
  | ok plan =>
    obtain ⟨sim, hsim, -⟩ := planStep_ok.mp hplan
    obtain ⟨hcancel, hnot⟩ := hplanned.mp ⟨sim, hsim⟩
    simp only [cancelLegal, hplan]
    exact ⟨iff_of_true trivial hcancel, fun _ => iff_of_false (by simp) hnot⟩
  | error e =>
    -- without a method the plan fails, so an order that may be cancelled holds money
    have hmoney : (∃ sim, planCancel ⟨facts.state, []⟩ resolution = .ok sim) →
        facts.state.balance = .paid ∨ facts.state.balance = .partiallyPaid := by
      intro hcancel
      by_contra hnot
      obtain ⟨sim, hsim⟩ := hplanned.mpr ⟨hcancel, hnot⟩
      simp [planStep, hsim] at hplan
    by_cases he : e = .refundMethodRequired
    · subst he
      simp only [cancelLegal, hplan]
      rw [hmethod]
      exact ⟨⟨fun h => h.1, fun h => ⟨h, hmoney h⟩⟩, fun h => iff_of_true trivial h.2⟩
    · have hnot : ¬ ∃ sim, planCancel ⟨facts.state, []⟩ resolution = .ok sim := by
        rintro ⟨sim, hsim⟩
        rw [planStep_cancel_required hsim (hmoney ⟨sim, hsim⟩)] at hplan
        exact he (Except.error.inj hplan).symm
      have hlegal : cancelLegal facts resolution = (false, false) := by
        unfold cancelLegal
        rw [hplan]
        split
        · next h => cases h
        · next h => exact absurd (Except.error.inj h) he
        · rfl
      rw [hlegal]
      exact ⟨iff_of_false (by simp) hnot, by simp⟩

lemma mem_custodyResolutions (r : CustodyResolution) : r ∈ custodyResolutions := by
  cases r <;> decide

/-- `CANCEL` is offered exactly when some answer cancels the order. -/
lemma offeredCancel_isSome {facts : StepFacts} {resolution : Option CustodyResolution}
    {sim : Simulation} (h : planCancel ⟨facts.state, []⟩ resolution = .ok sim) :
    (offeredCancel facts).isSome = true := by
  unfold offeredCancel
  split
  · simp [offered]
  · next hdirect =>
    cases resolution with
    | none => exact absurd ((cancelLegal_spec facts none).1.mpr ⟨sim, h⟩) hdirect
    | some r =>
      have hmem : r ∈ custodyResolutions.filter fun r => (cancelLegal facts (some r)).1 :=
        List.mem_filter.mpr ⟨mem_custodyResolutions r,
          (cancelLegal_spec facts (some r)).1.mpr ⟨sim, h⟩⟩
      simp only
      rw [if_neg (List.ne_nil_of_mem hmem)]
      rfl

lemma offeredCancel_accepted {facts : StepFacts} {item : NextStep} {args : StepArguments}
    (hitem : offeredCancel facts = some item) (h : Answers item args) :
    item.step = .cancel ∧ ∃ sim, simulatedPlan .cancel facts args = .ok sim := by
  unfold offeredCancel at hitem
  split at hitem
  · next hdirect =>
    obtain ⟨hcancel, hrefund⟩ := cancelLegal_spec facts none
    rw [offered, if_pos rfl] at hitem
    cases hitem
    refine ⟨rfl, simulatedPlan_cancel.mpr ?_⟩
    obtain ⟨-, -, hresolution, hrewash, hrejection, hmethod⟩ := h
    have hrequires : ∀ field, field ∈ (if (cancelLegal facts none).2 = true then
        [RequiredField.refundMethod] else []) ↔
          field = .refundMethod ∧ (cancelLegal facts none).2 = true := by
      intro field
      split <;> simp_all
    simp only [hrequires, reduceCtorEq, false_and, if_false, true_and]
      at hresolution hrewash hrejection hmethod
    rw [hresolution]
    exact ⟨hrewash, hrejection, hcancel.mp hdirect, hmethod.trans (hrefund hdirect)⟩
  · next hdirect =>
    simp only at hitem
    split at hitem
    · cases hitem
    next haccepted =>
    cases hitem
    refine ⟨rfl, simulatedPlan_cancel.mpr ?_⟩
    obtain ⟨-, -, hresolution, hrewash, hrejection, hmethod⟩ := h
    generalize haccept : custodyResolutions.filter (fun r => (cancelLegal facts (some r)).1) =
      accepted at *
    have hlegal : ∀ r ∈ accepted, (cancelLegal facts (some r)).1 = true := by
      intro r hr
      rw [← haccept] at hr
      exact (List.mem_filter.mp hr).2
    generalize hany : accepted.any (fun r => (cancelLegal facts (some r)).2) = refunds at *
    have hrequires : ∀ field, field ∈ (if refunds = true then
        [RequiredField.custodyResolution, .refundMethod] else [.custodyResolution]) ↔
          field = .custodyResolution ∨ field = .refundMethod ∧ refunds = true := by
      intro field
      split <;> simp_all
    simp only [hrequires, reduceCtorEq, false_and, or_false, if_false, if_true, true_and,
      false_or] at hresolution hrewash hrejection hmethod
    obtain ⟨r, hr, hmem⟩ := hresolution
    have hspec := cancelLegal_spec facts (some r)
    have hrefunds : refunds = true ↔
        (facts.state.balance = .paid ∨ facts.state.balance = .partiallyPaid) := by
      rw [← hany, List.any_eq_true]
      constructor
      · rintro ⟨r', hr', h2⟩
        exact ((cancelLegal_spec facts (some r')).2 (hlegal r' hr')).mp h2
      · intro hmoney
        exact ⟨r, hmem, (hspec.2 (hlegal r hmem)).mpr hmoney⟩
    rw [Option.mem_def.mp hr]
    exact ⟨hrewash, hrejection, hspec.1.mp (hlegal r hmem), hmethod.trans hrefunds⟩

lemma slotApproved_of_blockers {r : IntakeReadiness} (h : readinessBlockers r = []) :
    r.slotApproved = true := by
  have hclear := List.filter_eq_nil_iff.mp (List.map_eq_nil_iff.mp h)
    (r.slotApproved, "SLOT_APPROVAL_REQUIRED") (by simp)
  simpa using hclear

lemma acceptGoods_any {sim sim' : Simulation} {facts : StepFacts} {slotApproved : Bool}
    {acceptedAt moment : Datetime} (hmoment : moment.aware)
    (h : acceptGoods sim facts slotApproved acceptedAt = .ok sim') :
    ∃ sim'', acceptGoods sim facts true moment = .ok sim'' ∧
      sim''.state.commercial = sim'.state.commercial ∧ sim''.state.intake = sim'.state.intake := by
  unfold acceptGoods at h ⊢
  split at h
  · next haccepted =>
    cases h
    exact ⟨sim, if_pos haccepted, rfl, rfl⟩
  · next haccepted =>
    rw [if_neg haccepted]
    obtain ⟨_, hclear, h⟩ := bind_ok.mp h
    rw [require_ok] at hclear
    obtain ⟨state, hstate, h⟩ := bind_ok.mp h
    cases h
    obtain ⟨hopen, hnot, hrejected, hmove⟩ := transitionIntake_ok.mp hstate
    replace hclear := hclear.resolve_right hrejected
    have hslot : slotApproved = true := slotApproved_of_blockers hclear
    subst hslot
    cases hmove with
    | advance _ _ _ htarget => exact absurd rfl htarget
    | accept hhandoff hready _ hfirst =>
      have hnext := transitionIntake_ok.mpr
        ⟨hopen, hnot, hrejected, .accept hhandoff hready ⟨moment, rfl, hmoment⟩ hfirst⟩
      exact ⟨_, bind_ok.mpr ⟨(), require_ok.mpr (.inl hclear), bind_ok.mpr ⟨_, hnext, rfl⟩⟩, rfl, rfl⟩

lemma commercial_active_any {sim sim₁ sim' : Simulation}
    (hcommercial : sim₁.state.commercial = sim.state.commercial)
    (hintake : sim₁.state.intake = sim.state.intake) (h : sim.commercial .active none = .ok sim') :
    ∃ sim'', sim₁.commercial .active none = .ok sim'' := by
  obtain ⟨state, hstate, -⟩ := bind_ok.mp h
  obtain ⟨hdisposal, hmove⟩ := transitionCommercial_ok.mp hstate
  cases hmove with
  | advance hedge hcancel hcomplete haccepted =>
    rw [← hcommercial] at hedge
    rw [← hintake] at haccepted
    exact ⟨_, bind_ok.mpr ⟨_, transitionCommercial_ok.mpr
      ⟨hdisposal, .advance hedge hcancel hcomplete haccepted⟩, rfl⟩⟩

lemma planReceive_any {sim sim' : Simulation} {facts : StepFacts} {slotApproved : Bool}
    {acceptedAt moment : Datetime} (hmoment : moment.aware)
    (h : planReceive sim facts slotApproved acceptedAt = .ok sim') :
    ∃ sim'', planReceive sim facts true moment = .ok sim'' ∧ sim''.planned ≠ [] := by
  unfold planReceive at h
  obtain ⟨_, hopen, h⟩ := bind_ok.mp h
  obtain ⟨sim₁, h₁, h⟩ := bind_ok.mp h
  obtain ⟨sim₂, h₂, h⟩ := bind_ok.mp h
  obtain ⟨sim₃, h₃, h⟩ := bind_ok.mp h
  obtain ⟨sim₄, h₄, h⟩ := bind_ok.mp h
  obtain ⟨sim₅, h₅, hcommercial, hintake⟩ := acceptGoods_any hmoment h₄
  obtain ⟨sim₆, h₆⟩ := commercial_active_any hcommercial hintake h
  refine ⟨sim₆, ?_, commercial_planned h₆⟩
  unfold planReceive
  exact bind_ok.mpr ⟨_, hopen, bind_ok.mpr ⟨sim₁, h₁, bind_ok.mpr ⟨sim₂, h₂, bind_ok.mpr
    ⟨sim₃, h₃, bind_ok.mpr ⟨sim₅, h₅, h₆⟩⟩⟩⟩⟩

/-- The steps that ask for nothing but a slot: their plan reads no other argument. -/
def plainSteps : List OrderStep :=
  [.startWash, .qualityCheck, .markReady, .hold, .resume, .release, .handOver, .complete, .reopen]

lemma simulateStep_plain {step : OrderStep} (hstep : step ∈ plainSteps) (facts : StepFacts)
    (args args' : StepArguments) : simulateStep step facts args = simulateStep step facts args' := by
  simp only [plainSteps, List.mem_cons, List.not_mem_nil, or_false] at hstep
  rcases hstep with rfl | rfl | rfl | rfl | rfl | rfl | rfl | rfl | rfl <;> rfl

lemma simulatedPlan_plain {step : OrderStep} (hstep : step ∈ plainSteps) {facts : StepFacts}
    {args : StepArguments} {sim : Simulation} (h : simulatedPlan step facts args = .ok sim)
    {args' : StepArguments} (hrewash : args'.rewashReason = none)
    (hrejection : args'.rejectionReason = none) (hrefund : args'.refundMethod = none) :
    simulatedPlan step facts args' = .ok sim := by
  obtain ⟨hcomposite, -, -, -, -, hsimulate, hplanned⟩ := simulatedPlan_ok.mp h
  refine simulatedPlan_ok.mpr ⟨hcomposite, .inl hrewash, .inl hrejection, .inr ?_, .inl hrefund, ?_,
    hplanned⟩
  · revert hstep
    cases step <;> decide
  · rw [simulateStep_plain hstep facts args' args]
    exact hsimulate

lemma legalSteps_step {facts : StepFacts} {step : OrderStep} {item : NextStep}
    (h : legalSteps facts step = some item) : item.step = step := by
  have hoffered : ∀ {step accepted requires}, offered step accepted requires = some item →
      item.step = step := by
    intro step accepted requires h
    unfold offered at h
    split at h <;> cases h
    rfl
  cases step with
  | cancel =>
    replace h : offeredCancel facts = some item := h
    unfold offeredCancel at h
    split at h
    · exact hoffered h
    · simp only at h
      split at h <;> cases h
      rfl
  | rewash =>
    replace h : offeredRewash facts = some item := h
    unfold offeredRewash at h
    simp only at h
    split at h <;> cases h
    rfl
  | rejectIntake =>
    replace h : offeredRejectIntake facts = some item := h
    unfold offeredRejectIntake at h
    simp only at h
    split at h <;> cases h
    rfl
  | _ => exact hoffered h

lemma mem_stepOrder (step : OrderStep) : step ∈ stepOrder := by
  cases step <;> decide

lemma mem_nextSteps {facts : StepFacts} {entry : NextStep} :
    entry ∈ nextSteps facts ↔ ∃ item, legalSteps facts entry.step = some item ∧
      entry = { item with primary := some item.step = primaryStep facts } := by
  unfold nextSteps
  rw [List.mem_filterMap]
  constructor
  · rintro ⟨step, -, h⟩
    obtain ⟨item, hitem, rfl⟩ := Option.map_eq_some_iff.mp h
    have := legalSteps_step hitem
    exact ⟨item, by rw [this]; exact hitem, rfl⟩
  · rintro ⟨item, hitem, hentry⟩
    exact ⟨entry.step, mem_stepOrder _, Option.map_eq_some_iff.mpr ⟨item, hitem, hentry.symm⟩⟩

lemma listed_iff {facts : StepFacts} {step : OrderStep} :
    Listed facts step ↔ (legalSteps facts step).isSome = true := by
  constructor
  · rintro ⟨entry, hentry, rfl⟩
    obtain ⟨item, hitem, -⟩ := mem_nextSteps.mp hentry
    rw [hitem]
    rfl
  · intro h
    obtain ⟨item, hitem⟩ := Option.isSome_iff_exists.mp h
    have hstep := legalSteps_step hitem
    refine ⟨{ item with primary := some item.step = primaryStep facts }, ?_, hstep⟩
    refine mem_nextSteps.mpr ⟨item, ?_, rfl⟩
    dsimp only
    rw [hstep]
    exact hitem

lemma offered_some {step : OrderStep} {accepted : Bool} {requires : List RequiredField}
    {item : NextStep} (h : offered step accepted requires = some item) :
    accepted = true ∧ item = { step, primary := false, requires } := by
  unfold offered at h
  split at h
  · next ha =>
    cases h
    exact ⟨ha, rfl⟩
  · cases h

lemma plain_accepted {facts : StepFacts} {step : OrderStep} (hstep : step ∈ plainSteps)
    {args : StepArguments} (hlegal : legal step facts (dryRun none) = true)
    (h : Answers { step, primary := false } args) :
    ∃ sim, simulatedPlan step facts args = .ok sim := by
  obtain ⟨sim, hsim⟩ := legal_iff.mp hlegal
  obtain ⟨-, -, -, hrewash, hrejection, hrefund⟩ := h
  simp only [List.not_mem_nil, if_false, iff_false, not_not] at hrewash hrejection hrefund
  exact ⟨sim, simulatedPlan_plain hstep hsim hrewash hrejection hrefund⟩

lemma receive_accepted {facts : StepFacts} {args args' : StepArguments} {sim : Simulation}
    (h : simulatedPlan .receive facts args = .ok sim) (hslot : args'.slotApproved = true)
    (haware : args'.acceptedAt.aware) (hrewash : args'.rewashReason = none)
    (hrejection : args'.rejectionReason = none) (hrefund : args'.refundMethod = none) :
    ∃ sim', simulatedPlan .receive facts args' = .ok sim' := by
  obtain ⟨-, -, -, -, -, hsimulate, -⟩ := simulatedPlan_ok.mp h
  obtain ⟨sim', hsim', hplanned⟩ := planReceive_any haware hsimulate
  refine ⟨sim', simulatedPlan_ok.mpr ⟨by decide, .inl hrewash, .inl hrejection, .inr (by decide),
    .inl hrefund, ?_, hplanned⟩⟩
  unfold simulateStep
  dsimp only
  rw [hslot]
  exact hsim'

lemma rewash_accepted {facts : StepFacts} {item : NextStep} {args : StepArguments}
    (hitem : offeredRewash facts = some item) (h : Answers item args) :
    ∃ sim, simulatedPlan .rewash facts args = .ok sim := by
  unfold offeredRewash at hitem
  simp only at hitem
  split at hitem
  · cases hitem
  cases hitem
  obtain ⟨-, -, hresolution, hrewash, hrejection, hrefund⟩ := h
  simp only [List.mem_cons, List.not_mem_nil, or_false, reduceCtorEq, if_false, if_true, iff_false,
    not_not] at hresolution hrewash hrejection hrefund
  obtain ⟨reason, hreason, hmem⟩ := hrewash
  obtain ⟨sim, hsim⟩ := legal_iff.mp (List.mem_filter.mp hmem).2
  obtain ⟨-, -, -, -, -, hsimulate, hplanned⟩ := simulatedPlan_ok.mp hsim
  refine ⟨sim, simulatedPlan_ok.mpr ⟨by decide, .inr rfl, .inl hrejection, .inl hresolution,
    .inl hrefund, ?_, hplanned⟩⟩
  unfold simulateStep at hsimulate ⊢
  dsimp only at hsimulate ⊢
  rw [Option.mem_def.mp hreason]
  exact hsimulate

lemma rejectIntake_accepted {facts : StepFacts} {item : NextStep} {args : StepArguments}
    (hitem : offeredRejectIntake facts = some item) (h : Answers item args) :
    ∃ sim, simulatedPlan .rejectIntake facts args = .ok sim := by
  unfold offeredRejectIntake at hitem
  simp only at hitem
  split at hitem
  · cases hitem
  cases hitem
  obtain ⟨-, -, hresolution, hrewash, hrejection, hrefund⟩ := h
  simp only [List.mem_cons, List.not_mem_nil, or_false, reduceCtorEq, if_false, if_true, iff_false,
    not_not] at hresolution hrewash hrejection hrefund
  obtain ⟨reason, hreason, hmem⟩ := hrejection
  obtain ⟨sim, hsim⟩ := legal_iff.mp (List.mem_filter.mp hmem).2
  obtain ⟨-, -, -, -, -, hsimulate, hplanned⟩ := simulatedPlan_ok.mp hsim
  refine ⟨sim, simulatedPlan_ok.mpr ⟨by decide, .inl hrewash, .inr rfl, .inl hresolution,
    .inl hrefund, ?_, hplanned⟩⟩
  unfold simulateStep at hsimulate ⊢
  dsimp only at hsimulate ⊢
  rw [Option.mem_def.mp hreason]
  exact hsimulate

lemma listed_accepted {facts : StepFacts} {entry : NextStep} {args : StepArguments}
    (hentry : entry ∈ nextSteps facts) (hcomposite : entry.step ∈ compositeSteps)
    (h : Answers entry args) : ∃ plan, planStep entry.step facts args = .ok plan := by
  suffices hsim : ∃ sim, simulatedPlan entry.step facts args = .ok sim by
    obtain ⟨sim, hsim⟩ := hsim
    exact ⟨sim.planned, planStep_ok.mpr ⟨sim, hsim, rfl⟩⟩
  obtain ⟨item, hitem, heq⟩ := mem_nextSteps.mp hentry
  have hanswers : Answers item args := by
    rw [heq] at h
    exact ⟨h.slot, h.aware, h.resolution, h.rewash, h.rejection, h.refund⟩
  clear h heq hentry
  generalize entry.step = step at hitem hcomposite
  cases step with
  | receive =>
    obtain ⟨hlegal, rfl⟩ := offered_some hitem
    obtain ⟨sim, hsim⟩ := legal_iff.mp hlegal
    obtain ⟨hslot, haware, -, hrewash, hrejection, hrefund⟩ := hanswers
    simp only [List.mem_cons, List.not_mem_nil, or_false, reduceCtorEq, if_false, iff_false,
      not_not] at hrewash hrejection hrefund
    exact receive_accepted hsim hslot haware hrewash hrejection hrefund
  | cancel => exact (offeredCancel_accepted hitem hanswers).2
  | rewash => exact rewash_accepted hitem hanswers
  | rejectIntake => exact rejectIntake_accepted hitem hanswers
  | release =>
    obtain ⟨hlegal, rfl⟩ := offered_some hitem
    exact plain_accepted (by decide) (Bool.and_eq_true_iff.mp hlegal).1 hanswers
  | handOver =>
    obtain ⟨hlegal, rfl⟩ := offered_some hitem
    exact plain_accepted (by decide) (Bool.and_eq_true_iff.mp hlegal).1 hanswers
  | takePayment => simp [compositeSteps] at hcomposite
  | collect => simp [compositeSteps] at hcomposite
  | deliveryPickup => simp [compositeSteps] at hcomposite
  | deliveryReturn => simp [compositeSteps] at hcomposite
  | _ =>
    obtain ⟨hlegal, rfl⟩ := offered_some hitem
    exact plain_accepted (by decide) hlegal hanswers

lemma plain_legal {facts : StepFacts} {step : OrderStep} (hstep : step ∈ plainSteps)
    {args : StepArguments} {sim : Simulation} (h : simulatedPlan step facts args = .ok sim) :
    legal step facts (dryRun none) = true :=
  legal_iff.mpr ⟨sim, simulatedPlan_plain hstep h rfl rfl rfl⟩

lemma handOver_complete {facts : StepFacts} {args : StepArguments} {sim : Simulation}
    (hreleased : facts.state.production = .released)
    (h : simulatedPlan .handOver facts args = .ok sim) : Listed facts .complete := by
  obtain ⟨-, -, -, -, -, hsimulate, hplanned⟩ := simulatedPlan_ok.mp h
  have hcomplete : simulateStep .complete facts (dryRun none) = .ok sim := by
    replace hsimulate : planHandOver ⟨facts.state, []⟩ = .ok sim := hsimulate
    rw [planHandOver, if_pos hreleased] at hsimulate
    exact hsimulate
  have hlegal : legal .complete facts (dryRun none) = true :=
    legal_iff.mpr ⟨sim, simulatedPlan_ok.mpr ⟨by decide, .inl rfl, .inl rfl, .inl rfl, .inl rfl,
      hcomplete, hplanned⟩⟩
  refine listed_iff.mpr ?_
  simp [legalSteps, offered, hlegal]

lemma accepted_listed {facts : StepFacts} {step : OrderStep} {args : StepArguments}
    {sim : Simulation} (h : simulatedPlan step facts args = .ok sim) :
    Listed facts step ∨ (step = .release ∧ Listed facts .handOver) ∨
      (step = .handOver ∧ facts.state.production = .released ∧ Listed facts .complete) := by
  obtain ⟨hcomposite, -, -, hresolution, hrefund, hsimulate, hplanned⟩ := simulatedPlan_ok.mp h
  cases step with
  | receive =>
    left
    have hlegal : legal .receive facts (dryRun none) = true :=
      legal_iff.mpr (receive_accepted h rfl rfl rfl rfl rfl)
    refine listed_iff.mpr ?_
    simp [legalSteps, offered, hlegal]
  | cancel =>
    left
    obtain ⟨-, -, ⟨sim₁, h₁⟩, -⟩ := simulatedPlan_cancel.mp ⟨sim, h⟩
    exact listed_iff.mpr (offeredCancel_isSome h₁)
  | rewash =>
    left
    obtain ⟨reason, hreason⟩ : ∃ reason, args.rewashReason = some reason := by
      replace hsimulate : planRewash ⟨facts.state, []⟩ args.rewashReason = .ok sim := hsimulate
      unfold planRewash at hsimulate
      iterate 4 obtain ⟨_, -, hsimulate⟩ := bind_ok.mp hsimulate
      obtain ⟨_, hne, -⟩ := bind_ok.mp hsimulate
      exact Option.ne_none_iff_exists'.mp (require_ok.mp hne)
    have hlegal : legal .rewash facts { dryRun none with rewashReason := some reason } = true := by
      refine legal_iff.mpr ⟨sim, simulatedPlan_ok.mpr ⟨by decide, .inr rfl, .inl rfl, .inl rfl,
        .inl rfl, ?_, hplanned⟩⟩
      unfold simulateStep at hsimulate ⊢
      dsimp only at hsimulate ⊢
      rw [← hreason]
      exact hsimulate
    have hmem : reason ∈ rewashReasons.filter fun reason =>
        legal .rewash facts { dryRun none with rewashReason := some reason } :=
      List.mem_filter.mpr ⟨by cases reason <;> decide, hlegal⟩
    refine listed_iff.mpr ?_
    simp only [legalSteps, offeredRewash]
    rw [if_neg (List.ne_nil_of_mem hmem)]
    rfl
  | rejectIntake =>
    left
    obtain ⟨reason, hreason⟩ : ∃ reason, args.rejectionReason = some reason := by
      replace hsimulate : planRejectIntake ⟨facts.state, []⟩ args.rejectionReason = .ok sim :=
        hsimulate
      unfold planRejectIntake at hsimulate
      iterate 4 obtain ⟨_, -, hsimulate⟩ := bind_ok.mp hsimulate
      obtain ⟨_, hne, -⟩ := bind_ok.mp hsimulate
      exact Option.ne_none_iff_exists'.mp (require_ok.mp hne)
    have hlegal :
        legal .rejectIntake facts { dryRun none with rejectionReason := some reason } = true := by
      refine legal_iff.mpr ⟨sim, simulatedPlan_ok.mpr ⟨by decide, .inl rfl, .inr rfl, .inl rfl,
        .inl rfl, ?_, hplanned⟩⟩
      unfold simulateStep at hsimulate ⊢
      dsimp only at hsimulate ⊢
      rw [← hreason]
      exact hsimulate
    have hmem : reason ∈ intakeRejectionReasons.filter fun reason =>
        legal .rejectIntake facts { dryRun none with rejectionReason := some reason } :=
      List.mem_filter.mpr ⟨by cases reason <;> decide, hlegal⟩
    refine listed_iff.mpr ?_
    simp only [legalSteps, offeredRejectIntake]
    rw [if_neg (List.ne_nil_of_mem hmem)]
    rfl
  | release =>
    have hlegal := plain_legal (by decide) h
    by_cases hhand : (handOverLegal facts && decide (facts.state.production ≠ .released)) = true
    · right
      left
      refine ⟨rfl, listed_iff.mpr ?_⟩
      simp only [legalSteps, offered, hhand]
      rfl
    · left
      refine listed_iff.mpr ?_
      rw [Bool.not_eq_true] at hhand
      simp only [legalSteps, offered, hlegal, hhand]
      rfl
  | handOver =>
    by_cases hreleased : facts.state.production = .released
    · exact .inr (.inr ⟨rfl, hreleased, handOver_complete hreleased h⟩)
    · left
      have hlegal : handOverLegal facts = true := plain_legal (by decide) h
      refine listed_iff.mpr ?_
      simp [legalSteps, offered, hlegal, hreleased]
  | takePayment => simp [compositeSteps] at hcomposite
  | collect => simp [compositeSteps] at hcomposite
  | deliveryPickup => simp [compositeSteps] at hcomposite
  | deliveryReturn => simp [compositeSteps] at hcomposite
  | _ =>
    left
    have hlegal := plain_legal (by decide) h
    refine listed_iff.mpr ?_
    simp [legalSteps, offered, hlegal]

lemma follow_open {acceptedAt : Datetime} {s s' : OrderState} {planned : PlannedTransition}
    (h : planned.follow acceptedAt s = .ok s') : s.commercial ∉ terminalCommercialStatuses := by
  unfold PlannedTransition.follow at h
  split at h
  · intro hclosed
    simp only [terminalCommercialStatuses, List.mem_cons, List.not_mem_nil, or_false] at hclosed
    cases (transitionCommercial_ok.mp h).2 with
    | complete hactive => rcases hclosed with hc | hc <;> simp [hc] at hactive
    | cancelReviewed hreview => rcases hclosed with hc | hc <;> simp [hc] at hreview
    | cancelDirect hedge => rcases hclosed with hc | hc <;> simp [hc, commercialTransitions] at hedge
    | advance hedge => rcases hclosed with hc | hc <;> simp [hc, commercialTransitions] at hedge
  · exact (transitionIntake_ok.mp h).1
  · exact (transitionProduction_ok.mp h).1

lemma simulatedPlan_open {step : OrderStep} {facts : StepFacts} {args : StepArguments}
    {sim : Simulation} (h : simulatedPlan step facts args = .ok sim) :
    facts.state.commercial ∉ terminalCommercialStatuses := by
  have htraced := simulatedPlan_traced h
  obtain ⟨-, -, -, -, -, -, hplanned⟩ := simulatedPlan_ok.mp h
  obtain ⟨planned, rest, hcons⟩ := List.exists_cons_of_ne_nil hplanned
  rw [hcons] at htraced
  unfold followPlan at htraced
  rw [List.foldlM_cons] at htraced
  obtain ⟨_, hfirst, -⟩ := bind_ok.mp htraced
  exact follow_open hfirst

/-- A composite step is in the list because some arguments make a plan of it. -/
lemma listed_planned {facts : StepFacts} {step : OrderStep} {item : NextStep}
    (hcomposite : step ∈ compositeSteps) (h : legalSteps facts step = some item) :
    ∃ args sim, simulatedPlan step facts args = .ok sim := by
  cases step with
  | cancel =>
    obtain ⟨resolution, sim, hsim⟩ :
        ∃ resolution sim, planCancel ⟨facts.state, []⟩ resolution = .ok sim := by
      replace h : offeredCancel facts = some item := h
      unfold offeredCancel at h
      split at h
      · next hdirect => exact ⟨none, (cancelLegal_spec facts none).1.mp hdirect⟩
      · simp only at h
        split at h
        · cases h
        next haccepted =>
        obtain ⟨r, hr⟩ := List.exists_mem_of_ne_nil _ haccepted
        exact ⟨some r, (cancelLegal_spec facts (some r)).1.mp (List.mem_filter.mp hr).2⟩
    refine ⟨{ dryRun resolution with
      refundMethod := if facts.state.balance = .paid ∨ facts.state.balance = .partiallyPaid then
        some .tienMat else none }, simulatedPlan_cancel.mpr ⟨rfl, rfl, ⟨sim, hsim⟩, ?_⟩⟩
    split <;> simp_all
  | rewash =>
    replace h : offeredRewash facts = some item := h
    unfold offeredRewash at h
    simp only at h
    split at h
    · cases h
    next haccepted =>
    obtain ⟨reason, hr⟩ := List.exists_mem_of_ne_nil _ haccepted
    exact ⟨_, legal_iff.mp (List.mem_filter.mp hr).2⟩
  | rejectIntake =>
    replace h : offeredRejectIntake facts = some item := h
    unfold offeredRejectIntake at h
    simp only at h
    split at h
    · cases h
    next haccepted =>
    obtain ⟨reason, hr⟩ := List.exists_mem_of_ne_nil _ haccepted
    exact ⟨_, legal_iff.mp (List.mem_filter.mp hr).2⟩
  | release => exact ⟨_, legal_iff.mp (Bool.and_eq_true_iff.mp (offered_some h).1).1⟩
  | handOver => exact ⟨_, legal_iff.mp (Bool.and_eq_true_iff.mp (offered_some h).1).1⟩
  | takePayment => simp [compositeSteps] at hcomposite
  | collect => simp [compositeSteps] at hcomposite
  | deliveryPickup => simp [compositeSteps] at hcomposite
  | deliveryReturn => simp [compositeSteps] at hcomposite
  | _ => exact ⟨_, legal_iff.mp (offered_some h).1⟩

lemma nextSteps_closed {facts : StepFacts}
    (hclosed : facts.state.commercial ∈ terminalCommercialStatuses) : nextSteps facts = [] := by
  have hinactive : facts.state.commercial ≠ .active := by
    intro hactive
    simp [hactive, terminalCommercialStatuses] at hclosed
  refine List.eq_nil_iff_forall_not_mem.mpr fun entry hentry => ?_
  obtain ⟨item, hitem, -⟩ := mem_nextSteps.mp hentry
  generalize entry.step = step at hitem
  by_cases hcomposite : step ∈ compositeSteps
  · obtain ⟨args, sim, hsim⟩ := listed_planned hcomposite hitem
    exact simulatedPlan_open hsim hclosed
  · cases step with
    | takePayment =>
      have hlegal := (offered_some hitem).1
      simp [paymentLegal, hinactive] at hlegal
    | collect =>
      have hlegal := (offered_some hitem).1
      simp [evaluateCollection, hinactive] at hlegal
    | deliveryPickup =>
      have hlegal := (offered_some hitem).1
      simp [hinactive] at hlegal
    | deliveryReturn =>
      have hlegal := (offered_some hitem).1
      simp [hinactive] at hlegal
    | _ => exact hcomposite (by decide)

lemma primaryStep_ordinary {facts : StepFacts} {step : OrderStep}
    (h : primaryStep facts = some step) : step ∉ neverPrimarySteps := by
  have hordinary : ∀ {p : OrderStep → Bool} {step}, (primaryOrder facts).find? p = some step →
      step ∉ neverPrimarySteps := by
    intro p step h
    have hmem := List.mem_of_find?_eq_some h
    unfold primaryOrder at hmem
    split at hmem
    · simp at hmem
      rcases hmem with rfl | rfl <;> decide
    · split at hmem <;> simp at hmem <;>
        rcases hmem with rfl | rfl | rfl | rfl | rfl | rfl | rfl | rfl | rfl | rfl <;> decide
  have hcandidate : ∀ {step}, step ∈ stepOrder.filter (fun step =>
      (legalSteps facts step).isSome && decide (step ∉ neverPrimarySteps)) →
        step ∉ neverPrimarySteps := by
    intro step h
    simpa using (Bool.and_eq_true_iff.mp (List.mem_filter.mp h).2).2
  unfold primaryStep at h
  simp only [Option.orElse_eq_orElse, Option.orElse_eq_or, Option.or_eq_some_iff] at h
  rcases h with h | ⟨-, h | ⟨-, h⟩⟩
  · exact hordinary h
  · exact hcandidate (List.mem_of_find?_eq_some h)
  · exact hcandidate (List.mem_of_mem_head? h)

lemma primary_iff {facts : StepFacts} {entry : NextStep} (h : entry ∈ nextSteps facts) :
    entry.primary = true ↔ primaryStep facts = some entry.step := by
  obtain ⟨item, -, heq⟩ := mem_nextSteps.mp h
  have hstep : entry.step = item.step := by rw [heq]
  rw [hstep, heq, decide_eq_true_eq, eq_comm]

lemma primary_unique (facts : StepFacts) :
    ((nextSteps facts).filter NextStep.primary).length ≤ 1 := by
  have hdistinct : (nextSteps facts).Pairwise fun a b => a.step ≠ b.step := by
    unfold nextSteps
    have hnodup : stepOrder.Nodup := by decide
    refine List.Pairwise.filterMap _ (fun step step' hne entry hentry entry' hentry' => ?_) hnodup
    obtain ⟨item, hitem, rfl⟩ := Option.map_eq_some_iff.mp hentry
    obtain ⟨item', hitem', rfl⟩ := Option.map_eq_some_iff.mp hentry'
    have h := legalSteps_step hitem
    have h' := legalSteps_step hitem'
    dsimp only
    rw [h, h']
    exact hne
  have hsame : ∀ entry ∈ (nextSteps facts).filter NextStep.primary,
      primaryStep facts = some entry.step := fun entry h =>
    (primary_iff (List.mem_of_mem_filter h)).mp (List.mem_filter.mp h).2
  have hpairwise := hdistinct.filter NextStep.primary
  cases hlist : (nextSteps facts).filter NextStep.primary with
  | nil => exact Nat.zero_le 1
  | cons first rest =>
    cases rest with
    | nil => exact Nat.le_refl 1
    | cons second rest =>
      rw [hlist] at hsame hpairwise
      have hfirst := hsame first (by simp)
      rw [hsame second (by simp)] at hfirst
      exact absurd (Option.some.inj hfirst).symm
        ((List.pairwise_cons.mp hpairwise).1 second (by simp))

/-- The charges of an order are presentable exactly when its quote presents a single total that an
exact-total settlement would take; they are then whole amounts. -/
lemma owedCharges_presentable {quoted : QuotedTotal} {storageFeeVnd : Int}
    {charges : Option (List OrderCharge)} (h : owedCharges quoted storageFeeVnd = .ok charges) :
    (charges = none ∧ ∀ total ∈ quoted.minimumVnd, ∀ mode,
        (evaluateSettlement quoted total false mode false).isOk = false) ∨
      (∃ list total, charges = some list ∧ quoted.minimumVnd = some total ∧
        (∀ mode, (evaluateSettlement quoted total false mode false).isOk = true) ∧
        ∃ owed, owedTotal list = .ok owed) := by
  obtain ⟨minimum, maximum⟩ := quoted
  unfold owedCharges at h
  cases minimum with
  | none =>
    cases h
    exact .inl ⟨rfl, by simp⟩
  | some minimum =>
  cases maximum with
  | none =>
    cases h
    refine .inl ⟨rfl, fun total _ mode => ?_⟩
    unfold evaluateSettlement
    split <;> rfl
  | some maximum =>
  dsimp only at h
  split at h
  · next hnot =>
    cases h
    refine .inl ⟨rfl, fun total ht mode => ?_⟩
    cases ht
    unfold evaluateSettlement
    split
    · rfl
    · next hwhole =>
      have hrange : minimum ≠ maximum := hnot.resolve_right hwhole
      simp [hrange, Except.isOk, Except.toBool]
  · next hsingle =>
    rw [not_or, not_not, not_not] at hsingle
    obtain ⟨rfl, hwhole⟩ := hsingle
    obtain ⟨_, hfee, h⟩ := bind_ok.mp h
    rw [require_ok] at hfee
    cases h
    refine .inr ⟨_, minimum, rfl, rfl, fun mode => ?_, ?_⟩
    · by_cases hmode : mode ∈ modesExpectingReturn <;>
        simp [evaluateSettlement, hwhole, hmode, Except.isOk, Except.toBool]
    · refine ⟨_, bind_ok.mpr ⟨(), require_ok.mpr ?_, rfl⟩⟩
      intro charge hcharge
      rcases List.mem_cons.mp hcharge with rfl | hcharge
      · exact hwhole
      · split at hcharge
        · rw [List.mem_singleton.mp hcharge]
          exact hfee
        · cases hcharge

lemma paymentLegal_iff {facts : StepFacts} {storageFeeVnd paidVnd : Int}
    {charges : Option (List OrderCharge)}
    (hcharges : owedCharges facts.quotedTotal storageFeeVnd = .ok charges) (hpaid : 0 ≤ paidVnd)
    (howed : ∀ list ∈ charges, ∀ owed, owedTotal list = .ok owed →
      paidVnd ≤ owed ∧ owed ≤ maxSettlementVnd) :
    paymentLegal facts = true ↔
      ∃ amount method seen reference collected accepted, evaluatePayment facts.state.commercial
        facts.state.balance charges paidVnd amount method seen reference collected =
          .ok (.accepted accepted) := by
  rcases owedCharges_presentable hcharges with
    ⟨rfl, hrefused⟩ | ⟨list, total, rfl, htotal, hok, owed, hsum⟩
  · refine iff_of_false ?_ ?_
    · intro hlegal
      have hpresented := (Bool.and_eq_true_iff.mp hlegal).2
      split at hpresented
      · cases hpresented
      · next total hminimum =>
        rw [hrefused total hminimum] at hpresented
        cases hpresented
    · rintro ⟨_, _, _, _, _, _, h⟩
      unfold evaluatePayment at h
      split at h
      · cases h
      · split at h <;> cases h
  · obtain ⟨hle, hmax⟩ := howed list rfl owed hsum
    constructor
    · intro hlegal
      simp only [paymentLegal, htotal, hok, Bool.and_true, Bool.and_eq_true,
        decide_eq_true_eq] at hlegal
      have hamount : wholeVnd (owed - paidVnd) := ⟨by omega, by omega⟩
      have hposition : paymentPosition (some list) paidVnd =
          .ok ⟨list, some owed, paidVnd, some (owed - paidVnd)⟩ := by
        unfold paymentPosition
        rw [require_true ⟨hpaid, by omega⟩, ok_bind]
        dsimp only
        rw [hsum, ok_bind, require_true hle]
        rfl
      have htake : ∃ accepted, takeAmount owed paidVnd (owed - paidVnd) false = .accepted accepted := by
        unfold takeAmount
        by_cases hzero : owed - paidVnd = 0
        · simp [hzero]
        · have hpos : ¬ owed - paidVnd < 1 := by omega
          simp [hzero, hpos]
      obtain ⟨accepted, htake⟩ := htake
      refine ⟨owed - paidVnd, .tienMat, false, none, false, accepted, ?_⟩
      simp [evaluatePayment, hlegal.1, hlegal.2, hamount, hposition, htake]
    · rintro ⟨_, _, _, _, _, _, h⟩
      unfold evaluatePayment at h
      split at h
      · cases h
      next hactive =>
      split at h
      · cases h
      next hpayable =>
      simp only [paymentLegal, htotal, hok, Bool.and_true, Bool.and_eq_true, decide_eq_true_eq]
      exact ⟨not_not.mp hactive, not_not.mp hpayable⟩

end NhaTrangLaundry.Domain.OrderSteps
