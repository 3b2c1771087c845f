import NhaTrangLaundry.Domain.Orders

/-! What an accepted transition of an order did: one case for each edge of its axes. -/

namespace NhaTrangLaundry.Domain.Orders

open Lib Outcome Catalog

inductive CommercialMove (s : OrderState) (facts : CancellationFacts) :
    CommercialOrderStatus → OrderState → Prop where
  | complete (hactive : s.commercial = .active) (hreleased : s.production = .released)
      (harrived : s.requiredDeliveryLegsSucceeded ∨ s.selfCollectionRecorded)
      (hsettled : s.balance = .paid ∨ s.balance = .onAccount) :
      CommercialMove s facts .completed { s with commercial := .completed }
  | cancelReviewed {balance : OrderBalanceStatus} (hreview : s.commercial = .cancellationReview)
      (happroved : facts.cancellationApproved ∧ facts.custodyAndFinancialResolutionRecorded)
      (hrecord : rejectResolutionContradictingTheRecord s facts.custodyResolution = .ok ())
      (hbalance : balanceAfterCancellation s.balance facts.custodyResolution = .ok balance) :
      CommercialMove s facts .cancelled { s with commercial := .cancelled, balance }
  | cancelDirect (hedge : .cancelled ∈ commercialTransitions s.commercial)
      (hreview : s.commercial ≠ .cancellationReview) (hidle : ¬ workHasBegun s) :
      CommercialMove s facts .cancelled { s with commercial := .cancelled }
  | advance {target : CommercialOrderStatus} (hedge : target ∈ commercialTransitions s.commercial)
      (hcancel : target ≠ .cancelled) (hcomplete : target ≠ .completed)
      (hintake : target = .active → s.intake = .accepted) :
      CommercialMove s facts target { s with commercial := target }

inductive IntakeMove (s : OrderState) (readiness : Option IntakeReadiness)
    (acceptedAt : Option Datetime) : IntakeStatus → OrderState → Prop where
  | reject (hreceived : s.intake ≠ .awaitingHandoff) :
      IntakeMove s readiness acceptedAt .rejected { s with intake := .rejected }
  | advance {target : IntakeStatus} (hmember : target ∈ intakeSequence)
      (hforward : intakeSequence.idxOf s.intake < intakeSequence.idxOf target)
      (hhandoff : s.intake = .awaitingHandoff → target = .receivedPendingInspection)
      (htarget : target ≠ .accepted) :
      IntakeMove s readiness acceptedAt target { s with intake := target }
  | accept (hhandoff : s.intake ≠ .awaitingHandoff) (hready : ∃ r ∈ readiness, r.ready)
      (hmoment : ∃ d ∈ acceptedAt, d.aware) (hfirst : s.productionAcceptedAt = none) :
      IntakeMove s readiness acceptedAt .accepted
        { s with intake := .accepted, productionAcceptedAt := acceptedAt }

inductive ProductionMove (s : OrderState) : ProductionStatus → OrderState → Prop where
  | resumeHold {target : ProductionStatus} (hhold : s.production = .onHold)
      (hresume : s.productionResumeStatus = some target) :
      ProductionMove s target { s with production := target, productionResumeStatus := none }
  | resolve {target resume : ProductionStatus} (hexception : s.production = .exception)
      (hresume : s.productionResumeStatus = some resume) (hmember : target ∈ productionSequence)
      (hback : productionSequence.idxOf target ≤ productionSequence.idxOf resume) :
      ProductionMove s target { s with production := target, productionResumeStatus := none }
  | interrupt {target : ProductionStatus} (htarget : target = .onHold ∨ target = .exception)
      (hstarted : s.production ∈ [ProductionStatus.queued, .inProcess, .qualityCheck, .readyAtStore]) :
      ProductionMove s target
        { s with production := target, productionResumeStatus := some s.production }
  | advance {target : ProductionStatus}
      (hedge : (s.production, target) ∈ [(ProductionStatus.notStarted, ProductionStatus.queued),
        (.queued, .inProcess), (.inProcess, .qualityCheck), (.qualityCheck, .readyAtStore),
        (.readyAtStore, .released)]) :
      ProductionMove s target { s with production := target, productionResumeStatus := none }

lemma ProductionMove.production_eq {s s' : OrderState} {target : ProductionStatus}
    (h : ProductionMove s target s') : s'.production = target := by
  cases h <;> rfl

lemma ProductionMove.not_released {s s' : OrderState} {target : ProductionStatus}
    (h : ProductionMove s target s') : s.production ≠ .released := by
  intro hreleased
  cases h with
  | resumeHold hhold => cases hreleased.symm.trans hhold
  | resolve hexception => cases hreleased.symm.trans hexception
  | interrupt _ hstarted => simp [hreleased] at hstarted
  | advance hedge => simp [hreleased] at hedge

lemma CommercialMove.keeps {s s' : OrderState} {facts : CancellationFacts}
    {target : CommercialOrderStatus} (h : CommercialMove s facts target s') :
    s' = { s with commercial := target, balance := s'.balance } := by
  cases h <;> rfl

lemma IntakeMove.keeps {s s' : OrderState} {readiness : Option IntakeReadiness}
    {acceptedAt : Option Datetime} {target : IntakeStatus}
    (h : IntakeMove s readiness acceptedAt target s') :
    s' = { s with intake := target, productionAcceptedAt := s'.productionAcceptedAt } := by
  cases h <;> rfl

lemma ProductionMove.keeps {s s' : OrderState} {target : ProductionStatus}
    (h : ProductionMove s target s') :
    s' = { s with production := target, productionResumeStatus := s'.productionResumeStatus } := by
  cases h <;> rfl

lemma balanceAfterCancellation_ok {balance after : OrderBalanceStatus}
    {resolution : Option CustodyResolution} :
    balanceAfterCancellation balance resolution = .ok after ↔
      (balance = .unpaid ∧ after = .unpaid) ∨
      (resolution = some .unclaimedDisposed ∧ (balance = .paid ∨ balance = .partiallyPaid) ∧
        after = balance) ∨
      ((∃ r ∈ resolution, r ∈ customerNotChargedResolutions) ∧
        (balance = .paid ∨ balance = .partiallyPaid) ∧ after = .refunded) := by
  rcases resolution with _ | r
  · cases balance <;> simp [balanceAfterCancellation, eq_comm]
  · cases r <;> cases balance <;>
      simp [balanceAfterCancellation, customerNotChargedResolutions, eq_comm]

lemma completeOrder_ok {s s' : OrderState} :
    completeOrder s = .ok s' ↔
      s.commercial = .active ∧ s.production = .released ∧
        (s.requiredDeliveryLegsSucceeded ∨ s.selfCollectionRecorded) ∧
        (s.balance = .paid ∨ s.balance = .onAccount) ∧
        s' = { s with commercial := .completed } := by
  unfold completeOrder
  constructor
  · intro h
    obtain ⟨_, h₁, h⟩ := bind_ok.mp h
    obtain ⟨_, h₂, h⟩ := bind_ok.mp h
    obtain ⟨_, h₃, h⟩ := bind_ok.mp h
    obtain ⟨_, h₄, h⟩ := bind_ok.mp h
    cases h
    exact ⟨require_ok.mp h₁, require_ok.mp h₂, require_ok.mp h₃, require_ok.mp h₄, rfl⟩
  · rintro ⟨h₁, h₂, h₃, h₄, rfl⟩
    rw [require_true h₁, require_true h₂, require_true h₃, require_true h₄]
    rfl

lemma cancelOrder_ok {s s' : OrderState} {facts : CancellationFacts}
    (hedge : .cancelled ∈ commercialTransitions s.commercial) :
    cancelOrder s facts = .ok s' ↔ CommercialMove s facts .cancelled s' := by
  unfold cancelOrder
  constructor
  · intro h
    by_cases hreview : s.commercial = .cancellationReview
    · rw [if_pos hreview] at h
      obtain ⟨_, happroved, h⟩ := bind_ok.mp h
      obtain ⟨_, hrecord, h⟩ := bind_ok.mp h
      obtain ⟨balance, hbalance, h⟩ := bind_ok.mp h
      cases h
      exact .cancelReviewed hreview (require_ok.mp happroved) hrecord hbalance
    · rw [if_neg hreview] at h
      obtain ⟨_, hidle, h⟩ := bind_ok.mp h
      cases h
      exact .cancelDirect hedge hreview (require_ok.mp hidle)
  · intro h
    cases h with
    | cancelReviewed hreview happroved hrecord hbalance =>
      rw [if_pos hreview, require_true happroved, ok_bind, hrecord, ok_bind, hbalance]
      rfl
    | cancelDirect _ hreview hidle =>
      rw [if_neg hreview, require_true hidle]
      rfl
    | advance _ hcancel => exact absurd rfl hcancel

lemma transitionCommercial_ok {s s' : OrderState} {target : CommercialOrderStatus}
    {facts : CancellationFacts} :
    transitionCommercial s target facts = .ok s' ↔
      ¬ (facts.custodyResolution = some .unclaimedDisposed ∧
        facts.unclaimedDisposalVerified = false) ∧ CommercialMove s facts target s' := by
  rw [transitionCommercial, bind_ok]
  simp only [require_ok, exists_const]
  refine and_congr_right fun _ => ?_
  by_cases hcomplete : target = .completed
  · subst hcomplete
    rw [if_pos rfl]
    constructor
    · intro h
      obtain ⟨h₁, h₂, h₃, h₄, rfl⟩ := completeOrder_ok.mp h
      exact .complete h₁ h₂ h₃ h₄
    · intro h
      cases h with
      | complete h₁ h₂ h₃ h₄ => exact completeOrder_ok.mpr ⟨h₁, h₂, h₃, h₄, rfl⟩
      | advance _ _ hcomplete => exact absurd rfl hcomplete
  rw [if_neg hcomplete]
  constructor
  · intro h
    obtain ⟨_, hedge, h⟩ := bind_ok.mp h
    obtain ⟨_, hintake, h⟩ := bind_ok.mp h
    rw [require_ok] at hedge hintake
    by_cases hcancel : target = .cancelled
    · subst hcancel
      exact (cancelOrder_ok hedge).mp h
    · rw [if_neg hcancel] at h
      cases h
      exact .advance hedge hcancel hcomplete hintake
  · intro h
    have hedge : target ∈ commercialTransitions s.commercial := by
      cases h with
      | complete => exact absurd rfl hcomplete
      | cancelReviewed hreview => simp [hreview, commercialTransitions]
      | cancelDirect hedge => exact hedge
      | advance hedge => exact hedge
    have hintake : target = .active → s.intake = .accepted := by
      rintro rfl
      cases h with
      | advance _ _ _ hintake => exact hintake rfl
    rw [require_true hedge, ok_bind, require_true hintake, ok_bind]
    by_cases hcancel : target = .cancelled
    · subst hcancel
      exact (cancelOrder_ok hedge).mpr h
    · rw [if_neg hcancel]
      cases h with
      | complete => exact absurd rfl hcomplete
      | cancelReviewed => exact absurd rfl hcancel
      | cancelDirect => exact absurd rfl hcancel
      | advance => rfl

lemma acceptIntake_ok {s s' : OrderState} {readiness : Option IntakeReadiness}
    {acceptedAt : Option Datetime} :
    acceptIntake s readiness acceptedAt = .ok s' ↔
      (∃ r ∈ readiness, r.ready) ∧ (∃ d ∈ acceptedAt, d.aware) ∧ s.productionAcceptedAt = none ∧
        s' = { s with intake := .accepted, productionAcceptedAt := acceptedAt } := by
  unfold acceptIntake
  constructor
  · intro h
    obtain ⟨_, hready, h⟩ := bind_ok.mp h
    obtain ⟨_, hmoment, h⟩ := bind_ok.mp h
    obtain ⟨_, hfirst, h⟩ := bind_ok.mp h
    cases h
    exact ⟨require_ok.mp hready, require_ok.mp hmoment, require_ok.mp hfirst, rfl⟩
  · rintro ⟨hready, hmoment, hfirst, rfl⟩
    rw [require_true hready, ok_bind, require_true hmoment, ok_bind, require_true hfirst]
    rfl

lemma transitionIntake_ok {s s' : OrderState} {target : IntakeStatus}
    {readiness : Option IntakeReadiness} {acceptedAt : Option Datetime} :
    transitionIntake s target readiness acceptedAt = .ok s' ↔
      s.commercial ∉ terminalCommercialStatuses ∧ s.intake ≠ .accepted ∧ s.intake ≠ .rejected ∧
        IntakeMove s readiness acceptedAt target s' := by
  rw [transitionIntake, bind_ok]
  simp only [require_ok, exists_const, bind_ok, and_assoc]
  refine and_congr_right fun _ => and_congr_right fun haccepted => and_congr_right fun hrejected => ?_
  constructor
  · intro h
    by_cases hreject : target = .rejected
    · rw [if_pos hreject] at h
      subst hreject
      obtain ⟨_, hreceived, h⟩ := bind_ok.mp h
      cases h
      exact .reject (require_ok.mp hreceived)
    rw [if_neg hreject] at h
    obtain ⟨_, hmember, h⟩ := bind_ok.mp h
    obtain ⟨_, hforward, h⟩ := bind_ok.mp h
    obtain ⟨_, hhandoff, h⟩ := bind_ok.mp h
    rw [require_ok] at hmember hforward hhandoff
    by_cases htarget : target = .accepted
    · rw [if_pos htarget] at h
      obtain ⟨hready, hmoment, hfirst, rfl⟩ := acceptIntake_ok.mp h
      rw [htarget]
      exact .accept (fun hi => by cases htarget.symm.trans (hhandoff hi)) hready hmoment hfirst
    · rw [if_neg htarget] at h
      cases h
      exact .advance hmember hforward hhandoff htarget
  · intro h
    cases h with
    | reject hreceived =>
      rw [if_pos rfl, require_true hreceived]
      rfl
    | advance hmember hforward hhandoff htarget =>
      have hreject : target ≠ .rejected := by
        rintro rfl
        simp [intakeSequence] at hmember
      rw [if_neg hreject, require_true hmember, ok_bind, require_true hforward, ok_bind,
        require_true hhandoff, ok_bind, if_neg htarget]
    | accept hhandoff hready hmoment hfirst =>
      have hforward : intakeSequence.idxOf s.intake < intakeSequence.idxOf IntakeStatus.accepted := by
        revert haccepted hrejected
        cases s.intake <;> decide
      rw [if_neg (by decide), require_true (by decide), ok_bind, require_true hforward, ok_bind,
        require_true (fun h => absurd h hhandoff), ok_bind, if_pos rfl]
      exact acceptIntake_ok.mpr ⟨hready, hmoment, hfirst, rfl⟩

lemma productionSequence_edge {before target : ProductionStatus} (hb : before ≠ .onHold)
    (hb' : before ≠ .exception) (ht : target ≠ .notStarted) :
    (target ∈ productionSequence ∧
      productionSequence.idxOf target = productionSequence.idxOf before + 1) ↔
      (before, target) ∈ [(ProductionStatus.notStarted, ProductionStatus.queued),
        (.queued, .inProcess), (.inProcess, .qualityCheck), (.qualityCheck, .readyAtStore),
        (.readyAtStore, .released)] := by
  cases before <;> cases target <;> first | contradiction | decide

lemma transitionProduction_ok {s s' : OrderState} {target : ProductionStatus} :
    transitionProduction s target = .ok s' ↔
      s.commercial ∉ terminalCommercialStatuses ∧ target ≠ .notStarted ∧ target ≠ s.production ∧
        s.intake = .accepted ∧ ProductionMove s target s' := by
  rw [transitionProduction, bind_ok]
  simp only [require_ok, exists_const, bind_ok, and_assoc]
  refine and_congr_right fun _ => and_congr_right fun hunstarted => and_congr_right fun hmoves =>
    and_congr_right fun _ => ?_
  constructor
  · intro h
    by_cases hhold : s.production = .onHold
    · rw [if_pos hhold] at h
      obtain ⟨_, hresume, h⟩ := bind_ok.mp h
      cases h
      exact .resumeHold hhold (require_ok.mp hresume)
    rw [if_neg hhold] at h
    by_cases hexception : s.production = .exception
    · rw [if_pos hexception] at h
      unfold resolveException at h
      cases hresume : s.productionResumeStatus with
      | none => simp [hresume] at h
      | some resume =>
        simp only [hresume] at h
        obtain ⟨_, hmember, h⟩ := bind_ok.mp h
        obtain ⟨_, hback, h⟩ := bind_ok.mp h
        cases h
        exact .resolve hexception hresume (require_ok.mp hmember) (require_ok.mp hback)
    rw [if_neg hexception] at h
    by_cases hreleased : s.production = .released
    · rw [if_pos hreleased] at h
      cases h
    rw [if_neg hreleased] at h
    have hstarted : s.production ≠ .notStarted → s.production ∈
        [ProductionStatus.queued, .inProcess, .qualityCheck, .readyAtStore] := by
      revert hhold hexception hreleased
      cases s.production <;> simp
    by_cases hheld : target = .onHold
    · rw [if_pos hheld] at h
      obtain ⟨_, hs, h⟩ := bind_ok.mp h
      cases h
      exact .interrupt (.inl hheld) (hstarted (require_ok.mp hs))
    rw [if_neg hheld] at h
    by_cases hraised : target = .exception
    · rw [if_pos hraised] at h
      obtain ⟨_, hs, h⟩ := bind_ok.mp h
      cases h
      exact .interrupt (.inr hraised) (hstarted (require_ok.mp hs))
    rw [if_neg hraised] at h
    obtain ⟨_, hedge, h⟩ := bind_ok.mp h
    cases h
    exact .advance ((productionSequence_edge hhold hexception hunstarted).mp (require_ok.mp hedge))
  · intro h
    cases h with
    | resumeHold hhold hresume =>
      rw [if_pos hhold, require_true hresume]
      rfl
    | resolve hexception hresume hmember hback =>
      rw [if_neg (by rw [hexception]; decide), if_pos hexception, resolveException, hresume]
      dsimp only
      rw [require_true hmember, ok_bind, require_true hback]
      rfl
    | interrupt htarget hstarted =>
      have hne : s.production ≠ .notStarted ∧ s.production ≠ .onHold ∧
          s.production ≠ .exception ∧ s.production ≠ .released := by
        revert hstarted
        cases s.production <;> simp
      rcases htarget with rfl | rfl <;> simp [hne, Orders.interrupt]
    | advance hedge =>
      have hne : s.production ≠ .onHold ∧ s.production ≠ .exception ∧ s.production ≠ .released ∧
          target ≠ .onHold ∧ target ≠ .exception := by
        revert hedge
        cases s.production <;> cases target <;> simp
      have hseq := (productionSequence_edge hne.1 hne.2.1 hunstarted).mpr hedge
      rw [if_neg hne.1, if_neg hne.2.1, if_neg hne.2.2.1, if_neg hne.2.2.2.1,
        if_neg hne.2.2.2.2, require_true hseq]
      rfl

end NhaTrangLaundry.Domain.Orders
