import NhaTrangLaundry.Db.OrderChanges

/-! The writer replays the plan of a step: each planned transition is decided again on
the stored row, and leads where the simulation did but for the instant of acceptance. -/

namespace NhaTrangLaundry.Db.Orders

open Lib Outcome Domain Catalog Settlement Handover Domain.Orders OrderSteps

/-- Two readings of one order that differ at most in when production accepted the goods. -/
def Agrees (s r : OrderState) : Prop :=
  ∃ moment : Option Datetime, moment.isSome = s.productionAcceptedAt.isSome ∧
    r = { s with productionAcceptedAt := moment }

lemma Agrees.refl (s : OrderState) : Agrees s s := ⟨s.productionAcceptedAt, rfl, rfl⟩

section

variable {s s' r : OrderState}

lemma agrees_production {target : ProductionStatus} (h : Agrees s r)
    (hmove : transitionProduction s target = .ok s') :
    ∃ r', transitionProduction r target = .ok r' ∧ Agrees s' r' := by
  obtain ⟨moment, hmoment, rfl⟩ := h
  obtain ⟨hopen, hunstarted, hmoves, haccepted, hmove⟩ := transitionProduction_ok.mp hmove
  refine ⟨{ s' with productionAcceptedAt := moment }, transitionProduction_ok.mpr
    ⟨hopen, hunstarted, hmoves, haccepted, ?_⟩, moment, ?_, rfl⟩
  · cases hmove with
    | resumeHold hhold hresume => exact .resumeHold hhold hresume
    | resolve hexception hresume hmember hback => exact .resolve hexception hresume hmember hback
    | interrupt htarget hstarted => exact .interrupt htarget hstarted
    | advance hedge => exact .advance hedge
  · cases hmove <;> exact hmoment

lemma agrees_commercial {target : CommercialOrderStatus} {facts : CancellationFacts}
    (h : Agrees s r) (hmove : transitionCommercial s target facts = .ok s') :
    ∃ r', transitionCommercial r target facts = .ok r' ∧ Agrees s' r' := by
  obtain ⟨moment, hmoment, rfl⟩ := h
  obtain ⟨hdisposal, hmove⟩ := transitionCommercial_ok.mp hmove
  refine ⟨{ s' with productionAcceptedAt := moment }, transitionCommercial_ok.mpr
    ⟨hdisposal, ?_⟩, moment, ?_, rfl⟩
  · cases hmove with
    | complete h₁ h₂ h₃ h₄ => exact .complete h₁ h₂ h₃ h₄
    | cancelReviewed hreview happroved hrecord hbalance =>
      exact .cancelReviewed hreview happroved hrecord hbalance
    | cancelDirect hedge hreview hidle => exact .cancelDirect hedge hreview hidle
    | advance hedge hcancel hcomplete hintake => exact .advance hedge hcancel hcomplete hintake
  · cases hmove <;> exact hmoment

lemma agrees_intake {target : IntakeStatus} {readiness : Option IntakeReadiness}
    {at_ at' : Option Datetime} (h : Agrees s r)
    (hat : at'.isSome = at_.isSome) (haware : ∀ d ∈ at', d.aware)
    (hmove : transitionIntake s target readiness at_ = .ok s') :
    ∃ r', transitionIntake r target readiness at' = .ok r' ∧ Agrees s' r' := by
  obtain ⟨moment, hmoment, rfl⟩ := h
  obtain ⟨hopen, haccepted, hrejected, hmove⟩ := transitionIntake_ok.mp hmove
  cases hmove with
  | reject hreceived =>
    exact ⟨_, transitionIntake_ok.mpr ⟨hopen, haccepted, hrejected, .reject hreceived⟩, moment,
      hmoment, rfl⟩
  | advance hmember hforward hhandoff htarget =>
    exact ⟨_, transitionIntake_ok.mpr ⟨hopen, haccepted, hrejected,
      .advance hmember hforward hhandoff htarget⟩, moment, hmoment, rfl⟩
  | accept hhandoff hready hmoment' hfirst =>
    obtain ⟨d, hd, -⟩ := hmoment'
    rw [Option.mem_def] at hd
    rw [hd, Option.isSome_some, Option.isSome_iff_exists] at hat
    obtain ⟨d', hd'⟩ := hat
    have hnone : moment = none := by
      rw [hfirst] at hmoment
      simpa using hmoment
    refine ⟨_, transitionIntake_ok.mpr ⟨hopen, haccepted, hrejected,
      .accept hhandoff hready ⟨d', hd', haware d' hd'⟩ hnone⟩, at', ?_, rfl⟩
    simp [hd, hd']

end

lemma refunding_agrees {s s' r r' : OrderState} (h : Agrees s r) (h' : Agrees s' r') :
    refunding r r' ↔ refunding s s' := by
  obtain ⟨_, -, rfl⟩ := h
  obtain ⟨_, -, rfl⟩ := h'
  exact Iff.rfl

lemma decide_planned (chain : Option Int) (moment : Datetime) {acceptedAt : Datetime}
    {s s' r : OrderState} {planned : PlannedTransition} (h : Agrees s r)
    (haware : planned.target = .intake .accepted → moment.aware)
    (hfollow : planned.follow acceptedAt s = .ok s')
    (hmethod : refunding s s' ↔ planned.refundMethod ≠ none)
    (hleave : planned.target = .production .released → goodsMayLeave s.balance = true) :
    ∃ r', decideTransition r (plannedCommand planned chain moment) = .ok r' ∧ Agrees s' r' := by
  suffices hdomain : ∃ r', domainTransition r (plannedCommand planned chain moment) = .ok r' ∧
      Agrees s' r' by
    obtain ⟨r', hr', hagrees⟩ := hdomain
    exact ⟨r', decideTransition_ok.mpr ⟨hr', (refunding_agrees h hagrees).trans hmethod⟩, hagrees⟩
  unfold PlannedTransition.follow at hfollow
  unfold domainTransition plannedCommand
  cases htarget : planned.target with
  | commercial target =>
    simp only [htarget] at hfollow
    exact agrees_commercial h hfollow
  | intake target =>
    simp only [htarget] at hfollow
    by_cases ha : target = .accepted
    · subst ha
      exact agrees_intake h (by simp) (by simpa using haware htarget) hfollow
    · rw [if_neg ha] at hfollow
      exact agrees_intake h (by simp [ha]) (by simp [ha]) hfollow
  | production target =>
    simp only [htarget] at hfollow
    obtain ⟨r', hr', hagrees⟩ := agrees_production h hfollow
    have hbalance : r.balance = s.balance := by
      obtain ⟨_, -, rfl⟩ := h
      rfl
    have hreleased : r'.production = .released → goodsMayLeave r.balance = true := by
      intro hr
      rw [(transitionProduction_ok.mp hr').2.2.2.2.production_eq] at hr
      rw [hbalance]
      exact hleave (by rw [htarget, hr])
    refine ⟨r', ?_, hagrees⟩
    dsimp only
    rw [hr', ok_bind, require_true hreleased]
    rfl

lemma agrees_of_decide {acceptedAt moment : Datetime} {chain : Option Int} {s s' r r' : OrderState}
    {planned : PlannedTransition} (h : Agrees s r)
    (hfollow : planned.follow acceptedAt s = .ok s')
    (hdecide : decideTransition r (plannedCommand planned chain moment) = .ok r') :
    Agrees s' r' := by
  obtain ⟨hdomain, -⟩ := decideTransition_ok.mp hdecide
  unfold PlannedTransition.follow at hfollow
  unfold domainTransition plannedCommand at hdomain
  cases htarget : planned.target with
  | commercial target =>
    simp only [htarget] at hfollow hdomain
    obtain ⟨r₁, hr₁, hagrees⟩ := agrees_commercial h hfollow
    cases hr₁.symm.trans hdomain
    exact hagrees
  | intake target =>
    simp only [htarget] at hfollow hdomain
    obtain ⟨r₁, hr₁, hagrees⟩ : ∃ r₁, transitionIntake r target planned.intakeReadiness
        (if AxisTarget.intake target = .intake .accepted then some moment else none) = .ok r₁ ∧
        Agrees s' r₁ := by
      by_cases ha : target = .accepted
      · subst ha
        have haware : moment.aware := by
          cases (transitionIntake_ok.mp hdomain).2.2.2 with
          | advance _ _ _ htarget => exact absurd rfl htarget
          | accept _ _ hmoment => simpa using hmoment
        exact agrees_intake h (by simp) (by simpa using haware) hfollow
      · rw [if_neg ha] at hfollow
        exact agrees_intake h (by simp [ha]) (by simp [ha]) hfollow
    cases hr₁.symm.trans hdomain
    exact hagrees
  | production target =>
    simp only [htarget] at hfollow hdomain
    obtain ⟨r₁, hr₁, hagrees⟩ := agrees_production h hfollow
    obtain ⟨r₂, hr₂, hdomain⟩ := bind_ok.mp hdomain
    obtain ⟨_, -, hdomain⟩ := bind_ok.mp hdomain
    cases hdomain
    cases hr₁.symm.trans hr₂
    exact hagrees

lemma agrees_executePlan {acceptedAt : Datetime} {chain : Option Int}
    {plan : List PlannedTransition} {s s' : OrderState} {row row' : OrderRow} {index : Nat}
    (h : Agrees s row.state) (hfollow : followPlan acceptedAt s plan = .ok s')
    (hexecute : executePlan chain acceptedAt index row plan = .ok row') :
    Agrees s' row'.state := by
  induction plan generalizing s row index with
  | nil =>
    cases hfollow
    cases hexecute
    exact h
  | cons planned plan ih =>
    unfold followPlan at hfollow ih
    rw [List.foldlM_cons] at hfollow
    obtain ⟨s₁, hs₁, hfollow⟩ := bind_ok.mp hfollow
    unfold executePlan at hexecute
    obtain ⟨moment, -, hexecute⟩ := bind_ok.mp hexecute
    obtain ⟨row₁, hrow₁, hexecute⟩ := bind_ok.mp hexecute
    obtain ⟨next, refund, holds, hdecide, -, -, rfl⟩ := applyLockedTransition_ok hrow₁
    exact ih (agrees_of_decide h hs₁ hdecide) hfollow hexecute

end NhaTrangLaundry.Db.Orders
