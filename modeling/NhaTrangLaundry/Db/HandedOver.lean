import Mathlib.Data.List.Induction
import NhaTrangLaundry.Db.GoodsLeave

/-! Goods on record as handed over are finished: only a later hold, exception or rewash
takes production off the shelf. -/

namespace NhaTrangLaundry.Db.Orders

open Lib Outcome Domain Catalog Settlement Unclaimed Handover Domain.Orders OrderSteps
open Domain.Payments

def HandedOver (s : OrderState) : Prop :=
  s.selfCollectionRecorded = true ∨ s.requiredDeliveryLegsSucceeded = true

/-- A hold or an exception of production, or a rewash of laundry that the customer has not
collected. -/
def Interrupts (s : OrderState) : Command → Prop
  | .transition command => command.target = .production .onHold ∨
      command.target = .production .exception
  | .step step _ _ => step = .hold ∨ (step = .rewash ∧ s.selfCollectionRecorded = false)
  | _ => False

variable {row row' : OrderRow}

lemma shelf_transition {command : TransitionCommand}
    (happly : applyLockedTransition row command = .ok row')
    (hshelf : row.state.production ∈ handoverReadyProduction)
    (hoff : row'.state.production ∉ handoverReadyProduction) :
    row.state.production = .readyAtStore ∧ Interrupts row.state (.transition command) := by
  obtain ⟨next, refund, holds, hdecide, -, -, rfl⟩ := applyLockedTransition_ok happly
  cases axisMove_of_decide hdecide with
  | commercial target _ hmove =>
    rw [hmove.keeps] at hoff
    exact absurd hshelf hoff
  | intake target _ _ _ hmove =>
    rw [hmove.keeps] at hoff
    exact absurd hshelf hoff
  | production target htarget _ _ _ _ hmove =>
    replace hoff : next.production ∉ handoverReadyProduction := hoff
    rw [hmove.production_eq] at hoff
    cases hmove with
    | resumeHold hhold => simp [hhold, handoverReadyProduction] at hshelf
    | resolve hexception => simp [hexception, handoverReadyProduction] at hshelf
    | interrupt hinterrupt hstarted =>
      constructor
      · revert hshelf hstarted
        cases row.state.production <;> decide
      · rw [Interrupts, htarget]
        rcases hinterrupt with rfl | rfl
        · exact .inl rfl
        · exact .inr rfl
    | advance hedge =>
      exfalso
      clear htarget hdecide happly
      revert hshelf hoff hedge
      cases row.state.production <;> cases target <;> decide

lemma shelf_step {step : OrderStep} {args : StepArguments} {chain : Option Int}
    (hok : executeStep row step args chain = .ok row')
    (hshelf : row.state.production ∈ handoverReadyProduction)
    (hoff : row'.state.production ∉ handoverReadyProduction) :
    row.state.production = .readyAtStore ∧ Interrupts row.state (.step step args chain) := by
  obtain ⟨plan, hplan, hexecute⟩ := bind_ok.mp hok
  rw [mapError_ok] at hplan
  obtain ⟨sim, hsim, rfl⟩ := planStep_ok.mp hplan
  obtain ⟨moment, -, hstate⟩ := agrees_executePlan (.refl _) (simulatedPlan_traced hsim) hexecute
  rw [hstate] at hoff
  exact (simulateStep_production (simulatedPlan_ok.mp hsim).2.2.2.2.2.1).shelf hshelf hoff

lemma shelf_attempt {command : Command} (hok : attempt row command = .ok row')
    (hshelf : row.state.production ∈ handoverReadyProduction)
    (hoff : row'.state.production ∉ handoverReadyProduction) :
    row.state.production = .readyAtStore ∧ Interrupts row.state command := by
  rcases attempt_cases hok with ⟨c, rfl, h⟩ | ⟨_, _, _, rfl, h⟩ | ⟨_, _, _, rfl, h⟩ | hentry
  · obtain ⟨hready, hinterrupts⟩ := shelf_transition h hshelf hoff
    exact ⟨hready, hinterrupts⟩
  · exact shelf_step h hshelf hoff
  · obtain ⟨-, _, _, reviewed, h₁, h₂⟩ := dispose_ok h
    rw [commercial_same_production rfl h₂, commercial_same_production rfl h₁] at hoff
    exact absurd hshelf hoff
  · rw [hentry.axes.1] at hoff
    exact absurd hshelf hoff

lemma handedOver_attempt {command : Command} (hok : attempt row command = .ok row')
    (hbefore : ¬ HandedOver row.state) (hafter : HandedOver row'.state) :
    row'.state.production = row.state.production ∧ Leaving row.state row'.state := by
  have hflags : (row'.state.selfCollectionRecorded = row.state.selfCollectionRecorded ∧
      row'.state.requiredDeliveryLegsSucceeded = row.state.requiredDeliveryLegsSucceeded) → False := by
    rintro ⟨hself, hlegs⟩
    rw [HandedOver, hself, hlegs] at hafter
    exact hbefore hafter
  rcases attempt_cases hok with ⟨c, -, hok⟩ | ⟨_, _, _, -, hok⟩ | ⟨_, _, _, -, hok⟩ | hentry
  · obtain ⟨hself, hlegs, -⟩ := flags_transition hok
    exact (hflags ⟨hself, hlegs⟩).elim
  · obtain ⟨plan, -, hexecute⟩ := bind_ok.mp hok
    obtain ⟨hself, hlegs, -⟩ := flags_executePlan hexecute
    exact (hflags ⟨hself, hlegs⟩).elim
  · obtain ⟨-, _, _, reviewed, h₁, h₂⟩ := dispose_ok hok
    obtain ⟨hself₁, hlegs₁, -⟩ := flags_transition h₁
    obtain ⟨hself₂, hlegs₂, -⟩ := flags_transition h₂
    exact (hflags ⟨hself₂.trans hself₁, hlegs₂.trans hlegs₁⟩).elim
  · refine ⟨by rw [hentry.axes.1], ?_⟩
    simp only [HandedOver, not_or, Bool.not_eq_true] at hbefore
    rcases hafter with hself | hlegs
    · exact .inr (.inl ⟨hbefore.1, hself⟩)
    · exact .inr (.inr ⟨hbefore.2, hlegs⟩)

/-- Between two states of a run, production was interrupted on goods handed over. -/
def InterruptedAfter (row : OrderRow) (commands : List Command) : Prop :=
  ∃ pre command post, commands = pre ++ command :: post ∧
    HandedOver (run row pre).state ∧ (run row pre).state.production = .readyAtStore ∧
    Interrupts (run row pre).state command

lemma run_snoc (row : OrderRow) (commands : List Command) (command : Command) :
    run row (commands ++ [command]) = apply (run row commands) command := by
  simp [run]

lemma InterruptedAfter.snoc {commands : List Command} (h : InterruptedAfter row commands)
    (command : Command) : InterruptedAfter row (commands ++ [command]) := by
  obtain ⟨pre, c, post, rfl, h⟩ := h
  exact ⟨pre, c, post ++ [command], by simp, h⟩

lemma finished_run (h : Guarded row) (hnew : ¬ HandedOver row.state) (commands : List Command) :
    HandedOver (run row commands).state →
      (run row commands).state.production ∈ handoverReadyProduction ∨
        InterruptedAfter row commands := by
  induction commands using List.reverseRecOn with
  | nil => exact fun hover => absurd hover hnew
  | append_singleton commands command ih =>
    have hguarded := guarded_run h commands
    rw [run_snoc]
    generalize hrow : run row commands = current at ih hguarded ⊢
    cases hok : attempt current command with
    | error e =>
      simp only [apply, hok]
      exact fun hover => (ih hover).imp_right fun hi => hi.snoc command
    | ok row' =>
      simp only [apply, hok]
      intro hover
      by_cases hbefore : HandedOver current.state
      · rcases ih hbefore with hshelf | hinterrupted
        · by_cases hoff : row'.state.production ∈ handoverReadyProduction
          · exact .inl hoff
          · obtain ⟨hready, hinterrupts⟩ := shelf_attempt hok hshelf hoff
            refine .inr ⟨commands, command, [], rfl, ?_⟩
            rw [hrow]
            exact ⟨hbefore, hready, hinterrupts⟩
        · exact .inr (hinterrupted.snoc command)
      · obtain ⟨hsame, hleaving⟩ := handedOver_attempt hok hbefore hover
        obtain ⟨hready, -⟩ := leaving_attempt hguarded hok hleaving
        left
        rw [hsame]
        simpa [handoverReadyProduction] using hready

lemma released_transition {command : TransitionCommand}
    (happly : applyLockedTransition row command = .ok row')
    (hreleased : row.state.production = .released) : row'.state.production = .released := by
  obtain ⟨next, refund, holds, hdecide, -, -, rfl⟩ := applyLockedTransition_ok happly
  cases axisMove_of_decide hdecide with
  | commercial target _ hmove =>
    rw [hmove.keeps]
    exact hreleased
  | intake target _ _ _ hmove =>
    rw [hmove.keeps]
    exact hreleased
  | production target _ _ _ _ _ hmove => exact (hmove.not_released hreleased).elim

lemma released_apply (hreleased : row.state.production = .released) (command : Command) :
    (apply row command).state.production = .released := by
  cases hok : attempt row command with
  | error e =>
    simp only [apply, hok]
    exact hreleased
  | ok row' =>
    simp only [apply, hok]
    rcases attempt_cases hok with ⟨c, -, h⟩ | ⟨_, _, _, -, h⟩ | ⟨_, _, _, -, h⟩ | hentry
    · exact released_transition h hreleased
    · obtain ⟨plan, hplan, hexecute⟩ := bind_ok.mp h
      rw [mapError_ok] at hplan
      obtain ⟨sim, hsim, rfl⟩ := planStep_ok.mp hplan
      obtain ⟨moment, -, hstate⟩ :=
        agrees_executePlan (.refl _) (simulatedPlan_traced hsim) hexecute
      rw [hstate]
      exact (simulateStep_production (simulatedPlan_ok.mp hsim).2.2.2.2.2.1).released_stays hreleased
    · obtain ⟨-, _, _, reviewed, h₁, h₂⟩ := dispose_ok h
      exact released_transition h₂ (released_transition h₁ hreleased)
    · rw [hentry.axes.1]
      exact hreleased

lemma rewash_refused (hself : row.state.selfCollectionRecorded = true) (args : StepArguments)
    (chain : Option Int) : ∀ row', executeStep row .rewash args chain ≠ .ok row' := by
  intro row' hok
  obtain ⟨plan, hplan, -⟩ := bind_ok.mp hok
  rw [mapError_ok] at hplan
  obtain ⟨sim, hsim, -⟩ := planStep_ok.mp hplan
  have h : planRewash ⟨row.state, []⟩ args.rewashReason = .ok sim :=
    (simulatedPlan_ok.mp hsim).2.2.2.2.2.1
  unfold planRewash at h
  iterate 3 obtain ⟨_, -, h⟩ := bind_ok.mp h
  obtain ⟨_, hnot, -⟩ := bind_ok.mp h
  rw [require_ok] at hnot
  cases hself.symm.trans hnot

/-- For every run of commands on a new order: goods on record as handed over are ready at the
store or released, unless production was held, raised as an exception or washed again after
the record; once released they stay released; and once collected they are not washed again. -/
theorem handed_over_goods_finished (mode : FulfillmentMode) (quoted : QuotedTotal)
    (readiness : QuoteReadinessFacts) (policy : Option StoragePolicy) (commands : List Command) :
    let new := OrderRow.created mode quoted readiness policy
    let row := run new commands
    (HandedOver row.state → row.state.production = .readyAtStore ∨
        row.state.production = .released ∨ InterruptedAfter new commands) ∧
      (row.state.production = .released →
        ∀ command, (apply row command).state.production = .released) ∧
      (row.state.selfCollectionRecorded = true →
        ∀ args chain row', executeStep row .rewash args chain ≠ .ok row') := by
  intro new row
  refine ⟨fun hover => ?_, fun hreleased => released_apply hreleased,
    fun hself args chain => rewash_refused hself args chain⟩
  have hnew : ¬ HandedOver new.state := by simp [new, OrderRow.created, HandedOver]
  rcases finished_run (guarded_created mode quoted readiness policy) hnew commands hover with
    hshelf | hinterrupted
  · simp only [handoverReadyProduction, List.mem_cons, List.not_mem_nil, or_false] at hshelf
    exact hshelf.imp_right .inl
  · exact .inr (.inr hinterrupted)

def readyQuote : QuoteReadinessFacts := ⟨true, true, true, true⟩

/-- A step taken at the counter, with nothing to say but the slot. -/
def counterStep (step : OrderStep) : Command := .step step (dryRun none) (some 0)

/-- A counter order is washed, paid for and taken by the customer in one press; then held. -/
def heldAfterPickup : List Command :=
  [counterStep .receive, counterStep .startWash, counterStep .qualityCheck, counterStep .markReady,
    .settle 100000 true 0, counterStep .hold]

/-- A hold is accepted on laundry that the customer has taken. -/
theorem held_after_pickup :
    let row := run (.created .selfDropSelfCollect ⟨some 100000, some 100000⟩ readyQuote none)
      heldAfterPickup
    row.state.selfCollectionRecorded = true ∧ row.state.production = .onHold := by
  decide

end NhaTrangLaundry.Db.Orders
