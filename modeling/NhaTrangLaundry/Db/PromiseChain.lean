import Mathlib.Data.List.Chain
import NhaTrangLaundry.Db.Promises

/-! The changes of a promise form a chain from the first promise to the current one, and
when one of them can come after the laundry is finished. -/

namespace NhaTrangLaundry.Db.Promises

open Lib Outcome Domain Catalog Settlement Unclaimed Handover
open Domain.Orders OrderSteps Domain.Promise
open Db.Orders (OrderRow TransitionCommand Changes HandedOver readyQuote)

/-- The ledger leads from the first promise, change by change, to what the customer was told
last. -/
structure Ledger (row : PromiseRow) : Prop where
  chain : row.changes.IsChain fun earlier later => later.previousPromiseAt = earlier.newPromiseAt
  first : ∀ c ∈ row.changes.head?, row.promisedReadyAt = some c.previousPromiseAt
  moved : ∀ c ∈ row.changes, c.newPromiseAt ≠ c.previousPromiseAt
  current : row.currentPromiseAt =
    (row.changes.getLast?.map PromiseChange.newPromiseAt <|> row.promisedReadyAt)

def Finished (row : OrderRow) : Prop :=
  row.productionReadyAt ≠ none ∨ HandedOver row.state ∨
    row.state.commercial = .cancelled ∨ row.state.commercial = .completed

/-- Finished laundry that production does not report so: it is on hold or in exception, or it
was handed over and taken up again. -/
def Reopened (row : OrderRow) : Prop :=
  (row.productionReadyAt ≠ none ∧ row.state.production ∈ shelfInterruptions) ∨
    (HandedOver row.state ∧ row.state.production ∉ handoverReadyProduction)

/-- What an accepted command does to the promise of the order. -/
inductive Effect (row row' : PromiseRow) : Option PromiseChange → Prop where
  | kept (hchanges : Changes row.order row'.order) (hfirst : row'.promisedReadyAt = row.promisedReadyAt)
      (hcurrent : row'.currentPromiseAt = row.currentPromiseAt)
      (hledger : row'.changes = row.changes) : Effect row row' none
  | promised (moment : Int) (hchanges : Changes row.order row'.order)
      (hnone : row.promisedReadyAt = none) (hfirst : row'.promisedReadyAt = some moment)
      (hcurrent : row'.currentPromiseAt = some moment) (hledger : row'.changes = row.changes) :
      Effect row row' none
  | changed (c : PromiseChange) (horder : row'.order = row.order)
      (hfirst : row'.promisedReadyAt = row.promisedReadyAt)
      (hprevious : row.currentPromiseAt = some c.previousPromiseAt)
      (hcurrent : row'.currentPromiseAt = some c.newPromiseAt)
      (hmoved : c.newPromiseAt ≠ c.previousPromiseAt)
      (hledger : row'.changes = row.changes ++ [c]) : Effect row row' (some c)

variable {row row' : PromiseRow}

lemma change_ok {command : PromiseChangeCommand} (h : change row command = .ok row') :
    ∃ published previous newAt, row.policy = some published ∧ row.currentPromiseAt = some previous ∧
      (row.order.state.commercial ≠ .cancelled ∧ row.order.state.commercial ≠ .completed ∧
        row.order.state.production ≠ .readyAtStore ∧ row.order.state.production ≠ .released) ∧
      checkPromiseTime published.policy command.newPromiseAt command.occurredAt = .ok newAt ∧
      newAt ≠ previous ∧
      row' = { row with
        currentPromiseAt := some newAt
        changes := row.changes ++
          [⟨previous, newAt, command.reason, command.keptNote, command.occurredAt.instant⟩] } := by
  obtain ⟨_, -, h⟩ := bind_ok.mp h
  obtain ⟨_, -, h⟩ := bind_ok.mp h
  obtain ⟨_, -, h⟩ := bind_ok.mp h
  obtain ⟨_, -, h⟩ := bind_ok.mp h
  cases hpolicy : row.policy with
  | none =>
    rw [hpolicy] at h
    cases h
  | some published =>
    rw [hpolicy] at h
    cases hprevious : row.currentPromiseAt with
    | none =>
      rw [hprevious] at h
      cases h
    | some previous =>
      rw [hprevious] at h
      obtain ⟨_, hopen, h⟩ := bind_ok.mp h
      obtain ⟨newAt, hnew, h⟩ := bind_ok.mp h
      obtain ⟨_, hmoved, h⟩ := bind_ok.mp h
      obtain ⟨_, -, h⟩ := bind_ok.mp h
      cases h
      exact ⟨published, previous, newAt, rfl, rfl, require_ok.mp hopen, mapError_ok.mp hnew,
        require_ok.mp hmoved, rfl⟩

lemma executeStep_effect {step : OrderStep} {args : StepArguments} {creditChain : Option Int}
    {choice : Option PromiseChoice} {customAt : Option Datetime}
    (h : executeStep row step args creditChain choice customAt = .ok row') :
    Effect row row' none := by
  obtain ⟨_, -, h⟩ := bind_ok.mp h
  obtain ⟨plan, -, h⟩ := bind_ok.mp h
  obtain ⟨planned, -, h⟩ := bind_ok.mp h
  obtain ⟨order, horder, h⟩ := bind_ok.mp h
  have hchanges : Changes row.order order := Db.Orders.changes_executePlan (mapError_ok.mp horder)
  cases planned with
  | none =>
    cases h
    exact .kept hchanges rfl rfl rfl
  | some planned =>
    obtain ⟨_, -, h⟩ := bind_ok.mp h
    obtain ⟨_, hnone, h⟩ := bind_ok.mp h
    cases h
    exact .promised planned.promised.promisedAt hchanges (require_ok.mp hnone) rfl rfl rfl

lemma attempt_effect {command : Command} (h : attempt row command = .ok row') :
    ∃ c, Effect row row' c ∧ ∀ d ∈ c, ∃ asked, command = .change asked := by
  cases command with
  | order command =>
    cases command with
    | step step args creditChain => exact ⟨none, executeStep_effect h, nofun⟩
    | _ =>
      obtain ⟨order, horder, h⟩ := bind_ok.mp h
      cases h
      exact ⟨none, .kept (Db.Orders.changes_attempt (mapError_ok.mp horder)) rfl rfl rfl, nofun⟩
  | step step args creditChain choice customAt => exact ⟨none, executeStep_effect h, nofun⟩
  | change asked =>
    obtain ⟨_, previous, newAt, -, hprevious, -, -, hmoved, rfl⟩ := change_ok h
    exact ⟨some _, .changed _ rfl rfl hprevious rfl hmoved rfl, fun _ _ => ⟨asked, rfl⟩⟩
  | publish policy =>
    cases h
    exact ⟨none, .kept .refl rfl rfl rfl, nofun⟩

section Clock

variable {order order' : OrderRow}

def ReadyClock (order : OrderRow) : Prop :=
  order.productionReadyAt ≠ none →
    order.state.production ∈ handoverReadyProduction ∨ order.state.production ∈ shelfInterruptions

lemma readyClock_transition {command : TransitionCommand} (h : ReadyClock order)
    (happly : Db.Orders.applyLockedTransition order command = .ok order') : ReadyClock order' := by
  obtain ⟨next, _, _, hdecide, -, -, rfl⟩ := Db.Orders.applyLockedTransition_ok happly
  intro hready
  replace hready : Db.Orders.readyAtAfter order next command ≠ none := hready
  cases Db.Orders.axisMove_of_decide hdecide with
  | commercial target htarget hmove =>
    have hsame : next.production = order.state.production := by rw [hmove.keeps]
    simp only [Db.Orders.readyAtAfter, htarget, Db.Orders.movesProduction,
      Db.Orders.readyClockEffect, if_true] at hready
    rw [hsame]
    exact h (by simpa using hready)
  | intake target htarget _ _ hmove =>
    have hsame : next.production = order.state.production := by rw [hmove.keeps]
    simp only [Db.Orders.readyAtAfter, htarget, Db.Orders.movesProduction,
      Db.Orders.readyClockEffect, if_true] at hready
    rw [hsame]
    exact h (by simpa using hready)
  | production target htarget _ _ _ _ hmove =>
    by_contra hoff
    simp only [handoverReadyProduction, shelfInterruptions, List.mem_cons, List.not_mem_nil,
      or_false, not_or] at hoff
    obtain ⟨⟨hshelf, hreleased⟩, hhold, hexception⟩ := hoff
    refine hready ?_
    simp [Db.Orders.readyAtAfter, htarget, Db.Orders.movesProduction, Db.Orders.readyClockEffect,
      shelfInterruptions, hshelf, hreleased, hhold, hexception]

lemma readyClock_changes (h : ReadyClock order) (hchanges : Changes order order') :
    ReadyClock order' := by
  induction hchanges with
  | refl => exact h
  | tail _ hlast ih =>
    cases hlast with
    | transition command happly => exact readyClock_transition ih happly
    | entry hentry =>
      obtain ⟨hstate, hready, -⟩ := hentry.axes
      intro hset
      rw [hready] at hset
      rw [hstate]
      exact ih hset

lemma finished_iff_reopened (h : ReadyClock order)
    (hopen : order.state.commercial ≠ .cancelled ∧ order.state.commercial ≠ .completed ∧
      order.state.production ≠ .readyAtStore ∧ order.state.production ≠ .released) :
    Finished order ↔ Reopened order := by
  obtain ⟨hcancelled, hcompleted, hshelf, hreleased⟩ := hopen
  have hoff : order.state.production ∉ handoverReadyProduction := by
    simp [handoverReadyProduction, hshelf, hreleased]
  constructor
  · rintro (hready | hover | hclosed | hclosed)
    · exact .inl ⟨hready, (h hready).resolve_left hoff⟩
    · exact .inr ⟨hover, hoff⟩
    · exact absurd hclosed hcancelled
    · exact absurd hclosed hcompleted
  · rintro (⟨hready, -⟩ | ⟨hover, -⟩)
    · exact .inl hready
    · exact .inr (.inl hover)

end Clock

structure Inv (row : PromiseRow) : Prop where
  clock : ReadyClock row.order
  ledger : Ledger row
  unpromised : row.promisedReadyAt = none → row.changes = []

lemma Ledger.snoc (h : Ledger row) {c : PromiseChange}
    (hfirst : row'.promisedReadyAt = row.promisedReadyAt)
    (hprevious : row.currentPromiseAt = some c.previousPromiseAt)
    (hcurrent : row'.currentPromiseAt = some c.newPromiseAt)
    (hmoved : c.newPromiseAt ≠ c.previousPromiseAt) (hledger : row'.changes = row.changes ++ [c]) :
    Ledger row' where
  chain := by
    rw [hledger]
    refine h.chain.append (.singleton c) fun last hlast d hd => ?_
    cases hd
    have hcurrent := h.current
    rw [hprevious, Option.mem_def.mp hlast] at hcurrent
    exact Option.some.inj hcurrent
  first d hd := by
    rw [hledger] at hd
    rw [hfirst]
    have hcurrent := h.current
    cases hchanges : row.changes with
    | nil =>
      rw [hchanges] at hd hcurrent
      cases hd
      exact hcurrent.symm.trans hprevious
    | cons head tail =>
      rw [hchanges] at hd
      cases hd
      exact h.first d (by rw [hchanges]; rfl)
  moved d hd := by
    rw [hledger] at hd
    rcases List.mem_append.mp hd with hd | hd
    · exact h.moved d hd
    · cases List.mem_singleton.mp hd
      exact hmoved
  current := by
    rw [hledger, hcurrent, List.getLast?_concat]
    rfl

lemma Ledger.promised (h : Ledger row) {moment : Int} (hnone : row.changes = [])
    (hfirst : row'.promisedReadyAt = some moment) (hcurrent : row'.currentPromiseAt = some moment)
    (hledger : row'.changes = row.changes) : Ledger row' where
  chain := by
    rw [hledger]
    exact h.chain
  first c hc := by
    rw [hledger, hnone] at hc
    cases hc
  moved := by
    rw [hledger]
    exact h.moved
  current := by
    rw [hledger, hnone, hcurrent, hfirst]
    rfl

lemma Ledger.kept (h : Ledger row) (hfirst : row'.promisedReadyAt = row.promisedReadyAt)
    (hcurrent : row'.currentPromiseAt = row.currentPromiseAt)
    (hledger : row'.changes = row.changes) : Ledger row' where
  chain := by
    rw [hledger]
    exact h.chain
  first := by
    rw [hledger, hfirst]
    exact h.first
  moved := by
    rw [hledger]
    exact h.moved
  current := by
    rw [hledger, hcurrent, hfirst]
    exact h.current

lemma Inv.effect (h : Inv row) {c : Option PromiseChange} (heffect : Effect row row' c) :
    Inv row' := by
  cases heffect with
  | kept hchanges hfirst hcurrent hledger =>
    refine ⟨readyClock_changes h.clock hchanges, h.ledger.kept hfirst hcurrent hledger, ?_⟩
    rw [hfirst, hledger]
    exact h.unpromised
  | promised moment hchanges hnone hfirst hcurrent hledger =>
    refine ⟨readyClock_changes h.clock hchanges,
      h.ledger.promised (h.unpromised hnone) hfirst hcurrent hledger, fun hnone' => ?_⟩
    rw [hfirst] at hnone'
    cases hnone'
  | changed c horder hfirst hprevious hcurrent hmoved hledger =>
    refine ⟨?_, h.ledger.snoc hfirst hprevious hcurrent hmoved hledger, fun hnone => ?_⟩
    · rw [horder]
      exact h.clock
    · rw [hfirst] at hnone
      have hcurrent := h.ledger.current
      rw [hprevious, h.unpromised hnone, hnone] at hcurrent
      cases hcurrent

lemma Inv.apply (h : Inv row) (command : Command) : Inv (apply row command) := by
  rw [Promises.apply]
  cases hattempt : attempt row command with
  | error e => exact h
  | ok row' =>
    obtain ⟨c, heffect, -⟩ := attempt_effect hattempt
    exact h.effect heffect

lemma Inv.run (h : Inv row) (commands : List Command) : Inv (run row commands) := by
  rw [Promises.run]
  induction commands generalizing row with
  | nil => exact h
  | cons command commands ih => exact ih (h.apply command)

section New

variable (mode : FulfillmentMode) (quoted : QuotedTotal) (readiness : QuoteReadinessFacts)
  (storagePolicy : Option StoragePolicy) (serviceCodes : List String)
  (policy : Option PublishedTurnaroundPolicy)

def newRow : PromiseRow :=
  .created (.created mode quoted readiness storagePolicy) serviceCodes policy

lemma inv_newRow : Inv (newRow mode quoted readiness storagePolicy serviceCodes policy) where
  clock h := absurd rfl h
  ledger := ⟨.nil, nofun, nofun, rfl⟩
  unpromised _ := rfl

end New

def Recorded (start : PromiseRow) (commands : List Command) (before : PromiseRow)
    (c : PromiseChange) : Prop :=
  ∃ earlier command, earlier ++ [.change command] <+: commands ∧ before = run start earlier ∧
    ∃ after, change before command = .ok after ∧ after.changes = before.changes ++ [c]

lemma run_snoc (start : PromiseRow) (commands : List Command) (command : Command) :
    run start (commands ++ [command]) = apply (run start commands) command := by
  simp [run]

lemma Recorded.snoc {start before : PromiseRow} {commands : List Command} {c : PromiseChange}
    (h : Recorded start commands before c) (command : Command) :
    Recorded start (commands ++ [command]) before c := by
  obtain ⟨earlier, asked, hprefix, h⟩ := h
  exact ⟨earlier, asked, hprefix.trans (List.prefix_append _ _), h⟩

lemma recorded_of_mem {start : PromiseRow} (hstart : start.changes = []) (commands : List Command) :
    ∀ c ∈ (run start commands).changes, ∃ before, Recorded start commands before c := by
  induction commands using List.reverseRecOn with
  | nil =>
    intro c hc
    rw [run, List.foldl_nil, hstart] at hc
    cases hc
  | append_singleton commands command ih =>
    intro c hc
    have hkept : c ∈ (run start commands).changes →
        ∃ before, Recorded start (commands ++ [command]) before c := fun hc => by
      obtain ⟨before, h⟩ := ih c hc
      exact ⟨before, h.snoc command⟩
    rw [run_snoc, apply] at hc
    cases hattempt : attempt (run start commands) command with
    | error e =>
      rw [hattempt] at hc
      exact hkept hc
    | ok after =>
      rw [hattempt] at hc
      obtain ⟨recorded, heffect, hasked⟩ := attempt_effect hattempt
      cases heffect with
      | kept _ _ _ hledger =>
        rw [hledger] at hc
        exact hkept hc
      | promised _ _ _ _ _ hledger =>
        rw [hledger] at hc
        exact hkept hc
      | changed d _ _ _ _ _ hledger =>
        rw [hledger] at hc
        rcases List.mem_append.mp hc with hc | hc
        · exact hkept hc
        · cases List.mem_singleton.mp hc
          obtain ⟨asked, rfl⟩ := hasked c rfl
          exact ⟨_, commands, asked, List.prefix_rfl, rfl, after, hattempt, hledger⟩

lemma Recorded.offers {start before : PromiseRow} {commands : List Command} {c : PromiseChange}
    (h : Recorded start commands before c) :
    ∃ published, before.policy = some published ∧
      published.policy.offers c.changedAt c.newPromiseAt := by
  obtain ⟨_, command, -, -, after, hchange, hledger⟩ := h
  obtain ⟨published, _, newAt, hpolicy, -, -, hnew, -, rfl⟩ := change_ok hchange
  obtain rfl := List.singleton_inj.mp (List.append_cancel_left hledger)
  exact ⟨published, hpolicy, checkPromiseTime_ok hnew⟩

lemma Recorded.finished_iff {start before : PromiseRow} {commands : List Command}
    {c : PromiseChange} (hstart : Inv start) (h : Recorded start commands before c) :
    Finished before.order ↔ Reopened before.order := by
  obtain ⟨earlier, command, -, rfl, _, hchange, -⟩ := h
  obtain ⟨_, _, _, -, -, hopen, -, -, -⟩ := change_ok hchange
  exact finished_iff_reopened (hstart.run earlier).clock hopen

lemma apply_promised {p : Int} (h : row.promisedReadyAt = some p) (command : Command) :
    (apply row command).promisedReadyAt = some p := by
  rw [apply]
  cases hattempt : attempt row command with
  | error e => exact h
  | ok row' =>
    obtain ⟨c, heffect, -⟩ := attempt_effect hattempt
    cases heffect with
    | kept _ hfirst => exact hfirst.trans h
    | promised _ _ hnone =>
      rw [h] at hnone
      cases hnone
    | changed _ _ hfirst => exact hfirst.trans h

lemma run_promised {p : Int} (h : row.promisedReadyAt = some p) (commands : List Command) :
    (run row commands).promisedReadyAt = some p := by
  rw [run]
  induction commands generalizing row with
  | nil => exact h
  | cons command commands ih => exact ih (apply_promised h command)

/-- For every run on a new order: the first promise is written once; the changes lead from it
to the current promise; each change was made by a command, for a later time when the shop is
open by the policy in force; and the laundry was finished, handed over or the order closed at a
change exactly when it was reopened, so that without a change asked for then there is none. -/
theorem promise_ledger_closes (mode : FulfillmentMode) (quoted : QuotedTotal)
    (readiness : QuoteReadinessFacts) (storagePolicy : Option StoragePolicy)
    (serviceCodes : List String) (policy : Option PublishedTurnaroundPolicy)
    (commands : List Command) :
    let start := newRow mode quoted readiness storagePolicy serviceCodes policy
    let row := run start commands
    (∀ earlier, earlier <+: commands → ∀ p ∈ (run start earlier).promisedReadyAt,
        row.promisedReadyAt = some p) ∧
      Ledger row ∧
      (∀ c ∈ row.changes, ∃ before, Recorded start commands before c) ∧
      (∀ before c, Recorded start commands before c →
        (∃ published, before.policy = some published ∧
          published.policy.offers c.changedAt c.newPromiseAt) ∧
        (Finished before.order ↔ Reopened before.order)) ∧
      ((∀ earlier command, earlier ++ [.change command] <+: commands →
          ¬ Reopened (run start earlier).order) →
        ∀ before c, Recorded start commands before c → ¬ Finished before.order) := by
  intro start row
  have hstart : Inv start := inv_newRow mode quoted readiness storagePolicy serviceCodes policy
  refine ⟨fun earlier hprefix p hp => ?_, (hstart.run commands).ledger,
    recorded_of_mem rfl commands, fun before c h => ⟨h.offers, h.finished_iff hstart⟩,
    fun hnever before c h hfinished => ?_⟩
  · obtain ⟨rest, rfl⟩ := hprefix
    have hrun : row = run (run start earlier) rest := List.foldl_append
    rw [hrun]
    exact run_promised hp rest
  · have hreopened := (h.finished_iff hstart).mp hfinished
    obtain ⟨earlier, command, hprefix, rfl, -⟩ := h
    exact hnever earlier command hprefix hreopened

section Counter

lemma counterClock_lt (n : Fin 1440) : 730119 * dayMicros + n * minuteMicros < wallLimit := by
  have hn : n * minuteMicros ≤ 1440 * minuteMicros := Nat.mul_le_mul_right _ n.isLt.le
  have hlimit : wallLimit = 3652059 * dayMicros := rfl
  have hday : dayMicros = 1440 * minuteMicros := rfl
  have hpos : 0 < minuteMicros := by decide
  omega

def counterClock (n : Fin 1440) : Datetime :=
  .ofUtc (730119 * dayMicros + n * minuteMicros) (counterClock_lt n)

/-- A policy of opening hours from 08:00 to 20:00, every day. -/
def counterPolicy : PublishedTurnaroundPolicy where
  policy := {
    opensAt := 8 * hourMicros
    closesAt := 20 * hourMicros
    recurringClosed := []
    closedDates := []
    tetYears := []
    scopes := fun _ => .human
    services := []
    expressHours := 2
    opens_lt := by decide
    closes_lt := by decide
    onMinute := by decide
    express_pos := by decide }
  versionId := ⟨0⟩

def counterStep (step : OrderStep) (n : Fin 1440) : Command :=
  .step step ⟨true, none, counterClock n, none, none, none⟩ (some 0) none none

/-- An order is received with a promise for 17:00, washed, ready, and put on hold. -/
def heldWhenReady : List Command :=
  [.step .receive ⟨true, none, counterClock 180, none, none, none⟩ (some 0) (some .custom)
      (some (counterClock 600)),
    counterStep .startWash 190, counterStep .qualityCheck 240, counterStep .markReady 250,
    counterStep .hold 260]

def movedToEvening : PromiseChangeCommand :=
  ⟨counterClock 660, .workload, none, counterClock 270⟩

def counterRow : PromiseRow :=
  newRow .selfDropSelfCollect ⟨some 100000, some 100000⟩ readyQuote none ["BED_BLANKET"]
    (some counterPolicy)

/-- The promise of finished laundry that is on hold is moved. -/
theorem moved_when_ready :
    ∃ before c, Recorded counterRow (heldWhenReady ++ [.change movedToEvening]) before c ∧
      before.order.productionReadyAt ≠ none ∧ before.order.state.production = .onHold := by
  have hready : (run counterRow heldWhenReady).order.productionReadyAt ≠ none ∧
      (run counterRow heldWhenReady).order.state.production = .onHold := by
    decide
  have hmoved : (change (run counterRow heldWhenReady) movedToEvening).toOption.isSome = true := by
    decide
  cases hchange : change (run counterRow heldWhenReady) movedToEvening with
  | error e =>
    rw [hchange] at hmoved
    cases hmoved
  | ok after =>
    obtain ⟨_, _, _, -, -, -, -, -, rfl⟩ := change_ok hchange
    exact ⟨_, _, ⟨heldWhenReady, movedToEvening, List.prefix_rfl, rfl, _, hchange, rfl⟩, hready⟩

end Counter

end NhaTrangLaundry.Db.Promises
