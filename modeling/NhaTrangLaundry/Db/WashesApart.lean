import Mathlib.Data.List.Nodup
import NhaTrangLaundry.Db.WashCycles

/-! The wash cycles of an order lie apart in time, and one is open while the machines run. -/

namespace NhaTrangLaundry.Db.WashCycles

open Lib Outcome Table Domain Catalog Unclaimed Domain.Orders OrderSteps Db.Orders

variable {start : OrderRow} {moves : List Move} {last : Int} {w w' : Wash}

section Tracking

lemma track_snoc (moves : List Move) (m : Move) :
    track (moves ++ [m]) =
      if m.after = .inProcess then
        (true, if (track moves).1 then (track moves).2 else (track moves).2 + 1)
      else if m.after = .qualityCheck then (false, (track moves).2)
      else track moves := by
  rw [track, List.foldl_append]
  rfl

lemma entries_snoc (moves : List Move) (m : Move) :
    entries (moves ++ [m]) = entries moves +
      if m.after = .inProcess && !(m.before ∈ shelfInterruptions && m.resume = some .inProcess)
        then 1 else 0 := by
  rw [entries, List.countP_append, List.countP_singleton]
  rfl

lemma noneSetBack_snoc {moves : List Move} {m : Move} (h : NoneSetBack (moves ++ [m])) :
    NoneSetBack moves ∧ (m.before = .exception → m.resume = some .inProcess → m.after = .inProcess) :=
  ⟨fun a ha => h a (List.mem_append_left _ ha),
    h m (List.mem_append_right _ (List.mem_singleton_self m))⟩

end Tracking

section Cycles

variable {cycles cycles' : List WashCycle} {before after : ProductionStatus} {capture : Capture}
  {at' : Int}

/-- The cycles of an order: ended ones, each before the next, and at most one open after them. -/
structure Ordered (cycles : List WashCycle) (last : Int) : Prop where
  ids : (cycles.map WashCycle.id).Nodup
  ended : ∀ c ∈ cycles, ∀ e, c.endedAt = some e → c.startedAt < e ∧ e ≤ last
  started : ∀ c ∈ cycles, c.startedAt ≤ last
  apart : cycles.Pairwise fun a b => ∃ e, a.endedAt = some e ∧ e < b.startedAt
  kinds : cycles.map WashCycle.kind =
    (List.range cycles.length).map fun i => if i = 0 then .wash else .rewash

lemma ordered_nil (last : Int) : Ordered [] last :=
  ⟨List.nodup_nil, nofun, nofun, .nil, rfl⟩

lemma Ordered.later (h : Ordered cycles last) {next : Int} (hlater : last ≤ next) :
    Ordered cycles next where
  ids := h.ids
  ended c hc e he := ⟨(h.ended c hc e he).1, (h.ended c hc e he).2.trans hlater⟩
  started c hc := (h.started c hc).trans hlater
  apart := h.apart
  kinds := h.kinds

lemma Ordered.split_open (h : Ordered cycles last) {c : WashCycle} (hc : openCycle cycles = some c) :
    ∃ closed, cycles = closed ++ [c] ∧ c.endedAt = none ∧ openCycle closed = none := by
  rw [openCycle, List.find?_eq_some_iff_append] at hc
  obtain ⟨hopen, pre, post, rfl, hpre⟩ := hc
  rw [decide_eq_true_eq] at hopen
  have hpost : post = [] := by
    cases post with
    | nil => rfl
    | cons d post =>
      have hapart := (List.pairwise_append.mp h.apart).2.1
      obtain ⟨e, he, _⟩ := (List.pairwise_cons.mp hapart).1 d List.mem_cons_self
      rw [hopen] at he
      cases he
  subst hpost
  refine ⟨pre, rfl, hopen, List.find?_eq_none.mpr fun d hd => ?_⟩
  simpa using hpre d hd

lemma openCycle_none : openCycle cycles = none ↔ ∀ c ∈ cycles, ∃ e, c.endedAt = some e := by
  rw [openCycle, List.find?_eq_none]
  refine forall₂_congr fun c _ => ?_
  rw [decide_eq_true_eq, ← ne_eq, Option.ne_none_iff_exists']

lemma openCycle_snoc_ended {c : WashCycle} {e : Int} (h : openCycle cycles = none)
    (hc : c.endedAt = some e) : openCycle (cycles ++ [c]) = none := by
  rw [openCycle_none] at h ⊢
  intro d hd
  rcases List.mem_append.mp hd with hd | hd
  · exact h d hd
  · cases List.mem_singleton.mp hd
    exact ⟨e, hc⟩

lemma openCycle_snoc_open {c : WashCycle} (h : openCycle cycles = none) (hc : c.endedAt = none) :
    openCycle (cycles ++ [c]) = some c := by
  rw [openCycle] at h ⊢
  rw [List.find?_append, h]
  simp [hc]

lemma Ordered.opened (h : Ordered cycles last) (hnone : openCycle cycles = none) (hlater : last < at')
    (hid : capture.cycleId ∉ cycles.map WashCycle.id) {c : WashCycle} (hcid : c.id = capture.cycleId)
    (hkind : c.kind = if cycles.length = 0 then .wash else .rewash) (hstart : c.startedAt = at')
    (hend : c.endedAt = none) : Ordered (cycles ++ [c]) at' where
  ids := by
    rw [List.map_append, List.map_singleton, ← List.concat_eq_append, List.nodup_concat, hcid]
    exact ⟨hid, h.ids⟩
  ended d hd e he := by
    rcases List.mem_append.mp hd with hd | hd
    · exact (h.later hlater.le).ended d hd e he
    · cases List.mem_singleton.mp hd
      rw [hend] at he
      cases he
  started d hd := by
    rcases List.mem_append.mp hd with hd | hd
    · exact (h.later hlater.le).started d hd
    · cases List.mem_singleton.mp hd
      exact hstart.le
  apart := by
    refine List.pairwise_append.mpr ⟨h.apart, List.pairwise_singleton _ _, fun a ha b hb => ?_⟩
    cases List.mem_singleton.mp hb
    obtain ⟨e, he⟩ := openCycle_none.mp hnone a ha
    refine ⟨e, he, ?_⟩
    rw [hstart]
    exact (h.ended a ha e he).2.trans_lt hlater
  kinds := by
    rw [List.map_append, h.kinds, List.map_singleton, hkind, List.length_append, List.length_singleton,
      List.range_succ, List.map_append, List.map_singleton]

lemma put_last {l : List WashCycle} {c : WashCycle} (hn : ((l ++ [c]).map WashCycle.id).Nodup)
    (new : WashCycle) (hid : new.id = c.id) : put WashCycle.id (l ++ [c]) new = l ++ [new] := by
  rw [List.map_append, List.map_singleton, ← List.concat_eq_append, List.nodup_concat] at hn
  rw [put, List.map_append, List.map_singleton, if_pos hid.symm]
  congr 1
  refine (List.map_congr_left fun d hd => ?_).trans (List.map_id l)
  rw [if_neg fun heq => hn.1 (List.mem_map.mpr ⟨d, hd, heq.trans hid⟩)]
  rfl

lemma Ordered.ended_last {l : List WashCycle} {c : WashCycle} (h : Ordered (l ++ [c]) last)
    (hlater : last < at') (actorId : Uuid) : Ordered (l ++ [closed c at' actorId]) at' where
  ids := by
    have hids := h.ids
    rw [List.map_append] at hids ⊢
    exact hids
  ended d hd e he := by
    rcases List.mem_append.mp hd with hd | hd
    · exact (h.later hlater.le).ended d (List.mem_append_left _ hd) e he
    · cases List.mem_singleton.mp hd
      cases he
      exact ⟨(h.started c (List.mem_append_right _ (List.mem_singleton_self c))).trans_lt hlater, le_rfl⟩
  started d hd := by
    rcases List.mem_append.mp hd with hd | hd
    · exact (h.later hlater.le).started d (List.mem_append_left _ hd)
    · cases List.mem_singleton.mp hd
      exact (h.later hlater.le).started c (List.mem_append_right _ (List.mem_singleton_self c))
  apart := by
    obtain ⟨hl, _, hlc⟩ := List.pairwise_append.mp h.apart
    refine List.pairwise_append.mpr ⟨hl, List.pairwise_singleton _ _, fun a ha b hb => ?_⟩
    cases List.mem_singleton.mp hb
    exact hlc a ha c (List.mem_singleton_self c)
  kinds := by
    have hkinds := h.kinds
    rw [List.map_append, List.length_append] at hkinds ⊢
    exact hkinds

lemma applyCycleEffect_ok (h : Ordered cycles last) (hlater : last < at') (hmoves : before ≠ after)
    (hok : applyCycleEffect cycles before after capture at' = .ok cycles') :
    Ordered cycles' at' ∧
      (openCycle cycles').isSome = (if after = .inProcess then true
        else if after = .qualityCheck then false else (openCycle cycles).isSome) ∧
      cycles'.length = cycles.length +
        if after = .inProcess ∧ (openCycle cycles).isSome = false then 1 else 0 := by
  by_cases hin : after = .inProcess
  · subst hin
    have heffect : cycleEffect before .inProcess = .open := by
      rw [cycleEffect, if_pos ⟨rfl, hmoves⟩]
    simp only [applyCycleEffect, heffect] at hok
    cases hopen : openCycle cycles with
    | some c =>
      simp only [hopen] at hok
      cases hok
      exact ⟨h.later hlater.le, by simp [hopen], by simp⟩
    | none =>
      simp only [hopen, bind_ok, require_ok] at hok
      obtain ⟨_, hid, hok⟩ := hok
      cases hok
      refine ⟨h.opened hopen hlater hid rfl rfl rfl rfl, ?_, ?_⟩
      · rw [openCycle_snoc_open hopen rfl]
        rfl
      · simp
  · by_cases hqc : after = .qualityCheck
    · subst hqc
      have heffect : cycleEffect before .qualityCheck = .close := by
        rw [cycleEffect, if_neg fun h => hin h.1, if_pos (And.intro rfl hmoves)]
      simp only [applyCycleEffect, heffect] at hok
      cases hopen : openCycle cycles with
      | none =>
        simp only [hopen] at hok
        cases hok
        exact ⟨h.later hlater.le, by simp [hopen], by simp⟩
      | some c =>
        simp only [hopen, bind_ok, require_ok] at hok
        obtain ⟨_, _, hok⟩ := hok
        cases hok
        obtain ⟨l, rfl, _, hl⟩ := h.split_open hopen
        rw [put_last h.ids (closed c at' capture.actorId) rfl]
        refine ⟨h.ended_last hlater capture.actorId, ?_, ?_⟩
        · rw [openCycle_snoc_ended hl rfl]
          rfl
        · simp
    · have heffect : cycleEffect before after = .none := by
        rw [cycleEffect, if_neg fun h => hin h.1, if_neg fun h => hqc h.1]
      simp only [applyCycleEffect, heffect] at hok
      cases hok
      exact ⟨h.later hlater.le, by rw [if_neg hin, if_neg hqc], by simp [hin]⟩

end Cycles

section Moves

lemma lockedTransition_ok {command : TransitionCommand} {capture : Capture}
    (h : lockedTransition w command capture = .ok w') :
    (moved w.row w'.row command = [] ∧ w'.cycles = w.cycles ∧
      w'.row.state.production = w.row.state.production ∧
      w'.row.state.productionResumeStatus = w.row.state.productionResumeStatus) ∨
    ∃ target, ProductionMove w.row.state target w'.row.state ∧ target ≠ w.row.state.production ∧
      moved w.row w'.row command =
        [⟨w.row.state.production, w.row.state.productionResumeStatus, target⟩] ∧
      applyCycleEffect w.cycles w.row.state.production target capture command.occurredAt.instant =
        .ok w'.cycles := by
  obtain ⟨row', happly, h⟩ := bind_ok.mp h
  obtain ⟨next, refund, holds, hdecide, _, _, hrow⟩ := applyLockedTransition_ok happly
  have hstate : row'.state = next := by rw [hrow]
  cases axisMove_of_decide hdecide with
  | commercial target htarget hmove =>
    have hstill : movesProduction command.target = false := by rw [htarget]; rfl
    rw [hstill] at h
    cases h
    refine .inl ⟨by rw [moved, hstill]; rfl, rfl, ?_, ?_⟩ <;> rw [hstate, hmove.keeps]
  | intake target htarget _ _ hmove =>
    have hstill : movesProduction command.target = false := by rw [htarget]; rfl
    rw [hstill] at h
    cases h
    refine .inl ⟨by rw [moved, hstill]; rfl, rfl, ?_, ?_⟩ <;> rw [hstate, hmove.keeps]
  | production target htarget _ _ hunstarted _ hmove =>
    have hmoves : movesProduction command.target = true := by rw [htarget]; rfl
    have hafter : row'.state.production = target := by rw [hstate, hmove.production_eq]
    rw [hmoves, if_pos rfl, hafter] at h
    obtain ⟨cycles, hcycles, h⟩ := bind_ok.mp h
    cases h
    refine .inr ⟨target, hstate.symm ▸ hmove, hunstarted.2, ?_, hcycles⟩
    rw [moved, hmoves, if_pos rfl, hafter]

lemma inWash_move {s s' : OrderState} {target : ProductionStatus} (h : ProductionMove s target s')
    (hback : s.production = .exception → s.productionResumeStatus = some .inProcess →
      target = .inProcess) :
    (InWash s' ↔ if target = .inProcess then True else if target = .qualityCheck then False
      else InWash s) ∧
    (target = .inProcess → (InWash s ↔ s.production ∈ shelfInterruptions ∧
      s.productionResumeStatus = some .inProcess)) := by
  cases h with
  | resumeHold hhold hresume =>
    simp only [InWash, hhold, hresume, shelfInterruptions]
    cases target <;> simp
  | resolve hexception hresume hmember _ =>
    simp only [InWash, hexception, hresume, shelfInterruptions]
    rw [hresume] at hback
    simp only [hexception, forall_const, Option.some.injEq] at hback
    revert hmember hback
    cases target <;> simp [productionSequence]
  | interrupt htarget hstarted =>
    simp only [InWash, shelfInterruptions]
    revert hstarted
    rcases htarget with rfl | rfl <;> cases s.production <;> simp
  | advance hedge =>
    simp only [InWash, shelfInterruptions]
    revert hedge
    cases s.production <;> cases target <;> simp

end Moves

/-- The cycles follow the moves of production; the moves follow the machines. -/
structure Kept (moves : List Move) (last : Int) (w : Wash) : Prop where
  ordered : Ordered w.cycles last
  washing : (openCycle w.cycles).isSome = (track moves).1
  loads : w.cycles.length = (track moves).2
  inWash : NoneSetBack moves → ((track moves).1 = true ↔ InWash w.row.state)
  entered : NoneSetBack moves → (track moves).2 = entries moves

lemma Kept.transition (h : Kept moves last w) {command : TransitionCommand} {capture : Capture}
    (hmove : lockedTransition w command capture = .ok w')
    (hlater : last < command.occurredAt.instant) :
    Kept (moves ++ moved w.row w'.row command) command.occurredAt.instant w' := by
  rcases lockedTransition_ok hmove with ⟨hmoved, hcycles, hproduction, hresume⟩ |
    ⟨target, hmoves, hne, hmoved, hcycles⟩
  · rw [hmoved, List.append_nil]
    refine ⟨hcycles ▸ h.ordered.later hlater.le, hcycles ▸ h.washing, hcycles ▸ h.loads, ?_,
      h.entered⟩
    rw [InWash, hproduction, hresume]
    exact h.inWash
  · obtain ⟨hordered, hopen, hlength⟩ := applyCycleEffect_ok h.ordered hlater hne.symm hcycles
    rw [hmoved]
    refine ⟨hordered, ?_, ?_, fun hback => ?_, fun hback => ?_⟩
    · rw [track_snoc, hopen, h.washing]
      split_ifs <;> rfl
    · rw [track_snoc, hlength, h.washing, h.loads]
      split_ifs <;> simp_all
    · obtain ⟨hmovesback, hthis⟩ := noneSetBack_snoc hback
      rw [track_snoc, (inWash_move hmoves hthis).1, ← h.inWash hmovesback]
      split_ifs <;> simp_all
    · obtain ⟨hmovesback, hthis⟩ := noneSetBack_snoc hback
      rw [track_snoc, entries_snoc, ← h.entered hmovesback]
      by_cases hin : target = .inProcess
      · -- an open cycle is met exactly by the resumption of an interrupted wash
        have hmet := (h.inWash hmovesback).trans ((inWash_move hmoves hthis).2 hin)
        cases hwashing : (track moves).1 with
        | true => simp [hin, hmet.mp hwashing]
        | false =>
          have hnot := hmet.not.mp (by simp [hwashing])
          simp [hin, hnot]
      · simp only [hin, if_false, decide_false, Bool.false_and, Bool.false_eq_true]
        split_ifs <;> rfl

lemma Kept.entry (h : Kept moves last w) {row' : OrderRow} (hentry : Entry w.row row') :
    Kept moves last ⟨row', w.cycles⟩ := by
  refine ⟨h.ordered, h.washing, h.loads, ?_, h.entered⟩
  rw [InWash, hentry.axes.1]
  exact h.inWash

lemma run_kept (hstart : start.state.production = .notStarted) (h : Run start moves last w) :
    Kept moves last w := by
  induction h with
  | start since =>
    refine ⟨ordered_nil since, rfl, rfl, fun _ => ?_, fun _ => rfl⟩
    rw [InWash, hstart]
    simp [track, shelfInterruptions]
  | transition _ hmove hlater ih => exact ih.transition hmove hlater
  | entry _ hentry ih => exact ih.entry hentry

lemma Ordered.one_open {cycles : List WashCycle} (h : Ordered cycles last) :
    (cycles.filter fun c => c.endedAt = none).length ≤ 1 := by
  have hnone : ∀ l : List WashCycle, openCycle l = none → l.filter (fun c => c.endedAt = none) = [] := by
    intro l hl
    rw [List.filter_eq_nil_iff]
    exact List.find?_eq_none.mp hl
  cases hopen : openCycle cycles with
  | none => simp [hnone cycles hopen]
  | some c =>
    obtain ⟨l, rfl, hc, hl⟩ := h.split_open hopen
    rw [List.filter_append, hnone l hl]
    simp [hc]

/-- The cycles of an order lie apart, each ended no earlier than it started, at most one of them
open, and only the first is no rewash. One is open exactly when the last move into the machines or
into quality control was into the machines. As long as no exception of a wash is resumed before
it, that is while production is in the machines or interrupted there, and there is a cycle for
each entry that resumes no such interruption. -/
theorem washes_apart (hstart : start.state.production = .notStarted)
    (h : Run start moves last w) :
    (w.cycles.Pairwise fun a b => ∃ e, a.endedAt = some e ∧ e < b.startedAt) ∧
    (∀ c ∈ w.cycles, ∀ e, c.endedAt = some e → c.startedAt ≤ e) ∧
    (w.cycles.filter fun c => c.endedAt = none).length ≤ 1 ∧
    (w.cycles.map WashCycle.kind =
      (List.range w.cycles.length).map fun i => if i = 0 then .wash else .rewash) ∧
    ((openCycle w.cycles).isSome = (track moves).1 ∧ w.cycles.length = (track moves).2) ∧
    (NoneSetBack moves → ((openCycle w.cycles).isSome = true ↔ InWash w.row.state) ∧
      w.cycles.length = entries moves) := by
  have hkept := run_kept hstart h
  refine ⟨hkept.ordered.apart, fun c hc e he => (hkept.ordered.ended c hc e he).1.le,
    hkept.ordered.one_open, hkept.ordered.kinds, ⟨hkept.washing, hkept.loads⟩, fun hback => ⟨?_, ?_⟩⟩
  · rw [hkept.washing]
    exact hkept.inWash hback
  · rw [hkept.loads]
    exact hkept.entered hback

section Steps

end Steps

section Runs

def transitions : List Move → Wash → List (TransitionCommand × Capture) →
    Except Refusal (List Move × Wash)
  | moves, w, [] => .ok (moves, w)
  | moves, w, (command, capture) :: rest => do
    let w' ← lockedTransition w command capture
    transitions (moves ++ moved w.row w'.row command) w' rest

lemma run_transitions {list : List (TransitionCommand × Capture)} {moves' : List Move}
    (h : Run start moves last w)
    (hincreasing : (last :: list.map fun t => t.1.occurredAt.instant).IsChain (· < ·))
    (hok : transitions moves w list = .ok (moves', w')) : ∃ last', Run start moves' last' w' := by
  induction list generalizing moves last w with
  | nil =>
    cases hok
    exact ⟨last, h⟩
  | cons t list ih =>
    obtain ⟨command, capture⟩ := t
    obtain ⟨w₁, hmove, hok⟩ := bind_ok.mp hok
    obtain ⟨hlater, hrest⟩ := List.isChain_cons_cons.mp hincreasing
    exact ih (.transition h hmove hlater) hrest hok

def counterOrder : OrderRow :=
  .created .selfDropSelfCollect ⟨some 100000, some 100000⟩ ⟨true, true, true, true⟩ none

lemma tick_lt (n : Fin 60) : 730119 * dayMicros + n < wallLimit := by
  have hn := n.isLt
  have hlimit : wallLimit = 3652059 * dayMicros := rfl
  have hday : dayMicros = 86400000000 := rfl
  omega

def tick (n : Fin 60) : Datetime := .ofUtc (730119 * dayMicros + n) (tick_lt n)

/-- A move at the counter, with every fact on record; a cancellation is the shop's fault. -/
def counterMove (target : AxisTarget) (n : Fin 60) : TransitionCommand × Capture :=
  ({ target
     intakeReadiness := some ⟨true, true, true, true, true, true⟩
     productionAcceptedAt := some (tick n)
     custodyResolution := if target = .commercial .cancelled then some .shopFaultNoCharge else none
     unclaimedDisposalVerified := false
     refundMethod := none
     creditChain := some 0
     occurredAt := tick n }, ⟨⟨n.castLE (by decide)⟩, none, ⟨0⟩⟩)

lemma second_lt (n : Nat) : n % 60 < 60 :=
  Nat.mod_lt n (Nat.succ_pos 59)

def script (targets : List AxisTarget) : List (TransitionCommand × Capture) :=
  targets.zipIdx.map fun t => counterMove t.1 ⟨t.2 % 60, second_lt t.2⟩

def ran (targets : List AxisTarget) : Option (List Move × Wash) :=
  (transitions [] ⟨counterOrder, []⟩ (script targets)).toOption

def intoWash : List AxisTarget :=
  [.commercial .storeConfirmationPending, .commercial .confirmed,
    .intake .receivedPendingInspection, .intake .accepted, .commercial .active,
    .production .queued, .production .inProcess]

def cancelledInWash : List AxisTarget :=
  intoWash ++ [.commercial .cancellationReview, .commercial .cancelled]

def setBackInWash : List AxisTarget :=
  intoWash ++ [.production .exception, .production .queued, .production .inProcess]

lemma run_script {targets : List AxisTarget} {moves : List Move} {w : Wash}
    (hran : ran targets = some (moves, w))
    (hincreasing : (0 :: (script targets).map fun t => t.1.occurredAt.instant).IsChain (· < ·)) :
    ∃ last, Run counterOrder moves last w := by
  rw [ran] at hran
  cases hok : transitions [] ⟨counterOrder, []⟩ (script targets) with
  | error e =>
    rw [hok] at hran
    cases hran
  | ok outcome =>
    rw [hok] at hran
    cases hran
    exact run_transitions (.start 0) hincreasing hok

theorem washes_apart_intoWash :
    ∃ moves last w, Run counterOrder moves last w ∧ (openCycle w.cycles).isSome = true ∧
      (w.cycles.filter fun c => c.endedAt = none).length ≤ 1 := by
  obtain ⟨⟨moves, w⟩, hran⟩ := Option.isSome_iff_exists.mp
    (show (ran intoWash).isSome = true by decide)
  obtain ⟨last, hrun⟩ := run_script hran (by decide)
  have hopen : (ran intoWash).all fun p => (openCycle p.2.cycles).isSome := by decide
  rw [hran] at hopen
  exact ⟨moves, last, w, hrun, hopen, (washes_apart rfl hrun).2.2.1⟩

/-- A cancellation leaves the cycle of its order open, and a wash entered again after an exception
of it was resumed before it shares the cycle. -/
theorem open_after_cancellation :
    (¬ ∀ start moves last w, start.state.production = .notStarted → Run start moves last w →
      ((openCycle w.cycles).isSome = true ↔
        w.row.state.commercial ∉ terminalCommercialStatuses ∧ InWash w.row.state)) ∧
    ¬ ∀ start moves last w, start.state.production = .notStarted → Run start moves last w →
      w.cycles.length = entries moves := by
  constructor
  · intro hall
    obtain ⟨⟨moves, w⟩, hran⟩ := Option.isSome_iff_exists.mp
      (show (ran cancelledInWash).isSome = true by decide)
    obtain ⟨last, hrun⟩ := run_script hran (by decide)
    have hfacts : (ran cancelledInWash).all fun p => (openCycle p.2.cycles).isSome &&
        p.2.row.state.commercial = .cancelled := by decide
    rw [hran] at hfacts
    simp only [Option.all_some, Bool.and_eq_true, decide_eq_true_eq] at hfacts
    have hopen := ((hall _ _ _ _ rfl hrun).mp hfacts.1).1
    rw [hfacts.2] at hopen
    exact hopen (by decide)
  · intro hall
    obtain ⟨⟨moves, w⟩, hran⟩ := Option.isSome_iff_exists.mp
      (show (ran setBackInWash).isSome = true by decide)
    obtain ⟨last, hrun⟩ := run_script hran (by decide)
    have hfacts : (ran setBackInWash).all fun p => p.2.cycles.length = 1 && entries p.1 = 2 := by
      decide
    rw [hran] at hfacts
    simp only [Option.all_some, Bool.and_eq_true, decide_eq_true_eq] at hfacts
    have hcount := hall _ _ _ _ rfl hrun
    omega

end Runs

end NhaTrangLaundry.Db.WashCycles
