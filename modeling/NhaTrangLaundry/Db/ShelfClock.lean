import NhaTrangLaundry.Db.OrderChanges

/-! The record of the shelf clock: the ready time is that of the last completion, and the
hold rows are the interruptions of laundry on the shelf. -/

namespace NhaTrangLaundry.Db.Orders

open Lib Outcome Domain Catalog Settlement Unclaimed Handover Domain.Orders OrderSteps

def writeAll (row : OrderRow) (commands : List TransitionCommand) : Except Refusal OrderRow :=
  commands.foldlM applyLockedTransition row

structure ProductionEvent where
  moment : Int
  before : ProductionStatus
  after : ProductionStatus
deriving DecidableEq

def productionEvent (row row' : OrderRow) (command : TransitionCommand) : List ProductionEvent :=
  if movesProduction command.target then
    [⟨command.occurredAt.instant, row.state.production, row'.state.production⟩]
  else []

def productionEvents (row : OrderRow) : List TransitionCommand → List ProductionEvent
  | [] => []
  | command :: commands =>
    match applyLockedTransition row command with
    | .error _ => []
    | .ok row' => productionEvent row row' command ++ productionEvents row' commands

def ProductionEvent.completes (event : ProductionEvent) : Prop :=
  event.before = .qualityCheck ∧ event.after = .readyAtStore

def ProductionEvent.interruptsShelf (event : ProductionEvent) : Prop :=
  event.before = .readyAtStore ∧ event.after ∈ shelfInterruptions

instance (event : ProductionEvent) : Decidable event.interruptsShelf := by
  unfold ProductionEvent.interruptsShelf
  infer_instance

/-- The interruptions among the moves of one stay on the shelf: each ends at the next move. -/
def interruptions : List ProductionEvent → List StorageHold
  | [] => []
  | event :: events =>
    if event.interruptsShelf then
      ⟨event.moment, events.head?.map ProductionEvent.moment⟩ :: interruptions events
    else interruptions events

def EndsBefore (hold later : StorageHold) : Prop :=
  ∃ resumedAt ∈ hold.resumedAt, resumedAt < later.heldAt

def HeldOnShelf (s : OrderState) : Prop :=
  (s.production = .onHold ∨ s.production = .exception) ∧
    s.productionResumeStatus = some .readyAtStore

def StopKnown (s : OrderState) : Prop :=
  s.production = .onHold ∨ s.production = .exception →
    ∃ resume ∈ s.productionResumeStatus,
      resume ∈ [ProductionStatus.queued, .inProcess, .qualityCheck, .readyAtStore]

/-- The ready time and the hold rows of an order, against the moves of production so far. -/
structure Clocked (row : OrderRow) (events : List ProductionEvent) : Prop where
  ready : row.productionReadyAt ≠ none ↔ row.state.production = .readyAtStore ∨
    row.state.production = .released ∨ HeldOnShelf row.state
  stay : ∀ readyAt ∈ row.productionReadyAt, ∃ earlier completion later,
    events = earlier ++ completion :: later ∧ completion.completes ∧ completion.moment = readyAt ∧
      (∀ event ∈ later, ¬ event.completes) ∧
      row.storageHolds.filter (fun hold => readyAt ≤ hold.heldAt) = interruptions later
  disjoint : row.storageHolds.Pairwise EndsBefore
  forward : ∀ hold ∈ row.storageHolds, ∀ resumedAt ∈ hold.resumedAt, hold.heldAt ≤ resumedAt
  single : (row.storageHolds.filter fun hold => hold.resumedAt = none).length ≤ 1
  openHold : (∃ hold ∈ row.storageHolds, hold.resumedAt = none) ↔ HeldOnShelf row.state

/-- Hold rows in the order they were written, none of them later than `bound`. -/
structure HoldsBy (holds : List StorageHold) (bound : Int) : Prop where
  disjoint : holds.Pairwise EndsBefore
  forward : ∀ hold ∈ holds, ∀ resumedAt ∈ hold.resumedAt, hold.heldAt ≤ resumedAt
  begun : ∀ hold ∈ holds, hold.heldAt ≤ bound
  ended : ∀ hold ∈ holds, ∀ resumedAt ∈ hold.resumedAt, resumedAt ≤ bound

/-- What a run keeps: the record up to `bound`, and where a stop resumes to. -/
structure ClockedBy (row : OrderRow) (events : List ProductionEvent) (bound : Int) : Prop where
  ready : row.productionReadyAt ≠ none ↔ row.state.production = .readyAtStore ∨
    row.state.production = .released ∨ HeldOnShelf row.state
  stay : ∀ readyAt ∈ row.productionReadyAt, readyAt ≤ bound ∧ ∃ earlier completion later,
    events = earlier ++ completion :: later ∧ completion.completes ∧ completion.moment = readyAt ∧
      (∀ event ∈ later, ¬ event.completes) ∧
      row.storageHolds.filter (fun hold => readyAt ≤ hold.heldAt) = interruptions later
  holds : HoldsBy row.storageHolds bound
  openHold : (∃ hold ∈ row.storageHolds, hold.resumedAt = none) ↔ HeldOnShelf row.state
  stops : StopKnown row.state

lemma interruptions_append (events : List ProductionEvent) (event : ProductionEvent) :
    interruptions (events ++ [event]) =
      endHolds (interruptions events) event.moment ++ interruptions [event] := by
  induction events with
  | nil => rfl
  | cons first rest ih =>
    have hhead : (rest ++ [event]).head?.map ProductionEvent.moment =
        some ((rest.head?.map ProductionEvent.moment).getD event.moment) := by
      cases rest <;> rfl
    have hend : endHolds [⟨first.moment, rest.head?.map ProductionEvent.moment⟩] event.moment =
        [⟨first.moment, some ((rest.head?.map ProductionEvent.moment).getD event.moment)⟩] := by
      cases rest <;> rfl
    rw [List.cons_append, interruptions, interruptions, ih, hhead]
    split
    · rw [← List.singleton_append, ← hend]
      simp [endHolds]
    · rfl

lemma endHolds_closed {holds : List StorageHold} (h : ∀ hold ∈ holds, hold.resumedAt ≠ none)
    (moment : Int) : endHolds holds moment = holds := by
  unfold endHolds
  conv_rhs => rw [← List.map_id holds]
  exact List.map_congr_left fun hold hm => if_neg (h hold hm)

lemma filter_endHolds (holds : List StorageHold) (moment readyAt : Int) :
    (endHolds holds moment).filter (fun hold => readyAt ≤ hold.heldAt) =
      endHolds (holds.filter fun hold => readyAt ≤ hold.heldAt) moment := by
  unfold endHolds
  rw [List.filter_map]
  congr 2
  funext hold
  simp only [Function.comp_apply]
  split <;> rfl

lemma mem_endHolds {holds : List StorageHold} {moment : Int} {hold : StorageHold}
    (h : hold ∈ endHolds holds moment) :
    ∃ old ∈ holds, hold.heldAt = old.heldAt ∧
      hold.resumedAt = some (old.resumedAt.getD moment) := by
  unfold endHolds at h
  obtain ⟨old, hold, rfl⟩ := List.mem_map.mp h
  refine ⟨old, hold, ?_⟩
  cases hr : old.resumedAt <;> simp [hr]

lemma length_open_le {holds : List StorageHold} (h : holds.Pairwise EndsBefore) :
    (holds.filter fun hold => hold.resumedAt = none).length ≤ 1 := by
  induction h with
  | nil => exact Nat.zero_le 1
  | @cons hold later hbefore _ ih =>
    rw [List.filter_cons]
    split
    · next hopen =>
      rw [decide_eq_true_eq] at hopen
      cases later with
      | nil => exact Nat.le_refl 1
      | cons next _ =>
        obtain ⟨resumedAt, hr, -⟩ := hbefore next List.mem_cons_self
        rw [hopen] at hr
        cases hr
    · exact ih

lemma HoldsBy.mono {holds : List StorageHold} {bound bound' : Int} (h : HoldsBy holds bound)
    (hle : bound ≤ bound') : HoldsBy holds bound' where
  disjoint := h.disjoint
  forward := h.forward
  begun hold hm := (h.begun hold hm).trans hle
  ended hold hm resumedAt hr := (h.ended hold hm resumedAt hr).trans hle

lemma HoldsBy.start {holds : List StorageHold} {bound moment : Int} (h : HoldsBy holds bound)
    (hclosed : ∀ hold ∈ holds, hold.resumedAt ≠ none) (hlt : bound < moment) :
    HoldsBy (holds ++ [⟨moment, none⟩]) moment := by
  have hold := h.mono hlt.le
  constructor
  · refine List.pairwise_append.mpr ⟨h.disjoint, List.pairwise_singleton _ _, ?_⟩
    intro hold hm new hnew
    obtain ⟨resumedAt, hr⟩ := Option.ne_none_iff_exists'.mp (hclosed hold hm)
    rw [List.mem_singleton.mp hnew]
    exact ⟨resumedAt, hr, (h.ended hold hm resumedAt hr).trans_lt hlt⟩
  · intro hold' hm resumedAt hr
    rcases List.mem_append.mp hm with hm | hm
    · exact h.forward hold' hm resumedAt hr
    · rw [List.mem_singleton.mp hm] at hr
      cases hr
  · intro hold' hm
    rcases List.mem_append.mp hm with hm | hm
    · exact hold.begun hold' hm
    · rw [List.mem_singleton.mp hm]
  · intro hold' hm resumedAt hr
    rcases List.mem_append.mp hm with hm | hm
    · exact hold.ended hold' hm resumedAt hr
    · rw [List.mem_singleton.mp hm] at hr
      cases hr

lemma HoldsBy.finish {holds : List StorageHold} {bound moment : Int} (h : HoldsBy holds bound)
    (hlt : bound < moment) : HoldsBy (endHolds holds moment) moment := by
  constructor
  · unfold endHolds
    refine List.pairwise_map.mpr (h.disjoint.imp ?_)
    rintro hold later ⟨resumedAt, hr, hbefore⟩
    refine ⟨resumedAt, ?_, ?_⟩
    · rw [if_neg (by rw [hr]; exact Option.some_ne_none _)]
      exact hr
    · split <;> exact hbefore
  · intro hold hm resumedAt hr
    obtain ⟨old, hm, hheld, hended⟩ := mem_endHolds hm
    rw [hended] at hr
    cases hr
    rw [hheld]
    cases hr : old.resumedAt with
    | none => exact (h.begun old hm).trans hlt.le
    | some resumedAt => exact h.forward old hm resumedAt hr
  · intro hold hm
    obtain ⟨old, hm, hheld, -⟩ := mem_endHolds hm
    rw [hheld]
    exact (h.begun old hm).trans hlt.le
  · intro hold hm resumedAt hr
    obtain ⟨old, hm, -, hended⟩ := mem_endHolds hm
    rw [hended] at hr
    cases hr
    cases hr : old.resumedAt with
    | none => exact le_rfl
    | some resumedAt => exact (h.ended old hm resumedAt hr).trans hlt.le

lemma ClockedBy.clocked {row : OrderRow} {events : List ProductionEvent} {bound : Int}
    (h : ClockedBy row events bound) : Clocked row events where
  ready := h.ready
  stay readyAt hr := (h.stay readyAt hr).2
  disjoint := h.holds.disjoint
  forward := h.holds.forward
  single := length_open_le h.holds.disjoint
  openHold := h.openHold

lemma ClockedBy.closed {row : OrderRow} {events : List ProductionEvent} {bound : Int}
    (h : ClockedBy row events bound) (hheld : ¬ HeldOnShelf row.state) :
    ∀ hold ∈ row.storageHolds, hold.resumedAt ≠ none :=
  fun hold hm hopen => hheld (h.openHold.mp ⟨hold, hm, hopen⟩)

lemma not_open_endHolds (holds : List StorageHold) (moment : Int) :
    ¬ ∃ hold ∈ endHolds holds moment, hold.resumedAt = none := by
  rintro ⟨hold, hm, hopen⟩
  obtain ⟨_, -, -, hended⟩ := mem_endHolds hm
  rw [hopen] at hended
  cases hended

lemma ClockedBy.extend_stay {row row' : OrderRow} {events : List ProductionEvent} {bound : Int}
    (event : ProductionEvent) (h : ClockedBy row events bound) (hlt : bound < event.moment)
    (hready : row'.productionReadyAt = row.productionReadyAt) (hcompletes : ¬ event.completes)
    (hholds : ∀ readyAt ≤ bound, row'.storageHolds.filter (fun hold => readyAt ≤ hold.heldAt) =
      endHolds (row.storageHolds.filter fun hold => readyAt ≤ hold.heldAt) event.moment ++
        interruptions [event]) :
    ∀ readyAt ∈ row'.productionReadyAt, readyAt ≤ event.moment ∧ ∃ earlier completion later,
      events ++ [event] = earlier ++ completion :: later ∧ completion.completes ∧
        completion.moment = readyAt ∧ (∀ event ∈ later, ¬ event.completes) ∧
        row'.storageHolds.filter (fun hold => readyAt ≤ hold.heldAt) = interruptions later := by
  intro readyAt hr
  rw [hready] at hr
  obtain ⟨hle, earlier, completion, later, rfl, hdone, hmoment, hlater, hrows⟩ := h.stay readyAt hr
  refine ⟨hle.trans hlt.le, earlier, completion, later ++ [event], by simp, hdone, hmoment, ?_, ?_⟩
  · intro e he
    rcases List.mem_append.mp he with he | he
    · exact hlater e he
    · rw [List.mem_singleton.mp he]
      exact hcompletes
  · rw [hholds readyAt hle, hrows, interruptions_append]

/-- What a move of production does to the record: the laundry is off the shelf after it, it
comes fresh to the shelf, it stays there, or it is stopped there. -/
inductive ShelfMove (row : OrderRow) (moment : Int) (row' : OrderRow) : Prop where
  | off (hready : row'.productionReadyAt = none)
      (hholds : row'.storageHolds = endHolds row.storageHolds moment)
      (hoff : row'.state.production ≠ .readyAtStore ∧ row'.state.production ≠ .released ∧
        ¬ HeldOnShelf row'.state)
  | completed (hevent : row.state.production = .qualityCheck ∧
        row'.state.production = .readyAtStore)
      (hready : row'.productionReadyAt = some moment)
      (hholds : row'.storageHolds = row.storageHolds)
  | kept (hevent : row.state.production ≠ .qualityCheck ∧
        (row'.state.production = .readyAtStore ∨ row'.state.production = .released))
      (hfrom : row.state.production = .readyAtStore ∨ HeldOnShelf row.state)
      (hready : row'.productionReadyAt = row.productionReadyAt)
      (hholds : row'.storageHolds = endHolds row.storageHolds moment)
  | stopped (hevent : row.state.production = .readyAtStore ∧ HeldOnShelf row'.state)
      (hready : row'.productionReadyAt = row.productionReadyAt)
      (hholds : row'.storageHolds = row.storageHolds ++ [⟨moment, none⟩])

lemma not_held_of_production {s : OrderState} (h : s.production ≠ .onHold)
    (h' : s.production ≠ .exception) : ¬ HeldOnShelf s := by
  rintro ⟨hs | hs, -⟩
  · exact h hs
  · exact h' hs

lemma ClockedBy.shelfMove {row row' : OrderRow} {events : List ProductionEvent}
    {bound moment : Int} (h : ClockedBy row events bound) (hlt : bound < moment)
    (hmove : ShelfMove row moment row')
    (hstops : StopKnown row'.state) :
    ClockedBy row' (events ++ [⟨moment, row.state.production, row'.state.production⟩]) moment := by
  cases hmove with
  | off hready hholds hoff =>
    refine ⟨?_, ?_, ?_, ?_, hstops⟩
    · simp [hready, hoff]
    · simp [hready]
    · rw [hholds]
      exact h.holds.finish hlt
    · rw [hholds, iff_false_right hoff.2.2]
      exact not_open_endHolds _ _
  | completed hevent hready hholds =>
    have hnot : ¬ HeldOnShelf row.state :=
      not_held_of_production (by simp [hevent.1]) (by simp [hevent.1])
    have hnot' : ¬ HeldOnShelf row'.state :=
      not_held_of_production (by simp [hevent.2]) (by simp [hevent.2])
    refine ⟨?_, ?_, ?_, ?_, hstops⟩
    · simp [hready, hevent.2]
    · intro readyAt hr
      rw [hready] at hr
      cases hr
      refine ⟨le_rfl, events, _, [], rfl, hevent, rfl, by simp, ?_⟩
      -- every hold on record began before the laundry came to the shelf
      rw [hholds, List.filter_eq_nil_iff.mpr]
      · rfl
      · intro hold hm
        have := h.holds.begun hold hm
        rw [decide_eq_true_eq]
        omega
    · rw [hholds]
      exact h.holds.mono hlt.le
    · rw [hholds, h.openHold, iff_false_left hnot]
      exact hnot'
  | kept hevent hfrom hready hholds =>
    have hnot' : ¬ HeldOnShelf row'.state := by
      rcases hevent.2 with hs | hs <;> exact not_held_of_production (by simp [hs]) (by simp [hs])
    refine ⟨?_, ?_, ?_, ?_, hstops⟩
    · rw [hready, h.ready]
      rcases hevent.2 with hs | hs <;> rcases hfrom with hf | hf <;> simp [hs, hf]
    · refine extend_stay ⟨moment, _, _⟩ h hlt hready (fun hc => hevent.1 hc.1) fun readyAt _ => ?_
      have hquiet : interruptions [⟨moment, row.state.production, row'.state.production⟩] = [] := by
        rcases hevent.2 with hs | hs <;>
          simp [interruptions, ProductionEvent.interruptsShelf, hs, shelfInterruptions]
      rw [hholds, filter_endHolds, hquiet, List.append_nil]
    · rw [hholds]
      exact h.holds.finish hlt
    · rw [hholds, iff_false_right hnot']
      exact not_open_endHolds _ _
  | stopped hevent hready hholds =>
    have hnot : ¬ HeldOnShelf row.state :=
      not_held_of_production (by simp [hevent.1]) (by simp [hevent.1])
    have hclosed := h.closed hnot
    refine ⟨?_, ?_, ?_, ?_, hstops⟩
    · rw [hready, h.ready]
      simp [hevent]
    · refine extend_stay ⟨moment, _, _⟩ h hlt hready ?_ fun readyAt hle => ?_
      · rintro ⟨hc, -⟩
        cases hevent.1.symm.trans hc
      have hstop : interruptions [⟨moment, row.state.production, row'.state.production⟩] =
          [⟨moment, none⟩] := by
        rcases hevent.2.1 with hs | hs <;>
          simp [interruptions, ProductionEvent.interruptsShelf, hs, hevent.1, shelfInterruptions]
      rw [hholds, hstop, List.filter_append, endHolds_closed]
      · have : readyAt ≤ moment := by omega
        simp [this]
      · exact fun hold hm => hclosed hold (List.mem_of_mem_filter hm)
    · rw [hholds]
      exact h.holds.start hclosed hlt
    · rw [hholds]
      simp [hevent.2]

lemma written_production {row row' : OrderRow} {command : TransitionCommand}
    {target : ProductionStatus} (h : applyLockedTransition row command = .ok row')
    (htarget : command.target = .production target) :
    ProductionMove row.state target row'.state ∧ target ≠ .notStarted ∧
      row'.productionReadyAt = readyAtAfter row row'.state command ∧
      holdsAfter row row'.state command = .ok row'.storageHolds := by
  obtain ⟨next, _, holds, hdecide, hholds, -, rfl⟩ := applyLockedTransition_ok h
  cases axisMove_of_decide hdecide with
  | commercial _ ht =>
    rw [htarget] at ht
    cases ht
  | intake _ ht =>
    rw [htarget] at ht
    cases ht
  | production _ ht _ _ hunstarted _ hmove =>
    rw [htarget] at ht
    cases ht
    exact ⟨hmove, hunstarted.1, rfl, hholds⟩

lemma written_elsewhere {row row' : OrderRow} {command : TransitionCommand}
    (h : applyLockedTransition row command = .ok row')
    (htarget : movesProduction command.target = false) :
    row'.state.production = row.state.production ∧
      row'.state.productionResumeStatus = row.state.productionResumeStatus ∧
      row'.productionReadyAt = row.productionReadyAt ∧ row'.storageHolds = row.storageHolds := by
  obtain ⟨next, _, holds, hdecide, hholds, -, rfl⟩ := applyLockedTransition_ok h
  have hsame : holds = row.storageHolds := by
    simpa [holdsAfter, storageHoldMove, htarget, eq_comm] using hholds
  have hready : readyAtAfter row next command = row.productionReadyAt := by
    cases hr : row.productionReadyAt <;> simp [readyAtAfter, readyClockEffect, htarget, hr]
  have hstate : next.production = row.state.production ∧
      next.productionResumeStatus = row.state.productionResumeStatus := by
    cases axisMove_of_decide hdecide with
    | commercial _ _ hmove =>
      rw [hmove.keeps]
      exact ⟨rfl, rfl⟩
    | intake _ _ _ _ hmove =>
      rw [hmove.keeps]
      exact ⟨rfl, rfl⟩
    | production _ ht =>
      rw [ht] at htarget
      cases htarget
  exact ⟨hstate.1, hstate.2, hready, hsame⟩

lemma holdsAfter_finish {row : OrderRow} {next : OrderState} {command : TransitionCommand}
    {holds : List StorageHold} (h : holdsAfter row next command = .ok holds)
    (hmove : storageHoldMove row next command = some .finish ∨
      storageHoldMove row next command = none ∧ ∀ hold ∈ row.storageHolds, hold.resumedAt ≠ none) :
    holds = endHolds row.storageHolds command.occurredAt.instant := by
  unfold holdsAfter at h
  rcases hmove with hmove | ⟨hmove, hclosed⟩
  · simp only [hmove] at h
    obtain ⟨_, -, h⟩ := bind_ok.mp h
    cases h
    rfl
  · simp only [hmove] at h
    cases h
    exact (endHolds_closed hclosed _).symm

lemma ClockedBy.shelfMove_of_write {row row' : OrderRow} {events : List ProductionEvent}
    {bound : Int} {command : TransitionCommand} {target : ProductionStatus}
    (h : ClockedBy row events bound) (hwrite : applyLockedTransition row command = .ok row')
    (htarget : command.target = .production target) :
    ShelfMove row command.occurredAt.instant row' := by
  obtain ⟨hmove, hunstarted, hready, hholds⟩ := written_production hwrite htarget
  have hmoving : movesProduction command.target = true := by rw [htarget]; rfl
  generalize hs' : row'.state = s' at hmove hready hholds
  cases hmove with
  | resumeHold hhold hresume =>
    by_cases hshelf : target = .readyAtStore
    · subst hshelf
      have hheld : HeldOnShelf row.state := ⟨.inl hhold, hresume⟩
      obtain ⟨readyAt, hr⟩ := Option.ne_none_iff_exists'.mp (h.ready.mpr (.inr (.inr hheld)))
      refine .kept ⟨by simp [hhold], .inl (by rw [hs'])⟩ (.inr hheld) ?_
        (holdsAfter_finish hholds (.inl ?_))
      · simp [hready, readyAtAfter, readyClockEffect, hmoving, hhold, shelfInterruptions, hr]
      · simp [storageHoldMove, hmoving, holdMove, hhold, shelfInterruptions]
    · -- work that had not reached the shelf goes on where it stopped
      have hnot : ¬ HeldOnShelf row.state := by
        rintro ⟨-, hr⟩
        rw [hresume] at hr
        exact hshelf (Option.some.inj hr)
      obtain ⟨resume, hr, hmem⟩ := h.stops (.inl hhold)
      rw [hresume] at hr
      cases hr
      have hrest : target ≠ .released ∧ target ≠ .onHold ∧ target ≠ .exception := by
        revert hmem
        cases target <;> simp
      refine .off ?_ (holdsAfter_finish hholds (.inr ⟨?_, h.closed hnot⟩)) ?_
      · simp [hready, readyAtAfter, readyClockEffect, hmoving, hshelf, hrest, shelfInterruptions]
      · simp [storageHoldMove, hmoving, holdMove, hshelf, hrest, hhold, shelfInterruptions]
      · rw [hs']
        exact ⟨hshelf, hrest.1, not_held_of_production hrest.2.1 hrest.2.2⟩
  | @resolve resume hexception hresume hmember hback =>
    have hfinish : storageHoldMove row
        { row.state with production := target, productionResumeStatus := none } command =
          some .finish := by
      simp [storageHoldMove, hmoving, holdMove, hexception]
    obtain ⟨_, hr, hmem⟩ := h.stops (.inr hexception)
    rw [hresume] at hr
    cases hr
    by_cases hshelf : target = .readyAtStore
    · subst hshelf
      have hto : resume = .readyAtStore := by
        revert hback hmem
        cases resume <;> decide
      have hheld : HeldOnShelf row.state := ⟨.inr hexception, by rw [hresume, hto]⟩
      obtain ⟨readyAt, hr⟩ := Option.ne_none_iff_exists'.mp (h.ready.mpr (.inr (.inr hheld)))
      refine .kept ⟨by simp [hexception], .inl (by rw [hs'])⟩ (.inr hheld) ?_
        (holdsAfter_finish hholds (.inl hfinish))
      simp [hready, readyAtAfter, readyClockEffect, hmoving, hexception, shelfInterruptions, hr]
    · have hrest : target ≠ .released ∧ target ≠ .onHold ∧ target ≠ .exception := by
        revert hback hmem hmember
        cases resume <;> cases target <;> decide
      refine .off ?_ (holdsAfter_finish hholds (.inl hfinish)) ?_
      · simp [hready, readyAtAfter, readyClockEffect, hmoving, hshelf, hrest, shelfInterruptions]
      · rw [hs']
        exact ⟨hshelf, hrest.1, not_held_of_production hrest.2.1 hrest.2.2⟩
  | interrupt hstop hstarted =>
    have hmem : target ∈ shelfInterruptions := by
      rcases hstop with rfl | rfl <;> decide
    have hne : target ≠ .readyAtStore ∧ target ≠ .released := by
      rcases hstop with rfl | rfl <;> decide
    have hnot : row.state.production ≠ .onHold ∧ row.state.production ≠ .exception := by
      revert hstarted
      cases row.state.production <;> simp
    by_cases hshelf : row.state.production = .readyAtStore
    · refine .stopped ⟨hshelf, ?_⟩ ?_ ?_
      · rw [hs']
        exact ⟨hstop, congrArg some hshelf⟩
      · simp [hready, readyAtAfter, readyClockEffect, hmoving, hne, hmem, hshelf]
      · have hstart : storageHoldMove row { row.state with
            production := target, productionResumeStatus := some row.state.production } command =
              some .start := by
          simp [storageHoldMove, hmoving, holdMove, hmem, hshelf]
        unfold holdsAfter at hholds
        simp only [hstart] at hholds
        obtain ⟨_, -, hholds⟩ := bind_ok.mp hholds
        exact (Except.ok.inj hholds).symm
    · refine .off ?_ (holdsAfter_finish hholds (.inr ⟨?_, ?_⟩)) ?_
      · simp [hready, readyAtAfter, readyClockEffect, hmoving, hne, hshelf]
      · simp [storageHoldMove, hmoving, holdMove, hshelf, hnot]
      · exact h.closed (not_held_of_production hnot.1 hnot.2)
      · rw [hs']
        refine ⟨hne.1, hne.2, ?_⟩
        rintro ⟨-, hr⟩
        exact hshelf (Option.some.inj hr)
  | advance hedge =>
    have hnot : row.state.production ≠ .onHold ∧ row.state.production ≠ .exception := by
      revert hedge
      cases row.state.production <;> cases target <;> simp
    have hrest : target ≠ .onHold ∧ target ≠ .exception := by
      revert hedge
      cases row.state.production <;> cases target <;> simp
    have hclosed := h.closed (not_held_of_production hnot.1 hnot.2)
    have hquiet : storageHoldMove row
        { row.state with production := target, productionResumeStatus := none } command = none := by
      simp [storageHoldMove, hmoving, holdMove, hnot, hrest, shelfInterruptions]
    have hfinish := holdsAfter_finish hholds (.inr ⟨hquiet, hclosed⟩)
    by_cases hshelf : target = .readyAtStore
    · subst hshelf
      have hbefore : row.state.production = .qualityCheck := by
        revert hedge
        cases row.state.production <;> simp
      refine .completed ⟨hbefore, by rw [hs']⟩ ?_ (hfinish.trans (endHolds_closed hclosed _))
      simp [hready, readyAtAfter, readyClockEffect, hmoving, hbefore, shelfInterruptions]
    by_cases hleave : target = .released
    · subst hleave
      have hbefore : row.state.production = .readyAtStore := by
        revert hedge
        cases row.state.production <;> simp
      refine .kept ⟨by simp [hbefore], .inr (by rw [hs'])⟩ (.inl hbefore) ?_ hfinish
      simp [hready, readyAtAfter, readyClockEffect, hmoving]
    · refine .off ?_ hfinish ?_
      · simp [hready, readyAtAfter, readyClockEffect, hmoving, hshelf, hleave, hrest,
          shelfInterruptions]
      · rw [hs']
        exact ⟨hshelf, hleave, not_held_of_production hrest.1 hrest.2⟩

lemma StopKnown.move {s s' : OrderState} {target : ProductionStatus} (hstops : StopKnown s)
    (h : ProductionMove s target s') : StopKnown s' := by
  intro hstop
  cases h with
  | resumeHold hhold hresume =>
    obtain ⟨resume, hr, hmem⟩ := hstops (.inl hhold)
    rw [hresume] at hr
    cases hr
    rcases hstop with rfl | rfl <;> simp at hmem
  | resolve _ _ hmember _ => rcases hstop with rfl | rfl <;> simp [productionSequence] at hmember
  | interrupt _ hstarted => exact ⟨_, rfl, hstarted⟩
  | advance hedge =>
    exfalso
    rcases hstop with rfl | rfl <;> simp at hedge

lemma ClockedBy.write {row row' : OrderRow} {events : List ProductionEvent} {bound : Int}
    {command : TransitionCommand} (h : ClockedBy row events bound)
    (hlt : bound < command.occurredAt.instant)
    (hwrite : applyLockedTransition row command = .ok row') :
    ClockedBy row' (events ++ productionEvent row row' command) command.occurredAt.instant := by
  unfold productionEvent
  cases hmoving : movesProduction command.target with
  | true =>
    obtain ⟨target, htarget⟩ : ∃ target, command.target = .production target := by
      revert hmoving
      cases command.target <;> simp [movesProduction]
    rw [if_pos rfl]
    exact h.shelfMove hlt (h.shelfMove_of_write hwrite htarget)
      (h.stops.move (written_production hwrite htarget).1)
  | false =>
    obtain ⟨hproduction, hresume, hready, hholds⟩ := written_elsewhere hwrite hmoving
    have hheld : HeldOnShelf row'.state ↔ HeldOnShelf row.state := by
      simp only [HeldOnShelf, hproduction, hresume]
    rw [if_neg (by simp), List.append_nil]
    refine ⟨?_, ?_, ?_, ?_, ?_⟩
    · rw [hready, hproduction, hheld]
      exact h.ready
    · rw [hready, hholds]
      intro readyAt hr
      obtain ⟨hle, hstay⟩ := h.stay readyAt hr
      exact ⟨hle.trans hlt.le, hstay⟩
    · rw [hholds]
      exact h.holds.mono hlt.le
    · rw [hholds, hheld]
      exact h.openHold
    · unfold StopKnown
      rw [hproduction, hresume]
      exact h.stops

lemma ClockedBy.writeAll {row row' : OrderRow} {events : List ProductionEvent} {bound : Int}
    {commands : List TransitionCommand} (h : ClockedBy row events bound)
    (hlater : ∀ command ∈ commands, bound < command.occurredAt.instant)
    (hincreasing : commands.Pairwise fun a b => a.occurredAt.instant < b.occurredAt.instant)
    (hwrite : writeAll row commands = .ok row') :
    ∃ bound', ClockedBy row' (events ++ productionEvents row commands) bound' := by
  induction commands generalizing row events bound with
  | nil =>
    cases hwrite
    refine ⟨bound, ?_⟩
    rw [productionEvents, List.append_nil]
    exact h
  | cons command commands ih =>
    unfold Orders.writeAll at hwrite
    rw [List.foldlM_cons] at hwrite
    obtain ⟨row₁, hfirst, hrest⟩ := bind_ok.mp hwrite
    obtain ⟨hafter, hincreasing⟩ := List.pairwise_cons.mp hincreasing
    have hnext := h.write (hlater command List.mem_cons_self) hfirst
    obtain ⟨bound', hdone⟩ := ih hnext hafter hincreasing hrest
    refine ⟨bound', ?_⟩
    rw [productionEvents, hfirst, ← List.append_assoc]
    exact hdone

lemma ClockedBy.ready_kept {row row' : OrderRow} {events : List ProductionEvent} {bound : Int}
    {command : TransitionCommand} (h : ClockedBy row events bound)
    (hwrite : applyLockedTransition row command = .ok row')
    (hmove : movesProduction command.target = false ∨ HeldOnShelf row'.state ∨
      HeldOnShelf row.state ∧ row'.state.production = .readyAtStore) :
    row'.productionReadyAt = row.productionReadyAt := by
  rcases Bool.eq_false_or_eq_true (movesProduction command.target) with hmoving | hmoving
  swap
  · exact (written_elsewhere hwrite hmoving).2.2.1
  obtain ⟨target, htarget⟩ : ∃ target, command.target = .production target := by
    revert hmoving
    cases command.target <;> simp [movesProduction]
  replace hmove := hmove.resolve_left (by simp [hmoving])
  cases h.shelfMove_of_write hwrite htarget with
  | off _ _ hoff =>
    rcases hmove with hheld | ⟨-, hready⟩
    · exact absurd hheld hoff.2.2
    · exact absurd hready hoff.1
  | completed hevent =>
    rcases hmove with hheld | ⟨hheld, -⟩
    · exact absurd hheld (not_held_of_production (by simp [hevent.2]) (by simp [hevent.2]))
    · exact absurd hheld (not_held_of_production (by simp [hevent.1]) (by simp [hevent.1]))
  | kept _ _ hready => exact hready
  | stopped _ hready => exact hready

lemma clockedBy_notStarted {row : OrderRow} (hstart : row.state.production = .notStarted)
    (hready : row.productionReadyAt = none) (hholds : row.storageHolds = []) (bound : Int) :
    ClockedBy row [] bound := by
  have hnot : ¬ HeldOnShelf row.state :=
    not_held_of_production (by simp [hstart]) (by simp [hstart])
  refine ⟨by simp [hready, hstart, hnot], by simp [hready], ?_, by simp [hholds, hnot],
    by simp [StopKnown, hstart]⟩
  rw [hholds]
  exact ⟨.nil, by simp, by simp, by simp⟩

/-- For every run of transitions at increasing instants on an order whose work has not begun:
the ready time is that of the last completion and is on record exactly while the laundry is
finished, the hold rows are disjoint, the open one is that of laundry held on the shelf, and
those since the ready time are the interruptions of the current stay; and no stop, resumption
to the shelf or move of another axis changes the ready time. -/
theorem shelf_clock_exact (row row' : OrderRow) (commands : List TransitionCommand)
    (hstart : row.state.production = .notStarted) (hready : row.productionReadyAt = none)
    (hholds : row.storageHolds = [])
    (hincreasing : commands.Pairwise fun a b => a.occurredAt.instant < b.occurredAt.instant)
    (hwrite : writeAll row commands = .ok row') :
    Clocked row' (productionEvents row commands) ∧
      ∀ command row'', applyLockedTransition row' command = .ok row'' →
        (movesProduction command.target = false ∨ HeldOnShelf row''.state ∨
          HeldOnShelf row'.state ∧ row''.state.production = .readyAtStore) →
        row''.productionReadyAt = row'.productionReadyAt := by
  obtain ⟨bound, hbound⟩ : ∃ bound : Int,
      ∀ command ∈ commands, bound < command.occurredAt.instant := by
    cases commands with
    | nil => exact ⟨0, by simp⟩
    | cons first rest =>
      refine ⟨first.occurredAt.instant - 1, fun command hm => ?_⟩
      rcases List.mem_cons.mp hm with rfl | hm
      · omega
      · have := (List.pairwise_cons.mp hincreasing).1 command hm
        omega
  obtain ⟨bound', hdone⟩ :=
    (clockedBy_notStarted hstart hready hholds bound).writeAll hbound hincreasing hwrite
  exact ⟨hdone.clocked, fun command row'' h hmove => hdone.ready_kept h hmove⟩

def productionMove (target : ProductionStatus) (moment : Fin 1000) : TransitionCommand where
  target := .production target
  intakeReadiness := none
  productionAcceptedAt := none
  custodyResolution := none
  unclaimedDisposalVerified := false
  refundMethod := none
  creditChain := none
  occurredAt := .ofUtc moment (moment.isLt.trans (by decide))

def takenIn : OrderRow :=
  let row := OrderRow.created .selfDropSelfCollect ⟨some 100000, some 100000⟩ ⟨true, true, true, true⟩
    none
  { row with state := { row.state with commercial := .active, intake := .accepted } }

def rewashedThenHeld : List TransitionCommand :=
  [productionMove .queued 1, productionMove .inProcess 2, productionMove .qualityCheck 3,
    productionMove .readyAtStore 4, productionMove .exception 5, productionMove .inProcess 6,
    productionMove .qualityCheck 7, productionMove .readyAtStore 8, productionMove .onHold 9]

theorem shelf_clock_rewashed_then_held : ∃ row', writeAll takenIn rewashedThenHeld = .ok row' ∧
    row'.productionReadyAt = some 8 ∧ row'.storageHolds = [⟨5, some 6⟩, ⟨9, none⟩] ∧
    Clocked row' (productionEvents takenIn rewashedThenHeld) := by
  refine ⟨_, rfl, by decide, by decide, ?_⟩
  exact (shelf_clock_exact takenIn _ rewashedThenHeld rfl rfl rfl (by decide) rfl).1

end NhaTrangLaundry.Db.Orders
