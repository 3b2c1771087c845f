import NhaTrangLaundry.Db.OrderReplay
import NhaTrangLaundry.Lib.Table

/-! The wash cycles of an order: production moves open and close them, in the transaction of
the move. -/

namespace NhaTrangLaundry.Db.WashCycles

open Lib Outcome Table Domain Catalog Unclaimed Domain.Orders OrderSteps Db.Orders

inductive CycleEffect where
  | «open»
  | close
  | none
deriving DecidableEq

def cycleEffect (before after : ProductionStatus) : CycleEffect :=
  if after = .inProcess ∧ before ≠ .inProcess then .open
  else if after = .qualityCheck ∧ before ≠ .qualityCheck then .close
  else .none

inductive CycleKind where
  | wash
  | rewash
deriving DecidableEq

/-- A row of `wash_cycles` of the order. -/
structure WashCycle where
  id : Uuid
  machineId : Option Uuid
  kind : CycleKind
  startedAt : Int
  startedBy : Uuid
  endedAt : Option Int
  endedBy : Option Uuid
deriving DecidableEq

/-- What a move brings to the cycle it may open: its fresh identifier, the machine, the hand. -/
structure Capture where
  cycleId : Uuid
  machineId : Option Uuid
  actorId : Uuid

def openCycle (cycles : List WashCycle) : Option WashCycle :=
  cycles.find? fun cycle => cycle.endedAt = none

def closed (cycle : WashCycle) (occurredAt : Int) (actorId : Uuid) : WashCycle :=
  { cycle with endedAt := some occurredAt, endedBy := some actorId }

def applyCycleEffect (cycles : List WashCycle) (before after : ProductionStatus) (capture : Capture)
    (occurredAt : Int) : Except Refusal (List WashCycle) :=
  match cycleEffect before after with
  | .none => .ok cycles
  | .open =>
    match openCycle cycles with
    | some _ => .ok cycles
    | none => do
      require (capture.cycleId ∉ cycles.map WashCycle.id) .database
      .ok (cycles ++ [{
        id := capture.cycleId
        machineId := capture.machineId
        kind := if cycles.length = 0 then .wash else .rewash
        startedAt := occurredAt
        startedBy := capture.actorId
        endedAt := none
        endedBy := none }])
  | .close =>
    match openCycle cycles with
    | none => .ok cycles
    | some cycle => do
      require (cycle.startedAt ≤ occurredAt) .database
      .ok (put WashCycle.id cycles (closed cycle occurredAt capture.actorId))

structure Wash where
  row : OrderRow
  cycles : List WashCycle
deriving DecidableEq

/-- `_apply_locked_transition` with the cycle of a production move. -/
def lockedTransition (w : Wash) (command : TransitionCommand) (capture : Capture) :
    Except Refusal Wash := do
  let row ← applyLockedTransition w.row command
  if movesProduction command.target then
    let cycles ← applyCycleEffect w.cycles w.row.state.production row.state.production capture
      command.occurredAt.instant
    .ok ⟨row, cycles⟩
  else .ok ⟨row, w.cycles⟩

/-- A move of production, and what it had interrupted. -/
structure Move where
  before : ProductionStatus
  resume : Option ProductionStatus
  after : ProductionStatus
deriving DecidableEq

def moved (row row' : OrderRow) (command : TransitionCommand) : List Move :=
  if movesProduction command.target then
    [⟨row.state.production, row.state.productionResumeStatus, row'.state.production⟩]
  else []

/-- A run on one order: transitions at strictly increasing instants, and entries between them.
It carries the moves of production so far and the instant of the last transition. -/
inductive Run (start : OrderRow) : List Move → Int → Wash → Prop
  | start (since : Int) : Run start [] since ⟨start, []⟩
  | transition {moves : List Move} {last : Int} {w w' : Wash} {command : TransitionCommand}
    {capture : Capture} (hrun : Run start moves last w)
    (hmove : lockedTransition w command capture = .ok w') (hlater : last < command.occurredAt.instant) :
    Run start (moves ++ moved w.row w'.row command) command.occurredAt.instant w'
  | entry {moves : List Move} {last : Int} {w : Wash} {row' : OrderRow} (hrun : Run start moves last w)
    (hentry : Entry w.row row') : Run start moves last ⟨row', w.cycles⟩

/-- Whether a cycle is open after some moves, and how many there are: a move into `IN_PROCESS`
opens one unless one is open, a move into `QUALITY_CHECK` closes it. -/
def track (moves : List Move) : Bool × Nat :=
  moves.foldl (fun (washing, loads) m =>
    if m.after = .inProcess then (true, if washing then loads else loads + 1)
    else if m.after = .qualityCheck then (false, loads)
    else (washing, loads)) (false, 0)

/-- An exception of a wash is resumed only where it interrupted. -/
def NoneSetBack (moves : List Move) : Prop :=
  ∀ m ∈ moves, m.before = .exception → m.resume = some .inProcess → m.after = .inProcess

def InWash (s : OrderState) : Prop :=
  s.production = .inProcess ∨
    (s.production ∈ shelfInterruptions ∧ s.productionResumeStatus = some .inProcess)

instance (s : OrderState) : Decidable (InWash s) := by
  unfold InWash
  infer_instance

/-- The moves into `IN_PROCESS` that do not resume an interruption of it. -/
def entries (moves : List Move) : Nat :=
  moves.countP fun m => m.after = .inProcess &&
    !(m.before ∈ shelfInterruptions && m.resume = some .inProcess)

end NhaTrangLaundry.Db.WashCycles
