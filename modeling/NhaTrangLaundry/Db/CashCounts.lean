import NhaTrangLaundry.Domain.CashCount
import NhaTrangLaundry.Lib.Sorting
import Mathlib.Data.Prod.Lex

/-! The cash sheet of a store: entries that are recorded once a day and kind, and corrected by
entries that name the one they replace. -/

namespace NhaTrangLaundry.Db.CashCounts

open Lib Outcome Sorting Domain Domain.Canonical Domain.CashCount

def historyMaxEntries : Nat := 1000

structure ClosingRecord where
  expectedStatus : ExpectedStatus
  expectedVnd : Option Nat
  differenceVnd : Option Nat
  differenceDirection : Option DifferenceDirection
  floatEntryId : Option Uuid
  trace : Json
  traceHash : String

/-- A row of `cash_counts`. -/
structure CashCountEntry where
  entryId : Uuid
  storeId : Uuid
  businessDay : Date
  kind : CashCountKind
  countedVnd : Nat
  supersedesId : Option Uuid
  correctionReason : Option String
  closing : Option ClosingRecord
  recordedAt : Int

structure Sheet where
  storeId : Uuid
  businessDay : Date
  kind : CashCountKind
deriving DecidableEq

def CashCountEntry.sheet (entry : CashCountEntry) : Sheet :=
  ⟨entry.storeId, entry.businessDay, entry.kind⟩

structure RecordCashCountCommand where
  storeId : Uuid
  businessDay : Date
  kind : CashCountKind
  countedVnd : Int
  supersedesEntryId : Option Uuid
  note : Except NoteRefusal (Option String)
  today : Date
  entryId : Uuid
  recordedAt : Int

/-- The constraints of the table that an insert can meet. -/
inductive Constraint where
  | primaryKey
  | original
  | supersededOnce
  | supersedesSame
  | floatSame
  | check
deriving DecidableEq

inductive RecordFailure where
  | refused (refusal : CashCountRefusal)
  | raised (e : PyException)
  | violated (constraint : Constraint)

def refusing {α : Type} : Except CashCountRefusal α → Except RecordFailure α
  | .ok a => .ok a
  | .error refusal => .error (.refused refusal)

def raising {α : Type} : Except PyException α → Except RecordFailure α
  | .ok a => .ok a
  | .error e => .error (.raised e)

/-- `EXISTS (… WHERE n.supersedes_id = c.id)`. -/
def superseded (table : List CashCountEntry) (entry : CashCountEntry) : Bool :=
  table.any fun n => n.supersedesId = some entry.entryId

/-- One day's entries, oldest first, at most `limit` of them. -/
def entries (table : List CashCountEntry) (storeId : Uuid) (day : Date) (limit : Nat) :
    List CashCountEntry :=
  (sortBy (fun entry : CashCountEntry => toLex (entry.recordedAt, entry.entryId.int.val))
    (table.filter fun entry : CashCountEntry =>
      entry.storeId = storeId ∧ entry.businessDay = day)).take limit

def current (table found : List CashCountEntry) (kind : CashCountKind) : Option CashCountEntry :=
  (found.filter fun entry => entry.kind = kind && !superseded table entry).getLast?

/-- `cash_counts_closing_shape`, `cash_counts_float_shape`. -/
def closingShape (kind : CashCountKind) (closing : Option ClosingRecord) : Prop :=
  match kind, closing with
  | .openingFloat, closing => closing.isNone
  | .closingCount, none => False
  | .closingCount, some closing =>
    (closing.expectedVnd.isSome ↔
      closing.expectedStatus = .complete ∨ closing.expectedStatus = .incomplete) ∧
    (closing.differenceVnd.isSome ↔ closing.expectedVnd.isSome) ∧
    (closing.differenceDirection.isSome ↔ closing.expectedVnd.isSome) ∧
    (∀ d ∈ closing.differenceVnd, closing.differenceDirection = some .even → d = 0) ∧
    (∀ d ∈ closing.differenceVnd, closing.differenceDirection = some .over ∨
      closing.differenceDirection = some .short → 0 < d) ∧
    (closing.floatEntryId = none ↔ closing.expectedStatus = .floatMissing)

instance (kind : CashCountKind) (closing : Option ClosingRecord) :
    Decidable (closingShape kind closing) := by
  unfold closingShape
  split <;> infer_instance

def rowShape (row : CashCountEntry) : Prop :=
  (row.countedVnd : Int) ≤ countedMaxVnd ∧
    (row.supersedesId = none ↔ row.correctionReason = none) ∧
    row.supersedesId ≠ some row.entryId ∧ closingShape row.kind row.closing

instance (row : CashCountEntry) : Decidable (rowShape row) := by
  unfold rowShape
  infer_instance

/-- An insert into `cash_counts`: the trigger, the row's checks, the indexes. -/
def insert (table : List CashCountEntry) (row : CashCountEntry) :
    Except RecordFailure (List CashCountEntry) := do
  require (∀ s ∈ row.supersedesId, ∃ entry ∈ table, entry.entryId = s ∧ entry.sheet = row.sheet)
    (.violated .supersedesSame)
  require (∀ closing ∈ row.closing, ∀ f ∈ closing.floatEntryId, ∃ entry ∈ table,
    entry.entryId = f ∧ entry.sheet = ⟨row.storeId, row.businessDay, .openingFloat⟩)
    (.violated .floatSame)
  require (rowShape row) (.violated .check)
  require (∀ entry ∈ table, entry.entryId ≠ row.entryId) (.violated .primaryKey)
  require (∀ s ∈ row.supersedesId, ∀ entry ∈ table, entry.supersedesId ≠ some s)
    (.violated .supersededOnce)
  require (row.supersedesId = none → ∀ entry ∈ table, entry.sheet = row.sheet →
    entry.supersedesId ≠ none) (.violated .original)
  .ok (table ++ [row])

variable [Unicodedata]

/-- What a closing count stores of the books. The trace is kept as `JSONB`. -/
def closingRecord (opening : Option CashCountEntry) (movement : DrawerMovement) (day : Date)
    (counted : Nat) : Except PyException ClosingRecord := do
  let expected := expectedCash (opening.map (·.countedVnd)) movement
  let difference := cashDifference counted expected
  let trace ← closingTrace day counted expected difference
  .ok
    { expectedStatus := expected.status
      expectedVnd := expected.expectedVnd
      differenceVnd := difference.map (·.amountVnd)
      differenceDirection := difference.map (·.direction)
      floatEntryId := opening.map (·.entryId)
      trace := Json.columnOrder trace.document
      traceHash := trace.traceHash }

/-- The `snapshot` of an entry: a closing count has one. -/
def snapshot (opening : Option CashCountEntry) (movement : DrawerMovement) (day : Date)
    (counted : Nat) : CashCountKind → Except RecordFailure (Option ClosingRecord)
  | .openingFloat => .ok none
  | .closingCount => some <$> raising (closingRecord opening movement day counted)

/-- Record a float, a count or a correction of either, with the drawer as the ledgers have it. -/
def record (table : List CashCountEntry) (movement : DrawerMovement)
    (command : RecordCashCountCommand) : Except RecordFailure (List CashCountEntry) := do
  let day ← refusing (recordingDay command.businessDay command.today)
  let counted ← refusing (countedAmount command.countedVnd)
  let reason ← refusing (correctionReason command.note command.supersedesEntryId.isSome)
  let found := entries table command.storeId day historyMaxEntries
  let standing := current table found command.kind
  require (command.supersedesEntryId.isSome ∨ standing.isNone) (.refused .alreadyRecorded)
  require (∀ s ∈ command.supersedesEntryId, standing.map (·.entryId) = some s) (.refused .stale)
  let closing ← snapshot (current table found .openingFloat) movement day counted command.kind
  insert table
    { entryId := command.entryId
      storeId := command.storeId
      businessDay := day
      kind := command.kind
      countedVnd := counted
      supersedesId := command.supersedesEntryId
      correctionReason := reason
      closing := closing
      recordedAt := command.recordedAt }

structure CashCountDay where
  openingFloat : Option CashCountEntry
  closingCount : Option CashCountEntry
  entries : List CashCountEntry
  expected : ExpectedCash
  changedSinceCount : Bool

def changedSince (day : Date) (expected : ExpectedCash) :
    Option CashCountEntry → Except PyException Bool
  | none => .ok false
  | some closing => do
    let now ← closingTrace day closing.countedVnd expected
      (cashDifference closing.countedVnd expected)
    .ok (closing.closing.map (·.traceHash) ≠ some now.traceHash)

/-- `read_day`, over `_day`. -/
def readDay (table : List CashCountEntry) (movement : DrawerMovement) (storeId : Uuid)
    (day : Date) : Except PyException CashCountDay := do
  let found := entries table storeId day historyMaxEntries
  let opening := current table found .openingFloat
  let closing := current table found .closingCount
  let expected := expectedCash (opening.map (·.countedVnd)) movement
  let changed ← changedSince day expected closing
  .ok ⟨opening, closing, found, expected, changed⟩

end NhaTrangLaundry.Db.CashCounts
