import NhaTrangLaundry.Domain.AccountStatements
import NhaTrangLaundry.Lib.Interleaving
import NhaTrangLaundry.Lib.Table
import NhaTrangLaundry.Lib.Uuid

/-! Requests for an invoice, for one order or for a month of an account: creating, issuing and
cancelling them in several statements, while orders go on the accounts. -/

namespace NhaTrangLaundry.Db.InvoiceRequests

open Lib Outcome Table Gregorian Domain Domain.Canonical Domain.Unclaimed
open Domain.Accounts (Month statementMonth)

inductive InvoiceRefusal where
  | invoiceSubjectUnavailable
  | invoiceRequestExists
  | invoiceRequestClosed
  | invoiceNumberTaken
  | invoiceAmountMoved
  | invoiceTotalMismatch (field : String)
  | invoiceTotalUnknown
  /-- `InvoiceNotFoundError`. -/
  | notFound
  /-- `InvoiceStateError`. -/
  | state (message : String)
  /-- The primary key, or the store's numbers. -/
  | uniqueViolation
  | raised (e : PyException)

inductive Subject where
  | order (orderId : Uuid)
  | accountMonth (accountId : Uuid) (month : Month)
deriving DecidableEq

inductive InvoiceRequestStatus where
  | requested
  | issued (invoiceSymbol invoiceNumber : String)
  | cancelled
deriving DecidableEq

/-- A row of `invoice_request_snapshot_orders`. -/
structure SnapshotLine where
  orderId : Uuid
  accountChargeId : Option Uuid
  amountVnd : Option Int
deriving DecidableEq

structure Snapshot where
  totalVnd : Option Int
  lines : List SnapshotLine
  printedTotalVnd : Option Int
deriving DecidableEq

structure InvoiceRequest where
  id : Uuid
  requestNumber : Nat
  subject : Subject
  status : InvoiceRequestStatus
  rowVersion : Nat
  snapshot : Option Snapshot
deriving DecidableEq

/-- A row of `customer_account_charges`. -/
structure Charge where
  id : Uuid
  orderId : Uuid
  accountId : Uuid
  chargedAt : Int
  owedVnd : Int
deriving DecidableEq

structure Tables where
  requests : List InvoiceRequest
  charges : List Charge

def InvoiceRequest.live (r : InvoiceRequest) : Bool := r.status ≠ .cancelled

def InvoiceRequest.isIssued (r : InvoiceRequest) : Bool :=
  match r.status with
  | .issued _ _ => true
  | _ => false

def Charge.month (c : Charge) : Month :=
  Month.ofDay ((c.chargedAt + shopOffset) / dayMicros).toNat

def ownRequest (t : Tables) (orderId : Uuid) : Bool :=
  t.requests.any fun r => r.subject = .order orderId && r.live

def monthCharges (t : Tables) (accountId : Uuid) (month : Month) : List Charge :=
  t.charges.filter fun c => c.accountId = accountId && c.month = month

def lists (r : InvoiceRequest) (orderId : Uuid) : Bool :=
  r.snapshot.any fun s => s.lines.any fun line => line.orderId = orderId

/-- `_ORDER_COVERED_BY_MONTH_SQL`. -/
def orderCoveredByMonth (t : Tables) (orderId : Uuid) : Bool :=
  t.charges.any fun c => c.orderId = orderId && t.requests.any fun r =>
    r.subject = .accountMonth c.accountId c.month &&
      (r.status = .requested || (r.isIssued && lists r orderId))

/-- `_open_month`: the orders of the month without a request of their own. -/
def openMonth (t : Tables) (accountId : Uuid) (month : Month) : List SnapshotLine :=
  ((monthCharges t accountId month).filter fun c => !ownRequest t c.orderId).map fun c =>
    ⟨c.orderId, some c.id, some c.owedVnd⟩

/-- `coalesce(max(request_number), 0) + 1`. -/
def nextNumber (t : Tables) : Nat :=
  (t.requests.map InvoiceRequest.requestNumber).foldl max 0 + 1

def sumAmounts (lines : List SnapshotLine) : Int :=
  (lines.map fun line => line.amountVnd.getD 0).sum

structure OnInvoice where
  orderIds : List Uuid
  printedTotalVnd : Option Int

/-- The figure of the orders sent: the request's for an order, their sum for a month. -/
def figureSent (subject : Subject) (requestTotalVnd : Option Int) (lines : List SnapshotLine)
    (sent : List Uuid) : Except InvoiceRefusal Int :=
  match subject with
  | .order _ =>
    match requestTotalVnd with
    | some total => .ok total
    | none => .error .invoiceTotalUnknown
  | .accountMonth _ _ => do
    let chosen := lines.filter fun line => line.orderId ∈ sent
    require (∀ line ∈ chosen, line.amountVnd ≠ none)
      (.raised (.valueError "an account month's line always has an amount"))
    .ok (sumAmounts chosen)

def ordersOnInvoice (subject : Subject) (invoiceTotalVnd : Option Int) (invoiceOrderIds : List Uuid)
    (requestTotalVnd : Option Int) (lines : List SnapshotLine) (recordPrinted : Bool) :
    Except InvoiceRefusal OnInvoice := do
  require (invoiceOrderIds ≠ [] ∧ invoiceOrderIds.Nodup ∧
    ∀ id ∈ invoiceOrderIds, id ∈ lines.map SnapshotLine.orderId) .invoiceAmountMoved
  let chosen := (lines.map SnapshotLine.orderId).filter fun id => id ∈ invoiceOrderIds
  let total ← figureSent subject requestTotalVnd lines invoiceOrderIds
  if invoiceTotalVnd = some total then .ok ⟨chosen, none⟩
  else match invoiceTotalVnd with
    | none => .error (.invoiceTotalMismatch "invoice_total_vnd")
    | some printed => do
      require (recordPrinted = true ∧ 0 ≤ printed) (.invoiceTotalMismatch "invoice_total_vnd")
      .ok ⟨chosen, some printed⟩

/-- `_SnapshotPlan.listing`, and the printed figure. -/
def Snapshot.listing (plan : Snapshot) (subject : Subject) (onInvoice : OnInvoice) : Snapshot :=
  let kept := plan.lines.filter fun line => line.orderId ∈ onInvoice.orderIds
  match subject with
  | .order _ => ⟨plan.totalVnd, kept, onInvoice.printedTotalVnd⟩
  | .accountMonth _ _ => ⟨some (sumAmounts kept), kept, onInvoice.printedTotalVnd⟩

/-- A call of `create`. Whether its subject can be had is what the rows of the order or of the
account answer. -/
structure CreateCommand where
  requestId : Uuid
  subject : Subject
  available : Bool
  now : Int

/-- A call of `record_issued`; `orderAmountVnd` is what the order costs then. -/
structure RecordIssuedCommand where
  requestId : Uuid
  expectedRowVersion : Nat
  invoiceSymbol : String
  invoiceNumber : String
  invoiceTotalVnd : Option Int
  invoiceOrderIds : List Uuid
  recordPrintedTotal : Bool
  orderAmountVnd : Option Int

structure CancelCommand where
  requestId : Uuid
  expectedRowVersion : Nat

/-- Where a call stands. From `locked` on a creation holds the store's lock, from `issueLocked` on
an issue does. -/
inductive Call where
  | asked (command : CreateCommand)
  | locked (command : CreateCommand)
  | resolved (command : CreateCommand) (allOwn : Bool)
  | uncovered (command : CreateCommand)
  | numbered (command : CreateCommand) (number : Nat)
  | toIssue (command : RecordIssuedCommand)
  | issueLocked (command : RecordIssuedCommand)
  | opened (command : RecordIssuedCommand) (version : Nat)
  | untaken (command : RecordIssuedCommand) (version : Nat)
  | planned (command : RecordIssuedCommand) (version : Nat) (plan : Snapshot)
  | toCancel (command : CancelCommand)
  | cancelling (command : CancelCommand) (version : Nat)
  | ended

abbrev World := Interleaved Tables Call

def Call.holdsStore : Call → Bool
  | .locked _ | .resolved _ _ | .uncovered _ | .numbered _ _ | .issueLocked _ | .opened _ _ |
    .untaken _ _ | .planned _ _ _ => true
  | _ => false

def Call.holdsRow : Call → Option Uuid
  | .opened command _ | .untaken command _ | .planned command _ _ => some command.requestId
  | .cancelling command _ => some command.requestId
  | _ => none

def storeTaken (w : World) : Prop := ∃ c ∈ w.calls, c.holdsStore = true

def rowTaken (w : World) (id : Uuid) : Prop := ∃ c ∈ w.calls, c.holdsRow = some id

instance (w : World) : Decidable (storeTaken w) := List.decidableBEx _ _

instance (w : World) (id : Uuid) : Decidable (rowTaken w id) := List.decidableBEx _ _

def found (t : Tables) (id : Uuid) : Option InvoiceRequest :=
  lookup InvoiceRequest.id t.requests id

/-- `period_month > statement_month(at)`. -/
def inFuture (month now : Month) : Bool :=
  now.year * 12 + now.month < month.year * 12 + month.month

/-- The first read of `_resolve_subject`, with whether every order of the month has its own. -/
def resolveSubject (t : Tables) (command : CreateCommand) : Except InvoiceRefusal Bool := do
  require (command.available = true) .invoiceSubjectUnavailable
  match command.subject with
  | .order id => do
    require (ownRequest t id = false) .invoiceRequestExists
    .ok false
  | .accountMonth account month =>
    match statementMonth command.now with
    | .error e => .error (.raised e)
    | .ok now => do
      require (inFuture month now = false ∧ monthCharges t account month ≠ [])
        .invoiceSubjectUnavailable
      .ok ((monthCharges t account month).all fun c => ownRequest t c.orderId)

/-- Its second read: whether a live request covers the subject already. -/
def checkUncovered (t : Tables) (subject : Subject) (allOwn : Bool) : Except InvoiceRefusal Unit :=
  match subject with
  | .order id => require (orderCoveredByMonth t id = false) .invoiceRequestExists
  | .accountMonth _ _ =>
    require ((t.requests.any fun r => r.subject = subject && r.live) = false ∧ allOwn = false)
      .invoiceRequestExists

def insertRequest (t : Tables) (command : CreateCommand) (number : Nat) :
    Except InvoiceRefusal Tables := do
  require (∀ r ∈ t.requests, r.id ≠ command.requestId ∧ r.requestNumber ≠ number) .uniqueViolation
  require (∀ r ∈ t.requests, r.live = true → r.subject ≠ command.subject) .invoiceRequestExists
  .ok { t with requests :=
          t.requests ++ [⟨command.requestId, number, command.subject, .requested, 1, none⟩] }

def lockOpen (t : Tables) (id : Uuid) (expectedRowVersion : Nat) : Except InvoiceRefusal Nat :=
  match found t id with
  | none => .error .notFound
  | some row => do
    require (row.status = .requested) .invoiceRequestClosed
    require (row.rowVersion = expectedRowVersion)
      (.state "STALE_VERSION: invoice request changed since it was read")
    .ok row.rowVersion

def numberTaken (t : Tables) (command : RecordIssuedCommand) : Bool :=
  t.requests.any fun r => r.status = .issued command.invoiceSymbol command.invoiceNumber

/-- `_snapshot_plan`: what an open request is for now. -/
def openPlan (t : Tables) (subject : Subject) (orderAmountVnd : Option Int) :
    Except InvoiceRefusal Snapshot :=
  match subject with
  | .order id => .ok ⟨orderAmountVnd, [⟨id, none, orderAmountVnd⟩], none⟩
  | .accountMonth account month =>
    if openMonth t account month = [] then .error .invoiceSubjectUnavailable
    else .ok ⟨some (sumAmounts (openMonth t account month)), openMonth t account month, none⟩

def snapshotPlan (t : Tables) (command : RecordIssuedCommand) : Except InvoiceRefusal Snapshot :=
  match found t command.requestId with
  | none => .error .notFound
  | some row => do
    let plan ← openPlan t row.subject command.orderAmountVnd
    let onInvoice ← ordersOnInvoice row.subject command.invoiceTotalVnd command.invoiceOrderIds
      plan.totalVnd plan.lines command.recordPrintedTotal
    .ok (plan.listing row.subject onInvoice)

def InvoiceRequest.closed (row : InvoiceRequest) (status : InvoiceRequestStatus)
    (snapshot : Option Snapshot) : InvoiceRequest :=
  { row with status := status, snapshot := snapshot, rowVersion := row.rowVersion + 1 }

def Tables.close (t : Tables) (row : InvoiceRequest) (status : InvoiceRequestStatus)
    (snapshot : Option Snapshot) : Tables :=
  { t with requests := put InvoiceRequest.id t.requests (row.closed status snapshot) }

/-- `UPDATE invoice_requests … WHERE … row_version = …`, and the trigger that lets an open request
alone change its state. -/
def closeRequest (t : Tables) (id : Uuid) (version : Nat) (status : InvoiceRequestStatus)
    (snapshot : Option Snapshot) : Except InvoiceRefusal Tables :=
  match found t id with
  | none => .error .notFound
  | some row => do
    require (row.rowVersion = version) (.state "STALE_VERSION: invoice request changed")
    require (row.status = .requested) .invoiceRequestClosed
    .ok (t.close row status snapshot)

def issueRequest (t : Tables) (command : RecordIssuedCommand) (version : Nat) (plan : Snapshot) :
    Except InvoiceRefusal Tables := do
  require (numberTaken t command = false) .invoiceNumberTaken
  closeRequest t command.requestId version
    (.issued command.invoiceSymbol command.invoiceNumber) (some plan)

def writing (t : Tables) (outcome : Except InvoiceRefusal Tables) : Call × Tables :=
  match outcome with
  | .ok tables => (.ended, tables)
  | .error _ => (.ended, t)

def going (t : Tables) {α : Type} (outcome : Except InvoiceRefusal α) (call : α → Call) :
    Call × Tables :=
  match outcome with
  | .ok a => (call a, t)
  | .error _ => (.ended, t)

/-- The next statement of a call; it waits where another call holds what it needs. -/
def next (w : World) : Call → Call × Tables
  | .asked command =>
    if storeTaken w then (.asked command, w.shared) else (.locked command, w.shared)
  | .locked command => going w.shared (resolveSubject w.shared command) (.resolved command)
  | .resolved command allOwn =>
    going w.shared (checkUncovered w.shared command.subject allOwn) fun _ => .uncovered command
  | .uncovered command => (.numbered command (nextNumber w.shared), w.shared)
  | .numbered command number => writing w.shared (insertRequest w.shared command number)
  | .toIssue command =>
    if storeTaken w then (.toIssue command, w.shared) else (.issueLocked command, w.shared)
  | .issueLocked command =>
    if rowTaken w command.requestId then (.issueLocked command, w.shared)
    else going w.shared (lockOpen w.shared command.requestId command.expectedRowVersion)
      (.opened command)
  | .opened command version =>
    going w.shared (require (numberTaken w.shared command = false) .invoiceNumberTaken)
      fun _ => .untaken command version
  | .untaken command version =>
    going w.shared (snapshotPlan w.shared command) (.planned command version)
  | .planned command version plan =>
    writing w.shared (issueRequest w.shared command version plan)
  | .toCancel command =>
    if rowTaken w command.requestId then (.toCancel command, w.shared)
    else going w.shared (lockOpen w.shared command.requestId command.expectedRowVersion)
      (.cancelling command)
  | .cancelling command version =>
    writing w.shared (closeRequest w.shared command.requestId version .cancelled none)
  | .ended => (.ended, w.shared)

inductive Command where
  | create (command : CreateCommand)
  | recordIssued (command : RecordIssuedCommand)
  | cancel (command : CancelCommand)
  | statement (i : Nat)
  | abort (i : Nat)
  /-- An order goes on an account. -/
  | charge (charge : Charge)

/-- `customer_account_charges` has one row for an order. -/
def insertCharge (t : Tables) (charge : Charge) : Tables :=
  if ∃ c ∈ t.charges, c.orderId = charge.orderId ∨ c.id = charge.id then t
  else { t with charges := t.charges ++ [charge] }

def apply (w : World) : Command → World
  | .create command => w.enter (.asked command)
  | .recordIssued command => w.enter (.toIssue command)
  | .cancel command => w.enter (.toCancel command)
  | .statement i =>
    match w.calls[i]? with
    | some c => w.put i (next w c).1 (next w c).2
    | none => w
  | .abort i =>
    match w.calls[i]? with
    | some _ => w.put i .ended w.shared
    | none => w
  | .charge charge => { w with shared := insertCharge w.shared charge }

def run (w : World) (commands : List Command) : World := commands.foldl apply w

/-- A store with no requests, whatever is on its accounts already. -/
def starting (charges : List Charge) : World := ⟨charges.foldl insertCharge ⟨[], []⟩, []⟩

end NhaTrangLaundry.Db.InvoiceRequests
