import Mathlib.Data.Prod.Lex
import NhaTrangLaundry.Db.Approvals
import NhaTrangLaundry.Db.ExportStatements
import NhaTrangLaundry.Domain.ExportMoney
import NhaTrangLaundry.Domain.Orders
import NhaTrangLaundry.Domain.Unclaimed

/-! The owner's export of one store's own days: its request, and its release against an approval. -/

namespace NhaTrangLaundry.Db.Exports

open Lib Outcome Sorting Table Domain Catalog Canonical Settlement Unclaimed ExportMoney
open Text (ascii)
open Domain.Orders (IntakeStatus)
open Domain.Payments (PaymentMethod)
open ConsentEgress (StaffRole StaffPrincipal)

structure LeadingCells where
  id : Uuid
  createdAt : Int
  commercial : CommercialOrderStatus
  intake : IntakeStatus
  production : ProductionStatus
  productionAcceptedAt : Option Int
  productionReadyAt : Option Int
  productionReleasedAt : Option Int
  closedAt : Option Int
  expectedTotalVnd : Option Int
  paidAmountVnd : Option Int
  settlementAttestedAt : Option Int
  balance : OrderBalanceStatus
  refundedAmountVnd : Option Int
  refundedAt : Option Int

structure FetchedOrder extends LeadingCells where
  displayTotalMinVnd : Option Int
  displayTotalMaxVnd : Option Int
  cashVnd : Int
  transferVnd : Int
  paidVnd : Int
  fulfillmentMode : FulfillmentMode
  selfCollectionRecorded : Bool
  fixedFeeVnd : Option Int
  waived : Bool
  productionResumeStatus : Option ProductionStatus
  storageHolds : List StorageHold
  nettedRemedyVnd : Option Int
  refundMethod : Option PaymentMethod

structure ExportRow extends LeadingCells where
  money : ExportedMoney
  nettedRemedyVnd : Option Int
  refundMethod : Option PaymentMethod

inductive Refusal where
  | authorization (message : String)
  | state (message reasonCode : String)
  | window (message reasonCode : String)
  | raised (e : PyException)
  | typeError
  | databaseError
  /-- Another call holds the row of the request. -/
  | locked

namespace FetchedOrder

def quoted (order : FetchedOrder) : QuotedTotal :=
  ⟨order.displayTotalMinVnd, order.displayTotalMaxVnd⟩

def storageFeeAt (policy : Option StoragePolicy) (producedAt : Int) (order : FetchedOrder) :
    Except PyException OrderStorageFee :=
  orderStorageFee policy
    (storageClock order.commercial order.production order.productionResumeStatus
      order.fulfillmentMode order.selfCollectionRecorded)
    order.productionReadyAt producedAt
    (if order.displayTotalMinVnd = order.displayTotalMaxVnd then order.displayTotalMinVnd else none)
    order.waived order.expectedTotalVnd.isSome order.fixedFeeVnd order.paidVnd order.storageHolds

end FetchedOrder

def inconsistent : Refusal :=
  .state "an order's payments contradict what it owes" "EXPORT_MONEY_INCONSISTENT"

/-- `_money_rows`, of one order. -/
def moneyRow (policy : Option StoragePolicy) (producedAt : Int) (order : FetchedOrder) :
    Except Refusal ExportRow := do
  let storage ← (order.storageFeeAt policy producedAt).mapError .raised
  let money ← (exportedMoney order.commercial order.quoted order.cashVnd order.transferVnd
    order.paidVnd storage.amountVnd).mapError fun _ => inconsistent
  .ok ⟨order.toLeadingCells, money, order.nettedRemedyVnd, order.refundMethod⟩

def moneyRows (policy : Option StoragePolicy) (producedAt : Int) (orders : List FetchedOrder) :
    Except Refusal (List ExportRow) :=
  orders.mapM (moneyRow policy producedAt)

/-- The numbers of a row; the other cells are identifiers, tokens and instants. -/
def ExportRow.amounts (row : ExportRow) : List (Option Int) :=
  [row.expectedTotalVnd, row.paidAmountVnd, row.refundedAmountVnd, row.money.owedVnd,
    row.money.paidCashVnd, row.money.paidTransferVnd, row.money.paidVnd, row.money.remainingVnd,
    row.nettedRemedyVnd]

def formulaPrefixes : List Char := ['=', '+', '-', '@', '\t', '\r']

/-- `_cell`, over the file: no cell may read as a formula, as a negative number would. -/
def requireSafeCells (label : String) (rows : List ExportRow) : Except Refusal Unit :=
  require ((label.toList.head?.all fun c => c ∉ formulaPrefixes) = true ∧
      ∀ row ∈ rows, ∀ amount ∈ row.amounts, ∀ n ∈ amount, 0 ≤ n)
    (.state "a value in this export would be executed as a formula by a spreadsheet"
      "EXPORT_CELL_NOT_SAFE")

/-- A row of `export_requests`, with the facts it names; its `row_version` is 1 and stays 1. -/
structure ExportRequest extends ExportFacts where
  id : Uuid
  snapshotHash : String
  renderedHash : String
  requestedByStaffId : Uuid
  requestedAt : Int

/-- A row of `data_exports`. -/
structure DataExport where
  id : Uuid
  exportRequestId : Uuid
  storeId : Uuid
  approvalRequestId : Uuid
  queryVersion : String
  rowCount : Nat
  producedByStaffId : Uuid
  producedAt : Int

/-- A row of `orders`, with what the joins of the export find for it. -/
structure OrderRecord where
  storeId : Uuid
  fetched : FetchedOrder

structure Database where
  requests : List ExportRequest
  exports : List DataExport
  approvals : Approvals.Database
  orders : List OrderRecord
  storagePolicy : Option StoragePolicy

def ExportRequest.key (request : ExportRequest) : Uuid := request.id

/-- `(created_at AT TIME ZONE zone)::date`, as the ordinal of the day. -/
def localDate (createdAt : Int) : Int := (createdAt + shopOffset) / dayMicros

def OrderRecord.localDate (order : OrderRecord) : Int := Exports.localDate order.fetched.createdAt

def orderKey (order : OrderRecord) : Int ×ₗ Nat :=
  toLex (order.fetched.createdAt, order.fetched.id.int.val)

def exportSql (db : Database) (store : Uuid) (businessDate : Date) : List FetchedOrder :=
  (sortBy orderKey (db.orders.filter fun order =>
    order.storeId = store ∧ order.localDate = businessDate.ordinal)).map OrderRecord.fetched

def exportWindowSql (db : Database) (store : Uuid) (businessDate businessDateTo : Date) :
    List FetchedOrder :=
  (sortBy orderKey (db.orders.filter fun order =>
    order.storeId = store ∧ businessDate.ordinal ≤ order.localDate ∧
      order.localDate ≤ businessDateTo.ordinal)).map OrderRecord.fetched

def fetch (db : Database) (facts : ExportFacts) : List FetchedOrder :=
  match facts.businessDateTo with
  | none => exportSql db facts.storeId facts.businessDate
  | some last => exportWindowSql db facts.storeId facts.businessDate last

def exportRoles : List StaffRole := [.ownerAdmin, .opsApprover]

def requireExportRole (principal : StaffPrincipal) (message : String) : Except Refusal Unit :=
  require ((∃ role ∈ principal.roles, role ∈ exportRoles) ∧ principal.mfaVerified = true)
    (.authorization message)

def requireStoreMembership (db : Database) (principal : StaffPrincipal) (storeId : Uuid) :
    Except Refusal Unit :=
  require (db.approvals.sends.surroundings.storeMember principal.staffUserId storeId = true)
    (.authorization "store access is not authorized")

def exportMaxWindowDays : Int := 92

/-- `export_window`: one day is spelled without a last day. -/
def exportWindow (first : Date) (last : Option Date) : Except Refusal (Date × Option Date) :=
  match last with
  | none => .ok (first, none)
  | some last =>
    if last = first then .ok (first, none)
    else do
      require (first.ordinal ≤ last.ordinal)
        (.window "the window's last day is before its first day" "EXPORT_WINDOW_REVERSED")
      require (windowDays first (some last) ≤ exportMaxWindowDays)
        (.window "an export window is at most 92 days" "EXPORT_WINDOW_TOO_LONG")
      .ok (first, some last)

structure ExportRequestCommand where
  storeId : Uuid
  dataset : ExportDataset
  businessDate : Date
  principal : StaffPrincipal
  requestedAt : Option Datetime
  businessDateTo : Option Date

variable [Unicodedata]

def document (value : Value) : Except Refusal CanonicalDocument :=
  (canonicalDocument value true).mapError .raised

/-- `SanitizedExportRepository.request`. -/
def request (shape : ExportShape) (db : Database) (command : ExportRequestCommand) (now : Datetime)
    (id : Uuid) : Except Refusal Database := do
  requireExportRole command.principal
    "requesting an export requires an owner or approver role with MFA"
  let (first, last) ← exportWindow command.businessDate command.businessDateTo
  let requestedAt := command.requestedAt.getD now
  let facts : ExportFacts := ⟨command.dataset, command.storeId, first, last⟩
  let snapshot ← document facts.value
  let rendered ← document (statement shape facts)
  requireStoreMembership db command.principal command.storeId
  require (id ∉ db.requests.map ExportRequest.key) .databaseError
  .ok { db with requests := db.requests ++ [⟨facts, id, snapshot.snapshotHash,
    rendered.snapshotHash, command.principal.staffUserId, requestedAt.instant⟩] }

def readExportRequestBinding (shape : ExportShape) (db : Database) (id : Uuid) :
    Option Approvals.ExportRequestBinding := do
  let request ← lookup ExportRequest.key db.requests id
  let rendered ← (document (statement shape request.toExportFacts)).toOption
  let snapshot ← (document request.toExportFacts.value).toOption
  some ⟨request.storeId, 1, snapshot.snapshotHash, rendered.snapshotHash⟩

def approvalTables (shape : ExportShape) (db : Database) : Approvals.Database :=
  { db.approvals with resources := { db.approvals.resources with
    exportRequests := readExportRequestBinding shape db
    exportDefiners := fun id =>
      (lookup ExportRequest.key db.requests id).map ExportRequest.requestedByStaffId } }

structure ExportExecutionCommand where
  exportRequestId : Uuid
  approvalRequestId : Uuid
  principal : StaffPrincipal
  expectedStoreId : Option Uuid
  executedAt : Option Datetime

/-- A call of `execute` that has made its checks and holds the row of its request. -/
structure Call where
  command : ExportExecutionCommand
  shape : ExportShape
  request : ExportRequest
  executedAt : Datetime

/-- `hmac.compare_digest`. -/
def compareDigest (stored observed : String) : Except Refusal Bool := do
  require (ascii stored ∧ ascii observed) .typeError
  .ok (stored = observed)

def notBound (message : String) : Refusal := .state message "EXPORT_APPROVAL_NOT_BOUND"

def requireSameContent (binding : Approvals.Approval) (snapshot rendered retired : String) :
    Except Refusal Unit := do
  let snapshotSame ← compareDigest binding.snapshotHash snapshot
  require (snapshotSame = true)
    (notBound "the approval binds different content than this export request")
  let renderedSame ← compareDigest binding.renderedHash rendered
  if renderedSame then .ok ()
  else do
    let retiredSame ← compareDigest binding.renderedHash retired
    require (retiredSame = false)
      (.state "the approval binds an export shape this system no longer produces"
        "EXPORT_QUERY_VERSION_RETIRED")
    .error (notBound "the approval binds different content than this export request")

def requireExportApproval (binding : Option Approvals.Approval) (request : ExportRequest)
    (snapshot rendered retired : String) (at_ : Datetime) : Except Refusal Unit := do
  let binding ← ofOption
    (.state "this export has no approval envelope" "EXPORT_APPROVAL_REQUIRED") binding
  require (binding.storeId = request.storeId ∧ binding.action = .exportSanitizedData ∧
      binding.resourceType = "EXPORT_REQUEST")
    (notBound "the approval does not authorise an export in this store")
  require (binding.resourceId = request.id ∧ binding.resourceVersion = 1)
    (notBound "the approval names a different export request")
  requireSameContent binding snapshot rendered retired
  require (binding.status = .approved)
    (.state "the owner has not approved this export" "EXPORT_APPROVAL_REQUIRED")
  require at_.aware .typeError
  require (at_.instant < binding.expiresAt)
    (.state "the owner's approval of this export has expired" "EXPORT_APPROVAL_EXPIRED")

def requireSeparateApprover (db : Database) (approvalRequestId definedBy : Uuid) :
    Except Refusal Unit := do
  let decision ← ofOption
    (.state "the approval for this export has no recorded decision" "EXPORT_APPROVAL_REQUIRED")
    (sortBy Approvals.ApprovalDecision.decidedAt (db.approvals.decisions.filter fun d =>
      d.approvalRequestId = approvalRequestId ∧ d.decision = .approved)).getLast?
  require (decision.decidedBy ≠ definedBy)
    (.state "the export was approved by the same staff member who defined it"
      "EXPORT_APPROVAL_SELF_DECIDED")

/-- `execute`, from the lock on the request's row to its last check. The envelope is read without
a lock. -/
def startExecute (shape : ExportShape) (db : Database) (command : ExportExecutionCommand)
    (now : Datetime) : Except Refusal Call := do
  requireExportRole command.principal
    "carrying out an export requires an owner or approver role with MFA"
  let executedAt := command.executedAt.getD now
  let request ← ofOption (.state "export request is missing" "EXPORT_REQUEST_NOT_FOUND")
    (lookup ExportRequest.key db.requests command.exportRequestId)
  requireStoreMembership db command.principal request.storeId
  require (∀ store ∈ command.expectedStoreId, store = request.storeId)
    (.state "the export request belongs to a different store" "EXPORT_REQUEST_STORE_MISMATCH")
  let snapshot ← document request.toExportFacts.value
  let rendered ← document (statement shape request.toExportFacts)
  let retired ← document (retiredStatement request.toExportFacts)
  requireExportApproval (lookup Approvals.Approval.key db.approvals.approvals
    command.approvalRequestId) request snapshot.snapshotHash rendered.snapshotHash
    retired.snapshotHash executedAt
  requireSeparateApprover db command.approvalRequestId request.requestedByStaffId
  .ok ⟨command, shape, request, executedAt⟩

/-- `execute`, from there to its commit: the rows of the file, and its row in `data_exports`. -/
def finishExecute (db : Database) (call : Call) (exportId : Uuid) :
    Except Refusal ((DataExport × List ExportRow) × Database) := do
  let rows ← moneyRows db.storagePolicy call.executedAt.instant
    (fetch db call.request.toExportFacts)
  let label := call.shape.queryVersion call.request.toExportFacts
  requireSafeCells label rows
  require (exportId ∉ db.exports.map DataExport.id ∧
      call.request.id ∉ db.exports.map DataExport.exportRequestId)
    (.state "this export has already been produced" "EXPORT_ALREADY_PRODUCED")
  let written : DataExport := ⟨exportId, call.request.id, call.request.storeId,
    call.command.approvalRequestId, label, rows.length, call.command.principal.staffUserId,
    call.executedAt.instant⟩
  .ok ((written, rows), { db with exports := db.exports ++ [written] })

/-- The tables, and the calls of `execute` in flight. -/
structure World where
  db : Database
  calls : List Call

/-- A command of one process; `shape` is what the code it runs writes into a statement. -/
inductive Command where
  | request (shape : ExportShape) (command : ExportRequestCommand) (now : Datetime) (id : Uuid)
  | approval (shape : ExportShape) (command : Approvals.Command)
  | startExecute (shape : ExportShape) (command : ExportExecutionCommand) (now : Datetime)
  | finishExecute (call : Nat) (exportId : Uuid)
  /-- A call in flight is rolled back. -/
  | abandonExecute (call : Nat)
  /-- Any other module commits; no order is kept twice. -/
  | elsewhere (orders : List OrderRecord) (storagePolicy : Option StoragePolicy)

/-- The call that a command starts; it waits while another holds the row of its request. -/
def started (w : World) : Command → Except Refusal Call
  | .startExecute shape command now => do
    let call ← startExecute shape w.db command now
    require (∀ other ∈ w.calls, other.request.id ≠ call.request.id) .locked
    .ok call
  | _ => .error .locked

def released (w : World) : Command → Except Refusal (Call × (DataExport × List ExportRow) × Database)
  | .finishExecute i exportId => do
    let call ← ofOption .locked w.calls[i]?
    let file ← finishExecute w.db call exportId
    .ok (call, file)
  | _ => .error .locked

def attempt (db : Database) : Command → Except Refusal Database
  | .request shape command now id => request shape db command now id
  | .approval shape command =>
    .ok { db with approvals := Approvals.apply (approvalTables shape db) command }
  | .elsewhere orders storagePolicy => do
    require ((orders.map fun order => order.fetched.id).Nodup) .databaseError
    .ok { db with orders, storagePolicy }
  | _ => .ok db

def callsAfter (w : World) : Command → List Call
  | .finishExecute i _ => w.calls.eraseIdx i
  | .abandonExecute i => w.calls.eraseIdx i
  | c => w.calls ++ (started w c).toOption.toList

def apply (w : World) (c : Command) : World where
  db := match released w c with
    | .ok (_, _, db) => db
    | .error _ => match attempt w.db c with
      | .ok db => db
      | .error _ => w.db
  calls := callsAfter w c

def emptyDatabase : Database := ⟨[], [], Approvals.emptyDatabase, [], none⟩

def run (commands : List Command) : World := commands.foldl apply ⟨emptyDatabase, []⟩

end NhaTrangLaundry.Db.Exports
