import NhaTrangLaundry.Domain.CanonicalForm
import NhaTrangLaundry.Lib.Table

/-! Constrained internal outbox claiming, retry, and dead-letter primitives. Each
call is one transaction over the queue and its ledgers. -/

namespace NhaTrangLaundry.Db.Outbox

open Lib Outcome Sorting Table Domain Catalog Canonical

inductive OutboxStatus where
  | pending
  | processing
  | held
  | sent
  | dead
  | cancelled
deriving DecidableEq

/-- A row of `outbox_events`; a timestamp of a column is a microsecond of the UTC
clock. -/
structure OutboxEvent where
  id : Uuid
  aggregateType : String
  aggregateId : Uuid
  eventType : String
  payload : Json
  idempotencyKey : String
  correlationId : Uuid
  occurredAt : Int
  availableAt : Int
  status : OutboxStatus
  attemptCount : Nat
  sentAt : Option Int
  heldReason : Option String
  claimToken : Option Uuid
  claimedAt : Option Int
  leaseExpiresAt : Option Int
  traceparent : Option String
  tracestate : Option String

structure DeadLetterEvent where
  id : Uuid
  outboxEventId : Uuid
  normalizedPayloadHash : String
  lastErrorClass : String
  attempts : Nat
  firstAttemptedAt : Int
  lastAttemptedAt : Int
  replayEligible : Bool

structure DomainEvent where
  id : Uuid
  aggregateType : String
  aggregateId : Uuid
  aggregateVersion : Nat
  eventType : String
  payload : Json
  occurredAt : Int
  correlationId : Uuid

structure AuditEvent where
  id : Uuid
  aggregateType : String
  aggregateId : Uuid
  action : String
  actorType : String
  correlationId : Uuid
  details : Json
  occurredAt : Int

structure Database where
  outboxEvents : List OutboxEvent
  deadLetterEvents : List DeadLetterEvent
  domainEvents : List DomainEvent
  auditEvents : List AuditEvent

structure ClaimedOutboxEvent where
  eventId : Uuid
  claimToken : Uuid
  aggregateType : String
  aggregateId : Uuid
  eventType : String
  payload : Json
  idempotencyKey : String
  correlationId : Uuid
  attemptCount : Nat
  leaseExpiresAt : Int
  traceparent : Option String
  tracestate : Option String

inductive OutboxError where
  | authorization
  | state (message : String)
  | overflow
  | canonicalization (e : PyException)
  | database
deriving DecidableEq

def internalEventTypes : List String :=
  ["approval.requested.v1", "agent.run_completed.v1", "agent.run_requested.v1",
   "agent.tool_called.v1", "approval.decided.v1", "approval.execution_claimed.v1",
   "approval.expired.v1", "configuration.draft_created.v1", "configuration.published.v1",
   "consent.changed.v1", "inbox.dispatch_requested.v1", "message.manual_send_attested.v1",
   "message.manual_send_prepared.v1", "marketing.delivery_held.v1", "order.requested.v1",
   "order.state_transitioned.v1", "quote.revision_created.v1",
   "security.inbox_replay_conflict.v1", "staff.identity_changed.v1"]

def second : Int := 1000000

def retryDelays : List (Nat × Int) :=
  [(1, 30 * second), (2, 120 * second), (3, 600 * second), (4, 3600 * second), (5, 21600 * second)]

def leaseSeconds : Int := 30 * second

def requireWorker (role : ActorRole) : Except OutboxError PUnit :=
  require (role = .outboxWorker) .authorization

def plus (t : Datetime) (δ : Int) : Except OutboxError Datetime :=
  match t.addMicros δ with
  | some u => .ok u
  | none => .error .overflow

/-- The boundary of a transaction: one that raises leaves the tables as they were. -/
def atomically {α : Type} (db : Database) (t : Except OutboxError (α × Database)) :
    Except OutboxError α × Database :=
  match t with
  | .ok (a, db') => (.ok a, db')
  | .error e => (.error e, db)

def update (db : Database) (row : OutboxEvent) : Database :=
  { db with outboxEvents := put OutboxEvent.id db.outboxEvents row }

/-- The first ready row in the order `available_at, occurred_at, id` that no other
transaction has locked. -/
def candidate (db : Database) (now : Datetime) (locked : List Uuid) : Option OutboxEvent :=
  (sortBy (fun row => [row.availableAt, row.occurredAt, (row.id.int : Int)])
    (db.outboxEvents.filter fun row => row.status = .pending && row.availableAt ≤ now.instant &&
      row.eventType ∈ internalEventTypes && row.id ∉ locked)).head?

def claimed (row : OutboxEvent) (token : Uuid) (claimedAt leaseExpiresAt : Datetime) : OutboxEvent :=
  { row with
    status := .processing
    attemptCount := row.attemptCount + 1
    heldReason := none
    claimToken := some token
    claimedAt := some claimedAt.instant
    leaseExpiresAt := some leaseExpiresAt.instant }

/-- `_claimed_event`, of the row that the claim has already committed. -/
def claimedEvent (row : OutboxEvent) (token : Uuid) (lease : Datetime) :
    Except OutboxError ClaimedOutboxEvent :=
  match row.payload with
  | .obj fields => .ok ⟨row.id, token, row.aggregateType, row.aggregateId, row.eventType,
      .obj fields, row.idempotencyKey, row.correlationId, row.attemptCount, lease.instant,
      row.traceparent, row.tracestate⟩
  | _ => .error (.state "outbox payload is not a string-keyed JSON object")

def claimNextInternal (db : Database) (role : ActorRole) (now : Datetime) (token : Uuid)
    (locked : List Uuid) : Except OutboxError (Option ClaimedOutboxEvent) × Database :=
  match (do requireWorker role; plus now leaseSeconds) with
  | .error e => (.error e, db)
  | .ok lease =>
    match candidate db now locked with
    | none => (.ok none, db)
    | some row =>
      let row := claimed row token now lease
      (some <$> claimedEvent row token lease, update db row)

/-- The row a claim token is good for: still leased by the database clock. -/
def leased (db : Database) (eventId token : Uuid) (clock : Int) : Option OutboxEvent :=
  db.outboxEvents.find? fun row => row.id = eventId && row.status = .processing &&
    row.claimToken = some token && (row.leaseExpiresAt.any fun lease => clock ≤ lease)

/-- A row that leaves `PROCESSING` gives up its claim. -/
def released (row : OutboxEvent) (status : OutboxStatus) : OutboxEvent :=
  { row with status := status, claimToken := none, claimedAt := none, leaseExpiresAt := none }

def completeInternal (db : Database) (eventId token : Uuid) (role : ActorRole)
    (completedAt : Datetime) (clock : Int) : Except OutboxError PUnit × Database :=
  atomically db (do
    requireWorker role
    match leased db eventId token clock with
    | none => .error (.state "outbox completion claim is stale")
    | some row =>
      .ok (⟨⟩, update db { released row .sent with sentAt := some completedAt.instant }))

/-- `INSERT INTO dead_letter_events`, under the constraints of the table. -/
def insertDeadLetter (db : Database) (letter : DeadLetterEvent) : Except OutboxError Database := do
  require (letter.outboxEventId ∉ db.deadLetterEvents.map DeadLetterEvent.outboxEventId ∧
    letter.lastErrorClass ≠ "" ∧ letter.lastErrorClass.toList.length ≤ 100 ∧
    Text.storable letter.lastErrorClass ∧ 0 < letter.attempts ∧
    letter.firstAttemptedAt ≤ letter.lastAttemptedAt) .database
  .ok { db with deadLetterEvents := db.deadLetterEvents ++ [letter] }

def insertDomainEvent (db : Database) (event : DomainEvent) : Except OutboxError Database := do
  require (0 < event.aggregateVersion ∧ ∀ other ∈ db.domainEvents,
    ¬ (other.aggregateType = event.aggregateType ∧ other.aggregateId = event.aggregateId ∧
      other.aggregateVersion = event.aggregateVersion ∧ other.eventType = event.eventType)) .database
  .ok { db with domainEvents := db.domainEvents ++ [event] }

variable [Unicodedata]

def payloadHash (row : OutboxEvent) : Except OutboxError String :=
  match row.payload with
  | .obj fields => do
    let document ← (canonicalDocument (.json (.obj fields)) true).mapError .canonicalization
    .ok document.snapshotHash
  | _ => .error (.state "outbox payload is not a JSON object")

/-- The row moves to `DEAD` and leaves its letter. -/
def deadLetter (db : Database) (row : OutboxEvent) (letterId : Uuid) (errorClass : String)
    (timestamp : Datetime) (replayEligible : Bool) : Except OutboxError Database := do
  let hash ← payloadHash row
  let db := update db { released row .dead with heldReason := some errorClass }
  insertDeadLetter db ⟨letterId, row.id, hash, errorClass, row.attemptCount, row.occurredAt,
    timestamp.instant, replayEligible⟩

inductive Disposition where
  | pending
  | dead
deriving DecidableEq

def retryOrDeadLetterInternal (db : Database) (eventId token : Uuid) (role : ActorRole)
    (errorClass : String) (retryable : Bool) (now : Datetime) (letterId : Uuid) (clock : Int) :
    Except OutboxError Disposition × Database :=
  atomically db (do
    requireWorker role
    require (Text.strip errorClass ≠ "" ∧ errorClass.toList.length ≤ 100)
      (.state "outbox error class is invalid")
    match leased db eventId token clock with
    | none => .error (.state "outbox retry claim is stale")
    | some row =>
      match retryable, retryDelays.lookup row.attemptCount with
      | true, some delay => do
        let availableAt ← plus now delay
        require (Text.storable errorClass) .database
        .ok (.pending, update db { released row .pending with
          availableAt := availableAt.instant, heldReason := some errorClass })
      | _, _ => do
        let db' ← deadLetter db row letterId errorClass now retryable
        .ok (.dead, db'))

/-- The first expired claim in the order `lease_expires_at, id`. -/
def expired (db : Database) (now : Datetime) (locked : List Uuid) : Option OutboxEvent :=
  (sortBy (fun row => [row.leaseExpiresAt.getD 0, (row.id.int : Int)])
    (db.outboxEvents.filter fun row => row.status = .processing &&
      (row.leaseExpiresAt.any fun lease => lease < now.instant) &&
      row.eventType ∈ internalEventTypes && row.id ∉ locked)).head?

def unknownOutcome : String := "UNKNOWN_INTERNAL_HANDLER_OUTCOME"

def failureDetails : Json := .obj [("failure_code", .str unknownOutcome)]

def recoverExpiredInternal (db : Database) (role : ActorRole) (now : Datetime)
    (locked : List Uuid) (letterId domainId auditId : Uuid) :
    Except OutboxError (Option Uuid) × Database :=
  atomically db (do
    requireWorker role
    match expired db now locked with
    | none => .ok (none, db)
    | some row => do
      let db ← deadLetter db row letterId unknownOutcome now false
      let db ← insertDomainEvent db ⟨domainId, "OUTBOX_EVENT", row.id, row.attemptCount,
        "OUTBOX_PROCESSING_LEASE_EXPIRED", failureDetails, now.instant, row.correlationId⟩
      let audit : AuditEvent := ⟨auditId, "OUTBOX_EVENT", row.id, "OUTBOX_EXPIRED_TO_DLQ",
        "OUTBOX_WORKER", row.correlationId, failureDetails, now.instant⟩
      .ok (some row.id, { db with auditEvents := db.auditEvents ++ [audit] }))

/-- One call of a worker. `now` is the time the worker passes or reads, `clock` the
time of the database, `locked` the rows other transactions hold. -/
inductive Step where
  | claim (role : ActorRole) (now : Datetime) (token : Uuid) (locked : List Uuid) (clock : Int)
  | complete (eventId token : Uuid) (role : ActorRole) (completedAt : Datetime) (clock : Int)
  | retry (eventId token : Uuid) (role : ActorRole) (errorClass : String) (retryable : Bool)
      (now : Datetime) (letterId : Uuid) (clock : Int)
  | recover (role : ActorRole) (now : Datetime) (locked : List Uuid)
      (letterId domainId auditId : Uuid) (clock : Int)

namespace Step

def clock : Step → Int
  | .claim _ _ _ _ clock => clock
  | .complete _ _ _ _ clock => clock
  | .retry _ _ _ _ _ _ _ clock => clock
  | .recover _ _ _ _ _ _ clock => clock

def token : Step → Option Uuid
  | .claim _ _ token _ _ => some token
  | _ => none

end Step

def apply (db : Database) : Step → Database
  | .claim role now token locked _ => (claimNextInternal db role now token locked).2
  | .complete eventId token role completedAt clock =>
    (completeInternal db eventId token role completedAt clock).2
  | .retry eventId token role errorClass retryable now letterId clock =>
    (retryOrDeadLetterInternal db eventId token role errorClass retryable now letterId clock).2
  | .recover role now locked letterId domainId auditId _ =>
    (recoverExpiredInternal db role now locked letterId domainId auditId).2

inductive Ending where
  | sent
  | retried
  | dead
deriving DecidableEq

/-- What a step does to an event: it claims it, or it ends the claim it is under. -/
inductive Effect where
  | claimed (eventId token : Uuid)
  | ended (ending : Ending) (eventId : Uuid) (token : Option Uuid)
deriving DecidableEq

def effect (db : Database) : Step → Option Effect
  | .claim role now token locked _ =>
    match (do requireWorker role; plus now leaseSeconds) with
    | .error _ => none
    | .ok _ => (candidate db now locked).map fun row => .claimed row.id token
  | .complete eventId token role completedAt clock =>
    match (completeInternal db eventId token role completedAt clock).1 with
    | .ok _ => some (.ended .sent eventId (some token))
    | .error _ => none
  | .retry eventId token role errorClass retryable now letterId clock =>
    match (retryOrDeadLetterInternal db eventId token role errorClass retryable now letterId clock).1
      with
    | .ok .pending => some (.ended .retried eventId (some token))
    | .ok .dead => some (.ended .dead eventId (some token))
    | .error _ => none
  | .recover role now locked letterId domainId auditId _ =>
    match (recoverExpiredInternal db role now locked letterId domainId auditId).1 with
    | .ok (some eventId) => some (.ended .dead eventId
        ((expired db now locked).bind OutboxEvent.claimToken))
    | _ => none

def run (db : Database) (steps : List Step) : Database := steps.foldl apply db

def history (db : Database) : List Step → List Effect
  | [] => []
  | s :: steps => (effect db s).toList ++ history (apply db s) steps

end NhaTrangLaundry.Db.Outbox
