import NhaTrangLaundry.Contracts.ToolRegistry
import NhaTrangLaundry.Db.ConsentLedger
import NhaTrangLaundry.Lib.Jsonb
import NhaTrangLaundry.Lib.Table

/-! Durable Agent Runner queue and safe tool-call ledger. Each call is one transaction. -/

namespace NhaTrangLaundry.Db.AgentRuns

open Lib Outcome Sorting Table Domain Catalog
open ConsentEgress (digestOf)
open Contracts (AgentToolOperation)

inductive AgentRunStatus where
  | pending
  | processing
  | draftRequiresHuman
  | failed
deriving DecidableEq

abbrev SafeSummary := List (String × Json)

/-- A row of `agent_runs`. What the run is bound to is written once and only copied. -/
structure AgentRun (β : Type) where
  id : Uuid
  binding : β
  status : AgentRunStatus
  attemptCount : Nat
  claimToken : Option Uuid
  claimedAt : Option Int
  leaseExpiresAt : Option Int
  resultSafeSummary : Option SafeSummary
  failureCode : Option String
  createdAt : Int
  completedAt : Option Int

structure ClaimedAgentRun (β : Type) where
  agentRunId : Uuid
  claimToken : Uuid
  binding : β
  attemptCount : Nat
  leaseExpiresAt : Int

structure AgentToolCallLedgerEntry where
  agentRunId : Uuid
  claimToken : Uuid
  sequenceNumber : Int
  operation : AgentToolOperation
  requestFingerprint : String
  resultStatusCode : Int
  resultCode : String
  traceId : Option String
  safeSummary : SafeSummary
  startedAt : Int
  completedAt : Int
  correlationId : Uuid

/-- A row of `agent_tool_calls`. -/
structure AgentToolCall where
  id : Uuid
  agentRunId : Uuid
  sequenceNumber : Int
  operation : AgentToolOperation
  requestFingerprint : String
  resultStatusCode : Int
  resultCode : String
  traceId : Option String
  safeSummary : SafeSummary
  startedAt : Int
  completedAt : Int

/-- What a material change of a run is about: it decides its version, its types and its key. -/
inductive Milestone where
  | requested
  | toolCalled (sequenceNumber : Int)
  | draftRecorded
  | failed
  | leaseExpired
deriving DecidableEq

namespace Milestone

def aggregateVersion : Milestone → Int
  | .requested => 1
  | .toolCalled n => n + 1
  | .draftRecorded => 8
  | .failed => 8
  | .leaseExpired => 8

def eventType : Milestone → String
  | .requested => "AGENT_RUN_ENQUEUED"
  | .toolCalled _ => "AGENT_TOOL_CALL_RECORDED"
  | .draftRecorded => "AGENT_RUN_DRAFT_RECORDED"
  | .failed => "AGENT_RUN_FAILED"
  | .leaseExpired => "AGENT_RUN_FAILED"

def outboxType : Milestone → String
  | .requested => "agent.run_requested.v1"
  | .toolCalled _ => "agent.tool_called.v1"
  | .draftRecorded => "agent.run_completed.v1"
  | .failed => "agent.run_completed.v1"
  | .leaseExpired => "agent.run_completed.v1"

def keySuffix : Milestone → String
  | .requested => ":requested"
  | .toolCalled n => ":tool:" ++ toString n
  | .draftRecorded => ":completed"
  | .failed => ":failed"
  | .leaseExpired => ":lease-expired"

def idempotencyKey (agentRunId : Uuid) (m : Milestone) : String :=
  "agent-run:" ++ (agentRunId.str ++ m.keySuffix)

end Milestone

/-- A row of `domain_events` of an `AGENT_RUN`. -/
structure DomainEvent where
  aggregateId : Uuid
  aggregateVersion : Int
  eventType : String
  correlationId : Uuid
  occurredAt : Int

/-- A row of `outbox_events` of an `AGENT_RUN`. -/
structure OutboxEvent where
  aggregateId : Uuid
  eventType : String
  idempotencyKey : String
  correlationId : Uuid
  occurredAt : Int

structure Database (β : Type) where
  agentRuns : List (AgentRun β)
  toolCalls : List AgentToolCall
  domainEvents : List DomainEvent
  outboxEvents : List OutboxEvent

inductive Refusal where
  | authorization
  | state (message : String)
  | overflow
  | runTaken
  | toolSequenceTaken
  | eventVersionTaken
  | outboxKeyTaken
  | invalidTransition
  | checkViolation
deriving DecidableEq

variable {β : Type}

/-- `commit_material_change`, after its mutation. -/
def commitMaterialChange (db : Database β) (agentRunId : Uuid) (m : Milestone)
    (correlationId : Uuid) (occurredAt : Int) : Except Refusal (Database β) := do
  require (0 < m.aggregateVersion) (.state "aggregate_version must be at least 1")
  require (∀ e ∈ db.domainEvents, ¬ (e.aggregateId = agentRunId ∧
    e.aggregateVersion = m.aggregateVersion ∧ e.eventType = m.eventType)) .eventVersionTaken
  require (∀ e ∈ db.outboxEvents, e.idempotencyKey ≠ m.idempotencyKey agentRunId) .outboxKeyTaken
  .ok { db with
    domainEvents := db.domainEvents ++
      [⟨agentRunId, m.aggregateVersion, m.eventType, correlationId, occurredAt⟩]
    outboxEvents := db.outboxEvents ++
      [⟨agentRunId, m.outboxType, m.idempotencyKey agentRunId, correlationId, occurredAt⟩] }

/-- `enforce_agent_run_transition`. -/
def transitionAllowed (old new : AgentRun β) : Bool :=
  (old.status = .pending && new.status = .processing && new.attemptCount = old.attemptCount + 1) ||
    (old.status = .processing && (new.status = .draftRequiresHuman || new.status = .failed) &&
      new.attemptCount = old.attemptCount)

/-- The checks of `agent_runs`. -/
def rowChecks (row : AgentRun β) : Bool :=
  ((row.status = .processing) == (row.claimToken.isSome && row.claimedAt.isSome &&
      row.leaseExpiresAt.isSome && row.completedAt.isNone && row.failureCode.isNone)) &&
    (row.status ≠ .draftRequiresHuman || (row.resultSafeSummary.isSome && row.completedAt.isSome &&
      row.failureCode.isNone)) &&
    (row.status ≠ .failed || (row.failureCode.isSome && row.completedAt.isSome)) &&
    (row.failureCode.all fun code => 1 ≤ code.length && code.length ≤ 100 && Text.storable code) &&
    (row.resultSafeSummary.all fun summary => Json.nulFree (.obj summary)) &&
    (row.status ≠ .processing ||
      (row.claimedAt.any fun claimed => row.leaseExpiresAt.any fun lease => claimed < lease))

def updateRun (db : Database β) (old new : AgentRun β) : Except Refusal (Database β) := do
  require (transitionAllowed old new) .invalidTransition
  require (rowChecks new) .checkViolation
  .ok { db with agentRuns := put AgentRun.id db.agentRuns new }

/-- `enqueue`, once its command is validated. -/
def enqueue (db : Database β) (agentRunId : Uuid) (binding : β) (createdAt : Int)
    (correlationId : Uuid) : Except Refusal (Database β) := do
  require (lookup AgentRun.id db.agentRuns agentRunId = none) .runTaken
  let row : AgentRun β :=
    { id := agentRunId
      binding
      status := .pending
      attemptCount := 0
      claimToken := none
      claimedAt := none
      leaseExpiresAt := none
      resultSafeSummary := none
      failureCode := none
      createdAt
      completedAt := none }
  commitMaterialChange { db with agentRuns := db.agentRuns ++ [row] } agentRunId .requested
    correlationId createdAt

def requireRunner (role : ActorRole) : Except Refusal Unit :=
  require (role = .agentRunner) .authorization

/-- The oldest pending run that no other transaction has locked. -/
def candidate (db : Database β) (locked : List Uuid) : Option (AgentRun β) :=
  (sortBy (fun run => [run.createdAt, (run.id.int : Int)])
    (db.agentRuns.filter fun run => run.status = .pending && run.id ∉ locked)).head?

def leaseMicros : Int := 20000000

def claimed (run : AgentRun β) (token : Uuid) (claimedAt lease : Datetime) : AgentRun β :=
  { run with
    status := .processing
    attemptCount := run.attemptCount + 1
    claimToken := some token
    claimedAt := some claimedAt.instant
    leaseExpiresAt := some lease.instant }

def claimNext (db : Database β) (role : ActorRole) (now : Datetime) (token : Uuid)
    (locked : List Uuid) : Except Refusal (Option (ClaimedAgentRun β) × Database β) := do
  requireRunner role
  let lease ← ofOption .overflow (now.addMicros leaseMicros)
  match candidate db locked with
  | none => .ok (none, db)
  | some run =>
    let db ← updateRun db run (claimed run token now lease)
    .ok (some ⟨run.id, token, run.binding, run.attemptCount + 1, lease.instant⟩, db)

/-- `_assert_claim`: the run a token is good for, by the clock of the database. -/
def assertClaim (db : Database β) (agentRunId token : Uuid) (clock : Int) :
    Except Refusal (AgentRun β) :=
  ofOption (.state "agent run claim is stale or unavailable")
    (db.agentRuns.find? fun run => run.id = agentRunId && run.status = .processing &&
      run.claimToken = some token && run.leaseExpiresAt.any fun lease => clock ≤ lease)

def prohibited : List String :=
  ["chain_of_thought", "cot", "raw_prompt", "raw_provider_response", "secret"]

def requireSafeSummary (summary : SafeSummary) : Except Refusal Unit := do
  require (summary ≠ [] ∧ summary.length ≤ 20)
    (.state "safe summary must be a non-empty bounded object")
  require (∀ field ∈ summary, field.1 ∉ prohibited)
    (.state "safe summary contains prohibited internal content")

/-- The checks of `agent_tool_calls` that `record_tool_call` does not make itself. -/
def toolCallChecks (entry : AgentToolCallLedgerEntry) : Bool :=
  digestOf "sha256:" entry.requestFingerprint && 1 ≤ entry.resultCode.length &&
    entry.resultCode.length ≤ 100 && Text.storable entry.resultCode &&
    (entry.traceId.all fun trace => 8 ≤ trace.length && trace.length ≤ 80 && Text.storable trace) &&
    Json.nulFree (.obj entry.safeSummary)

def recordToolCall (db : Database β) (entry : AgentToolCallLedgerEntry) (callId : Uuid)
    (clock : Int) : Except Refusal (Database β) := do
  requireSafeSummary entry.safeSummary
  require (1 ≤ entry.sequenceNumber ∧ entry.sequenceNumber ≤ 6)
    (.state "tool call sequence must be between 1 and 6")
  require (100 ≤ entry.resultStatusCode ∧ entry.resultStatusCode ≤ 599)
    (.state "tool result status is invalid")
  require (entry.startedAt ≤ entry.completedAt) (.state "tool completion precedes its start")
  let _run ← assertClaim db entry.agentRunId entry.claimToken clock
  require (toolCallChecks entry) .checkViolation
  require (∀ call ∈ db.toolCalls, ¬ (call.agentRunId = entry.agentRunId ∧
    call.sequenceNumber = entry.sequenceNumber)) .toolSequenceTaken
  let call : AgentToolCall := ⟨callId, entry.agentRunId, entry.sequenceNumber, entry.operation,
    entry.requestFingerprint, entry.resultStatusCode, entry.resultCode, entry.traceId,
    entry.safeSummary, entry.startedAt, entry.completedAt⟩
  commitMaterialChange { db with toolCalls := db.toolCalls ++ [call] } entry.agentRunId
    (.toolCalled entry.sequenceNumber) entry.correlationId entry.completedAt

/-- A run that leaves `PROCESSING` gives up its claim. -/
def ended (run : AgentRun β) (status : AgentRunStatus) (completedAt : Int) : AgentRun β :=
  { run with
    status
    claimToken := none
    claimedAt := none
    leaseExpiresAt := none
    completedAt := some completedAt }

def completeDraft (db : Database β) (agentRunId token : Uuid) (safeSummary : SafeSummary)
    (correlationId : Uuid) (completedAt clock : Int) : Except Refusal (Database β) := do
  requireSafeSummary safeSummary
  let run ← assertClaim db agentRunId token clock
  let db ← updateRun db run
    { ended run .draftRequiresHuman completedAt with resultSafeSummary := some safeSummary }
  commitMaterialChange db agentRunId .draftRecorded correlationId completedAt

/-- `failure_code` is one to a hundred letters, digits and underscores, not underscores only. -/
def failureCodeValid (alnum : Char → Bool) (code : String) : Bool :=
  1 ≤ code.length && code.length ≤ 100 &&
    (let kept := code.toList.filter (· ≠ '_'); !kept.isEmpty && kept.all alnum)

def fail (alnum : Char → Bool) (db : Database β) (agentRunId token : Uuid) (failureCode : String)
    (correlationId : Uuid) (completedAt clock : Int) : Except Refusal (Database β) := do
  require (failureCodeValid alnum failureCode) (.state "agent run failure code is invalid")
  let run ← assertClaim db agentRunId token clock
  let db ← updateRun db run { ended run .failed completedAt with failureCode := some failureCode }
  commitMaterialChange db agentRunId .failed correlationId completedAt

def sourceCorrelation (db : Database β) (agentRunId : Uuid) : Option Uuid :=
  (db.domainEvents.find? fun e => e.aggregateId = agentRunId &&
    e.eventType = Milestone.eventType .requested).map DomainEvent.correlationId

/-- The first run whose lease is over by the caller's clock, with its correlation. -/
def expired (db : Database β) (now : Int) (locked : List Uuid) : Option (AgentRun β × Uuid) :=
  ((sortBy (fun run => [run.leaseExpiresAt.getD 0, (run.id.int : Int)])
    (db.agentRuns.filter fun run => run.status = .processing &&
      (run.leaseExpiresAt.any fun lease => lease < now) && run.id ∉ locked)).filterMap fun run =>
    (sourceCorrelation db run.id).map fun correlationId => (run, correlationId)).head?

def recoverExpired (db : Database β) (role : ActorRole) (now : Int) (locked : List Uuid) :
    Except Refusal (Option Uuid × Database β) := do
  requireRunner role
  match expired db now locked with
  | none => .ok (none, db)
  | some (run, correlationId) =>
    let db ← updateRun db run { ended run .failed now with failureCode := some "LEASE_EXPIRED" }
    let db ← commitMaterialChange db run.id .leaseExpired correlationId now
    .ok (some run.id, db)

/-- One transaction of an enqueuer or a runner: `now` and `completedAt` are a runner's own times,
`clock` is the time of the database, `locked` the runs other transactions hold. -/
inductive Step (β : Type) where
  | enqueue (agentRunId : Uuid) (binding : β) (createdAt : Int) (correlationId : Uuid)
  | claimNext (role : ActorRole) (now : Datetime) (token : Uuid) (locked : List Uuid)
  | recordToolCall (entry : AgentToolCallLedgerEntry) (callId : Uuid) (clock : Int)
  | completeDraft (agentRunId token : Uuid) (safeSummary : SafeSummary) (correlationId : Uuid)
      (completedAt clock : Int)
  | fail (agentRunId token : Uuid) (failureCode : String) (correlationId : Uuid)
      (completedAt clock : Int)
  | recoverExpired (role : ActorRole) (now : Int) (locked : List Uuid)

/-- What a committed transaction did to a run. -/
inductive Deed where
  | enqueued
  | claimed (token : Uuid) (leaseExpiresAt : Int)
  | toolCalled (token : Uuid) (sequenceNumber : Int) (clock : Int)
  | drafted (token : Uuid) (clock : Int)
  | failed (token : Uuid) (clock : Int)
  | leaseExpired (now : Int)
deriving DecidableEq

structure Commit where
  agentRunId : Uuid
  deed : Deed

def attempt (alnum : Char → Bool) (db : Database β) :
    Step β → Except Refusal (Option Commit × Database β)
  | .enqueue agentRunId binding createdAt correlationId => do
    let db ← enqueue db agentRunId binding createdAt correlationId
    .ok (some ⟨agentRunId, .enqueued⟩, db)
  | .claimNext role now token locked => do
    let (run, db) ← claimNext db role now token locked
    .ok (run.map fun run => ⟨run.agentRunId, .claimed run.claimToken run.leaseExpiresAt⟩, db)
  | .recordToolCall entry callId clock => do
    let db ← recordToolCall db entry callId clock
    .ok (some ⟨entry.agentRunId, .toolCalled entry.claimToken entry.sequenceNumber clock⟩, db)
  | .completeDraft agentRunId token safeSummary correlationId completedAt clock => do
    let db ← completeDraft db agentRunId token safeSummary correlationId completedAt clock
    .ok (some ⟨agentRunId, .drafted token clock⟩, db)
  | .fail agentRunId token failureCode correlationId completedAt clock => do
    let db ← fail alnum db agentRunId token failureCode correlationId completedAt clock
    .ok (some ⟨agentRunId, .failed token clock⟩, db)
  | .recoverExpired role now locked => do
    let (run, db) ← recoverExpired db role now locked
    .ok (run.map fun agentRunId => ⟨agentRunId, .leaseExpired now⟩, db)

/-- The tables with the record of what was committed to them. -/
structure Run (β : Type) where
  db : Database β
  log : List Commit

def Run.apply (alnum : Char → Bool) (run : Run β) (step : Step β) : Run β :=
  match attempt alnum run.db step with
  | .error _ => run
  | .ok (commit, db) => ⟨db, run.log ++ commit.toList⟩

def emptyRun : Run β := ⟨⟨[], [], [], []⟩, []⟩

def run (alnum : Char → Bool) (steps : List (Step β)) : Run β :=
  steps.foldl (Run.apply alnum) emptyRun

end NhaTrangLaundry.Db.AgentRuns
