import Mathlib.Data.List.MinMax
import NhaTrangLaundry.Db.ConsentEgress
import NhaTrangLaundry.Lib.Datetime
import NhaTrangLaundry.Lib.Json
import NhaTrangLaundry.Lib.Outcome
import NhaTrangLaundry.Lib.Table

/-! The retention schedule of each class of payload, the legal holds on it and the runs that dispose
of what is past it. -/

namespace NhaTrangLaundry.Db.Retention

open Lib Outcome Table
open ConsentEgress (StaffRole)

inductive RetentionClass where
  | rawWebhookPayload
  | conversationBody
  | agentRunPayload
  | exactDeliveryLocation
  | consentEvidence
  | orderFinancialRecord
  | incidentEvidence
  | debugLog
  | securityAuditEvent
  | assistantTranscript
deriving DecidableEq

inductive RetentionDisposition where
  | purge
  | redact
deriving DecidableEq

def RetentionDisposition.value : RetentionDisposition → String
  | .purge => "PURGE"
  | .redact => "REDACT"

inductive PurgeOutcome where
  | completed
  | completedWithExemptions
  | skippedDisabled
  | refusedNoApprovedSchedule
  | refusedLegalHold
  | refusedUnsupportedStore
  | refusedDispositionNotExecutable
deriving DecidableEq

inductive UnsupportedStoreReason where
  | retainedIndefinitelyByDecision
  | noBackingStoreExists
  | payloadNotYetSeparated
deriving DecidableEq

def UnsupportedStoreReason.value : UnsupportedStoreReason → String
  | .retainedIndefinitelyByDecision => "RETAINED_INDEFINITELY_BY_DECISION"
  | .noBackingStoreExists => "NO_BACKING_STORE_EXISTS"
  | .payloadNotYetSeparated => "PAYLOAD_NOT_YET_SEPARATED"

/-- A row of `retention_class_configurations`. -/
structure RetentionConfiguration where
  className : RetentionClass
  version : Nat
  enabled : Bool
  disposition : RetentionDisposition
  retentionDays : Option Int
  decisionRef : Option String
deriving DecidableEq

/-- A row of `retention_legal_holds`. -/
structure LegalHold where
  holdId : Uuid
  className : RetentionClass
  reason : String
  released : Bool
deriving DecidableEq

structure WebhookEvent where
  id : Uuid
  receivedAt : Int
deriving DecidableEq

inductive IncidentStatus where
  | opened
  | underReview
  | closed
deriving DecidableEq

structure CustomerIncident where
  id : Uuid
  status : IncidentStatus
  openedAt : Int
deriving DecidableEq

structure AssistantTurn where
  turnId : Uuid
  createdAt : Int
deriving DecidableEq

/-- The side tables that hold payloads, each row under the key of its ledger row. -/
inductive PayloadTable where
  | webhookEventPayloads
  | customerIncidentEvidence
  | assistantTurnPayloads
deriving DecidableEq

def PayloadTable.ledger : PayloadTable → String
  | .webhookEventPayloads => "webhook_events"
  | .customerIncidentEvidence => "customer_incidents"
  | .assistantTurnPayloads => "assistant_turns"

/-- A row of `retention_disposal_records`. -/
structure DisposalRecord where
  runId : Uuid
  className : RetentionClass
  subjectTable : String
  subjectKey : Uuid
  subjectOccurredAt : Int
  disposedAt : Int
deriving DecidableEq

def DisposalRecord.subject (d : DisposalRecord) : String × Uuid := (d.subjectTable, d.subjectKey)

/-- A row of `retention_purge_runs`. -/
structure PurgeRun where
  runId : Uuid
  className : RetentionClass
  configurationVersion : Option Nat
  outcome : PurgeOutcome
  cutoffAt : Option Int
  affectedRowCount : Nat
  exemptRowCount : Nat
  detail : Option String
deriving DecidableEq

structure Database where
  configurations : List RetentionConfiguration
  holds : List LegalHold
  webhookEvents : List WebhookEvent
  incidents : List CustomerIncident
  turns : List AssistantTurn
  payloads : PayloadTable → List Uuid
  /-- `consent_events.evidence_webhook_id` -/
  consentEvidence : List Uuid
  /-- `inbox_replay_conflicts.webhook_event_id` -/
  replayConflicts : List Uuid
  /-- `agent_runs.source_webhook_event_id` -/
  runSources : List (Option Uuid)
  /-- `command_idempotency_records.response` -/
  responses : List (Option Json)
  disposals : List DisposalRecord
  runs : List PurgeRun

inductive Refusal where
  | authorization
  | state
  | checkViolation
  | keyTaken
  | foreignKey
  | overflow
  | keyError
  | notFound
  | noJob
deriving DecidableEq

def Database.occurredAt (db : Database) : PayloadTable → Uuid → Option Int
  | .webhookEventPayloads, k => (lookup WebhookEvent.id db.webhookEvents k).map WebhookEvent.receivedAt
  | .customerIncidentEvidence, k => (lookup CustomerIncident.id db.incidents k).map CustomerIncident.openedAt
  | .assistantTurnPayloads, k => (lookup AssistantTurn.turnId db.turns k).map AssistantTurn.createdAt

/-- `response ? 'answer' AND response->>'turn_id' = turn_id::text`; only a JSON object has a
member `turn_id`, and no other JSON value is written like the text of an identifier. -/
def holdsAnswer (turnId : Uuid) (response : Json) : Bool :=
  (response.get? "answer").isSome &&
    match response.get? "turn_id" with
    | some (.str s) => s = turnId.str
    | _ => false

/-- What each purge statement keeps whatever its age. -/
def Database.pinned (db : Database) : PayloadTable → Uuid → Bool
  | .webhookEventPayloads, k =>
    k ∈ db.consentEvidence || k ∈ db.replayConflicts || some k ∈ db.runSources
  | .customerIncidentEvidence, k =>
    !(lookup CustomerIncident.id db.incidents k).any (·.status = .closed)
  | .assistantTurnPayloads, k => db.responses.any (·.any (holdsAnswer k))

def isDecisionRef (ref : String) : Bool :=
  let cs := ref.toList
  cs.take 4 = "DEC-".toList && cs.length = 7 && (cs.drop 4).all Char.isDigit

def versions (db : Database) (className : RetentionClass) : List Nat :=
  (db.configurations.filter (·.className = className)).map (·.version)

def latestVersion (db : Database) (className : RetentionClass) : Nat :=
  (versions db className).foldr max 0

/-- `publish_configuration` up to its read of the latest version: the row it will insert. -/
def preparePublication (db : Database) (roles : List StaffRole) (className : RetentionClass)
    (enabled : Bool) (disposition : RetentionDisposition) (retentionDays : Option Int)
    (decisionRef : Option String) : Except Refusal RetentionConfiguration := do
  require (.ownerAdmin ∈ roles) .authorization
  require (enabled = true → retentionDays ≠ none ∧ decisionRef ≠ none) .state
  .ok ⟨className, latestVersion db className + 1, enabled, disposition, retentionDays, decisionRef⟩

/-- The insert of `publish_configuration`, with the checks of the table. -/
def insertConfiguration (db : Database) (row : RetentionConfiguration) : Except Refusal Database := do
  require (∀ days ∈ row.retentionDays, 0 < days ∧ days ≤ 2147483647) .checkViolation
  require (∀ ref ∈ row.decisionRef, isDecisionRef ref) .checkViolation
  require (row.version ∉ versions db row.className) .keyTaken
  .ok { db with configurations := db.configurations ++ [row] }

def activeConfiguration (db : Database) (className : RetentionClass) :
    Option RetentionConfiguration :=
  (db.configurations.filter (·.className = className)).argmax (·.version)

def holders : List StaffRole := [.ownerAdmin, .opsApprover]

def placeLegalHold (db : Database) (roles : List StaffRole) (holdId : Uuid)
    (className : RetentionClass) (reason : String) : Except Refusal Database := do
  require (∃ role ∈ roles, role ∈ holders) .authorization
  require (1 ≤ reason.length ∧ reason.length ≤ 500) .checkViolation
  require (lookup LegalHold.holdId db.holds holdId = none) .keyTaken
  .ok { db with holds := db.holds ++ [⟨holdId, className, reason, false⟩] }

def releaseLegalHold (db : Database) (roles : List StaffRole) (holdId : Uuid) :
    Except Refusal Database := do
  require (∃ role ∈ roles, role ∈ holders) .authorization
  let hold ← ofOption .state (lookup LegalHold.holdId db.holds holdId)
  require (hold.released = false) .state
  .ok { db with holds := put LegalHold.holdId db.holds { hold with released := true } }

def activeHoldExists (db : Database) (className : RetentionClass) : Bool :=
  db.holds.any fun h => h.className = className && !h.released

structure PurgeExecution where
  runId : Uuid
  className : RetentionClass
  cutoffAt : Int
  disposedAt : Int

structure PurgeCounts where
  deleted : Nat
  exempt : Nat

/-- The payload is past the cutoff and nothing pins it: when it arrived. -/
def Database.due (db : Database) (t : PayloadTable) (cutoff : Int) (k : Uuid) : Option Int :=
  (db.occurredAt t k).filter fun at_ => at_ < cutoff && !db.pinned t k

/-- The count the exemptions are read from: the payloads still past the cutoff. -/
def Database.past (db : Database) (t : PayloadTable) (cutoff : Int) : Nat :=
  (db.payloads t).countP fun k => (db.occurredAt t k).any (· < cutoff)

def disposalRecord (t : PayloadTable) (e : PurgeExecution) (k : Uuid) (at_ : Int) : DisposalRecord :=
  ⟨e.runId, e.className, t.ledger, k, at_, e.disposedAt⟩

/-- The statement that deletes the payloads that are due and records each disposal. -/
def disposedBy (db : Database) (t : PayloadTable) (e : PurgeExecution) : List DisposalRecord :=
  (db.payloads t).filterMap fun k => (db.due t e.cutoffAt k).map (disposalRecord t e k)

def keptBy (db : Database) (t : PayloadTable) (e : PurgeExecution) : List Uuid :=
  (db.payloads t).filter fun k => (db.due t e.cutoffAt k).isNone

/-- The two statements of a purge of one side table. -/
def purgePayloads (t : PayloadTable) (db : Database) (e : PurgeExecution) :
    Except Refusal (Database × PurgeCounts) := do
  let disposals := db.disposals ++ disposedBy db t e
  require (disposals.map DisposalRecord.subject).Nodup .keyTaken
  let disposed := { db with
    payloads := Function.update db.payloads t (keptBy db t e)
    disposals := disposals }
  .ok (disposed, ⟨(disposedBy db t e).length, disposed.past t e.cutoffAt⟩)

def purgeWebhookPayloads := purgePayloads .webhookEventPayloads
def purgeIncidentEvidence := purgePayloads .customerIncidentEvidence
def purgeAssistantPayloads := purgePayloads .assistantTurnPayloads

structure DisposablePayloadStore where
  payloadTable : PayloadTable
  exemptionRule : String
  purge : Database → PurgeExecution → Except Refusal (Database × PurgeCounts)

def disposablePayloadStores : RetentionClass → Option DisposablePayloadStore
  | .rawWebhookPayload => some ⟨.webhookEventPayloads,
      "held back payloads pinned by retained evidence: consent_events.evidence_webhook_id, " ++
      "inbox_replay_conflicts.webhook_event_id, agent_runs.source_webhook_event_id (DEC-018)",
      purgeWebhookPayloads⟩
  | .incidentEvidence => some ⟨.customerIncidentEvidence,
      "held back summaries of incidents that are not CLOSED: an unfinished matter pins its " ++
      "own evidence, because DEC-004 governs remedies that can be owed later and the " ++
      "description is the only account of what was wrong (DEC-018, DEC-028)",
      purgeIncidentEvidence⟩
  | .assistantTranscript => some ⟨.assistantTurnPayloads,
      "held back transcripts whose answer survives in a command_idempotency_records row " ++
      "written before ASSISTANT-RETENTION-001, which protect_idempotency_record forbids " ++
      "anyone to delete; purging the original would report a disposal that did not happen " ++
      "(DEC-018)",
      purgeAssistantPayloads⟩
  | _ => none

def unsupportedStoreReasons : RetentionClass → Option (UnsupportedStoreReason × String)
  | .conversationBody => some (.payloadNotYetSeparated,
      "agent_drafts.draft_text and agent_draft_reviews.edited_text when the text was sent " ++
      "(DEC-019); both sit under reject_ledger_mutation and DEC-008 schedules REDACT, which this " ++
      "purge path does not perform")
  | .agentRunPayload => some (.payloadNotYetSeparated,
      "agent_tool_calls keeps only a sha256 request_fingerprint and a bounded safe_summary, but " ++
      "DEC-019 assigns never-sent agent_drafts.draft_text to this class and that text is not yet " ++
      "separated")
  | .exactDeliveryLocation => some (.noBackingStoreExists,
      "no address, coordinate or ward column exists in any of the 42 tables; delivery_legs " ++
      "records an outcome and deliberately no free text (DEC-019, DEC-023)")
  | .consentEvidence => some (.retainedIndefinitelyByDecision,
      "DEC-008 retains consent evidence indefinitely under access restriction; it is the proof a " ++
      "customer asked to be left alone")
  | .orderFinancialRecord => some (.payloadNotYetSeparated,
      "DEC-008 schedules 3650 days under the Vietnamese accounting retention period; the record " ++
      "is the orders ledger itself rather than a payload beside it, so disposal is a different " ++
      "design and no row is near the horizon")
  | .debugLog => some (.noBackingStoreExists,
      "debug logs are process output and are not persisted to this database")
  | .securityAuditEvent => some (.retainedIndefinitelyByDecision,
      "DEC-008 retains security audit events indefinitely under access restriction; audit_events " ++
      "is the chain every other record is reconstructed from")
  | _ => none

lemma supported_iff (className : RetentionClass) :
    (disposablePayloadStores className).isSome ↔ unsupportedStoreReasons className = none := by
  cases className <;> simp [disposablePayloadStores, unsupportedStoreReasons]

def clipped (detail : String) : String := String.ofList (detail.toList.take 500)

def recordRun (db : Database) (run : PurgeRun) : Except Refusal Database := do
  require (lookup PurgeRun.runId db.runs run.runId = none) .keyTaken
  .ok { db with runs := db.runs ++ [run] }

def declined (runId : Uuid) (className : RetentionClass)
    (configuration : Option RetentionConfiguration) (outcome : PurgeOutcome) (detail : String) :
    PurgeRun :=
  ⟨runId, className, configuration.map (·.version), outcome, none, 0, 0, some detail⟩

def completedOutcome (exempt : Nat) : PurgeOutcome :=
  if exempt = 0 then .completed else .completedWithExemptions

/-- `timestamp - timedelta(days=…)`. -/
def cutoffOf (timestamp : Datetime) (days : Int) : Option Datetime :=
  timestamp.addMicros (-(days * dayMicros))

/-- `run_purge` from where the schedule approves it, in the transaction that holds the class lock. -/
def purgeUnderLock (db : Database) (runId : Uuid) (className : RetentionClass) (timestamp : Datetime)
    (configuration : RetentionConfiguration) (days : Int) : Except Refusal Database :=
  let declines outcome detail :=
    recordRun db (declined runId className (some configuration) outcome detail)
  if activeHoldExists db className then
    declines .refusedLegalHold "an active legal hold covers this class"
  else if configuration.disposition ≠ .purge then
    declines .refusedDispositionNotExecutable
      ("published disposition is " ++ configuration.disposition.value ++ "; this job " ++
        "executes PURGE only and will not redact by deleting")
  else match disposablePayloadStores className with
    | none => do
      let (reason, explanation) ← ofOption .keyError (unsupportedStoreReasons className)
      declines .refusedUnsupportedStore (clipped (reason.value ++ ": " ++ explanation))
    | some store => do
      let cutoff ← ofOption .overflow (cutoffOf timestamp days)
      let (disposed, counts) ←
        store.purge db ⟨runId, className, cutoff.instant, timestamp.instant⟩
      recordRun disposed ⟨runId, className, some configuration.version,
        completedOutcome counts.exempt, some cutoff.instant, counts.deleted, counts.exempt,
        if counts.exempt = 0 then none
        else some (clipped (toString counts.exempt ++ " " ++ store.exemptionRule))⟩

/-- `run_purge` after its read of the configuration. -/
def runPurge (db : Database) (runId : Uuid) (className : RetentionClass) (timestamp : Datetime)
    (configuration : Option RetentionConfiguration) : Except Refusal Database :=
  match configuration with
  | none => recordRun db (declined runId className none .refusedNoApprovedSchedule
      "no approved schedule; DEC-008 governs this class")
  | some c => match c.retentionDays with
    | none => recordRun db (declined runId className (some c) .refusedNoApprovedSchedule
        "no approved schedule; DEC-008 governs this class")
    | some days =>
      if c.enabled = false then
        recordRun db (declined runId className (some c) .skippedDisabled
          "class is published but not enabled")
      else purgeUnderLock db runId className timestamp c days

def recordWebhook (db : Database) (id : Uuid) (receivedAt : Int) : Except Refusal Database := do
  require (lookup WebhookEvent.id db.webhookEvents id = none) .keyTaken
  .ok { db with
    webhookEvents := db.webhookEvents ++ [⟨id, receivedAt⟩]
    payloads := Function.update db.payloads .webhookEventPayloads
      (db.payloads .webhookEventPayloads ++ [id]) }

def recordConsent (db : Database) (webhookId : Uuid) : Except Refusal Database := do
  require ((lookup WebhookEvent.id db.webhookEvents webhookId).isSome) .foreignKey
  .ok { db with consentEvidence := db.consentEvidence ++ [webhookId] }

def recordReplayConflict (db : Database) (webhookId : Uuid) : Except Refusal Database := do
  require ((lookup WebhookEvent.id db.webhookEvents webhookId).isSome) .foreignKey
  .ok { db with replayConflicts := db.replayConflicts ++ [webhookId] }

def recordAgentRun (db : Database) (source : Option Uuid) : Except Refusal Database := do
  require (∀ s ∈ source, (lookup WebhookEvent.id db.webhookEvents s).isSome) .foreignKey
  require (∀ s ∈ source, some s ∉ db.runSources) .keyTaken
  .ok { db with runSources := db.runSources ++ [source] }

def openIncident (db : Database) (id : Uuid) (openedAt : Int) : Except Refusal Database := do
  require (lookup CustomerIncident.id db.incidents id = none) .keyTaken
  .ok { db with
    incidents := db.incidents ++ [⟨id, .opened, openedAt⟩]
    payloads := Function.update db.payloads .customerIncidentEvidence
      (db.payloads .customerIncidentEvidence ++ [id]) }

/-- The two moves of an incident: into review from open, closed from wherever it is not. -/
def moveIncident (db : Database) (id : Uuid) (status : IncidentStatus) : Except Refusal Database := do
  let incident ← ofOption .notFound (lookup CustomerIncident.id db.incidents id)
  require (status = .underReview ∧ incident.status = .opened ∨
    status = .closed ∧ incident.status ≠ .closed) .state
  .ok { db with incidents := put CustomerIncident.id db.incidents { incident with status } }

def recordTurn (db : Database) (turnId : Uuid) (createdAt : Int) : Except Refusal Database := do
  require (lookup AssistantTurn.turnId db.turns turnId = none) .keyTaken
  .ok { db with
    turns := db.turns ++ [⟨turnId, createdAt⟩]
    payloads := Function.update db.payloads .assistantTurnPayloads
      (db.payloads .assistantTurnPayloads ++ [turnId]) }

def recordResponse (db : Database) (response : Option Json) : Database :=
  { db with responses := db.responses ++ [response] }

/-- What a caller has read and not yet written from. -/
inductive Job where
  | publish (row : RetentionConfiguration)
  | purge (className : RetentionClass) (timestamp : Datetime)
      (configuration : Option RetentionConfiguration)
  | done

structure World where
  db : Database
  jobs : List Job

inductive Command where
  | readVersion (roles : List StaffRole) (className : RetentionClass) (enabled : Bool)
      (disposition : RetentionDisposition) (retentionDays : Option Int) (decisionRef : Option String)
  | publish (job : Nat)
  | placeLegalHold (roles : List StaffRole) (holdId : Uuid) (className : RetentionClass)
      (reason : String)
  | releaseLegalHold (roles : List StaffRole) (holdId : Uuid)
  | readConfiguration (className : RetentionClass) (timestamp : Datetime)
  | purge (job : Nat) (runId : Uuid)
  | recordWebhook (id : Uuid) (receivedAt : Int)
  | recordConsent (webhookId : Uuid)
  | recordReplayConflict (webhookId : Uuid)
  | recordAgentRun (source : Option Uuid)
  | openIncident (id : Uuid) (openedAt : Int)
  | moveIncident (id : Uuid) (status : IncidentStatus)
  | recordTurn (turnId : Uuid) (createdAt : Int)
  | recordResponse (response : Option Json)

def attempt (w : World) : Command → Except Refusal Database
  | .readVersion roles className enabled disposition days ref =>
    (fun _ => w.db) <$> preparePublication w.db roles className enabled disposition days ref
  | .publish j => match w.jobs[j]? with
    | some (.publish row) => insertConfiguration w.db row
    | _ => .error .noJob
  | .placeLegalHold roles holdId className reason =>
    placeLegalHold w.db roles holdId className reason
  | .releaseLegalHold roles holdId => releaseLegalHold w.db roles holdId
  | .readConfiguration _ _ => .ok w.db
  | .purge j runId => match w.jobs[j]? with
    | some (.purge className timestamp configuration) =>
      runPurge w.db runId className timestamp configuration
    | _ => .error .noJob
  | .recordWebhook id receivedAt => recordWebhook w.db id receivedAt
  | .recordConsent webhookId => recordConsent w.db webhookId
  | .recordReplayConflict webhookId => recordReplayConflict w.db webhookId
  | .recordAgentRun source => recordAgentRun w.db source
  | .openIncident id openedAt => openIncident w.db id openedAt
  | .moveIncident id status => moveIncident w.db id status
  | .recordTurn turnId createdAt => recordTurn w.db turnId createdAt
  | .recordResponse response => .ok (recordResponse w.db response)

/-- What is in flight after a command: a read adds to it, and what was read is used once. -/
def jobsAfter (w : World) : Command → List Job
  | .readVersion roles className enabled disposition days ref =>
    w.jobs ++ ((preparePublication w.db roles className enabled disposition days ref).toOption.map
      Job.publish).toList
  | .readConfiguration className timestamp =>
    w.jobs ++ [.purge className timestamp (activeConfiguration w.db className)]
  | .publish j => w.jobs.set j .done
  | .purge j _ => w.jobs.set j .done
  | _ => w.jobs

/-- A transaction that fails leaves the database as it was. -/
def apply (w : World) (c : Command) : World :=
  ⟨match attempt w c with
    | .ok db => db
    | .error _ => w.db, jobsAfter w c⟩

def emptyWorld : World :=
  ⟨⟨[], [], [], [], [], fun _ => [], [], [], [], [], [], []⟩, []⟩

def run (commands : List Command) : World := commands.foldl apply emptyWorld

end NhaTrangLaundry.Db.Retention
