import NhaTrangLaundry.Db.ConsentLedger

/-! Manual sends, and the transactions whose order decides what a stop still reaches. -/

namespace NhaTrangLaundry.Db.ConsentEgress

open Lib Outcome Domain ServiceMessaging
open Text (strip ascii)

inductive AgentDeploymentStage where
  | manualTruth
  | shadow
  | assisted
  | bounded
deriving DecidableEq

structure ManualSendPrepareCommand where
  approvalRequestId : Uuid
  observedResourceVersion : Int
  observedSnapshotHash : String
  observedRenderedHash : String
  channel : String
  purpose : String
  deploymentStage : AgentDeploymentStage
  principal : StaffPrincipal
  preparedAt : Option Datetime

structure ManualSendAttestationCommand where
  manualSendEnvelopeId : Uuid
  observedResourceVersion : Int
  exactRenderedHash : String
  principal : StaffPrincipal
  sentAt : Option Datetime
  recordedAt : Option Datetime
  expectedEnvelopeRowVersion : Int

def manualSendChannels : List String := ["INTERNAL_TEST"]

def manualSenders : List StaffRole := [.ownerAdmin, .opsApprover, .operator]

def messageDraftResourceType : String := "MESSAGE_DRAFT"

def manualSendChannel (value : String) : Except Refusal String := do
  require (strip value ∈ manualSendChannels)
    (.manualSendState "manual-send channel is not configured")
  .ok (strip value)

/-- `hmac.compare_digest` on texts. -/
def compareDigest (a b : String) : Except Refusal Bool := do
  require (ascii a ∧ ascii b) .typeError
  .ok (decide (a = b))

def lockApproval (db : Database) (id : Uuid) : Except Refusal Approval :=
  match db.surroundings.approvals id with
  | none => .error (.manualSendState "approval is unavailable")
  | some approval => .ok approval

def requireManualSender (db : Database) (principal : StaffPrincipal) (storeId : Uuid) :
    Except Refusal Unit := do
  require (principal.mfaVerified ∧ ∃ role ∈ principal.roles, role ∈ manualSenders)
    (.authorization "MFA and an authorized staff role are required")
  require (db.surroundings.storeMember principal.staffUserId storeId)
    (.authorization "store access is not authorized")

/-- A moment before the approval's expiry; a naive moment cannot be compared with it. -/
def requireUnexpired (moment : Datetime) (approval : Approval) (message : String) :
    Except Refusal Unit := do
  require moment.aware .typeError
  require (moment.instant < approval.expiresAt) (.manualSendState message)

def requireDigest (stored observed : String) : Except Refusal Unit := do
  let equal ← compareDigest stored observed
  require (equal = true) (.manualSendState "manual-send content binding is stale")

def requireApprovedTransactionalBinding (approval : Approval) (command : ManualSendPrepareCommand)
    (preparedAt : Datetime) : Except Refusal Unit := do
  require (approval.action = "SEND_MESSAGE" ∧ approval.status = .approved)
    (.manualSendState "approval is not available for manual send")
  requireUnexpired preparedAt approval "approval is not available for manual send"
  require (approval.resourceVersion = command.observedResourceVersion)
    (.manualSendState "manual-send content binding is stale")
  requireDigest approval.snapshotHash command.observedSnapshotHash
  requireDigest approval.renderedHash command.observedRenderedHash

def requireDraftAsApproved (db : Database) (resourceType : String) (resourceId storeId : Uuid)
    (resourceVersion : Int) (snapshotHash renderedHash : String) :
    Except Refusal MessageDraftBinding := do
  require (resourceType = messageDraftResourceType)
    (.manualSendState "approval is not available for manual send")
  match db.surroundings.drafts resourceId with
  | none => .error (.manualSendState "manual-send content binding is stale")
  | some draft =>
    require (draft.storeId = storeId ∧ draft.resourceVersion = resourceVersion)
      (.manualSendState "manual-send content binding is stale")
    requireDigest draft.snapshotHash snapshotHash
    requireDigest draft.renderedHash renderedHash
    .ok draft

def requireEgress (db : Database) (contact : Uuid) (channel : String) (at' : Datetime) :
    Except Refusal EgressCheck := do
  let egress ← checkEgressAllowed db contact channel transactionalPurpose true (some at')
  require (egress.sendAllowed = true) (.egressRefused egress)
  .ok egress

def insertEnvelope (db : Database) (envelope : ManualSendEnvelope) :
    Except Refusal (ManualSendEnvelope × Database) := do
  require (envelope.id ∉ db.envelopes.map ManualSendEnvelope.id) .databaseError
  .ok (envelope, { db with envelopes := db.envelopes ++ [envelope] })

/-- `ManualSendRepository.prepare`, with the envelope it writes. -/
def prepare (db : Database) (command : ManualSendPrepareCommand) (now : Datetime)
    (envelopeId : Uuid) : Except Refusal (ManualSendEnvelope × Database) := do
  let preparedAt := command.preparedAt.getD now
  require (command.deploymentStage = .shadow)
    (.manualSendState "manual send is permitted only in shadow stage")
  require (command.purpose = transactionalPurpose)
    (.manualSendState "manual marketing send is not supported")
  let channel ← manualSendChannel command.channel
  let approval ← lockApproval db command.approvalRequestId
  requireManualSender db command.principal approval.storeId
  requireApprovedTransactionalBinding approval command preparedAt
  let draft ← requireDraftAsApproved db approval.resourceType approval.resourceId approval.storeId
    approval.resourceVersion approval.snapshotHash approval.renderedHash
  require (command.approvalRequestId ∉ db.envelopes.map ManualSendEnvelope.approvalRequestId)
    (.manualSendState "manual-send envelope already exists")
  let _ ← requireEgress db draft.contactBindingId channel preparedAt
  insertEnvelope db
    { id := envelopeId
      approvalRequestId := command.approvalRequestId
      resourceId := approval.resourceId
      resourceVersion := command.observedResourceVersion
      snapshotHash := command.observedSnapshotHash
      renderedHash := command.observedRenderedHash
      recipientBindingId := draft.contactBindingId
      channel
      purpose := .transactional
      status := .approvedForManualSend
      rowVersion := 1
      preparedBy := command.principal.staffUserId
      preparedAt := preparedAt.instant
      updatedAt := preparedAt.instant }

def lockEnvelope (db : Database) (id : Uuid) : Except Refusal ManualSendEnvelope :=
  match db.envelopes.find? fun e => e.id = id with
  | none => .error (.manualSendState "manual-send envelope is unavailable")
  | some envelope => .ok envelope

def writeAttestation (db : Database) (command : ManualSendAttestationCommand)
    (envelope : ManualSendEnvelope) (sentAt recordedAt : Int) (attestationId : Uuid) :
    Except Refusal (ManualSendEnvelope × Database) := do
  require (envelope.updatedAt ≤ recordedAt) .databaseError
  require (attestationId ∉ db.attestations.map ManualSendAttestation.id ∧
    envelope.id ∉ db.attestations.map ManualSendAttestation.manualSendEnvelopeId) .databaseError
  let recorded := { envelope with
    status := .manualSendRecorded, rowVersion := envelope.rowVersion + 1, updatedAt := recordedAt }
  let attestation : ManualSendAttestation :=
    { id := attestationId
      manualSendEnvelopeId := command.manualSendEnvelopeId
      approvalRequestId := envelope.approvalRequestId
      exactRenderedHash := command.exactRenderedHash
      resourceVersion := command.observedResourceVersion
      actorId := command.principal.staffUserId
      channel := envelope.channel
      recipientBindingId := envelope.recipientBindingId
      sentAt
      recordedAt }
  .ok (recorded, { db with
    envelopes := db.envelopes.map fun e => if e.id = envelope.id then recorded else e
    attestations := db.attestations ++ [attestation] })

/-- `ManualSendRepository.attest`, with the envelope it records as sent. -/
def attest (db : Database) (command : ManualSendAttestationCommand) (now : Datetime)
    (attestationId : Uuid) : Except Refusal (ManualSendEnvelope × Database) := do
  let recordedAt := command.recordedAt.getD now
  let sentAt := command.sentAt.getD recordedAt
  require sentAt.aware (.manualSendState "manual send timestamp is invalid")
  require recordedAt.aware .typeError
  require (sentAt.instant ≤ recordedAt.instant)
    (.manualSendState "manual send timestamp is invalid")
  let envelope ← lockEnvelope db command.manualSendEnvelopeId
  let approval ← lockApproval db envelope.approvalRequestId
  requireManualSender db command.principal approval.storeId
  require (envelope.status = .approvedForManualSend)
    (.manualSendState "manual-send envelope is not attestable")
  require (envelope.rowVersion = command.expectedEnvelopeRowVersion)
    (.manualSendState "manual-send envelope version is stale")
  require (approval.status = .approved) (.manualSendState "manual-send approval is unavailable")
  requireUnexpired recordedAt approval "manual-send approval is unavailable"
  require (envelope.resourceVersion = command.observedResourceVersion)
    (.manualSendState "manual-send content binding is stale")
  requireDigest envelope.renderedHash command.exactRenderedHash
  let _ ← requireDraftAsApproved db approval.resourceType envelope.resourceId approval.storeId
    envelope.resourceVersion envelope.snapshotHash envelope.renderedHash
  let _ ← requireEgress db envelope.recipientBindingId envelope.channel sentAt
  writeAttestation db command envelope sentAt.instant recordedAt.instant attestationId

/-- One transaction, with the clock and the identifiers it drew. -/
inductive Transaction where
  | record (command : InboundWebhook) (now : Datetime) (ids : InboundIds)
  | release (command : TransactionalReleaseCommand) (now : Datetime) (releaseId : Uuid)
  | clearConsent (contact : Uuid) (channel : String) (sourceConsentEventId : Uuid) (now : Int)
  | prepare (command : ManualSendPrepareCommand) (now : Datetime) (envelopeId : Uuid)
  | attest (command : ManualSendAttestationCommand) (now : Datetime) (attestationId : Uuid)
  /-- Any other module commits: the tables read here may be changed at will. -/
  | elsewhere (surroundings : Surroundings)

/-- What a committed transaction means for one contact on one channel. -/
inductive Commit where
  | optOut (contact : Uuid) (channel : String) (receivedAt : Int)
  | release (contact : Uuid) (channel : String) (evidenceReceivedAt : Int)
  | prepared (contact : Uuid) (channel : String)
  | attested (contact : Uuid) (channel : String)
deriving DecidableEq

/-- An inbound record is an opt-out when it created the event of a withdrawal or pending one. -/
def optOutOf (command : InboundWebhook) (now : Datetime) (result : InboxResult) : Option Commit :=
  if result.outcome = .created ∧ createsSuppression command then
    command.contactBindingId.map fun contact =>
      .optOut contact command.channel (receivedInstant command now)
  else none

/-- The transaction run to its end: what it committed, and the tables after it. -/
def attempt (db : Database) : Transaction → Except Refusal (Option Commit × Database)
  | .record command now ids => do
    let (result, db) ← record db command now ids
    .ok (optOutOf command now result, db)
  | .release command now releaseId => do
    let (stored, evidence, db) ← releaseTransactionalSuppression db command now releaseId
    .ok (some (.release stored.contactBindingId stored.channel evidence.receivedAt), db)
  | .clearConsent contact channel source now => do
    let db ← recordClearConsent db contact channel source now
    .ok (none, db)
  | .prepare command now envelopeId => do
    let (envelope, db) ← prepare db command now envelopeId
    .ok (some (.prepared envelope.recipientBindingId envelope.channel), db)
  | .attest command now attestationId => do
    let (envelope, db) ← attest db command now attestationId
    .ok (some (.attested envelope.recipientBindingId envelope.channel), db)
  | .elsewhere surroundings => .ok (none, { db with surroundings })

/-- A transaction that raises leaves the tables as they were. -/
def apply (db : Database) (t : Transaction) : Database :=
  match attempt db t with
  | .ok (_, db') => db'
  | .error _ => db

def committed (db : Database) (t : Transaction) : Option Commit :=
  match attempt db t with
  | .ok (commit, _) => commit
  | .error _ => none

def run (db : Database) (ts : List Transaction) : Database := ts.foldl apply db

def history (db : Database) : List Transaction → List Commit
  | [] => []
  | t :: ts => (committed db t).toList ++ history (apply db t) ts

end NhaTrangLaundry.Db.ConsentEgress
