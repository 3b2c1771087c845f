import NhaTrangLaundry.Db.ManualSends
import NhaTrangLaundry.Lib.Table

/-! Approval envelopes: who decides one, and the two ways in which an approved one is used. -/

namespace NhaTrangLaundry.Db.Approvals

open Lib Outcome Table
open Text (ascii)
open ConsentEgress (StaffRole StaffPrincipal ApprovalStatus MessageDraftBinding SuppressionKey
  SuppressionEntry WebhookEvent ConsentEvent Surroundings ManualSendPrepareCommand
  ManualSendAttestationCommand ManualSendEnvelope)

inductive ApprovalAction where
  | presentQuote
  | finalizeQuote
  | sendMessage
  | confirmSlot
  | acceptOrder
  | setRangePrice
  | setDeliveryFee
  | applyPromotion
  | cancelActiveOrder
  | approveRemedy
  | approveB2bTerms
  | publishPolicy
  | exportSanitizedData
deriving DecidableEq

def ApprovalAction.value : ApprovalAction → String
  | .presentQuote => "PRESENT_QUOTE"
  | .finalizeQuote => "FINALIZE_QUOTE"
  | .sendMessage => "SEND_MESSAGE"
  | .confirmSlot => "CONFIRM_SLOT"
  | .acceptOrder => "ACCEPT_ORDER"
  | .setRangePrice => "SET_RANGE_PRICE"
  | .setDeliveryFee => "SET_DELIVERY_FEE"
  | .applyPromotion => "APPLY_PROMOTION"
  | .cancelActiveOrder => "CANCEL_ACTIVE_ORDER"
  | .approveRemedy => "APPROVE_REMEDY"
  | .approveB2bTerms => "APPROVE_B2B_TERMS"
  | .publishPolicy => "PUBLISH_POLICY"
  | .exportSanitizedData => "EXPORT_SANITIZED_DATA"

/-- A row of `approval_requests`; it is never written again. -/
structure ApprovalRequest where
  id : Uuid
  action : ApprovalAction
  resourceType : String
  resourceId : Uuid
  resourceVersion : Int
  snapshotHash : String
  renderedHash : String
  policyVersion : String
  requiredRole : StaffRole
  obligations : List String
  executionCapability : String
  requestedBy : Uuid
  requestedAt : Int
  expiresAt : Int
  storeId : Uuid

/-- An envelope with its row of `approval_request_states`. -/
structure Approval extends ApprovalRequest where
  status : ApprovalStatus
  rowVersion : Int
  updatedAt : Int

inductive Decision where
  | approved
  | rejected
deriving DecidableEq

def Decision.status : Decision → ApprovalStatus
  | .approved => .approved
  | .rejected => .rejected

/-- A row of `approval_decisions`. -/
structure ApprovalDecision where
  id : Uuid
  approvalRequestId : Uuid
  decisionType : ApprovalAction
  decision : Decision
  decidedBy : Uuid
  reasonCode : String
  note : Option String
  observedResourceVersion : Int
  observedSnapshotHash : String
  observedRenderedHash : String
  decidedAt : Int

/-- A row of `approval_executions`. -/
structure ApprovalExecution where
  id : Uuid
  approvalRequestId : Uuid
  observedResourceVersion : Int
  observedSnapshotHash : String
  observedRenderedHash : String
  claimedAt : Int

/-- What a resource is right now, in the terms an envelope binds it; there may be no one rendering
of it to compare with. -/
structure CurrentResourceBinding where
  storeId : Uuid
  resourceVersion : Int
  snapshotHash : String
  renderedHash : Option String

structure ExportRequestBinding where
  storeId : Uuid
  resourceVersion : Int
  snapshotHash : String
  renderedHash : String

/-- A quote by its current revision, or an order by its row version. -/
structure VersionedRow where
  storeId : Uuid
  version : Int
  snapshotHash : String

structure RemedyProposalBinding where
  storeId : Uuid
  quoteSnapshotHash : String
  proposalHash : String

/-- The tables a decision reads and never writes, besides the message drafts. -/
structure Resources where
  exportRequests : Uuid → Option ExportRequestBinding
  exportDefiners : Uuid → Option Uuid
  quotes : Uuid → Option VersionedRow
  orders : Uuid → Option VersionedRow
  remedyProposals : Uuid → Option RemedyProposalBinding

structure Database where
  approvals : List Approval
  decisions : List ApprovalDecision
  executions : List ApprovalExecution
  sends : ConsentEgress.Database
  resources : Resources

inductive Refusal where
  | state (message : String)
  | resourceChanged
  | authorization (message : String)
  | typeError
  | databaseError
  | send (refusal : ConsentEgress.Refusal)

def Approval.key (a : Approval) : Uuid := a.id

def lockApproval (db : Database) (id : Uuid) : Except Refusal Approval :=
  ofOption (.state "approval is unavailable") (lookup Approval.key db.approvals id)

/-- `hmac.compare_digest` on texts, refused when they differ. -/
def requireDigest (stored observed : String) (refusal : Refusal) : Except Refusal Unit := do
  require (ascii stored ∧ ascii observed) .typeError
  require (stored = observed) refusal

def requireExactBinding (row : Approval) (version : Int) (snapshotHash renderedHash : String) :
    Except Refusal Unit := do
  require (row.resourceVersion = version) (.state "approval resource version or hash is stale")
  requireDigest row.snapshotHash snapshotHash (.state "approval resource version or hash is stale")
  requireDigest row.renderedHash renderedHash (.state "approval resource version or hash is stale")

def currentMessageDraft (db : Database) (id : Uuid) : Option CurrentResourceBinding :=
  (db.sends.surroundings.drafts id).map fun d =>
    ⟨d.storeId, d.resourceVersion, d.snapshotHash, some d.renderedHash⟩

def currentExportRequest (db : Database) (id : Uuid) : Option CurrentResourceBinding :=
  (db.resources.exportRequests id).map fun e =>
    ⟨e.storeId, e.resourceVersion, e.snapshotHash, some e.renderedHash⟩

def currentQuoteRevision (db : Database) (id : Uuid) : Option CurrentResourceBinding :=
  (db.resources.quotes id).map fun q => ⟨q.storeId, q.version, q.snapshotHash, none⟩

def currentOrder (db : Database) (id : Uuid) : Option CurrentResourceBinding :=
  (db.resources.orders id).map fun o => ⟨o.storeId, o.version, o.snapshotHash, none⟩

def currentRemedyProposal (db : Database) (id : Uuid) : Option CurrentResourceBinding :=
  (db.resources.remedyProposals id).map fun p =>
    ⟨p.storeId, 1, p.quoteSnapshotHash, some p.proposalHash⟩

def decisionTimeResolvers : List (String × (Database → Uuid → Option CurrentResourceBinding)) :=
  [("MESSAGE_DRAFT", currentMessageDraft), ("EXPORT_REQUEST", currentExportRequest),
    ("QUOTE_REVISION", currentQuoteRevision), ("ORDER", currentOrder),
    ("REMEDY_PROPOSAL", currentRemedyProposal)]

def unresolvableAtDecision : List String :=
  ["SLOT_PROPOSAL", "DELIVERY_FEE_PROPOSAL", "B2B_TERMS", "POLICY_VERSION"]

def requireSameContent (current : CurrentResourceBinding) (row : Approval) :
    Except Refusal Unit := do
  require (current.storeId = row.storeId) .resourceChanged
  require (current.resourceVersion = row.resourceVersion) .resourceChanged
  requireDigest current.snapshotHash row.snapshotHash .resourceChanged
  match current.renderedHash with
  | none => .ok ()
  | some rendered => requireDigest rendered row.renderedHash .resourceChanged

def requireResourceUnchanged (db : Database) (row : Approval) : Except Refusal Unit :=
  match decisionTimeResolvers.lookup row.resourceType with
  | none => require (row.resourceType ∈ unresolvableAtDecision)
      (.state "approval resource type cannot be verified by this server")
  | some resolver => do
    let current ← ofOption .resourceChanged (resolver db row.resourceId)
    requireSameContent current row

structure ApprovalDecisionCommand where
  approvalRequestId : Uuid
  decision : Decision
  observedResourceVersion : Int
  observedSnapshotHash : String
  observedRenderedHash : String
  reasonCode : String
  principal : StaffPrincipal
  decidedAt : Option Datetime
  note : Option String

structure ApprovalAttestationCommand where
  approvalRequestId : Uuid
  observedResourceVersion : Int
  observedSnapshotHash : String
  observedRenderedHash : String
  reasonCode : String
  principal : StaffPrincipal
  attestedAt : Option Datetime

/-- `[A-Z][A-Z0-9_]{1,99}` -/
def isReasonCode (code : String) : Bool :=
  match code.toList with
  | [] => false
  | c :: cs => c.isUpper && 1 ≤ cs.length && cs.length ≤ 99 &&
      cs.all fun d => d.isUpper || d.isDigit || d = '_'

def validateReasonCode (code : String) : Except Refusal Unit :=
  require (isReasonCode code = true) (.state "approval reason code is invalid")

def requireStoreMembership (db : Database) (principal : StaffPrincipal) (storeId : Uuid) :
    Except Refusal Unit :=
  require (db.sends.surroundings.storeMember principal.staffUserId storeId = true)
    (.authorization "store access is not authorized")

/-- Only an export's content is chosen by another than the one who raises its envelope. -/
def definerOf (db : Database) (row : Approval) : Option Uuid :=
  if row.resourceType = "EXPORT_REQUEST" then db.resources.exportDefiners row.resourceId else none

def authorizeDecision (db : Database) (row : Approval) (principal : StaffPrincipal) :
    Except Refusal Unit := do
  requireStoreMembership db principal row.storeId
  require (.ownerAdmin ∈ principal.roles ∨ row.requiredRole ∈ principal.roles)
    (.authorization "approval role is not authorized")
  require (principal.mfaVerified = true)
    (.authorization "MFA is required for approval decisions")
  require (principal.staffUserId ≠ row.requestedBy)
    (.authorization "requester cannot approve their own action")
  require (definerOf db row ≠ some principal.staffUserId)
    (.authorization "requester cannot approve their own action")

def counterAttestedCapability : String := "STAFF_ATTESTED_ACTION"

def separationOfDuty : String := "SEPARATION_OF_DUTY"

def counterAttestationRoles : List StaffRole := [.ownerAdmin, .opsApprover, .operator]

def Approval.counterAttested (row : Approval) : Prop :=
  row.executionCapability = counterAttestedCapability ∧ separationOfDuty ∉ row.obligations

instance decidableCounterAttested (row : Approval) : Decidable row.counterAttested :=
  inferInstanceAs (Decidable (_ ∧ _))

def authorizeAttestation (db : Database) (row : Approval) (principal : StaffPrincipal) :
    Except Refusal Unit := do
  requireStoreMembership db principal row.storeId
  require (row.counterAttested ∧ (∃ role ∈ principal.roles, role ∈ counterAttestationRoles) ∧
      principal.mfaVerified = true ∧ principal.staffUserId = row.requestedBy)
    (.authorization "this approval cannot be attested by this staff member")

/-- The update of a state row; its trigger refuses a time before the last. -/
def moveStatus (db : Database) (row : Approval) (status : ApprovalStatus) (at_ : Int) :
    Except Refusal Database := do
  require (row.updatedAt ≤ at_) .databaseError
  let moved := { row with status, rowVersion := row.rowVersion + 1, updatedAt := at_ }
  .ok { db with approvals := put Approval.key db.approvals moved }

def recordDecision (db : Database) (row : Approval) (d : ApprovalDecision) :
    Except Refusal Database := do
  let moved ← moveStatus db row d.decision.status d.decidedAt
  require (d.id ∉ db.decisions.map ApprovalDecision.id ∧
    d.approvalRequestId ∉ db.decisions.map ApprovalDecision.approvalRequestId) .databaseError
  require (∀ note ∈ d.note, note ≠ "") .databaseError
  .ok { moved with decisions := db.decisions ++ [d] }

/-- What a command that returned has done to an envelope. -/
inductive Use where
  | decided (d : Decision)
  | attested
  | claimed
  | prepared
  | sent
  | expired
deriving DecidableEq

structure Event where
  approvalId : Uuid
  use : Use
  at_ : Int

/-- The resource is looked at again only for what authorises something. -/
def requireHeldTo (db : Database) (row : Approval) (unchanged : Bool) : Except Refusal Unit :=
  if unchanged then requireResourceUnchanged db row else .ok ()

/-- A decision on a pending envelope; past its expiry it only records that. -/
def decideAt (db : Database) (row : Approval) (moment : Datetime) (use : Use) (unchanged : Bool)
    (d : ApprovalDecision) : Except Refusal (Event × Database) := do
  require (row.status = .requested) (.state "approval is not pending")
  require moment.aware .typeError
  if moment.instant < row.expiresAt then do
    requireHeldTo db row unchanged
    let written ← recordDecision db row d
    .ok (⟨row.id, use, moment.instant⟩, written)
  else do
    let written ← moveStatus db row .expired moment.instant
    .ok (⟨row.id, .expired, moment.instant⟩, written)

/-- `ApprovalRepository.decide`; past the expiry it records that, and then raises. -/
def decide (db : Database) (command : ApprovalDecisionCommand) (now : Datetime)
    (decisionId : Uuid) : Except Refusal (Event × Database) := do
  validateReasonCode command.reasonCode
  require (∀ note ∈ command.note, note.length ≤ 500) (.state "approval note is too long")
  let moment := command.decidedAt.getD now
  let row ← lockApproval db command.approvalRequestId
  authorizeDecision db row command.principal
  requireExactBinding row command.observedResourceVersion command.observedSnapshotHash
    command.observedRenderedHash
  -- a rejection authorises nothing, so it is not held to the resource as it stands
  decideAt db row moment (.decided command.decision) (command.decision = .approved)
    ⟨decisionId, row.id, row.action, command.decision, command.principal.staffUserId,
      command.reasonCode, command.note, command.observedResourceVersion,
      command.observedSnapshotHash, command.observedRenderedHash, moment.instant⟩

/-- `ApprovalRepository.attest`. -/
def attest (db : Database) (command : ApprovalAttestationCommand) (now : Datetime)
    (decisionId : Uuid) : Except Refusal (Event × Database) := do
  validateReasonCode command.reasonCode
  let moment := command.attestedAt.getD now
  let row ← lockApproval db command.approvalRequestId
  authorizeAttestation db row command.principal
  requireExactBinding row command.observedResourceVersion command.observedSnapshotHash
    command.observedRenderedHash
  decideAt db row moment .attested true
    ⟨decisionId, row.id, row.action, .approved, command.principal.staffUserId, command.reasonCode,
      none, command.observedResourceVersion, command.observedSnapshotHash,
      command.observedRenderedHash, moment.instant⟩

inductive ActorRole where
  | staff (role : StaffRole)
  | publicAgent
  | privateAgent
  | agentRunner
  | outboxWorker
deriving DecidableEq

structure ApprovalExecutionCommand where
  approvalRequestId : Uuid
  workerRole : ActorRole
  observedResourceVersion : Int
  observedSnapshotHash : String
  observedRenderedHash : String
  observedPolicyVersion : String
  claimedAt : Option Datetime

/-- `ApprovalRepository.claim_execution`. -/
def claimExecution (db : Database) (command : ApprovalExecutionCommand) (now : Datetime)
    (executionId : Uuid) : Except Refusal (Event × Database) := do
  require (command.workerRole = .outboxWorker)
    (.authorization "only OUTBOX_WORKER may execute approvals")
  let moment := command.claimedAt.getD now
  let row ← lockApproval db command.approvalRequestId
  require (row.status = .approved) (.state "approval is not executable")
  require (row.id ∉ db.sends.envelopes.map ManualSendEnvelope.approvalRequestId)
    (.state "approval is reserved for manual send")
  require moment.aware .typeError
  if moment.instant < row.expiresAt then do
    requireExactBinding row command.observedResourceVersion command.observedSnapshotHash
      command.observedRenderedHash
    requireDigest row.policyVersion command.observedPolicyVersion
      (.state "approval policy version is stale")
    requireResourceUnchanged db row
    let moved ← moveStatus db row .executing moment.instant
    require (executionId ∉ db.executions.map ApprovalExecution.id ∧
      row.id ∉ db.executions.map ApprovalExecution.approvalRequestId) .databaseError
    .ok (⟨row.id, .claimed, moment.instant⟩, { moved with executions := db.executions ++
      [⟨executionId, row.id, command.observedResourceVersion, command.observedSnapshotHash,
        command.observedRenderedHash, moment.instant⟩] })
  else do
    let written ← moveStatus db row .expired moment.instant
    .ok (⟨row.id, .expired, moment.instant⟩, written)

def Approval.forManualSend (row : Approval) : ConsentEgress.Approval :=
  ⟨row.resourceId, row.resourceVersion, row.snapshotHash, row.renderedHash, row.action.value,
    row.expiresAt, row.status, row.storeId, row.resourceType⟩

def sendTables (db : Database) : ConsentEgress.Database :=
  { db.sends with surroundings := { db.sends.surroundings with
    approvals := fun id => (lookup Approval.key db.approvals id).map Approval.forManualSend } }

/-- `ManualSendRepository.prepare`. -/
def prepareSend (db : Database) (command : ManualSendPrepareCommand) (now : Datetime)
    (envelopeId : Uuid) : Except Refusal (Event × Database) := do
  let (envelope, sends) ←
    (ConsentEgress.prepare (sendTables db) command now envelopeId).mapError .send
  .ok (⟨envelope.approvalRequestId, .prepared, envelope.preparedAt⟩, { db with sends })

/-- `ManualSendRepository.attest`; the moment it is judged at is when it is recorded. -/
def attestSend (db : Database) (command : ManualSendAttestationCommand) (now : Datetime)
    (attestationId : Uuid) : Except Refusal (Event × Database) := do
  let (envelope, sends) ←
    (ConsentEgress.attest (sendTables db) command now attestationId).mapError .send
  .ok (⟨envelope.approvalRequestId, .sent, envelope.updatedAt⟩, { db with sends })

/-- An envelope as it is raised, within the checks of its table. -/
def raise (db : Database) (request : ApprovalRequest) : Except Refusal Database := do
  require (0 < request.resourceVersion ∧ request.requestedAt < request.expiresAt) .databaseError
  require (lookup Approval.key db.approvals request.id = none) .databaseError
  .ok { db with approvals := db.approvals ++
    [{ request with status := .requested, rowVersion := 1, updatedAt := request.requestedAt }] }

inductive Command where
  | raise (request : ApprovalRequest)
  | decide (command : ApprovalDecisionCommand) (now : Datetime) (decisionId : Uuid)
  | attest (command : ApprovalAttestationCommand) (now : Datetime) (decisionId : Uuid)
  | claimExecution (command : ApprovalExecutionCommand) (now : Datetime) (executionId : Uuid)
  | prepareSend (command : ManualSendPrepareCommand) (now : Datetime) (envelopeId : Uuid)
  | attestSend (command : ManualSendAttestationCommand) (now : Datetime) (attestationId : Uuid)
  /-- Any other module commits: what is read here may be changed at will. -/
  | elsewhere (surroundings : Surroundings) (resources : Resources)
      (webhookEvents : List WebhookEvent) (consentEvents : List ConsentEvent)
      (suppressionEntries : SuppressionKey → Option SuppressionEntry)

/-- A command run to its end: what it did to an envelope, and the tables after it. -/
def attempt (db : Database) : Command → Except Refusal (Option Event × Database)
  | .raise request => (none, ·) <$> raise db request
  | .decide command now decisionId =>
    Prod.map some id <$> decide db command now decisionId
  | .attest command now decisionId => Prod.map some id <$> attest db command now decisionId
  | .claimExecution command now executionId =>
    Prod.map some id <$> claimExecution db command now executionId
  | .prepareSend command now envelopeId =>
    Prod.map some id <$> prepareSend db command now envelopeId
  | .attestSend command now attestationId =>
    Prod.map some id <$> attestSend db command now attestationId
  | .elsewhere surroundings resources webhookEvents consentEvents suppressionEntries =>
    .ok (none, { db with
      sends := { db.sends with surroundings, webhookEvents, consentEvents, suppressionEntries }
      resources })

def apply (db : Database) (c : Command) : Database :=
  match attempt db c with
  | .ok (_, db') => db'
  | .error _ => db

def event (db : Database) (c : Command) : Option Event :=
  match attempt db c with
  | .ok (e, _) => e
  | .error _ => none

def emptyResources : Resources :=
  ⟨fun _ => none, fun _ => none, fun _ => none, fun _ => none, fun _ => none⟩

def emptyDatabase : Database where
  approvals := []
  decisions := []
  executions := []
  sends := ⟨[], [], fun _ => none, [], [],
    ⟨fun _ => none, fun _ => none, fun _ _ => false, fun _ _ => false, [], none⟩⟩
  resources := emptyResources

def run (commands : List Command) : Database := commands.foldl apply emptyDatabase

end NhaTrangLaundry.Db.Approvals
