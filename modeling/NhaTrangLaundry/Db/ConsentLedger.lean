import NhaTrangLaundry.Db.ConsentEgress

/-! The three writers of the suppression rows: an inbound record, a clear-consent write, and
the release of a service block. -/

namespace NhaTrangLaundry.Db.ConsentEgress

open Lib Outcome Domain ServiceMessaging
open Text (strip)

def webhookEvent (db : Database) (id : Uuid) : Option WebhookEvent :=
  db.webhookEvents.find? fun e => e.id = id

def consentEvent (db : Database) (id : Uuid) : Option ConsentEvent :=
  db.consentEvents.find? fun e => e.id = id

def setEntry (db : Database) (key : SuppressionKey) (entry : SuppressionEntry) : Database :=
  { db with suppressionEntries := Function.update db.suppressionEntries key (some entry) }

/-- The new source of the row is a release on a message received after what blocked it. -/
def releasedBy (db : Database) (key : SuppressionKey) (old new : SuppressionEntry) : Bool :=
  match consentEvent db new.sourceConsentEventId, consentEvent db old.sourceConsentEventId with
  | some release, some blocked =>
    match webhookEvent db release.evidenceWebhookId with
    | some evidence =>
      release.id ≠ old.sourceConsentEventId && release.eventType = .release &&
        release.purpose = .transactional && release.contactBindingId = key.contactBindingId &&
        release.channel = key.channel && evidence.contactBindingId = some key.contactBindingId &&
        evidence.channel = key.channel && blocked.occurredAt < evidence.receivedAt
    | none => false
  | _, _ => false

/-- `enforce_suppression_projection_update`. -/
def projectionGuard (db : Database) (key : SuppressionKey) (old new : SuppressionEntry) : Bool :=
  new.rowVersion = old.rowVersion + 1 && old.updatedAt ≤ new.updatedAt &&
    if key.purpose = .transactional ∧ old.state ≠ .clear ∧ new.state = .clear then
      releasedBy db key old new
    else old.state ≠ .suppressed || new.state = .suppressed

/-- Write a suppression row under its foreign key and, over an existing row, its guard. -/
def writeEntry (db : Database) (key : SuppressionKey) (new : SuppressionEntry) :
    Except Refusal Database := do
  require ((consentEvent db new.sourceConsentEventId).isSome) .databaseError
  require (∀ old ∈ db.suppressionEntries key, projectionGuard db key old new) .databaseError
  .ok (setEntry db key new)

def validChannel (channel : String) : Prop := 1 ≤ channel.length ∧ channel.length ≤ 50

instance (channel : String) : Decidable (validChannel channel) := by
  unfold validChannel
  infer_instance

def insertConsentEvent (db : Database) (event : ConsentEvent) : Except Refusal Database := do
  require (consentEvent db event.id = none ∧ (webhookEvent db event.evidenceWebhookId).isSome ∧
    validChannel event.channel) .databaseError
  .ok { db with consentEvents := db.consentEvents ++ [event] }

/-- `record_clear_consent`: a withdrawal is never undone by a later clear write. -/
def recordClearConsent (db : Database) (contact : Uuid) (channel : String)
    (sourceConsentEventId : Uuid) (now : Int) : Except Refusal Database :=
  let key : SuppressionKey := ⟨contact, .marketing, channel⟩
  writeEntry db key (match db.suppressionEntries key with
    | none => ⟨.clear, sourceConsentEventId, 1, now⟩
    | some old => ⟨if old.state = .suppressed then .suppressed else .clear, sourceConsentEventId,
        old.rowVersion + 1, now⟩)

structure InboundWebhook where
  provider : String
  channelAccountId : String
  providerEventId : String
  eventType : String
  channel : String
  ciphertext : List Nat
  plaintextHash : String
  optOutDisposition : OptOutDisposition
  contactBindingId : Option Uuid
  optOutRegistryVersion : Option String
  receivedAt : Option Datetime

inductive InboxOutcome where
  | created
  | duplicate
deriving DecidableEq

structure InboxResult where
  webhookEventId : Uuid
  outcome : InboxOutcome
  processingStatus : ProcessingStatus

def digestOf (label : String) (s : String) : Bool :=
  label.toList.isPrefixOf s.toList && (s.toList.drop label.length).length = 64 &&
    (s.toList.drop label.length).all fun c =>
      ('0' ≤ c && c ≤ '9') || ('a' ≤ c && c ≤ 'f')

def rawHashPattern (s : String) : Bool := digestOf "RAW-SHA256-V1:" s || digestOf "RAW-HMAC-V2:" s

def createsSuppression (command : InboundWebhook) : Bool :=
  command.optOutDisposition = .withdraw || command.optOutDisposition = .pendingReviewBlocked

def validateCommand (command : InboundWebhook) : Except Refusal Unit := do
  require (∀ text ∈ [command.provider, command.channelAccountId, command.providerEventId,
    command.eventType, command.channel], strip text ≠ "")
    (.inboxState "inbox identity fields are required")
  require (command.ciphertext ≠ [] ∧ rawHashPattern command.plaintextHash)
    (.inboxState "encrypted inbox payload is invalid")
  require (∀ received ∈ command.receivedAt, received.aware)
    (.inboxState "received_at must be timezone-aware")
  require (createsSuppression command → command.contactBindingId ≠ none)
    (.inboxState "opt-out requires a server-bound contact")
  require (createsSuppression command → strip (command.optOutRegistryVersion.getD "") ≠ "")
    (.inboxState "opt-out requires its published registry version")

def recorded (db : Database) (command : InboundWebhook) : Option WebhookEvent :=
  db.webhookEvents.find? fun e => e.provider = command.provider &&
    e.channelAccountId = command.channelAccountId && e.providerEventId = command.providerEventId

def insertWebhookEvent (db : Database) (event : WebhookEvent) : Except Refusal Database := do
  require (webhookEvent db event.id = none ∧ event.provider.length ≤ 100 ∧
    event.channelAccountId.length ≤ 255 ∧ event.providerEventId.length ≤ 255 ∧
    event.eventType.length ≤ 100 ∧ validChannel event.channel) .databaseError
  .ok { db with webhookEvents := db.webhookEvents ++ [event] }

/-- A withdrawal stays a withdrawal; anything else an opt-out meets is at least pending. -/
def blockedState (old new : SuppressionState) : SuppressionState :=
  if old = .suppressed then .suppressed
  else if new = .suppressed then .suppressed
  else .pendingReviewBlocked

def optOutState (disposition : OptOutDisposition) : SuppressionState :=
  if disposition = .withdraw then .suppressed else .pendingReviewBlocked

def optOutEventType (disposition : OptOutDisposition) : ConsentEventType :=
  if disposition = .withdraw then .withdraw else .pendingReviewBlock

/-- The row an opt-out leaves: it rests on the opt-out recorded last. -/
def blockedEntry (old : Option SuppressionEntry) (state : SuppressionState) (source : Uuid)
    (occurredAt : Int) : SuppressionEntry :=
  match old with
  | none => ⟨state, source, 1, occurredAt⟩
  | some old =>
    ⟨blockedState old.state state, source, old.rowVersion + 1, max old.updatedAt occurredAt⟩

/-- One purpose of an opt-out: its consent event and its suppression row. -/
def suppressFor (command : InboundWebhook) (contact webhookEventId : Uuid) (occurredAt : Int)
    (purpose : Purpose) (eventId : Uuid) (db : Database) : Except Refusal Database := do
  let db ← insertConsentEvent db
    { id := eventId
      contactBindingId := contact
      purpose
      channel := command.channel
      eventType := optOutEventType command.optOutDisposition
      registryVersion := command.optOutRegistryVersion
      evidenceWebhookId := webhookEventId
      occurredAt
      releasedByStaffId := none
      releasedForStoreId := none }
  let key : SuppressionKey := ⟨contact, purpose, command.channel⟩
  writeEntry db key (blockedEntry (db.suppressionEntries key)
    (optOutState command.optOutDisposition) eventId occurredAt)

/-- `_insert_suppression`: a stop is recorded for both purposes. -/
def insertSuppression (command : InboundWebhook) (webhookEventId marketingEventId
    transactionalEventId : Uuid) (occurredAt : Int) (db : Database) : Except Refusal Database :=
  match command.contactBindingId with
  | none => .error (.inboxState "suppression contact binding is missing")
  | some contact => do
    let db ← suppressFor command contact webhookEventId occurredAt .marketing marketingEventId db
    suppressFor command contact webhookEventId occurredAt .transactional transactionalEventId db

structure InboundIds where
  event : Uuid
  marketing : Uuid
  transactional : Uuid

def optOutEffects (command : InboundWebhook) (ids : InboundIds) (occurredAt : Int)
    (db : Database) : Except Refusal Database :=
  if createsSuppression command then
    insertSuppression command ids.event ids.marketing ids.transactional occurredAt db
  else .ok db

def receivedInstant (command : InboundWebhook) (now : Datetime) : Int :=
  (command.receivedAt.getD now).instant

def newEvent (command : InboundWebhook) (now : Datetime) (id : Uuid) : WebhookEvent where
  id
  provider := command.provider
  channelAccountId := command.channelAccountId
  providerEventId := command.providerEventId
  payloadHash := command.plaintextHash
  eventType := command.eventType
  contactBindingId := command.contactBindingId
  channel := command.channel
  optOutDisposition := command.optOutDisposition
  optOutRegistryVersion := command.optOutRegistryVersion
  processingStatus := if command.optOutDisposition = .none then .dispatchPending else .safetyBlocked
  receivedAt := receivedInstant command now

/-- `InboxRepository.record`. -/
def record (db : Database) (command : InboundWebhook) (now : Datetime) (ids : InboundIds) :
    Except Refusal (InboxResult × Database) := do
  validateCommand command
  match recorded db command with
  | some existing =>
    if existing.payloadHash = command.plaintextHash then
      .ok (⟨existing.id, .duplicate, existing.processingStatus⟩, db)
    else .error .inboxReplayConflict
  | none =>
    let event := newEvent command now ids.event
    let db ← insertWebhookEvent db event
    let db ← optOutEffects command ids event.receivedAt db
    .ok (⟨ids.event, .created, event.processingStatus⟩, db)

structure TransactionalReleaseCommand where
  storeId : Uuid
  contactBindingId : Uuid
  channel : String
  evidenceWebhookEventId : Uuid
  principal : StaffPrincipal
  releasedAt : Option Datetime

structure StoredTransactionalRelease where
  releaseConsentEventId : Uuid
  contactBindingId : Uuid
  channel : String
  previousState : SuppressionState
  state : SuppressionState
  evidenceWebhookEventId : Uuid
  releasedAt : Datetime

def releaseRoles : List StaffRole := [.ownerAdmin, .opsApprover]

def releasableStates : List SuppressionState :=
  [.suppressed, .pendingReviewBlocked, .unknownBlocked]

def releaseChannel (value : String) : Except Refusal String := do
  require (strip value ≠ "" ∧ (strip value).length ≤ 50)
    (.consentState "CHANNEL_INVALID" "channel is invalid")
  .ok (strip value)

def blockingRow (db : Database) (contact : Uuid) (channel : String) :
    Option (SuppressionEntry × ConsentEvent) := do
  let entry ← db.suppressionEntries ⟨contact, .transactional, channel⟩
  let source ← consentEvent db entry.sourceConsentEventId
  some (entry, source)

/-- `_require_evidence`: a message of this contact on this channel after the stop. -/
def requireEvidence (db : Database) (evidenceId contact : Uuid) (channel : String)
    (blockedAt releasedAt : Int) : Except Refusal WebhookEvent :=
  match webhookEvent db evidenceId with
  | none => .error (.consentState "RELEASE_EVIDENCE_INVALID"
      "the cited message is not a message from this contact on this channel after the stop")
  | some evidence => do
    require (evidence.contactBindingId = some contact ∧ evidence.channel = channel ∧
      evidence.eventType = inboundMessageEventType ∧ evidence.optOutDisposition = .none ∧
      blockedAt < evidence.receivedAt ∧ evidence.receivedAt ≤ releasedAt)
      (.consentState "RELEASE_EVIDENCE_INVALID"
        "the cited message is not a message from this contact on this channel after the stop")
    .ok evidence

def writeRelease (db : Database) (command : TransactionalReleaseCommand) (channel : String)
    (entry : SuppressionEntry) (releasedAt : Int) (releaseId : Uuid) : Except Refusal Database := do
  let db ← insertConsentEvent db
    { id := releaseId
      contactBindingId := command.contactBindingId
      purpose := .transactional
      channel
      eventType := .release
      registryVersion := none
      evidenceWebhookId := command.evidenceWebhookEventId
      occurredAt := releasedAt
      releasedByStaffId := some command.principal.staffUserId
      releasedForStoreId := some command.storeId }
  writeEntry db ⟨command.contactBindingId, .transactional, channel⟩
    ⟨.clear, releaseId, entry.rowVersion + 1, max releasedAt entry.updatedAt⟩

/-- `release_transactional_suppression`, with the message it was justified by. The row is read
and written under one lock, so its version cannot be stale at the update. -/
def releaseTransactionalSuppression (db : Database) (command : TransactionalReleaseCommand)
    (now : Datetime) (releaseId : Uuid) :
    Except Refusal (StoredTransactionalRelease × WebhookEvent × Database) := do
  let releasedAt := command.releasedAt.getD now
  require releasedAt.aware (.consentState "RELEASE_TIME_INVALID" "release time is invalid")
  let channel ← releaseChannel command.channel
  let principal := command.principal
  require (principal.mfaVerified ∧ ∃ role ∈ principal.roles, role ∈ releaseRoles)
    (.authorization "an owner or approver with MFA is required to release a suppression")
  require (db.surroundings.storeMember principal.staffUserId command.storeId)
    (.authorization "store access is not authorized")
  require (db.surroundings.contactInStore command.storeId command.contactBindingId) .contactNotFound
  match blockingRow db command.contactBindingId channel with
  | none => .error (.consentState "NOTHING_TO_RELEASE"
      "no transactional suppression blocks this contact")
  | some (entry, source) =>
    require (entry.state ∈ releasableStates) (.consentState "NOTHING_TO_RELEASE"
      "no transactional suppression blocks this contact")
    let evidence ← requireEvidence db command.evidenceWebhookEventId command.contactBindingId
      channel source.occurredAt releasedAt.instant
    let db ← writeRelease db command channel entry releasedAt.instant releaseId
    .ok (⟨releaseId, command.contactBindingId, channel, entry.state, .clear,
      command.evidenceWebhookEventId, releasedAt⟩, evidence, db)

end NhaTrangLaundry.Db.ConsentEgress
