import NhaTrangLaundry.Domain.ServiceMessaging
import NhaTrangLaundry.Domain.Catalog
import NhaTrangLaundry.Lib.Uuid

/-! The inbox, the consent ledger with its suppression rows, and the egress check a sender
runs inside its own transaction. -/

namespace NhaTrangLaundry.Db.ConsentEgress

open Lib Outcome Domain ServiceMessaging Catalog

inductive Purpose where
  | marketing
  | transactional
deriving DecidableEq

inductive StaffRole where
  | ownerAdmin
  | opsApprover
  | operator
  | driver
  | accountant
  | auditor
deriving DecidableEq

structure StaffPrincipal where
  staffUserId : Uuid
  roles : List StaffRole
  mfaVerified : Bool

inductive ProcessingStatus where
  | dispatchPending
  | safetyBlocked
  | processed
deriving DecidableEq

structure WebhookEvent where
  id : Uuid
  provider : String
  channelAccountId : String
  providerEventId : String
  payloadHash : String
  eventType : String
  contactBindingId : Option Uuid
  channel : String
  optOutDisposition : OptOutDisposition
  optOutRegistryVersion : Option String
  processingStatus : ProcessingStatus
  receivedAt : Int

inductive ConsentEventType where
  | withdraw
  | pendingReviewBlock
  | policyUnavailableBlock
  | release
deriving DecidableEq

structure ConsentEvent where
  id : Uuid
  contactBindingId : Uuid
  purpose : Purpose
  channel : String
  eventType : ConsentEventType
  registryVersion : Option String
  evidenceWebhookId : Uuid
  occurredAt : Int
  releasedByStaffId : Option Uuid
  releasedForStoreId : Option Uuid

/-- The primary key of `suppression_entries`. -/
structure SuppressionKey where
  contactBindingId : Uuid
  purpose : Purpose
  channel : String
deriving DecidableEq

structure SuppressionEntry where
  state : SuppressionState
  sourceConsentEventId : Uuid
  rowVersion : Nat
  updatedAt : Int

inductive EnvelopeStatus where
  | approvedForManualSend
  | manualSendRecorded
deriving DecidableEq

structure ManualSendEnvelope where
  id : Uuid
  approvalRequestId : Uuid
  resourceId : Uuid
  resourceVersion : Int
  snapshotHash : String
  renderedHash : String
  recipientBindingId : Uuid
  channel : String
  purpose : Purpose
  status : EnvelopeStatus
  rowVersion : Int
  preparedBy : Uuid
  preparedAt : Int
  updatedAt : Int

structure ManualSendAttestation where
  id : Uuid
  manualSendEnvelopeId : Uuid
  approvalRequestId : Uuid
  exactRenderedHash : String
  resourceVersion : Int
  actorId : Uuid
  channel : String
  recipientBindingId : Uuid
  sentAt : Int
  recordedAt : Int

inductive ApprovalStatus where
  | requested
  | approved
  | executing
  | executed
  | failed
  | manualReview
  | dlq
  | rejected
  | expired
  | cancelled
deriving DecidableEq

/-- An approval as a manual send reads it. -/
structure Approval where
  resourceId : Uuid
  resourceVersion : Int
  snapshotHash : String
  renderedHash : String
  action : String
  expiresAt : Int
  status : ApprovalStatus
  storeId : Uuid
  resourceType : String

structure MessageDraftBinding where
  storeId : Uuid
  contactBindingId : Uuid
  resourceVersion : Int
  snapshotHash : String
  renderedHash : String

structure BoundOrder where
  boundContactId : Uuid
  createdAt : Int
  commercialStatus : CommercialOrderStatus
  closedAt : Option Int

structure PublishedMessagingPolicy where
  policy : TransactionalMessagingPolicy
  version : Int
  snapshotHash : String

/-- The tables these transactions read and never write. -/
structure Surroundings where
  approvals : Uuid → Option Approval
  drafts : Uuid → Option MessageDraftBinding
  storeMember : Uuid → Uuid → Bool
  contactInStore : Uuid → Uuid → Bool
  orders : List BoundOrder
  publishedMessagingPolicy : Option PublishedMessagingPolicy

structure Database where
  webhookEvents : List WebhookEvent
  consentEvents : List ConsentEvent
  suppressionEntries : SuppressionKey → Option SuppressionEntry
  envelopes : List ManualSendEnvelope
  attestations : List ManualSendAttestation
  surroundings : Surroundings

structure EgressCheck where
  decision : EgressDecision
  suppressionState : Option SuppressionState
  consentActive : Bool
  purpose : String
  reasonCode : Option TransactionalRefusal
  basis : Option ServiceBasis
  policyVersion : Option Int
  policySnapshotHash : Option String
  evaluatedAt : Option Datetime

def EgressCheck.sendAllowed (check : EgressCheck) : Bool := check.decision = .allow

inductive Refusal where
  | inboxState (message : String)
  | inboxReplayConflict
  | authorization (message : String)
  | contactNotFound
  | consentState (reasonCode message : String)
  | manualSendState (message : String)
  | egressRefused (check : EgressCheck)
  | egressSuppression (message : String)
  | momentError (e : MomentError)
  | typeError
  | databaseError

def marketingPurpose : String := "MARKETING"

def transactionalPurpose : String := "TRANSACTIONAL"

def stateOf (db : Database) (contact : Uuid) (purpose : Purpose) (channel : String) :
    Option SuppressionState :=
  (db.suppressionEntries ⟨contact, purpose, channel⟩).map SuppressionEntry.state

def inboundMessageEventType : String := "MESSAGE"

/-- `max(...)` over the rows, `NULL` when there are none. -/
def latestOf (moments : List Int) : Option Int := moments.max?

def readServiceBasisFacts (db : Database) (contact : Uuid) (channel : String) (at' : Int) :
    ServiceBasisFacts where
  lastInboundMessageAt := latestOf ((db.webhookEvents.filter fun e =>
    e.contactBindingId = some contact && e.channel = channel &&
      e.eventType = inboundMessageEventType && e.optOutDisposition = .none &&
      e.receivedAt ≤ at').map WebhookEvent.receivedAt)
  hasOpenOrder := db.surroundings.orders.any fun o =>
    o.boundContactId = contact && o.createdAt ≤ at' &&
      ((o.commercialStatus ≠ .cancelled && o.commercialStatus ≠ .completed) ||
        (o.commercialStatus = .completed && o.closedAt.any (at' < ·)))
  lastOrderClosedAt := latestOf ((db.surroundings.orders.filter fun o =>
    o.boundContactId = contact).filterMap fun o => o.closedAt.filter (· ≤ at'))

def evaluateTransactionalEgress (db : Database) (contact : Uuid) (channel : String)
    (at' : Datetime) : Except Refusal EgressCheck := do
  let stored := stateOf db contact .transactional channel
  let published := db.surroundings.publishedMessagingPolicy
  let facts := readServiceBasisFacts db contact channel at'.instant
  let outcome ← (decideTransactionalEgress stored
    (published.map PublishedMessagingPolicy.policy) facts at').mapError .momentError
  .ok ⟨outcome.decision, stored, true, transactionalPurpose, outcome.refusal, outcome.basis,
    published.map PublishedMessagingPolicy.version,
    published.map PublishedMessagingPolicy.snapshotHash, some at'⟩

/-- No row is unknown, not clear, and unknown blocks. -/
def evaluateMarketingEgress (db : Database) (contact : Uuid) (channel : String)
    (consentActive : Bool) : EgressCheck :=
  let state := (stateOf db contact .marketing channel).getD .unknownBlocked
  let decision : EgressDecision :=
    if marketingSendAllowed consentActive state then .allow
    else if state = .suppressed then .suppressed
    else .requireHuman
  ⟨decision, some state, consentActive, marketingPurpose, none, none, none, none, none⟩

/-- The check inside the caller's transaction, with the lock on the contact and channel held. -/
def checkEgressAllowed (db : Database) (contact : Uuid) (channel purpose : String)
    (consentActive : Bool) (at' : Option Datetime) : Except Refusal EgressCheck :=
  if purpose = transactionalPurpose then
    match at' with
    | none => .error (.egressSuppression
        "a TRANSACTIONAL egress check needs the instant it judges")
    | some moment => evaluateTransactionalEgress db contact channel moment
  else if purpose = marketingPurpose then
    .ok (evaluateMarketingEgress db contact channel consentActive)
  else
    -- any other purpose is unknown policy, which fails closed
    .ok ⟨.requireHuman, some .unknownBlocked, consentActive, purpose, none, none, none, none, none⟩

lemma evaluateTransactionalEgress_allow {db : Database} {contact : Uuid} {channel : String}
    {at' : Datetime} {check : EgressCheck}
    (h : evaluateTransactionalEgress db contact channel at' = .ok check)
    (hallow : check.sendAllowed) :
    stateOf db contact .transactional channel = none ∨
      stateOf db contact .transactional channel = some .clear := by
  simp only [evaluateTransactionalEgress, bind_ok, mapError_ok] at h
  obtain ⟨outcome, hdecide, h⟩ := h
  cases h
  refine decideTransactionalEgress_allow hdecide ?_
  simpa [EgressCheck.sendAllowed] using hallow

lemma checkEgressAllowed_transactional {db : Database} {contact : Uuid} {channel : String}
    {consentActive : Bool} {at' : Datetime} {check : EgressCheck}
    (h : checkEgressAllowed db contact channel transactionalPurpose consentActive (some at') =
      .ok check) (hallow : check.sendAllowed) :
    stateOf db contact .transactional channel = none ∨
      stateOf db contact .transactional channel = some .clear := by
  rw [checkEgressAllowed, if_pos rfl] at h
  exact evaluateTransactionalEgress_allow h hallow

lemma checkEgressAllowed_marketing {db : Database} {contact : Uuid} {channel : String}
    {consentActive : Bool} {at' : Option Datetime} {check : EgressCheck}
    (h : checkEgressAllowed db contact channel marketingPurpose consentActive at' = .ok check)
    (hallow : check.sendAllowed) : stateOf db contact .marketing channel = some .clear := by
  unfold checkEgressAllowed at h
  rw [if_neg (by decide), if_pos rfl] at h
  cases h
  simp only [EgressCheck.sendAllowed, evaluateMarketingEgress, marketingSendAllowed] at hallow
  match hstate : stateOf db contact .marketing channel with
  | some .clear => rfl
  | some .suppressed | some .pendingReviewBlocked | some .unknownBlocked | none =>
    simp [hstate] at hallow

end NhaTrangLaundry.Db.ConsentEgress
