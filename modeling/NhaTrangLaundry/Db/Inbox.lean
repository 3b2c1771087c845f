import NhaTrangLaundry.Db.ConsentLedger

/-! The durable inbox: an inbound event with its dispatch key, and a reused provider identity
kept as a conflict before it is refused. -/

namespace NhaTrangLaundry.Db.Inbox

open Lib Outcome Domain ServiceMessaging ConsentEgress
open Text (strip storable)

structure ReplayConflict where
  id : Uuid
  webhookEventId : Uuid
  expectedPayloadHash : String
  observedPayloadHash : String
  detectedAt : Int

/-- The inbox tables with the keys of `outbox_events`, which are unique. -/
structure Tables where
  db : Database
  conflicts : List ReplayConflict
  outboxKeys : List String

/-- One call with what it draws: the clock and fresh identifiers. -/
structure Call where
  command : InboundWebhook
  now : Datetime
  ids : InboundIds
  conflictId : Uuid

/-- The provider's identity of an event, under which `webhook_events` is unique. -/
structure Identity where
  provider : String
  channelAccountId : String
  providerEventId : String
deriving DecidableEq

def identity (command : InboundWebhook) : Identity :=
  ⟨command.provider, command.channelAccountId, command.providerEventId⟩

def identityOf (event : WebhookEvent) : Identity :=
  ⟨event.provider, event.channelAccountId, event.providerEventId⟩

def dispatchKey (i : Identity) : String :=
  "webhook:" ++ i.provider ++ ":" ++ i.channelAccountId ++ ":" ++ i.providerEventId

def conflictKey (conflictId : Uuid) : String := "inbox-replay-conflict:" ++ conflictId.str

def writeOutbox (inbox : Tables) (key : String) : Except Refusal Tables := do
  require (storable key ∧ key ∉ inbox.outboxKeys) .databaseError
  .ok { inbox with outboxKeys := inbox.outboxKeys ++ [key] }

/-- No text of the command holds U+0000, which no column takes. -/
def columnsStorable (command : InboundWebhook) : Prop :=
  ∀ text ∈ [command.provider, command.channelAccountId, command.providerEventId,
    command.eventType, command.channel, command.plaintextHash,
    command.optOutRegistryVersion.getD ""], storable text

instance (command : InboundWebhook) : Decidable (columnsStorable command) :=
  List.decidableBAll _ _

def recordReplayConflict (inbox : Tables) (call : Call) (existing : WebhookEvent) :
    Except Refusal Tables := do
  require (call.conflictId ∉ inbox.conflicts.map ReplayConflict.id ∧
    rawHashPattern existing.payloadHash ∧ rawHashPattern call.command.plaintextHash) .databaseError
  writeOutbox { inbox with
    conflicts := inbox.conflicts ++ [{
      id := call.conflictId
      webhookEventId := existing.id
      expectedPayloadHash := existing.payloadHash
      observedPayloadHash := call.command.plaintextHash
      detectedAt := receivedInstant call.command call.now }] } (conflictKey call.conflictId)

/-- The writes of an unseen event, all in one transaction. -/
def create (inbox : Tables) (call : Call) : Except Refusal (InboxResult × Tables) := do
  require (columnsStorable call.command) .databaseError
  let event := newEvent call.command call.now call.ids.event
  let db ← insertWebhookEvent inbox.db event
  let db ← optOutEffects call.command call.ids event.receivedAt db
  let inbox ← writeOutbox { inbox with db } (dispatchKey (identity call.command))
  .ok (⟨call.ids.event, .created, event.processingStatus⟩, inbox)

/-- The transaction of a call: a conflict is committed, and only then refused. -/
def transact (inbox : Tables) (call : Call) : Except Refusal (Option InboxResult × Tables) :=
  match recorded inbox.db call.command with
  | some existing =>
    if existing.payloadHash = call.command.plaintextHash then
      .ok (some ⟨existing.id, .duplicate, existing.processingStatus⟩, inbox)
    else (fun inbox => (none, inbox)) <$> recordReplayConflict inbox call existing
  | none => (fun (result, inbox) => (some result, inbox)) <$> create inbox call

/-- `InboxRepository.record`: the answer, and the tables after it. -/
def record (inbox : Tables) (call : Call) : Except Refusal InboxResult × Tables :=
  match validateCommand call.command with
  | .error e => (.error e, inbox)
  | .ok _ =>
    match transact inbox call with
    | .error e => (.error e, inbox)
    | .ok (none, inbox) => (.error .inboxReplayConflict, inbox)
    | .ok (some result, inbox) => (.ok result, inbox)

/-- Where every run starts: nothing received, the other tables as they are. -/
def unused (db : Database) : Tables where
  db := { db with webhookEvents := [], consentEvents := [], suppressionEntries := fun _ => none }
  conflicts := []
  outboxKeys := []

/-- The identifiers a call draws are those of no row, as `uuid4` gives them. -/
structure Fresh (inbox : Tables) (call : Call) : Prop where
  event : webhookEvent inbox.db call.ids.event = none
  marketing : consentEvent inbox.db call.ids.marketing = none
  transactional : consentEvent inbox.db call.ids.transactional = none
  apart : call.ids.marketing ≠ call.ids.transactional
  conflict : call.conflictId ∉ inbox.conflicts.map ReplayConflict.id

/-- The inbox after a sequence of calls, each answered or refused. -/
inductive Run (start : Tables) : List Call → Tables → Prop
  | start : Run start [] start
  | call {calls : List Call} {inbox : Tables} {call : Call} :
    Run start calls inbox → Fresh inbox call → Run start (calls ++ [call]) (record inbox call).2

end NhaTrangLaundry.Db.Inbox
