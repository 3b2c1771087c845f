import NhaTrangLaundry.Lib.Interleaving
import NhaTrangLaundry.Lib.Outcome
import NhaTrangLaundry.Lib.Uuid

/-! The binding of a provider's identity to a contact: any number of calls of
`resolve_or_create`, statement by statement under READ COMMITTED. -/

namespace NhaTrangLaundry.Db.ChannelBindings

open Lib Outcome
open Text (strip storable)

inductive ChannelProvider where
  | zaloOa
  | telegramSandbox
  | facebookMessenger
deriving DecidableEq

def ChannelProvider.value : ChannelProvider → String
  | .zaloOa => "ZALO_OA"
  | .telegramSandbox => "TELEGRAM_SANDBOX"
  | .facebookMessenger => "FACEBOOK_MESSENGER"

inductive ContactVerificationState where
  | unverified
  | verified
deriving DecidableEq

/-- The primary key of `contact_channel_bindings`. -/
structure Identity where
  provider : ChannelProvider
  providerUserRef : String
deriving DecidableEq

structure ContactBinding where
  identity : Identity
  contactBindingId : Uuid
  verificationState : ContactVerificationState
deriving DecidableEq

/-- A `CONTACT_CHANNEL_BINDING_CREATED` event of an aggregate's first version. -/
structure DomainEvent where
  aggregateId : Uuid
  provider : ChannelProvider
  verificationState : ContactVerificationState
deriving DecidableEq

/-- A `contact.binding_created.v1` row of the outbox. -/
structure OutboxRow where
  aggregateId : Uuid
  provider : ChannelProvider
  verificationState : ContactVerificationState
  idempotencyKey : String
deriving DecidableEq

/-- The rows that the calls write; an audit event is its aggregate. -/
structure Tables where
  bindings : List ContactBinding
  events : List DomainEvent
  audits : List Uuid
  outbox : List OutboxRow
deriving DecidableEq

def Tables.empty : Tables := ⟨[], [], [], []⟩

instance tablesAppend : Append Tables :=
  ⟨fun s t => ⟨s.bindings ++ t.bindings, s.events ++ t.events, s.audits ++ t.audits,
    s.outbox ++ t.outbox⟩⟩

@[simp] lemma bindings_append (s t : Tables) : (s ++ t).bindings = s.bindings ++ t.bindings := rfl
@[simp] lemma events_append (s t : Tables) : (s ++ t).events = s.events ++ t.events := rfl
@[simp] lemma audits_append (s t : Tables) : (s ++ t).audits = s.audits ++ t.audits := rfl
@[simp] lemma outbox_append (s t : Tables) : (s ++ t).outbox = s.outbox ++ t.outbox := rfl

inductive Refusal where
  | channelBinding (message : String)
  | databaseError
deriving DecidableEq

structure ResolvedContactBinding where
  providerUserRef : String
  contactId : Uuid
  verificationState : ContactVerificationState
  created : Bool
deriving DecidableEq

/-- Where a call stands. The material change runs from `missing` to its commit, which comes before
the last read, or after it when the caller's transaction was already open. -/
inductive Phase where
  | reading
  | missing
  | inserted
  | evented
  | audited
  | ledgered
  | answered (result : ResolvedContactBinding)
  | committed
  | found (result : ResolvedContactBinding)
  | returned (result : ResolvedContactBinding)
  /-- The call raised, and its transaction is rolled back. -/
  | failed (refusal : Refusal)
  /-- The call raised after its commit. -/
  | dropped
deriving DecidableEq

/-- A call, with the identifier that it draws and the rows it has written and not committed. -/
structure Call where
  identity : Identity
  contactBindingId : Uuid
  phase : Phase
  pending : Tables
deriving DecidableEq

abbrev World := Interleaved Tables Call

def Call.row (c : Call) : ContactBinding := ⟨c.identity, c.contactBindingId, .unverified⟩

def Call.event (c : Call) : DomainEvent := ⟨c.contactBindingId, c.identity.provider, .unverified⟩

def outboxOf (event : DomainEvent) : OutboxRow :=
  ⟨event.aggregateId, event.provider, event.verificationState,
    "contact-binding:" ++ event.provider.value ++ ":" ++ event.aggregateId.str⟩

/-- The check on the reference, before any statement. -/
def openCall (provider : ChannelProvider) (providerUserRef : String) (contactBindingId : Uuid) :
    Except Refusal Call := do
  let reference := strip providerUserRef
  require (reference ≠ "" ∧ reference.length ≤ 200)
    (.channelBinding "provider user reference is outside the accepted length")
  .ok ⟨⟨provider, reference⟩, contactBindingId, .reading, .empty⟩

/-- `SELECT … WHERE provider = %s AND provider_user_ref = %s`. -/
def stored (bindings : List ContactBinding) (identity : Identity) : Option ContactBinding :=
  bindings.find? fun b => b.identity = identity

def resolved (b : ContactBinding) (created : Bool) : ResolvedContactBinding :=
  ⟨b.identity.providerUserRef, b.contactBindingId, b.verificationState, created⟩

def Call.fail (c : Call) (refusal : Refusal) : Call :=
  { c with phase := .failed refusal, pending := .empty }

def firstRead (t : Tables) (c : Call) : Call :=
  if storable c.identity.providerUserRef = false then c.fail .databaseError
  else match stored t.bindings c.identity with
    | some b => { c with phase := .found (resolved b false) }
    | none => { c with phase := .missing }

/-- `INSERT … ON CONFLICT (provider, provider_user_ref) DO NOTHING`: it waits for a transaction that
has written the same key, and yields to one that has committed it. -/
def insertBinding (w : World) (c : Call) : Call :=
  if c.identity ∈ w.shared.bindings.map ContactBinding.identity then { c with phase := .inserted }
  else if ∃ d ∈ w.calls, ∃ b ∈ d.pending.bindings, b.identity = c.identity ∨
      (b.identity.provider = c.identity.provider ∧ b.contactBindingId = c.contactBindingId) then c
  else if ∃ b ∈ w.shared.bindings, b.identity.provider = c.identity.provider ∧
      b.contactBindingId = c.contactBindingId then c.fail .databaseError
  else { c with phase := .inserted, pending := { c.pending with bindings := [c.row] } }

/-- The event, unique for its aggregate, version and type. -/
def insertEvent (w : World) (c : Call) : Call :=
  if c.contactBindingId ∈ w.shared.events.map DomainEvent.aggregateId then c.fail .databaseError
  else if ∃ d ∈ w.calls, c.contactBindingId ∈ d.pending.events.map DomainEvent.aggregateId then c
  else { c with phase := .evented, pending := { c.pending with events := [c.event] } }

def insertAudit (c : Call) : Call :=
  { c with phase := .audited, pending := { c.pending with audits := [c.contactBindingId] } }

def insertOutbox (w : World) (c : Call) : Call :=
  if (outboxOf c.event).idempotencyKey ∈ w.shared.outbox.map OutboxRow.idempotencyKey then
    c.fail .databaseError
  else if ∃ d ∈ w.calls, (outboxOf c.event).idempotencyKey ∈
      d.pending.outbox.map OutboxRow.idempotencyKey then c
  else { c with phase := .ledgered, pending := { c.pending with outbox := [outboxOf c.event] } }

/-- The last read, which sees the call's own rows and what is committed. -/
def lastRead (t : Tables) (c : Call) : Option ResolvedContactBinding :=
  (stored (t.bindings ++ c.pending.bindings) c.identity).map fun b =>
    resolved b (b.contactBindingId = c.contactBindingId)

def disappeared : Refusal := .channelBinding "contact binding disappeared after insert"

def next (w : World) (c : Call) : Call :=
  match c.phase with
  | .reading => firstRead w.shared c
  | .missing => insertBinding w c
  | .inserted => insertEvent w c
  | .evented => insertAudit c
  | .audited => insertOutbox w c
  | .ledgered =>
    match lastRead w.shared c with
    | some result => { c with phase := .answered result }
    | none => c.fail disappeared
  | .committed =>
    match lastRead w.shared c with
    | some result => { c with phase := .returned result }
    | none => { c with phase := .dropped }
  | _ => c

def Phase.commit : Phase → Option Phase
  | .ledgered => some .committed
  | .answered result => some (.returned result)
  | _ => none

def Phase.abort : Phase → Phase
  | .found result => .found result
  | .returned result => .returned result
  | .committed => .dropped
  | .dropped => .dropped
  | .failed refusal => .failed refusal
  | _ => .failed .databaseError

inductive Command where
  | resolveOrCreate (provider : ChannelProvider) (providerUserRef : String) (contactBindingId : Uuid)
  | statement (i : Nat)
  | commit (i : Nat)
  | abort (i : Nat)

def apply (w : World) : Command → World
  | .resolveOrCreate provider providerUserRef contactBindingId =>
    match openCall provider providerUserRef contactBindingId with
    | .ok c => w.enter c
    | .error _ => w
  | .statement i =>
    match w.calls[i]? with
    | some c => w.put i (next w c) w.shared
    | none => w
  | .commit i =>
    match w.calls[i]? with
    | some c =>
      match c.phase.commit with
      | some phase => w.put i { c with phase, pending := .empty } (w.shared ++ c.pending)
      | none => w
    | none => w
  | .abort i =>
    match w.calls[i]? with
    | some c => w.put i { c with phase := c.phase.abort, pending := .empty } w.shared
    | none => w

def run (commands : List Command) : World := commands.foldl apply ⟨.empty, []⟩

end NhaTrangLaundry.Db.ChannelBindings
