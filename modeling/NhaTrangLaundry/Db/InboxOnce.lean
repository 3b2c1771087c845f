import Mathlib.Data.List.Nodup
import NhaTrangLaundry.Db.Inbox

/-! Every inbound event is recorded once, and when one of them stands in the way of another. -/

namespace NhaTrangLaundry.Db.Inbox

open Lib Outcome Domain ServiceMessaging ConsentEgress
open Text (strip storable)

variable {inbox inbox' : Tables} {call : Call} {command : InboundWebhook}

section Texts

lemma toList_conflictKey (id : Uuid) :
    (conflictKey id).toList = "inbox-replay-conflict:".toList ++ id.str.toList :=
  String.toList_append

lemma toList_dispatchKey (i : Identity) :
    (dispatchKey i).toList = "webhook:".toList ++ (i.provider.toList ++ (':' ::
      (i.channelAccountId.toList ++ ':' :: i.providerEventId.toList))) := by
  unfold dispatchKey
  simp only [String.toList_append, List.append_assoc]
  rfl

lemma storable_iff {s : String} : storable s = true ↔ '\x00' ∉ s.toList := by
  rw [storable, List.all_eq_true]
  constructor
  · intro h hc
    exact absurd rfl (of_decide_eq_true (h _ hc))
  · intro h c hc
    refine decide_eq_true fun heq => h ?_
    rwa [← heq]

lemma digitChar_ne_zero {d : Nat} (h : d < 16) : Nat.digitChar d ≠ '\x00' := by
  interval_cases d <;> decide

lemma nul_not_mem_str (id : Uuid) : '\x00' ∉ id.str.toList := by
  rw [Uuid.str, String.toList_ofList]
  intro hc
  have hdashed := Uuid.mem_dashed (h := id.hex) (c := '\x00') hc
  rcases hdashed with hhex | hdash
  · obtain ⟨d, hd, heq⟩ := Uuid.mem_hex hhex
    exact digitChar_ne_zero hd heq.symm
  · exact absurd hdash (by decide)

lemma storable_conflictKey (id : Uuid) : storable (conflictKey id) = true := by
  have hlabel : '\x00' ∉ "inbox-replay-conflict:".toList := by simp
  rw [storable_iff, toList_conflictKey, List.mem_append, not_or]
  exact ⟨hlabel, nul_not_mem_str id⟩

lemma storable_dispatchKey {i : Identity} (hp : storable i.provider = true)
    (ha : storable i.channelAccountId = true) (he : storable i.providerEventId = true) :
    storable (dispatchKey i) = true := by
  rw [storable_iff] at hp ha he ⊢
  rw [toList_dispatchKey]
  simp only [List.mem_append, List.mem_cons, not_or]
  exact ⟨by decide, hp, by decide, ha, by decide, he⟩

lemma conflictKey_injective : Function.Injective conflictKey := by
  intro a b h
  have hlist := congrArg String.toList h
  rw [toList_conflictKey, toList_conflictKey] at hlist
  exact Uuid.str_injective (String.toList_inj.mp (List.append_cancel_left hlist))

/-- A dispatch key is no conflict key: their first letters differ. -/
lemma dispatchKey_ne_conflictKey (i : Identity) (id : Uuid) : dispatchKey i ≠ conflictKey id := by
  intro h
  have hhead := congrArg (fun s : String => s.toList.head?) h
  simp only [toList_dispatchKey, toList_conflictKey] at hhead
  rw [List.head?_append_of_ne_nil _ (by decide), List.head?_append_of_ne_nil _ (by decide)] at hhead
  exact absurd hhead (by decide)

lemma split_inj {c : Char} {l m l' m' : List Char} (hl : c ∉ l) (hl' : c ∉ l')
    (h : l ++ c :: m = l' ++ c :: m') : l = l' ∧ m = m' := by
  induction l generalizing l' with
  | nil =>
    cases l' with
    | nil => exact ⟨rfl, List.tail_eq_of_cons_eq h⟩
    | cons d l' => exact absurd (List.mem_cons.mpr (.inl (List.head_eq_of_cons_eq h))) hl'
  | cons d l ih =>
    cases l' with
    | nil => exact absurd (List.mem_cons.mpr (.inl (List.head_eq_of_cons_eq h).symm)) hl
    | cons d' l' =>
      obtain ⟨hhead, htail⟩ := List.cons_eq_cons.mp h
      obtain ⟨rfl, rfl⟩ := ih (fun hc => hl (List.mem_cons_of_mem _ hc))
        (fun hc => hl' (List.mem_cons_of_mem _ hc)) htail
      rw [hhead]
      exact ⟨rfl, rfl⟩

lemma length_pos_of_strip {s : String} (h : strip s ≠ "") : 1 ≤ s.length := by
  by_contra hlength
  have hempty : s = "" := by
    rw [← String.length_eq_zero_iff]
    omega
  subst hempty
  exact h rfl

end Texts

section Opting

lemma blockedState_ne_clear (old new : SuppressionState) : blockedState old new ≠ .clear := by
  rw [blockedState]
  split_ifs <;> simp

lemma projectionGuard_blockedEntry (db : Database) (key : SuppressionKey) (old : SuppressionEntry)
    (state : SuppressionState) (source : Uuid) (at' : Int) :
    projectionGuard db key old (blockedEntry (some old) state source at') = true := by
  have hne := blockedState_ne_clear old.state state
  simp only [projectionGuard, blockedEntry, hne, and_false, if_false, decide_true, Bool.true_and,
    le_max_left]
  cases hold : decide (old.state = .suppressed) with
  | false => simp [decide_eq_false_iff_not.mp hold]
  | true => simp [blockedState, decide_eq_true_eq.mp hold]

lemma suppressFor_succeeds {contact webhookEventId eventId : Uuid} {occurredAt : Int}
    {db : Database} (purpose : Purpose) (hfresh : consentEvent db eventId = none)
    (hevent : (webhookEvent db webhookEventId).isSome = true) (hchannel : validChannel command.channel) :
    ∃ db' event, suppressFor command contact webhookEventId occurredAt purpose eventId db = .ok db' ∧
      event.id = eventId ∧ db'.webhookEvents = db.webhookEvents ∧
      db'.consentEvents = db.consentEvents ++ [event] := by
  rw [suppressFor, insertConsentEvent, require_true ⟨hfresh, hevent, hchannel⟩]
  simp only [ok_bind]
  rw [writeEntry, require_true, require_true]
  · exact ⟨_, _, rfl, rfl, rfl, rfl⟩
  · intro old hold
    rw [Option.mem_def] at hold
    rw [hold]
    exact projectionGuard_blockedEntry _ _ _ _ _ _
  · rw [consentEvent, List.find?_append]
    rw [consentEvent] at hfresh
    cases h : db.suppressionEntries ⟨contact, purpose, command.channel⟩ <;> simp [blockedEntry]

lemma optOutEffects_succeeds (ids : InboundIds) (occurredAt : Int) (db : Database)
    (hvalid : createsSuppression command = true → command.contactBindingId ≠ none)
    (hmarketing : consentEvent db ids.marketing = none)
    (htransactional : consentEvent db ids.transactional = none)
    (hapart : ids.marketing ≠ ids.transactional)
    (hevent : (webhookEvent db ids.event).isSome = true) (hchannel : validChannel command.channel) :
    ∃ db', optOutEffects command ids occurredAt db = .ok db' ∧
      db'.webhookEvents = db.webhookEvents := by
  rw [optOutEffects]
  split_ifs with hcreates
  · obtain ⟨contact, hcontact⟩ := Option.ne_none_iff_exists'.mp (hvalid hcreates)
    obtain ⟨db₁, event₁, hfirst, hid, hwebhooks₁, hconsents⟩ :=
      suppressFor_succeeds .marketing hmarketing hevent hchannel
    have hsecond : consentEvent db₁ ids.transactional = none := by
      rw [consentEvent, hconsents, List.find?_append, ← consentEvent, htransactional]
      simp [hid, hapart]
    have hevent₁ : (webhookEvent db₁ ids.event).isSome = true := by
      rw [webhookEvent, hwebhooks₁]
      exact hevent
    obtain ⟨db₂, _, hsecond, -, hwebhooks₂, -⟩ :=
      suppressFor_succeeds .transactional hsecond hevent₁ hchannel
    refine ⟨db₂, ?_, hwebhooks₂.trans hwebhooks₁⟩
    rw [insertSuppression, hcontact]
    exact bind_ok.mpr ⟨db₁, hfirst, hsecond⟩
  · exact ⟨db, rfl, rfl⟩

end Opting

def Fits (command : InboundWebhook) : Prop :=
  columnsStorable command ∧ command.provider.length ≤ 100 ∧
    command.channelAccountId.length ≤ 255 ∧ command.providerEventId.length ≤ 255 ∧
    command.eventType.length ≤ 100 ∧ command.channel.length ≤ 50

instance (command : InboundWebhook) : Decidable (Fits command) := by
  unfold Fits
  infer_instance

def Separate (inbox : Tables) (command : InboundWebhook) : Prop :=
  ∀ e ∈ inbox.db.webhookEvents, dispatchKey (identityOf e) = dispatchKey (identity command) →
    identityOf e = identity command

def Plain (i : Identity) : Prop :=
  ':' ∉ i.provider.toList ∧ ':' ∉ i.channelAccountId.toList ∧ ':' ∉ i.providerEventId.toList

lemma eq_of_plain {i j : Identity} (hi : Plain i) (h : dispatchKey j = dispatchKey i) : j = i := by
  obtain ⟨hprovider, haccount, hevent⟩ := hi
  have hlist := congrArg String.toList h
  rw [toList_dispatchKey, toList_dispatchKey, List.append_cancel_left_eq] at hlist
  have hcount := congrArg (List.count ':') hlist
  simp only [List.count_append, List.count_cons_self, List.count_eq_zero_of_not_mem hprovider,
    List.count_eq_zero_of_not_mem haccount, List.count_eq_zero_of_not_mem hevent] at hcount
  have hprovider' : ':' ∉ j.provider.toList := List.count_eq_zero.mp (by omega)
  have haccount' : ':' ∉ j.channelAccountId.toList := List.count_eq_zero.mp (by omega)
  obtain ⟨hsameProvider, hrest⟩ := split_inj hprovider' hprovider hlist
  obtain ⟨hsameAccount, hsameEvent⟩ := split_inj haccount' haccount hrest
  cases i
  cases j
  rw [Identity.mk.injEq]
  exact ⟨String.toList_inj.mp hsameProvider, String.toList_inj.mp hsameAccount,
    String.toList_inj.mp hsameEvent⟩

def identities (inbox : Tables) : List Identity := inbox.db.webhookEvents.map identityOf

lemma recorded_some {existing : WebhookEvent} (h : recorded inbox.db command = some existing) :
    existing ∈ inbox.db.webhookEvents ∧ identityOf existing = identity command := by
  have hsame := List.find?_some h
  simp only [Bool.and_eq_true, decide_eq_true_eq] at hsame
  refine ⟨List.mem_of_find?_eq_some h, ?_⟩
  rw [identityOf, identity, hsame.1.1, hsame.1.2, hsame.2]

lemma recorded_none : recorded inbox.db command = none ↔ identity command ∉ identities inbox := by
  rw [recorded, List.find?_eq_none, identities, List.mem_map]
  constructor
  · rintro h ⟨e, he, heq⟩
    refine h e he ?_
    simp only [identityOf, identity, Identity.mk.injEq] at heq
    simp [heq]
  · rintro h e he hsame
    simp only [Bool.and_eq_true, decide_eq_true_eq] at hsame
    refine h ⟨e, he, ?_⟩
    rw [identityOf, identity, hsame.1.1, hsame.1.2, hsame.2]

section Validity

lemma valid_texts (h : validateCommand command = .ok ()) :
    strip command.provider ≠ "" ∧ strip command.channelAccountId ≠ "" ∧
      strip command.providerEventId ≠ "" ∧ strip command.eventType ≠ "" ∧
      strip command.channel ≠ "" := by
  simp only [validateCommand, bind_ok, require_ok] at h
  obtain ⟨_, htexts, _⟩ := h
  simpa using htexts

lemma valid_hash (h : validateCommand command = .ok ()) :
    rawHashPattern command.plaintextHash = true := by
  simp only [validateCommand, bind_ok, require_ok] at h
  obtain ⟨_, _, _, ⟨_, hhash⟩, _⟩ := h
  exact hhash

lemma valid_contact (h : validateCommand command = .ok ()) :
    createsSuppression command = true → command.contactBindingId ≠ none := by
  simp only [validateCommand, bind_ok, require_ok] at h
  obtain ⟨_, _, _, _, _, _, _, hcontact, _⟩ := h
  exact hcontact

lemma validChannel_of_fits (h : validateCommand command = .ok ()) (hfits : Fits command) :
    validChannel command.channel :=
  ⟨length_pos_of_strip (valid_texts h).2.2.2.2, hfits.2.2.2.2.2⟩

end Validity

lemma newEvent_identity (command : InboundWebhook) (now : Datetime) (id : Uuid) :
    identityOf (newEvent command now id) = identity command :=
  rfl

lemma create_succeeds (hvalid : validateCommand call.command = .ok ()) (hfits : Fits call.command)
    (hfresh : Fresh inbox call) (hkey : dispatchKey (identity call.command) ∉ inbox.outboxKeys) :
    ∃ db, db.webhookEvents =
        inbox.db.webhookEvents ++ [newEvent call.command call.now call.ids.event] ∧
      create inbox call = .ok
        (⟨call.ids.event, .created, (newEvent call.command call.now call.ids.event).processingStatus⟩,
          { inbox with db, outboxKeys := inbox.outboxKeys ++ [dispatchKey (identity call.command)] }) := by
  have hchannel := validChannel_of_fits hvalid hfits
  obtain ⟨hstorable, hprovider, haccount, hevent, htype, -⟩ := hfits
  have hinsert : insertWebhookEvent inbox.db (newEvent call.command call.now call.ids.event) =
      .ok { inbox.db with webhookEvents :=
        inbox.db.webhookEvents ++ [newEvent call.command call.now call.ids.event] } := by
    rw [insertWebhookEvent, require_true]
    · rfl
    · exact ⟨hfresh.event, hprovider, haccount, hevent, htype, hchannel⟩
  obtain ⟨db, heffects, hevents⟩ := optOutEffects_succeeds call.ids
    (newEvent call.command call.now call.ids.event).receivedAt
    { inbox.db with webhookEvents :=
        inbox.db.webhookEvents ++ [newEvent call.command call.now call.ids.event] }
    (valid_contact hvalid) hfresh.marketing hfresh.transactional hfresh.apart
    (by simp [webhookEvent, newEvent]) hchannel
  have htext : storable (dispatchKey (identity call.command)) = true :=
    storable_dispatchKey (hstorable _ (by simp [identity])) (hstorable _ (by simp [identity]))
      (hstorable _ (by simp [identity]))
  refine ⟨db, hevents, ?_⟩
  rw [create, require_true hstorable]
  refine bind_ok.mpr ⟨_, rfl, bind_ok.mpr ⟨_, hinsert, bind_ok.mpr ⟨db, heffects, ?_⟩⟩⟩
  rw [writeOutbox, require_true ⟨htext, hkey⟩]
  rfl

lemma create_ok {result : InboxResult} (h : create inbox call = .ok (result, inbox')) :
    Fits call.command ∧ dispatchKey (identity call.command) ∉ inbox.outboxKeys := by
  simp only [create, bind_ok, require_ok] at h
  obtain ⟨_, hstorable, db₁, hinsert, db₂, heffects, inbox₂, hwrite, _⟩ := h
  simp only [insertWebhookEvent, bind_ok, require_ok] at hinsert
  obtain ⟨_, ⟨_, hprovider, haccount, hevent, htype, hchannel⟩, _⟩ := hinsert
  simp only [writeOutbox, bind_ok, require_ok] at hwrite
  obtain ⟨_, ⟨_, hkey⟩, _⟩ := hwrite
  exact ⟨⟨hstorable, hprovider, haccount, hevent, htype, hchannel.2⟩, hkey⟩

/-- The outbox holds the keys of the events and of the conflicts, each of them once, and every
event was written by a call. -/
structure Kept (calls : List Call) (inbox : Tables) : Prop where
  keys : ∀ key, key ∈ inbox.outboxKeys ↔
    (∃ e ∈ inbox.db.webhookEvents, dispatchKey (identityOf e) = key) ∨
      ∃ c ∈ inbox.conflicts, conflictKey c.id = key
  unique : inbox.outboxKeys.Nodup
  distinct : ((identities inbox).map dispatchKey).Nodup
  hashes : ∀ e ∈ inbox.db.webhookEvents, rawHashPattern e.payloadHash = true
  called : ∀ e ∈ inbox.db.webhookEvents, ∃ call ∈ calls,
    (validateCommand call.command = .ok () ∧ Fits call.command) ∧
      identity call.command = identityOf e

variable {calls : List Call}

lemma nodup_snoc {α : Type} {l : List α} {a : α} : (l ++ [a]).Nodup ↔ a ∉ l ∧ l.Nodup := by
  rw [← List.concat_eq_append, List.nodup_concat]

lemma Kept.conflictKey_free (h : Kept calls inbox) {id : Uuid}
    (hid : id ∉ inbox.conflicts.map ReplayConflict.id) : conflictKey id ∉ inbox.outboxKeys := by
  rw [h.keys]
  rintro (⟨e, _, heq⟩ | ⟨c, hc, heq⟩)
  · exact dispatchKey_ne_conflictKey _ _ heq
  · exact hid (List.mem_map.mpr ⟨c, hc, conflictKey_injective heq⟩)

lemma Kept.dispatchKey_mem (h : Kept calls inbox) {i : Identity} :
    dispatchKey i ∈ inbox.outboxKeys ↔ ∃ j ∈ identities inbox, dispatchKey j = dispatchKey i := by
  rw [h.keys]
  constructor
  · rintro (⟨e, he, heq⟩ | ⟨c, _, heq⟩)
    · exact ⟨identityOf e, List.mem_map_of_mem he, heq⟩
    · exact absurd heq.symm (dispatchKey_ne_conflictKey i c.id)
  · rintro ⟨j, hj, heq⟩
    obtain ⟨e, he, rfl⟩ := List.mem_map.mp hj
    exact .inl ⟨e, he, heq⟩

lemma Kept.identities_nodup (h : Kept calls inbox) : (identities inbox).Nodup :=
  List.Nodup.of_map _ h.distinct

lemma unused_kept (db : Database) : Kept [] (unused db) where
  keys key := by simp [unused]
  unique := List.nodup_nil
  distinct := List.nodup_nil
  hashes _ he := absurd he List.not_mem_nil
  called _ he := absurd he List.not_mem_nil

/-- What a call does to the tables: nothing, one conflict, or one event with its key. -/
inductive Change (inbox : Tables) (call : Call) : Tables → Prop
  | unchanged : Change inbox call inbox
  | conflict {c : ReplayConflict} :
    c.id ∉ inbox.conflicts.map ReplayConflict.id →
    Change inbox call { inbox with
      conflicts := inbox.conflicts ++ [c]
      outboxKeys := inbox.outboxKeys ++ [conflictKey c.id] }
  | event {db : Database} :
    validateCommand call.command = .ok () → Fits call.command →
    dispatchKey (identity call.command) ∉ inbox.outboxKeys →
    db.webhookEvents =
      inbox.db.webhookEvents ++ [newEvent call.command call.now call.ids.event] →
    Change inbox call { inbox with
      db, outboxKeys := inbox.outboxKeys ++ [dispatchKey (identity call.command)] }

lemma Change.kept {inbox' : Tables} (hchange : Change inbox call inbox') (h : Kept calls inbox) :
    Kept (calls ++ [call]) inbox' := by
  have hcalled : ∀ e ∈ inbox.db.webhookEvents, ∃ c ∈ calls ++ [call],
      (validateCommand c.command = .ok () ∧ Fits c.command) ∧
        identity c.command = identityOf e := by
    intro e he
    obtain ⟨c, hc, hwritten⟩ := h.called e he
    exact ⟨c, List.mem_append_left _ hc, hwritten⟩
  cases hchange with
  | unchanged => exact ⟨h.keys, h.unique, h.distinct, h.hashes, hcalled⟩
  | @conflict c hid =>
    refine ⟨fun key => ?_, ?_, h.distinct, h.hashes, hcalled⟩
    · simp only [List.mem_append, List.mem_singleton, h.keys key, or_and_right, exists_or,
        exists_eq_left, or_assoc, eq_comm (a := key)]
    · exact nodup_snoc.mpr ⟨h.conflictKey_free hid, h.unique⟩
  | @event db hvalid hfits hfree hevents =>
    have hids : db.webhookEvents.map identityOf =
        identities inbox ++ [identity call.command] := by
      rw [hevents, List.map_append, List.map_singleton, newEvent_identity]
      rfl
    refine ⟨fun key => ?_, ?_, ?_, fun e he => ?_, fun e he => ?_⟩
    · simp only [hevents, List.mem_append, List.mem_singleton, h.keys key, or_and_right, exists_or,
        exists_eq_left, newEvent_identity, eq_comm (a := key)]
      exact or_right_comm
    · exact nodup_snoc.mpr ⟨hfree, h.unique⟩
    · rw [identities, hids, List.map_append, List.map_singleton, nodup_snoc]
      refine ⟨fun hmem => hfree ?_, h.distinct⟩
      exact h.dispatchKey_mem.mpr (List.mem_map.mp hmem)
    · simp only [hevents, List.mem_append, List.mem_singleton] at he
      rcases he with he | rfl
      · exact h.hashes e he
      · exact valid_hash hvalid
    · simp only [hevents, List.mem_append, List.mem_singleton] at he
      rcases he with he | rfl
      · exact hcalled e he
      · exact ⟨call, List.mem_append_right _ (List.mem_singleton_self _), ⟨hvalid, hfits⟩, rfl⟩

section Answering

variable {existing : WebhookEvent}

lemma record_duplicate (hvalid : validateCommand call.command = .ok ())
    (hrecorded : recorded inbox.db call.command = some existing)
    (hhash : existing.payloadHash = call.command.plaintextHash) :
    record inbox call = (.ok ⟨existing.id, .duplicate, existing.processingStatus⟩, inbox) := by
  simp only [record, hvalid, transact, hrecorded, if_pos hhash]

def conflictOf (call : Call) (existing : WebhookEvent) : ReplayConflict where
  id := call.conflictId
  webhookEventId := existing.id
  expectedPayloadHash := existing.payloadHash
  observedPayloadHash := call.command.plaintextHash
  detectedAt := receivedInstant call.command call.now

lemma record_conflict (h : Kept calls inbox) (hvalid : validateCommand call.command = .ok ())
    (hfresh : Fresh inbox call) (hrecorded : recorded inbox.db call.command = some existing)
    (hhash : existing.payloadHash ≠ call.command.plaintextHash) :
    record inbox call = (.error .inboxReplayConflict, { inbox with
      conflicts := inbox.conflicts ++ [conflictOf call existing]
      outboxKeys := inbox.outboxKeys ++ [conflictKey call.conflictId] }) := by
  have hexpected := h.hashes existing (recorded_some hrecorded).1
  have hwritten : recordReplayConflict inbox call existing = .ok { inbox with
      conflicts := inbox.conflicts ++ [conflictOf call existing]
      outboxKeys := inbox.outboxKeys ++ [conflictKey call.conflictId] } := by
    rw [recordReplayConflict, require_true ⟨hfresh.conflict, hexpected, valid_hash hvalid⟩, ok_bind,
      writeOutbox, require_true ⟨storable_conflictKey _, h.conflictKey_free hfresh.conflict⟩]
    rfl
  simp only [record, hvalid, transact, hrecorded, if_neg hhash, hwritten, Functor.map, Except.map]

lemma record_create (hvalid : validateCommand call.command = .ok ())
    (hrecorded : recorded inbox.db call.command = none) {result : InboxResult} {written : Tables}
    (hcreate : create inbox call = .ok (result, written)) :
    record inbox call = (.ok result, written) := by
  simp only [record, hvalid, transact, hrecorded, hcreate, Functor.map, Except.map]

lemma record_refused (hvalid : validateCommand call.command = .ok ())
    (hrecorded : recorded inbox.db call.command = none)
    (hcreate : ∀ result written, create inbox call ≠ .ok (result, written)) :
    ∃ e, record inbox call = (.error e, inbox) := by
  cases hc : create inbox call with
  | ok written => exact absurd hc (hcreate _ _)
  | error e =>
    refine ⟨e, ?_⟩
    simp only [record, hvalid, transact, hrecorded, hc, Functor.map, Except.map]

lemma record_change (h : Kept calls inbox) (hfresh : Fresh inbox call) :
    Change inbox call (record inbox call).2 := by
  cases hv : validateCommand call.command with
  | error e =>
    simp only [record, hv]
    exact .unchanged
  | ok u =>
    cases hrecorded : recorded inbox.db call.command with
    | some existing =>
      by_cases hhash : existing.payloadHash = call.command.plaintextHash
      · rw [record_duplicate hv hrecorded hhash]
        exact .unchanged
      · rw [record_conflict h hv hfresh hrecorded hhash]
        exact .conflict (c := conflictOf call existing) hfresh.conflict
    | none =>
      by_cases hwritten : Fits call.command ∧ dispatchKey (identity call.command) ∉ inbox.outboxKeys
      · obtain ⟨db, hevents, hcreate⟩ := create_succeeds hv hwritten.1 hfresh hwritten.2
        rw [record_create hv hrecorded hcreate]
        exact .event hv hwritten.1 hwritten.2 hevents
      · obtain ⟨e, hrefused⟩ := record_refused hv hrecorded fun _ _ hcreate =>
          hwritten (create_ok hcreate)
        rw [hrefused]
        exact .unchanged

lemma run_kept {db : Database} (h : Run (unused db) calls inbox) : Kept calls inbox := by
  induction h with
  | start => exact unused_kept db
  | call _ hfresh ih => exact (record_change ih hfresh).kept ih

end Answering

/-- What a valid call is owed, whatever other identities are recorded: a known identity is
answered without a write when it is sent again, and its reuse for another payload is kept and
refused; an unseen one is recorded under its own key, unless its texts fit no column. -/
def Answered (inbox : Tables) (call : Call) : Prop :=
  match recorded inbox.db call.command with
  | some existing =>
    if existing.payloadHash = call.command.plaintextHash then
      record inbox call = (.ok ⟨existing.id, .duplicate, existing.processingStatus⟩, inbox)
    else
      record inbox call = (.error .inboxReplayConflict, { inbox with
        conflicts := inbox.conflicts ++ [conflictOf call existing]
        outboxKeys := inbox.outboxKeys ++ [conflictKey call.conflictId] })
  | none => Fits call.command → ∃ result db,
      record inbox call = (.ok result, { inbox with
        db, outboxKeys := inbox.outboxKeys ++ [dispatchKey (identity call.command)] }) ∧
      result.outcome = .created ∧ db.webhookEvents =
        inbox.db.webhookEvents ++ [newEvent call.command call.now call.ids.event]

lemma answered_iff (h : Kept calls inbox) (hvalid : validateCommand call.command = .ok ())
    (hfresh : Fresh inbox call) :
    Answered inbox call ↔ (Fits call.command → Separate inbox call.command) := by
  cases hrecorded : recorded inbox.db call.command with
  | some existing =>
    have hanswered : Answered inbox call := by
      simp only [Answered, hrecorded]
      split_ifs with hhash
      · exact record_duplicate hvalid hrecorded hhash
      · exact record_conflict h hvalid hfresh hrecorded hhash
    refine iff_of_true hanswered fun _ e he heq => ?_
    obtain ⟨hmem, hsame⟩ := recorded_some hrecorded
    rw [← hsame] at heq ⊢
    exact List.inj_on_of_nodup_map h.distinct (List.mem_map_of_mem he) (List.mem_map_of_mem hmem) heq
  | none =>
    have hunseen := recorded_none.mp hrecorded
    have hfree : Separate inbox call.command ↔
        dispatchKey (identity call.command) ∉ inbox.outboxKeys := by
      rw [h.dispatchKey_mem]
      constructor
      · rintro hseparate ⟨j, hj, heq⟩
        obtain ⟨e, he, rfl⟩ := List.mem_map.mp hj
        exact hunseen (hseparate e he heq ▸ hj)
      · intro hnone e he heq
        exact absurd ⟨identityOf e, List.mem_map_of_mem he, heq⟩ hnone
    simp only [Answered, hrecorded]
    refine forall_congr' fun hfits => ?_
    rw [hfree]
    constructor
    · rintro ⟨result, db, hanswer, _, _⟩ htaken
      obtain ⟨e, hrefused⟩ := record_refused hvalid hrecorded fun _ _ hcreate =>
        (create_ok hcreate).2 htaken
      rw [hrefused] at hanswer
      cases hanswer
    · intro hkey
      obtain ⟨db, hevents, hcreate⟩ := create_succeeds hvalid hfits hfresh hkey
      exact ⟨_, db, record_create hvalid hrecorded hcreate, rfl, hevents⟩

/-- A call the validation accepts, with texts every column takes. -/
def Receivable (call : Call) : Prop := validateCommand call.command = .ok () ∧ Fits call.command

def Unambiguous (calls : List Call) : Prop :=
  ∀ call ∈ calls, ∀ other ∈ calls, Receivable call → Receivable other →
    dispatchKey (identity call.command) = dispatchKey (identity other.command) →
    identity call.command = identity other.command

lemma identity_recorded (hinbox : Kept calls inbox) (hfresh : Fresh inbox call)
    (hcall : Receivable call) (hcalls : Unambiguous (calls ++ [call])) :
    identity call.command ∈ identities (record inbox call).2 := by
  have hseparate : Separate inbox call.command := by
    intro e he heq
    obtain ⟨other, hother, hreceivable, hsame⟩ := hinbox.called e he
    rw [← hsame] at heq ⊢
    exact hcalls other (List.mem_append_left _ hother) call
      (List.mem_append_right _ (List.mem_singleton_self _)) hreceivable hcall heq
  have hanswered := (answered_iff hinbox hcall.1 hfresh).mpr fun _ => hseparate
  cases hrecorded : recorded inbox.db call.command with
  | some existing =>
    have hmem : identity call.command ∈ identities inbox := by
      by_contra hunseen
      rw [recorded_none.mpr hunseen] at hrecorded
      cases hrecorded
    simp only [Answered, hrecorded] at hanswered
    split_ifs at hanswered <;> rw [hanswered] <;> exact hmem
  | none =>
    simp only [Answered, hrecorded] at hanswered
    obtain ⟨result, db, hanswer, _, hevents⟩ := hanswered hcall.2
    rw [hanswer, identities, hevents, List.map_append]
    exact List.mem_append_right _ (List.mem_singleton_self _)

lemma Change.mem_identities (hchange : Change inbox call inbox') {i : Identity}
    (h : i ∈ identities inbox) : i ∈ identities inbox' := by
  cases hchange with
  | unchanged => exact h
  | conflict _ => exact h
  | event _ _ _ hevents =>
    rw [identities, hevents, List.map_append]
    exact List.mem_append_left _ h

lemma run_recorded {db : Database} (h : Run (unused db) calls inbox) (hcalls : Unambiguous calls) :
    ∀ call ∈ calls, Receivable call → identity call.command ∈ identities inbox := by
  induction h with
  | start => exact fun _ hmem => absurd hmem List.not_mem_nil
  | @call calls inbox call hrun hfresh ih =>
    intro c hc hreceivable
    have hbefore : Unambiguous calls := fun a ha b hb =>
      hcalls a (List.mem_append_left _ ha) b (List.mem_append_left _ hb)
    rcases List.mem_append.mp hc with hc | hc
    · exact (record_change (run_kept hrun) hfresh).mem_identities (ih hbefore c hc hreceivable)
    · cases List.mem_singleton.mp hc
      exact identity_recorded (run_kept hrun) hfresh hreceivable hcalls

/-- No identity has two rows. The next valid call is owed its answer exactly when no other
recorded identity is joined to the same text, which no identity without a colon ever is, and the
identities of a run all have their row exactly when no two of them are. -/
theorem recorded_once_separate {db : Database} (h : Run (unused db) calls inbox) :
    (identities inbox).Nodup ∧ inbox.outboxKeys.Nodup ∧
    (∀ call, validateCommand call.command = .ok () → Fresh inbox call →
      (Answered inbox call ↔ (Fits call.command → Separate inbox call.command))) ∧
    (∀ call : Call, Plain (identity call.command) → Separate inbox call.command) ∧
    ((∀ call ∈ calls, Receivable call → identity call.command ∈ identities inbox) ↔
      Unambiguous calls) := by
  have hkept := run_kept h
  refine ⟨hkept.identities_nodup, hkept.unique, fun call hvalid hfresh => ?_,
    fun call hplain e _ heq => eq_of_plain hplain heq, fun hall => ?_, run_recorded h⟩
  · exact answered_iff hkept hvalid hfresh
  · intro call hcall other hother hreceivable hreceivable' heq
    exact List.inj_on_of_nodup_map hkept.distinct (hall call hcall hreceivable)
      (hall other hother hreceivable') heq

section Collision

def digest : String := "RAW-HMAC-V2:" ++ String.ofList (List.replicate 64 'a')

def messageFrom (channelAccountId providerEventId : String) : InboundWebhook where
  provider := "zalo"
  channelAccountId
  providerEventId
  eventType := "MESSAGE"
  channel := "ZALO"
  ciphertext := [1]
  plaintextHash := digest
  optOutDisposition := .none
  contactBindingId := none
  optOutRegistryVersion := none
  receivedAt := none

def quiet : Database where
  webhookEvents := []
  consentEvents := []
  suppressionEntries := fun _ => none
  envelopes := []
  attestations := []
  surroundings :=
    { approvals := fun _ => none
      drafts := fun _ => none
      storeMember := fun _ _ => false
      contactInStore := fun _ _ => false
      orders := []
      publishedMessagingPolicy := none }

def noon : Datetime := Datetime.ofUtc 63871200000000000 (by decide)

def drawing (n : Fin (2 ^ 128)) (command : InboundWebhook) : Call where
  command
  now := noon
  ids := ⟨⟨n⟩, ⟨n⟩, ⟨n + 1⟩⟩
  conflictId := ⟨n⟩

def first : Call := drawing 1 (messageFrom "oa:1" "2")

def second : Call := drawing 3 (messageFrom "oa" "1:2")

def afterFirst : Tables := (record (unused quiet) first).2

lemma first_fresh : Fresh (unused quiet) first where
  event := rfl
  marketing := rfl
  transactional := rfl
  apart := by decide
  conflict := List.not_mem_nil

lemma second_free : webhookEvent afterFirst.db second.ids.event = none ∧
    consentEvent afterFirst.db second.ids.marketing = none ∧
    consentEvent afterFirst.db second.ids.transactional = none ∧
    second.conflictId ∉ afterFirst.conflicts.map ReplayConflict.id ∧
    identity second.command ∉ identities afterFirst := by
  decide

lemma second_fresh : Fresh afterFirst second where
  event := second_free.1
  marketing := second_free.2.1
  transactional := second_free.2.2.1
  apart := by decide
  conflict := second_free.2.2.2.1

lemma run_first : Run (unused quiet) [first] afterFirst := .call .start first_fresh

theorem recorded_once_separate_first :
    Run (unused quiet) [first] afterFirst ∧ validateCommand second.command = .ok () ∧
      Fresh afterFirst second ∧
      (Answered afterFirst second ↔ (Fits second.command → Separate afterFirst second.command)) :=
  ⟨run_first, rfl, second_fresh, (recorded_once_separate run_first).2.2.1 second rfl second_fresh⟩

/-- The identities `(zalo, oa:1, 2)` and `(zalo, oa, 1:2)` share a key: once the first is
recorded, the second is refused. -/
theorem second_blocked_by_first :
    ¬ ∀ db calls inbox, Run (unused db) calls inbox → ∀ call,
      validateCommand call.command = .ok () → Fits call.command → Fresh inbox call →
      identity call.command ∉ identities inbox →
      ∃ result, (record inbox call).1 = .ok result := by
  intro h
  obtain ⟨result, hresult⟩ := h quiet [first] afterFirst run_first second rfl
    (by decide) second_fresh second_free.2.2.2.2
  have hrefused : (record afterFirst second).1 = .error .databaseError := rfl
  rw [hrefused] at hresult
  cases hresult

end Collision

end NhaTrangLaundry.Db.Inbox
