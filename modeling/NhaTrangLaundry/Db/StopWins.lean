import NhaTrangLaundry.Db.ManualSends
import Mathlib.Data.List.Induction

/-! A stop wins over every send, and what a release of it is justified by. -/

namespace NhaTrangLaundry.Db.ConsentEgress

open Lib Outcome Domain ServiceMessaging

@[simp] lemma setEntry_self (db : Database) (key : SuppressionKey) (entry : SuppressionEntry) :
    (setEntry db key entry).suppressionEntries key = some entry := by
  simp [setEntry]

lemma setEntry_ne (db : Database) {key other : SuppressionKey} (entry : SuppressionEntry)
    (h : other ≠ key) :
    (setEntry db key entry).suppressionEntries other = db.suppressionEntries other := by
  simp [setEntry, h]

@[simp] lemma consentEvent_setEntry (db : Database) (key : SuppressionKey)
    (entry : SuppressionEntry) (id : Uuid) :
    consentEvent (setEntry db key entry) id = consentEvent db id :=
  rfl

lemma writeEntry_ok {db db' : Database} {key : SuppressionKey} {new : SuppressionEntry}
    (h : writeEntry db key new = .ok db') :
    (∀ old ∈ db.suppressionEntries key, projectionGuard db key old new) ∧
      db' = setEntry db key new := by
  simp only [writeEntry, bind_ok, require_ok] at h
  obtain ⟨-, -, -, hguard, h⟩ := h
  cases h
  exact ⟨hguard, rfl⟩

lemma insertConsentEvent_ok {db db' : Database} {event : ConsentEvent}
    (h : insertConsentEvent db event = .ok db') :
    consentEvent db event.id = none ∧
      db' = { db with consentEvents := db.consentEvents ++ [event] } := by
  simp only [insertConsentEvent, bind_ok, require_ok] at h
  obtain ⟨-, ⟨hfresh, -⟩, h⟩ := h
  cases h
  exact ⟨hfresh, rfl⟩

def Grows (db db' : Database) : Prop :=
  ∀ id event, consentEvent db id = some event → consentEvent db' id = some event

lemma grows_append (db : Database) (event : ConsentEvent) :
    Grows db { db with consentEvents := db.consentEvents ++ [event] } := by
  intro id e h
  simp only [consentEvent, List.find?_append] at h ⊢
  rw [h]
  rfl

lemma Grows.trans {a b c : Database} (hab : Grows a b) (hbc : Grows b c) : Grows a c :=
  fun id event h => hbc id event (hab id event h)

def restsOn (db : Database) (entry : SuppressionEntry) : Option Int :=
  (consentEvent db entry.sourceConsentEventId).map ConsentEvent.occurredAt

lemma Grows.restsOn {db db' : Database} (h : Grows db db') {entry : SuppressionEntry} {at' : Int}
    (hat : restsOn db entry = some at') : restsOn db' entry = some at' := by
  obtain ⟨event, hevent, rfl⟩ := Option.map_eq_some_iff.mp hat
  exact Option.map_eq_some_iff.mpr ⟨event, h _ _ hevent, rfl⟩

lemma suppressFor_ok {command : InboundWebhook} {contact webhookEventId eventId : Uuid}
    {occurredAt : Int} {purpose : Purpose} {db db' : Database}
    (h : suppressFor command contact webhookEventId occurredAt purpose eventId db = .ok db') :
    ∃ entry, db'.suppressionEntries =
        Function.update db.suppressionEntries ⟨contact, purpose, command.channel⟩ (some entry) ∧
      entry = blockedEntry (db.suppressionEntries ⟨contact, purpose, command.channel⟩)
        (optOutState command.optOutDisposition) eventId occurredAt ∧
      restsOn db' entry = some occurredAt ∧ Grows db db' := by
  simp only [suppressFor, bind_ok] at h
  obtain ⟨db₁, hinsert, hwrite⟩ := h
  obtain ⟨hfresh, rfl⟩ := insertConsentEvent_ok hinsert
  obtain ⟨-, rfl⟩ := writeEntry_ok hwrite
  refine ⟨_, rfl, rfl, ?_, grows_append db _⟩
  have hsource : ∀ old, (blockedEntry old (optOutState command.optOutDisposition) eventId
      occurredAt).sourceConsentEventId = eventId := by
    intro old
    cases old <;> rfl
  rw [restsOn, consentEvent_setEntry, hsource]
  simp only [consentEvent] at hfresh ⊢
  rw [List.find?_append, hfresh]
  simp

lemma blockedEntry_state (old : Option SuppressionEntry) (disposition : OptOutDisposition)
    (source : Uuid) (at' : Int) :
    (blockedEntry old (optOutState disposition) source at').state = .suppressed ∨
      (blockedEntry old (optOutState disposition) source at').state = .pendingReviewBlocked := by
  cases old <;> simp only [blockedEntry, blockedState, optOutState] <;> split_ifs <;> simp

lemma blockedEntry_suppressed {old : SuppressionEntry} (h : old.state = .suppressed)
    (state : SuppressionState) (source : Uuid) (at' : Int) :
    (blockedEntry (some old) state source at').state = .suppressed := by
  simp [blockedEntry, blockedState, h]

/-- What one transaction can do to the service row of one contact and channel, by what it
committed. -/
inductive RowChange (contact : Uuid) (channel : String) (db db' : Database) : Option Commit → Prop
  | stopped {entry : SuppressionEntry} {at' : Int} :
      db'.suppressionEntries ⟨contact, .transactional, channel⟩ = some entry →
      entry.state = .suppressed ∨ entry.state = .pendingReviewBlocked →
      restsOn db' entry = some at' →
      RowChange contact channel db db' (some (.optOut contact channel at'))
  | released {entry : SuppressionEntry} {blockedAt evidenceAt : Int} :
      db.suppressionEntries ⟨contact, .transactional, channel⟩ = some entry →
      entry.state ∈ releasableStates → restsOn db entry = some blockedAt →
      blockedAt < evidenceAt →
      RowChange contact channel db db' (some (.release contact channel evidenceAt))
  | kept {commit : Option Commit} :
      (∀ at', commit ≠ some (.optOut contact channel at')) →
      (∀ at', commit ≠ some (.release contact channel at')) →
      db'.suppressionEntries ⟨contact, .transactional, channel⟩ =
        db.suppressionEntries ⟨contact, .transactional, channel⟩ →
      RowChange contact channel db db' commit

/-- What holds of every transaction: the ledger grows, a marketing withdrawal stays, and the
service row of each contact and channel changes as its commit says. -/
structure Changed (db db' : Database) (commit : Option Commit) : Prop where
  grows : Grows db db'
  marketing : ∀ contact channel, stateOf db contact .marketing channel = some .suppressed →
    stateOf db' contact .marketing channel = some .suppressed
  row : ∀ contact channel, RowChange contact channel db db' commit

lemma Changed.of_same {db db' : Database} {commit : Option Commit}
    (hentries : db'.suppressionEntries = db.suppressionEntries)
    (hevents : db'.consentEvents = db.consentEvents)
    (hstop : ∀ contact channel at', commit ≠ some (.optOut contact channel at'))
    (hrelease : ∀ contact channel at', commit ≠ some (.release contact channel at')) :
    Changed db db' commit where
  grows id event h := by
    rw [consentEvent, hevents]
    exact h
  marketing contact channel h := by
    rw [stateOf, hentries]
    exact h
  row contact channel := .kept (hstop contact channel) (hrelease contact channel) (by rw [hentries])

lemma insertWebhookEvent_ok {db db' : Database} {event : WebhookEvent}
    (h : insertWebhookEvent db event = .ok db') :
    db' = { db with webhookEvents := db.webhookEvents ++ [event] } := by
  simp only [insertWebhookEvent, bind_ok, require_ok] at h
  obtain ⟨-, -, h⟩ := h
  cases h
  rfl

lemma stateOf_update_suppressed {db : Database} {entries : SuppressionKey → Option SuppressionEntry}
    {contact : Uuid} {channel : String} {key : SuppressionKey} {state : SuppressionState}
    {source : Uuid} {at' : Int}
    (hentries : entries = Function.update db.suppressionEntries key
      (some (blockedEntry (db.suppressionEntries key) state source at')))
    (h : (db.suppressionEntries ⟨contact, .marketing, channel⟩).map SuppressionEntry.state =
      some .suppressed) :
    (entries ⟨contact, .marketing, channel⟩).map SuppressionEntry.state = some .suppressed := by
  rw [hentries]
  by_cases hkey : (⟨contact, .marketing, channel⟩ : SuppressionKey) = key
  · subst hkey
    obtain ⟨old, hold, hstate⟩ := Option.map_eq_some_iff.mp h
    rw [Function.update_self, Option.map_some, hold, blockedEntry_suppressed hstate]
  · rw [Function.update_of_ne hkey]
    exact h

lemma changed_insertSuppression {command : InboundWebhook} {contact : Uuid}
    {ids : InboundIds} {occurredAt : Int} {db db' : Database}
    (hcontact : command.contactBindingId = some contact)
    (h : insertSuppression command ids.event ids.marketing ids.transactional occurredAt db =
      .ok db') : Changed db db' (some (.optOut contact command.channel occurredAt)) := by
  simp only [insertSuppression, hcontact, bind_ok] at h
  obtain ⟨db₁, hmarketing, htransactional⟩ := h
  obtain ⟨entry₁, hentries₁, rfl, -, hgrows₁⟩ := suppressFor_ok hmarketing
  obtain ⟨entry₂, hentries₂, rfl, hat₂, hgrows₂⟩ := suppressFor_ok htransactional
  refine ⟨hgrows₁.trans hgrows₂, fun c ch hstate => ?_, fun c ch => ?_⟩
  · exact stateOf_update_suppressed hentries₂ (stateOf_update_suppressed hentries₁ hstate)
  · by_cases hkey : c = contact ∧ ch = command.channel
    · obtain ⟨rfl, rfl⟩ := hkey
      refine .stopped ?_ (blockedEntry_state _ _ _ _) hat₂
      rw [hentries₂, Function.update_self]
    · refine .kept ?_ (by simp) ?_
      · rintro at' heq
        injection heq with heq
        injection heq with hc hch
        exact hkey ⟨hc.symm, hch.symm⟩
      · rw [hentries₂, Function.update_of_ne, hentries₁, Function.update_of_ne]
        · simp
        · intro heq
          injection heq with hc _ hch
          exact hkey ⟨hc, hch⟩

lemma changed_record {db db' : Database} {command : InboundWebhook} {now : Datetime}
    {ids : InboundIds} {result : InboxResult} (h : record db command now ids = .ok (result, db')) :
    Changed db db' (optOutOf command now result) := by
  simp only [record, bind_ok] at h
  obtain ⟨_, hvalid, h⟩ := h
  have hbound : createsSuppression command → command.contactBindingId ≠ none := by
    simp only [validateCommand, bind_ok, require_ok] at hvalid
    obtain ⟨-, -, -, -, -, -, -, hbound, -⟩ := hvalid
    exact hbound
  cases hrecorded : recorded db command with
  | some existing =>
    simp only [hrecorded] at h
    split at h
    · cases h
      refine Changed.of_same rfl rfl ?_ ?_ <;> simp [optOutOf]
    · cases h
  | none =>
    simp only [hrecorded, bind_ok] at h
    obtain ⟨db₁, hinsert, db₂, hsuppress, h⟩ := h
    cases h
    obtain rfl := insertWebhookEvent_ok hinsert
    by_cases hcreates : createsSuppression command = true
    · obtain ⟨contact, hcontact⟩ := Option.ne_none_iff_exists'.mp (hbound hcreates)
      rw [optOutEffects, if_pos hcreates] at hsuppress
      have hchanged := changed_insertSuppression hcontact hsuppress
      simp only [optOutOf, hcreates, hcontact, and_self, if_true, Option.map_some]
      -- the webhook event itself touches neither the ledger nor the rows
      exact ⟨hchanged.grows, hchanged.marketing, fun c ch => by
        cases hchanged.row c ch with
        | stopped hentry hstate hat => exact .stopped hentry hstate hat
        | kept hstop hrelease hrow => exact .kept hstop hrelease hrow⟩
    · rw [optOutEffects, if_neg hcreates] at hsuppress
      cases hsuppress
      refine Changed.of_same rfl rfl ?_ ?_ <;> simp [optOutOf, hcreates]

lemma changed_clearConsent {db db' : Database} {contact : Uuid} {channel : String} {source : Uuid}
    {now : Int} (h : recordClearConsent db contact channel source now = .ok db') :
    Changed db db' none := by
  obtain ⟨-, rfl⟩ := writeEntry_ok h
  refine ⟨fun id event h => h, fun c ch hstate => ?_, fun c ch => .kept (by simp) (by simp) ?_⟩
  · by_cases hkey : (⟨c, .marketing, ch⟩ : SuppressionKey) = ⟨contact, .marketing, channel⟩
    · injection hkey with hc _ hch
      subst hc hch
      obtain ⟨old, hold, hsuppressed⟩ := Option.map_eq_some_iff.mp hstate
      simp [stateOf, hold, hsuppressed]
    · rw [stateOf, setEntry_ne _ _ hkey]
      exact hstate
  · exact setEntry_ne _ _ (by simp)

lemma requireEvidence_ok {db : Database} {evidenceId contact : Uuid} {channel : String}
    {blockedAt releasedAt : Int} {evidence : WebhookEvent}
    (h : requireEvidence db evidenceId contact channel blockedAt releasedAt = .ok evidence) :
    blockedAt < evidence.receivedAt := by
  unfold requireEvidence at h
  split at h
  · cases h
  · simp only [bind_ok, require_ok] at h
    obtain ⟨-, ⟨-, -, -, -, hlater, -⟩, h⟩ := h
    cases h
    exact hlater

lemma blockingRow_some {db : Database} {contact : Uuid} {channel : String}
    {entry : SuppressionEntry} {source : ConsentEvent}
    (h : blockingRow db contact channel = some (entry, source)) :
    db.suppressionEntries ⟨contact, .transactional, channel⟩ = some entry ∧
      restsOn db entry = some source.occurredAt := by
  simp only [blockingRow, Option.bind_eq_bind, Option.bind_eq_some_iff, Option.some.injEq,
    Prod.mk.injEq] at h
  obtain ⟨e, hentry, s, hsource, rfl, rfl⟩ := h
  exact ⟨hentry, Option.map_eq_some_iff.mpr ⟨_, hsource, rfl⟩⟩

lemma writeRelease_ok {db db' : Database} {command : TransactionalReleaseCommand} {channel : String}
    {entry : SuppressionEntry} {releasedAt : Int} {releaseId : Uuid}
    (h : writeRelease db command channel entry releasedAt releaseId = .ok db') :
    Grows db db' ∧ ∃ new, db'.suppressionEntries = Function.update db.suppressionEntries
      ⟨command.contactBindingId, .transactional, channel⟩ (some new) := by
  simp only [writeRelease, bind_ok] at h
  obtain ⟨db₁, hinsert, hwrite⟩ := h
  obtain ⟨-, rfl⟩ := insertConsentEvent_ok hinsert
  obtain ⟨-, rfl⟩ := writeEntry_ok hwrite
  exact ⟨grows_append db _, _, rfl⟩

lemma changed_release {db db' : Database} {command : TransactionalReleaseCommand} {now : Datetime}
    {releaseId : Uuid} {stored : StoredTransactionalRelease} {evidence : WebhookEvent}
    (h : releaseTransactionalSuppression db command now releaseId = .ok (stored, evidence, db')) :
    Changed db db' (some (.release stored.contactBindingId stored.channel evidence.receivedAt)) := by
  simp only [releaseTransactionalSuppression, bind_ok, require_ok] at h
  obtain ⟨-, -, channel, -, -, -, -, -, -, -, h⟩ := h
  split at h
  · cases h
  next entry source hrow =>
  simp only [bind_ok, require_ok, Except.ok.injEq, Prod.mk.injEq] at h
  obtain ⟨-, hstate, e, hevidence, d, hwrite, rfl, rfl, rfl⟩ := h
  obtain ⟨hentry, hsource⟩ := blockingRow_some hrow
  obtain ⟨hgrows, new, hentries⟩ := writeRelease_ok hwrite
  refine ⟨hgrows, fun c ch hmarketing => ?_, fun c ch => ?_⟩
  · rw [stateOf, hentries, Function.update_of_ne (by simp)]
    exact hmarketing
  · by_cases hkey : c = command.contactBindingId ∧ ch = channel
    · obtain ⟨rfl, rfl⟩ := hkey
      exact .released hentry hstate hsource (requireEvidence_ok hevidence)
    · refine .kept (by simp) ?_ ?_
      · rintro at' heq
        injection heq with heq
        injection heq with hc hch
        exact hkey ⟨hc.symm, hch.symm⟩
      · rw [hentries, Function.update_of_ne]
        intro heq
        injection heq with hc _ hch
        exact hkey ⟨hc, hch⟩

lemma requireEgress_ok {db : Database} {contact : Uuid} {channel : String} {at' : Datetime}
    {check : EgressCheck} (h : requireEgress db contact channel at' = .ok check) :
    stateOf db contact .transactional channel = none ∨
      stateOf db contact .transactional channel = some .clear := by
  simp only [requireEgress, bind_ok, require_ok] at h
  obtain ⟨egress, hcheck, -, hallow, -⟩ := h
  exact checkEgressAllowed_transactional hcheck hallow

lemma prepare_ok {db db' : Database} {command : ManualSendPrepareCommand} {now : Datetime}
    {envelopeId : Uuid} {envelope : ManualSendEnvelope}
    (h : prepare db command now envelopeId = .ok (envelope, db')) :
    (stateOf db envelope.recipientBindingId .transactional envelope.channel = none ∨
      stateOf db envelope.recipientBindingId .transactional envelope.channel = some .clear) ∧
    db'.suppressionEntries = db.suppressionEntries ∧ db'.consentEvents = db.consentEvents := by
  simp only [prepare, bind_ok, require_ok, insertEnvelope, Except.ok.injEq, Prod.mk.injEq] at h
  obtain ⟨-, -, -, -, channel, -, approval, -, -, -, -, -, draft, -, -, -, check, hegress, -, -,
    rfl, rfl⟩ := h
  exact ⟨requireEgress_ok hegress, rfl, rfl⟩

lemma attest_ok {db db' : Database} {command : ManualSendAttestationCommand} {now : Datetime}
    {attestationId : Uuid} {envelope : ManualSendEnvelope}
    (h : attest db command now attestationId = .ok (envelope, db')) :
    (stateOf db envelope.recipientBindingId .transactional envelope.channel = none ∨
      stateOf db envelope.recipientBindingId .transactional envelope.channel = some .clear) ∧
    db'.suppressionEntries = db.suppressionEntries ∧ db'.consentEvents = db.consentEvents := by
  simp only [attest, bind_ok, require_ok] at h
  obtain ⟨-, -, -, -, -, -, locked, -, approval, -, -, -, -, -, -, -, -, -, -, -, -, -, -, -, -, -,
    check, hegress, h⟩ := h
  simp only [writeAttestation, bind_ok, require_ok, Except.ok.injEq, Prod.mk.injEq] at h
  obtain ⟨-, -, -, -, rfl, rfl⟩ := h
  exact ⟨requireEgress_ok hegress, rfl, rfl⟩

lemma changed_attempt {db db' : Database} {t : Transaction} {commit : Option Commit}
    (h : attempt db t = .ok (commit, db')) : Changed db db' commit := by
  cases t with
  | record command now ids =>
    simp only [attempt, bind_ok] at h
    obtain ⟨⟨result, db₁⟩, hrecord, h⟩ := h
    cases h
    exact changed_record hrecord
  | release command now releaseId =>
    simp only [attempt, bind_ok] at h
    obtain ⟨⟨stored, evidence, db₁⟩, hrelease, h⟩ := h
    cases h
    exact changed_release hrelease
  | clearConsent contact channel source now =>
    simp only [attempt, bind_ok] at h
    obtain ⟨db₁, hclear, h⟩ := h
    cases h
    exact changed_clearConsent hclear
  | prepare command now envelopeId =>
    simp only [attempt, bind_ok] at h
    obtain ⟨⟨envelope, db₁⟩, hprepare, h⟩ := h
    cases h
    obtain ⟨-, hentries, hevents⟩ := prepare_ok hprepare
    exact .of_same hentries hevents (by simp) (by simp)
  | attest command now attestationId =>
    simp only [attempt, bind_ok] at h
    obtain ⟨⟨envelope, db₁⟩, hattest, h⟩ := h
    cases h
    obtain ⟨-, hentries, hevents⟩ := attest_ok hattest
    exact .of_same hentries hevents (by simp) (by simp)
  | elsewhere surroundings =>
    cases h
    exact .of_same rfl rfl (by simp) (by simp)

lemma changed_apply (db : Database) (t : Transaction) :
    Changed db (apply db t) (committed db t) := by
  unfold apply committed
  cases h : attempt db t with
  | error e => exact .of_same rfl rfl (by simp) (by simp)
  | ok out => exact changed_attempt h

lemma unblocked_of_sent {db : Database} {t : Transaction} {contact : Uuid} {channel : String}
    (h : committed db t = some (.prepared contact channel) ∨
      committed db t = some (.attested contact channel)) :
    stateOf db contact .transactional channel = none ∨
      stateOf db contact .transactional channel = some .clear := by
  unfold committed at h
  cases hattempt : attempt db t with
  | error e => simp [hattempt] at h
  | ok out =>
    obtain ⟨commit, db'⟩ := out
    simp only [hattempt] at h
    cases t with
    | record command now ids =>
      simp only [attempt, bind_ok] at hattempt
      obtain ⟨⟨result, db₁⟩, -, hcommit⟩ := hattempt
      cases hcommit
      simp only [optOutOf] at h
      split at h <;> simp at h
    | release command now releaseId =>
      simp only [attempt, bind_ok] at hattempt
      obtain ⟨⟨stored, evidence, db₁⟩, -, hcommit⟩ := hattempt
      cases hcommit
      simp at h
    | clearConsent c ch source now =>
      simp only [attempt, bind_ok] at hattempt
      obtain ⟨db₁, -, hcommit⟩ := hattempt
      cases hcommit
      simp at h
    | prepare command now envelopeId =>
      simp only [attempt, bind_ok] at hattempt
      obtain ⟨⟨envelope, db₁⟩, hprepare, hcommit⟩ := hattempt
      cases hcommit
      simp only [Option.some.injEq, Commit.prepared.injEq, reduceCtorEq, or_false] at h
      obtain ⟨rfl, rfl⟩ := h
      exact (prepare_ok hprepare).1
    | attest command now attestationId =>
      simp only [attempt, bind_ok] at hattempt
      obtain ⟨⟨envelope, db₁⟩, hattest, hcommit⟩ := hattempt
      cases hcommit
      simp only [Option.some.injEq, Commit.attested.injEq, reduceCtorEq, false_or] at h
      obtain ⟨rfl, rfl⟩ := h
      exact (attest_ok hattest).1
    | elsewhere surroundings =>
      cases hattempt
      simp at h

lemma run_append (db : Database) (ts : List Transaction) (t : Transaction) :
    run db (ts ++ [t]) = apply (run db ts) t := by
  simp [run]

lemma history_append (db : Database) (ts : List Transaction) (t : Transaction) :
    history db (ts ++ [t]) = history db ts ++ (committed (run db ts) t).toList := by
  induction ts generalizing db with
  | nil => simp [history, run]
  | cons s ts ih =>
    rw [List.cons_append, history, ih, history, List.append_assoc]
    rfl

variable (contact : Uuid) (channel : String)

/-- What a commit does to the opt-outs of a contact and channel that no release has lifted. -/
def openStep (stops : List Int) : Commit → List Int
  | .optOut c ch at' => if c = contact ∧ ch = channel then stops ++ [at'] else stops
  | .release c ch _ => if c = contact ∧ ch = channel then [] else stops
  | .prepared _ _ | .attested _ _ => stops

/-- The opt-outs recorded since the last release, by when they were received. -/
def openStops (commits : List Commit) : List Int := commits.foldl (openStep contact channel) []

variable {contact channel}

lemma mem_foldl_openStep {stops : List Int} {at' : Int} (hat : at' ∈ stops) {after : List Commit}
    (hnone : ∀ e, Commit.release contact channel e ∉ after) :
    at' ∈ after.foldl (openStep contact channel) stops := by
  induction after generalizing stops with
  | nil => exact hat
  | cons commit after ih =>
    refine ih ?_ fun e he => hnone e (List.mem_cons_of_mem _ he)
    cases commit with
    | optOut c ch r =>
      simp only [openStep]
      split
      · exact List.mem_append_left _ hat
      · exact hat
    | release c ch e =>
      have hne : ¬ (c = contact ∧ ch = channel) := by
        rintro ⟨rfl, rfl⟩
        exact hnone e List.mem_cons_self
      simpa only [openStep, if_neg hne] using hat
    | prepared c ch => exact hat
    | attested c ch => exact hat

lemma mem_openStops {before after : List Commit} {at' : Int}
    (hnone : ∀ e, Commit.release contact channel e ∉ after) :
    at' ∈ openStops contact channel (before ++ .optOut contact channel at' :: after) := by
  rw [openStops, List.foldl_append, List.foldl_cons]
  refine mem_foldl_openStep ?_ hnone
  simp [openStep]

lemma openStops_append (commits : List Commit) (commit : Option Commit) :
    openStops contact channel (commits ++ commit.toList) =
      commit.elim (openStops contact channel commits)
        (openStep contact channel (openStops contact channel commits)) := by
  cases commit <;> simp [openStops]

lemma openStep_other {stops : List Int} {commit : Commit}
    (hstop : ∀ at', commit ≠ .optOut contact channel at')
    (hrelease : ∀ at', commit ≠ .release contact channel at') :
    openStep contact channel stops commit = stops := by
  cases commit with
  | optOut c ch at' =>
    refine if_neg ?_
    rintro ⟨rfl, rfl⟩
    exact hstop at' rfl
  | release c ch at' =>
    refine if_neg ?_
    rintro ⟨rfl, rfl⟩
    exact hrelease at' rfl
  | prepared c ch => rfl
  | attested c ch => rfl

lemma elim_openStep_other {stops : List Int} {commit : Option Commit}
    (hstop : ∀ at', commit ≠ some (.optOut contact channel at'))
    (hrelease : ∀ at', commit ≠ some (.release contact channel at')) :
    commit.elim stops (openStep contact channel stops) = stops := by
  cases commit with
  | none => rfl
  | some commit =>
    exact openStep_other (fun at' h => hstop at' (congrArg some h))
      (fun at' h => hrelease at' (congrArg some h))

def Blocked (contact : Uuid) (channel : String) (db : Database) : Prop :=
  ∃ entry, db.suppressionEntries ⟨contact, .transactional, channel⟩ = some entry ∧
    (entry.state = .suppressed ∨ entry.state = .pendingReviewBlocked)

lemma Blocked.stateOf {db : Database} (h : Blocked contact channel db) :
    ¬ (stateOf db contact .transactional channel = none ∨
      stateOf db contact .transactional channel = some .clear) := by
  obtain ⟨entry, hentry, hstate⟩ := h
  simp only [ConsentEgress.stateOf, hentry, Option.map_some]
  rcases hstate with hstate | hstate <;> simp [hstate]

lemma blocked_run (db : Database) (ts : List Transaction)
    (h : openStops contact channel (history db ts) ≠ []) : Blocked contact channel (run db ts) := by
  induction ts using List.reverseRecOn with
  | nil => exact absurd rfl h
  | append_singleton ts t ih =>
    rw [history_append, openStops_append] at h
    rw [run_append]
    have hrow := (changed_apply (run db ts) t).row contact channel
    generalize committed (run db ts) t = commit at h hrow
    cases hrow with
    | stopped hentry hstate _ => exact ⟨_, hentry, hstate⟩
    | released _ _ _ _ => simp [openStep] at h
    | kept hstop hrelease hsame =>
      rw [elim_openStep_other hstop hrelease] at h
      obtain ⟨entry, hentry, hstate⟩ := ih h
      exact ⟨entry, hsame.trans hentry, hstate⟩

lemma marketing_run (db : Database) (ts : List Transaction)
    (h : stateOf db contact .marketing channel = some .suppressed) :
    stateOf (run db ts) contact .marketing channel = some .suppressed := by
  induction ts using List.reverseRecOn with
  | nil => exact h
  | append_singleton ts t ih =>
    rw [run_append]
    exact (changed_apply _ t).marketing contact channel ih

/-- In every run, from any tables: a prepare or an attestation commits only when each opt-out of
its contact and channel committed before it was released after it; a marketing withdrawal is
never undone; and marketing is allowed only over a clear row. -/
theorem stop_wins_over_every_send (db : Database) (ts : List Transaction) :
    (∀ t contact channel,
      committed (run db ts) t = some (.prepared contact channel) ∨
        committed (run db ts) t = some (.attested contact channel) →
      ∀ before at' after, history db ts = before ++ .optOut contact channel at' :: after →
        ∃ e, Commit.release contact channel e ∈ after) ∧
    (∀ contact channel, stateOf db contact .marketing channel = some .suppressed →
      stateOf (run db ts) contact .marketing channel = some .suppressed) ∧
    (∀ contact channel consentActive at' check,
      checkEgressAllowed (run db ts) contact channel marketingPurpose consentActive at' =
        .ok check → check.sendAllowed →
      stateOf (run db ts) contact .marketing channel = some .clear) := by
  refine ⟨fun t contact channel hsent before at' after hsplit => ?_,
    fun contact channel h => marketing_run db ts h,
    fun contact channel consentActive at' check h hallow => checkEgressAllowed_marketing h hallow⟩
  by_contra hnone
  push Not at hnone
  have hopen : at' ∈ openStops contact channel (history db ts) := by
    rw [hsplit]
    exact mem_openStops hnone
  exact (blocked_run db ts (List.ne_nil_of_mem hopen)).stateOf (unblocked_of_sent hsent)

end NhaTrangLaundry.Db.ConsentEgress
