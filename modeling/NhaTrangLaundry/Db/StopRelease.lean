import NhaTrangLaundry.Db.StopWins

/-! What a release proves about the stops it lifts: the row remembers the stop recorded last,
which is the newest one only when stops are recorded in the order they were received. -/

namespace NhaTrangLaundry.Db.ConsentEgress

open Lib Outcome Domain ServiceMessaging

/-- An unseen opt-out of the contact and channel that the inbox accepts while the row is blocked
was received no earlier than the stop the row rests on. -/
def StopsInOrder (contact : Uuid) (channel : String) (db : Database) : Transaction → Prop
  | .record command now ids =>
    createsSuppression command → command.contactBindingId = some contact →
      command.channel = channel → recorded db command = none →
      (∃ commit db', attempt db (.record command now ids) = .ok (commit, db')) →
      Blocked contact channel db →
      ∀ entry ∈ db.suppressionEntries ⟨contact, .transactional, channel⟩,
        ∀ blockedAt ∈ restsOn db entry, blockedAt ≤ receivedInstant command now
  | _ => True

/-- Every transaction of the run meets the condition in the state it starts from. -/
def RunInOrder (contact : Uuid) (channel : String) (db : Database) : List Transaction → Prop
  | [] => True
  | t :: ts => StopsInOrder contact channel db t ∧ RunInOrder contact channel (apply db t) ts

variable {contact : Uuid} {channel : String}

lemma runInOrder_append {db : Database} {ts : List Transaction} {t : Transaction}
    (h : RunInOrder contact channel db (ts ++ [t])) :
    RunInOrder contact channel db ts ∧ StopsInOrder contact channel (run db ts) t := by
  induction ts generalizing db with
  | nil => exact ⟨trivial, h.1⟩
  | cons s ts ih =>
    obtain ⟨hs, hrest⟩ := h
    obtain ⟨hts, ht⟩ := ih hrest
    exact ⟨⟨hs, hts⟩, ht⟩

lemma optOut_committed {db : Database} {t : Transaction} {at' : Int}
    (h : committed db t = some (.optOut contact channel at')) :
    ∃ command now ids, t = .record command now ids ∧ createsSuppression command ∧
      command.contactBindingId = some contact ∧ command.channel = channel ∧
      recorded db command = none ∧
      (∃ commit db', attempt db (.record command now ids) = .ok (commit, db')) ∧
      at' = receivedInstant command now := by
  unfold committed at h
  cases hattempt : attempt db t with
  | error e => simp [hattempt] at h
  | ok out =>
    obtain ⟨commit, db'⟩ := out
    simp only [hattempt] at h
    subst h
    cases t with
    | record command now ids =>
      have haccepted := hattempt
      simp only [attempt, bind_ok] at hattempt
      obtain ⟨⟨result, db₁⟩, hrecord, hcommit⟩ := hattempt
      injection hcommit with hcommit
      injection hcommit with hcommit _
      unfold optOutOf at hcommit
      split at hcommit
      · next hcreated =>
        obtain ⟨c, hc, heq⟩ := Option.map_eq_some_iff.mp hcommit
        injection heq with hcontact hchannel hat
        subst hcontact
        refine ⟨command, now, ids, rfl, hcreated.2, hc, hchannel, ?_, ⟨_, _, haccepted⟩, hat.symm⟩
        simp only [record, bind_ok] at hrecord
        obtain ⟨_, -, hrecord⟩ := hrecord
        cases hseen : recorded db command with
        | none => rfl
        | some existing =>
          -- a replay answers `DUPLICATE`, which commits no opt-out
          simp only [hseen] at hrecord
          split at hrecord
          · cases hrecord
            exact absurd hcreated.1 (by simp)
          · cases hrecord
      · cases hcommit
    | release command now releaseId =>
      simp [attempt] at hattempt
    | clearConsent c ch source now =>
      simp [attempt] at hattempt
    | prepare command now envelopeId =>
      simp [attempt] at hattempt
    | attest command now attestationId =>
      simp [attempt] at hattempt
    | elsewhere surroundings =>
      simp [attempt] at hattempt

lemma restsOn_run {db : Database} {ts : List Transaction} (hin : RunInOrder contact channel db ts)
    {at' : Int} (hat : at' ∈ openStops contact channel (history db ts)) :
    ∃ entry blockedAt, (run db ts).suppressionEntries ⟨contact, .transactional, channel⟩ =
        some entry ∧ restsOn (run db ts) entry = some blockedAt ∧ at' ≤ blockedAt := by
  induction ts using List.reverseRecOn generalizing at' with
  | nil => simp [history, openStops] at hat
  | append_singleton ts t ih =>
    obtain ⟨hts, ht⟩ := runInOrder_append hin
    rw [history_append, openStops_append] at hat
    rw [run_append]
    have hgrows := (changed_apply (run db ts) t).grows
    have hrow := (changed_apply (run db ts) t).row contact channel
    generalize hcommit : committed (run db ts) t = commit at hat hrow
    cases hrow with
    | @stopped entry received hentry _ hrests =>
      refine ⟨entry, received, hentry, hrests, ?_⟩
      simp only [Option.elim_some, openStep, and_self, if_true, List.mem_append,
        List.mem_singleton] at hat
      rcases hat with hold | rfl
      · -- the stop was open before: the row was blocked, so the new one is no older
        have hblocked := blocked_run db ts (List.ne_nil_of_mem hold)
        obtain ⟨old, blockedAt, hold, hrestsOld, hle⟩ := ih hts hold
        obtain ⟨command, now, ids, rfl, hcreates, hcontact, hchannel, hunseen, haccepted, rfl⟩ :=
          optOut_committed hcommit
        exact hle.trans
          (ht hcreates hcontact hchannel hunseen haccepted hblocked old hold blockedAt hrestsOld)
      · exact le_rfl
    | released _ _ _ _ => simp [openStep] at hat
    | kept hstop hrelease hsame =>
      rw [elim_openStep_other hstop hrelease] at hat
      obtain ⟨entry, blockedAt, hentry, hrests, hle⟩ := ih hts hat
      exact ⟨entry, blockedAt, hsame.trans hentry, hgrows.restsOn hrests, hle⟩

/-- In every run whose opt-outs of the contact and channel are recorded in order, the message a
release cites was received after every opt-out recorded since the release before it. -/
theorem release_newer_than_open_stops (contact : Uuid) (channel : String) (db : Database)
    (ts : List Transaction)
    (hin : RunInOrder contact channel db ts) (t : Transaction) (evidenceAt : Int)
    (hrelease : committed (run db ts) t = some (.release contact channel evidenceAt))
    (before after : List Commit) (at' : Int)
    (hsplit : history db ts = before ++ .optOut contact channel at' :: after)
    (hnone : ∀ e, Commit.release contact channel e ∉ after) : at' < evidenceAt := by
  have hopen : at' ∈ openStops contact channel (history db ts) := by
    rw [hsplit]
    exact mem_openStops hnone
  obtain ⟨entry, blockedAt, hentry, hrests, hle⟩ := restsOn_run hin hopen
  have hrow := (changed_apply (run db ts) t).row contact channel
  rw [hrelease] at hrow
  cases hrow with
  | @released entry' blockedAt' _ hentry' _ hrests' hlater =>
    have hsame : entry = entry' := Option.some.inj (hentry.symm.trans hentry')
    subst hsame
    have hsame : blockedAt = blockedAt' := Option.some.inj (hrests.symm.trans hrests')
    omega
  | kept _ hother _ => exact absurd rfl (hother evidenceAt)

/-- A database with no message in it, of a shop whose staff may do everything. -/
def emptyTables : Database where
  webhookEvents := []
  consentEvents := []
  suppressionEntries := fun _ => none
  envelopes := []
  attestations := []
  surroundings := ⟨fun _ => none, fun _ => none, fun _ _ => true, fun _ _ => true, [], none⟩

def second (n : Fin 60) : Datetime := .ofUtc (n * 1000000) (by
  simp only [wallLimit, Gregorian.maxDay, dayMicros]
  omega)

/-- A message of the first contact, received at a second and recorded when it arrives. -/
def inbound (n : Fin 60) (disposition : OptOutDisposition) : InboundWebhook where
  provider := "ZALO"
  channelAccountId := "oa"
  providerEventId := String.ofList (Nat.toDigits 10 n)
  eventType := "MESSAGE"
  channel := "INTERNAL_TEST"
  ciphertext := [1]
  plaintextHash := "RAW-HMAC-V2:0000000000000000000000000000000000000000000000000000000000000000"
  optOutDisposition := disposition
  contactBindingId := some ⟨0⟩
  optOutRegistryVersion := some "v1"
  receivedAt := some (second n)

def recordInbound (n : Fin 60) (disposition : OptOutDisposition) : Transaction :=
  .record (inbound n disposition) (second 59)
    ⟨⟨Fin.ofNat _ (3 * n)⟩, ⟨Fin.ofNat _ (3 * n + 1)⟩, ⟨Fin.ofNat _ (3 * n + 2)⟩⟩

def releaseCiting (n : Fin 60) : Transaction :=
  .release ⟨⟨0⟩, ⟨0⟩, "INTERNAL_TEST", ⟨Fin.ofNat _ (3 * n)⟩, ⟨⟨0⟩, [.ownerAdmin], true⟩,
    some (second 50)⟩ (second 59) ⟨200⟩

/-- Two stops received in the order they are recorded, then the message that lifts them. -/
theorem release_newer_than_open_stops_in_order :
    committed (run emptyTables [recordInbound 5 .pendingReviewBlocked, recordInbound 10 .withdraw,
        recordInbound 12 .none]) (releaseCiting 12) =
      some (.release ⟨0⟩ "INTERNAL_TEST" 12000000) ∧ (10000000 : Int) < 12000000 := by
  refine ⟨by decide, release_newer_than_open_stops ⟨0⟩ "INTERNAL_TEST" emptyTables
    [recordInbound 5 .pendingReviewBlocked, recordInbound 10 .withdraw, recordInbound 12 .none]
    (by
      refine ⟨?_, ?_, ?_, trivial⟩
      · rintro - - - - - ⟨entry, hentry, -⟩
        cases hentry
      · intro _ _ _ _ _ _ entry hentry blockedAt hrests
        have hfive : ((run emptyTables [recordInbound 5 .pendingReviewBlocked]).suppressionEntries
            ⟨⟨0⟩, .transactional, "INTERNAL_TEST"⟩).map (restsOn (run emptyTables
              [recordInbound 5 .pendingReviewBlocked])) = some (some 5000000) := by
          decide
        have hentry : (run emptyTables [recordInbound 5 .pendingReviewBlocked]).suppressionEntries
            ⟨⟨0⟩, .transactional, "INTERNAL_TEST"⟩ = some entry := hentry
        rw [hentry, Option.map_some, Option.some.injEq] at hfive
        have hat : blockedAt = 5000000 := Option.some.inj (hrests.symm.trans hfive)
        have hreceived : receivedInstant (inbound 10 .withdraw) (second 59) = 10000000 := by
          decide
        omega
      · rintro hcreates
        exact absurd hcreates (by decide))
    (releaseCiting 12) 12000000 (by decide)
    [.optOut ⟨0⟩ "INTERNAL_TEST" 5000000] [] 10000000 (by decide) (by simp)⟩

/-- A stop received at second 10 is recorded, then a late one received at second 5; a message
received at second 7, before the newer stop, lifts both. -/
theorem release_over_newer_stop :
    ¬ ∀ (db : Database) (ts : List Transaction) (t : Transaction) (contact : Uuid)
      (channel : String) (evidenceAt : Int),
      committed (run db ts) t = some (.release contact channel evidenceAt) →
      ∀ before after at', history db ts = before ++ .optOut contact channel at' :: after →
        (∀ e, Commit.release contact channel e ∉ after) → at' < evidenceAt := by
  intro h
  have hlt := h emptyTables
    [recordInbound 10 .withdraw, recordInbound 5 .withdraw, recordInbound 7 .none]
    (releaseCiting 7) ⟨0⟩ "INTERNAL_TEST" 7000000 (by decide) []
    [.optOut ⟨0⟩ "INTERNAL_TEST" 5000000] 10000000 (by decide) (by simp)
  omega

end NhaTrangLaundry.Db.ConsentEgress
