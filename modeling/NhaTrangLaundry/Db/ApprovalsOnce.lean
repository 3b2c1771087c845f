import Mathlib.Data.List.Nodup
import NhaTrangLaundry.Db.Approvals

/-! What each command does to an approval envelope, and that it is used once. -/

namespace NhaTrangLaundry.Db.Approvals

open Lib Outcome Table
open ConsentEgress (ApprovalStatus ManualSendPrepareCommand ManualSendAttestationCommand
  ManualSendEnvelope ManualSendAttestation)

variable {db db' : Database}

lemma requireDigest_ok {stored observed : String} {r : Refusal} {u : Unit}
    (h : requireDigest stored observed r = .ok u) : stored = observed := by
  obtain ⟨_, _, h⟩ := bind_ok.mp h
  exact require_ok.mp h

def SameContent (db : Database) (a : Approval) : Prop :=
  ∀ resolver, decisionTimeResolvers.lookup a.resourceType = some resolver →
    ∃ current, resolver db a.resourceId = some current ∧ current.storeId = a.storeId ∧
      current.resourceVersion = a.resourceVersion ∧ current.snapshotHash = a.snapshotHash ∧
      ∀ rendered ∈ current.renderedHash, rendered = a.renderedHash

lemma requireSameContent_ok {current : CurrentResourceBinding} {a : Approval} {u : Unit}
    (h : requireSameContent current a = .ok u) :
    current.storeId = a.storeId ∧ current.resourceVersion = a.resourceVersion ∧
      current.snapshotHash = a.snapshotHash ∧
      ∀ rendered ∈ current.renderedHash, rendered = a.renderedHash := by
  obtain ⟨_, hstore, h⟩ := bind_ok.mp h
  obtain ⟨_, hversion, h⟩ := bind_ok.mp h
  obtain ⟨_, hsnapshot, h⟩ := bind_ok.mp h
  refine ⟨require_ok.mp hstore, require_ok.mp hversion, requireDigest_ok hsnapshot, ?_⟩
  intro rendered hrendered
  rw [Option.mem_def.mp hrendered] at h
  exact requireDigest_ok h

lemma requireResourceUnchanged_ok {a : Approval} {u : Unit}
    (h : requireResourceUnchanged db a = .ok u) : SameContent db a := by
  intro resolver hresolver
  rw [requireResourceUnchanged, hresolver] at h
  obtain ⟨current, hcurrent, h⟩ := bind_ok.mp h
  exact ⟨current, ofOption_ok.mp hcurrent, requireSameContent_ok h⟩

lemma authorizeDecision_ok {a : Approval} {principal : ConsentEgress.StaffPrincipal} {u : Unit}
    (h : authorizeDecision db a principal = .ok u) :
    principal.staffUserId ≠ a.requestedBy ∧ definerOf db a ≠ some principal.staffUserId := by
  obtain ⟨_, _, h⟩ := bind_ok.mp h
  obtain ⟨_, _, h⟩ := bind_ok.mp h
  obtain ⟨_, _, h⟩ := bind_ok.mp h
  obtain ⟨_, hrequester, h⟩ := bind_ok.mp h
  exact ⟨require_ok.mp hrequester, require_ok.mp h⟩

lemma authorizeAttestation_ok {a : Approval} {principal : ConsentEgress.StaffPrincipal} {u : Unit}
    (h : authorizeAttestation db a principal = .ok u) :
    a.counterAttested ∧ principal.staffUserId = a.requestedBy := by
  obtain ⟨_, _, h⟩ := bind_ok.mp h
  have hall := require_ok.mp h
  exact ⟨hall.1, hall.2.2.2⟩

def Approval.moved (a : Approval) (status : ApprovalStatus) (at_ : Int) : Approval :=
  { a with status, rowVersion := a.rowVersion + 1, updatedAt := at_ }

def moved (db : Database) (a : Approval) (status : ApprovalStatus) (at_ : Int) : Database :=
  { db with approvals := put Approval.key db.approvals (a.moved status at_) }

lemma moveStatus_ok {a : Approval} {status : ApprovalStatus} {at_ : Int}
    (h : moveStatus db a status at_ = .ok db') : db' = moved db a status at_ := by
  obtain ⟨_, _, h⟩ := bind_ok.mp h
  cases h
  rfl

/-- Who decides: another than the requester, or the requester at the counter. -/
def Decides (a : Approval) (d : ApprovalDecision) (use : Use) : Prop :=
  use = .decided d.decision ∧ d.decidedBy ≠ a.requestedBy ∨
    use = .attested ∧ d.decision = .approved ∧ d.decidedBy = a.requestedBy ∧ a.counterAttested

/-- A decision holds the envelope to its resource unless it is a rejection. -/
def HeldTo (db : Database) (a : Approval) (use : Use) : Prop :=
  use ≠ .decided .rejected → SameContent db a

inductive Effect (db : Database) : Option Event → Database → Prop where
  | raised (a : Approval) (fresh : lookup Approval.key db.approvals a.id = none)
      (pending : a.status = .requested) :
      Effect db none { db with approvals := db.approvals ++ [a] }
  | elsewhere (sends : ConsentEgress.Database) (resources : Resources)
      (envelopes : sends.envelopes = db.sends.envelopes)
      (attestations : sends.attestations = db.sends.attestations) :
      Effect db none { db with sends, resources }
  | expired (a : Approval) (at_ : Int) (found : lookup Approval.key db.approvals a.id = some a)
      (live : a.status = .requested ∨ a.status = .approved) :
      Effect db (some ⟨a.id, .expired, at_⟩) (moved db a .expired at_)
  | decided (a : Approval) (d : ApprovalDecision) (use : Use)
      (found : lookup Approval.key db.approvals a.id = some a) (pending : a.status = .requested)
      (early : d.decidedAt < a.expiresAt) (names : d.approvalRequestId = a.id)
      (decides : Decides a d use) (held : HeldTo db a use)
      (free : a.id ∉ db.decisions.map ApprovalDecision.approvalRequestId) :
      Effect db (some ⟨a.id, use, d.decidedAt⟩)
        { moved db a d.decision.status d.decidedAt with decisions := db.decisions ++ [d] }
  | claimed (a : Approval) (x : ApprovalExecution)
      (found : lookup Approval.key db.approvals a.id = some a) (approved : a.status = .approved)
      (early : x.claimedAt < a.expiresAt) (names : x.approvalRequestId = a.id)
      (same : SameContent db a)
      (unsent : a.id ∉ db.sends.envelopes.map ManualSendEnvelope.approvalRequestId)
      (free : a.id ∉ db.executions.map ApprovalExecution.approvalRequestId) :
      Effect db (some ⟨a.id, .claimed, x.claimedAt⟩)
        { moved db a .executing x.claimedAt with executions := db.executions ++ [x] }
  | prepared (a : Approval) (e : ManualSendEnvelope) (sends : ConsentEgress.Database)
      (found : lookup Approval.key db.approvals a.id = some a) (approved : a.status = .approved)
      (early : e.preparedAt < a.expiresAt) (names : e.approvalRequestId = a.id)
      (same : SameContent db a)
      (binds : e.resourceId = a.resourceId ∧ e.resourceVersion = a.resourceVersion ∧
        e.snapshotHash = a.snapshotHash ∧ e.renderedHash = a.renderedHash)
      (unsent : a.id ∉ db.sends.envelopes.map ManualSendEnvelope.approvalRequestId)
      (fresh : e.id ∉ db.sends.envelopes.map ManualSendEnvelope.id)
      (envelopes : sends.envelopes = db.sends.envelopes ++ [e])
      (attestations : sends.attestations = db.sends.attestations) :
      Effect db (some ⟨a.id, .prepared, e.preparedAt⟩) { db with sends }
  | sent (a : Approval) (e recorded : ManualSendEnvelope) (s : ManualSendAttestation)
      (sends : ConsentEgress.Database)
      (found : lookup Approval.key db.approvals a.id = some a) (approved : a.status = .approved)
      (early : s.recordedAt < a.expiresAt) (names : e.approvalRequestId = a.id)
      (envelope : e ∈ db.sends.envelopes)
      (same : a.resourceType = "MESSAGE_DRAFT" ∧
        ∃ draft, db.sends.surroundings.drafts e.resourceId = some draft ∧ draft.storeId = a.storeId ∧
          draft.resourceVersion = e.resourceVersion ∧ draft.snapshotHash = e.snapshotHash ∧
          draft.renderedHash = e.renderedHash)
      (records : s.approvalRequestId = a.id)
      (keeps : recorded = { e with
        status := .manualSendRecorded, rowVersion := e.rowVersion + 1, updatedAt := s.recordedAt })
      (envelopes : sends.envelopes =
        db.sends.envelopes.map fun x => if x.id = e.id then recorded else x)
      (attestations : sends.attestations = db.sends.attestations ++ [s]) :
      Effect db (some ⟨a.id, .sent, s.recordedAt⟩) { db with sends }

lemma lockApproval_ok {id : Uuid} {a : Approval} (h : lockApproval db id = .ok a) :
    lookup Approval.key db.approvals a.id = some a ∧ a.id = id := by
  have hfound := ofOption_ok.mp h
  have hid : a.key = id := lookup_key hfound
  subst hid
  exact ⟨hfound, rfl⟩

lemma recordDecision_ok {a : Approval} {d : ApprovalDecision}
    (h : recordDecision db a d = .ok db') :
    d.approvalRequestId ∉ db.decisions.map ApprovalDecision.approvalRequestId ∧
      db' = { moved db a d.decision.status d.decidedAt with decisions := db.decisions ++ [d] } := by
  obtain ⟨moved, hmoved, h⟩ := bind_ok.mp h
  obtain ⟨_, hfree, h⟩ := bind_ok.mp h
  obtain ⟨_, _, h⟩ := bind_ok.mp h
  cases h
  rw [moveStatus_ok hmoved]
  exact ⟨(require_ok.mp hfree).2, rfl⟩

lemma decideAt_effect {a : Approval} {moment : Datetime} {use : Use} {unchanged : Bool}
    {d : ApprovalDecision} {e : Event}
    (hfound : lookup Approval.key db.approvals a.id = some a) (hnames : d.approvalRequestId = a.id)
    (hat : d.decidedAt = moment.instant) (hdecides : Decides a d use)
    (hunchanged : use ≠ .decided .rejected → unchanged = true)
    (h : decideAt db a moment use unchanged d = .ok (e, db')) : Effect db (some e) db' := by
  obtain ⟨_, hpending, h⟩ := bind_ok.mp h
  obtain ⟨_, _, h⟩ := bind_ok.mp h
  rw [require_ok] at hpending
  by_cases hearly : moment.instant < a.expiresAt
  · rw [if_pos hearly] at h
    obtain ⟨_, hsame, h⟩ := bind_ok.mp h
    obtain ⟨written, hwritten, h⟩ := bind_ok.mp h
    cases h
    obtain ⟨hfree, rfl⟩ := recordDecision_ok hwritten
    have hheld : HeldTo db a use := by
      intro huse
      rw [requireHeldTo, if_pos (hunchanged huse)] at hsame
      exact requireResourceUnchanged_ok hsame
    rw [← hat]
    exact .decided a d use hfound hpending (hat ▸ hearly) hnames hdecides hheld (hnames ▸ hfree)
  · rw [if_neg hearly] at h
    obtain ⟨written, hwritten, h⟩ := bind_ok.mp h
    cases h
    rw [moveStatus_ok hwritten]
    exact .expired a _ hfound (.inl hpending)

lemma decide_effect {command : ApprovalDecisionCommand} {now : Datetime} {decisionId : Uuid}
    {e : Event} (h : decide db command now decisionId = .ok (e, db')) : Effect db (some e) db' := by
  obtain ⟨_, _, h⟩ := bind_ok.mp h
  obtain ⟨_, _, h⟩ := bind_ok.mp h
  obtain ⟨a, hlocked, h⟩ := bind_ok.mp h
  obtain ⟨_, hauthorized, h⟩ := bind_ok.mp h
  obtain ⟨_, _, h⟩ := bind_ok.mp h
  refine decideAt_effect (lockApproval_ok hlocked).1 rfl rfl
    (.inl ⟨rfl, (authorizeDecision_ok hauthorized).1⟩) (fun huse => ?_) h
  cases hdecision : command.decision with
  | approved => rfl
  | rejected => exact absurd (congrArg Use.decided hdecision) huse

lemma attest_effect {command : ApprovalAttestationCommand} {now : Datetime} {decisionId : Uuid}
    {e : Event} (h : attest db command now decisionId = .ok (e, db')) : Effect db (some e) db' := by
  obtain ⟨_, _, h⟩ := bind_ok.mp h
  obtain ⟨a, hlocked, h⟩ := bind_ok.mp h
  obtain ⟨_, hauthorized, h⟩ := bind_ok.mp h
  obtain ⟨_, _, h⟩ := bind_ok.mp h
  obtain ⟨hcounter, hrequester⟩ := authorizeAttestation_ok hauthorized
  exact decideAt_effect (lockApproval_ok hlocked).1 rfl rfl (.inr ⟨rfl, rfl, hrequester, hcounter⟩)
    (fun _ => rfl) h

lemma claimExecution_effect {command : ApprovalExecutionCommand} {now : Datetime}
    {executionId : Uuid} {e : Event}
    (h : claimExecution db command now executionId = .ok (e, db')) : Effect db (some e) db' := by
  obtain ⟨_, _, h⟩ := bind_ok.mp h
  obtain ⟨a, hlocked, h⟩ := bind_ok.mp h
  obtain ⟨_, happroved, h⟩ := bind_ok.mp h
  obtain ⟨_, hunsent, h⟩ := bind_ok.mp h
  obtain ⟨_, _, h⟩ := bind_ok.mp h
  rw [require_ok] at happroved hunsent
  have hfound := (lockApproval_ok hlocked).1
  by_cases hearly : (command.claimedAt.getD now).instant < a.expiresAt
  · rw [if_pos hearly] at h
    obtain ⟨_, _, h⟩ := bind_ok.mp h
    obtain ⟨_, _, h⟩ := bind_ok.mp h
    obtain ⟨_, hsame, h⟩ := bind_ok.mp h
    obtain ⟨written, hwritten, h⟩ := bind_ok.mp h
    obtain ⟨_, hfree, h⟩ := bind_ok.mp h
    cases h
    rw [moveStatus_ok hwritten]
    exact .claimed a ⟨executionId, a.id, _, _, _, _⟩ hfound happroved hearly rfl (requireResourceUnchanged_ok hsame) hunsent
      (require_ok.mp hfree).2
  · rw [if_neg hearly] at h
    obtain ⟨written, hwritten, h⟩ := bind_ok.mp h
    cases h
    rw [moveStatus_ok hwritten]
    exact .expired a _ hfound (.inr happroved)

lemma sendDigest_ok {stored observed : String} {u : Unit}
    (h : ConsentEgress.requireDigest stored observed = .ok u) : stored = observed := by
  obtain ⟨equal, hequal, h⟩ := bind_ok.mp h
  obtain ⟨_, _, hequal⟩ := bind_ok.mp hequal
  cases hequal
  exact of_decide_eq_true (require_ok.mp h)

lemma requireUnexpired_ok {moment : Datetime} {a : ConsentEgress.Approval} {message : String}
    {u : Unit} (h : ConsentEgress.requireUnexpired moment a message = .ok u) :
    moment.instant < a.expiresAt := by
  obtain ⟨_, _, h⟩ := bind_ok.mp h
  exact require_ok.mp h

lemma requireDraftAsApproved_ok {tables : ConsentEgress.Database} {type : String}
    {resourceId storeId : Uuid} {version : Int} {snapshot rendered : String}
    {draft : ConsentEgress.MessageDraftBinding}
    (h : ConsentEgress.requireDraftAsApproved tables type resourceId storeId version snapshot
      rendered = .ok draft) :
    type = "MESSAGE_DRAFT" ∧ tables.surroundings.drafts resourceId = some draft ∧
      draft.storeId = storeId ∧ draft.resourceVersion = version ∧
      draft.snapshotHash = snapshot ∧ draft.renderedHash = rendered := by
  obtain ⟨_, htype, h⟩ := bind_ok.mp h
  split at h
  · cases h
  · rename_i found hfound
    obtain ⟨_, hstore, h⟩ := bind_ok.mp h
    obtain ⟨_, hsnapshot, h⟩ := bind_ok.mp h
    obtain ⟨_, hrendered, h⟩ := bind_ok.mp h
    cases h
    rw [require_ok] at hstore
    exact ⟨require_ok.mp htype, hfound, hstore.1, hstore.2, sendDigest_ok hsnapshot,
      sendDigest_ok hrendered⟩

lemma forManualSend_ok {id : Uuid} {read : ConsentEgress.Approval}
    (h : ConsentEgress.lockApproval (sendTables db) id = .ok read) :
    ∃ a, lookup Approval.key db.approvals a.id = some a ∧ a.id = id ∧ a.forManualSend = read := by
  rw [ConsentEgress.lockApproval] at h
  cases hfound : lookup Approval.key db.approvals id with
  | none =>
    have hnone : (sendTables db).surroundings.approvals id = none := by
      simp [sendTables, hfound]
    rw [hnone] at h
    cases h
  | some a =>
    have hsome : (sendTables db).surroundings.approvals id = some a.forManualSend := by
      simp [sendTables, hfound]
    rw [hsome] at h
    cases h
    have hid : a.key = id := lookup_key hfound
    subst hid
    exact ⟨a, hfound, rfl, rfl⟩

lemma requireApprovedTransactionalBinding_ok {read : ConsentEgress.Approval}
    {command : ManualSendPrepareCommand} {preparedAt : Datetime} {u : Unit}
    (h : ConsentEgress.requireApprovedTransactionalBinding read command preparedAt = .ok u) :
    read.status = .approved ∧ preparedAt.instant < read.expiresAt ∧
      read.resourceVersion = command.observedResourceVersion ∧
      read.snapshotHash = command.observedSnapshotHash ∧
      read.renderedHash = command.observedRenderedHash := by
  obtain ⟨_, hstatus, h⟩ := bind_ok.mp h
  obtain ⟨_, hunexpired, h⟩ := bind_ok.mp h
  obtain ⟨_, hversion, h⟩ := bind_ok.mp h
  obtain ⟨_, hsnapshot, h⟩ := bind_ok.mp h
  exact ⟨(require_ok.mp hstatus).2, requireUnexpired_ok hunexpired, require_ok.mp hversion,
    sendDigest_ok hsnapshot, sendDigest_ok h⟩

lemma sameContent_draft {a : Approval} {draft : ConsentEgress.MessageDraftBinding}
    (h : a.resourceType = "MESSAGE_DRAFT" ∧
      db.sends.surroundings.drafts a.resourceId = some draft ∧ draft.storeId = a.storeId ∧
      draft.resourceVersion = a.resourceVersion ∧ draft.snapshotHash = a.snapshotHash ∧
      draft.renderedHash = a.renderedHash) : SameContent db a := by
  obtain ⟨htype, hdraft, hstore, hversion, hsnapshot, hrendered⟩ := h
  intro resolver hresolver
  rw [htype, decisionTimeResolvers, List.lookup_cons_self, Option.some.injEq] at hresolver
  subst hresolver
  refine ⟨⟨draft.storeId, draft.resourceVersion, draft.snapshotHash, some draft.renderedHash⟩, ?_,
    hstore, hversion, hsnapshot, ?_⟩
  · rw [currentMessageDraft, hdraft]
    rfl
  · intro rendered hmem
    cases hmem
    exact hrendered

lemma prepareSend_effect {command : ManualSendPrepareCommand} {now : Datetime} {envelopeId : Uuid}
    {e : Event} (h : prepareSend db command now envelopeId = .ok (e, db')) :
    Effect db (some e) db' := by
  obtain ⟨⟨envelope, sends⟩, hprepare, h⟩ := bind_ok.mp h
  cases h
  have h := mapError_ok.mp hprepare
  obtain ⟨_, _, h⟩ := bind_ok.mp h
  obtain ⟨_, _, h⟩ := bind_ok.mp h
  obtain ⟨channel, _, h⟩ := bind_ok.mp h
  obtain ⟨read, hread, h⟩ := bind_ok.mp h
  obtain ⟨_, _, h⟩ := bind_ok.mp h
  obtain ⟨_, hbinding, h⟩ := bind_ok.mp h
  obtain ⟨draft, hdraft, h⟩ := bind_ok.mp h
  obtain ⟨_, hunsent, h⟩ := bind_ok.mp h
  obtain ⟨_, _, h⟩ := bind_ok.mp h
  obtain ⟨_, hfresh, h⟩ := bind_ok.mp h
  cases h
  obtain ⟨a, hfound, hid, rfl⟩ := forManualSend_ok hread
  obtain ⟨happroved, hearly, hversion, hsnapshot, hrendered⟩ :=
    requireApprovedTransactionalBinding_ok hbinding
  have hunsent' : a.id ∉ db.sends.envelopes.map ManualSendEnvelope.approvalRequestId :=
    hid ▸ require_ok.mp hunsent
  rw [← hid]
  exact .prepared a _ _ hfound happroved hearly rfl
    (sameContent_draft (requireDraftAsApproved_ok hdraft))
    ⟨rfl, hversion.symm, hsnapshot.symm, hrendered.symm⟩ hunsent' (require_ok.mp hfresh) rfl rfl

lemma attestSend_effect {command : ManualSendAttestationCommand} {now : Datetime}
    {attestationId : Uuid} {e : Event}
    (h : attestSend db command now attestationId = .ok (e, db')) : Effect db (some e) db' := by
  obtain ⟨⟨envelope, sends⟩, hattest, h⟩ := bind_ok.mp h
  cases h
  have h := mapError_ok.mp hattest
  obtain ⟨_, _, h⟩ := bind_ok.mp h
  obtain ⟨_, _, h⟩ := bind_ok.mp h
  obtain ⟨_, _, h⟩ := bind_ok.mp h
  obtain ⟨locked, hlocked, h⟩ := bind_ok.mp h
  obtain ⟨read, hread, h⟩ := bind_ok.mp h
  obtain ⟨_, _, h⟩ := bind_ok.mp h
  obtain ⟨_, _, h⟩ := bind_ok.mp h
  obtain ⟨_, _, h⟩ := bind_ok.mp h
  obtain ⟨_, happroved, h⟩ := bind_ok.mp h
  obtain ⟨_, hearly, h⟩ := bind_ok.mp h
  obtain ⟨_, _, h⟩ := bind_ok.mp h
  obtain ⟨_, _, h⟩ := bind_ok.mp h
  obtain ⟨draft, hdraft, h⟩ := bind_ok.mp h
  obtain ⟨_, _, h⟩ := bind_ok.mp h
  obtain ⟨_, _, h⟩ := bind_ok.mp h
  obtain ⟨_, _, h⟩ := bind_ok.mp h
  rw [Except.ok.injEq, Prod.mk.injEq] at h
  obtain ⟨rfl, hsends⟩ := h
  obtain ⟨a, hfound, hid, rfl⟩ := forManualSend_ok hread
  have hmem : locked ∈ db.sends.envelopes := by
    rw [ConsentEgress.lockEnvelope] at hlocked
    split at hlocked
    · cases hlocked
    · rename_i found hfind
      cases hlocked
      exact List.mem_of_find?_eq_some hfind
  obtain ⟨htype, hdrafts, hbinds⟩ := requireDraftAsApproved_ok hdraft
  have happroved' : a.status = .approved := require_ok.mp happroved
  dsimp only
  rw [← hid]
  exact .sent a locked _ ⟨attestationId, _, _, _, _, _, _, _, _, _⟩ sends hfound happroved' (requireUnexpired_ok hearly) hid.symm hmem
    ⟨htype, draft, hdrafts, hbinds⟩ hid.symm rfl
    (congrArg ConsentEgress.Database.envelopes hsends).symm
    (congrArg ConsentEgress.Database.attestations hsends).symm

lemma attempt_effect {c : Command} {e : Option Event} (h : attempt db c = .ok (e, db')) :
    Effect db e db' := by
  have returned {x : Except Refusal (Event × Database)}
      (hx : Prod.map some id <$> x = .ok (e, db')) : ∃ event, e = some event ∧ x = .ok (event, db') := by
    obtain ⟨⟨event, after⟩, hrun, heq⟩ := map_ok.mp hx
    cases heq
    exact ⟨event, rfl, hrun⟩
  cases c with
  | raise request =>
    obtain ⟨after, hraise, heq⟩ := map_ok.mp h
    cases heq
    obtain ⟨_, _, hraise⟩ := bind_ok.mp hraise
    obtain ⟨_, hfresh, hraise⟩ := bind_ok.mp hraise
    cases hraise
    exact .raised _ (require_ok.mp hfresh) rfl
  | decide command now decisionId =>
    obtain ⟨event, rfl, hx⟩ := returned h
    exact decide_effect hx
  | attest command now decisionId =>
    obtain ⟨event, rfl, hx⟩ := returned h
    exact attest_effect hx
  | claimExecution command now executionId =>
    obtain ⟨event, rfl, hx⟩ := returned h
    exact claimExecution_effect hx
  | prepareSend command now envelopeId =>
    obtain ⟨event, rfl, hx⟩ := returned h
    exact prepareSend_effect hx
  | attestSend command now attestationId =>
    obtain ⟨event, rfl, hx⟩ := returned h
    exact attestSend_effect hx
  | elsewhere surroundings resources webhookEvents consentEvents suppressionEntries =>
    cases h
    exact .elsewhere _ _ rfl rfl

def Moves : ApprovalStatus → ApprovalStatus → Prop
  | .requested, s => s = .approved ∨ s = .rejected ∨ s = .expired
  | .approved, s => s = .executing ∨ s = .expired
  | _, _ => False

/-- An envelope stays what it was raised as, and only its status moves. -/
def Onward (db db' : Database) : Prop :=
  ∀ a ∈ db.approvals, ∃ a' ∈ db'.approvals, a'.toApprovalRequest = a.toApprovalRequest ∧
    (a'.status = a.status ∨ Moves a.status a'.status)

structure Inv (db : Database) : Prop where
  ids : (db.approvals.map Approval.key).Nodup
  decidedOnce : (db.decisions.map ApprovalDecision.approvalRequestId).Nodup
  claimedOnce : (db.executions.map ApprovalExecution.approvalRequestId).Nodup
  preparedOnce : (db.sends.envelopes.map ManualSendEnvelope.approvalRequestId).Nodup
  sendIds : (db.sends.envelopes.map ManualSendEnvelope.id).Nodup
  executing : ∀ x ∈ db.executions, ∃ a ∈ db.approvals, a.id = x.approvalRequestId ∧
    a.status = .executing
  exclusive : ∀ x ∈ db.executions,
    x.approvalRequestId ∉ db.sends.envelopes.map ManualSendEnvelope.approvalRequestId
  approver : ∀ d ∈ db.decisions, ∃ a ∈ db.approvals, a.id = d.approvalRequestId ∧
    (d.decidedBy = a.requestedBy → a.counterAttested)
  bound : ∀ e ∈ db.sends.envelopes, ∃ a ∈ db.approvals, a.id = e.approvalRequestId ∧
    e.resourceId = a.resourceId ∧ e.resourceVersion = a.resourceVersion ∧
    e.snapshotHash = a.snapshotHash ∧ e.renderedHash = a.renderedHash

lemma Inv.eq_of_id (h : Inv db) {a b : Approval} (ha : a ∈ db.approvals) (hb : b ∈ db.approvals)
    (hid : a.id = b.id) : a = b := by
  have hfound := lookup_of_mem h.ids ha
  have hkey : a.key = b.key := hid
  rw [hkey, lookup_of_mem h.ids hb, Option.some.injEq] at hfound
  exact hfound.symm

lemma Inv.onward_moved (h : Inv db) {a : Approval} {status : ApprovalStatus} {at_ : Int}
    (hfound : lookup Approval.key db.approvals a.id = some a) (hmoves : Moves a.status status) :
    Onward db (moved db a status at_) := by
  intro b hb
  have hmem := lookup_mem hfound
  by_cases hid : b.id = a.id
  · obtain rfl := h.eq_of_id hb hmem hid
    exact ⟨b.moved status at_, mem_put_self hmem rfl, rfl, .inr hmoves⟩
  · have hkey : (a.moved status at_).key = a.key := rfl
    exact ⟨b, (mem_put hmem hkey b).mpr (.inr ⟨hb, hid⟩), rfl, .inl rfl⟩

lemma onward_of_approvals (h : db'.approvals = db.approvals) : Onward db db' :=
  fun a ha => ⟨a, h ▸ ha, rfl, .inl rfl⟩

lemma Inv.onward (h : Inv db) {e : Option Event} (he : Effect db e db') : Onward db db' := by
  cases he with
  | raised a => exact fun b hb => ⟨b, List.mem_append_left _ hb, rfl, .inl rfl⟩
  | elsewhere => exact onward_of_approvals rfl
  | expired a at_ found live =>
    refine h.onward_moved found ?_
    rcases live with hstatus | hstatus
    · rw [hstatus]
      exact .inr (.inr rfl)
    · rw [hstatus]
      exact .inr rfl
  | decided a d use found pending =>
    refine h.onward_moved found ?_
    rw [pending]
    cases d.decision with
    | approved => exact .inl rfl
    | rejected => exact .inr (.inl rfl)
  | claimed a x found approved =>
    refine h.onward_moved found ?_
    rw [approved]
    exact .inl rfl
  | prepared => exact onward_of_approvals rfl
  | sent => exact onward_of_approvals rfl

lemma Onward.carries (h : Onward db db') {id : Uuid} {P : ApprovalRequest → Prop}
    (ha : ∃ a ∈ db.approvals, a.id = id ∧ P a.toApprovalRequest) :
    ∃ a ∈ db'.approvals, a.id = id ∧ P a.toApprovalRequest := by
  obtain ⟨a, hmem, hid, hp⟩ := ha
  obtain ⟨a', hmem', hrequest, -⟩ := h a hmem
  exact ⟨a', hmem', hrequest ▸ hid, hrequest ▸ hp⟩

lemma ids_moved (a : Approval) (status : ApprovalStatus) (at_ : Int) :
    (moved db a status at_).approvals.map Approval.key = db.approvals.map Approval.key :=
  map_key_put _ _

lemma Inv.ids_effect (h : Inv db) {e : Option Event} (he : Effect db e db') :
    (db'.approvals.map Approval.key).Nodup := by
  cases he with
  | raised a fresh => exact nodup_map_snoc h.ids fresh
  | elsewhere => exact h.ids
  | expired a at_ => exact (ids_moved a _ at_).symm ▸ h.ids
  | decided a d => exact (ids_moved a _ d.decidedAt).symm ▸ h.ids
  | claimed a x => exact (ids_moved a _ x.claimedAt).symm ▸ h.ids
  | prepared => exact h.ids
  | sent => exact h.ids

lemma map_snoc_nodup {ρ : Type} {key : ρ → Uuid} {rows : List ρ} {row : ρ} {id : Uuid}
    (hn : (rows.map key).Nodup) (hid : key row = id) (hnew : id ∉ rows.map key) :
    ((rows ++ [row]).map key).Nodup :=
  nodup_map_snoc hn (lookup_none.mpr (hid ▸ hnew))

lemma map_recorded {envelopes : List ManualSendEnvelope} {e recorded : ManualSendEnvelope}
    {column : ManualSendEnvelope → Uuid} (hsame : column recorded = column e)
    (hdistinct : ∀ x ∈ envelopes, x.id = e.id → x = e) :
    (envelopes.map fun x => if x.id = e.id then recorded else x).map column =
      envelopes.map column := by
  rw [List.map_map]
  refine List.map_congr_left fun x hx => ?_
  by_cases hxe : x.id = e.id
  · simp [hsame, hdistinct x hx hxe]
  · simp [hxe]

lemma eq_of_envelope_id {envelopes : List ManualSendEnvelope}
    (hn : (envelopes.map ManualSendEnvelope.id).Nodup) {x e : ManualSendEnvelope}
    (hx : x ∈ envelopes) (he : e ∈ envelopes) (hid : x.id = e.id) : x = e := by
  have hfound := lookup_of_mem hn hx
  rw [hid, lookup_of_mem hn he, Option.some.injEq] at hfound
  exact hfound.symm

lemma Inv.effect (h : Inv db) {e : Option Event} (he : Effect db e db') : Inv db' := by
  have honward := h.onward he
  have hids := h.ids_effect he
  have happrover : ∀ d ∈ db.decisions, ∃ a ∈ db'.approvals, a.id = d.approvalRequestId ∧
      (d.decidedBy = a.requestedBy → a.counterAttested) := fun d hd =>
    honward.carries (P := fun r => d.decidedBy = r.requestedBy →
      r.executionCapability = counterAttestedCapability ∧ separationOfDuty ∉ r.obligations)
      (h.approver d hd)
  have hbound : ∀ s ∈ db.sends.envelopes, ∃ a ∈ db'.approvals, a.id = s.approvalRequestId ∧
      s.resourceId = a.resourceId ∧ s.resourceVersion = a.resourceVersion ∧
      s.snapshotHash = a.snapshotHash ∧ s.renderedHash = a.renderedHash := fun s hs =>
    honward.carries (P := fun r => s.resourceId = r.resourceId ∧
      s.resourceVersion = r.resourceVersion ∧ s.snapshotHash = r.snapshotHash ∧
      s.renderedHash = r.renderedHash) (h.bound s hs)
  have hexecuting : ∀ x ∈ db.executions, ∃ a ∈ db'.approvals, a.id = x.approvalRequestId ∧
      a.status = .executing := by
    intro x hx
    obtain ⟨a, ha, hid, hstatus⟩ := h.executing x hx
    obtain ⟨a', ha', hrequest, hmoves⟩ := honward a ha
    refine ⟨a', ha', hrequest ▸ hid, ?_⟩
    rcases hmoves with hsame | hmoves
    · exact hsame.trans hstatus
    · rw [hstatus] at hmoves
      exact hmoves.elim
  cases he with
  | raised a => exact ⟨hids, h.decidedOnce, h.claimedOnce, h.preparedOnce, h.sendIds, hexecuting,
      h.exclusive, happrover, hbound⟩
  | elsewhere sends resources envelopes attestations =>
    refine ⟨hids, h.decidedOnce, h.claimedOnce, ?_, ?_, hexecuting, ?_, happrover, ?_⟩
    · exact envelopes ▸ h.preparedOnce
    · exact envelopes ▸ h.sendIds
    · exact envelopes ▸ h.exclusive
    · exact envelopes ▸ hbound
  | expired a at_ => exact ⟨hids, h.decidedOnce, h.claimedOnce, h.preparedOnce, h.sendIds,
      hexecuting, h.exclusive, happrover, hbound⟩
  | decided a d use found pending early names decides held free =>
    refine ⟨hids, map_snoc_nodup h.decidedOnce names free, h.claimedOnce, h.preparedOnce,
      h.sendIds, hexecuting, h.exclusive, fun d' hd' => ?_, hbound⟩
    rcases List.mem_append.mp hd' with hold | hnew
    · exact happrover d' hold
    · rw [List.mem_singleton.mp hnew]
      refine ⟨a.moved d.decision.status d.decidedAt, mem_put_self (lookup_mem found) rfl,
        names.symm, fun hself => ?_⟩
      rcases decides with ⟨-, hother⟩ | ⟨-, -, -, hcounter⟩
      · exact absurd hself hother
      · exact hcounter
  | claimed a x found approved early names same unsent free =>
    refine ⟨hids, h.decidedOnce, map_snoc_nodup h.claimedOnce names free, h.preparedOnce,
      h.sendIds, fun x' hx' => ?_, fun x' hx' => ?_, happrover, hbound⟩
    · rcases List.mem_append.mp hx' with hold | hnew
      · exact hexecuting x' hold
      · rw [List.mem_singleton.mp hnew]
        exact ⟨a.moved .executing x.claimedAt, mem_put_self (lookup_mem found) rfl, names.symm, rfl⟩
    · rcases List.mem_append.mp hx' with hold | hnew
      · exact h.exclusive x' hold
      · rw [List.mem_singleton.mp hnew, names]
        exact unsent
  | prepared a s sends found approved early names same binds unsent fresh envelopes attestations =>
    refine ⟨hids, h.decidedOnce, h.claimedOnce, ?_, ?_, hexecuting, fun x hx => ?_, happrover,
      fun s' hs' => ?_⟩
    · exact envelopes ▸ map_snoc_nodup h.preparedOnce names unsent
    · exact envelopes ▸ map_snoc_nodup h.sendIds rfl fresh
    · have hother : x.approvalRequestId ≠ a.id := by
        intro hid
        obtain ⟨b, hb, hbid, hstatus⟩ := h.executing x hx
        rw [h.eq_of_id hb (lookup_mem found) (hbid.trans hid), approved] at hstatus
        cases hstatus
      change _ ∉ sends.envelopes.map _
      rw [envelopes, List.map_append, List.mem_append, not_or]
      exact ⟨h.exclusive x hx, by simpa [names] using hother⟩
    · change s' ∈ sends.envelopes at hs'
      rw [envelopes] at hs'
      rcases List.mem_append.mp hs' with hold | hnew
      · exact hbound s' hold
      · rw [List.mem_singleton.mp hnew]
        exact ⟨a, lookup_mem found, names.symm, binds⟩
  | sent a s recorded t sends found approved early names envelope same records keeps envelopes =>
    have hdistinct : ∀ x ∈ db.sends.envelopes, x.id = s.id → x = s := fun x hx hid =>
      eq_of_envelope_id h.sendIds hx envelope hid
    have hmap : sends.envelopes.map ManualSendEnvelope.approvalRequestId =
        db.sends.envelopes.map ManualSendEnvelope.approvalRequestId := by
      rw [envelopes]
      exact map_recorded (by rw [keeps]) hdistinct
    have hmapIds : sends.envelopes.map ManualSendEnvelope.id =
        db.sends.envelopes.map ManualSendEnvelope.id := by
      rw [envelopes]
      exact map_recorded (by rw [keeps]) hdistinct
    refine ⟨hids, h.decidedOnce, h.claimedOnce, hmap ▸ h.preparedOnce, hmapIds ▸ h.sendIds,
      hexecuting, fun x hx => hmap ▸ h.exclusive x hx, happrover, fun s' hs' => ?_⟩
    change s' ∈ sends.envelopes at hs'
    rw [envelopes] at hs'
    obtain ⟨x, hx, rfl⟩ := List.mem_map.mp hs'
    by_cases hid : x.id = s.id
    · rw [if_pos hid, keeps]
      exact hbound s envelope
    · rw [if_neg hid]
      exact hbound x hx

lemma inv_empty : Inv emptyDatabase :=
  ⟨List.nodup_nil, List.nodup_nil, List.nodup_nil, List.nodup_nil, List.nodup_nil,
    fun _ hx => absurd hx List.not_mem_nil, fun _ hx => absurd hx List.not_mem_nil,
    fun _ hx => absurd hx List.not_mem_nil, fun _ hx => absurd hx List.not_mem_nil⟩

lemma Inv.apply (h : Inv db) (c : Command) : Inv (apply db c) := by
  rw [Approvals.apply]
  cases hattempt : attempt db c with
  | error e => exact h
  | ok result => exact h.effect (attempt_effect hattempt)

lemma inv_run (commands : List Command) : Inv (run commands) :=
  List.foldlRecOn commands Approvals.apply inv_empty fun _ h c _ => Inv.apply h c

structure Ledgers where
  decisions : List ApprovalDecision
  executions : List ApprovalExecution
  prepared : List Uuid
  attestations : List ManualSendAttestation

def ledgers (db : Database) : Ledgers :=
  ⟨db.decisions, db.executions,
    db.sends.envelopes.map ManualSendEnvelope.approvalRequestId, db.sends.attestations⟩

/-- What a command that did this to the envelope has recorded: one row, and nothing else. -/
def Records (db db' : Database) (a : Approval) (e : Event) : Prop :=
  match e.use with
  | .decided decision => ∃ d : ApprovalDecision, d.approvalRequestId = a.id ∧ d.decision = decision ∧
      d.decidedBy ≠ a.requestedBy ∧ d.decidedAt = e.at_ ∧
      ledgers db' = { ledgers db with decisions := db.decisions ++ [d] }
  | .attested => ∃ d : ApprovalDecision, d.approvalRequestId = a.id ∧ d.decision = .approved ∧
      d.decidedBy = a.requestedBy ∧ a.counterAttested ∧ d.decidedAt = e.at_ ∧
      ledgers db' = { ledgers db with decisions := db.decisions ++ [d] }
  | .claimed => ∃ x : ApprovalExecution, x.approvalRequestId = a.id ∧ x.claimedAt = e.at_ ∧
      ledgers db' = { ledgers db with executions := db.executions ++ [x] }
  | .prepared => ledgers db' = { ledgers db with prepared := (ledgers db).prepared ++ [a.id] }
  | .sent => ∃ s : ManualSendAttestation, s.approvalRequestId = a.id ∧ s.recordedAt = e.at_ ∧
      ledgers db' = { ledgers db with attestations := db.sends.attestations ++ [s] }
  | .expired => ledgers db' = ledgers db

/-- At most one decision, at most one of a claim and a manual send, and the approver is not the
requester but at the counter. -/
structure UsedOnce (db : Database) (a : Approval) : Prop where
  decided : (db.decisions.filter fun d => d.approvalRequestId = a.id).length ≤ 1
  used : (db.executions.filter fun x => x.approvalRequestId = a.id).length +
    (db.sends.envelopes.filter fun e => e.approvalRequestId = a.id).length ≤ 1
  approver : ∀ d ∈ db.decisions, d.approvalRequestId = a.id → d.decidedBy = a.requestedBy →
    a.counterAttested

lemma length_filter_le {ρ : Type} {key : ρ → Uuid} {rows : List ρ} (hn : (rows.map key).Nodup)
    (id : Uuid) : (rows.filter fun r => key r = id).length ≤ 1 := by
  have hcount := List.nodup_iff_count_le_one.mp hn id
  rw [List.count_eq_countP, List.countP_map, List.countP_eq_length_filter] at hcount
  refine le_trans (le_of_eq ?_) hcount
  congr 2

lemma Inv.usedOnce (h : Inv db) {a : Approval} (ha : a ∈ db.approvals) : UsedOnce db a where
  decided := length_filter_le h.decidedOnce a.id
  used := by
    have hclaimed := length_filter_le h.claimedOnce a.id
    have hprepared := length_filter_le h.preparedOnce a.id
    by_cases hany : db.executions.filter (fun x => x.approvalRequestId = a.id) = []
    · rw [hany, List.length_nil, zero_add]
      exact hprepared
    · obtain ⟨x, hx⟩ := List.exists_mem_of_ne_nil _ hany
      obtain ⟨hx, hid⟩ := List.mem_filter.mp hx
      have hnone : db.sends.envelopes.filter (fun e => e.approvalRequestId = a.id) = [] := by
        rw [List.filter_eq_nil_iff]
        intro e he hsame
        refine h.exclusive x hx (List.mem_map.mpr ⟨e, he, ?_⟩)
        exact (of_decide_eq_true hsame).trans (of_decide_eq_true hid).symm
      rw [hnone, List.length_nil, add_zero]
      exact hclaimed
  approver d hd hid hself := by
    obtain ⟨b, hb, hbid, happroves⟩ := h.approver d hd
    obtain rfl := h.eq_of_id hb ha (hbid.trans hid)
    exact happroves hself

lemma ledgers_moved (a : Approval) (status : ApprovalStatus) (at_ : Int) :
    ledgers (moved db a status at_) = ledgers db := rfl

lemma Inv.sameContent_sent (h : Inv db) {a : Approval} {e : ManualSendEnvelope}
    (ha : a ∈ db.approvals) (he : e ∈ db.sends.envelopes) (names : e.approvalRequestId = a.id)
    (same : a.resourceType = "MESSAGE_DRAFT" ∧
      ∃ draft, db.sends.surroundings.drafts e.resourceId = some draft ∧ draft.storeId = a.storeId ∧
        draft.resourceVersion = e.resourceVersion ∧ draft.snapshotHash = e.snapshotHash ∧
        draft.renderedHash = e.renderedHash) : SameContent db a := by
  obtain ⟨htype, draft, hdraft, hstore, hversion, hsnapshot, hrendered⟩ := same
  obtain ⟨b, hb, hbid, hresource, hversion', hsnapshot', hrendered'⟩ := h.bound e he
  obtain rfl := h.eq_of_id hb ha (hbid.trans names)
  exact sameContent_draft ⟨htype, hresource ▸ hdraft, hstore, hversion.trans hversion',
    hsnapshot.trans hsnapshot', hrendered.trans hrendered'⟩

lemma Inv.event_effect (h : Inv db) {e : Event} (he : Effect db (some e) db') :
    ∃ a ∈ db.approvals, a.id = e.approvalId ∧ Records db db' a e ∧
      (e.use ≠ .expired → e.at_ < a.expiresAt) ∧
      (e.use ≠ .expired → e.use ≠ .decided .rejected → SameContent db a) := by
  cases he with
  | expired a at_ found live =>
    exact ⟨a, lookup_mem found, rfl, ledgers_moved a _ _, fun huse => absurd rfl huse,
      fun huse => absurd rfl huse⟩
  | decided a d use found pending early names decides held free =>
    refine ⟨a, lookup_mem found, rfl, ?_, fun _ => early, fun _ => held⟩
    rcases decides with ⟨rfl, hother⟩ | ⟨rfl, happroved, hself, hcounter⟩
    · exact ⟨d, names, rfl, hother, rfl, rfl⟩
    · exact ⟨d, names, happroved, hself, hcounter, rfl, rfl⟩
  | claimed a x found approved early names same unsent free =>
    exact ⟨a, lookup_mem found, rfl, ⟨x, names, rfl, rfl⟩, fun _ => early, fun _ _ => same⟩
  | prepared a s sends found approved early names same binds unsent fresh envelopes attestations =>
    refine ⟨a, lookup_mem found, rfl, ?_, fun _ => early, fun _ _ => same⟩
    change Ledgers.mk _ _ (sends.envelopes.map _) sends.attestations = _
    rw [envelopes, attestations, List.map_append, List.map_singleton, names]
    rfl
  | sent a s recorded t sends found approved early names envelope same records keeps envelopes
      attestations =>
    refine ⟨a, lookup_mem found, rfl, ⟨t, records, rfl, ?_⟩, fun _ => early,
      fun _ _ => h.sameContent_sent (lookup_mem found) envelope names same⟩
    change Ledgers.mk _ _ (sends.envelopes.map _) sends.attestations = _
    rw [envelopes, attestations, map_recorded (by rw [keeps])
      fun x hx hid => eq_of_envelope_id h.sendIds hx envelope hid]
    rfl

lemma ledgers_quiet (he : Effect db none db') : ledgers db' = ledgers db := by
  cases he with
  | raised => rfl
  | elsewhere sends resources envelopes attestations =>
    change Ledgers.mk _ _ (sends.envelopes.map _) sends.attestations = _
    rw [envelopes, attestations]
    rfl

/-- Over any run and any next command, an approval is decided once and used once, its status only
moves on, and nothing uses it past its expiry or with its resource changed. -/
theorem one_approval_one_use (commands : List Command) (c : Command) :
    let db := run commands
    (∀ a ∈ db.approvals, UsedOnce db a) ∧ Onward db (apply db c) ∧
    (∀ e, event db c = some e → ∃ a ∈ db.approvals, a.id = e.approvalId ∧
      Records db (apply db c) a e ∧ (e.use ≠ .expired → e.at_ < a.expiresAt) ∧
      (e.use ≠ .expired → e.use ≠ .decided .rejected → SameContent db a)) ∧
    (event db c = none → ledgers (apply db c) = ledgers db) := by
  intro db
  have hinv : Inv db := inv_run commands
  refine ⟨fun a ha => hinv.usedOnce ha, ?_⟩
  dsimp only [apply, event]
  cases hattempt : attempt db c with
  | error refusal =>
    refine ⟨onward_of_approvals rfl, ?_, fun _ => rfl⟩
    intro e he
    cases he
  | ok result =>
    obtain ⟨e, db'⟩ := result
    have heffect := attempt_effect hattempt
    refine ⟨hinv.onward heffect, ?_, ?_⟩
    · rintro e rfl
      exact hinv.event_effect heffect
    · rintro rfl
      exact ledgers_quiet heffect

section Rejected

def noon : Datetime := .ofUtc (739500 * dayMicros) (by decide)

/-- The digests of the quote, of its rendering, and of the quote once it was revised. -/
def quoteDigest : String :=
  "JCS-SHA256-V1:c3a1f0a4b7f5b58e1d2ad6cbf0d8c7a9e4f1632b9a7c5d3e8f60412b7a9c3d51"

def renderedDigest : String :=
  "JCS-SHA256-V1:5be7d1f0936c42ad8e07b4c15f2a6d90e3b8c7415a9fd260b1e4730c8d6f92ae"

def revisedDigest : String :=
  "JCS-SHA256-V1:08f4a2c61b7d93e5fa20c4d87e615b39a0cd72f4815e6b93d0f7a24c5e8136bd"

def quoteEnvelope : ApprovalRequest :=
  ⟨.ofNat 1, .presentQuote, "QUOTE_REVISION", .ofNat 2, 1, quoteDigest, renderedDigest,
    "policy", .opsApprover, [separationOfDuty], "PRESENT_QUOTE", .ofNat 3,
    noon.instant - 1, noon.instant + 1, .ofNat 4⟩

def revisedQuote : List Command :=
  [.raise quoteEnvelope,
    .elsewhere { emptyDatabase.sends.surroundings with storeMember := fun _ _ => true }
      { emptyResources with quotes := fun _ => some ⟨.ofNat 4, 2, revisedDigest⟩ }
      [] [] fun _ => none]

def rejection : ApprovalDecisionCommand :=
  ⟨.ofNat 1, .rejected, 1, quoteDigest, renderedDigest, "PRICE_WRONG",
    ⟨.ofNat 5, [.opsApprover], true⟩, none, none⟩

/-- A rejection is recorded although the quote is no longer what the envelope binds. -/
theorem rejected_after_revision : ∃ a ∈ (run revisedQuote).approvals,
    event (run revisedQuote) (.decide rejection noon (.ofNat 6)) =
      some ⟨a.id, .decided .rejected, noon.instant⟩ ∧
    ¬ SameContent (run revisedQuote) a := by
  refine ⟨{ quoteEnvelope with status := .requested, rowVersion := 1, updatedAt := _ },
    List.mem_singleton_self _, rfl, fun hsame => ?_⟩
  obtain ⟨current, hcurrent, -, hversion, -⟩ := hsame currentQuoteRevision rfl
  cases hcurrent
  cases hversion

end Rejected

end NhaTrangLaundry.Db.Approvals
