import NhaTrangLaundry.Db.AgentRuns

/-! What one transaction can do to the queue of agent runs, and the life of a run. -/

namespace NhaTrangLaundry.Db.AgentRuns

open Lib Outcome Sorting Table Domain Catalog

variable {β : Type} {alnum : Char → Bool}

section Keys

lemma length_str (u : Uuid) : u.str.toList.length = 36 := by
  have hlength := Uuid.length_hex u
  rw [Uuid.str, String.toList_ofList]
  simp only [Uuid.dashed, List.length_append, List.length_cons, List.length_take, List.length_drop,
    hlength]
  omega

lemma toList_key (id : Uuid) (m : Milestone) :
    (m.idempotencyKey id).toList = "agent-run:".toList ++ (id.str.toList ++ m.keySuffix.toList) := by
  unfold Milestone.idempotencyKey
  rw [String.toList_append, String.toList_append]

lemma key_injective {id id' : Uuid} {m m' : Milestone}
    (h : m.idempotencyKey id = m'.idempotencyKey id') : id = id' ∧ m.keySuffix = m'.keySuffix := by
  have hlist := congrArg String.toList h
  rw [toList_key, toList_key] at hlist
  have hparts := List.append_inj (List.append_cancel_left hlist)
    ((length_str id).trans (length_str id').symm)
  exact ⟨Uuid.str_injective (String.toList_inj.mp hparts.1), String.toList_inj.mp hparts.2⟩

/-- A milestone with a number that `record_tool_call` accepts, if it has one. -/
def Milestone.valid : Milestone → Prop
  | .toolCalled n => 1 ≤ n ∧ n ≤ 6
  | _ => True

/-- The version of a milestone, read back from the end of its key. -/
def versionOf (suffix : String) : Int :=
  [":requested", ":tool:1", ":tool:2", ":tool:3", ":tool:4", ":tool:5", ":tool:6"].idxOf suffix + 1

lemma versionOf_keySuffix {m : Milestone} (hm : m.valid) :
    versionOf m.keySuffix = m.aggregateVersion := by
  cases m with
  | toolCalled n =>
    obtain ⟨h1, h6⟩ := hm
    interval_cases n <;> decide
  | requested => decide
  | draftRecorded => decide
  | failed => decide
  | leaseExpired => decide

lemma keySuffix_version {m m' : Milestone} (hm : m.valid) (hm' : m'.valid)
    (h : m.keySuffix = m'.keySuffix) : m.aggregateVersion = m'.aggregateVersion := by
  rw [← versionOf_keySuffix hm, ← versionOf_keySuffix hm', h]

end Keys

def Deed.milestone : Deed → Option Milestone
  | .enqueued => some .requested
  | .claimed _ _ => none
  | .toolCalled _ n _ => some (.toolCalled n)
  | .drafted _ _ => some .draftRecorded
  | .failed _ _ => some .failed
  | .leaseExpired _ => some .leaseExpired

def deeds (agentRunId : Uuid) (log : List Commit) : List Deed :=
  log.filterMap fun c => if c.agentRunId = agentRunId then some c.deed else none

def milestones (log : List Commit) : List (Uuid × Milestone) :=
  log.filterMap fun c => c.deed.milestone.map fun m => (c.agentRunId, m)

def sequenceOf (c : Commit) : Option (Uuid × Int) :=
  match c.deed with
  | .toolCalled _ n _ => some (c.agentRunId, n)
  | _ => none

/-- A tool call under the one claim of a run, within its lease. -/
inductive Under (token : Uuid) (lease : Int) : Deed → Prop
  | toolCalled {n clock : Int} (hclock : clock ≤ lease) (hfirst : 1 ≤ n) (hlast : n ≤ 6) :
    Under token lease (.toolCalled token n clock)

/-- How the one claim of a run ends, and the status it ends in. -/
inductive Ends (token : Uuid) (lease : Int) : AgentRunStatus → Deed → Prop
  | drafted {clock : Int} (hclock : clock ≤ lease) :
    Ends token lease .draftRequiresHuman (.drafted token clock)
  | failed {clock : Int} (hclock : clock ≤ lease) : Ends token lease .failed (.failed token clock)
  | leaseExpired {now : Int} (hover : lease < now) : Ends token lease .failed (.leaseExpired now)

/-- The life of a run: it is queued, claimed once, calls tools under that claim, and ends. -/
inductive Life : AgentRun β → List Deed → Prop
  | queued {run : AgentRun β} (hstatus : run.status = .pending) (hcount : run.attemptCount = 0) :
    Life run [.enqueued]
  | claimed {run : AgentRun β} {token : Uuid} {lease : Int} {calls : List Deed}
    (hstatus : run.status = .processing) (hcount : run.attemptCount = 1)
    (htoken : run.claimToken = some token) (hlease : run.leaseExpiresAt = some lease)
    (hcalls : ∀ d ∈ calls, Under token lease d) :
    Life run (.enqueued :: .claimed token lease :: calls)
  | ended {run : AgentRun β} {token : Uuid} {lease : Int} {calls : List Deed} {d : Deed}
    (hcount : run.attemptCount = 1) (hcalls : ∀ d ∈ calls, Under token lease d)
    (hend : Ends token lease run.status d) :
    Life run (.enqueued :: .claimed token lease :: (calls ++ [d]))

/-- What one transaction can do to the queue, and the commit it leaves. -/
inductive Effect (db : Database β) : Option Commit → Database β → Prop
  | idle : Effect db none db
  | enqueued {run : AgentRun β} {db' : Database β} {correlationId : Uuid} {at' : Int}
    (hfree : lookup AgentRun.id db.agentRuns run.id = none) (hstatus : run.status = .pending)
    (hcount : run.attemptCount = 0)
    (hcommit : commitMaterialChange { db with agentRuns := db.agentRuns ++ [run] } run.id .requested
      correlationId at' = .ok db') : Effect db (some ⟨run.id, .enqueued⟩) db'
  | claimed {run : AgentRun β} {token : Uuid} {now lease : Datetime} (hrun : run ∈ db.agentRuns)
    (hstatus : run.status = .pending) :
    Effect db (some ⟨run.id, .claimed token lease.instant⟩)
      { db with agentRuns := put AgentRun.id db.agentRuns (claimed run token now lease) }
  | toolCalled {run : AgentRun β} {call : AgentToolCall} {db' : Database β} {token : Uuid}
    {lease clock : Int} {correlationId : Uuid} {at' : Int} (hrun : run ∈ db.agentRuns)
    (hstatus : run.status = .processing) (htoken : run.claimToken = some token)
    (hlease : run.leaseExpiresAt = some lease) (hclock : clock ≤ lease)
    (hid : call.agentRunId = run.id) (hfirst : 1 ≤ call.sequenceNumber)
    (hlast : call.sequenceNumber ≤ 6)
    (hfree : ∀ other ∈ db.toolCalls, ¬ (other.agentRunId = run.id ∧
      other.sequenceNumber = call.sequenceNumber))
    (hcommit : commitMaterialChange { db with toolCalls := db.toolCalls ++ [call] } run.id
      (.toolCalled call.sequenceNumber) correlationId at' = .ok db') :
    Effect db (some ⟨run.id, .toolCalled token call.sequenceNumber clock⟩) db'
  | ended {run new : AgentRun β} {db' : Database β} {lease : Int} {d : Deed} {m : Milestone}
    {correlationId : Uuid} {at' : Int} (hrun : run ∈ db.agentRuns)
    (hstatus : run.status = .processing) (hlease : run.leaseExpiresAt = some lease)
    (hid : new.id = run.id) (hcount : new.attemptCount = run.attemptCount)
    (hend : ∀ token, run.claimToken = some token → Ends token lease new.status d)
    (hm : d.milestone = some m)
    (hcommit : commitMaterialChange { db with agentRuns := put AgentRun.id db.agentRuns new }
      run.id m correlationId at' = .ok db') : Effect db (some ⟨run.id, d⟩) db'

section Steps

variable {db db' : Database β}

lemma assertClaim_ok {agentRunId token : Uuid} {clock : Int} {run : AgentRun β}
    (h : assertClaim db agentRunId token clock = .ok run) :
    run ∈ db.agentRuns ∧ run.id = agentRunId ∧ run.status = .processing ∧
      run.claimToken = some token ∧ ∃ lease, run.leaseExpiresAt = some lease ∧ clock ≤ lease := by
  rw [assertClaim, ofOption_ok] at h
  have hfound := List.find?_some h
  simp only [Bool.and_eq_true, decide_eq_true_eq, Option.any_eq_true] at hfound
  obtain ⟨⟨⟨hid, hstatus⟩, htoken⟩, lease, hlease, hclock⟩ := hfound
  exact ⟨List.mem_of_find?_eq_some h, hid, hstatus, htoken, lease, hlease, hclock⟩

lemma updateRun_ok {old new : AgentRun β} (h : updateRun db old new = .ok db') :
    db' = { db with agentRuns := put AgentRun.id db.agentRuns new } := by
  simp only [updateRun, bind_ok, require_ok] at h
  obtain ⟨_, _, _, _, h⟩ := h
  cases h
  rfl

lemma candidate_some {locked : List Uuid} {run : AgentRun β} (h : candidate db locked = some run) :
    run ∈ db.agentRuns ∧ run.status = .pending := by
  have hmem := List.mem_of_head? h
  rw [mem_sortBy, List.mem_filter] at hmem
  simp only [Bool.and_eq_true, decide_eq_true_eq] at hmem
  exact ⟨hmem.1, hmem.2.1⟩

lemma expired_some {now : Int} {locked : List Uuid} {run : AgentRun β} {correlationId : Uuid}
    (h : expired db now locked = some (run, correlationId)) :
    run ∈ db.agentRuns ∧ run.status = .processing ∧
      ∃ lease, run.leaseExpiresAt = some lease ∧ lease < now := by
  have hmem := List.mem_of_head? h
  rw [List.mem_filterMap] at hmem
  obtain ⟨found, hfound, hpair⟩ := hmem
  obtain ⟨_, _, hpair⟩ := Option.map_eq_some_iff.mp hpair
  cases hpair
  rw [mem_sortBy, List.mem_filter] at hfound
  simp only [Bool.and_eq_true, decide_eq_true_eq, Option.any_eq_true] at hfound
  obtain ⟨hrun, ⟨hstatus, hover⟩, _⟩ := hfound
  exact ⟨hrun, hstatus, hover⟩

lemma effect_enqueue {agentRunId : Uuid} {binding : β} {createdAt : Int} {correlationId : Uuid}
    (h : enqueue db agentRunId binding createdAt correlationId = .ok db') :
    Effect db (some ⟨agentRunId, .enqueued⟩) db' := by
  simp only [enqueue, bind_ok, require_ok] at h
  obtain ⟨_, hfree, hcommit⟩ := h
  exact .enqueued hfree rfl rfl hcommit

lemma effect_claimNext {role : ActorRole} {now : Datetime} {token : Uuid} {locked : List Uuid}
    {claimed : Option (ClaimedAgentRun β)} (h : claimNext db role now token locked = .ok (claimed, db')) :
    Effect db (claimed.map fun run =>
      ⟨run.agentRunId, .claimed run.claimToken run.leaseExpiresAt⟩) db' := by
  simp only [claimNext, bind_ok] at h
  obtain ⟨_, _, lease, _, h⟩ := h
  cases hcandidate : candidate db locked with
  | none =>
    simp only [hcandidate] at h
    cases h
    exact .idle
  | some run =>
    simp only [hcandidate, bind_ok] at h
    obtain ⟨written, hwritten, h⟩ := h
    cases h
    obtain rfl := updateRun_ok hwritten
    obtain ⟨hrun, hstatus⟩ := candidate_some hcandidate
    exact .claimed hrun hstatus

lemma effect_recordToolCall {entry : AgentToolCallLedgerEntry} {callId : Uuid} {clock : Int}
    (h : recordToolCall db entry callId clock = .ok db') :
    Effect db (some ⟨entry.agentRunId, .toolCalled entry.claimToken entry.sequenceNumber clock⟩) db' := by
  simp only [recordToolCall, bind_ok, require_ok] at h
  obtain ⟨_, _, _, ⟨hfirst, hlast⟩, _, _, _, _, run, hclaim, _, _, _, hfree, hcommit⟩ := h
  obtain ⟨hrun, hid, hstatus, htoken, lease, hlease, hclock⟩ := assertClaim_ok hclaim
  rw [← hid] at hfree hcommit ⊢
  exact .toolCalled hrun hstatus htoken hlease hclock rfl hfirst hlast hfree hcommit

lemma effect_completeDraft {agentRunId token correlationId : Uuid} {safeSummary : SafeSummary}
    {completedAt clock : Int}
    (h : completeDraft db agentRunId token safeSummary correlationId completedAt clock = .ok db') :
    Effect db (some ⟨agentRunId, .drafted token clock⟩) db' := by
  simp only [completeDraft, bind_ok] at h
  obtain ⟨_, _, run, hclaim, written, hwritten, hcommit⟩ := h
  obtain rfl := updateRun_ok hwritten
  obtain ⟨hrun, rfl, hstatus, htoken, lease, hlease, hclock⟩ := assertClaim_ok hclaim
  refine .ended hrun hstatus hlease ?_ ?_ (fun t ht => ?_) ?_ hcommit
  · rfl
  · rfl
  · cases htoken.symm.trans ht
    exact .drafted hclock
  · rfl

lemma effect_fail {agentRunId token correlationId : Uuid} {failureCode : String}
    {completedAt clock : Int}
    (h : fail alnum db agentRunId token failureCode correlationId completedAt clock = .ok db') :
    Effect db (some ⟨agentRunId, .failed token clock⟩) db' := by
  simp only [fail, bind_ok] at h
  obtain ⟨_, _, run, hclaim, written, hwritten, hcommit⟩ := h
  obtain rfl := updateRun_ok hwritten
  obtain ⟨hrun, rfl, hstatus, htoken, lease, hlease, hclock⟩ := assertClaim_ok hclaim
  refine .ended hrun hstatus hlease ?_ ?_ (fun t ht => ?_) ?_ hcommit
  · rfl
  · rfl
  · cases htoken.symm.trans ht
    exact .failed hclock
  · rfl

lemma effect_recoverExpired {role : ActorRole} {now : Int} {locked : List Uuid}
    {recovered : Option Uuid} (h : recoverExpired db role now locked = .ok (recovered, db')) :
    Effect db (recovered.map fun agentRunId => ⟨agentRunId, .leaseExpired now⟩) db' := by
  simp only [recoverExpired, bind_ok] at h
  obtain ⟨_, _, h⟩ := h
  cases hexpired : expired db now locked with
  | none =>
    simp only [hexpired] at h
    cases h
    exact .idle
  | some found =>
    obtain ⟨run, correlationId⟩ := found
    simp only [hexpired, bind_ok] at h
    obtain ⟨written, hwritten, committed, hcommit, h⟩ := h
    cases h
    obtain rfl := updateRun_ok hwritten
    obtain ⟨hrun, hstatus, lease, hlease, hover⟩ := expired_some hexpired
    refine .ended hrun hstatus hlease ?_ ?_ (fun _ _ => .leaseExpired hover) ?_ hcommit
    · rfl
    · rfl
    · rfl

lemma attempt_effect {step : Step β} {commit : Option Commit}
    (h : attempt alnum db step = .ok (commit, db')) : Effect db commit db' := by
  cases step with
  | enqueue agentRunId binding createdAt correlationId =>
    obtain ⟨written, hwritten, h⟩ := bind_ok.mp h
    cases h
    exact effect_enqueue hwritten
  | claimNext role now token locked =>
    obtain ⟨⟨claimed, written⟩, hwritten, h⟩ := bind_ok.mp h
    cases h
    exact effect_claimNext hwritten
  | recordToolCall entry callId clock =>
    obtain ⟨written, hwritten, h⟩ := bind_ok.mp h
    cases h
    exact effect_recordToolCall hwritten
  | completeDraft agentRunId token safeSummary correlationId completedAt clock =>
    obtain ⟨written, hwritten, h⟩ := bind_ok.mp h
    cases h
    exact effect_completeDraft hwritten
  | fail agentRunId token failureCode correlationId completedAt clock =>
    obtain ⟨written, hwritten, h⟩ := bind_ok.mp h
    cases h
    exact effect_fail hwritten
  | recoverExpired role now locked =>
    obtain ⟨⟨recovered, written⟩, hwritten, h⟩ := bind_ok.mp h
    cases h
    exact effect_recoverExpired hwritten

end Steps

end NhaTrangLaundry.Db.AgentRuns
