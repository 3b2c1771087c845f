import Mathlib.Data.List.Nodup
import NhaTrangLaundry.Db.AgentRunSteps

/-! A run is executed under one claim and never again: what every transaction keeps, and what
follows of the ledgers. -/

namespace NhaTrangLaundry.Db.AgentRuns

open Lib Outcome Sorting Table Domain Catalog

variable {β : Type} {alnum : Char → Bool}

section Lives

variable {run new : AgentRun β} {ds : List Deed}

lemma Life.of_pending (h : Life run ds) (hstatus : run.status = .pending) :
    ds = [.enqueued] ∧ run.attemptCount = 0 := by
  cases h with
  | queued _ hcount => exact ⟨rfl, hcount⟩
  | claimed hprocessing => rw [hstatus] at hprocessing; cases hprocessing
  | ended _ _ hend => rw [hstatus] at hend; cases hend

lemma Life.of_processing (h : Life run ds) (hstatus : run.status = .processing) :
    ∃ token lease calls, run.claimToken = some token ∧ run.leaseExpiresAt = some lease ∧
      run.attemptCount = 1 ∧ (∀ d ∈ calls, Under token lease d) ∧
      ds = .enqueued :: .claimed token lease :: calls := by
  cases h with
  | queued hpending => rw [hstatus] at hpending; cases hpending
  | claimed _ hcount htoken hlease hcalls => exact ⟨_, _, _, htoken, hlease, hcount, hcalls, rfl⟩
  | ended _ _ hend => rw [hstatus] at hend; cases hend

lemma Life.call (h : Life run ds) (hstatus : run.status = .processing) {token : Uuid} {lease : Int}
    (htoken : run.claimToken = some token) (hlease : run.leaseExpiresAt = some lease) {d : Deed}
    (hd : Under token lease d) : Life run (ds ++ [d]) := by
  obtain ⟨token', lease', calls, htoken', hlease', hcount, hcalls, rfl⟩ := h.of_processing hstatus
  cases htoken.symm.trans htoken'
  cases hlease.symm.trans hlease'
  have hunder : ∀ e ∈ calls ++ [d], Under token lease e := fun e he => by
    rcases List.mem_append.mp he with he | he
    · exact hcalls e he
    · cases List.mem_singleton.mp he
      exact hd
  exact .claimed hstatus hcount htoken hlease hunder

lemma Life.finish (h : Life run ds) (hstatus : run.status = .processing) {lease : Int}
    (hlease : run.leaseExpiresAt = some lease) (hcount : new.attemptCount = run.attemptCount)
    {d : Deed} (hend : ∀ token, run.claimToken = some token → Ends token lease new.status d) :
    Life new (ds ++ [d]) := by
  obtain ⟨token, lease', calls, htoken, hlease', hone, hcalls, rfl⟩ := h.of_processing hstatus
  cases hlease.symm.trans hlease'
  exact .ended (hcount.trans hone) hcalls (hend token htoken)

lemma Under.valid {token : Uuid} {lease : Int} {d : Deed} (h : Under token lease d) {m : Milestone}
    (hm : d.milestone = some m) : m.valid := by
  cases h with
  | toolCalled _ hfirst hlast =>
    cases hm
    exact ⟨hfirst, hlast⟩

lemma Life.valid (h : Life run ds) {d : Deed} (hd : d ∈ ds) {m : Milestone}
    (hm : d.milestone = some m) : m.valid := by
  cases h with
  | queued =>
    cases List.mem_singleton.mp hd
    cases hm
    trivial
  | claimed _ _ _ _ hcalls =>
    rcases List.mem_cons.mp hd with rfl | hd
    · cases hm
      trivial
    · rcases List.mem_cons.mp hd with rfl | hd
      · cases hm
      · exact (hcalls d hd).valid hm
  | ended _ hcalls hend =>
    rcases List.mem_cons.mp hd with rfl | hd
    · cases hm
      trivial
    · rcases List.mem_cons.mp hd with rfl | hd
      · cases hm
      · rcases List.mem_append.mp hd with hd | hd
        · exact (hcalls d hd).valid hm
        · cases List.mem_singleton.mp hd
          generalize run.status = status at hend
          cases hend <;> cases hm <;> trivial

lemma Life.milestone_processing (h : Life run ds) (hstatus : run.status = .processing) {d : Deed}
    (hd : d ∈ ds) {m : Milestone} (hm : d.milestone = some m) :
    m = .requested ∨ ∃ token n clock, d = .toolCalled token n clock ∧ m = .toolCalled n ∧ 1 ≤ n ∧ n ≤ 6 := by
  obtain ⟨token, lease, calls, _, _, _, hcalls, rfl⟩ := h.of_processing hstatus
  rcases List.mem_cons.mp hd with rfl | hd
  · cases hm
    exact .inl rfl
  · rcases List.mem_cons.mp hd with rfl | hd
    · cases hm
    · cases hcalls d hd with
      | toolCalled _ hfirst hlast =>
        cases hm
        exact .inr ⟨_, _, _, rfl, rfl, hfirst, hlast⟩

end Lives

section Logs

lemma deeds_append (id : Uuid) (log : List Commit) (c : Commit) :
    deeds id (log ++ [c]) = deeds id log ++ if c.agentRunId = id then [c.deed] else [] := by
  rw [deeds, List.filterMap_append]
  by_cases h : c.agentRunId = id <;> simp [deeds, h]

lemma milestones_append (log : List Commit) (c : Commit) :
    milestones (log ++ [c]) =
      milestones log ++ (c.deed.milestone.map fun m => (c.agentRunId, m)).toList := by
  rw [milestones, List.filterMap_append]
  cases h : c.deed.milestone <;> simp [milestones, h]

lemma mem_milestones {log : List Commit} {p : Uuid × Milestone} (h : p ∈ milestones log) :
    ∃ c ∈ log, c.agentRunId = p.1 ∧ c.deed.milestone = some p.2 := by
  obtain ⟨c, hc, hp⟩ := List.mem_filterMap.mp h
  obtain ⟨m, hm, rfl⟩ := Option.map_eq_some_iff.mp hp
  exact ⟨c, hc, rfl, hm⟩

lemma mem_deeds {log : List Commit} {c : Commit} (h : c ∈ log) :
    c.deed ∈ deeds c.agentRunId log :=
  List.mem_filterMap.mpr ⟨c, h, by simp⟩

end Logs

/-- The ledgers say what the log says, and no run has two events of one version. -/
structure Ledgers (db : Database β) (log : List Commit) : Prop where
  events : db.domainEvents.map (fun e => (e.aggregateId, e.aggregateVersion, e.eventType)) =
    (milestones log).map fun p => (p.1, p.2.aggregateVersion, p.2.eventType)
  outbox : db.outboxEvents.map (fun e => (e.aggregateId, e.eventType, e.idempotencyKey)) =
    (milestones log).map fun p => (p.1, p.2.outboxType, p.2.idempotencyKey p.1)
  calls : db.toolCalls.map (fun c => (c.agentRunId, c.sequenceNumber)) = log.filterMap sequenceOf
  sequences : (log.filterMap sequenceOf).Nodup
  versions : ((milestones log).map fun p => (p.1, p.2.aggregateVersion)).Nodup

structure Inv (r : Run β) : Prop where
  ids : (r.db.agentRuns.map AgentRun.id).Nodup
  life : ∀ run ∈ r.db.agentRuns, Life run (deeds run.id r.log)
  known : ∀ c ∈ r.log, c.agentRunId ∈ r.db.agentRuns.map AgentRun.id
  ledgers : Ledgers r.db r.log

namespace Inv

variable {r : Run β}

lemma valid (h : Inv r) {p : Uuid × Milestone} (hp : p ∈ milestones r.log) : p.2.valid := by
  obtain ⟨c, hc, hid, hm⟩ := mem_milestones hp
  obtain ⟨run, hrun, hrunid⟩ := List.mem_map.mp (h.known c hc)
  refine (h.life run hrun).valid ?_ hm
  rw [hrunid]
  exact mem_deeds hc

lemma commit_succeeds (h : Inv r) (db : Database β) {id : Uuid} {m : Milestone}
    (hevents : db.domainEvents = r.db.domainEvents) (houtbox : db.outboxEvents = r.db.outboxEvents)
    (hm : m.valid)
    (hfree : ∀ p ∈ milestones r.log, p.1 = id → p.2.aggregateVersion ≠ m.aggregateVersion)
    (correlationId : Uuid) (at' : Int) :
    ∃ db', commitMaterialChange db id m correlationId at' = .ok db' := by
  have hpos : 0 < m.aggregateVersion := by
    cases m with
    | toolCalled n =>
      obtain ⟨hfirst, _⟩ := hm
      simp only [Milestone.aggregateVersion]
      omega
    | requested => decide
    | draftRecorded => decide
    | failed => decide
    | leaseExpired => decide
  rw [commitMaterialChange, require_true hpos, ok_bind, require_true, ok_bind, require_true]
  · exact ⟨_, rfl⟩
  · intro e he heq
    rw [houtbox] at he
    have hmem := List.mem_map_of_mem (f := fun e : OutboxEvent =>
      (e.aggregateId, e.eventType, e.idempotencyKey)) he
    rw [h.ledgers.outbox, List.mem_map] at hmem
    obtain ⟨p, hp, hpe⟩ := hmem
    simp only [Prod.mk.injEq] at hpe
    have hkey : p.2.idempotencyKey p.1 = m.idempotencyKey id := hpe.2.2.trans heq
    obtain ⟨hid, hsuffix⟩ := key_injective hkey
    exact hfree p hp hid (keySuffix_version (h.valid hp) hm hsuffix)
  · rintro e he ⟨hid, hversion, _⟩
    rw [hevents] at he
    have hmem := List.mem_map_of_mem (f := fun e : DomainEvent =>
      (e.aggregateId, e.aggregateVersion, e.eventType)) he
    rw [h.ledgers.events, List.mem_map] at hmem
    obtain ⟨p, hp, hpe⟩ := hmem
    simp only [Prod.mk.injEq] at hpe
    exact hfree p hp (hpe.1.trans hid) (hpe.2.1.trans hversion)

lemma free_unknown (h : Inv r) {id : Uuid} (hfree : lookup AgentRun.id r.db.agentRuns id = none)
    {p : Uuid × Milestone} (hp : p ∈ milestones r.log) : p.1 ≠ id := by
  intro hid
  obtain ⟨c, hc, hcid, _⟩ := mem_milestones hp
  obtain ⟨run, hrun, hrunid⟩ := List.mem_map.mp (h.known c hc)
  have hfound := lookup_of_mem h.ids hrun
  rw [hrunid, hcid, hid, hfree] at hfound
  cases hfound

/-- What a run under its claim has in the ledgers: version one, and a version for each of its
tool calls. -/
lemma version_processing (h : Inv r) {run : AgentRun β} (hrun : run ∈ r.db.agentRuns)
    (hstatus : run.status = .processing) {p : Uuid × Milestone} (hp : p ∈ milestones r.log)
    (hid : p.1 = run.id) : p.2.aggregateVersion = 1 ∨
      ∃ n, p.2.aggregateVersion = n + 1 ∧ 1 ≤ n ∧ n ≤ 6 ∧
        (run.id, n) ∈ r.log.filterMap sequenceOf := by
  obtain ⟨c, hc, hcid, hm⟩ := mem_milestones hp
  have hmem := mem_deeds hc
  rw [hcid, hid] at hmem
  rcases (h.life run hrun).milestone_processing hstatus hmem hm with
    hrequested | ⟨token, n, clock, hdeed, hcall, hfirst, hlast⟩
  · rw [hrequested]
    exact .inl rfl
  · rw [hcall]
    refine .inr ⟨n, rfl, hfirst, hlast, List.mem_filterMap.mpr ⟨c, hc, ?_⟩⟩
    rw [sequenceOf, hdeed, hcid, hid]

end Inv

section Preservation

variable {db db' : Database β} {r : Run β} {log : List Commit} {id : Uuid} {d : Deed} {m : Milestone}

lemma commitMaterialChange_ok {correlationId : Uuid} {at' : Int}
    (h : commitMaterialChange db id m correlationId at' = .ok db') :
    db' = { db with
      domainEvents := db.domainEvents ++
        [⟨id, m.aggregateVersion, m.eventType, correlationId, at'⟩]
      outboxEvents := db.outboxEvents ++
        [⟨id, m.outboxType, m.idempotencyKey id, correlationId, at'⟩] } := by
  simp only [commitMaterialChange, bind_ok, require_ok] at h
  obtain ⟨_, _, _, _, _, _, h⟩ := h
  cases h
  rfl

lemma nodup_append_one {α : Type} {l : List α} {a : α} (hl : l.Nodup) (ha : a ∉ l) :
    (l ++ [a]).Nodup := by
  rw [← List.concat_eq_append, List.nodup_concat]
  exact ⟨ha, hl⟩

lemma Ledgers.commit {db₀ : Database β} (h : Ledgers db₀ log) {correlationId : Uuid} {at' : Int}
    (hcommit : commitMaterialChange db id m correlationId at' = .ok db')
    (hevents : db.domainEvents = db₀.domainEvents) (houtbox : db.outboxEvents = db₀.outboxEvents)
    (hd : d.milestone = some m)
    (hcalls : db.toolCalls.map (fun c => (c.agentRunId, c.sequenceNumber)) =
      (log ++ [Commit.mk id d]).filterMap sequenceOf)
    (hsequences : ((log ++ [Commit.mk id d]).filterMap sequenceOf).Nodup)
    (hfree : ∀ p ∈ milestones log, p.1 = id → p.2.aggregateVersion ≠ m.aggregateVersion) :
    Ledgers db' (log ++ [⟨id, d⟩]) := by
  have hmilestones : milestones (log ++ [⟨id, d⟩]) = milestones log ++ [(id, m)] := by
    rw [milestones_append, hd]
    rfl
  obtain rfl := commitMaterialChange_ok hcommit
  refine ⟨?_, ?_, hcalls, hsequences, ?_⟩
  · rw [hmilestones, List.map_append, List.map_append, hevents, h.events]
    rfl
  · rw [hmilestones, List.map_append, List.map_append, houtbox, h.outbox]
    rfl
  · rw [hmilestones, List.map_append]
    refine nodup_append_one h.versions fun hmem => ?_
    obtain ⟨p, hp, heq⟩ := List.mem_map.mp hmem
    simp only [Prod.mk.injEq] at heq
    exact hfree p hp heq.1 heq.2

lemma sequences_append (hd : sequenceOf ⟨id, d⟩ = none) :
    (log ++ [Commit.mk id d]).filterMap sequenceOf = log.filterMap sequenceOf := by
  rw [List.filterMap_append, List.filterMap_cons_none hd, List.filterMap_nil, List.append_nil]

/-- A transaction on one row: the row lives on, and the others are as they were. -/
lemma Inv.touch (h : Inv r) {run new : AgentRun β} (hrun : run ∈ r.db.agentRuns)
    (hid : new.id = run.id) (hruns : db'.agentRuns = put AgentRun.id r.db.agentRuns new)
    (hlife : Life new (deeds run.id r.log ++ [d]))
    (hledgers : Ledgers db' (r.log ++ [⟨run.id, d⟩])) : Inv ⟨db', r.log ++ [⟨run.id, d⟩]⟩ where
  ids := by
    rw [hruns, map_key_put]
    exact h.ids
  life other hother := by
    rw [hruns, mem_put hrun hid] at hother
    rw [deeds_append]
    rcases hother with rfl | ⟨hother, hne⟩
    · rw [if_pos hid.symm, hid]
      exact hlife
    · rw [if_neg fun heq => hne (heq.symm.trans hid.symm), List.append_nil]
      exact h.life other hother
  known c hc := by
    rw [hruns, map_key_put]
    rcases List.mem_append.mp hc with hc | hc
    · exact h.known c hc
    · cases List.mem_singleton.mp hc
      exact List.mem_map_of_mem hrun
  ledgers := hledgers

lemma put_self {rows : List (AgentRun β)} (hn : (rows.map AgentRun.id).Nodup) {run : AgentRun β}
    (hrun : run ∈ rows) : put AgentRun.id rows run = rows := by
  rw [put]
  refine (List.map_congr_left fun other hother => ?_).trans (List.map_id rows)
  by_cases heq : other.id = run.id
  · rw [if_pos heq]
    exact (List.inj_on_of_nodup_map hn hother hrun heq).symm
  · rw [if_neg heq]
    rfl

lemma Inv.effect_enqueued (h : Inv r) {run : AgentRun β} {correlationId : Uuid} {at' : Int}
    (hfree : lookup AgentRun.id r.db.agentRuns run.id = none) (hstatus : run.status = .pending)
    (hcount : run.attemptCount = 0)
    (hcommit : commitMaterialChange { r.db with agentRuns := r.db.agentRuns ++ [run] } run.id
      .requested correlationId at' = .ok db') : Inv ⟨db', r.log ++ [⟨run.id, .enqueued⟩]⟩ := by
  have hledgers : Ledgers db' (r.log ++ [⟨run.id, .enqueued⟩]) := by
    refine h.ledgers.commit hcommit rfl rfl rfl ?_ ?_ fun p hp hid =>
      absurd hid (h.free_unknown hfree hp)
    · rw [sequences_append rfl]
      exact h.ledgers.calls
    · rw [sequences_append rfl]
      exact h.ledgers.sequences
  have hunknown : run.id ∉ r.db.agentRuns.map AgentRun.id := by
    intro hmem
    obtain ⟨other, hother, hid⟩ := List.mem_map.mp hmem
    have hfound := lookup_of_mem h.ids hother
    rw [hid, hfree] at hfound
    cases hfound
  have hnone : deeds run.id r.log = [] := by
    refine List.filterMap_eq_nil_iff.mpr fun c hc => if_neg fun hid => hunknown ?_
    rw [← hid]
    exact h.known c hc
  have hruns : db'.agentRuns = r.db.agentRuns ++ [run] := by
    rw [commitMaterialChange_ok hcommit]
  refine ⟨?_, fun other hother => ?_, fun c hc => ?_, hledgers⟩
  · rw [hruns, List.map_append]
    exact nodup_append_one h.ids hunknown
  · rw [deeds_append]
    rw [hruns] at hother
    rcases List.mem_append.mp hother with hother | hother
    · have hne : run.id ≠ other.id := fun heq =>
        hunknown (heq ▸ List.mem_map_of_mem hother)
      rw [if_neg hne, List.append_nil]
      exact h.life other hother
    · cases List.mem_singleton.mp hother
      rw [if_pos rfl, hnone]
      exact .queued hstatus hcount
  · rw [hruns, List.map_append]
    rcases List.mem_append.mp hc with hc | hc
    · exact List.mem_append_left _ (h.known c hc)
    · cases List.mem_singleton.mp hc
      exact List.mem_append_right _ (List.mem_singleton_self _)

lemma Inv.effect_claimed (h : Inv r) {run : AgentRun β} (hrun : run ∈ r.db.agentRuns)
    (hstatus : run.status = .pending) (token : Uuid) (now lease : Datetime) :
    Inv ⟨{ r.db with agentRuns := put AgentRun.id r.db.agentRuns (claimed run token now lease) },
      r.log ++ [⟨run.id, .claimed token lease.instant⟩]⟩ := by
  obtain ⟨hdeeds, hcount⟩ := (h.life run hrun).of_pending hstatus
  have hmilestones : milestones (r.log ++ [⟨run.id, .claimed token lease.instant⟩]) =
      milestones r.log := by
    rw [milestones_append]
    exact List.append_nil _
  have hid : (claimed run token now lease).id = run.id := rfl
  refine h.touch hrun hid rfl ?_ ⟨?_, ?_, ?_, ?_, ?_⟩
  · rw [hdeeds]
    have hunder : ∀ d ∈ ([] : List Deed), Under token lease.instant d :=
      fun _ hd => absurd hd List.not_mem_nil
    refine .claimed rfl ?_ rfl rfl hunder
    rw [claimed, hcount]
  · rw [hmilestones]
    exact h.ledgers.events
  · rw [hmilestones]
    exact h.ledgers.outbox
  · rw [sequences_append rfl]
    exact h.ledgers.calls
  · rw [sequences_append rfl]
    exact h.ledgers.sequences
  · rw [hmilestones]
    exact h.ledgers.versions

lemma Inv.free_call (h : Inv r) {run : AgentRun β} (hrun : run ∈ r.db.agentRuns)
    (hstatus : run.status = .processing) {n : Int} (hn : 1 ≤ n)
    (hfree : (run.id, n) ∉ r.log.filterMap sequenceOf) {p : Uuid × Milestone}
    (hp : p ∈ milestones r.log) (hid : p.1 = run.id) :
    p.2.aggregateVersion ≠ (Milestone.toolCalled n).aggregateVersion := by
  intro heq
  rw [Milestone.aggregateVersion] at heq
  rcases h.version_processing hrun hstatus hp hid with hone | ⟨n', hversion, _, _, hmem⟩
  · omega
  · obtain rfl : n' = n := by omega
    exact hfree hmem

lemma Inv.free_last (h : Inv r) {run : AgentRun β} (hrun : run ∈ r.db.agentRuns)
    (hstatus : run.status = .processing) {p : Uuid × Milestone} (hp : p ∈ milestones r.log)
    (hid : p.1 = run.id) : p.2.aggregateVersion ≠ 8 := by
  rcases h.version_processing hrun hstatus hp hid with hone | ⟨n', hversion, _, hlast, _⟩ <;> omega

lemma Inv.sequence_free (h : Inv r) {id : Uuid} {n : Int}
    (hfree : ∀ other ∈ r.db.toolCalls, ¬ (other.agentRunId = id ∧ other.sequenceNumber = n)) :
    (id, n) ∉ r.log.filterMap sequenceOf := by
  rw [← h.ledgers.calls, List.mem_map]
  rintro ⟨other, hother, heq⟩
  simp only [Prod.mk.injEq] at heq
  exact hfree other hother heq

lemma Inv.effect_toolCalled (h : Inv r) {run : AgentRun β} {call : AgentToolCall} {token : Uuid}
    {lease clock : Int} {correlationId : Uuid} {at' : Int} (hrun : run ∈ r.db.agentRuns)
    (hstatus : run.status = .processing) (htoken : run.claimToken = some token)
    (hlease : run.leaseExpiresAt = some lease) (hclock : clock ≤ lease)
    (hid : call.agentRunId = run.id) (hfirst : 1 ≤ call.sequenceNumber)
    (hlast : call.sequenceNumber ≤ 6)
    (hfree : ∀ other ∈ r.db.toolCalls, ¬ (other.agentRunId = run.id ∧
      other.sequenceNumber = call.sequenceNumber))
    (hcommit : commitMaterialChange { r.db with toolCalls := r.db.toolCalls ++ [call] } run.id
      (.toolCalled call.sequenceNumber) correlationId at' = .ok db') :
    Inv ⟨db', r.log ++ [⟨run.id, .toolCalled token call.sequenceNumber clock⟩]⟩ := by
  have hnew := h.sequence_free hfree
  have hsequences : (r.log ++ [Commit.mk run.id
      (.toolCalled token call.sequenceNumber clock)]).filterMap sequenceOf = r.log.filterMap sequenceOf ++ [(run.id, call.sequenceNumber)] := by
    rw [List.filterMap_append]
    rfl
  have hruns : db'.agentRuns = put AgentRun.id r.db.agentRuns run := by
    rw [commitMaterialChange_ok hcommit, put_self h.ids hrun]
  refine h.touch hrun rfl hruns ?_ ?_
  · exact (h.life run hrun).call hstatus htoken hlease (.toolCalled hclock hfirst hlast)
  · refine h.ledgers.commit hcommit rfl rfl rfl ?_ ?_ fun p hp hpid =>
      h.free_call hrun hstatus hfirst hnew hp hpid
    · rw [hsequences, List.map_append, h.ledgers.calls, List.map_singleton, hid]
    · rw [hsequences]
      exact nodup_append_one h.ledgers.sequences hnew

lemma Ends.milestone_version {token : Uuid} {lease : Int} {status : AgentRunStatus}
    (h : Ends token lease status d) (hm : d.milestone = some m) (id : Uuid) :
    m.aggregateVersion = 8 ∧ m.valid ∧ sequenceOf ⟨id, d⟩ = none := by
  cases h <;> cases hm <;> exact ⟨rfl, trivial, rfl⟩

lemma Inv.effect_ended (h : Inv r) {run new : AgentRun β} {lease : Int} {correlationId : Uuid}
    {at' : Int} (hrun : run ∈ r.db.agentRuns) (hstatus : run.status = .processing)
    (hlease : run.leaseExpiresAt = some lease) (hid : new.id = run.id)
    (hcount : new.attemptCount = run.attemptCount)
    (hend : ∀ token, run.claimToken = some token → Ends token lease new.status d)
    (hm : d.milestone = some m)
    (hcommit : commitMaterialChange { r.db with agentRuns := put AgentRun.id r.db.agentRuns new }
      run.id m correlationId at' = .ok db') : Inv ⟨db', r.log ++ [⟨run.id, d⟩]⟩ := by
  obtain ⟨token, _, _, htoken, _, _, _, _⟩ := (h.life run hrun).of_processing hstatus
  obtain ⟨hversion, _, hnone⟩ := (hend token htoken).milestone_version hm run.id
  have hruns : db'.agentRuns = put AgentRun.id r.db.agentRuns new := by
    rw [commitMaterialChange_ok hcommit]
  refine h.touch hrun hid hruns ((h.life run hrun).finish hstatus hlease hcount hend) ?_
  refine h.ledgers.commit hcommit rfl rfl hm ?_ ?_ fun p hp hpid => ?_
  · rw [sequences_append hnone]
    exact h.ledgers.calls
  · rw [sequences_append hnone]
    exact h.ledgers.sequences
  · rw [hversion]
    exact h.free_last hrun hstatus hp hpid

lemma Inv.effect (h : Inv r) {commit : Option Commit} (heffect : Effect r.db commit db') :
    Inv ⟨db', r.log ++ commit.toList⟩ := by
  cases heffect with
  | idle =>
    rw [Option.toList_none, List.append_nil]
    exact h
  | enqueued hfree hstatus hcount hcommit => exact h.effect_enqueued hfree hstatus hcount hcommit
  | claimed hrun hstatus => exact h.effect_claimed hrun hstatus _ _ _
  | toolCalled hrun hstatus htoken hlease hclock hid hfirst hlast hfree hcommit =>
    exact h.effect_toolCalled hrun hstatus htoken hlease hclock hid hfirst hlast hfree hcommit
  | ended hrun hstatus hlease hid hcount hend hm hcommit =>
    exact h.effect_ended hrun hstatus hlease hid hcount hend hm hcommit

lemma Inv.apply (h : Inv r) (step : Step β) : Inv (r.apply alnum step) := by
  rw [Run.apply]
  cases hattempt : attempt alnum r.db step with
  | error e => exact h
  | ok result => exact h.effect (attempt_effect hattempt)

lemma inv_emptyRun : Inv (emptyRun : Run β) where
  ids := List.nodup_nil
  life _ hrun := absurd hrun List.not_mem_nil
  known _ hc := absurd hc List.not_mem_nil
  ledgers := ⟨rfl, rfl, rfl, List.nodup_nil, List.nodup_nil⟩

lemma inv_run (alnum : Char → Bool) (steps : List (Step β)) : Inv (run alnum steps) := by
  rw [run]
  generalize (emptyRun : Run β) = start, inv_emptyRun (β := β) = hstart
  induction steps generalizing start with
  | nil => exact hstart
  | cons step steps ih => exact ih (start.apply alnum step) (hstart.apply step)

end Preservation

section Refusals

variable {db : Database β} {r : Run β} {e : Refusal}

/-- A refusal that is not for a version or a key another transaction has written. -/
def Refusal.own (e : Refusal) : Prop := e ≠ .eventVersionTaken ∧ e ≠ .outboxKeyTaken

lemma own_of_ne (hversion : e ≠ .eventVersionTaken) (hkey : e ≠ .outboxKeyTaken) : e.own :=
  And.intro hversion hkey

lemma own_state (message : String) : (Refusal.state message).own :=
  own_of_ne Refusal.noConfusion Refusal.noConfusion

lemma own_overflow : Refusal.overflow.own :=
  own_of_ne (by decide) (by decide)

lemma ofOption_own {α : Type} {o : Option α} {e' : Refusal} (he : e'.own)
    (h : ofOption e' o = .error e) : e.own := by
  cases o with
  | none =>
    cases h
    exact he
  | some a => cases h

lemma updateRun_own {old new : AgentRun β} (h : updateRun db old new = .error e) : e.own := by
  simp only [updateRun, bind_error, require_error] at h
  rcases h with ⟨_, rfl⟩ | ⟨_, _, ⟨_, rfl⟩ | ⟨_, _, h⟩⟩
  · exact own_of_ne (by decide) (by decide)
  · exact own_of_ne (by decide) (by decide)
  · cases h

lemma requireSafeSummary_own {summary : SafeSummary} (h : requireSafeSummary summary = .error e) :
    e.own := by
  simp only [requireSafeSummary, bind_error, require_error] at h
  rcases h with ⟨_, rfl⟩ | ⟨_, _, ⟨_, rfl⟩⟩ <;> exact own_state _

lemma enqueue_own (h : Inv r) {agentRunId correlationId : Uuid} {binding : β} {createdAt : Int}
    (he : enqueue r.db agentRunId binding createdAt correlationId = .error e) : e.own := by
  simp only [enqueue, bind_error, require_error, require_ok] at he
  rcases he with ⟨_, rfl⟩ | ⟨_, hfree, he⟩
  · exact own_of_ne (by decide) (by decide)
  · obtain ⟨db', hcommit⟩ := h.commit_succeeds
      { r.db with agentRuns := r.db.agentRuns ++ [_] } (m := .requested) rfl rfl trivial
      (fun p hp hid => absurd hid (h.free_unknown hfree hp)) correlationId createdAt
    rw [hcommit] at he
    cases he

lemma claimNext_own {role : ActorRole} {now : Datetime} {token : Uuid} {locked : List Uuid}
    (he : claimNext db role now token locked = .error e) : e.own := by
  simp only [claimNext, requireRunner, bind_error, require_error] at he
  rcases he with ⟨_, rfl⟩ | ⟨_, _, he | ⟨lease, _, he⟩⟩
  · exact own_of_ne (by decide) (by decide)
  · exact ofOption_own own_overflow he
  · cases hcandidate : candidate db locked with
    | none =>
      simp only [hcandidate] at he
      cases he
    | some run =>
      simp only [hcandidate, bind_error] at he
      rcases he with he | ⟨_, _, he⟩
      · exact updateRun_own he
      · cases he

lemma recordToolCall_own (h : Inv r) {entry : AgentToolCallLedgerEntry} {callId : Uuid} {clock : Int}
    (he : recordToolCall r.db entry callId clock = .error e) : e.own := by
  simp only [recordToolCall, bind_error, require_error, require_ok] at he
  rcases he with he | ⟨_, _, ⟨_, rfl⟩ | ⟨_, ⟨hfirst, hlast⟩, ⟨_, rfl⟩ | ⟨_, _, ⟨_, rfl⟩ |
    ⟨_, _, he | ⟨run, hclaim, ⟨_, rfl⟩ | ⟨_, _, ⟨_, rfl⟩ | ⟨_, hfree, he⟩⟩⟩⟩⟩⟩⟩
  · exact requireSafeSummary_own he
  · exact own_state _
  · exact own_state _
  · exact own_state _
  · exact ofOption_own (own_state _) he
  · exact own_of_ne (by decide) (by decide)
  · exact own_of_ne (by decide) (by decide)
  · obtain ⟨hrun, hid, hstatus, _⟩ := assertClaim_ok hclaim
    rw [← hid] at hfree he
    obtain ⟨db', hcommit⟩ := h.commit_succeeds
      { r.db with toolCalls := r.db.toolCalls ++ [_] }
      (m := .toolCalled entry.sequenceNumber) rfl rfl ⟨hfirst, hlast⟩
      (fun p hp hpid => h.free_call hrun hstatus hfirst (h.sequence_free hfree) hp hpid)
      entry.correlationId entry.completedAt
    rw [hcommit] at he
    cases he

lemma ending_succeeds (h : Inv r) {run new : AgentRun β} (hrun : run ∈ r.db.agentRuns)
    (hstatus : run.status = .processing) {m : Milestone} (hm : m.valid)
    (hversion : m.aggregateVersion = 8) (correlationId : Uuid) (at' : Int) :
    ∃ db', commitMaterialChange { r.db with agentRuns := put AgentRun.id r.db.agentRuns new }
      run.id m correlationId at' = .ok db' :=
  h.commit_succeeds { r.db with agentRuns := put AgentRun.id r.db.agentRuns new } rfl rfl hm
    (fun p hp hid => by rw [hversion]; exact h.free_last hrun hstatus hp hid) correlationId at'

lemma completeDraft_own (h : Inv r) {agentRunId token correlationId : Uuid}
    {safeSummary : SafeSummary} {completedAt clock : Int}
    (he : completeDraft r.db agentRunId token safeSummary correlationId completedAt clock =
      .error e) : e.own := by
  simp only [completeDraft, bind_error] at he
  rcases he with he | ⟨_, _, he | ⟨run, hclaim, he | ⟨written, hwritten, he⟩⟩⟩
  · exact requireSafeSummary_own he
  · exact ofOption_own (own_state _) he
  · exact updateRun_own he
  · obtain rfl := updateRun_ok hwritten
    obtain ⟨hrun, rfl, hstatus, _⟩ := assertClaim_ok hclaim
    obtain ⟨db', hcommit⟩ := ending_succeeds h hrun hstatus (m := .draftRecorded) trivial rfl
      correlationId completedAt
    rw [hcommit] at he
    cases he

lemma fail_own (h : Inv r) {agentRunId token correlationId : Uuid} {failureCode : String}
    {completedAt clock : Int}
    (he : fail alnum r.db agentRunId token failureCode correlationId completedAt clock = .error e) :
    e.own := by
  simp only [fail, bind_error, require_error] at he
  rcases he with ⟨_, rfl⟩ | ⟨_, _, he | ⟨run, hclaim, he | ⟨written, hwritten, he⟩⟩⟩
  · exact own_state _
  · exact ofOption_own (own_state _) he
  · exact updateRun_own he
  · obtain rfl := updateRun_ok hwritten
    obtain ⟨hrun, rfl, hstatus, _⟩ := assertClaim_ok hclaim
    obtain ⟨db', hcommit⟩ := ending_succeeds h hrun hstatus (m := .failed) trivial rfl
      correlationId completedAt
    rw [hcommit] at he
    cases he

lemma recoverExpired_own (h : Inv r) {role : ActorRole} {now : Int} {locked : List Uuid}
    (he : recoverExpired r.db role now locked = .error e) : e.own := by
  simp only [recoverExpired, requireRunner, bind_error, require_error] at he
  rcases he with ⟨_, rfl⟩ | ⟨_, _, he⟩
  · exact own_of_ne (by decide) (by decide)
  · cases hexpired : expired r.db now locked with
    | none =>
      simp only [hexpired] at he
      cases he
    | some found =>
      obtain ⟨run, correlationId⟩ := found
      simp only [hexpired, bind_error] at he
      rcases he with he | ⟨written, hwritten, he | ⟨_, _, he⟩⟩
      · exact updateRun_own he
      · obtain rfl := updateRun_ok hwritten
        obtain ⟨hrun, hstatus, _⟩ := expired_some hexpired
        obtain ⟨db', hcommit⟩ := ending_succeeds h hrun hstatus (m := .leaseExpired) trivial rfl
          correlationId now
        rw [hcommit] at he
        cases he
      · cases he

lemma attempt_own (h : Inv r) {step : Step β} (he : attempt alnum r.db step = .error e) : e.own := by
  cases step with
  | enqueue agentRunId binding createdAt correlationId =>
    rcases bind_error.mp he with he | ⟨_, _, he⟩
    · exact enqueue_own h he
    · cases he
  | claimNext role now token locked =>
    rcases bind_error.mp he with he | ⟨_, _, he⟩
    · exact claimNext_own he
    · cases he
  | recordToolCall entry callId clock =>
    rcases bind_error.mp he with he | ⟨_, _, he⟩
    · exact recordToolCall_own h he
    · cases he
  | completeDraft agentRunId token safeSummary correlationId completedAt clock =>
    rcases bind_error.mp he with he | ⟨_, _, he⟩
    · exact completeDraft_own h he
    · cases he
  | fail agentRunId token failureCode correlationId completedAt clock =>
    rcases bind_error.mp he with he | ⟨_, _, he⟩
    · exact fail_own h he
    · cases he
  | recoverExpired role now locked =>
    rcases bind_error.mp he with he | ⟨_, _, he⟩
    · exact recoverExpired_own h he
    · cases he

end Refusals

section Endings

variable {r : Run β} {id : Uuid}

def AgentRunStatus.terminal : AgentRunStatus → Bool
  | .pending => false
  | .processing => false
  | .draftRequiresHuman => true
  | .failed => true

def terminalEvents (db : Database β) (id : Uuid) : List DomainEvent :=
  db.domainEvents.filter fun e => e.aggregateId = id &&
    (e.eventType = "AGENT_RUN_DRAFT_RECORDED" || e.eventType = "AGENT_RUN_FAILED")

def completions (db : Database β) (id : Uuid) : List OutboxEvent :=
  db.outboxEvents.filter fun e => e.aggregateId = id && e.eventType = "agent.run_completed.v1"

def sequenceNumbers (db : Database β) (id : Uuid) : List Int :=
  (db.toolCalls.filter fun c => c.agentRunId = id).map AgentToolCall.sequenceNumber

def Deed.ends : Deed → Bool
  | .enqueued => false
  | .claimed _ _ => false
  | .toolCalled _ _ _ => false
  | .drafted _ _ => true
  | .failed _ _ => true
  | .leaseExpired _ => true

def endings (id : Uuid) (log : List Commit) : Nat :=
  log.countP fun c => c.agentRunId = id && c.deed.ends

lemma length_terminalEvents (h : Inv r) : (terminalEvents r.db id).length = endings id r.log := by
  have hmap := congrArg (List.countP fun t : Uuid × Int × String => t.1 = id &&
    (t.2.2 = "AGENT_RUN_DRAFT_RECORDED" || t.2.2 = "AGENT_RUN_FAILED")) h.ledgers.events
  rw [List.countP_map, List.countP_map, milestones, List.countP_filterMap] at hmap
  rw [terminalEvents, ← List.countP_eq_length_filter, endings]
  refine hmap.trans (List.countP_congr fun c _ => ?_)
  cases hd : c.deed <;> simp [Deed.milestone, Deed.ends, Milestone.eventType]

lemma length_completions (h : Inv r) : (completions r.db id).length = endings id r.log := by
  have hmap := congrArg (List.countP fun t : Uuid × String × String => t.1 = id &&
    t.2.1 = "agent.run_completed.v1") h.ledgers.outbox
  rw [List.countP_map, List.countP_map, milestones, List.countP_filterMap] at hmap
  rw [completions, ← List.countP_eq_length_filter, endings]
  refine hmap.trans (List.countP_congr fun c _ => ?_)
  cases hd : c.deed <;> simp [Deed.milestone, Deed.ends, Milestone.outboxType]

lemma endings_eq (log : List Commit) : endings id log = (deeds id log).countP Deed.ends := by
  rw [endings, deeds, List.countP_filterMap]
  refine List.countP_congr fun c _ => ?_
  by_cases h : c.agentRunId = id <;> simp [h]

lemma Life.endings {a : AgentRun β} {ds : List Deed} (h : Life a ds) :
    ds.countP Deed.ends = if a.status.terminal then 1 else 0 := by
  have hcalls : ∀ {token : Uuid} {lease : Int} {calls : List Deed},
      (∀ d ∈ calls, Under token lease d) → calls.countP Deed.ends = 0 := by
    intro token lease calls hunder
    rw [List.countP_eq_zero]
    intro d hd
    cases hunder d hd
    exact Bool.false_ne_true
  cases h with
  | queued hstatus => rw [hstatus]; rfl
  | claimed hstatus _ _ _ hunder =>
    rw [hstatus, List.countP_cons_of_neg Bool.false_ne_true, List.countP_cons_of_neg Bool.false_ne_true,
      hcalls hunder]
    rfl
  | ended _ hunder hend =>
    rw [List.countP_cons_of_neg Bool.false_ne_true, List.countP_cons_of_neg Bool.false_ne_true,
      List.countP_append, hcalls hunder]
    generalize a.status = status at hend
    cases hend <;> rfl

lemma Life.attemptCount_le {a : AgentRun β} {ds : List Deed} (h : Life a ds) :
    a.attemptCount ≤ 1 := by
  cases h with
  | queued _ hcount => omega
  | claimed _ hcount => omega
  | ended hcount => omega

end Endings

section Onward

variable {r : Run β}

/-- What a row may become: it never returns to the queue, and an ended one stays as it is. -/
def Onward (a a' : AgentRun β) : Prop :=
  (a.status ≠ .pending → a'.status ≠ .pending) ∧ (a.status.terminal = true → a' = a)

lemma onward_refl (a : AgentRun β) : Onward a a := ⟨id, fun _ => rfl⟩

lemma onward_of_put (h : Inv r) {old new a a' : AgentRun β} (hold : old ∈ r.db.agentRuns)
    (hnewid : new.id = old.id) (honward : Onward old new) (ha : a ∈ r.db.agentRuns)
    (ha' : a' ∈ put AgentRun.id r.db.agentRuns new) (hid : a'.id = a.id) : Onward a a' := by
  rw [mem_put hold hnewid] at ha'
  rcases ha' with rfl | ⟨ha', _⟩
  · cases List.inj_on_of_nodup_map h.ids hold ha (hnewid.symm.trans hid)
    exact honward
  · cases List.inj_on_of_nodup_map h.ids ha' ha hid
    exact onward_refl _

lemma Ends.status {token : Uuid} {lease : Int} {status : AgentRunStatus} {d : Deed}
    (h : Ends token lease status d) : status ≠ .pending := by
  cases h <;> exact nofun

lemma effect_onward (h : Inv r) {commit : Option Commit} {db' : Database β}
    (heffect : Effect r.db commit db') {a a' : AgentRun β} (ha : a ∈ r.db.agentRuns)
    (ha' : a' ∈ db'.agentRuns) (hid : a'.id = a.id) : Onward a a' := by
  have hsame : a' ∈ r.db.agentRuns → Onward a a' := by
    intro hmem
    cases List.inj_on_of_nodup_map h.ids hmem ha hid
    exact onward_refl _
  cases heffect with
  | idle => exact hsame ha'
  | @enqueued run _ _ _ hfree _ _ hcommit =>
    obtain rfl := commitMaterialChange_ok hcommit
    rcases List.mem_append.mp ha' with ha' | ha'
    · exact hsame ha'
    · cases List.mem_singleton.mp ha'
      have hfound := lookup_of_mem h.ids ha
      rw [← hid, hfree] at hfound
      cases hfound
  | @claimed run token now lease hrun hstatus =>
    have hnewid : (claimed run token now lease).id = run.id := rfl
    have honward : Onward run (claimed run token now lease) := by
      refine ⟨fun hne => absurd hstatus hne, fun hterminal => ?_⟩
      rw [hstatus] at hterminal
      cases hterminal
    exact onward_of_put h hrun hnewid honward ha ha' hid
  | toolCalled _ _ _ _ _ _ _ _ _ hcommit =>
    obtain rfl := commitMaterialChange_ok hcommit
    exact hsame ha'
  | ended hrun hstatus _ hnewid _ hend _ hcommit =>
    obtain rfl := commitMaterialChange_ok hcommit
    obtain ⟨token, _, _, htoken, _⟩ := (h.life _ hrun).of_processing hstatus
    refine onward_of_put h hrun hnewid ⟨fun _ => (hend token htoken).status, ?_⟩ ha ha' hid
    intro hterminal
    rw [hstatus] at hterminal
    cases hterminal

lemma apply_onward (h : Inv r) (step : Step β) {a a' : AgentRun β} (ha : a ∈ r.db.agentRuns)
    (ha' : a' ∈ (r.apply alnum step).db.agentRuns) (hid : a'.id = a.id) : Onward a a' := by
  rw [Run.apply] at ha'
  cases hattempt : attempt alnum r.db step with
  | error e =>
    rw [hattempt] at ha'
    cases List.inj_on_of_nodup_map h.ids ha' ha hid
    exact onward_refl _
  | ok result =>
    rw [hattempt] at ha'
    exact effect_onward h (attempt_effect hattempt) ha ha' hid

end Onward

lemma sequenceNumbers_nodup {r : Run β} (h : Inv r) (id : Uuid) :
    (sequenceNumbers r.db id).Nodup := by
  have hpairs : (r.db.toolCalls.map fun c => (c.agentRunId, c.sequenceNumber)).Nodup := by
    rw [h.ledgers.calls]
    exact h.ledgers.sequences
  refine List.Nodup.map_on (fun c hc c' hc' heq => ?_) ((List.Nodup.of_map _ hpairs).filter _)
  rw [List.mem_filter, decide_eq_true_eq] at hc hc'
  exact List.inj_on_of_nodup_map hpairs hc.1 hc'.1 (Prod.ext (hc.2.trans hc'.2.symm) heq)

lemma sequenceNumbers_range {r : Run β} (h : Inv r) (id : Uuid) :
    ∀ n ∈ sequenceNumbers r.db id, 1 ≤ n ∧ n ≤ 6 := by
  intro n hn
  obtain ⟨call, hcall, rfl⟩ := List.mem_map.mp hn
  have hmem := List.mem_map_of_mem (f := fun c : AgentToolCall => (c.agentRunId, c.sequenceNumber))
    (List.mem_of_mem_filter hcall)
  rw [h.ledgers.calls, List.mem_filterMap] at hmem
  obtain ⟨c, hc, hsequence⟩ := hmem
  have hmilestone : (c.agentRunId, Milestone.toolCalled call.sequenceNumber) ∈ milestones r.log := by
    refine List.mem_filterMap.mpr ⟨c, hc, ?_⟩
    cases hd : c.deed <;> simp only [sequenceOf, hd] at hsequence
    all_goals first | cases hsequence | skip
    simp only [Option.some.injEq, Prod.mk.injEq] at hsequence
    rw [Deed.milestone, Option.map_some, hsequence.2]
  exact h.valid hmilestone

/-- Whatever the enqueuers and the runners do, on whatever clocks: each run lives one life, with
one claim, tool calls of distinct numbers under it and one ending; its row never goes back; its
ledgers hold one end exactly when it ended; and no transaction meets another one's version or
key. -/
theorem executed_by_one_claim (steps : List (Step β)) :
    (∀ a ∈ (run alnum steps).db.agentRuns,
      a.attemptCount ≤ 1 ∧ Life a (deeds a.id (run alnum steps).log) ∧
      (sequenceNumbers (run alnum steps).db a.id).Nodup ∧
      (∀ n ∈ sequenceNumbers (run alnum steps).db a.id, 1 ≤ n ∧ n ≤ 6) ∧
      (terminalEvents (run alnum steps).db a.id).length = (if a.status.terminal then 1 else 0) ∧
      (completions (run alnum steps).db a.id).length = (if a.status.terminal then 1 else 0)) ∧
    ((run alnum steps).db.domainEvents.map fun e => (e.aggregateId, e.aggregateVersion)).Nodup ∧
    ∀ step, attempt alnum (run alnum steps).db step ≠ .error .eventVersionTaken ∧
      attempt alnum (run alnum steps).db step ≠ .error .outboxKeyTaken ∧
      ∀ a ∈ (run alnum steps).db.agentRuns,
        ∀ a' ∈ ((run alnum steps).apply alnum step).db.agentRuns, a'.id = a.id → Onward a a' := by
  have h := inv_run alnum steps
  refine ⟨fun a ha => ?_, ?_, fun step => ⟨fun he => ?_, fun he => ?_, fun a ha a' ha' hid => ?_⟩⟩
  · have hlife := h.life a ha
    have hendings : endings a.id (run alnum steps).log = _ := (endings_eq _).trans hlife.endings
    exact ⟨hlife.attemptCount_le, hlife, sequenceNumbers_nodup h a.id, sequenceNumbers_range h a.id,
      (length_terminalEvents h).trans hendings, (length_completions h).trans hendings⟩
  · have hversions := congrArg (List.map fun t : Uuid × Int × String => (t.1, t.2.1)) h.ledgers.events
    rw [List.map_map, List.map_map] at hversions
    exact hversions ▸ h.ledgers.versions
  · exact (attempt_own h he).1 rfl
  · exact (attempt_own h he).2 rfl
  · exact apply_onward h step ha ha' hid

end NhaTrangLaundry.Db.AgentRuns
