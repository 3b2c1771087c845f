import Mathlib.Data.List.Nodup
import NhaTrangLaundry.Db.Retention

/-! What a purge disposes of, and the account it leaves of it. -/

namespace NhaTrangLaundry.Db.Retention

open Lib Outcome Table

variable {db db' : Database}

lemma ledger_injective : Function.Injective PayloadTable.ledger := by
  intro t t' h
  cases t <;> cases t' <;> first | rfl | exact absurd h (by decide)

lemma due_some {t : PayloadTable} {cutoff at_ : Int} {k : Uuid} :
    db.due t cutoff k = some at_ ↔
      db.occurredAt t k = some at_ ∧ at_ < cutoff ∧ db.pinned t k = false := by
  rw [Database.due, Option.filter_eq_some_iff]
  simp

lemma mem_disposedBy {t : PayloadTable} {e : PurgeExecution} {d : DisposalRecord} :
    d ∈ disposedBy db t e ↔
      ∃ k ∈ db.payloads t, ∃ at_, db.due t e.cutoffAt k = some at_ ∧ disposalRecord t e k at_ = d := by
  simp [disposedBy, List.mem_filterMap]

lemma mem_keptBy {t : PayloadTable} {e : PurgeExecution} {k : Uuid} :
    k ∈ keptBy db t e ↔ k ∈ db.payloads t ∧ db.due t e.cutoffAt k = none := by
  simp [keptBy]

lemma map_subject_disposedBy (t : PayloadTable) (e : PurgeExecution) :
    (disposedBy db t e).map DisposalRecord.subject =
      ((db.payloads t).filter fun k => (db.due t e.cutoffAt k).isSome).map (t.ledger, ·) := by
  rw [disposedBy, List.map_filterMap, ← List.filterMap_eq_map, ← List.filterMap_eq_filter,
    List.filterMap_filterMap]
  refine List.filterMap_congr fun k _ => ?_
  cases hdue : db.due t e.cutoffAt k <;> simp [disposalRecord, DisposalRecord.subject, Option.guard, hdue]

lemma length_filterMap_add_countP {α β : Type} {f : α → Option β} {p : α → Bool}
    (hp : ∀ a, (f a).isSome → p a) (l : List α) :
    (l.filterMap f).length + (l.filter fun a => (f a).isNone).countP p = l.countP p := by
  induction l with
  | nil => rfl
  | cons a l ih =>
    cases hf : f a with
    | none =>
      rw [List.filterMap_cons_none hf, List.filter_cons_of_pos (by simp [hf]), List.countP_cons,
        List.countP_cons]
      omega
    | some b =>
      have hpa : p a = true := hp a (by simp [hf])
      rw [List.filterMap_cons_some hf, List.filter_cons_of_neg (by simp [hf]),
        List.countP_cons_of_pos hpa, List.length_cons]
      omega

def disposedOf (db : Database) (t : PayloadTable) (e : PurgeExecution) : Database :=
  { db with
    payloads := Function.update db.payloads t (keptBy db t e)
    disposals := db.disposals ++ disposedBy db t e }

lemma occurredAt_disposedOf (t : PayloadTable) (e : PurgeExecution) (t' : PayloadTable) (k : Uuid) :
    (disposedOf db t e).occurredAt t' k = db.occurredAt t' k := by
  cases t' <;> rfl

lemma disposed_add_exempt (t : PayloadTable) (e : PurgeExecution) :
    (disposedBy db t e).length + (disposedOf db t e).past t e.cutoffAt = db.past t e.cutoffAt := by
  have hpast : ∀ k, ((db.due t e.cutoffAt k).map (disposalRecord t e k)).isSome →
      (db.occurredAt t k).any (· < e.cutoffAt) := by
    intro k hk
    rw [Option.isSome_map] at hk
    obtain ⟨at_, hat⟩ := Option.isSome_iff_exists.mp hk
    obtain ⟨hoccurred, hlt, -⟩ := due_some.mp hat
    simp [hoccurred, hlt]
  have hcount := length_filterMap_add_countP hpast (db.payloads t)
  have hkept : (disposedOf db t e).payloads t = keptBy db t e := Function.update_self ..
  simp only [Database.past, occurredAt_disposedOf, hkept, disposedBy, keptBy]
  simpa only [Option.isNone_map] using hcount

/-- What a run needs to come to its disposal: a schedule read that is enabled to purge, no hold, a
store, and a cutoff. -/
structure Disposes (db : Database) (runId : Uuid) (className : RetentionClass)
    (timestamp : Datetime) (c : RetentionConfiguration) (store : DisposablePayloadStore)
    (cutoff : Datetime) : Prop where
  free : lookup PurgeRun.runId db.runs runId = none
  enabled : c.enabled = true
  purge : c.disposition = .purge
  cutoff : ∃ days, c.retentionDays = some days ∧ cutoffOf timestamp days = some cutoff
  unheld : activeHoldExists db className = false
  store : disposablePayloadStores className = some store

def executionOf (runId : Uuid) (className : RetentionClass) (timestamp cutoff : Datetime) :
    PurgeExecution :=
  ⟨runId, className, cutoff.instant, timestamp.instant⟩

def completedRun (db : Database) (t : PayloadTable) (e : PurgeExecution) (version : Nat)
    (rule : String) : PurgeRun :=
  let exempt := (disposedOf db t e).past t e.cutoffAt
  ⟨e.runId, e.className, some version, completedOutcome exempt, some e.cutoffAt,
    (disposedBy db t e).length, exempt,
    if exempt = 0 then none else some (clipped (toString exempt ++ " " ++ rule))⟩

def purgedBy (db : Database) (store : DisposablePayloadStore) (version : Nat) (e : PurgeExecution) :
    Database :=
  { disposedOf db store.payloadTable e with
    runs := db.runs ++ [completedRun db store.payloadTable e version store.exemptionRule] }

lemma store_purge {className : RetentionClass} {store : DisposablePayloadStore}
    (h : disposablePayloadStores className = some store) :
    store.purge = purgePayloads store.payloadTable := by
  cases className <;> simp only [disposablePayloadStores, reduceCtorEq, Option.some.injEq] at h <;>
    subst h <;> rfl

lemma purgePayloads_ok {t : PayloadTable} {e : PurgeExecution} {result : Database × PurgeCounts} :
    purgePayloads t db e = .ok result ↔
      ((db.disposals ++ disposedBy db t e).map DisposalRecord.subject).Nodup ∧
        (disposedOf db t e,
          ⟨(disposedBy db t e).length, (disposedOf db t e).past t e.cutoffAt⟩) = result := by
  constructor
  · intro h
    obtain ⟨_, hnodup, h⟩ := bind_ok.mp h
    cases h
    exact ⟨require_ok.mp hnodup, rfl⟩
  · rintro ⟨hnodup, rfl⟩
    exact bind_ok.mpr ⟨(), require_ok.mpr hnodup, rfl⟩

lemma recordRun_ok {run : PurgeRun} :
    recordRun db run = .ok db' ↔
      lookup PurgeRun.runId db.runs run.runId = none ∧ { db with runs := db.runs ++ [run] } = db' := by
  constructor
  · intro h
    obtain ⟨_, hfree, h⟩ := bind_ok.mp h
    cases h
    exact ⟨require_ok.mp hfree, rfl⟩
  · rintro ⟨hfree, rfl⟩
    exact bind_ok.mpr ⟨(), require_ok.mpr hfree, rfl⟩

lemma purgeUnderLock_disposes {runId : Uuid} {className : RetentionClass} {timestamp cutoff : Datetime}
    {c : RetentionConfiguration} {days : Int} {store : DisposablePayloadStore}
    (hunheld : activeHoldExists db className = false) (hpurge : c.disposition = .purge)
    (hstore : disposablePayloadStores className = some store)
    (hcutoff : cutoffOf timestamp days = some cutoff) {e : PurgeExecution}
    (he : e = executionOf runId className timestamp cutoff) :
    purgeUnderLock db runId className timestamp c days = .ok db' ↔
      ((db.disposals ++ disposedBy db store.payloadTable e).map DisposalRecord.subject).Nodup ∧
      lookup PurgeRun.runId db.runs runId = none ∧ purgedBy db store c.version e = db' := by
  subst he
  set e := executionOf runId className timestamp cutoff
  have hstages : purgeUnderLock db runId className timestamp c days =
      store.purge db e >>= fun result => recordRun result.1
        ⟨runId, className, some c.version, completedOutcome result.2.exempt, some cutoff.instant,
          result.2.deleted, result.2.exempt,
          if result.2.exempt = 0 then none
          else some (clipped (toString result.2.exempt ++ " " ++ store.exemptionRule))⟩ := by
    rw [purgeUnderLock, if_neg (by simp [hunheld]), if_neg (by simp [hpurge]), hstore, hcutoff]
    rfl
  rw [hstages, store_purge hstore, bind_ok]
  constructor
  · rintro ⟨result, hresult, hrun⟩
    obtain ⟨hnodup, rfl⟩ := purgePayloads_ok.mp hresult
    obtain ⟨hfree, rfl⟩ := recordRun_ok.mp hrun
    exact ⟨hnodup, hfree, rfl⟩
  · rintro ⟨hnodup, hfree, rfl⟩
    exact ⟨_, purgePayloads_ok.mpr ⟨hnodup, rfl⟩, recordRun_ok.mpr ⟨hfree, rfl⟩⟩

def Idle (run : PurgeRun) : Prop :=
  run.affectedRowCount = 0 ∧ run.exemptRowCount = 0 ∧ run.outcome ≠ .completed ∧
    run.outcome ≠ .completedWithExemptions

lemma runPurge_ok {runId : Uuid} {className : RetentionClass} {timestamp : Datetime}
    {configuration : Option RetentionConfiguration}
    (h : runPurge db runId className timestamp configuration = .ok db') :
    (∃ run, Idle run ∧ recordRun db run = .ok db') ∨
    ∃ c store cutoff, configuration = some c ∧
      Disposes db runId className timestamp c store cutoff := by
  cases configuration with
  | none => exact .inl ⟨_, ⟨rfl, rfl, by simp [declined], by simp [declined]⟩, h⟩
  | some c =>
    rw [runPurge] at h
    cases hdays : c.retentionDays with
    | none =>
      rw [hdays] at h
      exact .inl ⟨_, ⟨rfl, rfl, by simp [declined], by simp [declined]⟩, h⟩
    | some days =>
      simp only [hdays] at h
      by_cases henabled : c.enabled = false
      · rw [if_pos henabled] at h
        exact .inl ⟨_, ⟨rfl, rfl, by simp [declined], by simp [declined]⟩, h⟩
      rw [if_neg henabled] at h
      by_cases hheld : activeHoldExists db className = true
      · rw [purgeUnderLock, if_pos hheld] at h
        exact .inl ⟨_, ⟨rfl, rfl, by simp [declined], by simp [declined]⟩, h⟩
      by_cases hpurge : c.disposition = .purge
      · cases hstore : disposablePayloadStores className with
        | none =>
          rw [purgeUnderLock, if_neg hheld, if_neg (not_not.mpr hpurge), hstore] at h
          obtain ⟨_, _, h⟩ := bind_ok.mp h
          exact .inl ⟨_, ⟨rfl, rfl, by simp [declined], by simp [declined]⟩, h⟩
        | some store =>
          cases hcutoff : cutoffOf timestamp days with
          | none =>
            rw [purgeUnderLock, if_neg hheld, if_neg (not_not.mpr hpurge), hstore, hcutoff] at h
            cases h
          | some cutoff =>
            rw [Bool.not_eq_true] at hheld
            obtain ⟨-, hfree, -⟩ := (purgeUnderLock_disposes hheld hpurge hstore hcutoff rfl).mp h
            exact .inr ⟨c, store, cutoff, rfl, hfree, by simpa using henabled, hpurge,
              ⟨days, hdays, hcutoff⟩, hheld, hstore⟩
      · rw [purgeUnderLock, if_neg hheld, if_pos hpurge] at h
        exact .inl ⟨_, ⟨rfl, rfl, by simp [declined], by simp [declined]⟩, h⟩

lemma runPurge_disposes {runId : Uuid} {className : RetentionClass} {timestamp cutoff : Datetime}
    {c : RetentionConfiguration} {store : DisposablePayloadStore}
    (h : Disposes db runId className timestamp c store cutoff) {e : PurgeExecution}
    (he : e = executionOf runId className timestamp cutoff) :
    runPurge db runId className timestamp (some c) = .ok db' ↔
      ((db.disposals ++ disposedBy db store.payloadTable e).map DisposalRecord.subject).Nodup ∧
      purgedBy db store c.version e = db' := by
  obtain ⟨days, hdays, hcutoff⟩ := h.cutoff
  rw [runPurge]
  simp only [hdays]
  rw [if_neg (by simp [h.enabled]), purgeUnderLock_disposes h.unheld h.purge h.store hcutoff he]
  exact and_congr_right fun _ => and_iff_right h.free

/-- A command keeps every payload, and may bring one. -/
inductive Effect (db : Database) : Database → Prop where
  | kept {db' : Database} (payloads : db'.payloads = db.payloads)
      (occurred : ∀ t k, db'.occurredAt t k = db.occurredAt t k)
      (disposals : db'.disposals = db.disposals) (runs : db'.runs = db.runs) : Effect db db'
  | arrived {db' : Database} (t : PayloadTable) (k : Uuid) (at_ : Int)
      (fresh : db.occurredAt t k = none)
      (payloads : db'.payloads = Function.update db.payloads t (db.payloads t ++ [k]))
      (occurred : ∀ t' k', db'.occurredAt t' k' =
        if t' = t ∧ k' = k then some at_ else db.occurredAt t' k')
      (disposals : db'.disposals = db.disposals) (runs : db'.runs = db.runs) : Effect db db'

lemma map_lookup_snoc {ρ : Type} {key : ρ → Uuid} {rows : List ρ} {row : ρ} (column : ρ → Int)
    (hnone : lookup key rows (key row) = none) (k : Uuid) :
    (lookup key (rows ++ [row]) k).map column =
      if k = key row then some (column row) else (lookup key rows k).map column := by
  rw [lookup_snoc hnone]
  by_cases hk : key row = k
  · rw [if_pos hk, if_pos hk.symm]
    rfl
  · rw [if_neg hk, if_neg (Ne.symm hk)]

lemma effect_recordWebhook {id : Uuid} {receivedAt : Int}
    (h : recordWebhook db id receivedAt = .ok db') : Effect db db' := by
  obtain ⟨_, hfree, h⟩ := bind_ok.mp h
  cases h
  have hnone : lookup WebhookEvent.id db.webhookEvents id = none := require_ok.mp hfree
  refine .arrived .webhookEventPayloads id receivedAt ?_ rfl (fun t k => ?_) rfl rfl
  · rw [Database.occurredAt, hnone]
    rfl
  · cases t with
    | webhookEventPayloads =>
      rw [Database.occurredAt, map_lookup_snoc _ hnone]
      simp [Database.occurredAt]
    | customerIncidentEvidence => rfl
    | assistantTurnPayloads => rfl

lemma effect_openIncident {id : Uuid} {openedAt : Int} (h : openIncident db id openedAt = .ok db') :
    Effect db db' := by
  obtain ⟨_, hfree, h⟩ := bind_ok.mp h
  cases h
  have hnone : lookup CustomerIncident.id db.incidents id = none := require_ok.mp hfree
  refine .arrived .customerIncidentEvidence id openedAt ?_ rfl (fun t k => ?_) rfl rfl
  · rw [Database.occurredAt, hnone]
    rfl
  · cases t with
    | webhookEventPayloads => rfl
    | customerIncidentEvidence =>
      rw [Database.occurredAt, map_lookup_snoc _ hnone]
      simp [Database.occurredAt]
    | assistantTurnPayloads => rfl

lemma effect_recordTurn {turnId : Uuid} {createdAt : Int}
    (h : recordTurn db turnId createdAt = .ok db') : Effect db db' := by
  obtain ⟨_, hfree, h⟩ := bind_ok.mp h
  cases h
  have hnone : lookup AssistantTurn.turnId db.turns turnId = none := require_ok.mp hfree
  refine .arrived .assistantTurnPayloads turnId createdAt ?_ rfl (fun t k => ?_) rfl rfl
  · rw [Database.occurredAt, hnone]
    rfl
  · cases t with
    | webhookEventPayloads => rfl
    | customerIncidentEvidence => rfl
    | assistantTurnPayloads =>
      rw [Database.occurredAt, map_lookup_snoc _ hnone]
      simp [Database.occurredAt]

lemma effect_moveIncident {id : Uuid} {status : IncidentStatus}
    (h : moveIncident db id status = .ok db') : Effect db db' := by
  obtain ⟨incident, hfound, h⟩ := bind_ok.mp h
  obtain ⟨_, _, h⟩ := bind_ok.mp h
  cases h
  rw [ofOption_ok] at hfound
  refine .kept rfl (fun t k => ?_) rfl rfl
  cases t with
  | webhookEventPayloads => rfl
  | customerIncidentEvidence =>
    rw [Database.occurredAt, Database.occurredAt, lookup_put]
    by_cases hk : incident.id = k
    · have hread : lookup CustomerIncident.id db.incidents k = some incident := by
        rwa [← hk, lookup_key hfound]
      rw [if_pos hk, hread]
      rfl
    · rw [if_neg hk]
  | assistantTurnPayloads => rfl

variable {w : World}

lemma attempt_ok {c : Command} (h : attempt w c = .ok db') :
    (∃ j runId className timestamp configuration, c = .purge j runId ∧
      w.jobs[j]? = some (.purge className timestamp configuration) ∧
      runPurge w.db runId className timestamp configuration = .ok db') ∨ Effect w.db db' := by
  cases c with
  | readVersion roles className enabled disposition days ref =>
    obtain ⟨_, _, rfl⟩ := map_ok.mp h
    exact .inr <| .kept rfl (fun _ _ => rfl) rfl rfl
  | publish j =>
    rw [attempt] at h
    split at h
    · obtain ⟨_, _, h⟩ := bind_ok.mp h
      obtain ⟨_, _, h⟩ := bind_ok.mp h
      obtain ⟨_, _, h⟩ := bind_ok.mp h
      cases h
      exact .inr <| .kept rfl (fun t _ => by cases t <;> rfl) rfl rfl
    · cases h
  | placeLegalHold roles holdId className reason =>
    obtain ⟨_, _, h⟩ := bind_ok.mp h
    obtain ⟨_, _, h⟩ := bind_ok.mp h
    obtain ⟨_, _, h⟩ := bind_ok.mp h
    cases h
    exact .inr <| .kept rfl (fun t _ => by cases t <;> rfl) rfl rfl
  | releaseLegalHold roles holdId =>
    obtain ⟨_, _, h⟩ := bind_ok.mp h
    obtain ⟨hold, _, h⟩ := bind_ok.mp h
    obtain ⟨_, _, h⟩ := bind_ok.mp h
    cases h
    exact .inr <| .kept rfl (fun t _ => by cases t <;> rfl) rfl rfl
  | readConfiguration className timestamp =>
    cases h
    exact .inr <| .kept rfl (fun _ _ => rfl) rfl rfl
  | purge j runId =>
    rw [attempt] at h
    split at h
    · rename_i className timestamp configuration hjob
      exact .inl ⟨j, runId, className, timestamp, configuration, rfl, hjob, h⟩
    · cases h
  | recordWebhook id receivedAt => exact .inr <| effect_recordWebhook h
  | recordConsent webhookId =>
    obtain ⟨_, _, h⟩ := bind_ok.mp h
    cases h
    exact .inr <| .kept rfl (fun t _ => by cases t <;> rfl) rfl rfl
  | recordReplayConflict webhookId =>
    obtain ⟨_, _, h⟩ := bind_ok.mp h
    cases h
    exact .inr <| .kept rfl (fun t _ => by cases t <;> rfl) rfl rfl
  | recordAgentRun source =>
    obtain ⟨_, _, h⟩ := bind_ok.mp h
    obtain ⟨_, _, h⟩ := bind_ok.mp h
    cases h
    exact .inr <| .kept rfl (fun t _ => by cases t <;> rfl) rfl rfl
  | openIncident id openedAt => exact .inr <| effect_openIncident h
  | moveIncident id status => exact .inr <| effect_moveIncident h
  | recordTurn turnId createdAt => exact .inr <| effect_recordTurn h
  | recordResponse response =>
    cases h
    exact .inr <| .kept rfl (fun t _ => by cases t <;> rfl) rfl rfl

def PurgeRun.honest (r : PurgeRun) : Prop :=
  match r.outcome with
  | .completed => r.exemptRowCount = 0
  | .completedWithExemptions => 0 < r.exemptRowCount
  | _ => r.affectedRowCount = 0 ∧ r.exemptRowCount = 0

structure Inv (db : Database) : Prop where
  arrived : ∀ t, ∀ k ∈ db.payloads t, db.occurredAt t k ≠ none
  distinct : ∀ t, (db.payloads t).Nodup
  once : (db.disposals.map DisposalRecord.subject).Nodup
  gone : ∀ d ∈ db.disposals, ∃ t : PayloadTable, d.subjectTable = t.ledger ∧
    db.occurredAt t d.subjectKey = some d.subjectOccurredAt ∧ d.subjectKey ∉ db.payloads t
  recorded : ∀ t k, db.occurredAt t k ≠ none → k ∉ db.payloads t →
    ∃ d ∈ db.disposals, d.subject = (t.ledger, k)
  runs : (db.runs.map PurgeRun.runId).Nodup
  named : ∀ d ∈ db.disposals, ∃ r ∈ db.runs, r.runId = d.runId ∧ r.className = d.className ∧
    ∃ cutoff ∈ r.cutoffAt, d.subjectOccurredAt < cutoff
  counted : ∀ r ∈ db.runs,
    r.affectedRowCount = db.disposals.countP fun d => d.runId = r.runId
  honest : ∀ r ∈ db.runs, r.honest

lemma inv_empty : Inv emptyWorld.db where
  arrived _ _ hk := absurd hk List.not_mem_nil
  distinct _ := List.nodup_nil
  once := List.nodup_nil
  gone _ hd := absurd hd List.not_mem_nil
  recorded t k hk := absurd (by cases t <;> rfl) hk
  runs := List.nodup_nil
  named _ hd := absurd hd List.not_mem_nil
  counted _ hr := absurd hr List.not_mem_nil
  honest _ hr := absurd hr List.not_mem_nil

lemma Inv.kept (h : Inv db) (payloads : db'.payloads = db.payloads)
    (occurred : ∀ t k, db'.occurredAt t k = db.occurredAt t k)
    (disposals : db'.disposals = db.disposals) (runs : db'.runs = db.runs) : Inv db' where
  arrived t k hk := by
    rw [payloads] at hk
    rw [occurred]
    exact h.arrived t k hk
  distinct t := payloads ▸ h.distinct t
  once := disposals ▸ h.once
  gone d hd := by
    rw [disposals] at hd
    obtain ⟨t, htable, hat, hgone⟩ := h.gone d hd
    exact ⟨t, htable, (occurred t _).trans hat, payloads ▸ hgone⟩
  recorded t k hk hgone := by
    rw [occurred] at hk
    rw [payloads] at hgone
    rw [disposals]
    exact h.recorded t k hk hgone
  runs := runs ▸ h.runs
  named d hd := by
    rw [disposals] at hd
    rw [runs]
    exact h.named d hd
  counted r hr := by
    rw [runs] at hr
    rw [disposals]
    exact h.counted r hr
  honest r hr := h.honest r (runs ▸ hr)

lemma Inv.arrive (h : Inv db) {t : PayloadTable} {k : Uuid} {at_ : Int}
    (fresh : db.occurredAt t k = none)
    (payloads : db'.payloads = Function.update db.payloads t (db.payloads t ++ [k]))
    (occurred : ∀ t' k', db'.occurredAt t' k' =
      if t' = t ∧ k' = k then some at_ else db.occurredAt t' k')
    (disposals : db'.disposals = db.disposals) (runs : db'.runs = db.runs) : Inv db' := by
  have hnew : k ∉ db.payloads t := fun hk => h.arrived t k hk fresh
  have hkeeps : ∀ t' k', db.occurredAt t' k' ≠ none → db'.occurredAt t' k' = db.occurredAt t' k' := by
    intro t' k' hk
    rw [occurred, if_neg]
    rintro ⟨rfl, rfl⟩
    exact hk fresh
  have hmem : ∀ t' k', k' ∈ db'.payloads t' ↔ k' ∈ db.payloads t' ∨ (t' = t ∧ k' = k) := by
    intro t' k'
    rw [payloads]
    by_cases ht : t' = t
    · subst ht
      rw [Function.update_self, List.mem_append, List.mem_singleton]
      simp
    · rw [Function.update_of_ne ht]
      simp [ht]
  refine ⟨fun t' k' hk => ?_, fun t' => ?_, disposals ▸ h.once, fun d hd => ?_,
    fun t' k' hk hgone => ?_, runs ▸ h.runs, fun d hd => ?_, fun r hr => ?_,
    fun r hr => h.honest r (runs ▸ hr)⟩
  · rcases (hmem t' k').mp hk with hold | ⟨rfl, rfl⟩
    · rw [hkeeps t' k' (h.arrived t' k' hold)]
      exact h.arrived t' k' hold
    · rw [occurred, if_pos ⟨rfl, rfl⟩]
      exact Option.some_ne_none at_
  · rw [payloads]
    by_cases ht : t' = t
    · subst ht
      rw [Function.update_self, List.nodup_append]
      refine ⟨h.distinct t', List.nodup_singleton k, ?_⟩
      intro a ha b hb
      rw [List.mem_singleton.mp hb]
      exact fun he => hnew (he ▸ ha)
    · rw [Function.update_of_ne ht]
      exact h.distinct t'
  · rw [disposals] at hd
    obtain ⟨t', htable, hat, hgone⟩ := h.gone d hd
    have hthere : db.occurredAt t' d.subjectKey ≠ none := by simp [hat]
    refine ⟨t', htable, (hkeeps t' _ hthere).trans hat, fun hk => ?_⟩
    rcases (hmem t' _).mp hk with hold | ⟨rfl, hk⟩
    · exact hgone hold
    · exact hthere (hk ▸ fresh)
  · rw [disposals]
    have hnot := not_or.mp (mt (hmem t' k').mpr hgone)
    rw [occurred, if_neg hnot.2] at hk
    exact h.recorded t' k' hk hnot.1
  · rw [disposals] at hd
    rw [runs]
    exact h.named d hd
  · rw [runs] at hr
    rw [disposals]
    exact h.counted r hr

lemma Inv.unnamed (h : Inv db) {runId : Uuid} (free : lookup PurgeRun.runId db.runs runId = none) :
    (db.disposals.countP fun d => d.runId = runId) = 0 := by
  rw [List.countP_eq_zero]
  intro d hd
  obtain ⟨r, hr, hid, -⟩ := h.named d hd
  rw [decide_eq_true_eq]
  rintro rfl
  exact lookup_none.mp free (List.mem_map.mpr ⟨r, hr, hid⟩)

lemma Inv.decline (h : Inv db) {run : PurgeRun} (idle : Idle run)
    (free : lookup PurgeRun.runId db.runs run.runId = none) :
    Inv { db with runs := db.runs ++ [run] } := by
  obtain ⟨haffected, hexempt, hnot, hnot'⟩ := idle
  have hoccurred : ∀ t k, ({ db with runs := db.runs ++ [run] } : Database).occurredAt t k =
      db.occurredAt t k := by
    intro t k
    cases t <;> rfl
  refine ⟨fun t k hk => hoccurred t k ▸ h.arrived t k hk, h.distinct, h.once, fun d hd => ?_,
    fun t k hk => h.recorded t k (hoccurred t k ▸ hk), ?_, fun d hd => ?_, fun r hr => ?_,
    fun r hr => ?_⟩
  · obtain ⟨t, htable, hat, hgone⟩ := h.gone d hd
    exact ⟨t, htable, (hoccurred t _).trans hat, hgone⟩
  · exact nodup_map_snoc h.runs free
  · obtain ⟨r, hr, hnamed⟩ := h.named d hd
    exact ⟨r, List.mem_append_left _ hr, hnamed⟩
  · rcases List.mem_append.mp hr with hr | hr
    · exact h.counted r hr
    · rw [List.mem_singleton.mp hr, haffected, h.unnamed free]
  · rcases List.mem_append.mp hr with hr | hr
    · exact h.honest r hr
    · rw [List.mem_singleton.mp hr, PurgeRun.honest]
      split
      · exact hexempt
      · contradiction
      · exact ⟨haffected, hexempt⟩

lemma Inv.subjects_nodup (h : Inv db) (t : PayloadTable) (e : PurgeExecution) :
    ((db.disposals ++ disposedBy db t e).map DisposalRecord.subject).Nodup := by
  rw [List.map_append, map_subject_disposedBy, List.nodup_append]
  refine ⟨h.once, ?_, ?_⟩
  · exact ((h.distinct t).filter _).map fun a b hab => (Prod.mk.inj hab).2
  · rintro s hold s' hnew rfl
    obtain ⟨d, hd, hsubject⟩ := List.mem_map.mp hold
    obtain ⟨k, hk, hk'⟩ := List.mem_map.mp hnew
    obtain ⟨t', htable, -, hgone⟩ := h.gone d hd
    rw [← hk', DisposalRecord.subject, Prod.mk.injEq] at hsubject
    have ht : t' = t := ledger_injective (htable.symm.trans hsubject.1)
    subst ht
    exact hgone (hsubject.2 ▸ List.mem_of_mem_filter hk)

section Purge

variable {store : DisposablePayloadStore} {version : Nat} {e : PurgeExecution}

lemma occurredAt_purgedBy (t : PayloadTable) (k : Uuid) :
    (purgedBy db store version e).occurredAt t k = db.occurredAt t k := by
  cases t <;> rfl

lemma mem_payloads_purgedBy {t : PayloadTable} {k : Uuid} :
    k ∈ (purgedBy db store version e).payloads t ↔
      k ∈ db.payloads t ∧ (t = store.payloadTable → db.due t e.cutoffAt k = none) := by
  change k ∈ Function.update db.payloads store.payloadTable _ t ↔ _
  by_cases ht : t = store.payloadTable
  · subst ht
    rw [Function.update_self, mem_keptBy]
    simp
  · rw [Function.update_of_ne ht]
    simp [ht]

lemma past_purgedBy {cutoff : Int} :
    (purgedBy db store version e).past store.payloadTable cutoff =
      (disposedOf db store.payloadTable e).past store.payloadTable cutoff := by
  simp only [Database.past, occurredAt_purgedBy, occurredAt_disposedOf]
  rfl

lemma honest_completedRun (t : PayloadTable) (rule : String) :
    (completedRun db t e version rule).honest := by
  rw [PurgeRun.honest, completedRun]
  dsimp only
  by_cases hexempt : (disposedOf db t e).past t e.cutoffAt = 0
  · rw [hexempt, completedOutcome, if_pos rfl]
  · rw [completedOutcome, if_neg hexempt]
    exact Nat.pos_of_ne_zero hexempt

lemma Inv.purge (h : Inv db) (free : lookup PurgeRun.runId db.runs e.runId = none) :
    Inv (purgedBy db store version e) := by
  have hless : ∀ t k, k ∈ (purgedBy db store version e).payloads t → k ∈ db.payloads t :=
    fun t k hk => (mem_payloads_purgedBy.mp hk).1
  have hrunOf : ∀ d ∈ disposedBy db store.payloadTable e, d.runId = e.runId := by
    intro d hd
    obtain ⟨k, -, at_, -, rfl⟩ := mem_disposedBy.mp hd
    rfl
  refine ⟨fun t k hk => ?_, fun t => ?_, h.subjects_nodup _ _, fun d hd => ?_,
    fun t k hk hgone => ?_, ?_, fun d hd => ?_, fun r hr => ?_, fun r hr => ?_⟩
  · rw [occurredAt_purgedBy]
    exact h.arrived t k (hless t k hk)
  · change (Function.update db.payloads store.payloadTable _ t).Nodup
    by_cases ht : t = store.payloadTable
    · subst ht
      rw [Function.update_self]
      exact (h.distinct _).filter _
    · rw [Function.update_of_ne ht]
      exact h.distinct t
  · rcases List.mem_append.mp hd with hd | hd
    · obtain ⟨t, htable, hat, hgone⟩ := h.gone d hd
      exact ⟨t, htable, (occurredAt_purgedBy t _).trans hat, mt (hless t _) hgone⟩
    · obtain ⟨k, hk, at_, hdue, rfl⟩ := mem_disposedBy.mp hd
      refine ⟨store.payloadTable, rfl, ?_, fun hkept => ?_⟩
      · exact (occurredAt_purgedBy _ _).trans (due_some.mp hdue).1
      · have hnone := (mem_payloads_purgedBy.mp hkept).2 rfl
        exact Option.some_ne_none at_ (hdue.symm.trans hnone)
  · rw [occurredAt_purgedBy] at hk
    by_cases hthere : k ∈ db.payloads t
    · rw [mem_payloads_purgedBy, not_and] at hgone
      obtain ⟨rfl, hdue⟩ := Classical.not_imp.mp (hgone hthere)
      obtain ⟨at_, hat⟩ := Option.ne_none_iff_exists'.mp hdue
      exact ⟨_, List.mem_append_right _ (mem_disposedBy.mpr ⟨k, hthere, at_, hat, rfl⟩), rfl⟩
    · obtain ⟨d, hd, hsubject⟩ := h.recorded t k hk hthere
      exact ⟨d, List.mem_append_left _ hd, hsubject⟩
  · exact nodup_map_snoc h.runs free
  · rcases List.mem_append.mp hd with hd | hd
    · obtain ⟨r, hr, hnamed⟩ := h.named d hd
      exact ⟨r, List.mem_append_left _ hr, hnamed⟩
    · obtain ⟨k, -, at_, hdue, rfl⟩ := mem_disposedBy.mp hd
      exact ⟨_, List.mem_append_right _ (List.mem_singleton_self _), rfl, rfl, e.cutoffAt, rfl,
        (due_some.mp hdue).2.1⟩
  · change r.affectedRowCount = (db.disposals ++ disposedBy db store.payloadTable e).countP _
    rw [List.countP_append]
    rcases List.mem_append.mp hr with hr | hr
    · rw [h.counted r hr, left_eq_add, List.countP_eq_zero]
      intro d hd
      rw [hrunOf d hd, decide_eq_true_eq]
      rintro he
      exact lookup_none.mp free (List.mem_map.mpr ⟨r, hr, he.symm⟩)
    · rw [List.mem_singleton.mp hr]
      change (disposedBy db store.payloadTable e).length =
        db.disposals.countP (fun d => decide (d.runId = e.runId)) + _
      rw [h.unnamed free, zero_add, eq_comm, List.countP_eq_length]
      intro d hd
      exact decide_eq_true (hrunOf d hd)
  · rcases List.mem_append.mp hr with hr | hr
    · exact h.honest r hr
    · rw [List.mem_singleton.mp hr]
      exact honest_completedRun _ _

end Purge

lemma Inv.effect (h : Inv db) (he : Effect db db') : Inv db' := by
  cases he with
  | kept payloads occurred disposals runs => exact h.kept payloads occurred disposals runs
  | arrived t k at_ fresh payloads occurred disposals runs =>
    exact h.arrive fresh payloads occurred disposals runs

lemma Inv.runPurge (h : Inv db) {runId : Uuid} {className : RetentionClass} {timestamp : Datetime}
    {configuration : Option RetentionConfiguration}
    (hok : runPurge db runId className timestamp configuration = .ok db') : Inv db' := by
  rcases runPurge_ok hok with ⟨run, hidle, hrun⟩ | ⟨c, store, cutoff, rfl, hdisposes⟩
  · obtain ⟨hfree, rfl⟩ := recordRun_ok.mp hrun
    exact h.decline hidle hfree
  · obtain ⟨-, rfl⟩ := (runPurge_disposes hdisposes rfl).mp hok
    exact h.purge hdisposes.free

lemma Inv.apply (h : Inv w.db) (c : Command) : Inv (apply w c).db := by
  rw [Retention.apply]
  cases hattempt : attempt w c with
  | error e => exact h
  | ok db' =>
    rcases attempt_ok hattempt with ⟨_, _, _, _, _, -, -, hrun⟩ | heffect
    · exact h.runPurge hrun
    · exact h.effect heffect

lemma inv_run (commands : List Command) : Inv (run commands).db :=
  List.foldlRecOn (motive := fun w => Inv w.db) commands Retention.apply inv_empty
    fun _ h c _ => Inv.apply h c

def Approves (db : Database) (className : RetentionClass) (timestamp : Datetime) (at_ : Int) : Prop :=
  ∃ latest days, activeConfiguration db className = some latest ∧ latest.enabled = true ∧
    latest.disposition = .purge ∧ latest.retentionDays = some days ∧
    at_ < timestamp.instant - days * dayMicros

/-- Whatever payload a command disposes of, the schedule in force approves it, no hold covers its
class and nothing pins it. -/
def Lawful (w : World) (c : Command) : Prop :=
  ∀ t, ∀ k ∈ w.db.payloads t, k ∉ (apply w c).db.payloads t →
    ∃ j runId className timestamp configuration store at_, c = .purge j runId ∧
      w.jobs[j]? = some (.purge className timestamp configuration) ∧
      disposablePayloadStores className = some store ∧ store.payloadTable = t ∧
      w.db.occurredAt t k = some at_ ∧ Approves w.db className timestamp at_ ∧
      activeHoldExists w.db className = false ∧ w.db.pinned t k = false

/-- What the schedule read makes a run dispose of, the schedule in force approves. -/
def Stands (w : World) (c : Command) : Prop :=
  ∀ j runId className timestamp read store cutoff, c = .purge j runId →
    w.jobs[j]? = some (.purge className timestamp (some read)) →
    Disposes w.db runId className timestamp read store cutoff →
    ∀ k ∈ w.db.payloads store.payloadTable, ∀ at_,
      w.db.due store.payloadTable cutoff.instant k = some at_ → Approves w.db className timestamp at_

def Current (w : World) (c : Command) : Prop :=
  ∀ j runId className timestamp configuration, c = .purge j runId →
    w.jobs[j]? = some (.purge className timestamp configuration) →
    activeConfiguration w.db className = configuration

lemma stands_of_current {c : Command} (h : Current w c) : Stands w c := by
  intro j runId className timestamp read store cutoff hc hjob hdisposes k _ at_ hdue
  obtain ⟨days, hdays, hcutoff⟩ := hdisposes.cutoff
  refine ⟨read, days, h j runId className timestamp _ hc hjob, hdisposes.enabled,
    hdisposes.purge, hdays, ?_⟩
  have hinstant : cutoff.instant = timestamp.instant + -(days * dayMicros) :=
    Datetime.instant_addMicros hcutoff
  have hpast : at_ < cutoff.instant := (due_some.mp hdue).2.1
  omega

lemma disposes_of_gone {c : Command} {t : PayloadTable} {k : Uuid}
    (hk : k ∈ w.db.payloads t) (hgone : k ∉ (apply w c).db.payloads t) :
    ∃ j runId className timestamp read store cutoff at_, c = .purge j runId ∧
      w.jobs[j]? = some (.purge className timestamp (some read)) ∧
      Disposes w.db runId className timestamp read store cutoff ∧ store.payloadTable = t ∧
      w.db.due t cutoff.instant k = some at_ ∧
      (apply w c).db = purgedBy w.db store read.version
        (executionOf runId className timestamp cutoff) := by
  rw [apply] at hgone ⊢
  cases hattempt : attempt w c with
  | error e =>
    rw [hattempt] at hgone
    exact absurd hk hgone
  | ok db' =>
    rw [hattempt] at hgone
    dsimp only at hgone ⊢
    rcases attempt_ok hattempt with ⟨j, runId, className, timestamp, configuration, hc, hjob, hrun⟩ |
      heffect
    · rcases runPurge_ok hrun with ⟨run, -, hrecord⟩ | ⟨read, store, cutoff, rfl, hdisposes⟩
      · obtain ⟨-, rfl⟩ := recordRun_ok.mp hrecord
        exact absurd hk hgone
      · obtain ⟨-, rfl⟩ := (runPurge_disposes hdisposes rfl).mp hrun
        rw [mem_payloads_purgedBy, not_and] at hgone
        obtain ⟨ht, hdue⟩ := Classical.not_imp.mp (hgone hk)
        obtain ⟨at_, hat⟩ := Option.ne_none_iff_exists'.mp hdue
        exact ⟨j, runId, className, timestamp, read, store, cutoff, at_, hc, hjob, hdisposes,
          ht.symm, hat, rfl⟩
    · cases heffect with
      | kept payloads => exact absurd (payloads ▸ hk) hgone
      | arrived t' k' at_ fresh payloads =>
        refine absurd ?_ hgone
        rw [payloads]
        by_cases ht : t = t'
        · subst ht
          rw [Function.update_self]
          exact List.mem_append_left _ hk
        · rwa [Function.update_of_ne ht]

lemma apply_purge (h : Inv w.db) {j : Nat} {runId : Uuid} {className : RetentionClass}
    {timestamp cutoff : Datetime} {read : RetentionConfiguration} {store : DisposablePayloadStore}
    (hjob : w.jobs[j]? = some (.purge className timestamp (some read)))
    (hdisposes : Disposes w.db runId className timestamp read store cutoff) :
    (apply w (.purge j runId)).db =
      purgedBy w.db store read.version (executionOf runId className timestamp cutoff) := by
  have hattempt : attempt w (.purge j runId) =
      .ok (purgedBy w.db store read.version (executionOf runId className timestamp cutoff)) := by
    rw [attempt, hjob]
    exact (runPurge_disposes hdisposes rfl).mpr ⟨h.subjects_nodup _ _, rfl⟩
  rw [apply, hattempt]

lemma lawful_iff (h : Inv w.db) (c : Command) : Lawful w c ↔ Stands w c := by
  constructor
  · intro hlawful j runId className timestamp read store cutoff hc hjob hdisposes k hk at_ hdue
    subst hc
    have hgone : k ∉ (apply w (.purge j runId)).db.payloads store.payloadTable := by
      rw [apply_purge h hjob hdisposes, mem_payloads_purgedBy]
      rintro ⟨-, hnone⟩
      exact Option.some_ne_none at_ (hdue.symm.trans (hnone rfl))
    obtain ⟨j', runId', className', timestamp', configuration, store', at_', hc', hjob', -, -, hat,
      happroves, -, -⟩ := hlawful _ k hk hgone
    cases hc'
    cases hjob.symm.trans hjob'
    cases hat.symm.trans (due_some.mp hdue).1
    exact happroves
  · intro hstands t k hk hgone
    obtain ⟨j, runId, className, timestamp, read, store, cutoff, at_, hc, hjob, hdisposes, rfl, hdue,
      -⟩ := disposes_of_gone hk hgone
    obtain ⟨hat, -, hpinned⟩ := due_some.mp hdue
    exact ⟨j, runId, className, timestamp, some read, store, at_, hc, hjob, hdisposes.store, rfl, hat,
      hstands j runId className timestamp read store cutoff hc hjob hdisposes k hk at_ hdue,
      hdisposes.unheld, hpinned⟩

/-- Every payload that is gone has one record of its disposal, which names a run on record, and the
counts of each run are those of its disposals. -/
structure Accounted (db : Database) : Prop where
  gone : ∀ t k, db.occurredAt t k ≠ none → k ∉ db.payloads t →
    ∃ d, db.disposals.filter (fun d => d.subject = (t.ledger, k)) = [d] ∧
      ∃ r ∈ db.runs, r.runId = d.runId ∧ r.className = d.className
  past : ∀ d ∈ db.disposals, ∃ r ∈ db.runs, r.runId = d.runId ∧
    ∃ cutoff ∈ r.cutoffAt, d.subjectOccurredAt < cutoff
  counted : ∀ r ∈ db.runs, r.affectedRowCount = db.disposals.countP fun d => d.runId = r.runId
  honest : ∀ r ∈ db.runs, r.honest

/-- The record of a run that came to its disposal: what it affected and what it left are the
payloads past its cutoff when it started, and what it left are those still past it. -/
def Completes (w : World) (c : Command) (r : PurgeRun) : Prop :=
  ∃ j className timestamp read store cutoff, c = .purge j r.runId ∧
    w.jobs[j]? = some (.purge className timestamp (some read)) ∧
    Disposes w.db r.runId className timestamp read store cutoff ∧
    r.className = className ∧ r.cutoffAt = some cutoff.instant ∧
    r.affectedRowCount + r.exemptRowCount = w.db.past store.payloadTable cutoff.instant ∧
    r.exemptRowCount = (apply w c).db.past store.payloadTable cutoff.instant

structure Recorded (w : World) (c : Command) : Prop where
  gone : ∀ t, ∀ k ∈ w.db.payloads t, k ∉ (apply w c).db.payloads t →
    ∃ j runId d r cutoff, c = .purge j runId ∧
      (apply w c).db.disposals.filter (fun d => d.subject = (t.ledger, k)) = [d] ∧
      d.runId = runId ∧ r ∈ (apply w c).db.runs ∧ r.runId = runId ∧ r.cutoffAt = some cutoff ∧
      r.affectedRowCount + r.exemptRowCount = w.db.past t cutoff ∧
      r.exemptRowCount = (apply w c).db.past t cutoff
  disposes : ∀ j runId className timestamp read store cutoff, c = .purge j runId →
    w.jobs[j]? = some (.purge className timestamp (some read)) →
    Disposes w.db runId className timestamp read store cutoff →
    ∃ r ∈ (apply w c).db.runs, r.runId = runId ∧ Completes w c r
  runs : ∀ r ∈ (apply w c).db.runs, r ∉ w.db.runs → Idle r ∨ Completes w c r

lemma filter_eq_singleton {ρ κ : Type} [DecidableEq κ] {key : ρ → κ} {rows : List ρ}
    (hn : (rows.map key).Nodup) {r : ρ} (hr : r ∈ rows) :
    rows.filter (fun s => key s = key r) = [r] := by
  induction rows with
  | nil => cases hr
  | cons s rows ih =>
    rw [List.map_cons, List.nodup_cons] at hn
    rcases List.mem_cons.mp hr with rfl | hr
    · rw [List.filter_cons_of_pos (by simp), List.filter_eq_nil_iff.mpr]
      intro s hs hkey
      exact hn.1 (List.mem_map.mpr ⟨s, hs, of_decide_eq_true hkey⟩)
    · have hne : key s ≠ key r := fun he => hn.1 (he ▸ List.mem_map_of_mem hr)
      rw [List.filter_cons_of_neg (by simpa using hne)]
      exact ih hn.2 hr

lemma Inv.accounted (h : Inv db) : Accounted db where
  gone t k hk hgone := by
    obtain ⟨d, hd, hsubject⟩ := h.recorded t k hk hgone
    obtain ⟨r, hr, hid, hclass, -⟩ := h.named d hd
    exact ⟨d, hsubject ▸ filter_eq_singleton h.once hd, r, hr, hid, hclass⟩
  past d hd := by
    obtain ⟨r, hr, hid, -, hcutoff⟩ := h.named d hd
    exact ⟨r, hr, hid, hcutoff⟩
  counted := h.counted
  honest := h.honest

lemma completes_of_disposes (h : Inv w.db) {j : Nat} {runId : Uuid} {className : RetentionClass}
    {timestamp cutoff : Datetime} {read : RetentionConfiguration} {store : DisposablePayloadStore}
    (hjob : w.jobs[j]? = some (.purge className timestamp (some read)))
    (hdisposes : Disposes w.db runId className timestamp read store cutoff) :
    Completes w (.purge j runId) (completedRun w.db store.payloadTable
      (executionOf runId className timestamp cutoff) read.version store.exemptionRule) := by
  refine ⟨j, className, timestamp, read, store, cutoff, rfl, hjob, hdisposes, rfl, rfl,
    disposed_add_exempt _ _, ?_⟩
  rw [apply_purge h hjob hdisposes, past_purgedBy]
  rfl

lemma gone_apply (h : Inv w.db) (c : Command) {t : PayloadTable} {k : Uuid}
    (hk : k ∈ w.db.payloads t) (hgone : k ∉ (apply w c).db.payloads t) :
    ∃ j runId d r cutoff, c = .purge j runId ∧
      (apply w c).db.disposals.filter (fun d => d.subject = (t.ledger, k)) = [d] ∧
      d.runId = runId ∧ r ∈ (apply w c).db.runs ∧ r.runId = runId ∧ r.cutoffAt = some cutoff ∧
      r.affectedRowCount + r.exemptRowCount = w.db.past t cutoff ∧
      r.exemptRowCount = (apply w c).db.past t cutoff := by
  obtain ⟨j, runId, className, timestamp, read, store, cutoff, at_, rfl, hjob, hdisposes, rfl, hdue,
    hafter⟩ := disposes_of_gone hk hgone
  set e := executionOf runId className timestamp cutoff
  have honce := (h.apply (.purge j runId)).once
  rw [hafter] at honce ⊢
  have hd : disposalRecord store.payloadTable e k at_ ∈
      (purgedBy w.db store read.version e).disposals :=
    List.mem_append_right _ (mem_disposedBy.mpr ⟨k, hk, at_, hdue, rfl⟩)
  exact ⟨j, runId, _, _, e.cutoffAt, rfl, filter_eq_singleton honce hd, rfl,
    List.mem_append_right _ (List.mem_singleton_self _), rfl, rfl, disposed_add_exempt _ _,
    past_purgedBy.symm⟩

lemma runs_apply (h : Inv w.db) (c : Command) {r : PurgeRun} (hr : r ∈ (apply w c).db.runs)
    (hnew : r ∉ w.db.runs) : Idle r ∨ Completes w c r := by
  cases hattempt : attempt w c with
  | error e =>
    rw [apply, hattempt] at hr
    exact absurd hr hnew
  | ok db' =>
    have happly : (apply w c).db = db' := by rw [apply, hattempt]
    rw [happly] at hr
    rcases attempt_ok hattempt with ⟨j, runId, className, timestamp, configuration, rfl, hjob, hrun⟩ |
      heffect
    · rcases runPurge_ok hrun with ⟨run, hidle, hrecord⟩ | ⟨read, store, cutoff, rfl, hdisposes⟩
      · obtain ⟨-, rfl⟩ := recordRun_ok.mp hrecord
        rcases List.mem_append.mp hr with hr | hr
        · exact absurd hr hnew
        · rw [List.mem_singleton.mp hr]
          exact .inl hidle
      · obtain ⟨-, rfl⟩ := (runPurge_disposes hdisposes rfl).mp hrun
        rcases List.mem_append.mp hr with hr | hr
        · exact absurd hr hnew
        · rw [List.mem_singleton.mp hr]
          exact .inr (completes_of_disposes h hjob hdisposes)
    · cases heffect with
      | kept payloads occurred disposals runs => exact absurd (runs ▸ hr) hnew
      | arrived t k at_ fresh payloads occurred disposals runs => exact absurd (runs ▸ hr) hnew

lemma recorded_apply (h : Inv w.db) (c : Command) : Recorded w c where
  gone t k hk hgone := gone_apply h c hk hgone
  disposes j runId className timestamp read store cutoff hc hjob hdisposes := by
    subst hc
    refine ⟨_, ?_, ?_, completes_of_disposes h hjob hdisposes⟩
    · rw [apply_purge h hjob hdisposes]
      exact List.mem_append_right _ (List.mem_singleton_self _)
    · rfl
  runs r hr hnew := runs_apply h c hr hnew

/-- Over any run: what is gone is accounted for, and a run disposes lawfully exactly where the
schedule it read before its lock still stands under it. -/
theorem purges_lawful_and_accounted (commands : List Command) :
    Accounted (run commands).db ∧
    (∀ before c after, commands = before ++ c :: after → Recorded (run before) c) ∧
    ((∀ before c after, commands = before ++ c :: after → Lawful (run before) c) ↔
      ∀ before c after, commands = before ++ c :: after → Stands (run before) c) ∧
    ((∀ before c after, commands = before ++ c :: after → Current (run before) c) →
      ∀ before c after, commands = before ++ c :: after → Lawful (run before) c) := by
  refine ⟨(inv_run commands).accounted, fun before c _ _ => recorded_apply (inv_run before) c,
    ⟨?_, ?_⟩, ?_⟩
  · intro hlawful before c after hsplit
    exact (lawful_iff (inv_run before) c).mp (hlawful before c after hsplit)
  · intro hstands before c after hsplit
    exact (lawful_iff (inv_run before) c).mpr (hstands before c after hsplit)
  · intro hcurrent before c after hsplit
    exact (lawful_iff (inv_run before) c).mpr (stands_of_current (hcurrent before c after hsplit))

section Withdrawn

def arrival : Nat := 739500 * dayMicros

def thirtyOneDaysOn : Datetime := .ofUtc (arrival + 31 * dayMicros) (by decide)

/-- A run reads a schedule of thirty days; before it takes the lock the class is disabled. -/
def withdrawn : List Command :=
  [.readVersion [.ownerAdmin] .rawWebhookPayload true .purge (some 30) (some "DEC-008"),
    .publish 0, .recordWebhook ⟨1, by decide⟩ arrival,
    .readConfiguration .rawWebhookPayload thirtyOneDaysOn,
    .readVersion [.ownerAdmin] .rawWebhookPayload false .purge (some 30) (some "DEC-008"),
    .publish 2]

theorem disposed_under_withdrawn_schedule :
    (⟨1, by decide⟩ : Uuid) ∈ (run withdrawn).db.payloads .webhookEventPayloads ∧
      ⟨1, by decide⟩ ∉ (apply (run withdrawn) (.purge 1 ⟨2, by decide⟩)).db.payloads
        .webhookEventPayloads ∧
      ¬ Lawful (run withdrawn) (.purge 1 ⟨2, by decide⟩) := by
  have hthere : (⟨1, by decide⟩ : Uuid) ∈ (run withdrawn).db.payloads .webhookEventPayloads := by
    decide
  have hgone : (⟨1, by decide⟩ : Uuid) ∉
      (apply (run withdrawn) (.purge 1 ⟨2, by decide⟩)).db.payloads .webhookEventPayloads := by
    decide
  refine ⟨hthere, hgone, fun hlawful => ?_⟩
  obtain ⟨j, runId, className, timestamp, configuration, store, at_, hc, hjob, -, -, -,
    ⟨latest, days, hlatest, henabled, -⟩, -⟩ := hlawful _ _ hthere hgone
  cases hc
  have hread : (run withdrawn).jobs[1]? = some (.purge .rawWebhookPayload thirtyOneDaysOn
      (some ⟨.rawWebhookPayload, 1, true, .purge, some 30, some "DEC-008"⟩)) := rfl
  cases hread.symm.trans hjob
  have hactive : activeConfiguration (run withdrawn).db .rawWebhookPayload =
      some ⟨.rawWebhookPayload, 2, false, .purge, some 30, some "DEC-008"⟩ := by decide
  cases hactive.symm.trans hlatest
  cases henabled

end Withdrawn

end NhaTrangLaundry.Db.Retention
