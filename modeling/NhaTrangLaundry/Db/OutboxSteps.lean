import NhaTrangLaundry.Db.Outbox

/-! What one step of a worker can do to the queue. -/

namespace NhaTrangLaundry.Db.Outbox

open Lib Outcome Sorting Table Domain Catalog Canonical

lemma candidate_spec {db : Database} {now : Datetime} {locked : List Uuid} {row : OutboxEvent}
    (h : candidate db now locked = some row) : row ∈ db.outboxEvents ∧ row.status = .pending := by
  have hmem := List.mem_of_head? h
  rw [mem_sortBy, List.mem_filter] at hmem
  simp only [Bool.and_eq_true, decide_eq_true_eq] at hmem
  exact ⟨hmem.1, hmem.2.1.1.1⟩

lemma leased_spec {db : Database} {eventId token : Uuid} {clock : Int} {row : OutboxEvent}
    (h : leased db eventId token clock = some row) :
    row ∈ db.outboxEvents ∧ row.id = eventId ∧ row.status = .processing ∧
      row.claimToken = some token ∧ ∃ lease, row.leaseExpiresAt = some lease ∧ clock ≤ lease := by
  have hmem := List.mem_of_find?_eq_some h
  have hspec := List.find?_some h
  simp only [Bool.and_eq_true, decide_eq_true_eq, Option.any_eq_true] at hspec
  obtain ⟨⟨⟨hid, hst⟩, htok⟩, lease, hl, hle⟩ := hspec
  exact ⟨hmem, hid, hst, htok, lease, hl, hle⟩

lemma expired_spec {db : Database} {now : Datetime} {locked : List Uuid} {row : OutboxEvent}
    (h : expired db now locked = some row) : row ∈ db.outboxEvents ∧ row.status = .processing := by
  have hmem := List.mem_of_head? h
  rw [mem_sortBy, List.mem_filter] at hmem
  simp only [Bool.and_eq_true, decide_eq_true_eq] at hmem
  exact ⟨hmem.1, hmem.2.1.1.1⟩

lemma atomically_fst_ok {α : Type} {db : Database} {t : Except OutboxError (α × Database)} {a : α}
    (h : (atomically db t).1 = .ok a) : ∃ db', t = .ok (a, db') := by
  match t, h with
  | .ok (_, db'), h =>
    cases h
    exact ⟨db', rfl⟩

def letters (db : Database) (eventId : Uuid) : Nat :=
  (db.deadLetterEvents.map DeadLetterEvent.outboxEventId).count eventId

variable [Unicodedata]

lemma deadLetter_ok {db db' : Database} {row : OutboxEvent} {letterId : Uuid}
    {errorClass : String} {timestamp : Datetime} {replayEligible : Bool}
    (h : deadLetter db row letterId errorClass timestamp replayEligible = .ok db') :
    db'.outboxEvents = put OutboxEvent.id db.outboxEvents
        { released row .dead with heldReason := some errorClass } ∧
      (∀ e, letters db' e = letters db e + if e = row.id then 1 else 0) ∧ letters db row.id = 0 := by
  simp only [deadLetter, insertDeadLetter, bind_ok, require_ok] at h
  obtain ⟨hash, -, -, ⟨hfresh, -⟩, h⟩ := h
  cases h
  refine ⟨rfl, fun e => ?_, List.count_eq_zero.mpr hfresh⟩
  simp only [letters, update, List.map_append, List.map_cons, List.map_nil, List.count_append,
    List.count_singleton]
  by_cases he : e = row.id
  · simp [he]
  · simp [he, Ne.symm he]

/-- What one step can do, with the effect it reports. -/
inductive Change (db : Database) (s : Step) : Option Effect → Database → Prop
  | nothing : Change db s none db
  | claim {row : OutboxEvent} {token : Uuid} {now lease : Datetime} :
      row ∈ db.outboxEvents → row.status = .pending → s.token = some token →
      Change db s (some (.claimed row.id token)) (update db (claimed row token now lease))
  | complete {row : OutboxEvent} {token : Uuid} {lease sentAt : Int} :
      row ∈ db.outboxEvents → row.status = .processing → row.claimToken = some token →
      row.leaseExpiresAt = some lease → s.clock ≤ lease →
      Change db s (some (.ended .sent row.id (some token)))
        (update db { released row .sent with sentAt := some sentAt })
  | retry {row : OutboxEvent} {token : Uuid} {lease availableAt delay : Int} {reason : String} :
      row ∈ db.outboxEvents → row.status = .processing → row.claimToken = some token →
      row.leaseExpiresAt = some lease → s.clock ≤ lease →
      retryDelays.lookup row.attemptCount = some delay →
      Change db s (some (.ended .retried row.id (some token)))
        (update db { released row .pending with
          availableAt := availableAt, heldReason := some reason })
  | dead {row : OutboxEvent} {reason : String} {db' : Database} :
      row ∈ db.outboxEvents → row.status = .processing →
      db'.outboxEvents = put OutboxEvent.id db.outboxEvents
        { released row .dead with heldReason := some reason } →
      (∀ e, letters db' e = letters db e + if e = row.id then 1 else 0) → letters db row.id = 0 →
      Change db s (some (.ended .dead row.id row.claimToken)) db'

lemma change_claim (db : Database) (role : ActorRole) (now : Datetime) (token : Uuid)
    (locked : List Uuid) (clock : Int) :
    Change db (.claim role now token locked clock) (effect db (.claim role now token locked clock))
      (apply db (.claim role now token locked clock)) := by
  simp only [effect, apply, claimNextInternal]
  cases hpre : (do requireWorker role; plus now leaseSeconds : Except OutboxError Datetime) with
  | error e => exact .nothing
  | ok lease =>
    cases hc : candidate db now locked with
    | none => exact .nothing
    | some row =>
      obtain ⟨hmem, hst⟩ := candidate_spec hc
      exact .claim hmem hst rfl

lemma change_complete (db : Database) (eventId token : Uuid) (role : ActorRole)
    (completedAt : Datetime) (clock : Int) :
    Change db (.complete eventId token role completedAt clock)
      (effect db (.complete eventId token role completedAt clock))
      (apply db (.complete eventId token role completedAt clock)) := by
  simp only [effect, apply, completeInternal]
  cases hrole : requireWorker role with
  | error e => exact .nothing
  | ok _ =>
    cases hl : leased db eventId token clock with
    | none => exact .nothing
    | some row =>
      obtain ⟨hmem, rfl, hst, htok, lease, hlease, hle⟩ := leased_spec hl
      exact .complete hmem hst htok hlease hle

lemma change_retry (db : Database) (eventId token : Uuid) (role : ActorRole) (errorClass : String)
    (retryable : Bool) (now : Datetime) (letterId : Uuid) (clock : Int) :
    Change db (.retry eventId token role errorClass retryable now letterId clock)
      (effect db (.retry eventId token role errorClass retryable now letterId clock))
      (apply db (.retry eventId token role errorClass retryable now letterId clock)) := by
  simp only [effect, apply]
  generalize hout : retryOrDeadLetterInternal db eventId token role errorClass retryable now
    letterId clock = out
  unfold retryOrDeadLetterInternal at hout
  generalize ht : (requireWorker role >>= fun _ => _) = t at hout
  cases t with
  | error e =>
    subst hout
    exact .nothing
  | ok p =>
    obtain ⟨d, db'⟩ := p
    subst hout
    simp only [bind_ok, require_ok] at ht
    obtain ⟨-, -, -, -, ht⟩ := ht
    split at ht
    · cases ht
    · next row hl =>
      obtain ⟨hmem, rfl, hst, htok, lease, hlease, hle⟩ := leased_spec hl
      split at ht
      · next delay hdelay =>
        simp only [bind_ok, require_ok] at ht
        obtain ⟨availableAt, -, -, -, ht⟩ := ht
        cases ht
        exact .retry hmem hst htok hlease hle hdelay
      · simp only [bind_ok] at ht
        obtain ⟨db'', hdead, ht⟩ := ht
        cases ht
        obtain ⟨hrows, hletters, hzero⟩ := deadLetter_ok hdead
        simp only [atomically, ← htok]
        exact .dead hmem hst hrows hletters hzero

lemma change_recover (db : Database) (role : ActorRole) (now : Datetime) (locked : List Uuid)
    (letterId domainId auditId : Uuid) (clock : Int) :
    Change db (.recover role now locked letterId domainId auditId clock)
      (effect db (.recover role now locked letterId domainId auditId clock))
      (apply db (.recover role now locked letterId domainId auditId clock)) := by
  simp only [effect, apply]
  generalize hout : recoverExpiredInternal db role now locked letterId domainId auditId = out
  unfold recoverExpiredInternal at hout
  generalize ht : (requireWorker role >>= fun _ => _) = t at hout
  cases t with
  | error e =>
    subst hout
    exact .nothing
  | ok p =>
    obtain ⟨d, db'⟩ := p
    subst hout
    simp only [bind_ok] at ht
    obtain ⟨-, -, ht⟩ := ht
    split at ht
    · cases ht
      exact .nothing
    · next row he =>
      obtain ⟨hmem, hst⟩ := expired_spec he
      simp only [insertDomainEvent, bind_ok, require_ok] at ht
      obtain ⟨db₁, hdead, db₂, ⟨-, -, hd₂⟩, ht⟩ := ht
      cases hd₂
      cases ht
      obtain ⟨hrows, hletters, hzero⟩ := deadLetter_ok hdead
      simp only [atomically, he, Option.bind_some]
      exact .dead hmem hst hrows hletters hzero

lemma change_apply (db : Database) (s : Step) : Change db s (effect db s) (apply db s) := by
  cases s with
  | claim role now token locked clock => exact change_claim db role now token locked clock
  | complete eventId token role completedAt clock =>
    exact change_complete db eventId token role completedAt clock
  | retry eventId token role errorClass retryable now letterId clock =>
    exact change_retry db eventId token role errorClass retryable now letterId clock
  | recover role now locked letterId domainId auditId clock =>
    exact change_recover db role now locked letterId domainId auditId clock

end NhaTrangLaundry.Db.Outbox
