import NhaTrangLaundry.Db.OutboxSteps

/-! Claims on the outbox are exclusive, and an unknown outcome is never replayed,
in every interleaving of the workers. -/

namespace NhaTrangLaundry.Db.Outbox

open Lib Outcome Sorting Table Domain Catalog Canonical

def claims (eventId : Uuid) (log : List Effect) : Nat :=
  log.countP fun x => match x with
    | .claimed e _ => e = eventId
    | .ended .. => false

def completions (eventId : Uuid) (log : List Effect) : Nat :=
  log.countP fun x => match x with
    | .ended .sent e _ => e = eventId
    | _ => false

def Ended (token : Uuid) (log : List Effect) : Prop :=
  ∃ ending e, Effect.ended ending e (some token) ∈ log

/-- The queue as it stands after a run that logged `log` and minted `minted`. -/
structure Inv (db : Database) (log : List Effect) (minted : List Uuid) : Prop where
  ids : (db.outboxEvents.map OutboxEvent.id).Nodup
  counted : ∀ row ∈ db.outboxEvents, row.attemptCount = claims row.id log
  waiting : ∀ row ∈ db.outboxEvents, row.status = .pending → row.attemptCount ≤ retryDelays.length
  bounded : ∀ row ∈ db.outboxEvents, row.attemptCount ≤ retryDelays.length + 1
  held : ∀ row ∈ db.outboxEvents, row.status ≠ .processing → row.claimToken = none
  known : ∀ row ∈ db.outboxEvents, ∀ t, row.claimToken = some t → t ∈ minted ∧ ¬ Ended t log
  apart : ∀ row ∈ db.outboxEvents, ∀ row' ∈ db.outboxEvents, ∀ t, row.claimToken = some t →
    row'.claimToken = some t → row = row'
  ended : ∀ t, Ended t log → t ∈ minted
  sent : ∀ row ∈ db.outboxEvents, completions row.id log = if row.status = .sent then 1 else 0
  dead : ∀ row ∈ db.outboxEvents, letters db row.id = if row.status = .dead then 1 else 0

lemma ended_append {t : Uuid} {log log' : List Effect} :
    Ended t (log ++ log') ↔ Ended t log ∨ Ended t log' := by
  simp only [Ended, List.mem_append]
  constructor
  · rintro ⟨d, e, h | h⟩
    · exact .inl ⟨d, e, h⟩
    · exact .inr ⟨d, e, h⟩
  · rintro (⟨d, e, h⟩ | ⟨d, e, h⟩)
    · exact ⟨d, e, .inl h⟩
    · exact ⟨d, e, .inr h⟩

lemma lookup_retryDelays {n : Nat} {delay : Int} (h : retryDelays.lookup n = some delay) :
    n ≤ retryDelays.length := by
  by_contra hn
  have hlen : retryDelays.length = 5 := rfl
  rw [hlen] at hn
  have hne : ∀ k ≤ 5, (n == k) = false := fun k hk => by simp; omega
  simp [retryDelays, List.lookup_cons, hne] at h

section

variable {db : Database} {log : List Effect} {minted : List Uuid}

lemma mem_update {row old : OutboxEvent} (hold : old ∈ db.outboxEvents) (hid : row.id = old.id)
    {r : OutboxEvent} (hr : r ∈ put OutboxEvent.id db.outboxEvents row) :
    r = row ∨ (r ∈ db.outboxEvents ∧ r.id ≠ old.id) := by
  rw [mem_put hold hid, hid] at hr
  exact hr

lemma eq_of_id (h : Inv db log minted) {row row' : OutboxEvent} (hrow : row ∈ db.outboxEvents)
    (hrow' : row' ∈ db.outboxEvents) (hid : row.id = row'.id) : row = row' :=
  List.inj_on_of_nodup_map h.ids hrow hrow' hid

lemma inv_claim (h : Inv db log minted) {row : OutboxEvent} {token : Uuid} {now lease : Datetime}
    (hrow : row ∈ db.outboxEvents) (hst : row.status = .pending) (hfresh : token ∉ minted) :
    Inv (update db (claimed row token now lease)) (log ++ [.claimed row.id token])
      (minted ++ [token]) := by
  have hended : ∀ t, Ended t (log ++ [.claimed row.id token]) ↔ Ended t log := by
    intro t
    rw [ended_append]
    simp [Ended]
  have hclaims : ∀ e, claims e (log ++ [.claimed row.id token]) =
      claims e log + if row.id = e then 1 else 0 := by
    intro e
    simp [claims, List.countP_append, List.countP_singleton]
  have hcompl : ∀ e, completions e (log ++ [.claimed row.id token]) = completions e log := by
    intro e
    simp [completions, List.countP_append]
  have hcases := fun r => @mem_update db (claimed row token now lease) row hrow rfl r
  have hnew : ∀ r ∈ db.outboxEvents, r.claimToken ≠ some token :=
    fun r hr ht => hfresh (h.known r hr token ht).1
  constructor
  · show ((put OutboxEvent.id db.outboxEvents _).map OutboxEvent.id).Nodup
    rw [map_key_put]
    exact h.ids
  · intro r hr
    rcases hcases r hr with rfl | ⟨hr, hne⟩
    · rw [hclaims]
      simp [claimed, h.counted row hrow]
    · rw [hclaims, if_neg hne.symm, Nat.add_zero]
      exact h.counted r hr
  · intro r hr hp
    rcases hcases r hr with rfl | ⟨hr, hne⟩
    · cases hp
    · exact h.waiting r hr hp
  · intro r hr
    rcases hcases r hr with rfl | ⟨hr, hne⟩
    · exact Nat.succ_le_succ (h.waiting row hrow hst)
    · exact h.bounded r hr
  · intro r hr hp
    rcases hcases r hr with rfl | ⟨hr, hne⟩
    · exact absurd rfl hp
    · exact h.held r hr hp
  · intro r hr t ht
    rw [hended]
    rcases hcases r hr with rfl | ⟨hr, hne⟩
    · have htok : token = t := Option.some.inj ht
      exact ⟨by simp [htok], fun hover => hfresh (htok ▸ h.ended t hover)⟩
    · exact ⟨List.mem_append_left _ (h.known r hr t ht).1, (h.known r hr t ht).2⟩
  · intro r hr r' hr' t ht ht'
    rcases hcases r hr with rfl | ⟨hr, hne⟩
    · have htok : token = t := Option.some.inj ht
      rcases hcases r' hr' with rfl | ⟨hr', -⟩
      · rfl
      · exact absurd (htok ▸ ht') (hnew r' hr')
    · rcases hcases r' hr' with rfl | ⟨hr', -⟩
      · have htok : token = t := Option.some.inj ht'
        exact absurd (htok ▸ ht) (hnew r hr)
      · exact h.apart r hr r' hr' t ht ht'
  · intro t ht
    exact List.mem_append_left _ (h.ended t ((hended t).mp ht))
  · intro r hr
    rw [hcompl]
    rcases hcases r hr with rfl | ⟨hr, hne⟩
    · have hs := h.sent row hrow
      rw [hst] at hs
      exact hs
    · exact h.sent r hr
  · intro r hr
    show letters db r.id = _
    rcases hcases r hr with rfl | ⟨hr, hne⟩
    · have hd := h.dead row hrow
      rw [hst] at hd
      exact hd
    · exact h.dead r hr

lemma inv_ended (h : Inv db log minted) {row row' : OutboxEvent} {ending : Ending} {db' : Database}
    (hrow : row ∈ db.outboxEvents) (hst : row.status = .processing)
    (hdb' : db'.outboxEvents = put OutboxEvent.id db.outboxEvents row') (hid : row'.id = row.id)
    (hcount : row'.attemptCount = row.attemptCount) (htok : row'.claimToken = none)
    (hpending : row'.status = .pending → row.attemptCount ≤ retryDelays.length)
    (hsent : row'.status = .sent ↔ ending = .sent)
    (hletters : ∀ e, letters db' e = letters db e +
      if e = row.id ∧ row'.status = .dead then 1 else 0) :
    Inv db' (log ++ [.ended ending row.id row.claimToken]) minted := by
  have hended : ∀ t, Ended t (log ++ [.ended ending row.id row.claimToken]) ↔
      Ended t log ∨ row.claimToken = some t := by
    intro t
    rw [ended_append]
    refine or_congr_right ?_
    simp [Ended, eq_comm]
  have hclaims : ∀ e, claims e (log ++ [.ended ending row.id row.claimToken]) = claims e log := by
    intro e
    simp [claims, List.countP_append]
  have hcompl : ∀ e, completions e (log ++ [.ended ending row.id row.claimToken]) =
      completions e log + if row.id = e ∧ ending = .sent then 1 else 0 := by
    intro e
    cases ending <;> simp [completions, List.countP_append, List.countP_singleton]
  have hcases : ∀ r ∈ db'.outboxEvents, r = row' ∨ (r ∈ db.outboxEvents ∧ r.id ≠ row.id) := by
    intro r hr
    rw [hdb'] at hr
    exact mem_update hrow hid hr
  constructor
  · rw [hdb', map_key_put]
    exact h.ids
  · intro r hr
    rw [hclaims]
    rcases hcases r hr with rfl | ⟨hr, -⟩
    · rw [hcount, hid]
      exact h.counted row hrow
    · exact h.counted r hr
  · intro r hr hp
    rcases hcases r hr with rfl | ⟨hr, -⟩
    · rw [hcount]
      exact hpending hp
    · exact h.waiting r hr hp
  · intro r hr
    rcases hcases r hr with rfl | ⟨hr, -⟩
    · rw [hcount]
      exact h.bounded row hrow
    · exact h.bounded r hr
  · intro r hr hp
    rcases hcases r hr with rfl | ⟨hr, -⟩
    · exact htok
    · exact h.held r hr hp
  · intro r hr t ht
    rcases hcases r hr with rfl | ⟨hr, hne⟩
    · rw [htok] at ht
      cases ht
    · refine ⟨(h.known r hr t ht).1, ?_⟩
      rw [hended]
      rintro (hover | hover)
      · exact (h.known r hr t ht).2 hover
      · exact hne (congrArg OutboxEvent.id (h.apart r hr row hrow t ht hover))
  · intro r hr r' hr' t ht ht'
    rcases hcases r hr with rfl | ⟨hr, -⟩
    · rw [htok] at ht
      cases ht
    · rcases hcases r' hr' with rfl | ⟨hr', -⟩
      · rw [htok] at ht'
        cases ht'
      · exact h.apart r hr r' hr' t ht ht'
  · intro t ht
    rcases (hended t).mp ht with hover | hover
    · exact h.ended t hover
    · exact (h.known row hrow t hover).1
  · intro r hr
    rw [hcompl]
    rcases hcases r hr with rfl | ⟨hr, hne⟩
    · have hs := h.sent row hrow
      rw [hst] at hs
      by_cases hend : ending = .sent
      · simp [hid, hs, hend, hsent.mpr hend]
      · simp [hid, hs, hend, mt hsent.mp hend]
    · simp [hne.symm, h.sent r hr]
  · intro r hr
    rw [hletters]
    rcases hcases r hr with rfl | ⟨hr, hne⟩
    · have hd := h.dead row hrow
      rw [hst] at hd
      simp [hid, hd]
    · simp [hne, h.dead r hr]

end

section

variable [Unicodedata]

/-- One step keeps the queue in order, provided it mints no used token. -/
lemma inv_apply {db : Database} {log : List Effect} {minted : List Uuid} (h : Inv db log minted)
    (s : Step) (hfresh : ∀ t, s.token = some t → t ∉ minted) :
    Inv (apply db s) (log ++ (effect db s).toList) (minted ++ s.token.toList) := by
  have hgrow : ∀ {db log}, Inv db log minted → Inv db log (minted ++ s.token.toList) := by
    intro db log h
    exact { h with
      known := fun row hrow t ht => ⟨List.mem_append_left _ (h.known row hrow t ht).1,
        (h.known row hrow t ht).2⟩
      ended := fun t ht => List.mem_append_left _ (h.ended t ht) }
  have hchange := change_apply db s
  generalize apply db s = db' at hchange ⊢
  generalize effect db s = eff at hchange ⊢
  cases hchange with
  | nothing => simpa using hgrow h
  | claim hrow hst htok =>
    rw [htok]
    exact inv_claim h hrow hst (hfresh _ htok)
  | complete hrow hst htok hlease hle =>
    rw [Option.toList_some, ← htok]
    refine hgrow (inv_ended h hrow hst rfl rfl rfl rfl (fun hp => ?_) (by simp [released]) ?_)
    · cases hp
    · exact fun e => by simp [letters, update, released]
  | retry hrow hst htok hlease hle hdelay =>
    rw [Option.toList_some, ← htok]
    refine hgrow (inv_ended h hrow hst rfl rfl rfl rfl (fun _ => lookup_retryDelays hdelay)
      (by simp [released]) ?_)
    exact fun e => by simp [letters, update, released]
  | dead hrow hst hrows hletters hzero =>
    rw [Option.toList_some]
    refine hgrow (inv_ended h hrow hst hrows rfl rfl rfl (fun hp => ?_) (by simp [released]) ?_)
    · cases hp
    · exact fun e => by simp [hletters, released]

lemma run_cons (db : Database) (s : Step) (steps : List Step) :
    run db (s :: steps) = run (apply db s) steps := rfl

lemma run_append (db : Database) (steps steps' : List Step) :
    run db (steps ++ steps') = run (run db steps) steps' := List.foldl_append

lemma history_append (db : Database) (steps steps' : List Step) :
    history db (steps ++ steps') = history db steps ++ history (run db steps) steps' := by
  induction steps generalizing db with
  | nil => rfl
  | cons s steps ih => rw [List.cons_append, history, history, ih, run_cons, List.append_assoc]

/-- A whole run keeps the queue in order when no token is minted twice. -/
lemma inv_run {db : Database} {log : List Effect} {minted : List Uuid} (h : Inv db log minted)
    (steps : List Step) (hfresh : (minted ++ steps.filterMap Step.token).Nodup) :
    Inv (run db steps) (log ++ history db steps) (minted ++ steps.filterMap Step.token) := by
  induction steps generalizing db log minted with
  | nil => simpa [history, run] using h
  | cons s steps ih =>
    have hsplit : minted ++ (s :: steps).filterMap Step.token =
        (minted ++ s.token.toList) ++ steps.filterMap Step.token := by
      cases ht : s.token <;> simp [ht]
    rw [hsplit] at hfresh ⊢
    have hstep := inv_apply h s (by
      intro t ht hmem
      rw [ht] at hfresh
      have := (List.nodup_append.mp (List.nodup_append.mp hfresh).1).2.2
      exact this t hmem t (by simp) rfl)
    have hrun := ih hstep hfresh
    rw [List.append_assoc] at hrun
    rw [run_cons, history]
    exact hrun

structure Initial (db : Database) : Prop where
  ids : (db.outboxEvents.map OutboxEvent.id).Nodup
  unclaimed : ∀ row ∈ db.outboxEvents, row.attemptCount = 0 ∧ row.claimToken = none ∧
    row.status ∉ [.processing, .sent, .dead]
  unlettered : db.deadLetterEvents = []

omit [Unicodedata] in
lemma inv_initial {db : Database} (h : Initial db) : Inv db [] [] := by
  constructor
  · exact h.ids
  · exact fun row hrow => (h.unclaimed row hrow).1
  · exact fun row hrow _ => by simp [(h.unclaimed row hrow).1]
  · exact fun row hrow => by simp [(h.unclaimed row hrow).1]
  · exact fun row hrow _ => (h.unclaimed row hrow).2.1
  · intro row hrow t ht
    rw [(h.unclaimed row hrow).2.1] at ht
    cases ht
  · intro row hrow row' _ t ht
    rw [(h.unclaimed row hrow).2.1] at ht
    cases ht
  · simp [Ended]
  · intro row hrow
    have := (h.unclaimed row hrow).2.2
    simp only [List.mem_cons, not_or] at this
    simp [completions, this.2.1]
  · intro row hrow
    have := (h.unclaimed row hrow).2.2
    simp only [List.mem_cons, not_or] at this
    simp [letters, h.unlettered, this.2.2.1]

lemma inv_from_initial {db : Database} (h : Initial db) {steps : List Step}
    (hfresh : (steps.filterMap Step.token).Nodup) :
    Inv (run db steps) (history db steps) (steps.filterMap Step.token) := by
  simpa using inv_run (inv_initial h) steps (by simpa using hfresh)

def event (db : Database) (eventId : Uuid) : Option OutboxEvent :=
  lookup OutboxEvent.id db.outboxEvents eventId

lemma event_apply {db : Database} (hn : (db.outboxEvents.map OutboxEvent.id).Nodup) (s : Step)
    {e : Uuid} {row : OutboxEvent} (hrow : event db e = some row) :
    event (apply db s) e = some row ∨
      (∃ row', event (apply db s) e = some row' ∧ row.status = .pending ∧ row'.status = .processing) ∨
      (∃ row' lease, event (apply db s) e = some row' ∧ row.status = .processing ∧
        row.leaseExpiresAt = some lease ∧ s.clock ≤ lease) ∨
      ∃ row', event (apply db s) e = some row' ∧ row.status = .processing ∧ row'.status = .dead := by
  have hchange := change_apply db s
  generalize apply db s = db' at hchange ⊢
  generalize effect db s = eff at hchange
  -- the row that a change writes stands where it found it
  have hput : ∀ {old new : OutboxEvent}, old ∈ db.outboxEvents →
      db'.outboxEvents = put OutboxEvent.id db.outboxEvents new → new.id = old.id →
      event db' e = some row ∨ (old = row ∧ event db' e = some new) := by
    intro old new hold hrows hid
    have hlook := lookup_of_mem hn hold
    by_cases he : old.id = e
    · right
      have heq : old = row := by
        rw [event, ← he, hlook] at hrow
        exact Option.some.inj hrow
      refine ⟨heq, ?_⟩
      rw [event, hrows, ← he, ← hid]
      exact lookup_put_same (hid ▸ hlook)
    · left
      rw [event, hrows, lookup_put_ne _ (hid ▸ he)]
      exact hrow
  cases hchange with
  | nothing => exact .inl hrow
  | @claim old token now lease hold hst _ =>
    rcases @hput old (claimed old token now lease) hold rfl rfl with h | ⟨rfl, h⟩
    · exact .inl h
    · exact .inr (.inl ⟨_, h, hst, rfl⟩)
  | @complete old token lease sentAt hold hst _ hlease hle =>
    rcases @hput old { released old .sent with sentAt := some sentAt } hold rfl rfl with h | ⟨rfl, h⟩
    · exact .inl h
    · exact .inr (.inr (.inl ⟨_, _, h, hst, hlease, hle⟩))
  | @retry old token lease availableAt delay reason hold hst _ hlease hle _ =>
    rcases @hput old { released old .pending with
      availableAt := availableAt, heldReason := some reason } hold rfl rfl with h | ⟨rfl, h⟩
    · exact .inl h
    · exact .inr (.inr (.inl ⟨_, _, h, hst, hlease, hle⟩))
  | dead hold hst hrows _ _ =>
    rcases hput hold hrows rfl with h | ⟨rfl, h⟩
    · exact .inl h
    · exact .inr (.inr (.inr ⟨_, h, hst, rfl⟩))

lemma ids_apply {db : Database} (hn : (db.outboxEvents.map OutboxEvent.id).Nodup) (s : Step) :
    ((apply db s).outboxEvents.map OutboxEvent.id).Nodup := by
  have hput : ∀ row, ((put OutboxEvent.id db.outboxEvents row).map OutboxEvent.id).Nodup := by
    intro row
    rw [map_key_put]
    exact hn
  have hchange := change_apply db s
  generalize apply db s = db' at hchange ⊢
  generalize effect db s = eff at hchange
  cases hchange with
  | nothing => exact hn
  | claim => exact hput _
  | complete => exact hput _
  | retry => exact hput _
  | dead _ _ hrows _ _ =>
    rw [hrows]
    exact hput _

lemma event_run_final {db : Database} (hn : (db.outboxEvents.map OutboxEvent.id).Nodup)
    (steps : List Step) {e : Uuid} {row : OutboxEvent} (hrow : event db e = some row)
    (hst : row.status = .sent ∨ row.status = .dead) : event (run db steps) e = some row := by
  induction steps generalizing db with
  | nil => exact hrow
  | cons s steps ih =>
    refine ih (ids_apply hn s) ?_
    rcases event_apply hn s hrow with h | ⟨_, -, h, -⟩ | ⟨_, _, -, h, -⟩ | ⟨_, -, h, -⟩
    · exact h
    all_goals rcases hst with hst | hst <;> rw [hst] at h <;> cases h

/-- An event whose lease is over by the database clock `c` waits for the dead
letter, or has it. -/
def Lapsed (c : Int) (e : Uuid) (db : Database) : Prop :=
  ∃ row, event db e = some row ∧ (row.status = .dead ∨
    (row.status = .processing ∧ ∃ lease, row.leaseExpiresAt = some lease ∧ lease < c))

lemma lapsed_run {db : Database} (hn : (db.outboxEvents.map OutboxEvent.id).Nodup)
    {steps : List Step} {c : Int} (hclock : ∀ s ∈ steps, c ≤ s.clock) {e : Uuid}
    (h : Lapsed c e db) : Lapsed c e (run db steps) := by
  induction steps generalizing db with
  | nil => exact h
  | cons s steps ih =>
    refine ih (ids_apply hn s) (fun s' hs' => hclock s' (List.mem_cons_of_mem _ hs')) ?_
    obtain ⟨row, hrow, hst⟩ := h
    have hc := hclock s List.mem_cons_self
    rcases event_apply hn s hrow with h | ⟨_, -, hp, -⟩ | ⟨_, lease, -, hp, hl, hle⟩ |
      ⟨row', h, -, hd⟩
    · exact ⟨row, h, hst⟩
    · rcases hst with hst | ⟨hst, -⟩ <;> rw [hst] at hp <;> cases hp
    · rcases hst with hst | ⟨-, lease', hl', hlt⟩
      · rw [hst] at hp
        cases hp
      · rw [hl] at hl'
        cases hl'
        omega
    · exact ⟨row', h, .inl hd⟩

/-- The token is good for the event: some call completes or retries under it. -/
def Accepts (db : Database) (eventId token : Uuid) (clock : Int) : Prop :=
  (∃ role completedAt, (completeInternal db eventId token role completedAt clock).1 = .ok ⟨⟩) ∨
  ∃ role errorClass retryable now letterId disposition, (retryOrDeadLetterInternal db eventId token
    role errorClass retryable now letterId clock).1 = .ok disposition

lemma accepts_leased {db : Database} {e t : Uuid} {c : Int} (h : Accepts db e t c) :
    ∃ row, leased db e t c = some row := by
  rcases h with ⟨role, completedAt, h⟩ | ⟨role, errorClass, retryable, now, letterId, d, h⟩
  · obtain ⟨db', h⟩ := atomically_fst_ok h
    simp only [bind_ok] at h
    obtain ⟨-, -, h⟩ := h
    split at h
    · cases h
    · next row hl => exact ⟨row, hl⟩
  · obtain ⟨db', h⟩ := atomically_fst_ok h
    simp only [bind_ok] at h
    obtain ⟨-, -, -, -, h⟩ := h
    split at h
    · cases h
    · next row hl => exact ⟨row, hl⟩

lemma accepts_token {db : Database} {e t : Uuid} {c : Int} (h : Accepts db e t c) :
    ∃ row ∈ db.outboxEvents, row.id = e ∧ row.claimToken = some t := by
  obtain ⟨row, hrow⟩ := accepts_leased h
  obtain ⟨hmem, hid, -, htok, -⟩ := leased_spec hrow
  exact ⟨row, hmem, hid, htok⟩

/-- For every interleaving of the workers' calls under a database clock that does
not go back and fresh tokens: one token at most is good for an event, an ended one
never again; an event is sent once at most, and stays sent or dead; a lapsed claim
never makes its event pending again; the attempts are the claims, one more than the
delays at most; and the dead events are those with exactly one letter. -/
theorem outbox_exclusive {db : Database} (hdb : Initial db) {steps : List Step}
    (hclock : (steps.map Step.clock).Pairwise (· ≤ ·))
    (hfresh : (steps.filterMap Step.token).Nodup) :
    (∀ e t t' c c', Accepts (run db steps) e t c → Accepts (run db steps) e t' c' → t = t') ∧
    (∀ pre post t, steps = pre ++ post → Ended t (history db pre) →
      ∀ e c, ¬ Accepts (run db steps) e t c) ∧
    (∀ row ∈ (run db steps).outboxEvents, completions row.id (history db steps) ≤ 1) ∧
    (∀ pre post e row, steps = pre ++ post → event (run db pre) e = some row →
      row.status = .sent ∨ row.status = .dead → event (run db steps) e = some row) ∧
    (∀ pre s post e row lease, steps = pre ++ s :: post → event (run db pre) e = some row →
      row.status = .processing → row.leaseExpiresAt = some lease → lease < s.clock →
      ∀ row', event (run db steps) e = some row' → row'.status ≠ .pending) ∧
    (∀ row ∈ (run db steps).outboxEvents, row.attemptCount = claims row.id (history db steps) ∧
      row.attemptCount ≤ retryDelays.length + 1) ∧
    (∀ row ∈ (run db steps).outboxEvents,
      row.status = .dead ↔ letters (run db steps) row.id = 1) := by
  have hinv := inv_from_initial hdb hfresh
  have hids : ∀ pre post, steps = pre ++ post →
      ((run db pre).outboxEvents.map OutboxEvent.id).Nodup := by
    intro pre post hsteps
    rw [hsteps, List.filterMap_append] at hfresh
    exact (inv_from_initial hdb (List.nodup_append.mp hfresh).1).ids
  refine ⟨?_, ?_, ?_, ?_, ?_, ?_, ?_⟩
  · intro e t t' c c' h h'
    obtain ⟨row, hmem, hid, htok⟩ := accepts_token h
    obtain ⟨row', hmem', hid', htok'⟩ := accepts_token h'
    rw [eq_of_id hinv hmem hmem' (hid.trans hid'.symm), htok'] at htok
    exact (Option.some.inj htok).symm
  · intro pre post t hsteps hended e c h
    obtain ⟨row, hmem, -, htok⟩ := accepts_token h
    refine (hinv.known row hmem t htok).2 ?_
    rw [hsteps, history_append]
    exact ended_append.mpr (.inl hended)
  · intro row hrow
    rw [hinv.sent row hrow]
    split <;> omega
  · intro pre post e row hsteps hrow hst
    rw [hsteps, run_append]
    exact event_run_final (hids pre post hsteps) post hrow hst
  · intro pre s post e row lease hsteps hrow hst hlease hlt row' hrow' hpending
    have hlater : ∀ s' ∈ s :: post, s.clock ≤ s'.clock := by
      rw [hsteps, List.map_append, List.pairwise_append, List.map_cons, List.pairwise_cons] at hclock
      intro s' hs'
      rcases List.mem_cons.mp hs' with rfl | hs'
      · exact le_refl _
      · exact hclock.2.1.1 _ (List.mem_map_of_mem hs')
    have hlapsed := lapsed_run (hids pre (s :: post) hsteps) hlater
      ⟨row, hrow, .inr ⟨hst, lease, hlease, hlt⟩⟩
    rw [← run_append, ← hsteps] at hlapsed
    obtain ⟨row'', hrow'', hst''⟩ := hlapsed
    rw [hrow'] at hrow''
    cases hrow''
    rcases hst'' with hst'' | ⟨hst'', -⟩ <;> rw [hpending] at hst'' <;> cases hst''
  · exact fun row hrow => ⟨hinv.counted row hrow, hinv.bounded row hrow⟩
  · intro row hrow
    rw [hinv.dead row hrow]
    by_cases hd : row.status = .dead <;> simp [hd]

end

def pendingEvent : OutboxEvent where
  id := ⟨7⟩
  aggregateType := "ORDER"
  aggregateId := ⟨8⟩
  eventType := "order.requested.v1"
  payload := .obj []
  idempotencyKey := "order-8"
  correlationId := ⟨9⟩
  occurredAt := 0
  availableAt := 0
  status := .pending
  attemptCount := 0
  sentAt := none
  heldReason := none
  claimToken := none
  claimedAt := none
  leaseExpiresAt := none
  traceparent := none
  tracestate := none

def queue : Database := ⟨[pendingEvent], [], [], []⟩

def completedRun : List Step :=
  [.claim .outboxWorker (Datetime.ofUtc 0 Datetime.zero_lt_wallLimit) ⟨1⟩ [] 0,
   .complete ⟨7⟩ ⟨1⟩ .outboxWorker (Datetime.ofUtc 1 (by decide)) 1]

/-- Its token is good once claimed, and no longer once the event is sent. -/
theorem outbox_exclusive_completed :
    letI := normalizedText
    Accepts (run queue (completedRun.take 1)) ⟨7⟩ ⟨1⟩ 1 ∧ Ended ⟨1⟩ (history queue completedRun) ∧
      (∀ c, ¬ Accepts (run queue completedRun) ⟨7⟩ ⟨1⟩ c) ∧
      ∀ row ∈ (run queue completedRun).outboxEvents, row.attemptCount =
        claims row.id (history queue completedRun) := by
  let _ := normalizedText
  have hqueue : Initial queue := ⟨by decide, by simp [queue, pendingEvent], rfl⟩
  have hended : Ended ⟨1⟩ (history queue completedRun) := ⟨.sent, ⟨7⟩, by decide⟩
  have hgood : (completeInternal (run queue (completedRun.take 1)) ⟨7⟩ ⟨1⟩ .outboxWorker
      (Datetime.ofUtc 1 (by decide)) 1).1 = .ok ⟨⟩ := by decide
  obtain ⟨-, hover, -, -, -, hcount, -⟩ := outbox_exclusive hqueue
    (by decide : (completedRun.map Step.clock).Pairwise (· ≤ ·)) (by decide)
  refine ⟨.inl ⟨_, _, hgood⟩, hended, fun c => ?_, fun row hrow => (hcount row hrow).1⟩
  exact hover completedRun [] ⟨1⟩ (List.append_nil _).symm hended ⟨7⟩ c

end NhaTrangLaundry.Db.Outbox
