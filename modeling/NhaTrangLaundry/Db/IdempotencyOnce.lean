import NhaTrangLaundry.Db.Idempotency

/-! A material command takes effect at most once for each key, whatever calls
surround it. -/

namespace NhaTrangLaundry.Db.Idempotency

open Lib Outcome Domain Canonical
open Text (storable)

section

variable {W E : Type} [Unicodedata] {hashKey : List Nat}

/-- Every row carries its response: the claim and the response commit together. -/
def Complete (records : List IdempotencyRecord) : Prop :=
  ∀ row ∈ records, ∃ fields, row.response = some (.obj fields)

def Committed (out : Except (Failure E) IdempotentResult) : Prop :=
  ∃ r, out = .ok r ∧ r.replayed = false

instance (out : Except (Failure E) IdempotentResult) : Decidable (Committed out) :=
  match out with
  | .ok r => decidable_of_iff (r.replayed = false) (by simp [Committed])
  | .error _ => isFalse (by simp [Committed])

def SameKey (a b : IdempotentCommand) : Prop :=
  Text.strip a.scope = Text.strip b.scope ∧ Text.strip a.key = Text.strip b.key

def DigestTells (hashKey : List Nat) (calls : List (Call W E)) : Prop :=
  ∀ x ∈ calls, ∀ y ∈ calls, ∀ a b, canonicalDocument x.command.payload true = .ok a →
    canonicalDocument y.command.payload true = .ok b →
    Hashing.hmacSha256 hashKey a.canonicalJson = Hashing.hmacSha256 hashKey b.canonicalJson →
    a.canonicalJson = b.canonicalJson

def Succeeds (c : Call W E) (db : Database W) : Prop :=
  ∃ rest mapping document fields stored, c.executor db.rest = .ok (rest, mapping) ∧
    canonicalDocument mapping true = .ok document ∧
    Json.loads document.canonicalJson = some (.obj fields) ∧
    Json.toJsonb document.canonicalJson = some stored

omit [Unicodedata] in
lemma requiredText_ok {value field s : String} :
    (requiredText value field : Except (Failure E) String) = .ok s ↔
      s = Text.strip value ∧ s ≠ "" ∧ s.toList.length ≤ 300 := by
  simp only [requiredText, bind_ok, require_ok]
  constructor
  · rintro ⟨-, h, hs⟩
    cases hs
    exact ⟨rfl, h⟩
  · rintro ⟨rfl, h⟩
    exact ⟨(), h, rfl⟩

lemma prepare_ok {command : IdempotentCommand} {p : Prepared} :
    (prepare hashKey command : Except (Failure E) Prepared) = .ok p ↔
      (requiredText command.scope "idempotency scope" : Except (Failure E) String) = .ok p.scope ∧
      (requiredText command.key "idempotency key" : Except (Failure E) String) = .ok p.key ∧
      canonicalDocument command.payload true = .ok p.request ∧
      minimumKeyBytes ≤ hashKey.length ∧
      p.requestHash = requestPrefix ++ Hashing.hmacSha256 hashKey p.request.canonicalJson := by
  simp only [prepare, requestDigest, bind_ok, mapError_ok, require_ok]
  constructor
  · rintro ⟨s, hs, k, hk, d, hd, h, ⟨-, hlen, hh⟩, hp⟩
    cases hh
    cases hp
    exact ⟨hs, hk, hd, hlen, rfl⟩
  · rintro ⟨hs, hk, hd, hlen, hh⟩
    exact ⟨_, hs, _, hk, _, hd, _, ⟨(), hlen, rfl⟩, by rw [← hh]⟩

omit [Unicodedata] in
lemma complete_claimed {records : List IdempotencyRecord} {claim : IdempotencyRecord}
    (hc : Complete records) (hclaim : claim.response = none) (response : Json) (t : Datetime) :
    complete (records ++ [claim]) claim.scope claim.idempotencyKey response t =
      some (records ++ [{ claim with response := some response, completedAt := some t }]) := by
  have hnames : names claim.scope claim.idempotencyKey claim = true := by simp [names]
  have hold : ∀ row ∈ records, row.response.isNone = false := by
    intro row hrow
    obtain ⟨fields, hf⟩ := hc row hrow
    simp [hf]
  have hkeep : (records.map fun row =>
      if names claim.scope claim.idempotencyKey row && row.response.isNone then
        { row with response := some response, completedAt := some t } else row) = records := by
    refine (List.map_congr_left fun row hrow => ?_).trans (List.map_id records)
    simp [hold row hrow]
  rw [complete, if_pos (by simp [hnames, hclaim]), List.map_append, hkeep]
  simp [hnames, hclaim]

lemma commit_ok {p : Prepared} {c : Call W E} {db db' : Database W} {r : IdempotentResult}
    (hdb : Complete db.records) :
    commit p c db = .ok (r, db') ↔
      ∃ rest mapping document fields stored, c.executor db.rest = .ok (rest, mapping) ∧
        canonicalDocument mapping true = .ok document ∧
        Json.loads document.canonicalJson = some (.obj fields) ∧
        Json.toJsonb document.canonicalJson = some stored ∧
        r = ⟨.obj fields, false, p.requestHash⟩ ∧
        db' = ⟨db.records ++ [⟨p.scope, p.key, p.requestHash, some stored,
          c.command.occurredAt.getD c.now, some (c.command.occurredAt.getD c.now)⟩], rest⟩ := by
  have hcomplete := @complete_claimed _
    ⟨p.scope, p.key, p.requestHash, none, c.command.occurredAt.getD c.now, none⟩ hdb rfl
  simp only [commit, bind_ok, mapError_ok]
  constructor
  · rintro ⟨⟨rest, mapping⟩, hx, document, hd, h⟩
    split at h
    · next fields hf =>
      split at h
      · cases h
      · next stored hs =>
        rw [hcomplete] at h
        cases h
        exact ⟨rest, mapping, document, fields, stored, hx, hd, hf, hs, rfl, rfl⟩
    · cases h
  · rintro ⟨rest, mapping, document, fields, stored, hx, hd, hf, hs, rfl, rfl⟩
    refine ⟨(rest, mapping), hx, document, hd, ?_⟩
    simp only [hf, hs, hcomplete]

lemma execute_eq {db : Database W} {c : Call W E} {p : Prepared}
    (hp : (prepare hashKey c.command : Except (Failure E) Prepared) = .ok p) :
    execute hashKey db c = atomically db (transaction p c db) := by
  simp only [execute, hp, ok_bind]

lemma execute_recorded {db : Database W} {c : Call W E} {p : Prepared} {row : IdempotencyRecord}
    (hp : (prepare hashKey c.command : Except (Failure E) Prepared) = .ok p)
    (hs : storable p.scope ∧ storable p.key)
    (hrow : db.records.find? (names p.scope p.key) = some row) :
    execute hashKey db c = (replay p row, db) := by
  rw [execute_eq hp, transaction, require_true hs, ok_bind, hrow]
  dsimp only
  cases replay p row <;> rfl

lemma execute_unrecorded {db : Database W} {c : Call W E} {p : Prepared}
    (hp : (prepare hashKey c.command : Except (Failure E) Prepared) = .ok p)
    (hs : storable p.scope ∧ storable p.key)
    (hrow : db.records.find? (names p.scope p.key) = none) :
    execute hashKey db c = atomically db (commit p c db) := by
  rw [execute_eq hp, transaction, require_true hs, ok_bind, hrow]

omit [Unicodedata] in
lemma replay_replayed {p : Prepared} {row : IdempotencyRecord} {r : IdempotentResult}
    (h : (replay p row : Except (Failure E) IdempotentResult) = .ok r) : r.replayed = true := by
  simp only [replay, bind_ok, require_ok] at h
  obtain ⟨-, -, h⟩ := h
  split at h
  · cases h
    rfl
  · cases h

lemma execute_cases (hashKey : List Nat) {db : Database W} (hdb : Complete db.records) (c : Call W E) :
    (¬ Committed (execute hashKey db c).1 ∧ (execute hashKey db c).2 = db) ∨
      ∃ p rest mapping document fields stored,
        (prepare hashKey c.command : Except (Failure E) Prepared) = .ok p ∧
        (storable p.scope ∧ storable p.key) ∧
        db.records.find? (names p.scope p.key) = none ∧
        c.executor db.rest = .ok (rest, mapping) ∧
        canonicalDocument mapping true = .ok document ∧
        Json.loads document.canonicalJson = some (.obj fields) ∧
        Json.toJsonb document.canonicalJson = some stored ∧
        execute hashKey db c = (.ok ⟨.obj fields, false, p.requestHash⟩,
          ⟨db.records ++ [⟨p.scope, p.key, p.requestHash, some stored,
            c.command.occurredAt.getD c.now, some (c.command.occurredAt.getD c.now)⟩], rest⟩) := by
  cases hp : (prepare hashKey c.command : Except (Failure E) Prepared) with
  | error e =>
    left
    simp [execute, hp, Committed, atomically]
  | ok p =>
    by_cases hs : storable p.scope ∧ storable p.key
    · cases hrow : db.records.find? (names p.scope p.key) with
      | some row =>
        left
        rw [execute_recorded hp hs hrow]
        refine ⟨?_, rfl⟩
        rintro ⟨r, hr, hfalse⟩
        rw [replay_replayed hr] at hfalse
        cases hfalse
      | none =>
        rw [execute_unrecorded hp hs hrow]
        cases hcommit : commit p c db with
        | error e =>
          left
          simp [Committed, atomically]
        | ok out =>
          right
          obtain ⟨r, db'⟩ := out
          obtain ⟨rest, mapping, document, fields, stored, hx, hd, hf, hst, rfl, rfl⟩ :=
            (commit_ok hdb).mp hcommit
          exact ⟨p, rest, mapping, document, fields, stored, rfl, hs, hrow, hx, hd, hf, hst, rfl⟩
    · left
      rw [execute_eq hp, transaction, require_false hs]
      simp [Committed, atomically]

lemma execute_keeps (hashKey : List Nat) {db : Database W} (hdb : Complete db.records) (c : Call W E) :
    Complete (execute hashKey db c).2.records ∧
      ∀ p row, db.records.find? p = some row →
        (execute hashKey db c).2.records.find? p = some row := by
  rcases execute_cases hashKey hdb c with ⟨-, h⟩ |
    ⟨p, rest, mapping, document, fields, stored, -, -, -, -, -, hf, hs, h⟩
  · rw [h]
    exact ⟨hdb, fun _ _ => id⟩
  · rw [h]
    refine ⟨?_, ?_⟩
    · intro row hrow
      rw [List.mem_append, List.mem_singleton] at hrow
      rcases hrow with hrow | rfl
      · exact hdb row hrow
      · obtain ⟨fields', rfl⟩ := Json.toJsonb_obj hf hs
        exact ⟨fields', rfl⟩
    · intro q row hrow
      rw [List.find?_append, hrow, Option.some_or]

lemma after_append (db : Database W) (calls calls' : List (Call W E)) :
    after hashKey db (calls ++ calls') = after hashKey (after hashKey db calls) calls' :=
  List.foldl_append

lemma after_keeps (hashKey : List Nat) {db : Database W} (hdb : Complete db.records) (calls : List (Call W E)) :
    Complete (after hashKey db calls).records ∧
      ∀ p row, db.records.find? p = some row →
        (after hashKey db calls).records.find? p = some row := by
  induction calls generalizing db with
  | nil => exact ⟨hdb, fun _ _ => id⟩
  | cons c calls ih =>
    obtain ⟨hone, hkeep⟩ := execute_keeps hashKey hdb c
    obtain ⟨hall, hkeep'⟩ := ih hone
    exact ⟨hall, fun p row hrow => hkeep' p row (hkeep p row hrow)⟩

lemma prepare_sameKey {a b : IdempotentCommand} {p q : Prepared} (h : SameKey a b)
    (hp : (prepare hashKey a : Except (Failure E) Prepared) = .ok p)
    (hq : (prepare hashKey b : Except (Failure E) Prepared) = .ok q) :
    p.scope = q.scope ∧ p.key = q.key := by
  obtain ⟨hps, hpk, -⟩ := prepare_ok.mp hp
  obtain ⟨hqs, hqk, -⟩ := prepare_ok.mp hq
  rw [requiredText_ok] at hps hpk hqs hqk
  exact ⟨by rw [hps.1, hqs.1, h.1], by rw [hpk.1, hqk.1, h.2]⟩

lemma prepare_of_sameKey {a b : IdempotentCommand} {p : Prepared} {d : CanonicalDocument}
    (h : SameKey b a) (hp : (prepare hashKey a : Except (Failure E) Prepared) = .ok p)
    (hd : canonicalDocument b.payload true = .ok d) :
    (prepare hashKey b : Except (Failure E) Prepared) = .ok ⟨p.scope, p.key, d,
      requestPrefix ++ Hashing.hmacSha256 hashKey d.canonicalJson⟩ := by
  obtain ⟨hs, hk, -, hlen, -⟩ := prepare_ok.mp hp
  rw [requiredText_ok] at hs hk
  exact prepare_ok.mpr ⟨requiredText_ok.mpr ⟨hs.1.trans h.1.symm, hs.2⟩,
    requiredText_ok.mpr ⟨hk.1.trans h.2.symm, hk.2⟩, hd, hlen, rfl⟩

lemma committed_row {db : Database W} (hdb : Complete db.records) {c : Call W E}
    (hc : Committed (execute hashKey db c).1) (mid : List (Call W E)) :
    ∃ p row r fields, (prepare hashKey c.command : Except (Failure E) Prepared) = .ok p ∧
      (storable p.scope ∧ storable p.key) ∧ row.requestHash = p.requestHash ∧
      (execute hashKey db c).1 = .ok r ∧ r.requestHash = p.requestHash ∧
      row.response = some (.obj fields) ∧ Json.Same (.obj fields) r.response ∧
      (after hashKey db (c :: mid)).records.find? (names p.scope p.key) = some row := by
  have hkeep := execute_keeps hashKey hdb c
  rcases execute_cases hashKey hdb c with ⟨hn, -⟩ |
    ⟨p, rest, mapping, document, fields, stored, hp, hs, hnone, -, -, hf, hst, h⟩
  · exact absurd hc hn
  · obtain ⟨fields', rfl⟩ := Json.toJsonb_obj hf hst
    refine ⟨p, ⟨p.scope, p.key, p.requestHash, some (.obj fields'),
      c.command.occurredAt.getD c.now, some (c.command.occurredAt.getD c.now)⟩,
      ⟨.obj fields, false, p.requestHash⟩, fields', hp, hs, rfl, by rw [h], rfl, rfl,
      (Json.toJsonb_same hf hst).2, ?_⟩
    refine (after_keeps hashKey hkeep.1 mid).2 _ _ ?_
    rw [h, List.find?_append, hnone, Option.none_or, List.find?_cons]
    simp [names]

omit [Unicodedata] in
lemma prefixed_inj {a b : String} (h : requestPrefix ++ a = requestPrefix ++ b) : a = b := by
  have hl := congrArg String.toList h
  rw [String.toList_append, String.toList_append] at hl
  exact String.toList_injective (List.append_cancel_left hl)

lemma execute_later {db : Database W} (hdb : Complete db.records) {c d : Call W E}
    {mid : List (Call W E)} (hc : Committed (execute hashKey db c).1)
    (hkey : SameKey d.command c.command) {dd : CanonicalDocument}
    (hd : canonicalDocument d.command.payload true = .ok dd)
    (hdigest : DigestTells hashKey [c, d]) :
    (canonicalDocument c.command.payload true = .ok dd → ∃ r r', (execute hashKey db c).1 = .ok r ∧
      (execute hashKey (after hashKey db (c :: mid)) d).1 = .ok r' ∧ r'.replayed = true ∧
      r'.requestHash = r.requestHash ∧ Json.Same r'.response r.response) ∧
    (canonicalDocument c.command.payload true ≠ .ok dd →
      (execute hashKey (after hashKey db (c :: mid)) d).1 = .error .idempotencyConflict) := by
  obtain ⟨p, row, r, fields, hp, hs, hhash, hr, hrh, hresp, hsame, hrow⟩ := committed_row hdb hc mid
  obtain ⟨-, -, hpd, -, hph⟩ := prepare_ok.mp hp
  have hq := prepare_of_sameKey hkey hp hd
  have hexec := execute_recorded (c := d) hq hs hrow
  rw [hexec]
  constructor
  · intro hsamedoc
    rw [hpd] at hsamedoc
    cases hsamedoc
    refine ⟨r, ⟨.obj fields, true, p.requestHash⟩, hr, ?_, rfl, hrh.symm, hsame⟩
    simp only [replay, hresp]
    rw [require_true (hhash.trans hph), ok_bind, ← hph]
  · intro hdiff
    have hne : row.requestHash ≠ requestPrefix ++ Hashing.hmacSha256 hashKey dd.canonicalJson := by
      intro heq
      rw [hhash, hph] at heq
      have hbytes := hdigest c (by simp) d (by simp) _ _ hpd hd (prefixed_inj heq)
      obtain ⟨j, t, -, -, ht⟩ := canonicalDocument_ok.mp hpd
      obtain ⟨j', t', -, -, ht'⟩ := canonicalDocument_ok.mp hd
      refine hdiff (hpd.trans (congrArg _ ?_))
      rw [ht, ht'] at hbytes ⊢
      exact congrArg documentOf hbytes
    simp only [replay]
    rw [require_false hne, error_bind]

lemma prepare_ne_executor {command : IdempotentCommand} {e : E} :
    (prepare hashKey command : Except (Failure E) Prepared) ≠ .error (.executor e) := by
  intro h
  simp [prepare, requiredText, requestDigest, bind_error] at h

/-- Only the row of a raised executor's own key could have stopped it, and there is
none: the call leaves no trace and a retry runs. -/
lemma execute_retry {db : Database W} (hdb : Complete db.records) {c : Call W E} {e : E}
    (hc : (execute hashKey db c).1 = .error (.executor e)) :
    (execute hashKey db c).2 = db ∧
      (∀ row ∈ db.records, ¬ (row.scope = Text.strip c.command.scope ∧
        row.idempotencyKey = Text.strip c.command.key)) ∧
      ∀ retry : Call W E, SameKey retry.command c.command →
        (∃ q, canonicalDocument retry.command.payload true = .ok q) → Succeeds retry db →
        Committed (execute hashKey (execute hashKey db c).2 retry).1 := by
  have hstate : (execute hashKey db c).2 = db := by
    rcases execute_cases hashKey hdb c with ⟨-, h⟩ |
      ⟨_, _, _, _, _, _, -, -, -, -, -, -, -, h⟩
    · exact h
    · rw [h] at hc
      cases hc
  cases hp : (prepare hashKey c.command : Except (Failure E) Prepared) with
  | error e' =>
    simp only [execute, hp, error_bind, atomically, Except.error.injEq] at hc
    subst hc
    exact absurd hp prepare_ne_executor
  | ok p =>
    by_cases hs : storable p.scope ∧ storable p.key
    · obtain ⟨hscope, hkey, -⟩ := prepare_ok.mp hp
      rw [requiredText_ok] at hscope hkey
      cases hrow : db.records.find? (names p.scope p.key) with
      | some row =>
        exfalso
        rw [execute_recorded hp hs hrow] at hc
        simp only [replay, require] at hc
        split_ifs at hc
        · rw [ok_bind] at hc
          split at hc <;> simp at hc
        · simp at hc
      | none =>
        refine ⟨hstate, ?_, ?_⟩
        · intro row hmem hnames
          rw [← hscope.1, ← hkey.1] at hnames
          have := List.find?_eq_none.mp hrow row hmem
          simp [names, hnames.1, hnames.2] at this
        · rintro retry hsame ⟨q, hq⟩ ⟨rest, mapping, document, fields, stored, hx, hd, hf, hst⟩
          have hprep := prepare_of_sameKey hsame hp hq
          rw [hstate, execute_unrecorded (c := retry) hprep hs hrow,
            (commit_ok hdb).mpr ⟨rest, mapping, document, fields, stored, hx, hd, hf, hst, rfl, rfl⟩]
          exact ⟨_, rfl, rfl⟩
    · exfalso
      rw [execute_eq hp, transaction, require_false hs] at hc
      simp [atomically] at hc

lemma digestTells_mono {calls calls' : List (Call W E)} (h : DigestTells hashKey calls)
    (hsub : ∀ x ∈ calls', x ∈ calls) : DigestTells hashKey calls' :=
  fun x hx y hy => h x (hsub x hx) y (hsub y hy)

/-- In any serialised sequence of calls: once a call on a key has committed, every
later call on the key changes nothing, replays the committed response for the same
canonical request and conflicts for another; a call that does not commit changes
nothing; and one whose executor raised leaves no record in the way of a retry. -/
theorem execute_at_most_once {db : Database W} (hdb : Complete db.records)
    {calls : List (Call W E)} (hdigest : DigestTells hashKey calls) :
    (∀ pre c mid d post, calls = pre ++ c :: (mid ++ d :: post) →
      Committed (execute hashKey (after hashKey db pre) c).1 → SameKey d.command c.command →
      ¬ Committed (execute hashKey (after hashKey db (pre ++ c :: mid)) d).1 ∧
      (execute hashKey (after hashKey db (pre ++ c :: mid)) d).2 =
        after hashKey db (pre ++ c :: mid) ∧
      ∀ dd, canonicalDocument d.command.payload true = .ok dd →
        (canonicalDocument c.command.payload true = .ok dd →
          ∃ r r', (execute hashKey (after hashKey db pre) c).1 = .ok r ∧
            (execute hashKey (after hashKey db (pre ++ c :: mid)) d).1 = .ok r' ∧
            r'.replayed = true ∧ r'.requestHash = r.requestHash ∧
            Json.Same r'.response r.response) ∧
        (canonicalDocument c.command.payload true ≠ .ok dd →
          (execute hashKey (after hashKey db (pre ++ c :: mid)) d).1 =
            .error .idempotencyConflict)) ∧
    (∀ pre c post, calls = pre ++ c :: post →
      ¬ Committed (execute hashKey (after hashKey db pre) c).1 →
      (execute hashKey (after hashKey db pre) c).2 = after hashKey db pre) ∧
    (∀ pre c post e, calls = pre ++ c :: post →
      (execute hashKey (after hashKey db pre) c).1 = .error (.executor e) →
      (execute hashKey (after hashKey db pre) c).2 = after hashKey db pre ∧
      (∀ row ∈ (after hashKey db pre).records, ¬ (row.scope = Text.strip c.command.scope ∧
        row.idempotencyKey = Text.strip c.command.key)) ∧
      ∀ retry : Call W E, SameKey retry.command c.command →
        (∃ q, canonicalDocument retry.command.payload true = .ok q) →
        Succeeds retry (after hashKey db pre) →
        Committed (execute hashKey (execute hashKey (after hashKey db pre) c).2 retry).1) := by
  have hstate : ∀ pre : List (Call W E), Complete (after hashKey db pre).records :=
    fun pre => (after_keeps hashKey hdb pre).1
  refine ⟨?_, ?_, ?_⟩
  · intro pre c mid d post hcalls hc hkey
    have hnow : after hashKey db (pre ++ c :: mid) =
        after hashKey (after hashKey db pre) (c :: mid) := after_append db pre (c :: mid)
    obtain ⟨p, row, r, fields, hp, hs, -, -, -, -, -, hrow⟩ := committed_row (hstate pre) hc mid
    have hnot : ¬ Committed (execute hashKey (after hashKey db (pre ++ c :: mid)) d).1 ∧
        (execute hashKey (after hashKey db (pre ++ c :: mid)) d).2 =
          after hashKey db (pre ++ c :: mid) := by
      rcases execute_cases hashKey (hstate (pre ++ c :: mid)) d with h |
        ⟨q, _, _, _, _, _, hq, -, hnone, -⟩
      · exact h
      · obtain ⟨hscope, hkey'⟩ := prepare_sameKey hkey hq hp
        rw [hnow, hscope, hkey', hrow] at hnone
        cases hnone
    refine ⟨hnot.1, hnot.2, fun dd hd => ?_⟩
    rw [hnow]
    exact execute_later (hstate pre) hc hkey hd (digestTells_mono hdigest (by simp [hcalls]))
  · intro pre c post _ hc
    rcases execute_cases hashKey (hstate pre) c with ⟨-, h⟩ |
      ⟨_, _, _, _, _, _, -, -, -, -, -, -, -, h⟩
    · exact h
    · rw [h] at hc
      exact absurd ⟨_, rfl, rfl⟩ hc
  · intro pre c post e _ hc
    exact execute_retry (hstate pre) hc

end

def exampleCall : Call Nat Empty where
  command := ⟨" orders ", "key-1", .mapping [(.str "order", .int 7)], none⟩
  executor := fun count => .ok (count + 1, .mapping [(.str "count", .int (count + 1))])
  now := Datetime.ofUtc 0 (by decide)

/-- The second of two equal calls replays the first. -/
theorem execute_at_most_once_twice :
    letI := normalizedText
    ∃ r r', (execute (List.replicate 32 7) ⟨[], 0⟩ exampleCall).1 = .ok r ∧
      (execute (List.replicate 32 7) (after (List.replicate 32 7) ⟨[], 0⟩ [exampleCall])
        exampleCall).1 = .ok r' ∧
      r'.replayed = true ∧ r'.requestHash = r.requestHash ∧ Json.Same r'.response r.response := by
  let _ := normalizedText
  have hdigest : DigestTells (List.replicate 32 7) [exampleCall, exampleCall] := by
    intro x hx y hy a b ha hb _
    simp only [List.mem_cons, List.not_mem_nil, or_false, or_self] at hx hy
    subst hx hy
    rw [ha] at hb
    cases hb
    rfl
  have hdoc : ∃ dd, canonicalDocument exampleCall.command.payload true = .ok dd :=
    ⟨_, canonicalDocument_ok.mpr ⟨.obj [("order", .int 7)], _, rfl, rfl, rfl⟩⟩
  obtain ⟨dd, hd⟩ := hdoc
  have hempty : Complete (⟨[], 0⟩ : Database Nat).records := by simp [Complete]
  have hrun := execute_at_most_once hempty hdigest
  have hfirst : Committed (execute (List.replicate 32 7)
      (after (List.replicate 32 7) ⟨[], 0⟩ ([] : List (Call Nat Empty))) exampleCall).1 := by
    decide +kernel
  exact ((hrun.1 [] exampleCall [] exampleCall [] rfl hfirst ⟨rfl, rfl⟩).2.2 dd hd).1 hd

end NhaTrangLaundry.Db.Idempotency
