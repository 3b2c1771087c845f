import NhaTrangLaundry.Db.ChannelBindings
import Mathlib.Data.List.Nodup

/-! Each identity has one binding and every answer names it, however the calls run
together; the ledger names stored bindings only while no call loses its insert. -/

namespace NhaTrangLaundry.Db.ChannelBindings

open Lib Outcome Interleaved

def Phase.written : Phase → Bool
  | .evented | .audited | .ledgered | .answered _ | .committed | .returned _ | .dropped => true
  | _ => false

def Phase.durable : Phase → Bool
  | .committed | .returned _ | .dropped => true
  | _ => false

def Call.ledger (c : Call) : List DomainEvent × List Uuid × List OutboxRow :=
  match c.phase with
  | .evented => ([c.event], [], [])
  | .audited => ([c.event], [c.contactBindingId], [])
  | .ledgered | .answered _ => ([c.event], [c.contactBindingId], [outboxOf c.event])
  | _ => ([], [], [])

def Answered (t : Tables) (c : Call) : Phase → Prop
  | .found r => ∃ b ∈ t.bindings, b.identity = c.identity ∧ r = resolved b false
  | .answered r | .returned r => ∃ b ∈ t.bindings ++ c.pending.bindings, b.identity = c.identity ∧
      r = resolved b (b.contactBindingId = c.contactBindingId)
  | _ => True

structure CallOk (t : Tables) (c : Call) : Prop where
  bindings : c.pending.bindings = [] ∨ (c.phase.durable = false ∧ c.pending.bindings = [c.row] ∧
    c.identity ∉ t.bindings.map ContactBinding.identity)
  ledger : (c.pending.events, c.pending.audits, c.pending.outbox) = c.ledger
  early : c.phase = .reading ∨ c.phase = .missing → c.pending = .empty
  fresh : c.phase.written = true → c.phase.durable = false →
    c.contactBindingId ∉ t.events.map DomainEvent.aggregateId
  kept : c.phase.durable = true → c.event ∈ t.events ∧ c.pending = .empty
  answered : Answered t c c.phase

structure TablesOk (t : Tables) : Prop where
  identities : (t.bindings.map ContactBinding.identity).Nodup
  aggregates : (t.events.map DomainEvent.aggregateId).Nodup
  audits : t.audits = t.events.map DomainEvent.aggregateId
  outbox : t.outbox = t.events.map outboxOf
  named : (t.bindings.map ContactBinding.contactBindingId).Sublist
    (t.events.map DomainEvent.aggregateId)

/-- Two calls hold no row of one identity, and no event of one aggregate. -/
structure Apart (c d : Call) : Prop where
  identities : ∀ b ∈ c.pending.bindings, ∀ b' ∈ d.pending.bindings, b.identity ≠ b'.identity
  aggregates : c.phase.written = true → d.phase.written = true →
    c.contactBindingId ≠ d.contactBindingId

lemma Apart.symm {c d : Call} (h : Apart c d) : Apart d c :=
  ⟨fun b hb b' hb' => (h.identities b' hb' b hb).symm, fun hd hc => (h.aggregates hc hd).symm⟩

/-- What the next statement of a call can do. -/
inductive Next (w : World) (c : Call) : Call → Prop where
  | waits : Next w c c
  | fails (refusal : Refusal) (h : c.phase.durable = false) : Next w c (c.fail refusal)
  | finds (b : ContactBinding) (h : c.phase = .reading) (hb : b ∈ w.shared.bindings)
      (hid : b.identity = c.identity) : Next w c { c with phase := .found (resolved b false) }
  | misses (h : c.phase = .reading) : Next w c { c with phase := .missing }
  | loses (h : c.phase = .missing)
      (hid : c.identity ∈ w.shared.bindings.map ContactBinding.identity) :
      Next w c { c with phase := .inserted }
  | inserts (h : c.phase = .missing)
      (hid : c.identity ∉ w.shared.bindings.map ContactBinding.identity)
      (hothers : ∀ d ∈ w.calls, ∀ b ∈ d.pending.bindings, b.identity ≠ c.identity) :
      Next w c { c with phase := .inserted, pending := { c.pending with bindings := [c.row] } }
  | events (h : c.phase = .inserted)
      (hid : c.contactBindingId ∉ w.shared.events.map DomainEvent.aggregateId)
      (hothers : ∀ d ∈ w.calls, c.contactBindingId ∉ d.pending.events.map DomainEvent.aggregateId) :
      Next w c { c with phase := .evented, pending := { c.pending with events := [c.event] } }
  | audits (h : c.phase = .evented) : Next w c (insertAudit c)
  | ledgers (h : c.phase = .audited) :
      Next w c { c with phase := .ledgered, pending := { c.pending with outbox := [outboxOf c.event] } }
  | answers (b : ContactBinding) (h : c.phase = .ledgered)
      (hb : b ∈ w.shared.bindings ++ c.pending.bindings) (hid : b.identity = c.identity) :
      Next w c { c with phase := .answered (resolved b (b.contactBindingId = c.contactBindingId)) }
  | returns (b : ContactBinding) (h : c.phase = .committed)
      (hb : b ∈ w.shared.bindings ++ c.pending.bindings) (hid : b.identity = c.identity) :
      Next w c { c with phase := .returned (resolved b (b.contactBindingId = c.contactBindingId)) }
  | drops (h : c.phase = .committed) : Next w c { c with phase := .dropped }

lemma stored_some {bindings : List ContactBinding} {identity : Identity} {b : ContactBinding}
    (h : stored bindings identity = some b) : b ∈ bindings ∧ b.identity = identity :=
  ⟨List.mem_of_find?_eq_some h, by simpa using List.find?_some h⟩

lemma lastRead_some {t : Tables} {c : Call} {r : ResolvedContactBinding}
    (h : lastRead t c = some r) : ∃ b ∈ t.bindings ++ c.pending.bindings, b.identity = c.identity ∧
      r = resolved b (b.contactBindingId = c.contactBindingId) := by
  obtain ⟨b, hb, rfl⟩ := Option.map_eq_some_iff.mp h
  exact ⟨b, (stored_some hb).1, (stored_some hb).2, rfl⟩

lemma next_spec (w : World) (c : Call) : Next w c (next w c) := by
  rw [next]
  split
  case h_1 h =>
    rw [firstRead]
    split
    · exact .fails _ (by rw [h]; rfl)
    · split
      · next b hb => exact .finds b h (stored_some hb).1 (stored_some hb).2
      · exact .misses h
  case h_2 h =>
    rw [insertBinding]
    split
    · next hid => exact .loses h hid
    · next hid =>
      split
      · exact .waits
      · next hothers =>
        split
        · exact .fails _ (by rw [h]; rfl)
        · refine .inserts h hid fun d hd b hb hsame => hothers ⟨d, hd, b, hb, .inl hsame⟩
  case h_3 h =>
    rw [insertEvent]
    split
    · exact .fails _ (by rw [h]; rfl)
    · next hid =>
      split
      · exact .waits
      · next hothers => exact .events h hid fun d hd hmem => hothers ⟨d, hd, hmem⟩
  case h_4 h => exact .audits h
  case h_5 h =>
    rw [insertOutbox]
    split
    · exact .fails _ (by rw [h]; rfl)
    · split
      · exact .waits
      · exact .ledgers h
  case h_6 h =>
    split
    · next hread =>
      obtain ⟨b, hb, hid, rfl⟩ := lastRead_some hread
      exact .answers b h hb hid
    · exact .fails _ (by rw [h]; rfl)
  case h_7 h =>
    split
    · next hread =>
      obtain ⟨b, hb, hid, rfl⟩ := lastRead_some hread
      exact .returns b h hb hid
    · exact .drops h
  case h_8 => exact .waits

lemma callOk_fail (t : Tables) (c : Call) (refusal : Refusal) : CallOk t (c.fail refusal) where
  bindings := .inl rfl
  ledger := rfl
  early h := by rcases h with h | h <;> cases h
  fresh h := by cases h
  kept h := by cases h
  answered := trivial

lemma next_ok {w : World} {c c' : Call} (h : CallOk w.shared c) (hn : Next w c c') :
    CallOk w.shared c' := by
  obtain ⟨hbindings, hledger, hearly, hfresh, hkept, hanswered⟩ := h
  cases hn with
  | waits => exact ⟨hbindings, hledger, hearly, hfresh, hkept, hanswered⟩
  | fails refusal => exact callOk_fail _ c refusal
  | finds b hp hb hid =>
    simp only [hp, Call.ledger] at hbindings hledger
    exact ⟨hbindings, hledger, by simp, by simp [Phase.written], by simp [Phase.durable],
      b, hb, hid, rfl⟩
  | misses hp =>
    have hempty := hearly (.inl hp)
    exact ⟨.inl (by rw [hempty]; rfl), by rw [hempty]; rfl, fun _ => hempty,
      by simp [Phase.written], by simp [Phase.durable], trivial⟩
  | loses hp hid =>
    have hempty := hearly (.inr hp)
    exact ⟨.inl (by rw [hempty]; rfl), by rw [hempty]; rfl, by simp, by simp [Phase.written],
      by simp [Phase.durable], trivial⟩
  | inserts hp hid _ =>
    have hempty := hearly (.inr hp)
    exact ⟨.inr ⟨rfl, rfl, hid⟩, by rw [hempty]; rfl, by simp, by simp [Phase.written],
      by simp [Phase.durable], trivial⟩
  | events hp hid _ =>
    simp only [hp, Call.ledger, Prod.mk.injEq] at hbindings hledger
    exact ⟨hbindings, by simp [Call.ledger, Call.event, hledger], by simp, fun _ _ => hid,
      by simp [Phase.durable], trivial⟩
  | audits hp =>
    simp only [hp, Call.ledger, Prod.mk.injEq] at hbindings hledger
    exact ⟨hbindings, by simp [insertAudit, Call.ledger, Call.event, hledger], by simp [insertAudit],
      fun _ _ => hfresh (by rw [hp]; rfl) (by rw [hp]; rfl), by simp [insertAudit, Phase.durable],
      trivial⟩
  | ledgers hp =>
    simp only [hp, Call.ledger, Prod.mk.injEq] at hbindings hledger
    exact ⟨hbindings, by simp [Call.ledger, Call.event, hledger], by simp,
      fun _ _ => hfresh (by rw [hp]; rfl) (by rw [hp]; rfl), by simp [Phase.durable], trivial⟩
  | answers b hp hb hid =>
    simp only [hp, Call.ledger] at hbindings hledger
    exact ⟨hbindings, hledger, by simp, fun _ _ => hfresh (by rw [hp]; rfl) (by rw [hp]; rfl),
      by simp [Phase.durable], b, hb, hid, rfl⟩
  | returns b hp hb hid =>
    obtain ⟨hevent, hempty⟩ := hkept (by rw [hp]; rfl)
    exact ⟨.inl (by rw [hempty]; rfl), by rw [hempty]; rfl, by simp, by simp [Phase.durable],
      fun _ => ⟨hevent, hempty⟩, b, hb, hid, rfl⟩
  | drops hp =>
    obtain ⟨hevent, hempty⟩ := hkept (by rw [hp]; rfl)
    exact ⟨.inl (by rw [hempty]; rfl), by rw [hempty]; rfl, by simp, by simp [Phase.durable],
      fun _ => ⟨hevent, hempty⟩, trivial⟩

lemma CallOk.pending_event {t : Tables} {c : Call} (h : CallOk t c) (hw : c.phase.written = true)
    (hd : c.phase.durable = false) : c.pending.events = [c.event] := by
  have hledger := h.ledger
  rw [Call.ledger] at hledger
  cases hp : c.phase <;> simp_all [Phase.written, Phase.durable]

lemma next_apart {w : World} {c c' d : Call} (hd : d ∈ w.calls)
    (hok : CallOk w.shared d) (h : Apart c d) (hn : Next w c c') : Apart c' d := by
  obtain ⟨hidentities, haggregates⟩ := h
  cases hn with
  | waits => exact ⟨hidentities, haggregates⟩
  | fails refusal => exact ⟨fun b hb => absurd hb List.not_mem_nil, fun hw => by cases hw⟩
  | finds | misses | loses => exact ⟨hidentities, fun hw => by cases hw⟩
  | inserts hp _ hothers =>
    refine ⟨fun b hb b' hb' => ?_, fun hw => by cases hw⟩
    obtain rfl := List.mem_singleton.mp hb
    exact (hothers d hd b' hb').symm
  | events hp hid hothers =>
    refine ⟨hidentities, fun _ hw hsame => ?_⟩
    cases hdurable : d.phase.durable with
    | true => exact hid (hsame ▸ List.mem_map_of_mem (hok.kept hdurable).1)
    | false =>
      refine hothers d hd (hsame ▸ ?_)
      rw [hok.pending_event hw hdurable]
      exact List.mem_singleton_self _
  | audits hp | ledgers hp | drops hp | answers b hp | returns b hp =>
    exact ⟨hidentities, fun _ => haggregates (by rw [hp]; rfl)⟩

lemma commit_some {c : Call} {phase : Phase} (h : c.phase.commit = some phase) :
    (c.phase = .ledgered ∧ phase = .committed) ∨
      ∃ r, c.phase = .answered r ∧ phase = .returned r := by
  cases hp : c.phase <;> simp_all [Phase.commit]

lemma committed_rows {t : Tables} {c : Call} {phase : Phase} (h : CallOk t c)
    (hc : c.phase.commit = some phase) :
    c.pending.events = [c.event] ∧ c.pending.audits = [c.contactBindingId] ∧
      c.pending.outbox = [outboxOf c.event] ∧
      c.contactBindingId ∉ t.events.map DomainEvent.aggregateId ∧
      c.phase.written = true ∧ c.phase.durable = false ∧ phase.durable = true ∧
      phase.written = true := by
  have hledger := h.ledger
  rcases commit_some hc with ⟨hp, rfl⟩ | ⟨r, hp, rfl⟩
  · simp only [Call.ledger, hp, Prod.mk.injEq] at hledger
    exact ⟨hledger.1, hledger.2.1, hledger.2.2, h.fresh (by rw [hp]; rfl) (by rw [hp]; rfl),
      by rw [hp]; rfl, by rw [hp]; rfl, rfl, rfl⟩
  · simp only [Call.ledger, hp, Prod.mk.injEq] at hledger
    exact ⟨hledger.1, hledger.2.1, hledger.2.2, h.fresh (by rw [hp]; rfl) (by rw [hp]; rfl),
      by rw [hp]; rfl, by rw [hp]; rfl, rfl, rfl⟩

section Commit

variable {t : Tables} {c d : Call} {phase : Phase}

lemma tablesOk_commit (ht : TablesOk t) (h : CallOk t c) (hc : c.phase.commit = some phase) :
    TablesOk (t ++ c.pending) := by
  obtain ⟨hevents, haudits, houtbox, hfresh, -⟩ := committed_rows h hc
  refine ⟨?_, ?_, ?_, ?_, ?_⟩
  · rcases h.bindings with hrow | ⟨-, hrow, hnew⟩
    · rw [bindings_append, hrow, List.append_nil]
      exact ht.identities
    · rw [bindings_append, hrow, List.map_append, List.nodup_append]
      refine ⟨ht.identities, List.nodup_singleton _, ?_⟩
      rintro i hi _ hmem rfl
      exact hnew (by rwa [List.mem_singleton.mp hmem] at hi)
  · rw [events_append, hevents, List.map_append, List.nodup_append]
    refine ⟨ht.aggregates, List.nodup_singleton _, ?_⟩
    rintro i hi _ hmem rfl
    exact hfresh (by rwa [List.mem_singleton.mp hmem] at hi)
  · rw [audits_append, events_append, hevents, haudits, ht.audits, List.map_append]
    rfl
  · rw [outbox_append, events_append, hevents, houtbox, ht.outbox, List.map_append]
    rfl
  · rw [bindings_append, events_append, hevents, List.map_append, List.map_append]
    refine ht.named.append ?_
    rcases h.bindings with hrow | ⟨-, hrow, -⟩
    · rw [hrow]
      exact List.nil_sublist _
    · rw [hrow]
      exact List.Sublist.refl _

lemma callOk_committed (h : CallOk t c) (hc : c.phase.commit = some phase) :
    CallOk (t ++ c.pending) { c with phase, pending := .empty } := by
  obtain ⟨hevents, -, -, -, -, -, hdurable, -⟩ := committed_rows h hc
  have hevent : c.event ∈ (t ++ c.pending).events := by
    rw [events_append, hevents]
    exact List.mem_append_right _ (List.mem_singleton_self _)
  have hanswered := h.answered
  rcases commit_some hc with ⟨hp, rfl⟩ | ⟨r, hp, rfl⟩
  · exact ⟨.inl rfl, rfl, by simp, by simp [Phase.durable], fun _ => ⟨hevent, rfl⟩, trivial⟩
  · rw [hp] at hanswered
    obtain ⟨b, hb, hid, hr⟩ := hanswered
    exact ⟨.inl rfl, rfl, by simp, by simp [Phase.durable], fun _ => ⟨hevent, rfl⟩, b,
      List.mem_append_left _ hb, hid, hr⟩

lemma Answered.mono {s : Tables} (h : Answered t c c.phase) : Answered (t ++ s) c c.phase := by
  revert h
  cases c.phase with
  | found r => exact fun ⟨b, hb, h⟩ => ⟨b, List.mem_append_left _ hb, h⟩
  | answered r | returned r =>
    rintro ⟨b, hb, h⟩
    refine ⟨b, ?_, h⟩
    rcases List.mem_append.mp hb with hb | hb
    · exact List.mem_append_left _ (List.mem_append_left _ hb)
    · exact List.mem_append_right _ hb
  | _ => exact fun h => h

lemma callOk_beside (hd : CallOk t d) (h : CallOk t c) (hc : c.phase.commit = some phase)
    (hapart : Apart c d) : CallOk (t ++ c.pending) d := by
  obtain ⟨hevents, -, -, -, hwritten, -⟩ := committed_rows h hc
  refine ⟨?_, hd.ledger, hd.early, fun hw hn hmem => ?_, fun hdurable => ?_, hd.answered.mono⟩
  · rcases hd.bindings with hrow | ⟨hn, hrow, hnew⟩
    · exact .inl hrow
    · refine .inr ⟨hn, hrow, fun hmem => ?_⟩
      rw [bindings_append, List.map_append, List.mem_append] at hmem
      rcases hmem with hmem | hmem
      · exact hnew hmem
      · obtain ⟨b, hb, hid⟩ := List.mem_map.mp hmem
        exact hapart.identities b hb d.row (by rw [hrow]; exact List.mem_singleton_self _) hid
  · rw [events_append, hevents, List.map_append, List.mem_append] at hmem
    rcases hmem with hmem | hmem
    · exact hd.fresh hw hn hmem
    · exact hapart.aggregates hwritten hw (List.mem_singleton.mp hmem).symm
  · obtain ⟨hevent, hempty⟩ := hd.kept hdurable
    exact ⟨List.mem_append_left _ hevent, hempty⟩

lemma apart_committed (h : CallOk t c) (hc : c.phase.commit = some phase) (hapart : Apart c d) :
    Apart { c with phase, pending := .empty } d := by
  obtain ⟨-, -, -, -, hwritten, -⟩ := committed_rows h hc
  exact ⟨fun b hb => absurd hb List.not_mem_nil, fun _ => hapart.aggregates hwritten⟩

end Commit

abbrev Inv (w : World) : Prop := Coherent TablesOk CallOk Apart w

lemma abort_ok {t : Tables} {c : Call} (h : CallOk t c) :
    CallOk t { c with phase := c.phase.abort, pending := .empty } := by
  have hanswered := h.answered
  have hkept := h.kept
  cases hp : c.phase <;> rw [hp] at hanswered hkept
  all_goals refine ⟨.inl rfl, rfl, fun _ => rfl, ?_, ?_, ?_⟩
  all_goals simp_all [Phase.abort, Phase.written, Phase.durable, Answered, Call.event]

lemma abort_apart {c d : Call} (h : Apart c d) :
    Apart { c with phase := c.phase.abort, pending := .empty } d := by
  refine ⟨fun b hb => absurd hb List.not_mem_nil, fun hw => h.aggregates ?_⟩
  revert hw
  cases c.phase <;> simp [Phase.abort, Phase.written]

lemma openCall_ok {provider : ChannelProvider} {text : String} {id : Uuid} {c : Call}
    (h : openCall provider text id = .ok c) : c.phase = .reading ∧ c.pending = .empty := by
  obtain ⟨_, -, h⟩ := bind_ok.mp h
  cases h
  exact ⟨rfl, rfl⟩

lemma inv_empty : Inv ⟨.empty, []⟩ where
  shared := ⟨List.nodup_nil, List.nodup_nil, rfl, rfl, List.Sublist.refl _⟩
  own h := by cases h
  apart _ h := by cases h

lemma inv_apply {w : World} (h : Inv w) (command : Command) : Inv (apply w command) := by
  cases command with
  | resolveOrCreate provider text id =>
    rw [apply]
    split
    · next c hc =>
      obtain ⟨hp, hempty⟩ := openCall_ok hc
      refine h.enter Apart.symm ?_ fun d _ _ => ?_
      · exact ⟨.inl (by rw [hempty]; rfl), by rw [Call.ledger, hp, hempty]; rfl, fun _ => hempty,
          by simp [hp, Phase.written], by simp [hp, Phase.durable], by rw [hp]; trivial⟩
      · exact ⟨by simp [hempty, Tables.empty], by simp [hp, Phase.written]⟩
    · exact h
  | statement i =>
    rw [apply]
    split
    · next c hc =>
      have hnext := next_spec w c
      exact h.put Apart.symm hc h.shared (next_ok (h.own hc) hnext) fun _ d _ hd hok hapart =>
        ⟨hok, next_apart (List.mem_of_getElem? hd) hok hapart hnext⟩
    · exact h
  | commit i =>
    rw [apply]
    split
    · next c hc =>
      split
      · next phase hphase =>
        have hok := h.own hc
        exact h.put Apart.symm hc (tablesOk_commit h.shared hok hphase) (callOk_committed hok hphase)
          fun _ d _ _ hd hapart => ⟨callOk_beside hd hok hphase hapart, apart_committed hok hphase hapart⟩
      · exact h
    · exact h
  | abort i =>
    rw [apply]
    split
    · next c hc =>
      exact h.put Apart.symm hc h.shared (abort_ok (h.own hc)) fun _ d _ _ hok hapart =>
        ⟨hok, abort_apart hapart⟩
    · exact h

lemma inv_run (commands : List Command) : Inv (run commands) :=
  List.foldlRecOn commands apply inv_empty fun _ h command _ => inv_apply h command

/-- Call `i` stored the binding, and has committed. -/
def Stores (w : World) (i : Nat) (b : ContactBinding) : Prop :=
  ∃ c, w.calls[i]? = some c ∧ c.phase.durable = true ∧ c.row = b

lemma next_stored {w : World} {c c' : Call} (hn : Next w c c') (hd : c.phase.durable = true) :
    c'.phase.durable = true ∧ c'.row = c.row := by
  cases hn with
  | waits => exact ⟨hd, rfl⟩
  | fails refusal h => rw [hd] at h; cases h
  | returns | drops => exact ⟨rfl, rfl⟩
  | finds b h | misses h | loses h | inserts h | events h | audits h | ledgers h | answers b h =>
    rw [h] at hd
    cases hd

lemma stores_apply {w : World} {i : Nat} {b : ContactBinding} (h : Stores w i b)
    (command : Command) : Stores (apply w command) i b := by
  obtain ⟨c, hc, hd, hrow⟩ := h
  -- a durable call moves only to a durable phase
  have hmoved {j : Nat} {d d' : Call} {t : Tables} (hj : w.calls[j]? = some d)
      (hkeep : d.phase.durable = true → d'.phase.durable = true ∧ d'.row = d.row) :
      Stores (w.put j d' t) i b := by
    by_cases hij : j = i
    · subst hij
      obtain rfl : d = c := Option.some.inj (hj.symm.trans hc)
      exact ⟨d', getElem?_put_self hj d' t, (hkeep hd).1, (hkeep hd).2.trans hrow⟩
    · exact ⟨c, (getElem?_put_ne hij d' t).trans hc, hd, hrow⟩
  cases command with
  | resolveOrCreate provider text id =>
    rw [apply]
    split
    · exact ⟨c, getElem?_enter_of_some hc _, hd, hrow⟩
    · exact ⟨c, hc, hd, hrow⟩
  | statement j =>
    rw [apply]
    split
    · next d hj => exact hmoved hj (next_stored (next_spec w d))
    · exact ⟨c, hc, hd, hrow⟩
  | commit j =>
    rw [apply]
    split
    · next d hj =>
      split
      · next phase hphase =>
        refine hmoved hj fun hdd => ?_
        rcases commit_some hphase with ⟨hp, -⟩ | ⟨r, hp, -⟩
        · rw [hp] at hdd; cases hdd
        · rw [hp] at hdd; cases hdd
      · exact ⟨c, hc, hd, hrow⟩
    · exact ⟨c, hc, hd, hrow⟩
  | abort j =>
    rw [apply]
    split
    · next d hj =>
      refine hmoved hj fun hdd => ⟨?_, rfl⟩
      revert hdd
      cases d.phase <;> simp [Phase.abort, Phase.durable]
    · exact ⟨c, hc, hd, hrow⟩

def commits (w : World) : Command → Option Call
  | .commit i =>
    match w.calls[i]? with
    | some c => if c.phase.commit.isSome then some c else none
    | none => none
  | _ => none

/-- A call commits its ledger rows for a binding that it did not store: another's was stored between
its first read and its insert. -/
def CommitsLost (w : World) (command : Command) : Prop :=
  ∃ c, commits w command = some c ∧ c.pending.bindings = []

lemma commits_some {w : World} {command : Command} {c : Call} (h : commits w command = some c) :
    ∃ i phase, command = .commit i ∧ w.calls[i]? = some c ∧ c.phase.commit = some phase ∧
      apply w command = w.put i { c with phase, pending := .empty } (w.shared ++ c.pending) := by
  cases command with
  | commit i =>
    rw [commits] at h
    split at h
    · next d hd =>
      split at h
      · next hsome =>
        cases h
        obtain ⟨phase, hphase⟩ := Option.isSome_iff_exists.mp hsome
        exact ⟨i, phase, rfl, hd, hphase, by rw [apply, hd]; simp only [hphase]⟩
      · cases h
    · cases h
  | _ => cases h

lemma shared_of_not_commits {w : World} {command : Command} (h : commits w command = none) :
    (apply w command).shared = w.shared := by
  cases command with
  | resolveOrCreate provider text id => rw [apply]; split <;> rfl
  | statement i => rw [apply]; split <;> rfl
  | abort i => rw [apply]; split <;> rfl
  | commit i =>
    rw [apply]
    split
    · next c hc =>
      simp only [commits, hc] at h
      split
      · next phase hphase => simp [hphase] at h
      · rfl
    · rfl

lemma bindings_apply (w : World) (command : Command) :
    w.shared.bindings <+: (apply w command).shared.bindings := by
  cases hc : commits w command with
  | none => exact shared_of_not_commits hc ▸ List.prefix_rfl
  | some c =>
    obtain ⟨i, phase, -, -, -, happly⟩ := commits_some hc
    rw [happly]
    exact List.prefix_append _ _

lemma run_snoc (commands : List Command) (command : Command) :
    run (commands ++ [command]) = apply (run commands) command :=
  List.foldl_append ..

lemma bindings_run (commands later : List Command) :
    (run commands).shared.bindings <+: (run (commands ++ later)).shared.bindings := by
  induction later using List.reverseRecOn with
  | nil => exact (List.append_nil commands).symm ▸ List.prefix_rfl
  | append_singleton later command ih =>
    rw [← List.append_assoc, run_snoc]
    exact ih.trans (bindings_apply _ command)

lemma stored_by {commands : List Command} {b : ContactBinding}
    (hb : b ∈ (run commands).shared.bindings) : ∃ i, Stores (run commands) i b := by
  induction commands using List.reverseRecOn with
  | nil => cases hb
  | append_singleton commands command ih =>
    rw [run_snoc] at hb ⊢
    cases hc : commits (run commands) command with
    | none =>
      have hold : b ∈ (run commands).shared.bindings := by
        rw [← shared_of_not_commits hc]
        exact hb
      obtain ⟨i, hi⟩ := ih hold
      exact ⟨i, stores_apply hi command⟩
    | some c =>
      obtain ⟨i, phase, -, hcall, hphase, happly⟩ := commits_some hc
      have hok := (inv_run commands).own hcall
      have hrows : b ∈ (run commands).shared.bindings ++ c.pending.bindings := by
        have hshared := congrArg Interleaved.shared happly
        rw [shared_put] at hshared
        rw [← bindings_append, ← hshared]
        exact hb
      rcases List.mem_append.mp hrows with hold | hnew
      · obtain ⟨j, hj⟩ := ih hold
        exact ⟨j, stores_apply hj command⟩
      · refine ⟨i, { c with phase, pending := .empty }, ?_, (committed_rows hok hphase).2.2.2.2.2.2.1, ?_⟩
        · rw [happly]
          exact getElem?_put_self hcall _ _
        · rcases hok.bindings with hempty | ⟨-, hrow, -⟩
          · rw [hempty] at hnew
            cases hnew
          · rw [hrow] at hnew
            exact (List.mem_singleton.mp hnew).symm

lemma Stores.unique {w : World} (h : Inv w) {i j : Nat} {b : ContactBinding} (hi : Stores w i b)
    (hj : Stores w j b) : i = j := by
  obtain ⟨c, hc, hcd, hcrow⟩ := hi
  obtain ⟨d, hd, hdd, hdrow⟩ := hj
  by_contra hij
  have hwritten {e : Call} (he : e.phase.durable = true) : e.phase.written = true := by
    revert he
    cases e.phase <;> simp [Phase.durable, Phase.written]
  have hsame : c.contactBindingId = d.contactBindingId :=
    congrArg ContactBinding.contactBindingId (hcrow.trans hdrow.symm)
  exact (h.apart hij hc hd).aggregates (hwritten hcd) (hwritten hdd) hsame

def Phase.result : Phase → Option ResolvedContactBinding
  | .found r | .returned r => some r
  | _ => none

lemma result_names {commands : List Command} {i : Nat} {c : Call} {r : ResolvedContactBinding}
    (hc : (run commands).calls[i]? = some c) (hr : c.phase.result = some r) :
    ∃ b ∈ (run commands).shared.bindings, b.identity = c.identity ∧
      r.contactId = b.contactBindingId ∧ (r.created = true ↔ Stores (run commands) i b) := by
  have hinv := inv_run commands
  have hok := hinv.own hc
  have hanswered := hok.answered
  have hphase : c.phase = .found r ∨ c.phase = .returned r := by
    revert hr
    cases c.phase <;> simp [Phase.result]
  rcases hphase with hp | hp
  · rw [hp] at hanswered
    obtain ⟨b, hb, hid, rfl⟩ := hanswered
    refine ⟨b, hb, hid, rfl, ?_, ?_⟩
    · intro hcreated
      cases hcreated
    rintro ⟨d, hd, hdurable, -⟩
    obtain rfl : c = d := Option.some.inj (hc.symm.trans hd)
    rw [hp] at hdurable
    cases hdurable
  · rw [hp] at hanswered
    obtain ⟨b, hb, hid, rfl⟩ := hanswered
    rw [(hok.kept (by rw [hp]; rfl)).2] at hb
    have hb : b ∈ (run commands).shared.bindings := by simpa [Tables.empty] using hb
    refine ⟨b, hb, hid, rfl, fun hcreated => ?_, ?_⟩
    · -- the binding's own call has the identifier of this one, and so is this one
      have hsame : b.contactBindingId = c.contactBindingId := of_decide_eq_true hcreated
      obtain ⟨j, d, hd, hdurable, rfl⟩ := stored_by hb
      by_cases hij : i = j
      · subst hij
        exact ⟨d, hd, hdurable, rfl⟩
      · refine absurd hsame.symm ((hinv.apart hij hc hd).aggregates (by rw [hp]; rfl) ?_)
        revert hdurable
        cases d.phase <;> simp [Phase.durable, Phase.written]
    · rintro ⟨d, hd, -, rfl⟩
      obtain rfl : c = d := Option.some.inj (hc.symm.trans hd)
      exact decide_eq_true rfl

/-- Every event and every outbox row names a stored binding, one of each for a binding. -/
def Accounted (t : Tables) : Prop :=
  t.events.map DomainEvent.aggregateId = t.bindings.map ContactBinding.contactBindingId ∧
    t.outbox.map OutboxRow.aggregateId = t.bindings.map ContactBinding.contactBindingId

lemma accounted_iff {t : Tables} (h : TablesOk t) :
    Accounted t ↔ t.events.length = t.bindings.length := by
  have houtbox : t.outbox.map OutboxRow.aggregateId = t.events.map DomainEvent.aggregateId := by
    rw [h.outbox, List.map_map]
    rfl
  constructor
  · rintro ⟨hevents, -⟩
    simpa using congrArg List.length hevents
  · intro hlength
    have hsame : t.bindings.map ContactBinding.contactBindingId =
        t.events.map DomainEvent.aggregateId :=
      h.named.eq_of_length (by simpa using hlength.symm)
    exact ⟨hsame.symm, houtbox.trans hsame.symm⟩

lemma named_length {t : Tables} (h : TablesOk t) : t.bindings.length ≤ t.events.length := by
  simpa using h.named.length_le

lemma accounted_apply {w : World} (h : Inv w) (command : Command) :
    Accounted (apply w command).shared ↔ Accounted w.shared ∧ ¬ CommitsLost w command := by
  have hafter := inv_apply h command
  cases hc : commits w command with
  | none =>
    have hkept : ¬ CommitsLost w command := by
      rintro ⟨c, hsome, -⟩
      rw [hc] at hsome
      cases hsome
    rw [shared_of_not_commits hc]
    exact ⟨fun ha => ⟨ha, hkept⟩, And.left⟩
  | some c =>
    obtain ⟨i, phase, -, hcall, hphase, happly⟩ := commits_some hc
    have hok := h.own hcall
    obtain ⟨hevents, -⟩ := committed_rows hok hphase
    have hshared : (apply w command).shared = w.shared ++ c.pending := by rw [happly, shared_put]
    have hlost : CommitsLost w command ↔ c.pending.bindings = [] := by
      constructor
      · rintro ⟨d, hd, hempty⟩
        obtain rfl : c = d := Option.some.inj (hc.symm.trans hd)
        exact hempty
      · exact fun hempty => ⟨c, hc, hempty⟩
    have hle := named_length h.shared
    rw [accounted_iff hafter.shared, accounted_iff h.shared, hshared, hlost, events_append,
      bindings_append, hevents, List.length_append, List.length_append, List.length_singleton]
    rcases hok.bindings with hempty | ⟨-, hrow, -⟩
    · simp only [hempty, List.length_nil, not_true_eq_false, and_false, iff_false]
      omega
    · simp [hrow]

/-- No step of a run commits the ledger rows of a binding that its call did not store. -/
def NeverLost (commands : List Command) : Prop :=
  ∀ before command after, commands = before ++ command :: after → ¬ CommitsLost (run before) command

lemma neverLost_snoc {commands : List Command} {command : Command} :
    NeverLost (commands ++ [command]) ↔
      NeverLost commands ∧ ¬ CommitsLost (run commands) command := by
  constructor
  · intro h
    refine ⟨fun before c after hsplit => h before c (after ++ [command]) ?_, h commands command [] rfl⟩
    rw [hsplit, List.append_assoc, List.cons_append]
  · rintro ⟨hbefore, hlast⟩ before c after hsplit
    rcases List.eq_nil_or_concat after with rfl | ⟨init, last, rfl⟩
    · obtain ⟨rfl, hc⟩ := List.append_inj' hsplit rfl
      obtain rfl : command = c := List.singleton_inj.mp hc
      exact hlast
    · rw [List.concat_eq_append, ← List.cons_append, ← List.append_assoc] at hsplit
      obtain ⟨hinit, -⟩ := List.append_inj' hsplit rfl
      exact hbefore before c init hinit

lemma accounted_run (commands : List Command) :
    Accounted (run commands).shared ↔ NeverLost commands := by
  induction commands using List.reverseRecOn with
  | nil =>
    refine ⟨fun _ before command after hsplit => ?_, fun _ => ⟨rfl, rfl⟩⟩
    simp at hsplit
  | append_singleton commands command ih =>
    rw [run_snoc, accounted_apply (inv_run commands), ih, neverLost_snoc]

/-- Over any run of calls: one binding for each identity, never changed; every answer names it and
one call alone creates it; the ledger agrees exactly while no call that lost its insert commits. -/
theorem one_binding_one_answer (commands : List Command) :
    let w := run commands
    (w.shared.bindings.map ContactBinding.identity).Nodup ∧
    (∀ later, w.shared.bindings <+: (run (commands ++ later)).shared.bindings) ∧
    (∀ b ∈ w.shared.bindings, ∃! i, Stores w i b) ∧
    (∀ i c r, w.calls[i]? = some c → c.phase.result = some r →
      ∃ b ∈ w.shared.bindings, b.identity = c.identity ∧ r.contactId = b.contactBindingId ∧
        (r.created = true ↔ Stores w i b)) ∧
    (Accounted w.shared ↔ NeverLost commands) := by
  intro w
  have hinv : Inv w := inv_run commands
  refine ⟨hinv.shared.identities, bindings_run commands, fun b hb => ?_,
    fun i c r hc hr => result_names hc hr, accounted_run commands⟩
  obtain ⟨i, hi⟩ := stored_by hb
  exact ⟨i, hi, fun j hj => Stores.unique hinv hj hi⟩

def race : List Command :=
  [.resolveOrCreate .zaloOa "guest" (.ofNat 1), .resolveOrCreate .zaloOa "guest" (.ofNat 2),
    .statement 0, .statement 1, .statement 0, .statement 0, .statement 0, .statement 0, .commit 0,
    .statement 1, .statement 1, .statement 1, .statement 1, .commit 1]

theorem ledger_names_no_binding : ¬ Accounted (run race).shared ∧
    ∃ e ∈ (run race).shared.events,
      e.aggregateId ∉ (run race).shared.bindings.map ContactBinding.contactBindingId := by
  have hevents : (run race).shared.events.map DomainEvent.aggregateId = [.ofNat 1, .ofNat 2] := by
    decide
  have hbindings : (run race).shared.bindings.map ContactBinding.contactBindingId = [.ofNat 1] := by
    decide
  have hmem : Uuid.ofNat 2 ∈ (run race).shared.events.map DomainEvent.aggregateId := by
    rw [hevents]
    decide
  obtain ⟨e, he, hid⟩ := List.mem_map.mp hmem
  refine ⟨fun h => ?_, e, he, ?_⟩
  · have hsame := h.1
    rw [hevents, hbindings] at hsame
    exact absurd (congrArg List.length hsame) (by decide)
  · rw [hid, hbindings]
    decide

end NhaTrangLaundry.Db.ChannelBindings
