import NhaTrangLaundry.Worker.BridgeSteps

/-! A model stays within its budget and its binding, whatever it calls and however
the transport, the ledger and `close` fall in between. -/

namespace NhaTrangLaundry.Worker.AgentBridge

open Lib Outcome Contracts Domain.Catalog

def forwardedCall : Entry → Option ToolCall
  | .forwarded c _ => some c
  | _ => none

def sequenceNumber : Entry → Option Nat
  | .recorded n _ => some n
  | _ => none

def forwards (log : List Entry) : List ToolCall := log.filterMap forwardedCall

def numbers (log : List Entry) : List Nat := log.filterMap sequenceNumber

def Stopped (log : List Entry) : Prop := .closed ∈ log ∨ ∃ n, .recorded n false ∈ log

/-- The entry lets nothing out: no request, and no result. -/
def Entry.silent : Entry → Prop
  | .forwarded _ _ => False
  | .returned _ _ => False
  | .replayed _ _ => False
  | _ => True

/-- The value of a path parameter is the job's own, or names a request created earlier. -/
def BoundValue (o : Outside) (b : Bridge) (log : List Entry) (name text : String) : Prop :=
  (name = "order_request_id" ∧ ∃ id, text = id.str ∧ (b.job.orderRequestId = some id ∨
    ∃ c response, .answered c response ∈ log ∧ CreatedBy o c response id)) ∨
  (name = "public_code" ∧ b.job.publicCode = some text)

def Bound (o : Outside) (b : Bridge) (log : List Entry) (operation : AgentToolOperation)
    (parameters : List (String × String)) : Prop :=
  List.Forall₂ (fun name p => p.1 = name ∧ BoundValue o b log name p.2)
    (toolRegistry operation).pathParameters parameters

/-- The request is made in time, and its path is the contract's with bound values. -/
def Lawful (o : Outside) (b : Bridge) (log : List Entry) (c : ToolCall)
    (request : AgentToolForwardRequest) : Prop :=
  c.now.aware ∧ c.now.instant ≤ b.job.deadlineAt.instant ∧
    ∃ parameters, Bound o b log c.operation parameters ∧
      request.path = String.ofList (fillPath (toolRegistry c.operation).path.toList parameters)

def news (o : Outside) (b : Bridge) (w : World) (e : Event) : List Entry :=
  (step o b w e).log.drop w.log.length

/-- The session carries the job's binding, or that of a request created earlier. -/
def BoundSession (o : Outside) (b : Bridge) (log : List Entry) (s : Session) : Prop :=
  s.publicCode = b.job.publicCode ∧ ∀ id, s.orderRequestId = some id →
    b.job.orderRequestId = some id ∨ ∃ c response, .answered c response ∈ log ∧ CreatedBy o c response id

structure Paid (b : Bridge) (log : List Entry) (s : Session) : Prop where
  calls : (forwards log).length ≤ s.toolCallCount
  operations : ∀ operation,
    (forwards log).countP (fun c => c.operation = operation) ≤ s.operationCounts operation
  mutations : (forwards log).countP (fun c => isMutation c.operation) ≤ s.mutationCount
  callBudget : s.toolCallCount ≤ b.job.budget.maxToolCalls
  operationBudget : ∀ operation,
    s.operationCounts operation ≤ (toolRegistry operation).maxCallsPerRun
  mutationBudget : s.mutationCount ≤ b.job.budget.maxToolMutations

/-- The ledger's numbers grow, and a call in flight has one of its own to come. -/
structure Numbered (w : World) : Prop where
  increasing : (numbers w.log).Pairwise (· < ·)
  range : ∀ n ∈ numbers w.log, 1 ≤ n ∧ n ≤ w.session.toolCallCount
  next : w.flight.isSome → 1 ≤ w.session.toolCallCount ∧
    ∀ n ∈ numbers w.log, n < w.session.toolCallCount

/-- The result of a call under a key is kept, and a call in flight repeats none. -/
structure Kept (o : Outside) (w : World) : Prop where
  results : ∀ c result, .returned c result ∈ w.log → ∃ key, logicalKey o c = .ok key ∧
    ∀ k, key = some k → w.session.idempotentResults.lookup k = some (fingerprint c, result)
  flight : ∀ f ∈ w.flight, logicalKey o f.call = .ok f.logicalKey ∧
    ∀ k, f.logicalKey = some k → w.session.idempotentResults.lookup k = none

structure Inv (o : Outside) (b : Bridge) (w : World) : Prop where
  bound : BoundSession o b w.log w.session
  paid : Paid b w.log w.session
  numbered : Numbered w
  kept : Kept o w
  stopped : Stopped w.log → w.session.closed = true

section Logs

variable {o : Outside} {b : Bridge} {log extra : List Entry} {s s' used : Session}

lemma forwards_append (log extra : List Entry) : forwards (log ++ extra) = forwards log ++ forwards extra :=
  List.filterMap_append

lemma numbers_append (log extra : List Entry) : numbers (log ++ extra) = numbers log ++ numbers extra :=
  List.filterMap_append

lemma stopped_append : Stopped (log ++ extra) ↔ Stopped log ∨ Stopped extra := by
  simp only [Stopped, List.mem_append, exists_or]
  exact or_or_or_comm ..

lemma BoundSession.append (h : BoundSession o b log s) (extra : List Entry) :
    BoundSession o b (log ++ extra) s := by
  refine ⟨h.1, fun id hid => ?_⟩
  rcases h.2 id hid with hown | ⟨c, response, hanswered, hcreated⟩
  · exact .inl hown
  · exact .inr ⟨c, response, List.mem_append_left _ hanswered, hcreated⟩

lemma BoundSession.parameters (h : BoundSession o b log s) {operation : AgentToolOperation}
    {parameters : List (String × String)}
    (hparameters : expectedPathParameters s operation = .ok parameters) :
    Bound o b log operation parameters := by
  refine (mapM_ok.mp hparameters).imp fun name p hp => ?_
  rw [boundParameter] at hp
  split_ifs at hp with hrequest hcode
  · cases hid : s.orderRequestId with
    | none => simp [hid] at hp
    | some id =>
      rw [hid] at hp
      cases hp
      exact ⟨rfl, .inl ⟨hrequest, id, rfl, h.2 id hid⟩⟩
  · cases hpublic : s.publicCode with
    | none => simp [hpublic] at hp
    | some code =>
      rw [hpublic] at hp
      cases hp
      exact ⟨rfl, .inr ⟨hcode, h.1 ▸ hpublic⟩⟩

lemma Paid.append (h : Paid b log s) (hextra : forwards extra = []) : Paid b (log ++ extra) s := by
  have hforwards : forwards (log ++ extra) = forwards log := by
    rw [forwards_append, hextra, List.append_nil]
  exact ⟨hforwards ▸ h.calls, hforwards ▸ h.operations, hforwards ▸ h.mutations, h.callBudget,
    h.operationBudget, h.mutationBudget⟩

lemma Paid.consume (h : Paid b log s) {c : ToolCall}
    (hused : consumeBudget b.job s c.operation = .ok used) (request : AgentToolForwardRequest) :
    Paid b (log ++ [.forwarded c request]) used := by
  obtain ⟨hcalls, hoperation, hmutation, rfl⟩ := consumeBudget_ok hused
  have hforwards : forwards (log ++ [.forwarded c request]) = forwards log ++ [c] := forwards_append ..
  constructor
  · rw [hforwards, List.length_append]
    exact Nat.add_le_add_right h.calls 1
  · intro operation
    rw [hforwards, List.countP_append, List.countP_singleton]
    have hbefore := h.operations operation
    simp only [decide_eq_true_eq, eq_comm (a := c.operation)]
    split_ifs <;> omega
  · rw [hforwards, List.countP_append, List.countP_singleton]
    exact Nat.add_le_add_right h.mutations _
  · exact hcalls
  · intro operation
    have hbefore := h.operationBudget operation
    by_cases hsame : operation = c.operation
    · subst hsame
      simp only [if_true]
      omega
    · simpa only [if_neg hsame, Nat.add_zero] using hbefore
  · have hbefore := h.mutationBudget
    by_cases hsame : isMutation c.operation = true
    · have hroom := hmutation hsame
      simp only [if_pos hsame]
      omega
    · simpa only [if_neg hsame, Nat.add_zero] using hbefore

lemma Paid.of_append {log extra : List Entry} (h : Paid b (log ++ extra) s) : Paid b log s := by
  have hforwards := forwards_append log extra
  constructor
  · have hcalls := h.calls
    rw [hforwards, List.length_append] at hcalls
    omega
  · intro operation
    have hoperations := h.operations operation
    rw [hforwards, List.countP_append] at hoperations
    omega
  · have hmutations := h.mutations
    rw [hforwards, List.countP_append] at hmutations
    omega
  · exact h.callBudget
  · exact h.operationBudget
  · exact h.mutationBudget

lemma Paid.rebound {c : ToolCall} {response : AgentToolForwardResponse} (h : Paid b log s)
    (hrebound : Rebound o c response s s') : Paid b log s' where
  calls := hrebound.toolCallCount ▸ h.calls
  operations := hrebound.operationCounts ▸ h.operations
  mutations := hrebound.mutationCount ▸ h.mutations
  callBudget := hrebound.toolCallCount ▸ h.callBudget
  operationBudget := hrebound.operationCounts ▸ h.operationBudget
  mutationBudget := hrebound.mutationCount ▸ h.mutationBudget

lemma BoundSession.rebound {c : ToolCall} {response : AgentToolForwardResponse}
    (h : BoundSession o b log s) (hrebound : Rebound o c response s s') :
    BoundSession o b (log ++ [.answered c response]) s' := by
  refine ⟨hrebound.publicCode.trans h.1, fun id hid => ?_⟩
  rcases hrebound.orderRequestId with hsame | ⟨created, hcreated, hnew⟩
  · exact (h.append _).2 id (hsame ▸ hid)
  · rw [hnew, Option.some.injEq] at hid
    subst hid
    exact .inr ⟨c, response, by simp, hcreated⟩

end Logs

section Runs

variable {o : Outside} {b : Bridge} {w : World} {s used : Session} {c : ToolCall} {f : Flight}

lemma inv_start (o : Outside) (b : Bridge) : Inv o b (start b) where
  bound := ⟨rfl, fun _ h => .inl h⟩
  paid := ⟨Nat.le_refl 0, fun _ => Nat.le_refl 0, Nat.le_refl 0, Nat.zero_le _, fun _ => Nat.zero_le _,
    Nat.zero_le _⟩
  numbered := ⟨.nil, by simp [start, numbers], by simp [start]⟩
  kept := ⟨by simp [start], by simp [start]⟩
  stopped := by simp [start, Stopped]

lemma Numbered.append (h : Numbered w) {extra : List Entry} (hextra : numbers extra = [])
    (hs : s.toolCallCount = w.session.toolCallCount) : Numbered ⟨s, none, w.log ++ extra⟩ := by
  have hnumbers : numbers (w.log ++ extra) = numbers w.log := by
    rw [numbers_append, hextra, List.append_nil]
  constructor
  · rw [hnumbers]
    exact h.increasing
  · rw [hnumbers, hs]
    exact h.range
  · intro hnone
    cases hnone

lemma Kept.append (h : Kept o w) {extra : List Entry} (hextra : ∀ c r, .returned c r ∉ extra)
    (hs : s.idempotentResults = w.session.idempotentResults) : Kept o ⟨s, none, w.log ++ extra⟩ := by
  constructor
  · intro c result hreturned
    rw [hs]
    exact h.results c result ((List.mem_append.mp hreturned).resolve_right (hextra c result))
  · intro f hf
    cases hf

lemma Inv.note (h : Inv o b w) {x : Entry} (hforwards : forwards [x] = []) (hnumbers : numbers [x] = [])
    (hreturned : ∀ c r, .returned c r ∉ [x]) (hstopped : ¬ Stopped [x]) :
    Inv o b ⟨w.session, none, w.log ++ [x]⟩ where
  bound := h.bound.append _
  paid := h.paid.append hforwards
  numbered := h.numbered.append hnumbers rfl
  kept := h.kept.append hreturned rfl
  stopped hlog := h.stopped ((stopped_append.mp hlog).resolve_right hstopped)

lemma Inv.refuse (h : Inv o b w) (c : ToolCall) (e : BridgeFailure) :
    Inv o b ⟨w.session, none, w.log ++ [.refused c e]⟩ :=
  h.note rfl rfl (by simp) (by simp [Stopped])

lemma Inv.replay (h : Inv o b w) (c : ToolCall) (result : AgentToolBridgeResult) :
    Inv o b ⟨w.session, none, w.log ++ [.replayed c result]⟩ :=
  h.note rfl rfl (by simp) (by simp [Stopped])

lemma Numbered.consume (h : Numbered w) {flight : Option Flight} {extra : List Entry}
    (hextra : numbers extra = []) (hs : s.toolCallCount = w.session.toolCallCount + 1) :
    Numbered ⟨s, flight, w.log ++ extra⟩ := by
  have hnumbers : numbers (w.log ++ extra) = numbers w.log := by
    rw [numbers_append, hextra, List.append_nil]
  constructor
  · rw [hnumbers]
    exact h.increasing
  · rw [hnumbers, hs]
    intro n hn
    exact ⟨(h.range n hn).1, Nat.le_succ_of_le (h.range n hn).2⟩
  · intro _
    rw [hnumbers, hs]
    exact ⟨Nat.le_add_left 1 _, fun n hn => Nat.lt_succ_of_le (h.range n hn).2⟩

lemma Inv.forward (h : Inv o b w) {admitted : Admitted}
    (hadmission : admission o b w.session c = .ok admitted)
    (hreplay : replayOf w.session admitted.logicalKey (fingerprint c) = .ok none)
    (hused : consumeBudget b.job w.session c.operation = .ok used)
    (request : AgentToolForwardRequest) :
    Inv o b ⟨used, some ⟨c, admitted.logicalKey⟩, w.log ++ [.forwarded c request]⟩ := by
  have hpaid := h.paid.consume hused request
  obtain ⟨-, -, -, rfl⟩ := consumeBudget_ok hused
  constructor
  · exact ⟨h.bound.1, (h.bound.append _).2⟩
  · exact hpaid
  · exact h.numbered.consume rfl rfl
  · constructor
    · intro c' result hreturned
      exact h.kept.results c' result (by simpa using hreturned)
    · rintro f ⟨⟩
      exact ⟨(admission_ok hadmission).2.2.2, replayOf_none hreplay⟩
  · intro hstopped
    exact h.stopped (by simpa [Stopped] using hstopped)

lemma Inv.spend (h : Inv o b w) (hused : consumeBudget b.job w.session c.operation = .ok used)
    (e : BridgeFailure) : Inv o b ⟨used, none, w.log ++ [.refused c e]⟩ := by
  have hpaid : Paid b w.log used := (h.paid.consume hused ⟨.get, "", [], c.arguments, 0⟩).of_append
  obtain ⟨-, -, -, rfl⟩ := consumeBudget_ok hused
  constructor
  · exact ⟨h.bound.1, (h.bound.append _).2⟩
  · exact hpaid.append rfl
  · exact h.numbered.consume rfl rfl
  · exact h.kept.append (by simp) rfl
  · intro hstopped
    exact h.stopped (by simpa [Stopped] using hstopped)

lemma Inv.invoke (h : Inv o b w) (c : ToolCall) :
    Inv o b (noteInvoke w c (AgentBridge.invoke o b w.session c)) := by
  have hcases := invoke_cases o b w.session c
  generalize AgentBridge.invoke o b w.session c = begun at hcases ⊢
  cases hcases with
  | refused e => exact h.refuse c e
  | replayed hadmission hreplay => exact h.replay c _
  | spent e hused => exact h.spend hused e
  | sent hadmission hreplay hused hrequest => exact h.forward hadmission hreplay hused _

lemma Inv.answer (h : Inv o b w) (hflight : w.flight = some f) (hopen : w.session.closed = false)
    {response : AgentToolForwardResponse} (hrebound : Rebound o f.call response w.session s) :
    Inv o b ⟨s, some f, w.log ++ [.answered f.call response]⟩ := by
  have hnumbers : numbers (w.log ++ [.answered f.call response]) = numbers w.log :=
    (numbers_append ..).trans (List.append_nil _)
  constructor
  · exact h.bound.rebound hrebound
  · exact (h.paid.append rfl).rebound hrebound
  · constructor
    · rw [hnumbers]
      exact h.numbered.increasing
    · rw [hnumbers, hrebound.toolCallCount]
      exact h.numbered.range
    · rw [hnumbers, hrebound.toolCallCount]
      exact fun _ => h.numbered.next (by simp [hflight])
  · constructor
    · intro c result hreturned
      rw [hrebound.idempotentResults]
      exact h.kept.results c result (by simpa using hreturned)
    · rintro _ ⟨⟩
      rw [hrebound.idempotentResults]
      exact h.kept.flight f hflight
  · intro hstopped
    have hclosed := h.stopped (by simpa [Stopped] using hstopped)
    rw [hopen] at hclosed
    cases hclosed

lemma Inv.record (h : Inv o b w) (hflight : w.flight = some f) (accepted : Bool)
    (hclosed : accepted = false → w.session.closed = true) :
    Inv o b ⟨w.session, none, w.log ++ [.recorded w.session.toolCallCount accepted]⟩ := by
  have hnumbers : numbers (w.log ++ [.recorded w.session.toolCallCount accepted]) =
      numbers w.log ++ [w.session.toolCallCount] := numbers_append ..
  have hnext := h.numbered.next (by simp [hflight])
  constructor
  · exact h.bound.append _
  · exact h.paid.append rfl
  · constructor
    · rw [hnumbers, List.pairwise_append]
      exact ⟨h.numbered.increasing, List.pairwise_singleton .., by simpa using hnext.2⟩
    · rw [hnumbers]
      intro n hn
      rcases List.mem_append.mp hn with hn | hn
      · exact h.numbered.range n hn
      · rw [List.mem_singleton.mp hn]
        exact ⟨hnext.1, Nat.le_refl _⟩
    · intro hnone
      cases hnone
  · exact h.kept.append (by simp) rfl
  · intro hstopped
    rcases stopped_append.mp hstopped with hbefore | hnow
    · exact h.stopped hbefore
    · refine hclosed ?_
      simpa [Stopped, eq_comm] using hnow

lemma Inv.land (h : Inv o b w) : Inv o b ⟨w.session, none, w.log⟩ := by
  constructor
  · exact h.bound
  · exact h.paid
  · have hnumbered : Numbered ⟨w.session, none, w.log ++ []⟩ := h.numbered.append rfl rfl
    simpa using hnumbered
  · have hkept : Kept o ⟨w.session, none, w.log ++ []⟩ := h.kept.append (by simp) rfl
    simpa using hkept
  · exact h.stopped

lemma lookup_keep {results : List (String × String × AgentToolBridgeResult)}
    {k key : String} {entry entry' : String × AgentToolBridgeResult}
    (hfree : results.lookup key = none) (hk : results.lookup k = some entry) :
    ((key, entry') :: results).lookup k = some entry := by
  have hne : (k == key) = false := by
    rw [beq_eq_false_iff_ne]
    rintro rfl
    rw [hfree] at hk
    cases hk
  rw [List.lookup_cons, hne, hk]

lemma Inv.keep (h : Inv o b w) (hkey : logicalKey o f.call = .ok f.logicalKey)
    (hfree : ∀ k, f.logicalKey = some k → w.session.idempotentResults.lookup k = none)
    (result : AgentToolBridgeResult) :
    Inv o b ⟨AgentBridge.keep w.session f result, none, w.log ++ [.returned f.call result]⟩ := by
  have hpaid : Paid b (w.log ++ [.returned f.call result]) w.session := h.paid.append rfl
  have hbound := h.bound.append [.returned f.call result]
  have hstopped : Stopped (w.log ++ [.returned f.call result]) → w.session.closed = true :=
    fun hstopped => h.stopped (by simpa [Stopped] using hstopped)
  rw [AgentBridge.keep]
  cases hlogical : f.logicalKey with
  | none =>
    refine ⟨hbound, hpaid, h.numbered.append rfl rfl, ?_, hstopped⟩
    constructor
    · intro c r hreturned
      rcases List.mem_append.mp hreturned with hbefore | hnow
      · exact h.kept.results c r hbefore
      · cases List.mem_singleton.mp hnow
        exact ⟨none, hlogical ▸ hkey, by simp⟩
    · intro f hf
      cases hf
  | some key =>
    refine ⟨hbound, ⟨hpaid.1, hpaid.2, hpaid.3, hpaid.4, hpaid.5, hpaid.6⟩, h.numbered.append rfl rfl,
      ?_, hstopped⟩
    constructor
    · intro c r hreturned
      rcases List.mem_append.mp hreturned with hbefore | hnow
      · obtain ⟨key', hkey', hlookup⟩ := h.kept.results c r hbefore
        exact ⟨key', hkey', fun k hk => lookup_keep (hfree key hlogical) (hlookup k hk)⟩
      · cases List.mem_singleton.mp hnow
        refine ⟨some key, hlogical ▸ hkey, ?_⟩
        rintro _ ⟨⟩
        exact List.lookup_cons_self
    · intro f hf
      cases hf

lemma Inv.shut (h : Inv o b w) (extra : List Entry) (hforwards : forwards extra = [])
    (hnumbers : numbers extra = []) (hreturned : ∀ c r, .returned c r ∉ extra) :
    Inv o b ⟨AgentBridge.shut w.session, w.flight, w.log ++ extra⟩ := by
  have hpaid := h.paid.append hforwards
  have hsame : numbers (w.log ++ extra) = numbers w.log := by
    rw [numbers_append, hnumbers, List.append_nil]
  constructor
  · exact h.bound.append _
  · exact ⟨hpaid.1, hpaid.2, hpaid.3, hpaid.4, hpaid.5, hpaid.6⟩
  · constructor
    · rw [hsame]
      exact h.numbered.increasing
    · rw [hsame]
      exact h.numbered.range
    · rw [hsame]
      exact h.numbered.next
  · constructor
    · intro c result hlog
      exact h.kept.results c result ((List.mem_append.mp hlog).resolve_right (hreturned c result))
    · exact h.kept.flight
  · exact fun _ => rfl

lemma Inv.finish (h : Inv o b w) (hflight : w.flight = some f) (hopen : w.session.closed = false)
    {response : AgentToolForwardResponse} {accepts : Bool} :
    Inv o b (AgentBridge.finish b f (w.log ++ [.answered f.call response]) accepts
      (settle o w.session f response)) := by
  have hrebound : Rebound o f.call response w.session (settle o w.session f response).1 :=
    rebound_settle f
  have hanswered := h.answer hflight hopen hrebound
  obtain ⟨hkey, hfree⟩ := hanswered.kept.flight f rfl
  generalize settle o w.session f response = settled at hanswered hfree ⊢
  obtain ⟨s, outcome⟩ := settled
  cases outcome with
  | error e => exact hanswered.refuse f.call e
  | ok result =>
    rw [AgentBridge.finish]
    split_ifs with hobserved haccepts
    · have hrecorded := hanswered.record rfl true (by simp)
      simpa using hrecorded.keep hkey hfree result
    · have hshut := hanswered.shut [] rfl rfl (by simp)
      have hrecorded := hshut.record rfl false (fun _ => rfl)
      simpa [AgentBridge.shut] using hrecorded.refuse f.call ledgerUnavailable
    · exact hanswered.land.keep hkey hfree result

lemma inv_step (h : Inv o b w) (e : Event) : Inv o b (step o b w e) := by
  cases e with
  | invoke c =>
    rw [step]
    split_ifs with hbusy
    · exact h
    · exact h.invoke c
  | answer response accepts =>
    rw [step]
    split
    · exact h
    · next f hflight =>
      split_ifs with hclosed
      · exact h.refuse f.call _
      · exact h.finish hflight (by simpa using hclosed)
  | transportFails =>
    rw [step]
    split
    · exact h
    · next f _ => exact h.refuse f.call .transport
  | close => exact h.shut [.closed] rfl rfl (by simp)

lemma inv_run (o : Outside) (b : Bridge) (events : List Event) : Inv o b (run o b events) :=
  List.foldlRecOn events (step o b) (inv_start o b) fun _ h e _ => inv_step h e

end Runs

section News

variable {o : Outside} {b : Bridge} {w : World} {c : ToolCall}

lemma news_eq {e : Event} {extra : List Entry} (h : (step o b w e).log = w.log ++ extra) :
    news o b w e = extra := by
  rw [news, h, List.drop_left]

lemma news_busy (h : w.flight.isSome = true) : news o b w (.invoke c) = [] := by
  apply news_eq
  rw [step, if_pos h, List.append_nil]

lemma step_invoke (h : w.flight = none) :
    step o b w (.invoke c) = noteInvoke w c (invoke o b w.session c) := by
  rw [step, if_neg (by simp [h])]

lemma news_refused (h : w.flight = none) {s : Session} {e : BridgeFailure}
    (hinvoke : invoke o b w.session c = (s, .refused e)) :
    news o b w (.invoke c) = [.refused c e] := by
  apply news_eq
  rw [step_invoke h, hinvoke]
  rfl

lemma news_replayed (h : w.flight = none) {s : Session} {result : AgentToolBridgeResult}
    (hinvoke : invoke o b w.session c = (s, .replayed result)) :
    news o b w (.invoke c) = [.replayed c result] := by
  apply news_eq
  rw [step_invoke h, hinvoke]
  rfl

lemma news_answer {response : AgentToolForwardResponse} {accepts : Bool} :
    ∀ x ∈ news o b w (.answer response accepts), (∀ c request, x ≠ .forwarded c request) ∧
      (w.session.closed = true → x.silent) := by
  cases hflight : w.flight with
  | none =>
    have hnews : news o b w (.answer response accepts) = [] := by
      apply news_eq
      simp only [step, hflight, List.append_nil]
    simp [hnews]
  | some f =>
    cases hclosed : w.session.closed with
    | true =>
      have hnews : news o b w (.answer response accepts) = [.refused f.call afterBridgeRevocation] := by
        apply news_eq
        simp only [step, hflight, hclosed, if_true]
      simp [hnews, Entry.silent]
    | false =>
      have hlog : ∃ extra, (step o b w (.answer response accepts)).log =
          w.log ++ .answered f.call response :: extra ∧
          ∀ x ∈ extra, ∀ c request, x ≠ .forwarded c request := by
        simp only [step, hflight, hclosed, Bool.false_eq_true, if_false]
        rcases settle o w.session f response with ⟨s, e | result⟩
        · exact ⟨_, by rw [finish, List.append_assoc, List.singleton_append], by simp⟩
        · rw [finish]
          split_ifs
          all_goals exact ⟨_, by rw [List.append_assoc, List.singleton_append], by simp⟩
      obtain ⟨extra, hlog, hextra⟩ := hlog
      rw [news_eq hlog]
      simpa using hextra

lemma news_fails :
    ∀ x ∈ news o b w .transportFails, x.silent := by
  cases hflight : w.flight with
  | none =>
    have hnews : news o b w .transportFails = [] := by
      apply news_eq
      simp only [step, hflight, List.append_nil]
    simp [hnews]
  | some f =>
    have hnews : news o b w .transportFails = [.refused f.call .transport] := by
      apply news_eq
      simp only [step, hflight]
    simp [hnews, Entry.silent]

lemma news_close : news o b w .close = [.closed] := news_eq rfl

lemma forwarded_lawful (h : Inv o b w) {e : Event} {request : AgentToolForwardRequest}
    (hnew : .forwarded c request ∈ news o b w e) : Lawful o b w.log c request := by
  cases e with
  | invoke c' =>
    cases hflight : w.flight with
    | some f => simp [news_busy (w := w) (by simp [hflight])] at hnew
    | none =>
      have hcases := invoke_cases o b w.session c'
      generalize hbegun : invoke o b w.session c' = begun at hcases
      cases hcases with
      | refused e => simp [news_refused hflight hbegun] at hnew
      | replayed hadmission hreplay => simp [news_replayed hflight hbegun] at hnew
      | spent e hused => simp [news_refused hflight hbegun] at hnew
      | @sent _ _ sent hadmission hreplay hused hrequest =>
        have hnews : news o b w (.invoke c') = [.forwarded c' sent] := by
          apply news_eq
          rw [step_invoke hflight, hbegun]
          rfl
        rw [hnews, List.mem_singleton] at hnew
        cases hnew
        obtain ⟨-, ⟨haware, hdeadline⟩, hparameters, -⟩ := admission_ok hadmission
        exact ⟨haware, hdeadline, _, h.bound.parameters hparameters, buildRequest_path hrequest⟩
  | answer response accepts => exact absurd rfl ((news_answer _ hnew).1 c request)
  | transportFails => exact absurd (news_fails _ hnew) id
  | close => simp [news_close] at hnew

lemma silent_when_closed (hclosed : w.session.closed = true) (e : Event) :
    ∀ x ∈ news o b w e, x.silent := by
  cases e with
  | invoke c =>
    cases hflight : w.flight with
    | some f => simp [news_busy (w := w) (by simp [hflight])]
    | none =>
      have hadmission : admission o b w.session c =
          .error (.rejected "TOOL_UNAVAILABLE: agent bridge is closed") := by
        rw [admission, require_false (by simp [hclosed])]
        rfl
      simp [news_refused hflight (invoke_refused o b w.session c hadmission), Entry.silent]
  | answer response accepts => exact fun x hx => (news_answer x hx).2 hclosed
  | transportFails => exact news_fails
  | close => simp [news_close, Entry.silent]

/-- The two payloads are not a collision of the digest. -/
def DigestTells (c c' : ToolCall) : Prop :=
  fingerprint c = fingerprint c' → stablePayload c = stablePayload c'

lemma stablePayload_eq {c c' : ToolCall} (hoperation : c'.operation = c.operation) :
    stablePayload c' = stablePayload c ↔ Json.Alike c'.arguments.json c.arguments.json := by
  rw [stablePayload, stablePayload, hoperation, String.append_right_inj]
  exact Json.sortedDumps_eq c'.arguments.distinct c.arguments.distinct

lemma logicalKey_congr {c c' : ToolCall} (hoperation : c'.operation = c.operation)
    (hkey : c'.idempotencyKey = c.idempotencyKey) : logicalKey o c' = logicalKey o c := by
  rw [logicalKey, logicalKey, hoperation, hkey]

lemma logicalKey_some {key : Option String} (h : logicalKey o c = .ok key)
    (hkey : c.idempotencyKey.isSome) : ∃ k, key = some k := by
  rw [logicalKey] at h
  split_ifs at h
  · split at h
    · cases h
    · obtain ⟨_, -, h⟩ := bind_ok.mp h
      obtain ⟨_, -, h⟩ := bind_ok.mp h
      exact ⟨_, (Except.ok.inj h).symm⟩
  · split at h
    · next hnone => simp [hnone] at hkey
    · cases h

/-- A call under the operation and key of a call that returned a result gets that result,
when it is admitted and its arguments are the same, and is refused otherwise. -/
lemma repeat_answered (h : Inv o b w) (hidle : w.flight = none) {c c' : ToolCall}
    {result : AgentToolBridgeResult} (hreturned : .returned c' result ∈ w.log)
    (hoperation : c'.operation = c.operation) (hkey : c'.idempotencyKey = c.idempotencyKey)
    (hsome : c.idempotencyKey.isSome) :
    (∀ e, admission o b w.session c = .error e → news o b w (.invoke c) = [.refused c e]) ∧
    ∀ admitted, admission o b w.session c = .ok admitted →
      (Json.Alike c'.arguments.json c.arguments.json → news o b w (.invoke c) = [.replayed c result]) ∧
      (¬ Json.Alike c'.arguments.json c.arguments.json → DigestTells c' c →
        news o b w (.invoke c) =
          [.refused c (.rejected "IDEMPOTENCY_CONFLICT: tool call payload changed")]) := by
  refine ⟨fun e he => news_refused hidle (invoke_refused o b w.session c he), fun admitted hadmission => ?_⟩
  obtain ⟨key, hlogical, hstored⟩ := h.kept.results c' result hreturned
  have hown := (admission_ok hadmission).2.2.2
  rw [← logicalKey_congr hoperation hkey, hlogical, Except.ok.injEq] at hown
  obtain ⟨k, rfl⟩ := logicalKey_some hlogical (hkey ▸ hsome)
  have hreplay := replayOf_stored (c := c) (hstored k rfl)
  rw [hown] at hreplay
  have hinvoke := invoke_replay o b w.session c hadmission
  constructor
  · intro halike
    have hprint : fingerprint c' = fingerprint c := by
      rw [fingerprint, fingerprint, (stablePayload_eq hoperation).mpr halike]
    rw [if_pos hprint] at hreplay
    exact news_replayed hidle (hinvoke.2 result hreplay)
  · intro hdiffer htells
    have hprint : fingerprint c' ≠ fingerprint c := fun hsame =>
      hdiffer ((stablePayload_eq hoperation).mp (htells hsame))
    rw [if_neg hprint] at hreplay
    exact news_refused hidle (hinvoke.1 _ hreplay)

end News

/-- In every run of a bridge: the forwarded requests stay within the three budgets, the
sequence numbers given to the ledger grow, and whatever happens next, a request goes out in
time and on the bound path, a repeated call is answered from what its first call returned,
and nothing gets out after `close` or a failure of the ledger. -/
theorem bridge_keeps_budget_and_binding (o : Outside) (b : Bridge) (events : List Event) :
    ((forwards (run o b events).log).length ≤ b.job.budget.maxToolCalls ∧
      (∀ operation, (forwards (run o b events).log).countP (fun c => c.operation = operation) ≤
        (toolRegistry operation).maxCallsPerRun) ∧
      (forwards (run o b events).log).countP (fun c => isMutation c.operation) ≤
        b.job.budget.maxToolMutations) ∧
    ((numbers (run o b events).log).Pairwise (· < ·) ∧
      ∀ n ∈ numbers (run o b events).log, 1 ≤ n ∧ n ≤ b.job.budget.maxToolCalls) ∧
    (∀ e c request, .forwarded c request ∈ news o b (run o b events) e →
      Lawful o b (run o b events).log c request) ∧
    (∀ c c' result, (run o b events).flight = none → .returned c' result ∈ (run o b events).log →
      c'.operation = c.operation → c'.idempotencyKey = c.idempotencyKey → c.idempotencyKey.isSome →
      (∀ e, admission o b (run o b events).session c = .error e →
        news o b (run o b events) (.invoke c) = [.refused c e]) ∧
      ∀ admitted, admission o b (run o b events).session c = .ok admitted →
        (Json.Alike c'.arguments.json c.arguments.json →
          news o b (run o b events) (.invoke c) = [.replayed c result]) ∧
        (¬ Json.Alike c'.arguments.json c.arguments.json → DigestTells c' c →
          news o b (run o b events) (.invoke c) =
            [.refused c (.rejected "IDEMPOTENCY_CONFLICT: tool call payload changed")])) ∧
    (Stopped (run o b events).log → ∀ e, ∀ x ∈ news o b (run o b events) e, x.silent) := by
  have h := inv_run o b events
  refine ⟨⟨h.paid.calls.trans h.paid.callBudget,
    fun operation => (h.paid.operations operation).trans (h.paid.operationBudget operation),
    h.paid.mutations.trans h.paid.mutationBudget⟩, ⟨h.numbered.increasing, fun n hn => ?_⟩, ?_, ?_, ?_⟩
  · obtain ⟨hfirst, hlast⟩ := h.numbered.range n hn
    exact ⟨hfirst, hlast.trans h.paid.callBudget⟩
  · exact fun e c request hnew => forwarded_lawful h hnew
  · exact fun c c' result hidle hreturned hoperation hkey hsome =>
      repeat_answered h hidle hreturned hoperation hkey hsome
  · exact fun hstopped => silent_when_closed (h.stopped hstopped)

def lenient : Outside where
  schemas := ⟨fun _ _ => [], fun _ _ => [], fun _ _ => []⟩
  jwtEncode := fun _ key => key
  isalnum := Char.isAlphanum
  isdigit := fun text => text.toList.all Char.isDigit
  int := String.toInt?

lemma shadowMorning_lt : 739500 * dayMicros < wallLimit := by decide

def shadowMorning : Datetime := .ofUtc (739500 * dayMicros) shadowMorning_lt

def shadowDeadline : Datetime := .ofUtc (739500 * dayMicros + 20000000) (by decide)

def shadowJob : AgentRunJob where
  runId := .ofNat 1
  organizationId := .ofNat 2
  storeId := .ofNat 3
  channel := "INTERNAL_TEST"
  conversationBindingId := .ofNat 4
  contactBindingId := .ofNat 5
  capability := .internalShadow
  stage := .shadow
  dataClassification := .synthetic
  startedAt := shadowMorning
  deadlineAt := shadowDeadline
  correlationId := .ofNat 6
  orderRequestId := none
  publicCode := none
  rowVersion := 0
  bindingId := .ofNat 7
  aware := by decide
  bounded := by decide
  versioned := by decide
  coded := rfl

def sessionToken : String := "aaaaaaaaaaaaaaaaaaaaaaaaaaaaaaaa"

def shadowBridge : Bridge where
  job := shadowJob
  bridgeToken := sessionToken
  issuer := ⟨"https://control-plane.test", "agent-tool-facade", "key", 20, by decide, by decide⟩
  observed := true
  secret := by decide

def createCall (token : String) : ToolCall where
  operation := .orderRequestCreate
  arguments := ⟨[("locale", .str "vi-VN")], by simp [Json.distinct, Json.distinctFields]⟩
  bridgeToken := token
  bindingId := .ofNat 7
  routePathParameters := []
  idempotencyKey := some "tool-call-identity-0001"
  now := shadowMorning
  jti := .ofNat 8

def createdResponse : AgentToolForwardResponse :=
  ⟨201, [], .obj [("data", .obj [("order_request_id", .str (Uuid.ofNat 9).str),
    ("row_version", .int 1)])]⟩

def created : List Event := [.invoke (createCall sessionToken), .answer createdResponse true]

def createFlight : Flight :=
  ⟨createCall sessionToken, some "orderRequestCreate:tool-call-identity-0001"⟩

def paid : Session :=
  { opened shadowJob with
    toolCallCount := 0 + 1
    operationCounts := fun other => 0 + if other = .orderRequestCreate then 1 else 0
    mutationCount := 0 + 1 }

lemma created_returned : ∃ result, .returned (createCall sessionToken) result ∈
    (run lenient shadowBridge created).log ∧ (run lenient shadowBridge created).flight = none := by
  have hadmission : admission lenient shadowBridge (opened shadowJob) (createCall sessionToken) =
      .ok ⟨[], createFlight.logicalKey⟩ := by decide
  have hreplay : replayOf (opened shadowJob) createFlight.logicalKey
      (fingerprint (createCall sessionToken)) = .ok none := rfl
  have hused : consumeBudget shadowBridge.job (opened shadowJob) (createCall sessionToken).operation =
      .ok paid := rfl
  obtain ⟨request, hrequest⟩ := exists_ok
    (x := buildRequest lenient shadowBridge paid (createCall sessionToken) []) (by decide)
  obtain ⟨result, hresult⟩ := exists_ok
    (x := (settle lenient paid createFlight createdResponse).2) (by decide)
  have hinvoke : invoke lenient shadowBridge (opened shadowJob) (createCall sessionToken) =
      (paid, .sent request createFlight) := by
    simp only [invoke, hadmission, hreplay, hused, hrequest]
    rfl
  have hfirst : step lenient shadowBridge (start shadowBridge) (.invoke (createCall sessionToken)) =
      ⟨paid, some createFlight, [.forwarded (createCall sessionToken) request]⟩ := by
    rw [step_invoke rfl, show (start shadowBridge).session = opened shadowJob from rfl, hinvoke]
    rfl
  have hsettle : settle lenient paid createFlight createdResponse =
      ((settle lenient paid createFlight createdResponse).1, .ok result) := Prod.ext rfl hresult
  have hsecond : step lenient shadowBridge
      ⟨paid, some createFlight, [.forwarded (createCall sessionToken) request]⟩
      (.answer createdResponse true) =
      finish shadowBridge createFlight [.forwarded (createCall sessionToken) request,
        .answered createFlight.call createdResponse] true
        (settle lenient paid createFlight createdResponse) := rfl
  refine ⟨result, ?_⟩
  rw [run, created, List.foldl_cons, List.foldl_cons, List.foldl_nil, hfirst, hsecond, hsettle]
  exact ⟨by simp [finish, shadowBridge, createFlight], rfl⟩

/-- A repetition with the wrong bridge token is refused, not answered. -/
theorem repeat_refused_with_wrong_token : ¬ ∀ (o : Outside) (b : Bridge) (events : List Event)
    (c c' : ToolCall) (result : AgentToolBridgeResult), (run o b events).flight = none →
    .returned c' result ∈ (run o b events).log → c'.operation = c.operation →
    c'.idempotencyKey = c.idempotencyKey → c.idempotencyKey.isSome →
    Json.Alike c'.arguments.json c.arguments.json →
    news o b (run o b events) (.invoke c) = [.replayed c result] := by
  intro hclaim
  obtain ⟨result, hreturned, hidle⟩ := created_returned
  have hanswer := hclaim lenient shadowBridge created (createCall "wrong") (createCall sessionToken) result
    hidle hreturned rfl rfl rfl rfl
  have hwrong : verifyExecutor shadowBridge (createCall "wrong") =
      .error (.rejected "POLICY_DENIED: bridge credential rejected") := by decide
  have hadmission : ∃ e, admission lenient shadowBridge (run lenient shadowBridge created).session
      (createCall "wrong") = .error e := by
    rw [admission]
    cases (run lenient shadowBridge created).session.closed with
    | true => exact ⟨_, rfl⟩
    | false =>
      rw [hwrong]
      exact ⟨_, rfl⟩
  obtain ⟨e, he⟩ := hadmission
  rw [news_refused hidle (invoke_refused _ _ _ _ he)] at hanswer
  cases hanswer

end NhaTrangLaundry.Worker.AgentBridge
