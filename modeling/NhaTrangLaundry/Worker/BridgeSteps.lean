import NhaTrangLaundry.Worker.AgentBridge

/-! What one call can do to a bridge session. -/

namespace NhaTrangLaundry.Worker.AgentBridge

open Lib Outcome Contracts Domain.Catalog
open StrEnum (value)

section Checks

variable {o : Outside} {b : Bridge} {s used : Session} {c : ToolCall}

lemma compareDigest_eq {x y : String} (hx : Text.ascii x) (hy : Text.ascii y) :
    compareDigest x y = .ok (decide (x = y)) := by
  rw [compareDigest, require_true ⟨hx, hy⟩]
  rfl

lemma verifyExecutor_ok {u : Unit} (h : verifyExecutor b c = .ok u) :
    c.now.aware ∧ c.now.instant ≤ b.job.deadlineAt.instant := by
  obtain ⟨_, haware, h⟩ := bind_ok.mp h
  obtain ⟨_, hdeadline, -⟩ := bind_ok.mp h
  exact ⟨require_ok.mp haware, require_ok.mp hdeadline⟩

lemma admission_ok {admitted : Admitted} (h : admission o b s c = .ok admitted) :
    s.closed = false ∧ (c.now.aware ∧ c.now.instant ≤ b.job.deadlineAt.instant) ∧
      expectedPathParameters s c.operation = .ok admitted.parameters ∧
      logicalKey o c = .ok admitted.logicalKey := by
  obtain ⟨_, hopen, h⟩ := bind_ok.mp h
  obtain ⟨_, hexecutor, h⟩ := bind_ok.mp h
  obtain ⟨claims, -, h⟩ := bind_ok.mp h
  obtain ⟨_, -, h⟩ := bind_ok.mp h
  obtain ⟨expected, hexpected, h⟩ := bind_ok.mp h
  obtain ⟨_, -, h⟩ := bind_ok.mp h
  obtain ⟨_, -, h⟩ := bind_ok.mp h
  obtain ⟨key, hkey, h⟩ := bind_ok.mp h
  cases h
  exact ⟨require_ok.mp hopen, verifyExecutor_ok hexecutor, hexpected, hkey⟩

lemma replayOf_none {key : Option String} {print : String} (h : replayOf s key print = .ok none) :
    ∀ k, key = some k → s.idempotentResults.lookup k = none := by
  rintro k rfl
  cases hstored : s.idempotentResults.lookup k with
  | none => rfl
  | some stored =>
    rw [replayOf, Option.bind_some, hstored] at h
    obtain ⟨same, -, h⟩ := bind_ok.mp h
    obtain ⟨_, -, h⟩ := bind_ok.mp h
    cases h

lemma ascii_fingerprint (c : ToolCall) : Text.ascii (fingerprint c) := by
  intro x hx
  obtain ⟨d, hd, rfl⟩ := (Hashing.sha256_digits _).2 x hx
  exact Text.digitChar_ascii hd

lemma replayOf_stored {key : String} {c' : ToolCall} {result : AgentToolBridgeResult}
    (hstored : s.idempotentResults.lookup key = some (fingerprint c', result)) :
    replayOf s (some key) (fingerprint c) =
      if fingerprint c' = fingerprint c then .ok (some result)
      else .error (.rejected "IDEMPOTENCY_CONFLICT: tool call payload changed") := by
  rw [replayOf, Option.bind_some, hstored]
  simp only [compareDigest_eq (ascii_fingerprint c') (ascii_fingerprint c), ok_bind]
  split_ifs with hsame
  · rw [require_true (decide_eq_true hsame)]
    rfl
  · rw [require_false (by simp [hsame])]
    rfl

lemma consumeBudget_ok {job : AgentRunJob} {operation : AgentToolOperation}
    (h : consumeBudget job s operation = .ok used) :
    s.toolCallCount < job.budget.maxToolCalls ∧
      s.operationCounts operation < (toolRegistry operation).maxCallsPerRun ∧
      (isMutation operation = true → s.mutationCount < job.budget.maxToolMutations) ∧
      used = { s with
        toolCallCount := s.toolCallCount + 1
        operationCounts := fun other =>
          s.operationCounts other + if other = operation then 1 else 0
        mutationCount := s.mutationCount + if isMutation operation then 1 else 0 } := by
  obtain ⟨_, hcalls, h⟩ := bind_ok.mp h
  obtain ⟨_, hoperation, h⟩ := bind_ok.mp h
  obtain ⟨_, hmutation, h⟩ := bind_ok.mp h
  exact ⟨require_ok.mp hcalls, require_ok.mp hoperation, require_ok.mp hmutation,
    (Except.ok.inj h).symm⟩

lemma buildRequest_path {parameters : List (String × String)} {request : AgentToolForwardRequest}
    (h : buildRequest o b s c parameters = .ok request) :
    request.path = String.ofList (fillPath (toolRegistry c.operation).path.toList parameters) := by
  obtain ⟨_, -, h⟩ := bind_ok.mp h
  obtain ⟨_, -, h⟩ := bind_ok.mp h
  obtain ⟨_, -, h⟩ := bind_ok.mp h
  obtain ⟨_, -, h⟩ := bind_ok.mp h
  cases h
  rfl

variable (o b s c)

/-- The ways in which the first part of `invoke` can end. -/
inductive Invoked : Session × Begun → Prop
  | refused (e : BridgeFailure) : Invoked (s, .refused e)
  | replayed {admitted : Admitted} {result : AgentToolBridgeResult}
      (hadmission : admission o b s c = .ok admitted)
      (hreplay : replayOf s admitted.logicalKey (fingerprint c) = .ok (some result)) :
      Invoked (s, .replayed result)
  | spent {used : Session} (e : BridgeFailure)
      (hused : consumeBudget b.job s c.operation = .ok used) : Invoked (used, .refused e)
  | sent {admitted : Admitted} {used : Session} {request : AgentToolForwardRequest}
      (hadmission : admission o b s c = .ok admitted)
      (hreplay : replayOf s admitted.logicalKey (fingerprint c) = .ok none)
      (hused : consumeBudget b.job s c.operation = .ok used)
      (hrequest : buildRequest o b used c admitted.parameters = .ok request) :
      Invoked (used, .sent request ⟨c, admitted.logicalKey⟩)

lemma invoke_cases : Invoked o b s c (invoke o b s c) := by
  rw [invoke]
  split
  · exact .refused _
  · next admitted hadmission =>
    split
    · exact .refused _
    · next result hreplay => exact .replayed hadmission hreplay
    · next hreplay =>
      split
      · exact .refused _
      · next used hused =>
        split
        · next e _ => exact .spent e hused
        · next request hrequest => exact .sent hadmission hreplay hused hrequest

lemma invoke_refused {e : BridgeFailure} (h : admission o b s c = .error e) :
    invoke o b s c = (s, .refused e) := by
  rw [invoke, h]

lemma invoke_replay {admitted : Admitted} (h : admission o b s c = .ok admitted) :
    (∀ e, replayOf s admitted.logicalKey (fingerprint c) = .error e →
      invoke o b s c = (s, .refused e)) ∧
    ∀ result, replayOf s admitted.logicalKey (fingerprint c) = .ok (some result) →
      invoke o b s c = (s, .replayed result) := by
  constructor
  · intro e hreplay
    rw [invoke, h]
    simp only [hreplay]
  · intro result hreplay
    rw [invoke, h]
    simp only [hreplay]

end Checks

/-- The response is the success of a create and names the order request `id`. -/
def CreatedBy (o : Outside) (c : ToolCall) (response : AgentToolForwardResponse) (id : Uuid) : Prop :=
  c.operation = .orderRequestCreate ∧ ∃ result data,
    validatedResult o c.operation response = .ok result ∧ successData result = some data ∧
      createdId data = .ok id

/-- An answer moves the bound request and its version, and nothing else. -/
structure Rebound (o : Outside) (c : ToolCall) (response : AgentToolForwardResponse)
    (s s' : Session) : Prop where
  publicCode : s'.publicCode = s.publicCode
  toolCallCount : s'.toolCallCount = s.toolCallCount
  mutationCount : s'.mutationCount = s.mutationCount
  operationCounts : s'.operationCounts = s.operationCounts
  idempotentResults : s'.idempotentResults = s.idempotentResults
  closed : s'.closed = s.closed
  orderRequestId : s'.orderRequestId = s.orderRequestId ∨
    ∃ id, CreatedBy o c response id ∧ s'.orderRequestId = some id

section Answers

variable {o : Outside} {s s' : Session} {c : ToolCall} {response : AgentToolForwardResponse}

lemma Rebound.refl (s : Session) : Rebound o c response s s :=
  ⟨rfl, rfl, rfl, rfl, rfl, rfl, .inl rfl⟩

lemma Rebound.trans {s'' : Session} (h : Rebound o c response s s')
    (h' : Rebound o c response s' s'') : Rebound o c response s s'' where
  publicCode := h'.publicCode.trans h.publicCode
  toolCallCount := h'.toolCallCount.trans h.toolCallCount
  mutationCount := h'.mutationCount.trans h.mutationCount
  operationCounts := h'.operationCounts.trans h.operationCounts
  idempotentResults := h'.idempotentResults.trans h.idempotentResults
  closed := h'.closed.trans h.closed
  orderRequestId := by
    rcases h'.orderRequestId with hsame | hcreated
    · rw [hsame]
      exact h.orderRequestId
    · exact .inr hcreated

lemma rebound_bindCreated {result : AgentToolBridgeResult} {data : Json}
    (hresult : validatedResult o c.operation response = .ok result)
    (hdata : successData result = some data) (h : bindCreated s c.operation data = .ok s') :
    Rebound o c response s s' := by
  rw [bindCreated] at h
  split_ifs at h with hcreate
  · obtain ⟨id, hid, h⟩ := bind_ok.mp h
    cases h
    exact ⟨rfl, rfl, rfl, rfl, rfl, rfl, .inr ⟨id, ⟨hcreate, result, data, hresult, hdata, hid⟩, rfl⟩⟩
  · cases h
    exact .refl s

lemma rebound_updateVersion {data : Json} {headers : List (String × String)}
    (h : updateVersion o s data headers = .ok s') : Rebound o c response s s' := by
  rw [updateVersion] at h
  split at h
  · cases h
    exact ⟨rfl, rfl, rfl, rfl, rfl, rfl, .inl rfl⟩
  · obtain ⟨version, -, h⟩ := bind_ok.mp h
    cases h
    exact ⟨rfl, rfl, rfl, rfl, rfl, rfl, .inl rfl⟩

lemma rebound_updateBoundState {result : AgentToolBridgeResult} {headers : List (String × String)}
    (hresult : validatedResult o c.operation response = .ok result) :
    Rebound o c response s (updateBoundState o s c.operation result headers).1 := by
  rw [updateBoundState]
  split
  · exact .refl s
  · next data hdata =>
    split
    · exact .refl s
    · next bound hbound =>
      have hcreated := rebound_bindCreated hresult hdata hbound
      split
      · exact hcreated
      · next moved hmoved => exact hcreated.trans (rebound_updateVersion hmoved)

lemma rebound_settle (f : Flight) : Rebound o f.call response s (settle o s f response).1 := by
  rw [settle]
  split
  · exact .refl s
  · next result hresult =>
    have hbound : Rebound o f.call response s
        (updateBoundState o s f.call.operation result response.headers).1 :=
      rebound_updateBoundState hresult
    split
    · next hsame => rwa [hsame] at hbound
    · next hsame => rwa [hsame] at hbound

end Answers

end NhaTrangLaundry.Worker.AgentBridge
