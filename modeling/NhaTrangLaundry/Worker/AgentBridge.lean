import NhaTrangLaundry.Contracts.AgentRunner
import NhaTrangLaundry.Lib.Datetime

/-! The tool bridge of one agent run. The model supplies an operation and its
arguments; the bridge owns the binding, the path, the version and the budgets. -/

namespace NhaTrangLaundry.Worker.AgentBridge

open Lib Outcome Contracts Domain.Catalog
open StrEnum (value)

/-- What other packages compute for the bridge, and the Unicode tables behind `str`. -/
structure Outside where
  schemas : Schemas
  jwtEncode : AgentRunnerClaims → String → String
  isalnum : Char → Bool
  isdigit : String → Bool
  int : String → Option Int

structure AgentIntentBudget where
  maxToolCalls : Nat
  maxToolMutations : Nat

def intentBudgets : ReleaseCapability → AgentIntentBudget
  | .internalShadow => ⟨6, 1⟩
  | .publicFaq => ⟨2, 0⟩
  | .listPriceInfo => ⟨2, 0⟩
  | .intakeQuestion => ⟨4, 1⟩
  | .intakeFactCapture => ⟨4, 1⟩
  | .intakeReceipt => ⟨4, 1⟩
  | .incidentReceipt => ⟨3, 1⟩
  | .orderStatus => ⟨2, 0⟩
  | .slaGuidance => ⟨4, 1⟩
  | .quoteEstimate => ⟨4, 1⟩
  | .booking => ⟨4, 1⟩
  | .deliveryAdvisory => ⟨4, 1⟩
  | .marketingFollowup => ⟨0, 0⟩

/-- `AgentToolBridgeRejected`, and the exceptions `invoke` lets through. -/
inductive BridgeFailure where
  | rejected (message : String)
  | claimsInvalid
  | typeError
  | valueError
  | overflowError
  | transport
deriving DecidableEq

structure AgentRunJob where
  runId : Uuid
  organizationId : Uuid
  storeId : Uuid
  channel : String
  conversationBindingId : Uuid
  contactBindingId : Uuid
  capability : ReleaseCapability
  stage : AgentDeploymentStage
  dataClassification : AgentDataClassification
  startedAt : Datetime
  deadlineAt : Datetime
  correlationId : Uuid
  orderRequestId : Option Uuid
  publicCode : Option String
  rowVersion : Int
  bindingId : Uuid
  aware : startedAt.aware ∧ deadlineAt.aware
  bounded : startedAt.instant < deadlineAt.instant ∧
    deadlineAt.instant - startedAt.instant ≤ 20000000
  versioned : 0 ≤ rowVersion
  coded : validPublicCode publicCode = true

def AgentRunJob.budget (job : AgentRunJob) : AgentIntentBudget := intentBudgets job.capability

structure AgentRunnerTokenIssuer where
  issuer : String
  audience : String
  privateKey : String
  lifetimeSeconds : Int
  named : issuer ≠ "" ∧ audience ≠ "" ∧ privateKey ≠ ""
  bounded : 1 ≤ lifetimeSeconds ∧ lifetimeSeconds ≤ 60

structure AgentToolForwardRequest where
  method : HttpMethod
  path : String
  headers : List (String × String)
  body : Arguments
  timeoutSeconds : Nat

structure AgentToolForwardResponse where
  statusCode : Int
  headers : List (String × String)
  body : Json

structure AgentToolBridgeResult where
  statusCode : Int
  body : Json
  traceId : Option String
  responseHeaders : List (String × String)

structure Bridge where
  job : AgentRunJob
  bridgeToken : String
  issuer : AgentRunnerTokenIssuer
  observed : Bool
  secret : 32 ≤ bridgeToken.length

structure Session where
  orderRequestId : Option Uuid
  publicCode : Option String
  rowVersion : Int
  toolCallCount : Nat
  mutationCount : Nat
  operationCounts : AgentToolOperation → Nat
  idempotentResults : List (String × String × AgentToolBridgeResult)
  closed : Bool

/-- The arguments of `invoke`, and the identifier of the bearer minted for it. -/
structure ToolCall where
  operation : AgentToolOperation
  arguments : Arguments
  bridgeToken : String
  bindingId : Uuid
  routePathParameters : List (String × String)
  idempotencyKey : Option String
  now : Datetime
  jti : Uuid

def opened (job : AgentRunJob) : Session where
  orderRequestId := job.orderRequestId
  publicCode := job.publicCode
  rowVersion := job.rowVersion
  toolCallCount := 0
  mutationCount := 0
  operationCounts := fun _ => 0
  idempotentResults := []
  closed := false

def boundParameter (s : Session) (parameter : String) :
    Except BridgeFailure (String × String) :=
  if parameter = "order_request_id" then
    match s.orderRequestId with
    | none => .error (.rejected "MISSING_REQUIRED_FACT: no bound order request")
    | some id => .ok (parameter, id.str)
  else if parameter = "public_code" then
    match s.publicCode with
    | none => .error (.rejected "MISSING_REQUIRED_FACT: no bound public order code")
    | some code => .ok (parameter, code)
  else .error (.rejected "TOOL_UNAVAILABLE: unsupported bound path parameter")

def expectedPathParameters (s : Session) (operation : AgentToolOperation) :
    Except BridgeFailure (List (String × String)) :=
  (toolRegistry operation).pathParameters.mapM (boundParameter s)

/-- `hmac.compare_digest` of two texts. -/
def compareDigest (a b : String) : Except BridgeFailure Bool := do
  require (Text.ascii a ∧ Text.ascii b) .typeError
  .ok (a = b)

def verifyExecutor (b : Bridge) (c : ToolCall) : Except BridgeFailure Unit := do
  require c.now.aware .typeError
  require (c.now.instant ≤ b.job.deadlineAt.instant)
    (.rejected "TOOL_UNAVAILABLE: agent run deadline exceeded")
  require (c.bindingId = b.job.bindingId) (.rejected "POLICY_DENIED: wrong run binding")
  let same ← compareDigest c.bridgeToken b.bridgeToken
  require (same = true) (.rejected "POLICY_DENIED: bridge credential rejected")

def unixEpoch : Int := 719162 * dayMicros

/-- `int(moment.timestamp())`. -/
def timestamp (moment : Datetime) : Int := (moment.instant - unixEpoch).tdiv 1000000

def runClaims (job : AgentRunJob) (s : Session) (iss aud : String) (iat exp : Int) (jti : Uuid) :
    AgentRunnerClaims where
  iss := iss
  aud := aud
  iat := iat
  exp := exp
  jti := jti
  runId := job.runId
  organizationId := job.organizationId
  storeId := job.storeId
  channel := job.channel
  conversationBindingId := job.conversationBindingId
  contactBindingId := job.contactBindingId
  capability := job.capability
  stage := job.stage
  dataClassification := job.dataClassification
  orderRequestId := s.orderRequestId
  publicCode := s.publicCode

def claimsForAuthorization (b : Bridge) (s : Session) (c : ToolCall) :
    Except BridgeFailure AgentRunnerClaims := do
  let iat := timestamp c.now
  let exp := min (iat + 20) (timestamp b.job.deadlineAt)
  require (iat < exp) (.rejected "TOOL_UNAVAILABLE: agent run deadline exceeded")
  let claims := runClaims b.job s "agent-runner-local" "agent-tool-facade" iat exp c.jti
  require claims.valid .claimsInvalid
  .ok claims

def keyLength (key : String) : Bool := 16 ≤ key.length && key.length ≤ 128

def keyChar (o : Outside) (c : Char) : Bool :=
  o.isalnum c || c = '.' || c = '_' || c = ':' || c = '-'

def logicalKey (o : Outside) (c : ToolCall) : Except BridgeFailure (Option String) :=
  if "Idempotency-Key" ∈ (toolRegistry c.operation).headerParameters then
    match c.idempotencyKey with
    | none => .error (.rejected "VALIDATION_ERROR: idempotency key is required")
    | some key => do
      require (keyLength key = true)
        (.rejected "VALIDATION_ERROR: idempotency key is required")
      require (key.toList.all (keyChar o) = true)
        (.rejected "VALIDATION_ERROR: idempotency key is invalid")
      .ok (some (value c.operation ++ ":" ++ key))
  else
    match c.idempotencyKey with
    | none => .ok none
    | some _ =>
      .error (.rejected "VALIDATION_ERROR: idempotency is not registered for operation")

def stablePayload (c : ToolCall) : String :=
  value c.operation ++ "\x00" ++ Json.sortedDumps c.arguments.json

def fingerprint (c : ToolCall) : String := Hashing.sha256 (stablePayload c)

/-- A call that passed the checks of `invoke` that come before the replay cache. -/
structure Admitted where
  parameters : List (String × String)
  logicalKey : Option String
deriving DecidableEq

def admission (o : Outside) (b : Bridge) (s : Session) (c : ToolCall) :
    Except BridgeFailure Admitted := do
  require (s.closed = false) (.rejected "TOOL_UNAVAILABLE: agent bridge is closed")
  verifyExecutor b c
  let claims ← claimsForAuthorization b s c
  require (operationIsAuthorized claims c.operation)
    (.rejected "POLICY_DENIED: capability does not authorize operation")
  let expected ← expectedPathParameters s c.operation
  require (c.routePathParameters = expected)
    (.rejected "POLICY_DENIED: cross-bound path is rejected")
  let _ ← (validateModelArguments o.schemas c.operation c.arguments).mapError
    fun e => .rejected e.message
  let key ← logicalKey o c
  .ok ⟨expected, key⟩

def replayOf (s : Session) (key : Option String) (print : String) :
    Except BridgeFailure (Option AgentToolBridgeResult) :=
  match key.bind fun key => s.idempotentResults.lookup key with
  | none => .ok none
  | some (stored, result) => do
    let same ← compareDigest stored print
    require (same = true) (.rejected "IDEMPOTENCY_CONFLICT: tool call payload changed")
    .ok (some result)

def isMutation (operation : AgentToolOperation) : Bool :=
  (toolRegistry operation).sideEffect = .reversibleWrite

def consumeBudget (job : AgentRunJob) (s : Session) (operation : AgentToolOperation) :
    Except BridgeFailure Session := do
  require (s.toolCallCount < job.budget.maxToolCalls)
    (.rejected "REQUIRE_HUMAN: tool-call budget exhausted")
  require (s.operationCounts operation < (toolRegistry operation).maxCallsPerRun)
    (.rejected "REQUIRE_HUMAN: operation call budget exhausted")
  require (isMutation operation = true → s.mutationCount < job.budget.maxToolMutations)
    (.rejected "REQUIRE_HUMAN: tool mutation budget exhausted")
  .ok { s with
    toolCallCount := s.toolCallCount + 1
    operationCounts := fun other => s.operationCounts other + if other = operation then 1 else 0
    mutationCount := s.mutationCount + if isMutation operation then 1 else 0 }

def unreserved (byte : Nat) : Bool :=
  (Char.ofNat byte).isAlphanum || byte = 95 || byte = 46 || byte = 45 || byte = 126

/-- `quote(value, safe="")`. -/
def quote (text : String) : List Char :=
  (Hashing.encode text).flatMap fun byte =>
    if unreserved byte then [Char.ofNat byte]
    else '%' :: (Text.padded 16 2 byte).map Char.toUpper

/-- `text.replace(old, new)`, the first `k` characters passed over. -/
def replaceFrom (old new : List Char) : Nat → List Char → List Char
  | _, [] => []
  | k + 1, _ :: cs => replaceFrom old new k cs
  | 0, c :: cs =>
    if old.isPrefixOf (c :: cs) then new ++ replaceFrom old new (old.length - 1) cs
    else c :: replaceFrom old new 0 cs

def fillPath (path : List Char) (parameters : List (String × String)) : List Char :=
  parameters.foldl
    (fun path p => replaceFrom ('{' :: p.1.toList ++ ['}']) (quote p.2) 0 path) path

def issue (o : Outside) (b : Bridge) (s : Session) (c : ToolCall) : Except BridgeFailure String := do
  let lapse ← ofOption .overflowError (c.now.addMicros (b.issuer.lifetimeSeconds * 1000000))
  let expires := if lapse.instant ≤ b.job.deadlineAt.instant then lapse else b.job.deadlineAt
  require (timestamp c.now < timestamp expires)
    (.rejected "TOOL_UNAVAILABLE: runner bearer lifetime exhausted")
  let claims := runClaims b.job s b.issuer.issuer b.issuer.audience (timestamp c.now)
    (timestamp expires) c.jti
  require claims.valid .claimsInvalid
  .ok (o.jwtEncode claims b.issuer.privateKey)

def correlationHeader : String := "X-Correlation-ID"

def idempotencyHeader (job : AgentRunJob) (c : ToolCall) :
    Except BridgeFailure (List (String × String)) :=
  if "Idempotency-Key" ∈ (toolRegistry c.operation).headerParameters then
    match c.idempotencyKey with
    | none => .error (.rejected "VALIDATION_ERROR: idempotency key is required")
    | some key =>
      let digest := Hashing.sha256 (job.runId.str ++ "\x00" ++ value c.operation ++ "\x00" ++ key)
      .ok [("Idempotency-Key", "agt-" ++ String.ofList (digest.toList.take 48))]
  else .ok []

def ifMatchHeader (s : Session) (c : ToolCall) : Except BridgeFailure (List (String × String)) :=
  if "If-Match" ∈ (toolRegistry c.operation).headerParameters then do
    require (1 ≤ s.rowVersion)
      (.rejected "STALE_VERSION: bound aggregate has no mutable version")
    .ok [("If-Match", "\"" ++ toString s.rowVersion ++ "\"")]
  else .ok []

def buildRequest (o : Outside) (b : Bridge) (s : Session) (c : ToolCall)
    (parameters : List (String × String)) : Except BridgeFailure AgentToolForwardRequest := do
  let path := fillPath (toolRegistry c.operation).path.toList parameters
  require ('{' ∉ path) (.rejected "TOOL_UNAVAILABLE: unresolved server path binding")
  let bearer ← issue o b s c
  let idempotency ← idempotencyHeader b.job c
  let ifMatch ← ifMatchHeader s c
  .ok {
    method := (toolRegistry c.operation).method
    path := String.ofList path
    headers := [("Authorization", "Bearer " ++ bearer), ("Accept", "application/json"),
      (correlationHeader, b.job.correlationId.str)] ++ idempotency ++ ifMatch
    body := c.arguments
    timeoutSeconds := 3 }

structure Flight where
  call : ToolCall
  logicalKey : Option String

inductive Begun where
  | refused (e : BridgeFailure)
  | replayed (result : AgentToolBridgeResult)
  | sent (request : AgentToolForwardRequest) (flight : Flight)

/-- `invoke` up to the transport. A request that cannot be built has used its budget. -/
def invoke (o : Outside) (b : Bridge) (s : Session) (c : ToolCall) : Session × Begun :=
  match admission o b s c with
  | .error e => (s, .refused e)
  | .ok admitted =>
    match replayOf s admitted.logicalKey (fingerprint c) with
    | .error e => (s, .refused e)
    | .ok (some result) => (s, .replayed result)
    | .ok none =>
      match consumeBudget b.job s c.operation with
      | .error e => (s, .refused e)
      | .ok used =>
        match buildRequest o b used c admitted.parameters with
        | .error e => (used, .refused e)
        | .ok request => (used, .sent request ⟨c, admitted.logicalKey⟩)

def textOf : Json → Option String
  | .str text => some text
  | _ => none

def validatedBody (o : Outside) (operation : AgentToolOperation)
    (response : AgentToolForwardResponse) : Except BridgeFailure Json :=
  if response.statusCode = (toolRegistry operation).successStatus then
    (validateSuccessResponse o.schemas operation response.body).mapError
      fun _ => .rejected "TOOL_UNAVAILABLE: invalid facade response"
  else if 400 ≤ response.statusCode ∧ response.statusCode ≤ 599 then
    (validateErrorResponse o.schemas operation response.body).mapError
      fun _ => .rejected "TOOL_UNAVAILABLE: invalid facade response"
  else .error (.rejected "TOOL_UNAVAILABLE: facade returned invalid status")

def validatedResult (o : Outside) (operation : AgentToolOperation)
    (response : AgentToolForwardResponse) : Except BridgeFailure AgentToolBridgeResult := do
  let body ← validatedBody o operation response
  .ok ⟨response.statusCode, body, (body.get? "trace_id").bind textOf, response.headers⟩

def etagOf (headers : List (String × String)) : Option String :=
  match headers.lookup "ETag" with
  | some etag => if etag = "" then headers.lookup "etag" else some etag
  | none => headers.lookup "etag"

def quoted (etag : String) : Option String :=
  if 3 ≤ etag.length ∧ etag.toList.head? = some '"' ∧ etag.toList.getLast? = some '"' then
    some (String.ofList etag.toList.tail.dropLast)
  else none

def versionOf (data : Json) : Option Int :=
  match data.get? "row_version" with
  | some (.int version) => if 1 ≤ version then some version else none
  | _ => none

def tagVersion (o : Outside) (headers : List (String × String)) :
    Except BridgeFailure (Option Int) :=
  match (etagOf headers).bind quoted with
  | none => .ok none
  | some text =>
    if o.isdigit text then
      match o.int text with
      | none => .error .valueError
      | some version => .ok (if 1 ≤ version then some version else none)
    else .ok none

def createdId (data : Json) : Except BridgeFailure Uuid :=
  match data.get? "order_request_id" with
  | some (.str text) =>
    ofOption (.rejected "TOOL_UNAVAILABLE: invalid created request") (Uuid.ofText text)
  | _ => .error (.rejected "TOOL_UNAVAILABLE: create response missing bound request")

def updateVersion (o : Outside) (s : Session) (data : Json) (headers : List (String × String)) :
    Except BridgeFailure Session :=
  match versionOf data with
  | some version => .ok { s with rowVersion := version }
  | none => do
    let version ← tagVersion o headers
    .ok { s with rowVersion := version.getD s.rowVersion }

def bindCreated (s : Session) (operation : AgentToolOperation) (data : Json) :
    Except BridgeFailure Session :=
  if operation = .orderRequestCreate then do
    let id ← createdId data
    .ok { s with orderRequestId := some id }
  else .ok s

/-- The mapping under `data` of a result that succeeded. -/
def successData (result : AgentToolBridgeResult) : Option Json :=
  if 200 ≤ result.statusCode ∧ result.statusCode < 300 then
    match result.body.get? "data" with
    | some (.obj fields) => some (.obj fields)
    | _ => none
  else none

/-- The created request stays bound when reading the version raises. -/
def updateBoundState (o : Outside) (s : Session) (operation : AgentToolOperation)
    (result : AgentToolBridgeResult) (headers : List (String × String)) :
    Session × Except BridgeFailure Unit :=
  match successData result with
  | none => (s, .ok ())
  | some data =>
    match bindCreated s operation data with
    | .error e => (s, .error e)
    | .ok bound =>
      match updateVersion o bound data headers with
      | .error e => (bound, .error e)
      | .ok moved => (moved, .ok ())

def settle (o : Outside) (s : Session) (f : Flight) (response : AgentToolForwardResponse) :
    Session × Except BridgeFailure AgentToolBridgeResult :=
  match validatedResult o f.call.operation response with
  | .error e => (s, .error e)
  | .ok result =>
    match updateBoundState o s f.call.operation result response.headers with
    | (bound, .error e) => (bound, .error e)
    | (bound, .ok ()) => (bound, .ok result)

def keep (s : Session) (f : Flight) (result : AgentToolBridgeResult) : Session :=
  match f.logicalKey with
  | none => s
  | some key =>
    { s with idempotentResults := (key, fingerprint f.call, result) :: s.idempotentResults }

def shut (s : Session) : Session := { s with closed := true }

/-- What happens at a bridge, in the order in which it happens. -/
inductive Entry where
  | forwarded (call : ToolCall) (request : AgentToolForwardRequest)
  | answered (call : ToolCall) (response : AgentToolForwardResponse)
  | recorded (sequenceNumber : Nat) (accepted : Bool)
  | returned (call : ToolCall) (result : AgentToolBridgeResult)
  | replayed (call : ToolCall) (result : AgentToolBridgeResult)
  | refused (call : ToolCall) (e : BridgeFailure)
  | closed

/-- `close` may come while a call is in flight; the next call waits for its end. -/
structure World where
  session : Session
  flight : Option Flight
  log : List Entry

inductive Event where
  | invoke (call : ToolCall)
  | answer (response : AgentToolForwardResponse) (ledgerAccepts : Bool)
  | transportFails
  | close

def afterBridgeRevocation : BridgeFailure :=
  .rejected "TOOL_UNAVAILABLE: facade result arrived after bridge revocation"

def ledgerUnavailable : BridgeFailure :=
  .rejected "TOOL_LEDGER_UNAVAILABLE: tool call could not be recorded under the run claim"

def noteInvoke (w : World) (c : ToolCall) : Session × Begun → World
  | (s, .refused e) => ⟨s, none, w.log ++ [.refused c e]⟩
  | (s, .replayed result) => ⟨s, none, w.log ++ [.replayed c result]⟩
  | (s, .sent request flight) => ⟨s, some flight, w.log ++ [.forwarded c request]⟩

/-- The rest of `invoke` for an answer that the session can still use. -/
def finish (b : Bridge) (f : Flight) (log : List Entry) (accepts : Bool) :
    Session × Except BridgeFailure AgentToolBridgeResult → World
  | (s, .error e) => ⟨s, none, log ++ [.refused f.call e]⟩
  | (s, .ok result) =>
    if b.observed then
      if accepts then
        ⟨keep s f result, none, log ++ [.recorded s.toolCallCount true, .returned f.call result]⟩
      else
        ⟨shut s, none,
          log ++ [.recorded s.toolCallCount false, .refused f.call ledgerUnavailable]⟩
    else ⟨keep s f result, none, log ++ [.returned f.call result]⟩

def step (o : Outside) (b : Bridge) (w : World) : Event → World
  | .invoke c =>
    if w.flight.isSome then w else noteInvoke w c (invoke o b w.session c)
  | .answer response accepts =>
    match w.flight with
    | none => w
    | some f =>
      if w.session.closed then
        ⟨w.session, none, w.log ++ [.refused f.call afterBridgeRevocation]⟩
      else
        finish b f (w.log ++ [.answered f.call response]) accepts (settle o w.session f response)
  | .transportFails =>
    match w.flight with
    | none => w
    | some f => ⟨w.session, none, w.log ++ [.refused f.call .transport]⟩
  | .close => ⟨shut w.session, w.flight, w.log ++ [.closed]⟩

def start (b : Bridge) : World := ⟨opened b.job, none, []⟩

def run (o : Outside) (b : Bridge) (events : List Event) : World := events.foldl (step o b) (start b)

end NhaTrangLaundry.Worker.AgentBridge
