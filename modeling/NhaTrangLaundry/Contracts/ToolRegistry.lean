import NhaTrangLaundry.Domain.Catalog
import NhaTrangLaundry.Lib.Distinct
import NhaTrangLaundry.Lib.JsonDumps
import NhaTrangLaundry.Lib.Outcome

/-! The operations of the public-agent tool contract, and what their schemas let through. -/

namespace NhaTrangLaundry.Contracts

open Lib Outcome Sorting Distinct Domain Catalog
open StrEnum (value)

inductive AgentToolOperation where
  | catalogResolve
  | orderRequestCreate
  | orderRequestRecordCustomerFacts
  | quoteEstimate
  | deliveryEvaluate
  | capacityCheck
  | messageDraftCreate
  | publicOrderStatusGet
  | incidentOpen
  | approvalRequestCreate
deriving DecidableEq

instance strEnumOperation : StrEnum AgentToolOperation where
  value
    | .catalogResolve => "catalogResolve"
    | .orderRequestCreate => "orderRequestCreate"
    | .orderRequestRecordCustomerFacts => "orderRequestRecordCustomerFacts"
    | .quoteEstimate => "quoteEstimate"
    | .deliveryEvaluate => "deliveryEvaluate"
    | .capacityCheck => "capacityCheck"
    | .messageDraftCreate => "messageDraftCreate"
    | .publicOrderStatusGet => "publicOrderStatusGet"
    | .incidentOpen => "incidentOpen"
    | .approvalRequestCreate => "approvalRequestCreate"
  members := [.catalogResolve, .orderRequestCreate, .orderRequestRecordCustomerFacts, .quoteEstimate,
    .deliveryEvaluate, .capacityCheck, .messageDraftCreate, .publicOrderStatusGet, .incidentOpen,
    .approvalRequestCreate]
  ofValue_value := by intro a; cases a <;> decide
  value_ascii := by intro a; cases a <;> decide

inductive AgentToolSideEffect where
  | none
  | reversibleWrite
deriving DecidableEq

inductive HttpMethod where
  | get
  | post
deriving DecidableEq

structure OperationContract where
  operation : AgentToolOperation
  method : HttpMethod
  path : String
  sideEffect : AgentToolSideEffect
  maxCallsPerRun : Nat
  successStatus : Int
  pathParameters : List String
  headerParameters : List String

/-- `TOOL_REGISTRY.get`, over the operations of `agent-tools-v1.openapi.yaml`. -/
def toolRegistry : AgentToolOperation → OperationContract
  | .catalogResolve =>
    ⟨.catalogResolve, .post, "/agent/v1/catalog:resolve", .none, 3, 200, [], []⟩
  | .orderRequestCreate =>
    ⟨.orderRequestCreate, .post, "/agent/v1/order-requests", .reversibleWrite, 1, 201, [],
      ["Idempotency-Key"]⟩
  | .orderRequestRecordCustomerFacts =>
    ⟨.orderRequestRecordCustomerFacts, .post,
      "/agent/v1/order-requests/\x7border_request_id\x7d:record-customer-facts", .reversibleWrite,
      3, 200, ["order_request_id"], ["Idempotency-Key", "If-Match"]⟩
  | .quoteEstimate =>
    ⟨.quoteEstimate, .post, "/agent/v1/order-requests/\x7border_request_id\x7d/quotes:estimate",
      .reversibleWrite, 2, 200, ["order_request_id"], ["Idempotency-Key", "If-Match"]⟩
  | .deliveryEvaluate =>
    ⟨.deliveryEvaluate, .post, "/agent/v1/order-requests/\x7border_request_id\x7d/delivery:evaluate",
      .none, 2, 200, ["order_request_id"], []⟩
  | .capacityCheck =>
    ⟨.capacityCheck, .post, "/agent/v1/order-requests/\x7border_request_id\x7d/capacity:check", .none,
      1, 200, ["order_request_id"], []⟩
  | .messageDraftCreate =>
    ⟨.messageDraftCreate, .post, "/agent/v1/order-requests/\x7border_request_id\x7d/message-drafts",
      .reversibleWrite, 2, 201, ["order_request_id"], ["Idempotency-Key"]⟩
  | .publicOrderStatusGet =>
    ⟨.publicOrderStatusGet, .get, "/agent/v1/orders/\x7bpublic_code\x7d/status", .none, 2, 200,
      ["public_code"], []⟩
  | .incidentOpen =>
    ⟨.incidentOpen, .post, "/agent/v1/order-requests/\x7border_request_id\x7d/incidents:open",
      .reversibleWrite, 1, 201, ["order_request_id"], ["Idempotency-Key"]⟩
  | .approvalRequestCreate =>
    ⟨.approvalRequestCreate, .post,
      "/agent/v1/order-requests/\x7border_request_id\x7d/approvals:request", .reversibleWrite, 2, 201,
      ["order_request_id"], ["Idempotency-Key"]⟩

def serverOwnedModelFields : List String :=
  ["actor", "actor_id", "actor_role", "address_id", "approval_state", "capability", "contact_id",
    "conversation_id", "customer_id", "distance_measurement_id", "executable_capability",
    "expires_at", "obligations", "order_id", "order_request_id", "policy_version", "reason_codes",
    "required_approver_role", "stage", "store_id", "tenant_id", "ttl"]

mutual

def findServerOwnedFields : Json → List String
  | .obj fields => ownedFields fields
  | .arr xs => ownedElements xs
  | .null => []
  | .bool _ => []
  | .int _ => []
  | .str _ => []

def ownedElements : List Json → List String
  | [] => []
  | x :: xs => findServerOwnedFields x ++ ownedElements xs

def ownedFields : List (String × Json) → List String
  | [] => []
  | (key, child) :: fields =>
    (if key ∈ serverOwnedModelFields then [key] else []) ++ findServerOwnedFields child ++
      ownedFields fields

end

/-- The formatted errors of `Draft202012Validator.iter_errors` under the schemas of
an operation. -/
structure Schemas where
  modelArgument : AgentToolOperation → Json → List String
  successResponse : AgentToolOperation → Json → List String
  errorResponse : AgentToolOperation → Json → List String

structure ToolArgumentsInvalid where
  operationId : String
  errors : List String

def ToolArgumentsInvalid.message (e : ToolArgumentsInvalid) : String :=
  "VALIDATION_ERROR: " ++ e.operationId ++ ": " ++ "; ".intercalate e.errors

/-- A mapping handed over as arguments names no member twice. -/
structure Arguments where
  fields : List (String × Json)
  distinct : (Json.obj fields).distinct

def Arguments.json (a : Arguments) : Json := .obj a.fields

def refuseErrors (operationId : String) (errors : List String) : Except ToolArgumentsInvalid Unit :=
  require (errors = []) ⟨operationId, sortBy id errors⟩

def validateModelArguments (schemas : Schemas) (operation : AgentToolOperation)
    (arguments : Arguments) : Except ToolArgumentsInvalid Arguments := do
  require (findServerOwnedFields arguments.json = [])
    ⟨value operation, (sortedSet (findServerOwnedFields arguments.json)).map
      ("server-owned field is prohibited: " ++ ·)⟩
  refuseErrors (value operation) (schemas.modelArgument operation arguments.json)
  .ok arguments

def validateSuccessResponse (schemas : Schemas) (operation : AgentToolOperation) (response : Json) :
    Except ToolArgumentsInvalid Json := do
  refuseErrors (value operation ++ ".response") (schemas.successResponse operation response)
  .ok response

def validateErrorResponse (schemas : Schemas) (operation : AgentToolOperation) (response : Json) :
    Except ToolArgumentsInvalid Json := do
  refuseErrors (value operation ++ ".error_response") (schemas.errorResponse operation response)
  .ok response

end NhaTrangLaundry.Contracts
