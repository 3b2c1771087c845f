import NhaTrangLaundry.Contracts.ToolRegistry
import NhaTrangLaundry.Lib.Uuid

/-! Server-owned run bindings shared by the agent runner and the tool facade. -/

namespace NhaTrangLaundry.Contracts

open Lib Outcome

inductive ReleaseCapability where
  | internalShadow
  | publicFaq
  | listPriceInfo
  | intakeQuestion
  | intakeFactCapture
  | intakeReceipt
  | incidentReceipt
  | orderStatus
  | slaGuidance
  | quoteEstimate
  | booking
  | deliveryAdvisory
  | marketingFollowup
deriving DecidableEq

inductive AgentDeploymentStage where
  | manualTruth
  | shadow
  | assisted
  | bounded
deriving DecidableEq

inductive AgentDataClassification where
  | synthetic
  | realCustomer
deriving DecidableEq

/-- The claims of a runner bearer; its subject is always `AGENT_RUNNER`. -/
structure AgentRunnerClaims where
  iss : String
  aud : String
  iat : Int
  exp : Int
  jti : Uuid
  runId : Uuid
  organizationId : Uuid
  storeId : Uuid
  channel : String
  conversationBindingId : Uuid
  contactBindingId : Uuid
  capability : ReleaseCapability
  stage : AgentDeploymentStage
  dataClassification : AgentDataClassification
  orderRequestId : Option Uuid
  publicCode : Option String
deriving DecidableEq

def isChannelChar (c : Char) : Bool := c.isUpper || c.isDigit || c = '_'

def validChannel (channel : String) : Bool :=
  1 ≤ channel.length && channel.length ≤ 50 && channel.toList.all isChannelChar

def validPublicCode : Option String → Bool
  | none => true
  | some code => 16 ≤ code.length && code.length ≤ 64

/-- The fields fit their patterns, and the bearer lives between 1 and 60 seconds. -/
def AgentRunnerClaims.valid (claims : AgentRunnerClaims) : Prop :=
  validChannel claims.channel = true ∧ validPublicCode claims.publicCode = true ∧
    claims.iat < claims.exp ∧ claims.exp - claims.iat ≤ 60

instance decideClaimsValid (claims : AgentRunnerClaims) : Decidable claims.valid :=
  inferInstanceAs (Decidable (_ ∧ _))

def capabilityOperations : ReleaseCapability → List AgentToolOperation
  | .internalShadow => Domain.Catalog.StrEnum.members
  | .publicFaq => [.catalogResolve]
  | .listPriceInfo => [.catalogResolve, .messageDraftCreate]
  | .intakeQuestion => [.catalogResolve, .messageDraftCreate]
  | .intakeFactCapture =>
    [.catalogResolve, .orderRequestCreate, .orderRequestRecordCustomerFacts]
  | .intakeReceipt => [.messageDraftCreate]
  | .incidentReceipt => [.incidentOpen, .messageDraftCreate]
  | .orderStatus => [.publicOrderStatusGet, .messageDraftCreate]
  | .slaGuidance => [.capacityCheck, .messageDraftCreate]
  | .quoteEstimate => [.quoteEstimate, .deliveryEvaluate, .messageDraftCreate, .approvalRequestCreate]
  | .booking => [.capacityCheck, .approvalRequestCreate]
  | .deliveryAdvisory => [.deliveryEvaluate, .messageDraftCreate]
  | .marketingFollowup => []

def operationIsAuthorized (claims : AgentRunnerClaims) (operation : AgentToolOperation) : Prop :=
  operation ∈ capabilityOperations claims.capability

instance decideAuthorized (claims : AgentRunnerClaims) (operation : AgentToolOperation) :
    Decidable (operationIsAuthorized claims operation) :=
  inferInstanceAs (Decidable (_ ∈ _))

end NhaTrangLaundry.Contracts
