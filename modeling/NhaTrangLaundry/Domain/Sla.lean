import NhaTrangLaundry.Domain.Catalog
import NhaTrangLaundry.Lib.Datetime
import NhaTrangLaundry.Lib.Outcome

/-! Where an order in production stands: against the stated rule, and against its own promise.
Instants are microseconds of the UTC clock. -/

namespace NhaTrangLaundry.Domain.Sla

open Lib Outcome Catalog

inductive SlaPolicyType where
  | commitment
  | guidanceRange
  | responseTarget
  | humanEtaRequired
deriving DecidableEq

inductive CommitmentAuthority where
  | informationOnly
  | draftOnly
  | humanConfirm
  | autoWithinEnvelope
  | prohibited
deriving DecidableEq

inductive SlaLifecycle where
  | draft
  | scheduled
  | running
  | completed
  | cancelled
deriving DecidableEq

inductive SlaOutcome where
  | pending
  | met
  | breached
  | waived
deriving DecidableEq

inductive SlaReason where
  | productionNotAccepted
  | productionSlaExcludesDelivery
  | elapsedEightHourInternalRisk
  | slaPending
  | slaMet
  | slaBreached
  | breachRemedyRequiresHuman
  | exactClosureCutoffUnpublished
  | humanPromiseRequired
  | humanPromiseRecorded
  | guidanceRange24To48Hours
  | guidanceDoesNotCreateBreach
  | humanEtaRequired
deriving DecidableEq

def SlaReason.value : SlaReason → String
  | .productionNotAccepted => "PRODUCTION_NOT_ACCEPTED"
  | .productionSlaExcludesDelivery => "PRODUCTION_SLA_EXCLUDES_DELIVERY"
  | .elapsedEightHourInternalRisk => "ELAPSED_EIGHT_HOUR_INTERNAL_RISK"
  | .slaPending => "SLA_PENDING"
  | .slaMet => "SLA_MET"
  | .slaBreached => "SLA_BREACHED"
  | .breachRemedyRequiresHuman => "BREACH_REMEDY_REQUIRES_HUMAN"
  | .exactClosureCutoffUnpublished => "EXACT_CLOSURE_CUTOFF_UNPUBLISHED"
  | .humanPromiseRequired => "HUMAN_PROMISE_REQUIRED"
  | .humanPromiseRecorded => "HUMAN_PROMISE_RECORDED"
  | .guidanceRange24To48Hours => "GUIDANCE_RANGE_24_TO_48_HOURS"
  | .guidanceDoesNotCreateBreach => "GUIDANCE_DOES_NOT_CREATE_BREACH"
  | .humanEtaRequired => "HUMAN_ETA_REQUIRED"

inductive SlaError where
  | code (code : ErrorCode)
  | overflowError
deriving DecidableEq

structure ProductionSlaPolicy where
  policyId : String
  policyType : SlaPolicyType
  targetMinHours : Option Int
  targetMaxHours : Option Int
  commitmentAuthority : CommitmentAuthority
deriving DecidableEq

structure SlaCalculationTrace where
  actualElapsedMicroseconds : Option Int
  internalRiskDueAt : Option Int
  breachMicroseconds : Int
deriving DecidableEq

structure ProductionSlaResult where
  lifecycle : SlaLifecycle
  outcome : SlaOutcome
  promiseOutcome : PolicyOutcome
  reviewOutcome : PolicyOutcome
  overallOutcome : PolicyOutcome
  guidanceWindowStartAt : Option Int
  guidanceWindowEndAt : Option Int
  humanConfirmedPromisedReadyAtStore : Option Int
  reasonCodes : List SlaReason
  trace : SlaCalculationTrace
deriving DecidableEq

def standardWashSla : ProductionSlaPolicy :=
  ⟨"SLA_STANDARD_CLOTHES", .commitment, none, some 8, .humanConfirm⟩

def hourMicros : Int := 3600000000

def lifecycle (start stop promised : Option Int) : SlaLifecycle :=
  if stop.isSome then .completed
  else if start.isSome then .running
  else if promised.isSome then .scheduled
  else .draft

def validatePolicy (policy : ProductionSlaPolicy) : Except SlaError Unit := do
  require (policy.policyId ≠ "") (.code .validationError)
  require (policy.commitmentAuthority = .humanConfirm) (.code .validationError)
  require (policy.policyType ≠ .responseTarget) (.code .validationError)
  require (∀ minimum ∈ policy.targetMinHours, 0 < minimum) (.code .validationError)
  require (∀ maximum ∈ policy.targetMaxHours, 0 < maximum) (.code .validationError)
  require (∀ minimum ∈ policy.targetMinHours, ∀ maximum ∈ policy.targetMaxHours, minimum ≤ maximum)
    (.code .validationError)
  require (policy.policyType = .commitment →
    policy.targetMinHours = none ∧ policy.targetMaxHours ≠ none) (.code .validationError)
  require (policy.policyType = .guidanceRange →
    policy.targetMinHours ≠ none ∧ policy.targetMaxHours ≠ none) (.code .validationError)
  require (policy.policyType = .humanEtaRequired →
    policy.targetMinHours = none ∧ policy.targetMaxHours = none) (.code .validationError)

/-- `moment + timedelta(hours=hours)`. -/
def addHours (moment hours : Int) : Except SlaError Int := do
  require (moment + hours * hourMicros < wallLimit) .overflowError
  .ok (moment + hours * hourMicros)

/-- What a rule says of laundry in production: its outcome, what is to be reviewed, the window of
its guidance, its reasons and its trace. -/
structure RuleReading where
  outcome : SlaOutcome
  reviewOutcome : PolicyOutcome
  guidanceStart : Option Int
  guidanceEnd : Option Int
  reasons : List SlaReason
  trace : SlaCalculationTrace

/-- The branch of a commitment; the clock stops when the laundry is ready. -/
def commitmentReading (acceptedAt maxHours evaluatedAt : Int) (readyAt : Option Int) :
    Except SlaError RuleReading := do
  let internalDue ← addHours acceptedAt maxHours
  let comparisonAt := readyAt.getD evaluatedAt
  let trace := ⟨some (comparisonAt - acceptedAt), some internalDue, max 0 (comparisonAt - internalDue)⟩
  let marks := [SlaReason.elapsedEightHourInternalRisk, .exactClosureCutoffUnpublished]
  if comparisonAt ≤ internalDue then
    .ok ⟨if readyAt.isSome then .met else .pending, .allow, none, none,
      marks ++ [if readyAt.isSome then .slaMet else .slaPending], trace⟩
  else
    .ok ⟨.breached, .requireHuman, none, none,
      marks ++ [.slaBreached, .breachRemedyRequiresHuman], trace⟩

def guidanceReading (acceptedAt minHours maxHours evaluatedAt : Int) (readyAt : Option Int) :
    Except SlaError RuleReading := do
  let guidanceStart ← addHours acceptedAt minHours
  let guidanceEnd ← addHours acceptedAt maxHours
  .ok ⟨.pending, .allow, some guidanceStart, some guidanceEnd,
    [.guidanceRange24To48Hours, .guidanceDoesNotCreateBreach],
    ⟨some (readyAt.getD evaluatedAt - acceptedAt), none, 0⟩⟩

def ruleReading (policy : ProductionSlaPolicy) (evaluatedAt : Int)
    (productionAcceptedAt readyAtStore : Option Int) : Except SlaError RuleReading :=
  match productionAcceptedAt, policy.policyType with
  | none, _ => .ok ⟨.pending, .allow, none, none, [.productionNotAccepted], ⟨none, none, 0⟩⟩
  | some acceptedAt, .commitment =>
    commitmentReading acceptedAt (policy.targetMaxHours.getD 0) evaluatedAt readyAtStore
  | some acceptedAt, .guidanceRange =>
    guidanceReading acceptedAt (policy.targetMinHours.getD 0) (policy.targetMaxHours.getD 0)
      evaluatedAt readyAtStore
  | some _, _ => .ok ⟨.pending, .allow, none, none, [.humanEtaRequired], ⟨none, none, 0⟩⟩

def requireOrdered (evaluatedAt : Int) (productionAcceptedAt readyAtStore promised : Option Int) :
    Except SlaError Unit := do
  require (readyAtStore ≠ none → productionAcceptedAt ≠ none) (.code .invalidStateTransition)
  require (∀ accepted ∈ productionAcceptedAt, accepted ≤ evaluatedAt) (.code .validationError)
  require (∀ accepted ∈ productionAcceptedAt, ∀ ready ∈ readyAtStore, accepted ≤ ready)
    (.code .invalidStateTransition)
  require (∀ accepted ∈ productionAcceptedAt, ∀ moment ∈ promised, accepted ≤ moment)
    (.code .validationError)

def evaluateProductionSla (policy : ProductionSlaPolicy) (evaluatedAt : Int)
    (productionAcceptedAt readyAtStore promised : Option Int) :
    Except SlaError ProductionSlaResult := do
  validatePolicy policy
  requireOrdered evaluatedAt productionAcceptedAt readyAtStore promised
  let reading ← ruleReading policy evaluatedAt productionAcceptedAt readyAtStore
  let recorded := if promised.isSome then PolicyOutcome.allow else .requireHuman
  let promiseOutcome := if policy.policyType = .humanEtaRequired then .requireHuman else recorded
  .ok {
    lifecycle := lifecycle productionAcceptedAt readyAtStore promised
    outcome := reading.outcome
    promiseOutcome
    reviewOutcome := reading.reviewOutcome
    overallOutcome :=
      if promiseOutcome = .requireHuman ∨ reading.reviewOutcome = .requireHuman then .requireHuman
      else .allow
    guidanceWindowStartAt := reading.guidanceStart
    guidanceWindowEndAt := reading.guidanceEnd
    humanConfirmedPromisedReadyAtStore := promised
    reasonCodes := [.productionSlaExcludesDelivery,
      if recorded = .allow then .humanPromiseRecorded else .humanPromiseRequired] ++ reading.reasons
    trace := reading.trace }

/-- An order in production measured against its own promise. -/
structure PromiseFigures where
  outcome : SlaOutcome
  elapsedMicroseconds : Int
  remainingMicroseconds : Int
  breachMicroseconds : Int
deriving DecidableEq

def promiseFigures (promiseAt acceptedAt : Int) (readyAt : Option Int) (now : Int) :
    PromiseFigures :=
  let comparison := readyAt.getD now
  let breach := max 0 (comparison - promiseAt)
  { outcome := if breach ≠ 0 then .breached else if readyAt.isSome then .met else .pending
    elapsedMicroseconds := max 0 (comparison - acceptedAt)
    remainingMicroseconds := max 0 (promiseAt - comparison)
    breachMicroseconds := breach }

end NhaTrangLaundry.Domain.Sla
