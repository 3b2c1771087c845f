import NhaTrangLaundry.Db.HandedOver
import NhaTrangLaundry.Domain.Promise
import NhaTrangLaundry.Lib.Uuid

/-! The promise of an order: the first one, written with `RECEIVE`, and the ledger of the
changes of what the customer was told. -/

namespace NhaTrangLaundry.Db.Promises

open Lib Outcome Text Domain Catalog Canonical Settlement Unclaimed Handover
open Domain.Orders OrderSteps Domain.Promise
open Db.Orders (OrderRow)

structure PublishedTurnaroundPolicy where
  policy : TurnaroundPolicy
  versionId : Uuid

/-- A row of `order_promise_changes`. -/
structure PromiseChange where
  previousPromiseAt : Int
  newPromiseAt : Int
  reason : PromiseChangeReason
  note : Option String
  changedAt : Int
deriving DecidableEq

/-- An order with its promise, the services of its quote, and the policy in force. -/
structure PromiseRow where
  order : OrderRow
  serviceCodes : List String
  policy : Option PublishedTurnaroundPolicy
  promisedReadyAt : Option Int
  currentPromiseAt : Option Int
  promiseBasis : Option String
  promiseRuleId : Option String
  promisePolicyVersionId : Option Uuid
  changes : List PromiseChange

inductive Refusal where
  | order (e : Db.Orders.Refusal)
  | state (message : String)
  | requiresHuman (message : String) (reasonCodes : List String)
  | refused (code message : String)
  | raised (e : PyException)
  | database
deriving DecidableEq

def turnaroundPolicyUnpublished : String := "TURNAROUND_POLICY_UNPUBLISHED"

def promiseRefusalValue : PromiseRefusal → String
  | .promiseChoiceNotApplicable => "PROMISE_CHOICE_NOT_APPLICABLE"
  | .promiseCustomAtRequired => "PROMISE_CUSTOM_AT_REQUIRED"
  | .promiseCustomAtNotTaken => "PROMISE_CUSTOM_AT_NOT_TAKEN"
  | .promiseNotAfterAcceptance => "PROMISE_NOT_AFTER_ACCEPTANCE"
  | .promiseOutsideOpeningHours => "PROMISE_OUTSIDE_OPENING_HOURS"
  | .promiseOnClosedDay => "PROMISE_ON_CLOSED_DAY"
  | .promiseUnchanged => "PROMISE_UNCHANGED"

def promiseReasonValue : PromiseReason → String
  | .humanEtaRequired => "HUMAN_ETA_REQUIRED"
  | .tetDatesUnpublished => "TET_DATES_UNPUBLISHED"
  | .serviceNotInPolicy => "SERVICE_NOT_IN_POLICY"
  | .noLines => "NO_LINES"

/-- `code: detail`, as an error with a detail reads. -/
def detailed (code detail : String) : String :=
  if detail = "" then code else code ++ ": " ++ detail

def promiseError : PromiseError → Refusal
  | .refused code detail =>
    .refused (promiseRefusalValue code) (detailed (promiseRefusalValue code) detail)
  | .raised e => .raised e

namespace PromiseRow

def created (order : OrderRow) (serviceCodes : List String)
    (policy : Option PublishedTurnaroundPolicy) : PromiseRow where
  order
  serviceCodes
  policy
  promisedReadyAt := none
  currentPromiseAt := none
  promiseBasis := none
  promiseRuleId := none
  promisePolicyVersionId := none
  changes := []

end PromiseRow

structure PlannedPromise where
  promised : Promised
  policyVersionId : Uuid

/-- `plan_receive_promise`, with the refusals as `_plan_step_promise` raises them. -/
def planReceivePromise (row : PromiseRow) (acceptedAt : Datetime) (choice : Option PromiseChoice)
    (customAt : Option Datetime) : Except Refusal (Option PlannedPromise) :=
  match row.policy with
  | none => do
    require (choice = none ∧ customAt = none) (.refused turnaroundPolicyUnpublished
      (detailed turnaroundPolicyUnpublished "the owner has not published the turnaround policy"))
    .ok none
  | some published => do
    let decided ← (computePromise published.policy acceptedAt row.serviceCodes choice
      customAt).mapError promiseError
    match decided with
    | .needsHuman reasons _ =>
      let codes := reasons.map promiseReasonValue
      .error (.requiresHuman
        ("HUMAN_APPROVAL_REQUIRED: PROMISE_REQUIRED: " ++ ", ".intercalate codes)
        ("PROMISE_REQUIRED" :: codes))
    | .promised promised => .ok (some ⟨promised, published.versionId⟩)

/-- `_plan_step_promise`: an order that carries a promise keeps it. -/
def planStepPromise (row : PromiseRow) (plan : List PlannedTransition) (occurredAt : Datetime)
    (choice : Option PromiseChoice) (customAt : Option Datetime) :
    Except Refusal (Option PlannedPromise) :=
  if row.promisedReadyAt ≠ none then .ok none
  else
    match plan.findIdx? fun planned => planned.target = .intake .accepted with
    | some index => do
      let acceptedAt ← (Db.Orders.momentAt occurredAt index).mapError .order
      planReceivePromise row acceptedAt choice customAt
    | none =>
      match row.order.state.productionAcceptedAt with
      | none => .ok none
      | some acceptedAt => planReceivePromise row acceptedAt choice customAt

def writeReceivePromise (row : PromiseRow) (planned : PlannedPromise) : Except Refusal PromiseRow := do
  require (row.promisedReadyAt = none)
    (.refused "STALE_VERSION" "STALE_VERSION: order changed while its promise was set")
  .ok { row with
    promisedReadyAt := some planned.promised.promisedAt
    currentPromiseAt := some planned.promised.promisedAt
    promiseBasis := some planned.promised.basis
    promiseRuleId := some planned.promised.ruleId
    promisePolicyVersionId := some planned.policyVersionId }

/-- `OrderRepository.execute_step`: the plan, and the promise that `RECEIVE` makes with it. -/
def executeStep (row : PromiseRow) (step : OrderStep) (args : StepArguments)
    (creditChain : Option Int) (choice : Option PromiseChoice) (customAt : Option Datetime) :
    Except Refusal PromiseRow := do
  require (step ≠ .receive → choice = none ∧ customAt = none)
    (.state "VALIDATION_ERROR: a promise choice is taken only by RECEIVE")
  let plan ← (planStep step row.order.stepFacts args).mapError (.order <| .transition ·)
  let planned ← (if step = .receive then planStepPromise row plan args.acceptedAt choice customAt
    else .ok none : Except Refusal (Option PlannedPromise))
  let order ← (Db.Orders.executePlan creditChain args.acceptedAt 0 row.order plan).mapError .order
  match planned with
  | none => .ok { row with order }
  | some planned => do
    let _ ← (Db.Orders.momentAt args.acceptedAt plan.length).mapError .order
    writeReceivePromise { row with order } planned

structure PromiseChangeCommand where
  newPromiseAt : Datetime
  reason : PromiseChangeReason
  note : Option String
  occurredAt : Datetime
deriving DecidableEq

def noteMaxLength : Nat := 120

/-- The note as it is kept: stripped, and none when nothing is left. -/
def PromiseChangeCommand.keptNote (command : PromiseChangeCommand) : Option String :=
  (command.note.map strip).filter (· ≠ "")

/-- `OrderPromiseRepository.change`. -/
def change (row : PromiseRow) (command : PromiseChangeCommand) : Except Refusal PromiseRow := do
  require (∀ note ∈ command.keptNote, note.length ≤ noteMaxLength)
    (.refused "PROMISE_NOTE_TOO_LONG" "PROMISE_NOTE_TOO_LONG: at most 120")
  require (command.reason = .other → command.keptNote ≠ none)
    (.refused "PROMISE_NOTE_REQUIRED" "PROMISE_NOTE_REQUIRED: say why in a few words")
  require command.newPromiseAt.aware
    (.state "VALIDATION_ERROR: the new promise must be timezone-aware")
  let _ ← ofOption (.raised .overflowError) command.newPromiseAt.toUtc
  match row.policy with
  | none => .error (.refused turnaroundPolicyUnpublished (detailed turnaroundPolicyUnpublished
      "the owner has not published the turnaround policy"))
  | some published =>
    match row.currentPromiseAt with
    | none => .error (.refused "PROMISE_NOT_SET"
        "PROMISE_NOT_SET: only Nhận đồ sets an order's first promise")
    | some previous => do
      require (row.order.state.commercial ≠ .cancelled ∧ row.order.state.commercial ≠ .completed ∧
          row.order.state.production ≠ .readyAtStore ∧ row.order.state.production ≠ .released)
        (.refused "PROMISE_ORDER_DONE"
          "PROMISE_ORDER_DONE: the laundry is finished or the order is closed")
      let newAt ← (checkPromiseTime published.policy command.newPromiseAt
        command.occurredAt).mapError promiseError
      require (newAt ≠ previous) (.refused "PROMISE_UNCHANGED" "PROMISE_UNCHANGED")
      require (∀ note ∈ command.keptNote, storable note) .database
      .ok { row with
        currentPromiseAt := some newAt
        changes := row.changes ++
          [⟨previous, newAt, command.reason, command.keptNote, command.occurredAt.instant⟩] }

/-- A command on the order or on its promise, or the publication of a policy. -/
inductive Command where
  | order (command : Db.Orders.Command)
  | step (step : OrderStep) (args : StepArguments) (creditChain : Option Int)
      (choice : Option PromiseChoice) (customAt : Option Datetime)
  | change (command : PromiseChangeCommand)
  | publish (policy : Option PublishedTurnaroundPolicy)

/-- Steps go through `executeStep`, which plans the promise of a `RECEIVE`. -/
def attempt (row : PromiseRow) : Command → Except Refusal PromiseRow
  | .order (.step step args creditChain) => executeStep row step args creditChain none none
  | .order command => do
    let order ← (Db.Orders.attempt row.order command).mapError .order
    .ok { row with order }
  | .step step args creditChain choice customAt =>
    executeStep row step args creditChain choice customAt
  | .change command => change row command
  | .publish policy => .ok { row with policy }

def apply (row : PromiseRow) (command : Command) : PromiseRow :=
  match attempt row command with
  | .ok row' => row'
  | .error _ => row

def run (row : PromiseRow) (commands : List Command) : PromiseRow := commands.foldl apply row

end NhaTrangLaundry.Db.Promises
