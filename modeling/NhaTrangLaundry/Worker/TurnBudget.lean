import NhaTrangLaundry.Contracts.AgentRunner
import NhaTrangLaundry.Lib.DecimalQuotient

/-! A model turn: what it may spend, and the provider calls it makes until it ends. -/

namespace NhaTrangLaundry.Worker.ResponsesRuntime

open Lib Contracts

/-- The bounds of `ResponsesRuntimeConfig` and the rates of its price table. -/
structure RuntimeConfig where
  maxModelCalls : Nat
  maxInputTokens : Nat
  maxOutputTokens : Nat
  maxTurnCostUsd : Decimal
  inputCostPerMillionUsd : Decimal
  cachedInputCostPerMillionUsd : Decimal
  outputCostPerMillionUsd : Decimal
  calls_bounds : 1 ≤ maxModelCalls ∧ maxModelCalls ≤ 3
  input_bounds : 1 ≤ maxInputTokens ∧ maxInputTokens ≤ 8000
  output_bounds : 1 ≤ maxOutputTokens ∧ maxOutputTokens ≤ 1200
  money : ∀ usd ∈ [maxTurnCostUsd, inputCostPerMillionUsd, cachedInputCostPerMillionUsd,
    outputCostPerMillionUsd], Decimal.Within (-12) usd
  cached_le : Decimal.le cachedInputCostPerMillionUsd inputCostPerMillionUsd

structure ResponsesUsage where
  inputTokens : Nat
  cachedInputTokens : Nat
  outputTokens : Nat
  cached_le : cachedInputTokens ≤ inputTokens

/-- The exceptions that end a turn, with their messages. -/
inductive Raised where
  | connectionFailure
  | outcomeAmbiguous
  | requestCancelled
  | transportTimeout
  | contextRejected (message : String)
  | budgetExhausted (message : String)
  | bridgeRejected (message : String)
  | runtimeFailure (message : String)
  | other (message : String)
deriving DecidableEq

def intentModelLimit : ReleaseCapability → Nat
  | .publicFaq | .listPriceInfo | .orderStatus => 1
  | .internalShadow => 3
  | _ => 2

variable (config : RuntimeConfig)

def tokenCost (inputTokens cachedInputTokens outputTokens : Nat) : Decimal :=
  Decimal.divPow
    (Decimal.add
      (Decimal.add
        (Decimal.mul (Decimal.ofInt (inputTokens - cachedInputTokens : Nat))
          config.inputCostPerMillionUsd)
        (Decimal.mul (Decimal.ofInt cachedInputTokens) config.cachedInputCostPerMillionUsd))
      (Decimal.mul (Decimal.ofInt outputTokens) config.outputCostPerMillionUsd))
    6

structure Reservation where
  inputTokens : Nat
  outputTokens : Nat
  costUsd : Decimal

structure TurnBudget where
  modelAttempts : Nat
  inputTokens : Nat
  cachedInputTokens : Nat
  outputTokens : Nat
  reservationCount : Nat
  reservedCost : Decimal
  settledCost : Decimal
  releasedCost : Decimal

def TurnBudget.new : TurnBudget :=
  ⟨0, 0, 0, 0, 0, Decimal.ofInt 0, Decimal.ofInt 0, Decimal.ofInt 0⟩

namespace TurnBudget

variable (budget : TurnBudget)

def reserve (modelLimit : Nat) : Except Raised (TurnBudget × Reservation) :=
  if modelLimit ≤ budget.modelAttempts then
    .error (.budgetExhausted "MODEL_CALL_BUDGET_EXHAUSTED")
  else if config.maxInputTokens ≤ budget.inputTokens ∨
      config.maxOutputTokens ≤ budget.outputTokens then
    .error (.budgetExhausted "TOKEN_BUDGET_EXHAUSTED")
  else
    let remainingInput := config.maxInputTokens - budget.inputTokens
    let remainingOutput := config.maxOutputTokens - budget.outputTokens
    let reservationCost := tokenCost config remainingInput 0 remainingOutput
    if Decimal.lt config.maxTurnCostUsd (Decimal.add budget.settledCost reservationCost) then
      .error (.budgetExhausted "COST_BUDGET_EXHAUSTED")
    else
      .ok
        ({ budget with
            modelAttempts := budget.modelAttempts + 1
            reservationCount := budget.reservationCount + 1
            reservedCost := Decimal.add budget.reservedCost reservationCost },
          ⟨remainingInput, remainingOutput, reservationCost⟩)

def release (reservation : Reservation) : TurnBudget :=
  { budget with releasedCost := Decimal.add budget.releasedCost reservation.costUsd }

def settleAmbiguous (reservation : Reservation) : TurnBudget :=
  { budget with settledCost := Decimal.add budget.settledCost reservation.costUsd }

/-- A usage above the reservation is settled as the whole of it, and raises. -/
def settleUsage (reservation : Reservation) (usage : ResponsesUsage) :
    TurnBudget × Except Raised Unit :=
  if reservation.inputTokens < usage.inputTokens ∨
      reservation.outputTokens < usage.outputTokens then
    (budget.settleAmbiguous reservation,
      .error (.budgetExhausted "PROVIDER_USAGE_EXCEEDED_RESERVATION"))
  else
    let actual := tokenCost config usage.inputTokens usage.cachedInputTokens usage.outputTokens
    ({ budget with
        inputTokens := budget.inputTokens + usage.inputTokens
        cachedInputTokens := budget.cachedInputTokens + usage.cachedInputTokens
        outputTokens := budget.outputTokens + usage.outputTokens
        settledCost := Decimal.add budget.settledCost actual
        releasedCost := Decimal.add budget.releasedCost
          (Decimal.sub reservation.costUsd actual) },
      .ok ())

end TurnBudget

inductive ProviderOutcome where
  | connectionFailure
  | outcomeAmbiguous
  | requestCancelled
  | transportTimeout
  | unclassified
  | malformed
  | answered (usage : ResponsesUsage)

inductive Followed where
  | toolCalled
  | draft (text : String)
  | handoff (reasonCode : String)
  | raised (e : Raised)

/-- What one round meets outside: the bridge, the clock, the transport, and what its output leads
to. The clock carries its time zone. -/
structure Round where
  bridgeClosed : Bool
  timeLeft : Bool
  request : Except Raised Unit
  timeLeftToCall : Bool
  outcome : ProviderOutcome
  timeLeftAfter : Bool
  followed : Followed

/-- A request that was sent: the output its turn had used by then, and the bound it asks for. -/
structure SentRequest where
  usedOutput : Nat
  maxOutput : Nat
deriving DecidableEq

/-- What a turn has spent, and the requests it has sent. -/
structure Turn where
  budget : TurnBudget
  sent : List SentRequest

def Turn.new : Turn := ⟨.new, []⟩

inductive Ending where
  | draft (text : String)
  | handoff (reasonCode : String)
  | raised (e : Raised)

/-- `_request`: the output that is left bounds it. -/
def request (budget : TurnBudget) (built : Except Raised Unit) : Except Raised Nat :=
  if config.maxOutputTokens ≤ budget.outputTokens then
    .error (.budgetExhausted "OUTPUT_TOKEN_BUDGET_EXHAUSTED")
  else do
    built
    .ok (config.maxOutputTokens - budget.outputTokens)

/-- `_call_provider`, after the request that it sends. -/
def callProvider (reservation : Reservation) (budget : TurnBudget) (r : Round) :
    TurnBudget × Except Raised Unit :=
  match r.outcome with
  | .connectionFailure => (budget.release reservation, .error .connectionFailure)
  | .outcomeAmbiguous =>
    (budget.settleAmbiguous reservation, .error .outcomeAmbiguous)
  | .requestCancelled => (budget.settleAmbiguous reservation, .error .requestCancelled)
  | .transportTimeout => (budget.settleAmbiguous reservation, .error .transportTimeout)
  | .unclassified =>
    (budget.settleAmbiguous reservation, .error .outcomeAmbiguous)
  | .malformed =>
    (budget.settleAmbiguous reservation, .error (.runtimeFailure "MALFORMED_PROVIDER_RESPONSE"))
  | .answered usage =>
    match budget.settleUsage config reservation usage with
    | (budget, .error e) => (budget, .error e)
    | (budget, .ok ()) =>
      if r.timeLeftAfter then (budget, .ok ())
      else (budget, .error (.budgetExhausted "DEADLINE_EXHAUSTED"))

def Followed.ending : Followed → Option Ending
  | .toolCalled => none
  | .draft text => some (.draft text)
  | .handoff reasonCode => some (.handoff reasonCode)
  | .raised e => some (.raised e)

def spend (turn : Turn) (budget : TurnBudget) (reservation : Reservation) (r : Round) :
    Turn × Option Ending :=
  match request config budget r.request with
  | .error e => (⟨budget.release reservation, turn.sent⟩, some (.raised e))
  | .ok maxOutput =>
    if r.timeLeftToCall then
      let sent := turn.sent ++ [⟨budget.outputTokens, maxOutput⟩]
      match callProvider config reservation budget r with
      | (budget, .error e) => (⟨budget, sent⟩, some (.raised e))
      | (budget, .ok ()) => (⟨budget, sent⟩, r.followed.ending)
    else
      (⟨budget.release reservation, turn.sent⟩,
        some (.raised (.budgetExhausted "DEADLINE_EXHAUSTED_BEFORE_PROVIDER")))

/-- One round of the `while True` of `invoke`. -/
def round (modelLimit : Nat) (turn : Turn) (r : Round) : Turn × Option Ending :=
  if r.bridgeClosed then (turn, some (.raised (.runtimeFailure "RUN_REVOKED")))
  else if ¬ r.timeLeft then (turn, some (.raised (.budgetExhausted "DEADLINE_EXHAUSTED")))
  else
    match turn.budget.reserve config modelLimit with
    | .error e => (turn, some (.raised e))
    | .ok (budget, reservation) => spend config turn budget reservation r

/-- The rounds from the `n`th on, at most `fuel` of them. -/
def loop (modelLimit : Nat) (rounds : Nat → Round) : Nat → Nat → Turn → Option (Turn × Ending)
  | 0, _, _ => none
  | fuel + 1, n, turn =>
    match round config modelLimit turn (rounds n) with
    | (turn, some ending) => some (turn, ending)
    | (turn, none) => loop modelLimit rounds fuel (n + 1) turn

def modelLimit (capability : ReleaseCapability) : Nat :=
  min config.maxModelCalls (intentModelLimit capability)

/-- `invoke`, up to its evidence: the context is loaded and checked, and the rounds follow. -/
def invoke (capability : ReleaseCapability) (loaded : Except Raised Unit) (rounds : Nat → Round)
    (fuel : Nat) : Option (Turn × Ending) :=
  match loaded with
  | .error e => some (.new, .raised e)
  | .ok () => loop config (modelLimit config capability) rounds fuel 0 .new

end NhaTrangLaundry.Worker.ResponsesRuntime
