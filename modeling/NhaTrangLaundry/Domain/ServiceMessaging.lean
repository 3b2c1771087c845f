import NhaTrangLaundry.Lib.Outcome
import NhaTrangLaundry.Lib.Datetime

/-! Opt-outs, the states of a suppression, and the decision a service message rests on. -/

namespace NhaTrangLaundry.Domain.ServiceMessaging

open Lib Outcome

inductive OptOutDisposition where
  | none
  | withdraw
  | pendingReviewBlocked
  | policyUnavailableBlocked
deriving DecidableEq

inductive SuppressionState where
  | clear
  | suppressed
  | pendingReviewBlocked
  | unknownBlocked
deriving DecidableEq

def marketingSendAllowed (consentActive : Bool) (suppression : SuppressionState) : Bool :=
  consentActive && suppression = .clear

inductive ServiceBasis where
  | customerInitiated
  | openOrder
deriving DecidableEq

inductive EgressDecision where
  | allow
  | suppressed
  | requireHuman
deriving DecidableEq

inductive TransactionalRefusal where
  | suppressed
  | pendingReview
  | suppressionUnknown
  | messagingPolicyUnpublished
  | noServiceBasis
deriving DecidableEq

structure TransactionalMessagingPolicy where
  serviceWindowHours : Nat
  closedOrderGraceHours : Nat
  bases : List ServiceBasis

/-- What the server read about the contact, at the instant being judged. -/
structure ServiceBasisFacts where
  lastInboundMessageAt : Option Int
  hasOpenOrder : Bool
  lastOrderClosedAt : Option Int

structure TransactionalEgressOutcome where
  decision : EgressDecision
  refusal : Option TransactionalRefusal
  basis : Option ServiceBasis

inductive MomentError where
  | naive (message : String)
  | overflow

def hourMicros : Int := 3600 * 1000000

/-- `at - timedelta(hours=hours) <= moment <= at`. -/
def within (moment : Option Int) (at' : Datetime) (hours : Nat) : Except MomentError Bool :=
  match moment with
  | none => .ok false
  | some m =>
    match at'.addMicros (-(hours * hourMicros)) with
    | none => .error .overflow
    | some since => .ok (since.instant ≤ m && m ≤ at'.instant)

def refused (decision : EgressDecision) (refusal : TransactionalRefusal) :
    TransactionalEgressOutcome :=
  ⟨decision, some refusal, none⟩

def basisHolds (policy : TransactionalMessagingPolicy) (facts : ServiceBasisFacts) (at' : Datetime) :
    ServiceBasis → Except MomentError Bool
  | .customerInitiated => within facts.lastInboundMessageAt at' policy.serviceWindowHours
  | .openOrder =>
    if facts.hasOpenOrder then .ok true
    else within facts.lastOrderClosedAt at' policy.closedOrderGraceHours

def firstBasis (policy : TransactionalMessagingPolicy) (facts : ServiceBasisFacts) (at' : Datetime) :
    List ServiceBasis → Except MomentError TransactionalEgressOutcome
  | [] => .ok (refused .requireHuman .noServiceBasis)
  | basis :: rest => do
    if ← basisHolds policy facts at' basis then .ok ⟨.allow, none, some basis⟩
    else firstBasis policy facts at' rest

def decideTransactionalEgress (suppression : Option SuppressionState)
    (policy : Option TransactionalMessagingPolicy) (facts : ServiceBasisFacts) (at' : Datetime) :
    Except MomentError TransactionalEgressOutcome := do
  require at'.aware (.naive "the instant being judged must be timezone-aware")
  match suppression with
  | some .suppressed => .ok (refused .suppressed .suppressed)
  | some .pendingReviewBlocked => .ok (refused .requireHuman .pendingReview)
  | some .unknownBlocked => .ok (refused .requireHuman .suppressionUnknown)
  | some .clear | none =>
    match policy with
    | none => .ok (refused .requireHuman .messagingPolicyUnpublished)
    | some policy => firstBasis policy facts at' policy.bases

lemma decideTransactionalEgress_allow {suppression : Option SuppressionState}
    {policy : Option TransactionalMessagingPolicy} {facts : ServiceBasisFacts} {at' : Datetime}
    {outcome : TransactionalEgressOutcome}
    (h : decideTransactionalEgress suppression policy facts at' = .ok outcome)
    (hallow : outcome.decision = .allow) : suppression = none ∨ suppression = some .clear := by
  simp only [decideTransactionalEgress, bind_ok, require_ok] at h
  obtain ⟨-, -, h⟩ := h
  cases suppression with
  | none => exact .inl rfl
  | some state =>
    cases state with
    | clear => exact .inr rfl
    | suppressed =>
      cases h
      cases hallow
    | pendingReviewBlocked =>
      cases h
      cases hallow
    | unknownBlocked =>
      cases h
      cases hallow

end NhaTrangLaundry.Domain.ServiceMessaging
