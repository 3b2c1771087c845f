import NhaTrangLaundry.Lib.Text

/-! The registered vocabularies. Every member is written and read as its text. -/

namespace NhaTrangLaundry.Domain.Catalog

open Lib

/-- A closed vocabulary whose members are told apart by their texts. -/
class StrEnum (α : Type) where
  value : α → String
  members : List α
  ofValue_value : ∀ a, members.find? (fun b => value b == value a) = some a
  value_ascii : ∀ a, Text.ascii (value a)

open StrEnum

def ofValue (α : Type) [StrEnum α] (s : String) : Option α :=
  (members : List α).find? fun b => value b == s

@[simp] lemma ofValue_value {α : Type} [StrEnum α] (a : α) : ofValue α (value a) = some a :=
  StrEnum.ofValue_value a

inductive QuantityUnit where
  | kg
  | item
  | pair
  | set
  | animalPlushItem
  | case
  | m2
deriving DecidableEq

instance : StrEnum QuantityUnit where
  value
    | .kg => "KG"
    | .item => "ITEM"
    | .pair => "PAIR"
    | .set => "SET"
    | .animalPlushItem => "ANIMAL_PLUSH_ITEM"
    | .case => "CASE"
    | .m2 => "M2"
  members := [.kg, .item, .pair, .set, .animalPlushItem, .case, .m2]
  ofValue_value := by intro a; cases a <;> decide +kernel
  value_ascii := by intro a; cases a <;> decide +kernel

inductive PriceRuleType where
  | fixedPerUnit
  | rangePerUnit
  | aggregateTierPerUnit
  | fixedPerOrder
  | manual
deriving DecidableEq

instance : StrEnum PriceRuleType where
  value
    | .fixedPerUnit => "FIXED_PER_UNIT"
    | .rangePerUnit => "RANGE_PER_UNIT"
    | .aggregateTierPerUnit => "AGGREGATE_TIER_PER_UNIT"
    | .fixedPerOrder => "FIXED_PER_ORDER"
    | .manual => "MANUAL"
  members := [.fixedPerUnit, .rangePerUnit, .aggregateTierPerUnit, .fixedPerOrder, .manual]
  ofValue_value := by intro a; cases a <;> decide +kernel
  value_ascii := by intro a; cases a <;> decide +kernel

inductive QuantityBasis where
  | customerEstimate
  | staffMeasurement
  | approvedManual
deriving DecidableEq

instance : StrEnum QuantityBasis where
  value
    | .customerEstimate => "CUSTOMER_ESTIMATE"
    | .staffMeasurement => "STAFF_MEASUREMENT"
    | .approvedManual => "APPROVED_MANUAL"
  members := [.customerEstimate, .staffMeasurement, .approvedManual]
  ofValue_value := by intro a; cases a <;> decide +kernel
  value_ascii := by intro a; cases a <;> decide +kernel

inductive QuoteFinality where
  | estimate
  | range
  | approvedExact
deriving DecidableEq

instance : StrEnum QuoteFinality where
  value
    | .estimate => "ESTIMATE"
    | .range => "RANGE"
    | .approvedExact => "APPROVED_EXACT"
  members := [.estimate, .range, .approvedExact]
  ofValue_value := by intro a; cases a <;> decide +kernel
  value_ascii := by intro a; cases a <;> decide +kernel

inductive QuoteRevisionStatus where
  | draft
  | provisional
  | reviewRequired
  | approved
  | presented
  | acknowledgedEstimate
  | acceptedFinal
  | superseded
  | expired
  | rejected
deriving DecidableEq

instance : StrEnum QuoteRevisionStatus where
  value
    | .draft => "DRAFT"
    | .provisional => "PROVISIONAL"
    | .reviewRequired => "REVIEW_REQUIRED"
    | .approved => "APPROVED"
    | .presented => "PRESENTED"
    | .acknowledgedEstimate => "ACKNOWLEDGED_ESTIMATE"
    | .acceptedFinal => "ACCEPTED_FINAL"
    | .superseded => "SUPERSEDED"
    | .expired => "EXPIRED"
    | .rejected => "REJECTED"
  members := [.draft, .provisional, .reviewRequired, .approved, .presented, .acknowledgedEstimate, .acceptedFinal, .superseded, .expired, .rejected]
  ofValue_value := by intro a; cases a <;> decide +kernel
  value_ascii := by intro a; cases a <;> decide +kernel

inductive AdjustmentDirection where
  | debit
  | credit
deriving DecidableEq

instance : StrEnum AdjustmentDirection where
  value
    | .debit => "DEBIT"
    | .credit => "CREDIT"
  members := [.debit, .credit]
  ofValue_value := by intro a; cases a <;> decide +kernel
  value_ascii := by intro a; cases a <;> decide +kernel

inductive PolicyOutcome where
  | allow
  | requireHuman
  | deny
deriving DecidableEq

instance : StrEnum PolicyOutcome where
  value
    | .allow => "ALLOW"
    | .requireHuman => "REQUIRE_HUMAN"
    | .deny => "DENY"
  members := [.allow, .requireHuman, .deny]
  ofValue_value := by intro a; cases a <;> decide +kernel
  value_ascii := by intro a; cases a <;> decide +kernel

inductive ActorRole where
  | ownerAdmin
  | opsApprover
  | operator
  | driver
  | accountant
  | auditor
  | publicAgent
  | privateAgent
  | agentRunner
  | outboxWorker
deriving DecidableEq

instance : StrEnum ActorRole where
  value
    | .ownerAdmin => "OWNER_ADMIN"
    | .opsApprover => "OPS_APPROVER"
    | .operator => "OPERATOR"
    | .driver => "DRIVER"
    | .accountant => "ACCOUNTANT"
    | .auditor => "AUDITOR"
    | .publicAgent => "PUBLIC_AGENT"
    | .privateAgent => "PRIVATE_AGENT"
    | .agentRunner => "AGENT_RUNNER"
    | .outboxWorker => "OUTBOX_WORKER"
  members := [.ownerAdmin, .opsApprover, .operator, .driver, .accountant, .auditor, .publicAgent, .privateAgent, .agentRunner, .outboxWorker]
  ofValue_value := by intro a; cases a <;> decide +kernel
  value_ascii := by intro a; cases a <;> decide +kernel

inductive PromotionResolution where
  | autoIfTargeted
  | humanConfirm
  | notEligible
deriving DecidableEq

instance : StrEnum PromotionResolution where
  value
    | .autoIfTargeted => "AUTO_IF_TARGETED"
    | .humanConfirm => "HUMAN_CONFIRM"
    | .notEligible => "NOT_ELIGIBLE"
  members := [.autoIfTargeted, .humanConfirm, .notEligible]
  ofValue_value := by intro a; cases a <;> decide +kernel
  value_ascii := by intro a; cases a <;> decide +kernel

inductive PromotionStatus where
  | notApplicable
  | provisional
  | eligible
  | ineligible
  | requiresHuman
deriving DecidableEq

instance : StrEnum PromotionStatus where
  value
    | .notApplicable => "NOT_APPLICABLE"
    | .provisional => "PROVISIONAL"
    | .eligible => "ELIGIBLE"
    | .ineligible => "INELIGIBLE"
    | .requiresHuman => "REQUIRES_HUMAN"
  members := [.notApplicable, .provisional, .eligible, .ineligible, .requiresHuman]
  ofValue_value := by intro a; cases a <;> decide +kernel
  value_ascii := by intro a; cases a <;> decide +kernel

inductive PromotionEligibilityEvent where
  | quotePresented
  | customerEstimateAcknowledged
  | customerFinalQuoteAccepted
  | storeCommercialAccepted
  | productionAccepted
deriving DecidableEq

instance : StrEnum PromotionEligibilityEvent where
  value
    | .quotePresented => "QUOTE_PRESENTED"
    | .customerEstimateAcknowledged => "CUSTOMER_ESTIMATE_ACKNOWLEDGED"
    | .customerFinalQuoteAccepted => "CUSTOMER_FINAL_QUOTE_ACCEPTED"
    | .storeCommercialAccepted => "STORE_COMMERCIAL_ACCEPTED"
    | .productionAccepted => "PRODUCTION_ACCEPTED"
  members := [.quotePresented, .customerEstimateAcknowledged, .customerFinalQuoteAccepted, .storeCommercialAccepted, .productionAccepted]
  ofValue_value := by intro a; cases a <;> decide +kernel
  value_ascii := by intro a; cases a <;> decide +kernel

inductive FulfillmentMode where
  | selfDropSelfCollect
  | pickupAndReturn
  | pickupOnly
  | returnOnly
deriving DecidableEq

instance : StrEnum FulfillmentMode where
  value
    | .selfDropSelfCollect => "SELF_DROP_SELF_COLLECT"
    | .pickupAndReturn => "PICKUP_AND_RETURN"
    | .pickupOnly => "PICKUP_ONLY"
    | .returnOnly => "RETURN_ONLY"
  members := [.selfDropSelfCollect, .pickupAndReturn, .pickupOnly, .returnOnly]
  ofValue_value := by intro a; cases a <;> decide +kernel
  value_ascii := by intro a; cases a <;> decide +kernel

inductive ErrorCode where
  | validationError
  | ambiguousService
  | incompatibleUnit
  | missingRequiredFact
  | priceRuleUnresolved
  | measurementPolicyUnresolved
  | promotionEligibilityUnresolved
  | rangePriceRequiresHuman
  | deliveryDistanceUnverified
  | deliveryFeeRequiresHuman
  | slotApprovalRequired
  | customerReconfirmationRequired
  | humanApprovalRequired
  | invalidStateTransition
  | staleVersion
  | idempotencyConflict
  | suppressedContact
  | policyDenied
  | toolUnavailable
  | rateLimited
deriving DecidableEq

instance : StrEnum ErrorCode where
  value
    | .validationError => "VALIDATION_ERROR"
    | .ambiguousService => "AMBIGUOUS_SERVICE"
    | .incompatibleUnit => "INCOMPATIBLE_UNIT"
    | .missingRequiredFact => "MISSING_REQUIRED_FACT"
    | .priceRuleUnresolved => "PRICE_RULE_UNRESOLVED"
    | .measurementPolicyUnresolved => "MEASUREMENT_POLICY_UNRESOLVED"
    | .promotionEligibilityUnresolved => "PROMOTION_ELIGIBILITY_UNRESOLVED"
    | .rangePriceRequiresHuman => "RANGE_PRICE_REQUIRES_HUMAN"
    | .deliveryDistanceUnverified => "DELIVERY_DISTANCE_UNVERIFIED"
    | .deliveryFeeRequiresHuman => "DELIVERY_FEE_REQUIRES_HUMAN"
    | .slotApprovalRequired => "SLOT_APPROVAL_REQUIRED"
    | .customerReconfirmationRequired => "CUSTOMER_RECONFIRMATION_REQUIRED"
    | .humanApprovalRequired => "HUMAN_APPROVAL_REQUIRED"
    | .invalidStateTransition => "INVALID_STATE_TRANSITION"
    | .staleVersion => "STALE_VERSION"
    | .idempotencyConflict => "IDEMPOTENCY_CONFLICT"
    | .suppressedContact => "SUPPRESSED_CONTACT"
    | .policyDenied => "POLICY_DENIED"
    | .toolUnavailable => "TOOL_UNAVAILABLE"
    | .rateLimited => "RATE_LIMITED"
  members := [.validationError, .ambiguousService, .incompatibleUnit, .missingRequiredFact, .priceRuleUnresolved, .measurementPolicyUnresolved, .promotionEligibilityUnresolved, .rangePriceRequiresHuman, .deliveryDistanceUnverified, .deliveryFeeRequiresHuman, .slotApprovalRequired, .customerReconfirmationRequired, .humanApprovalRequired, .invalidStateTransition, .staleVersion, .idempotencyConflict, .suppressedContact, .policyDenied, .toolUnavailable, .rateLimited]
  ofValue_value := by intro a; cases a <;> decide +kernel
  value_ascii := by intro a; cases a <;> decide +kernel

/-- What happened to the laundry and the money when an order was cancelled after
work began. -/
inductive CustodyResolution where
  | notReceived
  | returnedUnwashedRefunded
  | shopFaultNoCharge
  | unclaimedDisposed
deriving DecidableEq

inductive RemedyKind where
  | freeRewash
  | damageCompensation
  | lateDeliveryCredit
  | lostItem
deriving DecidableEq

inductive CommercialOrderStatus where
  | draft
  | requested
  | storeConfirmationPending
  | confirmed
  | active
  | cancellationReview
  | cancelled
  | completed
deriving DecidableEq

inductive ProductionStatus where
  | notStarted
  | queued
  | inProcess
  | qualityCheck
  | readyAtStore
  | released
  | onHold
  | exception
deriving DecidableEq

inductive OrderBalanceStatus where
  | unpaid
  | partiallyPaid
  | paid
  | overpaid
  | onAccount
  | refunded
deriving DecidableEq

def modesExpectingReturn : List FulfillmentMode := [.pickupAndReturn, .returnOnly]

end NhaTrangLaundry.Domain.Catalog
