import NhaTrangLaundry.Domain.OrderSteps

/-! The texts of the vocabularies that an order is stored in. -/

namespace NhaTrangLaundry.Domain.Catalog

open Orders OrderSteps Payments

inductive AcquisitionSource where
  | walkIn
  | googleMaps
  | zalo
  | facebook
  | partnerFrontDesk
  | referralCustomer
  | leafletQr
  | returning
  | unknown
deriving DecidableEq

instance : StrEnum AcquisitionSource where
  value
    | .walkIn => "WALK_IN"
    | .googleMaps => "GOOGLE_MAPS"
    | .zalo => "ZALO"
    | .facebook => "FACEBOOK"
    | .partnerFrontDesk => "PARTNER_FRONT_DESK"
    | .referralCustomer => "REFERRAL_CUSTOMER"
    | .leafletQr => "LEAFLET_QR"
    | .returning => "RETURNING"
    | .unknown => "UNKNOWN"
  members := [.walkIn, .googleMaps, .zalo, .facebook, .partnerFrontDesk, .referralCustomer,
    .leafletQr, .returning, .unknown]
  ofValue_value := by intro a; cases a <;> decide
  value_ascii := by intro a; cases a <;> decide

instance : StrEnum CommercialOrderStatus where
  value
    | .draft => "DRAFT"
    | .requested => "REQUESTED"
    | .storeConfirmationPending => "STORE_CONFIRMATION_PENDING"
    | .confirmed => "CONFIRMED"
    | .active => "ACTIVE"
    | .cancellationReview => "CANCELLATION_REVIEW"
    | .cancelled => "CANCELLED"
    | .completed => "COMPLETED"
  members := [.draft, .requested, .storeConfirmationPending, .confirmed, .active,
    .cancellationReview, .cancelled, .completed]
  ofValue_value := by intro a; cases a <;> decide
  value_ascii := by intro a; cases a <;> decide

instance : StrEnum IntakeStatus where
  value
    | .awaitingHandoff => "AWAITING_HANDOFF"
    | .receivedPendingInspection => "RECEIVED_PENDING_INSPECTION"
    | .waitingPriceApproval => "WAITING_PRICE_APPROVAL"
    | .waitingCustomerReconfirmation => "WAITING_CUSTOMER_RECONFIRMATION"
    | .waitingSlotApproval => "WAITING_SLOT_APPROVAL"
    | .accepted => "ACCEPTED"
    | .rejected => "REJECTED"
  members := [.awaitingHandoff, .receivedPendingInspection, .waitingPriceApproval,
    .waitingCustomerReconfirmation, .waitingSlotApproval, .accepted, .rejected]
  ofValue_value := by intro a; cases a <;> decide
  value_ascii := by intro a; cases a <;> decide

instance : StrEnum ProductionStatus where
  value
    | .notStarted => "NOT_STARTED"
    | .queued => "QUEUED"
    | .inProcess => "IN_PROCESS"
    | .qualityCheck => "QUALITY_CHECK"
    | .readyAtStore => "READY_AT_STORE"
    | .released => "RELEASED"
    | .onHold => "ON_HOLD"
    | .exception => "EXCEPTION"
  members := [.notStarted, .queued, .inProcess, .qualityCheck, .readyAtStore, .released, .onHold,
    .exception]
  ofValue_value := by intro a; cases a <;> decide
  value_ascii := by intro a; cases a <;> decide

instance : StrEnum OrderBalanceStatus where
  value
    | .unpaid => "UNPAID"
    | .partiallyPaid => "PARTIALLY_PAID"
    | .paid => "PAID"
    | .overpaid => "OVERPAID"
    | .onAccount => "ON_ACCOUNT"
    | .refunded => "REFUNDED"
  members := [.unpaid, .partiallyPaid, .paid, .overpaid, .onAccount, .refunded]
  ofValue_value := by intro a; cases a <;> decide
  value_ascii := by intro a; cases a <;> decide

instance : StrEnum OrderStep where
  value := OrderStep.value
  members := stepOrder
  ofValue_value := by intro a; cases a <;> decide
  value_ascii := by intro a; cases a <;> decide

instance : StrEnum CustodyResolution where
  value
    | .notReceived => "NOT_RECEIVED"
    | .returnedUnwashedRefunded => "RETURNED_UNWASHED_REFUNDED"
    | .shopFaultNoCharge => "SHOP_FAULT_NO_CHARGE"
    | .unclaimedDisposed => "UNCLAIMED_DISPOSED"
  members := custodyResolutions
  ofValue_value := by intro a; cases a <;> decide
  value_ascii := by intro a; cases a <;> decide

instance : StrEnum RewashReason where
  value
    | .notClean => "NOT_CLEAN"
    | .machineFault => "MACHINE_FAULT"
    | .other => "OTHER"
  members := rewashReasons
  ofValue_value := by intro a; cases a <;> decide
  value_ascii := by intro a; cases a <;> decide

instance : StrEnum IntakeRejectionReason where
  value
    | .notServiceable => "NOT_SERVICEABLE"
    | .damagedOnArrival => "DAMAGED_ON_ARRIVAL"
    | .other => "OTHER"
  members := intakeRejectionReasons
  ofValue_value := by intro a; cases a <;> decide
  value_ascii := by intro a; cases a <;> decide

instance : StrEnum ChargeKind where
  value
    | .quotedTotal => "QUOTED_TOTAL"
    | .storageFee => "STORAGE_FEE"
  members := [.quotedTotal, .storageFee]
  ofValue_value := by intro a; cases a <;> decide
  value_ascii := by intro a; cases a <;> decide

end NhaTrangLaundry.Domain.Catalog
