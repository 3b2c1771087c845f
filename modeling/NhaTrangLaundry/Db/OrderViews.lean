import NhaTrangLaundry.Domain.OrderTexts
import NhaTrangLaundry.Domain.QuoteParsing
import NhaTrangLaundry.Lib.Isoformat
import NhaTrangLaundry.Lib.DecimalText
import NhaTrangLaundry.Lib.JsonReads

/-! An order as the counter reads it, as a step's stored answer, and as it is read back from
that answer. -/

namespace NhaTrangLaundry.Db.OrderViews

open Lib Domain Catalog Orders OrderSteps Payments Quotes.Payload
open Json (Holds Reads same_str same_bool same_int same_null same_arr same_obj)
open StrEnum (value)

/-- A timestamp that carries its offset, which is all that `_datetime` lets through. -/
structure Instant where
  moment : Datetime
  aware : moment.aware
deriving DecidableEq

structure DeliveryLegView where
  legKind : String
  outcome : String
  recordedAt : Instant
deriving DecidableEq

/-- A next step, with the request fields it requires as their names. -/
structure NextStepView where
  step : OrderStep
  primary : Bool
  requires : List String
  custodyResolutions : List CustodyResolution
  rewashReasons : List RewashReason
  rejectionReasons : List IntakeRejectionReason
deriving DecidableEq

structure PaymentView where
  paymentId : Uuid
  amountVnd : Int
  method : String
  bankRefLast : Option String
  legacy : Bool
  recordedAt : Instant
  recordedByStaffId : Uuid
  recordedByName : Option String
deriving DecidableEq

structure CancellationMoneyView where
  stage : String
  refundableVnd : Int
  nettedVnd : Int
  refundVnd : Int
  voidedVnd : Int
  reissuedVnd : Int
  linesVi : List String
  refusal : Option String
deriving DecidableEq

structure OrderView where
  orderId : Uuid
  storeId : Uuid
  commercial : CommercialOrderStatus
  intake : IntakeStatus
  production : ProductionStatus
  balance : OrderBalanceStatus
  rowVersion : Int
  fulfillmentMode : FulfillmentMode
  createdAt : Instant
  quoteId : Uuid
  quoteRevision : Int
  payableTotalVnd : Option Int
  ticketNumber : Option Int
  ticketIssuedOn : Option Date
  selfCollectionRecorded : Bool
  acquisitionSource : AcquisitionSource
  deliveryLegs : List DeliveryLegView
  requiredDeliveryLegsSucceeded : Bool
  settlementShape : Option String
  nextSteps : List NextStepView
  promisedReadyAt : Option Instant
  currentPromiseAt : Option Instant
  productionReadyAt : Option Instant
  promiseBasis : Option String
  promiseRuleId : Option String
  charges : List OrderCharge
  owedVnd : Option Int
  paidVnd : Option Int
  remainingVnd : Option Int
  payments : List PaymentView
  paymentsTruncated : Bool
  paymentMayHandOver : Bool
  customerId : Option Uuid := none
  customerName : Option String := none
  customerHasPhone : Bool := false
  cancellationMoney : Option CancellationMoneyView := none
  cancellationRefundVnd : Option Int := none
deriving DecidableEq

/-- A stored answer names no customer and previews no cancellation. -/
def OrderView.replayed (view : OrderView) : OrderView :=
  { view with
    customerId := none
    customerName := none
    customerHasPhone := false
    cancellationMoney := none
    cancellationRefundVnd := none }

def paymentReadLimit : Nat := 50

section Writing

def orNull {α : Type} (write : α → Json) : Option α → Json
  | none => .null
  | some a => write a

def isoformat (instant : Instant) : Json := .str instant.moment.isoformat

def valueOf {α : Type} [StrEnum α] (a : α) : Json := .str (value a)

def uuidText (u : Uuid) : Json := .str u.str

def dateText (d : Date) : Json := .str d.isoformat

def legDocument (leg : DeliveryLegView) : Json :=
  .obj [("leg_kind", .str leg.legKind), ("outcome", .str leg.outcome),
    ("recorded_at", isoformat leg.recordedAt)]

def stepDocument (item : NextStepView) : Json :=
  .obj [("step", valueOf item.step), ("primary", .bool item.primary),
    ("requires", .arr (item.requires.map .str)),
    ("custody_resolutions", .arr (item.custodyResolutions.map valueOf)),
    ("rewash_reasons", .arr (item.rewashReasons.map valueOf)),
    ("rejection_reasons", .arr (item.rejectionReasons.map valueOf))]

def chargeDocument (charge : OrderCharge) : Json :=
  .obj [("kind", valueOf charge.kind), ("amount_vnd", .int charge.amountVnd)]

def paymentDocument (item : PaymentView) : Json :=
  .obj [("payment_id", uuidText item.paymentId), ("amount_vnd", .int item.amountVnd),
    ("method", .str item.method), ("bank_ref_last", orNull .str item.bankRefLast),
    ("legacy", .bool item.legacy), ("recorded_at", isoformat item.recordedAt),
    ("recorded_by_staff_id", uuidText item.recordedByStaffId),
    ("recorded_by_name", orNull .str item.recordedByName)]

/-- The members of `_order_view_document`. -/
def orderViewMembers (view : OrderView) : List (String × Json) :=
  [("order_id", uuidText view.orderId), ("store_id", uuidText view.storeId),
    ("commercial", valueOf view.commercial), ("intake", valueOf view.intake),
    ("production", valueOf view.production), ("balance", valueOf view.balance),
    ("row_version", .int view.rowVersion), ("fulfillment_mode", valueOf view.fulfillmentMode),
    ("created_at", isoformat view.createdAt), ("quote_id", uuidText view.quoteId),
    ("quote_revision", .int view.quoteRevision),
    ("payable_total_vnd", orNull .int view.payableTotalVnd),
    ("ticket_number", orNull .int view.ticketNumber),
    ("ticket_issued_on", orNull dateText view.ticketIssuedOn),
    ("self_collection_recorded", .bool view.selfCollectionRecorded),
    ("acquisition_source", valueOf view.acquisitionSource),
    ("delivery_legs", .arr (view.deliveryLegs.map legDocument)),
    ("required_delivery_legs_succeeded", .bool view.requiredDeliveryLegsSucceeded),
    ("settlement_shape", orNull .str view.settlementShape),
    ("next_steps", .arr (view.nextSteps.map stepDocument)),
    ("promised_ready_at", orNull isoformat view.promisedReadyAt),
    ("current_promise_at", orNull isoformat view.currentPromiseAt),
    ("production_ready_at", orNull isoformat view.productionReadyAt),
    ("promise_basis", orNull .str view.promiseBasis),
    ("promise_rule_id", orNull .str view.promiseRuleId),
    ("charges", .arr (view.charges.map chargeDocument)),
    ("owed_vnd", orNull .int view.owedVnd), ("paid_vnd", orNull .int view.paidVnd),
    ("remaining_vnd", orNull .int view.remainingVnd),
    ("payments", .arr (view.payments.map paymentDocument)),
    ("payments_truncated", .bool view.paymentsTruncated),
    ("payment_may_hand_over", .bool view.paymentMayHandOver)]

def orderViewDocument (view : OrderView) : Json := .obj (orderViewMembers view)

end Writing

section Reading

/-- `int(str(value))`. -/
def intOfText (j : Json) : Option Int := do
  let s ← text j
  integerText s.toList

/-- `value is True`. -/
def isTrue (j : Json) : Option Bool :=
  match j with
  | .bool true => some true
  | _ => some false

/-- `None if value is None else read(value)`. -/
def unlessNull {α : Type} (read : Json → Option α) : Json → Option (Option α)
  | .null => some none
  | j => some <$> read j

/-- `_datetime(datetime.fromisoformat(str(value)))`. -/
def instantOf (j : Json) : Option Instant := do
  let s ← text j
  let moment ← Datetime.fromisoformat s.toList
  if h : moment.aware then some ⟨moment, h⟩ else none

/-- `date.fromisoformat(str(value))`. -/
def dateOf (j : Json) : Option Date := do
  let s ← text j
  Date.fromisoformat s.toList

def listOf {α : Type} (read : Json → Option α) : Json → Option (List α)
  | .arr xs => xs.mapM read
  | _ => none

/-- `value.get(key, default)`, read. -/
def fieldOr {α : Type} (j : Json) (key : String) (default : Json) (read : Json → Option α) :
    Option α :=
  match j with
  | .obj _ => read ((j.get? key).getD default)
  | _ => none

/-- One item of `_delivery_legs`. -/
def legOf (item : Json) : Option DeliveryLegView := do
  let recordedAt ← field item "recorded_at" instantOf
  let legKind ← field item "leg_kind" text
  let outcome ← field item "outcome" text
  some ⟨legKind, outcome, recordedAt⟩

def stepOf (item : Json) : Option NextStepView := do
  let step ← field item "step" (member OrderStep)
  let primary ← field item "primary" isTrue
  let requires ← field item "requires" (sequence text)
  let custodyResolutions ←
    field item "custody_resolutions" (sequence (member CustodyResolution))
  let rewashReasons ← fieldOr item "rewash_reasons" (.arr []) (sequence (member RewashReason))
  let rejectionReasons ←
    fieldOr item "rejection_reasons" (.arr []) (sequence (member IntakeRejectionReason))
  some ⟨step, primary, requires, custodyResolutions, rewashReasons, rejectionReasons⟩

def chargeOf (item : Json) : Option OrderCharge := do
  let kind ← field item "kind" (member ChargeKind)
  let amountVnd ← field item "amount_vnd" intOfText
  some ⟨kind, amountVnd⟩

/-- One item of `payment_views`. -/
def paymentOf (item : Json) : Option PaymentView := do
  let recordedAt ← field item "recorded_at" instantOf
  let recordedByName ← fieldOr item "recorded_by_name" .null (unlessNull text)
  let bankRefLast ← fieldOr item "bank_ref_last" .null (unlessNull text)
  let paymentId ← field item "payment_id" uuid
  let amountVnd ← field item "amount_vnd" intOfText
  let method ← field item "method" text
  let legacy ← field item "legacy" isTrue
  let recordedByStaffId ← field item "recorded_by_staff_id" uuid
  some ⟨paymentId, amountVnd, method, bankRefLast, legacy, recordedAt, recordedByStaffId,
    recordedByName⟩

def paymentViews (j : Json) : Option (List PaymentView × Bool) := do
  let views ← listOf paymentOf j
  some (views.take paymentReadLimit, decide (paymentReadLimit < views.length))

structure MoneyFields where
  charges : List OrderCharge
  owedVnd : Option Int
  paidVnd : Option Int
  remainingVnd : Option Int
  payments : List PaymentView
  paymentsTruncated : Bool
  paymentMayHandOver : Bool

def moneyFieldsFromDocument (document : Json) : Option MoneyFields := do
  let views ← fieldOr document "payments" (.arr []) paymentViews
  let charges ← fieldOr document "charges" (.arr []) (listOf chargeOf)
  let owedVnd ← fieldOr document "owed_vnd" .null (unlessNull intOfText)
  let paidVnd ← fieldOr document "paid_vnd" .null (unlessNull intOfText)
  let remainingVnd ← fieldOr document "remaining_vnd" .null (unlessNull intOfText)
  let paymentsTruncated ← fieldOr document "payments_truncated" .null isTrue
  let paymentMayHandOver ← fieldOr document "payment_may_hand_over" .null isTrue
  some ⟨charges, owedVnd, paidVnd, remainingVnd, views.1, paymentsTruncated, paymentMayHandOver⟩

def orderViewFromDocument (document : Json) : Option OrderView := do
  let orderId ← field document "order_id" uuid
  let storeId ← field document "store_id" uuid
  let commercial ← field document "commercial" (member CommercialOrderStatus)
  let intake ← field document "intake" (member IntakeStatus)
  let production ← field document "production" (member ProductionStatus)
  let balance ← field document "balance" (member OrderBalanceStatus)
  let rowVersion ← field document "row_version" intOfText
  let fulfillmentMode ← field document "fulfillment_mode" (member FulfillmentMode)
  let createdAt ← field document "created_at" instantOf
  let quoteId ← field document "quote_id" uuid
  let quoteRevision ← field document "quote_revision" intOfText
  let payableTotalVnd ← field document "payable_total_vnd" (unlessNull intOfText)
  let ticketNumber ← field document "ticket_number" (unlessNull intOfText)
  let ticketIssuedOn ← field document "ticket_issued_on" (unlessNull dateOf)
  let selfCollectionRecorded ← field document "self_collection_recorded" isTrue
  let acquisitionSource ← field document "acquisition_source" (member AcquisitionSource)
  let deliveryLegs ← field document "delivery_legs" (listOf legOf)
  let requiredDeliveryLegsSucceeded ← field document "required_delivery_legs_succeeded" isTrue
  let settlementShape ← field document "settlement_shape" (unlessNull text)
  let nextSteps ← field document "next_steps" (listOf stepOf)
  let promisedReadyAt ← fieldOr document "promised_ready_at" .null (unlessNull instantOf)
  let currentPromiseAt ← fieldOr document "current_promise_at" .null (unlessNull instantOf)
  let productionReadyAt ← fieldOr document "production_ready_at" .null (unlessNull instantOf)
  let promiseBasis ← fieldOr document "promise_basis" .null (unlessNull text)
  let promiseRuleId ← fieldOr document "promise_rule_id" .null (unlessNull text)
  let money ← moneyFieldsFromDocument document
  some
    { orderId, storeId, commercial, intake, production, balance, rowVersion, fulfillmentMode,
      createdAt, quoteId, quoteRevision, payableTotalVnd, ticketNumber, ticketIssuedOn,
      selfCollectionRecorded, acquisitionSource, deliveryLegs, requiredDeliveryLegsSucceeded,
      settlementShape, nextSteps, promisedReadyAt, currentPromiseAt, productionReadyAt,
      promiseBasis, promiseRuleId, charges := money.charges, owedVnd := money.owedVnd,
      paidVnd := money.paidVnd, remainingVnd := money.remainingVnd, payments := money.payments,
      paymentsTruncated := money.paymentsTruncated,
      paymentMayHandOver := money.paymentMayHandOver }

end Reading

section

variable {α : Type} {stored value : Json} {fields : List (String × Json)} {read : Json → Option α}
  {write : α → Json} {a : α}

lemma field_eq (h : Holds stored fields) (key : String) (hkey : fields.lookup key = some value)
    (hread : Reads read value a) : field stored key read = some a := by
  obtain ⟨kept, hkept, hsame, hdistinct⟩ := h.get? hkey
  rw [field, hkept]
  exact hread kept hsame hdistinct

lemma fieldOr_eq (h : Holds stored fields) (key : String) {default : Json}
    (hkey : fields.lookup key = some value) (hread : Reads read value a) :
    fieldOr stored key default read = some a := by
  obtain ⟨kept, hkept, hsame, hdistinct⟩ := h.get? hkey
  obtain ⟨fields', rfl⟩ := same_obj h.same
  rw [fieldOr, hkept, Option.getD_some]
  exact hread kept hsame hdistinct

lemma reads_text (s : String) : Reads text (.str s) s := by
  intro stored hsame _
  rw [same_str hsame]
  rfl

lemma reads_member [StrEnum α] (a : α) : Reads (member α) (valueOf a) a := by
  intro stored hsame _
  rw [same_str hsame, member, text, Option.bind_eq_bind, Option.bind_some, Catalog.ofValue_value]

lemma reads_uuid (u : Uuid) : Reads uuid (uuidText u) u := by
  intro stored hsame _
  rw [same_str hsame, uuid, text, Option.bind_eq_bind, Option.bind_some, Uuid.ofText_str]

lemma reads_bool (b : Bool) : Reads isTrue (.bool b) b := by
  intro stored hsame _
  rw [same_bool hsame]
  cases b <;> rfl

lemma integerText_intText (n : Int) : integerText (Json.intText n) = some n := by
  obtain ⟨c, ds, hdigits, hc⟩ := Json.toDigits_head n.natAbs
  have hread := Decimal.numeral_toDigits n.natAbs
  rw [hdigits] at hread
  rw [Json.intText, hdigits]
  by_cases hneg : n < 0
  · have hvalue : -(n.natAbs : Int) = n := by omega
    rw [if_pos hneg, integerText, hread]
    exact congrArg some hvalue
  · have hminus : c ≠ '-' := by
      rintro rfl
      cases hc
    have hplus : c ≠ '+' := by
      rintro rfl
      cases hc
    rw [if_neg hneg, integerText.eq_def]
    split
    · next heq => exact absurd (List.cons.inj heq).1 hminus
    · next heq => exact absurd (List.cons.inj heq).1 hplus
    · next heq =>
      cases heq
      have hvalue : (n.natAbs : Int) = n := by omega
      rw [hread]
      exact congrArg some hvalue
    · next heq => cases heq

lemma reads_int (n : Int) : Reads intOfText (.int n) n := by
  intro stored hsame _
  rw [same_int hsame, intOfText, text, Option.bind_eq_bind, Option.bind_some, String.toList_ofList]
  exact integerText_intText n

lemma reads_instant (instant : Instant) : Reads instantOf (isoformat instant) instant := by
  intro stored hsame _
  rw [same_str hsame, instantOf, text, Option.bind_eq_bind, Option.bind_some,
    Datetime.fromisoformat_isoformat, Option.bind_eq_bind, Option.bind_some, dif_pos instant.aware]

lemma reads_date (d : Date) : Reads dateOf (dateText d) d := by
  intro stored hsame _
  rw [same_str hsame, dateOf, text, Option.bind_eq_bind, Option.bind_some,
    Date.fromisoformat_isoformat]

/-- A value that may be missing, where no value is written as `null`. -/
lemma reads_orNull (o : Option α) (hread : ∀ a, Reads read (write a) a)
    (hnull : ∀ a, write a ≠ .null) : Reads (unlessNull read) (orNull write o) o := by
  intro stored hsame hdistinct
  cases o with
  | none =>
    rw [same_null hsame]
    rfl
  | some a =>
    have hvalue : stored ≠ .null := by
      rintro rfl
      exact hnull a (same_null hsame.symm)
    have hfound := hread a stored hsame hdistinct
    unfold unlessNull
    split
    · exact absurd rfl hvalue
    · rw [hfound]
      rfl

lemma reads_list (items : List α) (hread : ∀ a ∈ items, Reads read (write a) a) :
    Reads (listOf read) (.arr (items.map write)) items := by
  intro stored hsame hdistinct
  obtain ⟨xs, rfl, hxs⟩ := same_arr hsame
  rw [Json.distinct, Json.distinctList_iff] at hdistinct
  exact Reads.mapM items hread xs hxs hdistinct

lemma reads_sequence (items : List α) (hread : ∀ a ∈ items, Reads read (write a) a) :
    Reads (sequence read) (.arr (items.map write)) items := by
  intro stored hsame hdistinct
  obtain ⟨xs, rfl, hxs⟩ := same_arr hsame
  rw [Json.distinct, Json.distinctList_iff] at hdistinct
  exact Reads.mapM items hread xs hxs hdistinct

lemma reads_optionalText (o : Option String) : Reads (unlessNull text) (orNull .str o) o :=
  reads_orNull o reads_text fun _ h => nomatch h

lemma reads_optionalInt (o : Option Int) : Reads (unlessNull intOfText) (orNull .int o) o :=
  reads_orNull o reads_int fun _ h => nomatch h

lemma reads_optionalInstant (o : Option Instant) :
    Reads (unlessNull instantOf) (orNull isoformat o) o :=
  reads_orNull o reads_instant fun _ h => nomatch h

lemma reads_optionalDate (o : Option Date) : Reads (unlessNull dateOf) (orNull dateText o) o :=
  reads_orNull o reads_date fun _ h => nomatch h

lemma reads_members [StrEnum α] (items : List α) :
    Reads (sequence (member α)) (.arr (items.map valueOf)) items :=
  reads_sequence items fun a _ => reads_member a

end

section

lemma reads_leg (leg : DeliveryLegView) : Reads legOf (legDocument leg) leg := by
  intro stored hsame hdistinct
  have h : Holds stored _ := ⟨hsame, hdistinct⟩
  rw [legOf, field_eq h "recorded_at" rfl (reads_instant leg.recordedAt),
    field_eq h "leg_kind" rfl (reads_text leg.legKind), field_eq h "outcome" rfl (reads_text leg.outcome)]
  rfl

lemma reads_step (item : NextStepView) : Reads stepOf (stepDocument item) item := by
  intro stored hsame hdistinct
  have h : Holds stored _ := ⟨hsame, hdistinct⟩
  rw [stepOf, field_eq h "step" rfl (reads_member item.step),
    field_eq h "primary" rfl (reads_bool item.primary),
    field_eq h "requires" rfl (reads_sequence item.requires fun s _ => reads_text s),
    field_eq h "custody_resolutions" rfl (reads_members item.custodyResolutions),
    fieldOr_eq h "rewash_reasons" rfl (reads_members item.rewashReasons),
    fieldOr_eq h "rejection_reasons" rfl (reads_members item.rejectionReasons)]
  rfl

lemma reads_charge (charge : OrderCharge) : Reads chargeOf (chargeDocument charge) charge := by
  intro stored hsame hdistinct
  have h : Holds stored _ := ⟨hsame, hdistinct⟩
  rw [chargeOf, field_eq h "kind" rfl (reads_member charge.kind),
    field_eq h "amount_vnd" rfl (reads_int charge.amountVnd)]
  rfl

lemma reads_payment (item : PaymentView) : Reads paymentOf (paymentDocument item) item := by
  intro stored hsame hdistinct
  have h : Holds stored _ := ⟨hsame, hdistinct⟩
  rw [paymentOf, field_eq h "recorded_at" rfl (reads_instant item.recordedAt),
    fieldOr_eq h "recorded_by_name" rfl (reads_optionalText item.recordedByName),
    fieldOr_eq h "bank_ref_last" rfl (reads_optionalText item.bankRefLast),
    field_eq h "payment_id" rfl (reads_uuid item.paymentId),
    field_eq h "amount_vnd" rfl (reads_int item.amountVnd),
    field_eq h "method" rfl (reads_text item.method), field_eq h "legacy" rfl (reads_bool item.legacy),
    field_eq h "recorded_by_staff_id" rfl (reads_uuid item.recordedByStaffId)]
  rfl

lemma reads_payments (items : List PaymentView) (h : items.length ≤ paymentReadLimit) :
    Reads paymentViews (.arr (items.map paymentDocument)) (items, false) := by
  intro stored hsame hdistinct
  have hviews := reads_list items (fun item _ => reads_payment item) stored hsame hdistinct
  rw [paymentViews, hviews, Option.bind_eq_bind, Option.bind_some, List.take_of_length_le h,
    decide_eq_false (Nat.not_lt.mpr h)]

lemma money_of_holds {stored : Json} {view : OrderView} (h : Holds stored (orderViewMembers view))
    (hshown : view.payments.length ≤ paymentReadLimit) :
    moneyFieldsFromDocument stored = some ⟨view.charges, view.owedVnd, view.paidVnd,
      view.remainingVnd, view.payments, view.paymentsTruncated, view.paymentMayHandOver⟩ := by
  rw [moneyFieldsFromDocument, fieldOr_eq h "payments" rfl (reads_payments view.payments hshown),
    fieldOr_eq h "charges" rfl (reads_list view.charges fun charge _ => reads_charge charge),
    fieldOr_eq h "owed_vnd" rfl (reads_optionalInt view.owedVnd),
    fieldOr_eq h "paid_vnd" rfl (reads_optionalInt view.paidVnd),
    fieldOr_eq h "remaining_vnd" rfl (reads_optionalInt view.remainingVnd),
    fieldOr_eq h "payments_truncated" rfl (reads_bool view.paymentsTruncated),
    fieldOr_eq h "payment_may_hand_over" rfl (reads_bool view.paymentMayHandOver)]
  rfl

lemma reads_orderView (view : OrderView) (hshown : view.payments.length ≤ paymentReadLimit) :
    Reads orderViewFromDocument (orderViewDocument view) view.replayed := by
  intro stored hsame hdistinct
  have h : Holds stored (orderViewMembers view) := ⟨hsame, hdistinct⟩
  rw [orderViewFromDocument, field_eq h "order_id" rfl (reads_uuid view.orderId),
    field_eq h "store_id" rfl (reads_uuid view.storeId),
    field_eq h "commercial" rfl (reads_member view.commercial),
    field_eq h "intake" rfl (reads_member view.intake),
    field_eq h "production" rfl (reads_member view.production),
    field_eq h "balance" rfl (reads_member view.balance),
    field_eq h "row_version" rfl (reads_int view.rowVersion),
    field_eq h "fulfillment_mode" rfl (reads_member view.fulfillmentMode),
    field_eq h "created_at" rfl (reads_instant view.createdAt),
    field_eq h "quote_id" rfl (reads_uuid view.quoteId),
    field_eq h "quote_revision" rfl (reads_int view.quoteRevision),
    field_eq h "payable_total_vnd" rfl (reads_optionalInt view.payableTotalVnd),
    field_eq h "ticket_number" rfl (reads_optionalInt view.ticketNumber),
    field_eq h "ticket_issued_on" rfl (reads_optionalDate view.ticketIssuedOn),
    field_eq h "self_collection_recorded" rfl (reads_bool view.selfCollectionRecorded),
    field_eq h "acquisition_source" rfl (reads_member view.acquisitionSource),
    field_eq h "delivery_legs" rfl (reads_list view.deliveryLegs fun leg _ => reads_leg leg),
    field_eq h "required_delivery_legs_succeeded" rfl
      (reads_bool view.requiredDeliveryLegsSucceeded),
    field_eq h "settlement_shape" rfl (reads_optionalText view.settlementShape),
    field_eq h "next_steps" rfl (reads_list view.nextSteps fun item _ => reads_step item),
    fieldOr_eq h "promised_ready_at" rfl (reads_optionalInstant view.promisedReadyAt),
    fieldOr_eq h "current_promise_at" rfl (reads_optionalInstant view.currentPromiseAt),
    fieldOr_eq h "production_ready_at" rfl (reads_optionalInstant view.productionReadyAt),
    fieldOr_eq h "promise_basis" rfl (reads_optionalText view.promiseBasis),
    fieldOr_eq h "promise_rule_id" rfl (reads_optionalText view.promiseRuleId),
    money_of_holds h hshown]
  rfl

lemma distinct_orNull {α : Type} (write : α → Json) (hwrite : ∀ a, (write a).distinct)
    (o : Option α) : (orNull write o).distinct := by
  cases o with
  | none => trivial
  | some a => exact hwrite a

lemma distinct_arr {α : Type} (write : α → Json) (hwrite : ∀ a, (write a).distinct)
    (items : List α) : (Json.arr (items.map write)).distinct := by
  rw [Json.distinct, Json.distinctList_iff, List.forall_mem_map]
  exact fun a _ => hwrite a

lemma distinct_texts (items : List String) : (Json.arr (items.map .str)).distinct :=
  distinct_arr .str (fun _ => trivial) items

lemma distinct_values {α : Type} [StrEnum α] (items : List α) :
    (Json.arr (items.map valueOf)).distinct :=
  distinct_arr valueOf (fun _ => trivial) items

lemma distinct_optionalText (o : Option String) : (orNull .str o).distinct :=
  distinct_orNull .str (fun _ => trivial) o

lemma distinct_optionalInt (o : Option Int) : (orNull .int o).distinct :=
  distinct_orNull .int (fun _ => trivial) o

lemma distinct_optionalInstant (o : Option Instant) : (orNull isoformat o).distinct :=
  distinct_orNull isoformat (fun _ => trivial) o

lemma distinct_optionalDate (o : Option Date) : (orNull dateText o).distinct :=
  distinct_orNull dateText (fun _ => trivial) o

lemma distinct_leg (leg : DeliveryLegView) : (legDocument leg).distinct :=
  ⟨by simp, trivial, trivial, trivial, trivial⟩

lemma distinct_step (item : NextStepView) : (stepDocument item).distinct :=
  ⟨by simp, trivial, trivial, distinct_texts _, distinct_values _, distinct_values _,
    distinct_values _, trivial⟩

lemma distinct_charge (charge : OrderCharge) : (chargeDocument charge).distinct :=
  ⟨by simp, trivial, trivial, trivial⟩

lemma distinct_payment (item : PaymentView) : (paymentDocument item).distinct :=
  ⟨by simp, trivial, trivial, trivial, distinct_optionalText _, trivial, trivial, trivial,
    distinct_optionalText _, trivial⟩

lemma distinct_document (view : OrderView) : (orderViewDocument view).distinct :=
  ⟨by simp [orderViewMembers], trivial, trivial, trivial, trivial, trivial, trivial, trivial,
    trivial, trivial, trivial, trivial, distinct_optionalInt _, distinct_optionalInt _,
    distinct_optionalDate _, trivial, trivial, distinct_arr _ distinct_leg _, trivial,
    distinct_optionalText _, distinct_arr _ distinct_step _, distinct_optionalInstant _,
    distinct_optionalInstant _, distinct_optionalInstant _, distinct_optionalText _,
    distinct_optionalText _, distinct_arr _ distinct_charge _, distinct_optionalInt _,
    distinct_optionalInt _, distinct_optionalInt _, distinct_arr _ distinct_payment _, trivial,
    trivial, trivial⟩

/-- A step's stored answer reads back as the view it was written from: from its JSON text, and
from any value with its members in whatever order a column keeps them. -/
theorem order_view_reads_back (view : OrderView)
    (hshown : view.payments.length ≤ paymentReadLimit) :
    (Json.loads (String.ofList (Json.inOrder (orderViewDocument view)))).bind
        orderViewFromDocument = some view.replayed ∧
      ∀ stored, Json.Same stored (orderViewDocument view) → Json.distinct stored →
        orderViewFromDocument stored = some view.replayed := by
  refine ⟨?_, reads_orderView view hshown⟩
  rw [Json.loads_inOrder (distinct_document view), Option.bind_some]
  exact reads_orderView view hshown _ rfl (distinct_document view)

/-- An order of two shirts, paid in part, with a courier's first attempt failed. -/
def shirtsView : OrderView where
  orderId := ⟨1⟩
  storeId := ⟨2⟩
  commercial := .active
  intake := .accepted
  production := .inProcess
  balance := .partiallyPaid
  rowVersion := 4
  fulfillmentMode := .pickupAndReturn
  createdAt := ⟨.ofUtc (730179 * dayMicros) (by decide), rfl⟩
  quoteId := ⟨3⟩
  quoteRevision := 1
  payableTotalVnd := some 60000
  ticketNumber := none
  ticketIssuedOn := none
  selfCollectionRecorded := false
  acquisitionSource := .returning
  deliveryLegs := [⟨"PICKUP", "FAILED", ⟨.ofUtc (730179 * dayMicros + 1) (by decide), rfl⟩⟩]
  requiredDeliveryLegsSucceeded := false
  settlementShape := none
  nextSteps := [⟨.rewash, false, ["rewash_reason"], [], [.notClean], []⟩]
  promisedReadyAt := none
  currentPromiseAt := none
  productionReadyAt := none
  promiseBasis := none
  promiseRuleId := none
  charges := [⟨.quotedTotal, 60000⟩]
  owedVnd := some 60000
  paidVnd := some 20000
  remainingVnd := some 40000
  payments := [⟨⟨5⟩, 20000, "TIEN_MAT", none, false,
    ⟨.ofUtc (730179 * dayMicros + 2) (by decide), rfl⟩, ⟨6⟩, some "Lan"⟩]
  paymentsTruncated := false
  paymentMayHandOver := false
  customerId := some ⟨7⟩
  customerName := some "Minh"
  customerHasPhone := true

theorem shirts_read_back : shirtsView.payments.length ≤ paymentReadLimit ∧
    (Json.loads (String.ofList (Json.inOrder (orderViewDocument shirtsView)))).bind
      orderViewFromDocument = some shirtsView.replayed :=
  ⟨by decide, (order_view_reads_back shirtsView (by decide)).1⟩

end

end NhaTrangLaundry.Db.OrderViews
