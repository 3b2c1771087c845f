import NhaTrangLaundry.Db.ConsentEgress
import NhaTrangLaundry.Db.Orders
import NhaTrangLaundry.Domain.LateDelivery
import NhaTrangLaundry.Lib.Date
import NhaTrangLaundry.Lib.Table
import Mathlib.Data.Prod.Lex

/-! Late deliveries over the store's ledgers: the list of those that nobody has decided
about, their count, and the decision on one of them. -/

namespace NhaTrangLaundry.Db.LateDeliveries

open Lib Outcome Sorting Extremes Table Domain Domain.Canonical Domain.Catalog Domain.Promise
open Domain.LateDelivery ConsentEgress Orders

abbrev Timestamptz := Fin wallLimit

def Timestamptz.datetime (t : Timestamptz) : Datetime := .ofUtc t t.isLt

structure OrderRow where
  id : Uuid
  storeId : Uuid
  fulfillmentMode : FulfillmentMode
  promisedReadyAt : Option Timestamptz
  boundContactId : Option Uuid
  customerId : Option Uuid
deriving DecidableEq

structure LegRow where
  id : Uuid
  storeId : Uuid
  orderId : Uuid
  legKind : DeliveryLegKind
  outcome : DeliveryLegOutcome
  recordedAt : Timestamptz
deriving DecidableEq

structure ChangeRow where
  id : Uuid
  orderId : Uuid
  newPromiseAt : Timestamptz
  reasonCode : PromiseChangeReason
  changedAt : Timestamptz
deriving DecidableEq

structure TicketRow where
  id : Uuid
  storeId : Uuid
  ticketNumber : Int
  issuedOn : Date
deriving DecidableEq

structure CustomerRow where
  id : Uuid
  storeId : Uuid
  displayName : Option String
  erasedAt : Option Timestamptz
deriving DecidableEq

/-- The figures that the list takes from the remedy policy in force. -/
structure PublishedRemedyPolicy where
  lateDeliveryThresholdMinutes : Nat
  staffApprovalCeilingVnd : Nat

def LegRow.success (leg : LegRow) : Option (Uuid × DeliveryLegKind) :=
  if leg.outcome = .succeeded then some (leg.orderId, leg.legKind) else none

structure Ledgers where
  memberships : List (Uuid × Uuid)
  policy : Option PublishedRemedyPolicy
  orders : List OrderRow
  legs : List LegRow
  changes : List ChangeRow
  decided : List Uuid
  tickets : List TicketRow
  customers : List CustomerRow
  orders_key : (orders.map OrderRow.id).Nodup
  legs_one_success_per_kind : (legs.filterMap LegRow.success).Nodup
  legs_order : ∀ leg ∈ legs, ∃ o ∈ orders, o.id = leg.orderId ∧ o.storeId = leg.storeId

inductive RefusalCode where
  | remedyPolicyUnpublished
  | notLate
  | alreadyDecided
  | lateDeliveryNotMeasurable
deriving DecidableEq

inductive LateDeliveryError where
  | authorization (message : String)
  | valueError (message : String)
  | refused (code : RefusalCode) (detail : String) (thresholdMinutes : Option Nat)
  | orderNotVisible
  | undefinedFunction (signature : String)
  | assertionError
  | raised (e : PyException)
deriving DecidableEq

def legKindText : DeliveryLegKind → String
  | .pickup => "PICKUP"
  | .return => "RETURN"

def outcomeText : DeliveryLegOutcome → String
  | .succeeded => "SUCCEEDED"
  | .failed => "FAILED"

def ChangeRow.key (c : ChangeRow) : Timestamptz ×ₗ Fin (2 ^ 128) := toLex (c.changedAt, c.id.int)

def LegRow.key (leg : LegRow) : Timestamptz ×ₗ Fin (2 ^ 128) := toLex (leg.recordedAt, leg.id.int)

def ChangeRow.move (c : ChangeRow) : PromiseMove :=
  ⟨c.newPromiseAt.datetime, c.reasonCode, c.changedAt.datetime⟩

def LegRow.attempt (leg : LegRow) : LegAttempt :=
  ⟨legKindText leg.legKind, outcomeText leg.outcome, leg.recordedAt.datetime⟩

def Ledgers.movesOf (s : Ledgers) (orderId : Uuid) : List PromiseMove :=
  (sortBy ChangeRow.key (s.changes.filter fun c => c.orderId = orderId)).map
    ChangeRow.move

def Ledgers.attemptsOf (s : Ledgers) (orderId : Uuid) : List LegAttempt :=
  (sortBy LegRow.key
    (s.legs.filter fun l => l.orderId = orderId ∧ l.legKind = .return)).map LegRow.attempt

def measureDeliveries (s : Ledgers) (rows : List (Uuid × Timestamptz)) :
    Except PyException (List (Uuid × LateDeliveryClock)) :=
  rows.mapM fun row => do
    let clock ← lateDeliveryClock row.2.datetime (s.movesOf row.1) (s.attemptsOf row.1)
    .ok (row.1, clock)

/-- A row of `delivery_legs` joined with its order. -/
structure Candidate where
  leg : LegRow
  order : OrderRow
  promise : Timestamptz

def Candidate.key (c : Candidate) : Timestamptz ×ₗ Fin (2 ^ 128) :=
  toLex (c.leg.recordedAt, c.order.id.int)

def Candidate.row (c : Candidate) : Uuid × Timestamptz := (c.order.id, c.promise)

/-- An arrival later than the first promise by more than the threshold, or a change that the
customer asked for. -/
def MayBeLate (s : Ledgers) (threshold : Nat) (leg : LegRow) (o : OrderRow) (promise : Timestamptz) :
    Prop :=
  ((promise : Nat) : Int) + threshold * minuteMicros < ((leg.recordedAt : Nat) : Int) ∨
    ∃ c ∈ s.changes, c.orderId = o.id ∧ c.reasonCode = .customerRequest

instance (s : Ledgers) (threshold : Nat) (leg : LegRow) (o : OrderRow) (promise : Timestamptz) :
    Decidable (MayBeLate s threshold leg o promise) :=
  inferInstanceAs (Decidable (_ ∨ _))

/-- The `WHERE` clause of `LATE_CANDIDATES_SQL` and of `LATE_COUNT_SQL`. -/
def LateWhere (s : Ledgers) (storeId : Uuid) (threshold : Nat) (leg : LegRow) (o : OrderRow)
    (promise : Timestamptz) : Prop :=
  leg.storeId = storeId ∧ leg.legKind = .return ∧ leg.outcome = .succeeded ∧
    o.fulfillmentMode ∈ modesExpectingReturn ∧ o.id ∉ s.decided ∧ MayBeLate s threshold leg o promise

instance (s : Ledgers) (storeId : Uuid) (threshold : Nat) (leg : LegRow) (o : OrderRow)
    (promise : Timestamptz) : Decidable (LateWhere s storeId threshold leg o promise) :=
  inferInstanceAs (Decidable (_ ∧ _))

/-- `delivery_legs r JOIN orders o`, on the order and its store. -/
def joined (s : Ledgers) (leg : LegRow) : Option OrderRow :=
  (lookup OrderRow.id s.orders leg.orderId).filter fun o => o.storeId = leg.storeId

def candidate (s : Ledgers) (storeId : Uuid) (threshold : Nat) (leg : LegRow) : Option Candidate :=
  (joined s leg).bind fun o => o.promisedReadyAt.bind fun promise =>
    if LateWhere s storeId threshold leg o promise then some ⟨leg, o, promise⟩ else none

def population (s : Ledgers) (storeId : Uuid) (threshold : Nat) : List Candidate :=
  s.legs.filterMap (candidate s storeId threshold)

/-- The argument of `make_interval` is an `integer`. -/
def maxInteger : Nat := 2147483647

def fetch (s : Ledgers) (storeId : Uuid) (threshold scan : Nat) :
    Except LateDeliveryError (List Candidate) := do
  require (threshold ≤ maxInteger) (.undefinedFunction "make_interval(mins => bigint)")
  .ok ((sortBy Candidate.key (population s storeId threshold)).take scan)

def listMaxLimit : Int := 100

def scanLimit : Nat := 500

def lateDeliveryRoles : List StaffRole := [.ownerAdmin, .opsApprover, .operator]

def requireRole (principal : StaffPrincipal) : Except LateDeliveryError Unit :=
  require ((∃ role ∈ principal.roles, role ∈ lateDeliveryRoles) ∧ principal.mfaVerified = true)
    (.authorization "late deliveries are read and decided by an operations role with MFA")

def requireStoreMembership (s : Ledgers) (staffUserId storeId : Uuid) : Except LateDeliveryError Unit :=
  require ((staffUserId, storeId) ∈ s.memberships) (.authorization "store access is not authorized")

def isLate (clocks : List (Uuid × LateDeliveryClock)) (threshold : Nat) (c : Candidate) : Bool :=
  (lookup Prod.fst clocks c.order.id).any fun entry => entry.2.isLateBeyond threshold

structure LateCreditPreview where
  settledTotalVnd : Option Int
  refunded : Bool
  creditVnd : Option Int
  requiresOwner : Bool
  refusal : Option String

structure LateDeliveryRow where
  orderId : Uuid
  ticketNumber : Option Int
  ticketIssuedOn : Option Date
  customerName : Option String
  firstPromiseAt : Timestamptz
  deadlineAt : Datetime
  deadlineBasis : DeadlineBasis
  deliveredAt : Datetime
  lateByMinutes : Int
  failedAttemptsBeforeDeadline : List Datetime
  credit : LateCreditPreview

structure LateDeliveryList where
  policyPublished : Bool
  thresholdMinutes : Option Nat
  staffApprovalCeilingVnd : Option Nat
  limit : Int
  orders : List LateDeliveryRow
  truncated : Bool

def ticketOf (s : Ledgers) (o : OrderRow) : Option TicketRow :=
  (o.boundContactId.bind (lookup TicketRow.id s.tickets)).filter fun t => t.storeId = o.storeId

def customerNameOf (s : Ledgers) (o : OrderRow) : Option String :=
  ((o.customerId.bind (lookup CustomerRow.id s.customers)).filter fun c =>
    c.storeId = o.storeId ∧ c.erasedAt = none).bind CustomerRow.displayName

def lateRow (s : Ledgers) (creditPreview : Uuid → Except PyException LateCreditPreview)
    (clocks : List (Uuid × LateDeliveryClock)) (c : Candidate) :
    Except LateDeliveryError LateDeliveryRow := do
  let credit ← (creditPreview c.order.id).mapError .raised
  match lookup Prod.fst clocks c.order.id with
  | some (_, ⟨deadline, basis, some deliveredAt, some lateBy, failed⟩) =>
    .ok
      { orderId := c.order.id
        ticketNumber := (ticketOf s c.order).map TicketRow.ticketNumber
        ticketIssuedOn := (ticketOf s c.order).map TicketRow.issuedOn
        customerName := customerNameOf s c.order
        firstPromiseAt := c.promise
        deadlineAt := deadline
        deadlineBasis := basis
        deliveredAt
        lateByMinutes := lateBy
        failedAttemptsBeforeDeadline := failed
        credit }
  | _ => .error .assertionError

def listLate (s : Ledgers) (creditPreview : Uuid → Except PyException LateCreditPreview)
    (storeId : Uuid) (principal : StaffPrincipal) (limit : Int) :
    Except LateDeliveryError LateDeliveryList := do
  requireRole principal
  requireStoreMembership s principal.staffUserId storeId
  require (1 ≤ limit ∧ limit ≤ listMaxLimit)
    (.valueError "the late-delivery list limit is between 1 and 100")
  match s.policy with
  | none => .ok ⟨false, none, none, limit, [], false⟩
  | some policy => do
    let threshold := policy.lateDeliveryThresholdMinutes
    let fetched ← fetch s storeId threshold (scanLimit + 1)
    let candidates := fetched.take scanLimit
    let clocks ← (measureDeliveries s (candidates.map Candidate.row)).mapError .raised
    let late := candidates.filter (isLate clocks threshold)
    let orders ← (late.take limit.toNat).mapM (lateRow s creditPreview clocks)
    .ok ⟨true, some threshold, some policy.staffApprovalCeilingVnd, limit, orders,
      limit < late.length || scanLimit < fetched.length⟩

def countedLate (s : Ledgers) (storeId : Uuid) (threshold : Nat) :
    Except LateDeliveryError (List Candidate × Bool) := do
  let fetched ← fetch s storeId threshold (scanLimit + 1)
  let candidates := fetched.take scanLimit
  let clocks ← (measureDeliveries s (candidates.map Candidate.row)).mapError .raised
  .ok (candidates.filter (isLate clocks threshold), scanLimit < fetched.length)

def countUndecided (s : Ledgers) (storeId : Uuid) (principal : StaffPrincipal) :
    Except LateDeliveryError (Option (Nat × Bool)) := do
  requireRole principal
  requireStoreMembership s principal.staffUserId storeId
  match s.policy with
  | none => .ok none
  | some policy => do
    let counted ← countedLate s storeId policy.lateDeliveryThresholdMinutes
    .ok (some (counted.1.length, counted.2))

/-- `_decide_locked`, up to the rows that it goes on to write. -/
def decideLocked {ρ : Type} (s : Ledgers) (storeId orderId : Uuid)
    (record : LateDeliveryClock → Except PyException ρ) : Except LateDeliveryError ρ := do
  let order ← ofOption .orderNotVisible
    ((lookup OrderRow.id s.orders orderId).filter fun o => o.storeId = storeId)
  require (orderId ∉ s.decided)
    (.refused .alreadyDecided "this late delivery was already decided" none)
  let policy ← ofOption (.refused .remedyPolicyUnpublished
    "the owner has not published the remedy policy, so nothing is late yet" none) s.policy
  let threshold := policy.lateDeliveryThresholdMinutes
  let promise ← ofOption (.refused .lateDeliveryNotMeasurable
    "the order has no return leg in its mode, or no promise" none)
    (order.promisedReadyAt.filter fun _ => order.fulfillmentMode ∈ modesExpectingReturn)
  let clocks ← (measureDeliveries s [(orderId, promise)]).mapError .raised
  let entry ← ofOption (.raised .keyError) (lookup Prod.fst clocks orderId)
  match entry.2.deliveredAt, entry.2.lateByMinutes with
  | some _, some late => do
    require (entry.2.isLateBeyond threshold = true) (.refused .notLate
      s!"measured {late} minutes late; the threshold is {threshold}" (some threshold))
    (record entry.2).mapError .raised
  | _, _ => .error (.refused .lateDeliveryNotMeasurable "the laundry has not been delivered" none)

variable {s : Ledgers} {storeId : Uuid} {threshold : Nat} {o : OrderRow} {promise : Timestamptz}
  {leg : LegRow} {c : Candidate}

def Ledgers.clock (s : Ledgers) (orderId : Uuid) (promise : Timestamptz) : LateDeliveryClock :=
  measure promise.datetime (s.movesOf orderId) (s.attemptsOf orderId)

lemma datetime_aware (t : Timestamptz) : t.datetime.aware := rfl

lemma datetime_instant (t : Timestamptz) : t.datetime.instant = ((t : Nat) : Int) := by
  simp [Timestamptz.datetime, Datetime.instant, Datetime.ofUtc]

lemma mem_movesOf {orderId : Uuid} {move : PromiseMove} :
    move ∈ s.movesOf orderId ↔ ∃ c ∈ s.changes, c.orderId = orderId ∧ c.move = move := by
  simp [Ledgers.movesOf, and_assoc]

lemma mem_attemptsOf {orderId : Uuid} {attempt : LegAttempt} :
    attempt ∈ s.attemptsOf orderId ↔
      ∃ leg ∈ s.legs, leg.orderId = orderId ∧ leg.legKind = .return ∧ leg.attempt = attempt := by
  simp [Ledgers.attemptsOf, and_assoc]

lemma stored_aware (orderId : Uuid) (promise : Timestamptz) :
    Aware promise.datetime (s.movesOf orderId) (s.attemptsOf orderId) := by
  refine ⟨datetime_aware promise, fun move hmove => ?_, fun attempt hattempt => ?_⟩
  · obtain ⟨c, -, -, rfl⟩ := mem_movesOf.mp hmove
    exact ⟨datetime_aware _, datetime_aware _⟩
  · obtain ⟨leg, -, -, -, rfl⟩ := mem_attemptsOf.mp hattempt
    exact datetime_aware _

lemma measureDeliveries_eq (s : Ledgers) (rows : List (Uuid × Timestamptz)) :
    measureDeliveries s rows = .ok (rows.map fun row => (row.1, s.clock row.1 row.2)) := by
  rw [measureDeliveries, mapM_ok, List.forall₂_map_right_iff]
  refine List.forall₂_same.mpr fun row _ => ?_
  exact bind_ok.mpr ⟨_, lateDeliveryClock_ok.mpr ⟨stored_aware row.1 row.2, rfl⟩, rfl⟩

/-- An order that the clock measures as late, and that nobody has decided about. -/
structure LateUndecided (s : Ledgers) (threshold : Nat) (o : OrderRow) (promise : Timestamptz) :
    Prop where
  mode : o.fulfillmentMode ∈ modesExpectingReturn
  promised : o.promisedReadyAt = some promise
  undecided : o.id ∉ s.decided
  late : (s.clock o.id promise).isLateBeyond threshold = true

lemma outcomeText_succeeded {outcome : DeliveryLegOutcome} :
    outcomeText outcome = "SUCCEEDED" ↔ outcome = .succeeded := by
  cases outcome <;> simp [outcomeText]

lemma arrival_leg {orderId : Uuid} {at_ : Datetime}
    (h : (arrivals (s.attemptsOf orderId)).head? = some at_) :
    ∃ leg ∈ s.legs, leg.orderId = orderId ∧ leg.legKind = .return ∧ leg.outcome = .succeeded ∧
      leg.recordedAt.datetime = at_ := by
  have hmem := List.mem_of_head? h
  rw [arrivals, mem_sortBy, List.mem_map] at hmem
  obtain ⟨attempt, hattempt, rfl⟩ := hmem
  rw [List.mem_filter, mem_attemptsOf] at hattempt
  obtain ⟨⟨leg, hleg, horder, hkind, rfl⟩, hdone⟩ := hattempt
  have houtcome := (decide_eq_true_iff.mp hdone).2
  exact ⟨leg, hleg, horder, hkind, outcomeText_succeeded.mp houtcome, rfl⟩

lemma joined_eq_some : joined s leg = some o ↔
    o ∈ s.orders ∧ o.id = leg.orderId ∧ o.storeId = leg.storeId := by
  rw [joined, Option.filter_eq_some_iff, decide_eq_true_iff]
  constructor
  · rintro ⟨hlookup, hstore⟩
    exact ⟨lookup_mem hlookup, lookup_key hlookup, hstore⟩
  · rintro ⟨hmem, hid, hstore⟩
    exact ⟨hid ▸ lookup_of_mem s.orders_key hmem, hstore⟩

lemma mayBeLate_of_late {at_ : Datetime} (harrival : leg.recordedAt.datetime = at_)
    (hlate : (s.clock o.id promise).deadline.instant + ((threshold : Int) + 1) * minuteMicros ≤
      at_.instant) : MayBeLate s threshold leg o promise := by
  rcases measure_basis promise.datetime (s.movesOf o.id) (s.attemptsOf o.id) with
    ⟨hdeadline, -⟩ | ⟨move, hmove, hreason, -, -⟩
  · rw [Ledgers.clock, hdeadline, ← harrival, datetime_instant, datetime_instant, minuteMicros] at hlate
    refine .inl ?_
    rw [minuteMicros]
    omega
  · obtain ⟨c, hc, horder, rfl⟩ := mem_movesOf.mp hmove
    exact .inr ⟨c, hc, horder, hreason⟩

lemma exists_lateWhere (ho : o ∈ s.orders) (h : LateUndecided s threshold o promise) :
    ∃ leg ∈ s.legs, joined s leg = some o ∧ LateWhere s o.storeId threshold leg o promise := by
  obtain ⟨at_, harrival, hlate⟩ := (isLateBeyond_iff (Int.natCast_nonneg threshold)).mp h.late
  obtain ⟨leg, hleg, horder, hkind, houtcome, hat⟩ := arrival_leg harrival
  obtain ⟨o', ho', hid, hstore⟩ := s.legs_order leg hleg
  have hsame : o' = o := List.inj_on_of_nodup_map s.orders_key ho' ho (hid.trans horder)
  subst hsame
  refine ⟨leg, hleg, joined_eq_some.mpr ⟨ho, hid, hstore⟩, hstore.symm, hkind, houtcome, h.mode,
    h.undecided, mayBeLate_of_late hat hlate⟩

lemma candidate_eq_some : candidate s storeId threshold leg = some c ↔
    joined s leg = some c.order ∧ c.order.promisedReadyAt = some c.promise ∧ c.leg = leg ∧
      LateWhere s storeId threshold leg c.order c.promise := by
  rw [candidate]
  simp only [Option.bind_eq_some_iff, Option.ite_none_right_eq_some, Option.some.injEq]
  constructor
  · rintro ⟨o, hjoined, promise, hpromise, hwhere, rfl⟩
    exact ⟨hjoined, hpromise, rfl, hwhere⟩
  · rintro ⟨hjoined, hpromise, rfl, hwhere⟩
    exact ⟨c.order, hjoined, c.promise, hpromise, hwhere, rfl⟩

lemma mem_population : c ∈ population s storeId threshold ↔
    c.leg ∈ s.legs ∧ joined s c.leg = some c.order ∧ c.order.promisedReadyAt = some c.promise ∧
      LateWhere s storeId threshold c.leg c.order c.promise := by
  rw [population, List.mem_filterMap]
  constructor
  · rintro ⟨leg, hleg, hc⟩
    obtain ⟨hjoined, hpromise, rfl, hwhere⟩ := candidate_eq_some.mp hc
    exact ⟨hleg, hjoined, hpromise, hwhere⟩
  · rintro ⟨hleg, hjoined, hpromise, hwhere⟩
    exact ⟨c.leg, hleg, candidate_eq_some.mpr ⟨hjoined, hpromise, rfl, hwhere⟩⟩

lemma population_nodup : ((population s storeId threshold).map fun c => c.order.id).Nodup := by
  rw [population, List.map_filterMap]
  have hkeys := s.legs_one_success_per_kind
  refine (List.Nodup.of_map (fun id => (id, DeliveryLegKind.return)) ?_)
  rw [List.map_filterMap]
  refine hkeys.sublist ?_
  generalize s.legs = legs
  induction legs with
  | nil => exact List.Sublist.refl _
  | cons leg legs ih =>
    rw [List.filterMap_cons, List.filterMap_cons]
    cases hc : candidate s storeId threshold leg with
    | none =>
      simp only [Option.map_none]
      cases leg.success with
      | none => exact ih
      | some success => exact ih.cons success
    | some c =>
      obtain ⟨hjoined, -, -, -, hkind, houtcome, -⟩ := candidate_eq_some.mp hc
      have hid := (joined_eq_some.mp hjoined).2.1
      simp only [Option.map_some, LegRow.success, houtcome, if_true, hid, hkind]
      exact ih.cons_cons _

def lateOf (s : Ledgers) (storeId : Uuid) (threshold : Nat) : List Candidate :=
  (sortBy Candidate.key (population s storeId threshold)).filter fun c =>
    (s.clock c.order.id c.promise).isLateBeyond threshold

lemma mem_lateOf (ho : o ∈ s.orders) :
    o.id ∈ (lateOf s o.storeId threshold).map (fun c => c.order.id) ↔
      ∃ promise, LateUndecided s threshold o promise := by
  simp only [lateOf, List.mem_map, List.mem_filter, mem_sortBy]
  constructor
  · rintro ⟨c, ⟨hmem, hlate⟩, hid⟩
    obtain ⟨-, hjoined, hpromise, -, -, -, hmode, hundecided, -⟩ := mem_population.mp hmem
    have hsame : c.order = o :=
      List.inj_on_of_nodup_map s.orders_key (joined_eq_some.mp hjoined).1 ho hid
    rw [hsame] at hpromise hmode hundecided hlate
    exact ⟨c.promise, hmode, hpromise, hundecided, hlate⟩
  · rintro ⟨promise, h⟩
    obtain ⟨leg, hleg, hjoined, hwhere⟩ := exists_lateWhere ho h
    refine ⟨⟨leg, o, promise⟩, ⟨?_, h.late⟩, rfl⟩
    exact mem_population.mpr ⟨hleg, hjoined, h.promised, hwhere⟩

lemma lookup_clock {rows : List Candidate} (hn : (rows.map fun c => c.order.id).Nodup)
    (hc : c ∈ rows) :
    lookup Prod.fst ((rows.map Candidate.row).map fun row => (row.1, s.clock row.1 row.2))
      c.order.id = some (c.order.id, s.clock c.order.id c.promise) := by
  have hkeys : (((rows.map Candidate.row).map fun row => (row.1, s.clock row.1 row.2)).map
      Prod.fst).Nodup := by
    rw [List.map_map, List.map_map]
    exact hn
  refine lookup_of_mem hkeys (r := (c.order.id, s.clock c.order.id c.promise)) ?_
  rw [List.map_map]
  exact List.mem_map_of_mem (f := fun c : Candidate => (c.order.id, s.clock c.order.id c.promise)) hc

lemma filter_isLate {rows : List Candidate} (hn : (rows.map fun c => c.order.id).Nodup) :
    rows.filter (isLate ((rows.map Candidate.row).map fun row => (row.1, s.clock row.1 row.2))
      threshold) =
      rows.filter fun c => (s.clock c.order.id c.promise).isLateBeyond threshold := by
  refine List.filter_congr fun c hc => ?_
  rw [isLate, lookup_clock hn hc, Option.any_some]

lemma fetch_ok {scan : Nat} {fetched : List Candidate} :
    fetch s storeId threshold scan = .ok fetched ↔ threshold ≤ maxInteger ∧
      (sortBy Candidate.key (population s storeId threshold)).take scan = fetched := by
  rw [fetch]
  simp

lemma sorted_nodup :
    ((sortBy Candidate.key (population s storeId threshold)).map fun c => c.order.id).Nodup :=
  nodup_map_sortBy.mpr population_nodup

lemma fetch_whole {fetched : List Candidate}
    (h : fetch s storeId threshold (scanLimit + 1) = .ok fetched)
    (hall : ¬ scanLimit < fetched.length) :
    fetched.take scanLimit = sortBy Candidate.key (population s storeId threshold) := by
  obtain ⟨-, rfl⟩ := fetch_ok.mp h
  rw [List.length_take] at hall
  rw [List.take_take, List.take_of_length_le]
  omega

lemma countedLate_whole {rows : List Candidate}
    (h : countedLate s storeId threshold = .ok (rows, false)) : rows = lateOf s storeId threshold := by
  rw [countedLate] at h
  obtain ⟨fetched, hfetched, h⟩ := bind_ok.mp h
  dsimp only at h
  rw [measureDeliveries_eq] at h
  simp only [Except.mapError, ok_bind, Except.ok.injEq, Prod.mk.injEq, decide_eq_false_iff_not] at h
  obtain ⟨rfl, hall⟩ := h
  rw [fetch_whole hfetched hall, filter_isLate sorted_nodup, lateOf]

lemma lateRow_orderId {creditPreview : Uuid → Except PyException LateCreditPreview}
    {clocks : List (Uuid × LateDeliveryClock)} {row : LateDeliveryRow}
    (h : lateRow s creditPreview clocks c = .ok row) : row.orderId = c.order.id := by
  rw [lateRow] at h
  obtain ⟨credit, -, h⟩ := bind_ok.mp h
  split at h
  · cases h
    rfl
  · cases h

lemma mapM_lateRow {creditPreview : Uuid → Except PyException LateCreditPreview}
    {clocks : List (Uuid × LateDeliveryClock)} {candidates : List Candidate}
    {rows : List LateDeliveryRow} (h : candidates.mapM (lateRow s creditPreview clocks) = .ok rows) :
    rows.map LateDeliveryRow.orderId = candidates.map fun c => c.order.id := by
  rw [mapM_ok] at h
  induction h with
  | nil => rfl
  | cons hrow _ ih => rw [List.map_cons, List.map_cons, ih, lateRow_orderId hrow]

lemma listLate_whole {creditPreview : Uuid → Except PyException LateCreditPreview}
    {principal : StaffPrincipal} {limit : Int} {page : LateDeliveryList}
    {policy : PublishedRemedyPolicy} (hpolicy : s.policy = some policy)
    (h : listLate s creditPreview storeId principal limit = .ok page)
    (hwhole : page.truncated = false) :
    page.orders.map LateDeliveryRow.orderId =
      (lateOf s storeId policy.lateDeliveryThresholdMinutes).map fun c => c.order.id := by
  rw [listLate] at h
  obtain ⟨-, -, h⟩ := bind_ok.mp h
  obtain ⟨-, -, h⟩ := bind_ok.mp h
  obtain ⟨-, -, h⟩ := bind_ok.mp h
  rw [hpolicy] at h
  obtain ⟨fetched, hfetched, h⟩ := bind_ok.mp h
  dsimp only at h
  rw [measureDeliveries_eq] at h
  obtain ⟨clocks, hclocks, h⟩ := bind_ok.mp h
  obtain ⟨orders, horders, h⟩ := bind_ok.mp h
  cases hclocks
  cases h
  simp only [Bool.or_eq_false_iff, decide_eq_false_iff_not] at hwhole
  obtain ⟨hshown, hall⟩ := hwhole
  rw [fetch_whole hfetched hall, filter_isLate sorted_nodup] at horders hshown
  rw [List.take_of_length_le (by omega)] at horders
  rw [mapM_lateRow horders, lateOf]

/-- The refusals that say that an order is not one to decide about. -/
def refusedAsNotLate {ρ : Type} (outcome : Except LateDeliveryError ρ) : Prop :=
  ∃ code ∈ [RefusalCode.notLate, .lateDeliveryNotMeasurable, .alreadyDecided], ∃ detail minutes,
    outcome = .error (.refused code detail minutes)

lemma decideLocked_refused {ρ : Type} {record : LateDeliveryClock → Except PyException ρ}
    {policy : PublishedRemedyPolicy} (hpolicy : s.policy = some policy) (ho : o ∈ s.orders) :
    refusedAsNotLate (decideLocked s o.storeId o.id record) ↔
      ¬ ∃ promise, LateUndecided s policy.lateDeliveryThresholdMinutes o promise := by
  have hlookup : (lookup OrderRow.id s.orders o.id).filter (fun row => row.storeId = o.storeId) =
      some o := by
    rw [lookup_of_mem s.orders_key ho]
    simp
  rw [decideLocked, hlookup, hpolicy]
  simp only [ofOption, ok_bind]
  by_cases hdecided : o.id ∈ s.decided
  · rw [require_false (not_not.mpr hdecided), error_bind]
    refine iff_of_true ⟨.alreadyDecided, by simp, _, _, rfl⟩ ?_
    rintro ⟨promise, h⟩
    exact h.undecided hdecided
  rw [require_true hdecided, ok_bind]
  cases hpromise : o.promisedReadyAt with
  | none =>
    refine iff_of_true ⟨.lateDeliveryNotMeasurable, by simp, _, _, rfl⟩ ?_
    rintro ⟨promise, h⟩
    rw [h.promised] at hpromise
    cases hpromise
  | some promise =>
    by_cases hmode : o.fulfillmentMode ∈ modesExpectingReturn
    · rw [Option.filter_some, if_pos (decide_eq_true hmode)]
      simp only [ok_bind, measureDeliveries_eq]
      have hentry : lookup Prod.fst [(o.id, s.clock o.id promise)] o.id =
          some (o.id, s.clock o.id promise) := by simp [lookup]
      simp only [List.map_cons, List.map_nil, Except.mapError, ok_bind, hentry]
      have hlate : (∃ promise, LateUndecided s policy.lateDeliveryThresholdMinutes o promise) ↔
          (s.clock o.id promise).isLateBeyond policy.lateDeliveryThresholdMinutes = true := by
        constructor
        · rintro ⟨promise', h⟩
          have hsame : promise = promise' := Option.some.inj (hpromise.symm.trans h.promised)
          exact hsame ▸ h.late
        · intro h
          exact ⟨promise, hmode, hpromise, hdecided, h⟩
      rw [hlate]
      split
      next late hdelivered hminutes =>
        by_cases h : (s.clock o.id promise).isLateBeyond policy.lateDeliveryThresholdMinutes = true
        · rw [require_true h, ok_bind]
          refine iff_of_false ?_ (not_not.mpr h)
          rintro ⟨code, -, detail, minutes, hrefused⟩
          cases hrecord : record (s.clock o.id promise) with
          | error e => simp [hrecord] at hrefused
          | ok stored => simp [hrecord] at hrefused
        · rw [require_false h, error_bind]
          exact iff_of_true ⟨.notLate, by simp, _, _, rfl⟩ h
      next hnone =>
        refine iff_of_true ⟨.lateDeliveryNotMeasurable, by simp, _, _, rfl⟩ ?_
        intro h
        rw [LateDeliveryClock.isLateBeyond, Option.any_eq_true] at h
        obtain ⟨late, hminutes, -⟩ := h
        obtain ⟨at_, hdelivered, -⟩ := Option.map_eq_some_iff.mp hminutes
        exact hnone at_ late hdelivered hminutes
    · rw [Option.filter_some, if_neg (by simpa using hmode)]
      refine iff_of_true ⟨.lateDeliveryNotMeasurable, by simp, _, _, rfl⟩ ?_
      rintro ⟨promise', h⟩
      exact hmode h.mode

lemma countUndecided_ok {principal : StaffPrincipal} {n : Nat} {floor : Bool}
    {policy : PublishedRemedyPolicy} (hpolicy : s.policy = some policy)
    (h : countUndecided s storeId principal = .ok (some (n, floor))) :
    ∃ counted, countedLate s storeId policy.lateDeliveryThresholdMinutes = .ok (counted, floor) ∧
      n = counted.length := by
  rw [countUndecided] at h
  obtain ⟨-, -, h⟩ := bind_ok.mp h
  obtain ⟨-, -, h⟩ := bind_ok.mp h
  rw [hpolicy] at h
  obtain ⟨counted, hcounted, h⟩ := bind_ok.mp h
  cases h
  exact ⟨counted.1, hcounted, rfl⟩

/-- The shop cannot promise its way out of lateness, and no late delivery is left out. -/
theorem late_deliveries_complete :
    (∀ firstPromise changes changes' legs, Aware firstPromise changes legs →
      Aware firstPromise changes' legs → changes.filter (counts legs) = changes'.filter (counts legs) →
      ∃ clock, lateDeliveryClock firstPromise changes legs = .ok clock ∧
        lateDeliveryClock firstPromise changes' legs = .ok clock) ∧
    (∀ firstPromise changes legs legs', Aware firstPromise changes legs → legs.Perm legs' →
      ∃ clock clock', lateDeliveryClock firstPromise changes legs = .ok clock ∧
        lateDeliveryClock firstPromise changes legs' = .ok clock' ∧ clock.Same clock') ∧
    (∀ firstPromise changes changes' legs, Aware firstPromise changes legs → changes.Perm changes' →
      (changes.map fun move => move.changedAt.instant).Nodup →
      ∃ clock, lateDeliveryClock firstPromise changes legs = .ok clock ∧
        lateDeliveryClock firstPromise changes' legs = .ok clock) ∧
    (∀ firstPromise changes legs clock, lateDeliveryClock firstPromise changes legs = .ok clock →
      clock.deadline = firstPromise ∧ clock.deadlineBasis = .firstPromise ∨
        ∃ move ∈ changes, move.reason = .customerRequest ∧ clock.deadline = move.newPromiseAt ∧
          clock.deadlineBasis = .customerRequest) ∧
    (∀ (s : Ledgers) (threshold : Nat), ∀ o ∈ s.orders, ∀ promise, LateUndecided s threshold o promise →
      ∃ leg ∈ s.legs, joined s leg = some o ∧ LateWhere s o.storeId threshold leg o promise) ∧
    (∀ (s : Ledgers) creditPreview principal principal' limit page n policy, s.policy = some policy →
      ∀ o ∈ s.orders, listLate s creditPreview o.storeId principal limit = .ok page →
        page.truncated = false → countUndecided s o.storeId principal' = .ok (some (n, false)) →
        ∃ counted, countedLate s o.storeId policy.lateDeliveryThresholdMinutes = .ok (counted, false) ∧
          n = counted.length ∧ n = page.orders.length ∧
          (page.orders.map LateDeliveryRow.orderId).Nodup ∧
          (o.id ∈ page.orders.map LateDeliveryRow.orderId ↔ o.id ∈ counted.map fun c => c.order.id) ∧
          ∀ (ρ : Type) (record : LateDeliveryClock → Except PyException ρ),
            o.id ∈ page.orders.map LateDeliveryRow.orderId ↔
              ¬ refusedAsNotLate (decideLocked s o.storeId o.id record)) := by
  refine ⟨?_, ?_, ?_, ?_, ?_, ?_⟩
  · intro firstPromise changes changes' legs haware haware' hcounts
    refine ⟨_, lateDeliveryClock_ok.mpr ⟨haware, rfl⟩, lateDeliveryClock_ok.mpr ⟨haware', ?_⟩⟩
    exact (measure_congr hcounts).symm
  · intro firstPromise changes legs legs' haware hp
    have haware' : Aware firstPromise changes legs' :=
      ⟨haware.first, haware.moves, fun attempt h => haware.attempts attempt (hp.mem_iff.mpr h)⟩
    exact ⟨_, _, lateDeliveryClock_ok.mpr ⟨haware, rfl⟩, lateDeliveryClock_ok.mpr ⟨haware', rfl⟩,
      measure_perm_legs hp⟩
  · intro firstPromise changes changes' legs haware hp hn
    have haware' : Aware firstPromise changes' legs :=
      ⟨haware.first, fun move h => haware.moves move (hp.mem_iff.mpr h), haware.attempts⟩
    refine ⟨_, lateDeliveryClock_ok.mpr ⟨haware, rfl⟩, lateDeliveryClock_ok.mpr ⟨haware', ?_⟩⟩
    exact (measure_perm hp hn).symm
  · intro firstPromise changes legs clock h
    obtain ⟨-, rfl⟩ := lateDeliveryClock_ok.mp h
    exact measure_basis firstPromise changes legs
  · intro s threshold o ho promise h
    exact exists_lateWhere ho h
  · intro s creditPreview principal principal' limit page n policy hpolicy o ho hlist hwhole hcount
    obtain ⟨counted, hcounted, hn⟩ := countUndecided_ok hpolicy hcount
    have hrows := countedLate_whole hcounted
    have hlisted := listLate_whole hpolicy hlist hwhole
    rw [← hrows] at hlisted
    have hlength := congrArg List.length hlisted
    rw [List.length_map, List.length_map] at hlength
    refine ⟨counted, hcounted, hn, hn.trans hlength.symm, ?_, ?_, fun ρ record => ?_⟩
    · rw [hlisted, hrows]
      exact sorted_nodup.sublist (List.filter_sublist.map _)
    · rw [hlisted]
    · rw [hlisted, hrows, mem_lateOf ho, decideLocked_refused hpolicy ho, not_not]

/-! An order that arrives two hours after its promise, and one that arrives half an hour after. -/

lemma morning_lt : 739470 * dayMicros < wallLimit := by decide

def promisedMorning : Timestamptz := ⟨739470 * dayMicros, morning_lt⟩

def lateOrder : OrderRow := ⟨⟨1⟩, ⟨9⟩, .pickupAndReturn, some promisedMorning, none, none⟩

def promptOrder : OrderRow := ⟨⟨2⟩, ⟨9⟩, .pickupAndReturn, some promisedMorning, none, none⟩

def lateLeg : LegRow :=
  ⟨⟨3⟩, ⟨9⟩, ⟨1⟩, .return, .succeeded, ⟨739470 * dayMicros + 7200000000, by decide⟩⟩

def promptLeg : LegRow :=
  ⟨⟨4⟩, ⟨9⟩, ⟨2⟩, .return, .succeeded, ⟨739470 * dayMicros + 1800000000, by decide⟩⟩

lemma lateMorning_orders : ([lateOrder, promptOrder].map OrderRow.id).Nodup := by decide

lemma lateMorning_legs : ([lateLeg, promptLeg].filterMap LegRow.success).Nodup := by decide

lemma lateMorning_join : ∀ leg ∈ [lateLeg, promptLeg], ∃ o ∈ [lateOrder, promptOrder],
    o.id = leg.orderId ∧ o.storeId = leg.storeId := by
  decide

def lateMorning : Ledgers where
  memberships := [(⟨5⟩, ⟨9⟩)]
  policy := some ⟨60, 100000⟩
  orders := [lateOrder, promptOrder]
  legs := [lateLeg, promptLeg]
  changes := []
  decided := []
  tickets := []
  customers := []
  orders_key := lateMorning_orders
  legs_one_success_per_kind := lateMorning_legs
  legs_order := lateMorning_join

def lateReader : StaffPrincipal := ⟨⟨5⟩, [.operator], true⟩

/-- The late order is listed and counted, and can be decided about; the other one is neither. -/
theorem lateMorning_complete : ∃ page,
    listLate lateMorning (fun _ => .ok ⟨none, false, none, false, none⟩) ⟨9⟩ lateReader 20 = .ok page ∧
      page.truncated = false ∧ page.orders.map LateDeliveryRow.orderId = [⟨1⟩] ∧
      countUndecided lateMorning ⟨9⟩ lateReader = .ok (some (1, false)) ∧
      (∀ (ρ : Type) (record : LateDeliveryClock → Except PyException ρ),
        ¬ refusedAsNotLate (decideLocked lateMorning ⟨9⟩ ⟨1⟩ record)) ∧
      ∀ (ρ : Type) (record : LateDeliveryClock → Except PyException ρ),
        refusedAsNotLate (decideLocked lateMorning ⟨9⟩ ⟨2⟩ record) := by
  have hlist : ∃ page, listLate lateMorning (fun _ => .ok ⟨none, false, none, false, none⟩) ⟨9⟩
      lateReader 20 = .ok page ∧ page.truncated = false ∧
      page.orders.map LateDeliveryRow.orderId = [⟨1⟩] := ⟨_, rfl, rfl, rfl⟩
  have hcount : countUndecided lateMorning ⟨9⟩ lateReader = .ok (some (1, false)) := rfl
  obtain ⟨page, hpage, hwhole, hids⟩ := hlist
  obtain ⟨-, -, -, -, -, hdecides⟩ := late_deliveries_complete
  have hlate := hdecides lateMorning _ lateReader lateReader 20 page 1 ⟨60, 100000⟩ rfl lateOrder
    List.mem_cons_self hpage hwhole hcount
  have hprompt := hdecides lateMorning _ lateReader lateReader 20 page 1 ⟨60, 100000⟩ rfl promptOrder
    (List.mem_cons_of_mem _ List.mem_cons_self) hpage hwhole hcount
  obtain ⟨_, -, -, -, -, -, hlateDecided⟩ := hlate
  obtain ⟨_, -, -, -, -, -, hpromptDecided⟩ := hprompt
  refine ⟨page, hpage, hwhole, hids, hcount, fun ρ record => ?_, fun ρ record => ?_⟩
  · refine (hlateDecided ρ record).mp ?_
    rw [hids]
    exact List.mem_cons_self
  · by_contra hallowed
    have hmem := (hpromptDecided ρ record).mpr hallowed
    rw [hids] at hmem
    exact absurd hmem (by decide)

end NhaTrangLaundry.Db.LateDeliveries
