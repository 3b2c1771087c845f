import NhaTrangLaundry.Db.AccountLedger
import NhaTrangLaundry.Lib.DaySums
import NhaTrangLaundry.Lib.Uuid

/-! The money of a shop day as its four readers sum it: the period report, the takings of
the day, the drawer of the cash count, and a month's takings. -/

namespace NhaTrangLaundry.Db.DailyMoney

open Lib Outcome Sums DaySums Domain.Catalog Domain.Canonical Domain.Payments Domain.Unclaimed
open Domain.Accounts

structure OrderPayment where
  id : Uuid
  storeId : Uuid
  amountVnd : Int
  method : PaymentMethod
  recordedAt : Int
deriving DecidableEq

inductive RefundDirection where
  | toCustomer
deriving DecidableEq

structure OrderRefund where
  id : Uuid
  storeId : Uuid
  refundedAmountVnd : Int
  direction : RefundDirection
  refundMethod : Option PaymentMethod
  refundedAt : Int
deriving DecidableEq

structure OrderSettlement where
  storeId : Uuid
  attestedAt : Int
deriving DecidableEq

structure Expense where
  storeId : Uuid
  amountVnd : Int
  spentOn : Int
  paidFromDrawer : Bool
  voidedAt : Option Int
deriving DecidableEq

/-- The facts of the report that are not on the money ledgers. -/
inductive Activity where
  | ordersCreated
  | ordersCompleted
  | ordersCancelled
  | ordersReachedQualityCheck
  | ordersRewashed
  | incidentsOpened
  | remedy (kind : RemedyKind)
deriving DecidableEq

structure ActivityRow where
  storeId : Uuid
  activity : Activity
  at_ : Int
  subject : Uuid
  amountVnd : Option Int
deriving DecidableEq

structure Ledgers where
  payments : List OrderPayment
  refunds : List OrderRefund
  settlements : List OrderSettlement
  expenses : List Expense
  activities : List ActivityRow

/-- `(moment AT TIME ZONE zone)::date`. -/
def localDate (moment : Int) : Int := (moment + shopOffset) / dayMicros

/-- `date::timestamp AT TIME ZONE zone`. -/
def midnight (day : Int) : Int := day * dayMicros - shopOffset

inductive DrawerDirection where
  | in_
  | out
deriving DecidableEq

structure Movement where
  vnd : Int
  direction : DrawerDirection
deriving DecidableEq

/-- `abs(taken - back)` and its direction. -/
def movement (taken back : Int) : Movement :=
  ⟨|taken - back|, if back ≤ taken then .in_ else .out⟩

def Movement.signed (m : Movement) : Int :=
  match m.direction with
  | .in_ => m.vnd
  | .out => -m.vnd

def methodText : PaymentMethod → String
  | .tienMat => "TIEN_MAT"
  | .chuyenKhoan => "CHUYEN_KHOAN"

def remedyText : RemedyKind → String
  | .freeRewash => "FREE_REWASH"
  | .damageCompensation => "DAMAGE_COMPENSATION"
  | .lateDeliveryCredit => "LATE_DELIVERY_CREDIT"
  | .lostItem => "LOST_ITEM"

def Activity.name : Activity → String
  | .ordersCreated => "ORDERS_CREATED"
  | .ordersCompleted => "ORDERS_COMPLETED"
  | .ordersCancelled => "ORDERS_CANCELLED"
  | .ordersReachedQualityCheck => "ORDERS_REACHED_QUALITY_CHECK"
  | .ordersRewashed => "ORDERS_REWASHED"
  | .incidentsOpened => "INCIDENTS_OPENED"
  | .remedy kind => "REMEDY_" ++ remedyText kind

def collectedName (method : PaymentMethod) : String := "MONEY_COLLECTED_" ++ methodText method

def refundedName (method : Option PaymentMethod) : String :=
  "MONEY_REFUNDED_" ++ (method.map methodText).getD "UNKNOWN"

structure Fact where
  fact : String
  at_ : Int
  subject : Uuid
  amount : Option Int
deriving DecidableEq

def ActivityRow.fact (a : ActivityRow) : Fact := ⟨a.activity.name, a.at_, a.subject, a.amountVnd⟩

def OrderPayment.fact (p : OrderPayment) : Fact :=
  ⟨collectedName p.method, p.recordedAt, p.id, some p.amountVnd⟩

def OrderRefund.fact (r : OrderRefund) : Fact :=
  ⟨refundedName r.refundMethod, r.refundedAt, r.id, some r.refundedAmountVnd⟩

/-- `facts`: every fact of the store, under its name. -/
def facts (s : Ledgers) (store : Uuid) : List Fact :=
  (s.activities.filter fun a => a.storeId = store).map ActivityRow.fact ++
    (s.payments.filter fun p => p.storeId = store).map OrderPayment.fact ++
    (s.refunds.filter fun r => r.storeId = store ∧ r.direction = .toCustomer).map OrderRefund.fact

def Fact.day (w : Fact) : Int := localDate w.at_

/-- `windowed`: the facts between the two midnights of the window. -/
def windowed (s : Ledgers) (store : Uuid) (first last : Int) : List Fact :=
  (facts s store).filter fun w => midnight first ≤ w.at_ ∧ w.at_ < midnight (last + 1)

/-- `left(fact, n) = text`. -/
def leftIs (n : Nat) (text fact : String) : Bool := fact.toList.take n = text.toList

/-- `coalesce(sum(w.amount) FILTER (WHERE ...), 0)`. -/
def sumWhere (group : List (Int × Option Fact)) (named : String → Bool) : Int :=
  sumOf group (fun w => named w.fact = true) fun w => w.amount.getD 0

/-- `count(DISTINCT w.subject) FILTER (WHERE ...)`. -/
def countWhere (group : List (Int × Option Fact)) (named : String → Bool) : Nat :=
  (((group.filterMap Prod.snd).filter fun w => named w.fact).map Fact.subject).dedup.length

def isNamed (name fact : String) : Bool := fact = name

structure ReportRow where
  day : Option Int
  created : Nat
  completed : Nat
  cancelled : Nat
  reachedQualityCheck : Nat
  rewashed : Nat
  incidents : Nat
  settlementCount : Nat
  collectedVnd : Int
  refundCount : Nat
  refundedVnd : Int
  net : Movement
  remedyFreeRewash : Nat
  remedyDamage : Nat
  remedyDamageVnd : Int
  remedyLate : Nat
  remedyLateVnd : Int
  remedyLost : Nat
  remedyLostVnd : Int
  remedies : Nat
  remediesVnd : Int
  cashCount : Nat
  cashVnd : Int
  transferCount : Nat
  transferVnd : Int
  refundCashCount : Nat
  refundCashVnd : Int
  refundTransferCount : Nat
  refundTransferVnd : Int
  refundUnknownCount : Nat
  refundUnknownVnd : Int
  drawer : Movement
deriving DecidableEq

/-- A row of `counted`, with the columns that the outer statement adds. -/
def counted (day : Option Int) (group : List (Int × Option Fact)) : ReportRow :=
  let collected := sumWhere group (leftIs 16 "MONEY_COLLECTED_")
  let refunded := sumWhere group (leftIs 15 "MONEY_REFUNDED_")
  let cash := sumWhere group (isNamed "MONEY_COLLECTED_TIEN_MAT")
  let refundCash := sumWhere group (isNamed "MONEY_REFUNDED_TIEN_MAT")
  { day
    created := countWhere group (isNamed "ORDERS_CREATED")
    completed := countWhere group (isNamed "ORDERS_COMPLETED")
    cancelled := countWhere group (isNamed "ORDERS_CANCELLED")
    reachedQualityCheck := countWhere group (isNamed "ORDERS_REACHED_QUALITY_CHECK")
    rewashed := countWhere group (isNamed "ORDERS_REWASHED")
    incidents := countWhere group (isNamed "INCIDENTS_OPENED")
    settlementCount := countWhere group (leftIs 16 "MONEY_COLLECTED_")
    collectedVnd := collected
    refundCount := countWhere group (leftIs 15 "MONEY_REFUNDED_")
    refundedVnd := refunded
    net := movement collected refunded
    remedyFreeRewash := countWhere group (isNamed "REMEDY_FREE_REWASH")
    remedyDamage := countWhere group (isNamed "REMEDY_DAMAGE_COMPENSATION")
    remedyDamageVnd := sumWhere group (isNamed "REMEDY_DAMAGE_COMPENSATION")
    remedyLate := countWhere group (isNamed "REMEDY_LATE_DELIVERY_CREDIT")
    remedyLateVnd := sumWhere group (isNamed "REMEDY_LATE_DELIVERY_CREDIT")
    remedyLost := countWhere group (isNamed "REMEDY_LOST_ITEM")
    remedyLostVnd := sumWhere group (isNamed "REMEDY_LOST_ITEM")
    remedies := countWhere group (leftIs 7 "REMEDY_")
    remediesVnd := sumWhere group (leftIs 7 "REMEDY_")
    cashCount := countWhere group (isNamed "MONEY_COLLECTED_TIEN_MAT")
    cashVnd := cash
    transferCount := countWhere group (isNamed "MONEY_COLLECTED_CHUYEN_KHOAN")
    transferVnd := sumWhere group (isNamed "MONEY_COLLECTED_CHUYEN_KHOAN")
    refundCashCount := countWhere group (isNamed "MONEY_REFUNDED_TIEN_MAT")
    refundCashVnd := refundCash
    refundTransferCount := countWhere group (isNamed "MONEY_REFUNDED_CHUYEN_KHOAN")
    refundTransferVnd := sumWhere group (isNamed "MONEY_REFUNDED_CHUYEN_KHOAN")
    refundUnknownCount := countWhere group (isNamed "MONEY_REFUNDED_UNKNOWN")
    refundUnknownVnd := sumWhere group (isNamed "MONEY_REFUNDED_UNKNOWN")
    drawer := movement cash refundCash }

structure Report where
  days : List ReportRow
  window : ReportRow

/-- `_REPORT_SQL`: the groups of the days, and the group of them all. -/
def reportSql (s : Ledgers) (store : Uuid) (first last : Int) : Report :=
  let joined := leftJoin (days first last) (windowed s store first last) Fact.day
  { days := (days first last).map fun day => counted (some day) (joined.filter fun r => r.1 = day)
    window := counted none joined }

structure CollectedToday where
  collectedVnd : Int
  settlementCount : Nat
  refundedVnd : Int
  refundCount : Nat
  net : Movement
  paymentCount : Nat
  cashVnd : Int
  cashCount : Nat
  transferVnd : Int
  transferCount : Nat
  refundedCashVnd : Int
  refundedCashCount : Nat
  refundedTransferVnd : Int
  refundedTransferCount : Nat
  refundedUnknownVnd : Int
  refundedUnknownCount : Nat
  drawer : Movement
deriving DecidableEq

def collectedTodaySql (s : Ledgers) (store : Uuid) (businessDate : Int) : CollectedToday :=
  let taken := s.payments.filter fun p => p.storeId = store ∧ localDate p.recordedAt = businessDate
  let settled := s.settlements.filter fun r => r.storeId = store ∧ localDate r.attestedAt = businessDate
  let refunded := s.refunds.filter fun r =>
    r.storeId = store ∧ r.direction = .toCustomer ∧ localDate r.refundedAt = businessDate
  let paid := fun method => taken.filter fun p => p.method = method
  let back := fun method => refunded.filter fun r => r.refundMethod = method
  let sumPaid := fun rows => (rows.map OrderPayment.amountVnd).sum
  let sumBack := fun rows => (rows.map OrderRefund.refundedAmountVnd).sum
  { collectedVnd := sumPaid taken
    settlementCount := settled.length
    refundedVnd := sumBack refunded
    refundCount := refunded.length
    net := movement (sumPaid taken) (sumBack refunded)
    paymentCount := taken.length
    cashVnd := sumPaid (paid .tienMat)
    cashCount := (paid .tienMat).length
    transferVnd := sumPaid (paid .chuyenKhoan)
    transferCount := (paid .chuyenKhoan).length
    refundedCashVnd := sumBack (back (some .tienMat))
    refundedCashCount := (back (some .tienMat)).length
    refundedTransferVnd := sumBack (back (some .chuyenKhoan))
    refundedTransferCount := (back (some .chuyenKhoan)).length
    refundedUnknownVnd := sumBack (back none)
    refundedUnknownCount := (back none).length
    drawer := movement (sumPaid (paid .tienMat)) (sumBack (back (some .tienMat))) }

structure DrawerMovement where
  cashInVnd : Int
  cashInEntries : Nat
  cashRefundedVnd : Int
  cashRefundedEntries : Nat
  unknownRefundsVnd : Int
  unknownRefundsEntries : Nat
  drawerExpensesVnd : Int
  drawerExpensesEntries : Nat
deriving DecidableEq

/-- `_DRAWER_SQL`: the groups of each day of the window. -/
def drawerSql (s : Ledgers) (store : Uuid) (first last : Int) : List (Int × DrawerMovement) :=
  let taken := s.payments.filter fun p => p.storeId = store ∧ p.method = .tienMat ∧
    first ≤ localDate p.recordedAt ∧ localDate p.recordedAt ≤ last
  let refunded := s.refunds.filter fun r => r.storeId = store ∧ r.direction = .toCustomer ∧
    first ≤ localDate r.refundedAt ∧ localDate r.refundedAt ≤ last
  let spent := s.expenses.filter fun e => e.storeId = store ∧ first ≤ e.spentOn ∧ e.spentOn ≤ last ∧
    e.paidFromDrawer = true ∧ e.voidedAt = none
  (days first last).map fun day =>
    let paid := taken.filter fun p => localDate p.recordedAt = day
    let back := fun method => (refunded.filter fun r => localDate r.refundedAt = day).filter
      fun r => r.refundMethod = method
    let out := spent.filter fun e => e.spentOn = day
    (day,
      { cashInVnd := (paid.map OrderPayment.amountVnd).sum
        cashInEntries := paid.length
        cashRefundedVnd := ((back (some .tienMat)).map OrderRefund.refundedAmountVnd).sum
        cashRefundedEntries := (back (some .tienMat)).length
        unknownRefundsVnd := ((back none).map OrderRefund.refundedAmountVnd).sum
        unknownRefundsEntries := (back none).length
        drawerExpensesVnd := (out.map Expense.amountVnd).sum
        drawerExpensesEntries := out.length })

inductive MoneyError where
  | numericValueOutOfRange
deriving DecidableEq

def maxBigint : Int := 9223372036854775807

/-- A sum cast to `bigint`. -/
def bigint (amount : Int) : Except MoneyError Int := do
  require (-maxBigint - 1 ≤ amount ∧ amount ≤ maxBigint) .numericValueOutOfRange
  .ok amount

structure MonthMoney where
  collectedVnd : Int
  refundedVnd : Int
deriving DecidableEq

/-- `_MONTH_MONEY_SQL`, over the days from the first to the last. -/
def monthMoneySql (s : Ledgers) (store : Uuid) (first last : Int) : Except MoneyError MonthMoney := do
  let collected ← bigint ((s.payments.filter fun p => p.storeId = store ∧
    midnight first ≤ p.recordedAt ∧ p.recordedAt < midnight (last + 1)).map OrderPayment.amountVnd).sum
  let refunded ← bigint ((s.refunds.filter fun r => r.storeId = store ∧ r.direction = .toCustomer ∧
    midnight first ≤ r.refundedAt ∧ r.refundedAt < midnight (last + 1)).map
      OrderRefund.refundedAmountVnd).sum
  .ok ⟨collected, refunded⟩

/-- `_month`: the takings of a whole calendar month. -/
def monthMoney (s : Ledgers) (store : Uuid) (month : Month) : Except MoneyError MonthMoney :=
  monthMoneySql s store month.firstDay (month.succ.firstDay - 1)

section Accounts

variable {ChargeId OrderId : Type} [LinearOrder ChargeId] [DecidableEq OrderId]

/-- `AccountRepository.record_payment`, with the rows it appends to `order_payments`: one for each
order that a share of it reaches. -/
def recordAccountPayment (s : Ledgers) (account : Accounts.Account ChargeId OrderId) (store : Uuid)
    (orderPaymentIds : Nat → Uuid) (command : Accounts.AccountPaymentCommand) :
    Except Accounts.Refusal (Ledgers × Accounts.Account ChargeId OrderId) := do
  let account' ← account.recordPayment command
  let shares ← (allocateOldestFirst command.amountVnd account.openCharges).mapError .raised
  let rows := shares.mapIdx fun position share =>
    ⟨orderPaymentIds position, store, share.amountVnd, command.method, command.at_⟩
  .ok ({ s with payments := s.payments ++ rows }, account')

end Accounts

/-- The amounts of a day, under the methods they came in and went back by. -/
@[ext]
structure DayMoney where
  collectedVnd : Int
  cashVnd : Int
  transferVnd : Int
  refundedVnd : Int
  refundCashVnd : Int
  refundTransferVnd : Int
  refundUnknownVnd : Int
  net : Movement
  drawer : Movement

def ReportRow.money (r : ReportRow) : DayMoney :=
  ⟨r.collectedVnd, r.cashVnd, r.transferVnd, r.refundedVnd, r.refundCashVnd, r.refundTransferVnd,
    r.refundUnknownVnd, r.net, r.drawer⟩

def CollectedToday.money (c : CollectedToday) : DayMoney :=
  ⟨c.collectedVnd, c.cashVnd, c.transferVnd, c.refundedVnd, c.refundedCashVnd,
    c.refundedTransferVnd, c.refundedUnknownVnd, c.net, c.drawer⟩

def DrawerMovement.cash (m : DrawerMovement) : Int × Int × Int :=
  (m.cashInVnd, m.cashRefundedVnd, m.unknownRefundsVnd)

def ReportRow.cash (r : ReportRow) : Int × Int × Int := (r.cashVnd, r.refundCashVnd, r.refundUnknownVnd)

def CollectedToday.paidBy (c : CollectedToday) : PaymentMethod → Int
  | .tienMat => c.cashVnd
  | .chuyenKhoan => c.transferVnd

def CollectedToday.refundedBy (c : CollectedToday) : Option PaymentMethod → Int
  | some .tienMat => c.refundedCashVnd
  | some .chuyenKhoan => c.refundedTransferVnd
  | none => c.refundedUnknownVnd

def paidUnder (s : Ledgers) (store : Uuid) (day : Int) (under : PaymentMethod → Bool) : Int :=
  sumIf s.payments (fun p => (p.storeId = store ∧ localDate p.recordedAt = day) ∧ under p.method = true)
    OrderPayment.amountVnd

def refundedUnder (s : Ledgers) (store : Uuid) (day : Int) (under : Option PaymentMethod → Bool) : Int :=
  sumIf s.refunds (fun r => (r.storeId = store ∧ r.direction = .toCustomer ∧
    localDate r.refundedAt = day) ∧ under r.refundMethod = true) OrderRefund.refundedAmountVnd

def sheet (s : Ledgers) (store : Uuid) (day : Int) : DayMoney :=
  let paid := paidUnder s store day
  let back := refundedUnder s store day
  { collectedVnd := paid fun _ => true
    cashVnd := paid fun m => m = .tienMat
    transferVnd := paid fun m => m = .chuyenKhoan
    refundedVnd := back fun _ => true
    refundCashVnd := back fun m => m = some .tienMat
    refundTransferVnd := back fun m => m = some .chuyenKhoan
    refundUnknownVnd := back fun m => m = none
    net := movement (paid fun _ => true) (back fun _ => true)
    drawer := movement (paid fun m => m = .tienMat) (back fun m => m = some .tienMat) }

variable {s : Ledgers} {store : Uuid} {first last day : Int}

lemma signed_movement (taken back : Int) : (movement taken back).signed = taken - back := by
  rw [movement, Movement.signed]
  by_cases h : back ≤ taken
  · rw [if_pos h]
    exact abs_of_nonneg (by omega)
  · rw [if_neg h]
    have habs : |taken - back| = -(taken - back) := abs_of_nonpos (by omega)
    dsimp only
    omega

/-- The methods whose facts a name of the report takes in, and that it takes in no other fact. -/
structure Names (named : String → Bool) (paid : PaymentMethod → Bool)
    (back : Option PaymentMethod → Bool) : Prop where
  activity : ∀ a, named (Activity.name a) = false
  collected : ∀ m, named (collectedName m) = paid m
  refunded : ∀ m, named (refundedName m) = back m

lemma Names.of_cases {named : String → Bool} {paid : PaymentMethod → Bool}
    {back : Option PaymentMethod → Bool}
    (hactivity : ∀ a ∈ [Activity.ordersCreated, .ordersCompleted, .ordersCancelled,
      .ordersReachedQualityCheck, .ordersRewashed, .incidentsOpened, .remedy .freeRewash,
      .remedy .damageCompensation, .remedy .lateDeliveryCredit, .remedy .lostItem],
      named a.name = false)
    (hpaid : ∀ m ∈ [PaymentMethod.tienMat, .chuyenKhoan], named (collectedName m) = paid m)
    (hback : ∀ m ∈ [none, some PaymentMethod.tienMat, some .chuyenKhoan],
      named (refundedName m) = back m) : Names named paid back := by
  refine ⟨fun a => hactivity a ?_, fun m => hpaid m ?_, fun m => hback m ?_⟩
  · cases a with
    | remedy kind => cases kind <;> simp
    | _ => simp
  · cases m <;> simp
  · cases m with
    | none => simp
    | some m => cases m <;> simp

lemma names_collected : Names (leftIs 16 "MONEY_COLLECTED_") (fun _ => true) (fun _ => false) :=
  .of_cases (by decide) (by decide) (by decide)

lemma names_refunded : Names (leftIs 15 "MONEY_REFUNDED_") (fun _ => false) (fun _ => true) :=
  .of_cases (by decide) (by decide) (by decide)

lemma names_cash :
    Names (isNamed "MONEY_COLLECTED_TIEN_MAT") (fun m => m = .tienMat) (fun _ => false) :=
  .of_cases (by decide) (by decide) (by decide)

lemma names_transfer :
    Names (isNamed "MONEY_COLLECTED_CHUYEN_KHOAN") (fun m => m = .chuyenKhoan) (fun _ => false) :=
  .of_cases (by decide) (by decide) (by decide)

lemma names_refundCash :
    Names (isNamed "MONEY_REFUNDED_TIEN_MAT") (fun _ => false) (fun m => m = some .tienMat) :=
  .of_cases (by decide) (by decide) (by decide)

lemma names_refundTransfer :
    Names (isNamed "MONEY_REFUNDED_CHUYEN_KHOAN") (fun _ => false) (fun m => m = some .chuyenKhoan) :=
  .of_cases (by decide) (by decide) (by decide)

lemma names_refundUnknown :
    Names (isNamed "MONEY_REFUNDED_UNKNOWN") (fun _ => false) (fun m => m = none) :=
  .of_cases (by decide) (by decide) (by decide)

variable {named : String → Bool} {paid : PaymentMethod → Bool} {back : Option PaymentMethod → Bool}

lemma sum_facts (h : Names named paid back) :
    sumIf (facts s store) (fun w => w.day = day ∧ named w.fact = true) (fun w => w.amount.getD 0) =
      paidUnder s store day paid + refundedUnder s store day back := by
  rw [facts, sumIf_append, sumIf_append, sumIf_map, sumIf_map, sumIf_map]
  have hactivity : sumIf (s.activities.filter fun a => a.storeId = store)
      (fun a => a.fact.day = day ∧ named a.fact.fact = true) (fun a => a.fact.amount.getD 0) = 0 := by
    refine sumIf_eq_zero fun a _ hnamed => ?_
    rw [ActivityRow.fact, h.activity] at hnamed
    exact Bool.false_ne_true hnamed.2
  rw [hactivity, zero_add, sumIf_filter, sumIf_filter]
  congr 1
  · refine sumIf_congr fun p _ => ?_
    rw [OrderPayment.fact, h.collected, and_assoc]
    rfl
  · refine sumIf_congr fun r _ => ?_
    rw [OrderRefund.fact, h.refunded, and_assoc, and_assoc, and_assoc]
    rfl

lemma mem_windowed {w : Fact} : midnight first ≤ w.at_ ∧ w.at_ < midnight (last + 1) ↔
    first ≤ w.day ∧ w.day ≤ last :=
  (day_bounds (by decide : (0 : Int) < dayMicros)).symm

lemma sum_windowed (hfirst : first ≤ day) (hlast : day ≤ last) :
    sumIf (windowed s store first last) (fun w => w.day = day ∧ named w.fact = true)
      (fun w => w.amount.getD 0) =
      sumIf (facts s store) (fun w => w.day = day ∧ named w.fact = true)
        (fun w => w.amount.getD 0) := by
  rw [windowed, sumIf_filter]
  refine sumIf_congr fun w _ => ?_
  rw [mem_windowed]
  constructor
  · rintro ⟨-, h⟩
    exact h
  · rintro ⟨rfl, h⟩
    exact ⟨⟨hfirst, hlast⟩, rfl, h⟩

lemma sumWhere_day (h : Names named paid back) (hfirst : first ≤ day) (hlast : day ≤ last) :
    sumWhere ((leftJoin (days first last) (windowed s store first last) Fact.day).filter
      fun r => r.1 = day) named = paidUnder s store day paid + refundedUnder s store day back := by
  rw [sumWhere, sumOf_day (days_nodup first last) (mem_days.mpr ⟨hfirst, hlast⟩),
    sum_windowed hfirst hlast, sum_facts h]

lemma sumWhere_window (h : Names named paid back) :
    sumWhere (leftJoin (days first last) (windowed s store first last) Fact.day) named =
      ((days first last).map fun day =>
        paidUnder s store day paid + refundedUnder s store day back).sum := by
  rw [sumWhere, sumOf_leftJoin]
  refine congrArg List.sum (List.map_congr_left fun day hday => ?_)
  obtain ⟨hfirst, hlast⟩ := mem_days.mp hday
  rw [sum_windowed hfirst hlast, sum_facts h]

@[simp] lemma paidUnder_none : paidUnder s store day (fun _ => false) = 0 :=
  sumIf_eq_zero fun _ _ h => Bool.false_ne_true h.2

@[simp] lemma refundedUnder_none : refundedUnder s store day (fun _ => false) = 0 :=
  sumIf_eq_zero fun _ _ h => Bool.false_ne_true h.2

variable (s store) in
lemma row_money (hfirst : first ≤ day) (hlast : day ≤ last) :
    (counted (some day) ((leftJoin (days first last) (windowed s store first last) Fact.day).filter
      fun r => r.1 = day)).money = sheet s store day := by
  simp only [counted, ReportRow.money, sheet, sumWhere_day names_collected hfirst hlast,
    sumWhere_day names_refunded hfirst hlast, sumWhere_day names_cash hfirst hlast,
    sumWhere_day names_transfer hfirst hlast, sumWhere_day names_refundCash hfirst hlast,
    sumWhere_day names_refundTransfer hfirst hlast, sumWhere_day names_refundUnknown hfirst hlast,
    paidUnder_none, refundedUnder_none, add_zero, zero_add]

lemma sum_taken : ((s.payments.filter fun p => p.storeId = store ∧
    localDate p.recordedAt = day).map OrderPayment.amountVnd).sum =
      paidUnder s store day fun _ => true := by
  rw [sum_filter]
  exact sumIf_congr fun p _ => (and_iff_left rfl).symm

lemma sum_taken_by (method : PaymentMethod) :
    (((s.payments.filter fun p => p.storeId = store ∧ localDate p.recordedAt = day).filter
      fun p => p.method = method).map OrderPayment.amountVnd).sum =
      paidUnder s store day fun m => m = method := by
  rw [sum_filter, sumIf_filter]
  exact sumIf_congr fun p _ => by rw [decide_eq_true_iff]

lemma sum_returned : ((s.refunds.filter fun r => r.storeId = store ∧ r.direction = .toCustomer ∧
    localDate r.refundedAt = day).map OrderRefund.refundedAmountVnd).sum =
      refundedUnder s store day fun _ => true := by
  rw [sum_filter]
  exact sumIf_congr fun r _ => (and_iff_left rfl).symm

lemma sum_returned_by (method : Option PaymentMethod) :
    (((s.refunds.filter fun r => r.storeId = store ∧ r.direction = .toCustomer ∧
      localDate r.refundedAt = day).filter fun r => r.refundMethod = method).map
        OrderRefund.refundedAmountVnd).sum = refundedUnder s store day fun m => m = method := by
  rw [sum_filter, sumIf_filter]
  exact sumIf_congr fun r _ => by rw [decide_eq_true_iff]

variable (s store day) in
lemma today_money : (collectedTodaySql s store day).money = sheet s store day :=
  DayMoney.ext sum_taken (sum_taken_by _) (sum_taken_by _) sum_returned (sum_returned_by _)
    (sum_returned_by _) (sum_returned_by _) (congrArg₂ movement sum_taken sum_returned)
    (congrArg₂ movement (sum_taken_by _) (sum_returned_by _))

lemma drawer_cash (hfirst : first ≤ day) (hlast : day ≤ last) {movement : DrawerMovement}
    (h : (day, movement) ∈ drawerSql s store first last) :
    movement.cash =
      (paidUnder s store day fun m => m = .tienMat,
        refundedUnder s store day fun m => m = some .tienMat,
        refundedUnder s store day fun m => m = none) := by
  rw [drawerSql, List.mem_map] at h
  obtain ⟨d, -, hrow⟩ := h
  rw [Prod.mk.injEq] at hrow
  obtain ⟨rfl, rfl⟩ := hrow
  have hback : ∀ method, ((((s.refunds.filter fun r => r.storeId = store ∧
      r.direction = .toCustomer ∧ first ≤ localDate r.refundedAt ∧ localDate r.refundedAt ≤ last).filter
        fun r => localDate r.refundedAt = d).filter fun r => r.refundMethod = method).map
          OrderRefund.refundedAmountVnd).sum = refundedUnder s store d fun m => m = method := by
    intro method
    rw [sum_filter, sumIf_filter, sumIf_filter]
    refine sumIf_congr fun r _ => ?_
    rw [decide_eq_true_iff]
    constructor
    · rintro ⟨⟨hstore, hdirection, -⟩, hday, hmethod⟩
      exact ⟨⟨hstore, hdirection, hday⟩, hmethod⟩
    · rintro ⟨⟨hstore, hdirection, rfl⟩, hmethod⟩
      exact ⟨⟨hstore, hdirection, hfirst, hlast⟩, rfl, hmethod⟩
  have hpaid : (((s.payments.filter fun p => p.storeId = store ∧ p.method = .tienMat ∧
      first ≤ localDate p.recordedAt ∧ localDate p.recordedAt ≤ last).filter
        fun p => localDate p.recordedAt = d).map OrderPayment.amountVnd).sum =
      paidUnder s store d fun m => m = .tienMat := by
    rw [sum_filter, sumIf_filter]
    refine sumIf_congr fun p _ => ?_
    rw [decide_eq_true_iff]
    constructor
    · rintro ⟨⟨hstore, hmethod, -⟩, hday⟩
      exact ⟨⟨hstore, hday⟩, hmethod⟩
    · rintro ⟨⟨hstore, rfl⟩, hmethod⟩
      exact ⟨⟨hstore, hmethod, hfirst, hlast⟩, rfl⟩
  exact Prod.ext hpaid (Prod.ext (hback _) (hback _))

variable (s store first last) in
lemma sum_paid_window :
    ((s.payments.filter fun p => p.storeId = store ∧ midnight first ≤ p.recordedAt ∧
      p.recordedAt < midnight (last + 1)).map OrderPayment.amountVnd).sum =
      ((days first last).map fun day => paidUnder s store day fun _ => true).sum := by
  have hdays := sum_days s.payments (fun p => localDate p.recordedAt) (fun p => p.storeId = store)
    OrderPayment.amountVnd first last
  rw [sum_filter]
  refine (sumIf_congr fun p _ => ?_).trans (hdays.symm.trans ?_)
  · rw [localDate, day_bounds (by decide : (0 : Int) < dayMicros)]
    exact And.comm
  · refine congrArg List.sum (List.map_congr_left fun day _ => sumIf_congr fun p _ => ?_)
    exact And.comm.trans (and_iff_left rfl).symm

variable (s store first last) in
lemma sum_returned_window :
    ((s.refunds.filter fun r => r.storeId = store ∧ r.direction = .toCustomer ∧
      midnight first ≤ r.refundedAt ∧ r.refundedAt < midnight (last + 1)).map
        OrderRefund.refundedAmountVnd).sum =
      ((days first last).map fun day => refundedUnder s store day fun _ => true).sum := by
  have hdays := sum_days s.refunds (fun r => localDate r.refundedAt)
    (fun r => r.storeId = store ∧ r.direction = .toCustomer) OrderRefund.refundedAmountVnd first last
  rw [sum_filter]
  refine (sumIf_congr fun r _ => ?_).trans (hdays.symm.trans ?_)
  · rw [localDate, day_bounds (by decide : (0 : Int) < dayMicros), ← and_assoc]
    exact And.comm
  · refine congrArg List.sum (List.map_congr_left fun day _ => sumIf_congr fun r _ => ?_)
    constructor
    · rintro ⟨hday, hstore, hdirection⟩
      exact ⟨⟨hstore, hdirection, hday⟩, rfl⟩
    · rintro ⟨⟨hstore, hdirection, hday⟩, -⟩
      exact ⟨hday, hstore, hdirection⟩

variable (s store first last) in
lemma sum_rows (h : Names named paid back) {column : ReportRow → Int}
    (hcolumn : ∀ day group, column (counted day group) = sumWhere group named) :
    column (reportSql s store first last).window =
      ((reportSql s store first last).days.map column).sum := by
  rw [reportSql, hcolumn, sumWhere_window h, List.map_map]
  refine congrArg List.sum (List.map_congr_left fun day hday => ?_)
  obtain ⟨hfirst, hlast⟩ := mem_days.mp hday
  rw [Function.comp_apply, hcolumn, sumWhere_day h hfirst hlast]

lemma sum_signed {figure : ReportRow → Movement} {taken returned : ReportRow → Int}
    (hfigure : ∀ day group,
      figure (counted day group) = movement (taken (counted day group)) (returned (counted day group)))
    (htaken : taken (reportSql s store first last).window =
      ((reportSql s store first last).days.map taken).sum)
    (hreturned : returned (reportSql s store first last).window =
      ((reportSql s store first last).days.map returned).sum) :
    (figure (reportSql s store first last).window).signed =
      ((reportSql s store first last).days.map fun row => (figure row).signed).sum := by
  have hrows : ((reportSql s store first last).days.map fun row => (figure row).signed) =
      (reportSql s store first last).days.map fun row => taken row - returned row := by
    refine List.map_congr_left fun row hrow => ?_
    obtain ⟨day, -, rfl⟩ := List.mem_map.mp hrow
    rw [hfigure, signed_movement]
  have hwindow : figure (reportSql s store first last).window =
      movement (taken (reportSql s store first last).window)
        (returned (reportSql s store first last).window) := hfigure _ _
  rw [hrows, hwindow, signed_movement, htaken, hreturned, sum_map_sub]

lemma paidBy_eq (method : PaymentMethod) : (collectedTodaySql s store day).paidBy method =
    paidUnder s store day fun m => m = method := by
  cases method with
  | tienMat => exact sum_taken_by _
  | chuyenKhoan => exact sum_taken_by _

lemma refundedBy_eq (method : Option PaymentMethod) :
    (collectedTodaySql s store day).refundedBy method = refundedUnder s store day fun m => m = method := by
  match method with
  | none => exact sum_returned_by _
  | some .tienMat => exact sum_returned_by _
  | some .chuyenKhoan => exact sum_returned_by _

lemma collected_split : (collectedTodaySql s store day).collectedVnd =
    (collectedTodaySql s store day).paidBy .tienMat +
      (collectedTodaySql s store day).paidBy .chuyenKhoan := by
  rw [paidBy_eq, paidBy_eq]
  refine sum_taken.trans (sumIf_add fun p _ => ?_)
  cases p.method <;> simp

lemma refunded_split : (collectedTodaySql s store day).refundedVnd =
    (collectedTodaySql s store day).refundedBy (some .tienMat) +
      (collectedTodaySql s store day).refundedBy (some .chuyenKhoan) +
      (collectedTodaySql s store day).refundedBy none := by
  rw [refundedBy_eq, refundedBy_eq, refundedBy_eq]
  have hknown : refundedUnder s store day (fun m => m.isSome) =
      (refundedUnder s store day fun m => m = some .tienMat) +
        refundedUnder s store day fun m => m = some .chuyenKhoan := by
    refine sumIf_add fun r _ => ?_
    rcases r.refundMethod with - | (_ | _) <;> simp
  rw [← hknown]
  refine sum_returned.trans (sumIf_add fun r _ => ?_)
  cases r.refundMethod <;> simp

lemma paidBy_cons {before after : List OrderPayment} {p : OrderPayment}
    (h : s.payments = before ++ p :: after) (method : PaymentMethod) :
    (collectedTodaySql s store day).paidBy method =
      (collectedTodaySql { s with payments := before ++ after } store day).paidBy method +
        if store = p.storeId ∧ day = localDate p.recordedAt ∧ method = p.method then p.amountVnd
        else 0 := by
  rw [paidBy_eq, paidBy_eq, paidUnder, paidUnder, h, sumIf_append, sumIf_cons, sumIf_append]
  simp only [decide_eq_true_eq, and_assoc, eq_comm (a := store), eq_comm (a := day),
    eq_comm (a := method)]
  omega

lemma refundedBy_cons {before after : List OrderRefund} {r : OrderRefund}
    (h : s.refunds = before ++ r :: after) (method : Option PaymentMethod) :
    (collectedTodaySql s store day).refundedBy method =
      (collectedTodaySql { s with refunds := before ++ after } store day).refundedBy method +
        if store = r.storeId ∧ day = localDate r.refundedAt ∧ method = r.refundMethod then
          r.refundedAmountVnd else 0 := by
  have hdirection : r.direction = .toCustomer := rfl
  rw [refundedBy_eq, refundedBy_eq, refundedUnder, refundedUnder, h, sumIf_append, sumIf_cons,
    sumIf_append]
  simp only [hdirection, true_and, decide_eq_true_eq, and_assoc, eq_comm (a := store),
    eq_comm (a := day), eq_comm (a := method)]
  omega

section Accounts

variable {ChargeId OrderId : Type} [LinearOrder ChargeId] [DecidableEq OrderId]

lemma paidBy_account {account account' : Accounts.Account ChargeId OrderId} {owner : Uuid}
    {orderPaymentIds : Nat → Uuid} {command : Accounts.AccountPaymentCommand} {s' : Ledgers}
    (h : recordAccountPayment s account owner orderPaymentIds command = .ok (s', account'))
    (method : PaymentMethod) :
    (collectedTodaySql s' store day).paidBy method = (collectedTodaySql s store day).paidBy method +
      if store = owner ∧ day = localDate command.at_ ∧ method = command.method then command.amountVnd
      else 0 := by
  rw [recordAccountPayment] at h
  obtain ⟨_, -, h⟩ := bind_ok.mp h
  obtain ⟨shares, hshares, h⟩ := bind_ok.mp h
  cases h
  rw [mapError_ok] at hshares
  obtain ⟨-, -, hshares⟩ := bind_ok.mp hshares
  rw [paidBy_eq, paidBy_eq, paidUnder, paidUnder, sumIf_append]
  congr 1
  split_ifs with hcell
  · obtain ⟨rfl, rfl, rfl⟩ := hcell
    rw [sumIf_eq_sum]
    · rw [← allocateFrom_sum hshares, List.mapIdx_eq_zipIdx_map, List.map_map]
      have hamounts := congrArg (List.map Allocation.amountVnd) (List.zipIdx_map_fst 0 shares)
      rw [List.map_map] at hamounts
      exact congrArg List.sum hamounts
    · intro row hrow
      obtain ⟨position, hposition, rfl⟩ := List.mem_mapIdx.mp hrow
      exact ⟨⟨rfl, rfl⟩, decide_eq_true rfl⟩
  · refine sumIf_eq_zero fun row hrow hmet => hcell ?_
    obtain ⟨position, hposition, rfl⟩ := List.mem_mapIdx.mp hrow
    exact ⟨hmet.1.1.symm, hmet.1.2.symm, (decide_eq_true_iff.mp hmet.2).symm⟩

end Accounts

lemma bigint_ok {amount n : Int} (h : bigint amount = .ok n) : amount = n := by
  rw [bigint] at h
  obtain ⟨-, -, h⟩ := bind_ok.mp h
  exact Except.ok.inj h

lemma month_net {money : MonthMoney} (h : monthMoneySql s store first last = .ok money) :
    money.collectedVnd - money.refundedVnd =
      ((days first last).map fun day => (collectedTodaySql s store day).net.signed).sum := by
  rw [monthMoneySql] at h
  obtain ⟨collected, hcollected, h⟩ := bind_ok.mp h
  obtain ⟨refunded, hrefunded, h⟩ := bind_ok.mp h
  cases h
  have hnet : ∀ day, (collectedTodaySql s store day).net.signed =
      (paidUnder s store day fun _ => true) - refundedUnder s store day fun _ => true := by
    intro day
    have hsheet := congrArg DayMoney.net (today_money s store day)
    exact (congrArg Movement.signed hsheet).trans (signed_movement _ _)
  rw [List.map_congr_left fun day _ => hnet day, sum_map_sub]
  have hpaid := sum_paid_window s store first last
  have hback := sum_returned_window s store first last
  rw [← hpaid, ← hback]
  exact congrArg₂ Int.sub (bigint_ok hcollected).symm (bigint_ok hrefunded).symm

/-- The money of a shop day reads the same in every report. -/
theorem day_money_agrees :
    (∀ s store first last,
      (reportSql s store first last).days.map ReportRow.day = (days first last).map some ∧
      (drawerSql s store first last).map Prod.fst = days first last ∧
      (∀ row ∈ (reportSql s store first last).days, ∀ day, row.day = some day →
        row.money = (collectedTodaySql s store day).money ∧
        ∀ movement, (day, movement) ∈ drawerSql s store first last → movement.cash = row.cash) ∧
      (∀ column ∈ [ReportRow.collectedVnd, ReportRow.cashVnd, ReportRow.transferVnd,
          ReportRow.refundedVnd, ReportRow.refundCashVnd, ReportRow.refundTransferVnd,
          ReportRow.refundUnknownVnd, fun row => row.net.signed, fun row => row.drawer.signed],
        column (reportSql s store first last).window =
          ((reportSql s store first last).days.map column).sum)) ∧
    (∀ s store (month : Month) money, monthMoney s store month = .ok money →
      money.collectedVnd - money.refundedVnd =
        ((days month.firstDay (month.succ.firstDay - 1)).map fun day =>
          (collectedTodaySql s store day).net.signed).sum) ∧
    (∀ s store day, (collectedTodaySql s store day).collectedVnd =
        (collectedTodaySql s store day).paidBy .tienMat +
          (collectedTodaySql s store day).paidBy .chuyenKhoan ∧
      (collectedTodaySql s store day).refundedVnd =
        (collectedTodaySql s store day).refundedBy (some .tienMat) +
          (collectedTodaySql s store day).refundedBy (some .chuyenKhoan) +
          (collectedTodaySql s store day).refundedBy none) ∧
    (∀ (s : Ledgers) before after p, s.payments = before ++ p :: after → ∀ store day method,
      (collectedTodaySql s store day).paidBy method =
        (collectedTodaySql { s with payments := before ++ after } store day).paidBy method +
          if store = p.storeId ∧ day = localDate p.recordedAt ∧ method = p.method then p.amountVnd
          else 0) ∧
    (∀ (s : Ledgers) before after r, s.refunds = before ++ r :: after → ∀ store day method,
      (collectedTodaySql s store day).refundedBy method =
        (collectedTodaySql { s with refunds := before ++ after } store day).refundedBy method +
          if store = r.storeId ∧ day = localDate r.refundedAt ∧ method = r.refundMethod then
            r.refundedAmountVnd else 0) ∧
    (∀ (ChargeId OrderId : Type) [LinearOrder ChargeId] [DecidableEq OrderId] s s'
      (account account' : Accounts.Account ChargeId OrderId) owner orderPaymentIds command,
      recordAccountPayment s account owner orderPaymentIds command = .ok (s', account') →
      s'.refunds = s.refunds ∧ ∀ store day method,
        (collectedTodaySql s' store day).paidBy method =
          (collectedTodaySql s store day).paidBy method +
            if store = owner ∧ day = localDate command.at_ ∧ method = command.method then
              command.amountVnd else 0) := by
  refine ⟨fun s store first last => ⟨?_, ?_, ?_, ?_⟩, ?_, ?_, ?_, ?_, ?_⟩
  · rw [reportSql, List.map_map]
    rfl
  · rw [drawerSql, List.map_map]
    exact List.map_id _
  · intro row hrow day hday
    obtain ⟨d, hd, rfl⟩ := List.mem_map.mp hrow
    obtain ⟨hfirst, hlast⟩ := mem_days.mp hd
    cases Option.some.inj hday
    have hmoney := row_money s store hfirst hlast
    refine ⟨hmoney.trans (today_money s store day).symm, fun movement hmovement => ?_⟩
    rw [drawer_cash hfirst hlast hmovement]
    exact (congrArg (fun m => (DayMoney.cashVnd m, m.refundCashVnd, m.refundUnknownVnd)) hmoney).symm
  · have hcollected : ReportRow.collectedVnd (reportSql s store first last).window =
        ((reportSql s store first last).days.map ReportRow.collectedVnd).sum :=
      sum_rows s store first last names_collected fun _ _ => rfl
    have hrefunded : ReportRow.refundedVnd (reportSql s store first last).window =
        ((reportSql s store first last).days.map ReportRow.refundedVnd).sum :=
      sum_rows s store first last names_refunded fun _ _ => rfl
    have hcash : ReportRow.cashVnd (reportSql s store first last).window =
        ((reportSql s store first last).days.map ReportRow.cashVnd).sum :=
      sum_rows s store first last names_cash fun _ _ => rfl
    have hrefundCash : ReportRow.refundCashVnd (reportSql s store first last).window =
        ((reportSql s store first last).days.map ReportRow.refundCashVnd).sum :=
      sum_rows s store first last names_refundCash fun _ _ => rfl
    simp only [List.forall_mem_cons, List.not_mem_nil, false_implies, implies_true, and_true]
    exact ⟨hcollected, hcash, sum_rows _ _ _ _ names_transfer fun _ _ => rfl, hrefunded, hrefundCash,
      sum_rows _ _ _ _ names_refundTransfer fun _ _ => rfl, sum_rows _ _ _ _ names_refundUnknown fun _ _ => rfl,
      sum_signed (fun _ _ => rfl) hcollected hrefunded,
      sum_signed (fun _ _ => rfl) hcash hrefundCash⟩
  · intro s store month money h
    exact month_net h
  · intro s store day
    exact ⟨collected_split, refunded_split⟩
  · intro s before after p h store day method
    exact paidBy_cons h method
  · intro s before after r h store day method
    exact refundedBy_cons h method
  · intro ChargeId OrderId _ _ s s' account account' owner orderPaymentIds command h
    refine ⟨?_, fun store day method => paidBy_account h method⟩
    rw [recordAccountPayment] at h
    obtain ⟨_, -, h⟩ := bind_ok.mp h
    obtain ⟨_, -, h⟩ := bind_ok.mp h
    cases h
    rfl

end NhaTrangLaundry.Db.DailyMoney
