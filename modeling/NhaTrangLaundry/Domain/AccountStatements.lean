import NhaTrangLaundry.Domain.Accounts
import NhaTrangLaundry.Domain.Payments
import NhaTrangLaundry.Domain.Unclaimed
import NhaTrangLaundry.Lib.Sums

/-! The statement months of an account, the day each falls due, and what an account
payment settles. -/

namespace NhaTrangLaundry.Domain.Accounts

open Lib Outcome Sums Gregorian Canonical Settlement Payments Unclaimed

structure Month where
  year : Nat
  month : Nat
  valid : 1 ≤ year ∧ 1 ≤ month ∧ month ≤ 12
deriving DecidableEq

namespace Month

/-- The month after, in a calendar with no last year. -/
def succ (m : Month) : Month :=
  if h : m.month = 12 then ⟨m.year + 1, 1, by omega, by decide, by decide⟩
  else ⟨m.year, m.month + 1, m.valid.1, by omega, by have := m.valid.2.2; omega⟩

def firstDay (m : Month) : Nat := ordinal m.year m.month 1

def ofDay (day : Nat) : Month :=
  ⟨Gregorian.year day, Gregorian.month day, (year_bounds day).1, (month_bounds day).1,
    (month_bounds day).2⟩

end Month

def statementDueDay : Nat := 15

def localDay (moment : Int) : Except PyException Nat := Int.toNat <$> shopDate moment

def statementMonth (moment : Int) : Except PyException Month := Month.ofDay <$> localDay moment

def nextMonth (month : Month) : Except PyException Month := do
  require (month.succ.year ≤ lastYear) (.valueError "year 10000 is out of range")
  .ok month.succ

def previousMonth (month : Month) : Except PyException Month :=
  if h : month.month = 1 then
    if hy : 1 ≤ month.year - 1 then .ok ⟨month.year - 1, 12, hy, by decide, by decide⟩
    else .error (.valueError "year 0 is out of range")
  else .ok ⟨month.year, month.month - 1, month.valid.1, by have := month.valid.2.1; omega,
    by have := month.valid.2.2; omega⟩

/-- The 15th of the month after the statement's month. -/
def statementDueOn (month : Month) : Except PyException Nat := do
  let following ← nextMonth month
  .ok (ordinal following.year following.month statementDueDay)

/-- The latest statement month whose due date is strictly before today. -/
def latestDueMonth (today : Nat) : Except PyException Month := do
  let candidate ← previousMonth (Month.ofDay today)
  let due ← statementDueOn candidate
  if due < today then .ok candidate else previousMonth candidate

def monthStartInstant (month : Month) : Int := month.firstDay * dayMicros - shopOffset

/-- `_due_upper`: the end of the latest statement month whose due date has passed. -/
def dueUpper (now : Int) : Except PyException Int := do
  let today ← localDay now
  let month ← latestDueMonth today
  let following ← nextMonth month
  .ok (monthStartInstant following)

/-- Whether a payment against the account may be recorded; `none` means it may. -/
def accountPaymentRefusal (outstandingVnd amountVnd : Int) (method : PaymentMethod)
    (transferSeen : Bool) (bankRefLast : Option String) :
    Except PyException (Option PaymentRefusal) := do
  require (wholeVnd outstandingVnd)
    (.valueError "the outstanding total is a non-negative whole number of đồng")
  .ok (if outstandingVnd = 0 then some .nothingOwed
    else if ¬ wholeVnd amountVnd ∨ amountVnd < 1 then some .paymentAmountInvalid
    else if method = .chuyenKhoan ∧ transferSeen = false then some .transferNotSeen
    else if ∃ reference ∈ bankRefLast, method ≠ .chuyenKhoan ∨ bankRefPattern reference = false then
      some .bankRefInvalid
    else if outstandingVnd < amountVnd then some .overpaymentRefused
    else none)

lemma Month.firstDay_succ (m : Month) :
    m.succ.firstDay = m.firstDay + daysInMonth m.year m.month := by
  obtain ⟨y, n, hy, h1, h12⟩ := m
  obtain ⟨k, rfl⟩ : ∃ k, n = k + 1 := ⟨n - 1, by omega⟩
  unfold succ
  split
  · next h =>
    simp only [firstDay, ordinal, Nat.sub_self, Nat.add_sub_cancel, Nat.add_zero, daysOfMonths,
      daysBeforeYear_succ y hy]
    have hk : k = 11 := by simpa using h
    subst hk
    simp only [daysOfMonths]
    omega
  · simp only [firstDay, ordinal, Nat.add_sub_cancel, Nat.sub_self, Nat.add_zero, daysOfMonths]
    omega

lemma Month.firstDay_le_succ (m : Month) : m.firstDay ≤ m.succ.firstDay := by
  rw [firstDay_succ]
  exact Nat.le_add_right _ _

lemma Month.lt_ofDay_succ {day : Nat} (h : day < maxDay) : day < (ofDay day).succ.firstDay := by
  have hdate := ordinal_date h
  have hday := day_bounds h
  rw [firstDay_succ]
  simp only [firstDay, ofDay, ordinal, Nat.sub_self, Nat.add_zero] at hdate ⊢
  omega

lemma monthStartInstant_le_succ (month : Month) :
    monthStartInstant month ≤ monthStartInstant month.succ := by
  have h := month.firstDay_le_succ
  unfold monthStartInstant
  have : (month.firstDay : Int) * dayMicros ≤ (month.succ.firstDay : Int) * dayMicros := by
    exact_mod_cast Nat.mul_le_mul_right dayMicros h
  omega

lemma lt_monthStartInstant_succ {now : Int} {month : Month}
    (h : statementMonth now = .ok month) : now < monthStartInstant month.succ := by
  obtain ⟨day, hday, rfl⟩ := map_ok.mp h
  obtain ⟨number, hnumber, rfl⟩ := map_ok.mp hday
  obtain ⟨_, hrange, hval⟩ := bind_ok.mp hnumber
  rw [require_ok] at hrange
  cases hval
  obtain ⟨hlow, hhigh⟩ := hrange
  unfold wallLimit at hhigh
  have hday : ((now + shopOffset) / dayMicros).toNat < maxDay := by
    unfold maxDay dayMicros at *
    omega
  have hlt := Month.lt_ofDay_succ hday
  unfold monthStartInstant
  unfold dayMicros at *
  omega

variable {Id : Type}

lemma accountPaymentRefusal_none {outstandingVnd amountVnd : Int} {method : PaymentMethod}
    {transferSeen : Bool} {bankRefLast : Option String}
    (h : accountPaymentRefusal outstandingVnd amountVnd method transferSeen bankRefLast = .ok none) :
    1 ≤ amountVnd ∧ amountVnd ≤ outstandingVnd := by
  obtain ⟨_, -, h⟩ := bind_ok.mp h
  simp only [Except.ok.injEq] at h
  split_ifs at h with h₁ h₂ h₃ h₄ h₅
  push Not at h₂
  omega

/-- A payment reaches a charge only when it has filled every charge before it: of the
charges in any initial part it settles as much as it holds. -/
lemma allocateFrom_initial {left : Int} {items : List (OpenCharge Id)}
    {allocations : List (Allocation Id)} (h : allocateFrom left items = .ok allocations)
    (hleft : 0 ≤ left) (hopen : ∀ item ∈ items, 0 ≤ item.remainingVnd)
    {p : Id → Prop} [DecidablePred p]
    (hp : items.Pairwise fun a b => p b.chargeId → p a.chargeId) :
    sumIf allocations (fun a => p a.chargeId) Allocation.amountVnd =
      min left (sumIf items (fun a => p a.chargeId) OpenCharge.remainingVnd) := by
  induction items generalizing left allocations with
  | nil =>
    obtain ⟨_, hzero, h⟩ := bind_ok.mp h
    rw [require_ok] at hzero
    cases h
    subst hzero
    rfl
  | cons item rest ih =>
    obtain ⟨_, -, h⟩ := bind_ok.mp h
    rw [List.pairwise_cons] at hp
    split at h
    · next hzero =>
      cases h
      subst hzero
      exact (min_eq_left (sumIf_nonneg fun a ha _ => hopen a ha)).symm
    · next hne =>
      obtain ⟨later, hrest, h⟩ := bind_ok.mp h
      cases h
      have hitem := hopen item List.mem_cons_self
      have hopen' := fun a ha => hopen a (List.mem_cons_of_mem _ ha)
      have hstep := ih hrest (by omega) hopen' hp.2
      have hnonneg : 0 ≤ sumIf rest (fun a => p a.chargeId) OpenCharge.remainingVnd :=
        sumIf_nonneg fun a ha _ => hopen' a ha
      rw [sumIf_cons, sumIf_cons, hstep]
      by_cases hitemp : p item.chargeId
      · simp only [hitemp, if_true]
        omega
      · have hnone : sumIf rest (fun a => p a.chargeId) OpenCharge.remainingVnd = 0 :=
          sumIf_eq_zero fun a ha hpa => hitemp (hp.1 a ha hpa)
        simp only [hitemp, if_false, hnone]
        omega

lemma allocateFrom_charges {left : Int} {items : List (OpenCharge Id)}
    {allocations : List (Allocation Id)} (h : allocateFrom left items = .ok allocations) :
    ∀ a ∈ allocations, ∃ item ∈ items, item.chargeId = a.chargeId := by
  induction items generalizing left allocations with
  | nil =>
    obtain ⟨_, -, h⟩ := bind_ok.mp h
    cases h
    simp
  | cons item rest ih =>
    obtain ⟨_, -, h⟩ := bind_ok.mp h
    split at h
    · cases h
      simp
    · obtain ⟨later, hrest, h⟩ := bind_ok.mp h
      cases h
      intro a ha
      rcases List.mem_cons.mp ha with rfl | ha
      · exact ⟨item, List.mem_cons_self, rfl⟩
      · obtain ⟨found, hmem, hid⟩ := ih hrest a ha
        exact ⟨found, List.mem_cons_of_mem _ hmem, hid⟩

lemma allocateFrom_sum {left : Int} {items : List (OpenCharge Id)}
    {allocations : List (Allocation Id)} (h : allocateFrom left items = .ok allocations) :
    (allocations.map Allocation.amountVnd).sum = left := by
  induction items generalizing left allocations with
  | nil =>
    obtain ⟨_, hzero, h⟩ := bind_ok.mp h
    rw [require_ok] at hzero
    cases h
    exact hzero.symm
  | cons item rest ih =>
    obtain ⟨_, -, h⟩ := bind_ok.mp h
    split at h
    · next hzero =>
      cases h
      exact hzero.symm
    · obtain ⟨later, hrest, h⟩ := bind_ok.mp h
      cases h
      rw [List.map_cons, List.sum_cons, ih hrest]
      dsimp only
      omega

end NhaTrangLaundry.Domain.Accounts
