import NhaTrangLaundry.Db.Accounts

/-! The ledgers of an account add up: its totals, the remainders of its charges, the
payments of its orders and its monthly statements agree after every run. -/

namespace NhaTrangLaundry.Db.Accounts

open Lib Outcome Sorting Sums Domain Canonical Catalog Settlement Domain.Accounts Domain.Payments
open Handover
open Db.Orders hiding Refusal Command allocate attempt apply run

lemma chargeAccount_writes {row row' : OrderRow} {standing : AccountStanding} {collected : Bool}
    {at_ : Int} (h : chargeAccount row (some standing) collected at_ = .ok row') :
    ∃ charge, row'.charge = some charge ∧ charge.paidBeforeVnd = row.payments.sum ∧
      charge.owedVnd = charge.paidBeforeVnd + charge.amountVnd ∧ 0 < charge.amountVnd ∧
      row'.payments = row.payments ∧ row'.state.balance = .onAccount ∧
      ∃ limit, standing.creditLimitVnd = some limit ∧
        standing.outstandingVnd + charge.amountVnd ≤ limit := by
  unfold chargeAccount at h
  obtain ⟨owed, -, h⟩ := bind_ok.mp h
  obtain ⟨outcome, houtcome, h⟩ := bind_ok.mp h
  rw [mapError_ok] at houtcome
  cases outcome with
  | refused refusal => cases h
  | accepted accepted =>
    obtain ⟨_, -, h⟩ := bind_ok.mp h
    cases h
    obtain ⟨-, -, -, -, -, -, -, hpaid, hamount, -, -, hpositive, facts, hfacts, hadmit, -⟩ :=
      evaluateAccountCharge_accepted houtcome
    cases hfacts
    refine ⟨_, rfl, hpaid, ?_, hpositive, rfl, rfl, ?_⟩
    · dsimp only
      omega
    · unfold accountHandoverRefusal at hadmit
      split at hadmit
      · simp at hadmit
      split at hadmit
      · simp at hadmit
      next limit hlimit =>
      split at hadmit
      · simp at hadmit
      obtain ⟨_, -, hadmit⟩ := bind_ok.mp hadmit
      refine ⟨limit, hlimit, ?_⟩
      split at hadmit
      · simp at hadmit
      · next hle => exact not_lt.mp hle

lemma allocate_writes {row row' : OrderRow} {amount : Int}
    (h : Orders.allocate row amount = .ok row') :
    ∃ charge, row.charge = some charge ∧ row'.charge = some charge ∧ 1 ≤ amount ∧
      row.state.balance = .onAccount ∧
      row'.payments = row.payments ++ [amount] ∧ row'.payments.sum ≤ charge.owedVnd ∧
      if row'.payments.sum = charge.owedVnd then
        row'.state.balance = .paid ∧ row'.settlement.isSome = true
      else row'.state.balance = .onAccount := by
  unfold Orders.allocate at h
  split at h
  · cases h
  next charge hcharge =>
  obtain ⟨_, honAccount, h⟩ := bind_ok.mp h
  obtain ⟨_, hbound, h⟩ := bind_ok.mp h
  obtain ⟨_, hpositive, h⟩ := bind_ok.mp h
  rw [require_ok] at honAccount hbound hpositive
  have hsum : (row.payments ++ [amount]).sum = row.payments.sum + amount := by simp
  split at h
  · next hfull =>
    obtain ⟨shape, -, h⟩ := bind_ok.mp h
    cases h
    refine ⟨charge, hcharge, hcharge, hpositive, honAccount, rfl, ?_, ?_⟩
    · exact le_of_eq_of_le hsum hbound
    · exact (if_pos (hsum.trans hfull)).mpr ⟨rfl, rfl⟩
  · next hpart =>
    cases h
    refine ⟨charge, hcharge, hcharge, hpositive, honAccount, rfl, ?_, ?_⟩
    · exact le_of_eq_of_le hsum hbound
    · rw [if_neg fun he => hpart (hsum.symm.trans he)]
      exact honAccount

section Books

variable {ChargeId OrderId : Type} [LinearOrder ChargeId]

def Account.remainingBefore (account : Account ChargeId OrderId) (at_ : Int) : Int :=
  sumIf account.charges (fun charge => charge.chargedAt < at_) account.remaining

/-- The rows of an order say of its charge what the shares it was paid say. -/
structure Settled (row : OrderRow) (charge : ChargeRow ChargeId OrderId) (allocatedVnd : Int) :
    Prop where
  owed : row.charge.map AccountCharge.owedVnd = some charge.owedVnd
  amount : charge.owedVnd = charge.paidBeforeVnd + charge.amountVnd
  payments : row.payments.sum = charge.paidBeforeVnd + allocatedVnd
  bounded : allocatedVnd ≤ charge.amountVnd
  balance : if allocatedVnd = charge.amountVnd then
      row.state.balance = .paid ∧ row.settlement.isSome = true
    else row.state.balance = .onAccount

/-- One charge an order, each with its shares of the payments. -/
structure Booked (account : Account ChargeId OrderId) : Prop where
  ids : (account.charges.map ChargeRow.id).Nodup
  orderIds : (account.charges.map ChargeRow.orderId).Nodup
  allocations : ∀ row ∈ account.allocations, ∃ charge ∈ account.charges, charge.id = row.chargeId
  settled : ∀ charge ∈ account.charges,
    Settled (account.orders charge.orderId) charge (account.allocated charge)

/-- The invariant of an account's ledgers. -/
structure AddsUp (account : Account ChargeId OrderId) : Prop extends Booked account where
  outstanding : account.outstandingVnd = (account.charges.map account.remaining).sum
  unpaid : ∀ at_, account.unpaidBefore at_ = account.remainingBefore at_

lemma Booked.remaining_nonneg {account : Account ChargeId OrderId} (h : Booked account)
    {charge : ChargeRow ChargeId OrderId} (hmem : charge ∈ account.charges) :
    0 ≤ account.remaining charge :=
  Int.sub_nonneg_of_le (h.settled charge hmem).bounded

lemma AddsUp.outstanding_nonneg {account : Account ChargeId OrderId} (h : AddsUp account) :
    0 ≤ account.outstandingVnd := by
  rw [h.outstanding]
  refine List.sum_nonneg fun x hx => ?_
  obtain ⟨charge, hmem, rfl⟩ := List.mem_map.mp hx
  exact h.remaining_nonneg hmem

lemma Booked.allocated_fresh {account : Account ChargeId OrderId} (h : Booked account)
    {charge : ChargeRow ChargeId OrderId} (hfresh : ∀ other ∈ account.charges, other.id ≠ charge.id) :
    account.allocated charge = 0 := by
  refine sumIf_eq_zero fun row hrow hid => ?_
  obtain ⟨other, hother, ho⟩ := h.allocations row hrow
  exact hfresh other hother (ho.trans hid)

lemma Booked.sum_openRows {account : Account ChargeId OrderId} (h : Booked account)
    {p : ChargeRow ChargeId OrderId → Prop} [DecidablePred p] :
    sumIf account.openRows p account.remaining = sumIf account.charges p account.remaining := by
  rw [Account.openRows, sumIf_perm (sortBy_perm _ _), sumIf_filter]
  refine congrArg List.sum (List.map_congr_left fun charge hmem => ?_)
  have hbound := h.remaining_nonneg hmem
  by_cases hopen : account.allocated charge < charge.amountVnd
  · simp [hopen]
  · have hzero : account.remaining charge = 0 := by
      unfold Account.remaining at *
      omega
    simp [hopen, hzero]

end Books

variable {ChargeId OrderId : Type} [LinearOrder ChargeId] [DecidableEq OrderId]

lemma charge_writes {account account' : Account ChargeId OrderId}
    {command : AccountChargeCommand ChargeId OrderId} (h : account.charge command = .ok account') :
    ∃ row charge, row.charge = some charge ∧
      charge.paidBeforeVnd = (account.orders command.orderId).payments.sum ∧
      charge.owedVnd = charge.paidBeforeVnd + charge.amountVnd ∧ 0 < charge.amountVnd ∧
      row.payments = (account.orders command.orderId).payments ∧
      row.state.balance = .onAccount ∧
      (∃ limit, account.creditLimitVnd = some limit ∧
        account.outstandingVnd + charge.amountVnd ≤ limit) ∧
      (∀ other ∈ account.charges,
        other.id ≠ command.chargeId ∧ other.orderId ≠ command.orderId) ∧
      account' = { account with
        charges := account.charges ++ [Account.chargeRow command charge]
        orders := Function.update account.orders command.orderId row } := by
  unfold Account.charge at h
  obtain ⟨_, -, h⟩ := bind_ok.mp h
  obtain ⟨standing, hstanding, hrest⟩ := bind_ok.mp h
  rw [mapError_ok] at hstanding
  obtain ⟨upper, -, hval⟩ := bind_ok.mp hstanding
  cases hval
  obtain ⟨row, hrow, hrest⟩ := bind_ok.mp hrest
  obtain ⟨_, hfresh, hrest⟩ := bind_ok.mp hrest
  rw [mapError_ok] at hrow
  rw [require_ok] at hfresh
  obtain ⟨charge, hcharge, hpaid, howed, hpositive, hpayments, hbalance, hlimit⟩ :=
    chargeAccount_writes hrow
  rw [hcharge] at hrest
  cases hrest
  exact ⟨row, charge, hcharge, hpaid, howed, hpositive, hpayments, hbalance, hlimit, hfresh, rfl⟩

lemma Booked.charge {account account' : Account ChargeId OrderId}
    {command : AccountChargeCommand ChargeId OrderId} (hb : Booked account)
    (h : account.charge command = .ok account') : Booked account' := by
  obtain ⟨row, charge, hcharge, hpaid, howed, hpositive, hpayments, hbalance, -, hfresh, rfl⟩ :=
    charge_writes h
  refine ⟨?_, ?_, ?_, ?_⟩
  · simp only [List.map_append, List.map_cons, List.map_nil]
    refine hb.ids.append (List.nodup_singleton _) ?_
    simp only [List.disjoint_singleton, List.mem_map, not_exists, not_and]
    exact fun other hother => (hfresh other hother).1
  · simp only [List.map_append, List.map_cons, List.map_nil]
    refine hb.orderIds.append (List.nodup_singleton _) ?_
    simp only [List.disjoint_singleton, List.mem_map, not_exists, not_and]
    exact fun other hother => (hfresh other hother).2
  · intro allocation hmem
    obtain ⟨other, hother, hid⟩ := hb.allocations allocation hmem
    exact ⟨other, List.mem_append_left _ hother, hid⟩
  · intro other hother
    rcases List.mem_append.mp hother with hold | hnew
    · show Settled (Function.update account.orders command.orderId row other.orderId) other
        (account.allocated other)
      rw [Function.update_of_ne (hfresh other hold).2]
      exact hb.settled other hold
    · rw [List.mem_singleton] at hnew
      subst hnew
      have hzero : account.allocated (Account.chargeRow command charge) = 0 :=
        hb.allocated_fresh fun o ho => (hfresh o ho).1
      show Settled (Function.update account.orders command.orderId row command.orderId)
        (Account.chargeRow command charge) (account.allocated (Account.chargeRow command charge))
      rw [Function.update_self, hzero]
      constructor
      · rw [hcharge]
        rfl
      · exact howed
      · rw [hpayments, ← hpaid]
        exact (Int.add_zero _).symm
      · exact le_of_lt hpositive
      · exact (if_neg (ne_of_lt hpositive)).mpr hbalance

omit [LinearOrder ChargeId] in
lemma allocate_share {account account' : Account ChargeId OrderId}
    {share : Allocation (ChargeId × OrderId)} (h : account.allocate share = .ok account') :
    ∃ row, Orders.allocate (account.orders share.chargeId.2) share.amountVnd = .ok row ∧
      account' = { account with
        allocations := account.allocations ++ [⟨share.chargeId.1, share.amountVnd⟩]
        orders := Function.update account.orders share.chargeId.2 row } := by
  obtain ⟨row, hrow, h⟩ := bind_ok.mp h
  cases h
  exact ⟨row, mapError_ok.mp hrow, rfl⟩

lemma Booked.allocate {account account' : Account ChargeId OrderId}
    {share : Allocation (ChargeId × OrderId)} (hb : Booked account)
    {charge : ChargeRow ChargeId OrderId} (hmem : charge ∈ account.charges)
    (hshare : share.chargeId = (charge.id, charge.orderId))
    (h : account.allocate share = .ok account') : Booked account' := by
  obtain ⟨row, hrow, rfl⟩ := allocate_share h
  rw [hshare] at hrow ⊢
  refine ⟨hb.ids, hb.orderIds, ?_, ?_⟩
  · intro allocation hallocation
    rcases List.mem_append.mp hallocation with hold | hnew
    · exact hb.allocations allocation hold
    · rw [List.mem_singleton] at hnew
      subst hnew
      exact ⟨charge, hmem, rfl⟩
  · intro other hother
    show Settled (Function.update account.orders charge.orderId row other.orderId) other
      (sumIf (account.allocations ++ [⟨charge.id, share.amountVnd⟩])
        (fun row => row.chargeId = other.id) AllocationRow.amountVnd)
    rw [sumIf_append, sumIf_cons]
    by_cases hsame : other = charge
    · subst hsame
      have hs := hb.settled other hother
      obtain ⟨fixed, hfixed, hfixed', hpositive, hbalance, hpayments, hbound, hend⟩ :=
        allocate_writes hrow
      have howed : fixed.owedVnd = other.owedVnd := by
        have := hs.owed
        rw [hfixed] at this
        exact Option.some.inj this
      have hsum : row.payments.sum = other.paidBeforeVnd +
          (account.allocated other + share.amountVnd) := by
        rw [hpayments, List.sum_append, List.sum_singleton, hs.payments, Int.add_assoc]
      have hamount := hs.amount
      simp only [Function.update_self, if_true]
      change Settled row other (account.allocated other + (share.amountVnd + 0))
      rw [Int.add_zero]
      constructor
      · rw [hfixed', ← howed]
        rfl
      · exact hamount
      · exact hsum
      · omega
      · have hiff : account.allocated other + share.amountVnd = other.amountVnd ↔
            row.payments.sum = fixed.owedVnd := by omega
        simpa only [hiff] using hend
    · have hid : charge.id ≠ other.id := fun he =>
        hsame (List.inj_on_of_nodup_map hb.ids hother hmem he.symm)
      have horder : other.orderId ≠ charge.orderId := fun he =>
        hsame (List.inj_on_of_nodup_map hb.orderIds hother hmem he)
      rw [Function.update_of_ne horder, if_neg hid]
      change Settled _ other (account.allocated other + (0 + 0))
      simp only [Int.add_zero]
      exact hb.settled other hother

omit [LinearOrder ChargeId] in
lemma allocateAll_writes {account account' : Account ChargeId OrderId}
    {shares : List (Allocation (ChargeId × OrderId))}
    (h : shares.foldlM Account.allocate account = .ok account') :
    account' = { account with
      allocations := account.allocations ++
        shares.map fun share => ⟨share.chargeId.1, share.amountVnd⟩
      orders := account'.orders } := by
  induction shares generalizing account with
  | nil =>
    cases h
    simp
  | cons share shares ih =>
    rw [List.foldlM_cons] at h
    obtain ⟨next, hnext, h⟩ := bind_ok.mp h
    obtain ⟨row, -, rfl⟩ := allocate_share hnext
    refine (ih h).trans ?_
    simp

lemma Booked.allocateAll {account account' : Account ChargeId OrderId}
    {shares : List (Allocation (ChargeId × OrderId))} (hb : Booked account)
    (hshares : ∀ share ∈ shares, ∃ charge ∈ account.charges,
      share.chargeId = (charge.id, charge.orderId))
    (h : shares.foldlM Account.allocate account = .ok account') : Booked account' := by
  induction shares generalizing account with
  | nil =>
    cases h
    exact hb
  | cons share shares ih =>
    rw [List.foldlM_cons] at h
    obtain ⟨next, hnext, h⟩ := bind_ok.mp h
    obtain ⟨charge, hmem, hshare⟩ := hshares share List.mem_cons_self
    have hbooked := hb.allocate hmem hshare hnext
    obtain ⟨row, -, rfl⟩ := allocate_share hnext
    exact ih hbooked (fun s hs => hshares s (List.mem_cons_of_mem _ hs)) h

lemma recordPayment_writes {account account' : Account ChargeId OrderId}
    {command : AccountPaymentCommand} (h : account.recordPayment command = .ok account') :
    1 ≤ command.amountVnd ∧ command.amountVnd ≤ account.outstandingVnd ∧
      ∃ shares, allocateFrom command.amountVnd account.openCharges = .ok shares ∧
        shares.foldlM Account.allocate { account with
          payments := account.payments ++ [⟨command.amountVnd, command.at_⟩] } = .ok account' := by
  unfold Account.recordPayment at h
  obtain ⟨standing, hstanding, hrest⟩ := bind_ok.mp h
  rw [mapError_ok] at hstanding
  obtain ⟨upper, -, hval⟩ := bind_ok.mp hstanding
  cases hval
  obtain ⟨refusal, hrefusal, hrest⟩ := bind_ok.mp hrest
  rw [mapError_ok] at hrefusal
  cases refusal with
  | some refusal => cases hrest
  | none =>
    obtain ⟨shares, hshares, hrest⟩ := bind_ok.mp hrest
    rw [mapError_ok] at hshares
    obtain ⟨_, -, hshares⟩ := bind_ok.mp hshares
    obtain ⟨hpositive, hcovered⟩ := accountPaymentRefusal_none hrefusal
    exact ⟨hpositive, hcovered, shares, hshares, hrest⟩

lemma Booked.recordPayment {account account' : Account ChargeId OrderId}
    {command : AccountPaymentCommand} (hb : Booked account)
    (h : account.recordPayment command = .ok account') : Booked account' := by
  obtain ⟨-, -, shares, hshares, hwrites⟩ := recordPayment_writes h
  have hheader : Booked { account with
      payments := account.payments ++ [⟨command.amountVnd, command.at_⟩] } :=
    ⟨hb.ids, hb.orderIds, hb.allocations, hb.settled⟩
  refine hheader.allocateAll ?_ hwrites
  intro share hmem
  obtain ⟨item, hitem, hid⟩ := allocateFrom_charges hshares share hmem
  obtain ⟨charge, hcharge, rfl⟩ := List.mem_map.mp hitem
  exact ⟨charge, (List.mem_filter.mp (mem_sortBy.mp hcharge)).1, hid.symm⟩

section Shares

variable {account : Account ChargeId OrderId} {amount : Int}
  {shares : List (Allocation (ChargeId × OrderId))}

omit [DecidableEq OrderId] in
lemma openRows_oldest : account.openRows.Pairwise fun a b => a.chargedAt ≤ b.chargedAt := by
  refine (sortBy_sorted _ _).imp fun {a b} hab => ?_
  rcases Prod.Lex.le_iff.mp hab with hlt | ⟨heq, -⟩
  · exact le_of_lt hlt
  · exact le_of_eq heq

omit [DecidableEq OrderId] in
lemma Booked.shares_of (hb : Booked account) (hpositive : 0 ≤ amount)
    (h : allocateFrom amount account.openCharges = .ok shares)
    {p : ChargeRow ChargeId OrderId → Prop} [DecidablePred p]
    (hp : account.openRows.Pairwise fun a b => p b → p a) :
    sumIf account.charges p (fun charge =>
      sumIf shares (fun share => share.chargeId.1 = charge.id) Allocation.amountVnd) =
      min amount (sumIf account.charges p account.remaining) := by
  -- The shares name charges by their ids; `q` says of an id what `p` says of its charge.
  let q : ChargeId × OrderId → Prop := fun id => ∃ charge ∈ account.charges, p charge ∧ id.1 = charge.id
  have hq : ∀ charge ∈ account.openRows, q (charge.id, charge.orderId) ↔ p charge := by
    intro charge hcharge
    have hin : charge ∈ account.charges := (List.mem_filter.mp (mem_sortBy.mp hcharge)).1
    constructor
    · rintro ⟨other, hother, hpo, hid⟩
      rwa [List.inj_on_of_nodup_map hb.ids hin hother hid]
    · intro hpc
      exact ⟨charge, hin, hpc, rfl⟩
  have hinitial : account.openCharges.Pairwise fun a b => q b.chargeId → q a.chargeId := by
    refine List.pairwise_map.mpr (hp.imp_of_mem fun {a b} ha hb' hab hqb => ?_)
    exact (hq a ha).mpr (hab ((hq b hb').mp hqb))
  have hopen : ∀ item ∈ account.openCharges, 0 ≤ item.remainingVnd := by
    intro item hitem
    obtain ⟨charge, hcharge, rfl⟩ := List.mem_map.mp hitem
    exact hb.remaining_nonneg (List.mem_filter.mp (mem_sortBy.mp hcharge)).1
  rw [sumIf_sumIf_key hb.ids]
  refine (allocateFrom_initial h hpositive hopen hinitial).trans ?_
  rw [Account.openCharges, sumIf_map, sumIf_congr hq]
  exact congrArg _ hb.sum_openRows

end Shares

lemma AddsUp.recordPayment {account account' : Account ChargeId OrderId}
    {command : AccountPaymentCommand} (ha : AddsUp account)
    (h : account.recordPayment command = .ok account') : AddsUp account' := by
  have hbooked := ha.toBooked.recordPayment h
  obtain ⟨hpositive, hcovered, shares, hshares, hwrites⟩ := recordPayment_writes h
  have he := allocateAll_writes hwrites
  have hnonneg : 0 ≤ command.amountVnd := by omega
  have hcharges : account'.charges = account.charges := by rw [he]
  have hpaid : account'.paid = account.paid + command.amountVnd := by
    rw [he]
    simp [Account.paid]
  have hremaining : ∀ charge, account'.remaining charge = account.remaining charge -
      sumIf shares (fun share => share.chargeId.1 = charge.id) Allocation.amountVnd := by
    intro charge
    rw [he]
    simp only [Account.remaining, Account.allocated, sumIf_append, sumIf_map]
    exact (Int.sub_sub _ _ _).symm
  refine ⟨hbooked, ?_, fun at_ => ?_⟩
  · have htotal := ha.toBooked.shares_of hnonneg hshares (p := fun _ => True)
      (List.pairwise_of_forall fun _ _ h => h)
    rw [sumIf_eq_sum (by simp), sumIf_eq_sum (by simp), ← ha.outstanding,
      min_eq_left hcovered] at htotal
    have hsum : (account.charges.map account'.remaining).sum =
        (account.charges.map account.remaining).sum - command.amountVnd := by
      rw [← htotal, ← sumIf_eq_sum (p := fun _ => True) (by simp),
        ← sumIf_eq_sum (p := fun _ => True) (f := account.remaining) (by simp),
        ← sumIf_eq_sum (p := fun _ => True) (by simp), ← sumIf_sub]
      exact sumIf_congr_fun fun charge _ _ => hremaining charge
    have hbefore := ha.outstanding
    rw [Account.outstandingVnd, Account.charged] at hbefore ⊢
    rw [hcharges, hsum, hpaid]
    omega
  · have hinitial := ha.toBooked.shares_of hnonneg hshares (p := fun c => c.chargedAt < at_)
      (openRows_oldest.imp fun hab hb => lt_of_le_of_lt hab hb)
    have hbefore := ha.unpaid at_
    have hafter : account'.remainingBefore at_ = account.remainingBefore at_ -
        min command.amountVnd (account.remainingBefore at_) := by
      rw [Account.remainingBefore, Account.remainingBefore, hcharges, ← hinitial, ← sumIf_sub]
      exact sumIf_congr_fun fun charge _ _ => hremaining charge
    rw [hafter, ← hbefore]
    unfold Account.unpaidBefore Account.chargedBefore
    rw [hcharges, hpaid]
    omega

def Within (account : Account ChargeId OrderId) (at_ : Int) : Prop :=
  (∀ charge ∈ account.charges, charge.chargedAt ≤ at_) ∧
    ∀ payment ∈ account.payments, payment.recordedAt ≤ at_

lemma AddsUp.charge {account account' : Account ChargeId OrderId}
    {command : AccountChargeCommand ChargeId OrderId} (ha : AddsUp account)
    (hlast : Within account command.at_) (h : account.charge command = .ok account') :
    AddsUp account' := by
  have hbooked := ha.toBooked.charge h
  obtain ⟨row, charge, -, -, -, hpositive, -, -, -, hfresh, he⟩ := charge_writes h
  have hzero : account.allocated (Account.chargeRow command charge) = 0 :=
    ha.toBooked.allocated_fresh fun o ho => (hfresh o ho).1
  have hcharges : account'.charges = account.charges ++ [Account.chargeRow command charge] := by
    rw [he]
  have hpaid : account'.paid = account.paid := by rw [he]; rfl
  have hremaining : account'.remaining = account.remaining := by rw [he]; rfl
  have hnew : account.remaining (Account.chargeRow command charge) = charge.amountVnd := by
    rw [Account.remaining, hzero, Int.sub_zero]
    rfl
  have hout := ha.outstanding
  refine ⟨hbooked, ?_, fun at_ => ?_⟩
  · rw [Account.outstandingVnd, Account.charged] at hout ⊢
    rw [hpaid, hremaining, hcharges]
    simp only [List.map_append, List.map_cons, List.map_nil, List.sum_append, List.sum_cons,
      List.sum_nil, hnew]
    rw [← hout]
    simp only [Account.chargeRow]
    omega
  · have hbefore := ha.unpaid at_
    rw [Account.unpaidBefore, Account.remainingBefore, Account.chargedBefore] at hbefore ⊢
    rw [hcharges, hpaid, hremaining, sumIf_append, sumIf_append, sumIf_cons, sumIf_cons, hnew]
    change max (_ + ((if command.at_ < at_ then charge.amountVnd else 0) + 0) - _) 0 =
      _ + ((if command.at_ < at_ then charge.amountVnd else 0) + 0)
    by_cases hlt : command.at_ < at_
    · have hall : ∀ c ∈ account.charges, c.chargedAt < at_ := fun c hc =>
        lt_of_le_of_lt (hlast.1 c hc) hlt
      have hnonneg := ha.outstanding_nonneg
      rw [Account.outstandingVnd, Account.charged] at hnonneg
      rw [sumIf_eq_sum hall] at hbefore ⊢
      simp only [if_pos hlt]
      omega
    · simp only [if_neg hlt, Int.add_zero]
      exact hbefore

lemma Within.apply {account : Account ChargeId OrderId} {at_ : Int} (hw : Within account at_)
    {command : Command ChargeId OrderId} (hat : ∀ x, command.at? = some x → x ≤ at_) :
    Within (account.apply command) at_ := by
  unfold Account.apply
  cases hattempt : account.attempt command with
  | error e => exact hw
  | ok account' =>
    dsimp only
    cases command with
    | charge command =>
      obtain ⟨row, charge, -, -, -, -, -, -, -, -, rfl⟩ := charge_writes hattempt
      refine ⟨fun other hother => ?_, hw.2⟩
      rcases List.mem_append.mp hother with hold | hnew
      · exact hw.1 other hold
      · rw [List.mem_singleton] at hnew
        subst hnew
        exact hat _ rfl
    | recordPayment command =>
      obtain ⟨-, -, shares, -, hwrites⟩ := recordPayment_writes hattempt
      rw [allocateAll_writes hwrites]
      refine ⟨hw.1, fun other hother => ?_⟩
      rcases List.mem_append.mp hother with hold | hnew
      · exact hw.2 other hold
      · rw [List.mem_singleton] at hnew
        subst hnew
        exact hat _ rfl
    | update creditLimitVnd status =>
      cases hattempt
      exact hw
    | lift until_ =>
      cases hattempt
      exact hw
    | order orderId row =>
      obtain ⟨_, -, hval⟩ := bind_ok.mp hattempt
      cases hval
      exact hw

lemma AddsUp.apply {account : Account ChargeId OrderId} (ha : AddsUp account)
    {command : Command ChargeId OrderId} (hat : ∀ x, command.at? = some x → Within account x) :
    AddsUp (account.apply command) := by
  unfold Account.apply
  cases hattempt : account.attempt command with
  | error e => exact ha
  | ok account' =>
    dsimp only
    cases command with
    | charge command => exact ha.charge (hat _ rfl) hattempt
    | recordPayment command => exact ha.recordPayment hattempt
    | update creditLimitVnd status =>
      cases hattempt
      exact ⟨⟨ha.ids, ha.orderIds, ha.allocations, ha.settled⟩, ha.outstanding, ha.unpaid⟩
    | lift until_ =>
      cases hattempt
      exact ⟨⟨ha.ids, ha.orderIds, ha.allocations, ha.settled⟩, ha.outstanding, ha.unpaid⟩
    | order orderId row =>
      obtain ⟨_, hother, hval⟩ := bind_ok.mp hattempt
      rw [require_ok] at hother
      cases hval
      refine ⟨⟨ha.ids, ha.orderIds, ha.allocations, fun charge hmem => ?_⟩, ha.outstanding,
        ha.unpaid⟩
      show Settled (Function.update account.orders orderId row charge.orderId) charge
        (account.allocated charge)
      rw [Function.update_of_ne (hother charge hmem)]
      exact ha.settled charge hmem

lemma addsUp_run {account : Account ChargeId OrderId} (ha : AddsUp account)
    {commands : List (Command ChargeId OrderId)}
    (hsorted : (commands.filterMap Command.at?).Pairwise (· ≤ ·))
    (hlater : ∀ x ∈ commands.filterMap Command.at?, Within account x) :
    AddsUp (account.run commands) := by
  induction commands generalizing account with
  | nil => exact ha
  | cons command rest ih =>
    have hfirst : ∀ x, command.at? = some x → Within account x := fun x hx =>
      hlater x (List.mem_filterMap.mpr ⟨command, List.mem_cons_self, hx⟩)
    rw [List.pairwise_filterMap, List.pairwise_cons, ← List.pairwise_filterMap] at hsorted
    refine ih (ha.apply hfirst) hsorted.2 fun y hy => ?_
    obtain ⟨later, hmem, hy'⟩ := List.mem_filterMap.mp hy
    refine (hlater y (List.mem_filterMap.mpr ⟨later, List.mem_cons_of_mem _ hmem, hy'⟩)).apply ?_
    exact fun x hx => hsorted.1 later hmem x hx y hy'

lemma within_run {account : Account ChargeId OrderId} {now : Int} (hw : Within account now)
    {commands : List (Command ChargeId OrderId)}
    (hnow : ∀ x ∈ commands.filterMap Command.at?, x ≤ now) : Within (account.run commands) now := by
  induction commands generalizing account with
  | nil => exact hw
  | cons command rest ih =>
    refine ih (hw.apply fun x hx => hnow x ?_) fun y hy => hnow y ?_
    · exact List.mem_filterMap.mpr ⟨command, List.mem_cons_self, hx⟩
    · obtain ⟨later, hmem, hy'⟩ := List.mem_filterMap.mp hy
      exact List.mem_filterMap.mpr ⟨later, List.mem_cons_of_mem _ hmem, hy'⟩

omit [LinearOrder ChargeId] [DecidableEq OrderId] in
lemma closing_eq_opening (account : Account ChargeId OrderId) (month : Month) :
    (account.statement month).closingVnd = (account.statement month.succ).openingVnd := by
  have hbounds := monthStartInstant_le_succ month
  have hcharged : account.chargedBefore (monthStartInstant month.succ) =
      account.chargedBefore (monthStartInstant month) + sumIf account.charges
        (fun charge => monthStartInstant month ≤ charge.chargedAt ∧
          charge.chargedAt < monthStartInstant month.succ) ChargeRow.amountVnd :=
    sumIf_add fun charge _ => by omega
  have hpaid : account.paidBefore (monthStartInstant month.succ) =
      account.paidBefore (monthStartInstant month) + sumIf account.payments
        (fun payment => monthStartInstant month ≤ payment.recordedAt ∧
          payment.recordedAt < monthStartInstant month.succ) PaymentRow.amountVnd :=
    sumIf_add fun payment _ => by omega
  simp only [Account.statement, sum_filter]
  omega

omit [LinearOrder ChargeId] [DecidableEq OrderId] in
lemma Within.closing {account : Account ChargeId OrderId} {now : Int} (hw : Within account now)
    {month : Month} (h : statementMonth now = .ok month) :
    (account.statement month).closingVnd = account.outstandingVnd := by
  have hend := lt_monthStartInstant_succ h
  have hcharged : account.chargedBefore (monthStartInstant month.succ) = account.charged :=
    sumIf_eq_sum fun charge hmem => lt_of_le_of_lt (hw.1 charge hmem) hend
  have hpaid : account.paidBefore (monthStartInstant month.succ) = account.paid :=
    sumIf_eq_sum fun payment hmem => lt_of_le_of_lt (hw.2 payment hmem) hend
  rw [closing_eq_opening]
  simp only [Account.statement, hcharged, hpaid]
  rfl

omit [DecidableEq OrderId] in
lemma addsUp_opened (creditLimitVnd : Option Int) (orders : OrderId → OrderRow) :
    AddsUp (Account.opened creditLimitVnd orders : Account ChargeId OrderId) := by
  refine ⟨⟨List.nodup_nil, List.nodup_nil, ?_, ?_⟩, rfl, fun at_ => rfl⟩
  · intro row hrow
    cases hrow
  · intro charge hcharge
    cases hcharge

omit [LinearOrder ChargeId] [DecidableEq OrderId] in
lemma within_opened (creditLimitVnd : Option Int) (orders : OrderId → OrderRow) (at_ : Int) :
    Within (Account.opened creditLimitVnd orders : Account ChargeId OrderId) at_ := by
  constructor
  · intro charge hcharge
    cases hcharge
  · intro payment hpayment
    cases hpayment

/-- The ledgers of an account add up after every run of its commands, whose instants never
go back. -/
theorem account_ledger_adds_up (creditLimitVnd : Option Int) (orders : OrderId → OrderRow)
    (commands : List (Command ChargeId OrderId))
    (hsorted : (commands.filterMap Command.at?).Pairwise (· ≤ ·)) :
    let start : Account ChargeId OrderId := Account.opened creditLimitVnd orders
    let account := start.run commands
    (account.outstandingVnd = account.charged - account.paid ∧
      account.outstandingVnd = (account.openCharges.map OpenCharge.remainingVnd).sum ∧
      0 ≤ account.outstandingVnd) ∧
    (∀ at_, max (account.chargedBefore at_ - account.paid) 0 =
      ((account.charges.filter fun charge => charge.chargedAt < at_).map account.remaining).sum) ∧
    (∀ charge ∈ account.charges,
      (account.orders charge.orderId).payments.sum =
        charge.paidBeforeVnd + account.allocated charge ∧
      (account.orders charge.orderId).payments.sum ≤ charge.owedVnd ∧
      0 ≤ account.remaining charge ∧
      (0 < account.remaining charge →
        (account.orders charge.orderId).state.balance = .onAccount) ∧
      (account.remaining charge = 0 →
        (account.orders charge.orderId).state.balance = .paid ∧
          (account.orders charge.orderId).settlement.isSome = true)) ∧
    (∀ before command after charged, commands = before ++ .charge command :: after →
      (start.run before).charge command = .ok charged →
        ∃ limit, (start.run before).creditLimitVnd = some limit ∧ charged.outstandingVnd ≤ limit) ∧
    (∀ month, (account.statement month).closingVnd = (account.statement month.succ).openingVnd) ∧
    ∀ now month, (∀ at_ ∈ commands.filterMap Command.at?, at_ ≤ now) →
      statementMonth now = .ok month →
        (account.statement month).closingVnd = account.outstandingVnd := by
  intro start account
  have hempty := fun at_ => (within_opened creditLimitVnd orders at_ : Within start at_)
  have ha : AddsUp account :=
    addsUp_run (addsUp_opened creditLimitVnd orders) hsorted fun x _ => hempty x
  refine ⟨⟨rfl, ?_, ha.outstanding_nonneg⟩, fun at_ => ?_, fun charge hmem => ?_, ?_,
    closing_eq_opening account, fun now month hnow hmonth => ?_⟩
  · rw [ha.outstanding, Account.openCharges, List.map_map]
    have hopen := ha.toBooked.sum_openRows (p := fun _ => True)
    rw [sumIf_eq_sum (by simp), sumIf_eq_sum (by simp)] at hopen
    exact hopen.symm
  · rw [sum_filter]
    exact ha.unpaid at_
  · have hs := ha.settled charge hmem
    have hbalance := hs.balance
    have hnonneg := ha.toBooked.remaining_nonneg hmem
    have hamount := hs.amount
    have hpayments := hs.payments
    have hbounded := hs.bounded
    refine ⟨hpayments, by omega, hnonneg, fun hopen => ?_, fun hclosed => ?_⟩
    · rwa [if_neg (by unfold Account.remaining at hopen; omega)] at hbalance
    · rwa [if_pos (by unfold Account.remaining at hclosed; omega)] at hbalance
  · intro before command after charged _ hcharge
    obtain ⟨row, charge, -, -, -, -, -, -, ⟨limit, hlimit, hwithin⟩, -, rfl⟩ :=
      charge_writes hcharge
    refine ⟨limit, hlimit, le_trans (le_of_eq ?_) hwithin⟩
    simp only [Account.outstandingVnd, Account.charged, Account.paid, Account.chargeRow,
      List.map_append, List.map_cons, List.map_nil, List.sum_append, List.sum_cons, List.sum_nil]
    omega
  · exact (within_run (hempty now) hnow).closing hmonth

def finished : OrderRow :=
  let row := OrderRow.created .selfDropSelfCollect ⟨some 100000, some 100000⟩ ⟨true, true, true, true⟩
    none
  { row with state := { row.state with
    commercial := .active, intake := .accepted, production := .readyAtStore } }

/-- Two orders leave on an account of 150000 đồng, which pays 120000 between them. -/
def twoOrders : List (Command Nat Nat) :=
  let noon : Int := 63927316800000000
  [.charge ⟨7, 1, true, true, noon⟩,
    .recordPayment ⟨70000, .tienMat, false, none, noon + 1⟩,
    .charge ⟨3, 2, true, true, noon + 1⟩,
    .recordPayment ⟨50000, .tienMat, false, none, noon + 2⟩]

theorem two_orders_add_up :
    let account : Account Nat Nat := (Account.opened (some 150000) fun _ => finished).run twoOrders
    account.openCharges = [⟨(3, 2), 80000⟩] ∧ account.outstandingVnd = 80000 ∧
      (account.outstandingVnd = account.charged - account.paid ∧
        account.outstandingVnd = (account.openCharges.map OpenCharge.remainingVnd).sum ∧
        0 ≤ account.outstandingVnd) :=
  ⟨by decide +kernel, by decide +kernel,
    (account_ledger_adds_up (some 150000) (fun _ => finished) twoOrders (by decide)).1⟩

end NhaTrangLaundry.Db.Accounts
