import NhaTrangLaundry.Db.CancellationMoney
import NhaTrangLaundry.Lib.Sums

/-! The customer ends at the same total in whichever order the orders are cancelled. -/

namespace NhaTrangLaundry.Db.CancellationMoney

open Lib Outcome Sorting Sums Domain Catalog CancellationMoney

structure Opening (ledger : Ledger) : Prop where
  orders : (ledger.cash.map Prod.fst).Nodup
  cash_nonneg : ∀ x ∈ ledger.cash, 0 ≤ x.2
  ids : (ledger.credits.map Credit.id).Nodup
  credit : ∀ c ∈ ledger.credits, c.issuedFrom ∈ ledger.cash.map Prod.fst ∧ c.voided = false ∧
    c.reissueOf = none ∧ ∀ y, c.spentOn = some y → y ∈ ledger.cash.map Prod.fst ∧ y ≠ c.issuedFrom
  refunded : ledger.refunded = []
  covered : ledger.covered = []

/-- What every cancellation keeps: a credit is replaced only once the order that spent
it is cancelled, and only an unspent one is voided. -/
structure Inv (ledger : Ledger) : Prop where
  ids : (ledger.credits.map Credit.id).Nodup
  links : ∀ r ∈ ledger.credits, ∀ i, r.reissueOf = some i → i ∈ ledger.credits.map Credit.id
  replaced : ∀ c ∈ ledger.credits, ledger.latest c = false →
    ∃ y ∈ ledger.covered.map Prod.fst, c.spentOn = some y
  voided : ∀ c ∈ ledger.credits, c.voided = true → c.spentOn = none
  apart : ∀ c ∈ ledger.credits, c.spentOn ≠ some c.issuedFrom

def Standing (ledger : Ledger) (c : Credit) : Prop := c.spentOn.isSome ∧ ledger.latest c

instance (ledger : Ledger) : DecidablePred (Standing ledger) :=
  fun c => inferInstanceAs (Decidable (c.spentOn.isSome ∧ ledger.latest c))

def OnBill (orders : List Uuid) (c : Credit) : Prop := ∃ y ∈ orders, c.spentOn = some y

instance (orders : List Uuid) : DecidablePred (OnBill orders) :=
  fun c => inferInstanceAs (Decidable (∃ y ∈ orders, c.spentOn = some y))

def worth (ledger : Ledger) (p : Credit → Prop) [DecidablePred p] : Int :=
  sumIf ledger.credits p Credit.amountVnd

section

variable {ledger ledger' : Ledger} {x : Cancellation}

lemma state_unspent {c : Credit} : c.state = .unspent ↔ c.voided = false ∧ c.spentOn = none := by
  cases hv : c.voided <;> cases hs : c.spentOn <;> simp [Credit.state, hv, hs]

lemma latest_iff {c : Credit} :
    ledger.latest c = true ↔ ∀ r ∈ ledger.credits, r.reissueOf ≠ some c.id := by
  simp [Ledger.latest]

lemma Inv.state_spent (h : Inv ledger) {c : Credit} (hc : c ∈ ledger.credits) :
    c.state = .spent ↔ c.spentOn.isSome := by
  have hv := h.voided c hc
  cases hcv : c.voided <;> cases hs : c.spentOn <;> simp_all [Credit.state]

lemma Inv.latest_unspent (h : Inv ledger) {c : Credit} (hc : c ∈ ledger.credits)
    (hs : c.spentOn = none) : ledger.latest c = true := by
  by_contra hl
  obtain ⟨y, -, hy⟩ := h.replaced c hc (by simpa using hl)
  rw [hs] at hy
  cases hy

lemma Inv.latest_spent (h : Inv ledger) {c : Credit} (hc : c ∈ ledger.credits) {y : Uuid}
    (hs : c.spentOn = some y) (hy : y ∉ ledger.covered.map Prod.fst) :
    ledger.latest c = true := by
  by_contra hl
  obtain ⟨y', hy', hs'⟩ := h.replaced c hc (by simpa using hl)
  rw [hs] at hs'
  cases hs'
  exact hy hy'

def voidFrom (orderId : Uuid) (c : Credit) : Credit :=
  { c with voided := c.voided || (c.issuedFrom = orderId && c.state = .unspent) }

/-- The face value of the credits issued from the order that are spent and stand. -/
def netted (ledger : Ledger) (orderId : Uuid) : Int :=
  worth ledger fun c => c.issuedFrom = orderId ∧ Standing ledger c

structure Cancelled (ledger : Ledger) (x : Cancellation) (cash : Int) (ledger' : Ledger) : Prop where
  paid : ledger.cash.lookup x.orderId = some cash
  same : ledger'.cash = ledger.cash
  credits : ledger'.credits = ledger.credits.map (voidFrom x.orderId) ++
    (ledger.spent x.orderId).map (reissue x)
  ids : (ledger'.credits.map Credit.id).Nodup
  refunded : ledger'.refunded =
    (x.orderId, cash - min cash (netted ledger x.orderId)) :: ledger.refunded
  covered : ledger'.covered = (x.orderId, decide (netted ledger x.orderId ≤ cash)) :: ledger.covered
  allowed : ∀ c ∈ ledger.credits, c.spentOn = some x.orderId →
    ledger.covered.lookup c.issuedFrom ≠ some false
  positive : ∀ c ∈ ledger.credits, c.issuedFrom = x.orderId → ledger.latest c = true →
    0 < c.amountVnd

lemma mem_spent {orderId : Uuid} {c : Credit} :
    c ∈ ledger.spent orderId ↔ c ∈ ledger.credits ∧ c.spentOn = some orderId := by
  simp [Ledger.spent, Ledger.inOrder]

lemma mem_issued {orderId : Uuid} {c : Credit} :
    c ∈ ledger.issued orderId ↔
      c ∈ ledger.credits ∧ c.issuedFrom = orderId ∧ ledger.latest c = true := by
  simp [Ledger.issued, Ledger.inOrder]

lemma face_netted (h : Inv ledger) (orderId : Uuid) :
    face (((ledger.issued orderId).map Ledger.issuedFact).filter fun c => c.state = .spent) =
      netted ledger orderId := by
  have hmap : ((ledger.issued orderId).map Ledger.issuedFact).filter (fun c => c.state = .spent) =
      ((ledger.issued orderId).filter fun c => c.state = .spent).map Ledger.issuedFact := by
    rw [List.filter_map]
    rfl
  rw [face, hmap, List.map_map]
  show (((ledger.issued orderId).filter fun c => c.state = .spent).map Credit.amountVnd).sum = _
  rw [sum_filter, Ledger.issued, Ledger.inOrder, sumIf_perm (sortBy_perm _ _)]
  have hbool : (ledger.credits.filter fun c => c.issuedFrom = orderId && ledger.latest c) =
      ledger.credits.filter fun c => c.issuedFrom = orderId ∧ ledger.latest c = true := by
    refine List.filter_congr fun c _ => ?_
    simp
  rw [hbool, sumIf_filter, netted, worth]
  refine sumIf_congr fun c hc => ?_
  rw [h.state_spent hc, Standing]
  tauto

lemma cancel_ok (hinv : Inv ledger) (h : cancel ledger x = .ok ledger') :
    ∃ cash, Cancelled ledger x cash ledger' := by
  simp only [cancel, bind_ok, require_ok] at h
  obtain ⟨cash, hcash, plan, hplan, figures, -, _, hallowed, -, hids, h⟩ := h
  obtain ⟨hpos, hvoided, hnetted, hrefundable, hnettedVnd, huncovered⟩ :=
    cancellationMoneyPlan_ok x.withoutCharge hplan hallowed
  have hpaid : ledger.cash.lookup x.orderId = some cash := by
    unfold cashOf at hcash
    split at hcash <;> simp_all
  have hvoid : ledger.credits.map (void plan) = ledger.credits.map (voidFrom x.orderId) := by
    refine List.map_congr_left fun c hc => ?_
    have hiff : c.id ∈ plan.voided.map RemedyCreditFact.creditId ↔
        c.issuedFrom = x.orderId ∧ c.state = .unspent := by
      simp only [hvoided, List.mem_map, List.mem_filter, mem_issued, decide_eq_true_eq]
      constructor
      · rintro ⟨_, ⟨⟨c', ⟨hc', hfrom, -⟩, rfl⟩, hst⟩, hid⟩
        have : c' = c := List.inj_on_of_nodup_map hinv.ids hc' hc hid
        exact ⟨this ▸ hfrom, this ▸ hst⟩
      · rintro ⟨hfrom, hst⟩
        exact ⟨_, ⟨⟨c, ⟨hc, hfrom, hinv.latest_unspent hc (state_unspent.mp hst).2⟩, rfl⟩, hst⟩, rfl⟩
    simp only [void, voidFrom, hiff]
    split_ifs with hc
    · simp [hc]
    · have : (c.issuedFrom = x.orderId && c.state = .unspent) = false := by simpa using hc
      rw [this, Bool.or_false]
  have hspent : (ledger.spent x.orderId).filter (fun c => c.state = .spent) =
      ledger.spent x.orderId := by
    refine List.filter_eq_self.mpr fun c hc => ?_
    obtain ⟨hc, hs⟩ := mem_spent.mp hc
    simp [hinv.state_spent hc, hs]
  have hface : face plan.netted = netted ledger x.orderId := by
    rw [hnetted, face_netted hinv]
  rw [hspent, hvoid] at hids h
  cases h
  refine ⟨cash, hpaid, rfl, rfl, hids, ?_, ?_, ?_, ?_⟩
  · simp only [CancellationMoneyPlan.refundVnd, hrefundable, hnettedVnd, hface]
  · simp only [hnettedVnd, hface, min_eq_right_iff]
  · intro c hc hs hl
    have := huncovered (ledger.spentFact c) (List.mem_map_of_mem (mem_spent.mpr ⟨hc, hs⟩))
      ((hinv.state_spent hc).mpr (by simp [hs]))
    simp [Ledger.spentFact, hl] at this
  · intro c hc hfrom hl
    refine hpos (Ledger.issuedFact c) (List.mem_append_left _ (List.mem_map_of_mem ?_))
    exact mem_issued.mpr ⟨hc, hfrom, hl⟩

lemma mem_cancelled {cash : Int} (h : Cancelled ledger x cash ledger') {c : Credit} :
    c ∈ ledger'.credits ↔ (∃ c' ∈ ledger.credits, voidFrom x.orderId c' = c) ∨
      ∃ c' ∈ ledger.spent x.orderId, reissue x c' = c := by
  rw [h.credits, List.mem_append, List.mem_map, List.mem_map]

lemma worth_cancelled {cash : Int} (h : Cancelled ledger x cash ledger') (p : Credit → Prop)
    [DecidablePred p] :
    worth ledger' p = worth ledger (fun c => p (voidFrom x.orderId c)) +
      worth ledger fun c => c.spentOn = some x.orderId ∧ p (reissue x c) := by
  rw [worth, h.credits, sumIf_append, sumIf_map, sumIf_map, Ledger.spent, Ledger.inOrder,
    sumIf_perm (sortBy_perm _ _), sumIf_filter]
  rfl

lemma latest_voidFrom (hinv : Inv ledger) {cash : Int} (h : Cancelled ledger x cash ledger')
    {c : Credit} (hc : c ∈ ledger.credits) :
    ledger'.latest (voidFrom x.orderId c) = true ↔
      ledger.latest c = true ∧ c.spentOn ≠ some x.orderId := by
  simp only [latest_iff, mem_cancelled h]
  constructor
  · intro hnew
    refine ⟨fun r hr => hnew (voidFrom x.orderId r) (.inl ⟨r, hr, rfl⟩), fun hs => ?_⟩
    exact hnew _ (.inr ⟨c, mem_spent.mpr ⟨hc, hs⟩, rfl⟩) rfl
  · rintro ⟨hold, hs⟩ r (⟨r, hr, rfl⟩ | ⟨r, hr, rfl⟩) heq
    · exact hold r hr heq
    · obtain ⟨hr, hrs⟩ := mem_spent.mp hr
      have : r = c := List.inj_on_of_nodup_map hinv.ids hr hc (Option.some.inj heq)
      exact hs (this ▸ hrs)

lemma ids_voidFrom (orderId : Uuid) (credits : List Credit) :
    (credits.map (voidFrom orderId)).map Credit.id = credits.map Credit.id := by
  rw [List.map_map]
  rfl

lemma latest_reissue (hinv : Inv ledger) {cash : Int} (h : Cancelled ledger x cash ledger')
    {c : Credit} (hc : c ∈ ledger.spent x.orderId) : ledger'.latest (reissue x c) = true := by
  -- the new id is not one of the old ones, and links lead to old ones only
  have hfresh : (reissue x c).id ∉ ledger.credits.map Credit.id := by
    intro hmem
    have hids := h.ids
    rw [h.credits, List.map_append, ids_voidFrom, List.nodup_append] at hids
    exact hids.2.2 _ hmem _ (List.mem_map_of_mem (List.mem_map_of_mem hc)) rfl
  rw [latest_iff]
  intro r hr heq
  rcases (mem_cancelled h).mp hr with ⟨r', hr', rfl⟩ | ⟨r', hr', rfl⟩
  · exact hfresh (hinv.links r' hr' _ heq)
  · refine hfresh ?_
    rw [← Option.some.inj heq]
    exact List.mem_map_of_mem (mem_spent.mp hr').1

lemma voidFrom_unspent (orderId : Uuid) (c : Credit) :
    (voidFrom orderId c).state = .unspent ↔ c.state = .unspent ∧ c.issuedFrom ≠ orderId := by
  simp only [state_unspent, voidFrom, Bool.or_eq_false_iff, Bool.and_eq_false_iff,
    decide_eq_false_iff_not]
  tauto

lemma inv_cancelled (hinv : Inv ledger) {cash : Int} (h : Cancelled ledger x cash ledger') :
    Inv ledger' := by
  constructor
  · exact h.ids
  · intro r hr i hi
    rw [h.credits, List.map_append, ids_voidFrom]
    refine List.mem_append_left _ ?_
    rcases (mem_cancelled h).mp hr with ⟨r', hr', rfl⟩ | ⟨r', hr', rfl⟩
    · exact hinv.links r' hr' i hi
    · cases hi
      exact List.mem_map_of_mem (mem_spent.mp hr').1
  · intro c hc hl
    rw [h.covered, List.map_cons]
    rcases (mem_cancelled h).mp hc with ⟨c', hc', rfl⟩ | ⟨c', hc', rfl⟩
    · by_cases hs : c'.spentOn = some x.orderId
      · exact ⟨x.orderId, List.mem_cons_self, hs⟩
      · have hold : ledger.latest c' = false := by
          by_contra hne
          have := (latest_voidFrom hinv h hc').mpr ⟨by simpa using hne, hs⟩
          rw [this] at hl
          cases hl
        obtain ⟨y, hy, hspent⟩ := hinv.replaced c' hc' hold
        exact ⟨y, List.mem_cons_of_mem _ hy, hspent⟩
    · rw [latest_reissue hinv h hc'] at hl
      cases hl
  · intro c hc hv
    rcases (mem_cancelled h).mp hc with ⟨c', hc', rfl⟩ | ⟨c', hc', rfl⟩
    · simp only [voidFrom, Bool.or_eq_true, Bool.and_eq_true, decide_eq_true_eq] at hv
      rcases hv with hv | ⟨-, hst⟩
      · exact hinv.voided c' hc' hv
      · exact (state_unspent.mp hst).2
    · cases hv
  · intro c hc
    rcases (mem_cancelled h).mp hc with ⟨c', hc', rfl⟩ | ⟨c', hc', rfl⟩
    · exact hinv.apart c' hc'
    · exact nofun

lemma inv_opening (h : Opening ledger) : Inv ledger := by
  constructor
  · exact h.ids
  · intro r hr i hi
    rw [(h.credit r hr).2.2.1] at hi
    cases hi
  · intro c hc hl
    have : ledger.latest c = true :=
      latest_iff.mpr fun r hr => by simp [(h.credit r hr).2.2.1]
    rw [this] at hl
    cases hl
  · intro c hc hv
    rw [(h.credit c hc).2.1] at hv
    cases hv
  · exact fun c hc hs => ((h.credit c hc).2.2.2 _ hs).2 rfl

/-- What the refund of an order takes off in the end, when all of `orders` go: the
credits from it that stay spent on another order. -/
def kept (ledger : Ledger) (orders : List Uuid) (orderId : Uuid) : Int :=
  worth ledger fun c => c.issuedFrom = orderId ∧ Standing ledger c ∧ ¬ OnBill orders c

/-- The total the customer ends at once the orders are cancelled, whichever goes
first: of each the cash goes back less what it keeps, the unspent credits from it
are void, and a credit it spent comes back unless its own order goes too. -/
def settled (ledger : Ledger) (orders : List Uuid) : Int :=
  total ledger - sumIf ledger.cash (fun o => o.1 ∈ orders) (fun o => o.2 - min o.2 (kept ledger orders o.1))
    + worth ledger (fun c => c.state = .unspent ∧ c.issuedFrom ∈ orders)
    - worth ledger fun c => c.issuedFrom ∉ orders ∧ OnBill orders c

lemma total_eq : total ledger = (ledger.cash.map Prod.snd).sum - (ledger.refunded.map Prod.snd).sum -
    worth ledger fun c => c.state = .unspent := by
  rw [total, sum_filter]
  rfl

lemma settled_cancelled (hinv : Inv ledger) {cash : Int} (h : Cancelled ledger x cash ledger')
    (horders : (ledger.cash.map Prod.fst).Nodup) {rest : List Uuid} (hx : x.orderId ∉ rest)
    (hopen : ∀ y ∈ x.orderId :: rest, y ∉ ledger.covered.map Prod.fst)
    (hcap : netted ledger x.orderId ≤ cash ∨
      ∀ c ∈ ledger.credits, c.issuedFrom = x.orderId → ¬ OnBill rest c) :
    settled ledger' rest = settled ledger (x.orderId :: rest) := by
  have hbill : ∀ c, OnBill (x.orderId :: rest) c ↔ c.spentOn = some x.orderId ∨ OnBill rest c := by
    simp [OnBill]
  have honce : ∀ c, ¬ (c.spentOn = some x.orderId ∧ OnBill rest c) := by
    rintro c ⟨hs, y, hy, hs'⟩
    rw [hs] at hs'
    cases hs'
    exact hx hy
  have hunspent : ∀ c : Credit, c.state = .unspent → c.spentOn = none :=
    fun c hc => (state_unspent.mp hc).2
  have hstands : ∀ c ∈ ledger.credits, OnBill rest c → Standing ledger c := by
    rintro c hc ⟨y, hy, hs⟩
    exact ⟨by simp [hs], hinv.latest_spent hc hs (hopen y (List.mem_cons_of_mem _ hy))⟩
  -- the unspent credits of the new ledger
  have hlive : worth ledger' (fun c => c.state = .unspent) =
      worth ledger (fun c => c.state = .unspent ∧ c.issuedFrom ≠ x.orderId) +
        worth ledger fun c => c.spentOn = some x.orderId := by
    rw [worth_cancelled h]
    refine congrArg₂ _ (sumIf_congr fun c _ => voidFrom_unspent _ _) (sumIf_congr fun c _ => ?_)
    simp [state_unspent, reissue]
  have hlive_rest : worth ledger' (fun c => c.state = .unspent ∧ c.issuedFrom ∈ rest) =
      worth ledger (fun c => c.state = .unspent ∧ c.issuedFrom ∈ rest) +
        worth ledger fun c => c.spentOn = some x.orderId ∧ c.issuedFrom ∈ rest := by
    rw [worth_cancelled h]
    refine congrArg₂ _ (sumIf_congr fun c _ => ?_) (sumIf_congr fun c _ => ?_)
    · rw [voidFrom_unspent]
      show (_ ∧ _) ∧ c.issuedFrom ∈ rest ↔ _
      exact ⟨fun hc => ⟨hc.1.1, hc.2⟩, fun hc => ⟨⟨hc.1, fun heq => hx (heq ▸ hc.2)⟩, hc.2⟩⟩
    · simp [state_unspent, reissue]
  have hbills : worth ledger' (fun c => c.issuedFrom ∉ rest ∧ OnBill rest c) =
      worth ledger fun c => c.issuedFrom ∉ rest ∧ OnBill rest c := by
    rw [worth_cancelled h]
    have hnone : worth ledger (fun c => c.spentOn = some x.orderId ∧
        (reissue x c).issuedFrom ∉ rest ∧ OnBill rest (reissue x c)) = 0 :=
      sumIf_eq_zero fun c _ hc => by simp [OnBill, reissue] at hc
    rw [hnone, Int.add_zero]
    rfl
  have hkept : ∀ o, o ≠ x.orderId → kept ledger' rest o = kept ledger (x.orderId :: rest) o := by
    intro o ho
    rw [kept, worth_cancelled h]
    have hnone : worth ledger (fun c => c.spentOn = some x.orderId ∧
        (reissue x c).issuedFrom = o ∧ Standing ledger' (reissue x c) ∧
        ¬ OnBill rest (reissue x c)) = 0 :=
      sumIf_eq_zero fun c _ hc => by simp [Standing, reissue] at hc
    rw [hnone, Int.add_zero]
    refine sumIf_congr fun c hc => ?_
    simp only [Standing, latest_voidFrom hinv h hc, hbill]
    show c.issuedFrom = o ∧ (c.spentOn.isSome ∧ _) ∧ ¬ OnBill rest c ↔ _
    tauto
  -- how the sums over the old ledger split
  have hsplit₁ : worth ledger (fun c => c.state = .unspent) =
      worth ledger (fun c => c.state = .unspent ∧ c.issuedFrom ≠ x.orderId) +
        worth ledger fun c => c.state = .unspent ∧ c.issuedFrom = x.orderId :=
    sumIf_add fun c _ => by tauto
  have hsplit₂ : worth ledger (fun c => c.state = .unspent ∧ c.issuedFrom ∈ x.orderId :: rest) =
      worth ledger (fun c => c.state = .unspent ∧ c.issuedFrom = x.orderId) +
        worth ledger fun c => c.state = .unspent ∧ c.issuedFrom ∈ rest := by
    refine sumIf_add fun c _ => ?_
    rw [List.mem_cons]
    refine ⟨by tauto, fun hc => hx (hc.1.2 ▸ hc.2.2)⟩
  have hsplit₃ : worth ledger (fun c => c.spentOn = some x.orderId) =
      worth ledger (fun c => c.spentOn = some x.orderId ∧ c.issuedFrom ∈ rest) +
        worth ledger fun c => c.spentOn = some x.orderId ∧ c.issuedFrom ∉ rest :=
    sumIf_add fun c _ => by tauto
  have hsplit₄ : worth ledger (fun c => c.issuedFrom ∉ x.orderId :: rest ∧
        OnBill (x.orderId :: rest) c) =
      worth ledger (fun c => c.spentOn = some x.orderId ∧ c.issuedFrom ∉ rest) +
        worth ledger fun c => c.issuedFrom ∉ x.orderId :: rest ∧ OnBill rest c := by
    refine sumIf_add fun c hc => ?_
    have hapart : c.spentOn = some x.orderId → c.issuedFrom ≠ x.orderId :=
      fun hs heq => hinv.apart c hc (heq ▸ hs)
    have := honce c
    simp only [hbill, List.mem_cons, not_or]
    tauto
  have hsplit₅ : worth ledger (fun c => c.issuedFrom ∉ rest ∧ OnBill rest c) =
      worth ledger (fun c => c.issuedFrom ∉ x.orderId :: rest ∧ OnBill rest c) +
        worth ledger fun c => c.issuedFrom = x.orderId ∧ OnBill rest c := by
    refine sumIf_add fun c _ => ?_
    have : c.issuedFrom = x.orderId → c.issuedFrom ∉ rest := fun heq => heq ▸ hx
    simp only [List.mem_cons, not_or]
    tauto
  have hsplit₆ : netted ledger x.orderId = kept ledger (x.orderId :: rest) x.orderId +
      worth ledger fun c => c.issuedFrom = x.orderId ∧ OnBill rest c := by
    refine sumIf_add fun c hc => ?_
    have hapart : c.issuedFrom = x.orderId → c.spentOn ≠ some x.orderId :=
      fun heq hs => hinv.apart c hc (heq ▸ hs)
    have := hstands c hc
    simp only [hbill]
    tauto
  have hcash : sumIf ledger.cash (fun o => o.1 ∈ x.orderId :: rest)
        (fun o => o.2 - min o.2 (kept ledger (x.orderId :: rest) o.1)) =
      (cash - min cash (kept ledger (x.orderId :: rest) x.orderId)) +
        sumIf ledger.cash (fun o => o.1 ∈ rest) (fun o => o.2 - min o.2 (kept ledger' rest o.1)) := by
    rw [← sumIf_key horders h.paid fun o => o.2 - min o.2 (kept ledger (x.orderId :: rest) o.1)]
    have hrest : sumIf ledger.cash (fun o => o.1 ∈ rest)
        (fun o => o.2 - min o.2 (kept ledger' rest o.1)) = sumIf ledger.cash (fun o => o.1 ∈ rest)
        (fun o => o.2 - min o.2 (kept ledger (x.orderId :: rest) o.1)) :=
      sumIf_congr_fun fun o _ ho => by rw [hkept o.1 fun heq => hx (heq ▸ ho)]
    rw [hrest]
    refine sumIf_add fun o _ => ⟨List.mem_cons, fun ho => hx (ho.1 ▸ ho.2)⟩
  have hnonneg : 0 ≤ worth ledger fun c => c.issuedFrom = x.orderId ∧ OnBill rest c := by
    refine sumIf_nonneg fun c hc hp => le_of_lt ?_
    exact h.positive c hc hp.1 (hstands c hc hp.2).2
  have hmin : min cash (netted ledger x.orderId) -
      min cash (kept ledger (x.orderId :: rest) x.orderId) =
      worth ledger fun c => c.issuedFrom = x.orderId ∧ OnBill rest c := by
    rcases hcap with hcap | hnone
    · rw [min_eq_right hcap, min_eq_right (by omega)]
      omega
    · have hzero : worth ledger (fun c => c.issuedFrom = x.orderId ∧ OnBill rest c) = 0 :=
        sumIf_eq_zero fun c hc hp => hnone c hc hp.1 hp.2
      rw [hsplit₆, hzero]
      omega
  rw [settled, settled, total_eq, total_eq, h.same, h.refunded, List.map_cons, List.sum_cons, hlive,
    hlive_rest, hbills, hcash]
  omega

lemma uncovered_refused {xs : List Cancellation} (hinv : Inv ledger) {c : Credit}
    (hc : c ∈ ledger.credits) (hbill : OnBill (xs.map Cancellation.orderId) c)
    (hunder : ledger.covered.lookup c.issuedFrom = some false)
    (hgone : c.issuedFrom ∉ xs.map Cancellation.orderId) (h : run ledger xs = .ok ledger') :
    False := by
  induction xs generalizing ledger c with
  | nil => simp [OnBill] at hbill
  | cons x xs ih =>
    rw [run, bind_ok] at h
    obtain ⟨next, hx, h⟩ := h
    obtain ⟨cash, hstep⟩ := cancel_ok hinv hx
    rw [List.map_cons, List.mem_cons, not_or] at hgone
    obtain ⟨y, hy, hs⟩ := hbill
    rcases List.mem_cons.mp hy with rfl | hy
    · exact hstep.allowed c hc hs hunder
    · refine ih (inv_cancelled hinv hstep) ((mem_cancelled hstep).mpr (.inl ⟨c, hc, rfl⟩))
        ⟨y, hy, hs⟩ ?_ hgone.2 h
      have hne : (c.issuedFrom == x.orderId) = false := by simpa using hgone.1
      show next.covered.lookup c.issuedFrom = some false
      rw [hstep.covered, List.lookup_cons, hne]
      exact hunder

lemma settled_nil : settled ledger [] = total ledger := by
  have hcash : sumIf ledger.cash (fun o => o.1 ∈ ([] : List Uuid))
      (fun o => o.2 - min o.2 (kept ledger [] o.1)) = 0 := sumIf_eq_zero fun o _ => List.not_mem_nil
  have hlive : worth ledger (fun c => c.state = .unspent ∧ c.issuedFrom ∈ ([] : List Uuid)) = 0 :=
    sumIf_eq_zero fun c _ hc => List.not_mem_nil hc.2
  have hbills : worth ledger (fun c => c.issuedFrom ∉ ([] : List Uuid) ∧ OnBill [] c) = 0 :=
    sumIf_eq_zero fun c _ hc => by simp [OnBill] at hc
  rw [settled, hcash, hlive, hbills]
  omega

lemma total_run {xs : List Cancellation} (hinv : Inv ledger)
    (horders : (ledger.cash.map Prod.fst).Nodup) (hnodup : (xs.map Cancellation.orderId).Nodup)
    (hopen : ∀ y ∈ xs.map Cancellation.orderId, y ∉ ledger.covered.map Prod.fst)
    (h : run ledger xs = .ok ledger') :
    total ledger' = settled ledger (xs.map Cancellation.orderId) := by
  induction xs generalizing ledger with
  | nil =>
    cases h
    exact settled_nil.symm
  | cons x xs ih =>
    rw [run, bind_ok] at h
    obtain ⟨next, hx, h⟩ := h
    obtain ⟨cash, hstep⟩ := cancel_ok hinv hx
    rw [List.map_cons, List.nodup_cons] at hnodup
    have hinv' := inv_cancelled hinv hstep
    rw [ih hinv' (hstep.same ▸ horders) hnodup.2 ?_ h]
    · refine settled_cancelled hinv hstep horders hnodup.1 hopen ?_
      -- what was capped cannot come back later in this run
      by_cases hcap : netted ledger x.orderId ≤ cash
      · exact .inl hcap
      · refine .inr fun c hc hfrom hbill => ?_
        refine uncovered_refused hinv' ((mem_cancelled hstep).mpr (.inl ⟨c, hc, rfl⟩)) hbill ?_ ?_ h
        · show next.covered.lookup c.issuedFrom = some false
          rw [hstep.covered, hfrom, List.lookup_cons]
          simp [hcap]
        · show c.issuedFrom ∉ _
          exact hfrom ▸ hnodup.1
    · intro y hy
      rw [hstep.covered, List.map_cons, List.mem_cons, not_or]
      exact ⟨fun (heq : y = x.orderId) => hnodup.1 (heq ▸ hy), hopen y (List.mem_cons_of_mem _ hy)⟩

lemma settled_congr {xs ys : List Uuid} (h : ∀ o, o ∈ xs ↔ o ∈ ys) :
    settled ledger xs = settled ledger ys := by
  have hbill : OnBill xs = OnBill ys := by
    funext c
    simp only [OnBill, h]
  have hkept : kept ledger xs = kept ledger ys := by
    funext o
    exact sumIf_congr fun c _ => by rw [hbill]
  rw [settled, settled, hkept]
  refine congrArg₂ _ (congrArg₂ _ (congrArg _ ?_) ?_) ?_
  · exact sumIf_congr fun o _ => h o.1
  · exact sumIf_congr fun c _ => by rw [h]
  · exact sumIf_congr fun c _ => by rw [h, hbill]

lemma settled_all (hledger : Opening ledger) {orders : List Uuid}
    (hall : ∀ o ∈ ledger.cash.map Prod.fst, o ∈ orders) : settled ledger orders = 0 := by
  have hmem : ∀ o ∈ ledger.cash, o.1 ∈ orders := fun o ho => hall o.1 (List.mem_map_of_mem ho)
  have hkept : ∀ o, kept ledger orders o = 0 := by
    intro o
    refine sumIf_eq_zero fun c hc hp => hp.2.2 ?_
    obtain ⟨y, hy⟩ := Option.isSome_iff_exists.mp hp.2.1.1
    exact ⟨y, hall y ((hledger.credit c hc).2.2.2 y hy).1, hy⟩
  have hcash : sumIf ledger.cash (fun o => o.1 ∈ orders)
      (fun o => o.2 - min o.2 (kept ledger orders o.1)) = (ledger.cash.map Prod.snd).sum := by
    refine congrArg List.sum (List.map_congr_left fun o ho => ?_)
    simp only [hmem o ho, if_true, hkept, min_eq_right (hledger.cash_nonneg o ho), Int.sub_zero]
  have hlive : worth ledger (fun c => c.state = .unspent ∧ c.issuedFrom ∈ orders) =
      worth ledger fun c => c.state = .unspent :=
    sumIf_congr fun c hc => and_iff_left (hall _ (hledger.credit c hc).1)
  have hbills : worth ledger (fun c => c.issuedFrom ∉ orders ∧ OnBill orders c) = 0 :=
    sumIf_eq_zero fun c hc hp => hp.1 (hall _ (hledger.credit c hc).1)
  rw [settled, total_eq, hcash, hlive, hbills, hledger.refunded]
  simp

end

/-- Two sequences that cancel the same orders with no refusal end at the same total,
which is nothing when they cancel every order of the ledger. -/
theorem cancellation_total {ledger : Ledger} (hledger : Opening ledger) {xs ys : List Cancellation}
    (hxs : (xs.map Cancellation.orderId).Nodup) (hys : (ys.map Cancellation.orderId).Nodup)
    (hsame : ∀ o, o ∈ xs.map Cancellation.orderId ↔ o ∈ ys.map Cancellation.orderId)
    {afterXs afterYs : Ledger} (hx : run ledger xs = .ok afterXs) (hy : run ledger ys = .ok afterYs) :
    total afterXs = total afterYs ∧
      ((∀ o ∈ ledger.cash.map Prod.fst, o ∈ xs.map Cancellation.orderId) → total afterXs = 0) := by
  have hinv := inv_opening hledger
  have hopen : ∀ (zs : List Cancellation), ∀ y ∈ zs.map Cancellation.orderId,
      y ∉ ledger.covered.map Prod.fst := fun zs y _ => by simp [hledger.covered]
  have htotal := total_run hinv hledger.orders hxs (hopen xs) hx
  constructor
  · rw [htotal, total_run hinv hledger.orders hys (hopen ys) hy, settled_congr hsame]
  · intro hall
    rw [htotal, settled_all hledger hall]

def exampleLedger : Ledger where
  cash := [(⟨1⟩, 110000), (⟨2⟩, 20000)]
  credits := [⟨⟨11⟩, .damageCompensation, 80000, ⟨1⟩, 0, some ⟨2⟩, false, none⟩]
  refunded := []
  covered := []

def cancelOf (orderId : Uuid) : Cancellation :=
  ⟨orderId, some .shopFaultNoCharge, 1, fun i => ⟨i.int + 100⟩, by decide⟩

/-- A chain of two orders ends at nothing either way. -/
theorem cancellation_total_chain :
    ∃ afterXs afterYs, run exampleLedger [cancelOf ⟨1⟩, cancelOf ⟨2⟩] = .ok afterXs ∧
      run exampleLedger [cancelOf ⟨2⟩, cancelOf ⟨1⟩] = .ok afterYs ∧
      total afterXs = total afterYs ∧ total afterXs = 0 := by
  have hledger : Opening exampleLedger :=
    ⟨by decide, by decide, by decide, by decide, rfl, rfl⟩
  obtain ⟨afterXs, hx⟩ := exists_ok
    (by decide : (run exampleLedger [cancelOf ⟨1⟩, cancelOf ⟨2⟩]).isOk = true)
  obtain ⟨afterYs, hy⟩ := exists_ok
    (by decide : (run exampleLedger [cancelOf ⟨2⟩, cancelOf ⟨1⟩]).isOk = true)
  obtain ⟨hsame, hzero⟩ := cancellation_total hledger (by decide) (by decide)
    (fun o => by simp [cancelOf, or_comm]) hx hy
  exact ⟨afterXs, afterYs, hx, hy, hsame, hzero (by decide)⟩

end NhaTrangLaundry.Db.CancellationMoney
