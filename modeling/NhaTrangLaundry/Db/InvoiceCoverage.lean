import NhaTrangLaundry.Db.InvoiceRequests

/-! Each order is on at most one live request, whatever the order of the statements: what the lock
of the store keeps for its holder, and what a statement of one call leaves to the others. -/

namespace NhaTrangLaundry.Db.InvoiceRequests

open Lib Outcome Table Interleaved
open Domain.Accounts (Month)

variable {t t' : Tables}

/-- A live request covers its order; an open month the orders charged in it that have no request of
their own; an issued month those on its invoice. -/
def Covers (t : Tables) (r : InvoiceRequest) (orderId : Uuid) : Prop :=
  match r.subject, r.status with
  | _, .cancelled => False
  | .order id, _ => id = orderId
  | .accountMonth account month, .requested =>
    (∃ c ∈ t.charges, c.orderId = orderId ∧ c.accountId = account ∧ c.month = month) ∧
      ownRequest t orderId = false
  | .accountMonth _ _, .issued _ _ => lists r orderId = true

/-- A plan is made of the subject's own orders, each at what it was charged for, and adds up. -/
structure PlanOk (t : Tables) (subject : Subject) (plan : Snapshot) : Prop where
  own : ∀ id, subject = .order id → ∀ line ∈ plan.lines, line.orderId = id
  charged : ∀ account month, subject = .accountMonth account month → ∀ line ∈ plan.lines,
    ∃ c ∈ t.charges, c.orderId = line.orderId ∧ c.accountId = account ∧ c.month = month ∧
      line.amountVnd = some c.owedVnd
  total : plan.totalVnd = some (sumAmounts plan.lines)
  lines : plan.lines ≠ []

def Apart (t : Tables) (subject : Subject) (plan : Snapshot) : Prop :=
  ∀ account month, subject = .accountMonth account month → ∀ line ∈ plan.lines,
    ownRequest t line.orderId = false

def Unlisted (t : Tables) (orderId : Uuid) : Prop :=
  ∀ r ∈ t.requests, ∀ plan, r.snapshot = some plan → ∀ account month,
    r.subject = .accountMonth account month → ∀ line ∈ plan.lines, line.orderId ≠ orderId

structure Inv (t : Tables) : Prop where
  ids : (t.requests.map InvoiceRequest.id).Nodup
  numbers : (t.requests.map InvoiceRequest.requestNumber).Nodup
  once : ∀ r ∈ t.requests, ∀ r' ∈ t.requests, r.live = true → r'.live = true →
    r.subject = r'.subject → r = r'
  chargedOnce : ∀ c ∈ t.charges, ∀ c' ∈ t.charges, c.orderId = c'.orderId → c = c'
  fixed : ∀ r ∈ t.requests, r.isIssued = r.snapshot.isSome
  plans : ∀ r ∈ t.requests, ∀ plan, r.snapshot = some plan →
    PlanOk t r.subject plan ∧ Apart t r.subject plan

/-- What a call that holds the store's lock has found, and what the lock keeps so. -/
def Own (t : Tables) : Call → Prop
  | .uncovered command | .numbered command _ =>
    ∀ id, command.subject = .order id → Unlisted t id
  | .planned command _ plan =>
    ∀ row, found t command.requestId = some row →
      PlanOk t row.subject plan ∧ Apart t row.subject plan
  | _ => True

/-- Two calls do not hold the store's lock at once. -/
def OneHolder (c d : Call) : Prop := c.holdsStore = true → d.holdsStore = false

/-- No request is lost, a closed one stays as it is, and no charge is lost. -/
structure Keeps (t t' : Tables) : Prop where
  closed : ∀ r ∈ t.requests, r.status ≠ .requested → r ∈ t'.requests
  request : ∀ r ∈ t.requests, ∃ r' ∈ t'.requests,
    r'.id = r.id ∧ r'.requestNumber = r.requestNumber ∧ r'.subject = r.subject
  charge : ∀ c ∈ t.charges, c ∈ t'.charges

lemma OneHolder.symm {c d : Call} (h : OneHolder c d) : OneHolder d c := by
  intro hd
  by_contra hc
  rw [h (by simpa using hc)] at hd
  cases hd

lemma Keeps.refl (t : Tables) : Keeps t t :=
  ⟨fun _ hr _ => hr, fun r hr => ⟨r, hr, rfl, rfl, rfl⟩, fun _ hc => hc⟩

lemma Keeps.trans {t'' : Tables} (h : Keeps t t') (h' : Keeps t' t'') : Keeps t t'' := by
  refine ⟨fun r hr hs => h'.closed r (h.closed r hr hs) hs, fun r hr => ?_,
    fun c hc => h'.charge c (h.charge c hc)⟩
  obtain ⟨r', hr', hid, hnumber, hsubject⟩ := h.request r hr
  obtain ⟨r'', hr'', hid', hnumber', hsubject'⟩ := h'.request r' hr'
  exact ⟨r'', hr'', hid'.trans hid, hnumber'.trans hnumber, hsubject'.trans hsubject⟩

lemma ownRequest_iff {id : Uuid} :
    ownRequest t id = true ↔ ∃ r ∈ t.requests, r.subject = .order id ∧ r.live = true := by
  simp [ownRequest]

lemma ownRequest_false {id : Uuid} :
    ownRequest t id = false ↔ ∀ r ∈ t.requests, r.live = true → r.subject ≠ .order id := by
  rw [← Bool.not_eq_true, ownRequest_iff]
  constructor
  · intro h r hr hlive hsubject
    exact h ⟨r, hr, hsubject, hlive⟩
  · rintro h ⟨r, hr, hsubject, hlive⟩
    exact h r hr hlive hsubject

lemma lists_iff {r : InvoiceRequest} {id : Uuid} :
    lists r id = true ↔
      ∃ plan, r.snapshot = some plan ∧ ∃ line ∈ plan.lines, line.orderId = id := by
  rw [lists]
  cases r.snapshot <;> simp

lemma found_mem {id : Uuid} {row : InvoiceRequest} (h : found t id = some row) :
    row ∈ t.requests ∧ row.id = id :=
  ⟨lookup_mem h, lookup_key h⟩

lemma PlanOk.mono {subject : Subject} {plan : Snapshot} (h : PlanOk t subject plan)
    (hcharges : ∀ c ∈ t.charges, c ∈ t'.charges) : PlanOk t' subject plan := by
  refine ⟨h.own, fun account month hsubject line hline => ?_, h.total, h.lines⟩
  obtain ⟨c, hc, hcharge⟩ := h.charged account month hsubject line hline
  exact ⟨c, hcharges c hc, hcharge⟩

lemma Apart.mono {subject : Subject} {plan : Snapshot} (h : Apart t subject plan)
    (hown : ∀ id, ownRequest t id = false → ownRequest t' id = false) : Apart t' subject plan :=
  fun account month hsubject line hline => hown _ (h account month hsubject line hline)

lemma insertRequest_ok {command : CreateCommand} {number : Nat}
    (h : insertRequest t command number = .ok t') :
    (∀ r ∈ t.requests, r.id ≠ command.requestId ∧ r.requestNumber ≠ number) ∧
      (∀ r ∈ t.requests, r.live = true → r.subject ≠ command.subject) ∧
      t' = { t with requests := t.requests ++
              [⟨command.requestId, number, command.subject, .requested, 1, none⟩] } := by
  simp only [insertRequest, bind_ok, require_ok, Except.ok.injEq] at h
  obtain ⟨_, hfresh, _, hunique, rfl⟩ := h
  exact ⟨hfresh, hunique, rfl⟩

lemma ownRequest_inserted {command : CreateCommand} {number : Nat} {id : Uuid}
    (h : insertRequest t command number = .ok t') (hne : command.subject ≠ .order id)
    (hown : ownRequest t id = false) : ownRequest t' id = false := by
  obtain ⟨-, -, rfl⟩ := insertRequest_ok h
  rw [ownRequest_false] at hown ⊢
  intro r hr hlive
  rcases List.mem_append.mp hr with hr | hr
  · exact hown r hr hlive
  · rw [List.mem_singleton] at hr
    subst hr
    exact hne

lemma Inv.inserted {command : CreateCommand} {number : Nat} (h : Inv t)
    (hinsert : insertRequest t command number = .ok t')
    (hunlisted : ∀ id, command.subject = .order id → Unlisted t id) : Inv t' := by
  have hown : ∀ id, command.subject ≠ .order id → ownRequest t id = false →
      ownRequest t' id = false := fun _ => ownRequest_inserted hinsert
  obtain ⟨hfresh, hunique, rfl⟩ := insertRequest_ok hinsert
  have hid : command.requestId ∉ t.requests.map InvoiceRequest.id := by
    intro hmem
    obtain ⟨r, hr, hsame⟩ := List.mem_map.mp hmem
    exact (hfresh r hr).1 hsame
  have hnumber : number ∉ t.requests.map InvoiceRequest.requestNumber := by
    intro hmem
    obtain ⟨r, hr, hsame⟩ := List.mem_map.mp hmem
    exact (hfresh r hr).2 hsame
  refine ⟨nodup_map_snoc h.ids (lookup_none.mpr hid),
    nodup_map_snoc h.numbers (lookup_none.mpr hnumber), ?_, h.chargedOnce, ?_, ?_⟩
  · intro r hr r' hr' hlive hlive' hsubject
    rcases List.mem_append.mp hr with hr | hr <;> rcases List.mem_append.mp hr' with hr' | hr'
    · exact h.once r hr r' hr' hlive hlive' hsubject
    · rw [List.mem_singleton] at hr'
      subst hr'
      exact absurd hsubject (hunique r hr hlive)
    · rw [List.mem_singleton] at hr
      subst hr
      exact absurd hsubject.symm (hunique r' hr' hlive')
    · rw [List.mem_singleton] at hr hr'
      rw [hr, hr']
  · intro r hr
    rcases List.mem_append.mp hr with hr | hr
    · exact h.fixed r hr
    · rw [List.mem_singleton] at hr
      subst hr
      rfl
  · intro r hr plan hplan
    rcases List.mem_append.mp hr with hr | hr
    · obtain ⟨hok, hapart⟩ := h.plans r hr plan hplan
      refine ⟨hok.mono fun _ hc => hc, fun account month hsubject line hline => ?_⟩
      refine hown line.orderId (fun hnew => ?_) (hapart account month hsubject line hline)
      exact hunlisted _ hnew r hr plan hplan account month hsubject line hline rfl
    · rw [List.mem_singleton] at hr
      subst hr
      cases hplan

lemma closeRequest_ok {id : Uuid} {version : Nat} {status : InvoiceRequestStatus}
    {snapshot : Option Snapshot} (h : closeRequest t id version status snapshot = .ok t') :
    ∃ row, found t id = some row ∧ row.status = .requested ∧
      t' = t.close row status snapshot := by
  rw [closeRequest] at h
  split at h
  · cases h
  · rename_i row hrow
    simp only [bind_ok, require_ok, Except.ok.injEq] at h
    obtain ⟨_, -, _, hopen, rfl⟩ := h
    exact ⟨row, hrow, hopen, rfl⟩

section Closed

variable {row : InvoiceRequest} {status : InvoiceRequestStatus} {snapshot : Option Snapshot}

lemma mem_closed (hrow : row ∈ t.requests) (r : InvoiceRequest) :
    r ∈ (t.close row status snapshot).requests ↔
      r = row.closed status snapshot ∨ (r ∈ t.requests ∧ r.id ≠ row.id) := by
  have hkey : (row.closed status snapshot).id = row.id := rfl
  exact mem_put hrow hkey r

lemma live_of_requested (h : row.status = .requested) : row.live = true := by
  rw [InvoiceRequest.live, h]
  rfl

lemma ownRequest_closed (hrow : row ∈ t.requests) (hopen : row.status = .requested) {id : Uuid}
    (hown : ownRequest t id = false) :
    ownRequest (t.close row status snapshot) id = false := by
  rw [ownRequest_false] at hown ⊢
  intro r hr hlive
  rcases (mem_closed hrow r).mp hr with rfl | ⟨hr, -⟩
  · exact hown row hrow (live_of_requested hopen)
  · exact hown r hr hlive

lemma map_closed {β : Type} (hids : (t.requests.map InvoiceRequest.id).Nodup)
    (hrow : row ∈ t.requests) (f : InvoiceRequest → β)
    (hf : f (row.closed status snapshot) = f row) :
    (t.close row status snapshot).requests.map f = t.requests.map f := by
  rw [Tables.close, Table.put, List.map_map]
  refine List.map_congr_left fun r hr => ?_
  rw [Function.comp_apply]
  split
  · rename_i hid
    have hsame : found t row.id = some r := by
      have hfound := lookup_of_mem hids hr
      rwa [show r.id = row.id from hid] at hfound
    have hself : found t row.id = some row := lookup_of_mem hids hrow
    rw [hsame] at hself
    cases hself
    exact hf
  · rfl

lemma Inv.closed (h : Inv t) (hrow : row ∈ t.requests) (hopen : row.status = .requested)
    (hfixed : (row.closed status snapshot).isIssued = snapshot.isSome)
    (hplans : ∀ plan, snapshot = some plan →
      PlanOk t row.subject plan ∧ Apart t row.subject plan) :
    Inv (t.close row status snapshot) := by
  have hlive := live_of_requested hopen
  have hkeeps : ∀ {subject plan}, PlanOk t subject plan ∧ Apart t subject plan →
      PlanOk (t.close row status snapshot) subject plan ∧
        Apart (t.close row status snapshot) subject plan :=
    fun hok => ⟨hok.1.mono fun _ hc => hc, hok.2.mono fun _ => ownRequest_closed hrow hopen⟩
  refine ⟨?_, ?_, ?_, h.chargedOnce, ?_, ?_⟩
  · rw [map_closed h.ids hrow InvoiceRequest.id rfl]
    exact h.ids
  · rw [map_closed h.ids hrow InvoiceRequest.requestNumber rfl]
    exact h.numbers
  · intro r hr r' hr' hr_live hr_live' hsubject
    rcases (mem_closed hrow r).mp hr with rfl | ⟨hr, hne⟩ <;>
      rcases (mem_closed hrow r').mp hr' with rfl | ⟨hr', hne'⟩
    · rfl
    · have hsame := h.once row hrow r' hr' hlive hr_live' hsubject
      exact absurd (congrArg InvoiceRequest.id hsame).symm hne'
    · have hsame := h.once r hr row hrow hr_live hlive hsubject
      exact absurd (congrArg InvoiceRequest.id hsame) hne
    · exact h.once r hr r' hr' hr_live hr_live' hsubject
  · intro r hr
    rcases (mem_closed hrow r).mp hr with rfl | ⟨hr, -⟩
    · exact hfixed
    · exact h.fixed r hr
  · intro r hr plan hplan
    rcases (mem_closed hrow r).mp hr with rfl | ⟨hr, -⟩
    · exact hkeeps (hplans plan hplan)
    · exact hkeeps (h.plans r hr plan hplan)

lemma keeps_closed (hids : (t.requests.map InvoiceRequest.id).Nodup) (hrow : row ∈ t.requests)
    (hopen : row.status = .requested) :
    Keeps t (t.close row status snapshot) := by
  have hsame : ∀ r ∈ t.requests, r.id = row.id → r = row := by
    intro r hr hid
    have hfound := lookup_of_mem hids hr
    rw [hid, lookup_of_mem hids hrow] at hfound
    exact (Option.some.inj hfound).symm
  refine ⟨fun r hr hclosed => (mem_closed hrow r).mpr (.inr ⟨hr, fun hid => ?_⟩), fun r hr => ?_,
    fun _ hc => hc⟩
  · rw [hsame r hr hid] at hclosed
    exact hclosed hopen
  · by_cases hid : r.id = row.id
    · rw [hsame r hr hid]
      exact ⟨_, (mem_closed hrow _).mpr (.inl rfl), rfl, rfl, rfl⟩
    · exact ⟨r, (mem_closed hrow r).mpr (.inr ⟨hr, hid⟩), rfl, rfl, rfl⟩

end Closed

lemma Own.of_free {c : Call} (h : c.holdsStore = false) : Own t c := by
  cases c with
  | uncovered command => cases h
  | numbered command number => cases h
  | planned command version plan => cases h
  | asked command => trivial
  | locked command => trivial
  | resolved command allOwn => trivial
  | toIssue command => trivial
  | issueLocked command => trivial
  | opened command version => trivial
  | untaken command version => trivial
  | toCancel command => trivial
  | cancelling command version => trivial
  | ended => trivial

lemma Own.kept {c : Call} (h : Own t c) (hunlisted : ∀ id, Unlisted t id → Unlisted t' id)
    (hfound : ∀ id row', found t' id = some row' → ∃ row, found t id = some row ∧
      row'.subject = row.subject)
    (hcharges : ∀ c ∈ t.charges, c ∈ t'.charges)
    (hown : ∀ id, ownRequest t id = false → ownRequest t' id = false) : Own t' c := by
  by_cases hstore : c.holdsStore = false
  · exact .of_free hstore
  · cases c with
    | uncovered command => exact fun id hid => hunlisted id (h id hid)
    | numbered command number => exact fun id hid => hunlisted id (h id hid)
    | planned command version plan =>
      intro row' hrow'
      obtain ⟨row, hrow, hsubject⟩ := hfound _ _ hrow'
      obtain ⟨hok, hapart⟩ := h row hrow
      rw [hsubject]
      exact ⟨hok.mono hcharges, hapart.mono hown⟩
    | locked command => trivial
    | resolved command allOwn => trivial
    | issueLocked command => trivial
    | opened command version => trivial
    | untaken command version => trivial
    | asked command => exact absurd rfl hstore
    | toIssue command => exact absurd rfl hstore
    | toCancel command => exact absurd rfl hstore
    | cancelling command version => exact absurd rfl hstore
    | ended => exact absurd rfl hstore

lemma Own.cancelled {c : Call} {row : InvoiceRequest} (h : Own t c) (hrow : row ∈ t.requests)
    (hopen : row.status = .requested) (hids : (t.requests.map InvoiceRequest.id).Nodup) :
    Own (t.close row .cancelled none) c := by
  refine h.kept (fun id hid r hr plan hplan => ?_) (fun id row' hrow' => ?_) (fun _ hc => hc)
    fun _ => ownRequest_closed hrow hopen
  · rcases (mem_closed hrow r).mp hr with rfl | ⟨hr, -⟩
    · cases hplan
    · exact hid r hr plan hplan
  · rw [found, Tables.close, lookup_put] at hrow'
    split at hrow'
    · rename_i hid
      have hself : found t id = some row := hid ▸ lookup_of_mem hids hrow
      rw [show lookup InvoiceRequest.id t.requests id = some row from hself] at hrow'
      cases hrow'
      exact ⟨row, hself, rfl⟩
    · exact ⟨row', hrow', rfl⟩

lemma keeps_charged (charge : Charge) : Keeps t (insertCharge t charge) := by
  rw [insertCharge]
  split
  · exact .refl t
  · exact ⟨fun _ hr _ => hr, fun r hr => ⟨r, hr, rfl, rfl, rfl⟩,
      fun c hc => List.mem_append_left _ hc⟩

lemma requests_charged (charge : Charge) : (insertCharge t charge).requests = t.requests := by
  rw [insertCharge]
  split <;> rfl

lemma ownRequest_charged (charge : Charge) (id : Uuid) :
    ownRequest (insertCharge t charge) id = ownRequest t id := by
  rw [ownRequest, requests_charged, ownRequest]

lemma Inv.charged (h : Inv t) (charge : Charge) : Inv (insertCharge t charge) := by
  have hcharges := (keeps_charged (t := t) charge).charge
  refine ⟨?_, ?_, ?_, ?_, ?_, ?_⟩
  · rw [requests_charged]
    exact h.ids
  · rw [requests_charged]
    exact h.numbers
  · rw [requests_charged]
    exact h.once
  · rw [insertCharge]
    split
    · exact h.chargedOnce
    · rename_i hfresh
      have hnew : ∀ c ∈ t.charges, c.orderId ≠ charge.orderId :=
        fun c hc hid => hfresh ⟨c, hc, .inl hid⟩
      intro c hc c' hc' hid
      rcases List.mem_append.mp hc with hc | hc <;> rcases List.mem_append.mp hc' with hc' | hc'
      · exact h.chargedOnce c hc c' hc' hid
      · rw [List.mem_singleton] at hc'
        exact absurd (hid.trans (congrArg Charge.orderId hc')) (hnew c hc)
      · rw [List.mem_singleton] at hc
        exact absurd (hid.symm.trans (congrArg Charge.orderId hc)) (hnew c' hc')
      · rw [List.mem_singleton] at hc hc'
        rw [hc, hc']
  · rw [requests_charged]
    exact h.fixed
  · rw [requests_charged]
    intro r hr plan hplan
    obtain ⟨hok, hapart⟩ := h.plans r hr plan hplan
    exact ⟨hok.mono hcharges, hapart.mono fun id hown => (ownRequest_charged charge id).trans hown⟩

lemma Own.charged {c : Call} (h : Own t c) (charge : Charge) : Own (insertCharge t charge) c := by
  refine h.kept (fun id hid => ?_) (fun id row' hrow' => ?_) (keeps_charged charge).charge
    fun id hown => (ownRequest_charged charge id).trans hown
  · rw [Unlisted, requests_charged]
    exact hid
  · rw [found, requests_charged] at hrow'
    exact ⟨row', hrow', rfl⟩

lemma unlisted_of_uncovered (h : Inv t) {id : Uuid}
    (huncovered : orderCoveredByMonth t id = false) : Unlisted t id := by
  rintro r hr plan hplan account month hsubject line hline rfl
  obtain ⟨hok, -⟩ := h.plans r hr plan hplan
  obtain ⟨c, hc, horder, rfl, rfl, -⟩ := hok.charged account month hsubject line hline
  have hissued : r.isIssued = true := by rw [h.fixed r hr, hplan]; rfl
  have hlists : lists r line.orderId = true := lists_iff.mpr ⟨plan, hplan, line, hline, rfl⟩
  have hcovered : orderCoveredByMonth t line.orderId = true := by
    rw [orderCoveredByMonth, List.any_eq_true]
    refine ⟨c, hc, ?_⟩
    rw [Bool.and_eq_true, List.any_eq_true]
    refine ⟨by simpa using horder, r, hr, ?_⟩
    rw [hissued, hlists, Bool.and_true, Bool.or_true, Bool.and_true]
    simpa using hsubject
  rw [huncovered] at hcovered
  cases hcovered

lemma ordersOnInvoice_ok {subject : Subject} {total request : Option Int} {sent : List Uuid}
    {lines : List SnapshotLine} {printed : Bool} {onInvoice : OnInvoice}
    (h : ordersOnInvoice subject total sent request lines printed = .ok onInvoice) :
    sent ≠ [] ∧ (∀ id ∈ sent, id ∈ lines.map SnapshotLine.orderId) ∧
      onInvoice.orderIds = (lines.map SnapshotLine.orderId).filter (fun id => id ∈ sent) ∧
      ∃ figure, figureSent subject request lines sent = .ok figure := by
  simp only [ordersOnInvoice, bind_ok, require_ok] at h
  obtain ⟨_, ⟨hne, -, hsub⟩, figure, hfigure, h⟩ := h
  refine ⟨hne, hsub, ?_, figure, hfigure⟩
  split at h
  · cases h
    rfl
  · split at h
    · cases h
    · simp only [bind_ok, Except.ok.injEq] at h
      obtain ⟨_, -, rfl⟩ := h
      rfl

lemma listing_lines {plan : Snapshot} (subject : Subject) {onInvoice : OnInvoice}
    {sent : List Uuid} (h : onInvoice.orderIds =
      (plan.lines.map SnapshotLine.orderId).filter (fun id => id ∈ sent)) :
    (plan.listing subject onInvoice).lines =
      plan.lines.filter (fun line => line.orderId ∈ sent) := by
  have hkept : (plan.listing subject onInvoice).lines =
      plan.lines.filter (fun line => line.orderId ∈ onInvoice.orderIds) := by
    cases subject <;> rfl
  rw [hkept]
  refine List.filter_congr fun line hline => ?_
  rw [h, decide_eq_decide, List.mem_filter, decide_eq_true_eq]
  exact ⟨fun hmem => hmem.2, fun hsent => ⟨List.mem_map_of_mem hline, hsent⟩⟩

lemma mem_openMonth {account : Uuid} {month : Month} {line : SnapshotLine}
    (h : line ∈ openMonth t account month) :
    ownRequest t line.orderId = false ∧ ∃ c ∈ t.charges, c.orderId = line.orderId ∧
      c.accountId = account ∧ c.month = month ∧ line.amountVnd = some c.owedVnd := by
  obtain ⟨c, hc, rfl⟩ := List.mem_map.mp h
  rw [List.mem_filter, monthCharges, List.mem_filter, Bool.and_eq_true, decide_eq_true_eq,
    decide_eq_true_eq] at hc
  obtain ⟨⟨hmem, haccount, hmonth⟩, hown⟩ := hc
  exact ⟨by simpa using hown, c, hmem, rfl, haccount, hmonth, rfl⟩

lemma lines_kept_ne_nil {lines : List SnapshotLine} {sent : List Uuid} (hne : sent ≠ [])
    (hsub : ∀ id ∈ sent, id ∈ lines.map SnapshotLine.orderId) :
    lines.filter (fun line => line.orderId ∈ sent) ≠ [] := by
  obtain ⟨id, hid⟩ := List.exists_mem_of_ne_nil _ hne
  obtain ⟨line, hline, rfl⟩ := List.mem_map.mp (hsub id hid)
  exact List.ne_nil_of_mem (List.mem_filter.mpr ⟨hline, by simpa using hid⟩)

lemma snapshotPlan_ok {command : RecordIssuedCommand} {plan : Snapshot}
    (h : snapshotPlan t command = .ok plan) {row : InvoiceRequest}
    (hrow : found t command.requestId = some row) :
    PlanOk t row.subject plan ∧ Apart t row.subject plan := by
  rw [snapshotPlan, hrow] at h
  simp only [bind_ok, Except.ok.injEq] at h
  obtain ⟨whole, hwhole, onInvoice, honInvoice, rfl⟩ := h
  obtain ⟨hne, hsub, hids, figure, hfigure⟩ := ordersOnInvoice_ok honInvoice
  have hlines := listing_lines row.subject hids
  have hnonempty := lines_kept_ne_nil hne hsub
  cases hsubject : row.subject with
  | order id =>
    rw [hsubject] at hwhole hfigure hlines
    cases hwhole
    obtain ⟨amount, hamount⟩ : ∃ amount, command.orderAmountVnd = some amount := by
      cases hamount : command.orderAmountVnd with
      | none =>
        rw [hamount] at hfigure
        cases hfigure
      | some amount => exact ⟨amount, rfl⟩
    have hsent : id ∈ command.invoiceOrderIds := by
      obtain ⟨sent, hmem⟩ := List.exists_mem_of_ne_nil _ hne
      have hid : sent = id := List.mem_singleton.mp (hsub sent hmem)
      exact hid ▸ hmem
    have hsingle : (Snapshot.listing ⟨command.orderAmountVnd,
        [⟨id, none, command.orderAmountVnd⟩], none⟩ (.order id) onInvoice).lines =
        [⟨id, none, command.orderAmountVnd⟩] := by
      rw [hlines]
      simp [hsent]
    refine ⟨⟨?_, ?_, ?_, ?_⟩, ?_⟩
    · intro other hother line hline
      cases hother
      rw [hsingle, List.mem_singleton] at hline
      rw [hline]
    · intro account month hother
      cases hother
    · rw [hsingle]
      simp [Snapshot.listing, sumAmounts, hamount]
    · rw [hsingle]
      exact List.cons_ne_nil _ _
    · intro account month hother
      cases hother
  | accountMonth account month =>
    rw [hsubject] at hwhole hlines
    rw [openPlan] at hwhole
    split at hwhole
    · cases hwhole
    · cases hwhole
      refine ⟨⟨?_, ?_, ?_, ?_⟩, ?_⟩
      · intro other hother
        cases hother
      · intro account' month' hother line hline
        cases hother
        rw [hlines] at hline
        exact (mem_openMonth (List.mem_filter.mp hline).1).2
      · rfl
      · rw [hlines]
        exact hnonempty
      · intro account' month' hother line hline
        rw [hlines] at hline
        exact (mem_openMonth (List.mem_filter.mp hline).1).1

lemma holds_absurd {c : Call} {p : Prop} (h : c.holdsStore = false)
    (hstore : c.holdsStore = true) : p :=
  absurd (h.symm.trans hstore) Bool.false_ne_true

/-- What one statement of a call does to the tables, to the call and to the others. -/
structure Moves (w : World) (c : Call) (moved : Call × Tables) : Prop where
  inv : Inv moved.2
  own : Own moved.2 moved.1
  others : ∀ d, Own w.shared d → OneHolder c d → Own moved.2 d
  store : moved.1.holdsStore = true → c.holdsStore = true ∨ ¬ storeTaken w
  keeps : Keeps w.shared moved.2

section Statement

variable {w : World} {c : Call}

lemma Moves.stays (h : Inv w.shared) (c' : Call) (hown : Own w.shared c')
    (hstore : c'.holdsStore = true → c.holdsStore = true ∨ ¬ storeTaken w) :
    Moves w c (c', w.shared) :=
  ⟨h, hown, fun _ hd _ => hd, hstore, .refl _⟩

lemma Moves.ends (h : Inv w.shared) : Moves w c (.ended, w.shared) :=
  .stays h .ended trivial (holds_absurd rfl)

lemma Moves.goes (h : Inv w.shared) {α : Type} {outcome : Except InvoiceRefusal α} {call : α → Call}
    (hstore : c.holdsStore = true ∨ ∀ a, (call a).holdsStore = false)
    (hown : ∀ a, outcome = .ok a → Own w.shared (call a)) :
    Moves w c (going w.shared outcome call) := by
  cases houtcome : outcome with
  | error e => exact .ends h
  | ok a =>
    refine .stays h (call a) (hown a houtcome) fun htaken => ?_
    rcases hstore with hc | hnone
    · exact .inl hc
    · rw [hnone a] at htaken
      cases htaken

lemma moves_numbered (h : Inv w.shared) {command : CreateCommand} {number : Nat}
    (hc : Own w.shared (.numbered command number)) :
    Moves w (.numbered command number)
      (writing w.shared (insertRequest w.shared command number)) := by
  cases hinsert : insertRequest w.shared command number with
  | error e => exact .ends h
  | ok tables =>
    refine ⟨h.inserted hinsert hc, trivial, fun d _ hone => .of_free (hone rfl),
      holds_absurd rfl, ?_⟩
    obtain ⟨-, -, rfl⟩ := insertRequest_ok hinsert
    exact ⟨fun r hr _ => List.mem_append_left _ hr,
      fun r hr => ⟨r, List.mem_append_left _ hr, rfl, rfl, rfl⟩, fun _ hc => hc⟩

lemma moves_planned (h : Inv w.shared) {command : RecordIssuedCommand} {version : Nat}
    {plan : Snapshot} (hc : Own w.shared (.planned command version plan)) :
    Moves w (.planned command version plan)
      (writing w.shared (issueRequest w.shared command version plan)) := by
  cases hissue : issueRequest w.shared command version plan with
  | error e => exact .ends h
  | ok tables =>
    simp only [issueRequest, bind_ok] at hissue
    obtain ⟨_, -, hclose⟩ := hissue
    obtain ⟨row, hrow, hopen, rfl⟩ := closeRequest_ok hclose
    have hmem := (found_mem hrow).1
    refine ⟨h.closed hmem hopen rfl ?_, trivial, fun d _ hone => .of_free (hone rfl),
      holds_absurd rfl, keeps_closed h.ids hmem hopen⟩
    rintro _ ⟨⟩
    exact hc row hrow

lemma moves_cancelling (h : Inv w.shared) (command : CancelCommand) (version : Nat) :
    Moves w (.cancelling command version)
      (writing w.shared (closeRequest w.shared command.requestId version .cancelled none)) := by
  cases hclose : closeRequest w.shared command.requestId version .cancelled none with
  | error e => exact .ends h
  | ok tables =>
    obtain ⟨row, hrow, hopen, rfl⟩ := closeRequest_ok hclose
    have hmem := (found_mem hrow).1
    refine ⟨h.closed hmem hopen rfl ?_, trivial, fun d hd _ => hd.cancelled hmem hopen h.ids,
      holds_absurd rfl, keeps_closed h.ids hmem hopen⟩
    rintro _ ⟨⟩

lemma next_moves (h : Inv w.shared) (hc : Own w.shared c) : Moves w c (next w c) := by
  cases c with
  | asked command =>
    rw [next]
    split
    · exact .stays h (.asked command) trivial (holds_absurd rfl)
    · exact .stays h (.locked command) trivial fun _ => .inr ‹_›
  | locked command => exact .goes h (.inl rfl) fun _ _ => trivial
  | resolved command allOwn =>
    refine .goes h (.inl rfl) fun _ hchecked id hid => ?_
    rw [hid, checkUncovered, require_ok] at hchecked
    exact unlisted_of_uncovered h hchecked
  | uncovered command =>
    exact .stays h (.numbered command (nextNumber w.shared)) hc fun _ => .inl rfl
  | numbered command number => exact moves_numbered h hc
  | toIssue command =>
    rw [next]
    split
    · exact .stays h (.toIssue command) trivial (holds_absurd rfl)
    · exact .stays h (.issueLocked command) trivial fun _ => .inr ‹_›
  | issueLocked command =>
    rw [next]
    split
    · exact .stays h (.issueLocked command) trivial fun _ => .inl rfl
    · exact .goes h (.inl rfl) fun _ _ => trivial
  | opened command version => exact .goes h (.inl rfl) fun _ _ => trivial
  | untaken command version =>
    exact .goes h (.inl rfl) fun plan hplan row hrow => snapshotPlan_ok hplan hrow
  | planned command version plan => exact moves_planned h hc
  | toCancel command =>
    rw [next]
    split
    · exact .stays h (.toCancel command) trivial (holds_absurd rfl)
    · exact .goes h (.inr fun _ => rfl) fun _ _ => trivial
  | cancelling command version => exact moves_cancelling h command version
  | ended => exact .ends h

end Statement

def Kept (w : World) : Prop := Coherent Inv Own OneHolder w

lemma Kept.apply {w : World} (h : Kept w) (command : Command) :
    Kept (apply w command) ∧ Keeps w.shared (apply w command).shared := by
  cases command with
  | create command =>
    exact ⟨Coherent.enter h OneHolder.symm trivial fun _ _ _ => holds_absurd rfl, .refl _⟩
  | recordIssued command =>
    exact ⟨Coherent.enter h OneHolder.symm trivial fun _ _ _ => holds_absurd rfl, .refl _⟩
  | cancel command =>
    exact ⟨Coherent.enter h OneHolder.symm trivial fun _ _ _ => holds_absurd rfl, .refl _⟩
  | statement i =>
    rw [InvoiceRequests.apply]
    split
    · rename_i c hc
      have hmoves := next_moves h.shared (h.own hc)
      refine ⟨Coherent.put h OneHolder.symm hc hmoves.inv hmoves.own ?_, hmoves.keeps⟩
      intro j d _ hd hown hone
      refine ⟨hmoves.others d hown hone, fun hstore => ?_⟩
      rcases hmoves.store hstore with hheld | hfree
      · exact hone hheld
      · by_contra hd_store
        exact hfree ⟨d, List.mem_of_getElem? hd, by simpa using hd_store⟩
    · exact ⟨h, .refl _⟩
  | abort i =>
    rw [InvoiceRequests.apply]
    split
    · rename_i c hc
      refine ⟨Coherent.put h OneHolder.symm hc h.shared trivial ?_, .refl _⟩
      exact fun _ d _ _ hown _ => ⟨hown, holds_absurd rfl⟩
    · exact ⟨h, .refl _⟩
  | charge charge =>
    exact ⟨⟨h.shared.charged charge, fun hd => (h.own hd).charged charge, h.apart⟩,
      keeps_charged charge⟩

lemma Kept.run {w : World} (h : Kept w) (commands : List Command) :
    Kept (run w commands) ∧ Keeps w.shared (run w commands).shared := by
  induction commands generalizing w with
  | nil => exact ⟨h, .refl _⟩
  | cons command commands ih =>
    obtain ⟨hkept, hkeeps⟩ := h.apply command
    obtain ⟨hrun, hlater⟩ := ih hkept
    exact ⟨hrun, hkeeps.trans hlater⟩

lemma inv_empty : Inv ⟨[], []⟩ :=
  ⟨List.nodup_nil, List.nodup_nil, fun _ hr => absurd hr List.not_mem_nil,
    fun _ hc => absurd hc List.not_mem_nil, fun _ hr => absurd hr List.not_mem_nil,
    fun _ hr => absurd hr List.not_mem_nil⟩

lemma inv_charges (charges : List Charge) {t : Tables} (h : Inv t) :
    Inv (charges.foldl insertCharge t) := by
  induction charges generalizing t with
  | nil => exact h
  | cons charge charges ih => exact ih (h.charged charge)

lemma kept_starting (charges : List Charge) : Kept (starting charges) :=
  ⟨inv_charges charges inv_empty, fun hc => absurd hc (by simp [starting]),
    fun _ hc => absurd hc (by simp [starting])⟩

lemma Covers.cases {r : InvoiceRequest} {id : Uuid} (h : Covers t r id) (hinv : Inv t)
    (hr : r ∈ t.requests) :
    r.live = true ∧ (r.subject = .order id ∨
      ownRequest t id = false ∧ ∃ c ∈ t.charges, c.orderId = id ∧
        r.subject = .accountMonth c.accountId c.month) := by
  rw [Covers] at h
  split at h
  · cases h
  · rename_i order hsubject hstatus
    subst h
    exact ⟨by simpa [InvoiceRequest.live] using hstatus, .inl hsubject⟩
  · rename_i account month hsubject hstatus
    obtain ⟨⟨c, hc, hid, rfl, rfl⟩, hown⟩ := h
    exact ⟨live_of_requested hstatus, .inr ⟨hown, c, hc, hid, hsubject⟩⟩
  · rename_i account month symbol number hsubject hstatus
    obtain ⟨plan, hplan, line, hline, rfl⟩ := lists_iff.mp h
    obtain ⟨hok, hapart⟩ := hinv.plans r hr plan hplan
    obtain ⟨c, hc, hid, rfl, rfl, -⟩ := hok.charged account month hsubject line hline
    refine ⟨?_, .inr ⟨hapart _ _ hsubject line hline, c, hc, hid, hsubject⟩⟩
    rw [InvoiceRequest.live, hstatus]
    rfl

lemma Inv.covers_once (h : Inv t) {r r' : InvoiceRequest} (hr : r ∈ t.requests)
    (hr' : r' ∈ t.requests) {id : Uuid} (hcovers : Covers t r id) (hcovers' : Covers t r' id) :
    r = r' := by
  obtain ⟨hlive, hwhat⟩ := hcovers.cases h hr
  obtain ⟨hlive', hwhat'⟩ := hcovers'.cases h hr'
  rcases hwhat with hsubject | ⟨hown, c, hc, hid, hsubject⟩ <;>
    rcases hwhat' with hsubject' | ⟨hown', c', hc', hid', hsubject'⟩
  · exact h.once r hr r' hr' hlive hlive' (hsubject.trans hsubject'.symm)
  · exact absurd hsubject (ownRequest_false.mp hown' r hr hlive)
  · exact absurd hsubject' (ownRequest_false.mp hown r' hr' hlive')
  · have hsame : c = c' := h.chargedOnce c hc c' hc' (hid.trans hid'.symm)
    subst hsame
    exact h.once r hr r' hr' hlive hlive' (hsubject.trans hsubject'.symm)

lemma covered_or_left_off {r : InvoiceRequest} (hlive : r.live = true) {c : Charge}
    (hc : c ∈ t.charges) (hsubject : r.subject = .accountMonth c.accountId c.month) :
    Covers t r c.orderId ∨ ownRequest t c.orderId = true ∨
      (r.isIssued = true ∧ lists r c.orderId = false) := by
  cases hstatus : r.status with
  | cancelled =>
    rw [InvoiceRequest.live, hstatus] at hlive
    cases hlive
  | requested =>
    cases hown : ownRequest t c.orderId with
    | true => exact .inr (.inl rfl)
    | false =>
      left
      rw [Covers, hsubject, hstatus]
      exact ⟨⟨c, hc, rfl, rfl, rfl⟩, hown⟩
  | issued symbol number =>
    cases hlists : lists r c.orderId with
    | true =>
      left
      rw [Covers, hsubject, hstatus]
      exact hlists
    | false =>
      refine .inr (.inr ⟨?_, rfl⟩)
      rw [InvoiceRequest.isIssued, hstatus]

/-- In whatever order the statements of all calls run: no order is on two live requests, request
numbers are distinct, what an issued request is fixed at adds up and is of orders charged in its
month, a closed request stays as it is, and an order charged in the month of a live request is
covered by it, has its own request, or was left off the issued invoice. -/
theorem no_order_on_two_requests (charges : List Charge) (commands later : List Command) :
    (∀ id, ∀ r ∈ (run (starting charges) commands).shared.requests,
        ∀ r' ∈ (run (starting charges) commands).shared.requests,
        Covers (run (starting charges) commands).shared r id →
        Covers (run (starting charges) commands).shared r' id → r = r') ∧
      ((run (starting charges) commands).shared.requests.map
        InvoiceRequest.requestNumber).Nodup ∧
      (∀ r ∈ (run (starting charges) commands).shared.requests,
        r.isIssued = r.snapshot.isSome ∧ ∀ plan, r.snapshot = some plan →
          PlanOk (run (starting charges) commands).shared r.subject plan) ∧
      (∀ r ∈ (run (starting charges) commands).shared.requests, r.status ≠ .requested →
        r ∈ (run (run (starting charges) commands) later).shared.requests) ∧
      ∀ r ∈ (run (starting charges) commands).shared.requests, r.live = true →
        ∀ c ∈ (run (starting charges) commands).shared.charges,
          r.subject = .accountMonth c.accountId c.month →
          Covers (run (starting charges) commands).shared r c.orderId ∨
            ownRequest (run (starting charges) commands).shared c.orderId = true ∨
            (r.isIssued = true ∧ lists r c.orderId = false) := by
  have hkept := ((kept_starting charges).run commands).1
  have hinv := hkept.shared
  refine ⟨fun id r hr r' hr' => hinv.covers_once hr hr', hinv.numbers, fun r hr => ?_,
    (hkept.run later).2.closed, fun r _ hlive c hc => covered_or_left_off hlive hc⟩
  exact ⟨hinv.fixed r hr, fun plan hplan => (hinv.plans r hr plan hplan).1⟩

end NhaTrangLaundry.Db.InvoiceRequests
