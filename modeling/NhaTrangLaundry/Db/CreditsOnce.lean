import NhaTrangLaundry.Db.CreditSteps
import NhaTrangLaundry.Lib.Chains

/-! Every remedy credit is spent at most once, over every run of reservations, new prices,
orders and cancellations. -/

namespace NhaTrangLaundry.Db.RemedyCredits

open Lib Outcome Table Domain Canonical Quotes Remedies QuoteComposition Chains

structure Sound [Unicodedata] (store : Store) : Prop where
  quotes : QuotesSound store
  credits : CreditsSound store

def Reissues (credits : List CreditRow) (original again : CreditRow) : Prop :=
  original ∈ credits ∧ again ∈ credits ∧ again.reissueOf = some original.id

def Reserves (store : Store) (bill : RevisionRef) (creditId : Uuid) : Prop :=
  ∃ snapshot reserved, store.revision bill = some snapshot ∧
    reservedRemedyCredits snapshot = .ok reserved ∧
    creditId ∈ reserved.map RemedyCredit.creditId

/-- The order can be made: its quote is open and accepted, and each credit on the bill is named
once, is open and is as it was issued. -/
def Payable (store : Store) (command : CreateOrderCommand) : Prop :=
  ∃ quote snapshot reserved,
    lookup QuoteRow.id store.quotes command.bill.quoteId = some quote ∧
    quote.lifecycle = .open ∧ quote.getRevision command.bill.revision = some snapshot ∧
    (command.agreed = true ∧ snapshot.data.finality = .approvedExact ∧
      snapshot.data.status = .acceptedFinal) ∧
    command.orderId ∉ store.orders.map OrderRow.id ∧
    reservedRemedyCredits snapshot = .ok reserved ∧
    (reserved.map RemedyCredit.creditId).Nodup ∧
    ∀ credit ∈ reserved, ∃ row, Names store.credits credit row

section Reissue

variable {store : Store}

lemma reissues_rightUnique (hs : CreditsSound store) :
    Relator.RightUnique (Reissues store.credits) := by
  rintro a b c ⟨-, hb, hab⟩ ⟨-, hc, hac⟩
  exact eq_of_column hs.reissues hb hc hab hac

lemma reissues_leftUnique (hs : CreditsSound store) :
    Relator.LeftUnique (Reissues store.credits) := by
  rintro a b c ⟨ha, -, hac⟩ ⟨hb, -, hbc⟩
  exact List.inj_on_of_nodup_map hs.ids ha hb (Option.some.inj (hac.symm.trans hbc))

/-- An open credit is the last of its chain: only a spent one is issued again. -/
lemma open_last (hs : CreditsSound store) {credit : CreditRow} (h : credit.isOpen) :
    ∀ again, ¬ Reissues store.credits credit again := by
  rintro again ⟨hc, hagain, hof⟩
  obtain ⟨original, horiginal, hid, hredeemed⟩ := hs.originals again hagain _ hof
  cases List.inj_on_of_nodup_map hs.ids horiginal hc hid
  exact hredeemed h.1

end Reissue

section Runs

variable [Unicodedata] {store store' : Store}

lemma redeem_ok {creditId quoteId : Uuid} {expected : Nat}
    (h : redeem store creditId quoteId expected = .ok store') :
    ∃ snapshot, createRevision store snapshot expected = .ok store' := by
  rw [redeem] at h
  split at h
  · cases h
  · cases h
  · simp only [bind_ok, require_ok] at h
    obtain ⟨-, -, -, -, -, -, -, -, h⟩ := h
    split at h
    · cases h
    · obtain ⟨snapshot, -, h⟩ := bind_ok.mp h
      exact ⟨snapshot, h⟩

lemma Sound.createRevision {snapshot : ImmutableQuoteSnapshot} {expected : Nat}
    (hs : Sound store) (h : createRevision store snapshot expected = .ok store') :
    Sound store' ∧ store'.credits = store.credits := by
  obtain ⟨hquotes, hgrows⟩ := hs.quotes.createRevision h
  obtain ⟨-, hcredits, -, -⟩ := createRevision_ok h
  refine ⟨⟨hquotes, ?_⟩, hcredits⟩
  refine hs.credits.evolve id [] (by rw [hcredits, List.map_id, List.append_nil])
    (fun _ _ => .stays) (by simp) (hcredits ▸ hs.credits.ids) (hcredits ▸ hs.credits.reissues) ?_
  exact fun c hc bill hbill => (hs.credits.spent c hc bill hbill).grows hgrows

lemma sound_attempt {command : Command} (hs : Sound store)
    (h : attempt store command = .ok store') :
    Sound store' ∧ Evolves store.credits store'.credits := by
  cases command with
  | issue command =>
    have hcredits := hs.credits.issue h
    obtain ⟨-, fresh, -, -, -, rfl⟩ := issue_ok h
    exact ⟨⟨⟨hs.quotes.quoteIds, hs.quotes.orderIds, hs.quotes.bills, hs.quotes.converted,
      hs.quotes.verified, hs.quotes.carried⟩, hcredits⟩, Evolves.append _ _⟩
  | redeem creditId quoteId expected =>
    obtain ⟨snapshot, h⟩ := redeem_ok h
    obtain ⟨hsound, hcredits⟩ := hs.createRevision h
    exact ⟨hsound, hcredits ▸ Evolves.refl _⟩
  | createRevision snapshot expected =>
    obtain ⟨hsound, hcredits⟩ := hs.createRevision h
    exact ⟨hsound, hcredits ▸ Evolves.refl _⟩
  | createOrder command =>
    refine ⟨⟨hs.quotes.createOrder hs.credits h, hs.credits.createOrder hs.quotes h⟩, ?_⟩
    obtain ⟨quote, snapshot, reserved, -, -, -, -, -, hnames, -, rfl⟩ :=
      createOrder_ok hs.credits.ids h
    exact ⟨_, [], (List.append_nil _).symm, advance_spentBy hs.credits.ids hnames⟩
  | cancelOrder command =>
    refine ⟨⟨hs.quotes.cancelOrder hs.credits h, hs.credits.cancelOrder hs.quotes h⟩, ?_⟩
    obtain ⟨-, plan, reissued, -, hvoid, -, hcredits, -⟩ := cancelOrder_ok hs.credits.ids h
    exact ⟨void plan, _, hcredits, hvoid⟩

lemma sound_apply (command : Command) (hs : Sound store) :
    Sound (apply store command) ∧ Evolves store.credits (apply store command).credits := by
  rw [apply]
  cases h : attempt store command with
  | error e => exact ⟨hs, Evolves.refl _⟩
  | ok store' => exact sound_attempt hs h

lemma sound_run (commands : List Command) (hs : Sound store) :
    Sound (run store commands) ∧ Evolves store.credits (run store commands).credits := by
  induction commands generalizing store with
  | nil => exact ⟨hs, Evolves.refl _⟩
  | cons command commands ih =>
    obtain ⟨hsound, hevolves⟩ := sound_apply command hs
    obtain ⟨hsound', hevolves'⟩ := ih hsound
    exact ⟨hsound', hevolves.trans hevolves'⟩

lemma sound_empty : Sound Store.empty := by
  constructor
  · constructor <;> simp [Store.empty]
  · constructor <;> simp [Store.empty]

lemma advance_run (later : List Command) (hs : Sound store) {c : CreditRow}
    (hc : c ∈ store.credits) :
    ∃ c' ∈ (run store later).credits, Advance c c' ∧
      ∀ d ∈ (run store later).credits, d.id = c.id → d = c' := by
  obtain ⟨hsound, hevolves⟩ := sound_run later hs
  obtain ⟨c', hc', hadvance⟩ := hevolves.exists_advance hc
  refine ⟨c', hc', hadvance, fun d hd hid => ?_⟩
  exact List.inj_on_of_nodup_map hsound.credits.ids hd hc' (hid.trans hadvance.id_eq.symm)

lemma exists_unique_order (hs : Sound store) {c : CreditRow} (hc : c ∈ store.credits)
    {bill : RevisionRef} (hbill : c.redeemed = some bill) :
    ∃ order ∈ store.orders, order.bill = bill ∧ ∀ o ∈ store.orders, o.bill = bill → o = order := by
  obtain ⟨⟨order, horder, hof⟩, -⟩ := hs.credits.spent c hc bill hbill
  refine ⟨order, horder, hof, fun o ho hob => ?_⟩
  refine List.inj_on_of_nodup_map hs.quotes.bills ho horder ?_
  rw [hob, hof]

lemma createOrder_error (hs : Sound store) {command : CreateOrderCommand} {c : CreditRow}
    (hc : c ∈ store.credits) (hclosed : ¬ c.isOpen) (hreserves : Reserves store command.bill c.id) :
    ∃ e, createOrder store command = .error e := by
  cases h : createOrder store command with
  | error e => exact ⟨e, rfl⟩
  | ok store' =>
    obtain ⟨quote, snapshot, reserved, hquote, -, hsnapshot, hreserved, -, hnames, -⟩ :=
      createOrder_ok hs.credits.ids h
    obtain ⟨snapshot', reserved', hrevision, hreserved', hin⟩ := hreserves
    have hsame : store.revision command.bill = some snapshot := by
      rw [Store.revision, hquote]
      exact hsnapshot
    rw [hsame] at hrevision
    cases hrevision
    rw [hreserved] at hreserved'
    cases hreserved'
    obtain ⟨credit, hcredit, hid⟩ := List.mem_map.mp hin
    obtain ⟨row, hrow, hrowid, hopen, -⟩ := hnames credit hcredit
    cases List.inj_on_of_nodup_map hs.credits.ids hrow hc (hrowid.trans hid)
    exact absurd hopen hclosed

lemma createOrder_spends (hs : Sound store) {command : CreateOrderCommand} {creditId : Uuid}
    (hreserves : Reserves store command.bill creditId)
    (h : createOrder store command = .ok store') :
    ∃ c ∈ store'.credits, c.id = creditId ∧ c.redeemed = some command.bill := by
  obtain ⟨quote, snapshot, reserved, hquote, -, hsnapshot, hreserved, -, hnames, -, rfl⟩ :=
    createOrder_ok hs.credits.ids h
  obtain ⟨snapshot', reserved', hrevision, hreserved', hin⟩ := hreserves
  have hsame : store.revision command.bill = some snapshot := by
    rw [Store.revision, hquote]
    exact hsnapshot
  rw [hsame] at hrevision
  cases hrevision
  rw [hreserved] at hreserved'
  cases hreserved'
  obtain ⟨credit, hcredit, hid⟩ := List.mem_map.mp hin
  obtain ⟨row, hrow, hrowid, -⟩ := hnames credit hcredit
  have hspent : row.id ∈ reserved.map RemedyCredit.creditId := by
    rw [hrowid]
    exact List.mem_map_of_mem hcredit
  refine ⟨_, List.mem_map_of_mem hrow, ?_, ?_⟩
  · rw [spentBy_id, hrowid, hid]
  · rw [spentBy, if_pos hspent]

omit [Unicodedata] in
lemma carries_next {quote : QuoteRow} (hchain : quote.revisions.IsChain Carries) {k : Nat}
    {parent child : ImmutableQuoteSnapshot} (hparent : quote.getRevision k = some parent)
    (hchild : quote.getRevision (k + 1) = some child) : Carries parent child := by
  rw [QuoteRow.getRevision] at hparent hchild
  split at hparent
  · cases hparent
  · rename_i hk
    rw [if_neg (Nat.succ_ne_zero k), Nat.add_sub_cancel] at hchild
    obtain ⟨j, rfl⟩ := Nat.exists_eq_succ_of_ne_zero hk
    obtain ⟨-, rfl⟩ := List.getElem?_eq_some_iff.mp hparent
    obtain ⟨hlt, rfl⟩ := List.getElem?_eq_some_iff.mp hchild
    exact List.isChain_iff_getElem.mp hchain j (by simpa using hlt)

end Runs

variable [Unicodedata]

/-- Whatever a store went through: a credit is spent or voided at most once and never changes
again; of each chain of reissues at most one credit is open; a spent credit is off the bill of
exactly one order, for its face value; the first order that has a credit on its bill spends it
and every other one is refused and writes nothing; and each revision of a quote carries or
releases the credits of the one before. -/
theorem remedy_credit_spent_once (commands : List Command) :
    let store := run Store.empty commands
    (∀ later, ∀ c ∈ store.credits, ∃ c' ∈ (run store later).credits, Advance c c' ∧
      ∀ d ∈ (run store later).credits, d.id = c.id → d = c') ∧
    (∀ c ∈ store.credits, c.voided = true → c.redeemed = none) ∧
    (∀ a ∈ store.credits, ∀ b ∈ store.credits, Relation.EqvGen (Reissues store.credits) a b →
      a.isOpen → b.isOpen → a = b) ∧
    (∀ c ∈ store.credits, ∀ bill, c.redeemed = some bill →
      (∃ order ∈ store.orders, order.bill = bill ∧
        ∀ o ∈ store.orders, o.bill = bill → o = order) ∧
      ∃ snapshot, store.revision bill = some snapshot ∧ OnBill snapshot c) ∧
    (∀ command, Payable store command → ∃ store', createOrder store command = .ok store') ∧
    (∀ first creditId store', Reserves store first.bill creditId →
      createOrder store first = .ok store' →
      (∃ c ∈ store'.credits, c.id = creditId ∧ c.redeemed = some first.bill) ∧
      ∀ later second, Reserves (run store' later) second.bill creditId →
        (∃ e, createOrder (run store' later) second = .error e) ∧
        apply (run store' later) (.createOrder second) = run store' later) ∧
    ∀ quote ∈ store.quotes, ∀ k parent child, quote.getRevision k = some parent →
      quote.getRevision (k + 1) = some child → Carries parent child := by
  intro store
  have hs : Sound store := (sound_run commands sound_empty).1
  refine ⟨fun later c hc => advance_run later hs hc, hs.credits.exclusive, ?_, ?_, ?_, ?_, ?_⟩
  · intro a ha b hb hchain hopen hopen'
    exact last_unique (reissues_rightUnique hs.credits) (reissues_leftUnique hs.credits) hchain
      (open_last hs.credits hopen) (open_last hs.credits hopen')
  · intro c hc bill hbill
    exact ⟨exists_unique_order hs hc hbill, (hs.credits.spent c hc bill hbill).2⟩
  · rintro command ⟨quote, snapshot, reserved, hquote, hopen, hsnapshot, hagreed, hid, hreserved,
      hnodup, hnames⟩
    exact createOrder_of_names hs.credits.ids hquote hopen hsnapshot hagreed hid hreserved hnodup
      hnames
  · intro first creditId store' hreserves h
    obtain ⟨c, hc, hid, hredeemed⟩ := createOrder_spends hs hreserves h
    refine ⟨⟨c, hc, hid, hredeemed⟩, fun later second hsecond => ?_⟩
    have hattempt : attempt store (.createOrder first) = .ok store' := h
    have hs' : Sound store' := (sound_attempt hs hattempt).1
    obtain ⟨c', hc', hadvance, -⟩ := advance_run later hs' hc
    cases hadvance.redeemed_eq hredeemed
    have hclosed : ¬ c.isOpen := fun ho => by
      rw [ho.1] at hredeemed
      cases hredeemed
    obtain ⟨e, he⟩ := createOrder_error (sound_run later hs').1 hc' hclosed (hid.symm ▸ hsecond)
    refine ⟨⟨e, he⟩, ?_⟩
    rw [apply, attempt, he]
  · intro quote hquote k parent child hparent hchild
    exact carries_next (hs.quotes.carried quote hquote) hparent hchild

end NhaTrangLaundry.Db.RemedyCredits
