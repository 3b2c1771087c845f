import Mathlib.Data.List.Chain
import NhaTrangLaundry.Db.RemedyCredits

/-! What one command does to the credits, the quotes and the orders of a store, and what every
command keeps. -/

namespace NhaTrangLaundry.Db.RemedyCredits

open Lib Outcome Sorting Table Domain Catalog Canonical Quotes Remedies QuoteComposition
open CancellationMoney

def CreditRow.isOpen (credit : CreditRow) : Prop := credit.redeemed = none ∧ credit.voided = false

lemma state_unspent {credit : CreditRow} : credit.state = .unspent ↔ credit.isOpen := by
  rw [CreditRow.state, CreditRow.isOpen]
  cases credit.voided <;> cases credit.redeemed <;> simp

/-- What can become of a credit: it stays, or from unspent it is spent or voided, for good. -/
inductive Advance (credit : CreditRow) : CreditRow → Prop
  | stays : Advance credit credit
  | spent (bill : RevisionRef) (h : credit.isOpen) :
    Advance credit { credit with redeemed := some bill }
  | voided (h : credit.isOpen) : Advance credit { credit with voided := true }

namespace Advance

variable {a b c : CreditRow}

lemma id_eq (h : Advance a b) : b.id = a.id := by cases h <;> rfl

lemma reissueOf_eq (h : Advance a b) : b.reissueOf = a.reissueOf := by cases h <;> rfl

lemma eq_of_not_open (h : Advance a b) (ha : ¬ a.isOpen) : b = a := by
  cases h with
  | stays => rfl
  | spent _ h => exact absurd h ha
  | voided h => exact absurd h ha

lemma trans (hab : Advance a b) (hbc : Advance b c) : Advance a c := by
  cases hab with
  | stays => exact hbc
  | spent bill h =>
    rw [hbc.eq_of_not_open fun ho => nomatch ho.1]
    exact .spent bill h
  | voided h =>
    rw [hbc.eq_of_not_open fun ho => nomatch ho.2]
    exact .voided h

lemma exclusive (h : Advance a b) (ha : a.voided = true → a.redeemed = none)
    (hb : b.voided = true) : b.redeemed = none := by
  cases h with
  | stays => exact ha hb
  | spent bill ho => exact absurd hb (by simp [ho.2])
  | voided ho => exact ho.1

lemma redeemed_eq {bill : RevisionRef} (h : Advance a b) (ha : a.redeemed = some bill) : b = a :=
  h.eq_of_not_open fun ho => by rw [ho.1] at ha; cases ha

end Advance

def Evolves (credits credits' : List CreditRow) : Prop :=
  ∃ step fresh, credits' = credits.map step ++ fresh ∧ ∀ c ∈ credits, Advance c (step c)

namespace Evolves

variable {credits credits' credits'' : List CreditRow}

lemma refl (credits : List CreditRow) : Evolves credits credits :=
  ⟨id, [], by rw [List.map_id, List.append_nil], fun _ _ => .stays⟩

lemma append (credits fresh : List CreditRow) : Evolves credits (credits ++ fresh) :=
  ⟨id, fresh, by rw [List.map_id], fun _ _ => .stays⟩

lemma trans (h : Evolves credits credits') (h' : Evolves credits' credits'') :
    Evolves credits credits'' := by
  obtain ⟨step, fresh, rfl, hstep⟩ := h
  obtain ⟨step', fresh', rfl, hstep'⟩ := h'
  refine ⟨step' ∘ step, fresh.map step' ++ fresh', ?_, ?_⟩
  · rw [List.map_append, List.map_map, List.append_assoc]
  · intro c hc
    have hmem : step c ∈ credits.map step ++ fresh :=
      List.mem_append_left _ (List.mem_map_of_mem hc)
    exact (hstep c hc).trans (hstep' _ hmem)

lemma exists_advance (h : Evolves credits credits') {c : CreditRow} (hc : c ∈ credits) :
    ∃ c' ∈ credits', Advance c c' := by
  obtain ⟨step, fresh, rfl, hstep⟩ := h
  exact ⟨step c, List.mem_append_left _ (List.mem_map_of_mem hc), hstep c hc⟩

end Evolves

section Spending

variable {bill : RevisionRef} {credits credits' : List CreditRow}

def spentBy (bill : RevisionRef) (ids : List Uuid) (credit : CreditRow) : CreditRow :=
  if credit.id ∈ ids then { credit with redeemed := some bill } else credit

@[simp] lemma spentBy_id (bill : RevisionRef) (ids : List Uuid) (credit : CreditRow) :
    (spentBy bill ids credit).id = credit.id := by
  unfold spentBy
  split <;> rfl

def Names (credits : List CreditRow) (credit : RemedyCredit) (row : CreditRow) : Prop :=
  row ∈ credits ∧ row.id = credit.creditId ∧ row.isOpen ∧ row.amountVnd = credit.amountVnd ∧
    row.policyVersionId = credit.policyVersionId

lemma spendCredit_ok {credit : RemedyCredit} (hn : (credits.map CreditRow.id).Nodup)
    (h : spendCredit bill credits credit = .ok credits') :
    credits' = credits.map (spentBy bill [credit.creditId]) ∧ ∃ row, Names credits credit row := by
  rw [spendCredit] at h
  cases hrow : lookup CreditRow.id credits credit.creditId with
  | none =>
    rw [hrow] at h
    cases h
  | some row =>
    simp only [hrow, bind_ok, require_ok] at h
    obtain ⟨-, hvoided, -, hredeemed, -, hmatch, h⟩ := h
    cases h
    have hid := lookup_key hrow
    refine ⟨List.map_congr_left fun r hr => ?_, row, lookup_mem hrow, hid, ⟨hredeemed, hvoided⟩, hmatch⟩
    by_cases hr' : r.id = row.id
    · cases List.inj_on_of_nodup_map hn hr (lookup_mem hrow) hr'
      rw [if_pos rfl, spentBy, if_pos (by rw [hid]; exact List.mem_singleton_self _)]
    · rw [if_neg hr', spentBy, if_neg]
      intro hmem
      exact hr' ((List.mem_singleton.mp hmem).trans hid.symm)

lemma map_id_spentBy (ids : List Uuid) :
    (credits.map (spentBy bill ids)).map CreditRow.id = credits.map CreditRow.id := by
  rw [List.map_map]
  exact List.map_congr_left fun c _ => spentBy_id bill ids c

lemma names_of_spentBy {ids : List Uuid} {credit : RemedyCredit} {row : CreditRow}
    (h : Names (credits.map (spentBy bill ids)) credit row) :
    Names credits credit row ∧ credit.creditId ∉ ids := by
  obtain ⟨hmem, hid, hopen, hmatch⟩ := h
  obtain ⟨c, hc, rfl⟩ := List.mem_map.mp hmem
  rw [spentBy_id] at hid
  by_cases hin : c.id ∈ ids
  · rw [spentBy, if_pos hin] at hopen
    cases hopen.1
  · rw [spentBy, if_neg hin] at hopen hmatch ⊢
    exact ⟨⟨hc, hid, hopen, hmatch⟩, hid ▸ hin⟩

lemma spentBy_spentBy (ids ids' : List Uuid) (credit : CreditRow) :
    spentBy bill ids' (spentBy bill ids credit) = spentBy bill (ids ++ ids') credit := by
  simp only [spentBy, List.mem_append]
  by_cases h : credit.id ∈ ids <;> by_cases h' : credit.id ∈ ids' <;> simp [h, h']

lemma foldlM_spendCredit_ok {reserved : List RemedyCredit}
    (hn : (credits.map CreditRow.id).Nodup)
    (h : reserved.foldlM (spendCredit bill) credits = .ok credits') :
    credits' = credits.map (spentBy bill (reserved.map RemedyCredit.creditId)) ∧
      (reserved.map RemedyCredit.creditId).Nodup ∧
      ∀ credit ∈ reserved, ∃ row, Names credits credit row := by
  induction reserved generalizing credits with
  | nil =>
    cases h
    refine ⟨?_, List.nodup_nil, by simp⟩
    exact (List.map_id'' (fun c => by simp [spentBy]) _).symm
  | cons credit reserved ih =>
    rw [List.foldlM_cons] at h
    obtain ⟨after, hafter, h⟩ := bind_ok.mp h
    obtain ⟨rfl, hrow⟩ := spendCredit_ok hn hafter
    obtain ⟨rfl, hnodup, hnames⟩ := ih (by rwa [map_id_spentBy]) h
    refine ⟨?_, ?_, ?_⟩
    · rw [List.map_map]
      exact List.map_congr_left fun c _ => spentBy_spentBy _ _ c
    · refine List.nodup_cons.mpr ⟨fun hmem => ?_, hnodup⟩
      obtain ⟨again, hagain, hid⟩ := List.mem_map.mp hmem
      obtain ⟨row, hrow'⟩ := hnames again hagain
      exact (names_of_spentBy hrow').2 (by simp [hid])
    · intro x hx
      rcases List.mem_cons.mp hx with rfl | hx
      · exact hrow
      · obtain ⟨row, hrow'⟩ := hnames x hx
        exact ⟨row, (names_of_spentBy hrow').1⟩

lemma spendReservedRemedyCredits_ok {snapshot : ImmutableQuoteSnapshot}
    (hn : (credits.map CreditRow.id).Nodup)
    (h : spendReservedRemedyCredits credits bill snapshot = .ok credits') :
    ∃ reserved, reservedRemedyCredits snapshot = .ok reserved ∧
      credits' = credits.map (spentBy bill (reserved.map RemedyCredit.creditId)) ∧
      (reserved.map RemedyCredit.creditId).Nodup ∧
      ∀ credit ∈ reserved, ∃ row, Names credits credit row := by
  simp only [spendReservedRemedyCredits, bind_ok, mapError_ok] at h
  obtain ⟨reserved, hreserved, h⟩ := h
  obtain ⟨rfl, hnodup, hnames⟩ := foldlM_spendCredit_ok hn h
  refine ⟨reserved, hreserved, ?_, nodup_map_sortBy.mp hnodup, ?_⟩
  · refine List.map_congr_left fun c _ => ?_
    simp only [spentBy, List.mem_map, mem_sortBy]
  · exact fun credit hcredit => hnames credit (mem_sortBy.mpr hcredit)

lemma foldlM_spendCredit_of_names (bill : RevisionRef) {reserved : List RemedyCredit}
    (hn : (credits.map CreditRow.id).Nodup)
    (hnodup : (reserved.map RemedyCredit.creditId).Nodup)
    (h : ∀ credit ∈ reserved, ∃ row, Names credits credit row) :
    ∃ credits', reserved.foldlM (spendCredit bill) credits = .ok credits' := by
  induction reserved generalizing credits with
  | nil => exact ⟨credits, rfl⟩
  | cons credit reserved ih =>
    rw [List.map_cons, List.nodup_cons] at hnodup
    obtain ⟨row, hmem, hid, hopen, hmatch⟩ := h credit List.mem_cons_self
    have hlookup : lookup CreditRow.id credits credit.creditId = some row :=
      hid ▸ lookup_of_mem hn hmem
    have hspend : spendCredit bill credits credit =
        .ok (put CreditRow.id credits { row with redeemed := some bill }) := by
      simp only [spendCredit, hlookup]
      rw [require_true hopen.2, require_true hopen.1, require_true hmatch]
      rfl
    obtain ⟨hput, -⟩ := spendCredit_ok hn hspend
    rw [List.foldlM_cons, hspend, ok_bind, hput]
    refine ih (by rwa [map_id_spentBy]) hnodup.2 fun x hx => ?_
    obtain ⟨r, hr, hrid, hrest⟩ := h x (List.mem_cons_of_mem _ hx)
    have hne : r.id ∉ [credit.creditId] := by
      rw [List.mem_singleton, hrid]
      exact fun he => hnodup.1 (he ▸ List.mem_map_of_mem hx)
    have hsame : spentBy bill [credit.creditId] r = r := if_neg hne
    exact ⟨r, List.mem_map.mpr ⟨r, hr, hsame⟩, hrid, hrest⟩

lemma advance_spentBy {reserved : List RemedyCredit} (hn : (credits.map CreditRow.id).Nodup)
    (h : ∀ credit ∈ reserved, ∃ row, Names credits credit row) :
    ∀ c ∈ credits, Advance c (spentBy bill (reserved.map RemedyCredit.creditId) c) := by
  intro c hc
  by_cases hin : c.id ∈ reserved.map RemedyCredit.creditId
  · rw [spentBy, if_pos hin]
    obtain ⟨credit, hcredit, hid⟩ := List.mem_map.mp hin
    obtain ⟨row, hmem, hrow, hopen, -⟩ := h credit hcredit
    cases List.inj_on_of_nodup_map hn hc hmem (hid.symm.trans hrow.symm)
    exact .spent bill hopen
  · rw [spentBy, if_neg hin]
    exact .stays

end Spending

section Bills

def takesOff (creditId : Uuid) (item : QuoteAdjustmentSnapshot) : Bool :=
  isRemedyCredit item &&
    match reservedCredit item with
    | .ok credit => credit.creditId = creditId
    | .error _ => false

def OnBill (snapshot : ImmutableQuoteSnapshot) (credit : CreditRow) : Prop :=
  ∃ item, snapshot.data.adjustments.filter (takesOff credit.id) = [item] ∧
    item.direction = .credit ∧ item.amountMinVnd = credit.amountVnd ∧
    item.amountMaxVnd = credit.amountVnd

lemma reservedCredit_ok {item : QuoteAdjustmentSnapshot} {credit : RemedyCredit}
    (h : reservedCredit item = .ok credit) :
    item.amountMinVnd = credit.amountVnd ∧ item.amountMaxVnd = credit.amountVnd := by
  rw [reservedCredit] at h
  split at h
  · cases h
  · split at h
    · cases h
    · obtain ⟨_, hexact, h⟩ := bind_ok.mp h
      split at h
      · cases h
      · cases h
        exact ⟨rfl, (require_ok.mp hexact).symm⟩

lemma forall₂_filter_takesOff {items : List QuoteAdjustmentSnapshot} {reserved : List RemedyCredit}
    (creditId : Uuid) (h : List.Forall₂ (fun item credit => reservedCredit item = .ok credit)
      (items.filter isRemedyCredit) reserved) :
    List.Forall₂ (fun item credit => reservedCredit item = .ok credit)
      (items.filter (takesOff creditId))
      (reserved.filter fun credit => credit.creditId = creditId) := by
  induction items generalizing reserved with
  | nil =>
    cases h
    exact .nil
  | cons item items ih =>
    by_cases hkind : isRemedyCredit item = true
    · rw [List.filter_cons_of_pos hkind] at h
      obtain ⟨credit, reserved, hitem, hrest, rfl⟩ := List.forall₂_cons_left_iff.mp h
      have htakes : takesOff creditId item = decide (credit.creditId = creditId) := by
        rw [takesOff, hkind, hitem, Bool.true_and]
      by_cases hid : credit.creditId = creditId
      · rw [List.filter_cons_of_pos (by simpa [hid] using htakes),
          List.filter_cons_of_pos (by simpa using hid)]
        exact .cons hitem (ih hrest)
      · rw [List.filter_cons_of_neg (by simpa [hid] using htakes),
          List.filter_cons_of_neg (by simpa using hid)]
        exact ih hrest
    · rw [List.filter_cons_of_neg hkind] at h
      rw [List.filter_cons_of_neg (by simp [takesOff, hkind])]
      exact ih h

lemma filter_creditId {reserved : List RemedyCredit} {credit : RemedyCredit}
    (hn : (reserved.map RemedyCredit.creditId).Nodup) (h : credit ∈ reserved) :
    (reserved.filter fun r => r.creditId = credit.creditId) = [credit] := by
  induction reserved with
  | nil => simp at h
  | cons r reserved ih =>
    rw [List.map_cons, List.nodup_cons] at hn
    rcases List.mem_cons.mp h with rfl | h
    · rw [List.filter_cons_of_pos (by simp), List.filter_eq_nil_iff.mpr]
      intro x hx hid
      exact hn.1 (List.mem_map.mpr ⟨x, hx, by simpa using hid⟩)
    · rw [List.filter_cons_of_neg, ih hn.2 h]
      intro hid
      have hid' : r.creditId = credit.creditId := by simpa using hid
      exact hn.1 (hid' ▸ List.mem_map_of_mem h)

variable [Unicodedata]

lemma validateAdjustment_of_revision {data : QuoteRevisionData} {u : Unit}
    (h : validateRevision data = .ok u) {item : QuoteAdjustmentSnapshot}
    (hitem : item ∈ data.adjustments) : validateAdjustment item = .ok () := by
  simp only [validateRevision, bind_ok, validateTotalsAndAdjustments, validateAdjustments,
    forM_ok] at h
  obtain ⟨_, -, _, -, _, -, _, -, _, -, _, -, _, htotals, -⟩ := h
  obtain ⟨_, -, _, -, _, -, _, -, _, hadjustments, -⟩ := htotals
  obtain ⟨_, -, _, hitems, -⟩ := hadjustments
  exact hitems item hitem

lemma direction_credit {snapshot : ImmutableQuoteSnapshot}
    (h : verifyQuoteSnapshot snapshot = .ok true) {item : QuoteAdjustmentSnapshot}
    (hitem : item ∈ snapshot.data.adjustments) (hkind : isRemedyCredit item = true) :
    item.direction = .credit := by
  have hvalid : ∃ u, validateRevision (normalized snapshot.data) = .ok u := by
    rw [verifyQuoteSnapshot] at h
    split at h
    · split at h
      case h_1 rebuilt hbuild =>
        obtain ⟨u, hu, -⟩ := bind_ok.mp hbuild
        exact ⟨u, hu⟩
      all_goals simp at h
    · simp at h
  obtain ⟨u, hu⟩ := hvalid
  have hchecked := validateAdjustment_of_revision hu (mem_sortBy.mpr hitem)
  have hkind' : item.kind = .remedyCredit := by simpa [isRemedyCredit] using hkind
  simp only [validateAdjustment, bind_ok, validateKind, hkind', check, require_ok] at hchecked
  obtain ⟨_, -, _, -, _, -, _, -, _, hdirection, -⟩ := hchecked
  exact hdirection

lemma onBill_of_names {snapshot : ImmutableQuoteSnapshot} {credits : List CreditRow}
    {reserved : List RemedyCredit} {credit : RemedyCredit} {row : CreditRow}
    (hverified : verifyQuoteSnapshot snapshot = .ok true)
    (hreserved : reservedRemedyCredits snapshot = .ok reserved)
    (hn : (reserved.map RemedyCredit.creditId).Nodup) (hcredit : credit ∈ reserved)
    (hrow : Names credits credit row) : OnBill snapshot row := by
  obtain ⟨-, hid, -, hamount, -⟩ := hrow
  have h := forall₂_filter_takesOff row.id (mapM_ok.mp hreserved)
  rw [hid, filter_creditId hn hcredit, ← hid] at h
  obtain ⟨item, rest, hitem, hnil, hitems⟩ := List.forall₂_cons_right_iff.mp h
  cases List.forall₂_nil_right_iff.mp hnil
  have hmem : item ∈ snapshot.data.adjustments.filter (takesOff row.id) := by
    rw [hitems]
    exact List.mem_singleton_self item
  obtain ⟨hin, htakes⟩ := List.mem_filter.mp hmem
  obtain ⟨hmin, hmax⟩ := reservedCredit_ok hitem
  refine ⟨item, hitems, ?_, hmin.trans hamount.symm, hmax.trans hamount.symm⟩
  exact direction_credit hverified hin (Bool.and_eq_true_iff.mp htakes).1

end Bills

def Store.revision (store : Store) (bill : RevisionRef) : Option ImmutableQuoteSnapshot :=
  (lookup QuoteRow.id store.quotes bill.quoteId).bind fun quote => quote.getRevision bill.revision

/-- Each credit of a revision is on the next one, or the next one states that it is released. -/
def Carries (parent child : ImmutableQuoteSnapshot) : Prop :=
  ∃ reserved, reservedRemedyCredits parent = .ok reserved ∧ ∀ credit ∈ reserved,
    (∃ carried, reservedRemedyCredits child = .ok carried ∧
      credit.creditId ∈ carried.map RemedyCredit.creditId) ∨
    ∃ released, releasedRemedyCreditIds child = .ok released ∧ credit.creditId ∈ released

/-- An order of the store was made from the bill, and the bill takes the credit off. -/
def SpentOn (store : Store) (credit : CreditRow) (bill : RevisionRef) : Prop :=
  (∃ order ∈ store.orders, order.bill = bill) ∧
    ∃ snapshot, store.revision bill = some snapshot ∧ OnBill snapshot credit

/-- The quotes and the orders of a store, as the commands keep them. -/
structure QuotesSound [Unicodedata] (store : Store) : Prop where
  quoteIds : (store.quotes.map QuoteRow.id).Nodup
  orderIds : (store.orders.map OrderRow.id).Nodup
  bills : (store.orders.map fun order => order.bill.quoteId).Nodup
  converted : ∀ order ∈ store.orders, ∃ quote,
    lookup QuoteRow.id store.quotes order.bill.quoteId = some quote ∧ quote.lifecycle = .converted
  verified : ∀ quote ∈ store.quotes, ∀ snapshot ∈ quote.revisions,
    verifyQuoteSnapshot snapshot = .ok true
  carried : ∀ quote ∈ store.quotes, quote.revisions.IsChain Carries

/-- The credits of a store, as the commands keep them. -/
structure CreditsSound (store : Store) : Prop where
  ids : (store.credits.map CreditRow.id).Nodup
  exclusive : ∀ c ∈ store.credits, c.voided = true → c.redeemed = none
  reissues : (store.credits.filterMap CreditRow.reissueOf).Nodup
  originals : ∀ c ∈ store.credits, ∀ id, c.reissueOf = some id →
    ∃ original ∈ store.credits, original.id = id ∧ original.redeemed ≠ none
  spent : ∀ c ∈ store.credits, ∀ bill, c.redeemed = some bill → SpentOn store c bill

def Grows (store store' : Store) : Prop :=
  (∀ order ∈ store.orders, ∃ order' ∈ store'.orders, order'.bill = order.bill) ∧
    ∀ bill snapshot, store.revision bill = some snapshot → store'.revision bill = some snapshot

lemma SpentOn.grows {store store' : Store} (hgrows : Grows store store') {credit : CreditRow}
    {bill : RevisionRef} (h : SpentOn store credit bill) : SpentOn store' credit bill := by
  obtain ⟨⟨order, horder, hbill⟩, snapshot, hsnapshot, hon⟩ := h
  obtain ⟨order', horder', hbill'⟩ := hgrows.1 order horder
  exact ⟨⟨order', horder', hbill'.trans hbill⟩, snapshot, hgrows.2 _ _ hsnapshot, hon⟩

lemma onBill_congr {snapshot : ImmutableQuoteSnapshot} {c c' : CreditRow} (hid : c'.id = c.id)
    (hamount : c'.amountVnd = c.amountVnd) (h : OnBill snapshot c) : OnBill snapshot c' := by
  rw [OnBill, hid, hamount]
  exact h

lemma CreditsSound.evolve {store store' : Store} (h : CreditsSound store)
    (step : CreditRow → CreditRow) (fresh : List CreditRow)
    (heq : store'.credits = store.credits.map step ++ fresh)
    (hadvance : ∀ c ∈ store.credits, Advance c (step c))
    (hfresh : ∀ c ∈ fresh, c.isOpen ∧ ∀ id, c.reissueOf = some id →
      ∃ original ∈ store.credits, original.id = id ∧ original.redeemed ≠ none)
    (hids : (store'.credits.map CreditRow.id).Nodup)
    (hreissues : (store'.credits.filterMap CreditRow.reissueOf).Nodup)
    (hspent : ∀ c ∈ store.credits, ∀ bill, (step c).redeemed = some bill →
      SpentOn store' (step c) bill) : CreditsSound store' := by
  have hmem : ∀ c ∈ store'.credits, (∃ c₀ ∈ store.credits, step c₀ = c) ∨ c ∈ fresh := by
    intro c hc
    rw [heq, List.mem_append, List.mem_map] at hc
    exact hc
  have horiginal : ∀ id, (∃ original ∈ store.credits, original.id = id ∧
      original.redeemed ≠ none) →
      ∃ original ∈ store'.credits, original.id = id ∧ original.redeemed ≠ none := by
    rintro id ⟨original, horiginal, hid, hredeemed⟩
    have hsame : step original = original :=
      (hadvance original horiginal).eq_of_not_open fun ho => hredeemed ho.1
    refine ⟨original, ?_, hid, hredeemed⟩
    rw [heq]
    exact List.mem_append_left _ (List.mem_map.mpr ⟨original, horiginal, hsame⟩)
  refine ⟨hids, ?_, hreissues, ?_, ?_⟩
  · intro c hc hvoided
    rcases hmem c hc with ⟨c₀, hc₀, rfl⟩ | hc
    · exact (hadvance c₀ hc₀).exclusive (h.exclusive c₀ hc₀) hvoided
    · exact (hfresh c hc).1.1
  · intro c hc id hid
    refine horiginal id ?_
    rcases hmem c hc with ⟨c₀, hc₀, rfl⟩ | hc
    · rw [(hadvance c₀ hc₀).reissueOf_eq] at hid
      exact h.originals c₀ hc₀ id hid
    · exact (hfresh c hc).2 id hid
  · intro c hc bill hbill
    rcases hmem c hc with ⟨c₀, hc₀, rfl⟩ | hc
    · exact hspent c₀ hc₀ bill hbill
    · rw [(hfresh c hc).1.1] at hbill
      cases hbill

section Issue

variable {store store' : Store}

lemma issue_ok {command : IssueCommand} (h : issue store command = .ok store') :
    command.id ∉ store.credits.map CreditRow.id ∧
      ∃ fresh : CreditRow, fresh.id = command.id ∧ fresh.isOpen ∧ fresh.reissueOf = none ∧
        store' = { store with credits := store.credits ++ [fresh] } := by
  simp only [issue, bind_ok, require_ok] at h
  obtain ⟨-, ⟨-, hid⟩, h⟩ := h
  cases h
  exact ⟨hid, _, rfl, ⟨rfl, rfl⟩, rfl, rfl⟩

lemma CreditsSound.issue {command : IssueCommand} (hs : CreditsSound store)
    (h : issue store command = .ok store') : CreditsSound store' := by
  obtain ⟨hid, fresh, hfresh, hopen, hreissue, rfl⟩ := issue_ok h
  refine hs.evolve id [fresh] (by rw [List.map_id]) (fun _ _ => .stays) ?_ ?_ ?_ ?_
  · intro c hc
    cases List.mem_singleton.mp hc
    exact ⟨hopen, fun id h => by rw [hreissue] at h; cases h⟩
  · rw [List.map_append, List.nodup_append]
    refine ⟨hs.ids, List.nodup_singleton _, ?_⟩
    rintro a ha b hb rfl
    exact hid (hfresh ▸ List.mem_singleton.mp hb ▸ ha)
  · rw [List.filterMap_append, List.filterMap_cons_none hreissue, List.filterMap_nil,
      List.append_nil]
    exact hs.reissues
  · intro c hc bill hbill
    exact hs.spent c hc bill hbill

end Issue

section Cancellation

variable {store store' : Store}

lemma plan_credits {resolution : Option CustodyResolution} {refundableVnd : Int}
    {issued spent : List RemedyCreditFact} {plan : CancellationMoneyPlan}
    (h : cancellationMoneyPlan resolution refundableVnd issued spent = .ok plan) :
    (∀ fact ∈ plan.voided, fact ∈ issued ∧ fact.state = .unspent) ∧
      ∀ fact ∈ plan.reissued, fact ∈ spent ∧ fact.state = .spent := by
  simp only [cancellationMoneyPlan, bind_ok, require_ok] at h
  obtain ⟨-, -, -, -, h⟩ := h
  split at h
  · cases h
    exact ⟨by simp, by simp⟩
  · cases h
    refine ⟨fun fact hfact => ?_, fun fact hfact => ?_⟩
    · simpa using List.mem_filter.mp hfact
    · simpa using List.mem_filter.mp hfact

lemma cancelOrder_ok {command : CancelCommand} (hn : (store.credits.map CreditRow.id).Nodup)
    (h : cancelOrder store command = .ok store') :
    ∃ (order : OrderRow) (plan : CancellationMoneyPlan) (reissued : List CreditRow),
      lookup OrderRow.id store.orders command.orderId = some order ∧
      (∀ c ∈ store.credits, Advance c (void plan c)) ∧
      (∀ original ∈ reissued, original ∈ store.credits ∧ original.redeemed = some order.bill) ∧
      store'.credits = store.credits.map (void plan) ++ reissued.map (reissue command) ∧
      (store'.credits.map CreditRow.id).Nodup ∧
      (store'.credits.filterMap CreditRow.reissueOf).Nodup ∧
      store'.quotes = store.quotes ∧
      store'.orders = put OrderRow.id store.orders { order with cancelled := true } := by
  rw [cancelOrder] at h
  cases horder : lookup OrderRow.id store.orders command.orderId with
  | none =>
    rw [horder] at h
    cases h
  | some order =>
    simp only [horder, bind_ok, require_ok, mapError_ok] at h
    obtain ⟨-, -, plan, hplan, _, -, -, ⟨hids, hreissues⟩, h⟩ := h
    cases h
    obtain ⟨hvoided, -⟩ := plan_credits hplan
    refine ⟨order, plan, _, rfl, fun c hc => ?_, fun c hc => ?_, rfl, hids, hreissues, rfl, rfl⟩
    · rw [void]
      by_cases hin : c.id ∈ plan.voided.map RemedyCreditFact.creditId
      · obtain ⟨fact, hfact, hid⟩ := List.mem_map.mp hin
        obtain ⟨hissued, hstate⟩ := hvoided fact hfact
        obtain ⟨c₀, hc₀, rfl⟩ := List.mem_map.mp hissued
        have hmem : c₀ ∈ store.credits := (List.mem_filter.mp (mem_sortBy.mp hc₀)).1
        cases List.inj_on_of_nodup_map hn hmem hc hid
        rw [if_pos hin]
        exact .voided (state_unspent.mp hstate)
      · rw [if_neg hin]
        exact .stays
    · have hc' := List.mem_filter.mp (mem_sortBy.mp (List.mem_filter.mp hc).1)
      exact ⟨hc'.1, by simpa using hc'.2⟩

@[simp] lemma void_redeemed (plan : CancellationMoneyPlan) (credit : CreditRow) :
    (void plan credit).redeemed = credit.redeemed := by
  unfold void
  split <;> rfl

lemma map_bill_put {orders : List OrderRow} {order : OrderRow}
    (hn : (orders.map OrderRow.id).Nodup) (horder : order ∈ orders) :
    (put OrderRow.id orders { order with cancelled := true }).map OrderRow.bill =
      orders.map OrderRow.bill := by
  rw [put, List.map_map]
  refine List.map_congr_left fun o ho => ?_
  by_cases hid : o.id = order.id
  · cases List.inj_on_of_nodup_map hn ho horder hid
    simp
  · simp [hid]

variable [Unicodedata]

lemma grows_cancel {order : OrderRow} (hq : QuotesSound store)
    (horder : order ∈ store.orders) (hquotes : store'.quotes = store.quotes)
    (horders : store'.orders = put OrderRow.id store.orders { order with cancelled := true }) :
    Grows store store' := by
  constructor
  · intro o ho
    have hmem : o.bill ∈ store'.orders.map OrderRow.bill := by
      rw [horders, map_bill_put hq.orderIds horder]
      exact List.mem_map_of_mem ho
    exact List.mem_map.mp hmem
  · intro bill snapshot h
    rw [Store.revision, hquotes]
    exact h

lemma CreditsSound.cancelOrder {command : CancelCommand} (hq : QuotesSound store)
    (hs : CreditsSound store) (h : cancelOrder store command = .ok store') :
    CreditsSound store' := by
  obtain ⟨order, plan, reissued, horder, hvoid, hreissued, hcredits, hids, hreissues, hquotes,
    horders⟩ := cancelOrder_ok hs.ids h
  have hgrows := grows_cancel hq (lookup_mem horder) hquotes horders
  refine hs.evolve (void plan) _ hcredits hvoid ?_ hids hreissues ?_
  · intro c hc
    obtain ⟨original, horiginal, rfl⟩ := List.mem_map.mp hc
    refine ⟨⟨rfl, rfl⟩, fun id hid => ?_⟩
    obtain ⟨hmem, hredeemed⟩ := hreissued original horiginal
    exact ⟨original, hmem, Option.some.inj hid, by rw [hredeemed]; exact Option.some_ne_none _⟩
  · intro c hc bill hbill
    rw [void_redeemed] at hbill
    rw [(hvoid c hc).redeemed_eq hbill]
    exact (hs.spent c hc bill hbill).grows hgrows

lemma QuotesSound.cancelOrder {command : CancelCommand} (hq : QuotesSound store)
    (hs : CreditsSound store) (h : cancelOrder store command = .ok store') :
    QuotesSound store' := by
  obtain ⟨order, -, -, horder, -, -, -, -, -, hquotes, horders⟩ := cancelOrder_ok hs.ids h
  have hbills := map_bill_put hq.orderIds (lookup_mem horder)
  refine ⟨by rw [hquotes]; exact hq.quoteIds, ?_, ?_, ?_, ?_, ?_⟩
  · rw [horders, map_key_put]
    exact hq.orderIds
  · have hmap := congrArg (List.map RevisionRef.quoteId) hbills
    rw [List.map_map, List.map_map] at hmap
    rw [horders]
    exact hmap ▸ hq.bills
  · intro o ho
    have hmem : o.bill ∈ store.orders.map OrderRow.bill := by
      rw [← hbills, ← horders]
      exact List.mem_map_of_mem ho
    obtain ⟨o', ho', hbill⟩ := List.mem_map.mp hmem
    rw [hquotes, ← hbill]
    exact hq.converted o' ho'
  · rw [hquotes]
    exact hq.verified
  · rw [hquotes]
    exact hq.carried

end Cancellation

section Revisions

variable {store store' : Store}

lemma getRevision_last {quote : QuoteRow} {revision : Nat} {parent : ImmutableQuoteSnapshot}
    (hcurrent : quote.currentRevision = revision + 1)
    (h : quote.getRevision (revision + 1) = some parent) :
    quote.revisions.getLast? = some parent := by
  rw [QuoteRow.currentRevision] at hcurrent
  rw [List.getLast?_eq_getElem?, hcurrent]
  exact h

lemma getRevision_append {quote : QuoteRow} {revision : Nat} {snapshot : ImmutableQuoteSnapshot}
    (fresh : List ImmutableQuoteSnapshot) (h : quote.getRevision revision = some snapshot) :
    QuoteRow.getRevision { quote with revisions := quote.revisions ++ fresh } revision =
      some snapshot := by
  rw [QuoteRow.getRevision] at h ⊢
  split at h
  · cases h
  · rename_i hne
    rw [if_neg hne]
    rw [List.getElem?_append_left (List.getElem?_eq_some_iff.mp h).1]
    exact h

lemma carries_of_ok {parent snapshot : ImmutableQuoteSnapshot} {u : Unit}
    (h : refuseASilentlyDroppedCredit parent snapshot = .ok u) : Carries parent snapshot := by
  rw [refuseASilentlyDroppedCredit] at h
  split at h
  · simp only [bind_ok, mapError_ok, require_ok] at h
    obtain ⟨reserved, hreserved, carried, hcarried, released, hreleased, h⟩ := h
    refine ⟨reserved, hreserved, fun credit hcredit => ?_⟩
    rcases h credit hcredit with h | h
    · exact .inl ⟨carried, hcarried, h⟩
    · exact .inr ⟨released, hreleased, h⟩
  · rename_i hnone
    refine ⟨[], ?_, by simp⟩
    have hnil : parent.data.adjustments.filter isRemedyCredit = [] := by
      simpa [List.filter_eq_nil_iff] using hnone
    rw [reservedRemedyCredits, hnil]
    rfl

variable [Unicodedata]

lemma createRevision_ok {snapshot : ImmutableQuoteSnapshot} {expected : Nat}
    (h : createRevision store snapshot expected = .ok store') :
    verifyQuoteSnapshot snapshot = .ok true ∧ store'.credits = store.credits ∧
      store'.orders = store.orders ∧
      ((lookup QuoteRow.id store.quotes snapshot.data.quoteId = none ∧
          store'.quotes = store.quotes ++ [⟨snapshot.data.quoteId, .open, [snapshot]⟩]) ∨
        ∃ quote parent, lookup QuoteRow.id store.quotes snapshot.data.quoteId = some quote ∧
          quote.lifecycle = .open ∧ quote.revisions.getLast? = some parent ∧
          Carries parent snapshot ∧ store'.quotes = put QuoteRow.id store.quotes
            { quote with revisions := quote.revisions ++ [snapshot] }) := by
  simp only [createRevision, bind_ok, mapError_ok, require_ok] at h
  obtain ⟨verified, hverified, -, rfl, -, -, h⟩ := h
  refine ⟨hverified, ?_⟩
  cases expected with
  | zero =>
    cases hquote : lookup QuoteRow.id store.quotes snapshot.data.quoteId with
    | some quote => simp [hquote] at h
    | none =>
      simp only [hquote] at h
      cases h
      exact ⟨rfl, rfl, .inl ⟨rfl, rfl⟩⟩
  | succ revision =>
    cases hquote : lookup QuoteRow.id store.quotes snapshot.data.quoteId with
    | none => simp [hquote] at h
    | some quote =>
      simp only [hquote, bind_ok, require_ok] at h
      obtain ⟨-, ⟨hopen, hcurrent⟩, h⟩ := h
      cases hparent : quote.getRevision (revision + 1) with
      | none => simp [hparent] at h
      | some parent =>
        simp only [hparent, bind_ok] at h
        obtain ⟨_, hcarries, h⟩ := h
        cases h
        exact ⟨rfl, rfl, .inr ⟨quote, parent, rfl, hopen, getRevision_last hcurrent hparent,
          carries_of_ok hcarries, rfl⟩⟩

omit [Unicodedata] in
lemma revision_put {quote quote' : QuoteRow}
    (hquote : lookup QuoteRow.id store.quotes quote'.id = some quote)
    (hkeeps : ∀ revision snapshot, quote.getRevision revision = some snapshot →
      quote'.getRevision revision = some snapshot)
    (hquotes : store'.quotes = put QuoteRow.id store.quotes quote') :
    ∀ bill snapshot, store.revision bill = some snapshot →
      store'.revision bill = some snapshot := by
  intro bill snapshot h
  rw [Store.revision, hquotes]
  rw [Store.revision] at h
  by_cases hid : quote'.id = bill.quoteId
  · rw [← hid, lookup_put_same hquote]
    rw [← hid, hquote] at h
    exact hkeeps _ _ h
  · rw [lookup_put_ne _ hid]
    exact h

omit [Unicodedata] in
lemma revision_append {fresh : QuoteRow}
    (hquotes : store'.quotes = store.quotes ++ [fresh]) :
    ∀ bill snapshot, store.revision bill = some snapshot →
      store'.revision bill = some snapshot := by
  intro bill snapshot h
  rw [Store.revision] at h ⊢
  obtain ⟨quote, hquote, hrevision⟩ := Option.bind_eq_some_iff.mp h
  rw [hquotes, lookup, List.find?_append, ← lookup, hquote]
  exact hrevision

lemma QuotesSound.put {quote quote' : QuoteRow} (hq : QuotesSound store)
    (hquote : lookup QuoteRow.id store.quotes quote'.id = some quote)
    (hlifecycle : quote.lifecycle = .converted → quote'.lifecycle = .converted)
    (hverified : ∀ snapshot ∈ quote'.revisions, verifyQuoteSnapshot snapshot = .ok true)
    (hcarried : quote'.revisions.IsChain Carries)
    (hquotes : store'.quotes = put QuoteRow.id store.quotes quote')
    (horders : store'.orders = store.orders) : QuotesSound store' := by
  have hmem : ∀ q ∈ store'.quotes, q = quote' ∨ q ∈ store.quotes := by
    intro q hmem
    rw [hquotes, mem_put (lookup_mem hquote) (lookup_key hquote).symm] at hmem
    exact hmem.imp_right And.left
  refine ⟨?_, by rw [horders]; exact hq.orderIds, by rw [horders]; exact hq.bills, ?_, ?_, ?_⟩
  · rw [hquotes, map_key_put]
    exact hq.quoteIds
  · intro order horder
    rw [horders] at horder
    obtain ⟨q, hlookup, hconverted⟩ := hq.converted order horder
    rw [hquotes]
    by_cases hid : quote'.id = order.bill.quoteId
    · rw [← hid, hquote] at hlookup
      cases hlookup
      exact ⟨quote', hid ▸ lookup_put_same hquote, hlifecycle hconverted⟩
    · exact ⟨q, (lookup_put_ne _ hid).trans hlookup, hconverted⟩
  · intro q hq'
    rcases hmem q hq' with rfl | hq'
    · exact hverified
    · exact hq.verified q hq'
  · intro q hq'
    rcases hmem q hq' with rfl | hq'
    · exact hcarried
    · exact hq.carried q hq'

lemma QuotesSound.append {quoteId : Uuid} {snapshot : ImmutableQuoteSnapshot}
    (hq : QuotesSound store) (hnew : lookup QuoteRow.id store.quotes quoteId = none)
    (hverified : verifyQuoteSnapshot snapshot = .ok true)
    (hquotes : store'.quotes = store.quotes ++ [⟨quoteId, .open, [snapshot]⟩])
    (horders : store'.orders = store.orders) : QuotesSound store' := by
  refine ⟨?_, by rw [horders]; exact hq.orderIds, by rw [horders]; exact hq.bills, ?_, ?_, ?_⟩
  · rw [hquotes, List.map_append, List.nodup_append]
    refine ⟨hq.quoteIds, List.nodup_singleton _, ?_⟩
    rintro a ha b hb rfl
    obtain ⟨quote, hquote, hid⟩ := List.mem_map.mp ha
    refine List.find?_eq_none.mp hnew quote hquote ?_
    simpa using hid.trans (List.mem_singleton.mp hb)
  · intro order horder
    rw [horders] at horder
    obtain ⟨quote, hquote, hconverted⟩ := hq.converted order horder
    refine ⟨quote, ?_, hconverted⟩
    rw [hquotes, lookup, List.find?_append, ← lookup, hquote]
    rfl
  · intro quote hquote s hs
    rw [hquotes, List.mem_append] at hquote
    rcases hquote with hquote | hquote
    · exact hq.verified quote hquote s hs
    · cases List.mem_singleton.mp hquote
      cases List.mem_singleton.mp hs
      exact hverified
  · intro quote hquote
    rw [hquotes, List.mem_append] at hquote
    rcases hquote with hquote | hquote
    · exact hq.carried quote hquote
    · cases List.mem_singleton.mp hquote
      exact .singleton _

lemma QuotesSound.createRevision {snapshot : ImmutableQuoteSnapshot} {expected : Nat}
    (hq : QuotesSound store) (h : createRevision store snapshot expected = .ok store') :
    QuotesSound store' ∧ Grows store store' := by
  obtain ⟨hverified, -, horders, hquotes⟩ := createRevision_ok h
  have hsame : ∀ order ∈ store.orders, ∃ order' ∈ store'.orders, order'.bill = order.bill :=
    fun order horder => ⟨order, horders ▸ horder, rfl⟩
  rcases hquotes with ⟨hnew, hquotes⟩ | ⟨quote, parent, hquote, hopen, hlast, hcarries, hquotes⟩
  · exact ⟨hq.append hnew hverified hquotes horders, hsame, revision_append hquotes⟩
  · have hid := lookup_key hquote
    have hmem := lookup_mem hquote
    have hquote' : lookup QuoteRow.id store.quotes
        (QuoteRow.mk quote.id quote.lifecycle (quote.revisions ++ [snapshot])).id = some quote := by
      rw [hid]
      exact hquote
    refine ⟨hq.put hquote' id ?_ ?_ hquotes horders, hsame,
      revision_put hquote' (fun _ _ => getRevision_append [snapshot]) hquotes⟩
    · intro s hs
      rcases List.mem_append.mp hs with hs | hs
      · exact hq.verified quote hmem s hs
      · cases List.mem_singleton.mp hs
        exact hverified
    · refine List.isChain_append.mpr ⟨hq.carried quote hmem, .singleton _, ?_⟩
      intro x hx y hy
      rw [hlast] at hx
      cases hx
      cases hy
      exact hcarries

end Revisions

section Orders

variable {store store' : Store} {command : CreateOrderCommand}

lemma createOrder_ok (hn : (store.credits.map CreditRow.id).Nodup)
    (h : createOrder store command = .ok store') :
    ∃ quote snapshot reserved,
      lookup QuoteRow.id store.quotes command.bill.quoteId = some quote ∧
      quote.lifecycle = .open ∧ quote.getRevision command.bill.revision = some snapshot ∧
      reservedRemedyCredits snapshot = .ok reserved ∧
      (reserved.map RemedyCredit.creditId).Nodup ∧
      (∀ credit ∈ reserved, ∃ row, Names store.credits credit row) ∧
      command.orderId ∉ store.orders.map OrderRow.id ∧
      store' =
        { credits := store.credits.map
            (spentBy command.bill (reserved.map RemedyCredit.creditId))
          quotes := put QuoteRow.id store.quotes { quote with lifecycle := .converted }
          orders := store.orders ++ [⟨command.orderId, command.bill, false⟩] } := by
  rw [createOrder] at h
  cases hquote : lookup QuoteRow.id store.quotes command.bill.quoteId with
  | none =>
    rw [hquote] at h
    cases h
  | some quote =>
    simp only [hquote, bind_ok, require_ok] at h
    obtain ⟨-, hopen, h⟩ := h
    cases hsnapshot : quote.getRevision command.bill.revision with
    | none =>
      rw [hsnapshot] at h
      cases h
    | some snapshot =>
      simp only [hsnapshot, bind_ok, require_ok] at h
      obtain ⟨-, -, -, hid, credits, hcredits, h⟩ := h
      obtain ⟨reserved, hreserved, rfl, hnodup, hnames⟩ :=
        spendReservedRemedyCredits_ok hn hcredits
      cases h
      exact ⟨quote, snapshot, reserved, rfl, hopen, hsnapshot, hreserved, hnodup, hnames, hid, rfl⟩

lemma createOrder_of_names {quote : QuoteRow} {snapshot : ImmutableQuoteSnapshot}
    {reserved : List RemedyCredit} (hn : (store.credits.map CreditRow.id).Nodup)
    (hquote : lookup QuoteRow.id store.quotes command.bill.quoteId = some quote)
    (hopen : quote.lifecycle = .open)
    (hsnapshot : quote.getRevision command.bill.revision = some snapshot)
    (hagreed : command.agreed = true ∧ snapshot.data.finality = .approvedExact ∧
      snapshot.data.status = .acceptedFinal)
    (hid : command.orderId ∉ store.orders.map OrderRow.id)
    (hreserved : reservedRemedyCredits snapshot = .ok reserved)
    (hnodup : (reserved.map RemedyCredit.creditId).Nodup)
    (hnames : ∀ credit ∈ reserved, ∃ row, Names store.credits credit row) :
    ∃ store', createOrder store command = .ok store' := by
  have hsorted : ((sortBy (fun credit => credit.creditId.int) reserved).map
      RemedyCredit.creditId).Nodup := nodup_map_sortBy.mpr hnodup
  obtain ⟨credits, hcredits⟩ := foldlM_spendCredit_of_names command.bill hn hsorted
    fun credit hcredit => hnames credit (mem_sortBy.mp hcredit)
  have hspend : spendReservedRemedyCredits store.credits command.bill snapshot = .ok credits := by
    rw [spendReservedRemedyCredits, hreserved]
    exact hcredits
  rw [createOrder]
  simp only [hquote, hsnapshot, hspend]
  rw [require_true hopen, require_true hagreed, require_true hid]
  exact ⟨_, rfl⟩

lemma grows_createOrder (hs : CreditsSound store) (h : createOrder store command = .ok store') :
    Grows store store' := by
  obtain ⟨quote, snapshot, reserved, hquote, -, -, -, -, -, -, rfl⟩ := createOrder_ok hs.ids h
  refine ⟨fun order horder => ⟨order, List.mem_append_left _ horder, rfl⟩, ?_⟩
  have hquote' : lookup QuoteRow.id store.quotes
      (QuoteRow.mk quote.id .converted quote.revisions).id = some quote :=
    (lookup_key hquote).symm ▸ hquote
  exact revision_put hquote' (fun _ _ h => h) rfl

variable [Unicodedata]

lemma QuotesSound.createOrder (hq : QuotesSound store) (hs : CreditsSound store)
    (h : createOrder store command = .ok store') : QuotesSound store' := by
  obtain ⟨quote, snapshot, reserved, hquote, hopen, -, -, -, -, hid, rfl⟩ :=
    createOrder_ok hs.ids h
  have hquote' : lookup QuoteRow.id store.quotes
      (QuoteRow.mk quote.id .converted quote.revisions).id = some quote :=
    (lookup_key hquote).symm ▸ hquote
  have hmem := lookup_mem hquote
  -- the quote is converted first, then the order is added to its bill
  have hput : QuotesSound { store with
      quotes := Table.put QuoteRow.id store.quotes { quote with lifecycle := .converted } } :=
    hq.put hquote' (fun _ => rfl) (hq.verified quote hmem) (hq.carried quote hmem) rfl rfl
  refine ⟨hput.quoteIds, ?_, ?_, ?_, hput.verified, hput.carried⟩
  · rw [List.map_append, List.nodup_append]
    refine ⟨hq.orderIds, List.nodup_singleton _, ?_⟩
    rintro a ha b hb rfl
    rw [List.mem_singleton.mp hb] at ha
    exact hid ha
  · rw [List.map_append, List.nodup_append]
    refine ⟨hq.bills, List.nodup_singleton _, ?_⟩
    rintro a ha b hb rfl
    obtain ⟨order, horder, hbill⟩ := List.mem_map.mp ha
    obtain ⟨q, hlookup, hconverted⟩ := hq.converted order horder
    rw [hbill, List.mem_singleton.mp hb, hquote] at hlookup
    cases hlookup
    rw [hopen] at hconverted
    cases hconverted
  · intro order horder
    rcases List.mem_append.mp horder with horder | horder
    · exact hput.converted order horder
    · cases List.mem_singleton.mp horder
      refine ⟨{ quote with lifecycle := .converted }, ?_, rfl⟩
      exact lookup_key hquote ▸ lookup_put_same hquote'

lemma CreditsSound.createOrder (hq : QuotesSound store) (hs : CreditsSound store)
    (h : createOrder store command = .ok store') : CreditsSound store' := by
  have hgrows := grows_createOrder hs h
  obtain ⟨quote, snapshot, reserved, hquote, hopen, hsnapshot, hreserved, hnodup, hnames, -, rfl⟩ :=
    createOrder_ok hs.ids h
  have hreissues : (store.credits.map
      (spentBy command.bill (reserved.map RemedyCredit.creditId))).filterMap CreditRow.reissueOf =
      store.credits.filterMap CreditRow.reissueOf := by
    rw [List.filterMap_map]
    refine List.filterMap_congr fun c _ => ?_
    simp only [Function.comp_apply, spentBy]
    split <;> rfl
  have hverified : verifyQuoteSnapshot snapshot = .ok true := by
    rw [QuoteRow.getRevision] at hsnapshot
    split at hsnapshot
    · cases hsnapshot
    · exact hq.verified quote (lookup_mem hquote) snapshot (List.mem_of_getElem? hsnapshot)
  have hrevision : store.revision command.bill = some snapshot := by
    rw [Store.revision, hquote]
    exact hsnapshot
  refine hs.evolve (spentBy command.bill (reserved.map RemedyCredit.creditId)) []
    (List.append_nil _).symm (advance_spentBy hs.ids hnames) (by simp) ?_ ?_ ?_
  · rw [map_id_spentBy]
    exact hs.ids
  · rw [hreissues]
    exact hs.reissues
  · intro c hc bill hbill
    by_cases hin : c.id ∈ reserved.map RemedyCredit.creditId
    · rw [spentBy, if_pos hin] at hbill ⊢
      cases hbill
      obtain ⟨credit, hcredit, hid⟩ := List.mem_map.mp hin
      obtain ⟨row, hrow⟩ := hnames credit hcredit
      cases List.inj_on_of_nodup_map hs.ids hc hrow.1 (hid.symm.trans hrow.2.1.symm)
      have hon : OnBill snapshot c := onBill_of_names hverified hreserved hnodup hcredit hrow
      exact ⟨⟨_, List.mem_append_right _ (List.mem_singleton_self _), rfl⟩, snapshot,
        hgrows.2 _ _ hrevision, onBill_congr rfl rfl hon⟩
    · rw [spentBy, if_neg hin] at hbill ⊢
      exact (hs.spent c hc bill hbill).grows hgrows

end Orders

end NhaTrangLaundry.Db.RemedyCredits
