import NhaTrangLaundry.Domain.ExplainedDiscounts

/-! The credits that a re-priced revision was offered: each is reserved whole or stated as
released. Over every run of the derivations the discount on the bill stays explained. -/

namespace NhaTrangLaundry.Domain.QuoteComposition

open Lib Catalog Canonical Outcome Sorting Distinct Quotes Promotion Delivery Pricing RangePrices
open Remedies StrEnum

variable [Unicodedata]

/-- A bill that reserves some credits, over the bill without them. -/
structure Reserves (plain snapshot : ImmutableQuoteSnapshot) (reserved : List RemedyCredit)
    (frozen : Option FrozenPromotion) : Prop where
  explained : Explained snapshot reserved frozen
  unreleased : ∀ trace ∈ snapshot.data.calculationTraces, releasedName trace = none
  untouched : reserved = [] → snapshot = plain

lemma Reserves.redeem {plain snapshot credited : ImmutableQuoteSnapshot}
    {reserved : List RemedyCredit} {frozen : Option FrozenPromotion} {revision : Int}
    {credit : RemedyCredit} (h : Reserves plain snapshot reserved frozen)
    (hredeem : redeemRemedyCredit snapshot revision credit = .ok credited) :
    Reserves plain credited (reserved ++ [credit]) frozen := by
  obtain ⟨hexplained, trace, hcomponent, htraces⟩ := h.explained.redeem hredeem
  refine ⟨hexplained, ?_, fun hnil => absurd hnil (by simp)⟩
  intro trace' htrace'
  rcases List.mem_append.mp (htraces.mem_iff.mp htrace') with hmem | hmem
  · exact h.unreleased trace' hmem
  · rw [List.mem_singleton.mp hmem]
    exact releasedName_credit hcomponent

lemma carryCredits_split {plain : ImmutableQuoteSnapshot} {revision : Int}
    {credits : List RemedyCredit} {snapshot : ImmutableQuoteSnapshot} {reserved : List RemedyCredit}
    {frozen : Option FrozenPromotion} {released : List (RemedyCredit × String)}
    {carried : ImmutableQuoteSnapshot × List (RemedyCredit × String)}
    (h : Reserves plain snapshot reserved frozen)
    (hcarry : carryCredits revision credits snapshot released = .ok carried) :
    ∃ taken refused, Reserves plain carried.1 (reserved ++ taken) frozen ∧
      carried.2.map Prod.fst = released.map Prod.fst ++ refused ∧ (taken ++ refused).Perm credits := by
  induction credits generalizing snapshot reserved released with
  | nil =>
    cases hcarry
    exact ⟨[], [], by rwa [List.append_nil], by rw [List.append_nil], .refl _⟩
  | cons credit credits ih =>
    rw [carryCredits] at hcarry
    split at hcarry
    · next credited hredeem =>
      obtain ⟨taken, refused, hreserves, hreleased, hperm⟩ := ih (h.redeem hredeem) hcarry
      refine ⟨credit :: taken, refused, ?_, hreleased, hperm.cons credit⟩
      rwa [List.append_assoc, List.singleton_append] at hreserves
    · obtain ⟨taken, refused, hreserves, hreleased, hperm⟩ := ih h hcarry
      refine ⟨taken, credit :: refused, hreserves, ?_, ?_⟩
      · rw [hreleased, List.map_append, List.map_singleton, List.append_assoc,
          List.singleton_append]
      · exact List.perm_middle.trans (hperm.cons credit)
    · cases hcarry

lemma releasedTrace_component {credit : RemedyCredit} {reason : String}
    {trace : CalculationTraceSnapshot} (h : releasedTrace credit reason = .ok trace) :
    releasedName trace = some credit.creditId.hexUpper :=
  releasedName_released (capture_component h)

lemma filterMap_released {released : List (RemedyCredit × String)}
    {traces : List CalculationTraceSnapshot}
    (h : List.Forall₂ (fun r trace => releasedTrace r.1 r.2 = .ok trace) released traces) :
    traces.filterMap releasedName =
      (released.map fun r => r.1.creditId).map Uuid.hexUpper := by
  induction h with
  | nil => rfl
  | cons hone _ ih =>
    rw [List.filterMap_cons, releasedTrace_component hone, ih]
    rfl

omit [Unicodedata] in
lemma releasedId_hexUpper (creditId : Uuid) : releasedId creditId.hexUpper = .ok creditId := by
  rw [releasedId, Uuid.ofText_hexUpper]

lemma Reserves.stated {plain bill snapshot : ImmutableQuoteSnapshot} {reserved : List RemedyCredit}
    {frozen : Option FrozenPromotion} {released : List (RemedyCredit × String)}
    (h : Reserves plain bill reserved frozen)
    (hstate : (if released = [] then .ok bill else stateReleasedCredits bill released) =
      (.ok snapshot : Except Failure ImmutableQuoteSnapshot)) :
    Explained snapshot reserved frozen ∧ snapshot.data.totals = bill.data.totals ∧
      ∃ ids, releasedRemedyCreditIds snapshot = .ok ids ∧
        ids.Perm (released.map fun r => r.1.creditId) := by
  split_ifs at hstate with hnone
  · cases hstate
    refine ⟨h.explained, rfl, [], ?_, ?_⟩
    · rw [releasedRemedyCreditIds, List.filterMap_eq_nil_iff.mpr h.unreleased]
      rfl
    · rw [hnone]
      exact .refl _
  · obtain ⟨hexplained, htotals, traces, hall, htraces⟩ := h.explained.state hstate
    have hnames : (bill.data.calculationTraces ++ traces).filterMap releasedName =
        (released.map fun r => r.1.creditId).map Uuid.hexUpper := by
      rw [List.filterMap_append, List.filterMap_eq_nil_iff.mpr h.unreleased, List.nil_append,
        filterMap_released hall]
    have hperm : (snapshot.data.calculationTraces.filterMap releasedName).Perm
        ((released.map fun r => r.1.creditId).map Uuid.hexUpper) := by
      rw [← hnames]
      exact htraces.filterMap releasedName
    exact ⟨hexplained, htotals, mapM_perm hperm (mapM_map_ok releasedId_hexUpper _)⟩

/-- A revision that `compose_quote_revision` returned, with what it was asked. -/
structure RepricedRevision where
  request : QuoteRequest
  remedyCredits : List RemedyCredit
  spent : List Uuid
  snapshot : ImmutableQuoteSnapshot
  composed : composeQuoteRevision request remedyCredits spent = .ok snapshot

/-- What the readers of the later steps find on a revision. -/
structure Reads (snapshot : ImmutableQuoteSnapshot) (reserved : List RemedyCredit)
    (released : List Uuid) (frozen : Option FrozenPromotion) : Prop where
  reserved : reservedRemedyCredits snapshot = .ok reserved
  released : releasedRemedyCreditIds snapshot = .ok released
  frozen : frozenPromotion snapshot = .ok frozen

/-- What a composed revision says of the credits that it was offered. -/
structure Conserves (request : QuoteRequest) (remedyCredits : List RemedyCredit)
    (spent : List Uuid) (snapshot plain : ImmutableQuoteSnapshot) (reserved : List RemedyCredit)
    (released : List Uuid) (frozen : Option FrozenPromotion) : Prop where
  reads : Reads snapshot reserved released frozen
  once : (reserved.map RemedyCredit.creditId ++ released).Nodup
  all : ∀ creditId, creditId ∈ reserved.map RemedyCredit.creditId ++ released ↔
    creditId ∈ remedyCredits.map RemedyCredit.creditId
  whole : ∀ credit ∈ reserved, credit ∈ remedyCredits ∧ credit.creditId ∉ spent
  discount : snapshot.data.totals.discountAmountMinVnd =
      frozenDiscount frozen + (reserved.map RemedyCredit.amountVnd).sum ∧
    snapshot.data.totals.discountAmountMaxVnd =
      frozenDiscount frozen + (reserved.map RemedyCredit.amountVnd).sum
  alone : composeQuoteRevision request [] [] = .ok plain
  stacking : notStackable frozen → reserved = [] ∧ snapshot.data.totals = plain.data.totals

lemma composeQuoteRevision_plain {request : QuoteRequest} {plain : ImmutableQuoteSnapshot}
    (h : composeFresh request = .ok plain) : composeQuoteRevision request [] [] = .ok plain := by
  rw [composeQuoteRevision]
  show (composeFresh request >>= fun snapshot => _) = _
  rw [h]
  rfl

omit [Unicodedata] in
lemma spent_split {credits taken refused : List RemedyCredit} {spent : List Uuid}
    (h : (taken ++ refused).Perm (credits.filter fun item => item.creditId ∉ spent)) :
    (taken ++ ((credits.filter fun item => item.creditId ∈ spent) ++ refused)).Perm credits := by
  have hmiddle : (taken ++ ((credits.filter fun item => item.creditId ∈ spent) ++ refused)).Perm
      ((credits.filter fun item => item.creditId ∈ spent) ++ (taken ++ refused)) :=
    List.perm_append_comm_assoc _ _ _
  have hwhole := List.filter_append_perm (fun item : RemedyCredit => item.creditId ∈ spent) credits
  refine hmiddle.trans ((h.append_left _).trans ?_)
  simpa only [decide_not] using hwhole

lemma compose_reserves {request : QuoteRequest} {remedyCredits : List RemedyCredit}
    {spent : List Uuid} {snapshot : ImmutableQuoteSnapshot}
    (h : composeQuoteRevision request remedyCredits spent = .ok snapshot) :
    ∃ plain bill taken refused frozen ids, composeFresh request = .ok plain ∧
      Reserves plain bill taken frozen ∧ Explained snapshot taken frozen ∧
      snapshot.data.totals = bill.data.totals ∧
      (taken ++ refused).Perm
        ((firstsBy (·.creditId) remedyCredits).filter fun item => item.creditId ∉ spent) ∧
      releasedRemedyCreditIds snapshot = .ok ids ∧
      ids.Perm ((((firstsBy (·.creditId) remedyCredits).filter fun item =>
        item.creditId ∈ spent) ++ refused).map RemedyCredit.creditId) := by
  obtain ⟨plain, hplain, h⟩ := bind_ok.mp h
  obtain ⟨⟨bill, released⟩, hcarried, h⟩ := bind_ok.mp h
  obtain ⟨⟨frozen, hexplained⟩, hunreleased⟩ := composeFresh_explained hplain
  have hfresh : Reserves plain plain [] frozen := ⟨hexplained, hunreleased, fun _ => rfl⟩
  obtain ⟨taken, refused, hreserves, hreleased, hperm⟩ := carryCredits_split hfresh hcarried
  rw [List.nil_append] at hreserves
  obtain ⟨hexplained', htotals, ids, hids, hidsPerm⟩ := hreserves.stated h
  refine ⟨plain, bill, taken, refused, frozen, ids, hplain, hreserves, hexplained', htotals, hperm,
    hids, ?_⟩
  -- the credits that were spent elsewhere come first among the released ones
  have hspent : (((firstsBy (·.creditId) remedyCredits).filter fun item =>
        item.creditId ∈ spent).map fun item =>
        (item, value RemedyRefusal.remedyCreditAlreadyRedeemed)).map Prod.fst =
      (firstsBy (·.creditId) remedyCredits).filter fun item => item.creditId ∈ spent := by
    rw [List.map_map]
    exact List.map_id _
  rw [hspent] at hreleased
  rw [← hreleased, List.map_map]
  exact hidsPerm

lemma compose_conserves {request : QuoteRequest} {remedyCredits : List RemedyCredit}
    {spent : List Uuid} {snapshot : ImmutableQuoteSnapshot}
    (h : composeQuoteRevision request remedyCredits spent = .ok snapshot) :
    ∃ plain reserved released frozen,
      Conserves request remedyCredits spent snapshot plain reserved released frozen := by
  obtain ⟨plain, bill, taken, refused, frozen, ids, hplain, hreserves, hexplained, htotals, hperm,
    hids, hidsPerm⟩ := compose_reserves h
  obtain ⟨reserved, hreserved, hreservedPerm⟩ := hexplained.read
  have hbill := hexplained.perm hreservedPerm
  have hsplit : (reserved.map RemedyCredit.creditId ++ ids).Perm
      ((firstsBy (·.creditId) remedyCredits).map RemedyCredit.creditId) := by
    refine ((hreservedPerm.map _).append hidsPerm).trans ?_
    rw [← List.map_append]
    exact (spent_split hperm).map _
  have htaken : ∀ credit ∈ reserved, credit ∈ remedyCredits ∧ credit.creditId ∉ spent := by
    intro credit hcredit
    have hmem := hperm.mem_iff.mp (List.mem_append_left _ (hreservedPerm.mem_iff.mp hcredit))
    obtain ⟨hoffered, hlive⟩ := List.mem_filter.mp hmem
    exact ⟨mem_of_mem_firstsBy hoffered, of_decide_eq_true hlive⟩
  refine ⟨plain, reserved, ids, frozen, ?_⟩
  exact {
    reads := ⟨hreserved, hids, hbill.promotion⟩
    once := hsplit.nodup_iff.mpr (nodup_firstsBy _ _)
    all := fun creditId => hsplit.mem_iff.trans mem_map_firstsBy
    whole := htaken
    discount := hbill.totals
    alone := composeQuoteRevision_plain hplain
    stacking := by
      intro hstacked
      have hnone : taken = [] := by
        by_contra hne
        exact hexplained.stackable hne hstacked
      refine ⟨?_, ?_⟩
      · rw [hnone] at hreservedPerm
        exact hreservedPerm.eq_nil
      · rw [htotals, hreserves.untouched hnone]
  }

/-- Each credit that re-pricing was offered is on the bill once, whole or as released, also once the
revision was stored and read back. -/
theorem repriced_revision_conserves_credits (revision : RepricedRevision) :
    ∃ plain reserved released frozen,
      Conserves revision.request revision.remedyCredits revision.spent revision.snapshot plain
        reserved released frozen ∧
      ∀ payload, StoredAs payload revision.snapshot →
        ∃ stored, parseQuoteRevision payload = .ok stored ∧
          Reads stored reserved released frozen := by
  obtain ⟨plain, reserved, released, frozen, h⟩ := compose_conserves revision.composed
  refine ⟨plain, reserved, released, frozen, h, fun payload hpayload => ?_⟩
  have hbuilt := (Composed.compose revision.composed).built
  refine ⟨revision.snapshot.readBack, hbuilt.parse hpayload, ?_⟩
  exact {
    reserved := h.reads.reserved
    released := h.reads.released
    frozen := h.reads.frozen
  }

lemma Composed.explained {snapshot : ImmutableQuoteSnapshot} (h : Composed snapshot) :
    ∃ reserved frozen, Explained snapshot reserved frozen := by
  induction h with
  | compose h =>
    obtain ⟨_, _, taken, _, frozen, _, -, -, hexplained, -⟩ := compose_reserves h
    exact ⟨taken, frozen, hexplained⟩
  | redeem _ h ih =>
    obtain ⟨reserved, frozen, hpriced⟩ := ih
    exact ⟨_, frozen, (hpriced.redeem h).1⟩
  | close _ h ih =>
    obtain ⟨reserved, frozen, hpriced⟩ := ih
    obtain ⟨frozen', hclosed⟩ := hpriced.close h
    exact ⟨[], frozen', hclosed⟩
  | accept _ h ih =>
    obtain ⟨reserved, frozen, hpriced⟩ := ih
    obtain ⟨frozen', haccepted, -⟩ := hpriced.accept h
    exact ⟨reserved, frozen', haccepted⟩
  | read hpriced hpayload h ih =>
    obtain ⟨reserved, frozen, hexplained⟩ := ih
    rw [hpriced.built.parse hpayload] at h
    cases h
    exact ⟨reserved, frozen, hexplained.of_same (.refl _) rfl hexplained.promotion id⟩

/-- On every revision the discount is the frozen promotion's with the reserved credits, each
reserved once, and the promotion's own row states its part. -/
theorem composed_revision_explains_discount (revision : ComposedRevision) :
    ∃ reserved frozen, reservedRemedyCredits revision.snapshot = .ok reserved ∧
      Explained revision.snapshot reserved frozen := by
  obtain ⟨reserved, frozen, h⟩ := revision.composed.explained
  obtain ⟨credits, hcredits, hperm⟩ := h.read
  exact ⟨credits, frozen, hcredits, h.perm hperm⟩

end NhaTrangLaundry.Domain.QuoteComposition

namespace NhaTrangLaundry.Domain.QuoteComposition

open Lib Catalog Canonical Outcome Sorting Distinct Quotes Remedies
open LargestRemainder (Allocation)

section Creditable

variable [Unicodedata]

omit [Unicodedata] in
lemma creditedLine_hash (shares : List (String × Int)) (line : QuoteLineSnapshot) :
    (creditedLine shares line).priceTraceHash = line.priceTraceHash := by
  rw [creditedLine]
  split
  · rfl
  · rfl

lemma credited_sealed {data : QuoteRevisionData} (h : Sealed data) {trace : CalculationTraceSnapshot}
    (htrace : verifyCanonicalDocument trace.trace = true) (revision : Int) (credit : RemedyCredit)
    (allocation : Allocation String) :
    Sealed (creditedData data revision credit allocation trace) where
  verified := by
    intro item hitem
    rcases List.mem_append.mp hitem with hmem | hmem
    · exact h.verified item hmem
    · rw [List.mem_singleton.mp hmem]
      exact htrace
  embedded := by
    intro line hline
    obtain ⟨original, horiginal, rfl⟩ := List.mem_map.mp hline
    obtain ⟨item, hitem, hcomponent, hhash⟩ := h.embedded original horiginal
    exact ⟨item, List.mem_append_left _ hitem, hcomponent,
      hhash.trans (creditedLine_hash _ _).symm⟩

/-- A bill of no promotion and no credit takes the credit; no document is looked into. -/
def creditable (revision : Int) (credit : RemedyCredit) (data : QuoteRevisionData) : Bool :=
  decide (reservedRemedyCredits ⟨data, emptyDocument⟩ = .ok [] ∧
    frozenPromotion ⟨data, emptyDocument⟩ = .ok none ∧ data.finality ≠ .range ∧
    data.status ∉ uncreditableStatuses) &&
  match data.lines.mapM creditWeight with
  | .error _ => false
  | .ok weights =>
    match creditAllocation weights credit with
    | .error _ => false
    | .ok allocation =>
      match captureCalculationTrace (creditComponent credit.creditId) remedyCreditComponentVersion
        (.json (creditJson credit weights allocation)) with
      | .error _ => false
      | .ok trace => InOrder (creditedData data revision credit allocation trace)

lemma redeem_checked {data : QuoteRevisionData} {document : CanonicalDocument} {revision : Int}
    {credit : RemedyCredit} (hsealed : Sealed data) (h : creditable revision credit data = true) :
    ∃ credited, redeemRemedyCredit ⟨data, document⟩ revision credit = .ok credited ∧
      credited.data.totals.discountAmountMinVnd =
        data.totals.discountAmountMinVnd + credit.amountVnd := by
  obtain ⟨hplain, h⟩ := Bool.and_eq_true_iff.mp h
  obtain ⟨hreserved, hfrozen, hexact, hopen⟩ := of_decide_eq_true hplain
  split at h
  · cases h
  · next weights hweights =>
    split at h
    · cases h
    · next allocation hallocation =>
      split at h
      · cases h
      · next trace htrace =>
        have hkept : TraceKept trace := traceKept_of_capture (by decide) .json htrace
        obtain ⟨sealing, hbuild⟩ := build_sealed
          (credited_sealed hsealed (verified_of_kept hkept) revision credit allocation) h
        refine ⟨⟨Quotes.normalized (creditedData data revision credit allocation trace), sealing⟩,
          bind_ok.mpr ⟨[], escaping_ok.mpr hreserved, ?_⟩, rfl⟩
        refine bind_ok.mpr ⟨(), require_true (List.forall_mem_nil _) _, ?_⟩
        refine bind_ok.mpr ⟨(), require_true ⟨hexact, hopen⟩ _, ?_⟩
        refine bind_ok.mpr ⟨none, escaping_ok.mpr hfrozen, ?_⟩
        refine bind_ok.mpr ⟨(), require_true (fun hnot => hnot) _, ?_⟩
        refine bind_ok.mpr ⟨weights, hweights, ?_⟩
        refine bind_ok.mpr ⟨allocation, hallocation, ?_⟩
        exact guarded_ok.mpr (bind_ok.mpr ⟨trace, htrace, hbuild⟩)

lemma compose_credited {request : QuoteRequest} {credit : RemedyCredit}
    {plain credited : ImmutableQuoteSnapshot} (hfresh : composeFresh request = .ok plain)
    (hredeem : redeemRemedyCredit plain request.revision credit = .ok credited) :
    composeQuoteRevision request [credit] [] = .ok credited := by
  refine bind_ok.mpr ⟨plain, hfresh, bind_ok.mpr ⟨(credited, []), ?_, rfl⟩⟩
  have hlive : (firstsBy RemedyCredit.creditId [credit]).filter
      (fun item => item.creditId ∉ ([] : List Uuid)) = [credit] := rfl
  rw [hlive, carryCredits, hredeem]
  rfl

end Creditable

section Credited

local instance creditText : Unicodedata := washText

def creditedRequest : QuoteRequest := { washRequest with promotion := none }

def washCredit : RemedyCredit := ⟨⟨3⟩, 5000, ⟨4⟩, none⟩

lemma credited_inOrder : pricesTo creditedRequest InOrder = true := by decide +kernel

/-- At the full price, so that the credit is the whole discount. -/
def washCreditable (data : QuoteRevisionData) : Bool :=
  data.totals.discountAmountMinVnd = 0 && creditable 1 washCredit data

lemma wash_creditable :
    pricesTo creditedRequest (fun data => washCreditable (Quotes.normalized data)) = true := by
  decide +kernel

theorem wash_credit_conserved : ∃ revision : RepricedRevision,
    revision.request = creditedRequest ∧ revision.remedyCredits = [washCredit] ∧
      revision.spent = [] ∧ revision.snapshot.data.totals.discountAmountMinVnd = 5000 ∧
      ∃ plain reserved released frozen,
        Conserves creditedRequest [washCredit] [] revision.snapshot plain reserved released
          frozen := by
  obtain ⟨data, document, hfresh, hsealed, hcreditable⟩ :=
    composeFresh_checked credited_inOrder wash_creditable
  obtain ⟨hzero, hcreditable⟩ := Bool.and_eq_true_iff.mp hcreditable
  obtain ⟨credited, hredeem, hdiscount⟩ := redeem_checked hsealed hcreditable
  rw [of_decide_eq_true hzero] at hdiscount
  let revision : RepricedRevision :=
    ⟨creditedRequest, [washCredit], [], credited, compose_credited hfresh hredeem⟩
  obtain ⟨plain, reserved, released, frozen, hconserves, -⟩ :=
    repriced_revision_conserves_credits revision
  exact ⟨revision, rfl, rfl, rfl, hdiscount, plain, reserved, released, frozen, hconserves⟩

theorem wash_discount_explained : ∃ revision : ComposedRevision,
    composeQuoteRevision washRequest [] [] = .ok revision.snapshot ∧
      revision.snapshot.data.totals.discountAmountMinVnd = 11250 ∧
      ∃ reserved frozen, reservedRemedyCredits revision.snapshot = .ok reserved ∧
        Explained revision.snapshot reserved frozen := by
  obtain ⟨snapshot, h, hdiscount⟩ := compose_wash
  let revision : ComposedRevision := ⟨snapshot, .compose h⟩
  exact ⟨revision, h, hdiscount, composed_revision_explains_discount revision⟩

end Credited

end NhaTrangLaundry.Domain.QuoteComposition
