import NhaTrangLaundry.Domain.CarriedCredits

/-! Acceptance: the accepted revision is the priced one, with its promotion answered, and nothing
is derived from it any more. -/

namespace NhaTrangLaundry.Domain.QuoteComposition

open Lib Catalog Canonical Outcome Sorting Distinct Quotes Promotion RangePrices Remedies StrEnum

lemma mem_promotionReasonCodes (reason : PromotionReason) :
    value reason ∈ promotionReasonCodes := by
  cases reason <;> decide

lemma mem_promotionReasons {result : PromotionResult} {evaluationAt policyEnd : Datetime}
    {code : String} (h : code ∈ promotionReasons result evaluationAt policyEnd) :
    code ∈ promotionReasonCodes := by
  have hvalues : ∀ code ∈ result.reasonCodes.map value, code ∈ promotionReasonCodes := by
    intro code hcode
    obtain ⟨reason, -, rfl⟩ := List.mem_map.mp hcode
    exact mem_promotionReasonCodes reason
  rw [promotionReasons] at h
  dsimp only at h
  split_ifs at h with hbefore hthere
  · exact hvalues code h
  · exact hvalues code (List.mem_filter.mp h).1
  · rcases List.mem_append.mp h with hmem | hmem
    · exact hvalues code (List.mem_filter.mp hmem).1
    · rw [List.mem_singleton.mp hmem]
      exact mem_promotionReasonCodes _

variable [Unicodedata]

lemma promotionOutcome_reasons {published : Option PublishedPromotionProgram}
    {lines : List QuoteLineSnapshot} {adjustments : List QuoteAdjustmentSnapshot} {banded : Bool}
    {evaluationAt : Datetime} {eligibilityAt : Option Datetime} {outcome : PromotionOutcome}
    (h : promotionOutcome published lines adjustments banded evaluationAt eligibilityAt =
      .ok outcome) : ∀ code ∈ outcome.reasonCodes, code ∈ promotionReasonCodes := by
  cases published with
  | none =>
    cases h
    intro code hcode
    rw [List.mem_singleton.mp hcode]
    decide
  | some published =>
    rw [promotionOutcome] at h
    split_ifs at h with hbanded
    · cases h
      intro code hcode
      rw [List.mem_singleton.mp hcode]
      decide
    · obtain ⟨result, -, h⟩ := bind_ok.mp h
      obtain ⟨trace, -, h⟩ := bind_ok.mp h
      cases h
      exact fun code hcode => mem_promotionReasons hcode

omit [Unicodedata] in
lemma Grants.component {adjustments : List QuoteAdjustmentSnapshot} {banded : Bool}
    {outcome : PromotionOutcome} (h : Grants adjustments banded outcome) :
    ∀ trace ∈ outcome.traces, trace.component = promotionComponent := by
  intro trace htrace
  rcases h.trace with ⟨hnil, -⟩ | ⟨one, _, hone, hstates, -⟩
  · rw [hnil] at htrace
    cases htrace
  · rw [hone, List.mem_singleton] at htrace
    rw [htrace]
    exact hstates.component

def otherTraces (snapshot : ImmutableQuoteSnapshot) : List CalculationTraceSnapshot :=
  snapshot.data.calculationTraces.filter fun trace => trace.component ≠ promotionComponent

def otherReasons (snapshot : ImmutableQuoteSnapshot) : List String :=
  snapshot.data.reasonCodes.filter fun code => code ∉ promotionReasonCodes

/-- The accepted revision is the priced one but for its number, its standing and its answer about
the promotion. -/
structure KeepsBill (priced snapshot : ImmutableQuoteSnapshot) : Prop where
  quoteId : snapshot.data.quoteId = priced.data.quoteId
  lines : snapshot.data.lines = priced.data.lines
  adjustments : snapshot.data.adjustments = priced.data.adjustments
  totals : snapshot.data.totals = priced.data.totals
  configuration : snapshot.data.configurationSnapshots = priced.data.configurationSnapshots
  approvals : snapshot.data.requiredApprovals = priced.data.requiredApprovals
  approvalId : snapshot.data.approvalId = priced.data.approvalId
  pricedAt : snapshot.data.pricedAt = priced.data.pricedAt
  validUntil : snapshot.data.validUntil = priced.data.validUntil
  engine : snapshot.data.calculationEngineVersion = priced.data.calculationEngineVersion ∧
    snapshot.data.calculationEngineHash = priced.data.calculationEngineHash
  traces : otherTraces snapshot = otherTraces priced
  reasons : otherReasons snapshot = otherReasons priced

omit [Unicodedata] in
lemma filter_revisedTraces {inherited recomputed : List CalculationTraceSnapshot}
    (h : ∀ trace ∈ recomputed, trace.component = promotionComponent) :
    (revisedTraces inherited recomputed).filter (fun trace => trace.component ≠ promotionComponent) =
      inherited.filter fun trace => trace.component ≠ promotionComponent := by
  have hnone : recomputed.filter (fun trace => trace.component ≠ promotionComponent) = [] := by
    refine List.filter_eq_nil_iff.mpr fun trace htrace => ?_
    simpa using h trace htrace
  rw [revisedTraces, List.filter_append, hnone, List.append_nil, List.filter_filter]
  refine List.filter_congr fun trace _ => ?_
  have hkept : trace.component ≠ promotionComponent →
      trace.component ∉ recomputed.map (·.component) := by
    intro hne hmem
    obtain ⟨other, hother, heq⟩ := List.mem_map.mp hmem
    exact hne (heq ▸ h other hother)
  by_cases hne : trace.component = promotionComponent
  · simp [hne]
  · simpa [hne] using hkept hne

omit [Unicodedata] in
lemma filter_revisedReasonCodes {inherited recomputed : List String}
    (h : ∀ code ∈ recomputed, code ∈ promotionReasonCodes) :
    (revisedReasonCodes inherited recomputed).filter (· ∉ promotionReasonCodes) =
      inherited.filter (· ∉ promotionReasonCodes) := by
  have hnone : recomputed.filter (· ∉ promotionReasonCodes) = [] := by
    refine List.filter_eq_nil_iff.mpr fun code hcode => ?_
    simpa using h code hcode
  rw [revisedReasonCodes, List.filter_append, hnone, List.append_nil, List.filter_filter]
  simp only [Bool.and_self]

lemma KeepsBill.of_build {priced snapshot : ImmutableQuoteSnapshot} {data : QuoteRevisionData}
    (hpriced : Built priced) (hbuild : buildQuoteSnapshot data = .ok snapshot)
    (hfields : ∃ revision finality status event at_ reasons traces, data =
      { priced.data with
        revision := revision
        finality := finality
        status := status
        promotionEligibilityEvent := event
        promotionEligibilityAt := at_
        reasonCodes := reasons
        calculationTraces := traces })
    (htraces : data.calculationTraces.filter (fun trace => trace.component ≠ promotionComponent) =
      otherTraces priced)
    (hreasons : data.reasonCodes.filter (· ∉ promotionReasonCodes) = otherReasons priced) :
    KeepsBill priced snapshot := by
  obtain ⟨pricedData, hpricedBuild⟩ := hpriced.built
  have hsorted : normalized priced.data = priced.data := by
    rw [(buildQuoteSnapshot_ok.mp hpricedBuild).1, normalized_idem]
  have hdata := (buildQuoteSnapshot_ok.mp hbuild).1
  have hcomponents := components_nodup hbuild
  have hlines : sortBy (·.lineId) priced.data.lines = priced.data.lines :=
    congrArg QuoteRevisionData.lines hsorted
  have hadjustments : sortBy (·.adjustmentId) priced.data.adjustments = priced.data.adjustments :=
    congrArg QuoteRevisionData.adjustments hsorted
  have hreferences : sortBy (·.configType) priced.data.configurationSnapshots =
      priced.data.configurationSnapshots := congrArg QuoteRevisionData.configurationSnapshots hsorted
  have happrovals : sortedSet priced.data.requiredApprovals = priced.data.requiredApprovals :=
    congrArg QuoteRevisionData.requiredApprovals hsorted
  obtain ⟨_, _, _, _, _, _, _, hfields⟩ := hfields
  exact {
    quoteId := by
      rw [hdata, hfields]
      rfl
    lines := by
      rw [hdata, hfields]
      exact hlines
    adjustments := by
      rw [hdata, hfields]
      exact hadjustments
    totals := by
      rw [hdata, hfields]
      rfl
    configuration := by
      rw [hdata, hfields]
      exact hreferences
    approvals := by
      rw [hdata, hfields]
      exact happrovals
    approvalId := by
      rw [hdata, hfields]
      rfl
    pricedAt := by
      rw [hdata, hfields]
      rfl
    validUntil := by
      rw [hdata, hfields]
      rfl
    engine := by
      rw [hdata, hfields]
      exact ⟨rfl, rfl⟩
    traces := by
      have hpricedSorted : sortBy (·.component) priced.data.calculationTraces =
          priced.data.calculationTraces := congrArg QuoteRevisionData.calculationTraces hsorted
      have hpricedNodup : (priced.data.calculationTraces.map (·.component)).Nodup := by
        rw [(buildQuoteSnapshot_ok.mp hpricedBuild).1]
        exact nodup_map_sortBy.mpr (components_nodup hpricedBuild)
      rw [otherTraces, hdata]
      show (sortBy (·.component) data.calculationTraces).filter _ = _
      rw [filter_sortBy _ hcomponents, htraces, otherTraces, ← filter_sortBy _ hpricedNodup,
        hpricedSorted]
    reasons := by
      have hpricedSorted : sortedSet priced.data.reasonCodes = priced.data.reasonCodes :=
        congrArg QuoteRevisionData.reasonCodes hsorted
      rw [otherReasons, hdata]
      show (sortedSet data.reasonCodes).filter _ = _
      rw [filter_sortedSet, hreasons, otherReasons, ← filter_sortedSet, hpricedSorted]
  }

structure Accepts (priced snapshot : ImmutableQuoteSnapshot) (revision : Int) : Prop where
  bill : KeepsBill priced snapshot
  revision : snapshot.data.revision = revision
  finality : snapshot.data.finality = .approvedExact
  status : snapshot.data.status = .acceptedFinal

lemma accept_accepts {priced snapshot : ImmutableQuoteSnapshot} {revision : Int}
    {promotion : Option PublishedPromotionProgram} {acceptedAt : Option Datetime}
    {frozen : Option FrozenPromotion} (hpriced : Built priced)
    (hfrozen : frozenPromotion priced = .ok frozen)
    (h : acceptQuoteRevision priced revision promotion acceptedAt = .ok snapshot) :
    Accepts priced snapshot revision := by
  obtain ⟨_, -, h⟩ := bind_ok.mp h
  obtain ⟨_, -, h⟩ := bind_ok.mp h
  obtain ⟨_, -, h⟩ := bind_ok.mp h
  obtain ⟨_, -, h⟩ := bind_ok.mp h
  obtain ⟨verified, hverified, h⟩ := bind_ok.mp h
  obtain ⟨_, -, h⟩ := bind_ok.mp h
  have hbuild := guarded_ok.mp h
  have hdata := (buildQuoteSnapshot_ok.mp hbuild).1
  rcases reverified_cases hfrozen hverified with rfl | ⟨recomputed, _, rfl, -, hrecomputed, -⟩
  · exact {
      bill := .of_build hpriced hbuild ⟨_, _, _, _, _, _, _, rfl⟩ rfl rfl
      revision := by
        rw [hdata]
        rfl
      finality := by
        rw [hdata]
        rfl
      status := by
        rw [hdata]
        rfl
    }
  · have hcomponent := (promotionOutcome_grants hrecomputed).component
    have hreasons := promotionOutcome_reasons hrecomputed
    exact {
      bill := .of_build hpriced hbuild ⟨_, _, _, _, _, _, _, rfl⟩
        (filter_revisedTraces hcomponent) (filter_revisedReasonCodes hreasons)
      revision := by
        rw [hdata]
        rfl
      finality := by
        rw [hdata]
        rfl
      status := by
        rw [hdata]
        rfl
    }

lemma accept_refused {snapshot : ImmutableQuoteSnapshot} (h : snapshot.data.status = .acceptedFinal)
    (revision : Int) (promotion : Option PublishedPromotionProgram) (acceptedAt : Option Datetime) :
    acceptQuoteRevision snapshot revision promotion acceptedAt =
      unresolved "QUOTE_ALREADY_FINAL" := by
  have hfinal : ¬ snapshot.data.status ∉ unacceptableStatuses := by
    rw [h]
    decide
  rw [acceptQuoteRevision]
  dsimp only
  rw [require, if_neg hfinal]
  rfl

lemma close_refused {snapshot : ImmutableQuoteSnapshot} (h : snapshot.data.finality = .approvedExact)
    (revision : Int) (attestation : RangePriceAttestation)
    (promotion : Option PublishedPromotionProgram) (closedAt : Option Datetime) :
    closeRangePrices snapshot revision attestation promotion closedAt =
      unresolved (value RangePriceRefusal.rangePriceNotApplicable) := by
  have hexact : ¬ snapshot.data.finality = .range := by
    rw [h]
    decide
  rw [closeRangePrices]
  dsimp only
  rw [require, if_neg hexact]
  rfl

lemma redeem_refused {snapshot : ImmutableQuoteSnapshot} {reserved : List RemedyCredit}
    (h : snapshot.data.status = .acceptedFinal)
    (hreserved : reservedRemedyCredits snapshot = .ok reserved) (revision : Int)
    (credit : RemedyCredit) :
    redeemRemedyCredit snapshot revision credit = unresolved
      (if ∃ item ∈ reserved, item.creditId = credit.creditId then
        value RemedyRefusal.remedyCreditAlreadyOnQuote
      else value RemedyRefusal.remedyCreditRevisionNotOpen) := by
  have hclosed : ¬ (snapshot.data.finality ≠ .range ∧ snapshot.data.status ∉ uncreditableStatuses) := by
    rw [h]
    exact fun hopen => hopen.2 (by decide)
  rw [redeemRemedyCredit, hreserved]
  show (require (∀ item ∈ reserved, item.creditId ≠ credit.creditId) _ >>= fun _ => _) = _
  split_ifs with hthere
  · obtain ⟨item, hitem, heq⟩ := hthere
    rw [require, if_neg fun hall => hall item hitem heq]
    rfl
  · have hall : ∀ item ∈ reserved, item.creditId ≠ credit.creditId :=
      fun item hitem heq => hthere ⟨item, hitem, heq⟩
    rw [require, if_pos hall]
    show (require (snapshot.data.finality ≠ .range ∧ _) _ >>= fun _ => _) = _
    rw [require, if_neg hclosed]
    rfl

/-- A revision that was accepted, of one that composing and the derivations reached. -/
structure AcceptedRevision where
  priced : ImmutableQuoteSnapshot
  composed : Composed priced
  revision : Int
  promotion : Option PublishedPromotionProgram
  acceptedAt : Option Datetime
  snapshot : ImmutableQuoteSnapshot
  accepted : acceptQuoteRevision priced revision promotion acceptedAt = .ok snapshot

/-- Acceptance never re-prices: the bill is the one the customer heard, its promotion is worth what
it was, and what was accepted can be neither accepted again, nor credited, nor closed. -/
theorem accepted_revision_keeps_bill (a : AcceptedRevision) :
    Accepts a.priced a.snapshot a.revision ∧
    (∃ frozen answered, frozenPromotion a.priced = .ok frozen ∧
      frozenPromotion a.snapshot = .ok answered ∧
      frozenDiscount answered = frozenDiscount frozen) ∧
    (∀ revision promotion acceptedAt,
      acceptQuoteRevision a.snapshot revision promotion acceptedAt =
        unresolved "QUOTE_ALREADY_FINAL") ∧
    (∀ revision attestation promotion closedAt,
      closeRangePrices a.snapshot revision attestation promotion closedAt =
        unresolved (value RangePriceRefusal.rangePriceNotApplicable)) ∧
    ∃ reserved, reservedRemedyCredits a.snapshot = .ok reserved ∧
      ∀ revision credit, redeemRemedyCredit a.snapshot revision credit = unresolved
        (if ∃ item ∈ reserved, item.creditId = credit.creditId then
          value RemedyRefusal.remedyCreditAlreadyOnQuote
        else value RemedyRefusal.remedyCreditRevisionNotOpen) := by
  obtain ⟨reserved, frozen, hpriced⟩ := a.composed.explained
  obtain ⟨answered, hanswered, hsame⟩ := hpriced.accept a.accepted
  obtain ⟨credits, hcredits, -⟩ := hanswered.read
  have haccepts := accept_accepts a.composed.built hpriced.promotion a.accepted
  refine ⟨haccepts, ⟨frozen, answered, hpriced.promotion, hanswered.promotion, hsame⟩, ?_, ?_, ?_⟩
  · exact accept_refused haccepts.status
  · exact close_refused haccepts.finality
  · exact ⟨credits, hcredits, redeem_refused haccepts.status hcredits⟩

end NhaTrangLaundry.Domain.QuoteComposition

namespace NhaTrangLaundry.Domain.QuoteComposition

open Lib Canonical Outcome Quotes Promotion

section Acceptable

variable [Unicodedata]

lemma accepted_sealed {data : QuoteRevisionData} (h : Sealed data) {verified : PromotionOutcome}
    (htraces : ∀ trace ∈ verified.traces, trace.component = promotionComponent ∧
      verifyCanonicalDocument trace.trace = true) (revision : Int) :
    Sealed (acceptedData data revision (some verified)) where
  verified := by
    intro item hitem
    rcases List.mem_append.mp hitem with hmem | hmem
    · exact h.verified item (List.mem_filter.mp hmem).1
    · exact (htraces item hmem).2
  embedded := by
    intro line hline
    obtain ⟨item, hitem, hcomponent, hhash⟩ := h.embedded line hline
    refine ⟨item, List.mem_append_left _ (List.mem_filter.mpr ⟨hitem, ?_⟩), hcomponent, hhash⟩
    rw [decide_eq_true_eq]
    intro hmem
    obtain ⟨trace, htrace, hsame⟩ := List.mem_map.mp hmem
    exact hcomponent (hsame.symm.trans (htraces trace htrace).1)

/-- The trace of a promotion that grants something is read by what composing promises of it. -/
lemma frozen_of_amounts {snapshot : ImmutableQuoteSnapshot} (h : Composed snapshot) {discount : Int}
    (hamounts : amountsOf (snapshot.data.adjustments.filter isPromotion) = [(discount, discount)]) :
    ∃ frozen, frozenPromotion snapshot = .ok (some frozen) ∧
      frozen.discountAmountVnd = discount := by
  obtain ⟨reserved, frozen, hexplained⟩ := h.explained
  have hpromotions := hexplained.promotions
  rw [hamounts, grantedAmounts] at hpromotions
  split_ifs at hpromotions with hzero
  · cases hpromotions.eq_nil
  · cases frozen with
    | none => exact absurd rfl hzero
    | some frozen =>
      have hsame := List.singleton_perm_singleton.mp hpromotions
      exact ⟨frozen, hexplained.promotion, (congrArg Prod.fst hsame).symm⟩

/-- A bill whose promotion grants the discount can be accepted; no document is looked into. -/
def acceptable (revision : Int) (published : PublishedPromotionProgram) (acceptedAt : Datetime)
    (discount : Int) (data : QuoteRevisionData) : Bool :=
  decide (data.status ∉ unacceptableStatuses ∧ data.finality ≠ .range ∧
    (∀ line ∈ data.lines, line.quantityBasis ≠ .customerEstimate) ∧
    data.totals.deliveryFeeVnd ≠ none ∧
    (promotionReference ⟨data, emptyDocument⟩).isNone = false ∧
    ¬ programmeMoved (promotionReference ⟨data, emptyDocument⟩) (some published) ∧
    amountsOf (data.adjustments.filter isPromotion) = [(discount, discount)]) &&
  match promotionOutcome (some published) data.lines data.adjustments false acceptedAt
    (some acceptedAt) with
  | .error _ => false
  | .ok verified =>
    decide (verified.eligibilityEvent ≠ none ∧ verified.discountVnd = discount ∧
      (∀ trace ∈ verified.traces, trace.component = promotionComponent) ∧
      outstandingApprovals [data.requiredApprovals, verified.requiredApprovals] = []) &&
    InOrder (acceptedData data revision (some verified))

lemma accept_checked {data : QuoteRevisionData} {document : CanonicalDocument} {revision : Int}
    {published : PublishedPromotionProgram} {acceptedAt : Datetime} {discount : Int}
    (hsealed : Sealed data) (hcomposed : Composed ⟨data, document⟩)
    (h : acceptable revision published acceptedAt discount data = true) :
    ∃ accepted, acceptQuoteRevision ⟨data, document⟩ revision (some published) (some acceptedAt) =
      .ok accepted := by
  obtain ⟨hpriced, h⟩ := Bool.and_eq_true_iff.mp h
  obtain ⟨hopen, hexact, hmeasured, hfee, hcited, hunmoved, hamounts⟩ := of_decide_eq_true hpriced
  split at h
  · cases h
  · next verified houtcome =>
    obtain ⟨hgranted, horder⟩ := Bool.and_eq_true_iff.mp h
    obtain ⟨heligible, hdiscount, hcomponents, happroved⟩ := of_decide_eq_true hgranted
    obtain ⟨frozen, hfrozen, hsame⟩ := frozen_of_amounts hcomposed hamounts
    have hverified : reverifiedEligibility ⟨data, document⟩ (some published) (some acceptedAt) =
        .ok (some verified) := by
      rw [reverifiedEligibility.eq_def]
      dsimp only
      rw [if_neg fun hnone => absurd hnone.2 Bool.false_ne_true]
      refine bind_ok.mpr ⟨(), require_true hunmoved _, ?_⟩
      refine bind_ok.mpr ⟨some frozen, escaping_ok.mpr hfrozen, ?_⟩
      refine bind_ok.mpr ⟨(), require_true (.inr rfl) _, ?_⟩
      refine bind_ok.mpr ⟨verified, houtcome, ?_⟩
      refine bind_ok.mpr ⟨(), require_true (hdiscount.trans hsame.symm) _, ?_⟩
      have hreference : (promotionReference ⟨data, document⟩).isNone = false := hcited
      rw [hreference, if_neg Bool.false_ne_true]
      exact bind_ok.mpr ⟨(), require_true heligible _, rfl⟩
    have htraces : ∀ trace ∈ verified.traces, trace.component = promotionComponent ∧
        verifyCanonicalDocument trace.trace = true := fun trace htrace =>
      ⟨hcomponents trace htrace, verified_of_kept (reverified_kept hverified trace htrace)⟩
    obtain ⟨sealing, hbuild⟩ := build_sealed (accepted_sealed hsealed htraces revision) horder
    refine ⟨⟨Quotes.normalized (acceptedData data revision (some verified)), sealing⟩,
      bind_ok.mpr ⟨(), require_true hopen _, ?_⟩⟩
    refine bind_ok.mpr ⟨(), require_true hexact _, ?_⟩
    refine bind_ok.mpr ⟨(), require_true hmeasured _, ?_⟩
    refine bind_ok.mpr ⟨(), require_true hfee _, ?_⟩
    refine bind_ok.mpr ⟨some verified, hverified, ?_⟩
    refine bind_ok.mpr ⟨(), require_true happroved _, ?_⟩
    exact guarded_ok.mpr hbuild

end Acceptable

section Accepted

local instance acceptedText : Unicodedata := washText

lemma wash_accepted : 739471 * dayMicros < wallLimit := by decide

/-- The day after the wash was priced. -/
def washAccepted : Datetime := .ofUtc (739471 * dayMicros) wash_accepted

lemma wash_acceptable : pricesTo washRequest (fun data =>
    acceptable 2 augustProgram washAccepted 11250 (Quotes.normalized data)) = true := by
  decide +kernel

theorem wash_keeps_bill : ∃ a : AcceptedRevision,
    composeQuoteRevision washRequest [] [] = .ok a.priced ∧ a.acceptedAt = some washAccepted ∧
      a.promotion = some augustProgram ∧ Accepts a.priced a.snapshot a.revision := by
  obtain ⟨data, document, hfresh, hsealed, hacceptable⟩ :=
    composeFresh_checked wash_inOrder wash_acceptable
  have hcompose := compose_plain hfresh
  have hcomposed : Composed ⟨data, document⟩ := .compose hcompose
  obtain ⟨accepted, haccept⟩ := accept_checked hsealed hcomposed hacceptable
  let a : AcceptedRevision := ⟨⟨data, document⟩, hcomposed, 2, some augustProgram,
    some washAccepted, accepted, haccept⟩
  exact ⟨a, hcompose, rfl, rfl, (accepted_revision_keeps_bill a).1⟩

end Accepted

end NhaTrangLaundry.Domain.QuoteComposition
