import NhaTrangLaundry.Domain.FrozenPromotions
import NhaTrangLaundry.Domain.PromotionArithmetic

/-! The discount on a bill, explained: it is what the promotion's trace states, with the credits
that the bill reserves. -/

namespace NhaTrangLaundry.Domain.QuoteComposition

open Lib Catalog Canonical Outcome Sorting Distinct Quotes Promotion Delivery Pricing RangePrices
open Remedies StrEnum

lemma suffixAfter_append (start text : String) : suffixAfter start (start ++ text) = some text := by
  have hprefix : start.toList.isPrefixOf (start ++ text).toList = true := by
    rw [String.toList_append, List.isPrefixOf_iff_prefix]
    exact List.prefix_append _ _
  rw [suffixAfter, if_pos hprefix, String.toList_append, List.drop_left, String.ofList_toList]

lemma reservedCredit_creditAdjustment (credit : RemedyCredit) :
    reservedCredit (creditAdjustment credit) = .ok credit := by
  have hname : suffixAfter remedyCreditAdjustmentPrefix (creditAdjustment credit).adjustmentId =
      some credit.creditId.str := suffixAfter_append _ _
  rw [reservedCredit, hname]
  simp [creditAdjustment, require]

/-- No digit of an identifier begins the word `RELEASED`. -/
lemma releasedName_credit {trace : CalculationTraceSnapshot} {creditId : Uuid}
    (h : trace.component = creditComponent creditId) : releasedName trace = none := by
  have hsplit : remedyCreditReleasedComponentPrefix.toList =
      remedyCreditComponentPrefix.toList ++ "RELEASED_".toList := rfl
  have hdigits : ∀ d < 16, (Nat.digitChar d).toUpper ≠ 'R' := by decide
  have hnot : ¬ remedyCreditReleasedComponentPrefix.toList.isPrefixOf
      (creditComponent creditId).toList = true := by
    rw [List.isPrefixOf_iff_prefix, creditComponent, String.toList_append, hsplit,
      List.prefix_append_right_inj]
    rintro ⟨rest, hrest⟩
    have hmem : 'R' ∈ creditId.hexUpper.toList := by
      rw [← hrest]
      exact List.mem_append_left _ (by decide)
    rw [Uuid.hexUpper, String.toList_ofList] at hmem
    obtain ⟨c, hc, hupper⟩ := List.mem_map.mp hmem
    obtain ⟨d, hd, rfl⟩ := Uuid.mem_hex hc
    exact hdigits d hd hupper
  rw [releasedName, suffixAfter, h, if_neg hnot]

lemma releasedName_other {trace : CalculationTraceSnapshot} {c : Char} {rest : List Char}
    (h : trace.component.toList = c :: rest) (hc : c ≠ 'R') : releasedName trace = none := by
  have hnot : ¬ remedyCreditReleasedComponentPrefix.toList.isPrefixOf
      trace.component.toList = true := by
    rw [h, List.isPrefixOf_iff_prefix]
    rintro ⟨rest', hrest⟩
    have hhead : 'R' = c := (List.cons.inj hrest).1
    exact hc hhead.symm
  rw [releasedName, suffixAfter, if_neg hnot]

lemma releasedName_released {trace : CalculationTraceSnapshot} {creditId : Uuid}
    (h : trace.component = releasedComponent creditId) :
    releasedName trace = some creditId.hexUpper := by
  rw [releasedName, h]
  exact suffixAfter_append _ _

lemma mapM_perm {α β ε : Type} {f : α → Except ε β} {l l' : List α} {bs : List β}
    (hperm : l.Perm l') (h : l'.mapM f = .ok bs) : ∃ bs', l.mapM f = .ok bs' ∧ bs'.Perm bs := by
  obtain ⟨bs', hall, hbs⟩ := List.perm_comp_forall₂ hperm (mapM_ok.mp h)
  exact ⟨bs', mapM_ok.mpr hall, hbs⟩

lemma mapM_map_ok {α β ε : Type} {f : β → Except ε α} {g : α → β} (h : ∀ a, f (g a) = .ok a)
    (l : List α) : (l.map g).mapM f = .ok l := by
  rw [mapM_ok]
  induction l with
  | nil => exact .nil
  | cons a l ih => exact .cons (h a) ih

lemma find?_perm {α κ : Type} [DecidableEq κ] {key : α → κ} {k : κ} {l l' : List α}
    (hperm : l.Perm l') (hn : (l.map key).Nodup) :
    l.find? (fun a => key a = k) = l'.find? (fun a => key a = k) := by
  cases hfind : l'.find? (fun a => key a = k) with
  | none =>
    rw [List.find?_eq_none] at hfind ⊢
    exact fun a ha => hfind a (hperm.mem_iff.mp ha)
  | some a =>
    have hmem := List.mem_of_find?_eq_some hfind
    have hkey : key a = k := by simpa using List.find?_some hfind
    cases hfind' : l.find? (fun a => key a = k) with
    | none =>
      rw [List.find?_eq_none] at hfind'
      exact absurd (by simpa using hkey) (hfind' a (hperm.mem_iff.mpr hmem))
    | some b =>
      have hkey' : key b = k := by simpa using List.find?_some hfind'
      exact congrArg some (List.inj_on_of_nodup_map hn (List.mem_of_find?_eq_some hfind')
        (hperm.mem_iff.mpr hmem) (hkey'.trans hkey.symm))

/-- The engines' own traces: neither a promotion's nor a released credit's. -/
def EngineTrace (trace : CalculationTraceSnapshot) : Prop :=
  trace.component ≠ promotionComponent ∧ releasedName trace = none

lemma engineTrace_pricing {trace : CalculationTraceSnapshot} {code : String}
    (h : trace.component = "PRICING_" ++ code) : EngineTrace trace := by
  have hlist : trace.component.toList = 'P' :: "RICING_".toList ++ code.toList := by
    rw [h, String.toList_append]
    rfl
  refine ⟨fun hpromotion => ?_, releasedName_other hlist (by decide)⟩
  rw [hpromotion] at hlist
  have hthird := congrArg (fun cs : List Char => cs[2]?) hlist
  revert hthird
  simp [promotionComponent]

variable [Unicodedata]

lemma components_nodup {snapshot : ImmutableQuoteSnapshot} {data : QuoteRevisionData}
    (h : buildQuoteSnapshot data = .ok snapshot) :
    (data.calculationTraces.map (·.component)).Nodup := by
  obtain ⟨hdata, hvalid, -⟩ := buildQuoteSnapshot_ok.mp h
  obtain ⟨_, -, hvalid⟩ := bind_ok.mp hvalid
  obtain ⟨_, -, hvalid⟩ := bind_ok.mp hvalid
  obtain ⟨_, -, hvalid⟩ := bind_ok.mp hvalid
  obtain ⟨_, -, hvalid⟩ := bind_ok.mp hvalid
  obtain ⟨_, -, hvalid⟩ := bind_ok.mp hvalid
  obtain ⟨_, htraces, -⟩ := bind_ok.mp hvalid
  obtain ⟨_, hnodup, -⟩ := bind_ok.mp htraces
  have hn := (require_ok.mp hnodup).2
  rw [hdata] at hn
  exact ((sortBy_perm (·.component) data.calculationTraces).map (·.component)).nodup_iff.mp hn

lemma promotionTraceOf_built {snapshot : ImmutableQuoteSnapshot} {data : QuoteRevisionData}
    (h : buildQuoteSnapshot data = .ok snapshot) :
    promotionTraceOf snapshot =
      data.calculationTraces.find? fun item => item.component = promotionComponent := by
  have hperm := sortBy_perm (·.component) data.calculationTraces
  rw [promotionTraceOf, (buildQuoteSnapshot_ok.mp h).1]
  exact find?_perm hperm ((hperm.map (·.component)).nodup_iff.mpr (components_nodup h))

omit [Unicodedata] in
lemma creditComponent_ne (creditId : Uuid) : creditComponent creditId ≠ promotionComponent := by
  intro heq
  have hhead := congrArg (fun s : String => s.toList.head?) heq
  simp [creditComponent, remedyCreditComponentPrefix, promotionComponent] at hhead

omit [Unicodedata] in
lemma releasedComponent_ne (creditId : Uuid) : releasedComponent creditId ≠ promotionComponent := by
  intro heq
  have hhead := congrArg (fun s : String => s.toList.head?) heq
  simp [releasedComponent, remedyCreditReleasedComponentPrefix, promotionComponent] at hhead

lemma promotionTraceOf_append {priced snapshot : ImmutableQuoteSnapshot} {data : QuoteRevisionData}
    {traces : List CalculationTraceSnapshot} (hbuild : buildQuoteSnapshot data = .ok snapshot)
    (htraces : data.calculationTraces = priced.data.calculationTraces ++ traces)
    (hother : ∀ trace ∈ traces, trace.component ≠ promotionComponent) :
    promotionTraceOf snapshot = promotionTraceOf priced := by
  have hnone : traces.find? (fun item => item.component = promotionComponent) = none :=
    List.find?_eq_none.mpr fun trace htrace => by simpa using hother trace htrace
  rw [promotionTraceOf_built hbuild, htraces, List.find?_append, hnone, Option.or_none]
  rfl

lemma promotionTraceOf_inherited {priced snapshot : ImmutableQuoteSnapshot} {data : QuoteRevisionData}
    (hbuild : buildQuoteSnapshot data = .ok snapshot)
    (htraces : data.calculationTraces = revisedTraces priced.data.calculationTraces []) :
    promotionTraceOf snapshot = promotionTraceOf priced := by
  rw [promotionTraceOf_built hbuild, htraces, revisedTraces, List.append_nil]
  simp only [List.map_nil, List.not_mem_nil, not_false_eq_true, decide_true, List.filter_true]
  rfl

lemma promotionTraceOf_revised {snapshot : ImmutableQuoteSnapshot} {data : QuoteRevisionData}
    {inherited : List CalculationTraceSnapshot} {trace : CalculationTraceSnapshot}
    (hbuild : buildQuoteSnapshot data = .ok snapshot)
    (htraces : data.calculationTraces = revisedTraces inherited [trace])
    (hcomponent : trace.component = promotionComponent) :
    promotionTraceOf snapshot = some trace := by
  have hnone : (inherited.filter fun item => item.component ∉ [trace].map (·.component)).find?
      (fun item => item.component = promotionComponent) = none := by
    refine List.find?_eq_none.mpr fun item hitem hfound => ?_
    have hkept := of_decide_eq_true (List.mem_filter.mp hitem).2
    refine hkept ?_
    rw [List.map_singleton, List.mem_singleton, hcomponent]
    exact of_decide_eq_true hfound
  rw [promotionTraceOf_built hbuild, htraces, revisedTraces, List.find?_append, hnone,
    Option.none_or, List.find?_singleton, hcomponent]
  rfl

lemma composedParts_engine {request : QuoteRequest} {parts : Parts}
    (h : composedParts request = .ok parts) :
    (∀ trace ∈ parts.traces, EngineTrace trace) ∧
      (∀ item ∈ parts.delivery.adjustments, item.kind = .delivery) ∧
      promotionOutcome request.promotion parts.lines parts.delivery.adjustments
        (isBanded parts.lines) request.pricedAt none = .ok parts.promoted := by
  obtain ⟨_, -, h⟩ := bind_ok.mp h
  obtain ⟨results, -, h⟩ := bind_ok.mp h
  obtain ⟨chosen, -, h⟩ := bind_ok.mp h
  obtain ⟨_, -, h⟩ := bind_ok.mp h
  obtain ⟨composed, hcomposed, h⟩ := bind_ok.mp h
  obtain ⟨delivery, hdelivery, h⟩ := bind_ok.mp h
  obtain ⟨_, -, h⟩ := bind_ok.mp h
  obtain ⟨promoted, hpromoted, h⟩ := bind_ok.mp h
  obtain ⟨_, -, h⟩ := bind_ok.mp h
  cases h
  obtain ⟨result, -, hdelivery⟩ := bind_ok.mp hdelivery
  obtain ⟨trace, htrace, hdelivery⟩ := bind_ok.mp hdelivery
  cases hdelivery
  refine ⟨?_, ?_, hpromoted⟩
  · intro trace' htrace'
    rcases List.mem_append.mp htrace' with hmem | hmem
    · obtain ⟨c, hc, rfl⟩ := List.mem_map.mp hmem
      obtain ⟨entry, -, hentry⟩ := forall₂_mem_right (mapM_ok.mp hcomposed) hc
      rw [composedLine] at hentry
      split at hentry
      · cases hentry
      · obtain ⟨amounts, -, hentry⟩ := bind_ok.mp hentry
        obtain ⟨captured, hcaptured, hentry⟩ := bind_ok.mp hentry
        cases hentry
        exact engineTrace_pricing (capture_component (escaping_ok.mp hcaptured))
    · rw [List.mem_singleton.mp hmem]
      have hcomponent := capture_component (escaping_ok.mp htrace)
      refine ⟨?_, releasedName_other (c := 'D') (by rw [hcomponent]; rfl) (by decide)⟩
      rw [hcomponent]
      decide
  · intro item hitem
    rw [deliveryOutcome] at hitem
    split at hitem
    · split_ifs at hitem with hzero
      · cases hitem
      · rw [List.mem_singleton.mp hitem]
        rfl
    · cases hitem

def isPromotion (item : QuoteAdjustmentSnapshot) : Bool := item.kind = .promotion

def amountsOf (items : List QuoteAdjustmentSnapshot) : List (Int × Int) :=
  items.map fun item => (item.amountMinVnd, item.amountMaxVnd)

/-- The amounts of a promotion's rows: a discount of nothing has no row. -/
def grantedAmounts (discount : Int) : List (Int × Int) :=
  if discount = 0 then [] else [(discount, discount)]

structure Grants (adjustments : List QuoteAdjustmentSnapshot) (banded : Bool)
    (outcome : PromotionOutcome) : Prop where
  kinds : ∀ item ∈ outcome.adjustments, item.kind = .promotion
  amounts : amountsOf outcome.adjustments = grantedAmounts outcome.discountVnd
  band : banded = true → outcome.traces = []
  trace : (outcome.traces = [] ∧ outcome.discountVnd = 0) ∨ ∃ trace frozen,
    outcome.traces = [trace] ∧ StatesPromotion trace frozen ∧
      frozen.discountAmountVnd = outcome.discountVnd ∧
      (otherPromotionPresent adjustments = true → ¬ notStackable (some frozen))

omit [Unicodedata] in
lemma evaluatePromotion_reasons {policy : PromotionPolicy} {lines : List PromotionLine}
    {occasion : Occasion} {result : PromotionResult}
    (h : evaluatePromotion policy lines occasion = .ok result) :
    result.reasonCodes = reasons policy lines occasion result.discountAmountVnd := by
  obtain ⟨_, -, h⟩ := bind_ok.mp h
  obtain ⟨_, -, h⟩ := bind_ok.mp h
  obtain ⟨_, -, h⟩ := bind_ok.mp h
  obtain ⟨_, -, h⟩ := bind_ok.mp h
  obtain ⟨_, -, h⟩ := bind_ok.mp h
  obtain ⟨subtotal, -, h⟩ := bind_ok.mp h
  dsimp only at h
  split at h
  all_goals
    obtain ⟨eligible, -, h⟩ := bind_ok.mp h
    obtain ⟨_, -, h⟩ := bind_ok.mp h
    obtain ⟨total, -, h⟩ := bind_ok.mp h
    cases h
    rfl

omit [Unicodedata] in
lemma granted_stacking {policy : PromotionPolicy} {lines : List PromotionLine}
    {occasion : Occasion} {result : PromotionResult}
    (h : evaluatePromotion policy lines occasion = .ok result)
    (hother : occasion.otherPromotionPresent = true) (hstacking : policy.stackingAllowed = false) :
    (granted result).discountAmountVnd = 0 := by
  obtain ⟨-, -, -, hdiscount, -⟩ := evaluatePromotion_ok h
  have hblocked : stackingBlocked policy occasion = true := by
    rw [stackingBlocked, hother, hstacking]
    rfl
  rw [granted]
  split_ifs with hreason
  · rfl
  · cases hinside : insideInterval policy (referenceAt occasion) with
    | false =>
      have hnone : appliedShares policy lines occasion = [] := by
        rw [appliedShares, applies, hinside, Bool.and_false]
        rfl
      rw [hdiscount, hnone]
      rfl
    | true =>
      refine absurd ?_ hreason
      rw [evaluatePromotion_reasons h, reasons, stackingRefused, hinside, hblocked]
      simp

lemma promotionOutcome_grants {published : Option PublishedPromotionProgram}
    {lines : List QuoteLineSnapshot} {adjustments : List QuoteAdjustmentSnapshot} {banded : Bool}
    {evaluationAt : Datetime} {eligibilityAt : Option Datetime} {outcome : PromotionOutcome}
    (h : promotionOutcome published lines adjustments banded evaluationAt eligibilityAt =
      .ok outcome) : Grants adjustments banded outcome := by
  cases published with
  | none =>
    cases h
    exact ⟨fun _ hitem => absurd hitem List.not_mem_nil, rfl, fun _ => rfl, .inl ⟨rfl, rfl⟩⟩
  | some published =>
    rw [promotionOutcome] at h
    split_ifs at h with hbanded
    · cases h
      exact ⟨fun _ hitem => absurd hitem List.not_mem_nil, rfl, fun _ => rfl, .inl ⟨rfl, rfl⟩⟩
    · obtain ⟨result, hresult, h⟩ := bind_ok.mp h
      obtain ⟨trace, htrace, h⟩ := bind_ok.mp h
      cases h
      obtain ⟨moments, hstates⟩ := capturePromotion_frozen (escaping_ok.mp htrace)
      exact {
        kinds := by
          intro item hitem
          rw [projected, promotionAdjustments] at hitem
          split_ifs at hitem with hzero
          · cases hitem
          · rw [List.mem_singleton.mp hitem]
        amounts := by
          show amountsOf (promotionAdjustments published result.discountAmountVnd) =
            grantedAmounts result.discountAmountVnd
          rw [promotionAdjustments, grantedAmounts]
          split_ifs with hzero
          · rfl
          · rfl
        band := fun hband => absurd hband hbanded
        trace := by
          refine .inr ⟨trace, _, rfl, hstates, rfl, ?_⟩
          rintro hother ⟨hstacking, hdiscount⟩
          obtain ⟨promotionLines, -, hresult⟩ := bind_ok.mp hresult
          split at hresult
          · next evaluation hevaluation =>
            cases hresult
            exact hdiscount (granted_stacking hevaluation hother hstacking)
          · cases hresult
          · cases hresult
      }

/-- The discount of a bill: the promotion that it froze, and the credits that it reserves. -/
structure Explained (snapshot : ImmutableQuoteSnapshot) (reserved : List RemedyCredit)
    (frozen : Option FrozenPromotion) : Prop where
  reservations :
    (snapshot.data.adjustments.filter isRemedyCredit).Perm (reserved.map creditAdjustment)
  distinct : (reserved.map RemedyCredit.creditId).Nodup
  promotions : (amountsOf (snapshot.data.adjustments.filter isPromotion)).Perm
    (grantedAmounts (frozenDiscount frozen))
  promotion : frozenPromotion snapshot = .ok frozen
  totals : snapshot.data.totals.discountAmountMinVnd =
      frozenDiscount frozen + (reserved.map RemedyCredit.amountVnd).sum ∧
    snapshot.data.totals.discountAmountMaxVnd =
      frozenDiscount frozen + (reserved.map RemedyCredit.amountVnd).sum
  stackable : reserved ≠ [] → ¬ notStackable frozen
  band : snapshot.data.finality = .range → frozen = none ∧ reserved = []

omit [Unicodedata] in
lemma Explained.read {snapshot : ImmutableQuoteSnapshot} {reserved : List RemedyCredit}
    {frozen : Option FrozenPromotion} (h : Explained snapshot reserved frozen) :
    ∃ credits, reservedRemedyCredits snapshot = .ok credits ∧ credits.Perm reserved :=
  mapM_perm h.reservations (mapM_map_ok reservedCredit_creditAdjustment reserved)

omit [Unicodedata] in
lemma Explained.perm {snapshot : ImmutableQuoteSnapshot} {reserved credits : List RemedyCredit}
    {frozen : Option FrozenPromotion} (h : Explained snapshot reserved frozen)
    (hperm : credits.Perm reserved) : Explained snapshot credits frozen := by
  have hsum : (credits.map RemedyCredit.amountVnd).sum = (reserved.map RemedyCredit.amountVnd).sum :=
    (hperm.map _).sum_eq
  exact {
    reservations := h.reservations.trans (hperm.map _).symm
    distinct := (hperm.map _).nodup_iff.mpr h.distinct
    promotions := h.promotions
    promotion := h.promotion
    totals := by
      rw [hsum]
      exact h.totals
    stackable := by
      intro hne
      refine h.stackable fun hnil => hne ?_
      rw [hnil] at hperm
      exact hperm.eq_nil
    band := by
      intro hband
      obtain ⟨hfrozen, hnil⟩ := h.band hband
      rw [hnil] at hperm
      exact ⟨hfrozen, hperm.eq_nil⟩
  }

omit [Unicodedata] in
lemma amountsOf_perm {items items' : List QuoteAdjustmentSnapshot} (h : items.Perm items') :
    (amountsOf items).Perm (amountsOf items') := h.map _

omit [Unicodedata] in
lemma filter_kinds {items : List QuoteAdjustmentSnapshot} (h : ∀ item ∈ items, item.kind = .promotion) :
    items.filter isPromotion = items ∧ items.filter isRemedyCredit = [] := by
  constructor
  · exact List.filter_eq_self.mpr fun item hitem => decide_eq_true (h item hitem)
  · refine List.filter_eq_nil_iff.mpr fun item hitem => ?_
    rw [isRemedyCredit, h item hitem]
    decide

lemma composeFresh_explained {request : QuoteRequest} {plain : ImmutableQuoteSnapshot}
    (h : composeFresh request = .ok plain) :
    (∃ frozen, Explained plain [] frozen) ∧
      ∀ trace ∈ plain.data.calculationTraces, releasedName trace = none := by
  obtain ⟨parts, hparts, h⟩ := bind_ok.mp h
  obtain ⟨validUntil, -, h⟩ := bind_ok.mp h
  have hbuild := guarded_ok.mp h
  have hdata := (buildQuoteSnapshot_ok.mp hbuild).1
  obtain ⟨hengine, hdelivery, hpromoted⟩ := composedParts_engine hparts
  have hgrants := promotionOutcome_grants hpromoted
  obtain ⟨hkept, hnone⟩ := filter_kinds hgrants.kinds
  have hunfound : parts.traces.find? (fun item => item.component = promotionComponent) = none :=
    List.find?_eq_none.mpr fun trace htrace => by simpa using (hengine trace htrace).1
  have hfound : promotionTraceOf plain =
      parts.promoted.traces.find? fun item => item.component = promotionComponent := by
    rw [promotionTraceOf_built hbuild]
    show (parts.traces ++ parts.promoted.traces).find? _ = _
    rw [List.find?_append, hunfound, Option.none_or]
  have hadjustments : plain.data.adjustments.Perm
      (parts.delivery.adjustments ++ parts.promoted.adjustments) := by
    rw [hdata]
    exact sortBy_perm _ _
  have hfilter : ∀ p : QuoteAdjustmentSnapshot → Bool, (∀ item, item.kind = .delivery → ¬ p item = true) →
      (plain.data.adjustments.filter p).Perm (parts.promoted.adjustments.filter p) := by
    intro p hp
    refine (hadjustments.filter p).trans ?_
    rw [List.filter_append,
      List.filter_eq_nil_iff.mpr fun item hitem => hp item (hdelivery item hitem), List.nil_append]
  have hcredits : (plain.data.adjustments.filter isRemedyCredit).Perm [] := by
    rw [← hnone]
    refine hfilter _ fun item hkind => ?_
    rw [isRemedyCredit, hkind]
    decide
  have hpromotions : (amountsOf (plain.data.adjustments.filter isPromotion)).Perm
      (grantedAmounts parts.promoted.discountVnd) := by
    rw [← hgrants.amounts]
    refine amountsOf_perm ?_
    rw [← hkept]
    refine hfilter _ fun item hkind => ?_
    rw [isPromotion, hkind]
    decide
  have hband : plain.data.finality = .range → isBanded parts.lines = true := by
    rw [hdata]
    show (finality (isBanded parts.lines) _).1 = _ → _
    rw [finality]
    split_ifs with hbanded
    · exact fun _ => hbanded
    · intro heq
      cases heq
    · intro heq
      cases heq
  have hmin : plain.data.totals.discountAmountMinVnd = parts.promoted.discountVnd := by
    rw [hdata]
    rfl
  have hmax : plain.data.totals.discountAmountMaxVnd = parts.promoted.discountVnd := by
    rw [hdata]
    rfl
  constructor
  · obtain ⟨frozen, hfrozen, hdiscount, hrange⟩ : ∃ frozen, frozenPromotion plain = .ok frozen ∧
        frozenDiscount frozen = parts.promoted.discountVnd ∧
        (plain.data.finality = .range → frozen = none) := by
      rcases hgrants.trace with ⟨hnil, hzero⟩ | ⟨one, frozen, hone, hstates, hdiscount, -⟩
      · rw [hnil] at hfound
        refine ⟨none, ?_, hzero.symm, fun _ => rfl⟩
        rw [frozenPromotion, hfound]
        rfl
      · refine ⟨some frozen, hstates.frozenPromotion ?_, hdiscount, fun hrange => ?_⟩
        · rw [hfound, hone, List.find?_singleton, hstates.component]
          rfl
        · rw [hgrants.band (hband hrange)] at hone
          cases hone
    refine ⟨frozen, ?_⟩
    exact {
      reservations := hcredits
      distinct := .nil
      promotions := hdiscount.symm ▸ hpromotions
      promotion := hfrozen
      totals := by
        rw [List.map_nil, List.sum_nil, add_zero, hdiscount]
        exact ⟨hmin, hmax⟩
      stackable := fun hne => absurd rfl hne
      band := fun hfinality => ⟨hrange hfinality, rfl⟩
    }
  · intro trace htrace
    rw [hdata] at htrace
    rcases List.mem_append.mp (mem_sortBy.mp htrace) with hmem | hmem
    · exact (hengine trace hmem).2
    · rcases hgrants.trace with ⟨hnil, -⟩ | ⟨one, _, hone, hstates, -⟩
      · rw [hnil] at hmem
        cases hmem
      · rw [hone, List.mem_singleton] at hmem
        have hlist : trace.component.toList = 'P' :: "ROMOTION".toList := by
          rw [hmem, hstates.component]
          rfl
        exact releasedName_other hlist (by decide)

lemma Explained.redeem {priced snapshot : ImmutableQuoteSnapshot} {reserved : List RemedyCredit}
    {frozen : Option FrozenPromotion} {revision : Int} {credit : RemedyCredit}
    (h : Explained priced reserved frozen)
    (hredeem : redeemRemedyCredit priced revision credit = .ok snapshot) :
    Explained snapshot (reserved ++ [credit]) frozen ∧
      ∃ trace, trace.component = creditComponent credit.creditId ∧
        snapshot.data.calculationTraces.Perm (priced.data.calculationTraces ++ [trace]) := by
  obtain ⟨known, hknown, hredeem⟩ := bind_ok.mp hredeem
  obtain ⟨_, hnew, hredeem⟩ := bind_ok.mp hredeem
  obtain ⟨_, hopen, hredeem⟩ := bind_ok.mp hredeem
  obtain ⟨frozen', hfrozen, hredeem⟩ := bind_ok.mp hredeem
  obtain ⟨_, hstackable, hredeem⟩ := bind_ok.mp hredeem
  obtain ⟨weights, -, hredeem⟩ := bind_ok.mp hredeem
  obtain ⟨allocation, -, hredeem⟩ := bind_ok.mp hredeem
  obtain ⟨trace, htrace, hbuild⟩ := bind_ok.mp (guarded_ok.mp hredeem)
  have hcomponent : trace.component = creditComponent credit.creditId := capture_component htrace
  have hdata := (buildQuoteSnapshot_ok.mp hbuild).1
  obtain ⟨credits, hcredits, hperm⟩ := h.read
  have hsame : known = credits := by
    have hknown := escaping_ok.mp hknown
    rw [hcredits] at hknown
    exact (Except.ok.inj hknown).symm
  have hfresh : credit.creditId ∉ reserved.map RemedyCredit.creditId := by
    rw [(hperm.map _).symm.mem_iff, ← hsame]
    intro hmem
    obtain ⟨item, hitem, heq⟩ := List.mem_map.mp hmem
    exact require_ok.mp hnew item hitem heq
  have hfrozen' : frozen' = frozen := by
    have hfrozen := escaping_ok.mp hfrozen
    rw [h.promotion] at hfrozen
    exact (Except.ok.inj hfrozen).symm
  have hadjustments : snapshot.data.adjustments.Perm
      (priced.data.adjustments ++ [creditAdjustment credit]) := by
    rw [hdata]
    exact sortBy_perm _ _
  have hother : ∀ other ∈ [trace], other.component ≠ promotionComponent := by
    intro other hother
    rw [List.mem_singleton.mp hother, hcomponent]
    exact creditComponent_ne _
  refine ⟨?_, trace, hcomponent, ?_⟩
  · exact {
      reservations := by
        refine (hadjustments.filter isRemedyCredit).trans ?_
        have hcredit : isRemedyCredit (creditAdjustment credit) = true := rfl
        rw [List.filter_append, List.filter_cons_of_pos hcredit, List.filter_nil, List.map_append]
        exact h.reservations.append_right _
      distinct := by
        rw [List.map_append, List.nodup_append]
        refine ⟨h.distinct, List.nodup_singleton _, fun creditId hmem other hother heq => ?_⟩
        rw [heq, List.mem_singleton.mp hother] at hmem
        exact hfresh hmem
      promotions := by
        refine (amountsOf_perm (hadjustments.filter isPromotion)).trans ?_
        have hcredit : ¬ isPromotion (creditAdjustment credit) = true := by
          simp [isPromotion, creditAdjustment]
        rw [List.filter_append, List.filter_cons_of_neg hcredit, List.filter_nil, List.append_nil]
        exact h.promotions
      promotion := by
        rw [← h.promotion]
        exact frozenPromotion_congr (promotionTraceOf_append hbuild rfl hother)
      totals := by
        obtain ⟨hmin, hmax⟩ := h.totals
        rw [hdata, List.map_append, List.sum_append, List.map_singleton, List.sum_singleton]
        constructor
        · show priced.data.totals.discountAmountMinVnd + credit.amountVnd = _
          rw [hmin, add_assoc]
        · show priced.data.totals.discountAmountMaxVnd + credit.amountVnd = _
          rw [hmax, add_assoc]
      stackable := by
        intro _
        rw [← hfrozen']
        exact require_ok.mp hstackable
      band := by
        rw [hdata]
        exact fun hband => absurd hband (require_ok.mp hopen).1
    }
  · rw [hdata]
    exact sortBy_perm _ _

omit [Unicodedata] in
lemma Explained.of_same {priced snapshot : ImmutableQuoteSnapshot} {reserved : List RemedyCredit}
    {frozen : Option FrozenPromotion} (h : Explained priced reserved frozen)
    (hadjustments : snapshot.data.adjustments.Perm priced.data.adjustments)
    (htotals : snapshot.data.totals = priced.data.totals)
    (hpromotion : frozenPromotion snapshot = .ok frozen)
    (hfinality : snapshot.data.finality = .range → priced.data.finality = .range) :
    Explained snapshot reserved frozen where
  reservations := (hadjustments.filter _).trans h.reservations
  distinct := h.distinct
  promotions := (amountsOf_perm (hadjustments.filter _)).trans h.promotions
  promotion := hpromotion
  totals := by
    rw [htotals]
    exact h.totals
  stackable := h.stackable
  band := fun hband => h.band (hfinality hband)

lemma Explained.state {snapshot stated : ImmutableQuoteSnapshot} {reserved : List RemedyCredit}
    {frozen : Option FrozenPromotion} {released : List (RemedyCredit × String)}
    (h : Explained snapshot reserved frozen)
    (hstate : stateReleasedCredits snapshot released = .ok stated) :
    Explained stated reserved frozen ∧ stated.data.totals = snapshot.data.totals ∧
      ∃ traces, List.Forall₂ (fun r trace => releasedTrace r.1 r.2 = .ok trace) released traces ∧
        stated.data.calculationTraces.Perm (snapshot.data.calculationTraces ++ traces) := by
  obtain ⟨traces, htraces, hbuild⟩ := bind_ok.mp (guarded_ok.mp hstate)
  have hall := mapM_ok.mp htraces
  have hdata := (buildQuoteSnapshot_ok.mp hbuild).1
  have hother : ∀ trace ∈ traces, trace.component ≠ promotionComponent := by
    intro trace htrace
    obtain ⟨r, -, hr⟩ := forall₂_mem_right hall htrace
    rw [capture_component hr]
    exact releasedComponent_ne _
  have htotals : stated.data.totals = snapshot.data.totals := by
    rw [hdata]
    rfl
  refine ⟨?_, htotals, traces, hall, ?_⟩
  · refine h.of_same ?_ htotals ?_ ?_
    · rw [hdata]
      exact sortBy_perm _ _
    · rw [← h.promotion]
      exact frozenPromotion_congr (promotionTraceOf_append hbuild rfl hother)
    · rw [hdata]
      exact id
  · rw [hdata]
    exact sortBy_perm _ _

lemma Grants.revised {priced snapshot : ImmutableQuoteSnapshot} {data : QuoteRevisionData}
    {adjustments : List QuoteAdjustmentSnapshot} {banded : Bool} {outcome : PromotionOutcome}
    {frozen : Option FrozenPromotion} (h : Grants adjustments banded outcome)
    (hbuild : buildQuoteSnapshot data = .ok snapshot)
    (htraces : data.calculationTraces =
      revisedTraces priced.data.calculationTraces outcome.traces)
    (hfrozen : frozenPromotion priced = .ok frozen)
    (hsame : outcome.traces = [] → frozenDiscount frozen = outcome.discountVnd) :
    ∃ frozen', frozenPromotion snapshot = .ok frozen' ∧
      frozenDiscount frozen' = outcome.discountVnd ∧
      (otherPromotionPresent adjustments = true → ¬ notStackable frozen') := by
  rcases h.trace with ⟨hnil, hzero⟩ | ⟨trace, stated, hone, hstates, hdiscount, hstackable⟩
  · have hsame := hsame hnil
    refine ⟨frozen, ?_, hsame, fun _ hstacked => ?_⟩
    · rw [← hfrozen]
      refine frozenPromotion_congr (promotionTraceOf_inherited hbuild ?_)
      rw [htraces, hnil]
    · rw [hzero] at hsame
      cases frozen with
      | none => exact hstacked
      | some frozen => exact hstacked.2 hsame
  · refine ⟨some stated, hstates.frozenPromotion ?_, hdiscount, hstackable⟩
    rw [hone] at htraces
    exact promotionTraceOf_revised hbuild htraces hstates.component

lemma Explained.close {priced snapshot : ImmutableQuoteSnapshot} {reserved : List RemedyCredit}
    {frozen : Option FrozenPromotion} {revision : Int} {attestation : RangePriceAttestation}
    {promotion : Option PublishedPromotionProgram} {closedAt : Option Datetime}
    (h : Explained priced reserved frozen)
    (hclose : closeRangePrices priced revision attestation promotion closedAt = .ok snapshot) :
    ∃ frozen', Explained snapshot [] frozen' := by
  obtain ⟨_, hband, hclose⟩ := bind_ok.mp hclose
  obtain ⟨_, -, hclose⟩ := bind_ok.mp hclose
  obtain ⟨_, -, hclose⟩ := bind_ok.mp hclose
  obtain ⟨amounts, -, hclose⟩ := bind_ok.mp hclose
  obtain ⟨_, -, hclose⟩ := bind_ok.mp hclose
  obtain ⟨_, -, hclose⟩ := bind_ok.mp hclose
  obtain ⟨_, -, hclose⟩ := bind_ok.mp hclose
  obtain ⟨promoted, hpromoted, hclose⟩ := bind_ok.mp hclose
  obtain ⟨_, -, hclose⟩ := bind_ok.mp hclose
  obtain ⟨_, -, hclose⟩ := bind_ok.mp hclose
  have hbuild := guarded_ok.mp hclose
  have hdata := (buildQuoteSnapshot_ok.mp hbuild).1
  have hgrants := promotionOutcome_grants hpromoted
  obtain ⟨hkept, hnone⟩ := filter_kinds hgrants.kinds
  obtain ⟨rfl, rfl⟩ := h.band (require_ok.mp hband)
  obtain ⟨frozen', hfrozen', hdiscount, hstackable⟩ := hgrants.revised hbuild rfl h.promotion (by
    intro hnil
    rcases hgrants.trace with ⟨-, hzero⟩ | ⟨trace, _, hone, -⟩
    · exact hzero.symm
    · rw [hnil] at hone
      cases hone)
  have hadjustments : snapshot.data.adjustments.Perm
      (priced.data.adjustments ++ promoted.adjustments) := by
    rw [hdata]
    exact sortBy_perm _ _
  refine ⟨frozen', ?_⟩
  exact {
    reservations := by
      refine (hadjustments.filter isRemedyCredit).trans ?_
      rw [List.filter_append, hnone, List.append_nil]
      exact h.reservations
    distinct := .nil
    promotions := by
      refine (amountsOf_perm (hadjustments.filter isPromotion)).trans ?_
      have hnil : amountsOf (priced.data.adjustments.filter isPromotion) = [] := h.promotions.eq_nil
      rw [List.filter_append, hkept, amountsOf, List.map_append]
      rw [amountsOf] at hnil
      rw [hnil, List.nil_append, hdiscount, ← hgrants.amounts]
      exact .refl _
    promotion := hfrozen'
    totals := by
      rw [hdata, hdiscount, List.map_nil, List.sum_nil, add_zero]
      exact ⟨rfl, rfl⟩
    stackable := fun hne => absurd rfl hne
    band := by
      rw [hdata]
      intro hfinality
      cases hfinality
  }

omit [Unicodedata] in
lemma Explained.other {snapshot : ImmutableQuoteSnapshot} {reserved : List RemedyCredit}
    {frozen : Option FrozenPromotion} (h : Explained snapshot reserved frozen)
    (hne : reserved ≠ []) : otherPromotionPresent snapshot.data.adjustments = true := by
  obtain ⟨credit, hcredit⟩ := List.exists_mem_of_ne_nil reserved hne
  have hmem := h.reservations.mem_iff.mpr (List.mem_map_of_mem (f := creditAdjustment) hcredit)
  refine List.any_eq_true.mpr ⟨_, (List.mem_filter.mp hmem).1, ?_⟩
  have hid : (creditAdjustment credit).adjustmentId ≠ promotionAdjustmentId := by
    intro heq
    have hhead := congrArg (fun s : String => s.toList.head?) heq
    simp [creditAdjustment, remedyCreditAdjustmentPrefix, promotionAdjustmentId] at hhead
  rw [Bool.and_eq_true]
  exact ⟨rfl, decide_eq_true hid⟩

lemma reverified_cases {priced : ImmutableQuoteSnapshot} {promotion : Option PublishedPromotionProgram}
    {acceptedAt : Option Datetime} {verified : Option PromotionOutcome}
    {frozen : Option FrozenPromotion} (hfrozen : frozenPromotion priced = .ok frozen)
    (h : reverifiedEligibility priced promotion acceptedAt = .ok verified) :
    verified = none ∨ ∃ recomputed moment, verified = some recomputed ∧ acceptedAt = some moment ∧
      promotionOutcome promotion priced.data.lines priced.data.adjustments false moment
        (some moment) = .ok recomputed ∧ recomputed.discountVnd = frozenDiscount frozen := by
  rw [reverifiedEligibility.eq_def] at h
  dsimp only at h
  split at h
  · cases h
    exact .inl rfl
  · split at h
    · cases h
    · next moment =>
      obtain ⟨_, -, h⟩ := bind_ok.mp h
      obtain ⟨frozen', hfrozen', h⟩ := bind_ok.mp h
      obtain ⟨_, -, h⟩ := bind_ok.mp h
      obtain ⟨recomputed, hrecomputed, h⟩ := bind_ok.mp h
      obtain ⟨_, hdiscount, h⟩ := bind_ok.mp h
      have hsame : frozen' = frozen := by
        rw [escaping_ok.mp hfrozen'] at hfrozen
        exact Except.ok.inj hfrozen
      split at h
      · cases h
        exact .inl rfl
      · obtain ⟨_, -, h⟩ := bind_ok.mp h
        cases h
        refine .inr ⟨recomputed, moment, rfl, rfl, hrecomputed, ?_⟩
        rw [← hsame]
        exact require_ok.mp hdiscount

lemma Explained.accept {priced snapshot : ImmutableQuoteSnapshot} {reserved : List RemedyCredit}
    {frozen : Option FrozenPromotion} {revision : Int}
    {promotion : Option PublishedPromotionProgram} {acceptedAt : Option Datetime}
    (h : Explained priced reserved frozen)
    (haccept : acceptQuoteRevision priced revision promotion acceptedAt = .ok snapshot) :
    ∃ frozen', Explained snapshot reserved frozen' ∧
      frozenDiscount frozen' = frozenDiscount frozen := by
  obtain ⟨_, -, haccept⟩ := bind_ok.mp haccept
  obtain ⟨_, -, haccept⟩ := bind_ok.mp haccept
  obtain ⟨_, -, haccept⟩ := bind_ok.mp haccept
  obtain ⟨_, -, haccept⟩ := bind_ok.mp haccept
  obtain ⟨verified, hverified, haccept⟩ := bind_ok.mp haccept
  obtain ⟨_, -, haccept⟩ := bind_ok.mp haccept
  have hbuild := guarded_ok.mp haccept
  have hdata := (buildQuoteSnapshot_ok.mp hbuild).1
  rcases reverified_cases h.promotion hverified with rfl |
    ⟨recomputed, moment, rfl, -, hrecomputed, hdiscount⟩
  · refine ⟨frozen, h.of_same ?_ ?_ ?_ ?_, rfl⟩
    · rw [hdata]
      exact sortBy_perm _ _
    · rw [hdata]
      rfl
    · rw [← h.promotion]
      refine frozenPromotion_congr ?_
      rw [promotionTraceOf_built hbuild]
      rfl
    · rw [hdata]
      intro hband
      cases hband
  · have hgrants := promotionOutcome_grants hrecomputed
    obtain ⟨frozen', hfrozen', hdiscount', hstackable⟩ :=
      hgrants.revised hbuild rfl h.promotion fun _ => hdiscount.symm
    have hkept : frozenDiscount frozen' = frozenDiscount frozen := hdiscount'.trans hdiscount
    have hadjustments : snapshot.data.adjustments.Perm priced.data.adjustments := by
      rw [hdata]
      exact sortBy_perm _ _
    refine ⟨frozen', ?_, hkept⟩
    exact {
      reservations := (hadjustments.filter _).trans h.reservations
      distinct := h.distinct
      promotions := by
        rw [hkept]
        exact (amountsOf_perm (hadjustments.filter _)).trans h.promotions
      promotion := hfrozen'
      totals := by
        rw [hdata, hkept]
        exact h.totals
      stackable := fun hne => hstackable (h.other hne)
      band := by
        rw [hdata]
        intro hband
        cases hband
    }

end NhaTrangLaundry.Domain.QuoteComposition
