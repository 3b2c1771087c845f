import NhaTrangLaundry.Domain.SealedRevisions

/-! The revisions that are composed, and derived from stored ones, read back as themselves. -/

namespace NhaTrangLaundry.Domain.QuoteComposition

open Lib Catalog Canonical Outcome Sorting Distinct Quotes Promotion Delivery Pricing RangePrices
open Remedies StrEnum

lemma discountedLine_id (allocated : List (String × Int)) (line : QuoteLineSnapshot) :
    (discountedLine allocated line).lineId = line.lineId := by
  rw [discountedLine]
  split
  · rfl
  · split
    · rfl
    · split_ifs
      · rfl
      · rfl

lemma creditedLine_id (shares : List (String × Int)) (line : QuoteLineSnapshot) :
    (creditedLine shares line).lineId = line.lineId := by
  rw [creditedLine]
  split
  · rfl
  · rfl

lemma closedLine_id (amounts : List (String × Int)) (line : QuoteLineSnapshot) :
    (closedLine amounts line).lineId = line.lineId := by
  rw [closedLine]
  split
  · rfl
  · rfl

lemma ascii_lineId (index : Nat) : Text.ascii (lineId index) := by
  refine Text.ascii_append (by decide) (Text.ascii_ofList.mpr fun c hc => ?_)
  have hdigit := Nat.isDigit_of_mem_toDigits (b := 10) (by omega) (by omega) hc
  rw [Char.isDigit, Bool.and_eq_true, decide_eq_true_eq, decide_eq_true_eq] at hdigit
  exact lt_of_le_of_lt (UInt32.le_iff_toNat_le.mp hdigit.2) (by decide)

lemma ascii_creditId (creditId : Uuid) :
    Text.ascii (remedyCreditAdjustmentPrefix ++ creditId.str) :=
  Text.ascii_append (by decide) (ascii_uuid creditId)

lemma escaping_ok {α : Type} {x : Except PyException α} {a : α} :
    escaping x = .ok a ↔ x = .ok a := by
  cases x with
  | error e => simp [escaping]
  | ok b => simp [escaping]

lemma guarded_ok {α : Type} {x : Except PyException α} {a : α} : guarded x = .ok a ↔ x = .ok a := by
  cases x with
  | error e => cases e <;> simp [guarded, unresolved]
  | ok b => simp [guarded]

lemma proper_pricingTrace (trace : CalculationTrace) : (pricingTraceValue trace).Proper true := by
  refine Value.Proper.named ["service_code", "rule_type", "unit", "input_quantities",
    "quantity_bases", "aggregate_quantity", "billable_quantity", "selected_tier", "unit_price_vnd",
    "range_min_unit_vnd", "range_max_unit_vnd", "rounding"] rfl (by decide) (by decide) ?_
  simp only [List.forall_mem_cons]
  exact ⟨.str, proper_enum _, proper_enum _, proper_map (fun _ => .str) _,
    proper_map proper_enum _, .str, .str, proper_optional (fun _ => .int) _,
    proper_optional (fun _ => .int) _, proper_optional (fun _ => .int) _,
    proper_optional (fun _ => .int) _, .str, by simp⟩

variable [Unicodedata]

lemma fixed_kept {lines : List QuoteLineSnapshot} {f : QuoteLineSnapshot → QuoteLineSnapshot}
    (hid : ∀ line, (f line).lineId = line.lineId) (h : ∀ line ∈ lines, fixed line.lineId) :
    ∀ line ∈ lines.map f, fixed line.lineId := by
  intro line hline
  obtain ⟨original, horiginal, rfl⟩ := List.mem_map.mp hline
  rw [hid]
  exact h original horiginal

def TraceKept (trace : CalculationTraceSnapshot) : Prop :=
  fixed trace.engineVersion ∧ Captured trace.trace

lemma traceKept_of_capture {component version : String} {v : Value}
    {trace : CalculationTraceSnapshot} (hversion : Text.ascii version) (hv : v.Proper true)
    (h : captureCalculationTrace component version v = .ok trace) : TraceKept trace := by
  obtain ⟨_, -, h⟩ := bind_ok.mp h
  split at h
  · next document hdocument =>
    cases h
    exact ⟨fixed_ascii hversion, captured_of_named hv.named' hdocument⟩
  · cases h
  · cases h

/-- What a promotion contributes to a revision keeps the lines' identities, and is captured. -/
structure OutcomeKept (lines : List QuoteLineSnapshot) (outcome : PromotionOutcome) : Prop where
  lines : (∀ line ∈ lines, fixed line.lineId) → ∀ line ∈ outcome.lines, fixed line.lineId
  adjustments : ∀ item ∈ outcome.adjustments, fixed item.adjustmentId
  traces : ∀ trace ∈ outcome.traces, TraceKept trace

lemma notEvaluated_kept (lines : List QuoteLineSnapshot)
    (references : List ConfigurationSnapshotReference) (reason : String) :
    OutcomeKept lines (notEvaluated lines references reason) where
  lines := id
  adjustments := fun _ hitem => nomatch hitem
  traces := fun _ htrace => nomatch htrace

lemma promotionOutcome_kept {published : Option PublishedPromotionProgram}
    {lines : List QuoteLineSnapshot} {adjustments : List QuoteAdjustmentSnapshot} {banded : Bool}
    {evaluationAt : Datetime} {eligibilityAt : Option Datetime} {outcome : PromotionOutcome}
    (h : promotionOutcome published lines adjustments banded evaluationAt eligibilityAt =
      .ok outcome) : OutcomeKept lines outcome := by
  cases published with
  | none =>
    cases h
    exact notEvaluated_kept _ _ _
  | some published =>
    rw [promotionOutcome] at h
    split_ifs at h with hbanded
    · cases h
      exact notEvaluated_kept _ _ _
    · obtain ⟨result, -, h⟩ := bind_ok.mp h
      obtain ⟨trace, htrace, h⟩ := bind_ok.mp h
      cases h
      obtain ⟨moments, -, hcapture⟩ := bind_ok.mp (escaping_ok.mp htrace)
      exact {
        lines := fixed_kept (discountedLine_id _)
        adjustments := by
          intro item hitem
          rw [projected, promotionAdjustments] at hitem
          split_ifs at hitem with hzero
          · cases hitem
          · rw [List.mem_singleton.mp hitem]
            exact (fixed_ascii (by decide) : fixed promotionAdjustmentId)
        traces := by
          intro trace' htrace'
          rw [List.mem_singleton.mp htrace']
          exact traceKept_of_capture (by decide) .json hcapture }

lemma readable_normalized {data : QuoteRevisionData} (h : Readable data) :
    Readable (Quotes.normalized data) where
  lineIds := fun line hline => h.lineIds line (mem_sortBy.mp hline)
  adjustmentIds := fun item hitem => h.adjustmentIds item (mem_sortBy.mp hitem)
  traces := fun trace htrace => h.traces trace (mem_sortBy.mp htrace)
  engineVersion := h.engineVersion

/-- A snapshot that was built of a readable revision. -/
structure Built (snapshot : ImmutableQuoteSnapshot) : Prop where
  built : ∃ data, buildQuoteSnapshot data = .ok snapshot
  readable : Readable snapshot.data

lemma Built.of_build {data : QuoteRevisionData} {snapshot : ImmutableQuoteSnapshot}
    (hreadable : Readable data) (h : buildQuoteSnapshot data = .ok snapshot) : Built snapshot where
  built := ⟨data, h⟩
  readable := by
    rw [(buildQuoteSnapshot_ok.mp h).1]
    exact readable_normalized hreadable

lemma composedLine_kept {request : QuoteRequest} {chosen : List (String × Int)}
    {entry : (String × PriceResult) × Nat} {composed : QuoteLineSnapshot × CalculationTraceSnapshot}
    (h : composedLine request chosen entry = .ok composed) :
    fixed composed.1.lineId ∧ TraceKept composed.2 := by
  rw [composedLine] at h
  split at h
  · cases h
  · obtain ⟨amounts, -, h⟩ := bind_ok.mp h
    obtain ⟨trace, htrace, h⟩ := bind_ok.mp h
    cases h
    exact ⟨fixed_ascii (ascii_lineId entry.2),
      traceKept_of_capture (by decide) (proper_pricingTrace _) (escaping_ok.mp htrace)⟩

lemma composedLines_kept {request : QuoteRequest} {chosen : List (String × Int)}
    {results : List (String × PriceResult)}
    {composed : List (QuoteLineSnapshot × CalculationTraceSnapshot)}
    (h : composedLines request chosen results = .ok composed) :
    ∀ c ∈ composed, fixed c.1.lineId ∧ TraceKept c.2 := by
  intro c hc
  obtain ⟨entry, -, hentry⟩ := forall₂_mem_right (mapM_ok.mp h) hc
  exact composedLine_kept hentry

lemma deliveryOutcome_ids {delivery : DeliveryResult} :
    ∀ item ∈ (deliveryOutcome delivery).adjustments, fixed item.adjustmentId := by
  intro item hitem
  rw [deliveryOutcome] at hitem
  split at hitem
  · split_ifs at hitem with hzero
    · cases hitem
    · rw [List.mem_singleton.mp hitem]
      exact (fixed_ascii (by decide) : fixed "delivery")
  · cases hitem

/-- What the engines contributed to a revision is readable. -/
structure PartsKept (parts : Parts) : Prop where
  lines : ∀ line ∈ parts.promoted.lines, fixed line.lineId
  delivery : ∀ item ∈ parts.delivery.adjustments, fixed item.adjustmentId
  promoted : ∀ item ∈ parts.promoted.adjustments, fixed item.adjustmentId
  traces : ∀ trace ∈ parts.traces ++ parts.promoted.traces, TraceKept trace

lemma composedParts_kept {request : QuoteRequest} {parts : Parts}
    (h : composedParts request = .ok parts) : PartsKept parts := by
  obtain ⟨_, -, h⟩ := bind_ok.mp h
  obtain ⟨results, -, h⟩ := bind_ok.mp h
  obtain ⟨chosen, -, h⟩ := bind_ok.mp h
  obtain ⟨_, -, h⟩ := bind_ok.mp h
  obtain ⟨composed, hcomposed, h⟩ := bind_ok.mp h
  obtain ⟨delivery, hdelivery, h⟩ := bind_ok.mp h
  obtain ⟨_, -, h⟩ := bind_ok.mp h
  obtain ⟨promoted, hpromoted, h⟩ := bind_ok.mp h
  obtain ⟨_, -, h⟩ := bind_ok.mp h
  cases h
  obtain ⟨result, -, hdelivery⟩ := bind_ok.mp hdelivery
  obtain ⟨trace, htrace, hdelivery⟩ := bind_ok.mp hdelivery
  cases hdelivery
  have hlines := composedLines_kept hcomposed
  have hkept := promotionOutcome_kept hpromoted
  exact {
    lines := by
      refine hkept.lines fun line hline => ?_
      obtain ⟨c, hc, rfl⟩ := List.mem_map.mp hline
      exact (hlines c hc).1
    delivery := deliveryOutcome_ids
    promoted := hkept.adjustments
    traces := by
      intro trace' htrace'
      rcases List.mem_append.mp htrace' with hmem | hmem
      · rcases List.mem_append.mp hmem with hmem | hmem
        · obtain ⟨c, hc, rfl⟩ := List.mem_map.mp hmem
          exact (hlines c hc).2
        · rw [List.mem_singleton.mp hmem]
          exact traceKept_of_capture (by decide) .json (escaping_ok.mp htrace)
      · exact hkept.traces trace' hmem }

omit [Unicodedata] in
lemma pricing_not_promotion (code : String) : "PRICING_" ++ code ≠ promotionComponent := by
  intro h
  have hthird := congrArg (fun s : String => s.toList[2]?) h
  simp only [String.toList_append] at hthird
  revert hthird
  simp [promotionComponent]

lemma verified_of_kept {trace : CalculationTraceSnapshot} (h : TraceKept trace) :
    verifyCanonicalDocument trace.trace = true := by
  obtain ⟨-, j, s, hj, hs, hdocument⟩ := h
  rw [hdocument]
  exact verify_documentOf (settled_mono (by simp) hj) hs

omit [Unicodedata] in
lemma discountedLine_hash (allocated : List (String × Int)) (line : QuoteLineSnapshot) :
    (discountedLine allocated line).priceTraceHash = line.priceTraceHash := by
  rw [discountedLine]
  split
  · rfl
  · split
    · rfl
    · split_ifs
      · rfl
      · rfl

lemma promotionOutcome_hashes {published : Option PublishedPromotionProgram}
    {lines : List QuoteLineSnapshot} {adjustments : List QuoteAdjustmentSnapshot} {banded : Bool}
    {evaluationAt : Datetime} {eligibilityAt : Option Datetime} {outcome : PromotionOutcome}
    (h : promotionOutcome published lines adjustments banded evaluationAt eligibilityAt =
      .ok outcome) :
    ∀ line ∈ outcome.lines, ∃ original ∈ lines, original.priceTraceHash = line.priceTraceHash := by
  intro line hline
  cases published with
  | none =>
    cases h
    exact ⟨line, hline, rfl⟩
  | some published =>
    rw [promotionOutcome] at h
    split_ifs at h with hbanded
    · cases h
      exact ⟨line, hline, rfl⟩
    · obtain ⟨result, -, h⟩ := bind_ok.mp h
      obtain ⟨trace, -, h⟩ := bind_ok.mp h
      cases h
      obtain ⟨original, horiginal, rfl⟩ := List.mem_map.mp hline
      exact ⟨original, horiginal, (discountedLine_hash _ _).symm⟩

lemma composedLine_hash {request : QuoteRequest} {chosen : List (String × Int)}
    {entry : (String × PriceResult) × Nat} {composed : QuoteLineSnapshot × CalculationTraceSnapshot}
    (h : composedLine request chosen entry = .ok composed) :
    composed.2.component ≠ promotionComponent ∧
      composed.2.trace.snapshotHash = composed.1.priceTraceHash := by
  rw [composedLine] at h
  split at h
  · cases h
  · obtain ⟨amounts, -, h⟩ := bind_ok.mp h
    obtain ⟨trace, htrace, h⟩ := bind_ok.mp h
    cases h
    rw [capture_component (escaping_ok.mp htrace)]
    exact ⟨pricing_not_promotion _, rfl⟩

lemma composedParts_sealed {request : QuoteRequest} {parts : Parts}
    (h : composedParts request = .ok parts) (validUntil : Datetime) :
    Sealed (freshData request parts validUntil) := by
  have hkept := composedParts_kept h
  obtain ⟨_, -, h⟩ := bind_ok.mp h
  obtain ⟨results, -, h⟩ := bind_ok.mp h
  obtain ⟨chosen, -, h⟩ := bind_ok.mp h
  obtain ⟨_, -, h⟩ := bind_ok.mp h
  obtain ⟨composed, hcomposed, h⟩ := bind_ok.mp h
  obtain ⟨delivery, -, h⟩ := bind_ok.mp h
  obtain ⟨_, -, h⟩ := bind_ok.mp h
  obtain ⟨promoted, hpromoted, h⟩ := bind_ok.mp h
  obtain ⟨_, -, h⟩ := bind_ok.mp h
  cases h
  exact {
    verified := fun trace htrace => verified_of_kept (hkept.traces trace htrace)
    embedded := by
      intro line hline
      obtain ⟨original, horiginal, hsame⟩ := promotionOutcome_hashes hpromoted line hline
      obtain ⟨c, hc, rfl⟩ := List.mem_map.mp horiginal
      obtain ⟨entry, -, hentry⟩ := forall₂_mem_right (mapM_ok.mp hcomposed) hc
      obtain ⟨hcomponent, hhash⟩ := composedLine_hash hentry
      exact ⟨c.2, List.mem_append_left _ (List.mem_append_left _ (List.mem_map_of_mem hc)),
        hcomponent, hhash.trans hsame⟩ }

/-- The request is priced, and its data passes the check; no document is looked into. -/
def pricesTo (request : QuoteRequest) (check : QuoteRevisionData → Bool) : Bool :=
  match composedParts request, addDay request.pricedAt with
  | .ok parts, .ok validUntil => check (freshData request parts validUntil)
  | _, _ => false

lemma pricesTo_iff {request : QuoteRequest} {check : QuoteRevisionData → Bool} :
    pricesTo request check = true ↔ ∃ parts validUntil, composedParts request = .ok parts ∧
      addDay request.pricedAt = .ok validUntil ∧
        check (freshData request parts validUntil) = true := by
  constructor
  · intro h
    rw [pricesTo] at h
    split at h
    · next parts validUntil hparts hends => exact ⟨parts, validUntil, hparts, hends, h⟩
    · cases h
  · rintro ⟨parts, validUntil, hparts, hends, h⟩
    rw [pricesTo, hparts, hends]
    exact h

lemma composeFresh_checked {request : QuoteRequest} {more : QuoteRevisionData → Bool}
    (horder : pricesTo request InOrder = true)
    (hmore : pricesTo request (fun data => more (Quotes.normalized data)) = true) :
    ∃ data document, composeFresh request = .ok ⟨data, document⟩ ∧ Sealed data ∧
      more data = true := by
  obtain ⟨parts, validUntil, hparts, hends, horder⟩ := pricesTo_iff.mp horder
  obtain ⟨_, _, hparts', hends', hmore⟩ := pricesTo_iff.mp hmore
  cases hparts.symm.trans hparts'
  cases hends.symm.trans hends'
  have hsealed := composedParts_sealed hparts validUntil
  obtain ⟨document, hbuild⟩ := build_sealed hsealed horder
  refine ⟨_, document, ?_, sealed_normalized hsealed, hmore⟩
  exact bind_ok.mpr ⟨parts, hparts,
    bind_ok.mpr ⟨validUntil, escaping_ok.mpr hends, guarded_ok.mpr hbuild⟩⟩

lemma compose_plain {request : QuoteRequest} {snapshot : ImmutableQuoteSnapshot}
    (h : composeFresh request = .ok snapshot) :
    composeQuoteRevision request [] [] = .ok snapshot :=
  bind_ok.mpr ⟨snapshot, h, rfl⟩

lemma composeFresh_built {request : QuoteRequest} {snapshot : ImmutableQuoteSnapshot}
    (h : composeFresh request = .ok snapshot) : Built snapshot := by
  obtain ⟨parts, hparts, h⟩ := bind_ok.mp h
  obtain ⟨validUntil, -, h⟩ := bind_ok.mp h
  have hkept := composedParts_kept hparts
  refine Built.of_build ?_ (guarded_ok.mp h)
  exact {
    lineIds := hkept.lines
    adjustmentIds := by
      intro item hitem
      rcases List.mem_append.mp hitem with hmem | hmem
      · exact hkept.delivery item hmem
      · exact hkept.promoted item hmem
    traces := hkept.traces
    engineVersion := (fixed_ascii (by decide) : fixed quoteEngineVersion) }

lemma redeem_built {priced snapshot : ImmutableQuoteSnapshot} {revision : Int}
    {credit : RemedyCredit} (hpriced : Built priced)
    (h : redeemRemedyCredit priced revision credit = .ok snapshot) : Built snapshot := by
  obtain ⟨reserved, -, h⟩ := bind_ok.mp h
  obtain ⟨_, -, h⟩ := bind_ok.mp h
  obtain ⟨_, -, h⟩ := bind_ok.mp h
  obtain ⟨frozen, -, h⟩ := bind_ok.mp h
  obtain ⟨_, -, h⟩ := bind_ok.mp h
  obtain ⟨weights, -, h⟩ := bind_ok.mp h
  obtain ⟨allocation, -, h⟩ := bind_ok.mp h
  obtain ⟨trace, htrace, hbuild⟩ := bind_ok.mp (guarded_ok.mp h)
  refine Built.of_build ?_ hbuild
  exact {
    lineIds := fixed_kept (creditedLine_id _) hpriced.readable.lineIds
    adjustmentIds := by
      intro item hitem
      rcases List.mem_append.mp hitem with hmem | hmem
      · exact hpriced.readable.adjustmentIds item hmem
      · rw [List.mem_singleton.mp hmem]
        exact fixed_ascii (ascii_creditId credit.creditId)
    traces := by
      intro trace' htrace'
      rcases List.mem_append.mp htrace' with hmem | hmem
      · exact hpriced.readable.traces trace' hmem
      · rw [List.mem_singleton.mp hmem]
        exact traceKept_of_capture (by decide) .json htrace
    engineVersion := hpriced.readable.engineVersion }

lemma revisedTraces_kept {inherited recomputed : List CalculationTraceSnapshot}
    (hinherited : ∀ trace ∈ inherited, TraceKept trace)
    (hrecomputed : ∀ trace ∈ recomputed, TraceKept trace) :
    ∀ trace ∈ revisedTraces inherited recomputed, TraceKept trace := by
  intro trace htrace
  rcases List.mem_append.mp htrace with hmem | hmem
  · exact hinherited trace (List.mem_filter.mp hmem).1
  · exact hrecomputed trace hmem

lemma close_built {priced snapshot : ImmutableQuoteSnapshot} {revision : Int}
    {attestation : RangePriceAttestation} {promotion : Option PublishedPromotionProgram}
    {closedAt : Option Datetime} (hpriced : Built priced)
    (h : closeRangePrices priced revision attestation promotion closedAt = .ok snapshot) :
    Built snapshot := by
  obtain ⟨_, -, h⟩ := bind_ok.mp h
  obtain ⟨_, -, h⟩ := bind_ok.mp h
  obtain ⟨_, -, h⟩ := bind_ok.mp h
  obtain ⟨amounts, -, h⟩ := bind_ok.mp h
  obtain ⟨_, -, h⟩ := bind_ok.mp h
  obtain ⟨_, -, h⟩ := bind_ok.mp h
  obtain ⟨_, -, h⟩ := bind_ok.mp h
  obtain ⟨promoted, hpromoted, h⟩ := bind_ok.mp h
  obtain ⟨_, -, h⟩ := bind_ok.mp h
  obtain ⟨_, -, h⟩ := bind_ok.mp h
  have hkept := promotionOutcome_kept hpromoted
  refine Built.of_build ?_ (guarded_ok.mp h)
  exact {
    lineIds := hkept.lines (fixed_kept (closedLine_id _) hpriced.readable.lineIds)
    adjustmentIds := by
      intro item hitem
      rcases List.mem_append.mp hitem with hmem | hmem
      · exact hpriced.readable.adjustmentIds item hmem
      · exact hkept.adjustments item hmem
    traces := revisedTraces_kept hpriced.readable.traces hkept.traces
    engineVersion := hpriced.readable.engineVersion }

lemma reverified_kept {priced : ImmutableQuoteSnapshot}
    {promotion : Option PublishedPromotionProgram} {acceptedAt : Option Datetime}
    {verified : PromotionOutcome}
    (h : reverifiedEligibility priced promotion acceptedAt = .ok (some verified)) :
    ∀ trace ∈ verified.traces, TraceKept trace := by
  rw [reverifiedEligibility.eq_def] at h
  dsimp only at h
  split at h
  · cases h
  · split at h
    · cases h
    · obtain ⟨_, -, h⟩ := bind_ok.mp h
      obtain ⟨frozen, -, h⟩ := bind_ok.mp h
      obtain ⟨_, -, h⟩ := bind_ok.mp h
      obtain ⟨recomputed, hrecomputed, h⟩ := bind_ok.mp h
      obtain ⟨_, -, h⟩ := bind_ok.mp h
      split at h
      · cases h
      · obtain ⟨_, -, h⟩ := bind_ok.mp h
        cases h
        exact (promotionOutcome_kept hrecomputed).traces

lemma accept_built {priced snapshot : ImmutableQuoteSnapshot} {revision : Int}
    {promotion : Option PublishedPromotionProgram} {acceptedAt : Option Datetime}
    (hpriced : Built priced)
    (h : acceptQuoteRevision priced revision promotion acceptedAt = .ok snapshot) :
    Built snapshot := by
  obtain ⟨_, -, h⟩ := bind_ok.mp h
  obtain ⟨_, -, h⟩ := bind_ok.mp h
  obtain ⟨_, -, h⟩ := bind_ok.mp h
  obtain ⟨_, -, h⟩ := bind_ok.mp h
  obtain ⟨verified, hverified, h⟩ := bind_ok.mp h
  obtain ⟨_, -, h⟩ := bind_ok.mp h
  refine Built.of_build ?_ (guarded_ok.mp h)
  cases verified with
  | none => exact ⟨hpriced.readable.lineIds, hpriced.readable.adjustmentIds,
      hpriced.readable.traces, hpriced.readable.engineVersion⟩
  | some verified => exact {
      lineIds := hpriced.readable.lineIds
      adjustmentIds := hpriced.readable.adjustmentIds
      traces := revisedTraces_kept hpriced.readable.traces (reverified_kept hverified)
      engineVersion := hpriced.readable.engineVersion }

lemma stateReleased_built {snapshot stated : ImmutableQuoteSnapshot}
    {released : List (RemedyCredit × String)} (hsnapshot : Built snapshot)
    (h : stateReleasedCredits snapshot released = .ok stated) : Built stated := by
  obtain ⟨traces, htraces, hbuild⟩ := bind_ok.mp (guarded_ok.mp h)
  refine Built.of_build ?_ hbuild
  exact {
    lineIds := hsnapshot.readable.lineIds
    adjustmentIds := hsnapshot.readable.adjustmentIds
    traces := by
      intro trace htrace
      rcases List.mem_append.mp htrace with hmem | hmem
      · exact hsnapshot.readable.traces trace hmem
      · obtain ⟨r, -, hr⟩ := forall₂_mem_right (mapM_ok.mp htraces) hmem
        exact traceKept_of_capture (by decide) .json hr
    engineVersion := hsnapshot.readable.engineVersion }

lemma carryCredits_built {revision : Int} {credits : List RemedyCredit}
    {snapshot : ImmutableQuoteSnapshot} {released : List (RemedyCredit × String)}
    {carried : ImmutableQuoteSnapshot × List (RemedyCredit × String)} (hsnapshot : Built snapshot)
    (h : carryCredits revision credits snapshot released = .ok carried) : Built carried.1 := by
  induction credits generalizing snapshot released with
  | nil =>
    cases h
    exact hsnapshot
  | cons credit credits ih =>
    rw [carryCredits] at h
    split at h
    · next carried' hredeem => exact ih (redeem_built hsnapshot hredeem) h
    · exact ih hsnapshot h
    · cases h

lemma compose_built {request : QuoteRequest} {credits : List RemedyCredit} {spent : List Uuid}
    {snapshot : ImmutableQuoteSnapshot}
    (h : composeQuoteRevision request credits spent = .ok snapshot) : Built snapshot := by
  obtain ⟨fresh, hfresh, h⟩ := bind_ok.mp h
  obtain ⟨carried, hcarried, h⟩ := bind_ok.mp h
  have hbuilt := carryCredits_built (composeFresh_built hfresh) hcarried
  obtain ⟨carried, released⟩ := carried
  dsimp only at h
  split_ifs at h with hnone
  · cases h
    exact hbuilt
  · exact stateReleased_built hbuilt h

/-- The snapshots that composing reaches: composed, derived from one another, and read back from
what was stored of them, in any order of these steps. -/
inductive Composed : ImmutableQuoteSnapshot → Prop
  | compose {request credits spent snapshot}
      (h : composeQuoteRevision request credits spent = .ok snapshot) : Composed snapshot
  | redeem {priced revision credit snapshot} (hpriced : Composed priced)
      (h : redeemRemedyCredit priced revision credit = .ok snapshot) : Composed snapshot
  | close {priced revision attestation promotion closedAt snapshot} (hpriced : Composed priced)
      (h : closeRangePrices priced revision attestation promotion closedAt = .ok snapshot) :
      Composed snapshot
  | accept {priced revision promotion acceptedAt snapshot} (hpriced : Composed priced)
      (h : acceptQuoteRevision priced revision promotion acceptedAt = .ok snapshot) :
      Composed snapshot
  | read {priced payload snapshot} (hpriced : Composed priced) (hpayload : StoredAs payload priced)
      (h : parseQuoteRevision payload = .ok snapshot) : Composed snapshot

structure ComposedRevision where
  snapshot : ImmutableQuoteSnapshot
  composed : Composed snapshot

lemma Built.parse {snapshot : ImmutableQuoteSnapshot} (h : Built snapshot) {payload : Json}
    (hpayload : StoredAs payload snapshot) :
    parseQuoteRevision payload = .ok snapshot.readBack := by
  obtain ⟨data, hbuild⟩ := h.built
  exact parse_stored hbuild h.readable hpayload

lemma Built.readBack {snapshot : ImmutableQuoteSnapshot} (h : Built snapshot) {payload : Json}
    (hpayload : StoredAs payload snapshot) : Built snapshot.readBack := by
  obtain ⟨data, hbuild⟩ := h.built
  exact {
    built := ⟨_, built_readBack hbuild hpayload⟩
    readable := ⟨h.readable.lineIds, h.readable.adjustmentIds, h.readable.traces,
      h.readable.engineVersion⟩ }

lemma Composed.built {snapshot : ImmutableQuoteSnapshot} (h : Composed snapshot) :
    Built snapshot := by
  induction h with
  | compose h => exact compose_built h
  | redeem _ h ih => exact redeem_built ih h
  | close _ h ih => exact close_built ih h
  | accept _ h ih => exact accept_built ih h
  | read _ hpayload h ih =>
    cases (ih.parse hpayload).symm.trans h
    exact ih.readBack hpayload

/-- Every revision that composing reaches verifies, and reads back as itself: from its canonical
text, from the `jsonb` that a column keeps of it, and from any payload with its members. What it
reads as has its document and its instants. -/
theorem composed_revision_reads_back (revision : ComposedRevision) :
    verifyQuoteSnapshot revision.snapshot = .ok true ∧
    (∃ parsed, Json.loads revision.snapshot.document.canonicalJson = some parsed ∧
      parseQuoteRevision parsed = .ok revision.snapshot.readBack) ∧
    (∀ kept, Json.toJsonb revision.snapshot.document.canonicalJson = some kept →
      parseQuoteRevision kept = .ok revision.snapshot.readBack) ∧
    (∀ payload, StoredAs payload revision.snapshot →
      parseQuoteRevision payload = .ok revision.snapshot.readBack) ∧
    revision.snapshot.readBack.document = revision.snapshot.document ∧
    SameInstants revision.snapshot.readBack.data revision.snapshot.data := by
  have h := revision.composed.built
  obtain ⟨data, hbuild⟩ := h.built
  obtain ⟨parsed, hloads, hstored⟩ := storedAs_loads hbuild
  refine ⟨verify_built hbuild, ⟨parsed, hloads, h.parse hstored⟩, ?_, fun _ => h.parse, rfl,
    sameInstants_readBack hbuild⟩
  intro kept hkept
  obtain ⟨rfl, hsame⟩ := Json.toJsonb_same hloads hkept
  exact h.parse ⟨⟨parsed, hloads, hsame⟩, Json.distinct_columnOrder hstored.distinct⟩

end NhaTrangLaundry.Domain.QuoteComposition

namespace NhaTrangLaundry.Domain.QuoteComposition

open Lib Catalog Canonical Outcome Quotes Promotion Delivery Pricing

section Wash

local instance washText : Unicodedata := normalizedText

def washRule : PriceRule := ⟨"WASH_DRY", .fixedPerUnit, some 30000, none, none, [], .kg⟩

def publishedHash : String :=
  "JCS-SHA256-V1:f05c157ed724c45be324885f5eab346400b0dda91c67997cf643ef51e0eeab9a"

lemma august_starts : 739464 * dayMicros < wallLimit := by decide

lemma august_ends : 739495 * dayMicros < wallLimit := by decide

lemma wash_priced : 739470 * dayMicros < wallLimit := by decide

/-- Fifteen percent off, for what the shop accepts in August. -/
def augustProgram : PublishedPromotionProgram where
  program :=
    { policy :=
        { code := "AUGUST"
          startAt := .ofUtc (739464 * dayMicros) august_starts
          endAtExclusive := .ofUtc (739495 * dayMicros) august_ends
          timezone := "Asia/Ho_Chi_Minh"
          eligibilityEvent := some .storeCommercialAccepted
          stackingAllowed := true }
      services := fun code =>
        if code = "WASH_DRY" then some ⟨"WASH_DRY", .autoIfTargeted, some 1500⟩ else none }
  versionId := ⟨7⟩
  version := 1
  snapshotHash := publishedHash

/-- Two and a half kilograms at 30,000 đồng, brought and taken back by the customer. -/
def washRequest : QuoteRequest where
  quoteId := ⟨1⟩
  revision := 1
  rules := fun code => if code = "WASH_DRY" then some washRule else none
  requested := [⟨"WASH_DRY", "2.5", .kg, .staffMeasurement⟩]
  pricebook := ⟨⟨2⟩, 1, publishedHash⟩
  pricedAt := .ofUtc (739470 * dayMicros) wash_priced
  delivery := ⟨.selfDropSelfCollect, none, none, none, false⟩
  rangePrices := none
  presentRangeAsBand := false
  promotion := some augustProgram

lemma wash_inOrder : pricesTo washRequest InOrder = true := by decide +kernel

lemma wash_discounted : pricesTo washRequest (fun data =>
    (Quotes.normalized data).totals.discountAmountMinVnd = 11250) = true := by
  decide +kernel

lemma compose_wash : ∃ snapshot, composeQuoteRevision washRequest [] [] = .ok snapshot ∧
    snapshot.data.totals.discountAmountMinVnd = 11250 := by
  obtain ⟨data, document, hfresh, -, hdiscount⟩ := @composeFresh_checked _ washRequest
    (fun data => data.totals.discountAmountMinVnd = 11250) wash_inOrder wash_discounted
  exact ⟨_, compose_plain hfresh, of_decide_eq_true hdiscount⟩

theorem wash_reads_back : ∃ revision : ComposedRevision,
    composeQuoteRevision washRequest [] [] = .ok revision.snapshot ∧
      verifyQuoteSnapshot revision.snapshot = .ok true ∧
      ∃ parsed, Json.loads revision.snapshot.document.canonicalJson = some parsed ∧
        parseQuoteRevision parsed = .ok revision.snapshot.readBack := by
  obtain ⟨snapshot, h, -⟩ := compose_wash
  let revision : ComposedRevision := ⟨snapshot, .compose h⟩
  obtain ⟨hverified, hread, -⟩ := composed_revision_reads_back revision
  exact ⟨revision, h, hverified, hread⟩

end Wash

end NhaTrangLaundry.Domain.QuoteComposition
