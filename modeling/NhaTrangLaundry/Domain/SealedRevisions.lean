import NhaTrangLaundry.Domain.QuoteDerivation
import NhaTrangLaundry.Domain.StoredRevisions

/-! Whether a revision is in order depends on its documents only in that each carries its own hash
and that each line names one of them: what they say is not looked at. -/

namespace NhaTrangLaundry.Domain.QuoteComposition

open Lib Catalog Canonical Outcome Sorting Distinct Quotes Promotion Delivery Pricing RangePrices
open Remedies StrEnum

variable [Unicodedata]

lemma capture_component {component version : String} {v : Value} {trace : CalculationTraceSnapshot}
    (h : captureCalculationTrace component version v = .ok trace) : trace.component = component := by
  obtain ⟨_, -, h⟩ := bind_ok.mp h
  split at h
  · cases h
    rfl
  · cases h
  · cases h

/-- Each document carries its own hash, and each line names one that no promotion replaces. -/
structure Sealed (data : QuoteRevisionData) : Prop where
  verified : ∀ trace ∈ data.calculationTraces, verifyCanonicalDocument trace.trace = true
  embedded : ∀ line ∈ data.lines, ∃ trace ∈ data.calculationTraces,
    trace.component ≠ promotionComponent ∧ trace.trace.snapshotHash = line.priceTraceHash

omit [Unicodedata] in
lemma hashPattern_documentOf (s : String) : hashPattern (documentOf s).snapshotHash = true := by
  obtain ⟨hlength, hdigits⟩ := Hashing.sha256_digits s
  have htext : (documentOf s).snapshotHash.toList = hashPrefix.toList ++ (Hashing.sha256 s).toList :=
    String.toList_append
  have hprefix : hashPrefix.toList.length = 14 := by decide
  rw [hashPattern, htext, List.drop_append_of_le_length hprefix.ge, ← hprefix, List.drop_length,
    List.nil_append, hlength, Bool.and_eq_true, Bool.and_eq_true, List.isPrefixOf_iff_prefix,
    List.all_eq_true]
  refine ⟨⟨List.prefix_append _ _, rfl⟩, fun c hc => ?_⟩
  obtain ⟨d, hd, rfl⟩ := hdigits c hc
  interval_cases d <;> decide

omit [Unicodedata] in
lemma safe_of_dumps {j : Json} {s : String} (h : Json.dumps j = some s) : j.safe = true := by
  by_contra hunsafe
  rw [Json.dumps, if_neg hunsafe] at h
  cases h

/-- A document that verifies is JSON, and its hash is of the canonical text of what it says. -/
lemma verified_document {document : CanonicalDocument}
    (h : verifyCanonicalDocument document = true) :
    ∃ parsed j s, Json.loads document.canonicalJson = some parsed ∧
      jsonValue false (.json parsed) = .ok j ∧ Json.dumps j = some s ∧
      document.snapshotHash = (documentOf s).snapshotHash := by
  rw [verifyCanonicalDocument] at h
  split at h
  · next rebuilt hrebuilt =>
    rw [Bool.and_eq_true, decide_eq_true_eq, decide_eq_true_eq] at h
    rw [canonicalDocumentFromBytes] at hrebuilt
    split at hrebuilt
    · cases hrebuilt
    · next parsed hparsed =>
      obtain ⟨again, hagain, hrebuilt⟩ := bind_ok.mp hrebuilt
      split_ifs at hrebuilt
      cases hrebuilt
      obtain ⟨j, s, hj, hs, rfl⟩ := canonicalDocument_ok.mp hagain
      exact ⟨parsed, j, s, hparsed, hj, hs, h.2.symm⟩
  · cases h

lemma hashPattern_of_verify {document : CanonicalDocument}
    (h : verifyCanonicalDocument document = true) : hashPattern document.snapshotHash = true := by
  obtain ⟨_, _, s, -, -, -, hhash⟩ := verified_document h
  rw [hhash]
  exact hashPattern_documentOf s

lemma sealed_normalized {data : QuoteRevisionData} (h : Sealed data) :
    Sealed (Quotes.normalized data) where
  verified := fun trace htrace => h.verified trace (mem_sortBy.mp htrace)
  embedded := by
    intro line hline
    obtain ⟨trace, htrace, hnamed⟩ := h.embedded line (mem_sortBy.mp hline)
    exact ⟨trace, mem_sortBy.mpr htrace, hnamed⟩

def emptyDocument : CanonicalDocument :=
  ⟨"\x7b\x7d", "JCS-SHA256-V1:44136fa355b3678a1146ad16f7e8649e94fb4fc21fe77e8310c060f61caaff8a"⟩

def blankLine (line : QuoteLineSnapshot) : QuoteLineSnapshot :=
  { line with priceTraceHash := emptyDocument.snapshotHash }

def blankTrace (trace : CalculationTraceSnapshot) : CalculationTraceSnapshot :=
  { trace with trace := emptyDocument }

/-- The revision with the empty document in the place of all of its documents. -/
def blank (data : QuoteRevisionData) : QuoteRevisionData :=
  { data with
    lines := data.lines.map blankLine
    calculationTraces := data.calculationTraces.map blankTrace }

omit [Unicodedata] in
lemma validateLines_blank {lines : List QuoteLineSnapshot}
    (hhash : ∀ line ∈ lines, hashPattern line.priceTraceHash = true)
    (h : validateLines (lines.map blankLine) = .ok ()) : validateLines lines = .ok () := by
  obtain ⟨_, hdistinct, heach⟩ := bind_ok.mp h
  obtain ⟨hnonempty, hnodup⟩ := require_ok.mp hdistinct
  rw [List.map_map] at hnodup
  refine bind_ok.mpr ⟨(), require_true ⟨fun hnil => hnonempty (by rw [hnil]; rfl), hnodup⟩ _,
    forM_ok.mpr fun line hline => ?_⟩
  have hblank := forM_ok.mp heach _ (List.mem_map_of_mem hline)
  obtain ⟨_, hidentity, hblank⟩ := bind_ok.mp hblank
  obtain ⟨_, hquantity, hblank⟩ := bind_ok.mp hblank
  obtain ⟨_, hcount, hblank⟩ := bind_ok.mp hblank
  obtain ⟨_, -, hamounts⟩ := bind_ok.mp hblank
  exact bind_ok.mpr ⟨(), hidentity, bind_ok.mpr ⟨(), hquantity, bind_ok.mpr ⟨(), hcount,
    bind_ok.mpr ⟨(), require_true (hhash line hline) _, hamounts⟩⟩⟩⟩

lemma validateTraces_blank {data : QuoteRevisionData} (hsealed : Sealed data)
    (h : validateTraces (blank data).calculationTraces (blank data).lines = .ok ()) :
    validateTraces data.calculationTraces data.lines = .ok () := by
  obtain ⟨_, hdistinct, h⟩ := bind_ok.mp h
  obtain ⟨_, heach, -⟩ := bind_ok.mp h
  obtain ⟨hnonempty, hnodup⟩ := require_ok.mp hdistinct
  have hcomponents : (blank data).calculationTraces.map (·.component) =
      data.calculationTraces.map (·.component) := List.map_map
  rw [hcomponents] at hnodup
  have htraces : data.calculationTraces ≠ [] := by
    intro hnil
    rw [blank, hnil] at hnonempty
    exact hnonempty rfl
  have hnamed : ∀ line ∈ data.lines,
      line.priceTraceHash ∈ data.calculationTraces.map (·.trace.snapshotHash) := by
    intro line hline
    obtain ⟨trace, htrace, -, hhash⟩ := hsealed.embedded line hline
    exact List.mem_map.mpr ⟨trace, htrace, hhash⟩
  refine bind_ok.mpr ⟨(), require_true ⟨htraces, hnodup⟩ _, bind_ok.mpr ⟨(), ?_,
    require_true hnamed _⟩⟩
  refine forM_ok.mpr fun trace htrace => require_true ?_ _
  obtain ⟨hcomponent, hversion, -⟩ :=
    require_ok.mp (forM_ok.mp heach _ (List.mem_map_of_mem htrace))
  exact ⟨hcomponent, hversion, hsealed.verified trace htrace⟩

omit [Unicodedata] in
lemma lineSum_blank (lines : List QuoteLineSnapshot) (figure : LineAmounts → Int) :
    lineSum (lines.map blankLine) figure = lineSum lines figure := by
  rw [lineSum, List.map_map]
  rfl

omit [Unicodedata] in
lemma validateTotals_blank (lines : List QuoteLineSnapshot)
    (adjustments : List QuoteAdjustmentSnapshot) (totals : QuoteTotalsSnapshot) :
    validateTotalsAndAdjustments (lines.map blankLine) adjustments totals =
      validateTotalsAndAdjustments lines adjustments totals := by
  have htotals : expectedTotals (lines.map blankLine) = expectedTotals lines := by
    simp only [expectedTotals, lineSum_blank]
  rw [validateTotalsAndAdjustments, validateTotalsAndAdjustments, htotals]

omit [Unicodedata] in
lemma validateFinality_blank (data : QuoteRevisionData) :
    validateFinality (blank data) = validateFinality data := by
  have hrange : (∃ line ∈ (blank data).lines, line.amounts.isRange = true) ↔
      ∃ line ∈ data.lines, line.amounts.isRange = true := by
    simp only [blank, List.mem_map, exists_exists_and_eq_and, blankLine]
  have hestimate : (∃ line ∈ (blank data).lines, line.quantityBasis = .customerEstimate) ↔
      ∃ line ∈ data.lines, line.quantityBasis = .customerEstimate := by
    simp only [blank, List.mem_map, exists_exists_and_eq_and, blankLine]
  rw [validateFinality, validateFinality]
  simp only [hrange, hestimate]
  rfl

/-- A revision of sealed documents is in order when it is with the empty document in their place. -/
lemma validateRevision_blank {data : QuoteRevisionData} (hsealed : Sealed data)
    (h : validateRevision (blank data) = .ok ()) : validateRevision data = .ok () := by
  obtain ⟨_, hidentity, h⟩ := bind_ok.mp h
  obtain ⟨_, hvalidity, h⟩ := bind_ok.mp h
  obtain ⟨_, hengine, h⟩ := bind_ok.mp h
  obtain ⟨_, hconfigurations, h⟩ := bind_ok.mp h
  obtain ⟨_, hlines, h⟩ := bind_ok.mp h
  obtain ⟨_, htraces, h⟩ := bind_ok.mp h
  obtain ⟨_, htotals, h⟩ := bind_ok.mp h
  obtain ⟨_, hfinality, hrest⟩ := bind_ok.mp h
  rw [validateFinality_blank] at hfinality
  have hhash : ∀ line ∈ data.lines, hashPattern line.priceTraceHash = true := by
    intro line hline
    obtain ⟨trace, htrace, -, hhash⟩ := hsealed.embedded line hline
    rw [← hhash]
    exact hashPattern_of_verify (hsealed.verified trace htrace)
  exact bind_ok.mpr ⟨(), hidentity, bind_ok.mpr ⟨(), hvalidity, bind_ok.mpr ⟨(), hengine,
    bind_ok.mpr ⟨(), hconfigurations, bind_ok.mpr ⟨(), validateLines_blank hhash hlines,
      bind_ok.mpr ⟨(), validateTraces_blank hsealed htraces,
        bind_ok.mpr ⟨(), (validateTotals_blank _ _ _).symm.trans htotals,
          bind_ok.mpr ⟨(), hfinality, hrest⟩⟩⟩⟩⟩⟩⟩⟩

/-- The value has a canonical form. -/
def Encodes (v : Value) : Prop := ∃ j, jsonValue true v = .ok j ∧ j.safe = true

lemma canonicalDocument_encodes {v : Value} :
    (∃ document, canonicalDocument v true = .ok document) ↔ Encodes v := by
  constructor
  · rintro ⟨document, h⟩
    obtain ⟨j, s, hj, hs, -⟩ := canonicalDocument_ok.mp h
    exact ⟨j, hj, safe_of_dumps hs⟩
  · rintro ⟨j, hj, hsafe⟩
    exact ⟨_, canonicalDocument_ok.mpr ⟨j, _, hj, if_pos hsafe, rfl⟩⟩

lemma encodes_str (s : String) : Encodes (.str s) := ⟨_, rfl, rfl⟩

lemma encodes_cons {name : String} {v : Value} {fields : List (String × Value)}
    (hname : name ∉ volatileHashFields) :
    Encodes (.dataclass ((name, v) :: fields)) ↔ Encodes v ∧ Encodes (.dataclass fields) := by
  simp only [Encodes, jsonValue, valueFields, dataclassMembers, hname, decide_false,
    Bool.and_false, Bool.false_eq_true, if_false, map_ok, bind_ok]
  constructor
  · rintro ⟨_, ⟨_, ⟨j, hj, js, hjs, hall⟩, rfl⟩, hsafe⟩
    cases hall
    rw [Json.safe, Json.safeFields, Bool.and_eq_true] at hsafe
    exact ⟨⟨j, hj, hsafe.1⟩, _, ⟨js, hjs, rfl⟩, hsafe.2⟩
  · rintro ⟨⟨j, hj, hsafe⟩, _, ⟨js, hjs, rfl⟩, hrest⟩
    refine ⟨_, ⟨_, ⟨j, hj, js, hjs, rfl⟩, rfl⟩, ?_⟩
    rw [Json.safe, Json.safeFields, hsafe]
    exact hrest

lemma encodes_seq {items : List Value} : Encodes (.seq items) ↔ ∀ v ∈ items, Encodes v := by
  induction items with
  | nil => exact ⟨fun _ _ hv => absurd hv List.not_mem_nil, fun _ => ⟨_, rfl, rfl⟩⟩
  | cons v items ih =>
    rw [List.forall_mem_cons, ← ih]
    simp only [Encodes, jsonValue, valueElements, elements, map_ok, bind_ok]
    constructor
    · rintro ⟨_, ⟨_, ⟨j, hj, js, hjs, hall⟩, rfl⟩, hsafe⟩
      cases hall
      rw [Json.safe, Json.safeList, Bool.and_eq_true] at hsafe
      exact ⟨⟨j, hj, hsafe.1⟩, _, ⟨js, hjs, rfl⟩, hsafe.2⟩
    · rintro ⟨⟨j, hj, hsafe⟩, _, ⟨js, hjs, rfl⟩, hrest⟩
      refine ⟨_, ⟨_, ⟨j, hj, js, hjs, rfl⟩, rfl⟩, ?_⟩
      rw [Json.safe, Json.safeList, hsafe]
      exact hrest

lemma encodes_document {document : CanonicalDocument}
    (h : verifyCanonicalDocument document = true) : Encodes (.document document) := by
  obtain ⟨parsed, j, s, hparsed, hj, hs, -⟩ := verified_document h
  refine ⟨j, ?_, safe_of_dumps hs⟩
  rw [jsonValue, hparsed]
  exact hj

lemma encodes_line {line : QuoteLineSnapshot} (h : Encodes (lineValue (blankLine line))) :
    Encodes (lineValue line) := by
  simp (disch := decide) only [lineValue, encodes_cons] at h ⊢
  obtain ⟨hid, hservice, hversion, hbasis, hquantity, hunit, hamounts, -, hend⟩ := h
  exact ⟨hid, hservice, hversion, hbasis, hquantity, hunit, hamounts, encodes_str _, hend⟩

lemma encodes_trace {trace : CalculationTraceSnapshot}
    (h : verifyCanonicalDocument trace.trace = true) : Encodes (traceValue trace) := by
  simp (disch := decide) only [traceValue, encodes_cons]
  exact ⟨encodes_str _, encodes_str _, encodes_document h, _, rfl, rfl⟩

lemma encodes_blank {data : QuoteRevisionData} (hsealed : Sealed data)
    (h : Encodes (dataValue (blank data))) : Encodes (dataValue data) := by
  simp (disch := decide) only [dataValue, encodes_cons] at h ⊢
  obtain ⟨hschema, hquote, hrevision, hfinality, hstatus, hpriced, hvalid, hcurrency, hreferences,
    hlines, hadjustments, htotals, -, hrest⟩ := h
  refine ⟨hschema, hquote, hrevision, hfinality, hstatus, hpriced, hvalid, hcurrency, hreferences,
    ?_, hadjustments, htotals, ?_, hrest⟩
  · rw [encodes_seq] at hlines ⊢
    intro v hv
    obtain ⟨line, hline, rfl⟩ := List.mem_map.mp hv
    exact encodes_line (hlines _ (List.mem_map_of_mem (List.mem_map_of_mem hline)))
  · rw [encodes_seq]
    intro v hv
    obtain ⟨trace, htrace, rfl⟩ := List.mem_map.mp hv
    exact encodes_trace (hsealed.verified trace htrace)

/-- The checks of a revision that do not look into its documents. -/
def InOrder (data : QuoteRevisionData) : Bool :=
  (validateRevision (blank (Quotes.normalized data))).isOk &&
    (canonicalDocument (dataValue (blank (Quotes.normalized data))) true).isOk

lemma build_sealed {data : QuoteRevisionData} (hsealed : Sealed data) (h : InOrder data = true) :
    ∃ document, buildQuoteSnapshot data = .ok ⟨Quotes.normalized data, document⟩ := by
  rw [InOrder, Bool.and_eq_true] at h
  obtain ⟨⟨⟩, hvalid⟩ := exists_ok h.1
  have hnormalized := sealed_normalized hsealed
  obtain ⟨document, hdocument⟩ := canonicalDocument_encodes.mpr
    (encodes_blank hnormalized (canonicalDocument_encodes.mp (exists_ok h.2)))
  exact ⟨document, buildQuoteSnapshot_ok.mpr
    ⟨rfl, validateRevision_blank hnormalized hvalid, hdocument⟩⟩

end NhaTrangLaundry.Domain.QuoteComposition
