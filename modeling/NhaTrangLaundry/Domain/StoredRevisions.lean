import NhaTrangLaundry.Domain.StoredValues
import Mathlib.Data.List.TakeWhile

/-! A stored revision reads back as itself: the fields of its payload, its validation and its
document. -/

namespace NhaTrangLaundry.Domain.Quotes

open Lib Catalog Canonical Outcome Sorting Distinct StrEnum Payload

lemma proper_optional {α : Type} {strict : Bool} {write : α → Value}
    (h : ∀ a, (write a).Proper strict) (o : Option α) : (optional write o).Proper strict := by
  cases o with
  | none => exact .none
  | some a => exact h a

lemma proper_enum {α : Type} {strict : Bool} [StrEnum α] (a : α) : (enumValue a).Proper strict :=
  .enum .str

lemma proper_map {α : Type} {strict : Bool} {write : α → Value} (h : ∀ a, (write a).Proper strict)
    (items : List α) : (Value.seq (items.map write)).Proper strict := by
  refine .seq fun x hx => ?_
  obtain ⟨a, -, rfl⟩ := List.mem_map.mp hx
  exact h a

lemma proper_reference (item : ConfigurationSnapshotReference) :
    (referenceValue item).Proper false := by
  refine Value.Proper.named ["config_type", "version_id", "version", "snapshot_hash"] rfl
    (by decide) (by decide) ?_
  simp only [List.forall_mem_cons]
  exact ⟨.str, .uuid, .int, .str, by simp⟩

lemma proper_amounts (amounts : LineAmounts) : (amountsValue amounts).Proper false := by
  cases amounts with
  | exact a =>
    refine Value.Proper.named ["kind", "unit_price_vnd", "list_amount_vnd", "discount_amount_vnd",
      "net_amount_vnd"] rfl (by decide) (by decide) ?_
    simp only [List.forall_mem_cons]
    exact ⟨.str, proper_optional (fun _ => .int) _, .int, .int, .int, by simp⟩
  | range a =>
    refine Value.Proper.named ["kind", "unit_price_min_vnd", "unit_price_max_vnd",
      "list_amount_min_vnd", "list_amount_max_vnd", "discount_min_vnd", "discount_max_vnd",
      "net_amount_min_vnd", "net_amount_max_vnd"] rfl (by decide) (by decide) ?_
    simp only [List.forall_mem_cons]
    exact ⟨.str, .int, .int, .int, .int, .int, .int, .int, .int, by simp⟩

lemma proper_line (line : QuoteLineSnapshot) : (lineValue line).Proper false := by
  refine Value.Proper.named ["line_id", "service_code", "service_version_id", "quantity_basis",
    "quantity", "unit", "amounts", "price_trace_hash"] rfl (by decide) (by decide) ?_
  simp only [List.forall_mem_cons]
  exact ⟨.str, .str, .uuid, proper_enum _, .str, proper_enum _, proper_amounts _, .str, by simp⟩

lemma proper_adjustment (item : QuoteAdjustmentSnapshot) : (adjustmentValue item).Proper false := by
  refine Value.Proper.named ["adjustment_id", "kind", "direction", "amount_min_vnd",
    "amount_max_vnd", "reason_code", "source_version_id", "approval_id"] rfl (by decide)
    (by decide) ?_
  simp only [List.forall_mem_cons]
  exact ⟨.str, proper_enum _, proper_enum _, .int, .int, .str, proper_optional (fun _ => .uuid) _,
    proper_optional (fun _ => .uuid) _, by simp⟩

lemma proper_trace (trace : CalculationTraceSnapshot) : (traceValue trace).Proper false := by
  refine Value.Proper.named ["component", "engine_version", "trace"] rfl (by decide) (by decide) ?_
  simp only [List.forall_mem_cons]
  exact ⟨.str, .str, .document rfl, by simp⟩

lemma proper_totals (totals : QuoteTotalsSnapshot) : (totalsValue totals).Proper false := by
  refine Value.Proper.named ["list_service_subtotal_min_vnd", "list_service_subtotal_max_vnd",
    "discount_amount_min_vnd", "discount_amount_max_vnd", "net_service_subtotal_min_vnd",
    "net_service_subtotal_max_vnd", "delivery_fee_vnd", "approved_surcharge_vnd",
    "display_total_min_vnd", "display_total_max_vnd"] rfl (by decide) (by decide) ?_
  simp only [List.forall_mem_cons]
  exact ⟨.int, .int, .int, .int, .int, .int, proper_optional (fun _ => .int) _, .int,
    proper_optional (fun _ => .int) _, proper_optional (fun _ => .int) _, by simp⟩

lemma proper_data (data : QuoteRevisionData) : (dataValue data).Proper false := by
  refine Value.Proper.named ["schema_version", "quote_id", "revision", "finality", "status",
    "priced_at", "valid_until", "currency", "configuration_snapshots", "lines", "adjustments",
    "totals", "calculation_traces", "calculation_engine_version", "calculation_engine_hash",
    "promotion_eligibility_event", "promotion_eligibility_at", "reason_codes",
    "required_approvals", "approval_id", "tax_treatment", "tax_vnd",
    "customer_estimate_acknowledged_at"] rfl (by decide) (by decide) ?_
  simp only [List.forall_mem_cons]
  exact ⟨.int, .uuid, .int, proper_enum _, proper_enum _, .datetime,
    proper_optional (fun _ => .datetime) _, .str, proper_map proper_reference _,
    proper_map proper_line _, proper_map proper_adjustment _, proper_totals _,
    proper_map proper_trace _, .str, .str, proper_optional proper_enum _,
    proper_optional (fun _ => .datetime) _, proper_map (fun _ => .str) _,
    proper_map (fun _ => .str) _, proper_optional (fun _ => .uuid) _, .str, .none,
    proper_optional (fun _ => .datetime) _, by simp⟩

def LineAmounts.Discriminated : LineAmounts → Prop
  | .exact a => a.kind = "EXACT"
  | .range a => a.kind = "RANGE"

lemma amounts_discriminated {amounts : LineAmounts} {u : Unit} (h : validateAmounts amounts = .ok u) :
    amounts.Discriminated := by
  cases amounts with
  | exact a =>
    obtain ⟨_, hkind, -⟩ := bind_ok.mp h
    show a.kind = "EXACT"
    exact require_ok.mp hkind
  | range a =>
    obtain ⟨_, hkind, -⟩ := bind_ok.mp h
    show a.kind = "RANGE"
    exact require_ok.mp hkind

def readBack (data : QuoteRevisionData) : QuoteRevisionData :=
  { data with
    pricedAt := inUtc data.pricedAt
    validUntil := data.validUntil.map inUtc
    promotionEligibilityAt := data.promotionEligibilityAt.map inUtc
    customerEstimateAcknowledgedAt := data.customerEstimateAcknowledgedAt.map inUtc }

lemma isDigit_ascii {c : Char} (h : Decimal.isDigit c = true) : c.toNat < 128 := by
  simp only [Decimal.isDigit, Bool.and_eq_true, decide_eq_true_eq] at h
  have hle : c.toNat ≤ '9'.toNat := h.2
  exact lt_of_le_of_lt hle (by decide)

lemma isUpper_ascii {c : Char} (h : isUpper c = true) : c.toNat < 128 := by
  simp only [isUpper, Bool.and_eq_true, decide_eq_true_eq] at h
  have hle : c.toNat ≤ 'Z'.toNat := h.2
  exact lt_of_le_of_lt hle (by decide)

variable [Unicodedata]

lemma fixed_code {s : String} (h : codePattern s = true) : fixed s := by
  refine fixed_ascii fun c hc => ?_
  rw [codePattern] at h
  split at h
  · cases h
  · next hd tl hs =>
    rw [hs] at hc
    simp only [Bool.and_eq_true, List.all_eq_true] at h
    obtain ⟨⟨⟨hhead, htail⟩, -⟩, -⟩ := h
    rcases List.mem_cons.mp hc with rfl | hc
    · exact isUpper_ascii hhead
    · have hone := htail c hc
      simp only [isCodeChar, Bool.or_eq_true, beq_iff_eq] at hone
      rcases hone with (hupper | hdigit) | rfl
      · exact isUpper_ascii hupper
      · exact isDigit_ascii hdigit
      · decide

lemma fixed_hash {s : String} (h : hashPattern s = true) : fixed s := by
  refine fixed_ascii fun c hc => ?_
  simp only [hashPattern, Bool.and_eq_true, List.all_eq_true, List.isPrefixOf_iff_prefix] at h
  obtain ⟨⟨⟨rest, hprefix⟩, -⟩, hhex⟩ := h
  rw [← hprefix] at hc hhex
  have hdrop : (hashPrefix.toList ++ rest).drop 14 = rest := rfl
  rw [hdrop] at hhex
  rcases List.mem_append.mp hc with hc | hc
  · exact (by decide : Text.ascii hashPrefix) c hc
  · have hone := hhex c hc
    simp only [isLowerHex, Bool.or_eq_true, Bool.and_eq_true, decide_eq_true_eq] at hone
    rcases hone with hdigit | ⟨-, hle⟩
    · exact isDigit_ascii hdigit
    · have hle' : c.toNat ≤ 'f'.toNat := hle
      exact lt_of_le_of_lt hle' (by decide)

lemma fixed_quantity {s : String} {d : Decimal} (h : Decimal.ofText s = some d) : fixed s := by
  refine fixed_ascii fun c hc => ?_
  have hpattern : Decimal.pattern s = true := by
    by_contra hnot
    rw [Decimal.ofText, if_neg hnot] at h
    cases h
  rw [Decimal.pattern, Bool.and_eq_true] at hpattern
  have hsplit : s.toList = Decimal.whole s.toList ++ Decimal.rest s.toList :=
    (List.takeWhile_append_dropWhile).symm
  rw [hsplit] at hc
  rcases List.mem_append.mp hc with hc | hc
  · exact isDigit_ascii (List.mem_takeWhile_imp hc)
  · have hrest := hpattern.2
    split at hrest
    · next hnil =>
      rw [hnil] at hc
      cases hc
    · next hd fraction hcons =>
      rw [hcons] at hc
      simp only [Bool.and_eq_true, List.all_eq_true, beq_iff_eq] at hrest
      rcases List.mem_cons.mp hc with rfl | hc
      · rw [hrest.1.1]
        decide
      · exact isDigit_ascii (hrest.2 c hc)

lemma stores_text {s : String} (hs : fixed s) :
    Recovers plainText (.str s) s := by
  intro payload h
  rw [stores_str hs h]
  rfl

lemma recovers_amount (n : Int) : Recovers amount (.int n) n := by
  intro payload h
  rw [stores_int h]
  rfl

lemma recovers_optionalAmount (o : Option Int) : Recovers optionalAmount (optional .int o) o := by
  intro payload h
  cases o with
  | none =>
    rw [stores_none h]
    rfl
  | some n =>
    rw [stores_int h]
    rfl

lemma recovers_reference {item : ConfigurationSnapshotReference} (htype : fixed item.configType)
    (hhash : fixed item.snapshotHash) : Recovers referenceOf (referenceValue item) item := by
  intro payload hstores
  have h : Holding payload _ := ⟨hstores, by simp [volatileHashFields]⟩
  rw [referenceOf, h.field "config_type" rfl (recovers_text htype),
    h.field "version_id" rfl (recovers_uuid item.versionId),
    h.field "version" rfl (recovers_int item.version),
    h.field "snapshot_hash" rfl (recovers_text hhash)]
  rfl

lemma recovers_exact {a : ExactLineAmounts} (hkind : a.kind = "EXACT") :
    Recovers amountsOf (amountsValue (.exact a)) (.exact a) := by
  intro payload hstores
  have h : Holding payload _ := ⟨hstores, by simp [volatileHashFields]⟩
  have hfixed : fixed a.kind := by
    rw [hkind]
    exact fixed_ascii (by decide)
  have hkeys : keywords ["kind", "unit_price_vnd", "list_amount_vnd", "discount_amount_vnd",
      "net_amount_vnd"] payload = true := h.keywords
  rw [amountsOf, h.field "kind" rfl (recovers_text hfixed), Option.bind_eq_bind, Option.bind_some,
    if_pos hkind, exactOf, if_pos hkeys, h.field "kind" rfl (stores_text hfixed),
    h.field "unit_price_vnd" rfl (recovers_optionalAmount a.unitPriceVnd),
    h.field "list_amount_vnd" rfl (recovers_amount a.listAmountVnd),
    h.field "discount_amount_vnd" rfl (recovers_amount a.discountAmountVnd),
    h.field "net_amount_vnd" rfl (recovers_amount a.netAmountVnd)]
  rfl

lemma recovers_range {a : RangeLineAmounts} (hkind : a.kind = "RANGE") :
    Recovers amountsOf (amountsValue (.range a)) (.range a) := by
  intro payload hstores
  have h : Holding payload _ := ⟨hstores, by simp [volatileHashFields]⟩
  have hfixed : fixed a.kind := by
    rw [hkind]
    exact fixed_ascii (by decide)
  have hnot : ¬ a.kind = "EXACT" := by
    rw [hkind]
    decide
  have hkeys : keywords ["kind", "unit_price_min_vnd", "unit_price_max_vnd",
      "list_amount_min_vnd", "list_amount_max_vnd", "discount_min_vnd", "discount_max_vnd",
      "net_amount_min_vnd", "net_amount_max_vnd"] payload = true := h.keywords
  rw [amountsOf, h.field "kind" rfl (recovers_text hfixed), Option.bind_eq_bind, Option.bind_some,
    if_neg hnot, rangeOf, if_pos hkeys, h.field "kind" rfl (stores_text hfixed),
    h.field "unit_price_min_vnd" rfl (recovers_amount a.unitPriceMinVnd),
    h.field "unit_price_max_vnd" rfl (recovers_amount a.unitPriceMaxVnd),
    h.field "list_amount_min_vnd" rfl (recovers_amount a.listAmountMinVnd),
    h.field "list_amount_max_vnd" rfl (recovers_amount a.listAmountMaxVnd),
    h.field "discount_min_vnd" rfl (recovers_amount a.discountMinVnd),
    h.field "discount_max_vnd" rfl (recovers_amount a.discountMaxVnd),
    h.field "net_amount_min_vnd" rfl (recovers_amount a.netAmountMinVnd),
    h.field "net_amount_max_vnd" rfl (recovers_amount a.netAmountMaxVnd)]
  rfl

lemma recovers_amounts {amounts : LineAmounts} (h : amounts.Discriminated) :
    Recovers amountsOf (amountsValue amounts) amounts := by
  cases amounts with
  | exact a => exact recovers_exact h
  | range a => exact recovers_range h

structure QuoteLineSnapshot.Texts (line : QuoteLineSnapshot) : Prop where
  lineId : fixed line.lineId
  serviceCode : fixed line.serviceCode
  quantity : fixed line.quantity
  amounts : line.amounts.Discriminated
  priceTraceHash : fixed line.priceTraceHash

lemma recovers_line {line : QuoteLineSnapshot} (htexts : line.Texts) :
    Recovers lineOf (lineValue line) line := by
  intro payload hstores
  have h : Holding payload _ := ⟨hstores, by simp [volatileHashFields]⟩
  obtain ⟨kept, hkept, hamounts⟩ := h.get? "amounts" rfl
  rw [lineOf, hkept, Option.bind_eq_bind, Option.bind_some,
    h.field "line_id" rfl (recovers_text htexts.lineId),
    h.field "service_code" rfl (recovers_text htexts.serviceCode),
    h.field "service_version_id" rfl (recovers_uuid line.serviceVersionId),
    h.field "quantity_basis" rfl (recovers_member line.quantityBasis),
    h.field "quantity" rfl (recovers_text htexts.quantity),
    h.field "unit" rfl (recovers_member line.unit),
    recovers_amounts htexts.amounts kept hamounts,
    h.field "price_trace_hash" rfl (recovers_text htexts.priceTraceHash)]
  rfl

lemma recovers_optionalUuid {payload : Json} {fs : List (String × Value)}
    (h : Holding payload fs) (key : String) {o : Option Uuid}
    (hv : fs.lookup key = some (optional .uuid o)) : optionalField payload key uuid = some o := by
  rw [h.optionalField key hv (f := id) recovers_uuid null_not_uuid, Option.map_id]
  rfl

lemma optionalMoment_eq {payload : Json} {fs : List (String × Value)} (h : Holding payload fs)
    (key : String) {o : Option Datetime} (hv : fs.lookup key = some (optional .datetime o)) :
    optionalField payload key moment = some (o.map inUtc) :=
  h.optionalField key hv recovers_moment null_not_datetime

lemma recovers_adjustment {item : QuoteAdjustmentSnapshot} (hid : fixed item.adjustmentId)
    (hreason : fixed item.reasonCode) : Recovers adjustmentOf (adjustmentValue item) item := by
  intro payload hstores
  have h : Holding payload _ := ⟨hstores, by simp [volatileHashFields]⟩
  rw [adjustmentOf, h.field "adjustment_id" rfl (recovers_text hid),
    h.field "kind" rfl (recovers_member item.kind),
    h.field "direction" rfl (recovers_member item.direction),
    h.field "amount_min_vnd" rfl (recovers_int item.amountMinVnd),
    h.field "amount_max_vnd" rfl (recovers_int item.amountMaxVnd),
    h.field "reason_code" rfl (recovers_text hreason),
    recovers_optionalUuid h "source_version_id" rfl, recovers_optionalUuid h "approval_id" rfl]
  rfl

lemma recovers_totals (totals : QuoteTotalsSnapshot) :
    Recovers totalsOf (totalsValue totals) totals := by
  intro payload hstores
  have h : Holding payload _ := ⟨hstores, by simp [volatileHashFields]⟩
  have hkeys : keywords ["list_service_subtotal_min_vnd", "list_service_subtotal_max_vnd",
      "discount_amount_min_vnd", "discount_amount_max_vnd", "net_service_subtotal_min_vnd",
      "net_service_subtotal_max_vnd", "delivery_fee_vnd", "approved_surcharge_vnd",
      "display_total_min_vnd", "display_total_max_vnd"] payload = true := h.keywords
  rw [totalsOf, if_pos hkeys,
    h.field "list_service_subtotal_min_vnd" rfl (recovers_amount totals.listServiceSubtotalMinVnd),
    h.field "list_service_subtotal_max_vnd" rfl (recovers_amount totals.listServiceSubtotalMaxVnd),
    h.field "discount_amount_min_vnd" rfl (recovers_amount totals.discountAmountMinVnd),
    h.field "discount_amount_max_vnd" rfl (recovers_amount totals.discountAmountMaxVnd),
    h.field "net_service_subtotal_min_vnd" rfl (recovers_amount totals.netServiceSubtotalMinVnd),
    h.field "net_service_subtotal_max_vnd" rfl (recovers_amount totals.netServiceSubtotalMaxVnd),
    h.field "delivery_fee_vnd" rfl (recovers_optionalAmount totals.deliveryFeeVnd),
    h.field "approved_surcharge_vnd" rfl (recovers_amount totals.approvedSurchargeVnd),
    h.field "display_total_min_vnd" rfl (recovers_optionalAmount totals.displayTotalMinVnd),
    h.field "display_total_max_vnd" rfl (recovers_optionalAmount totals.displayTotalMaxVnd)]
  rfl

lemma recovers_trace {trace : CalculationTraceSnapshot} (hcomponent : fixed trace.component)
    (hversion : fixed trace.engineVersion) (hcaptured : Captured trace.trace) :
    Recovers traceOf (traceValue trace) trace := by
  intro payload hstores
  have h : Holding payload _ := ⟨hstores, by simp [volatileHashFields]⟩
  rw [traceOf, h.field "component" rfl (recovers_text hcomponent),
    h.field "engine_version" rfl (recovers_text hversion),
    h.field "trace" rfl hcaptured.recovers]
  rfl

/-- The free texts of a revision are in normal form, and its traces are captured. -/
structure Readable (data : QuoteRevisionData) : Prop where
  lineIds : ∀ line ∈ data.lines, fixed line.lineId
  adjustmentIds : ∀ item ∈ data.adjustments, fixed item.adjustmentId
  traces : ∀ trace ∈ data.calculationTraces, fixed trace.engineVersion ∧ Captured trace.trace
  engineVersion : fixed data.calculationEngineVersion

lemma reference_texts {references : List ConfigurationSnapshotReference} {u : Unit}
    (h : validateConfigurations references = .ok u) {item : ConfigurationSnapshotReference}
    (hitem : item ∈ references) : fixed item.configType ∧ fixed item.snapshotHash := by
  obtain ⟨_, -, h⟩ := bind_ok.mp h
  obtain ⟨_, -, h⟩ := bind_ok.mp h
  obtain ⟨htype, -, hhash⟩ := require_ok.mp (forM_ok.mp h item hitem)
  exact ⟨fixed_code htype, fixed_hash hhash⟩

lemma line_texts {line : QuoteLineSnapshot} {u : Unit} (h : validateLine line = .ok u)
    (hid : fixed line.lineId) : line.Texts := by
  obtain ⟨_, hidentity, h⟩ := bind_ok.mp h
  obtain ⟨_, hquantity, h⟩ := bind_ok.mp h
  obtain ⟨_, -, h⟩ := bind_ok.mp h
  obtain ⟨_, hhash, hamounts⟩ := bind_ok.mp h
  exact {
    lineId := hid
    serviceCode := fixed_code (require_ok.mp hidentity).2
    quantity := by
      rw [canonicalPositiveDecimal] at hquantity
      split at hquantity
      · cases hquantity
      · next hdecimal => exact fixed_quantity hdecimal
    amounts := amounts_discriminated hamounts
    priceTraceHash := fixed_hash (require_ok.mp hhash) }

lemma adjustment_reason {item : QuoteAdjustmentSnapshot} {u : Unit}
    (h : validateAdjustment item = .ok u) : fixed item.reasonCode := by
  obtain ⟨_, hidentity, -⟩ := bind_ok.mp h
  exact fixed_code (require_ok.mp hidentity).2

structure Texts (data : QuoteRevisionData) : Prop where
  currency : fixed data.currency
  references : ∀ item ∈ data.configurationSnapshots, fixed item.configType ∧ fixed item.snapshotHash
  lines : ∀ line ∈ data.lines, line.Texts
  adjustments : ∀ item ∈ data.adjustments, fixed item.adjustmentId ∧ fixed item.reasonCode
  traces : ∀ trace ∈ data.calculationTraces,
    fixed trace.component ∧ fixed trace.engineVersion ∧ Captured trace.trace
  engineVersion : fixed data.calculationEngineVersion
  engineHash : fixed data.calculationEngineHash
  reasonCodes : ∀ code ∈ data.reasonCodes, fixed code
  requiredApprovals : ∀ code ∈ data.requiredApprovals, fixed code
  taxTreatment : fixed data.taxTreatment

lemma texts_of_valid {data : QuoteRevisionData} {u : Unit} (h : validateRevision data = .ok u)
    (hr : Readable data) : Texts data := by
  obtain ⟨_, hidentity, h⟩ := bind_ok.mp h
  obtain ⟨_, -, h⟩ := bind_ok.mp h
  obtain ⟨_, hengine, h⟩ := bind_ok.mp h
  obtain ⟨_, hreferences, h⟩ := bind_ok.mp h
  obtain ⟨_, hlines, h⟩ := bind_ok.mp h
  obtain ⟨_, htraces, h⟩ := bind_ok.mp h
  obtain ⟨_, htotals, h⟩ := bind_ok.mp h
  obtain ⟨_, -, h⟩ := bind_ok.mp h
  obtain ⟨_, -, hcodes⟩ := bind_ok.mp h
  obtain ⟨_, htax, hidentified⟩ := bind_ok.mp hengine
  obtain ⟨_, -, hlines⟩ := bind_ok.mp hlines
  obtain ⟨_, -, htraces⟩ := bind_ok.mp htraces
  obtain ⟨_, htraces, -⟩ := bind_ok.mp htraces
  obtain ⟨_, -, htotals⟩ := bind_ok.mp htotals
  obtain ⟨_, -, htotals⟩ := bind_ok.mp htotals
  obtain ⟨_, -, htotals⟩ := bind_ok.mp htotals
  obtain ⟨_, -, htotals⟩ := bind_ok.mp htotals
  obtain ⟨_, hadjustments, -⟩ := bind_ok.mp htotals
  obtain ⟨_, -, hadjustments⟩ := bind_ok.mp hadjustments
  obtain ⟨_, hadjustments, -⟩ := bind_ok.mp hadjustments
  have hcode : ∀ code ∈ data.reasonCodes ++ data.requiredApprovals, fixed code :=
    fun code hcode => fixed_code (require_ok.mp (forM_ok.mp hcodes code hcode))
  exact {
    currency := by
      rw [(require_ok.mp hidentity).2.2]
      exact fixed_ascii (by decide)
    references := fun item hitem => reference_texts hreferences hitem
    lines := fun line hline => line_texts (forM_ok.mp hlines line hline) (hr.lineIds line hline)
    adjustments := fun item hitem =>
      ⟨hr.adjustmentIds item hitem, adjustment_reason (forM_ok.mp hadjustments item hitem)⟩
    traces := fun trace htrace =>
      ⟨fixed_code (require_ok.mp (forM_ok.mp htraces trace htrace)).1, hr.traces trace htrace⟩
    engineVersion := hr.engineVersion
    engineHash := fixed_hash (require_ok.mp hidentified).2
    reasonCodes := fun code h => hcode code (List.mem_append_left _ h)
    requiredApprovals := fun code h => hcode code (List.mem_append_right _ h)
    taxTreatment := by
      rw [require_ok.mp htax]
      exact fixed_ascii (by decide) }

lemma dataOf_eq {payload : Json} {data : QuoteRevisionData}
    (hstores : Stores payload (dataValue data)) (htexts : Texts data) :
    dataOf payload = some (readBack data) := by
  have h : Holding payload _ := ⟨hstores, by simp [volatileHashFields]⟩
  have hevent : optionalField payload "promotion_eligibility_event"
      (member PromotionEligibilityEvent) = some data.promotionEligibilityEvent := by
    rw [h.optionalField "promotion_eligibility_event" rfl (f := id) recovers_member null_not_enum,
      Option.map_id]
    rfl
  have htax : taxTreatmentOf payload = some data.taxTreatment := by
    obtain ⟨kept, hkept, htreatment⟩ := h.get? "tax_treatment" rfl
    rw [taxTreatmentOf, hkept]
    exact recovers_text htexts.taxTreatment kept htreatment
  rw [dataOf, h.field "schema_version" rfl (recovers_int data.schemaVersion),
    h.field "quote_id" rfl (recovers_uuid data.quoteId),
    h.field "revision" rfl (recovers_int data.revision),
    h.field "finality" rfl (recovers_member data.finality),
    h.field "status" rfl (recovers_member data.status),
    h.field "priced_at" rfl (recovers_moment data.pricedAt),
    optionalMoment_eq h "valid_until" rfl,
    h.field "currency" rfl (recovers_text htexts.currency),
    h.field "configuration_snapshots" rfl (recovers_sequence fun item hitem =>
      recovers_reference (htexts.references item hitem).1 (htexts.references item hitem).2),
    h.field "lines" rfl (recovers_sequence fun line hline =>
      recovers_line (htexts.lines line hline)),
    h.field "adjustments" rfl (recovers_sequence fun item hitem =>
      recovers_adjustment (htexts.adjustments item hitem).1 (htexts.adjustments item hitem).2),
    h.field "totals" rfl (recovers_totals data.totals),
    h.field "calculation_traces" rfl (recovers_sequence fun trace htrace =>
      recovers_trace (htexts.traces trace htrace).1 (htexts.traces trace htrace).2.1
        (htexts.traces trace htrace).2.2),
    h.field "calculation_engine_version" rfl (recovers_text htexts.engineVersion),
    h.field "calculation_engine_hash" rfl (recovers_text htexts.engineHash),
    hevent, optionalMoment_eq h "promotion_eligibility_at" rfl,
    h.field "reason_codes" rfl (recovers_sequence fun code hcode =>
      recovers_text (htexts.reasonCodes code hcode)),
    h.field "required_approvals" rfl (recovers_sequence fun code hcode =>
      recovers_text (htexts.requiredApprovals code hcode)),
    recovers_optionalUuid h "approval_id" rfl, htax,
    optionalMoment_eq h "customer_estimate_acknowledged_at" rfl]
  rfl

omit [Unicodedata] in
def Placed (d : Datetime) : Prop := d.aware ∧ ∃ u, d.toUtc = some u

lemma placed_of_stores {payload : Json} {d : Datetime} (h : Stores payload (.datetime d)) :
    Placed d := by
  obtain ⟨haware, s, hs, -⟩ := stores_datetime h
  rw [Datetime.momentText, Option.map_eq_some_iff] at hs
  obtain ⟨u, hu, -⟩ := hs
  exact ⟨haware, u, hu⟩

omit [Unicodedata] in
lemma Placed.inUtc_eq {d : Datetime} (h : Placed d) :
    (inUtc d).aware ∧ (inUtc d).instant = d.instant ∧ (inUtc d).momentText = d.momentText := by
  obtain ⟨-, u, hu⟩ := h
  obtain ⟨hinstant, haware, hagain⟩ := Datetime.instant_toUtc hu
  have heq : inUtc d = u := by rw [inUtc, hu, Option.getD_some]
  rw [heq, Datetime.momentText, Datetime.momentText, hagain, hu]
  exact ⟨haware, hinstant, rfl⟩

lemma jsonValue_inUtc {d : Datetime} (h : Placed d) :
    jsonValue true (.datetime (inUtc d)) = jsonValue true (.datetime d) := by
  obtain ⟨haware, -, htext⟩ := h.inUtc_eq
  rw [jsonValue, jsonValue, if_pos haware, if_pos h.1, htext]

lemma jsonValue_optionalInUtc {o : Option Datetime} (h : ∀ d ∈ o, Placed d) :
    jsonValue true (optional .datetime (o.map inUtc)) = jsonValue true (optional .datetime o) := by
  cases o with
  | none => rfl
  | some d => exact jsonValue_inUtc (h d rfl)

omit [Unicodedata] in
structure AllPlaced (data : QuoteRevisionData) : Prop where
  pricedAt : Placed data.pricedAt
  validUntil : ∀ d ∈ data.validUntil, Placed d
  promotionEligibilityAt : ∀ d ∈ data.promotionEligibilityAt, Placed d
  customerEstimateAcknowledgedAt : ∀ d ∈ data.customerEstimateAcknowledgedAt, Placed d

lemma optional_placed {payload : Json} {fs : List (String × Value)} (h : Holding payload fs)
    (key : String) {o : Option Datetime} (hv : fs.lookup key = some (optional .datetime o)) :
    ∀ d ∈ o, Placed d := by
  rintro d ⟨⟩
  obtain ⟨kept, -, hstores⟩ := h.get? key hv
  exact placed_of_stores hstores

lemma allPlaced_of_stores {payload : Json} {data : QuoteRevisionData}
    (hstores : Stores payload (dataValue data)) : AllPlaced data := by
  have h : Holding payload _ := ⟨hstores, by simp [volatileHashFields]⟩
  obtain ⟨kept, -, hpriced⟩ := h.get? "priced_at" rfl
  exact {
    pricedAt := placed_of_stores hpriced
    validUntil := optional_placed h "valid_until" rfl
    promotionEligibilityAt := optional_placed h "promotion_eligibility_at" rfl
    customerEstimateAcknowledgedAt := optional_placed h "customer_estimate_acknowledged_at" rfl }

lemma jsonValue_readBack {data : QuoteRevisionData} (h : AllPlaced data) :
    jsonValue true (dataValue (readBack data)) = jsonValue true (dataValue data) := by
  rw [dataValue, dataValue, jsonValue, jsonValue, valueFields_eq, valueFields_eq]
  simp only [List.map_cons, List.map_nil, readBack, jsonValue_inUtc h.pricedAt,
    jsonValue_optionalInUtc h.validUntil, jsonValue_optionalInUtc h.promotionEligibilityAt,
    jsonValue_optionalInUtc h.customerEstimateAcknowledgedAt]

omit [Unicodedata] in
lemma aware_inUtc {d : Datetime} (h : Placed d) : aware (inUtc d) = aware d := by
  rw [aware, aware, check, check, require, require, if_pos h.inUtc_eq.1, if_pos h.1]

omit [Unicodedata] in
lemma forM_inUtc {f g : Datetime → Except PyException Unit} {o : Option Datetime}
    (h : ∀ d ∈ o, f (inUtc d) = g d) : (o.map inUtc).toList.forM f = o.toList.forM g := by
  cases o with
  | none => rfl
  | some d =>
    show (f (inUtc d) >>= fun _ => pure ()) = (g d >>= fun _ => pure ())
    rw [h d rfl]

omit [Unicodedata] in
lemma validateValidity_readBack {data : QuoteRevisionData} (h : AllPlaced data) :
    validateValidity (readBack data) = validateValidity data := by
  have hinstant : (inUtc data.pricedAt).instant = data.pricedAt.instant := h.pricedAt.inUtc_eq.2.1
  rw [validateValidity, validateValidity]
  show (aware (inUtc data.pricedAt) >>= fun _ => (data.validUntil.map inUtc).toList.forM _) = _
  rw [aware_inUtc h.pricedAt]
  congr 1
  funext _
  refine forM_inUtc fun d hd => ?_
  have hafter : (inUtc d).instant = d.instant := (h.validUntil d hd).inUtc_eq.2.1
  show (aware (inUtc d) >>= fun _ => check ((inUtc data.pricedAt).instant < (inUtc d).instant) _) = _
  rw [aware_inUtc (h.validUntil d hd)]
  simp only [hinstant, hafter]

omit [Unicodedata] in
lemma validateAcknowledgment_readBack {data : QuoteRevisionData} (h : AllPlaced data) :
    validateAcknowledgment (readBack data) = validateAcknowledgment data := by
  have hinstant : (inUtc data.pricedAt).instant = data.pricedAt.instant := h.pricedAt.inUtc_eq.2.1
  cases hat : data.customerEstimateAcknowledgedAt with
  | none => simp only [validateAcknowledgment, readBack, hat, Option.map_none]
  | some d =>
    have hplaced := h.customerEstimateAcknowledgedAt d hat
    have hafter : (inUtc d).instant = d.instant := hplaced.inUtc_eq.2.1
    simp only [validateAcknowledgment, readBack, hat, Option.map_some, aware_inUtc hplaced, hinstant,
      hafter]

omit [Unicodedata] in
lemma validateEligibility_readBack {data : QuoteRevisionData} (h : AllPlaced data) :
    validateEligibility (readBack data) = validateEligibility data := by
  have hsame : (readBack data).promotionEligibilityAt = none ↔ data.promotionEligibilityAt = none := by
    simp [readBack]
  rw [validateEligibility, validateEligibility]
  simp only [hsame]
  show (_ >>= fun _ => (data.promotionEligibilityAt.map inUtc).toList.forM aware) = _
  rw [forM_inUtc fun d hd => aware_inUtc (h.promotionEligibilityAt d hd)]
  rfl

omit [Unicodedata] in
lemma validateFinality_readBack {data : QuoteRevisionData} (h : AllPlaced data) :
    validateFinality (readBack data) = validateFinality data := by
  rw [validateFinality, validateFinality, validateAcknowledgment_readBack h]
  have hevidence : (readBack data).customerEstimateAcknowledgedAt ≠ none ↔
      data.customerEstimateAcknowledgedAt ≠ none := by
    simp [readBack]
  simp only [hevidence]
  rfl

lemma validateRevision_readBack {data : QuoteRevisionData} (h : AllPlaced data) :
    validateRevision (readBack data) = validateRevision data := by
  rw [validateRevision, validateRevision, validateValidity_readBack h, validateFinality_readBack h,
    validateEligibility_readBack h]
  rfl

omit [Unicodedata] in
lemma normalized_idem (data : QuoteRevisionData) : normalized (normalized data) = normalized data := by
  simp only [normalized, sortBy_idem, sortedSet_idem]

lemma buildQuoteSnapshot_ok {data : QuoteRevisionData} {snapshot : ImmutableQuoteSnapshot} :
    buildQuoteSnapshot data = .ok snapshot ↔ snapshot.data = normalized data ∧
      validateRevision snapshot.data = .ok () ∧
      canonicalDocument (dataValue snapshot.data) true = .ok snapshot.document := by
  constructor
  · intro h
    obtain ⟨_, hvalid, h⟩ := bind_ok.mp h
    split at h
    · next document hdocument =>
      cases h
      exact ⟨rfl, hvalid, hdocument⟩
    · cases h
    · cases h
  · rintro ⟨hdata, hvalid, hdocument⟩
    rw [hdata] at hvalid hdocument
    rw [buildQuoteSnapshot, hvalid, ok_bind, hdocument]
    show Except.ok ⟨normalized data, snapshot.document⟩ = Except.ok snapshot
    rw [← hdata]

lemma verify_built {data : QuoteRevisionData} {snapshot : ImmutableQuoteSnapshot}
    (h : buildQuoteSnapshot data = .ok snapshot) : verifyQuoteSnapshot snapshot = .ok true := by
  obtain ⟨hdata, hvalid, hdocument⟩ := buildQuoteSnapshot_ok.mp h
  have hagain : buildQuoteSnapshot snapshot.data = .ok snapshot :=
    buildQuoteSnapshot_ok.mpr ⟨by rw [hdata, normalized_idem], hvalid, hdocument⟩
  rw [verifyQuoteSnapshot, if_pos (verify_canonicalDocument (proper_data _) hdocument), hagain]
  simp

/-- The snapshot that a payload of the snapshot's document reads as. -/
def ImmutableQuoteSnapshot.readBack (snapshot : ImmutableQuoteSnapshot) : ImmutableQuoteSnapshot :=
  ⟨Quotes.readBack snapshot.data, snapshot.document⟩

/-- The payload is the snapshot's document, with its members in some order. -/
structure StoredAs (payload : Json) (snapshot : ImmutableQuoteSnapshot) : Prop where
  same : ∃ parsed, Json.loads snapshot.document.canonicalJson = some parsed ∧
    Json.Same payload parsed
  distinct : payload.distinct

lemma StoredAs.stores {payload : Json} {data : QuoteRevisionData} {snapshot : ImmutableQuoteSnapshot}
    (h : StoredAs payload snapshot) (hbuild : buildQuoteSnapshot data = .ok snapshot) :
    Stores payload (dataValue snapshot.data) := by
  obtain ⟨-, -, hdocument⟩ := buildQuoteSnapshot_ok.mp hbuild
  obtain ⟨j, s, hj, hs, hd⟩ := canonicalDocument_ok.mp hdocument
  have hsettled := jsonValue_settled (by simp) (proper_data snapshot.data) hj
  obtain ⟨parsed, hloads, hsame⟩ := h.same
  rw [hd] at hloads
  cases (Json.loads_dumps hsettled.2 hs).symm.trans hloads
  exact ⟨j, hj, hsame.trans (Json.same_sorted j), h.distinct⟩

lemma built_readBack {payload : Json} {data : QuoteRevisionData} {snapshot : ImmutableQuoteSnapshot}
    (hbuild : buildQuoteSnapshot data = .ok snapshot) (hpayload : StoredAs payload snapshot) :
    buildQuoteSnapshot (Quotes.readBack snapshot.data) = .ok snapshot.readBack := by
  have hplaced := allPlaced_of_stores (hpayload.stores hbuild)
  obtain ⟨hdata, hvalid, hdocument⟩ := buildQuoteSnapshot_ok.mp hbuild
  refine buildQuoteSnapshot_ok.mpr ⟨?_, ?_, ?_⟩
  · show Quotes.readBack snapshot.data = Quotes.readBack (normalized snapshot.data)
    rw [hdata, normalized_idem]
  · exact (validateRevision_readBack hplaced).trans hvalid
  · show canonicalDocument (dataValue (Quotes.readBack snapshot.data)) true = .ok snapshot.document
    rw [← hdocument, canonicalDocument, canonicalDocument, jsonValue_readBack hplaced]

lemma parse_stored {payload : Json} {data : QuoteRevisionData} {snapshot : ImmutableQuoteSnapshot}
    (hbuild : buildQuoteSnapshot data = .ok snapshot) (hreadable : Readable snapshot.data)
    (hpayload : StoredAs payload snapshot) :
    parseQuoteRevision payload = .ok snapshot.readBack := by
  have htexts := texts_of_valid (buildQuoteSnapshot_ok.mp hbuild).2.1 hreadable
  rw [parseQuoteRevision, dataOf_eq (hpayload.stores hbuild) htexts]
  simp only [built_readBack hbuild hpayload]

lemma storedAs_loads {data : QuoteRevisionData} {snapshot : ImmutableQuoteSnapshot}
    (hbuild : buildQuoteSnapshot data = .ok snapshot) :
    ∃ parsed, Json.loads snapshot.document.canonicalJson = some parsed ∧
      StoredAs parsed snapshot := by
  obtain ⟨-, -, hdocument⟩ := buildQuoteSnapshot_ok.mp hbuild
  obtain ⟨j, s, hj, hs, hd⟩ := canonicalDocument_ok.mp hdocument
  have hsettled := jsonValue_settled (by simp) (proper_data snapshot.data) hj
  have hloads : Json.loads snapshot.document.canonicalJson = some (Json.sorted j) := by
    rw [hd]
    exact Json.loads_dumps hsettled.2 hs
  exact ⟨_, hloads, ⟨_, hloads, rfl⟩, Json.distinct_sorted hsettled.2⟩

structure SameInstants (data data' : QuoteRevisionData) : Prop where
  pricedAt : data.pricedAt.instant = data'.pricedAt.instant
  validUntil : data.validUntil.map Datetime.instant = data'.validUntil.map Datetime.instant
  promotionEligibilityAt : data.promotionEligibilityAt.map Datetime.instant =
    data'.promotionEligibilityAt.map Datetime.instant
  customerEstimateAcknowledgedAt : data.customerEstimateAcknowledgedAt.map Datetime.instant =
    data'.customerEstimateAcknowledgedAt.map Datetime.instant

omit [Unicodedata] in
lemma map_instant_inUtc {o : Option Datetime} (h : ∀ d ∈ o, Placed d) :
    (o.map inUtc).map Datetime.instant = o.map Datetime.instant := by
  cases o with
  | none => rfl
  | some d => exact congrArg some (h d rfl).inUtc_eq.2.1

lemma sameInstants_readBack {data : QuoteRevisionData} {snapshot : ImmutableQuoteSnapshot}
    (hbuild : buildQuoteSnapshot data = .ok snapshot) :
    SameInstants snapshot.readBack.data snapshot.data := by
  obtain ⟨parsed, -, hstored⟩ := storedAs_loads hbuild
  have hplaced := allPlaced_of_stores (hstored.stores hbuild)
  exact ⟨hplaced.pricedAt.inUtc_eq.2.1, map_instant_inUtc hplaced.validUntil,
    map_instant_inUtc hplaced.promotionEligibilityAt,
    map_instant_inUtc hplaced.customerEstimateAcknowledgedAt⟩

end NhaTrangLaundry.Domain.Quotes
