import NhaTrangLaundry.Domain.ComposedRevisions

/-! The promotion that a revision froze, read back from its trace. -/

namespace NhaTrangLaundry.Domain.QuoteComposition

open Lib Catalog Canonical Outcome Sorting Distinct Quotes Promotion StrEnum Payload

variable [Unicodedata]

lemma recovers_nfc (s : String) : Recovers text (.json (.str s)) (nfc s) := by
  rintro payload ⟨j, hj, hsame, -⟩
  cases hj
  rw [Json.same_str hsame]
  rfl

lemma recovers_truthy (b : Bool) : Recovers (some ∘ truthy) (.json (.bool b)) b := by
  rintro payload ⟨j, hj, hsame, -⟩
  cases hj
  rw [Json.same_bool hsame]
  rfl

lemma recovers_number (n : Int) : Recovers integer (.json (.int n)) n := recovers_int n

lemma recovers_uuidText (u : Uuid) : Recovers uuid (.json (.str u.str)) u := by
  rintro payload ⟨j, hj, hsame, -⟩
  cases hj
  rw [Json.same_str hsame, (fixed_ascii (ascii_uuid u) : nfc u.str = u.str), uuid, text,
    Option.bind_eq_bind, Option.bind_some, Uuid.ofText_str]

lemma recovers_nfcs (ss : List String) :
    Recovers (sequence text) (.json (texts ss)) (ss.map nfc) := by
  intro payload h
  have hseq : Stores payload (.seq (ss.map fun s => .json (.str s))) := by
    rw [Stores, texts, jsonValue_arr, List.map_map] at h
    exact h
  obtain ⟨xs, rfl, hxs⟩ := stores_seq hseq
  show xs.mapM text = some (ss.map nfc)
  clear h hseq
  induction hxs with
  | nil => rfl
  | cons hx _ ih =>
    rw [List.mapM_cons, recovers_nfc _ _ hx, ih]
    rfl

lemma recovers_rates (groups : List PromotionAllocationTrace) :
    Recovers (sequence fun group => field group "rate_bps" integer)
      (.json (.arr (groups.map groupJson))) (groups.map PromotionAllocationTrace.rateBps) := by
  intro payload h
  have hseq : Stores payload (.seq (groups.map fun group => .json (groupJson group))) := by
    rw [Stores, jsonValue_arr, List.map_map] at h
    exact h
  obtain ⟨xs, rfl, hxs⟩ := stores_seq hseq
  show xs.mapM _ = some (groups.map PromotionAllocationTrace.rateBps)
  clear h hseq
  induction hxs with
  | nil => rfl
  | @cons x group _ _ hx _ ih =>
    have h := Holding.of_obj ["rate_bps", "eligible_line_ids", "eligible_subtotal_vnd",
      "exact_discount_numerator", "exact_discount_denominator", "rounded_discount_vnd",
      "floor_allocations_vnd", "remainders", "remainder_award_order", "final_allocations_vnd"] rfl
      (by decide) (by decide) hx
    have hone : field x "rate_bps" integer = some group.rateBps :=
      h.field "rate_bps" rfl (recovers_number group.rateBps)
    rw [List.mapM_cons, hone, ih]
    rfl

def promotionNames : List String :=
  ["policy_code", "policy_rule_version", "configuration_version_id", "configuration_version",
    "timezone", "interval_start_at", "interval_end_at_exclusive", "stacking_allowed", "status",
    "outcome", "configured_eligibility_event", "observed_eligibility_event",
    "observed_eligibility_at", "candidate_reference_at", "candidate_inside_interval",
    "eligibility_resolved", "list_service_subtotal_vnd", "eligible_service_subtotal_vnd",
    "discount_amount_vnd", "net_service_subtotal_vnd", "rounding", "delivery_discount_vnd",
    "allocation_groups", "lines", "reason_codes"]

def frozenResult (result : PromotionResult) (published : PublishedPromotionProgram)
    (moments : TraceMoments) : FrozenPromotion where
  policyCode := nfc published.program.policy.code
  configurationVersionId := published.versionId
  configurationVersion := published.version
  status := nfc (value result.status)
  discountAmountVnd := result.discountAmountVnd
  listServiceSubtotalVnd := result.listServiceSubtotalVnd
  eligibleServiceSubtotalVnd := result.eligibleServiceSubtotalVnd
  rateBps := result.trace.allocationGroups.map PromotionAllocationTrace.rateBps
  intervalStartAt := nfc moments.intervalStartAt
  intervalEndAtExclusive := nfc moments.intervalEndAtExclusive
  candidateInsideInterval := result.trace.candidateInsideInterval
  eligibilityResolved := result.trace.eligibilityResolved
  reasonCodes := (result.reasonCodes.map value).map nfc
  stackingAllowed := published.program.policy.stackingAllowed

lemma frozenOf_eq {payload : Json} {result : PromotionResult}
    {published : PublishedPromotionProgram} {moments : TraceMoments}
    (hstores : Stores payload (.json (promotionJson result published moments))) :
    frozenOf payload = some (frozenResult result published moments) := by
  have h := Holding.of_obj promotionNames rfl (by decide) (by decide) hstores
  obtain ⟨groups, hgroups, hrates⟩ := h.get? "allocation_groups" rfl
  rw [frozenOf, hgroups, Option.bind_eq_bind, Option.bind_some,
    h.field "policy_code" rfl (recovers_nfc _),
    h.field "configuration_version_id" rfl (recovers_uuidText published.versionId),
    h.field "configuration_version" rfl (recovers_number published.version),
    h.field "status" rfl (recovers_nfc _),
    h.field "discount_amount_vnd" rfl (recovers_number result.discountAmountVnd),
    h.field "list_service_subtotal_vnd" rfl (recovers_number result.listServiceSubtotalVnd),
    h.field "eligible_service_subtotal_vnd" rfl
      (recovers_number result.eligibleServiceSubtotalVnd),
    recovers_rates result.trace.allocationGroups groups hrates,
    h.field "interval_start_at" rfl (recovers_nfc _),
    h.field "interval_end_at_exclusive" rfl (recovers_nfc _),
    h.field "candidate_inside_interval" rfl (recovers_truthy result.trace.candidateInsideInterval),
    h.field "eligibility_resolved" rfl (recovers_truthy result.trace.eligibilityResolved),
    h.field "reason_codes" rfl (recovers_nfcs _),
    h.field "stacking_allowed" rfl (recovers_truthy published.program.policy.stackingAllowed)]
  rfl

/-- The trace of a promotion, and what is read from it. -/
structure StatesPromotion (trace : CalculationTraceSnapshot) (frozen : FrozenPromotion) : Prop where
  component : trace.component = promotionComponent
  read : ∃ fields, Json.loads trace.trace.canonicalJson = some (.obj fields) ∧
    frozenOf (.obj fields) = some frozen

lemma capturePromotion_frozen {result : PromotionResult} {published : PublishedPromotionProgram}
    {trace : CalculationTraceSnapshot} (h : capturePromotion result published = .ok trace) :
    ∃ moments, StatesPromotion trace (frozenResult result published moments) := by
  obtain ⟨moments, -, hcapture⟩ := bind_ok.mp h
  obtain ⟨_, -, hcapture⟩ := bind_ok.mp hcapture
  split at hcapture
  · next document hdocument =>
    cases hcapture
    obtain ⟨payload, hloads, hstores⟩ := stores_captured .json hdocument
    have h := Holding.of_obj promotionNames rfl (by decide) (by decide) hstores
    obtain ⟨fields, hfields, -⟩ := h.object
    subst hfields
    exact ⟨moments, rfl, fields, hloads, frozenOf_eq hstores⟩
  · cases hcapture
  · cases hcapture

omit [Unicodedata] in
lemma frozenPromotion_congr {snapshot snapshot' : ImmutableQuoteSnapshot}
    (h : promotionTraceOf snapshot = promotionTraceOf snapshot') :
    frozenPromotion snapshot = frozenPromotion snapshot' := by
  rw [frozenPromotion, frozenPromotion, h]

omit [Unicodedata] in
lemma StatesPromotion.frozenPromotion {snapshot : ImmutableQuoteSnapshot}
    {trace : CalculationTraceSnapshot} {frozen : FrozenPromotion} (h : StatesPromotion trace frozen)
    (htrace : promotionTraceOf snapshot = some trace) :
    frozenPromotion snapshot = .ok (some frozen) := by
  obtain ⟨fields, hloads, hfrozen⟩ := h.read
  rw [QuoteComposition.frozenPromotion, htrace]
  dsimp only
  rw [hloads]
  dsimp only
  rw [hfrozen]

end NhaTrangLaundry.Domain.QuoteComposition
