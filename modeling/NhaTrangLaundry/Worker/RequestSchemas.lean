import NhaTrangLaundry.Contracts.ToolRegistry
import NhaTrangLaundry.Worker.RefusedNulls

/-! The request schemas of the tool registry, and which calls their strict forms lose. -/

namespace NhaTrangLaundry.Worker.StrictSchema

open Lib Json JsonSchema Schema Contracts

def sha256 : Schema :=
  .scalar (some .string) false [.pattern "^sha256:[0-9a-f]\x7b64\x7d$"]

def decimal : Schema :=
  .scalar (some .string) false [.pattern "^(0|[1-9][0-9]*)(\\.[0-9]\x7b1,3\x7d)?$"]

def oneOfTexts (values : List String) : Schema :=
  .scalar (some .string) false [.enum (values.map some)]

def constant (value : String) : Schema := .scalar none false [.const value]

def unit : Schema := oneOfTexts ["KG", "ITEM", "PAIR", "SET", "ANIMAL_PLUSH_ITEM", "CASE", "M2"]

def quantityBasis : Schema :=
  .scalar (some .string) false [.enum [some "CUSTOMER_ESTIMATE"], .note (.description
    "Public agent estimates may use only customer-provided estimated quantity.")]

def fulfillmentMode : Schema :=
  oneOfTexts ["SELF_DROP_SELF_COLLECT", "PICKUP_AND_RETURN", "PICKUP_ONLY", "RETURN_ONLY"]

def anyText : Schema := .scalar (some .string) false []

def boundedText (least most : Nat) : Schema :=
  .scalar (some .string) false [.minLength least, .maxLength most]

def closedRequest (properties : List (String × Schema)) (required : List String) : Schema :=
  .object properties (some required) true none []

def knownAttributes : Schema :=
  .object [("estimated_quantity", decimal), ("unit", unit)] none true none []

def catalogResolveRequest : Schema :=
  closedRequest [("query", boundedText 1 300), ("locale", constant "vi-VN"),
    ("known_attributes", knownAttributes)] ["query", "locale"]

def orderRequestCreateRequest : Schema :=
  closedRequest [("customer_intent", boundedText 1 500), ("locale", constant "vi-VN"),
    ("source_provider_message_ids", .list (boundedText 1 200) [.minItems 1, .maxItems 10,
      .uniqueItems, .note (.description ("Every ID must belong to the authenticated bound channel " ++
        "conversation; the server rejects cross-conversation or unknown IDs."))])]
    ["customer_intent", "locale", "source_provider_message_ids"]

def customerFact (factType : String) (properties : List (String × Schema)) : Schema :=
  closedRequest ([("fact_type", constant factType)] ++ properties ++
      [("source_provider_message_id", anyText)])
    (["fact_type"] ++ properties.map Prod.fst ++ ["source_provider_message_id"])

def customerFacts : List Schema :=
  [customerFact "SERVICE_TEXT" [("service_text", boundedText 1 300)],
    customerFact "ESTIMATED_QUANTITY" [("quantity", decimal), ("unit", unit)],
    customerFact "FULFILLMENT_MODE" [("fulfillment_mode", fulfillmentMode)],
    customerFact "CUSTOMER_ADDRESS_TEXT" [("address_text", boundedText 5 500)]]

def recordCustomerFactsRequest : Schema :=
  closedRequest [("facts", .list (.oneOf customerFacts []) [.minItems 1, .maxItems 10])] ["facts"]

def estimateLine : Schema :=
  closedRequest [("service_code", .scalar (some .string) false [.pattern "^[A-Z0-9_]+$"]),
    ("quantity_basis", quantityBasis), ("quantity", decimal), ("unit", unit)]
    ["service_code", "quantity_basis", "quantity", "unit"]

def quoteEstimateRequest : Schema :=
  closedRequest [("lines", .list estimateLine [.minItems 1, .maxItems 50]),
    ("fulfillment", closedRequest [("mode", fulfillmentMode),
      ("planned_transport_weight_kg", decimal)] ["mode"])] ["lines", "fulfillment"]

def deliveryEvaluateRequest : Schema :=
  closedRequest [("fulfillment_mode", fulfillmentMode), ("planned_transport_weight_kg", decimal)]
    ["fulfillment_mode"]

def capacityCheckRequest : Schema :=
  .object [("requested_ready_at", .scalar (some .string) true [.format "date-time",
    .note (.description "Customer-requested time only; it is never a reservation or promise.")])]
    none true none [.description ("Service scope, quantity and current intake/quote revision are " ++
        "derived from the path-bound order request.")]

def messageDraft (title : String) (messageKind : Schema) (properties : List (String × Schema)) :
    Schema :=
  .object ([("message_kind", messageKind), ("locale", constant "vi-VN")] ++ properties)
    (some (["message_kind", "locale"] ++ properties.map Prod.fst)) true none [.title title]

def customerQuestion : List (String × Schema) :=
  [("customer_question_provider_message_id", .scalar (some .string) false [.minLength 1,
    .maxLength 200, .note (.description "Must belong to the authenticated bound conversation.")])]

def messageDrafts : List Schema :=
  [messageDraft "Deterministic server-rendered message" (oneOfTexts ["LIST_PRICE_INFO",
      "INTAKE_RECEIPT", "INCIDENT_RECEIPT", "ORDER_STATUS", "APPROVED_QUOTE_PRESENTATION",
      "APPROVED_SLOT_PRESENTATION"]) [],
    messageDraft "Grounded intake question draft" (constant "INTAKE_FACT_REQUEST") customerQuestion,
    messageDraft "Human-only free-form transactional draft" (constant "FREE_FORM_TRANSACTIONAL")
      customerQuestion]

def messageDraftCreateRequest : Schema :=
  .oneOf messageDrafts [.description
    ("The request never accepts a template or business-resource ID. For deterministic\n" ++
      "kinds, the server selects the current published template and the current bound\n" ++
      "resource/facts from message kind, locale, stage and effective time.\n")]

def noRequestBody : Schema := .object [] none true none []

def incidentOpenRequest : Schema :=
  closedRequest [("allegation_type", oneOfTexts ["QUALITY", "DELAY", "LOSS", "DAMAGE", "DELIVERY",
      "BILLING", "OTHER"]), ("statement", boundedText 1 2000),
    ("source_provider_message_ids", .list anyText [.minItems 1, .maxItems 20, .uniqueItems,
      .note (.description "Every ID must belong to the authenticated bound channel conversation.")]),
    ("evidence_tokens", .list (.scalar (some .string) false [.maxLength 200]) [.maxItems 10,
      .note (.description ("Server-issued upload tokens already bound to this contact/conversation; " ++
        "arbitrary object keys are rejected."))])]
    ["allegation_type", "statement", "source_provider_message_ids"]

def approvalPair (pair : String × String) : Json :=
  .obj [("type", .str "object"), ("properties", .obj [("action", .obj [("const", .str pair.1)]),
    ("resource_type", .obj [("const", .str pair.2)])])]

def approvalPairs : List (String × String) :=
  [("PRESENT_QUOTE", "QUOTE_REVISION"), ("CONFIRM_SLOT", "SLOT_PROPOSAL"),
    ("SET_RANGE_PRICE", "QUOTE_REVISION"), ("SET_DELIVERY_FEE", "DELIVERY_FEE_PROPOSAL"),
    ("APPLY_PROMOTION", "QUOTE_REVISION"), ("SEND_MESSAGE", "MESSAGE_DRAFT"),
    ("ACCEPT_ORDER", "ORDER_REQUEST")]

def approvalRequestCreateRequest : Schema :=
  .object [("action", oneOfTexts ["PRESENT_QUOTE", "CONFIRM_SLOT", "SET_RANGE_PRICE",
      "SET_DELIVERY_FEE", "APPLY_PROMOTION", "SEND_MESSAGE", "ACCEPT_ORDER"]),
    ("resource_type", oneOfTexts ["QUOTE_REVISION", "SLOT_PROPOSAL", "DELIVERY_FEE_PROPOSAL",
      "MESSAGE_DRAFT", "ORDER_REQUEST"]),
    ("resource_id", .scalar (some .string) false [.format "uuid", .note (.description
      "Must be a current child resource of the path-bound order request.")]),
    ("resource_version", .scalar (some .integer) false [.minimum 1]),
    ("snapshot_hash", sha256), ("rendered_hash", sha256)]
    (some ["action", "resource_type", "resource_id", "resource_version", "snapshot_hash",
      "rendered_hash"]) true (some [.obj [("oneOf", .arr (approvalPairs.map approvalPair))]]) []

/-- `model_argument_schema` of an operation. -/
def modelArgumentSchema : AgentToolOperation → Schema
  | .catalogResolve => catalogResolveRequest
  | .orderRequestCreate => orderRequestCreateRequest
  | .orderRequestRecordCustomerFacts => recordCustomerFactsRequest
  | .quoteEstimate => quoteEstimateRequest
  | .deliveryEvaluate => deliveryEvaluateRequest
  | .capacityCheck => capacityCheckRequest
  | .messageDraftCreate => messageDraftCreateRequest
  | .publicOrderStatusGet => noRequestBody
  | .incidentOpen => incidentOpenRequest
  | .approvalRequestCreate => approvalRequestCreateRequest

variable {o : Outside} {x y : Json}

def choices : List ScalarRule → Option (List (Option String))
  | [] => none
  | .const value :: _ => some [some value]
  | .enum values :: _ => some values
  | _ :: rules => choices rules

lemma mem_of_same_enumValue {v : Option String} (h : same y (enumValue v) = true) :
    y = enumValue v := by
  rw [same_iff] at h
  cases v <;> cases y <;> simp_all [enumValue, sorted]

lemma mem_choices {rules : List ScalarRule} {values : List (Option String)}
    (h : choices rules = some values) (hy : rules.all (fun r => scalarRuleHolds o r y) = true) :
    ∃ v ∈ values, y = enumValue v := by
  induction rules with
  | nil => cases h
  | cons r rules ih =>
    rw [List.all_cons, Bool.and_eq_true] at hy
    cases r with
    | const value =>
      obtain rfl : [some value] = values := Option.some.inj h
      exact ⟨_, List.mem_singleton_self _, mem_of_same_enumValue (v := some value) hy.1⟩
    | enum values' =>
      obtain rfl : values' = values := Option.some.inj h
      have hany : (values'.map enumValue).any (same y) = true := hy.1
      obtain ⟨j, hj, hsame⟩ := List.any_eq_true.mp hany
      obtain ⟨v, hv, rfl⟩ := List.mem_map.mp hj
      exact ⟨v, hv, mem_of_same_enumValue hsame⟩
    | _ => exact ih h hy.2

lemma rules_of_valid {type : Option ScalarType} {nullable : Bool} {rules : List ScalarRule}
    (h : valid o (Schema.scalar type nullable rules).text y = true) :
    rules.all (fun r => scalarRuleHolds o r y) = true := by
  rw [Schema.text, Schema.fields, valid_obj, List.all_append, holds_scalarRules,
    Bool.and_eq_true] at h
  exact h.2

def requiredChoices (name : String) (s : Schema) : Option (List (Option String)) :=
  match (propertiesIn s).lookup name with
  | some (.scalar _ _ rules) => if name ∈ requiredIn s then choices rules else none
  | _ => none

def tells (name : String) (v w : Schema) : Bool :=
  match requiredChoices name v, requiredChoices name w with
  | some values, some values' => values.all fun value => !values'.contains value
  | _, _ => false

lemma requiredChoices_some {name : String} {s : Schema} {values : List (Option String)}
    (h : requiredChoices name s = some values) :
    name ∈ requiredIn s ∧ ∃ a, (name, a) ∈ propertiesIn s ∧ isScalar a = true ∧
      ∀ y, valid o a.text y = true → ∃ v ∈ values, y = enumValue v := by
  rw [requiredChoices] at h
  split at h
  · rename_i type nullable rules hlookup
    split at h
    · rename_i hrequired
      exact ⟨hrequired, _, mem_of_lookup hlookup, rfl, fun y hy => mem_choices h (rules_of_valid hy)⟩
    · cases h
  · cases h

lemma apart_of_tells {name : String} {v w : Schema} (h : tells name v w = true) : Apart o v w := by
  rw [tells] at h
  split at h
  · rename_i values values' hv hw
    obtain ⟨hrequired, a, ha, hsa, hvalues⟩ := requiredChoices_some (o := o) hv
    obtain ⟨hrequired', b, hb, hsb, hvalues'⟩ := requiredChoices_some (o := o) hw
    refine ⟨name, hrequired, hrequired', a, b, ha, hb, hsa, hsb, fun y hay hby => ?_⟩
    obtain ⟨value, hvalue, rfl⟩ := hvalues y hay
    obtain ⟨value', hvalue', hsame⟩ := hvalues' _ hby
    obtain rfl : value = value' := by cases value <;> cases value' <;> simp_all [enumValue]
    rw [List.all_eq_true] at h
    have hother := h _ hvalue
    rw [List.contains_iff_mem.mpr hvalue'] at hother
    cases hother
  · cases h

mutual

/-- Objects are closed, and what they do not require takes a null. -/
def lenient (inner : Bool) : Schema → Bool
  | .scalar _ _ _ => true
  | .list items _ => lenient true items
  | .object properties required closed _ _ =>
    closed && lenientProperties inner (requiredNames required) properties
  | .oneOf variants _ => lenientVariants variants

def lenientProperties (inner : Bool) (required : List String) : List (String × Schema) → Bool
  | [] => true
  | (name, s) :: properties =>
    (name ∈ required || takesNull inner s) && lenient true s &&
      lenientProperties inner required properties

def lenientVariants : List Schema → Bool
  | [] => true
  | s :: variants => lenient true s && lenientVariants variants

end

lemma lenientProperties_iff {inner : Bool} {required : List String}
    {properties : List (String × Schema)} :
    lenientProperties inner required properties = true ↔ ∀ p ∈ properties,
      (p.1 ∈ required ∨ takesNull inner p.2 = true) ∧ lenient true p.2 = true := by
  induction properties with
  | nil => simp [lenientProperties]
  | cons p properties ih =>
    rw [lenientProperties, Bool.and_eq_true, Bool.and_eq_true, Bool.or_eq_true, decide_eq_true_eq, ih,
      List.forall_mem_cons]

lemma lenientVariants_iff {variants : List Schema} :
    lenientVariants variants = true ↔ ∀ s ∈ variants, lenient true s = true := by
  induction variants with
  | nil => simp [lenientVariants]
  | cons s variants ih => rw [lenientVariants, Bool.and_eq_true, ih, List.forall_mem_cons]

/-- Such a schema takes the nulls of all that is valid under it. -/
theorem nullsTaken_of_lenient (s : Schema) : ∀ inner, lenient inner s = true → ∀ x,
    valid o s.text x = true → nullsTaken o inner s x := by
  induction s using Schema.induction with
  | scalar type nullable rules => exact fun _ _ _ _ => trivial
  | list items rules ih =>
    intro inner h x hx
    have hlist : valid o (listOf items.text rules) x = true := hx
    rw [valid_listOf, Bool.and_eq_true, Bool.and_eq_true, List.all_eq_true] at hlist
    exact fun y hy => ih true h y (hlist.2.1 y hy)
  | object properties required closed allOf notes ih =>
    intro inner h x hx
    obtain ⟨F, rfl, hproperties, hrequired, hclosed⟩ := valid_object hx
    rw [lenient, Bool.and_eq_true, lenientProperties_iff] at h
    refine ⟨hclosed h.1, propertiesTaken_iff.mpr fun p hp => ⟨fun hnone => ?_, fun y hy => ?_⟩⟩
    · refine (h.2 p hp).1.resolve_left fun hmem => ?_
      obtain ⟨y, hy⟩ := hrequired _ hmem
      exact Option.some_ne_none y (hy.symm.trans hnone)
    · exact ih p hp true (h.2 p hp).2 y (hproperties p hp y hy)
  | oneOf variants notes ih =>
    intro inner h x hx
    rw [lenient, lenientVariants_iff] at h
    exact variantsTaken_iff.mpr fun v hv hvalid => ih v hv true (h v hv) x hvalid

/-- Whole calls: what the variants of a union at the root leave out takes a null, too. -/
def lenientCall : Schema → Bool
  | .oneOf variants _ => variants.all (fun v => v.isObject && lenient true v) &&
      (allProperties variants).all fun p => variants.all (requires p.1) || takesNull false p.2
  | s => lenient false s

theorem callTaken_of_lenient (s : Schema) (h : lenientCall s = true)
    (hx : valid o s.text x = true) : callTaken o s x := by
  cases s with
  | oneOf variants notes =>
    rw [lenientCall, Bool.and_eq_true, List.all_eq_true, List.all_eq_true] at h
    rw [valid_oneOf, decide_eq_true_eq] at hx
    obtain ⟨w, hw, hwx⟩ : ∃ v ∈ variants, valid o v.text x = true := by
      rw [← List.countP_pos_iff, hx]
      exact Nat.zero_lt_one
    have hobject : ∀ v ∈ variants, v.isObject = true ∧ lenient true v = true := fun v hv =>
      (Bool.and_eq_true _ _).mp (h.1 v hv)
    refine ⟨fun v hv hvx => ?_, fun p hp hnone _ => ?_⟩
    · have htaken := nullsTaken_of_lenient v true (hobject v hv).2 x hvx
      cases v with
      | object properties required closed allOf notes =>
        exact ⟨htaken.1, fun p hp => (propertiesTaken_iff.mp htaken.2 p hp).2⟩
      | _ => cases (hobject _ hv).1
    · refine ((Bool.or_eq_true _ _).mp (h.2 p hp)).resolve_left fun hall => ?_
      obtain ⟨F, rfl, -, -, hrequired⟩ := variant_object (hobject w hw).1 hwx
      have hrequires := (Bool.and_eq_true _ _).mp (List.all_eq_true.mp hall w hw)
      obtain ⟨y, hy⟩ := hrequired p.1 (of_decide_eq_true hrequires.2)
      exact Option.some_ne_none y (hy.symm.trans hnone)
  | _ => exact nullsTaken_of_lenient _ false h x hx

def Expressed (o : Outside) (s : Schema) (x : Json) : Prop :=
  valid o (providerStrictSchema s.fields) (completedCall o s x) = true ∧
    dropNullObjectFields (completedCall o s x) = x

def namesUnit (x : Json) : Prop :=
  ∀ y, (members x).lookup "known_attributes" = some y → ((members y).lookup "unit").isSome

lemma alike_messageDrafts : Alike (allProperties messageDrafts) := by
  have h : ((allProperties messageDrafts).all fun p => (allProperties messageDrafts).all fun q =>
      p.1 ≠ q.1 || !same p.2.text q.2.text || equal p.2.text q.2.text) = true := by decide
  intro p hp q hq hname hsame
  have hpq := List.all_eq_true.mp (List.all_eq_true.mp h p hp) q hq
  rw [hsame, decide_eq_false (not_not_intro hname)] at hpq
  exact (equal_iff _ _).mp hpq

lemma rooted_request (operation : AgentToolOperation) : rooted (modelArgumentSchema operation) := by
  cases operation with
  | messageDraftCreate =>
    refine ⟨fun v hv => ?_, alike_messageDrafts⟩
    have h : (messageDrafts.all isObject) = true := by decide
    exact List.all_eq_true.mp h v hv
  | _ => trivial

lemma ordinary_request (operation : AgentToolOperation) :
    (modelArgumentSchema operation).ordinary := by
  cases operation <;>
    simp [modelArgumentSchema, catalogResolveRequest, orderRequestCreateRequest,
      recordCustomerFactsRequest, quoteEstimateRequest, deliveryEvaluateRequest, capacityCheckRequest,
      messageDraftCreateRequest, noRequestBody, incidentOpenRequest, approvalRequestCreateRequest,
      closedRequest, knownAttributes, customerFacts, customerFact, estimateLine, messageDrafts,
      messageDraft, customerQuestion, boundedText, constant, decimal, unit, oneOfTexts, anyText,
      fulfillmentMode, quantityBasis, sha256, ordinary, ordinaryProperties, ordinaryVariants]

lemma apart_customerFacts : customerFacts.Pairwise (Apart o) := by
  have h : customerFacts.Pairwise fun v w => tells "fact_type" v w = true := by decide
  exact h.imp apart_of_tells

lemma apart_messageDrafts : messageDrafts.Pairwise (Apart o) := by
  have h : messageDrafts.Pairwise fun v w => tells "message_kind" v w = true := by decide
  exact h.imp apart_of_tells

lemma isScalar_messageDrafts : ∀ p ∈ allProperties messageDrafts, isScalar p.2 = true := by
  have h : ((allProperties messageDrafts).all fun p => isScalar p.2) = true := by decide
  exact List.all_eq_true.mp h

lemma toldApart_request (operation : AgentToolOperation) :
    toldApart o (modelArgumentSchema operation) := by
  cases operation with
  | messageDraftCreate =>
    refine ⟨apart_messageDrafts, ?_, fun p hp _ _ _ _ => isScalar_messageDrafts p hp⟩
    simp [messageDrafts, messageDraft, customerQuestion, constant, oneOfTexts, discriminated,
      discriminatedProperties]
  | orderRequestRecordCustomerFacts =>
    refine ⟨rfl, ⟨apart_customerFacts, ?_⟩, trivial⟩
    simp [customerFacts, customerFact, closedRequest, constant, oneOfTexts, boundedText, decimal, unit,
      anyText, fulfillmentMode, discriminatedVariants, discriminated, discriminatedProperties]
  | _ =>
    simp [modelArgumentSchema, catalogResolveRequest, orderRequestCreateRequest,
      quoteEstimateRequest, deliveryEvaluateRequest, capacityCheckRequest, noRequestBody,
      incidentOpenRequest, approvalRequestCreateRequest, closedRequest, knownAttributes, estimateLine,
      boundedText, constant, decimal, unit, oneOfTexts, anyText, fulfillmentMode, quantityBasis, sha256,
      toldApart, discriminated, discriminatedProperties]

lemma lenient_request {operation : AgentToolOperation} (h : operation ≠ .catalogResolve) :
    lenientCall (modelArgumentSchema operation) = true := by
  cases operation with
  | catalogResolve => exact absurd rfl h
  | _ => decide

lemma callTaken_catalogResolve (hx : valid o catalogResolveRequest.text x = true) :
    callTaken o catalogResolveRequest x ↔ namesUnit x := by
  obtain ⟨F, rfl, hproperties, hrequired, hclosed⟩ := valid_object hx
  have hquery : F.lookup "query" ≠ none := fun hnone => by
    obtain ⟨y, hy⟩ := hrequired "query" (by decide)
    exact Option.some_ne_none y (hy.symm.trans hnone)
  have hlocale : F.lookup "locale" ≠ none := fun hnone => by
    obtain ⟨y, hy⟩ := hrequired "locale" (by decide)
    exact Option.some_ne_none y (hy.symm.trans hnone)
  have hknown : ∀ y, F.lookup "known_attributes" = some y →
      (nullsTaken o true knownAttributes y ↔ ((members y).lookup "unit").isSome) := by
    intro y hy
    have hvalid := hproperties ("known_attributes", knownAttributes) (by simp) y hy
    obtain ⟨G, rfl, -, -, hnames⟩ := valid_object hvalid
    constructor
    · intro h
      have hunit := (propertiesTaken_iff.mp h.2 ("unit", unit) (by simp)).1
      rw [← Option.ne_none_iff_isSome]
      intro hnone
      exact absurd (hunit hnone) (by decide)
    · intro h
      refine ⟨hnames rfl, propertiesTaken_iff.mpr fun p hp => ?_⟩
      rcases List.mem_cons.mp hp with rfl | hp
      · exact ⟨fun _ => rfl, fun _ _ => trivial⟩
      · obtain rfl := List.mem_singleton.mp hp
        exact ⟨fun hnone => absurd hnone (Option.ne_none_iff_isSome.mpr h), fun _ _ => trivial⟩
  constructor
  · intro h y hy
    exact (hknown y hy).mp
      ((propertiesTaken_iff.mp h.2 ("known_attributes", knownAttributes) (by simp)).2 y hy)
  · intro h
    refine ⟨hclosed rfl, propertiesTaken_iff.mpr fun p hp => ?_⟩
    rcases List.mem_cons.mp hp with rfl | hp
    · exact ⟨fun hnone => absurd hnone hquery, fun _ _ => trivial⟩
    · rcases List.mem_cons.mp hp with rfl | hp
      · exact ⟨fun hnone => absurd hnone hlocale, fun _ _ => trivial⟩
      · obtain rfl := List.mem_singleton.mp hp
        exact ⟨fun _ => rfl, fun y hy => (hknown y hy).mpr (h y hy)⟩

/-- A call is expressed where the strict schema takes its nulls; in the registry all calls are,
except those of the catalog that leave out the unit of what they know. -/
theorem expressed_iff (o : Outside) :
    (∀ s x, rooted s → s.ordinary → nullFree x = true → valid o s.text x = true →
      (callTaken o s x → Expressed o s x) ∧ (toldApart o s → Expressed o s x → callTaken o s x)) ∧
    ∀ operation x, nullFree x = true → valid o (modelArgumentSchema operation).text x = true →
      (Expressed o (modelArgumentSchema operation) x ↔
        (operation = .catalogResolve → namesUnit x)) := by
  have hboth : ∀ s x, rooted s → s.ordinary → nullFree x = true → valid o s.text x = true →
      (callTaken o s x → Expressed o s x) ∧
        (toldApart o s → Expressed o s x → callTaken o s x) := by
    intro s x hrooted hs hfree hvalid
    exact ⟨fun h => ⟨valid_completedCall s hrooted hs hfree hvalid h, dropNull_completedCall s hfree⟩,
      fun hd h => callTaken_of_valid s hrooted hs hd hfree hvalid h.1⟩
  refine ⟨hboth, fun operation x hfree hvalid => ?_⟩
  obtain ⟨henough, hneeded⟩ :=
    hboth _ x (rooted_request operation) (ordinary_request operation) hfree hvalid
  by_cases hcatalog : operation = .catalogResolve
  · subst hcatalog
    have hiff := callTaken_catalogResolve hvalid
    exact ⟨fun h _ => hiff.mp (hneeded (toldApart_request _) h), fun h => henough (hiff.mpr (h rfl))⟩
  · have htaken := callTaken_of_lenient _ (lenient_request hcatalog) hvalid
    exact ⟨fun _ h => absurd h hcatalog, fun _ => henough htaken⟩

def lax : Outside := ⟨fun _ _ => true, fun _ _ => true⟩

def unitless : Json :=
  .obj [("query", .str "x"), ("locale", .str "vi-VN"),
    ("known_attributes", .obj [("estimated_quantity", .str "1")])]

def feedback : Json :=
  .obj [("allegation_type", .str "DELAY"), ("statement", .str "x"),
    ("source_provider_message_ids", .arr [.str "m1"])]

theorem expressed_feedback : Expressed lax incidentOpenRequest feedback :=
  ((expressed_iff lax).2 .incidentOpen feedback (by decide) (by decide)).mpr
    (fun h => nomatch h)

theorem unitless_lost : ¬ ∀ o operation x, nullFree x = true →
    valid o (modelArgumentSchema operation).text x = true →
      Expressed o (modelArgumentSchema operation) x := by
  intro h
  have hlost : valid lax (providerStrictSchema catalogResolveRequest.fields)
      (completedCall lax catalogResolveRequest unitless) = false := by decide
  have hexpressed := h lax .catalogResolve unitless (by decide) (by decide)
  exact Bool.noConfusion (hlost.symm.trans hexpressed.1)

end NhaTrangLaundry.Worker.StrictSchema
