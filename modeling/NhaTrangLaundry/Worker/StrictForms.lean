import NhaTrangLaundry.Worker.SchemaFragment
import Mathlib.Tactic.Common

/-! What the compilation makes of a schema of the registry. -/

namespace NhaTrangLaundry.Worker.StrictSchema

open Lib Json JsonSchema Schema

variable {compile : Json → Json} {F G : Fields} {notes : List Note}

/-- The keywords that a compilation reads or writes. -/
def structural : List String :=
  ["type", "properties", "required", "additionalProperties", "oneOf", "anyOf", "allOf", "items"]

def Plain (F : Fields) : Prop := ∀ f ∈ F, f.1 ∉ structural

lemma lookup_plain (h : Plain F) {k : String} (hk : k ∈ structural) : F.lookup k = none := by
  rw [List.lookup_eq_none_iff]
  intro f hf
  rw [bne_iff_ne]
  rintro rfl
  exact h f hf hk

lemma filter_plain (h : Plain F) {keys : List String} (hkeys : ∀ k ∈ keys, k ∈ structural) :
    F.filter (fun f => f.1 ∉ keys) = F := by
  rw [List.filter_eq_self]
  intro f hf
  exact decide_eq_true fun hk => h f hf (hkeys _ hk)

lemma popField_plain (h : Plain F) {k : String} (hk : k ∈ structural) : popField F k = F := by
  rw [popField, List.filter_eq_self]
  intro f hf
  refine decide_eq_true ?_
  rintro rfl
  exact h f hf hk

lemma plain_notes (notes : List Note) : Plain (notes.map Note.field) := by
  rintro f hf
  obtain ⟨n, -, rfl⟩ := List.mem_map.mp hf
  cases n <;> simp [Note.field, structural]

lemma plain_scalarRules (rules : List ScalarRule) : Plain (rules.map ScalarRule.field) := by
  rintro f hf
  obtain ⟨r, -, rfl⟩ := List.mem_map.mp hf
  cases r with
  | note n => exact plain_notes [n] _ (List.mem_singleton_self _)
  | _ => simp [ScalarRule.field, structural]

lemma plain_listRules (rules : List ListRule) : Plain (rules.map ListRule.field) := by
  rintro f hf
  obtain ⟨r, -, rfl⟩ := List.mem_map.mp hf
  cases r with
  | note n => exact plain_notes [n] _ (List.mem_singleton_self _)
  | _ => simp [ListRule.field, structural]

lemma nodeItems_eq (items : List Json) : nodeItems compile items = items.map (node compile) := by
  induction items with
  | nil => rfl
  | cons item items ih => rw [nodeItems, ih, List.map_cons]

lemma nodeFields_eq (F : Fields) : nodeFields compile F =
    (F.filter fun f => f.1 ≠ "allOf").map fun f => (f.1, node compile f.2) := by
  induction F with
  | nil => rfl
  | cons f F ih =>
    rw [nodeFields, ih]
    split_ifs with hkey <;> simp [hkey]

lemma nodeFields_append : nodeFields compile (F ++ G) =
    nodeFields compile F ++ nodeFields compile G := by
  simp only [nodeFields_eq, List.filter_append, List.map_append]

lemma nodeFields_plain (h : Plain F) (hflat : ∀ f ∈ F, node compile f.2 = f.2) :
    nodeFields compile F = F := by
  have hkept : (F.filter fun f => f.1 ≠ "allOf") = F := popField_plain h (by decide)
  rw [nodeFields_eq, hkept]
  calc F.map (fun f => (f.1, node compile f.2)) = F.map id :=
        List.map_congr_left fun f hf => by rw [hflat f hf]; rfl
    _ = F := List.map_id F

lemma nodeFields_notes : nodeFields compile (notes.map Note.field) = notes.map Note.field := by
  refine nodeFields_plain (plain_notes notes) fun f hf => ?_
  obtain ⟨n, -, rfl⟩ := List.mem_map.mp hf
  cases n <;> rfl

lemma nodeFields_listRules (rules : List ListRule) :
    nodeFields compile (rules.map ListRule.field) = rules.map ListRule.field := by
  refine nodeFields_plain (plain_listRules rules) fun f hf => ?_
  obtain ⟨r, -, rfl⟩ := List.mem_map.mp hf
  cases r with
  | note n => cases n <;> rfl
  | _ => rfl

lemma nodeFields_scalarRules (rules : List ScalarRule) :
    nodeFields compile (rules.map ScalarRule.field) = rules.map ScalarRule.field := by
  refine nodeFields_plain (plain_scalarRules rules) fun f hf => ?_
  obtain ⟨r, -, rfl⟩ := List.mem_map.mp hf
  cases r with
  | note n => cases n <;> rfl
  | enum values =>
    have hvalues : (values.map enumValue).map (node compile) = values.map enumValue := by
      rw [List.map_map]
      refine List.map_congr_left fun v _ => ?_
      cases v <;> rfl
    rw [ScalarRule.field, node, nodeItems_eq, hvalues]
  | _ => rfl

lemma setFields_object (F : Fields) (t p r a : Json) :
    setField (setField (setField (setField F "type" t) "properties" p) "required" r)
        "additionalProperties" a =
      F.filter (fun f => f.1 ∉ ["type", "properties", "required", "additionalProperties"]) ++
        [("type", t), ("properties", p), ("required", r), ("additionalProperties", a)] := by
  simp only [setField, List.filter_append, List.filter_filter, List.filter_cons, List.filter_nil]
  have hkeys : (fun f : String × Json => decide (f.1 ≠ "additionalProperties") &&
      (decide (f.1 ≠ "required") && (decide (f.1 ≠ "properties") && decide (f.1 ≠ "type")))) =
      fun f => decide (f.1 ∉ ["type", "properties", "required", "additionalProperties"]) := by
    funext f
    simp only [List.mem_cons, List.not_mem_nil, or_false, not_or, Bool.decide_and]
    simp only [decide_not]
    grind
  rw [← hkeys]
  simp

lemma closeObject_object {P : Fields} {names : List String} (hproperties : propertiesOf F = some P)
    (hrequired : originallyRequired F = names)
    (hrest : F.filter (fun f => f.1 ∉ ["type", "properties", "required", "additionalProperties"]) =
      notes.map Note.field) :
    Json.obj (closeObject compile F) = closedObject (P.map fun p =>
      (p.1, nullableUnless (p.1 ∈ names) (compile p.2))) notes := by
  rw [closeObject, hproperties, Option.isSome_some, Bool.or_true, if_pos rfl]
  simp only [setFields_object, hrest, hrequired, Option.getD_some]
  simp only [closedObject, nullableUnless, decide_eq_true_eq]

/-- Names that the compilation does not take for keywords. -/
def Ordinary (P : Fields) : Prop :=
  ∀ p ∈ P, p.1 ∉ ["oneOf", "allOf", "properties"] ∧ ∃ G, p.2 = .obj G

lemma node_obj (F : Fields) : ∃ G, node compile (.obj F) = .obj G := ⟨_, rfl⟩

lemma node_properties {P : Fields} (h : Ordinary P) :
    node compile (.obj P) = .obj (P.map fun p => (p.1, node compile p.2)) := by
  have hnone : ∀ k ∈ ["oneOf", "allOf", "properties"],
      (P.map fun p => (p.1, node compile p.2)).lookup k = none := by
    intro k hk
    rw [List.lookup_eq_none_iff]
    intro f hf
    obtain ⟨p, hp, rfl⟩ := List.mem_map.mp hf
    rw [bne_iff_ne]
    rintro rfl
    exact (h p hp).1 hk
  have hkept : (P.filter fun f => f.1 ≠ "allOf") = P := by
    rw [List.filter_eq_self]
    intro p hp
    refine decide_eq_true fun heq => (h p hp).1 ?_
    rw [heq]
    decide
  have hnodict : isObjectType (P.map fun p => (p.1, node compile p.2)) = false := by
    rw [isObjectType]
    split
    · next name hname =>
      rw [List.lookup_eq_some_iff] at hname
      obtain ⟨before, after, hsplit, -⟩ := hname
      obtain ⟨p, hp, hpair⟩ := List.mem_map.mp (hsplit ▸ List.mem_append_right _ List.mem_cons_self)
      obtain ⟨G, hG⟩ := (h p hp).2
      obtain ⟨G', hG'⟩ := @node_obj compile G
      rw [hG, hG'] at hpair
      exact nomatch (Prod.mk.inj hpair).2
    · rfl
  rw [node, nodeFields_eq, hkept, renamed, hnone "oneOf" (by decide)]
  simp only [closeObject, hnodict, propertiesOf, hnone "properties" (by decide)]
  rfl

lemma node_names (names : List String) :
    node compile (.arr (names.map .str)) = .arr (names.map .str) := by
  rw [node, nodeItems_eq, List.map_map]
  rfl

lemma namesIn_names (names : List String) : namesIn (.arr (names.map .str)) = names := by
  rw [namesIn, elements, List.filterMap_map]
  exact List.filterMap_some

lemma nodeFields_cons {k : String} (hk : k ≠ "allOf") (v : Json) (F : Fields) :
    nodeFields compile ((k, v) :: F) = (k, node compile v) :: nodeFields compile F :=
  if_neg hk

def closing (type properties : Json) (names : List String) : Fields :=
  [("type", type), ("properties", properties), ("required", .arr (names.map .str)),
    ("additionalProperties", .bool false)]

lemma closedObject_eq (P : Fields) (notes : List Note) : closedObject P notes =
    .obj (notes.map Note.field ++ closing (.str "object") (.obj P) (P.map Prod.fst)) := by
  rw [closedObject, closing, List.map_map]
  rfl

lemma lookup_notes_append {k : String} (hk : k ∈ structural) (G : Fields) :
    (notes.map Note.field ++ G).lookup k = G.lookup k := by
  rw [List.lookup_append, lookup_plain (plain_notes notes) hk, Option.none_or]

lemma filter_notes_append {keys : List String} (hkeys : ∀ k ∈ keys, k ∈ structural) (G : Fields)
    (hG : ∀ f ∈ G, f.1 ∈ keys) :
    (notes.map Note.field ++ G).filter (fun f => f.1 ∉ keys) = notes.map Note.field := by
  have hnone : G.filter (fun f => f.1 ∉ keys) = [] := by
    rw [List.filter_eq_nil_iff]
    intro f hf
    simpa using hG f hf
  rw [List.filter_append, filter_plain (plain_notes notes) hkeys, hnone, List.append_nil]

lemma node_notes_append (P : Fields) (names : List String) {G : Fields}
    (hproperties : G.lookup "properties" = some (.obj P))
    (hrequired : G.lookup "required" = some (.arr (names.map .str)))
    (hkeys : ∀ f ∈ G, f.1 ∈ ["type", "properties", "required", "additionalProperties"]) :
    Json.obj (closeObject compile (renamed (notes.map Note.field ++ G))) =
      closedObject (P.map fun p => (p.1, nullableUnless (p.1 ∈ names) (compile p.2))) notes := by
  have hunion : (notes.map Note.field ++ G).lookup "oneOf" = none := by
    rw [lookup_notes_append (by decide), List.lookup_eq_none_iff]
    intro f hf
    rw [bne_iff_ne]
    rintro heq
    have hkey := hkeys f hf
    rw [← heq] at hkey
    exact absurd hkey (by decide)
  rw [renamed, hunion]
  refine closeObject_object ?_ ?_ (filter_notes_append (by decide) G hkeys)
  · rw [propertiesOf, lookup_notes_append (by decide), hproperties]
  · rw [originallyRequired, lookup_notes_append (by decide), hrequired, Option.getD_some,
      namesIn_names]

lemma nullableUnless_all {P : Fields} {names : List String} (hnames : ∀ p ∈ P, p.1 ∈ names) :
    (P.map fun p => (p.1, nullableUnless (p.1 ∈ names) (compile p.2))) =
      P.map fun p => (p.1, compile p.2) :=
  List.map_congr_left fun p hp => by rw [decide_eq_true (hnames p hp)]; rfl

lemma fst_mem_map (P : Fields) :
    ∀ p ∈ P.map fun p => (p.1, node compile p.2), p.1 ∈ P.map Prod.fst := by
  intro p hp
  obtain ⟨q, hq, rfl⟩ := List.mem_map.mp hp
  exact List.mem_map.mpr ⟨q, hq, rfl⟩

lemma nodeFields_closing {P : Fields} (h : Ordinary P) (names : List String) :
    nodeFields compile (closing (.str "object") (.obj P) names) =
      closing (.str "object") (.obj (P.map fun p => (p.1, node compile p.2))) names := by
  rw [closing, nodeFields_cons (by decide), nodeFields_cons (by decide),
    nodeFields_cons (by decide), nodeFields_cons (by decide), node_properties h, node_names]
  rfl

lemma node_closing {P : Fields} (h : Ordinary P) (names : List String) :
    node compile (.obj (notes.map Note.field ++ closing (.str "object") (.obj P) names)) =
      closedObject (P.map fun p =>
        (p.1, nullableUnless (p.1 ∈ names) (compile (node compile p.2)))) notes := by
  rw [node, nodeFields_append, nodeFields_notes, nodeFields_closing h]
  refine (node_notes_append _ names rfl rfl (by simp [closing])).trans ?_
  rw [List.map_map]
  rfl

lemma node_closedObject {P : Fields} (h : Ordinary P) : node compile (closedObject P notes) =
    closedObject (P.map fun p => (p.1, compile (node compile p.2))) notes := by
  have hall : (P.map fun p =>
      (p.1, nullableUnless (p.1 ∈ P.map Prod.fst) (compile (node compile p.2)))) =
      P.map fun p => (p.1, compile (node compile p.2)) :=
    List.map_congr_left fun p hp => by rw [decide_eq_true (List.mem_map_of_mem hp)]; rfl
  rw [closedObject_eq, node_closing h, hall]

def nullableObject (P : Fields) (notes : List Note) : Json :=
  .obj (notes.map Note.field ++ [("properties", .obj P), ("required", .arr ((P.map Prod.fst).map .str)),
    ("additionalProperties", .bool false), ("type", .arr [.str "object", .str "null"])])

lemma nullable_closedObject (P : Fields) (notes : List Note) :
    nullableSchema (closedObject P notes) = nullableObject P notes := by
  have htype : (notes.map Note.field ++ closing (.str "object") (.obj P) (P.map Prod.fst)).lookup
      "type" = some (.str "object") := lookup_notes_append (by decide) _
  have hnotes : (notes.map Note.field).filter (fun f => f.1 ≠ "type") = notes.map Note.field :=
    popField_plain (plain_notes notes) (by decide)
  rw [closedObject_eq, nullableSchema, htype]
  simp only [setField, List.filter_append]
  rw [hnotes, List.append_assoc]
  rfl

lemma node_nullable_closedObject {P : Fields} (h : Ordinary P) :
    node compile (nullableSchema (closedObject P notes)) =
      closedObject (P.map fun p => (p.1, compile (node compile p.2))) notes := by
  have hfields : nodeFields compile [("properties", .obj P),
      ("required", .arr ((P.map Prod.fst).map .str)), ("additionalProperties", .bool false),
      ("type", .arr [.str "object", .str "null"])] =
      [("properties", .obj (P.map fun p => (p.1, node compile p.2))),
        ("required", .arr ((P.map Prod.fst).map .str)), ("additionalProperties", .bool false),
        ("type", .arr [.str "object", .str "null"])] := by
    rw [nodeFields_cons (by decide), nodeFields_cons (by decide), nodeFields_cons (by decide),
      nodeFields_cons (by decide), node_properties h, node_names]
    rfl
  rw [nullable_closedObject, nullableObject, node, nodeFields_append, nodeFields_notes, hfields]
  refine (node_notes_append _ (P.map Prod.fst) rfl rfl (by simp)).trans ?_
  rw [nullableUnless_all (fst_mem_map P), List.map_map]
  rfl

lemma node_object {properties : List (String × Schema)} (required : Option (List String))
    (closed : Bool) (allOf : Option (List Json)) (h : Ordinary (propertyFields properties)) :
    node compile (Schema.object properties required closed allOf notes).text =
      closedObject ((propertyFields properties).map fun p =>
        (p.1, nullableUnless (p.1 ∈ requiredNames required) (compile (node compile p.2)))) notes := by
  have hfields : nodeFields compile (Schema.object properties required closed allOf notes).fields =
      [("type", .str "object"),
        ("properties", .obj ((propertyFields properties).map fun p => (p.1, node compile p.2)))] ++
        requiredFields required ++ closedFields closed ++ notes.map Note.field := by
    have hrequired : nodeFields compile (requiredFields required) = requiredFields required := by
      cases required with
      | none => rfl
      | some names =>
        rw [requiredFields, nodeFields_cons (by decide), node_names]
        rfl
    have hclosed : nodeFields compile (closedFields closed) = closedFields closed := by
      cases closed
      · rfl
      · rw [closedFields, nodeFields_cons (by decide)]
        rfl
    have hallOf : nodeFields compile (allOfFields allOf) = [] := by
      cases allOf with
      | none => rfl
      | some conditions => rw [allOfFields, nodeFields, if_pos rfl, nodeFields]
    rw [Schema.fields, nodeFields_append, nodeFields_append, nodeFields_append, nodeFields_append,
      nodeFields_notes, hrequired, hclosed, hallOf, List.append_nil, nodeFields_cons (by decide),
      nodeFields_cons (by decide), node_properties h]
    rfl
  have hnotes : ∀ k ∈ structural, (notes.map Note.field).lookup k = none := fun k hk =>
    lookup_plain (plain_notes notes) hk
  have hunion : (nodeFields compile (Schema.object properties required closed allOf notes).fields).lookup
      "oneOf" = none := by
    rw [hfields, List.lookup_append, hnotes _ (by decide)]
    cases required <;> cases closed <;> rfl
  have hnames : originallyRequired (nodeFields compile
      (Schema.object properties required closed allOf notes).fields) = requiredNames required := by
    rw [hfields, originallyRequired, List.lookup_append, hnotes _ (by decide)]
    cases required with
    | none => cases closed <;> rfl
    | some names => exact namesIn_names names
  have hrest : (nodeFields compile (Schema.object properties required closed allOf notes).fields).filter
      (fun f => f.1 ∉ ["type", "properties", "required", "additionalProperties"]) =
      notes.map Note.field := by
    rw [hfields, List.filter_append, filter_plain (plain_notes notes) (by decide)]
    cases required <;> cases closed <;> rfl
  have hproperties : propertiesOf (nodeFields compile
      (Schema.object properties required closed allOf notes).fields) =
      some ((propertyFields properties).map fun p => (p.1, node compile p.2)) := by
    rw [hfields]
    rfl
  rw [Schema.text, node, renamed, hunion]
  refine (closeObject_object hproperties hnames hrest).trans ?_
  rw [List.map_map]
  rfl

lemma node_members {F G : Fields} (hfields : nodeFields compile F = G)
    (hunion : G.lookup "oneOf" = none) (htype : isObjectType G = false)
    (hproperties : propertiesOf G = none) : node compile (.obj F) = .obj G := by
  rw [node, hfields, renamed, hunion]
  simp only [closeObject, htype, hproperties]
  rfl

lemma node_listOf (items : Json) (rules : List ListRule) :
    node compile (listOf items rules) = listOf (node compile items) rules := by
  have hnone : ∀ k ∈ structural, (rules.map ListRule.field).lookup k = none := fun k hk =>
    lookup_plain (plain_listRules rules) hk
  refine node_members ?_ ?_ rfl ?_
  · rw [nodeFields_append, nodeFields_listRules, nodeFields_cons (by decide),
      nodeFields_cons (by decide)]
    rfl
  · rw [List.lookup_append, hnone _ (by decide)]
    rfl
  · rw [propertiesOf, List.lookup_append, hnone _ (by decide)]
    rfl

def nullableList (items : Json) (rules : List ListRule) : Json :=
  .obj (("items", items) :: (rules.map ListRule.field ++
    [("type", .arr [.str "array", .str "null"])]))

lemma nullable_listOf (items : Json) (rules : List ListRule) :
    nullableSchema (listOf items rules) = nullableList items rules := by
  have hrules : (rules.map ListRule.field).filter (fun f => f.1 ≠ "type") = rules.map ListRule.field :=
    popField_plain (plain_listRules rules) (by decide)
  have hset : setField ([("type", .str "array"), ("items", items)] ++ rules.map ListRule.field)
      "type" (.arr [.str "array", .str "null"]) =
      ("items", items) :: (rules.map ListRule.field ++
        [("type", .arr [.str "array", .str "null"])]) := by
    rw [setField, List.filter_append, hrules]
    rfl
  rw [nullableList, ← hset]
  rfl

lemma node_nullableList (items : Json) (rules : List ListRule) :
    node compile (nullableList items rules) = nullableList (node compile items) rules := by
  have hnone : ∀ k ∈ structural, (rules.map ListRule.field).lookup k = none := fun k hk =>
    lookup_plain (plain_listRules rules) hk
  have hlookup : ∀ k ∈ structural, k ≠ "items" → (("items", node compile items) ::
      (rules.map ListRule.field ++ [("type", .arr [.str "array", .str "null"])])).lookup k =
      [("type", Json.arr [.str "array", .str "null"])].lookup k := by
    intro k hk hitems
    rw [List.lookup_cons, List.lookup_append, hnone k hk, Option.none_or, beq_eq_false_iff_ne.mpr hitems]
  refine node_members ?_ ?_ ?_ ?_
  · rw [nodeFields_cons (by decide), nodeFields_append, nodeFields_listRules]
    rfl
  · rw [hlookup _ (by decide) (by decide)]
    rfl
  · rw [isObjectType, hlookup _ (by decide) (by decide)]
    rfl
  · rw [propertiesOf, hlookup _ (by decide) (by decide)]
    rfl

lemma node_anyVariant (variants : List Json) :
    node compile (anyVariant variants notes) = anyVariant (variants.map (node compile)) notes := by
  refine node_members ?_ ?_ ?_ ?_
  · rw [nodeFields_append, nodeFields_notes, nodeFields_cons (by decide), node, nodeItems_eq]
    rfl
  · rw [lookup_notes_append (by decide)]
    rfl
  · rw [isObjectType, lookup_notes_append (by decide)]
    rfl
  · rw [propertiesOf, lookup_notes_append (by decide)]
    rfl

lemma node_anyOf (schemas : List Json) :
    node compile (anyOf schemas) = anyOf (schemas.map (node compile)) := by
  have h := @node_anyVariant compile [] schemas
  exact h

lemma node_oneOf (variants : List Schema) :
    node compile (Schema.oneOf variants notes).text =
      anyVariant ((variantTexts variants).map (node compile)) notes := by
  have hfields : nodeFields compile (Schema.oneOf variants notes).fields =
      ("oneOf", .arr ((variantTexts variants).map (node compile))) :: notes.map Note.field := by
    rw [Schema.fields, nodeFields_cons (by decide), nodeFields_notes, node, nodeItems_eq]
  have hpop : popField (("oneOf", Json.arr ((variantTexts variants).map (node compile))) ::
      notes.map Note.field) "oneOf" = notes.map Note.field := by
    rw [popField, List.filter_cons_of_neg (by simp)]
    exact popField_plain (plain_notes notes) (by decide)
  have hset : setField (notes.map Note.field) "anyOf"
      (.arr ((variantTexts variants).map (node compile))) =
      notes.map Note.field ++ [("anyOf", .arr ((variantTexts variants).map (node compile)))] := by
    have hkept : (notes.map Note.field).filter (fun f => f.1 ≠ "anyOf") = notes.map Note.field :=
      popField_plain (plain_notes notes) (by decide)
    rw [setField, hkept]
  rw [Schema.text, node, hfields, renamed, List.lookup_cons_self]
  simp only [hpop, hset, closeObject, isObjectType, propertiesOf,
    lookup_notes_append (k := "type") (by decide), lookup_notes_append (k := "properties") (by decide)]
  rfl

lemma node_scalar (type : Option ScalarType) (nullable : Bool) (rules : List ScalarRule) :
    node compile (Schema.scalar type nullable rules).text = (Schema.scalar type nullable rules).text := by
  have hnone : ∀ k ∈ structural, (rules.map ScalarRule.field).lookup k = none := fun k hk =>
    lookup_plain (plain_scalarRules rules) hk
  refine node_members ?_ ?_ ?_ ?_
  · rw [Schema.fields, nodeFields_append, nodeFields_scalarRules]
    cases type <;> cases nullable <;> rfl
  · rw [Schema.fields, List.lookup_append, hnone _ (by decide)]
    cases type <;> cases nullable <;> rfl
  · rw [isObjectType, Schema.fields, List.lookup_append, hnone _ (by decide)]
    rcases type with _ | _ | _ <;> cases nullable <;> rfl
  · rw [propertiesOf, Schema.fields, List.lookup_append, hnone _ (by decide)]
    cases type <;> cases nullable <;> rfl

lemma strictNode_eq (n : Nat) : ∃ compile, strictNode n = node compile := by
  cases n with
  | zero => exact ⟨id, rfl⟩
  | succ n => exact ⟨strictNode n, rfl⟩

lemma settled_obj (s : Schema) : ∃ F, settled s = .obj F := by
  cases s with
  | _ => exact ⟨_, rfl⟩

lemma nullable_obj {j : Json} (h : ∃ F, j = .obj F) : ∃ F, nullableSchema j = .obj F := by
  obtain ⟨F, rfl⟩ := h
  rw [nullableSchema]
  split
  · split_ifs <;> exact ⟨_, rfl⟩
  · split_ifs <;> exact ⟨_, rfl⟩
  · exact ⟨_, rfl⟩

lemma settledProperty_obj (b : Bool) (s : Schema) : ∃ F, settledProperty b s (settled s) = .obj F := by
  rw [settledProperty]
  split_ifs
  · exact settled_obj s
  · exact nullable_obj (settled_obj s)

/-- How a schema is compiled, the first time and again. -/
structure Compiles (s : Schema) (n : Nat) : Prop where
  first : strictNode n s.text = once s
  second : strictNode n (once s) = settled s
  again : strictNode n (settled s) = settled s
  nullable : strictNode n (nullableSchema (settled s)) = settledProperty false s (settled s)
  kept : strictNode n (settledProperty false s (settled s)) = settledProperty false s (settled s)

lemma Compiles.property {s : Schema} {n : Nat} (h : Compiles s n) (b : Bool) :
    strictNode n (settledProperty b s (settled s)) = settledProperty b s (settled s) := by
  cases b
  · exact h.kept
  · exact h.again

lemma Compiles.unless {s : Schema} {n : Nat} (h : Compiles s n) (b : Bool) :
    strictNode n (nullableUnless b (settled s)) = settledProperty b s (settled s) := by
  cases b
  · exact h.nullable
  · exact h.again

def listed (properties : List (String × Schema)) (g : String × Schema → Json) : Fields :=
  properties.map fun p => (p.1, g p)

lemma ordinary_listed {properties : List (String × Schema)} {g : String × Schema → Json}
    (hnames : ∀ p ∈ properties, p.1 ∉ ["oneOf", "allOf", "properties"])
    (hdicts : ∀ p ∈ properties, ∃ F, g p = .obj F) : Ordinary (listed properties g) := by
  intro f hf
  obtain ⟨p, hp, rfl⟩ := List.mem_map.mp hf
  exact ⟨hnames p hp, hdicts p hp⟩

lemma map_listed {properties : List (String × Schema)} {g g' : String × Schema → Json}
    {change : String × Json → Json} (h : ∀ p ∈ properties, change (p.1, g p) = g' p) :
    (listed properties g).map (fun p => (p.1, change p)) = listed properties g' := by
  rw [listed, List.map_map]
  refine List.map_congr_left fun p hp => ?_
  rw [Function.comp_apply, h p hp]

lemma settled_object (properties : List (String × Schema)) (required : Option (List String))
    (closed : Bool) (allOf : Option (List Json)) :
    settled (.object properties required closed allOf notes) = closedObject (listed properties fun p =>
      settledProperty (p.1 ∈ requiredNames required) p.2 (settled p.2)) notes := by
  rw [settled, settledProperties_eq, listed]

lemma settledProperty_isObject {s : Schema} (h : s.isObject) (b : Bool) (j : Json) :
    settledProperty b s j = j := by
  rw [settledProperty, h, Bool.or_true, if_pos rfl]

lemma settledProperty_false {s : Schema} (h : s.isObject = false) (j : Json) :
    settledProperty false s j = nullableSchema j := by
  rw [settledProperty, h, Bool.or_false, if_neg Bool.false_ne_true]

lemma compiles_object {properties : List (String × Schema)} (required : Option (List String))
    (closed : Bool) (allOf : Option (List Json)) {n : Nat}
    (hnames : ∀ p ∈ properties, p.1 ∉ ["oneOf", "allOf", "properties"])
    (hnow : ∀ p ∈ properties, Compiles p.2 (n + 1)) (hbelow : ∀ p ∈ properties, Compiles p.2 n) :
    Compiles (.object properties required closed allOf notes) (n + 1) := by
  have hagain : strictNode (n + 1) (settled (.object properties required closed allOf notes)) =
      settled (.object properties required closed allOf notes) := by
    have hordinary := ordinary_listed hnames fun p _ =>
      settledProperty_obj (p.1 ∈ requiredNames required) p.2
    rw [settled_object, strictNode, node_closedObject hordinary, map_listed]
    intro p hp
    change strictNode n (strictNode (n + 1) _) = _
    rw [(hnow p hp).property, (hbelow p hp).property]
  have hobject : (Schema.object properties required closed allOf notes).isObject = true := rfl
  refine ⟨?_, ?_, hagain, ?_, ?_⟩
  · have hordinary : Ordinary (propertyFields properties) := by
      rw [propertyFields_eq]
      exact ordinary_listed hnames fun p _ => ⟨_, rfl⟩
    rw [strictNode, node_object required closed allOf hordinary, propertyFields_eq]
    refine congrArg (closedObject · notes) ((map_listed fun p hp => ?_).trans rfl)
    change nullableUnless _ (strictNode n (strictNode (n + 1) p.2.text)) = _
    rw [(hnow p hp).first, (hbelow p hp).second]
  · have hordinary := ordinary_listed hnames fun p _ =>
      (show ∃ F, nullableUnless (p.1 ∈ requiredNames required) (settled p.2) = .obj F by
        rw [nullableUnless]
        split_ifs
        · exact settled_obj p.2
        · exact nullable_obj (settled_obj p.2))
    rw [once, settled_object, strictNode]
    refine (node_closedObject hordinary).trans (congrArg (closedObject · notes) (map_listed ?_))
    intro p hp
    change strictNode n (strictNode (n + 1) _) = _
    rw [(hnow p hp).unless, (hbelow p hp).property]
  · have hordinary := ordinary_listed hnames fun p _ =>
      settledProperty_obj (p.1 ∈ requiredNames required) p.2
    rw [settledProperty_isObject hobject, settled_object, strictNode,
      node_nullable_closedObject hordinary, map_listed]
    intro p hp
    change strictNode n (strictNode (n + 1) _) = _
    rw [(hnow p hp).property, (hbelow p hp).property]
  · rw [settledProperty_isObject hobject, hagain]

lemma compiles_list {items : Schema} (rules : List ListRule) {n : Nat} (h : Compiles items n) :
    Compiles (.list items rules) n := by
  obtain ⟨compile, hcompile⟩ := strictNode_eq n
  have hfirst := h.first
  have hsecond := h.second
  have hagain := h.again
  rw [hcompile] at hfirst hsecond hagain
  have hnull : settledProperty false (.list items rules) (settled (.list items rules)) =
      nullableList (settled items) rules := by
    rw [settledProperty_false rfl, settled, nullable_listOf]
  have hkept : node compile (nullableList (settled items) rules) =
      nullableList (settled items) rules := by
    rw [node_nullableList, hagain]
  refine ⟨?_, ?_, ?_, ?_, ?_⟩
  · rw [hcompile]
    exact (node_listOf items.text rules).trans (by rw [hfirst, once])
  · rw [hcompile, once, node_listOf, hsecond, settled]
  · rw [hcompile, settled, node_listOf, hagain]
  · rw [hcompile, hnull, settled, nullable_listOf, hkept]
  · rw [hcompile, hnull, hkept]

lemma nullable_anyVariant (variants : List Json) :
    nullableSchema (anyVariant variants notes) = anyOf [anyVariant variants notes, typeNull] := by
  rw [anyVariant, nullableSchema, lookup_notes_append (by decide)]
  rfl

lemma node_anyOf_null (j : Json) : node compile (anyOf [j, typeNull]) = anyOf [node compile j, typeNull] := by
  rw [node_anyOf]
  rfl

lemma compiles_oneOf {variants : List Schema} {n : Nat} (h : ∀ s ∈ variants, Compiles s n) :
    Compiles (.oneOf variants notes) n := by
  obtain ⟨compile, hcompile⟩ := strictNode_eq n
  have hagain : node compile (settled (.oneOf variants notes)) = settled (.oneOf variants notes) := by
    rw [settled, settledVariants_eq, node_anyVariant, List.map_map]
    refine congrArg (anyVariant · notes) (List.map_congr_left fun s hs => ?_)
    rw [Function.comp_apply, ← hcompile, (h s hs).again]
  have hnull : nullableSchema (settled (.oneOf variants notes)) =
      anyOf [settled (.oneOf variants notes), typeNull] := by
    rw [settled, nullable_anyVariant]
  have hproperty : settledProperty false (.oneOf variants notes) (settled (.oneOf variants notes)) =
      anyOf [settled (.oneOf variants notes), typeNull] := by
    rw [settledProperty_false rfl, hnull]
  refine ⟨?_, ?_, ?_, ?_, ?_⟩
  · rw [hcompile, node_oneOf, once, variantTexts_eq, onceVariants_eq, List.map_map]
    refine congrArg (anyVariant · notes) (List.map_congr_left fun s hs => ?_)
    rw [Function.comp_apply, ← hcompile, (h s hs).first]
  · rw [hcompile, once, settled, onceVariants_eq, settledVariants_eq, node_anyVariant, List.map_map]
    refine congrArg (anyVariant · notes) (List.map_congr_left fun s hs => ?_)
    rw [Function.comp_apply, ← hcompile, (h s hs).second]
  · rw [hcompile, hagain]
  · rw [hcompile, hproperty, hnull, node_anyOf_null, hagain]
  · rw [hcompile, hproperty, node_anyOf_null, hagain]

lemma lookup_scalarRules (rules : List ScalarRule) {k : String} (hk : k ∈ structural) :
    (rules.map ScalarRule.field).lookup k = none :=
  lookup_plain (plain_scalarRules rules) hk

lemma nullable_untyped (nullable : Bool) (rules : List ScalarRule) :
    nullableSchema (Schema.scalar none nullable rules).text =
      anyOf [(Schema.scalar none nullable rules).text, typeNull] := by
  have htype : (Schema.scalar none nullable rules).fields.lookup "type" = none :=
    lookup_scalarRules rules (by decide)
  rw [Schema.text, nullableSchema, htype]

lemma nullable_nullable (type : ScalarType) (rules : List ScalarRule) :
    nullableSchema (Schema.scalar (some type) true rules).text =
      (Schema.scalar (some type) true rules).text := by
  cases type <;> rfl

def typedOrNull (type : ScalarType) (rules : List ScalarRule) : Json :=
  .obj (rules.map ScalarRule.field ++ [("type", .arr [.str type.name, .str "null"])])

lemma nullable_typed (type : ScalarType) (rules : List ScalarRule) :
    nullableSchema (Schema.scalar (some type) false rules).text = typedOrNull type rules := by
  have hrules : (rules.map ScalarRule.field).filter (fun f => f.1 ≠ "type") =
      rules.map ScalarRule.field := popField_plain (plain_scalarRules rules) (by decide)
  have hset : setField (Schema.scalar (some type) false rules).fields "type"
      (.arr [.str type.name, .str "null"]) = rules.map ScalarRule.field ++
        [("type", .arr [.str type.name, .str "null"])] := by
    rw [setField, Schema.fields, List.filter_append, hrules]
    rfl
  rw [typedOrNull, ← hset]
  cases type <;> rfl

lemma node_typedOrNull (type : ScalarType) (rules : List ScalarRule) :
    node compile (typedOrNull type rules) = typedOrNull type rules := by
  refine node_members ?_ ?_ ?_ ?_
  · rw [nodeFields_append, nodeFields_scalarRules, nodeFields_cons (by decide)]
    rfl
  · rw [List.lookup_append, lookup_scalarRules rules (by decide)]
    rfl
  · rw [isObjectType, List.lookup_append, lookup_scalarRules rules (by decide)]
    rfl
  · rw [propertiesOf, List.lookup_append, lookup_scalarRules rules (by decide)]
    rfl

lemma compiles_scalar (type : Option ScalarType) (nullable : Bool) (rules : List ScalarRule) (n : Nat) :
    Compiles (.scalar type nullable rules) n := by
  obtain ⟨compile, hcompile⟩ := strictNode_eq n
  have htext := @node_scalar compile type nullable rules
  have hnull : node compile (nullableSchema (Schema.scalar type nullable rules).text) =
      nullableSchema (Schema.scalar type nullable rules).text := by
    rcases type with _ | type
    · rw [nullable_untyped, node_anyOf_null, htext]
    · cases nullable
      · rw [nullable_typed, node_typedOrNull]
      · rw [nullable_nullable, htext]
  have hproperty : settledProperty false (.scalar type nullable rules)
      (settled (.scalar type nullable rules)) = nullableSchema (Schema.scalar type nullable rules).text := by
    rw [settledProperty_false rfl]
    rfl
  refine ⟨?_, ?_, ?_, ?_, ?_⟩
  · rw [hcompile, htext]
    rfl
  · rw [hcompile]
    exact htext
  · rw [hcompile]
    exact htext
  · rw [hcompile, hproperty]
    exact hnull
  · rw [hcompile, hproperty, hnull]

/-- What a schema is compiled to, within as many levels as it has. -/
theorem compiles (s : Schema) : s.ordinary → ∀ n, s.levels ≤ n → Compiles s n := by
  induction s using Schema.induction with
  | scalar type nullable rules => exact fun _ n _ => compiles_scalar type nullable rules n
  | list items rules ih => exact fun h n hn => compiles_list rules (ih h.1 n hn)
  | object properties required closed allOf notes ih =>
    intro h n hn
    cases n with
    | zero => exact absurd hn (Nat.not_succ_le_zero _)
    | succ n =>
      obtain ⟨-, hnames, hparts⟩ := h
      rw [ordinaryProperties_iff] at hparts
      have hlevel : ∀ p ∈ properties, p.2.levels ≤ n := fun p hp =>
        (levels_property hp).trans (Nat.le_of_succ_le_succ hn)
      exact compiles_object required closed allOf hnames
        (fun p hp => ih p hp (hparts p hp) _ ((hlevel p hp).trans (Nat.le_succ n)))
        fun p hp => ih p hp (hparts p hp) _ (hlevel p hp)
  | oneOf variants notes ih =>
    intro h n hn
    exact compiles_oneOf fun s hs =>
      ih s hs (ordinaryVariants_iff.mp h s hs) n ((levels_variant hs).trans hn)

end NhaTrangLaundry.Worker.StrictSchema
