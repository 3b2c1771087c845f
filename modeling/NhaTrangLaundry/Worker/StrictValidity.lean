import NhaTrangLaundry.Worker.StrictForms

/-! What is valid under a schema of the registry, and under what it is compiled to. -/

namespace NhaTrangLaundry.Worker.StrictSchema

open Lib Json JsonSchema Schema

variable {o : Outside} {names : List String} {notes : List Note} {x : Json}

def isList : Json → Bool
  | .arr _ => true
  | _ => false

def isDict : Json → Bool
  | .obj _ => true
  | _ => false

lemma holds_notes (notes : List Note) (x : Json) :
    (notes.map Note.field).all (fun f => holds o names f x) = true := by
  rw [List.all_map, List.all_eq_true]
  intro n _
  cases n <;> rfl

lemma holds_listRule (r : ListRule) (names' : List String) :
    holds o names r.field x = holds o names' r.field x := by
  cases r with
  | note n => cases n <;> rfl
  | _ => rfl

lemma holds_scalarRule (r : ScalarRule) (names' : List String) :
    holds o names r.field x = holds o names' r.field x := by
  cases r with
  | note n => cases n <;> rfl
  | _ => rfl

def listRuleHolds (o : Outside) (r : ListRule) (x : Json) : Bool := holds o [] r.field x

def scalarRuleHolds (o : Outside) (r : ScalarRule) (x : Json) : Bool := holds o [] r.field x

lemma holds_listRules (rules : List ListRule) :
    (rules.map ListRule.field).all (fun f => holds o names f x) =
      rules.all fun r => listRuleHolds o r x := by
  rw [List.all_map]
  exact congrArg rules.all (funext fun r => holds_listRule r [])

lemma holds_scalarRules (rules : List ScalarRule) :
    (rules.map ScalarRule.field).all (fun f => holds o names f x) =
      rules.all fun r => scalarRuleHolds o r x := by
  rw [List.all_map]
  exact congrArg rules.all (funext fun r => holds_scalarRule r [])

lemma typeHolds_list : typeHolds (.str "array") x = isList x := by
  cases x <;> rfl

lemma typeHolds_dict : typeHolds (.str "object") x = isDict x := by
  cases x <;> rfl

lemma typeHolds_orNull (name : String) : typeHolds (.arr [.str name, .str "null"]) x =
    (ofType x name || ofType x "null") := by
  change (ofType x name || (ofType x "null" || false)) = _
  rw [Bool.or_false]

lemma ofType_null : ofType x "null" = true ↔ x = .null := by
  cases x <;> simp [ofType]

lemma valid_listOf (items : Json) (rules : List ListRule) : valid o (listOf items rules) x =
    (isList x && ((elements x).all (valid o items) && rules.all fun r => listRuleHolds o r x)) := by
  rw [listOf, valid_obj, List.all_append, holds_listRules, List.all_cons, List.all_cons,
    List.all_nil, holds_type, holds_items, typeHolds_list, Bool.and_true, Bool.and_assoc]

lemma valid_nullableList (items : Json) (rules : List ListRule) :
    valid o (nullableList items rules) x =
      ((elements x).all (valid o items) && ((rules.all fun r => listRuleHolds o r x) &&
        (isList x || ofType x "null"))) := by
  rw [nullableList, valid_obj, List.all_cons, List.all_append, holds_listRules, List.all_cons,
    List.all_nil, holds_type, holds_items, typeHolds_orNull, Bool.and_true]
  cases x <;> rfl

lemma valid_anyVariant (variants : List Json) :
    valid o (anyVariant variants notes) x = variants.any fun v => valid o v x := by
  rw [anyVariant, valid_obj, List.all_append, holds_notes, List.all_cons, List.all_nil, holds_anyOf,
    Bool.true_and, Bool.and_true]
  rfl

lemma valid_oneOf (variants : List Schema) : valid o (Schema.oneOf variants notes).text x =
    decide ((variants.countP fun s => valid o s.text x) = 1) := by
  rw [Schema.text, Schema.fields, valid_obj, List.all_cons, holds_notes, holds_oneOf, Bool.and_true,
    elements, variantTexts_eq, List.countP_map]
  rfl

lemma valid_typeNull : valid o typeNull x = ofType x "null" := by
  rw [typeNull, valid_obj, List.all_cons, List.all_nil, holds_type, Bool.and_true]
  rfl

lemma valid_anyOf_null (j : Json) : valid o (anyOf [j, typeNull]) x =
    (valid o j x || ofType x "null") := by
  have h := @valid_anyVariant o [] x [j, typeNull]
  rw [List.any_cons, List.any_cons, List.any_nil, Bool.or_false, valid_typeNull] at h
  exact h

lemma declared_closing (F : Fields) (P : Fields) (h : F.lookup "properties" = some (.obj P)) :
    declared F = P.map Prod.fst := by
  rw [declared, h]
  rfl

lemma valid_closedObject (P : Fields) : valid o (closedObject P notes) x = true ↔
    ∃ F, x = .obj F ∧ (∀ p ∈ P, ∃ y, F.lookup p.1 = some y ∧ valid o p.2 y = true) ∧
      ∀ f ∈ F, f.1 ∈ P.map Prod.fst := by
  have hdeclared : declared (notes.map Note.field ++ closing (.str "object") (.obj P)
      (P.map Prod.fst)) = P.map Prod.fst :=
    declared_closing _ P (lookup_notes_append (by decide) _)
  rw [closedObject_eq, valid_obj, hdeclared, List.all_append, holds_notes, closing]
  simp only [List.all_cons, List.all_nil, Bool.and_true, Bool.true_and, Bool.and_eq_true, holds_type,
    typeHolds_dict, holds_properties]
  cases x with
  | obj F =>
    rw [holds_required, namesIn_names, holds_additionalProperties]
    simp only [isDict, members, List.all_eq_true, true_and, List.mem_map, forall_exists_index, and_imp,
      forall_apply_eq_imp_iff₂, valid, Bool.or_false, decide_eq_true_eq, Json.obj.injEq,
      exists_eq_left']
    constructor
    · rintro ⟨hvalid, hpresent, hknown⟩
      refine ⟨fun p hp => ?_, hknown⟩
      obtain ⟨y, hy⟩ := Option.isSome_iff_exists.mp (hpresent p hp)
      have hy' := hvalid p hp
      rw [hy] at hy'
      exact ⟨y, hy, hy'⟩
    · rintro ⟨hall, hknown⟩
      refine ⟨fun p hp => ?_, fun p hp => ?_, hknown⟩
      · obtain ⟨y, hy, hvalid⟩ := hall p hp
        rw [hy]
        exact hvalid
      · obtain ⟨y, hy, -⟩ := hall p hp
        rw [hy]
        rfl
  | _ => simp [isDict]

lemma valid_object {properties : List (String × Schema)} {required : Option (List String)}
    {closed : Bool} {allOf : Option (List Json)}
    (h : valid o (Schema.object properties required closed allOf notes).text x = true) :
    ∃ F, x = .obj F ∧
      (∀ p ∈ properties, ∀ y, F.lookup p.1 = some y → valid o p.2.text y = true) ∧
      (∀ name ∈ requiredNames required, ∃ y, F.lookup name = some y) ∧
      (closed = true → ∀ f ∈ F, f.1 ∈ properties.map Prod.fst) := by
  have hlookup : (Schema.object properties required closed allOf notes).fields.lookup "properties" =
      some (.obj (propertyFields properties)) := rfl
  rw [Schema.text, valid_obj, declared_closing _ _ hlookup, propertyFields_eq, List.all_eq_true] at h
  have hmem : ∀ f ∈ [("type", Json.str "object"), ("properties", .obj (propertyFields properties))] ++
      requiredFields required ++ closedFields closed,
      f ∈ (Schema.object properties required closed allOf notes).fields := fun f hf =>
    List.mem_append_left _ (List.mem_append_left _ hf)
  have htype := h _ (hmem ("type", .str "object") (by simp))
  rw [holds_type, typeHolds_dict] at htype
  cases x with
  | obj F =>
    refine ⟨F, rfl, fun p hp y hy => ?_, fun name hname => ?_, fun hclosed f hf => ?_⟩
    · have hproperties := h _ (hmem ("properties", .obj (propertyFields properties)) (by simp))
      rw [holds_properties, members, propertyFields_eq, List.all_eq_true] at hproperties
      have hvalid := hproperties _ (List.mem_map_of_mem hp)
      rw [members, hy] at hvalid
      exact hvalid
    · cases required with
      | none => cases hname
      | some names =>
        have hrequired := h _ (hmem ("required", .arr (names.map .str)) (by simp [requiredFields]))
        rw [holds_required, namesIn_names, List.all_eq_true] at hrequired
        exact Option.isSome_iff_exists.mp (hrequired name hname)
    · subst hclosed
      have hknown := h _ (hmem ("additionalProperties", .bool false) (by simp [closedFields]))
      rw [holds_additionalProperties, members, List.all_eq_true] at hknown
      have hf' := hknown f hf
      rw [valid, Bool.or_false, decide_eq_true_eq, List.map_map] at hf'
      exact hf'
  | _ => cases htype

lemma valid_scalar_typed (type : ScalarType) (rules : List ScalarRule) :
    valid o (Schema.scalar (some type) false rules).text x =
      (ofType x type.name && rules.all fun r => scalarRuleHolds o r x) := by
  rw [Schema.text, Schema.fields, typeFields, List.singleton_append, valid_obj, List.all_cons,
    holds_scalarRules, holds_type, typeHolds]

lemma valid_scalar_nullable (type : ScalarType) (rules : List ScalarRule) :
    valid o (Schema.scalar (some type) true rules).text x =
      ((ofType x type.name || ofType x "null") && rules.all fun r => scalarRuleHolds o r x) := by
  rw [Schema.text, Schema.fields, typeFields, List.singleton_append, valid_obj, List.all_cons,
    holds_scalarRules, holds_type, typeHolds_orNull]

lemma valid_typedOrNull (type : ScalarType) (rules : List ScalarRule) :
    valid o (typedOrNull type rules) x =
      ((rules.all fun r => scalarRuleHolds o r x) && (ofType x type.name || ofType x "null")) := by
  rw [typedOrNull, valid_obj, List.all_append, holds_scalarRules, List.all_cons, List.all_nil,
    holds_type, typeHolds_orNull, Bool.and_true]

def ScalarRule.listsNull : ScalarRule → Bool
  | .const _ => false
  | .enum values => none ∈ values
  | _ => true

/-- An optional property may be given as null. The null of an object is lost within another. -/
def takesNull (inner : Bool) : Schema → Bool
  | .scalar none _ _ => true
  | .scalar (some _) _ rules => rules.all ScalarRule.listsNull
  | .object _ _ _ _ _ => !inner
  | _ => true

lemma scalarRule_null (r : ScalarRule) : scalarRuleHolds o r .null = r.listsNull := by
  cases r with
  | note n => cases n <;> rfl
  | enum values =>
    change (values.map enumValue).any (same .null) = decide (none ∈ values)
    rw [Bool.eq_iff_iff, List.any_map, List.any_eq_true, decide_eq_true_eq]
    constructor
    · rintro ⟨v, hv, hsame⟩
      cases v with
      | none => exact hv
      | some text => cases hsame
    · exact fun h => ⟨none, h, rfl⟩
  | _ => rfl

lemma scalarRules_null (rules : List ScalarRule) :
    (rules.all fun r => scalarRuleHolds o r .null) = rules.all ScalarRule.listsNull :=
  congrArg rules.all (funext scalarRule_null)

lemma listRules_null (rules : List ListRule) :
    (rules.all fun r => listRuleHolds o r .null) = true := by
  rw [List.all_eq_true]
  intro r _
  cases r with
  | note n => cases n <;> rfl
  | _ => rfl

lemma valid_nullableObject (P : Fields) : valid o (nullableObject P notes) x =
    (valid o (closedObject P notes) x || ofType x "null") := by
  have hdeclared : declared (notes.map Note.field ++ closing (.str "object") (.obj P)
      (P.map Prod.fst)) = P.map Prod.fst :=
    declared_closing _ P (lookup_notes_append (by decide) _)
  have hdeclared' : declared (notes.map Note.field ++ [("properties", .obj P),
      ("required", .arr ((P.map Prod.fst).map .str)), ("additionalProperties", .bool false),
      ("type", .arr [.str "object", .str "null"])]) = P.map Prod.fst :=
    declared_closing _ P (lookup_notes_append (by decide) _)
  rw [nullableObject, closedObject_eq, valid_obj, valid_obj, hdeclared, hdeclared', List.all_append,
    List.all_append, holds_notes, closing]
  simp only [List.all_cons, List.all_nil, Bool.and_true, Bool.true_and, holds_type, typeHolds_dict,
    typeHolds_orNull]
  cases x with
  | obj F => simp [ofType, isDict]
  | null =>
    rw [holds_properties, holds_additionalProperties]
    simp [ofType, isDict, members, holds, keyword]
  | _ => simp [ofType, isDict]

lemma valid_nullable (s : Schema) (hx : x ≠ .null) :
    valid o (nullableSchema (settled s)) x = valid o (settled s) x := by
  have hnull : ofType x "null" = false := by
    rw [← Bool.not_eq_true, ofType_null]
    exact hx
  cases s with
  | scalar type nullable rules =>
    rcases type with _ | type
    · exact (congrArg (valid o · x) (nullable_untyped nullable rules)).trans (by
        rw [valid_anyOf_null, hnull, Bool.or_false]
        rfl)
    · cases nullable
      · refine (congrArg (valid o · x) (nullable_typed type rules)).trans ?_
        rw [valid_typedOrNull, hnull, Bool.or_false, Bool.and_comm]
        exact (valid_scalar_typed type rules).symm
      · exact congrArg (valid o · x) (nullable_nullable type rules)
  | list items rules =>
    rw [settled, nullable_listOf, valid_nullableList, valid_listOf, hnull, Bool.or_false]
    cases isList x <;> simp [Bool.and_comm]
  | object properties required closed allOf notes =>
    rw [settled_object, nullable_closedObject, valid_nullableObject, hnull, Bool.or_false]
  | oneOf variants notes =>
    rw [settled, nullable_anyVariant, valid_anyOf_null, hnull, Bool.or_false]

lemma valid_nullable_null (s : Schema) :
    valid o (nullableSchema (settled s)) .null = takesNull false s := by
  cases s with
  | scalar type nullable rules =>
    rcases type with _ | type
    · exact (congrArg (valid o · .null) (nullable_untyped nullable rules)).trans (by
        rw [valid_anyOf_null]
        exact Bool.or_true _)
    · cases nullable
      · refine (congrArg (valid o · .null) (nullable_typed type rules)).trans ?_
        rw [valid_typedOrNull, scalarRules_null, takesNull]
        exact (congrArg _ (Bool.or_true _)).trans (Bool.and_true _)
      · refine (congrArg (valid o · .null) (nullable_nullable type rules)).trans ?_
        rw [valid_scalar_nullable, scalarRules_null, takesNull]
        exact (congrArg (· && _) (Bool.or_true _)).trans (Bool.true_and _)
  | list items rules =>
    rw [settled, nullable_listOf, valid_nullableList, listRules_null]
    rfl
  | object properties required closed allOf notes =>
    rw [settled_object, nullable_closedObject, valid_nullableObject]
    exact Bool.or_true _
  | oneOf variants notes =>
    rw [settled, nullable_anyVariant, valid_anyOf_null]
    exact Bool.or_true _

lemma valid_settledProperty_null (s : Schema) :
    valid o (settledProperty false s (settled s)) .null = takesNull true s := by
  cases s with
  | object properties required closed allOf notes =>
    have hclosed : valid o (closedObject (listed properties fun p =>
        settledProperty (p.1 ∈ requiredNames required) p.2 (settled p.2)) notes) .null = false := by
      rw [← Bool.not_eq_true, valid_closedObject]
      rintro ⟨F, hF, -⟩
      cases hF
    rw [settledProperty_isObject rfl, settled_object, hclosed]
    rfl
  | scalar type nullable rules =>
    rw [settledProperty_false rfl, valid_nullable_null]
    cases type <;> rfl
  | _ => rw [settledProperty_false rfl, valid_nullable_null]; rfl

lemma valid_settledProperty (b : Bool) (s : Schema) (hx : x ≠ .null) :
    valid o (settledProperty b s (settled s)) x = valid o (settled s) x := by
  rw [settledProperty]
  split_ifs
  · rfl
  · exact valid_nullable s hx

end NhaTrangLaundry.Worker.StrictSchema
