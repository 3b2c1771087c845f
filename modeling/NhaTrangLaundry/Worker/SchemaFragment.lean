import NhaTrangLaundry.Worker.StrictSchema
import Mathlib.Order.Lattice

/-! The schemas of the registry: scalars, lists, objects with required and optional properties,
and unions of objects, nested to any depth. -/

namespace NhaTrangLaundry.Worker.StrictSchema

open Lib Json JsonSchema

inductive ScalarType where
  | string
  | integer

def ScalarType.name : ScalarType → String
  | .string => "string"
  | .integer => "integer"

inductive Note where
  | title (text : String)
  | description (text : String)

def Note.field : Note → String × Json
  | .title text => ("title", .str text)
  | .description text => ("description", .str text)

inductive ScalarRule where
  | note (note : Note)
  | pattern (regex : String)
  | format (name : String)
  | const (value : String)
  /-- `none` is the null among the values. -/
  | enum (values : List (Option String))
  | minLength (bound : Nat)
  | maxLength (bound : Nat)
  | minimum (bound : Int)
  | maximum (bound : Int)

def enumValue : Option String → Json
  | none => .null
  | some value => .str value

def ScalarRule.field : ScalarRule → String × Json
  | .note n => n.field
  | .pattern regex => ("pattern", .str regex)
  | .format name => ("format", .str name)
  | .const value => ("const", .str value)
  | .enum values => ("enum", .arr (values.map enumValue))
  | .minLength bound => ("minLength", .int bound)
  | .maxLength bound => ("maxLength", .int bound)
  | .minimum bound => ("minimum", .int bound)
  | .maximum bound => ("maximum", .int bound)

inductive ListRule where
  | note (note : Note)
  | minItems (bound : Nat)
  | maxItems (bound : Nat)
  | uniqueItems

def ListRule.field : ListRule → String × Json
  | .note n => n.field
  | .minItems bound => ("minItems", .int bound)
  | .maxItems bound => ("maxItems", .int bound)
  | .uniqueItems => ("uniqueItems", .bool true)

inductive Schema where
  | scalar (type : Option ScalarType) (nullable : Bool) (rules : List ScalarRule)
  | list (items : Schema) (rules : List ListRule)
  /-- `allOf` holds conditions across the properties. -/
  | object (properties : List (String × Schema)) (required : Option (List String)) (closed : Bool)
      (allOf : Option (List Json)) (notes : List Note)
  | oneOf (variants : List Schema) (notes : List Note)

namespace Schema

/-- Induction over a schema with the hypothesis for every part of it. -/
@[elab_as_elim]
theorem induction {P : Schema → Prop}
    (scalar : ∀ type nullable rules, P (.scalar type nullable rules))
    (list : ∀ items rules, P items → P (.list items rules))
    (object : ∀ properties required closed allOf notes, (∀ p ∈ properties, P p.2) →
      P (.object properties required closed allOf notes))
    (oneOf : ∀ variants notes, (∀ v ∈ variants, P v) → P (.oneOf variants notes)) (s : Schema) :
    P s := by
  refine @Schema.rec P (fun ps => ∀ p ∈ ps, P p.2) (fun vs => ∀ v ∈ vs, P v) (fun p => P p.2)
    scalar list object oneOf ?_ ?_ ?_ ?_ ?_ s
  · simp
  · intro p ps hp hps
    simpa using ⟨hp, fun k v hk => hps (k, v) hk⟩
  · simp
  · intro v vs hv hvs
    simpa using ⟨hv, hvs⟩
  · intro k v hv
    exact hv

def typeFields : Option ScalarType → Bool → Fields
  | none, _ => []
  | some type, false => [("type", .str type.name)]
  | some type, true => [("type", .arr [.str type.name, .str "null"])]

def requiredFields : Option (List String) → Fields
  | none => []
  | some names => [("required", .arr (names.map .str))]

def closedFields : Bool → Fields
  | false => []
  | true => [("additionalProperties", .bool false)]

def allOfFields : Option (List Json) → Fields
  | none => []
  | some conditions => [("allOf", .arr conditions)]

mutual

def fields : Schema → Fields
  | .scalar type nullable rules => typeFields type nullable ++ rules.map ScalarRule.field
  | .list items rules =>
    [("type", .str "array"), ("items", .obj (fields items))] ++ rules.map ListRule.field
  | .object properties required closed allOf notes =>
    [("type", .str "object"), ("properties", .obj (propertyFields properties))] ++
      requiredFields required ++ closedFields closed ++ allOfFields allOf ++ notes.map Note.field
  | .oneOf variants notes => ("oneOf", .arr (variantTexts variants)) :: notes.map Note.field

def propertyFields : List (String × Schema) → Fields
  | [] => []
  | (name, s) :: properties => (name, .obj (fields s)) :: propertyFields properties

def variantTexts : List Schema → List Json
  | [] => []
  | s :: variants => .obj (fields s) :: variantTexts variants

end

def text (s : Schema) : Json := .obj s.fields

def requiredNames (required : Option (List String)) : List String := required.getD []

mutual

def levels : Schema → Nat
  | .scalar _ _ _ => 0
  | .list items _ => levels items
  | .object properties _ _ _ _ => levelsOfProperties properties + 1
  | .oneOf variants _ => levelsOfVariants variants

def levelsOfProperties : List (String × Schema) → Nat
  | [] => 0
  | (_, s) :: properties => max (levels s) (levelsOfProperties properties)

def levelsOfVariants : List Schema → Nat
  | [] => 0
  | s :: variants => max (levels s) (levelsOfVariants variants)

end

/-- An object as it is compiled: closed, with every property required. -/
def closedObject (properties : Fields) (notes : List Note) : Json :=
  .obj (notes.map Note.field ++ [("type", .str "object"), ("properties", .obj properties),
    ("required", .arr (properties.map fun p => .str p.1)), ("additionalProperties", .bool false)])

def listOf (items : Json) (rules : List ListRule) : Json :=
  .obj ([("type", .str "array"), ("items", items)] ++ rules.map ListRule.field)

def anyVariant (variants : List Json) (notes : List Note) : Json :=
  .obj (notes.map Note.field ++ [("anyOf", .arr variants)])

def isObject : Schema → Bool
  | .object _ _ _ _ _ => true
  | _ => false

/-- A compiled property: an optional object is compiled a second time, and its null is lost. -/
def settledProperty (required : Bool) (s : Schema) (compiled : Json) : Json :=
  if required || s.isObject then compiled else nullableSchema compiled

mutual

def settled : Schema → Json
  | .scalar type nullable rules => .obj (typeFields type nullable ++ rules.map ScalarRule.field)
  | .list items rules => listOf (settled items) rules
  | .object properties required _ _ notes =>
    closedObject (settledProperties (requiredNames required) properties) notes
  | .oneOf variants notes => anyVariant (settledVariants variants) notes

def settledProperties (required : List String) : List (String × Schema) → Fields
  | [] => []
  | (name, s) :: properties =>
    (name, settledProperty (name ∈ required) s (settled s)) :: settledProperties required properties

def settledVariants : List Schema → List Json
  | [] => []
  | s :: variants => settled s :: settledVariants variants

end

def nullableUnless (required : Bool) (compiled : Json) : Json :=
  if required then compiled else nullableSchema compiled

mutual

def once : Schema → Json
  | .scalar type nullable rules => .obj (typeFields type nullable ++ rules.map ScalarRule.field)
  | .list items rules => listOf (once items) rules
  | .object properties required _ _ notes =>
    closedObject (properties.map fun p =>
      (p.1, nullableUnless (p.1 ∈ requiredNames required) (settled p.2))) notes
  | .oneOf variants notes => anyVariant (onceVariants variants) notes

def onceVariants : List Schema → List Json
  | [] => []
  | s :: variants => once s :: onceVariants variants

end

mutual

/-- No property is called like a keyword that a compilation looks for, no name is given twice, and
only scalars are compared with one another. -/
def ordinary : Schema → Prop
  | .scalar _ _ _ => True
  | .list items rules => ordinary items ∧ (.uniqueItems ∈ rules → ∃ t n r, items = .scalar t n r)
  | .object properties _ _ _ _ =>
    (properties.map Prod.fst).Nodup ∧
      (∀ p ∈ properties, p.1 ∉ ["oneOf", "allOf", "properties"]) ∧ ordinaryProperties properties
  | .oneOf variants _ => ordinaryVariants variants

def ordinaryProperties : List (String × Schema) → Prop
  | [] => True
  | (_, s) :: properties => ordinary s ∧ ordinaryProperties properties

def ordinaryVariants : List Schema → Prop
  | [] => True
  | s :: variants => ordinary s ∧ ordinaryVariants variants

end

variable {properties : List (String × Schema)} {variants : List Schema} {required : List String}

lemma propertyFields_eq : propertyFields properties = properties.map fun p => (p.1, p.2.text) := by
  induction properties with
  | nil => rfl
  | cons p properties ih => rw [propertyFields, ih, List.map_cons, text]

lemma variantTexts_eq : variantTexts variants = variants.map text := by
  induction variants with
  | nil => rfl
  | cons s variants ih => rw [variantTexts, ih, List.map_cons, text]

lemma settledProperties_eq : settledProperties required properties = properties.map fun p =>
    (p.1, settledProperty (p.1 ∈ required) p.2 (settled p.2)) := by
  induction properties with
  | nil => rfl
  | cons p properties ih => rw [settledProperties, ih, List.map_cons]

lemma settledVariants_eq : settledVariants variants = variants.map settled := by
  induction variants with
  | nil => rfl
  | cons s variants ih => rw [settledVariants, ih, List.map_cons]

lemma onceVariants_eq : onceVariants variants = variants.map once := by
  induction variants with
  | nil => rfl
  | cons s variants ih => rw [onceVariants, ih, List.map_cons]

lemma ordinaryProperties_iff : ordinaryProperties properties ↔ ∀ p ∈ properties, ordinary p.2 := by
  induction properties with
  | nil => simp [ordinaryProperties]
  | cons p properties ih => rw [ordinaryProperties, ih, List.forall_mem_cons]

lemma ordinaryVariants_iff : ordinaryVariants variants ↔ ∀ s ∈ variants, ordinary s := by
  induction variants with
  | nil => simp [ordinaryVariants]
  | cons s variants ih => rw [ordinaryVariants, ih, List.forall_mem_cons]

lemma levels_property {p : String × Schema} (h : p ∈ properties) :
    levels p.2 ≤ levelsOfProperties properties := by
  induction properties with
  | nil => cases h
  | cons q properties ih =>
    rw [levelsOfProperties]
    rcases List.mem_cons.mp h with rfl | h
    · exact le_max_left _ _
    · exact (ih h).trans (le_max_right _ _)

lemma levels_variant {s : Schema} (h : s ∈ variants) : levels s ≤ levelsOfVariants variants := by
  induction variants with
  | nil => cases h
  | cons t variants ih =>
    rw [levelsOfVariants]
    rcases List.mem_cons.mp h with rfl | h
    · exact le_max_left _ _
    · exact (ih h).trans (le_max_right _ _)

end Schema

end NhaTrangLaundry.Worker.StrictSchema
