import NhaTrangLaundry.Lib.JsonSchema
import Mathlib.Logic.Function.Basic

/-! The strict form of a tool's schema that the provider is given, and the nulls that a call in
that form has to lose again. A dict that is written keeps its new member at the end: nothing
here reads the order. -/

namespace NhaTrangLaundry.Worker.StrictSchema

open Lib Json JsonSchema

abbrev Fields := List (String × Json)

/-- `fields[k] = v`. -/
def setField (fields : Fields) (k : String) (v : Json) : Fields :=
  fields.filter (fun f => f.1 ≠ k) ++ [(k, v)]

/-- `fields.pop(k, None)`. -/
def popField (fields : Fields) (k : String) : Fields := fields.filter fun f => f.1 ≠ k

def typeNull : Json := .obj [("type", .str "null")]

def isNullName : Json → Bool
  | .str name => name = "null"
  | _ => false

def anyOf (schemas : List Json) : Json := .obj [("anyOf", .arr schemas)]

def nullableSchema : Json → Json
  | .obj fields =>
    match fields.lookup "type" with
    | some (.str rawType) =>
      if rawType = "null" then .obj fields
      else .obj (setField fields "type" (.arr [.str rawType, .str "null"]))
    | some (.arr rawTypes) =>
      if rawTypes.any isNullName then .obj fields else anyOf [.obj fields, typeNull]
    | _ => anyOf [.obj fields, typeNull]
  | schema => anyOf [schema, typeNull]

/-- `d.get("required", [])`: the names of a list. -/
def originallyRequired (fields : Fields) : List String :=
  namesIn ((fields.lookup "required").getD (.arr []))

def isObjectType (fields : Fields) : Bool :=
  match fields.lookup "type" with
  | some (.str name) => name = "object"
  | _ => false

/-- `isinstance(d.get("properties"), dict)`, and the dict. -/
def propertiesOf (fields : Fields) : Option Fields :=
  match fields.lookup "properties" with
  | some (.obj properties) => some properties
  | _ => none

/-- `oneOf` becomes `anyOf`. -/
def renamed (fields : Fields) : Fields :=
  match fields.lookup "oneOf" with
  | some variants => setField (popField fields "oneOf") "anyOf" variants
  | none => fields

/-- The part of `_strict_node` about the properties of an object; `compile` is the function
itself. -/
def closeObject (compile : Json → Json) (fields : Fields) : Fields :=
  if isObjectType fields || (propertiesOf fields).isSome then
    let strictProperties := ((propertiesOf fields).getD []).map fun property =>
      (property.1, if property.1 ∈ originallyRequired fields then compile property.2
        else nullableSchema (compile property.2))
    let result := setField fields "type" (.str "object")
    let result := setField result "properties" (.obj strictProperties)
    let result := setField result "required" (.arr (strictProperties.map fun p => .str p.1))
    setField result "additionalProperties" (.bool false)
  else fields

mutual

/-- `_strict_node`, which compiles what it has compiled once more: `compile` is the function at
the properties of an object. -/
def node (compile : Json → Json) : Json → Json
  | .arr items => .arr (nodeItems compile items)
  | .obj fields => .obj (closeObject compile (renamed (nodeFields compile fields)))
  | raw => raw

def nodeItems (compile : Json → Json) : List Json → List Json
  | [] => []
  | item :: items => node compile item :: nodeItems compile items

def nodeFields (compile : Json → Json) : Fields → Fields
  | [] => []
  | (key, value) :: fields =>
    if key = "allOf" then nodeFields compile fields
    else (key, node compile value) :: nodeFields compile fields

end

/-- `_strict_node`, within objects nested as deep as the number. -/
def strictNode : Nat → Json → Json
  | 0 => node id
  | depth + 1 => node (strictNode depth)

mutual

def depth : Json → Nat
  | .arr items => depthItems items + 1
  | .obj fields => depthFields fields + 1
  | _ => 0

def depthItems : List Json → Nat
  | [] => 0
  | item :: items => max (depth item) (depthItems items)

def depthFields : Fields → Nat
  | [] => 0
  | (_, value) :: fields => max (depth value) (depthFields fields)

end

def isObjectSchema : Json → Bool
  | .obj fields => isObjectType fields || (propertiesOf fields).isSome
  | _ => false

/-- What `_merge_root_object_union` gathers from the variants. -/
structure Merge where
  properties : Fields
  presence : String → Nat
  requiredCount : String → Nat

/-- `properties[name] = schema` where the name is known. -/
def replaceField (fields : Fields) (name : String) (schema : Json) : Fields :=
  fields.map fun f => if f.1 = name then (name, schema) else f

def mergeProperty (required : List String) (m : Merge) (property : String × Json) : Merge where
  properties := match m.properties.lookup property.1 with
    | none => m.properties ++ [property]
    | some known =>
      if same known property.2 then m.properties
      else replaceField m.properties property.1 (anyOf [known, property.2])
  presence := Function.update m.presence property.1 (m.presence property.1 + 1)
  requiredCount :=
    if property.1 ∈ required then
      Function.update m.requiredCount property.1 (m.requiredCount property.1 + 1)
    else m.requiredCount

def mergeVariant (m : Merge) : Json → Merge
  | .obj variant =>
    match (variant.lookup "properties").getD (.obj []) with
    | .obj properties => properties.foldl (mergeProperty (originallyRequired variant)) m
    | _ => m
  | _ => m

def mergeVariants (variants : List Json) : Merge :=
  variants.foldl mergeVariant ⟨[], fun _ => 0, fun _ => 0⟩

def replacedKeys : List String :=
  ["oneOf", "type", "properties", "required", "additionalProperties"]

def mergeRootObjectUnion (raw : Fields) (variants : List Json) : Fields :=
  let m := mergeVariants variants
  raw.filter (fun f => f.1 ∉ replacedKeys) ++
    [("type", .str "object"), ("properties", .obj m.properties),
      ("required", .arr ((m.properties.filter fun p =>
        m.presence p.1 = variants.length ∧ m.requiredCount p.1 = variants.length).map
          fun p => .str p.1)),
      ("additionalProperties", .bool false)]

/-- `raw.get("type") is None`. -/
def typeless (raw : Fields) : Bool :=
  match raw.lookup "type" with
  | none => true
  | some .null => true
  | _ => false

def prepared (schema : Fields) : Fields :=
  let raw := match schema.lookup "oneOf" with
    | some (.arr variants) =>
      if typeless schema && variants.all isObjectSchema then mergeRootObjectUnion schema variants
      else schema
    | _ => schema
  let raw := popField raw "allOf"
  if isObjectType raw && (raw.lookup "properties").isSome then popField raw "oneOf" else raw

def providerStrictSchema (schema : Fields) : Json :=
  let raw := prepared schema
  strictNode (depth (.obj raw)) (.obj raw)

mutual

def dropNullObjectFields : Json → Json
  | .obj fields => .obj (dropNullFields fields)
  | .arr items => .arr (dropNullItems items)
  | value => value

def dropNullFields : Fields → Fields
  | [] => []
  | (_, .null) :: fields => dropNullFields fields
  | (key, item) :: fields => (key, dropNullObjectFields item) :: dropNullFields fields

def dropNullItems : List Json → List Json
  | [] => []
  | item :: items => dropNullObjectFields item :: dropNullItems items

end

end NhaTrangLaundry.Worker.StrictSchema
