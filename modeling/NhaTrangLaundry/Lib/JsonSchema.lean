import NhaTrangLaundry.Lib.Json

/-! JSON Schema (draft 2020-12) as a validator reads it: the keywords for types, constants,
numbers, texts, arrays, objects and combinations. Any other keyword is an annotation. -/

namespace NhaTrangLaundry.Lib.JsonSchema

open Json

/-- What a validator leaves to other code: the search for a pattern, and the named formats. -/
structure Outside where
  search : String → String → Bool
  format : String → String → Bool

def elements : Json → List Json
  | .arr xs => xs
  | _ => []

def members : Json → List (String × Json)
  | .obj fields => fields
  | _ => []

def namesIn (j : Json) : List String :=
  (elements j).filterMap fun
    | .str name => some name
    | _ => none

mutual

def equal : Json → Json → Bool
  | .null, .null => true
  | .bool a, .bool b => a = b
  | .int a, .int b => a = b
  | .str a, .str b => a = b
  | .arr xs, .arr ys => equalElements xs ys
  | .obj fs, .obj gs => equalMembers fs gs
  | _, _ => false

def equalElements : List Json → List Json → Bool
  | [], [] => true
  | x :: xs, y :: ys => equal x y && equalElements xs ys
  | _, _ => false

def equalMembers : List (String × Json) → List (String × Json) → Bool
  | [], [] => true
  | (k, v) :: fs, (l, w) :: gs => k = l && equal v w && equalMembers fs gs
  | _, _ => false

end

def same (a b : Json) : Bool := equal (sorted a) (sorted b)

def ofType (x : Json) (name : String) : Bool :=
  match x with
  | .null => name = "null"
  | .bool _ => name = "boolean"
  | .int _ => name = "integer" || name = "number"
  | .str _ => name = "string"
  | .arr _ => name = "array"
  | .obj _ => name = "object"

def typeHolds (v x : Json) : Bool :=
  match v with
  | .str name => ofType x name
  | v => (namesIn v).any (ofType x)

def bounded (holds : Int → Int → Bool) (v : Json) (size : Option Int) : Bool :=
  match v, size with
  | .int bound, some n => holds bound n
  | _, _ => true

def lengthOf : Json → Option Int
  | .str s => some s.length
  | _ => none

def sizeOf : Json → Option Int
  | .arr xs => some xs.length
  | _ => none

def numberOf : Json → Option Int
  | .int n => some n
  | _ => none

def onText (holds : String → String → Bool) (v x : Json) : Bool :=
  match v, x with
  | .str rule, .str s => holds rule s
  | _, _ => true

def allDifferent : List Json → Bool
  | [] => true
  | x :: xs => xs.all (fun y => !same x y) && allDifferent xs

def unique (v x : Json) : Bool :=
  match v with
  | .bool true => allDifferent (elements x)
  | _ => true

/-- The names that the value of `properties` beside a keyword declares. -/
def declared (schema : List (String × Json)) : List String :=
  (members ((schema.lookup "properties").getD .null)).map Prod.fst

/-- A keyword with its value, given how that value reads as a schema, as a list of schemas and as
schemas by name. -/
def keyword (o : Outside) (names : List String) (k : String) (v : Json) (one : Json → Bool)
    (each : List (Json → Bool)) (named : List (String × (Json → Bool))) (x : Json) : Bool :=
  if k = "type" then typeHolds v x
  else if k = "enum" then (elements v).any (same x)
  else if k = "const" then same x v
  else if k = "pattern" then onText o.search v x
  else if k = "format" then onText o.format v x
  else if k = "minLength" then bounded (fun bound n => bound ≤ n) v (lengthOf x)
  else if k = "maxLength" then bounded (fun bound n => n ≤ bound) v (lengthOf x)
  else if k = "minimum" then bounded (fun bound n => bound ≤ n) v (numberOf x)
  else if k = "maximum" then bounded (fun bound n => n ≤ bound) v (numberOf x)
  else if k = "minItems" then bounded (fun bound n => bound ≤ n) v (sizeOf x)
  else if k = "maxItems" then bounded (fun bound n => n ≤ bound) v (sizeOf x)
  else if k = "uniqueItems" then unique v x
  else if k = "items" then (elements x).all one
  else if k = "properties" then
    named.all fun p => ((members x).lookup p.1).all p.2
  else if k = "required" then
    match x with
    | .obj fields => (namesIn v).all fun name => (fields.lookup name).isSome
    | _ => true
  else if k = "additionalProperties" then
    (members x).all fun f => f.1 ∈ names || one f.2
  else if k = "oneOf" then each.countP (· x) = 1
  else if k = "anyOf" then each.any (· x)
  else if k = "allOf" then each.all (· x)
  else true

mutual

def valid (o : Outside) : Json → Json → Bool
  | .bool b => fun _ => b
  | .obj schema => validKeywords o (declared schema) schema
  | _ => fun _ => false

def validKeywords (o : Outside) (names : List String) : List (String × Json) → Json → Bool
  | [] => fun _ => true
  | (k, v) :: rest => fun x =>
    keyword o names k v (valid o v) (validEach o v) (validNamed o v) x &&
      validKeywords o names rest x

def validEach (o : Outside) : Json → List (Json → Bool)
  | .arr schemas => validElements o schemas
  | _ => []

def validElements (o : Outside) : List Json → List (Json → Bool)
  | [] => []
  | s :: schemas => valid o s :: validElements o schemas

def validNamed (o : Outside) : Json → List (String × (Json → Bool))
  | .obj schemas => validMembers o schemas
  | _ => []

def validMembers (o : Outside) : List (String × Json) → List (String × (Json → Bool))
  | [] => []
  | (k, s) :: schemas => (k, valid o s) :: validMembers o schemas

end

lemma equal_iff (a b : Json) : equal a b = true ↔ a = b := by
  induction a using Json.induction generalizing b with
  | null => cases b <;> simp [equal]
  | bool a => cases b <;> simp [equal]
  | int a => cases b <;> simp [equal]
  | str a => cases b <;> simp [equal]
  | arr xs ih =>
    cases b with
    | arr ys =>
      have helements : equalElements xs ys = true ↔ xs = ys := by
        induction xs generalizing ys with
        | nil => cases ys <;> simp [equalElements]
        | cons x xs ihxs =>
          cases ys with
          | nil => simp [equalElements]
          | cons y ys =>
            rw [List.forall_mem_cons] at ih
            rw [equalElements, Bool.and_eq_true, ih.1, ihxs ih.2, List.cons.injEq]
      rw [equal, helements, Json.arr.injEq]
    | _ => simp [equal]
  | obj fs ih =>
    cases b with
    | obj gs =>
      have hmembers : equalMembers fs gs = true ↔ fs = gs := by
        induction fs generalizing gs with
        | nil => cases gs <;> simp [equalMembers]
        | cons f fs ihfs =>
          cases gs with
          | nil => simp [equalMembers]
          | cons g gs =>
            obtain ⟨k, v⟩ := f
            obtain ⟨l, w⟩ := g
            rw [List.forall_mem_cons] at ih
            rw [equalMembers, Bool.and_eq_true, Bool.and_eq_true, decide_eq_true_eq, ih.1, ihfs ih.2,
              List.cons.injEq, Prod.mk.injEq]
      rw [equal, hmembers, Json.obj.injEq]
    | _ => simp [equal]

lemma same_iff {a b : Json} : same a b = true ↔ sorted a = sorted b := equal_iff _ _

section Keywords

variable {o : Outside} {names : List String} {schema : List (String × Json)} {v x : Json}

lemma validElements_eq (schemas : List Json) : validElements o schemas = schemas.map (valid o) := by
  induction schemas with
  | nil => rfl
  | cons s schemas ih => rw [validElements, ih, List.map_cons]

lemma validMembers_eq (schemas : List (String × Json)) :
    validMembers o schemas = schemas.map fun s => (s.1, valid o s.2) := by
  induction schemas with
  | nil => rfl
  | cons s schemas ih => rw [validMembers, ih, List.map_cons]

lemma validEach_eq (v : Json) : validEach o v = (elements v).map (valid o) := by
  cases v <;> simp [validEach, elements, validElements_eq]

lemma validNamed_eq (v : Json) :
    validNamed o v = (members v).map fun s => (s.1, valid o s.2) := by
  cases v <;> simp [validNamed, members, validMembers_eq]

def holds (o : Outside) (names : List String) (f : String × Json) (x : Json) : Bool :=
  keyword o names f.1 f.2 (valid o f.2) ((elements f.2).map (valid o))
    ((members f.2).map fun s => (s.1, valid o s.2)) x

lemma valid_obj : valid o (.obj schema) x = schema.all fun f => holds o (declared schema) f x := by
  rw [valid]
  generalize declared schema = names
  induction schema with
  | nil => rfl
  | cons f schema ih =>
    rw [List.all_cons, ← ih, holds, ← validEach_eq, ← validNamed_eq]
    rfl

lemma holds_type : holds o names ("type", v) x = typeHolds v x := rfl

lemma holds_items : holds o names ("items", v) x = (elements x).all (valid o v) := rfl

lemma holds_properties : holds o names ("properties", v) x =
    (members v).all fun s => ((members x).lookup s.1).all (valid o s.2) := by
  change ((members v).map fun s => (s.1, valid o s.2)).all _ = _
  rw [List.all_map]
  rfl

lemma holds_required {fields : List (String × Json)} : holds o names ("required", v) (.obj fields) =
    (namesIn v).all fun name => (fields.lookup name).isSome := rfl

lemma holds_additionalProperties : holds o names ("additionalProperties", v) x =
    (members x).all fun f => f.1 ∈ names || valid o v f.2 := rfl

lemma holds_oneOf : holds o names ("oneOf", v) x =
    decide (((elements v).countP fun s => valid o s x) = 1) := by
  change decide (((elements v).map (valid o)).countP _ = 1) = _
  rw [List.countP_map]
  rfl

lemma holds_anyOf : holds o names ("anyOf", v) x = (elements v).any fun s => valid o s x := by
  change ((elements v).map (valid o)).any _ = _
  rw [List.any_map]
  rfl

end Keywords

end NhaTrangLaundry.Lib.JsonSchema
