import NhaTrangLaundry.Domain.Catalog
import NhaTrangLaundry.Lib.Datetime
import NhaTrangLaundry.Lib.JsonLoads
import NhaTrangLaundry.Lib.Outcome
import NhaTrangLaundry.Lib.Uuid

/-! RFC 8785 canonical documents for immutable business snapshots. -/

namespace NhaTrangLaundry.Domain.Canonical

open Lib Catalog Outcome

/-- The exceptions the domain raises, and those it lets through from the
arithmetic of `datetime` and `decimal`. -/
inductive PyException where
  | canonicalizationError (message : String)
  | quoteSnapshotError (message : String)
  | quoteRevisionParseError (message : String)
  | pricingError (code : ErrorCode)
  | deliveryError (code : ErrorCode)
  | promotionError (code : ErrorCode)
  | valueError (message : String)
  | keyError
  | overflowError
  | decimalError
deriving DecidableEq

/-- `unicodedata.normalize("NFC", ·)`. -/
class Unicodedata where
  nfc : String → String
  nfc_nfc : ∀ s, nfc (nfc s) = nfc s
  nfc_ascii : ∀ s, Text.ascii s → nfc s = s

export Unicodedata (nfc)

@[reducible] def normalizedText : Unicodedata := ⟨id, fun _ => rfl, fun _ _ => rfl⟩

def hashPrefix : String := "JCS-SHA256-V1:"

def volatileHashFields : List String := ["trace_id", "request_received_at", "server_generated_at"]

structure CanonicalDocument where
  canonicalJson : String
  snapshotHash : String
deriving DecidableEq

inductive Key where
  | str (s : String)
  | other

/-- The objects handed to `canonical_document`. A value read by `json.loads` is
`json`; `other` is an object of any type the encoder does not know. -/
inductive Value where
  | document (d : CanonicalDocument)
  | json (j : Json)
  | none
  | bool (b : Bool)
  | enum (v : Value)
  | int (n : Int)
  | str (s : String)
  | uuid (u : Uuid)
  | datetime (d : Datetime)
  | dataclass (fields : List (String × Value))
  | mapping (items : List (Key × Value))
  | seq (items : List Value)
  | other (typeName : String)

variable [Unicodedata]

def members (excludeVolatile : Bool) : List (Key × Except PyException Json) →
    List (String × Json) → Except PyException (List (String × Json))
  | [], normalized => .ok normalized
  | (.other, _) :: _, _ => .error (.canonicalizationError "snapshot object keys must be strings")
  | (.str k, item) :: rest, normalized =>
    if excludeVolatile && nfc k ∈ volatileHashFields then members excludeVolatile rest normalized
    else if nfc k ∈ normalized.map Prod.fst then
      .error (.canonicalizationError "normalized snapshot keys collide")
    else do
      let j ← item
      members excludeVolatile rest (normalized ++ [(nfc k, j)])

def elements : List (Except PyException Json) → Except PyException (List Json)
  | [] => .ok []
  | x :: xs => do
    let j ← x
    let js ← elements xs
    .ok (j :: js)

mutual

/-- `_json_value` of a value read by `json.loads`. -/
def plainValue (excludeVolatile : Bool) : Json → Except PyException Json
  | .null => .ok .null
  | .bool b => .ok (.bool b)
  | .int n => .ok (.int n)
  | .str s => .ok (.str (nfc s))
  | .arr xs => .arr <$> elements (plainElements excludeVolatile xs)
  | .obj fs => .obj <$> members excludeVolatile (plainMembers excludeVolatile fs) []

def plainElements (excludeVolatile : Bool) : List Json → List (Except PyException Json)
  | [] => []
  | x :: xs => plainValue excludeVolatile x :: plainElements excludeVolatile xs

def plainMembers (excludeVolatile : Bool) :
    List (String × Json) → List (Key × Except PyException Json)
  | [] => []
  | (k, v) :: fs => (.str k, plainValue excludeVolatile v) :: plainMembers excludeVolatile fs

end

def dataclassMembers (excludeVolatile : Bool) : List (String × Except PyException Json) →
    Except PyException (List (String × Json))
  | [] => .ok []
  | (name, item) :: rest =>
    if excludeVolatile && name ∈ volatileHashFields then dataclassMembers excludeVolatile rest
    else do
      let j ← item
      let js ← dataclassMembers excludeVolatile rest
      .ok ((name, j) :: js)

mutual

def jsonValue (excludeVolatile : Bool) : Value → Except PyException Json
  | .document d =>
    match Json.loads d.canonicalJson with
    | some parsed => plainValue false parsed
    | none => .error (.valueError "canonical bytes are not JSON")
  | .json j => plainValue excludeVolatile j
  | .none => .ok .null
  | .bool b => .ok (.bool b)
  | .enum v => jsonValue excludeVolatile v
  | .int n => .ok (.int n)
  | .str s => .ok (.str (nfc s))
  | .uuid u => .ok (.str u.str)
  | .datetime d =>
    if d.aware then
      match d.momentText with
      | some s => .ok (.str s)
      | none => .error .overflowError
    else .error (.canonicalizationError "snapshot timestamps must be timezone-aware")
  | .dataclass fields => .obj <$> dataclassMembers excludeVolatile (valueFields excludeVolatile fields)
  | .mapping items => .obj <$> members excludeVolatile (valueMembers excludeVolatile items) []
  | .seq items => .arr <$> elements (valueElements excludeVolatile items)
  | .other t => .error (.canonicalizationError ("unsupported snapshot value type: " ++ t))

def valueElements (excludeVolatile : Bool) : List Value → List (Except PyException Json)
  | [] => []
  | x :: xs => jsonValue excludeVolatile x :: valueElements excludeVolatile xs

def valueMembers (excludeVolatile : Bool) :
    List (Key × Value) → List (Key × Except PyException Json)
  | [] => []
  | (k, v) :: items => (k, jsonValue excludeVolatile v) :: valueMembers excludeVolatile items

def valueFields (excludeVolatile : Bool) :
    List (String × Value) → List (String × Except PyException Json)
  | [] => []
  | (k, v) :: fs => (k, jsonValue excludeVolatile v) :: valueFields excludeVolatile fs

end

def invalidInput : PyException :=
  .canonicalizationError "value is not valid JCS-SHA256-V1 input"

def documentOf (canonical : String) : CanonicalDocument :=
  ⟨canonical, hashPrefix ++ Hashing.sha256 canonical⟩

/-- `canonical_document`; of the exceptions below it, those that are not a
`ValueError` or a `TypeError` pass through. -/
def canonicalDocument (value : Value) (excludeVolatile : Bool) :
    Except PyException CanonicalDocument :=
  match jsonValue excludeVolatile value with
  | .ok normalized =>
    match Json.dumps normalized with
    | some canonical => .ok (documentOf canonical)
    | none => .error invalidInput
  | .error .overflowError => .error .overflowError
  | .error _ => .error invalidInput

def canonicalDocumentFromBytes (payload : String) : Except PyException CanonicalDocument :=
  match Json.loads payload with
  | none => .error (.canonicalizationError "stored snapshot is not JSON")
  | some parsed => do
    let rebuilt ← canonicalDocument (.json parsed) false
    if rebuilt.canonicalJson = payload then .ok rebuilt
    else .error (.canonicalizationError "stored snapshot bytes are not canonical")

def verifyCanonicalDocument (document : CanonicalDocument) : Bool :=
  match canonicalDocumentFromBytes document.canonicalJson with
  | .ok rebuilt => rebuilt.canonicalJson = document.canonicalJson &&
      rebuilt.snapshotHash = document.snapshotHash
  | .error _ => false

end NhaTrangLaundry.Domain.Canonical
