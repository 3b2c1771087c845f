import NhaTrangLaundry.Domain.CanonicalForm
import NhaTrangLaundry.Lib.Jsonb

/-! Lifetime logical idempotency records for material commands. -/

namespace NhaTrangLaundry.Db.Idempotency

open Lib Outcome Domain Canonical
open Text (storable)

structure IdempotentCommand where
  scope : String
  key : String
  payload : Value
  occurredAt : Option Datetime

structure IdempotentResult where
  response : Json
  replayed : Bool
  requestHash : String

/-- A row of `command_idempotency_records`. -/
structure IdempotencyRecord where
  scope : String
  idempotencyKey : String
  requestHash : String
  response : Option Json
  createdAt : Datetime
  completedAt : Option Datetime

/-- The records, and everything else the transaction of a command may write. -/
structure Database (W : Type) where
  records : List IdempotencyRecord
  rest : W

inductive Failure (E : Type) where
  | valueError (message : String)
  | canonicalization (e : PyException)
  | hashKeyUnavailable
  | idempotencyConflict
  | idempotencyState (message : String)
  | dataError
  | executor (e : E)

structure Call (W E : Type) where
  command : IdempotentCommand
  executor : W → Except E (W × Value)
  now : Datetime

structure Prepared where
  scope : String
  key : String
  request : CanonicalDocument
  requestHash : String

variable {W E : Type}

def requiredText (value field : String) : Except (Failure E) String := do
  let stripped := Text.strip value
  require (stripped ≠ "" ∧ stripped.toList.length ≤ 300)
    (.valueError (field ++ " must contain 1 to 300 characters"))
  .ok stripped

def requestPrefix : String := "JCS-HMAC-V2:"

def minimumKeyBytes : Nat := 32

def requestDigest (hashKey : List Nat) (canonicalJson : String) : Except (Failure E) String := do
  require (minimumKeyBytes ≤ hashKey.length) .hashKeyUnavailable
  .ok (requestPrefix ++ Hashing.hmacSha256 hashKey canonicalJson)

def names (scope key : String) (row : IdempotencyRecord) : Bool :=
  row.scope = scope && row.idempotencyKey = key

/-- `UPDATE ... WHERE response IS NULL RETURNING scope`. -/
def complete (records : List IdempotencyRecord) (scope key : String) (response : Json)
    (at' : Datetime) : Option (List IdempotencyRecord) :=
  if records.any fun row => names scope key row && row.response.isNone then
    some (records.map fun row =>
      if names scope key row && row.response.isNone then
        { row with response := some response, completedAt := some at' }
      else row)
  else none

/-- The boundary of a transaction: one that raises leaves the state as it was. -/
def atomically (db : Database W) :
    Except (Failure E) (IdempotentResult × Database W) → Except (Failure E) IdempotentResult × Database W
  | .ok (result, db') => (.ok result, db')
  | .error e => (.error e, db)

variable [Unicodedata]

def prepare (hashKey : List Nat) (command : IdempotentCommand) : Except (Failure E) Prepared := do
  let scope ← requiredText command.scope "idempotency scope"
  let key ← requiredText command.key "idempotency key"
  let request ← (canonicalDocument command.payload true).mapError .canonicalization
  let requestHash ← requestDigest hashKey request.canonicalJson
  .ok ⟨scope, key, request, requestHash⟩

/-- The row is already there: its response is the answer to the same request. -/
def replay (p : Prepared) (row : IdempotencyRecord) : Except (Failure E) IdempotentResult := do
  require (row.requestHash = p.requestHash) .idempotencyConflict
  match row.response with
  | some (.obj fields) => .ok ⟨.obj fields, true, p.requestHash⟩
  | _ => .error (.idempotencyState "idempotency result is incomplete or invalid")

/-- The row has just been claimed: the command runs in the same transaction. -/
def commit (p : Prepared) (c : Call W E) (db : Database W) :
    Except (Failure E) (IdempotentResult × Database W) := do
  let occurredAt := c.command.occurredAt.getD c.now
  let claimed := db.records ++ [⟨p.scope, p.key, p.requestHash, none, occurredAt, none⟩]
  let (rest, mapping) ← (c.executor db.rest).mapError .executor
  let document ← (canonicalDocument mapping true).mapError .canonicalization
  match Json.loads document.canonicalJson with
  | some (.obj fields) =>
    match Json.toJsonb document.canonicalJson with
    | none => .error .dataError
    | some stored =>
      match complete claimed p.scope p.key stored occurredAt with
      | none => .error (.idempotencyState "idempotency claim was lost")
      | some records => .ok (⟨.obj fields, false, p.requestHash⟩, ⟨records, rest⟩)
  | _ => .error (.idempotencyState "command result must be a JSON object")

def transaction (p : Prepared) (c : Call W E) (db : Database W) :
    Except (Failure E) (IdempotentResult × Database W) := do
  require (storable p.scope ∧ storable p.key) .dataError
  match db.records.find? (names p.scope p.key) with
  | some row => do
    let result ← replay p row
    .ok (result, db)
  | none => commit p c db

/-- `IdempotencyRepository.execute`: the result, and the state it leaves. -/
def execute (hashKey : List Nat) (db : Database W) (c : Call W E) :
    Except (Failure E) IdempotentResult × Database W :=
  atomically db (do
    let p ← prepare hashKey c.command
    transaction p c db)

def after (hashKey : List Nat) (db : Database W) (calls : List (Call W E)) : Database W :=
  calls.foldl (fun db c => (execute hashKey db c).2) db

end NhaTrangLaundry.Db.Idempotency
