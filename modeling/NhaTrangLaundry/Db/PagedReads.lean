import NhaTrangLaundry.Db.ConsentEgress
import NhaTrangLaundry.Domain.Catalog
import NhaTrangLaundry.Lib.Keyset
import NhaTrangLaundry.Lib.Outcome
import NhaTrangLaundry.Lib.Table
import Mathlib.Data.Prod.Lex

/-! The console's paged reads: the board of orders in production, the review log, and
the assistant's history. Instants are microseconds of the UTC clock. -/

namespace NhaTrangLaundry.Db.PagedReads

open Lib Sorting Keyset Outcome Domain.Catalog ConsentEgress

structure BoardOrder where
  id : Uuid
  storeId : Uuid
  productionAcceptedAt : Option Int
  productionReadyAt : Option Int
  commercialStatus : CommercialOrderStatus
  productionStatus : ProductionStatus
  currentPromiseAt : Option Int
  promiseRuleId : Option String
deriving DecidableEq

structure AgentDraft where
  agentRunId : Uuid
  draftText : String
  terminalOutcome : String
  terminalCode : String
  producedAt : Int
deriving DecidableEq

structure DraftReview where
  reviewId : Uuid
  agentRunId : Uuid
  storeId : Uuid
  decision : String
  reasonCode : Option String
  editedText : Option String
  decidedByStaffId : Uuid
  decidedAt : Int
deriving DecidableEq

structure AssistantTurn where
  turnId : Uuid
  storeId : Uuid
  staffUserId : Uuid
  intent : String
  links : String
  reasonCodes : String
  correlationId : String
  createdAt : Int
deriving DecidableEq

/-- The tables the reads are over, with their keys. -/
structure Tables where
  memberships : List (Uuid × Uuid)
  orders : List BoardOrder
  drafts : List AgentDraft
  reviews : List DraftReview
  turns : List AssistantTurn
  orders_key : (orders.map BoardOrder.id).Nodup
  drafts_key : (drafts.map AgentDraft.agentRunId).Nodup
  reviews_key : (reviews.map DraftReview.reviewId).Nodup
  reviews_draft : ∀ r ∈ reviews, r.agentRunId ∈ drafts.map AgentDraft.agentRunId
  turns_key : (turns.map AssistantTurn.turnId).Nodup

inductive ReadError where
  | limitInvalid (message : String)
  | authorizationError (message : String)
deriving DecidableEq

/-- `require_store_membership`. -/
def Tables.isMember (t : Tables) (staff store : Uuid) : Bool := (staff, store) ∈ t.memberships

def shadowReadRoles : List StaffRole := [.ownerAdmin, .opsApprover, .operator, .auditor]

def requireStoreAccess (t : Tables) (principal : StaffPrincipal) (store : Uuid) :
    Except ReadError Unit := do
  require (∃ role ∈ principal.roles, role ∈ shadowReadRoles)
    (.authorizationError "shadow console access is not authorized for this role")
  require (t.isMember principal.staffUserId store = true)
    (.authorizationError "store access is not authorized")

structure BoardRow where
  order : BoardOrder
  dueAt : Int
deriving DecidableEq

def hourMicros : Int := 3600000000

def inProduction (store : Uuid) (o : BoardOrder) : Bool :=
  o.storeId = store && o.productionAcceptedAt.isSome && o.productionStatus ≠ .released &&
    o.commercialStatus ≠ .cancelled

def dueKey (r : BoardRow) : Int ×ₗ Nat := toLex (r.dueAt, r.order.id.int.val)

def acceptedKey (fallbackHours : Int) (r : BoardRow) : Int ×ₗ Nat :=
  toLex (r.dueAt - fallbackHours * hourMicros, r.order.id.int.val)

def promised (store : Uuid) (o : BoardOrder) : Option BoardRow :=
  if inProduction store o then o.currentPromiseAt.map fun promise => ⟨o, promise⟩ else none

def unpromised (store : Uuid) (fallbackHours : Int) (o : BoardOrder) : Option BoardRow :=
  if inProduction store o ∧ o.currentPromiseAt = none then
    o.productionAcceptedAt.map fun accepted => ⟨o, accepted + fallbackHours * hourMicros⟩
  else none

/-- The arm of `_SLA_BOARD_SQL` over the promised orders. -/
def promisedArm (t : Tables) (store : Uuid) (limit : Nat) (after : Option (Int × Uuid)) :
    List BoardRow :=
  (sortBy dueKey ((t.orders.filterMap (promised store)).filter fun r =>
    after.all fun c => decide (toLex (c.1, c.2.int.val) < dueKey r))).take limit

def unpromisedArm (t : Tables) (store : Uuid) (fallbackHours : Int) (limit : Nat)
    (after : Option (Int × Uuid)) : List BoardRow :=
  (sortBy (acceptedKey fallbackHours)
    ((t.orders.filterMap (unpromised store fallbackHours)).filter fun r => after.all fun c =>
      decide (toLex (c.1 - fallbackHours * hourMicros, c.2.int.val) < acceptedKey fallbackHours r))).take
    limit

def slaBoardSql (t : Tables) (store : Uuid) (fallbackHours : Int) (limit : Nat)
    (after : Option (Int × Uuid)) : List BoardRow :=
  (sortBy dueKey (promisedArm t store limit after ++
    unpromisedArm t store fallbackHours limit after)).take limit

def slaBoardMaxLimit : Nat := 200

/-- The rows of `sla_risk_board`; `targetMaxHours` is the policy's. -/
def slaRiskBoard (t : Tables) (principal : StaffPrincipal) (store : Uuid)
    (targetMaxHours : Option Int) (limit : Nat) (after : Option (Int × Uuid)) :
    Except ReadError (List BoardRow) := do
  require (1 ≤ limit ∧ limit ≤ slaBoardMaxLimit)
    (.limitInvalid "the SLA board limit must be between 1 and 200")
  requireStoreAccess t principal store
  .ok (slaBoardSql t store (targetMaxHours.getD 0) limit after)

def boardCursor (r : BoardRow) : Int × Uuid := (r.dueAt, r.order.id)

structure ReviewedDraft where
  review : DraftReview
  draft : AgentDraft
deriving DecidableEq

def reviewedDraft (t : Tables) (r : DraftReview) : Option ReviewedDraft :=
  (Table.lookup AgentDraft.agentRunId t.drafts r.agentRunId).map fun d => ⟨r, d⟩

/-- `d < anchor`, or the same instant and a larger id: the order of the log. -/
def comesAfter (moment : Int) (id : Uuid) (anchor : Int × Uuid) : Bool :=
  moment < anchor.1 || (moment = anchor.1 && anchor.2.int.val < id.int.val)

def newestFirst (moment : Int) (id : Uuid) : Int ×ₗ Nat := toLex (-moment, id.int.val)

def reviewKey (row : ReviewedDraft) : Int ×ₗ Nat := newestFirst row.review.decidedAt row.review.reviewId

def reviewAnchor (t : Tables) (store : Uuid) (before : Option Uuid) :
    Except ReadError (Option (Int × Uuid)) :=
  match before with
  | none => .ok none
  | some id =>
    match t.reviews.find? fun r => r.storeId = store ∧ r.reviewId = id with
    | none => .error (.authorizationError "review log cursor is not visible")
    | some r => .ok (some (r.decidedAt, r.reviewId))

def listReviewedDrafts (t : Tables) (principal : StaffPrincipal) (store : Uuid) (limit : Nat)
    (before : Option Uuid) : Except ReadError (List ReviewedDraft) := do
  require (1 ≤ limit ∧ limit ≤ 200) (.limitInvalid "review log limit must be between 1 and 200")
  requireStoreAccess t principal store
  let anchor ← reviewAnchor t store before
  .ok ((sortBy reviewKey (((t.reviews.filter fun r => r.storeId = store).filterMap
    (reviewedDraft t)).filter fun row =>
      anchor.all (comesAfter row.review.decidedAt row.review.reviewId))).take limit)

def listLimitMax : Nat := 100

def visibleTurn (principal : StaffPrincipal) (store : Uuid) (turn : AssistantTurn) : Bool :=
  turn.storeId = store && (decide (.ownerAdmin ∈ principal.roles) ||
    turn.staffUserId = principal.staffUserId)

def turnKey (turn : AssistantTurn) : Int ×ₗ Nat := newestFirst turn.createdAt turn.turnId

def turnAnchor (t : Tables) (principal : StaffPrincipal) (store : Uuid) (before : Option Uuid) :
    Except ReadError (Option (Int × Uuid)) :=
  match before with
  | none => .ok none
  | some id =>
    match t.turns.find? fun turn => visibleTurn principal store turn ∧ turn.turnId = id with
    | none => .error (.authorizationError "assistant history cursor is not visible")
    | some turn => .ok (some (turn.createdAt, turn.turnId))

def listRecent (t : Tables) (principal : StaffPrincipal) (store : Uuid) (limit : Nat)
    (before : Option Uuid) : Except ReadError (List AssistantTurn) := do
  require (1 ≤ limit ∧ limit ≤ listLimitMax)
    (.limitInvalid "assistant history limit must be between 1 and 100")
  require (t.isMember principal.staffUserId store = true)
    (.authorizationError "store access is not authorized")
  let anchor ← turnAnchor t principal store before
  .ok ((sortBy turnKey ((t.turns.filter (visibleTurn principal store)).filter fun turn =>
    anchor.all (comesAfter turn.createdAt turn.turnId))).take limit)

end NhaTrangLaundry.Db.PagedReads
