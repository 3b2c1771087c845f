import NhaTrangLaundry.Domain.CancellationMoney
import NhaTrangLaundry.Domain.QuoteDerivation
import NhaTrangLaundry.Lib.Table

/-! The remedy credits of a store beside its quotes and orders: a credit is reserved on a
revision, spent when the revision becomes an order, and voided or issued again when an order
is cancelled. -/

namespace NhaTrangLaundry.Db.RemedyCredits

open Lib Outcome Sorting Table Domain Catalog Canonical Quotes Remedies QuoteComposition
open CancellationMoney

structure RevisionRef where
  quoteId : Uuid
  revision : Nat
deriving DecidableEq

/-- A row of `remedy_credits`; `redeemed` is the revision that spent it. -/
structure CreditRow where
  id : Uuid
  kind : RemedyKind
  amountVnd : Int
  policyVersionId : Uuid
  issuedFromOrderId : Uuid
  issuedAt : Int
  redeemed : Option RevisionRef
  voided : Bool
  reissueOf : Option Uuid
deriving DecidableEq

def CreditRow.state (credit : CreditRow) : CreditState :=
  if credit.voided then .voided else if credit.redeemed.isSome then .spent else .unspent

inductive QuoteLifecycle where
  | open
  | converted
deriving DecidableEq

/-- A row of `quotes` with its revisions, the first one first. -/
structure QuoteRow where
  id : Uuid
  lifecycle : QuoteLifecycle
  revisions : List ImmutableQuoteSnapshot
deriving DecidableEq

def QuoteRow.currentRevision (quote : QuoteRow) : Nat := quote.revisions.length

def QuoteRow.getRevision (quote : QuoteRow) (revision : Nat) : Option ImmutableQuoteSnapshot :=
  if revision = 0 then none else quote.revisions[revision - 1]?

/-- What the credits read of a row of `orders`: its bill, and whether it was cancelled. -/
structure OrderRow where
  id : Uuid
  bill : RevisionRef
  cancelled : Bool
deriving DecidableEq

structure Store where
  credits : List CreditRow
  quotes : List QuoteRow
  orders : List OrderRow
deriving DecidableEq

def Store.empty : Store := ⟨[], [], []⟩

inductive Refusal where
  | raised (e : PyException)
  | quoteIntegrity
  | quoteState (message : String)
  | remedyCreditDropped
  | remedyCreditNotFound
  | remedyCreditAlreadyRedeemed
  | remedyCreditVoided
  | unresolved (reasonCodes : List String)
  | orderState (message : String)
  | money (e : MoneyError)
  | database
deriving DecidableEq

/-- `_refuse_a_silently_dropped_credit`: the new revision carries every credit that its parent
reserved, or says it released it. -/
def refuseASilentlyDroppedCredit (parent snapshot : ImmutableQuoteSnapshot) :
    Except Refusal Unit :=
  if parent.data.adjustments.any isRemedyCredit then do
    let unreadable := Refusal.quoteState "the revision this one replaces is unreadable"
    let reserved ← (reservedRemedyCredits parent).mapError fun _ => unreadable
    let carried ← (reservedRemedyCredits snapshot).mapError fun _ => unreadable
    let released ← (releasedRemedyCreditIds snapshot).mapError fun _ => unreadable
    require (∀ credit ∈ reserved,
      credit.creditId ∈ carried.map RemedyCredit.creditId ∨ credit.creditId ∈ released)
      .remedyCreditDropped
  else .ok ()

/-- Issue a credit: the row that carrying out a proposal writes. -/
structure IssueCommand where
  id : Uuid
  kind : RemedyKind
  amountVnd : Int
  policyVersionId : Uuid
  issuedFromOrderId : Uuid
  issuedAt : Int

def issue (store : Store) (command : IssueCommand) : Except Refusal Store := do
  require (0 < command.amountVnd ∧ command.id ∉ store.credits.map CreditRow.id) .database
  .ok { store with
    credits := store.credits ++ [⟨command.id, command.kind, command.amountVnd,
      command.policyVersionId, command.issuedFromOrderId, command.issuedAt, none, false, none⟩] }

/-- One credit of the bill is spent, under its lock. -/
def spendCredit (bill : RevisionRef) (credits : List CreditRow) (credit : RemedyCredit) :
    Except Refusal (List CreditRow) :=
  match lookup CreditRow.id credits credit.creditId with
  | none => .error .remedyCreditNotFound
  | some row => do
    require (row.voided = false) .remedyCreditVoided
    require (row.redeemed = none) .remedyCreditAlreadyRedeemed
    require (row.amountVnd = credit.amountVnd ∧ row.policyVersionId = credit.policyVersionId)
      .remedyCreditNotFound
    .ok (put CreditRow.id credits { row with redeemed := some bill })

/-- `spend_reserved_remedy_credits`, in the order of the ids. -/
def spendReservedRemedyCredits (credits : List CreditRow) (bill : RevisionRef)
    (snapshot : ImmutableQuoteSnapshot) : Except Refusal (List CreditRow) := do
  let reserved ← (reservedRemedyCredits snapshot).mapError .raised
  (sortBy (fun credit => credit.creditId.int) reserved).foldlM (spendCredit bill) credits

/-- `CreateOrderCommand`; `agreed` is the rest of what the order is checked against: the customer,
the fulfilment mode, the attestation of this revision and no later one, and its validity. -/
structure CreateOrderCommand where
  orderId : Uuid
  bill : RevisionRef
  agreed : Bool

/-- `OrderRepository.create`. -/
def createOrder (store : Store) (command : CreateOrderCommand) : Except Refusal Store :=
  match lookup QuoteRow.id store.quotes command.bill.quoteId with
  | none => .error (.orderState "accepted exact quote is missing, stale, or expired")
  | some quote => do
    require (quote.lifecycle = .open)
      (.orderState "this quote has already been converted into an order")
    match quote.getRevision command.bill.revision with
    | none => .error (.orderState "accepted exact quote is missing, stale, or expired")
    | some snapshot => do
      require (command.agreed = true ∧ snapshot.data.finality = .approvedExact ∧
        snapshot.data.status = .acceptedFinal)
        (.orderState "accepted exact quote is missing, stale, or expired")
      require (command.orderId ∉ store.orders.map OrderRow.id) .database
      let credits ← spendReservedRemedyCredits store.credits command.bill snapshot
      .ok {
        credits
        quotes := put QuoteRow.id store.quotes { quote with lifecycle := .converted }
        orders := store.orders ++ [⟨command.orderId, command.bill, false⟩] }

def issuedFrom (credits : List CreditRow) (orderId : Uuid) : List CreditRow :=
  sortBy (fun credit => [credit.issuedAt, (credit.id.int : Int)]) (credits.filter fun credit =>
    credit.issuedFromOrderId = orderId && credits.all fun r => r.reissueOf ≠ some credit.id)

def spentOn (credits : List CreditRow) (bill : RevisionRef) : List CreditRow :=
  sortBy (fun credit => [credit.issuedAt, (credit.id.int : Int)])
    (credits.filter fun credit => credit.redeemed = some bill)

/-- A cancellation, with what the surroundings answer it: the đồng that can be refunded, which
issuers were cancelled without their refund taking the credit back, and the figures the press
was shown. -/
structure CancelCommand where
  orderId : Uuid
  resolution : Option CustodyResolution
  refundableVnd : Int
  issuerUncovered : Uuid → Bool
  expected : Option CancellationMoneyFigures
  occurredAt : Int
  reissueIds : Uuid → Uuid

def creditFact (credit : CreditRow) (issuerUncovered : Bool) : RemedyCreditFact :=
  ⟨credit.id, credit.kind, credit.amountVnd, credit.state, issuerUncovered⟩

def void (plan : CancellationMoneyPlan) (credit : CreditRow) : CreditRow :=
  if credit.id ∈ plan.voided.map RemedyCreditFact.creditId then { credit with voided := true }
  else credit

def reissue (command : CancelCommand) (original : CreditRow) : CreditRow where
  id := command.reissueIds original.id
  kind := original.kind
  amountVnd := original.amountVnd
  policyVersionId := original.policyVersionId
  issuedFromOrderId := original.issuedFromOrderId
  issuedAt := command.occurredAt
  redeemed := none
  voided := false
  reissueOf := some original.id

/-- The rows that `write_cancellation_credit_moves` leaves. -/
def creditMoves (credits spent : List CreditRow) (plan : CancellationMoneyPlan)
    (command : CancelCommand) : List CreditRow :=
  credits.map (void plan) ++ (spent.filter fun credit =>
    credit.id ∈ plan.reissued.map RemedyCreditFact.creditId).map (reissue command)

def cancelOrder (store : Store) (command : CancelCommand) : Except Refusal Store :=
  match lookup OrderRow.id store.orders command.orderId with
  | none => .error (.orderState "order not found")
  | some order => do
    require (order.cancelled = false) (.orderState "the order is already cancelled")
    let issued := issuedFrom store.credits order.id
    let spent := spentOn store.credits order.bill
    let plan ← (cancellationMoneyPlan command.resolution command.refundableVnd
      (issued.map (creditFact · false))
      (spent.map fun credit => creditFact credit (command.issuerUncovered credit.id))).mapError .money
    (plan.requireAllowed command.expected).mapError .money
    let credits := creditMoves store.credits spent plan command
    require ((credits.map CreditRow.id).Nodup ∧ (credits.filterMap CreditRow.reissueOf).Nodup)
      .database
    .ok { store with
      credits
      orders := put OrderRow.id store.orders { order with cancelled := true } }

section Quotes

variable [Unicodedata]

/-- `QuoteRepository.create_revision`. -/
def createRevision (store : Store) (snapshot : ImmutableQuoteSnapshot)
    (expectedCurrentRevision : Nat) : Except Refusal Store := do
  let verified ← (verifyQuoteSnapshot snapshot).mapError .raised
  require (verified = true) .quoteIntegrity
  require (snapshot.data.revision = expectedCurrentRevision + 1)
    (.quoteState "quote revision must be sequential")
  match expectedCurrentRevision, lookup QuoteRow.id store.quotes snapshot.data.quoteId with
  | 0, some _ => .error .database
  | 0, none => .ok { store with
      quotes := store.quotes ++ [⟨snapshot.data.quoteId, .open, [snapshot]⟩] }
  | _ + 1, none => .error (.quoteState "quote is missing, closed, or stale")
  | _ + 1, some quote => do
    require (quote.lifecycle = .open ∧ quote.currentRevision = expectedCurrentRevision)
      (.quoteState "quote is missing, closed, or stale")
    match quote.getRevision expectedCurrentRevision with
    | none => .error (.quoteState "quote revision is missing")
    | some parent => do
      refuseASilentlyDroppedCredit parent snapshot
      .ok { store with
        quotes := put QuoteRow.id store.quotes
          { quote with revisions := quote.revisions ++ [snapshot] } }

def Failure.refusal : Failure → Refusal
  | .unresolved codes => .unresolved codes
  | .raised e => .raised e

/-- `RemedyCreditRepository.redeem`: a revision that reserves the credit. -/
def redeem (store : Store) (creditId quoteId : Uuid) (expectedCurrentRevision : Nat) :
    Except Refusal Store :=
  match lookup CreditRow.id store.credits creditId, lookup QuoteRow.id store.quotes quoteId with
  | none, _ => .error .remedyCreditNotFound
  | some _, none => .error (.quoteState "quote is missing, closed, or not in this store")
  | some credit, some quote => do
    require (credit.redeemed = none) .remedyCreditAlreadyRedeemed
    require (credit.voided = false) .remedyCreditVoided
    require (quote.lifecycle = .open)
      (.quoteState "quote is missing, closed, or not in this store")
    require (quote.currentRevision = expectedCurrentRevision)
      (.quoteState "quote moved since it was read; read it again")
    match quote.getRevision expectedCurrentRevision with
    | none => .error (.quoteState "quote revision is missing")
    | some priced => do
      let snapshot ← (redeemRemedyCredit priced (priced.data.revision + 1)
        ⟨credit.id, credit.amountVnd, credit.policyVersionId, none⟩).mapError Failure.refusal
      createRevision store snapshot expectedCurrentRevision

/-- A command on the credits, the quotes and the orders; a revision that is priced again,
closed or accepted is any that `create_revision` takes. -/
inductive Command where
  | issue (command : IssueCommand)
  | redeem (creditId quoteId : Uuid) (expectedCurrentRevision : Nat)
  | createRevision (snapshot : ImmutableQuoteSnapshot) (expectedCurrentRevision : Nat)
  | createOrder (command : CreateOrderCommand)
  | cancelOrder (command : CancelCommand)

def attempt (store : Store) : Command → Except Refusal Store
  | .issue command => issue store command
  | .redeem creditId quoteId expected => redeem store creditId quoteId expected
  | .createRevision snapshot expected => createRevision store snapshot expected
  | .createOrder command => createOrder store command
  | .cancelOrder command => cancelOrder store command

/-- A command that is refused is rolled back as a whole. -/
def apply (store : Store) (command : Command) : Store :=
  match attempt store command with
  | .ok store' => store'
  | .error _ => store

def run (store : Store) (commands : List Command) : Store := commands.foldl apply store

end Quotes

end NhaTrangLaundry.Db.RemedyCredits
