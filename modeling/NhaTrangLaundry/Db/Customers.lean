import NhaTrangLaundry.Domain.Customers
import NhaTrangLaundry.Lib.Sorting
import NhaTrangLaundry.Lib.Table
import NhaTrangLaundry.Lib.Uuid

/-! The customer records of the stores, the intakes and orders taken for them, and the job that
erases the records that have been inactive. -/

namespace NhaTrangLaundry.Db.Customers

open Lib Outcome Sorting Table Domain Catalog Canonical Domain.Customers

/-- A phone number on record: what the ciphertext opens to, its digest and its last digits. -/
structure Phone where
  national : String
  digest : String
  last4 : String
deriving DecidableEq

structure Name where
  displayName : String
  nameFolded : String
deriving DecidableEq

structure Personal where
  phone : Option Phone
  name : Option Name
  deliveryAddress : Option String
  note : Option String
deriving DecidableEq

def Personal.erased : Personal := ⟨none, none, none, none⟩

/-- A row of `customers`. -/
structure Customer where
  id : Uuid
  storeId : Uuid
  personal : Personal
  kind : CustomerKind
  marketingConsentAt : Option Int
  marketingWithdrawnAt : Option Int
  lastActivityAt : Int
  erasedAt : Option Int
  erasureReason : Option ErasureReason
  rowVersion : Nat
deriving DecidableEq

def Customer.marketingConsent (c : Customer) : Bool :=
  c.marketingConsentAt.isSome && c.marketingWithdrawnAt.isNone

/-- A row of `customer_links`. -/
structure CustomerLink where
  customerId : Uuid
  storeId : Uuid
  linkKind : LinkKind
  refId : Uuid
deriving DecidableEq

/-- A row of `order_requests`. -/
structure OrderRequest where
  id : Uuid
  storeId : Uuid
  contactBindingId : Uuid
  customerId : Option Uuid
  createdAt : Int
deriving DecidableEq

/-- A row of `orders`. -/
structure Order where
  id : Uuid
  storeId : Uuid
  boundContactId : Uuid
  customerId : Option Uuid
  commercial : CommercialOrderStatus
  createdAt : Int
deriving DecidableEq

/-- `OPEN_ORDERS_SQL_PREDICATE`. -/
def Order.isOpen (o : Order) : Prop := o.commercial ≠ .cancelled ∧ o.commercial ≠ .completed

instance decidableIsOpen (o : Order) : Decidable o.isOpen := inferInstanceAs (Decidable (_ ∧ _))

structure Database where
  customers : List Customer
  links : List CustomerLink
  requests : List OrderRequest
  orders : List Order
  tickets : List (Uuid × Uuid)
  bindings : List Uuid

/-- A run of the retention job: the records it selected and has not come to, and those erased. -/
structure Job where
  asOf : Datetime
  cutoff : Int
  pending : List (Uuid × Uuid × Nat)
  erased : List Uuid

structure World where
  db : Database
  jobs : List Job

inductive Refusal where
  | raised (e : PyException)
  | notFound
  | stale
  | rule (code : CustomerRefusal)
  | noLongerDue
  | foreignKey
  | keyTaken
  | unknownContact
  | noJob
deriving DecidableEq

/-- `_profile`, locked. -/
def profile (db : Database) (storeId customerId : Uuid) : Except Refusal Customer := do
  let c ← ofOption .notFound (lookup Customer.id db.customers customerId)
  require (c.storeId = storeId) .notFound
  .ok c

def customerByDigest (db : Database) (storeId : Uuid) (digest : String) : Option Customer :=
  db.customers.find? fun c => c.storeId = storeId && c.personal.phone.any (·.digest = digest)

/-- `CustomerRepository.create`, with the values as the domain cleaned them. -/
def create (db : Database) (customerId storeId : Uuid) (noticePublished serviceConsent : Bool)
    (phone : Phone) (name : Option Name) (deliveryAddress note : Option String) (kind : CustomerKind)
    (marketingConsent : Bool) (at_ : Int) : Except Refusal Database := do
  require (noticePublished = true) (.rule .privacyNoticeUnpublished)
  require (serviceConsent = true) (.rule .serviceConsentRequired)
  require (customerByDigest db storeId phone.digest = none) (.rule .customerPhoneExists)
  require (lookup Customer.id db.customers customerId = none) .keyTaken
  .ok { db with customers := db.customers ++
    [⟨customerId, storeId, ⟨some phone, name, deliveryAddress, note⟩, kind,
      if marketingConsent then some at_ else none, none, at_, none, none, 1⟩] }

/-- A correction: only the fields provided, each as the domain cleaned it. -/
structure CustomerChanges where
  phone : Option Phone := none
  name : Option (Option Name) := none
  deliveryAddress : Option (Option String) := none
  note : Option (Option String) := none
  kind : Option CustomerKind := none
  marketingConsent : Option Bool := none

def changedPersonal (current : Personal) (changes : CustomerChanges) : Personal where
  phone := match changes.phone with
    | some number => if some number.national = current.phone.map Phone.national then current.phone
      else some number
    | none => current.phone
  name := changes.name.getD current.name
  deliveryAddress := changes.deliveryAddress.getD current.deliveryAddress
  note := changes.note.getD current.note

def corrected (current : Customer) (changes : CustomerChanges) (at_ : Int) : Customer :=
  let consent := marketingChange current.marketingConsent changes.marketingConsent
  { current with
    personal := changedPersonal current.personal changes
    kind := changes.kind.getD current.kind
    marketingConsentAt := if consent = some .given then some at_ else current.marketingConsentAt
    marketingWithdrawnAt := match consent with
      | some .given => none
      | some .withdrawn => some at_
      | none => current.marketingWithdrawnAt }

/-- `CustomerRepository.update`. -/
def update (db : Database) (storeId customerId : Uuid) (expectedRowVersion : Nat)
    (changes : CustomerChanges) (hasAccount : Bool) (at_ : Int) : Except Refusal Database := do
  let current ← profile db storeId customerId
  require (current.erasedAt = none) (.rule .customerErased)
  require (current.rowVersion = expectedRowVersion) .stale
  let next := corrected current changes at_
  require (∀ number ∈ next.personal.phone, next.personal.phone ≠ current.personal.phone →
    ∀ existing ∈ customerByDigest db storeId number.digest, existing.id = customerId)
    (.rule .customerPhoneExists)
  require (next.kind ≠ current.kind → next.kind ≠ .business → hasAccount = false)
    (.rule .customerHasAccount)
  require (next ≠ current) (.rule .nothingToChange)
  let written := { next with rowVersion := current.rowVersion + 1 }
  .ok { db with customers := put Customer.id db.customers written }

def Customer.erase (c : Customer) (reason : ErasureReason) (at_ : Int) : Customer :=
  { c with
    personal := .erased
    erasedAt := some at_
    erasureReason := some reason
    rowVersion := c.rowVersion + 1 }

/-- `_erase`, after its authorisation. -/
def erase (db : Database) (storeId customerId : Uuid) (expectedRowVersion : Nat)
    (reason : ErasureReason) (at_ : Int) : Except Refusal Database := do
  let current ← profile db storeId customerId
  require (current.erasedAt = none) (.rule .customerErased)
  require (current.rowVersion = expectedRowVersion) .stale
  .ok { db with customers := put Customer.id db.customers (current.erase reason at_) }

def storeServedBinding (db : Database) (storeId bindingId : Uuid) : Bool :=
  (db.requests.any fun r => r.storeId = storeId && r.contactBindingId = bindingId) ||
    db.orders.any fun o => o.storeId = storeId && o.boundContactId = bindingId

def referenceKnown (db : Database) (storeId : Uuid) (kind : LinkKind) (refId : Uuid) : Bool :=
  match kind with
  | .counterTicket => db.tickets.any fun ticket => ticket.1 = refId && ticket.2 = storeId
  | .channelBinding => decide (refId ∈ db.bindings) && storeServedBinding db storeId refId

/-- `CustomerRepository.link`. -/
def link (db : Database) (storeId customerId : Uuid) (kind : LinkKind) (refId : Uuid) :
    Except Refusal Database := do
  let current ← profile db storeId customerId
  require (current.erasedAt = none) (.rule .customerErased)
  require (referenceKnown db storeId kind refId = true) (.rule .linkReferenceUnknown)
  require (∀ l ∈ db.links, ¬ (l.linkKind = kind ∧ l.refId = refId)) (.rule .linkExists)
  .ok { db with links := db.links ++ [⟨customerId, storeId, kind, refId⟩] }

/-- `CustomerRepository.touch_for_intake`. -/
def touchForIntake (db : Database) (storeId customerId : Uuid) (at_ : Int) :
    Except Refusal Database := do
  let c ← profile db storeId customerId
  require (c.erasedAt = none) .notFound
  let touched := { c with lastActivityAt := max c.lastActivityAt at_ }
  .ok { db with customers := put Customer.id db.customers touched }

def touchNamed (db : Database) (request : OrderRequest) : Except Refusal Database :=
  match request.customerId with
  | none => .ok db
  | some customerId => touchForIntake db request.storeId customerId request.createdAt

/-- `OrderRequestRepository.create`. -/
def createRequest (db : Database) (request : OrderRequest) : Except Refusal Database := do
  require (∀ r ∈ db.requests, r.id ≠ request.id) .keyTaken
  let db ← touchNamed db request
  .ok { db with requests := db.requests ++ [request] }

/-- `inherit_order_customer`: the customer of the request that the order's quote was priced for. -/
def inheritedCustomer (db : Database) (storeId : Uuid) (requestId : Option Uuid) : Option Uuid :=
  match requestId.bind (lookup OrderRequest.id db.requests) with
  | none => none
  | some request => if request.storeId = storeId then request.customerId else none

/-- `OrderRepository.create`, under a quote priced for a request. -/
def createOrder (db : Database) (orderId storeId boundContactId : Uuid) (requestId : Option Uuid)
    (createdAt : Int) : Except Refusal Database := do
  require ((boundContactId, storeId) ∈ db.tickets ∨ boundContactId ∈ db.bindings) .unknownContact
  require (∀ o ∈ db.orders, o.id ≠ orderId) .keyTaken
  .ok { db with orders := db.orders ++
    [⟨orderId, storeId, boundContactId, inheritedCustomer db storeId requestId, .requested,
      createdAt⟩] }

/-- A commercial move of an order that is not closed. -/
def moveOrder (db : Database) (orderId : Uuid) (commercial : CommercialOrderStatus) :
    Except Refusal Database := do
  let o ← ofOption .notFound (lookup Order.id db.orders orderId)
  require o.isOpen .stale
  .ok { db with orders := put Order.id db.orders { o with commercial } }

def linkedRef (db : Database) (c : Customer) (refId : Uuid) : Prop :=
  ∃ l ∈ db.links, l.customerId = c.id ∧ l.storeId = c.storeId ∧ l.refId = refId

instance decidableLinkedRef (db : Database) (c : Customer) (refId : Uuid) :
    Decidable (linkedRef db c refId) :=
  inferInstanceAs (Decidable (∃ l ∈ db.links, _))

/-- The condition of `RETENTION_DUE_SQL`. -/
def due (db : Database) (cutoff : Int) (c : Customer) : Prop :=
  c.erasedAt = none ∧ c.lastActivityAt ≤ cutoff ∧
    (∀ o ∈ db.orders, o.storeId = c.storeId → cutoff < o.createdAt ∨ o.isOpen →
      ¬ (o.customerId = some c.id ∨ linkedRef db c o.boundContactId)) ∧
    ∀ r ∈ db.requests, r.customerId = some c.id → ¬ cutoff < r.createdAt

instance decidableDue (db : Database) (cutoff : Int) (c : Customer) : Decidable (due db cutoff c) :=
  inferInstanceAs (Decidable (_ ∧ _ ∧ (∀ o ∈ db.orders, _) ∧ ∀ r ∈ db.requests, _))

def retentionBatchMax : Nat := 500

def selectDue (db : Database) (cutoff : Int) (limit : Nat) : List Customer :=
  (sortBy (fun c => [c.lastActivityAt, (c.id.int : Int)])
    (db.customers.filter fun c => due db cutoff c)).take limit

/-- The selection of `run_customer_retention`. -/
def selection (db : Database) (asOf : Datetime) (batch : Nat) : Except Refusal Job := do
  require asOf.aware (.raised (.valueError "retention runs at a timezone-aware instant"))
  require (1 ≤ batch ∧ batch ≤ retentionBatchMax)
    (.raised (.valueError "retention batch must be between 1 and 500"))
  let cutoff ← (retentionCutoff asOf).mapError .raised
  let found := selectDue db cutoff.instant (batch + 1)
  .ok ⟨asOf, cutoff.instant, (found.take batch).map fun c => (c.id, c.storeId, c.rowVersion), []⟩

/-- `dry_run=True`. -/
def dryRun (db : Database) (asOf : Datetime) (batch : Nat) : Except Refusal (List Uuid) := do
  let job ← selection db asOf batch
  .ok (job.pending.map Prod.fst)

/-- One transaction of the job: the record is locked and, if it is still due, erased. -/
def eraseDue (db : Database) (job : Job) (selected : Uuid × Uuid × Nat) :
    Except Refusal Database := do
  require (∃ c ∈ lookup Customer.id db.customers selected.1, due db job.cutoff c) .noLongerDue
  erase db selected.2.1 selected.1 selected.2.2 .retention job.asOf.instant

/-- The job comes to its next record; one that moved is passed over, and any other refusal ends
the job. -/
def advance (db : Database) (job : Job) : Database × Job :=
  match job.pending with
  | [] => (db, job)
  | selected :: pending =>
    match eraseDue db job selected with
    | .ok db => (db, { job with pending, erased := job.erased ++ [selected.1] })
    | .error .noLongerDue => (db, { job with pending })
    | .error .stale => (db, { job with pending })
    | .error _ => (db, { job with pending := [] })

/-- A transaction. -/
inductive Command where
  | create (customerId storeId : Uuid) (noticePublished serviceConsent : Bool) (phone : Phone)
      (name : Option Name) (deliveryAddress note : Option String) (kind : CustomerKind)
      (marketingConsent : Bool) (at_ : Int)
  | update (storeId customerId : Uuid) (expectedRowVersion : Nat) (changes : CustomerChanges)
      (hasAccount : Bool) (at_ : Int)
  | erase (storeId customerId : Uuid) (expectedRowVersion : Nat) (reason : ErasureReason) (at_ : Int)
  | link (storeId customerId : Uuid) (kind : LinkKind) (refId : Uuid)
  | issueTicket (ticketId storeId : Uuid)
  | bindChannel (bindingId : Uuid)
  | createRequest (request : OrderRequest)
  | createOrder (orderId storeId boundContactId : Uuid) (requestId : Option Uuid) (createdAt : Int)
  | moveOrder (orderId : Uuid) (commercial : CommercialOrderStatus)
  | select (asOf : Datetime) (batch : Nat)
  | eraseNext (job : Nat)

def attempt (w : World) : Command → Except Refusal World
  | .create customerId storeId noticePublished serviceConsent phone name address note kind
      marketing at_ => do
    let db ← create w.db customerId storeId noticePublished serviceConsent phone name address note
      kind marketing at_
    .ok { w with db }
  | .update storeId customerId version changes hasAccount at_ => do
    .ok { w with db := ← update w.db storeId customerId version changes hasAccount at_ }
  | .erase storeId customerId version reason at_ => do
    .ok { w with db := ← erase w.db storeId customerId version reason at_ }
  | .link storeId customerId kind refId => do
    .ok { w with db := ← link w.db storeId customerId kind refId }
  | .issueTicket ticketId storeId =>
    .ok { w with db := { w.db with tickets := w.db.tickets ++ [(ticketId, storeId)] } }
  | .bindChannel bindingId =>
    .ok { w with db := { w.db with bindings := w.db.bindings ++ [bindingId] } }
  | .createRequest request => do .ok { w with db := ← createRequest w.db request }
  | .createOrder orderId storeId boundContactId requestId createdAt => do
    .ok { w with db := ← createOrder w.db orderId storeId boundContactId requestId createdAt }
  | .moveOrder orderId commercial => do .ok { w with db := ← moveOrder w.db orderId commercial }
  | .select asOf batch => do .ok { w with jobs := w.jobs ++ [← selection w.db asOf batch] }
  | .eraseNext j => do
    let job ← ofOption .noJob w.jobs[j]?
    let done := advance w.db job
    .ok ⟨done.1, w.jobs.set j done.2⟩

/-- The transactions of `run_customer_retention`, when nothing comes between them. -/
def transactions (w : World) (asOf : Datetime) (batch : Nat) : List Command :=
  .select asOf batch :: List.replicate batch (.eraseNext w.jobs.length)

def apply (w : World) (command : Command) : World :=
  match attempt w command with
  | .ok w' => w'
  | .error _ => w

def emptyWorld : World := ⟨⟨[], [], [], [], [], []⟩, []⟩

def run (commands : List Command) : World := commands.foldl apply emptyWorld

end NhaTrangLaundry.Db.Customers
