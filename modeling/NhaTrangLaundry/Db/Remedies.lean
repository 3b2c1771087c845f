import NhaTrangLaundry.Domain.RemedyLimits
import NhaTrangLaundry.Lib.Sums

/-! The remedy proposals of one order, written and paid under the lock of its row: what
earlier proposals commit, and the second look before one is paid. -/

namespace NhaTrangLaundry.Db.Remedies

open Lib Outcome Sums Domain Catalog Canonical RemedyLimits

/-- A state of `approval_request_states`. -/
inductive ApprovalStatus where
  | requested
  | approved
  | executing
  | executed
  | failed
  | manualReview
  | dlq
  | rejected
  | expired
  | cancelled
deriving DecidableEq

/-- The moves that the trigger `approval_state_transition_guard` admits. -/
def approvalMoves : ApprovalStatus → List ApprovalStatus
  | .requested => [.approved, .rejected, .expired, .cancelled]
  | .approved => [.executing, .expired, .cancelled]
  | .executing => [.executed, .failed]
  | .failed => [.manualReview, .dlq]
  | _ => []

def deadEnvelopeStatuses : List ApprovalStatus := [.rejected, .expired, .cancelled]

/-- A row of `remedy_proposals`, with the state of the owner's envelope it names. -/
structure RemedyProposal (Id : Type) where
  id : Id
  kind : RemedyKind
  status : RemedyStatus
  amountVnd : Option Int
  ceilingVnd : Option Int
  orderLineId : Option String
  garmentIndex : Option Int
  envelope : Option ApprovalStatus
deriving DecidableEq

variable {Id : Type}

namespace RemedyProposal

/-- `_LIVE_PROPOSAL_FILTER`: every proposal but one that waits on an envelope that died. -/
def live (proposal : RemedyProposal Id) : Bool :=
  !(proposal.status = .ownerApprovalRequired &&
    proposal.envelope.any fun status => status ∈ deadEnvelopeStatuses)

def amount (proposal : RemedyProposal Id) : Int := proposal.amountVnd.getD 0

def onLine (proposal : RemedyProposal Id) (lineId : String) : Bool :=
  proposal.kind ∈ itemKinds && proposal.orderLineId = some lineId

def liveLateCredit (proposal : RemedyProposal Id) : Bool :=
  proposal.kind = .lateDeliveryCredit && proposal.live

def staff (proposal : RemedyProposal Id) : Bool := proposal.envelope.isNone

end RemedyProposal

def groupByGarment (rows : List (RemedyProposal Id)) : List (Option Int × Int) :=
  ((rows.map RemedyProposal.garmentIndex).dedup).map fun garment =>
    (garment, sumIf rows (fun row => row.garmentIndex = garment) RemedyProposal.amount)

/-- `sum(by_garment.values())`. -/
def lineTotal (byGarment : List (Option Int × Int)) : Int := (byGarment.map Prod.snd).sum

/-- `_read_line_commitments`, of one line. -/
def readLineCommitments (proposals : List (RemedyProposal Id)) (lineId : String) :
    List (Option Int × Int) :=
  groupByGarment (proposals.filter fun proposal => proposal.onLine lineId && proposal.live)

def remedyCommitments (line late : Int) (garment : Option Int) :
    Except PyException RemedyCommitments :=
  if h : validAmount line ∧ validAmount late ∧
      ∀ amount ∈ garment, validAmount amount ∧ amount ≤ line then
    .ok ⟨line, late, garment, h.1, h.2.1, h.2.2⟩
  else .error (.valueError "prior remedy commitments must be non-negative integers")

def readCommitments (proposals : List (RemedyProposal Id)) (orderLineId : Option String)
    (garmentIndex : Option Int) : Except PyException RemedyCommitments :=
  let byGarment := (orderLineId.map (readLineCommitments proposals)).getD []
  remedyCommitments (lineTotal byGarment)
    (proposals.filter RemedyProposal.liveLateCredit).length
    (garmentIndex.map (committedAgainstGarment byGarment))

inductive Refusal where
  | raised (e : PyException)
  | refused (refusal : RemedyRefused)
  | staleVersion
  | incidentNotOpen
  | proposalNotFound
  | remedyAlreadyExecuted
  | remedyApprovalRequired
  | remedyApprovalNotBound
  | approvalState
  | database
deriving DecidableEq

/-- `RemedyProposalCommand`, with the id of the row, the commitments that were read before the
order was locked, and whether the incident is still proposable under the lock. -/
structure RemedyProposalCommand (Id : Type) where
  id : Id
  request : RemedyRequest
  proposedAt : Datetime
  prior : RemedyCommitments
  incidentProposable : Bool

def proposalRow (id : Id) (request : RemedyRequest) (outcome : RemedyAuthorized) :
    RemedyProposal Id where
  id
  kind := request.kind
  status := if outcome.requiresOwnerApproval then .ownerApprovalRequired else .staffAuthorized
  amountVnd := outcome.amountVnd
  ceilingVnd := outcome.ceilingVnd
  orderLineId := request.orderLineId
  garmentIndex := outcome.garmentIndex
  envelope := if outcome.requiresOwnerApproval then some .requested else none

section Repository

variable (policy : RemedyPolicy) (facts : RemedyOrderFacts)

/-- `decide`, refusals raised. -/
def decideRemedy (request : RemedyRequest) (proposedAt : Datetime) (prior : RemedyCommitments) :
    Except Refusal RemedyAuthorized := do
  let outcome ← (evaluateRemedy policy facts request proposedAt prior).mapError .raised
  match outcome with
  | .refused refused => .error (.refused refused)
  | .authorized authorized => .ok authorized

/-- The decision made again over what is read under the lock, when that has changed. -/
def confirmLocked (command : RemedyProposalCommand Id) (outcome : RemedyAuthorized)
    (locked : RemedyCommitments) : Except Refusal Unit :=
  if locked = command.prior then .ok ()
  else do
    let recheck ← decideRemedy policy facts command.request command.proposedAt locked
    require (recheck = outcome) .staleVersion

/-- `RemedyProposalRepository.propose`: decided over what was read unlocked, and written under
the lock. -/
def propose [DecidableEq Id] (proposals : List (RemedyProposal Id))
    (command : RemedyProposalCommand Id) : Except Refusal (List (RemedyProposal Id)) := do
  let outcome ← decideRemedy policy facts command.request command.proposedAt command.prior
  require (command.incidentProposable = true) .incidentNotOpen
  let locked ← (readCommitments proposals command.request.orderLineId
    command.request.garmentIndex).mapError .raised
  confirmLocked policy facts command outcome locked
  require (command.id ∉ proposals.map RemedyProposal.id) .database
  .ok (proposals ++ [proposalRow command.id command.request outcome])

def paidBeside [DecidableEq Id] (proposals : List (RemedyProposal Id)) (id : Id)
    (lineId : String) : List (RemedyProposal Id) :=
  proposals.filter fun proposal =>
    proposal.onLine lineId && proposal.status = .executed && proposal.id ≠ id

/-- What was paid on the item of a proposal: the garment where the line has several with a fee
each, the line otherwise. -/
def paidOnItem (terms : ItemCompensationTerms) (garmentIndex : Option Int)
    (paid : List (Option Int × Int)) : Int :=
  if terms.perGarment then
    match garmentIndex with
    | some garment => committedAgainstGarment paid garment
    | none => committedAgainstAnyGarment (paid.filter fun entry => entry.1.isSome)
  else lineTotal paid

def paidOnItemByStaff (terms : ItemCompensationTerms) (garmentIndex : Option Int)
    (paidStaff : List (Option Int × Int)) : Int :=
  if terms.perGarment then
    match garmentIndex with
    | some garment => committedAgainstGarment paidStaff garment
    | none => committedAgainstAnyGarment paidStaff
  else lineTotal paidStaff

def recheckItem [DecidableEq Id] (proposals : List (RemedyProposal Id))
    (proposal : RemedyProposal Id) (lineId : String) (amountVnd ceilingVnd : Int) :
    Except Refusal Unit :=
  match itemCompensationTerms policy facts lineId with
  | none => .error (.refused (.of .remedyLineNotPriced))
  | some terms => do
    let rows := paidBeside proposals proposal.id lineId
    let paid := groupByGarment rows
    let paidStaff := groupByGarment (rows.filter RemedyProposal.staff)
    let onItem := paidOnItem terms proposal.garmentIndex paid
    require (amountVnd ≤ min ceilingVnd terms.ceilingVnd)
      (.refused { RemedyRefused.of .remedyCeilingExceeded with
        ceilingVnd := some (min ceilingVnd terms.ceilingVnd) })
    require (onItem + amountVnd ≤ terms.ceilingVnd)
      (.refused { RemedyRefused.of .remedyCeilingExceeded with
        ceilingVnd := some terms.ceilingVnd
        committedVnd := some onItem })
    require (lineTotal paid + amountVnd ≤ terms.lineCeilingVnd)
      (.refused { RemedyRefused.of .remedyCeilingExceeded with
        ceilingVnd := some terms.lineCeilingVnd
        committedVnd := some (lineTotal paid) })
    if proposal.staff then do
      require (terms.ownerAlways = []) .remedyApprovalRequired
      require (paidOnItemByStaff terms proposal.garmentIndex paidStaff + amountVnd ≤
        policy.staffApprovalCeilingVnd) .remedyApprovalRequired
    else .ok ()

def recheckBeforePaying [DecidableEq Id] (proposals : List (RemedyProposal Id))
    (proposal : RemedyProposal Id) : Except Refusal Unit :=
  if proposal.kind = .lateDeliveryCredit then do
    require (∀ other ∈ proposals, other.kind = .lateDeliveryCredit → other.status = .executed →
      other.id = proposal.id) (.refused (.of .remedyLateDeliveryCreditAlreadyProposed))
    require (facts.refunded = false) (.refused (.of .remedyOrderRefunded))
  else if proposal.kind ∈ itemKinds then
    match proposal.amountVnd, proposal.ceilingVnd, proposal.orderLineId with
    | some amount, some ceiling, some lineId =>
      recheckItem policy facts proposals proposal lineId amount ceiling
    | _, _, _ => .error (.raised (.valueError "AssertionError"))
  else .ok ()

/-- What `execute` asks before it locks the order; `bound` is whether the envelope names this
proposal, its content and its store, and has not passed its end. -/
def mayExecute (proposal : RemedyProposal Id) (bound : Bool) : Except Refusal Unit := do
  require (proposal.status ≠ .policyUnresolved) (.refused (.of .lossPolicyUnresolved))
  require (proposal.kind = .lostItem → proposal.envelope ≠ none) .remedyApprovalRequired
  require (proposal.status ≠ .executed) .remedyAlreadyExecuted
  if proposal.status = .ownerApprovalRequired then do
    require (proposal.envelope ≠ none) .remedyApprovalRequired
    require (bound = true) .remedyApprovalNotBound
    require (proposal.envelope = some .approved) .remedyApprovalRequired
  else .ok ()

def replaceRow [DecidableEq Id] (proposals : List (RemedyProposal Id)) (id : Id)
    (change : RemedyProposal Id → RemedyProposal Id) : List (RemedyProposal Id) :=
  proposals.map fun proposal => if proposal.id = id then change proposal else proposal

/-- `RemedyProposalRepository.execute`. -/
def execute [DecidableEq Id] (proposals : List (RemedyProposal Id)) (id : Id) (bound : Bool) :
    Except Refusal (List (RemedyProposal Id)) :=
  match proposals.find? fun proposal => proposal.id = id with
  | none => .error .proposalNotFound
  | some proposal => do
    mayExecute proposal bound
    recheckBeforePaying policy facts proposals proposal
    .ok (replaceRow proposals id fun row => { row with status := .executed })

def decideEnvelope [DecidableEq Id] (proposals : List (RemedyProposal Id)) (id : Id)
    (status : ApprovalStatus) : Except Refusal (List (RemedyProposal Id)) :=
  match proposals.find? fun proposal => proposal.id = id with
  | none => .error .proposalNotFound
  | some proposal =>
    match proposal.envelope with
    | none => .error .approvalState
    | some current => do
      require (status ∈ approvalMoves current) .approvalState
      .ok (replaceRow proposals id fun row => { row with envelope := some status })

inductive Command (Id : Type) where
  | propose (command : RemedyProposalCommand Id)
  | decide (id : Id) (status : ApprovalStatus)
  | execute (id : Id) (bound : Bool)

def attempt [DecidableEq Id] (proposals : List (RemedyProposal Id)) :
    Command Id → Except Refusal (List (RemedyProposal Id))
  | .propose command => propose policy facts proposals command
  | .decide id status => decideEnvelope proposals id status
  | .execute id bound => execute policy facts proposals id bound

/-- A command that is refused leaves the rows as they are. -/
def apply [DecidableEq Id] (proposals : List (RemedyProposal Id)) (command : Command Id) :
    List (RemedyProposal Id) :=
  match attempt policy facts proposals command with
  | .ok proposals' => proposals'
  | .error _ => proposals

def run [DecidableEq Id] (proposals : List (RemedyProposal Id)) (commands : List (Command Id)) :
    List (RemedyProposal Id) :=
  commands.foldl (apply policy facts) proposals

end Repository

end NhaTrangLaundry.Db.Remedies
