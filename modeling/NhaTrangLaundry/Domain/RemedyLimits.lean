import NhaTrangLaundry.Domain.Canonical
import NhaTrangLaundry.Domain.Pricing
import NhaTrangLaundry.Domain.Promotion
import NhaTrangLaundry.Domain.Quotes
import NhaTrangLaundry.Lib.Datetime

/-! What the shop may give for a complaint: the fee of an item, the ceilings it carries,
and who must agree. -/

namespace NhaTrangLaundry.Domain.RemedyLimits

open Lib Outcome Catalog Canonical Pricing Promotion

def maxJcsInteger : Int := 9007199254740991

inductive RemedyStatus where
  | staffAuthorized
  | ownerApprovalRequired
  | executed
  | policyUnresolved
deriving DecidableEq

inductive ItemFeeBasis where
  | unit
  | bag
  | notRecorded
deriving DecidableEq

inductive OwnerReason where
  | lossClaim
  | orderRefunded
  | itemFeeNotRecorded
  | aboveStaffLimit
deriving DecidableEq

/-- The refusals that a claim meets before it is paid. -/
inductive RemedyRefusal where
  | lossPolicyUnresolved
  | remedyCeilingExceeded
  | remedyWindowClosed
  | remedyWindowEvidenceMissing
  | remedyStoreFaultNotAttested
  | remedyAmountNotApplicable
  | remedyLineNotPriced
  | remedyOrderNotSettled
  | remedyOrderRefunded
  | remedyDeliveryNotRecorded
  | remedyLatenessBelowThreshold
  | remedyGarmentRequired
  | remedyGarmentNotApplicable
  | remedyGarmentOutOfRange
  | remedyLateDeliveryCreditAlreadyProposed
deriving DecidableEq

/-- The owner's ratified figures, as one published version states them. -/
structure RemedyPolicy where
  defectReportWindowHours : Int
  freeRewashWindowDays : Int
  lateDeliveryThresholdMinutes : Int
  lateDeliveryCreditRateBps : Int
  damageCompensationMultiple : Int
  staffApprovalCeilingVnd : Int
  hours_pos : 1 ≤ defectReportWindowHours
  days_pos : 1 ≤ freeRewashWindowDays
  rate_range : 0 < lateDeliveryCreditRateBps ∧ lateDeliveryCreditRateBps ≤ rateDenominator
  multiple_pos : 1 ≤ damageCompensationMultiple
  staff_nonneg : 0 ≤ staffApprovalCeilingVnd
deriving DecidableEq

lemma published_hours : (1 : Int) ≤ 24 := by decide

lemma published_days : (1 : Int) ≤ 7 := by decide

lemma published_rate : (0 : Int) < 1000 ∧ (1000 : Int) ≤ rateDenominator := by decide

lemma published_multiple : (1 : Int) ≤ 5 := by decide

lemma published_staff : (0 : Int) ≤ 100000 := by decide

def published : RemedyPolicy where
  defectReportWindowHours := 24
  freeRewashWindowDays := 7
  lateDeliveryThresholdMinutes := 120
  lateDeliveryCreditRateBps := 1000
  damageCompensationMultiple := 5
  staffApprovalCeilingVnd := 100000
  hours_pos := published_hours
  days_pos := published_days
  rate_range := published_rate
  multiple_pos := published_multiple
  staff_nonneg := published_staff

/-- One exactly priced line of the order's stored revision, whose amounts are never negative and
whose quantity is the canonical text that the revision stores. -/
structure RemedyLineFacts where
  serviceCode : String
  unit : QuantityUnit
  quantity : String
  unitPriceVnd : Option Int
  netAmountVnd : Int
  canonical_quantity : Quotes.canonicalPositiveDecimal quantity = .ok ()
  price_nonneg : ∀ price ∈ unitPriceVnd, 0 ≤ price
  net_nonneg : 0 ≤ netAmountVnd
deriving DecidableEq

structure ItemCompensationTerms where
  lineId : String
  serviceCode : String
  basis : ItemFeeBasis
  itemFeeVnd : Int
  ceilingVnd : Int
  pieces : Int
  lineCeilingVnd : Int
  garments : Option Int
  ownerAlways : List OwnerReason
deriving DecidableEq

structure RemedyOrderFacts where
  goodsReturnedAt : Option Datetime
  settledTotalVnd : Option Int
  lines : List (String × RemedyLineFacts)
  expectsReturnLeg : Bool
  returnLegSucceeded : Bool
  refunded : Bool
deriving DecidableEq

def validAmount (value : Int) : Prop := 0 ≤ value ∧ value ≤ maxJcsInteger

instance (value : Int) : Decidable (validAmount value) := by
  unfold validAmount
  infer_instance

/-- What earlier proposals have already committed; a garment's share is part of its line's. -/
structure RemedyCommitments where
  lineCommittedVnd : Int
  lateDeliveryCredits : Int
  garmentCommittedVnd : Option Int
  line_valid : validAmount lineCommittedVnd
  late_valid : validAmount lateDeliveryCredits
  garment_valid : ∀ garment ∈ garmentCommittedVnd,
    validAmount garment ∧ garment ≤ lineCommittedVnd
deriving DecidableEq

/-- What counts against the garment a request names; the line when unattributed. -/
def RemedyCommitments.againstGarment (committed : RemedyCommitments) : Int :=
  committed.garmentCommittedVnd.getD committed.lineCommittedVnd

structure RemedyRequest where
  kind : RemedyKind
  storeFaultAttested : Bool
  orderLineId : Option String
  amountVnd : Option Int
  garmentIndex : Option Int
  attestedLateByMinutes : Option Int
deriving DecidableEq

structure RemedyAuthorized where
  kind : RemedyKind
  amountVnd : Option Int
  direction : Option AdjustmentDirection
  ceilingVnd : Option Int
  windowOpenedAt : Option Datetime
  windowClosesAt : Option Datetime
  ownerReasons : List OwnerReason
  itemFeeBasis : Option ItemFeeBasis
  itemFeeVnd : Option Int
  lineCeilingVnd : Option Int
  garmentIndex : Option Int
deriving DecidableEq

def RemedyAuthorized.requiresOwnerApproval (authorized : RemedyAuthorized) : Bool :=
  !authorized.ownerReasons.isEmpty

structure RemedyRefused where
  refusal : RemedyRefusal
  ceilingVnd : Option Int
  windowClosesAt : Option Datetime
  thresholdMinutes : Option Int
  committedVnd : Option Int
  garments : Option Int
deriving DecidableEq

def RemedyRefused.of (refusal : RemedyRefusal) : RemedyRefused := ⟨refusal, none, none, none, none, none⟩

inductive RemedyOutcome where
  | authorized (remedy : RemedyAuthorized)
  | refused (refusal : RemedyRefused)
deriving DecidableEq

def isExactlyOne (quantity : String) : Bool :=
  (Decimal.ofText quantity).any fun value => value.same (.ofInt 1)

/-- A quantity as a whole number of items; 1 for anything that is not one. -/
def wholePieces (quantity : String) : Int :=
  match Decimal.ofText quantity with
  | none => 1
  | some value =>
    if value.lt (.ofInt 1) ∨ ¬ value.integral then 1
    else value.coefficient / 10 ^ (-value.exponent).toNat

def itemFee (line : RemedyLineFacts) : ItemFeeBasis × Int :=
  if line.unit = .kg then (.bag, line.netAmountVnd)
  else if line.unit ∈ countUnits then
    match line.unitPriceVnd with
    | some price => (.unit, min price line.netAmountVnd)
    | none =>
      if isExactlyOne line.quantity then (.unit, line.netAmountVnd)
      else (.notRecorded, line.netAmountVnd)
  else (.notRecorded, line.netAmountVnd)

def itemCompensationTerms (policy : RemedyPolicy) (facts : RemedyOrderFacts) (lineId : String) :
    Option ItemCompensationTerms :=
  (facts.lines.lookup lineId).map fun line =>
    let basis := (itemFee line).1
    let fee := (itemFee line).2
    let pieces := if basis = .unit ∧ line.unitPriceVnd.isSome then wholePieces line.quantity else 1
    let lineFee := if 1 < pieces then min (fee * pieces) line.netAmountVnd else fee
    { lineId
      serviceCode := line.serviceCode
      basis
      itemFeeVnd := fee
      ceilingVnd := fee * policy.damageCompensationMultiple
      pieces
      lineCeilingVnd := lineFee * policy.damageCompensationMultiple
      garments := if basis = .unit then some pieces else none
      ownerAlways := (if facts.refunded then [.orderRefunded] else []) ++
        if basis = .notRecorded then [.itemFeeNotRecorded] else [] }

def ItemCompensationTerms.perGarment (terms : ItemCompensationTerms) : Bool :=
  terms.garments.any fun garments => 1 < garments

/-- Which garment a claim on this line is about, or why it cannot say. -/
def resolveGarment (terms : ItemCompensationTerms) (garmentIndex : Option Int) :
    Except RemedyRefused (Option Int) :=
  match terms.garments, garmentIndex with
  | none, none => .ok none
  | none, some _ => .error (.of .remedyGarmentNotApplicable)
  | some garments, none =>
    if garments = 1 then .ok (some 1)
    else .error { RemedyRefused.of .remedyGarmentRequired with garments := some garments }
  | some garments, some index =>
    if 1 ≤ index ∧ index ≤ garments then .ok (some index)
    else .error { RemedyRefused.of .remedyGarmentOutOfRange with garments := some garments }

/-- `by_garment.get(garment, 0)`. -/
def amountOf (byGarment : List (Option Int × Int)) (garment : Option Int) : Int :=
  (byGarment.lookup garment).getD 0

/-- What counts against one garment: proposals naming it plus every line-level proposal. -/
def committedAgainstGarment (byGarment : List (Option Int × Int)) (garmentIndex : Int) : Int :=
  amountOf byGarment (some garmentIndex) + amountOf byGarment none

def committedAgainstAnyGarment (byGarment : List (Option Int × Int)) : Int :=
  (((byGarment.filter fun entry => entry.1.isSome).map Prod.snd).max?.getD 0) +
    amountOf byGarment none

def itemKinds : List RemedyKind := [.damageCompensation, .lostItem]

/-- Refuse a request whose fields do not belong to the kind it names. -/
def refuseWrongShape (request : RemedyRequest) : Option RemedyRefused :=
  if request.kind ∈ itemKinds then
    if request.orderLineId = none ∨ ¬ (∃ amount ∈ request.amountVnd, validAmount amount) ∨
        request.attestedLateByMinutes ≠ none then some (.of .remedyAmountNotApplicable)
    else none
  else if request.garmentIndex ≠ none then some (.of .remedyGarmentNotApplicable)
  else if request.kind = .lateDeliveryCredit then
    if request.amountVnd ≠ none ∨ request.orderLineId ≠ none ∨
        ¬ (∃ minutes ∈ request.attestedLateByMinutes, 0 ≤ minutes) then
      some (.of .remedyAmountNotApplicable)
    else none
  else if request.amountVnd ≠ none ∨ request.orderLineId ≠ none ∨
      request.attestedLateByMinutes ≠ none then some (.of .remedyAmountNotApplicable)
  else none

def roundHalfUp (numerator : Int) : Int := (numerator + rateDenominator / 2) / rateDenominator

def evaluateLateDelivery (policy : RemedyPolicy) (facts : RemedyOrderFacts)
    (request : RemedyRequest) (committed : RemedyCommitments) : RemedyOutcome :=
  if committed.lateDeliveryCredits ≠ 0 then
    .refused (.of .remedyLateDeliveryCreditAlreadyProposed)
  else if (facts.expectsReturnLeg && facts.returnLegSucceeded) = false then
    .refused (.of .remedyDeliveryNotRecorded)
  else if request.attestedLateByMinutes.getD 0 ≤ policy.lateDeliveryThresholdMinutes then
    .refused { RemedyRefused.of .remedyLatenessBelowThreshold with
      thresholdMinutes := some policy.lateDeliveryThresholdMinutes }
  else match facts.settledTotalVnd with
    | none => .refused (.of .remedyOrderNotSettled)
    | some settled =>
      let credit := roundHalfUp (settled * policy.lateDeliveryCreditRateBps)
      .authorized {
        kind := request.kind
        amountVnd := some credit
        direction := some .credit
        ceilingVnd := some credit
        windowOpenedAt := none
        windowClosesAt := none
        ownerReasons := if policy.staffApprovalCeilingVnd < credit then [.aboveStaffLimit] else []
        itemFeeBasis := none
        itemFeeVnd := none
        lineCeilingVnd := none
        garmentIndex := none }

/-- The window of a claim that is not about a late delivery, in microseconds. -/
def claimWindow (policy : RemedyPolicy) (kind : RemedyKind) : Int :=
  if kind = .freeRewash then policy.freeRewashWindowDays * dayMicros
  else policy.defectReportWindowHours * 3600000000

/-- The total that binds the claim's item: the garment where the line has several, else the line. -/
def itemPrior (terms : ItemCompensationTerms) (committed : RemedyCommitments) : Int :=
  if terms.perGarment then committed.againstGarment else committed.lineCommittedVnd

def evaluateItem (policy : RemedyPolicy) (terms : ItemCompensationTerms) (kind : RemedyKind)
    (amountVnd : Int) (garmentIndex : Option Int) (openedAt closesAt : Datetime)
    (committed : RemedyCommitments) : RemedyOutcome :=
  match resolveGarment terms garmentIndex with
  | .error refused => .refused refused
  | .ok garment =>
    if terms.ceilingVnd < amountVnd then
      .refused { RemedyRefused.of .remedyCeilingExceeded with ceilingVnd := some terms.ceilingVnd }
    else if terms.ceilingVnd < itemPrior terms committed + amountVnd then
      .refused { RemedyRefused.of .remedyCeilingExceeded with
        ceilingVnd := some terms.ceilingVnd
        committedVnd := some (itemPrior terms committed) }
    else if terms.lineCeilingVnd < committed.lineCommittedVnd + amountVnd then
      .refused { RemedyRefused.of .remedyCeilingExceeded with
        ceilingVnd := some terms.lineCeilingVnd
        committedVnd := some committed.lineCommittedVnd }
    else .authorized {
      kind
      amountVnd := some amountVnd
      direction := some .credit
      ceilingVnd := some terms.ceilingVnd
      windowOpenedAt := some openedAt
      windowClosesAt := some closesAt
      ownerReasons := (if kind = .lostItem then [.lossClaim] else []) ++ terms.ownerAlways ++
        if policy.staffApprovalCeilingVnd < itemPrior terms committed + amountVnd then
          [.aboveStaffLimit] else []
      itemFeeBasis := some terms.basis
      itemFeeVnd := some terms.itemFeeVnd
      lineCeilingVnd := some terms.lineCeilingVnd
      garmentIndex := garment }

/-- Decide one request against the published figures and the order's recorded facts. -/
def evaluateRemedy (policy : RemedyPolicy) (facts : RemedyOrderFacts) (request : RemedyRequest)
    (requestedAt : Datetime) (committed : RemedyCommitments) : Except PyException RemedyOutcome := do
  require (requestedAt.aware)
    (.valueError "a remedy must be evaluated against an aware timestamp")
  match refuseWrongShape request with
  | some refused => .ok (.refused refused)
  | none =>
    if request.storeFaultAttested = false then
      .ok (.refused (.of .remedyStoreFaultNotAttested))
    else if request.kind = .lateDeliveryCredit then
      .ok (evaluateLateDelivery policy facts request committed)
    else match facts.goodsReturnedAt with
      | none => .ok (.refused (.of .remedyWindowEvidenceMissing))
      | some openedAt => do
        let closesAt ← ofOption .overflowError
          (openedAt.addMicros (claimWindow policy request.kind))
        if closesAt.instant < requestedAt.instant then
          .ok (.refused { RemedyRefused.of .remedyWindowClosed with windowClosesAt := some closesAt })
        else if request.kind = .freeRewash then
          .ok (.authorized ⟨.freeRewash, none, none, none, some openedAt, some closesAt, [], none,
            none, none, none⟩)
        else match request.orderLineId, request.amountVnd with
          | some lineId, some amount =>
            match itemCompensationTerms policy facts lineId with
            | none => .ok (.refused (.of .remedyLineNotPriced))
            | some terms => .ok (evaluateItem policy terms request.kind amount request.garmentIndex
                openedAt closesAt committed)
          | _, _ => .error (.valueError "AssertionError")

lemma itemFee_nonneg (line : RemedyLineFacts) : 0 ≤ (itemFee line).2 := by
  have hnet := line.net_nonneg
  unfold itemFee
  split
  · exact hnet
  split
  · split
    · next price hprice => exact le_min (line.price_nonneg price hprice) hnet
    · split
      · exact hnet
      · exact hnet
  · exact hnet

lemma itemCompensationTerms_nonneg {policy : RemedyPolicy} {facts : RemedyOrderFacts}
    {lineId : String} {terms : ItemCompensationTerms}
    (h : itemCompensationTerms policy facts lineId = some terms) :
    0 ≤ terms.ceilingVnd ∧ 0 ≤ terms.lineCeilingVnd := by
  obtain ⟨line, -, rfl⟩ := Option.map_eq_some_iff.mp h
  have hfee := itemFee_nonneg line
  have hmultiple : 0 ≤ policy.damageCompensationMultiple := by
    have := policy.multiple_pos
    omega
  refine ⟨Int.mul_nonneg hfee hmultiple, Int.mul_nonneg ?_ hmultiple⟩
  generalize (if (itemFee line).1 = .unit ∧ line.unitPriceVnd.isSome then
    wholePieces line.quantity else 1) = pieces
  split
  · next hpieces =>
    exact le_min (Int.mul_nonneg hfee (le_of_lt (lt_trans Int.zero_lt_one hpieces)))
      line.net_nonneg
  · exact hfee

/-- What is known of a claim on an item when it is authorised. -/
structure ItemAuthorized (policy : RemedyPolicy) (terms : ItemCompensationTerms)
    (request : RemedyRequest) (committed : RemedyCommitments) (amountVnd : Int)
    (authorized : RemedyAuthorized) : Prop where
  amount : authorized.amountVnd = some amountVnd
  nonneg : 0 ≤ amountVnd
  ceiling : authorized.ceilingVnd = some terms.ceilingVnd
  garment : resolveGarment terms request.garmentIndex = .ok authorized.garmentIndex
  withinItem : itemPrior terms committed + amountVnd ≤ terms.ceilingVnd
  withinClaim : amountVnd ≤ terms.ceilingVnd
  withinLine : committed.lineCommittedVnd + amountVnd ≤ terms.lineCeilingVnd
  byStaff : authorized.requiresOwnerApproval = false → terms.ownerAlways = [] ∧
    itemPrior terms committed + amountVnd ≤ policy.staffApprovalCeilingVnd

lemma evaluateItem_authorized {policy : RemedyPolicy} {terms : ItemCompensationTerms}
    {request : RemedyRequest} {amountVnd : Int} {openedAt closesAt : Datetime}
    {committed : RemedyCommitments} {authorized : RemedyAuthorized} (hnonneg : 0 ≤ amountVnd)
    (h : evaluateItem policy terms request.kind amountVnd request.garmentIndex openedAt closesAt
      committed = .authorized authorized) :
    ItemAuthorized policy terms request committed amountVnd authorized := by
  unfold evaluateItem at h
  split at h
  · cases h
  next garment hgarment =>
  split at h
  · cases h
  next hclaim =>
  split at h
  · cases h
  next hitem =>
  split at h
  · cases h
  next hline =>
  cases h
  refine ⟨rfl, hnonneg, rfl, hgarment, not_lt.mp hitem, not_lt.mp hclaim, not_lt.mp hline, ?_⟩
  intro hstaff
  simp only [RemedyAuthorized.requiresOwnerApproval, Bool.not_eq_false', List.isEmpty_iff,
    List.append_eq_nil_iff] at hstaff
  refine ⟨hstaff.1.2, not_lt.mp fun habove => ?_⟩
  simp [habove] at hstaff

lemma evaluateRemedy_cases {policy : RemedyPolicy} {facts : RemedyOrderFacts}
    {request : RemedyRequest} {requestedAt : Datetime} {committed : RemedyCommitments}
    {authorized : RemedyAuthorized}
    (h : evaluateRemedy policy facts request requestedAt committed = .ok (.authorized authorized)) :
    (request.kind = .lateDeliveryCredit ∧
        evaluateLateDelivery policy facts request committed = .authorized authorized) ∨
      (request.kind = .freeRewash ∧ authorized.kind = .freeRewash) ∨
      (request.kind ∈ itemKinds ∧ ∃ lineId amountVnd terms openedAt closesAt,
        request.orderLineId = some lineId ∧ request.amountVnd = some amountVnd ∧
        validAmount amountVnd ∧ itemCompensationTerms policy facts lineId = some terms ∧
        evaluateItem policy terms request.kind amountVnd request.garmentIndex openedAt closesAt
          committed = .authorized authorized) := by
  unfold evaluateRemedy at h
  obtain ⟨_, -, h⟩ := bind_ok.mp h
  split at h
  · cases h
  next hshape =>
  split at h
  · cases h
  split at h
  · next hlate => exact .inl ⟨hlate, Except.ok.inj h⟩
  next hnotlate =>
  right
  split at h
  · cases h
  next openedAt hopened =>
  obtain ⟨closesAt, -, h⟩ := bind_ok.mp h
  split at h
  · cases h
  split at h
  · next hfree =>
    cases h
    exact .inl ⟨hfree, rfl⟩
  next hnotfree =>
  right
  have hkind : request.kind ∈ itemKinds := by
    revert hnotlate hnotfree
    cases request.kind <;> decide
  refine ⟨hkind, ?_⟩
  split at h
  · next lineId amountVnd hline hamount =>
    split at h
    · cases h
    next terms hterms =>
    have hvalid : validAmount amountVnd := by
      unfold refuseWrongShape at hshape
      rw [if_pos hkind] at hshape
      by_contra hinvalid
      rw [if_pos] at hshape
      · cases hshape
      · right
        left
        rintro ⟨amount, hmem, hvalid⟩
        rw [hamount] at hmem
        cases hmem
        exact hinvalid hvalid
    exact ⟨lineId, amountVnd, terms, openedAt, closesAt, hline, hamount, hvalid, hterms,
      Except.ok.inj h⟩
  · cases h

lemma evaluateRemedy_authorized {policy : RemedyPolicy} {facts : RemedyOrderFacts}
    {request : RemedyRequest} {requestedAt : Datetime} {committed : RemedyCommitments}
    {authorized : RemedyAuthorized}
    (h : evaluateRemedy policy facts request requestedAt committed = .ok (.authorized authorized)) :
    (request.kind = .lateDeliveryCredit ∧ committed.lateDeliveryCredits = 0) ∨
      request.kind = .freeRewash ∨
      (request.kind ∈ itemKinds ∧ ∃ lineId amountVnd terms, request.orderLineId = some lineId ∧
        itemCompensationTerms policy facts lineId = some terms ∧
        ItemAuthorized policy terms request committed amountVnd authorized) := by
  rcases evaluateRemedy_cases h with ⟨hlate, hcredit⟩ | ⟨hfree, -⟩ |
    ⟨hkind, lineId, amountVnd, terms, openedAt, closesAt, hline, -, hvalid, hterms, hitem⟩
  · refine .inl ⟨hlate, ?_⟩
    unfold evaluateLateDelivery at hcredit
    by_contra hne
    rw [if_pos hne] at hcredit
    cases hcredit
  · exact .inr (.inl hfree)
  · exact .inr (.inr ⟨hkind, lineId, amountVnd, terms, hline, hterms,
      evaluateItem_authorized hvalid.1 hitem⟩)

lemma resolveGarment_named {terms : ItemCompensationTerms} {garmentIndex garment : Option Int}
    (h : resolveGarment terms garmentIndex = .ok garment) (hper : terms.perGarment = true) :
    ∃ index, garmentIndex = some index ∧ garment = some index := by
  unfold ItemCompensationTerms.perGarment at hper
  unfold resolveGarment at h
  cases hgarments : terms.garments with
  | none => simp [hgarments] at hper
  | some garments =>
    rw [hgarments] at h hper
    have hmany : 1 < garments := by simpa using hper
    cases garmentIndex with
    | none =>
      dsimp only at h
      rw [if_neg (by omega)] at h
      cases h
    | some index =>
      dsimp only at h
      split at h
      · cases h
        exact ⟨index, rfl, rfl⟩
      · cases h

end NhaTrangLaundry.Domain.RemedyLimits
