import NhaTrangLaundry.Domain.OrderPlans
import NhaTrangLaundry.Db.Orders
import NhaTrangLaundry.Db.PaymentsOwed

/-! What a command may change of an order: every accepted command is a sequence of the
changes listed here. -/

namespace NhaTrangLaundry.Db.Orders

open Lib Outcome Domain Catalog Canonical Settlement Unclaimed Accounts Handover
open Domain.Orders OrderSteps Domain.Payments

/-- What is known of a shape when a settlement of it is written. -/
structure SettlesAs (row : OrderRow) (shape : SettlementShape) : Prop where
  collected : shape = .exactPaymentSelfCollection →
    row.state.fulfillmentMode ∉ modesExpectingReturn ∧
      row.state.production ∈ handoverReadyProduction
  prepaid : shape = .exactPaymentPrepaidSelfCollection →
    row.state.fulfillmentMode ∉ modesExpectingReturn

def Ledgered (payments payments' : List Int) : Prop :=
  payments' = payments ∨ ∃ amount, 0 < amount ∧ payments' = payments ++ [amount]

/-- What a command other than a transition enters on the order. -/
inductive Entry (row : OrderRow) : OrderRow → Prop where
  | settled {paid : Int} {shape : SettlementShape} (hactive : row.state.commercial = .active)
      (hunpaid : row.state.balance = .unpaid) (hshape : SettlesAs row shape) :
      Entry row (writeSettlement row paid shape)
  | paidPart {amount : Int} (hactive : row.state.commercial = .active)
      (hpayable : row.state.balance ∈ payableBalances) (hpositive : 0 < amount) :
      Entry row { row with
        payments := row.payments ++ [amount]
        state := { row.state with balance := .partiallyPaid } }
  | paidOff (payments : List Int) (settlement : Payments.OrderSettlement) (fixed : Option Int)
      (hactive : row.state.commercial = .active)
      (hpayable : row.state.balance ∈ payableBalances) (hledger : Ledgered row.payments payments)
      (hshape : SettlesAs row settlement.shape) :
      Entry row { row with
        payments
        settlement := some settlement
        fixedFeeVnd := fixed
        state := { row.state with
          balance := .paid
          selfCollectionRecorded := row.state.selfCollectionRecorded ||
            settlement.shape = .exactPaymentSelfCollection } }
  | waived : Entry row { row with waived := true }
  | waivedOff (settlement : Payments.OrderSettlement) (fixed : Option Int)
      (hpartly : row.state.balance = .partiallyPaid) (hshape : SettlesAs row settlement.shape) :
      Entry row { row with
        waived := true
        settlement := some settlement
        fixedFeeVnd := fixed
        state := { row.state with balance := .paid } }
  | collected (hactive : row.state.commercial = .active) (hpaid : row.state.balance = .paid)
      (hready : row.state.production ∈ handoverReadyProduction)
      (hprepaid : row.settlement.map Payments.OrderSettlement.shape =
        some .exactPaymentPrepaidSelfCollection) :
      Entry row { row with state := { row.state with selfCollectionRecorded := true } }
  | leg {leg : DeliveryLeg} (hactive : row.state.commercial = .active)
      (hreturn : leg.legKind = .return → row.state.fulfillmentMode ∈ modesExpectingReturn ∧
        row.state.production ∈ handoverReadyProduction ∧ goodsMayLeave row.state.balance = true) :
      Entry row (writeLeg row leg)
  | charged {accepted : AccountChargeAccepted} {fee : Int} (hactive : row.state.commercial = .active)
      (hpayable : row.state.balance ∈ payableBalances)
      (hready : row.state.production ∈ handoverReadyProduction)
      (hcollected : accepted.collectedByCustomer = true ↔
        row.state.fulfillmentMode ∉ modesExpectingReturn) :
      Entry row (writeCharge row accepted fee)
  | allocatedPart {amount : Int} (honAccount : row.state.balance = .onAccount)
      (hpositive : 0 < amount) : Entry row { row with payments := row.payments ++ [amount] }
  | allocatedOff {charge : AccountCharge} {amount : Int} (honAccount : row.state.balance = .onAccount)
      (hpositive : 0 < amount) :
      Entry row (writeAccountSettlement row charge amount .exactPaymentOnAccount)
  | published {policy : Option StoragePolicy} : Entry row { row with storagePolicy := policy }

/-- One change of an order: a transition of its axes, or an entry. -/
inductive Change (row row' : OrderRow) : Prop where
  | transition (command : TransitionCommand)
      (happly : applyLockedTransition row command = .ok row')
  | entry (hentry : Entry row row')

lemma Entry.axes {row row' : OrderRow} (h : Entry row row') :
    row'.state = { row.state with
      balance := row'.state.balance
      requiredDeliveryLegsSucceeded := row'.state.requiredDeliveryLegsSucceeded
      selfCollectionRecorded := row'.state.selfCollectionRecorded } ∧
      row'.productionReadyAt = row.productionReadyAt ∧ row'.storageHolds = row.storageHolds := by
  cases h <;> exact ⟨rfl, rfl, rfl⟩

lemma evaluateSettlement_ok {quoted : QuotedTotal} {tendered : Int} {collected onAccount : Bool}
    {mode : FulfillmentMode} {shape : SettlementShape}
    (h : evaluateSettlement quoted tendered collected mode onAccount = .ok shape) :
    wholeVnd tendered ∧ quoted = ⟨some tendered, some tendered⟩ ∧
      shape = (if onAccount then .exactPaymentOnAccount
        else if collected then .exactPaymentSelfCollection
        else if mode ∉ modesExpectingReturn then .exactPaymentPrepaidSelfCollection
        else .exactPaymentPrepaidDelivery) ∧
      (collected = true → onAccount = false ∧ mode ∉ modesExpectingReturn) := by
  unfold evaluateSettlement at h
  by_cases hwhole : wholeVnd tendered
  swap
  · simp [hwhole] at h
  rw [if_neg (not_not.mpr hwhole)] at h
  obtain ⟨minimum, maximum⟩ := quoted
  cases minimum with
  | none => simp at h
  | some minimum =>
  cases maximum with
  | none => simp at h
  | some maximum =>
  dsimp only at h
  by_cases heq : minimum = maximum
  swap
  · simp [heq] at h
  subst heq
  rw [if_neg (by simp)] at h
  by_cases hmin : wholeVnd minimum
  swap
  · simp [hmin] at h
  rw [if_neg (not_not.mpr hmin)] at h
  by_cases hexact : tendered = minimum
  swap
  · simp [hexact] at h
  subst hexact
  rw [if_neg (by simp)] at h
  cases onAccount <;> cases collected <;> by_cases hmode : mode ∈ modesExpectingReturn <;>
    simp_all

lemma settlesAs_of_evaluate {row : OrderRow} {tendered : Int} {collected : Bool}
    {shape : SettlementShape}
    (h : evaluateSettlement row.quotedTotal tendered collected row.state.fulfillmentMode false =
      .ok shape)
    (hready : shape = .exactPaymentSelfCollection →
      row.state.production ∈ handoverReadyProduction) : SettlesAs row shape := by
  obtain ⟨-, -, hshape, hcollected⟩ := evaluateSettlement_ok h
  constructor
  · intro hself
    refine ⟨?_, hready hself⟩
    cases collected with
    | true => exact (hcollected rfl).2
    | false =>
      rw [hself] at hshape
      by_cases hmode : row.state.fulfillmentMode ∈ modesExpectingReturn <;> simp [hmode] at hshape
  · rintro rfl
    cases collected with
    | true => simp at hshape
    | false =>
      by_contra hmode
      simp [hmode] at hshape

lemma till_eq {row : OrderRow} {till : Payments.Order} (h : row.till = some till) :
    row.quotedTotal = ⟨some till.quotedTotalVnd, some till.quotedTotalVnd⟩ ∧
      till.commercial = row.state.commercial ∧ till.production = row.state.production ∧
      till.fulfillmentMode = row.state.fulfillmentMode ∧
      till.selfCollectionRecorded = row.state.selfCollectionRecorded ∧
      till.balance = row.state.balance ∧ till.payments = row.payments ∧
      till.settlement = row.settlement ∧ till.fixedFeeVnd = row.fixedFeeVnd ∧
      till.waived = row.waived := by
  unfold OrderRow.till at h
  split at h
  · next minimum maximum hmin hmax =>
    split at h
    · next heq =>
      cases h
      subst heq
      refine ⟨?_, rfl, rfl, rfl, rfl, rfl, rfl, rfl, rfl, rfl⟩
      rw [← hmin]
      nth_rewrite 2 [hmin]
      rw [← hmax]
    · cases h
  · cases h

lemma evaluatePayment_active {commercial : CommercialOrderStatus} {balance : OrderBalanceStatus}
    {charges : Option (List OrderCharge)} {paid amount : Int} {method : PaymentMethod}
    {seen collected : Bool} {reference : Option String} {a : PaymentAccepted}
    (h : evaluatePayment commercial balance charges paid amount method seen reference collected =
      .ok (.accepted a)) : commercial = .active := by
  by_contra hc
  simp [evaluatePayment, hc] at h

lemma ledgered_of_accepted {till : Payments.Order} {accepted : PaymentAccepted} :
    Ledgered till.payments (Payments.ledgered till accepted) := by
  unfold Payments.ledgered
  split
  · next hpos => exact .inr ⟨_, hpos, rfl⟩
  · exact .inl rfl

lemma entry_pay {row row' : OrderRow} {command : Payments.PaymentCommand}
    (h : takePayment row command = .ok row') : Entry row row' := by
  unfold takePayment at h
  split at h
  · cases h
  next till htill =>
  obtain ⟨till', h', hrow⟩ := bind_ok.mp h
  cases hrow
  rw [mapError_ok] at h'
  unfold Payments.record at h'
  obtain ⟨storage, -, h'⟩ := bind_ok.mp h'
  obtain ⟨charges, -, h'⟩ := bind_ok.mp h'
  obtain ⟨outcome, houtcome, h'⟩ := bind_ok.mp h'
  rw [mapError_ok] at houtcome
  obtain ⟨hquoted, hcommercial, hproduction, hmode, hself, hbalance, hpayments, hsettlement,
    hfixed, hwaived⟩ := till_eq htill
  cases outcome with
  | refused refusal => cases h'
  | accepted accepted =>
    have hactive : row.state.commercial = .active := by
      rw [← hcommercial]
      exact evaluatePayment_active houtcome
    obtain ⟨hpayable, _, _, -, -, htake⟩ := Payments.evaluatePayment_accepted houtcome
    rw [hbalance] at hpayable
    obtain ⟨hnonneg, -, -, -, hafter⟩ := Payments.takeAmount_accepted htake
    dsimp only at h'
    split at h'
    · next hcompletes =>
      obtain ⟨shape, hshape, h'⟩ := bind_ok.mp h'
      cases h'
      unfold Payments.settlingShape at hshape
      obtain ⟨shape', heval, hshape⟩ := bind_ok.mp hshape
      obtain ⟨_, hready, hshape⟩ := bind_ok.mp hshape
      cases hshape
      rw [mapError_ok, Payments.Order.quoted, ← hquoted, hmode] at heval
      rw [require_ok, hproduction] at hready
      have hpaid : accepted.balanceAfter = .paid := by
        simpa [PaymentAccepted.completes] using hcompletes
      have hledger := @ledgered_of_accepted till accepted
      rw [hpayments] at hledger
      have hentry := Entry.paidOff _ ⟨accepted.owedVnd, accepted.paidAfterVnd, shape⟩
        (if 0 < storage.amountVnd then some storage.amountVnd else till.fixedFeeVnd) hactive hpayable
        hledger (settlesAs_of_evaluate heval hready)
      simpa [OrderRow.withTill, Payments.writeSettling, hpaid, hself, hwaived] using hentry
    · next hcompletes =>
      cases h'
      rcases hafter with ⟨hpaid, -⟩ | ⟨hpartly, hpositive, -⟩
      · simp [PaymentAccepted.completes, hpaid] at hcompletes
      have hentry := Entry.paidPart hactive hpayable hpositive
      simpa [OrderRow.withTill, Payments.writePartial, Payments.ledgered, hpositive, hpartly, hself,
        hwaived, hpayments, hsettlement, hfixed] using hentry

lemma entry_waive {row row' : OrderRow} {moment : Int} (h : waive row moment = .ok row') :
    Entry row row' := by
  unfold waive at h
  split at h
  · cases h
  next till htill =>
  obtain ⟨till', h', hrow⟩ := bind_ok.mp h
  cases hrow
  rw [mapError_ok] at h'
  unfold Payments.waiveStorageFee at h'
  obtain ⟨storage, -, h'⟩ := bind_ok.mp h'
  obtain ⟨_, -, h'⟩ := bind_ok.mp h'
  obtain ⟨_, -, h'⟩ := bind_ok.mp h'
  obtain ⟨effect, heffect, h'⟩ := bind_ok.mp h'
  obtain ⟨hquoted, hcommercial, hproduction, hmode, hself, hbalance, hpayments, hsettlement,
    hfixed, hwaived⟩ := till_eq htill
  cases effect with
  | none => cases h'
  | some effect =>
    dsimp only at h'
    split at h'
    · obtain ⟨shape, heval, h'⟩ := bind_ok.mp h'
      obtain ⟨_, hpartly, h'⟩ := bind_ok.mp h'
      cases h'
      rw [mapError_ok, Payments.Order.quoted, ← hquoted, hmode] at heval
      rw [require_ok, hbalance] at hpartly
      have hnot : shape ≠ .exactPaymentSelfCollection := by
        obtain ⟨-, -, hshape, -⟩ := evaluateSettlement_ok heval
        rintro rfl
        by_cases hin : row.state.fulfillmentMode ∈ modesExpectingReturn <;> simp [hin] at hshape
      have hentry := Entry.waivedOff ⟨effect.owedAfterVnd, effect.owedAfterVnd, shape⟩
        (if 0 < effect.keptVnd then some effect.keptVnd else till.fixedFeeVnd) hpartly
        (settlesAs_of_evaluate heval fun hs => absurd hs hnot)
      simpa [OrderRow.withTill, Payments.writeWaiverSettlement, hself, hpayments] using hentry
    · cases h'
      have hentry := @Entry.waived row
      have hsame : { row.state with
          balance := row.state.balance
          selfCollectionRecorded := row.state.selfCollectionRecorded } = row.state := rfl
      simpa [OrderRow.withTill, hself, hpayments, hbalance, hsettlement, hfixed, hsame] using hentry

lemma entry_settle {row row' : OrderRow} {paid moment : Int} {collected : Bool}
    (h : settle row paid collected moment = .ok row') : Entry row row' := by
  unfold settle at h
  obtain ⟨_, hactive, h⟩ := bind_ok.mp h
  obtain ⟨_, -, h⟩ := bind_ok.mp h
  obtain ⟨_, hunpaid, h⟩ := bind_ok.mp h
  obtain ⟨fee, -, h⟩ := bind_ok.mp h
  obtain ⟨_, -, h⟩ := bind_ok.mp h
  obtain ⟨shape, heval, h⟩ := bind_ok.mp h
  obtain ⟨_, hready, h⟩ := bind_ok.mp h
  cases h
  rw [mapError_ok] at heval
  exact .settled (require_ok.mp hactive) (require_ok.mp hunpaid)
    (settlesAs_of_evaluate heval (require_ok.mp hready))

lemma entry_collect {row row' : OrderRow} (h : recordCollection row = .ok row') :
    Entry row row' := by
  unfold recordCollection at h
  split at h
  · cases h
  next hnone =>
  obtain ⟨_, hpaid, h⟩ := bind_ok.mp h
  cases h
  obtain ⟨hactive, -, -, hprepaid, hready⟩ := evaluateCollection_none.mp hnone
  exact .collected hactive (require_ok.mp hpaid) hready hprepaid

lemma recordLeg_ok {row row' : OrderRow} {leg : DeliveryLeg} :
    recordLeg row leg = .ok row' ↔
      row.state.commercial = .active ∧ row.state.fulfillmentMode ≠ .selfDropSelfCollect ∧
        (leg.legKind = .return → row.state.fulfillmentMode ∈ modesExpectingReturn ∧
          deliveryRefusal row.state.balance row.state.production = none) ∧
        (leg.legKind = .pickup → row.state.fulfillmentMode ∈ modesExpectingPickup) ∧
        (leg.outcome = .succeeded → leg ∉ row.deliveryLegs) ∧ row' = writeLeg row leg := by
  unfold recordLeg
  simp only [bind_ok, require_ok, exists_const]
  refine and_congr_right fun _ => and_congr_right fun _ => ?_
  rcases leg.legKind with _ | _
  · simp [eq_comm (a := row')]
  · cases deliveryRefusal row.state.balance row.state.production <;> simp [eq_comm (a := row')]

lemma entry_leg {row row' : OrderRow} {leg : DeliveryLeg} (h : recordLeg row leg = .ok row') :
    Entry row row' := by
  obtain ⟨hactive, -, hreturn, -, -, rfl⟩ := recordLeg_ok.mp h
  refine .leg hactive fun hkind => ?_
  obtain ⟨hmode, hrefusal⟩ := hreturn hkind
  exact ⟨hmode, deliveryRefusal_none.mp hrefusal⟩

lemma entry_charge {row row' : OrderRow} {standing : Option AccountStanding} {collected : Bool}
    {moment : Int} (h : chargeAccount row standing collected moment = .ok row') :
    Entry row row' := by
  unfold chargeAccount at h
  obtain ⟨owed, -, h⟩ := bind_ok.mp h
  obtain ⟨outcome, houtcome, h⟩ := bind_ok.mp h
  rw [mapError_ok] at houtcome
  cases outcome with
  | refused refusal => cases h
  | accepted accepted =>
    obtain ⟨_, -, h⟩ := bind_ok.mp h
    cases h
    obtain ⟨hactive, hpayable, hready, -, hmode, hcollected, -⟩ :=
      evaluateAccountCharge_accepted houtcome
    refine .charged hactive hpayable hready ?_
    rw [hcollected]
    exact hmode

lemma entry_allocate {row row' : OrderRow} {amount : Int} (h : allocate row amount = .ok row') :
    Entry row row' := by
  unfold allocate at h
  split at h
  · cases h
  next charge hcharge =>
  obtain ⟨_, honAccount, h⟩ := bind_ok.mp h
  obtain ⟨_, -, h⟩ := bind_ok.mp h
  obtain ⟨_, hpositive, h⟩ := bind_ok.mp h
  rw [require_ok] at honAccount hpositive
  split at h
  · obtain ⟨shape, heval, h⟩ := bind_ok.mp h
    cases h
    rw [mapError_ok] at heval
    obtain ⟨-, -, hshape, -⟩ := evaluateSettlement_ok heval
    rw [if_pos rfl] at hshape
    subst hshape
    exact .allocatedOff honAccount hpositive
  · cases h
    exact .allocatedPart honAccount hpositive

abbrev Changes : OrderRow → OrderRow → Prop := Relation.ReflTransGen Change

lemma changes_executePlan {chain : Option Int} {occurredAt : Datetime} {index : Nat}
    {row row' : OrderRow} {plan : List PlannedTransition}
    (h : executePlan chain occurredAt index row plan = .ok row') : Changes row row' := by
  induction plan generalizing index row with
  | nil =>
    cases h
    exact .refl
  | cons planned plan ih =>
    unfold executePlan at h
    obtain ⟨moment, -, h⟩ := bind_ok.mp h
    obtain ⟨row₁, h₁, h⟩ := bind_ok.mp h
    exact .head (.transition _ h₁) (ih h)

lemma attempt_cases {row row' : OrderRow} {command : Command}
    (h : attempt row command = .ok row') :
    (∃ c, command = .transition c ∧ transition row c = .ok row') ∨
      (∃ step args chain, command = .step step args chain ∧
        executeStep row step args chain = .ok row') ∨
      (∃ verdict chain occurredAt, command = .dispose verdict chain occurredAt ∧
        dispose row verdict chain occurredAt = .ok row') ∨ Entry row row' := by
  cases command with
  | transition command => exact .inl ⟨command, rfl, h⟩
  | step step args chain => exact .inr (.inl ⟨step, args, chain, rfl, h⟩)
  | dispose verdict chain occurredAt =>
    exact .inr (.inr (.inl ⟨verdict, chain, occurredAt, rfl, h⟩))
  | settle paid collected moment => exact .inr (.inr (.inr (entry_settle h)))
  | pay command => exact .inr (.inr (.inr (entry_pay h)))
  | collect => exact .inr (.inr (.inr (entry_collect h)))
  | leg leg => exact .inr (.inr (.inr (entry_leg h)))
  | waive moment => exact .inr (.inr (.inr (entry_waive h)))
  | charge standing collected moment => exact .inr (.inr (.inr (entry_charge h)))
  | accountPayment amount => exact .inr (.inr (.inr (entry_allocate h)))
  | publish policy =>
    cases h
    exact .inr (.inr (.inr .published))

lemma dispose_ok {row row' : OrderRow} {verdict : Bool} {chain : Option Int} {occurredAt : Datetime}
    (h : dispose row verdict chain occurredAt = .ok row') :
    awaitingPickup row.state.commercial row.state.production row.state.fulfillmentMode
        row.state.selfCollectionRecorded = true ∧
      ∃ first second reviewed,
        applyLockedTransition row (disposalCommand .cancellationReview none chain first) =
          .ok reviewed ∧
        applyLockedTransition reviewed
          (disposalCommand .cancelled (some .unclaimedDisposed) chain second) = .ok row' := by
  unfold dispose at h
  obtain ⟨_, hawaiting, h⟩ := bind_ok.mp h
  obtain ⟨_, -, h⟩ := bind_ok.mp h
  obtain ⟨_, -, h⟩ := bind_ok.mp h
  obtain ⟨first, -, h⟩ := bind_ok.mp h
  obtain ⟨second, -, h⟩ := bind_ok.mp h
  obtain ⟨reviewed, h₁, h⟩ := bind_ok.mp h
  exact ⟨require_ok.mp hawaiting, first, second, reviewed, h₁, h⟩

lemma changes_attempt {row row' : OrderRow} {command : Command}
    (h : attempt row command = .ok row') : Changes row row' := by
  rcases attempt_cases h with ⟨c, -, h⟩ | ⟨step, args, chain, -, h⟩ | ⟨_, _, _, -, h⟩ | hentry
  · exact .single (.transition _ h)
  · obtain ⟨plan, -, h⟩ := bind_ok.mp h
    exact changes_executePlan h
  · obtain ⟨-, _, _, reviewed, h₁, h₂⟩ := dispose_ok h
    exact .tail (.single (.transition _ h₁)) (.transition _ h₂)
  · exact .single (.entry hentry)

lemma run_induction {P : OrderRow → Prop} (hchange : ∀ row row', P row → Change row row' → P row')
    {row : OrderRow} (h : P row) (commands : List Command) : P (run row commands) := by
  have happly : ∀ row command, P row → P (apply row command) := by
    intro row command h
    unfold apply
    split
    · next row' hok =>
      have hchanges := changes_attempt hok
      clear hok
      induction hchanges with
      | refl => exact h
      | tail _ hlast ih => exact hchange _ _ ih hlast
    · exact h
  unfold run
  induction commands generalizing row with
  | nil => exact h
  | cons command commands ih => exact ih (happly row command h)

lemma applyLockedTransition_ok {row row' : OrderRow} {command : TransitionCommand}
    (h : applyLockedTransition row command = .ok row') :
    ∃ next refund holds, decideTransition row.state command = .ok next ∧
      holdsAfter row next command = .ok holds ∧
      (refunding row.state next → refundSource row ≠ none) ∧
      row' = { row with
        state := next
        refund := refund
        productionReadyAt := readyAtAfter row next command
        storageHolds := holds } := by
  unfold applyLockedTransition at h
  obtain ⟨next, hnext, h⟩ := bind_ok.mp h
  obtain ⟨refund, hrefund, h⟩ := bind_ok.mp h
  obtain ⟨netted, -, h⟩ := bind_ok.mp h
  obtain ⟨holds, hholds, h⟩ := bind_ok.mp h
  cases h
  refine ⟨next, _, holds, mapError_ok.mp hnext, hholds, fun hrefunding => ?_, rfl⟩
  unfold refundOf at hrefund
  rw [if_pos hrefunding, map_ok] at hrefund
  obtain ⟨_, hrefund, -⟩ := hrefund
  unfold refundForCancellation at hrefund
  intro hnone
  rw [hnone] at hrefund
  split at hrefund <;> cases hrefund

/-- The axis that a transition moved, under the checks made beside the domain's. -/
inductive AxisMove (s : OrderState) (command : TransitionCommand) (s' : OrderState) : Prop where
  | commercial (target : CommercialOrderStatus) (htarget : command.target = .commercial target)
      (hmove : CommercialMove s (.of command.custodyResolution command.unclaimedDisposalVerified)
        target s')
  | intake (target : IntakeStatus) (htarget : command.target = .intake target)
      (hopen : s.commercial ∉ terminalCommercialStatuses)
      (hintake : s.intake ≠ .accepted ∧ s.intake ≠ .rejected)
      (hmove : IntakeMove s command.intakeReadiness command.productionAcceptedAt target s')
  | production (target : ProductionStatus) (htarget : command.target = .production target)
      (hopen : s.commercial ∉ terminalCommercialStatuses) (haccepted : s.intake = .accepted)
      (hunstarted : target ≠ .notStarted ∧ target ≠ s.production)
      (hpaid : target = .released → goodsMayLeave s.balance = true)
      (hmove : ProductionMove s target s')

lemma decideTransition_ok {s s' : OrderState} {command : TransitionCommand} :
    decideTransition s command = .ok s' ↔
      domainTransition s command = .ok s' ∧ (refunding s s' ↔ command.refundMethod ≠ none) := by
  unfold decideTransition
  constructor
  · intro h
    obtain ⟨next, hnext, h⟩ := bind_ok.mp h
    obtain ⟨_, hneeded, h⟩ := bind_ok.mp h
    obtain ⟨_, hrefused, h⟩ := bind_ok.mp h
    cases h
    rw [require_ok] at hneeded hrefused
    refine ⟨hnext, hneeded, fun hm => ?_⟩
    by_contra hr
    exact hm (hrefused hr)
  · rintro ⟨hnext, hiff⟩
    rw [hnext, ok_bind, require_true hiff.mp, ok_bind, require_true]
    · rfl
    · intro hr
      by_contra hm
      exact hr (hiff.mpr hm)

lemma axisMove_of_decide {s s' : OrderState} {command : TransitionCommand}
    (h : decideTransition s command = .ok s') : AxisMove s command s' := by
  obtain ⟨h, -⟩ := decideTransition_ok.mp h
  unfold domainTransition at h
  cases htarget : command.target with
  | commercial target =>
    simp only [htarget] at h
    exact .commercial target htarget (transitionCommercial_ok.mp h).2
  | intake target =>
    simp only [htarget] at h
    obtain ⟨hopen, ha, hr, hmove⟩ := transitionIntake_ok.mp h
    exact .intake target htarget hopen ⟨ha, hr⟩ hmove
  | production target =>
    simp only [htarget] at h
    obtain ⟨next, hnext, h⟩ := bind_ok.mp h
    obtain ⟨_, hpaid, h⟩ := bind_ok.mp h
    cases h
    obtain ⟨hopen, hunstarted, hmoves, haccepted, hmove⟩ := transitionProduction_ok.mp hnext
    rw [require_ok, hmove.production_eq] at hpaid
    exact .production target htarget hopen haccepted ⟨hunstarted, hmoves⟩ hpaid hmove

end NhaTrangLaundry.Db.Orders
