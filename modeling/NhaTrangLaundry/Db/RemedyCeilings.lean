import NhaTrangLaundry.Db.Remedies

/-! The limits on remedies hold over every run of proposals, decisions and payments on an
order, and the second look never stops a live proposal that was written under them. -/

namespace NhaTrangLaundry.Db.Remedies

open Lib Outcome Sums Domain Catalog Canonical RemedyLimits

variable {Id : Type}

section Groups

variable {rows : List (RemedyProposal Id)}

lemma lineTotal_groupByGarment : lineTotal (groupByGarment rows) =
    (rows.map RemedyProposal.amount).sum := by
  rw [lineTotal, groupByGarment, List.map_map,
    ← sumIf_eq_sum (p := fun _ => True) (fun _ _ => trivial)]
  have hn : (((rows.map RemedyProposal.garmentIndex).dedup).map id).Nodup := by
    rw [List.map_id]
    exact List.nodup_dedup _
  refine (sumIf_sumIf_key hn).trans ?_
  refine sumIf_eq_sum fun row hrow => ⟨row.garmentIndex, ?_, trivial, rfl⟩
  exact List.mem_dedup.mpr (List.mem_map.mpr ⟨row, hrow, rfl⟩)

lemma lookup_map {κ : Type} [DecidableEq κ] [BEq κ] [LawfulBEq κ] (keys : List κ) (key : κ)
    (f : κ → Int) : (keys.map fun k => (k, f k)).lookup key =
      if key ∈ keys then some (f key) else none := by
  induction keys with
  | nil => rfl
  | cons k keys ih =>
    rw [List.map_cons, List.lookup_cons]
    by_cases hk : key = k
    · subst hk
      simp
    · have hne : (key == k) = false := by simpa using hk
      rw [hne, ih]
      simp [hk]

lemma amountOf_groupByGarment (garment : Option Int) :
    amountOf (groupByGarment rows) garment =
      sumIf rows (fun row => row.garmentIndex = garment) RemedyProposal.amount := by
  rw [amountOf, groupByGarment, lookup_map _ _ fun garment =>
    sumIf rows (fun row => row.garmentIndex = garment) RemedyProposal.amount]
  by_cases h : garment ∈ rows.map RemedyProposal.garmentIndex
  · rw [if_pos (List.mem_dedup.mpr h)]
    rfl
  · rw [if_neg fun hmem => h (List.mem_dedup.mp hmem)]
    refine (sumIf_eq_zero fun row hrow hgarment => h ?_).symm
    exact List.mem_map.mpr ⟨row, hrow, hgarment⟩

lemma committedAgainstGarment_groupByGarment (garment : Int) :
    committedAgainstGarment (groupByGarment rows) garment =
      sumIf rows (fun row => row.garmentIndex = some garment ∨ row.garmentIndex = none)
        RemedyProposal.amount := by
  rw [committedAgainstGarment, amountOf_groupByGarment, amountOf_groupByGarment]
  refine (sumIf_add fun row _ => ⟨Iff.rfl, ?_⟩).symm
  rintro ⟨h₁, h₂⟩
  rw [h₁] at h₂
  cases h₂

end Groups

/-- A proposal counts against the item that a garment of a line is: the garment where the line
has several with a fee each, the line otherwise. -/
def RemedyProposal.onItem (proposal : RemedyProposal Id) (terms : ItemCompensationTerms)
    (lineId : String) (garment : Int) : Bool :=
  proposal.onLine lineId && (!terms.perGarment ||
    (proposal.garmentIndex = some garment || proposal.garmentIndex = none))

def lineCommitted (proposals : List (RemedyProposal Id)) (lineId : String) : Int :=
  sumIf proposals (fun p => p.live ∧ p.onLine lineId) RemedyProposal.amount

def itemCommitted (proposals : List (RemedyProposal Id)) (terms : ItemCompensationTerms)
    (lineId : String) (garment : Int) : Int :=
  sumIf proposals (fun p => p.live ∧ p.onItem terms lineId garment) RemedyProposal.amount

def staffAuthorized (proposals : List (RemedyProposal Id)) (terms : ItemCompensationTerms)
    (lineId : String) (garment : Int) : Int :=
  sumIf proposals (fun p => p.live ∧ (p.onItem terms lineId garment && p.staff))
    RemedyProposal.amount

def lateCredits (proposals : List (RemedyProposal Id)) : Int :=
  sumIf proposals (fun p => p.live ∧ p.kind = .lateDeliveryCredit) fun _ => 1

/-- The limits that the owner's policy sets on the remedies of an order. -/
structure Limits (policy : RemedyPolicy) (facts : RemedyOrderFacts)
    (proposals : List (RemedyProposal Id)) : Prop where
  line : ∀ lineId terms, itemCompensationTerms policy facts lineId = some terms →
    lineCommitted proposals lineId ≤ terms.lineCeilingVnd
  item : ∀ lineId terms garment, itemCompensationTerms policy facts lineId = some terms →
    itemCommitted proposals terms lineId garment ≤ terms.ceilingVnd
  staff : ∀ lineId terms garment, itemCompensationTerms policy facts lineId = some terms →
    staffAuthorized proposals terms lineId garment ≤ policy.staffApprovalCeilingVnd
  late : lateCredits proposals ≤ 1

section Reads

variable {proposals : List (RemedyProposal Id)}

lemma sum_readLine (lineId : String) : lineTotal (readLineCommitments proposals lineId) =
    lineCommitted proposals lineId := by
  rw [readLineCommitments, lineTotal_groupByGarment, lineCommitted, sum_filter_bool]
  refine sumIf_congr fun p _ => ?_
  rw [Bool.and_eq_true, and_comm]

lemma against_readLine {terms : ItemCompensationTerms} (hper : terms.perGarment = true)
    (lineId : String) (garment : Int) :
    committedAgainstGarment (readLineCommitments proposals lineId) garment =
      itemCommitted proposals terms lineId garment := by
  rw [readLineCommitments, committedAgainstGarment_groupByGarment, itemCommitted,
    sumIf_filter_bool]
  refine sumIf_congr fun p _ => ?_
  simp only [RemedyProposal.onItem, hper, Bool.and_eq_true, Bool.or_eq_true, Bool.not_true,
    Bool.false_eq_true, false_or, decide_eq_true_eq]
  tauto

lemma itemCommitted_line {terms : ItemCompensationTerms} (hper : terms.perGarment = false)
    (lineId : String) (garment : Int) :
    itemCommitted proposals terms lineId garment = lineCommitted proposals lineId := by
  refine sumIf_congr fun p _ => ?_
  simp [RemedyProposal.onItem, hper]

lemma length_liveLate : ((proposals.filter RemedyProposal.liveLateCredit).length : Int) =
    lateCredits proposals := by
  have hlength : ((proposals.filter RemedyProposal.liveLateCredit).length : Int) =
      ((proposals.filter RemedyProposal.liveLateCredit).map fun _ => (1 : Int)).sum := by
    simp
  rw [hlength, sum_filter_bool]
  refine sumIf_congr fun p _ => ?_
  simp [RemedyProposal.liveLateCredit, and_comm]

end Reads

variable {policy : RemedyPolicy} {facts : RemedyOrderFacts}

def AmountsNonneg (proposals : List (RemedyProposal Id)) : Prop :=
  ∀ proposal ∈ proposals, proposal.kind ∈ itemKinds → 0 ≤ proposal.amount

lemma onLine_kind {proposal : RemedyProposal Id} {lineId : String}
    (h : proposal.onLine lineId = true) : proposal.kind ∈ itemKinds := by
  unfold RemedyProposal.onLine at h
  rw [Bool.and_eq_true, decide_eq_true_eq] at h
  exact h.1

lemma onItem_onLine {proposal : RemedyProposal Id} {terms : ItemCompensationTerms}
    {lineId : String} {garment : Int} (h : proposal.onItem terms lineId garment = true) :
    proposal.onLine lineId = true := by
  unfold RemedyProposal.onItem at h
  exact (Bool.and_eq_true _ _ ▸ h).1

lemma staffAuthorized_le {proposals : List (RemedyProposal Id)} (hnonneg : AmountsNonneg proposals)
    (terms : ItemCompensationTerms) (lineId : String) (garment : Int) :
    staffAuthorized proposals terms lineId garment ≤ itemCommitted proposals terms lineId garment := by
  refine sumIf_mono (fun p _ h => ⟨h.1, ?_⟩) fun p hp h => ?_
  · have := h.2
    rw [Bool.and_eq_true] at this
    exact this.1
  · exact hnonneg p hp (onLine_kind (onItem_onLine h.2))

lemma propose_writes [DecidableEq Id] {proposals proposals' : List (RemedyProposal Id)}
    {command : RemedyProposalCommand Id}
    (h : propose policy facts proposals command = .ok proposals') :
    ∃ locked outcome,
      readCommitments proposals command.request.orderLineId command.request.garmentIndex =
        .ok locked ∧
      evaluateRemedy policy facts command.request command.proposedAt locked =
        .ok (.authorized outcome) ∧
      command.id ∉ proposals.map RemedyProposal.id ∧
      proposals' = proposals ++ [proposalRow command.id command.request outcome] := by
  unfold propose at h
  obtain ⟨outcome, houtcome, h⟩ := bind_ok.mp h
  obtain ⟨_, -, h⟩ := bind_ok.mp h
  obtain ⟨locked, hlocked, h⟩ := bind_ok.mp h
  rw [mapError_ok] at hlocked
  have hdecided : ∀ prior, decideRemedy policy facts command.request command.proposedAt prior =
      .ok outcome → evaluateRemedy policy facts command.request command.proposedAt prior =
        .ok (.authorized outcome) := by
    intro prior hprior
    obtain ⟨result, hresult, hprior⟩ := bind_ok.mp hprior
    rw [mapError_ok] at hresult
    cases result with
    | refused refused => cases hprior
    | authorized authorized =>
      cases hprior
      exact hresult
  obtain ⟨_, hcheck, h⟩ := bind_ok.mp h
  obtain ⟨_, hfresh, h⟩ := bind_ok.mp h
  rw [require_ok] at hfresh
  cases h
  refine ⟨locked, outcome, hlocked, ?_, hfresh, rfl⟩
  unfold confirmLocked at hcheck
  split at hcheck
  · next hsame =>
    rw [hsame]
    exact hdecided _ houtcome
  · obtain ⟨recheck, hrecheck, hcheck⟩ := bind_ok.mp hcheck
    rw [require_ok] at hcheck
    subst hcheck
    exact hdecided locked hrecheck

lemma readCommitments_ok {proposals : List (RemedyProposal Id)} {orderLineId : Option String}
    {garmentIndex : Option Int} {locked : RemedyCommitments}
    (h : readCommitments proposals orderLineId garmentIndex = .ok locked) :
    locked.lateDeliveryCredits = lateCredits proposals ∧
      ∀ lineId, orderLineId = some lineId →
        locked.lineCommittedVnd = lineCommitted proposals lineId ∧
        ∀ terms index, terms.perGarment = true → garmentIndex = some index →
          locked.againstGarment = itemCommitted proposals terms lineId index := by
  unfold readCommitments remedyCommitments at h
  dsimp only at h
  split at h
  · cases h
    refine ⟨length_liveLate, fun lineId hline => ?_⟩
    subst hline
    refine ⟨sum_readLine lineId, fun terms index hper hindex => ?_⟩
    subst hindex
    exact against_readLine hper lineId index
  · cases h

lemma itemPrior_eq {proposals : List (RemedyProposal Id)} {request : RemedyRequest}
    {locked : RemedyCommitments} {lineId : String} {terms : ItemCompensationTerms}
    {garment : Option Int} {index : Int}
    (hread : readCommitments proposals request.orderLineId request.garmentIndex = .ok locked)
    (hline : request.orderLineId = some lineId)
    (hgarment : resolveGarment terms request.garmentIndex = .ok garment)
    (hindex : terms.perGarment = true → garment = some index) :
    itemPrior terms locked = itemCommitted proposals terms lineId index := by
  obtain ⟨-, hreads⟩ := readCommitments_ok hread
  obtain ⟨hlineSum, hitemSum⟩ := hreads lineId hline
  unfold itemPrior
  cases hper : terms.perGarment with
  | true =>
    obtain ⟨named, hnamed, hnamed'⟩ := resolveGarment_named hgarment hper
    have hsame : named = index := by
      have := hindex hper
      rw [hnamed'] at this
      exact Option.some.inj this
    rw [if_pos rfl]
    exact hitemSum terms index hper (hsame ▸ hnamed)
  | false =>
    rw [if_neg (by simp), itemCommitted_line hper]
    exact hlineSum

lemma sumIf_snoc {proposals : List (RemedyProposal Id)} {row : RemedyProposal Id}
    {p : RemedyProposal Id → Prop} [DecidablePred p] {f : RemedyProposal Id → Int} :
    sumIf (proposals ++ [row]) p f = sumIf proposals p f + if p row then f row else 0 := by
  rw [sumIf_append, sumIf_cons]
  exact congrArg _ (Int.add_zero _)

lemma Limits.snoc_other {proposals : List (RemedyProposal Id)} {row : RemedyProposal Id}
    (hl : Limits policy facts proposals) (hkind : row.kind ∉ itemKinds)
    (hlate : row.kind = .lateDeliveryCredit → lateCredits proposals = 0) :
    Limits policy facts (proposals ++ [row]) := by
  have hoff : ∀ lineId, row.onLine lineId = false := by
    intro lineId
    by_contra hon
    exact hkind (onLine_kind (by simpa using hon))
  have hoff' : ∀ terms lineId garment, row.onItem terms lineId garment = false := by
    intro terms lineId garment
    simp [RemedyProposal.onItem, hoff]
  refine ⟨fun lineId terms hterms => ?_, fun lineId terms garment hterms => ?_,
    fun lineId terms garment hterms => ?_, ?_⟩
  · rw [lineCommitted, sumIf_snoc, if_neg (by simp [hoff]), Int.add_zero]
    exact hl.line lineId terms hterms
  · rw [itemCommitted, sumIf_snoc, if_neg (by simp [hoff']), Int.add_zero]
    exact hl.item lineId terms garment hterms
  · rw [staffAuthorized, sumIf_snoc, if_neg (by simp [hoff']), Int.add_zero]
    exact hl.staff lineId terms garment hterms
  · rw [lateCredits, sumIf_snoc]
    have hbefore := hl.late
    split
    · next hin =>
      have hzero := hlate hin.2
      rw [lateCredits] at hzero
      omega
    · exact (Int.add_zero _).symm ▸ hbefore

lemma Limits.snoc_item {proposals : List (RemedyProposal Id)} {id : Id} {request : RemedyRequest}
    {locked : RemedyCommitments} {outcome : RemedyAuthorized} {lineId : String} {amountVnd : Int}
    {terms : ItemCompensationTerms} (hl : Limits policy facts proposals)
    (hnonneg : AmountsNonneg proposals)
    (hread : readCommitments proposals request.orderLineId request.garmentIndex = .ok locked)
    (hkind : request.kind ∈ itemKinds) (hline : request.orderLineId = some lineId)
    (hterms : itemCompensationTerms policy facts lineId = some terms)
    (hitem : ItemAuthorized policy terms request locked amountVnd outcome) :
    Limits policy facts (proposals ++ [proposalRow id request outcome]) := by
  set row := proposalRow id request outcome with hrow
  have hamount : row.amount = amountVnd := by
    rw [hrow, RemedyProposal.amount]
    exact (congrArg (Option.getD · 0) hitem.amount)
  have honLine : ∀ other, row.onLine other = true → other = lineId := by
    intro other hon
    unfold RemedyProposal.onLine at hon
    rw [Bool.and_eq_true, decide_eq_true_eq, decide_eq_true_eq] at hon
    exact Option.some.inj (hon.2.symm.trans hline)
  -- Where the row counts against an item, the item is the one it was decided over.
  have hprior : ∀ garment, row.onItem terms lineId garment = true →
      itemPrior terms locked = itemCommitted proposals terms lineId garment := by
    intro garment hon
    refine itemPrior_eq hread hline hitem.garment fun hper => ?_
    obtain ⟨index, -, hindex⟩ := resolveGarment_named hitem.garment hper
    have hgarment : row.garmentIndex = some garment ∨ row.garmentIndex = none := by
      simpa [RemedyProposal.onItem, hper, onItem_onLine hon] using hon
    rcases hgarment with h | h
    · exact h
    · exact absurd (hindex.symm.trans h) (by simp)
  obtain ⟨hlineSum, -⟩ := (readCommitments_ok hread).2 lineId hline
  refine ⟨fun other terms' hterms' => ?_, fun other terms' garment hterms' => ?_,
    fun other terms' garment hterms' => ?_, ?_⟩
  · rw [lineCommitted, sumIf_snoc]
    split
    · next hin =>
      obtain rfl := honLine other hin.2
      obtain rfl := Option.some.inj (hterms.symm.trans hterms')
      have hbound := hitem.withinLine
      rw [hlineSum, lineCommitted] at hbound
      rwa [hamount]
    · exact (Int.add_zero _).symm ▸ hl.line other terms' hterms'
  · rw [itemCommitted, sumIf_snoc]
    split
    · next hin =>
      obtain rfl := honLine other (onItem_onLine hin.2)
      obtain rfl := Option.some.inj (hterms.symm.trans hterms')
      have hbound := hitem.withinItem
      rw [hprior garment hin.2, itemCommitted] at hbound
      rwa [hamount]
    · exact (Int.add_zero _).symm ▸ hl.item other terms' garment hterms'
  · rw [staffAuthorized, sumIf_snoc]
    split
    · next hin =>
      have hin' : row.onItem terms' other garment = true ∧ row.staff = true := by
        simpa only [Bool.and_eq_true] using hin.2
      obtain rfl := honLine other (onItem_onLine hin'.1)
      obtain rfl := Option.some.inj (hterms.symm.trans hterms')
      have hstaff : outcome.requiresOwnerApproval = false := by
        by_contra howner
        have : row.staff = false := by
          simp [hrow, RemedyProposal.staff, proposalRow, Bool.eq_true_of_not_eq_false howner]
        rw [this] at hin'
        exact absurd hin'.2 (by simp)
      have hbound := (hitem.byStaff hstaff).2
      rw [hprior garment hin'.1] at hbound
      have hpart := staffAuthorized_le hnonneg terms other garment
      rw [staffAuthorized] at hpart
      rw [hamount]
      omega
    · exact (Int.add_zero _).symm ▸ hl.staff other terms' garment hterms'
  · rw [lateCredits, sumIf_snoc, if_neg]
    · exact (Int.add_zero _).symm ▸ hl.late
    · rintro ⟨-, hlate⟩
      rw [show row.kind = request.kind from rfl] at hlate
      rw [hlate] at hkind
      exact absurd hkind (by decide)

section Replaced

variable [DecidableEq Id] {proposals : List (RemedyProposal Id)} {id : Id}
  {change : RemedyProposal Id → RemedyProposal Id}

lemma sumIf_replaceRow_le {p : RemedyProposal Id → Prop} [DecidablePred p]
    {f : RemedyProposal Id → Int} (hf : ∀ row ∈ proposals, p row → 0 ≤ f row)
    (hchange : ∀ row ∈ proposals, row.id = id →
      (p (change row) → p row) ∧ f (change row) = f row) :
    sumIf (replaceRow proposals id change) p f ≤ sumIf proposals p f := by
  rw [replaceRow, sumIf_map]
  have hsame : sumIf proposals
      (fun row => p (if row.id = id then change row else row))
      (fun row => f (if row.id = id then change row else row)) =
      sumIf proposals (fun row => p (if row.id = id then change row else row)) f := by
    refine sumIf_congr_fun fun row hrow _ => ?_
    split
    · next h => exact (hchange row hrow h).2
    · rfl
  rw [hsame]
  refine sumIf_mono (fun row hrow h => ?_) hf
  split at h
  · next hid => exact (hchange row hrow hid).1 h
  · exact h

/-- A change of a row that keeps what it claims, and never revives it. -/
structure Fades (row row' : RemedyProposal Id) : Prop where
  id : row'.id = row.id
  kind : row'.kind = row.kind
  amount : row'.amountVnd = row.amountVnd
  ceiling : row'.ceilingVnd = row.ceilingVnd
  line : row'.orderLineId = row.orderLineId
  garment : row'.garmentIndex = row.garmentIndex
  staff : row'.staff = row.staff
  live : row'.live = true → row.live = true

lemma Limits.replaceRow (hl : Limits policy facts proposals) (hnonneg : AmountsNonneg proposals)
    (hfades : ∀ row ∈ proposals, row.id = id → Fades row (change row)) :
    Limits policy facts (replaceRow proposals id change) := by
  have honLine : ∀ row ∈ proposals, row.id = id → ∀ lineId,
      (change row).onLine lineId = row.onLine lineId := by
    intro row hrow hid lineId
    have h := hfades row hrow hid
    simp only [RemedyProposal.onLine, h.kind, h.line]
  have honItem : ∀ row ∈ proposals, row.id = id → ∀ terms lineId garment,
      (change row).onItem terms lineId garment = row.onItem terms lineId garment := by
    intro row hrow hid terms lineId garment
    simp only [RemedyProposal.onItem, honLine row hrow hid, (hfades row hrow hid).garment]
  have hamount : ∀ row ∈ proposals, row.id = id → (change row).amount = row.amount := by
    intro row hrow hid
    simp only [RemedyProposal.amount, (hfades row hrow hid).amount]
  refine ⟨fun lineId terms hterms => ?_, fun lineId terms garment hterms => ?_,
    fun lineId terms garment hterms => ?_, ?_⟩
  · refine le_trans (sumIf_replaceRow_le ?_ fun row hrow hid => ⟨fun h => ?_, ?_⟩)
      (hl.line lineId terms hterms)
    · exact fun row hrow h => hnonneg row hrow (onLine_kind h.2)
    · exact ⟨(hfades row hrow hid).live h.1, honLine row hrow hid lineId ▸ h.2⟩
    · exact hamount row hrow hid
  · refine le_trans (sumIf_replaceRow_le ?_ fun row hrow hid => ⟨fun h => ?_, ?_⟩)
      (hl.item lineId terms garment hterms)
    · exact fun row hrow h => hnonneg row hrow (onLine_kind (onItem_onLine h.2))
    · exact ⟨(hfades row hrow hid).live h.1, honItem row hrow hid terms lineId garment ▸ h.2⟩
    · exact hamount row hrow hid
  · refine le_trans (sumIf_replaceRow_le ?_ fun row hrow hid => ⟨fun h => ?_, ?_⟩)
      (hl.staff lineId terms garment hterms)
    · intro row hrow h
      have hon := (Bool.and_eq_true _ _ ▸ h.2).1
      exact hnonneg row hrow (onLine_kind (onItem_onLine hon))
    · refine ⟨(hfades row hrow hid).live h.1, ?_⟩
      have hin := h.2
      rwa [honItem row hrow hid, (hfades row hrow hid).staff] at hin
    · exact hamount row hrow hid
  · refine le_trans (sumIf_replaceRow_le ?_ fun row hrow hid => ⟨fun h => ?_, rfl⟩) hl.late
    · exact fun _ _ _ => by decide
    · exact ⟨(hfades row hrow hid).live h.1, (hfades row hrow hid).kind ▸ h.2⟩

lemma map_id_replaceRow (hkeeps : ∀ row ∈ proposals, row.id = id → (change row).id = row.id) :
    (replaceRow proposals id change).map RemedyProposal.id = proposals.map RemedyProposal.id := by
  rw [replaceRow, List.map_map]
  refine List.map_congr_left fun row hrow => ?_
  simp only [Function.comp_apply]
  split
  · next h => exact hkeeps row hrow h
  · rfl

end Replaced

section Steps

variable [DecidableEq Id] {proposals proposals' : List (RemedyProposal Id)} {id : Id}

lemma found_unique (hids : (proposals.map RemedyProposal.id).Nodup) {found : RemedyProposal Id}
    (h : proposals.find? (fun proposal => proposal.id = id) = some found)
    {row : RemedyProposal Id} (hrow : row ∈ proposals) (hid : row.id = id) : row = found := by
  have hfound : found.id = id := by simpa using List.find?_some h
  exact List.inj_on_of_nodup_map hids hrow (List.mem_of_find?_eq_some h) (hid.trans hfound.symm)

lemma decideEnvelope_writes {status : ApprovalStatus}
    (hids : (proposals.map RemedyProposal.id).Nodup)
    (h : decideEnvelope proposals id status = .ok proposals') :
    ∃ change, proposals' = replaceRow proposals id change ∧
      ∀ row ∈ proposals, row.id = id → Fades row (change row) := by
  unfold decideEnvelope at h
  split at h
  · cases h
  next found hfound =>
  split at h
  · cases h
  next current hcurrent =>
  obtain ⟨_, hmove, h⟩ := bind_ok.mp h
  rw [require_ok] at hmove
  cases h
  refine ⟨_, rfl, fun row hrow hid => ?_⟩
  obtain rfl := found_unique hids hfound hrow hid
  refine ⟨rfl, rfl, rfl, rfl, rfl, rfl, ?_, fun _ => ?_⟩
  · simp [RemedyProposal.staff, hcurrent]
  · by_contra hdead
    have hmember : current ∈ deadEnvelopeStatuses := by
      by_contra hnot
      simp [RemedyProposal.live, hcurrent, hnot] at hdead
    revert hmember hmove
    cases current <;> simp [deadEnvelopeStatuses, approvalMoves]

omit [DecidableEq Id] in
lemma mayExecute_live {proposal : RemedyProposal Id} {bound : Bool}
    (h : mayExecute proposal bound = .ok ()) :
    proposal.live = true ∧ proposal.status ≠ .executed := by
  unfold mayExecute at h
  obtain ⟨_, -, h⟩ := bind_ok.mp h
  obtain ⟨_, -, h⟩ := bind_ok.mp h
  obtain ⟨_, hnot, h⟩ := bind_ok.mp h
  rw [require_ok] at hnot
  refine ⟨?_, hnot⟩
  split at h
  · obtain ⟨_, -, h⟩ := bind_ok.mp h
    obtain ⟨_, -, h⟩ := bind_ok.mp h
    rw [require_ok] at h
    simp [RemedyProposal.live, h, deadEnvelopeStatuses]
  · next hstatus => simp [RemedyProposal.live, hstatus]

lemma execute_writes {bound : Bool} (hids : (proposals.map RemedyProposal.id).Nodup)
    (h : execute policy facts proposals id bound = .ok proposals') :
    ∃ change, proposals' = replaceRow proposals id change ∧
      ∀ row ∈ proposals, row.id = id → Fades row (change row) := by
  unfold execute at h
  split at h
  · cases h
  next found hfound =>
  obtain ⟨_, hmay, h⟩ := bind_ok.mp h
  obtain ⟨_, -, h⟩ := bind_ok.mp h
  cases h
  refine ⟨_, rfl, fun row hrow hid => ?_⟩
  obtain rfl := found_unique hids hfound hrow hid
  exact ⟨rfl, rfl, rfl, rfl, rfl, rfl, rfl, fun _ => (mayExecute_live hmay).1⟩

end Steps

/-- What `propose` wrote of a claim on an item. -/
def Written (policy : RemedyPolicy) (facts : RemedyOrderFacts) (proposal : RemedyProposal Id) :
    Prop :=
  proposal.kind ∈ itemKinds → ∃ lineId terms amountVnd, proposal.orderLineId = some lineId ∧
    itemCompensationTerms policy facts lineId = some terms ∧
    proposal.amountVnd = some amountVnd ∧ proposal.ceilingVnd = some terms.ceilingVnd ∧
    amountVnd ≤ terms.ceilingVnd ∧
    (terms.perGarment = true → proposal.garmentIndex.isSome = true) ∧
    (proposal.staff = true → terms.ownerAlways = [])

lemma Fades.written {row row' : RemedyProposal Id} (h : Fades row row')
    (hw : Written policy facts row) : Written policy facts row' := by
  intro hkind
  obtain ⟨lineId, terms, amountVnd, hline, hterms, hamount, hceiling, hwithin, hgarment, hstaff⟩ :=
    hw (h.kind ▸ hkind)
  refine ⟨lineId, terms, amountVnd, h.line.trans hline, hterms, h.amount.trans hamount,
    h.ceiling.trans hceiling, hwithin, fun hper => ?_, fun hs => hstaff (h.staff ▸ hs)⟩
  rw [h.garment]
  exact hgarment hper

/-- Rows within the limits, no two of one id. -/
structure Within (policy : RemedyPolicy) (facts : RemedyOrderFacts)
    (proposals : List (RemedyProposal Id)) : Prop where
  ids : (proposals.map RemedyProposal.id).Nodup
  nonneg : AmountsNonneg proposals
  limits : Limits policy facts proposals

/-- The invariant of a run: the rows stay within the limits, and those that were not there at
the start are as `propose` wrote them. -/
structure Kept (policy : RemedyPolicy) (facts : RemedyOrderFacts)
    (legacy proposals : List (RemedyProposal Id)) : Prop extends Within policy facts proposals where
  written : ∀ proposal ∈ proposals, proposal.id ∉ legacy.map RemedyProposal.id →
    Written policy facts proposal

section Runs

variable [DecidableEq Id] {legacy proposals : List (RemedyProposal Id)}

lemma Kept.replaceRow {id : Id} {change : RemedyProposal Id → RemedyProposal Id}
    (hk : Kept policy facts legacy proposals)
    (hfades : ∀ row ∈ proposals, row.id = id → Fades row (change row)) :
    Kept policy facts legacy (replaceRow proposals id change) := by
  have hids : (Remedies.replaceRow proposals id change).map RemedyProposal.id =
      proposals.map RemedyProposal.id :=
    map_id_replaceRow fun row hrow hid => (hfades row hrow hid).id
  refine ⟨⟨hids ▸ hk.ids, fun row' hrow' hkind => ?_, hk.limits.replaceRow hk.nonneg hfades⟩,
    fun row' hrow' hnew => ?_⟩
  · obtain ⟨row, hrow, rfl⟩ := List.mem_map.mp hrow'
    split at hkind
    · next hid =>
      have h := hfades row hrow hid
      rw [if_pos hid, RemedyProposal.amount, h.amount]
      exact hk.nonneg row hrow (h.kind ▸ hkind)
    · next hid =>
      rw [if_neg hid]
      exact hk.nonneg row hrow hkind
  · obtain ⟨row, hrow, rfl⟩ := List.mem_map.mp hrow'
    split at hnew
    · next hid =>
      have h := hfades row hrow hid
      rw [if_pos hid]
      exact h.written (hk.written row hrow (h.id ▸ hnew))
    · next hid =>
      rw [if_neg hid]
      exact hk.written row hrow hnew

omit [DecidableEq Id] in
lemma Kept.snoc {row : RemedyProposal Id} (hk : Kept policy facts legacy proposals)
    (hfresh : row.id ∉ proposals.map RemedyProposal.id)
    (hnonneg : row.kind ∈ itemKinds → 0 ≤ row.amount)
    (hlimits : Limits policy facts (proposals ++ [row])) (hwritten : Written policy facts row) :
    Kept policy facts legacy (proposals ++ [row]) := by
  refine ⟨⟨?_, fun other hother hkind => ?_, hlimits⟩, fun other hother hlegacy => ?_⟩
  · rw [List.map_append]
    refine hk.ids.append (List.nodup_singleton _) ?_
    rw [List.map_singleton, List.disjoint_singleton]
    exact hfresh
  · rcases List.mem_append.mp hother with hold | hnew
    · exact hk.nonneg other hold hkind
    · rw [List.mem_singleton.mp hnew] at hkind ⊢
      exact hnonneg hkind
  · rcases List.mem_append.mp hother with hold | hnew
    · exact hk.written other hold hlegacy
    · rw [List.mem_singleton.mp hnew]
      exact hwritten

omit [DecidableEq Id] in
lemma written_proposalRow {id : Id} {request : RemedyRequest} {locked : RemedyCommitments}
    {outcome : RemedyAuthorized} {lineId : String} {amountVnd : Int}
    {terms : ItemCompensationTerms} (hline : request.orderLineId = some lineId)
    (hterms : itemCompensationTerms policy facts lineId = some terms)
    (hitem : ItemAuthorized policy terms request locked amountVnd outcome) :
    Written policy facts (proposalRow id request outcome) := by
  refine fun _ => ⟨lineId, terms, amountVnd, hline, hterms, hitem.amount, hitem.ceiling,
    hitem.withinClaim, fun hper => ?_, fun hstaff => ?_⟩
  · obtain ⟨index, -, hindex⟩ := resolveGarment_named hitem.garment hper
    exact Option.isSome_iff_exists.mpr ⟨index, hindex⟩
  · refine (hitem.byStaff ?_).1
    by_contra howner
    simp [RemedyProposal.staff, proposalRow, Bool.eq_true_of_not_eq_false howner] at hstaff

lemma Kept.propose {proposals' : List (RemedyProposal Id)} {command : RemedyProposalCommand Id}
    (hk : Kept policy facts legacy proposals)
    (h : propose policy facts proposals command = .ok proposals') :
    Kept policy facts legacy proposals' := by
  obtain ⟨locked, outcome, hread, heval, hfresh, rfl⟩ := propose_writes h
  have hkindRow : (proposalRow command.id command.request outcome).kind = command.request.kind := rfl
  rcases evaluateRemedy_authorized heval with ⟨hlate, hzero⟩ | hfree |
    ⟨hkind, lineId, amountVnd, terms, hline, hterms, hitem⟩
  · have hnot : (proposalRow command.id command.request outcome).kind ∉ itemKinds := by
      rw [hkindRow, hlate]
      decide
    refine hk.snoc hfresh (fun hkind => absurd hkind hnot)
      (hk.limits.snoc_other hnot fun _ => ?_) fun hkind => absurd hkind hnot
    rw [← (readCommitments_ok hread).1]
    exact hzero
  · have hnot : (proposalRow command.id command.request outcome).kind ∉ itemKinds := by
      rw [hkindRow, hfree]
      decide
    refine hk.snoc hfresh (fun hkind => absurd hkind hnot)
      (hk.limits.snoc_other hnot fun hlate => ?_) fun hkind => absurd hkind hnot
    rw [hkindRow, hfree] at hlate
    cases hlate
  · refine hk.snoc hfresh (fun _ => ?_)
      (hk.limits.snoc_item hk.nonneg hread hkind hline hterms hitem)
      (written_proposalRow hline hterms hitem)
    have hamount : (proposalRow command.id command.request outcome).amount = amountVnd :=
      congrArg (Option.getD · 0) hitem.amount
    rw [hamount]
    exact hitem.nonneg

lemma Kept.apply (hk : Kept policy facts legacy proposals) (command : Command Id) :
    Kept policy facts legacy (apply policy facts proposals command) := by
  unfold Remedies.apply
  cases hattempt : attempt policy facts proposals command with
  | error e => exact hk
  | ok proposals' =>
    dsimp only
    cases command with
    | propose command => exact hk.propose hattempt
    | decide id status =>
      obtain ⟨change, rfl, hfades⟩ := decideEnvelope_writes hk.ids hattempt
      exact hk.replaceRow hfades
    | execute id bound =>
      obtain ⟨change, rfl, hfades⟩ := execute_writes hk.ids hattempt
      exact hk.replaceRow hfades

lemma kept_run (hk : Kept policy facts legacy proposals) (commands : List (Command Id)) :
    Kept policy facts legacy (run policy facts proposals commands) := by
  induction commands generalizing proposals with
  | nil => exact hk
  | cons command rest ih => exact ih (hk.apply command)

omit [DecidableEq Id] in
lemma Within.kept (h : Within policy facts legacy) : Kept policy facts legacy legacy :=
  ⟨h, fun proposal hmem hnew => absurd (List.mem_map.mpr ⟨proposal, hmem, rfl⟩) hnew⟩

end Runs

section Recheck

variable [DecidableEq Id] {proposals : List (RemedyProposal Id)} {proposal : RemedyProposal Id}
  {lineId : String} {terms : ItemCompensationTerms}

omit [DecidableEq Id] in
lemma executed_live {row : RemedyProposal Id} (h : row.status = .executed) : row.live = true := by
  simp [RemedyProposal.live, h]

lemma paid_add_le (hnonneg : AmountsNonneg proposals) (hmem : proposal ∈ proposals)
    (hlive : proposal.live = true) {r : RemedyProposal Id → Prop} [DecidablePred r]
    (hline : ∀ row, r row → row.onLine lineId = true) (hr : r proposal) :
    sumIf (paidBeside proposals proposal.id lineId) r RemedyProposal.amount + proposal.amount ≤
      sumIf proposals (fun row => row.live ∧ r row) RemedyProposal.amount := by
  rw [paidBeside, sumIf_filter_bool]
  refine sumIf_add_le (fun row _ h => ?_) (fun row hrow h => ?_) hmem ?_ ⟨hlive, hr⟩
  · have hpaid : row.status = .executed := by
      have := h.1
      simp only [Bool.and_eq_true, decide_eq_true_eq] at this
      exact this.1.2
    exact ⟨executed_live hpaid, h.2⟩
  · exact hnonneg row hrow (onLine_kind (hline row h.2))
  · rintro ⟨h, -⟩
    simp at h

omit [DecidableEq Id] in
lemma paidOnItem_eq {rows : List (RemedyProposal Id)} {garment : Option Int} {index : Int}
    (hrows : ∀ row ∈ rows, row.onLine lineId = true)
    (hindex : terms.perGarment = true → garment = some index) :
    paidOnItem terms garment (groupByGarment rows) =
      sumIf rows (fun row => row.onItem terms lineId index) RemedyProposal.amount := by
  unfold paidOnItem
  cases hper : terms.perGarment with
  | true =>
    rw [if_pos rfl, hindex hper]
    dsimp only
    rw [committedAgainstGarment_groupByGarment]
    refine sumIf_congr fun row hrow => ?_
    simp [RemedyProposal.onItem, hper, hrows row hrow]
  | false =>
    rw [if_neg (by simp), lineTotal_groupByGarment]
    refine (sumIf_eq_sum fun row hrow => ?_).symm
    simp [RemedyProposal.onItem, hper, hrows row hrow]

lemma paidOnItemByStaff_eq {garment : Option Int} {index : Int}
    {paid : List (Option Int × Int)} (hindex : terms.perGarment = true → garment = some index) :
    paidOnItemByStaff terms garment paid = paidOnItem terms garment paid := by
  unfold paidOnItemByStaff paidOnItem
  split
  · next hper => rw [hindex hper]
  · rfl

lemma paidBeside_onLine (id : Id) :
    ∀ row ∈ paidBeside proposals id lineId, row.onLine lineId = true := by
  intro row hrow
  have := (List.mem_filter.mp hrow).2
  simp only [Bool.and_eq_true] at this
  exact this.1.1

/-- A live claim that `propose` wrote passes the second look. -/
lemma recheckItem_ok {amountVnd : Int} (hw : Within policy facts proposals)
    (hmem : proposal ∈ proposals) (hlive : proposal.live = true)
    (hkind : proposal.kind ∈ itemKinds) (hline : proposal.orderLineId = some lineId)
    (hterms : itemCompensationTerms policy facts lineId = some terms)
    (hamount : proposal.amountVnd = some amountVnd) (hwithin : amountVnd ≤ terms.ceilingVnd)
    (hgarment : terms.perGarment = true → proposal.garmentIndex.isSome = true)
    (hstaff : proposal.staff = true → terms.ownerAlways = []) :
    recheckItem policy facts proposals proposal lineId amountVnd terms.ceilingVnd = .ok () := by
  have hself : proposal.amount = amountVnd := congrArg (Option.getD · 0) hamount
  have honLine : proposal.onLine lineId = true := by
    simp [RemedyProposal.onLine, hkind, hline]
  obtain ⟨index, hindex⟩ : ∃ index, terms.perGarment = true → proposal.garmentIndex = some index := by
    cases hg : proposal.garmentIndex with
    | some index => exact ⟨index, fun _ => rfl⟩
    | none => exact ⟨0, fun hper => by simp [hg] at hgarment; exact absurd hper (by simp [hgarment])⟩
  have honItem : proposal.onItem terms lineId index = true := by
    cases hper : terms.perGarment with
    | true => simp [RemedyProposal.onItem, hper, honLine, hindex hper]
    | false => simp [RemedyProposal.onItem, hper, honLine]
  have hrows : ∀ row ∈ paidBeside proposals proposal.id lineId, row.onLine lineId = true :=
    paidBeside_onLine proposal.id
  have hpaidLine := paid_add_le hw.nonneg hmem hlive (r := fun row => row.onLine lineId)
    (fun _ h => h) honLine
  have hpaidItem := paid_add_le hw.nonneg hmem hlive (r := fun row => row.onItem terms lineId index)
    (fun _ h => onItem_onLine h) honItem
  have hlineLimit := hw.limits.line lineId terms hterms
  have hitemLimit := hw.limits.item lineId terms index hterms
  rw [sumIf_eq_sum hrows, hself] at hpaidLine
  rw [hself] at hpaidItem
  unfold recheckItem
  rw [hterms]
  dsimp only
  rw [paidOnItem_eq hrows hindex, lineTotal_groupByGarment]
  rw [require_true (le_min hwithin hwithin), require_true (le_trans hpaidItem hitemLimit),
    require_true (le_trans hpaidLine hlineLimit)]
  simp only [ok_bind]
  split
  · next hbyStaff =>
    rw [require_true (hstaff hbyStaff), ok_bind, require_true]
    rw [paidOnItemByStaff_eq hindex, paidOnItem_eq (fun row hrow =>
      hrows row (List.mem_filter.mp hrow).1) hindex, sumIf_filter_bool]
    have hpaidStaff := paid_add_le hw.nonneg hmem hlive
      (r := fun row => (row.onItem terms lineId index && row.staff) = true)
      (fun _ h => onItem_onLine (Bool.and_eq_true _ _ ▸ h).1) (by simp [honItem, hbyStaff])
    rw [hself] at hpaidStaff
    refine le_trans (le_of_eq ?_) (le_trans hpaidStaff (hw.limits.staff lineId terms index hterms))
    refine congrArg (· + amountVnd) (sumIf_congr fun row _ => ?_)
    rw [Bool.and_eq_true, and_comm]
  · rfl

lemma late_unique (hw : Within policy facts proposals) (hmem : proposal ∈ proposals)
    (hlive : proposal.live = true) (hkind : proposal.kind = .lateDeliveryCredit)
    {other : RemedyProposal Id} (hother : other ∈ proposals)
    (hkind' : other.kind = .lateDeliveryCredit) (hpaid : other.status = .executed) :
    other.id = proposal.id := by
  by_contra hne
  have hcount := sumIf_add_le (l := proposals) (f := fun _ => 1)
    (p := fun row => row.live ∧ row.kind = .lateDeliveryCredit ∧ row.id ≠ proposal.id)
    (q := fun row => row.live ∧ row.kind = .lateDeliveryCredit)
    (fun _ _ h => ⟨h.1, h.2.1⟩) (fun _ _ _ => by decide) hmem (fun h => h.2.2 rfl) ⟨hlive, hkind⟩
  have hone := sumIf_add_le (l := proposals) (f := fun _ => 1) (p := fun _ => False)
    (q := fun row => row.live ∧ row.kind = .lateDeliveryCredit ∧ row.id ≠ proposal.id)
    (fun _ _ h => h.elim) (fun _ _ _ => by decide) hother (fun h => h)
    ⟨executed_live hpaid, hkind', hne⟩
  rw [sumIf_eq_zero (fun _ _ h => h)] at hone
  have hlate := hw.limits.late
  unfold lateCredits at hlate
  omega

lemma recheck_ok (hw : Within policy facts proposals) (hmem : proposal ∈ proposals)
    (hlive : proposal.live = true) (hwritten : Written policy facts proposal)
    (hrefunded : proposal.kind = .lateDeliveryCredit → facts.refunded = false) :
    recheckBeforePaying policy facts proposals proposal = .ok () := by
  unfold recheckBeforePaying
  split
  · next hkind =>
    rw [require_true fun other hother hkind' hpaid =>
      late_unique hw hmem hlive hkind hother hkind' hpaid, ok_bind]
    exact require_true (hrefunded hkind) _
  · split
    · next hkind =>
      obtain ⟨lineId, terms, amountVnd, hline, hterms, hamount, hceiling, hwithin, hgarment,
        hstaff⟩ := hwritten hkind
      rw [hline, hamount, hceiling]
      exact recheckItem_ok hw hmem hlive hkind hline hterms hamount hwithin hgarment hstaff
    · rfl

end Recheck

lemma within_nil (policy : RemedyPolicy) (facts : RemedyOrderFacts) :
    Within policy facts ([] : List (RemedyProposal Id)) := by
  refine ⟨List.nodup_nil, ?_, fun lineId terms h => ?_, fun lineId terms garment h => ?_,
    fun lineId terms garment h => ?_, ?_⟩
  · intro proposal hmem
    cases hmem
  · exact (itemCompensationTerms_nonneg h).2
  · exact (itemCompensationTerms_nonneg h).1
  · exact policy.staff_nonneg
  · exact Int.zero_le_ofNat 1

/-- The limits on remedies hold after every run of proposals, decisions of the owner and
payments, from any rows that are within them: an order with no remedy yet, or one with the
line-level rows of earlier days. A live proposal of the run passes the second look, unless it
is a late-delivery credit whose order was refunded. -/
theorem remedy_limits_hold [DecidableEq Id] (policy : RemedyPolicy) (facts : RemedyOrderFacts)
    (legacy : List (RemedyProposal Id)) (commands : List (Command Id))
    (hlegacy : legacy = [] ∨ Within policy facts legacy) :
    let proposals := run policy facts legacy commands
    (∀ lineId terms, itemCompensationTerms policy facts lineId = some terms →
      lineCommitted proposals lineId ≤ terms.lineCeilingVnd) ∧
    (∀ lineId terms garment, itemCompensationTerms policy facts lineId = some terms →
      itemCommitted proposals terms lineId garment ≤ terms.ceilingVnd) ∧
    (∀ lineId terms garment, itemCompensationTerms policy facts lineId = some terms →
      staffAuthorized proposals terms lineId garment ≤ policy.staffApprovalCeilingVnd) ∧
    lateCredits proposals ≤ 1 ∧
    ∀ proposal ∈ proposals, proposal.id ∉ legacy.map RemedyProposal.id → proposal.live = true →
      recheckBeforePaying policy facts proposals proposal = .ok () ∨
        (proposal.kind = .lateDeliveryCredit ∧ facts.refunded = true) := by
  intro proposals
  have hstart : Within policy facts legacy := by
    rcases hlegacy with rfl | h
    · exact within_nil policy facts
    · exact h
  have hk : Kept policy facts legacy proposals := kept_run hstart.kept commands
  refine ⟨hk.limits.line, hk.limits.item, hk.limits.staff, hk.limits.late, ?_⟩
  intro proposal hmem hnew hlive
  by_cases hrefunded : proposal.kind = .lateDeliveryCredit ∧ facts.refunded = true
  · exact .inr hrefunded
  · refine .inl (recheck_ok hk.toWithin hmem hlive (hk.written proposal hmem hnew) fun hkind => ?_)
    by_contra h
    exact hrefunded ⟨hkind, Bool.eq_true_of_not_eq_false h⟩

lemma canonical_three : Quotes.canonicalPositiveDecimal "3" = .ok () := by decide

def threeShirts : RemedyOrderFacts where
  goodsReturnedAt := some (.ofUtc 0 Datetime.zero_lt_wallLimit)
  settledTotalVnd := some 90000
  lines := [("line-1", ⟨"SHIRT", .item, "3", some 30000, 90000, canonical_three, by decide, by decide⟩)]
  expectsReturnLeg := false
  returnLegSucceeded := false
  refunded := false

/-- A claim for damage to one of the shirts, with what was read before the lock. -/
def shirtClaim (id : Nat) (garment amountVnd : Int) (prior : RemedyCommitments) : Command Nat :=
  .propose {
    id
    request := ⟨.damageCompensation, true, some "line-1", some amountVnd, some garment, none⟩
    proposedAt := .ofUtc 60000000 (by decide)
    prior
    incidentProposable := true }

/-- One shirt's claim is split in two, the second part for the owner; a stale claim on it is
turned away, and another shirt's is not. -/
def splitClaim : List (Command Nat) :=
  [shirtClaim 1 1 80000 ⟨0, 0, some 0, by decide, by decide, by decide⟩,
    shirtClaim 2 1 40000 ⟨80000, 0, some 80000, by decide, by decide, by decide⟩,
    shirtClaim 3 1 20000 ⟨0, 0, some 0, by decide, by decide, by decide⟩,
    .decide 2 .approved, .execute 2 true,
    shirtClaim 4 2 90000 ⟨120000, 0, some 0, by decide, by decide, by decide⟩, .execute 1 true]

theorem split_claim_within_limits :
    let proposals := run published threeShirts [] splitClaim
    proposals.map (fun p => (p.id, p.status, p.staff)) =
        [(1, .executed, true), (2, .executed, false), (4, .staffAuthorized, true)] ∧
      lateCredits proposals ≤ 1 :=
  ⟨by decide,
    (remedy_limits_hold published threeShirts [] splitClaim (.inl rfl)).2.2.2.1⟩

end NhaTrangLaundry.Db.Remedies
