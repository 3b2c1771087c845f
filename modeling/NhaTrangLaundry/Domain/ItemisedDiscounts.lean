import NhaTrangLaundry.Domain.PromotionShares

/-! The discount of each line, itemised: its share of the promotion with its shares of the credits,
as the traces on the revision state them. -/

namespace NhaTrangLaundry.Domain.QuoteComposition

open Lib Catalog Canonical Outcome Sorting Distinct Quotes Promotion RangePrices Remedies StrEnum
open LargestRemainder (Allocation)

variable [Unicodedata]

structure CreditWorking where
  credit : RemedyCredit
  weights : List (String × Int)
  allocation : Allocation String

def CreditWorking.share (working : CreditWorking) (lineId : String) : Int :=
  ((perLine working.allocation).lookup lineId).getD 0

def promotionShare (promoted : Option (PublishedPromotionProgram × PromotionResult))
    (lineId : String) : Int :=
  match promoted with
  | none => 0
  | some (_, result) => resultShare result lineId

def StatesCredit (snapshot : ImmutableQuoteSnapshot) (working : CreditWorking) : Prop :=
  ∃ trace ∈ snapshot.data.calculationTraces,
    captureCalculationTrace (creditComponent working.credit.creditId) remedyCreditComponentVersion
      (.json (creditJson working.credit working.weights working.allocation)) = .ok trace

/-- The revision carries an evaluation of its own lines, under a programme that it cites. -/
structure StatesEvaluation (programs : Uuid → PromotionProgram) (snapshot : ImmutableQuoteSnapshot)
    (published : PublishedPromotionProgram) (result : PromotionResult) : Prop where
  trace : ∃ trace, promotionTraceOf snapshot = some trace ∧
    capturePromotion result published = .ok trace
  programme : published.program = programs published.versionId
  cited : ∀ reference ∈ promotionReference snapshot, reference.versionId = published.versionId
  evaluated : Evaluated snapshot.data.lines published result

def StatesPromoted (programs : Uuid → PromotionProgram) (snapshot : ImmutableQuoteSnapshot)
    (promoted : Option (PublishedPromotionProgram × PromotionResult)) : Prop :=
  match promoted with
  | none => promotionTraceOf snapshot = none
  | some (published, result) => StatesEvaluation programs snapshot published result

/-- The discount of every line is itemised by the traces on the revision. -/
structure Itemised (programs : Uuid → PromotionProgram) (snapshot : ImmutableQuoteSnapshot)
    (promoted : Option (PublishedPromotionProgram × PromotionResult))
    (workings : List CreditWorking) : Prop where
  reservations : (snapshot.data.adjustments.filter isRemedyCredit).Perm
    (workings.map fun working => creditAdjustment working.credit)
  credits : ∀ working ∈ workings, StatesCredit snapshot working
  promotion : StatesPromoted programs snapshot promoted
  lines : ∀ line ∈ snapshot.data.lines, Discounted line
    (promotionShare promoted line.lineId + (workings.map (·.share line.lineId)).sum)
  band : snapshot.data.finality = .range → promoted = none ∧ workings = []

lemma Built.normalized_eq {snapshot : ImmutableQuoteSnapshot} (h : Built snapshot) :
    normalized snapshot.data = snapshot.data := by
  obtain ⟨data, hbuild⟩ := h.built
  rw [(buildQuoteSnapshot_ok.mp hbuild).1, normalized_idem]

omit [Unicodedata] in
lemma promotionReference_spec {snapshot : ImmutableQuoteSnapshot}
    {reference : ConfigurationSnapshotReference} (h : reference ∈ promotionReference snapshot) :
    reference ∈ snapshot.data.configurationSnapshots ∧
      reference.configType = promotionSnapshotConfigType := by
  have hfind : snapshot.data.configurationSnapshots.find? (fun item =>
    item.configType = promotionSnapshotConfigType) = some reference := h
  exact ⟨List.mem_of_find?_eq_some hfind, by simpa using List.find?_some hfind⟩

lemma promotionReference_kept {priced snapshot : ImmutableQuoteSnapshot} {data : QuoteRevisionData}
    (hpriced : Built priced) (hbuild : buildQuoteSnapshot data = .ok snapshot)
    (hkept : data.configurationSnapshots = priced.data.configurationSnapshots) :
    promotionReference snapshot = promotionReference priced := by
  have hsorted : sortBy (·.configType) priced.data.configurationSnapshots =
      priced.data.configurationSnapshots :=
    congrArg QuoteRevisionData.configurationSnapshots hpriced.normalized_eq
  rw [promotionReference, promotionReference, (buildQuoteSnapshot_ok.mp hbuild).1]
  show (sortBy (·.configType) data.configurationSnapshots).find? _ = _
  rw [hkept, hsorted]

lemma StatesPromoted.kept {programs : Uuid → PromotionProgram}
    {priced snapshot : ImmutableQuoteSnapshot}
    {promoted : Option (PublishedPromotionProgram × PromotionResult)}
    {f : QuoteLineSnapshot → QuoteLineSnapshot} (h : StatesPromoted programs priced promoted)
    (htrace : promotionTraceOf snapshot = promotionTraceOf priced)
    (hreference : promotionReference snapshot = promotionReference priced)
    (hlines : snapshot.data.lines.Perm (priced.data.lines.map f))
    (hf : ∀ program line, promotionLine program (f line) = promotionLine program line) :
    StatesPromoted programs snapshot promoted := by
  cases promoted with
  | none => exact htrace.trans h
  | some item =>
    obtain ⟨published, result⟩ := item
    obtain ⟨htraced, hprogram, hcited, hevaluated⟩ := h
    exact {
      trace := by
        rw [htrace]
        exact htraced
      programme := hprogram
      cited := by
        rw [hreference]
        exact hcited
      evaluated := hevaluated.of_map (hf _) hlines
    }

lemma Itemised.kept {programs : Uuid → PromotionProgram} {priced snapshot : ImmutableQuoteSnapshot}
    {promoted : Option (PublishedPromotionProgram × PromotionResult)} {workings : List CreditWorking}
    (h : Itemised programs priced promoted workings)
    (hlines : snapshot.data.lines.Perm priced.data.lines)
    (hadjustments : snapshot.data.adjustments.Perm priced.data.adjustments)
    (htraces : ∀ trace ∈ priced.data.calculationTraces, trace ∈ snapshot.data.calculationTraces)
    (htrace : promotionTraceOf snapshot = promotionTraceOf priced)
    (hreference : promotionReference snapshot = promotionReference priced)
    (hfinality : snapshot.data.finality = .range → priced.data.finality = .range) :
    Itemised programs snapshot promoted workings where
  reservations := (hadjustments.filter _).trans h.reservations
  credits := by
    intro working hworking
    obtain ⟨trace, hmem, hcaptured⟩ := h.credits working hworking
    exact ⟨trace, htraces trace hmem, hcaptured⟩
  promotion := h.promotion.kept (f := id) htrace hreference (by rwa [List.map_id]) fun _ _ => rfl
  lines := fun line hline => h.lines line (hlines.mem_iff.mp hline)
  band := fun hband => h.band (hfinality hband)

omit [Unicodedata] in
lemma lineAmounts_undiscounted {chosen : List (String × Int)} {r : String × Pricing.PriceResult}
    {amounts : LineAmounts} (h : lineAmounts chosen r = .ok amounts) :
    amounts.discountMin = 0 ∧ amounts.discountMax = 0 := by
  rw [lineAmounts] at h
  split at h
  · split at h
    · cases h
      exact ⟨rfl, rfl⟩
    · cases h
  · cases h
    exact ⟨rfl, rfl⟩
  · split at h
    · cases h
      exact ⟨rfl, rfl⟩
    · cases h

lemma composedParts_undiscounted {request : QuoteRequest} {parts : Parts}
    (h : composedParts request = .ok parts) : ∀ line ∈ parts.lines, Discounted line 0 := by
  obtain ⟨_, -, h⟩ := bind_ok.mp h
  obtain ⟨results, -, h⟩ := bind_ok.mp h
  obtain ⟨chosen, -, h⟩ := bind_ok.mp h
  obtain ⟨_, -, h⟩ := bind_ok.mp h
  obtain ⟨composed, hcomposed, h⟩ := bind_ok.mp h
  obtain ⟨delivery, -, h⟩ := bind_ok.mp h
  obtain ⟨_, -, h⟩ := bind_ok.mp h
  obtain ⟨promoted, -, h⟩ := bind_ok.mp h
  obtain ⟨_, -, h⟩ := bind_ok.mp h
  cases h
  intro line hline
  obtain ⟨c, hc, rfl⟩ := List.mem_map.mp hline
  obtain ⟨entry, -, hentry⟩ := forall₂_mem_right (mapM_ok.mp hcomposed) hc
  rw [composedLine] at hentry
  split at hentry
  · cases hentry
  · obtain ⟨amounts, hamounts, hentry⟩ := bind_ok.mp hentry
    obtain ⟨captured, -, hentry⟩ := bind_ok.mp hentry
    cases hentry
    exact lineAmounts_undiscounted hamounts

lemma Projected.lines_discounted {published : PublishedPromotionProgram}
    {lines : List QuoteLineSnapshot} {result : PromotionResult} {trace : CalculationTraceSnapshot}
    {outcome : PromotionOutcome} (h : Projected published lines result trace outcome)
    (hzero : ∀ line ∈ lines, Discounted line 0) :
    ∀ line ∈ outcome.lines, Discounted line (resultShare result line.lineId) := by
  intro line hline
  rw [h.discounted] at hline
  obtain ⟨before, hbefore, rfl⟩ := List.mem_map.mp hline
  rw [discountedLine_id]
  exact discounted_promotion (h.evaluated.exact before hbefore) (hzero before hbefore) _

lemma Projected.evaluated_lines {published : PublishedPromotionProgram}
    {lines lines' : List QuoteLineSnapshot} {result : PromotionResult}
    {trace : CalculationTraceSnapshot} {outcome : PromotionOutcome}
    (h : Projected published lines result trace outcome) (hperm : lines'.Perm outcome.lines) :
    Evaluated lines' published result := by
  rw [h.discounted] at hperm
  exact h.evaluated.of_map (promotionLine_discounted _ _) hperm

lemma composeFresh_itemised {programs : Uuid → PromotionProgram} {request : QuoteRequest}
    {plain : ImmutableQuoteSnapshot} {frozen : Option FrozenPromotion}
    (hprograms : ∀ published ∈ request.promotion,
      published.program = programs published.versionId)
    (hexplained : Explained plain [] frozen) (h : composeFresh request = .ok plain) :
    ∃ promoted, Itemised programs plain promoted [] := by
  obtain ⟨parts, hparts, h⟩ := bind_ok.mp h
  obtain ⟨validUntil, -, h⟩ := bind_ok.mp h
  have hbuild := guarded_ok.mp h
  have hdata := (buildQuoteSnapshot_ok.mp hbuild).1
  obtain ⟨hengine, -, hpromoted⟩ := composedParts_engine hparts
  have hgrants := promotionOutcome_grants hpromoted
  have hzero := composedParts_undiscounted hparts
  have hunfound : parts.traces.find? (fun item => item.component = promotionComponent) = none :=
    List.find?_eq_none.mpr fun trace htrace => by simpa using (hengine trace htrace).1
  have hfound : promotionTraceOf plain =
      parts.promoted.traces.find? fun item => item.component = promotionComponent := by
    rw [promotionTraceOf_built hbuild]
    show (parts.traces ++ parts.promoted.traces).find? _ = _
    rw [List.find?_append, hunfound, Option.none_or]
  have hlines : plain.data.lines.Perm parts.promoted.lines := by
    rw [hdata]
    exact sortBy_perm _ _
  rcases promotionOutcome_projected hpromoted with ⟨hnil, hsame⟩ |
    ⟨published, result, trace, hpublished, hprojected⟩
  · refine ⟨none, ?_⟩
    exact {
      reservations := hexplained.reservations
      credits := fun _ hworking => absurd hworking List.not_mem_nil
      promotion := by
        rw [StatesPromoted, hfound, hnil]
        rfl
      lines := by
        intro line hline
        rw [hsame] at hlines
        exact hzero line (hlines.mem_iff.mp hline)
      band := fun _ => ⟨rfl, rfl⟩
    }
  · refine ⟨some (published, result), ?_⟩
    have hcomponent : trace.component = promotionComponent :=
      hgrants.component trace (by rw [hprojected.traces]; exact List.mem_singleton_self trace)
    exact {
      reservations := hexplained.reservations
      credits := fun _ hworking => absurd hworking List.not_mem_nil
      promotion := {
        trace := by
          refine ⟨trace, ?_, hprojected.captured⟩
          rw [hfound, hprojected.traces, List.find?_singleton, hcomponent]
          rfl
        programme := hprograms published hpublished
        cited := by
          intro reference hreference
          obtain ⟨hmem, htype⟩ := promotionReference_spec hreference
          rw [hdata] at hmem
          rcases List.mem_cons.mp (mem_sortBy.mp hmem) with heq | hmem
          · rw [heq] at htype
            exact absurd htype (by simp [pricebookReference, promotionSnapshotConfigType])
          · rw [hprojected.references, List.mem_singleton] at hmem
            rw [hmem]
            rfl
        evaluated := hprojected.evaluated_lines hlines
      }
      lines := by
        intro line hline
        rw [List.map_nil, List.sum_nil, add_zero]
        exact hprojected.lines_discounted hzero line (hlines.mem_iff.mp hline)
      band := by
        intro hband
        obtain ⟨rfl, -⟩ := hexplained.band hband
        have hnone := hexplained.promotion
        obtain ⟨moments, hstates⟩ := capturePromotion_frozen hprojected.captured
        rw [hstates.frozenPromotion (by
          rw [hfound, hprojected.traces, List.find?_singleton, hcomponent]
          rfl)] at hnone
        cases hnone
    }

lemma Itemised.redeem {programs : Uuid → PromotionProgram} {priced snapshot : ImmutableQuoteSnapshot}
    {promoted : Option (PublishedPromotionProgram × PromotionResult)} {workings : List CreditWorking}
    {revision : Int} {credit : RemedyCredit} (hpriced : Built priced)
    (h : Itemised programs priced promoted workings)
    (hredeem : redeemRemedyCredit priced revision credit = .ok snapshot) :
    ∃ working, Itemised programs snapshot promoted (workings ++ [working]) := by
  obtain ⟨_, -, hredeem⟩ := bind_ok.mp hredeem
  obtain ⟨_, -, hredeem⟩ := bind_ok.mp hredeem
  obtain ⟨_, hopen, hredeem⟩ := bind_ok.mp hredeem
  obtain ⟨_, -, hredeem⟩ := bind_ok.mp hredeem
  obtain ⟨_, -, hredeem⟩ := bind_ok.mp hredeem
  obtain ⟨weights, hweights, hredeem⟩ := bind_ok.mp hredeem
  obtain ⟨allocation, -, hredeem⟩ := bind_ok.mp hredeem
  obtain ⟨trace, htrace, hbuild⟩ := bind_ok.mp (guarded_ok.mp hredeem)
  have hcomponent : trace.component = creditComponent credit.creditId := capture_component htrace
  have hdata := (buildQuoteSnapshot_ok.mp hbuild).1
  have hlines : snapshot.data.lines.Perm
      (priced.data.lines.map (creditedLine (perLine allocation))) := by
    rw [hdata]
    exact sortBy_perm _ _
  have htraces : snapshot.data.calculationTraces.Perm (priced.data.calculationTraces ++ [trace]) := by
    rw [hdata]
    exact sortBy_perm _ _
  have hadjustments : snapshot.data.adjustments.Perm
      (priced.data.adjustments ++ [creditAdjustment credit]) := by
    rw [hdata]
    exact sortBy_perm _ _
  refine ⟨⟨credit, weights, allocation⟩, ?_⟩
  exact {
    reservations := by
      refine (hadjustments.filter isRemedyCredit).trans ?_
      have hcredit : isRemedyCredit (creditAdjustment credit) = true := rfl
      rw [List.filter_append, List.filter_cons_of_pos hcredit, List.filter_nil, List.map_append]
      exact h.reservations.append_right _
    credits := by
      intro working hworking
      rcases List.mem_append.mp hworking with hmem | hmem
      · obtain ⟨stated, hstated, hcaptured⟩ := h.credits working hmem
        exact ⟨stated, htraces.mem_iff.mpr (List.mem_append_left _ hstated), hcaptured⟩
      · rw [List.mem_singleton.mp hmem]
        exact ⟨trace, htraces.mem_iff.mpr (List.mem_append_right _ List.mem_cons_self), htrace⟩
    promotion := by
      refine h.promotion.kept ?_ (promotionReference_kept hpriced hbuild rfl) hlines
        fun program line => promotionLine_credited program _ line
      refine promotionTraceOf_append hbuild rfl fun other hother => ?_
      rw [List.mem_singleton.mp hother, hcomponent]
      exact creditComponent_ne _
    lines := by
      intro line hline
      obtain ⟨before, hbefore, rfl⟩ := List.mem_map.mp (hlines.mem_iff.mp hline)
      obtain ⟨weight, -, hweight⟩ := forall₂_mem_left (mapM_ok.mp hweights) hbefore
      rw [creditedLine_id, List.map_append, List.sum_append, List.map_singleton,
        List.sum_singleton, ← add_assoc]
      exact discounted_credit (creditWeight_exact hweight) (h.lines before hbefore) _
    band := by
      rw [hdata]
      exact fun hband => absurd hband (require_ok.mp hopen).1
  }

lemma Itemised.state {programs : Uuid → PromotionProgram} {snapshot stated : ImmutableQuoteSnapshot}
    {promoted : Option (PublishedPromotionProgram × PromotionResult)} {workings : List CreditWorking}
    {released : List (RemedyCredit × String)} (hsnapshot : Built snapshot)
    (h : Itemised programs snapshot promoted workings)
    (hstate : stateReleasedCredits snapshot released = .ok stated) :
    Itemised programs stated promoted workings := by
  obtain ⟨traces, htraces, hbuild⟩ := bind_ok.mp (guarded_ok.mp hstate)
  have hdata := (buildQuoteSnapshot_ok.mp hbuild).1
  refine h.kept ?_ ?_ ?_ ?_ (promotionReference_kept hsnapshot hbuild rfl) ?_
  · rw [hdata]
    exact sortBy_perm _ _
  · rw [hdata]
    exact sortBy_perm _ _
  · intro trace htrace
    rw [hdata]
    exact mem_sortBy.mpr (List.mem_append_left _ htrace)
  · refine promotionTraceOf_append hbuild rfl fun trace htrace => ?_
    obtain ⟨r, -, hr⟩ := forall₂_mem_right (mapM_ok.mp htraces) htrace
    rw [capture_component hr]
    exact releasedComponent_ne _
  · rw [hdata]
    exact id

lemma carryCredits_itemised {programs : Uuid → PromotionProgram} {revision : Int}
    {promoted : Option (PublishedPromotionProgram × PromotionResult)}
    {credits : List RemedyCredit} {snapshot : ImmutableQuoteSnapshot}
    {workings : List CreditWorking} {released : List (RemedyCredit × String)}
    {carried : ImmutableQuoteSnapshot × List (RemedyCredit × String)} (hsnapshot : Built snapshot)
    (h : Itemised programs snapshot promoted workings)
    (hcarry : carryCredits revision credits snapshot released = .ok carried) :
    ∃ workings', Itemised programs carried.1 promoted workings' := by
  induction credits generalizing snapshot workings released with
  | nil =>
    cases hcarry
    exact ⟨workings, h⟩
  | cons credit credits ih =>
    rw [carryCredits] at hcarry
    split at hcarry
    · next credited hredeem =>
      obtain ⟨working, hitemised⟩ := h.redeem hsnapshot hredeem
      exact ih (redeem_built hsnapshot hredeem) hitemised hcarry
    · exact ih hsnapshot h hcarry
    · cases hcarry

lemma compose_itemised {programs : Uuid → PromotionProgram} {request : QuoteRequest}
    {credits : List RemedyCredit} {spent : List Uuid} {snapshot : ImmutableQuoteSnapshot}
    (hprograms : ∀ published ∈ request.promotion,
      published.program = programs published.versionId)
    (h : composeQuoteRevision request credits spent = .ok snapshot) :
    ∃ promoted workings, Itemised programs snapshot promoted workings := by
  obtain ⟨plain, hplain, h⟩ := bind_ok.mp h
  obtain ⟨⟨bill, released⟩, hcarried, h⟩ := bind_ok.mp h
  have hbuilt := composeFresh_built hplain
  obtain ⟨⟨frozen, hexplained⟩, -⟩ := composeFresh_explained hplain
  obtain ⟨promoted, hfresh⟩ := composeFresh_itemised hprograms hexplained hplain
  obtain ⟨workings, hitemised⟩ := carryCredits_itemised hbuilt hfresh hcarried
  refine ⟨promoted, workings, ?_⟩
  dsimp only at h
  split_ifs at h with hnone
  · cases h
    exact hitemised
  · exact hitemised.state (carryCredits_built hbuilt hcarried) h

omit [Unicodedata] in
lemma programme_cited {reference : ConfigurationSnapshotReference}
    {promotion : Option PublishedPromotionProgram} {published : PublishedPromotionProgram}
    (hpublished : promotion = some published)
    (hmoved : ¬ programmeMoved (some reference) promotion) :
    published.versionId = reference.versionId := by
  by_contra hne
  refine hmoved fun other hother => ?_
  rw [hpublished] at hother
  cases hother
  exact hne

omit [Unicodedata] in
lemma closedLine_undiscounted {amounts : List (String × Int)} {line : QuoteLineSnapshot}
    (h : Discounted line 0) : Discounted (closedLine amounts line) 0 := by
  rw [closedLine]
  split
  · exact h
  · exact ⟨rfl, rfl⟩

lemma Itemised.close {programs : Uuid → PromotionProgram} {priced snapshot : ImmutableQuoteSnapshot}
    {promoted : Option (PublishedPromotionProgram × PromotionResult)} {workings : List CreditWorking}
    {revision : Int} {attestation : RangePriceAttestation}
    {promotion : Option PublishedPromotionProgram} {closedAt : Option Datetime}
    (hpriced : Built priced) (h : Itemised programs priced promoted workings)
    (hprograms : ∀ published ∈ promotion, published.program = programs published.versionId)
    (hclose : closeRangePrices priced revision attestation promotion closedAt = .ok snapshot) :
    ∃ promoted', Itemised programs snapshot promoted' [] := by
  obtain ⟨_, hband, hclose⟩ := bind_ok.mp hclose
  obtain ⟨_, -, hclose⟩ := bind_ok.mp hclose
  obtain ⟨_, -, hclose⟩ := bind_ok.mp hclose
  obtain ⟨amounts, -, hclose⟩ := bind_ok.mp hclose
  obtain ⟨_, -, hclose⟩ := bind_ok.mp hclose
  obtain ⟨_, hmoved, hclose⟩ := bind_ok.mp hclose
  obtain ⟨_, -, hclose⟩ := bind_ok.mp hclose
  obtain ⟨outcome, hpromoted, hclose⟩ := bind_ok.mp hclose
  obtain ⟨_, -, hclose⟩ := bind_ok.mp hclose
  obtain ⟨_, -, hclose⟩ := bind_ok.mp hclose
  have hbuild := guarded_ok.mp hclose
  have hdata := (buildQuoteSnapshot_ok.mp hbuild).1
  obtain ⟨-, hnone⟩ := filter_kinds (promotionOutcome_grants hpromoted).kinds
  obtain ⟨rfl, rfl⟩ := h.band (require_ok.mp hband)
  have hzero : ∀ line ∈ priced.data.lines.map (closedLine amounts), Discounted line 0 := by
    intro line hline
    obtain ⟨before, hbefore, rfl⟩ := List.mem_map.mp hline
    exact closedLine_undiscounted (h.lines before hbefore)
  have hlines : snapshot.data.lines.Perm outcome.lines := by
    rw [hdata]
    exact sortBy_perm _ _
  have hreservations : (snapshot.data.adjustments.filter isRemedyCredit).Perm [] := by
    have hadjustments : snapshot.data.adjustments.Perm
        (priced.data.adjustments ++ outcome.adjustments) := by
      rw [hdata]
      exact sortBy_perm _ _
    refine (hadjustments.filter isRemedyCredit).trans ?_
    rw [List.filter_append, hnone, List.append_nil]
    exact h.reservations
  have hopen : snapshot.data.finality ≠ .range := by
    rw [hdata]
    intro hfinality
    cases hfinality
  rcases promotionOutcome_projected hpromoted with ⟨hnil, hsame⟩ |
    ⟨published, result, trace, hpublished, hprojected⟩
  · refine ⟨none, ?_⟩
    have htrace : promotionTraceOf snapshot = promotionTraceOf priced :=
      promotionTraceOf_inherited hbuild
        (congrArg (revisedTraces priced.data.calculationTraces) hnil)
    exact {
      reservations := hreservations
      credits := fun _ hworking => absurd hworking List.not_mem_nil
      promotion := htrace.trans h.promotion
      lines := by
        intro line hline
        rw [hsame] at hlines
        exact hzero line (hlines.mem_iff.mp hline)
      band := fun hfinality => absurd hfinality hopen
    }
  · refine ⟨some (published, result), ?_⟩
    have hcomponent : trace.component = promotionComponent :=
      (promotionOutcome_grants hpromoted).component trace
        (by rw [hprojected.traces]; exact List.mem_singleton_self trace)
    exact {
      reservations := hreservations
      credits := fun _ hworking => absurd hworking List.not_mem_nil
      promotion := {
        trace := ⟨trace, promotionTraceOf_revised hbuild
          (congrArg (revisedTraces priced.data.calculationTraces) hprojected.traces) hcomponent,
          hprojected.captured⟩
        programme := hprograms published hpublished
        cited := by
          intro reference hreference
          rw [promotionReference_kept hpriced hbuild rfl] at hreference
          have hcited : promotionReference priced = some reference := hreference
          have hmoved := require_ok.mp hmoved
          rw [hcited] at hmoved
          exact (programme_cited hpublished hmoved).symm
        evaluated := hprojected.evaluated_lines hlines
      }
      lines := by
        intro line hline
        rw [List.map_nil, List.sum_nil, add_zero]
        exact hprojected.lines_discounted hzero line (hlines.mem_iff.mp hline)
      band := fun hfinality => absurd hfinality hopen
    }

lemma reverified_cited {priced : ImmutableQuoteSnapshot} {promotion : Option PublishedPromotionProgram}
    {acceptedAt : Option Datetime} {verified : PromotionOutcome} {frozen : Option FrozenPromotion}
    (hfrozen : frozenPromotion priced = .ok frozen)
    (h : reverifiedEligibility priced promotion acceptedAt = .ok (some verified)) :
    frozen.isSome = true ∧ ∃ reference, promotionReference priced = some reference ∧
      ¬ programmeMoved (some reference) promotion := by
  rw [reverifiedEligibility.eq_def] at h
  dsimp only at h
  split at h
  · cases h
  · split at h
    · cases h
    · obtain ⟨_, hmoved, h⟩ := bind_ok.mp h
      obtain ⟨frozen', hfrozen', h⟩ := bind_ok.mp h
      obtain ⟨_, hthere, h⟩ := bind_ok.mp h
      obtain ⟨recomputed, -, h⟩ := bind_ok.mp h
      obtain ⟨_, -, h⟩ := bind_ok.mp h
      have hsame : frozen' = frozen := by
        rw [escaping_ok.mp hfrozen'] at hfrozen
        exact Except.ok.inj hfrozen
      have hmoved := require_ok.mp hmoved
      have hthere := require_ok.mp hthere
      rw [hsame] at hthere
      cases hreference : promotionReference priced with
      | none =>
        rw [hreference] at h
        cases h
      | some reference =>
        rw [hreference] at hmoved hthere
        exact ⟨hthere.resolve_left (by simp), reference, rfl, hmoved⟩

lemma StatesEvaluation.frozen {programs : Uuid → PromotionProgram} {snapshot : ImmutableQuoteSnapshot}
    {published : PublishedPromotionProgram} {result : PromotionResult}
    {frozen : Option FrozenPromotion} (h : StatesEvaluation programs snapshot published result)
    (hfrozen : frozenPromotion snapshot = .ok frozen) :
    frozenDiscount frozen = result.discountAmountVnd := by
  obtain ⟨trace, htrace, hcaptured⟩ := h.trace
  obtain ⟨moments, hstates⟩ := capturePromotion_frozen hcaptured
  rw [hstates.frozenPromotion htrace] at hfrozen
  cases hfrozen
  rfl

lemma Itemised.accept {programs : Uuid → PromotionProgram} {priced snapshot : ImmutableQuoteSnapshot}
    {promoted : Option (PublishedPromotionProgram × PromotionResult)} {workings : List CreditWorking}
    {frozen : Option FrozenPromotion} {revision : Int}
    {promotion : Option PublishedPromotionProgram} {acceptedAt : Option Datetime}
    (hpriced : Built priced) (h : Itemised programs priced promoted workings)
    (hfrozen : frozenPromotion priced = .ok frozen)
    (hprograms : ∀ published ∈ promotion, published.program = programs published.versionId)
    (haccept : acceptQuoteRevision priced revision promotion acceptedAt = .ok snapshot) :
    ∃ promoted', Itemised programs snapshot promoted' workings := by
  obtain ⟨_, -, haccept⟩ := bind_ok.mp haccept
  obtain ⟨_, -, haccept⟩ := bind_ok.mp haccept
  obtain ⟨_, -, haccept⟩ := bind_ok.mp haccept
  obtain ⟨_, -, haccept⟩ := bind_ok.mp haccept
  obtain ⟨verified, hverified, haccept⟩ := bind_ok.mp haccept
  obtain ⟨_, -, haccept⟩ := bind_ok.mp haccept
  have hbuild := guarded_ok.mp haccept
  have hdata := (buildQuoteSnapshot_ok.mp hbuild).1
  rcases reverified_cases hfrozen hverified with rfl |
    ⟨recomputed, moment, rfl, -, hrecomputed, hdiscount⟩
  · refine ⟨promoted, h.kept ?_ ?_ ?_ ?_ (promotionReference_kept hpriced hbuild rfl) ?_⟩
    · rw [hdata]
      exact sortBy_perm _ _
    · rw [hdata]
      exact sortBy_perm _ _
    · intro trace htrace
      rw [hdata]
      exact mem_sortBy.mpr htrace
    · rw [promotionTraceOf_built hbuild]
      rfl
    · rw [hdata]
      intro hband
      cases hband
  · have hgrants := promotionOutcome_grants hrecomputed
    have hlines : snapshot.data.lines.Perm priced.data.lines := by
      rw [hdata]
      exact sortBy_perm _ _
    have hadjustments : snapshot.data.adjustments.Perm priced.data.adjustments := by
      rw [hdata]
      exact sortBy_perm _ _
    have hopen : snapshot.data.finality ≠ .range := by
      rw [hdata]
      intro hfinality
      cases hfinality
    have hreference := promotionReference_kept hpriced hbuild rfl
    have hcredits : ∀ working ∈ workings, StatesCredit snapshot working := by
      intro working hworking
      obtain ⟨trace, hmem, hcaptured⟩ := h.credits working hworking
      refine ⟨trace, ?_, hcaptured⟩
      rw [hdata]
      refine mem_sortBy.mpr (List.mem_append_left _ (List.mem_filter.mpr ⟨hmem, ?_⟩))
      refine decide_eq_true fun hreplaced => ?_
      obtain ⟨other, hother, heq⟩ := List.mem_map.mp hreplaced
      rw [hgrants.component other hother, capture_component hcaptured] at heq
      exact creditComponent_ne _ heq.symm
    obtain ⟨hthere, reference, hcited, hmoved⟩ := reverified_cited hfrozen hverified
    rcases promotionOutcome_projected hrecomputed with ⟨hnil, -⟩ |
      ⟨published, result, trace, hpublished, hprojected⟩
    · refine ⟨promoted, ?_⟩
      exact {
        reservations := (hadjustments.filter _).trans h.reservations
        credits := hcredits
        promotion := h.promotion.kept (f := id)
          (promotionTraceOf_inherited hbuild
            (congrArg (revisedTraces priced.data.calculationTraces) hnil))
          hreference (by rwa [List.map_id]) fun _ _ => rfl
        lines := fun line hline => h.lines line (hlines.mem_iff.mp hline)
        band := fun hfinality => absurd hfinality hopen
      }
    · refine ⟨some (published, result), ?_⟩
      have hcomponent : trace.component = promotionComponent :=
        hgrants.component trace (by rw [hprojected.traces]; exact List.mem_singleton_self trace)
      have hversion := programme_cited hpublished hmoved
      have hprogramme := hprograms published hpublished
      have hshares : ∀ line ∈ priced.data.lines,
          promotionShare (some (published, result)) line.lineId =
            promotionShare promoted line.lineId := by
        cases promoted with
        | none =>
          have hnone : frozenPromotion priced = .ok none := by
            rw [frozenPromotion, show promotionTraceOf priced = none from h.promotion]
          rw [hnone] at hfrozen
          cases hfrozen
          cases hthere
        | some item =>
          obtain ⟨before, evaluated⟩ := item
          have hbefore : StatesEvaluation programs priced before evaluated := h.promotion
          refine hbefore.evaluated.agree hprojected.evaluated ?_ ?_
          · rw [hprogramme, hbefore.programme, hversion, hbefore.cited reference hcited]
          · rw [← hprojected.discount, hdiscount]
            exact hbefore.frozen hfrozen
      exact {
        reservations := (hadjustments.filter _).trans h.reservations
        credits := hcredits
        promotion := {
          trace := ⟨trace, promotionTraceOf_revised hbuild
            (congrArg (revisedTraces priced.data.calculationTraces) hprojected.traces) hcomponent,
            hprojected.captured⟩
          programme := hprogramme
          cited := by
            intro reference' hreference'
            rw [hreference, hcited] at hreference'
            cases hreference'
            exact hversion.symm
          evaluated := hprojected.evaluated.of_map (f := id) (fun _ => rfl) (by rwa [List.map_id])
        }
        lines := by
          intro line hline
          have hmem := hlines.mem_iff.mp hline
          rw [hshares line hmem]
          exact h.lines line hmem
        band := fun hfinality => absurd hfinality hopen
      }

/-- A snapshot that composing and the derivations reached, each version of a programme being one
document throughout. -/
inductive PricedUnder (programs : Uuid → PromotionProgram) : ImmutableQuoteSnapshot → Prop
  | compose {request credits spent snapshot}
      (hprograms : ∀ published ∈ request.promotion,
        published.program = programs published.versionId)
      (h : composeQuoteRevision request credits spent = .ok snapshot) :
      PricedUnder programs snapshot
  | redeem {priced revision credit snapshot} (hpriced : PricedUnder programs priced)
      (h : redeemRemedyCredit priced revision credit = .ok snapshot) :
      PricedUnder programs snapshot
  | close {priced revision attestation promotion closedAt snapshot}
      (hpriced : PricedUnder programs priced)
      (hprograms : ∀ published ∈ promotion, published.program = programs published.versionId)
      (h : closeRangePrices priced revision attestation promotion closedAt = .ok snapshot) :
      PricedUnder programs snapshot
  | accept {priced revision promotion acceptedAt snapshot} (hpriced : PricedUnder programs priced)
      (hprograms : ∀ published ∈ promotion, published.program = programs published.versionId)
      (h : acceptQuoteRevision priced revision promotion acceptedAt = .ok snapshot) :
      PricedUnder programs snapshot
  | read {priced payload snapshot} (hpriced : PricedUnder programs priced)
      (hpayload : StoredAs payload priced) (h : parseQuoteRevision payload = .ok snapshot) :
      PricedUnder programs snapshot

lemma PricedUnder.composed {programs : Uuid → PromotionProgram} {snapshot : ImmutableQuoteSnapshot}
    (h : PricedUnder programs snapshot) : Composed snapshot := by
  induction h with
  | compose _ h => exact .compose h
  | redeem _ h ih => exact .redeem ih h
  | close _ _ h ih => exact .close ih h
  | accept _ _ h ih => exact .accept ih h
  | read _ hpayload h ih => exact .read ih hpayload h

lemma PricedUnder.itemised {programs : Uuid → PromotionProgram} {snapshot : ImmutableQuoteSnapshot}
    (h : PricedUnder programs snapshot) :
    ∃ promoted workings, Itemised programs snapshot promoted workings := by
  induction h with
  | compose hprograms h => exact compose_itemised hprograms h
  | redeem hpriced h ih =>
    obtain ⟨promoted, workings, hitemised⟩ := ih
    obtain ⟨working, hredeemed⟩ := hitemised.redeem hpriced.composed.built h
    exact ⟨promoted, _, hredeemed⟩
  | close hpriced hprograms h ih =>
    obtain ⟨promoted, workings, hitemised⟩ := ih
    obtain ⟨promoted', hclosed⟩ := hitemised.close hpriced.composed.built hprograms h
    exact ⟨promoted', [], hclosed⟩
  | accept hpriced hprograms h ih =>
    obtain ⟨promoted, workings, hitemised⟩ := ih
    obtain ⟨reserved, frozen, hexplained⟩ := hpriced.composed.explained
    obtain ⟨promoted', haccepted⟩ :=
      hitemised.accept hpriced.composed.built hexplained.promotion hprograms h
    exact ⟨promoted', workings, haccepted⟩
  | read hpriced hpayload h ih =>
    obtain ⟨promoted, workings, hitemised⟩ := ih
    rw [hpriced.composed.built.parse hpayload] at h
    cases h
    exact ⟨promoted, workings,
      hitemised.kept (.refl _) (.refl _) (fun _ htrace => htrace) rfl rfl id⟩

/-- A revision that was priced under published programmes. -/
structure PublishedRevision where
  programs : Uuid → PromotionProgram
  snapshot : ImmutableQuoteSnapshot
  priced : PricedUnder programs snapshot

def promotedRows (promoted : Option (PublishedPromotionProgram × PromotionResult)) :
    List PromotionLineAdjustment :=
  match promoted with
  | none => []
  | some (_, result) => result.adjustments

def promotedDiscount (promoted : Option (PublishedPromotionProgram × PromotionResult)) : Int :=
  ((promotedRows promoted).map PromotionLineAdjustment.discountVnd).sum

lemma Itemised.discount {programs : Uuid → PromotionProgram} {snapshot : ImmutableQuoteSnapshot}
    {promoted : Option (PublishedPromotionProgram × PromotionResult)} {workings : List CreditWorking}
    {frozen : Option FrozenPromotion} (h : Itemised programs snapshot promoted workings)
    (hfrozen : frozenPromotion snapshot = .ok frozen) :
    promotedDiscount promoted = frozenDiscount frozen := by
  cases promoted with
  | none =>
    have hnone : frozenPromotion snapshot = .ok none := by
      rw [frozenPromotion, show promotionTraceOf snapshot = none from h.promotion]
    rw [hnone] at hfrozen
    cases hfrozen
    rfl
  | some item =>
    obtain ⟨published, result⟩ := item
    have hstates : StatesEvaluation programs snapshot published result := h.promotion
    rw [hstates.frozen hfrozen]
    exact hstates.evaluated.sum

/-- Every dong off a line is on a trace: the promotion's share of the line, with the share of each
credit that the revision reserves; and the promotion's row is the sum of its shares. -/
theorem published_revision_itemises_discounts (revision : PublishedRevision) :
    ∃ promoted workings reserved,
      Itemised revision.programs revision.snapshot promoted workings ∧
      reservedRemedyCredits revision.snapshot = .ok reserved ∧
      reserved.Perm (workings.map CreditWorking.credit) ∧
      (amountsOf (revision.snapshot.data.adjustments.filter isPromotion)).Perm
        (grantedAmounts (promotedDiscount promoted)) := by
  obtain ⟨promoted, workings, hitemised⟩ := revision.priced.itemised
  obtain ⟨credits, frozen, hexplained⟩ := revision.priced.composed.explained
  have hreservations : (revision.snapshot.data.adjustments.filter isRemedyCredit).Perm
      ((workings.map CreditWorking.credit).map creditAdjustment) := by
    rw [List.map_map]
    exact hitemised.reservations
  obtain ⟨reserved, hreserved, hperm⟩ :=
    mapM_perm hreservations (mapM_map_ok reservedCredit_creditAdjustment _)
  refine ⟨promoted, workings, reserved, hitemised, hreserved, hperm, ?_⟩
  rw [hitemised.discount hexplained.promotion]
  exact hexplained.promotions

end NhaTrangLaundry.Domain.QuoteComposition

namespace NhaTrangLaundry.Domain.QuoteComposition

open Lib Canonical Outcome Quotes Promotion

section Itemised

local instance itemisedText : Unicodedata := washText

lemma wash_published : ∀ published ∈ washRequest.promotion,
    published.program = (fun _ : Uuid => augustProgram.program) published.versionId := by
  rintro published hpublished
  cases hpublished
  rfl

theorem wash_itemises_discounts : ∃ revision : PublishedRevision,
    composeQuoteRevision washRequest [] [] = .ok revision.snapshot ∧
      revision.snapshot.data.totals.discountAmountMinVnd = 11250 ∧
      ∃ promoted workings reserved,
        Itemised revision.programs revision.snapshot promoted workings ∧
        reservedRemedyCredits revision.snapshot = .ok reserved ∧
        reserved.Perm (workings.map CreditWorking.credit) ∧
        (amountsOf (revision.snapshot.data.adjustments.filter isPromotion)).Perm
          (grantedAmounts (promotedDiscount promoted)) := by
  obtain ⟨snapshot, h, hdiscount⟩ := compose_wash
  let revision : PublishedRevision :=
    ⟨fun _ => augustProgram.program, snapshot, .compose wash_published h⟩
  exact ⟨revision, h, hdiscount, published_revision_itemises_discounts revision⟩

end Itemised

end NhaTrangLaundry.Domain.QuoteComposition
