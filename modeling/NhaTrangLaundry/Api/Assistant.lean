import NhaTrangLaundry.Db.PagedComplete
import NhaTrangLaundry.Domain.Sla

/-! What the assistant answers about the orders in production and the approvals that wait: the
numbers it reads, against the board and the queue that they are about. -/

namespace NhaTrangLaundry.Api.Assistant

open Lib Sorting Keyset Outcome Domain Catalog Sla Db PagedReads
open Db.ConsentEgress (StaffPrincipal ApprovalStatus)

structure StoredApproval where
  approvalRequestId : Uuid
  status : ApprovalStatus
  requiredRole : ActorRole
  expiresAt : Int
  storeId : Uuid
deriving DecidableEq

/-- The tables the assistant reads; an assignment that was not revoked is a membership. -/
structure ContextTables extends Tables where
  approvals : List StoredApproval
  approvals_key : (approvals.map StoredApproval.approvalRequestId).Nodup
  memberships_key : memberships.Nodup

inductive AssistantError where
  | read (e : ReadError)
  | sla (e : SlaError)
deriving DecidableEq

inductive RuleSource where
  | orderPromise
  | statedRule
deriving DecidableEq

structure SlaRisk where
  orderId : Uuid
  internalRiskDueAt : Option Int
  overallOutcome : PolicyOutcome
  reasonCodes : List String
  slaOutcome : SlaOutcome
  elapsedMicroseconds : Option Int
  remainingMicroseconds : Option Int
  breachMicroseconds : Int
  ruleSource : RuleSource
  dueAt : Int
deriving DecidableEq

def remainingMicroseconds (trace : SlaCalculationTrace) (acceptedAt : Int) : Option Int :=
  match trace.internalRiskDueAt, trace.actualElapsedMicroseconds with
  | some dueAt, some elapsed => some (max 0 (dueAt - acceptedAt - elapsed))
  | _, _ => none

def promiseRow (row : BoardRow) (promisedAt acceptedAt now : Int) : SlaRisk :=
  let figures := promiseFigures promisedAt acceptedAt row.order.productionReadyAt now
  { orderId := row.order.id
    internalRiskDueAt := some promisedAt
    overallOutcome := if figures.outcome = .breached then .requireHuman else .allow
    reasonCodes := ["PRODUCTION_SLA_EXCLUDES_DELIVERY", "ORDER_PROMISE",
      match figures.outcome with
      | .met => "SLA_MET"
      | .pending => "SLA_PENDING"
      | _ => "SLA_BREACHED"]
    slaOutcome := figures.outcome
    elapsedMicroseconds := some figures.elapsedMicroseconds
    remainingMicroseconds := some figures.remainingMicroseconds
    breachMicroseconds := figures.breachMicroseconds
    ruleSource := .orderPromise
    dueAt := row.dueAt }

/-- A row of the board: measured against the order's promise, or against the stated rule. -/
def riskOf (policy : ProductionSlaPolicy) (now : Int) (row : BoardRow) :
    Except AssistantError SlaRisk :=
  match row.order.currentPromiseAt with
  | some promisedAt =>
    .ok (promiseRow row promisedAt (row.order.productionAcceptedAt.getD 0) now)
  | none => do
    let result ← (evaluateProductionSla policy now row.order.productionAcceptedAt
      row.order.productionReadyAt none).mapError .sla
    .ok {
      orderId := row.order.id
      internalRiskDueAt := result.trace.internalRiskDueAt
      overallOutcome := result.overallOutcome
      reasonCodes := result.reasonCodes.map SlaReason.value
      slaOutcome := result.outcome
      elapsedMicroseconds := result.trace.actualElapsedMicroseconds
      remainingMicroseconds :=
        remainingMicroseconds result.trace (row.order.productionAcceptedAt.getD 0)
      breachMicroseconds := result.trace.breachMicroseconds
      ruleSource := .statedRule
      dueAt := row.dueAt }

def SlaRisk.breached (risk : SlaRisk) : Bool := "SLA_BREACHED" ∈ risk.reasonCodes

def riskCursor (risk : SlaRisk) : Int × Uuid := (risk.dueAt, risk.orderId)

/-- `sla_risk_board` at an instant. -/
def slaRisks (t : Tables) (principal : StaffPrincipal) (store : Uuid) (policy : ProductionSlaPolicy)
    (now : Int) (limit : Nat) (after : Option (Int × Uuid)) : Except AssistantError (List SlaRisk) := do
  let rows ← (slaRiskBoard t principal store policy.targetMaxHours limit after).mapError .read
  rows.mapM (riskOf policy now)

/-- The requests of the shops that the caller is assigned to, once for each assignment. -/
def assignedApprovals (t : ContextTables) (principal : StaffPrincipal) : List StoredApproval :=
  (t.approvals.filter fun r => r.status = .requested).flatMap fun r =>
    (t.memberships.filter fun m => m = (principal.staffUserId, r.storeId)).map fun _ => r

def expiryKey (r : StoredApproval) : Int ×ₗ Nat := toLex (r.expiresAt, r.approvalRequestId.int.val)

def listPending (t : ContextTables) (principal : StaffPrincipal) (limit : Nat) : List StoredApproval :=
  (sortBy expiryKey (assignedApprovals t principal)).take limit

def slaPolicy : ProductionSlaPolicy := standardWashSla

def approvalsPage : Nat := 100

def slaBoardDefaultLimit : Nat := 50

structure AssistantContextReads where
  slaInProduction : Nat
  slaBreached : Nat
  pendingApprovals : Nat
  pendingApprovalsTruncated : Bool
  pendingApprovalPreviews : List String
deriving DecidableEq

def preview (item : StoredApproval) : String :=
  String.ofList (item.approvalRequestId.str.toList.take 8) ++ "… · yêu cầu vai trò " ++
    StrEnum.value item.requiredRole

/-- `_build_reads`, without the counts of the day and the lookup of one order. -/
def buildReads (t : ContextTables) (principal : StaffPrincipal) (store : Uuid) (now : Int) :
    Except AssistantError AssistantContextReads := do
  let approvals := listPending t principal approvalsPage
  let board ← slaRisks t.toTables principal store slaPolicy now slaBoardDefaultLimit none
  .ok {
    slaInProduction := board.length
    slaBreached := (board.filter SlaRisk.breached).length
    pendingApprovals := approvals.length
    pendingApprovalsTruncated := decide (approvalsPage ≤ approvals.length)
    pendingApprovalPreviews := (approvals.take 5).map preview }

def slaPolicyNoticeVi (policy : ProductionSlaPolicy) : String :=
  "Đơn có giờ hẹn trả được tính theo giờ hẹn của chính đơn đó. Đơn nhận trước khi chủ tiệm " ++
    "công bố quy tắc hẹn trả thì tính theo quy tắc " ++ policy.policyId ++ " — " ++
    (match policy.targetMaxHours with
      | some hours => toString hours
      | none => "None") ++ " giờ kể từ khi nhận sản xuất."

/-- The answer of `_sla_risk`. -/
def slaRiskAnswer (reads : AssistantContextReads) : String :=
  if reads.slaInProduction = 0 then
    "Hiện không có đơn nào đang sản xuất, nên không có đơn nào có nguy cơ trễ."
  else
    "Có " ++ toString reads.slaInProduction ++ " đơn đang sản xuất, trong đó " ++
      toString reads.slaBreached ++ " đơn đã quá mốc rủi ro nội bộ (SLA_BREACHED). " ++
      slaPolicyNoticeVi slaPolicy

def floorPhrase : String := " (đã đầy một trang, có thể còn nữa)"

/-- The answer of `_pending_approvals`. -/
def pendingApprovalsAnswer (reads : AssistantContextReads) : String :=
  if reads.pendingApprovals = 0 then
    "Không có phong bì duyệt nào đang chờ (REQUESTED) trên các cửa hàng bạn được gán."
  else
    "Có " ++ toString reads.pendingApprovals ++
      (if reads.pendingApprovalsTruncated then floorPhrase else "") ++
      " phong bì duyệt đang chờ (REQUESTED) trên các cửa hàng bạn được gán — " ++
      "danh sách này không riêng cửa hàng đang chọn." ++
      if reads.pendingApprovalPreviews.isEmpty then ""
      else " Vài mục sắp hết hạn nhất:\n" ++
        "\n".intercalate (reads.pendingApprovalPreviews.map fun preview => "• " ++ preview)

def StatesFloor (answer : String) : Prop := floorPhrase.toList <:+: answer.toList

def marksBreached (policy : ProductionSlaPolicy) (now : Int) (row : BoardRow) : Bool :=
  match riskOf policy now row with
  | .ok risk => risk.breached
  | .error _ => false

/-- The shop's orders that the board visits, and those of them it marks at an instant. -/
def visited (t : Tables) (store : Uuid) : Nat := (t.orders.filter (inProduction store)).length

def visitedBreached (t : Tables) (store : Uuid) (now : Int) : Nat :=
  ((boardRows t store (slaPolicy.targetMaxHours.getD 0)).filter (marksBreached slaPolicy now)).length

/-- The pending approvals that the caller may see. -/
def visiblePending (t : ContextTables) (principal : StaffPrincipal) : Nat :=
  (t.approvals.filter fun r => r.status = .requested && t.isMember principal.staffUserId r.storeId).length

/-- The answers state whole counts, or say that a count is a floor. -/
structure Whole (t : ContextTables) (principal : StaffPrincipal) (store : Uuid) (now : Int)
    (reads : AssistantContextReads) : Prop where
  inProduction : reads.slaInProduction = visited t.toTables store ∨ StatesFloor (slaRiskAnswer reads)
  breached : reads.slaBreached = visitedBreached t.toTables store now ∨
    StatesFloor (slaRiskAnswer reads)
  pending : ¬ StatesFloor (pendingApprovalsAnswer reads) →
    reads.pendingApprovals = visiblePending t principal

variable {t : Tables} {principal : StaffPrincipal} {store : Uuid} {policy : ProductionSlaPolicy}
  {now : Int} {limit : Nat}

lemma riskOf_cursor {row : BoardRow} {risk : SlaRisk} (h : riskOf policy now row = .ok risk) :
    riskCursor risk = boardCursor row := by
  rw [riskOf] at h
  split at h
  · cases h
    rfl
  · obtain ⟨result, -, h⟩ := bind_ok.mp h
    cases h
    rfl

lemma riskOf_breached {row : BoardRow} {risk : SlaRisk} (h : riskOf policy now row = .ok risk) :
    marksBreached policy now row = risk.breached := by
  rw [marksBreached, h]

lemma filter_risks {rows : List BoardRow} {risks : List SlaRisk}
    (h : List.Forall₂ (fun row risk => riskOf policy now row = .ok risk) rows risks) :
    (risks.filter SlaRisk.breached).length = (rows.filter (marksBreached policy now)).length := by
  induction h with
  | nil => rfl
  | cons hrow _ ih =>
    rw [List.filter_cons, List.filter_cons, riskOf_breached hrow]
    split
    · rw [List.length_cons, List.length_cons, ih]
    · exact ih

lemma slaRisks_ok {after : Option (Int × Uuid)} {risks : List SlaRisk}
    (h : slaRisks t principal store policy now limit after = .ok risks) :
    ∃ rows, slaRiskBoard t principal store policy.targetMaxHours limit after = .ok rows ∧
      List.Forall₂ (fun row risk => riskOf policy now row = .ok risk) rows risks := by
  obtain ⟨rows, hrows, h⟩ := bind_ok.mp h
  exact ⟨rows, mapError_ok.mp hrows, mapM_ok.mp h⟩

lemma getLast?_risks {rows : List BoardRow} {risks : List SlaRisk} {last : SlaRisk}
    (h : List.Forall₂ (fun row risk => riskOf policy now row = .ok risk) rows risks)
    (hlast : risks.getLast? = some last) :
    ∃ row, rows.getLast? = some row ∧ riskCursor last = boardCursor row := by
  induction h with
  | nil => cases hlast
  | @cons row risk rows risks hrow hrest ih =>
    cases hrest with
    | nil =>
      cases hlast
      exact ⟨row, rfl, riskOf_cursor hrow⟩
    | cons =>
      rw [List.getLast?_cons_cons] at hlast
      obtain ⟨row', hrow', hcursor⟩ := ih hlast
      exact ⟨row', by rw [List.getLast?_cons_cons, hrow'], hcursor⟩

lemma follows_rows {i : Nat} {after : Option (Int × Uuid)} {pages : List (List SlaRisk)}
    (h : Follows (fun _ => slaRisks t principal store policy now limit) riskCursor i after pages) :
    ∃ rowPages, Follows (fun _ => slaRiskBoard t principal store policy.targetMaxHours limit)
      boardCursor i after rowPages ∧
      List.Forall₂ (fun row risk => riskOf policy now row = .ok risk) rowPages.flatten
        pages.flatten := by
  induction h with
  | done hfetch =>
    obtain ⟨rows, hrows, hrisks⟩ := slaRisks_ok hfetch
    rw [List.forall₂_nil_right_iff] at hrisks
    exact ⟨[], .done (hrisks ▸ hrows), .nil⟩
  | more hfetch hlast _ ih =>
    obtain ⟨rows, hrows, hrisks⟩ := slaRisks_ok hfetch
    obtain ⟨row, hrow, hcursor⟩ := getLast?_risks hrisks hlast
    obtain ⟨rowPages, hfollows, hflatten⟩ := ih
    rw [hcursor] at hfollows
    refine ⟨rows :: rowPages, .more hrows hrow hfollows, ?_⟩
    rw [List.flatten_cons, List.flatten_cons]
    exact List.rel_append hrisks hflatten

lemma length_boardRows (hours : Int) : (boardRows t store hours).length = visited t store := by
  have hperm : ((boardRows t store hours).map BoardRow.order).Perm
      (t.orders.filter (inProduction store)) := map_order_boardRows
  rw [visited, ← hperm.length_eq, List.length_map]

lemma slaRiskBoard_ok {target : Option Int} {after : Option (Int × Uuid)} {rows : List BoardRow}
    (h : slaRiskBoard t principal store target limit after = .ok rows) :
    (1 ≤ limit ∧ limit ≤ slaBoardMaxLimit) ∧ MayRead t principal store ∧
      rows = page dueKey limit (boardRows t store (target.getD 0)) (after.map cursorKey) := by
  obtain ⟨_, hlimit, h⟩ := bind_ok.mp h
  obtain ⟨_, haccess, h⟩ := bind_ok.mp h
  obtain ⟨_, hrole, hmember⟩ := bind_ok.mp haccess
  cases h
  exact ⟨require_ok.mp hlimit, ⟨require_ok.mp hrole, require_ok.mp hmember⟩, slaBoardSql_eq after⟩

lemma visits {pages : List (List SlaRisk)}
    (h : Follows (fun _ => slaRisks t principal store slaPolicy now limit) riskCursor 0 none pages) :
    pages.flatten.length = visited t store ∧
      (pages.flatten.filter SlaRisk.breached).length = visitedBreached t store now := by
  obtain ⟨rowPages, hfollows, hrisks⟩ := follows_rows h
  have hfirst : ∃ rows, slaRiskBoard t principal store slaPolicy.targetMaxHours limit none = .ok rows := by
    cases hfollows with
    | done hfetch => exact ⟨_, hfetch⟩
    | more hfetch => exact ⟨_, hfetch⟩
  obtain ⟨rows, hrows⟩ := hfirst
  obtain ⟨hlimit, hread, -⟩ := slaRiskBoard_ok hrows
  have hreads : Reads (fun _ after => slaRiskBoard t principal store slaPolicy.targetMaxHours limit after)
      boardCursor dueKey limit (boardRows t store (slaPolicy.targetMaxHours.getD 0)) :=
    slaRiskBoard_reads hread hlimit
  have hcomplete := hreads.complete boardRows_key hlimit.1
  have hflatten := (hcomplete.2 rowPages hfollows).1
  rw [hflatten] at hrisks
  refine ⟨?_, ?_⟩
  · rw [← hrisks.length_eq, length_sortBy, length_boardRows]
  · rw [filter_risks hrisks]
    exact ((sortBy_perm _ _).filter _).length_eq

lemma first_page {risks : List SlaRisk}
    (h : slaRisks t principal store slaPolicy now limit none = .ok risks) :
    risks.length = min limit (visited t store) ∧ (visited t store ≤ limit →
      (risks.filter SlaRisk.breached).length = visitedBreached t store now) := by
  obtain ⟨rows, hrows, hrisks⟩ := slaRisks_ok h
  obtain ⟨-, -, hpage⟩ := slaRiskBoard_ok hrows
  rw [Option.map_none, page, behind_none] at hpage
  refine ⟨?_, fun hle => ?_⟩
  · rw [← hrisks.length_eq, hpage, List.length_take, length_sortBy, length_boardRows]
  · have hwhole : (sortBy dueKey (boardRows t store (slaPolicy.targetMaxHours.getD 0))).length ≤
        limit := by rwa [length_sortBy, length_boardRows]
    rw [filter_risks hrisks, hpage, List.take_of_length_le hwhole]
    exact ((sortBy_perm _ _).filter _).length_eq

lemma length_assignedApprovals (t : ContextTables) :
    (assignedApprovals t principal).length = visiblePending t principal := by
  have hone : ∀ r : StoredApproval,
      (t.memberships.filter fun m => m = (principal.staffUserId, r.storeId)).length =
        if t.isMember principal.staffUserId r.storeId then 1 else 0 := by
    intro r
    rw [← List.countP_eq_length_filter, Tables.isMember]
    have hcount := List.Nodup.count (a := (principal.staffUserId, r.storeId)) t.memberships_key
    simp only [List.count, beq_eq_decide] at hcount
    simpa using hcount
  have hvisible : visiblePending t principal =
      ((t.approvals.filter fun r => r.status = .requested).filter fun r =>
        t.isMember principal.staffUserId r.storeId).length := by
    rw [visiblePending, List.filter_filter]
    simp only [Bool.and_comm]
  rw [assignedApprovals, hvisible, List.length_flatMap]
  induction t.approvals.filter fun r => decide (r.status = .requested) with
  | nil => rfl
  | cons r approvals ih =>
    rw [List.map_cons, List.sum_cons, ih, List.length_map, hone, List.filter_cons]
    split <;> simp [Nat.add_comm]

lemma length_listPending (t : ContextTables) :
    (listPending t principal limit).length = min limit (visiblePending t principal) := by
  rw [listPending, List.length_take, length_sortBy, length_assignedApprovals]

lemma isDigit_of_mem_toString {n : Nat} {c : Char} (h : c ∈ (toString n).toList) :
    c.isDigit = true := by
  rw [Nat.toString_eq_ofList_toDigits, String.toList_ofList] at h
  exact Nat.isDigit_of_mem_toDigits (by decide) (by decide) h

lemma not_statesFloor_slaRisk (reads : AssistantContextReads) : ¬ StatesFloor (slaRiskAnswer reads) := by
  intro h
  have hmem : 'ầ' ∈ (slaRiskAnswer reads).toList := h.subset (by decide)
  have hnumber : ∀ n : Nat, 'ầ' ∉ (toString n).toList := fun n hn =>
    absurd (isDigit_of_mem_toString hn) (by decide)
  have hnotice : 'ầ' ∉ (slaPolicyNoticeVi slaPolicy).toList := by decide +kernel
  rw [slaRiskAnswer] at hmem
  split at hmem
  · exact absurd hmem (by decide)
  · simp only [String.toList_append, List.mem_append] at hmem
    rcases hmem with ((((hmem | hmem) | hmem) | hmem) | hmem) | hmem
    · exact absurd hmem (by decide)
    · exact hnumber _ hmem
    · exact absurd hmem (by decide)
    · exact hnumber _ hmem
    · exact absurd hmem (by decide)
    · exact hnotice hmem

lemma statesFloor_pending {reads : AssistantContextReads} (h : reads.pendingApprovals ≠ 0)
    (hfull : reads.pendingApprovalsTruncated = true) :
    StatesFloor (pendingApprovalsAnswer reads) := by
  rw [StatesFloor, pendingApprovalsAnswer, if_neg h, if_pos hfull]
  simp only [String.toList_append, List.append_assoc]
  rw [← List.append_assoc]
  exact List.infix_append' _ _ _

lemma buildReads_ok {t : ContextTables} {reads : AssistantContextReads}
    (h : buildReads t principal store now = .ok reads) :
    ∃ board, slaRisks t.toTables principal store slaPolicy now slaBoardDefaultLimit none = .ok board ∧
      reads.slaInProduction = board.length ∧
      reads.slaBreached = (board.filter SlaRisk.breached).length ∧
      reads.pendingApprovals = (listPending t principal approvalsPage).length ∧
      reads.pendingApprovalsTruncated =
        decide (approvalsPage ≤ (listPending t principal approvalsPage).length) := by
  obtain ⟨board, hboard, h⟩ := bind_ok.mp h
  cases h
  exact ⟨board, hboard, rfl, rfl, rfl, rfl⟩

lemma pending_whole {t : ContextTables} {reads : AssistantContextReads}
    (hcount : reads.pendingApprovals = (listPending t principal approvalsPage).length)
    (hfull : reads.pendingApprovalsTruncated =
      decide (approvalsPage ≤ (listPending t principal approvalsPage).length))
    (h : ¬ StatesFloor (pendingApprovalsAnswer reads)) :
    reads.pendingApprovals = visiblePending t principal := by
  rw [length_listPending] at hcount hfull
  have hpage : approvalsPage = 100 := rfl
  by_contra hne
  refine h (statesFloor_pending ?_ ?_)
  · omega
  · rw [hfull, decide_eq_true_iff]
    omega

/-- The answers state whole counts exactly when the orders in production fit in one page of the
board; the numbers they are measured against are those of a reader who pages to its end. -/
theorem counts_whole_iff (t : ContextTables) (principal : StaffPrincipal) (store : Uuid) (now : Int)
    (reads : AssistantContextReads) (h : buildReads t principal store now = .ok reads) :
    (Whole t principal store now reads ↔ visited t.toTables store ≤ slaBoardDefaultLimit) ∧
    ∀ limit pages,
      Follows (fun _ => slaRisks t.toTables principal store slaPolicy now limit) riskCursor 0 none pages →
      pages.flatten.length = visited t.toTables store ∧
        (pages.flatten.filter SlaRisk.breached).length = visitedBreached t.toTables store now := by
  obtain ⟨board, hboard, hproduction, hbreached, hpending, hfull⟩ := buildReads_ok h
  obtain ⟨hlength, hmarked⟩ := first_page hboard
  refine ⟨⟨fun hwhole => ?_, fun hle => ?_⟩, fun limit pages hpages => visits hpages⟩
  · have hcount := hwhole.inProduction.resolve_right (not_statesFloor_slaRisk reads)
    rw [hproduction, hlength] at hcount
    omega
  · refine ⟨.inl ?_, .inl ?_, pending_whole hpending hfull⟩
    · rw [hproduction, hlength, min_eq_right hle]
    · rw [hbreached, hmarked hle]

section Crowd

def shop : Uuid := .ofNat 1

def manager : StaffPrincipal := ⟨.ofNat 2, [.opsApprover], true⟩

/-- An order in production, the first of them promised for the first hour, the others for the
eighth. -/
def promisedOrder (i : Nat) : BoardOrder where
  id := .ofNat i
  storeId := shop
  productionAcceptedAt := some 0
  productionReadyAt := none
  commercialStatus := .active
  productionStatus := .queued
  currentPromiseAt := some (if i = 0 then PagedReads.hourMicros else 8 * PagedReads.hourMicros)
  promiseRuleId := some "PROMISE"

def pendingRequest : StoredApproval :=
  ⟨.ofNat 3, .requested, .opsApprover, 24 * PagedReads.hourMicros, shop⟩

def crowd (n : Nat) (hdistinct : (((List.range n).map promisedOrder).map BoardOrder.id).Nodup) :
    ContextTables where
  memberships := [(manager.staffUserId, shop)]
  orders := (List.range n).map promisedOrder
  drafts := []
  reviews := []
  turns := []
  orders_key := hdistinct
  drafts_key := List.nodup_nil
  reviews_key := List.nodup_nil
  reviews_draft := fun _ h => nomatch h
  turns_key := List.nodup_nil
  approvals := [pendingRequest]
  approvals_key := List.nodup_singleton _
  memberships_key := List.nodup_singleton _

def quietDay : ContextTables := crowd 3 (by decide)

def busyDay : ContextTables := crowd 51 (by decide +kernel)

/-- At the second hour one of the three orders is late, and the counts are whole. -/
theorem counts_whole_quietDay : ∃ reads,
    buildReads quietDay manager shop (2 * PagedReads.hourMicros) = .ok reads ∧
      reads.slaInProduction = 3 ∧ reads.slaBreached = 1 ∧ reads.pendingApprovals = 1 ∧
      Whole quietDay manager shop (2 * PagedReads.hourMicros) reads := by
  have hreads : ∃ reads, buildReads quietDay manager shop (2 * PagedReads.hourMicros) = .ok reads ∧
      reads.slaInProduction = 3 ∧ reads.slaBreached = 1 ∧ reads.pendingApprovals = 1 :=
    ⟨_, rfl, rfl, rfl, rfl⟩
  obtain ⟨reads, hbuilt, hproduction, hbreached, hpending⟩ := hreads
  have hvisited : visited quietDay.toTables shop = 3 := rfl
  refine ⟨reads, hbuilt, hproduction, hbreached, hpending, ?_⟩
  refine (counts_whole_iff quietDay manager shop _ reads hbuilt).1.mpr ?_
  rw [hvisited]
  decide

/-- Fifty of fifty-one orders are reported as all that are in production. -/
theorem counts_not_whole_busyDay : ¬ ∀ t principal store now reads,
    buildReads t principal store now = .ok reads → Whole t principal store now reads := by
  intro hwhole
  obtain ⟨reads, hreads⟩ := exists_ok (x := buildReads busyDay manager shop 0) (by decide +kernel)
  have hle := (counts_whole_iff _ _ _ _ _ hreads).1.mp (hwhole _ _ _ _ _ hreads)
  have hvisited : visited busyDay.toTables shop = 51 := rfl
  rw [hvisited] at hle
  exact absurd hle (by decide)

end Crowd

end NhaTrangLaundry.Api.Assistant
