import NhaTrangLaundry.Db.PagedReads

/-! Paging loses nothing and repeats nothing, whatever ties there are and whatever rows
come in between two pages. -/

namespace NhaTrangLaundry.Db.PagedReads

open Lib Sorting Keyset Outcome Domain.Catalog ConsentEgress

variable {t : Tables} {principal : StaffPrincipal} {store : Uuid} {limit : Nat} {hours : Int}

lemma uuid_eq_of_val {a b : Uuid} (h : a.int.val = b.int.val) : a = b := by
  cases a
  cases b
  exact congrArg Uuid.mk (Fin.ext h)

lemma nodup_key {α : Type} {key : α → Int ×ₗ Nat} {id : α → Uuid} {rows : List α}
    (hkey : ∀ r, (ofLex (key r)).2 = (id r).int.val) (hn : (rows.map id).Nodup) :
    (rows.map key).Nodup := by
  have hval : (rows.map fun r => (id r).int.val).Nodup := by
    have hmap := hn.map fun a b h => uuid_eq_of_val (a := a) (b := b) h
    rwa [List.map_map] at hmap
  refine List.Nodup.of_map (fun k : Int ×ₗ Nat => (ofLex k).2) ?_
  rw [List.map_map]
  have hcongr : rows.map ((fun k : Int ×ₗ Nat => (ofLex k).2) ∘ key) =
      rows.map fun r => (id r).int.val := List.map_congr_left fun r _ => hkey r
  rwa [hcongr]

def boardRows (t : Tables) (store : Uuid) (hours : Int) : List BoardRow :=
  t.orders.filterMap (promised store) ++ t.orders.filterMap (unpromised store hours)

lemma map_order_promised (orders : List BoardOrder) :
    (orders.filterMap (promised store)).map BoardRow.order =
      (orders.filter (inProduction store)).filter fun o => o.currentPromiseAt.isSome := by
  induction orders with
  | nil => rfl
  | cons o orders ih =>
    by_cases hin : inProduction store o
    · cases hpromise : o.currentPromiseAt with
      | none => simpa [promised, hin, hpromise] using ih
      | some promise => simpa [promised, hin, hpromise] using ih
    · simpa [promised, hin] using ih

lemma map_order_unpromised (orders : List BoardOrder) :
    (orders.filterMap (unpromised store hours)).map BoardRow.order =
      (orders.filter (inProduction store)).filter fun o => !o.currentPromiseAt.isSome := by
  induction orders with
  | nil => rfl
  | cons o orders ih =>
    by_cases hin : inProduction store o
    · obtain ⟨accepted, haccepted⟩ : ∃ accepted, o.productionAcceptedAt = some accepted := by
        simp only [inProduction, Bool.and_eq_true] at hin
        exact Option.isSome_iff_exists.mp hin.1.1.2
      cases hpromise : o.currentPromiseAt with
      | none => simpa [unpromised, hin, hpromise, haccepted] using ih
      | some promise => simpa [unpromised, hin, hpromise] using ih
    · simpa [unpromised, hin] using ih

lemma map_order_boardRows :
    ((boardRows t store hours).map BoardRow.order).Perm (t.orders.filter (inProduction store)) := by
  rw [boardRows, List.map_append, map_order_promised, map_order_unpromised]
  exact List.filter_append_perm _ _

lemma boardRows_key : ((boardRows t store hours).map dueKey).Nodup := by
  have hids : ((boardRows t store hours).map fun r => r.order.id) =
      ((boardRows t store hours).map BoardRow.order).map BoardOrder.id := by
    rw [List.map_map]
    rfl
  have hdistinct : ((boardRows t store hours).map fun r => r.order.id).Nodup := by
    rw [hids, (map_order_boardRows.map _).nodup_iff]
    exact t.orders_key.sublist (List.filter_sublist.map _)
  exact nodup_key (fun _ => rfl) hdistinct

def cursorKey (c : Int × Uuid) : Int ×ₗ Nat := toLex (c.1, c.2.int.val)

lemma dueKey_shift (r : BoardRow) (c : Int × Uuid) :
    (toLex (c.1 - hours * hourMicros, c.2.int.val) < acceptedKey hours r) ↔ cursorKey c < dueKey r := by
  rw [acceptedKey, dueKey, cursorKey, Prod.Lex.toLex_lt_toLex, Prod.Lex.toLex_lt_toLex]
  omega

lemma sortBy_acceptedKey (rows : List BoardRow) : sortBy (acceptedKey hours) rows = sortBy dueKey rows := by
  have h := map_sortBy id (acceptedKey hours) dueKey rows fun a _ b _ => by
    rw [acceptedKey, acceptedKey, dueKey, dueKey, Prod.Lex.toLex_le_toLex, Prod.Lex.toLex_le_toLex]
    simp only [id_eq]
    omega
  rwa [List.map_id, List.map_id] at h

lemma all_cursor (after : Option (Int × Uuid)) (r : BoardRow) :
    (after.map cursorKey).all (fun k => decide (k < dueKey r)) =
      after.all fun c => decide (cursorKey c < dueKey r) := by
  cases after <;> rfl

lemma slaBoardSql_eq (after : Option (Int × Uuid)) : slaBoardSql t store hours limit after =
    page dueKey limit (boardRows t store hours) (after.map cursorKey) := by
  have hpromised : promisedArm t store limit after =
      (sortBy dueKey (behind dueKey (after.map cursorKey) (t.orders.filterMap (promised store)))).take
        limit := by
    rw [promisedArm, behind]
    simp only [all_cursor]
    rfl
  have hunpromised : unpromisedArm t store hours limit after =
      (sortBy dueKey (behind dueKey (after.map cursorKey)
        (t.orders.filterMap (unpromised store hours)))).take limit := by
    rw [unpromisedArm, sortBy_acceptedKey, behind]
    simp only [all_cursor, dueKey_shift]
  have hn : ((behind dueKey (after.map cursorKey) (t.orders.filterMap (promised store)) ++
      behind dueKey (after.map cursorKey) (t.orders.filterMap (unpromised store hours))).map
        dueKey).Nodup := by
    rw [behind, behind, ← List.filter_append]
    exact boardRows_key.sublist (List.filter_sublist.map _)
  rw [slaBoardSql, hpromised, hunpromised, take_sortBy_append hn, page, boardRows, behind, behind, behind,
    List.filter_append]

/-- The caller may read the shop's shadow surfaces. -/
def MayRead (t : Tables) (principal : StaffPrincipal) (store : Uuid) : Prop :=
  (∃ role ∈ principal.roles, role ∈ shadowReadRoles) ∧ t.isMember principal.staffUserId store = true

lemma requireStoreAccess_ok (h : MayRead t principal store) :
    requireStoreAccess t principal store = .ok () := by
  rw [requireStoreAccess, require_true h.1, ok_bind, require_true h.2]

lemma slaRiskBoard_reads (h : MayRead t principal store) {target : Option Int}
    (hlimit : 1 ≤ limit ∧ limit ≤ slaBoardMaxLimit) :
    Reads (fun _ after => slaRiskBoard t principal store target limit after) boardCursor dueKey limit
      (boardRows t store (target.getD 0)) := by
  have hpage : ∀ after, slaRiskBoard t principal store target limit after =
      .ok (page dueKey limit (boardRows t store (target.getD 0)) (after.map cursorKey)) := by
    intro after
    rw [slaRiskBoard, require_true hlimit, ok_bind, requireStoreAccess_ok h, ok_bind, slaBoardSql_eq]
  constructor
  · intro _
    exact hpage none
  · intro _ r _
    exact hpage (some (boardCursor r))

lemma find?_of_mem {α β : Type} {rows : List α} {id : α → β} {p : α → Bool} {r : α}
    (hn : (rows.map id).Nodup) (hr : r ∈ rows) (hp : p r = true)
    (hid : ∀ r', p r' = true → id r' = id r) : rows.find? p = some r := by
  cases hfound : rows.find? p with
  | none => exact absurd hp (List.find?_eq_none.mp hfound r hr)
  | some found =>
    have hmem := List.mem_of_find?_eq_some hfound
    have hsame := hid found (List.find?_some hfound)
    rw [List.inj_on_of_nodup_map hn hmem hr hsame]

lemma comesAfter_eq (moment : Int) (id : Uuid) (anchor : Int × Uuid) :
    comesAfter moment id anchor = decide (newestFirst anchor.1 anchor.2 < newestFirst moment id) := by
  rw [Bool.eq_iff_iff, decide_eq_true_eq, newestFirst, newestFirst, Prod.Lex.toLex_lt_toLex, comesAfter]
  simp only [Bool.or_eq_true, Bool.and_eq_true, decide_eq_true_eq]
  omega

def reviewRows (t : Tables) (store : Uuid) : List ReviewedDraft :=
  (t.reviews.filter fun r => r.storeId = store).filterMap (reviewedDraft t)

def reviewCursor (row : ReviewedDraft) : Uuid := row.review.reviewId

lemma mem_reviewRows {row : ReviewedDraft} : row ∈ reviewRows t store ↔
    row.review ∈ t.reviews ∧ row.review.storeId = store ∧
      Table.lookup AgentDraft.agentRunId t.drafts row.review.agentRunId = some row.draft := by
  rw [reviewRows, List.mem_filterMap]
  constructor
  · rintro ⟨r, hr, hrow⟩
    rw [List.mem_filter, decide_eq_true_eq] at hr
    obtain ⟨d, hd, rfl⟩ := Option.map_eq_some_iff.mp hrow
    exact ⟨hr.1, hr.2, hd⟩
  · rintro ⟨hmem, hstore, hdraft⟩
    refine ⟨row.review, List.mem_filter.mpr ⟨hmem, decide_eq_true hstore⟩, ?_⟩
    rw [reviewedDraft, hdraft]
    rfl

/-- Each review of the store has its row: its draft is there. -/
lemma map_review_reviewRows :
    (reviewRows t store).map ReviewedDraft.review = t.reviews.filter fun r => r.storeId = store := by
  have hall : ∀ r ∈ t.reviews.filter (fun r => r.storeId = store),
      (reviewedDraft t r).map ReviewedDraft.review = some r := by
    intro r hr
    obtain ⟨d, hd, hid⟩ := List.mem_map.mp (t.reviews_draft r (List.mem_of_mem_filter hr))
    rw [reviewedDraft, ← hid, Table.lookup_of_mem t.drafts_key hd]
    rfl
  rw [reviewRows, List.map_filterMap]
  exact (List.filterMap_congr hall).trans List.filterMap_some

lemma reviewRows_key : ((reviewRows t store).map reviewKey).Nodup := by
  have hids : ((reviewRows t store).map reviewCursor) =
      ((reviewRows t store).map ReviewedDraft.review).map DraftReview.reviewId := by
    rw [List.map_map]
    rfl
  have hdistinct : ((reviewRows t store).map reviewCursor).Nodup := by
    rw [hids, map_review_reviewRows]
    exact t.reviews_key.sublist (List.filter_sublist.map _)
  exact nodup_key (fun _ => rfl) hdistinct

/-- The logs are append-only. -/
structure Grows (tables : Nat → Tables) : Prop where
  drafts : ∀ i, (tables i).drafts ⊆ (tables (i + 1)).drafts
  reviews : ∀ i, (tables i).reviews ⊆ (tables (i + 1)).reviews
  turns : ∀ i, (tables i).turns ⊆ (tables (i + 1)).turns

lemma subset_of_grows {α : Type} {rows : Nat → List α} (h : ∀ i, rows i ⊆ rows (i + 1)) {i j : Nat}
    (hle : i ≤ j) : rows i ⊆ rows j := by
  induction hle with
  | refl => exact List.Subset.refl _
  | step _ ih => exact List.Subset.trans ih (h _)

variable {tables : Nat → Tables}

lemma reviewRows_grows (h : Grows tables) (i : Nat) :
    reviewRows (tables i) store ⊆ reviewRows (tables (i + 1)) store := by
  intro row hrow
  obtain ⟨hmem, hstore, hdraft⟩ := mem_reviewRows.mp hrow
  refine mem_reviewRows.mpr ⟨h.reviews i hmem, hstore, ?_⟩
  rw [← Table.lookup_key hdraft]
  exact Table.lookup_of_mem (tables (i + 1)).drafts_key (h.drafts i (Table.lookup_mem hdraft))

lemma listReviewedDrafts_page (before : Option Uuid) (anchor : Option (Int × Uuid))
    (hread : MayRead t principal store) (hlimit : 1 ≤ limit ∧ limit ≤ 200)
    (hanchor : reviewAnchor t store before = .ok anchor) :
    listReviewedDrafts t principal store limit before =
      .ok (page reviewKey limit (reviewRows t store) (anchor.map fun c => newestFirst c.1 c.2)) := by
  rw [listReviewedDrafts, require_true hlimit, ok_bind, requireStoreAccess_ok hread, ok_bind, hanchor,
    ok_bind, page, behind]
  cases anchor with
  | none => rfl
  | some c =>
    simp only [Option.all_some, Option.map_some, comesAfter_eq]
    rfl

lemma reviews_reads (h : Grows tables) (hread : ∀ i, MayRead (tables i) principal store)
    (hlimit : 1 ≤ limit ∧ limit ≤ 200) :
    GrowingReads (fun i => listReviewedDrafts (tables i) principal store limit) reviewCursor reviewKey
      limit fun i => reviewRows (tables i) store where
  first i := listReviewedDrafts_page none none (hread i) hlimit rfl
  next i j hle row hrow := by
    obtain ⟨hmem, hstore, -⟩ := mem_reviewRows.mp (subset_of_grows (reviewRows_grows h) hle hrow)
    have hfound : (tables j).reviews.find? (fun r => r.storeId = store ∧ r.reviewId = reviewCursor row) =
        some row.review :=
      find?_of_mem (tables j).reviews_key hmem (by simp [hstore, reviewCursor])
        fun r' hr' => (of_decide_eq_true hr').2
    have hanchor : reviewAnchor (tables j) store (some (reviewCursor row)) =
        .ok (some (row.review.decidedAt, row.review.reviewId)) := by
      rw [reviewAnchor, hfound]
    exact listReviewedDrafts_page _ _ (hread j) hlimit hanchor
  grows := reviewRows_grows h
  distinct _ := reviewRows_key

def visibleTurns (t : Tables) (principal : StaffPrincipal) (store : Uuid) : List AssistantTurn :=
  t.turns.filter (visibleTurn principal store)

lemma visibleTurns_grows (h : Grows tables) (i : Nat) :
    visibleTurns (tables i) principal store ⊆ visibleTurns (tables (i + 1)) principal store := by
  intro turn hturn
  obtain ⟨hmem, hvisible⟩ := List.mem_filter.mp hturn
  exact List.mem_filter.mpr ⟨h.turns i hmem, hvisible⟩

lemma visibleTurns_key : ((visibleTurns t principal store).map turnKey).Nodup :=
  nodup_key (fun _ => rfl) (t.turns_key.sublist (List.filter_sublist.map _))

lemma listRecent_page (before : Option Uuid) (anchor : Option (Int × Uuid))
    (hmember : t.isMember principal.staffUserId store = true) (hlimit : 1 ≤ limit ∧ limit ≤ listLimitMax)
    (hanchor : turnAnchor t principal store before = .ok anchor) :
    listRecent t principal store limit before =
      .ok (page turnKey limit (visibleTurns t principal store)
        (anchor.map fun c => newestFirst c.1 c.2)) := by
  rw [listRecent, require_true hlimit, ok_bind, require_true hmember, ok_bind, hanchor, ok_bind, page,
    behind]
  cases anchor with
  | none => rfl
  | some c =>
    simp only [Option.all_some, Option.map_some, comesAfter_eq]
    rfl

lemma turns_reads (h : Grows tables)
    (hmember : ∀ i, (tables i).isMember principal.staffUserId store = true)
    (hlimit : 1 ≤ limit ∧ limit ≤ listLimitMax) :
    GrowingReads (fun i => listRecent (tables i) principal store limit) AssistantTurn.turnId turnKey
      limit fun i => visibleTurns (tables i) principal store where
  first i := listRecent_page none none (hmember i) hlimit rfl
  next i j hle turn hturn := by
    obtain ⟨hmem, hvisible⟩ :=
      List.mem_filter.mp (subset_of_grows (visibleTurns_grows h) hle hturn)
    have hfound : (tables j).turns.find?
        (fun other => visibleTurn principal store other ∧ other.turnId = turn.turnId) = some turn :=
      find?_of_mem (tables j).turns_key hmem (by simp [hvisible])
        fun other hother => (of_decide_eq_true hother).2
    have hanchor : turnAnchor (tables j) principal store (some turn.turnId) =
        .ok (some (turn.createdAt, turn.turnId)) := by
      rw [turnAnchor, hfound]
    exact listRecent_page _ _ (hmember j) hlimit hanchor
  grows := visibleTurns_grows h
  distinct _ := visibleTurns_key

/-- Following the cursor to the end visits each order in production, each review of the
store and each turn the caller may see once and in order, page after page; rows that
come into the two logs on the way change nothing about those that were there. -/
theorem paging_complete (t : Tables) (principal : StaffPrincipal) (store : Uuid) :
    (MayRead t principal store → ∀ target : Option Int, ∀ limit, 1 ≤ limit ∧ limit ≤ slaBoardMaxLimit →
      Complete (fun _ => slaRiskBoard t principal store target limit) boardCursor dueKey limit
        (boardRows t store (target.getD 0)) ∧
      ((boardRows t store (target.getD 0)).map BoardRow.order).Perm
        (t.orders.filter (inProduction store))) ∧
    (MayRead t principal store → ∀ limit, 1 ≤ limit ∧ limit ≤ 200 →
      Complete (fun _ => listReviewedDrafts t principal store limit) reviewCursor reviewKey limit
        (reviewRows t store) ∧
      (reviewRows t store).map ReviewedDraft.review = t.reviews.filter fun r => r.storeId = store) ∧
    (t.isMember principal.staffUserId store = true → ∀ limit, 1 ≤ limit ∧ limit ≤ listLimitMax →
      Complete (fun _ => listRecent t principal store limit) AssistantTurn.turnId turnKey limit
        (t.turns.filter (visibleTurn principal store))) ∧
    ∀ tables : Nat → Tables, tables 0 = t → Grows tables →
      ((∀ i, MayRead (tables i) principal store) → ∀ limit, 1 ≤ limit ∧ limit ≤ 200 → ∀ pages,
        Follows (fun i => listReviewedDrafts (tables i) principal store limit) reviewCursor 0 none
          pages →
        pages.flatten.filter (· ∈ reviewRows t store) = sortBy reviewKey (reviewRows t store)) ∧
      ((∀ i, (tables i).isMember principal.staffUserId store = true) →
        ∀ limit, 1 ≤ limit ∧ limit ≤ listLimitMax → ∀ pages,
        Follows (fun i => listRecent (tables i) principal store limit) AssistantTurn.turnId 0 none
          pages →
        pages.flatten.filter (· ∈ t.turns.filter (visibleTurn principal store)) =
          sortBy turnKey (t.turns.filter (visibleTurn principal store))) := by
  have hstill : Grows fun _ => t :=
    ⟨fun _ => List.Subset.refl _, fun _ => List.Subset.refl _, fun _ => List.Subset.refl _⟩
  refine ⟨fun hread target limit hlimit => ⟨?_, map_order_boardRows⟩,
    fun hread limit hlimit => ⟨?_, map_review_reviewRows⟩, fun hmember limit hlimit => ?_, ?_⟩
  · exact (slaRiskBoard_reads hread hlimit).complete boardRows_key hlimit.1
  · exact (reviews_reads hstill (fun _ => hread) hlimit).reads.complete reviewRows_key hlimit.1
  · exact (turns_reads hstill (fun _ => hmember) hlimit).reads.complete visibleTurns_key hlimit.1
  · rintro tables rfl hgrows
    constructor
    · intro hread limit hlimit pages hfollows
      exact (reviews_reads hgrows hread hlimit).undisturbed hlimit.1 hfollows
    · intro hmember limit hlimit pages hfollows
      exact (turns_reads hgrows hmember hlimit).undisturbed hlimit.1 hfollows

end NhaTrangLaundry.Db.PagedReads
