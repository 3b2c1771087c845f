import NhaTrangLaundry.Lib.Sorting

/-! Reading a sorted table page by page: each page starts behind the last row of the one
before it. -/

namespace NhaTrangLaundry.Lib.Keyset

open Sorting

variable {α κ γ ε : Type*} [LinearOrder κ]

/-- The rows behind a key; all of them when there is none. -/
def behind (key : α → κ) (after : Option κ) (rows : List α) : List α :=
  rows.filter fun r => after.all fun k => decide (k < key r)

def page (key : α → κ) (limit : Nat) (rows : List α) (after : Option κ) : List α :=
  (sortBy key (behind key after rows)).take limit

/-- The pages of a reader who follows the cursor from the `i`-th read on, until one of
them is empty. -/
inductive Follows (fetch : Nat → Option γ → Except ε (List α)) (cursor : α → γ) :
    Nat → Option γ → List (List α) → Prop where
  | done {i : Nat} {after : Option γ} (hfetch : fetch i after = .ok []) : Follows fetch cursor i after []
  | more {i : Nat} {after : Option γ} {rows : List α} {last : α} {pages : List (List α)}
      (hfetch : fetch i after = .ok rows) (hlast : rows.getLast? = some last)
      (hrest : Follows fetch cursor (i + 1) (some (cursor last)) pages) :
      Follows fetch cursor i after (rows :: pages)

def Continues (limit : Nat) (sorted : List α) (pages : List (List α)) : Prop :=
  ∀ earlier rows later, pages = earlier ++ rows :: later →
    rows = (sorted.drop earlier.flatten.length).take limit

variable {key : α → κ} {limit : Nat} {rows : List α} {after : Option κ}

lemma behind_none : behind key none rows = rows :=
  List.filter_eq_self.mpr fun _ _ => rfl

lemma mem_behind_some {k : κ} {r : α} : r ∈ behind key (some k) rows ↔ r ∈ rows ∧ k < key r := by
  rw [behind, List.mem_filter]
  exact and_congr_right fun _ => decide_eq_true_iff

lemma behind_behind {last : α} (hlast : last ∈ behind key after rows) :
    behind key (some (key last)) (behind key after rows) = behind key (some (key last)) rows := by
  cases after with
  | none => rw [behind_none]
  | some k =>
    have hk := (mem_behind_some.mp hlast).2
    rw [behind, behind, behind, List.filter_filter]
    refine List.filter_congr fun r _ => ?_
    simp only [Option.all_some, Bool.and_eq_left_iff_imp, decide_eq_true_eq]
    exact fun hr => hk.trans hr

lemma page_eq_nil (hlimit : 0 < limit) (h : page key limit rows after = []) :
    behind key after rows = [] := by
  rw [page, List.take_eq_nil_iff] at h
  rcases h with hzero | hnil
  · omega
  · exact sortBy_eq_nil.mp hnil

lemma sortBy_behind (hn : (rows.map key).Nodup) {first rest : List α} {last : α}
    (hsorted : sortBy key rows = first ++ rest) (hlast : first.getLast? = some last) :
    sortBy key (behind key (some (key last)) rows) = rest := by
  obtain ⟨front, rfl⟩ := List.getLast?_eq_some_iff.mp hlast
  have horder := sortBy_sorted key rows
  have hdistinct : ((sortBy key rows).map key).Nodup := nodup_map_sortBy.mpr hn
  rw [hsorted] at horder hdistinct
  rw [behind, ← filter_sortBy _ hn, hsorted, List.filter_append]
  have hfront : (front ++ [last]).filter (fun r => (some (key last)).all fun k => decide (k < key r)) =
      [] := by
    refine List.filter_eq_nil_iff.mpr fun r hr => ?_
    simp only [Option.all_some, decide_eq_true_eq, not_lt]
    rcases List.mem_append.mp hr with hr | hr
    · have hfirst := (List.pairwise_append.mp horder).1
      exact (List.pairwise_append.mp hfirst).2.2 r hr last List.mem_cons_self
    · rw [List.mem_singleton.mp hr]
  have hrest : rest.filter (fun r => (some (key last)).all fun k => decide (k < key r)) = rest := by
    refine List.filter_eq_self.mpr fun r hr => ?_
    simp only [Option.all_some, decide_eq_true_eq]
    refine lt_of_le_of_ne ((List.pairwise_append.mp horder).2.2 last (by simp) r hr) fun heq => ?_
    rw [List.map_append] at hdistinct
    have hlater : key last ∈ rest.map key := by
      rw [heq]
      exact List.mem_map_of_mem hr
    exact (List.disjoint_of_nodup_append hdistinct) (List.mem_map_of_mem (by simp)) hlater
  rw [hfront, hrest, List.nil_append]

section Fixed

variable {fetch : Nat → Option γ → Except ε (List α)} {cursor : α → γ}

/-- A table that does not change, read by its cursor. -/
structure Reads (fetch : Nat → Option γ → Except ε (List α)) (cursor : α → γ) (key : α → κ)
    (limit : Nat) (rows : List α) : Prop where
  first : ∀ i, fetch i none = .ok (page key limit rows none)
  next : ∀ i, ∀ r ∈ rows, fetch i (some (cursor r)) = .ok (page key limit rows (some (key r)))

/-- The cursor of a reader who has the first rows of the sorted table. -/
def At (cursor : α → γ) (first : List α) (after : Option γ) : Prop :=
  after = first.getLast?.map cursor

lemma Reads.fetch_at (h : Reads fetch cursor key limit rows) (hn : (rows.map key).Nodup)
    {first rest : List α} (hsorted : sortBy key rows = first ++ rest) {i : Nat} {after : Option γ}
    (hat : At cursor first after) : fetch i after = .ok (rest.take limit) := by
  rw [At] at hat
  cases hlast : first.getLast? with
  | none =>
    rw [List.getLast?_eq_none_iff] at hlast
    rw [hat, hlast, List.getLast?_nil, Option.map_none, h.first, page, behind_none, hsorted, hlast,
      List.nil_append]
  | some last =>
    have hmem : last ∈ rows := by
      have hsortedmem : last ∈ sortBy key rows := by
        rw [hsorted]
        exact List.mem_append_left _ (List.mem_of_getLast? hlast)
      exact mem_sortBy.mp hsortedmem
    rw [hat, hlast, Option.map_some, h.next i last hmem, page, sortBy_behind hn hsorted hlast]

lemma at_append {first rows : List α} {last : α} (hlast : rows.getLast? = some last) :
    At cursor (first ++ rows) (some (cursor last)) := by
  rw [At, List.getLast?_append_of_ne_nil _ (by rintro rfl; cases hlast), hlast]
  rfl

lemma Reads.flatten (h : Reads fetch cursor key limit rows) (hn : (rows.map key).Nodup)
    (hlimit : 0 < limit) {i : Nat} {after : Option γ} {pages : List (List α)}
    (hfollows : Follows fetch cursor i after pages) :
    ∀ first rest, sortBy key rows = first ++ rest → At cursor first after →
      pages.flatten = rest ∧ Continues limit rest pages := by
  induction hfollows with
  | done hfetch =>
    intro first rest hsorted hat
    rw [h.fetch_at hn hsorted hat, Except.ok.injEq, List.take_eq_nil_iff] at hfetch
    refine ⟨(hfetch.resolve_left (by omega)).symm, fun earlier rows later hsplit => ?_⟩
    cases earlier <;> cases hsplit
  | @more i after taken last pages hfetch hlast hrest ih =>
    intro first rest hsorted hat
    rw [h.fetch_at hn hsorted hat, Except.ok.injEq] at hfetch
    have hsplit : rest = taken ++ rest.drop limit := by rw [← hfetch, List.take_append_drop]
    obtain ⟨hflatten, hcontinues⟩ := ih (first ++ taken) (rest.drop limit)
      (by rw [List.append_assoc, ← hsplit, hsorted]) (at_append hlast)
    refine ⟨by rw [List.flatten_cons, hflatten, ← hsplit], fun earlier rows later hpages => ?_⟩
    cases earlier with
    | nil =>
      cases hpages
      exact hfetch.symm
    | cons head earlier =>
      cases hpages
      have hdrop : rest.drop (taken ++ earlier.flatten).length =
          (rest.drop limit).drop earlier.flatten.length := by
        conv_lhs => rw [hsplit, List.length_append, ← List.drop_drop, List.drop_left]
      rw [List.flatten_cons, hdrop]
      exact hcontinues earlier rows later rfl

lemma Reads.exists_follows (h : Reads fetch cursor key limit rows) (hn : (rows.map key).Nodup)
    (hlimit : 0 < limit) (n : Nat) : ∀ (i : Nat) (after : Option γ) (first rest : List α),
      rest.length ≤ n → sortBy key rows = first ++ rest → At cursor first after →
      ∃ pages, Follows fetch cursor i after pages := by
  induction n with
  | zero =>
    intro i after first rest hlength hsorted hat
    have hnil : rest = [] := List.length_eq_zero_iff.mp (by omega)
    refine ⟨[], .done ?_⟩
    rw [h.fetch_at hn hsorted hat, hnil, List.take_nil]
  | succ n ih =>
    intro i after first rest hlength hsorted hat
    cases hlast : (rest.take limit).getLast? with
    | none =>
      refine ⟨[], .done ?_⟩
      rw [h.fetch_at hn hsorted hat, List.getLast?_eq_none_iff.mp hlast]
    | some last =>
      have hpos : 0 < rest.length := by
        rw [List.length_pos_iff]
        rintro rfl
        rw [List.take_nil] at hlast
        cases hlast
      obtain ⟨pages, hpages⟩ := ih (i + 1) _ _ (rest.drop limit)
        (by rw [List.length_drop]; omega)
        (by rw [List.append_assoc, List.take_append_drop, hsorted]) (at_append hlast)
      exact ⟨_, .more (h.fetch_at hn hsorted hat) hlast hpages⟩

/-- Following the cursor comes to an end and gives the whole sorted table, page after page. -/
def Complete (fetch : Nat → Option γ → Except ε (List α)) (cursor : α → γ) (key : α → κ)
    (limit : Nat) (rows : List α) : Prop :=
  (∃ pages, Follows fetch cursor 0 none pages) ∧
    ∀ pages, Follows fetch cursor 0 none pages →
      pages.flatten = sortBy key rows ∧ Continues limit (sortBy key rows) pages

theorem Reads.complete (h : Reads fetch cursor key limit rows) (hn : (rows.map key).Nodup)
    (hlimit : 0 < limit) : Complete fetch cursor key limit rows :=
  ⟨h.exists_follows hn hlimit _ 0 none [] (sortBy key rows) le_rfl rfl rfl,
    fun _ hfollows => h.flatten hn hlimit hfollows [] (sortBy key rows) rfl rfl⟩

end Fixed

section Growing

variable {fetch : Nat → Option γ → Except ε (List α)} {cursor : α → γ} {tables : Nat → List α}

/-- A table that only grows, read by its cursor. -/
structure GrowingReads (fetch : Nat → Option γ → Except ε (List α)) (cursor : α → γ) (key : α → κ)
    (limit : Nat) (tables : Nat → List α) : Prop where
  first : ∀ i, fetch i none = .ok (page key limit (tables i) none)
  next : ∀ i j, i ≤ j → ∀ r ∈ tables i,
    fetch j (some (cursor r)) = .ok (page key limit (tables j) (some (key r)))
  grows : ∀ i, tables i ⊆ tables (i + 1)
  distinct : ∀ i, ((tables i).map key).Nodup

lemma GrowingReads.mono (h : GrowingReads fetch cursor key limit tables) {i j : Nat} (hle : i ≤ j) :
    tables i ⊆ tables j := by
  induction hle with
  | refl => exact List.Subset.refl _
  | step _ ih => exact List.Subset.trans ih (h.grows _)

lemma GrowingReads.reads (h : GrowingReads fetch cursor key limit fun _ => rows) :
    Reads fetch cursor key limit rows :=
  ⟨h.first, fun i => h.next i i le_rfl⟩

lemma filter_start [DecidableEq α] {start table : List α} {p : α → Bool} (hsub : start ⊆ table)
    (hdistinct : (table.map key).Nodup) (hstart : (start.map key).Nodup) :
    (sortBy key (table.filter p)).filter (· ∈ start) = sortBy key (start.filter p) := by
  have hkeys : ((table.filter p).map key).Nodup := hdistinct.sublist (List.filter_sublist.map _)
  rw [filter_sortBy _ hkeys]
  refine sortBy_eq_of_perm ?_ (hkeys.sublist (List.filter_sublist.map _))
  refine (List.perm_ext_iff_of_nodup ?_ ?_).mpr fun r => ?_
  · exact (hdistinct.of_map _).filter _ |>.filter _
  · exact (hstart.of_map _).filter _
  · simp only [List.mem_filter, decide_eq_true_eq]
    exact ⟨fun hr => ⟨hr.2, hr.1.2⟩, fun hr => ⟨⟨hsub hr.1, hr.2⟩, hr.1⟩⟩

def Points (cursor : α → γ) (key : α → κ) (rows : List α) (after : Option γ) (k : Option κ) : Prop :=
  (after = none ∧ k = none) ∨ ∃ r ∈ rows, after = some (cursor r) ∧ k = some (key r)

lemma GrowingReads.filter_flatten [DecidableEq α] (h : GrowingReads fetch cursor key limit tables)
    (hlimit : 0 < limit) {i : Nat} {after : Option γ} {pages : List (List α)}
    (hfollows : Follows fetch cursor i after pages) :
    ∀ k, Points cursor key (tables i) after k →
      pages.flatten.filter (· ∈ tables 0) = sortBy key (behind key k (tables 0)) := by
  have hfetch_at : ∀ {i : Nat} {after : Option γ} {k : Option κ},
      Points cursor key (tables i) after k → fetch i after = .ok (page key limit (tables i) k) := by
    intro i after k hpoints
    rcases hpoints with ⟨rfl, rfl⟩ | ⟨r, hr, rfl, rfl⟩
    · exact h.first i
    · exact h.next i i le_rfl r hr
  induction hfollows with
  | @done i after hfetch =>
    intro k hpoints
    rw [hfetch_at hpoints, Except.ok.injEq] at hfetch
    have hnone := page_eq_nil hlimit hfetch
    have hstart := filter_start (p := fun r => k.all fun k => decide (k < key r))
      (h.mono (Nat.zero_le i)) (h.distinct i) (h.distinct 0)
    rw [← behind, ← behind, hnone] at hstart
    exact hstart
  | @more i after taken last pages hfetch hlast hrest ih =>
    intro k hpoints
    rw [hfetch_at hpoints, Except.ok.injEq] at hfetch
    have hbehind : last ∈ behind key k (tables i) := by
      have htaken : last ∈ page key limit (tables i) k := hfetch ▸ List.mem_of_getLast? hlast
      exact mem_sortBy.mp (List.mem_of_mem_take htaken)
    have hmem : last ∈ tables i := List.mem_of_mem_filter hbehind
    have hlater := ih (some (key last)) (.inr ⟨last, h.grows i hmem, rfl, rfl⟩)
    have hkeys : ((behind key k (tables i)).map key).Nodup :=
      (h.distinct i).sublist (List.filter_sublist.map _)
    have hsplit : sortBy key (behind key k (tables i)) = taken ++
        (sortBy key (behind key k (tables i))).drop limit := by
      rw [← hfetch, page, List.take_append_drop]
    have hdrop := sortBy_behind hkeys hsplit hlast
    rw [behind_behind hbehind] at hdrop
    have hwhole := filter_start (p := fun r => k.all fun k => decide (k < key r))
      (h.mono (Nat.zero_le i)) (h.distinct i) (h.distinct 0)
    have hrestof := filter_start (p := fun r => (some (key last)).all fun k => decide (k < key r))
      (h.mono (Nat.zero_le i)) (h.distinct i) (h.distinct 0)
    rw [← behind, ← behind] at hwhole hrestof
    rw [List.flatten_cons, List.filter_append, hlater, ← hwhole, hsplit, List.filter_append, ← hdrop,
      hrestof]

theorem GrowingReads.undisturbed [DecidableEq α] (h : GrowingReads fetch cursor key limit tables)
    (hlimit : 0 < limit) {pages : List (List α)} (hfollows : Follows fetch cursor 0 none pages) :
    pages.flatten.filter (· ∈ tables 0) = sortBy key (tables 0) := by
  rw [h.filter_flatten hlimit hfollows none (.inl ⟨rfl, rfl⟩), behind_none]

end Growing

section Merge

variable {le : α → α → Bool}

lemma take_merge (k : Nat) : ∀ l l' : List α,
    (l.merge l' le).take k = ((l.take k).merge (l'.take k) le).take k := by
  induction k with
  | zero => simp
  | succ k ih =>
    intro l l'
    cases l with
    | nil => simp [List.take_take]
    | cons a l =>
      cases l' with
      | nil => simp [List.take_take]
      | cons b l' =>
        rw [List.take_succ_cons, List.take_succ_cons, List.cons_merge_cons, List.cons_merge_cons]
        split_ifs
        · rw [List.take_succ_cons, List.take_succ_cons, ih, ih _ (b :: l'.take k)]
          congr 3
          · rw [List.take_take, Nat.min_self]
          · cases k with
            | zero => rfl
            | succ k => rw [List.take_succ_cons, List.take_succ_cons, List.take_take, Nat.min_eq_left (by omega)]
        · rw [List.take_succ_cons, List.take_succ_cons, ih, ih (a :: l.take k)]
          congr 3
          · cases k with
            | zero => rfl
            | succ k => rw [List.take_succ_cons, List.take_succ_cons, List.take_take, Nat.min_eq_left (by omega)]
          · rw [List.take_take, Nat.min_self]

end Merge

lemma sortBy_append {left right : List α} (hn : ((left ++ right).map key).Nodup) :
    sortBy key (left ++ right) =
      (sortBy key left).merge (sortBy key right) fun a b => decide (key a ≤ key b) := by
  have hperm : ((sortBy key left).merge (sortBy key right) fun a b => decide (key a ≤ key b)).Perm
      (left ++ right) :=
    (List.merge_perm_append _).trans ((sortBy_perm key left).append (sortBy_perm key right))
  refine eq_of_perm_of_sorted ((sortBy_perm key _).trans hperm.symm) (nodup_map_sortBy.mpr hn)
    (sortBy_sorted key _) ?_
  have hsorted := @List.pairwise_merge α (fun a b : α => decide (key a ≤ key b))
    (fun a b c hab hbc => by
      rw [decide_eq_true_eq] at hab hbc ⊢
      exact hab.trans hbc)
    (fun a b => by
      rw [Bool.or_eq_true, decide_eq_true_eq, decide_eq_true_eq]
      exact le_total _ _)
    (sortBy key left) (sortBy key right)
    ((sortBy_sorted key left).imp fun hab => decide_eq_true hab)
    ((sortBy_sorted key right).imp fun hab => decide_eq_true hab)
  exact hsorted.imp fun hab => of_decide_eq_true hab

/-- Two tables, each cut to a page, sorted together and cut again. -/
theorem take_sortBy_append {left right : List α} (hn : ((left ++ right).map key).Nodup) :
    (sortBy key ((sortBy key left).take limit ++ (sortBy key right).take limit)).take limit =
      (sortBy key (left ++ right)).take limit := by
  have hcut : (((sortBy key left).take limit ++ (sortBy key right).take limit).map key).Nodup := by
    have hsorted : ((sortBy key left ++ sortBy key right).map key).Nodup :=
      (((sortBy_perm key left).append (sortBy_perm key right)).map key).nodup_iff.mpr hn
    exact hsorted.sublist (((List.take_sublist _ _).append (List.take_sublist _ _)).map key)
  have hsub : ∀ l : List α, sortBy key ((sortBy key l).take limit) = (sortBy key l).take limit :=
    fun l => sortBy_of_sorted ((sortBy_sorted key l).sublist (List.take_sublist _ _))
  rw [sortBy_append hcut, sortBy_append hn, hsub, hsub]
  exact (take_merge limit _ _).symm

end NhaTrangLaundry.Lib.Keyset
