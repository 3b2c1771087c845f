import NhaTrangLaundry.Lib.Jsonb

/-! Readers of JSON values that do not look at the order of object members. -/

namespace NhaTrangLaundry.Lib.Json

open Sorting

variable {α : Type}

/-- However the members of the value are ordered, `read` finds `a` in it. -/
def Reads (read : Json → Option α) (value : Json) (a : α) : Prop :=
  ∀ stored, Same stored value → distinct stored → read stored = some a

/-- The object holds these members, in some order. -/
structure Holds (stored : Json) (fields : List (String × Json)) : Prop where
  same : Same stored (.obj fields)
  distinct : distinct stored

lemma same_null {j : Json} (h : Same j .null) : j = .null := by
  cases j <;> simp_all [Same, sorted]

lemma same_bool {j : Json} {b : Bool} (h : Same j (.bool b)) : j = .bool b := by
  cases j <;> simp_all [Same, sorted]

lemma same_int {j : Json} {n : Int} (h : Same j (.int n)) : j = .int n := by
  cases j <;> simp_all [Same, sorted]

lemma same_str {j : Json} {s : String} (h : Same j (.str s)) : j = .str s := by
  cases j <;> simp_all [Same, sorted]

lemma same_arr {j : Json} {xs : List Json} (h : Same j (.arr xs)) :
    ∃ ys, j = .arr ys ∧ List.Forall₂ Same ys xs := by
  cases j with
  | arr ys =>
    simp only [Same, sorted, sortedList_eq, arr.injEq] at h
    have hall : List.Forall₂ Eq (ys.map sorted) (xs.map sorted) := List.forall₂_eq_eq_eq ▸ h
    rw [List.forall₂_map_left_iff, List.forall₂_map_right_iff] at hall
    exact ⟨ys, rfl, hall⟩
  | _ => simp [Same, sorted] at h

lemma same_obj {j : Json} {fields : List (String × Json)} (h : Same j (.obj fields)) :
    ∃ fields', j = .obj fields' := by
  cases j with
  | obj fields' => exact ⟨fields', rfl⟩
  | _ => simp [Same, sorted] at h

lemma same_sorted (j : Json) : Same (sorted j) j := by
  unfold Same
  induction j using induction with
  | null => rfl
  | bool _ => rfl
  | int _ => rfl
  | str _ => rfl
  | arr xs ih =>
    simp only [sorted, sortedList_eq, List.map_map, arr.injEq]
    exact List.map_congr_left ih
  | obj fs ih =>
    have hvalues : (fs.map fun f => (f.1, sorted (sorted f.2))) = fs.map fun f => (f.1, sorted f.2) :=
      List.map_congr_left fun f hf => by rw [ih f hf]
    simp only [sorted, sortedFields_eq, map_sortFields, List.map_map, Function.comp_def, hvalues]
    rw [sortFields, sortFields, sortBy_idem]

lemma allText_of_sorted {p q : String → Prop} {j : Json} (h : allText p q (sorted j)) :
    allText p q j := by
  induction j using induction with
  | null => trivial
  | bool _ => trivial
  | int _ => trivial
  | str _ => exact h
  | arr xs ih =>
    simp only [sorted, allText, allTextList_iff, sortedList_eq, List.forall_mem_map] at h
    simp only [allText, allTextList_iff]
    exact fun x hx => ih x hx (h x hx)
  | obj fs ih =>
    simp only [sorted, allText, allTextFields_iff, sortedFields_eq, (sortFields_perm _).mem_iff,
      List.forall_mem_map] at h
    simp only [allText, allTextFields_iff]
    exact fun f hf => ⟨(h f hf).1, ih f hf (h f hf).2⟩

lemma Same.trans {a b c : Json} (h : Same a b) (h' : Same b c) : Same a c := Eq.trans h h'

lemma distinct_columnOrder {j : Json} (h : distinct j) : distinct (columnOrder j) := by
  induction j using induction with
  | null => trivial
  | bool _ => trivial
  | int _ => trivial
  | str _ => trivial
  | arr xs ih =>
    simp only [distinct, distinctList_iff] at h
    simp only [columnOrder, columnOrderList_eq, distinct, distinctList_iff, List.forall_mem_map]
    exact fun x hx => ih x hx (h x hx)
  | obj fs ih =>
    simp only [distinct, distinctFields_iff] at h
    simp only [columnOrder, columnOrderFields_eq, distinct, distinctFields_iff]
    refine ⟨?_, fun f hf => ?_⟩
    · rw [nodup_map_sortBy, List.map_map]
      exact h.1
    · obtain ⟨f', hf', rfl⟩ := List.mem_map.mp ((sortBy_perm _ _).mem_iff.mp hf)
      exact ih f' hf' (h.2 f' hf')

lemma names_sorted (fields : List (String × Json)) :
    (sortFields (sortedFields fields)).map Prod.fst |>.Perm (fields.map Prod.fst) := by
  have hnames : fields.map Prod.fst = (sortedFields fields).map Prod.fst := by
    rw [sortedFields_eq, List.map_map]
    rfl
  rw [hnames]
  exact (sortFields_perm _).map _

lemma Same.get? {fields fields' : List (String × Json)} (h : Same (.obj fields') (.obj fields))
    (hnames : (fields'.map Prod.fst).Nodup) (key : String) :
    (fields'.lookup key).map sorted = (fields.lookup key).map sorted := by
  have heq : sortFields (sortedFields fields') = sortFields (sortedFields fields) := by
    simpa only [Same, sorted, obj.injEq] using h
  have hnames' : (fields.map Prod.fst).Nodup := by
    rw [← (names_sorted fields).nodup_iff, ← heq, (names_sorted fields').nodup_iff]
    exact hnames
  rw [← sorted_obj_get? fields' hnames, ← sorted_obj_get? fields hnames', h]

lemma lookup_mem {fields : List (String × Json)} {key : String} {value : Json}
    (h : fields.lookup key = some value) : ∃ name, (name, value) ∈ fields := by
  induction fields with
  | nil => cases h
  | cons f fields ih =>
    rw [List.lookup_cons] at h
    split at h
    · cases h
      exact ⟨f.1, List.mem_cons_self⟩
    · obtain ⟨name, hmem⟩ := ih h
      exact ⟨name, List.mem_cons_of_mem _ hmem⟩

lemma Holds.get? {stored : Json} {fields : List (String × Json)} (h : Holds stored fields)
    {key : String} {value : Json} (hkey : fields.lookup key = some value) :
    ∃ kept, stored.get? key = some kept ∧ Same kept value ∧ Json.distinct kept := by
  obtain ⟨fields', rfl⟩ := same_obj h.same
  have hdistinct := h.distinct
  rw [Json.distinct, distinctFields_iff] at hdistinct
  have hlookup := h.same.get? hdistinct.1 key
  rw [hkey, Option.map_some, Option.map_eq_some_iff] at hlookup
  obtain ⟨kept, hkept, hsame⟩ := hlookup
  obtain ⟨name, hmem⟩ := lookup_mem hkept
  exact ⟨kept, hkept, hsame, hdistinct.2 _ hmem⟩

lemma Reads.mapM {read : Json → Option α} {write : α → Json} (items : List α)
    (h : ∀ a ∈ items, Reads read (write a) a) :
    ∀ stored, List.Forall₂ Same stored (items.map write) → (∀ x ∈ stored, distinct x) →
      stored.mapM read = some items := by
  induction items with
  | nil =>
    intro stored hsame _
    cases hsame
    rfl
  | cons a items ih =>
    intro stored hsame hdistinct
    rw [List.map_cons] at hsame
    cases hsame with
    | @cons x _ stored _ hx hrest =>
      rw [List.forall_mem_cons] at h hdistinct
      rw [List.mapM_cons, h.1 x hx hdistinct.1, ih h.2 stored hrest hdistinct.2]
      rfl

end NhaTrangLaundry.Lib.Json
