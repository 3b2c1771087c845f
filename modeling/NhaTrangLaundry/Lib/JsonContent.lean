import NhaTrangLaundry.Lib.JsonReads

/-! What a JSON value says, with the order of its members left out. -/

namespace NhaTrangLaundry.Lib

open Sorting

/-- The content of a value; an object is what it holds under each name. -/
inductive Content where
  | null
  | bool (b : Bool)
  | int (n : Int)
  | str (s : String)
  | arr (items : List Content)
  | obj (holds : String → Option Content)

namespace Json

mutual

def content : Json → Content
  | .null => .null
  | .bool b => .bool b
  | .int n => .int n
  | .str s => .str s
  | .arr xs => .arr (contentList xs)
  | .obj fs => .obj fun name => (contentFields fs).lookup name

def contentList : List Json → List Content
  | [] => []
  | x :: xs => content x :: contentList xs

def contentFields : List (String × Json) → List (String × Content)
  | [] => []
  | (k, v) :: fs => (k, content v) :: contentFields fs

end

lemma contentList_eq (xs : List Json) : contentList xs = xs.map content := by
  induction xs with
  | nil => rfl
  | cons x xs ih => simp [contentList, ih]

lemma contentFields_eq (fs : List (String × Json)) :
    contentFields fs = fs.map fun f => (f.1, content f.2) := by
  induction fs with
  | nil => rfl
  | cons f fs ih => simp [contentFields, ih]

lemma mem_iff_lookup {fs : List (String × Json)} (h : (fs.map Prod.fst).Nodup) {k : String}
    {v : Json} : (k, v) ∈ fs ↔ fs.lookup k = some v := by
  induction fs with
  | nil => simp
  | cons f fs ih =>
    obtain ⟨name, x⟩ := f
    rw [List.map_cons, List.nodup_cons] at h
    rw [List.mem_cons, List.lookup_cons, ih h.2]
    by_cases hname : k = name
    · subst hname
      have habsent : fs.lookup k ≠ some v := fun hv =>
        h.1 (List.mem_map.mpr ⟨(k, v), (ih h.2).mpr hv, rfl⟩)
      simp [habsent, eq_comm]
    · simp [beq_eq_false_iff_ne.mpr hname, hname]

lemma content_sorted {j : Json} (h : distinct j) : content (sorted j) = content j := by
  induction j using induction with
  | null => rfl
  | bool _ => rfl
  | int _ => rfl
  | str _ => rfl
  | arr xs ih =>
    simp only [distinct, distinctList_iff] at h
    simp only [sorted, content, sortedList_eq, contentList_eq, List.map_map]
    exact congrArg Content.arr (List.map_congr_left fun x hx => ih x hx (h x hx))
  | obj fs ih =>
    simp only [distinct, distinctFields_iff] at h
    have hvalues : (fs.map fun f => (f.1, content (sorted f.2))) = fs.map fun f => (f.1, content f.2) :=
      List.map_congr_left fun f hf => by rw [ih f hf (h.2 f hf)]
    simp only [sorted, content, sortedFields_eq, contentFields_eq, map_sortFields, List.map_map,
      Function.comp_def, hvalues]
    refine congrArg Content.obj (funext fun name => ?_)
    refine lookup_perm (sortFields_perm _) ((sortFields_perm _ |>.map Prod.fst).nodup_iff.mpr ?_) name
    rw [List.map_map]
    exact h.1

lemma sortFields_eq_of_holds {fs fs' : List (String × Json)} (h : (fs.map Prod.fst).Nodup)
    (h' : (fs'.map Prod.fst).Nodup)
    (heq : ∀ name, (fs.lookup name).map sorted = (fs'.lookup name).map sorted) :
    sortFields (sortedFields fs) = sortFields (sortedFields fs') := by
  have hnames : ∀ gs : List (String × Json), (gs.map Prod.fst).Nodup →
      ((sortedFields gs).map Prod.fst).Nodup := by
    intro gs hgs
    rw [sortedFields_eq, List.map_map]
    exact hgs
  refine sortBy_eq_of_perm ?_ ?_
  · refine (List.perm_ext_iff_of_nodup (.of_map Prod.fst (hnames fs h))
      (.of_map Prod.fst (hnames fs' h'))).mpr fun ⟨name, x⟩ => ?_
    rw [mem_iff_lookup (hnames fs h), mem_iff_lookup (hnames fs' h'), sortedFields_eq,
      sortedFields_eq, lookup_map, lookup_map, heq name]
  · have hunits := (hnames fs h).map keyUnits_injective
    rwa [List.map_map] at hunits

/-- Canonical order tells values apart exactly by their content. -/
theorem content_eq_iff {j j' : Json} (h : distinct j) (h' : distinct j') :
    content j = content j' ↔ sorted j = sorted j' := by
  refine ⟨fun heq => ?_, fun heq => by rw [← content_sorted h, heq, content_sorted h']⟩
  induction j using induction generalizing j' with
  | null => cases j' <;> simp_all [content]
  | bool _ => cases j' <;> simp_all [content]
  | int _ => cases j' <;> simp_all [content]
  | str _ => cases j' <;> simp_all [content]
  | arr xs ih =>
    cases j' with
    | arr ys =>
      simp only [distinct, distinctList_iff] at h h'
      simp only [content, contentList_eq, Content.arr.injEq] at heq
      simp only [sorted, sortedList_eq, arr.injEq]
      have hall : List.Forall₂ Eq (xs.map content) (ys.map content) := List.forall₂_eq_eq_eq ▸ heq
      rw [List.forall₂_map_left_iff, List.forall₂_map_right_iff] at hall
      clear heq
      induction hall with
      | nil => rfl
      | cons hx _ ihrest =>
        rw [List.forall_mem_cons] at ih h h'
        rw [List.map_cons, List.map_cons, ih.1 h.1 h'.1 hx, ihrest ih.2 h.2 h'.2]
    | _ => simp [content] at heq
  | obj fs ih =>
    cases j' with
    | obj fs' =>
      simp only [distinct, distinctFields_iff] at h h'
      simp only [content, contentFields_eq, Content.obj.injEq, funext_iff, lookup_map] at heq
      simp only [sorted, obj.injEq]
      refine sortFields_eq_of_holds h.1 h'.1 fun name => ?_
      cases hv : fs.lookup name with
      | none =>
        have hnone := heq name
        rw [hv, Option.map_none, eq_comm, Option.map_eq_none_iff] at hnone
        rw [hnone]
      | some v =>
        have hsome := heq name
        rw [hv, Option.map_some, eq_comm, Option.map_eq_some_iff] at hsome
        obtain ⟨v', hv', hcontent⟩ := hsome
        have hmem := (mem_iff_lookup h.1).mpr hv
        have hmem' := (mem_iff_lookup h'.1).mpr hv'
        rw [hv', Option.map_some, Option.map_some,
          ih (name, v) hmem (h.2 _ hmem) (h'.2 _ hmem') hcontent.symm]
    | _ => simp [content] at heq

end Json

end NhaTrangLaundry.Lib
