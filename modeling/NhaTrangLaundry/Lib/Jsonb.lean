import NhaTrangLaundry.Lib.Hashing
import NhaTrangLaundry.Lib.JsonLoads

/-! Values in a `jsonb` column: members are kept in the order of the length and
then the bytes of their names, and U+0000 has no place in a text. -/

namespace NhaTrangLaundry.Lib.Json

open Sorting

def columnKey (k : String) : List Nat := (Hashing.encode k).length :: Hashing.encode k

mutual

def nulFree : Json → Bool
  | .null => true
  | .bool _ => true
  | .int _ => true
  | .str s => s.toList.all (· ≠ '\x00')
  | .arr xs => nulFreeList xs
  | .obj fs => nulFreeFields fs

def nulFreeList : List Json → Bool
  | [] => true
  | x :: xs => nulFree x && nulFreeList xs

def nulFreeFields : List (String × Json) → Bool
  | [] => true
  | (k, v) :: fs => k.toList.all (· ≠ '\x00') && nulFree v && nulFreeFields fs

end

mutual

def columnOrder : Json → Json
  | .null => .null
  | .bool b => .bool b
  | .int n => .int n
  | .str s => .str s
  | .arr xs => .arr (columnOrderList xs)
  | .obj fs => .obj (sortBy (fun f => columnKey f.1) (columnOrderFields fs))

def columnOrderList : List Json → List Json
  | [] => []
  | x :: xs => columnOrder x :: columnOrderList xs

def columnOrderFields : List (String × Json) → List (String × Json)
  | [] => []
  | (k, v) :: fs => (k, columnOrder v) :: columnOrderFields fs

end

/-- `text::jsonb`. -/
def toJsonb (s : String) : Option Json := do
  let j ← loads s
  if nulFree j then some (columnOrder j) else none

/-- Equality of dictionaries and lists: the order of members does not count. -/
def Same (a b : Json) : Prop := sorted a = sorted b

lemma distinct_dict {pairs : List (String × Json)} (h : ∀ p ∈ pairs, distinct p.2) :
    distinct (.obj (dict pairs)) := by
  have hfold : ∀ (ps acc : List (String × Json)), (∀ p ∈ ps, distinct p.2) →
      distinct (.obj acc) → distinct (.obj (ps.foldl insertField acc)) := by
    intro ps
    induction ps with
    | nil => exact fun acc _ hacc => hacc
    | cons p ps ih =>
      intro acc hps hacc
      refine ih _ (fun q hq => hps q (List.mem_cons_of_mem _ hq)) ?_
      have hp := hps p List.mem_cons_self
      simp only [distinct, distinctFields_iff] at hacc ⊢
      unfold insertField
      split
      · constructor
        · have hnames : (acc.map fun g => if g.1 = p.1 then p else g).map Prod.fst =
              acc.map Prod.fst := by
            rw [List.map_map]
            refine List.map_congr_left fun g _ => ?_
            by_cases hg : g.1 = p.1 <;> simp [hg]
          rw [hnames]
          exact hacc.1
        · intro f hf
          rw [List.mem_map] at hf
          obtain ⟨g, hg, rfl⟩ := hf
          split
          · exact hp
          · exact hacc.2 g hg
      · next hfresh =>
        constructor
        · rw [List.map_append, List.nodup_append]
          refine ⟨hacc.1, List.nodup_singleton _, ?_⟩
          intro a ha b hb hab
          rw [List.map_singleton, List.mem_singleton] at hb
          exact hfresh (hb ▸ hab ▸ ha)
        · intro f hf
          rw [List.mem_append, List.mem_singleton] at hf
          rcases hf with hf | rfl
          · exact hacc.2 f hf
          · exact hp
  exact hfold pairs [] h ⟨List.nodup_nil, trivial⟩

lemma read_distinct (n : Nat) :
    (∀ cs j r, readValue n cs = some (j, r) → distinct j) ∧
      (∀ cs js r, readElements n cs = some (js, r) → ∀ j ∈ js, distinct j) ∧
        ∀ cs fs r, readMembers n cs = some (fs, r) → ∀ f ∈ fs, distinct f.2 := by
  induction n with
  | zero => simp [readValue, readElements, readMembers]
  | succ n ih =>
    obtain ⟨ihv, ihe, ihm⟩ := ih
    refine ⟨?_, ?_, ?_⟩
    · intro cs j r h
      simp only [readValue] at h
      repeat' split at h
      all_goals simp only [Option.map_eq_some_iff, Option.some.injEq, Prod.mk.injEq,
        reduceCtorEq] at h
      all_goals first
        | (obtain ⟨rfl, -⟩ := h; trivial)
        | (obtain ⟨p, hp, rfl, -⟩ := h; trivial)
        | (obtain ⟨p, hp, rfl, -⟩ := h; exact (distinctList_iff _).mpr (ihe _ _ _ hp))
        | (obtain ⟨p, hp, rfl, -⟩ := h; exact distinct_dict (ihm _ _ _ hp))
    · intro cs js r h
      simp only [readElements, Option.bind_eq_bind, Option.bind_eq_some_iff] at h
      obtain ⟨p, hp, h⟩ := h
      split at h
      · simp only [Option.bind_eq_some_iff, Option.some.injEq, Prod.mk.injEq] at h
        obtain ⟨q, hq, rfl, -⟩ := h
        exact List.forall_mem_cons.mpr ⟨ihv _ _ _ hp, ihe _ _ _ hq⟩
      · simp only [Option.some.injEq, Prod.mk.injEq] at h
        obtain ⟨rfl, -⟩ := h
        simpa using ihv _ _ _ hp
      · cases h
    · intro cs fs r h
      simp only [readMembers] at h
      split at h
      · simp only [Option.bind_eq_bind, Option.bind_eq_some_iff] at h
        obtain ⟨k, hk, h⟩ := h
        split at h
        · simp only [Option.bind_eq_some_iff] at h
          obtain ⟨p, hp, h⟩ := h
          split at h
          · simp only [Option.bind_eq_some_iff, Option.some.injEq, Prod.mk.injEq] at h
            obtain ⟨q, hq, rfl, -⟩ := h
            exact List.forall_mem_cons.mpr ⟨ihv _ _ _ hp, ihm _ _ _ hq⟩
          · simp only [Option.some.injEq, Prod.mk.injEq] at h
            obtain ⟨rfl, -⟩ := h
            simpa using ihv _ _ _ hp
          · cases h
        · cases h
      · cases h

lemma utf16_cases (c : Char) :
    (∃ n, utf16 c = [n] ∧ n = c.toNat ∧ (n < 0xD800 ∨ 0xDFFF < n) ∧ n < 0x10000) ∨
      ∃ n m, utf16 c = [n, m] ∧ 0xD800 ≤ n ∧ n ≤ 0xDBFF ∧
        c.toNat = 0x10000 + (n - 0xD800) * 0x400 + (m - 0xDC00) ∧ 0xDC00 ≤ m := by
  have hvalid := c.valid
  unfold utf16
  split
  · next h =>
    refine .inl ⟨c.toNat, rfl, rfl, ?_, h⟩
    rcases hvalid with hv | hv
    · left
      exact hv
    · right
      exact hv.1
  · next h =>
    refine .inr ⟨_, _, rfl, by omega, ?_, by omega, by omega⟩
    have hmax : c.toNat < 0x110000 := by
      rcases hvalid with hv | hv
      · exact lt_of_lt_of_le hv (by decide)
      · exact hv.2
    omega

lemma keyUnits_injective : Function.Injective keyUnits := by
  have hlist : ∀ cs ds : List Char, cs.flatMap utf16 = ds.flatMap utf16 → cs = ds := by
    intro cs
    induction cs with
    | nil =>
      intro ds h
      cases ds with
      | nil => rfl
      | cons d ds =>
        rw [List.flatMap_nil, List.flatMap_cons] at h
        obtain ⟨n, hn, -⟩ | ⟨n, m, hn, -⟩ := utf16_cases d <;> simp [hn] at h
    | cons c cs ih =>
      intro ds h
      cases ds with
      | nil =>
        rw [List.flatMap_nil, List.flatMap_cons] at h
        obtain ⟨n, hn, -⟩ | ⟨n, m, hn, -⟩ := utf16_cases c <;> simp [hn] at h
      | cons d ds =>
        rw [List.flatMap_cons, List.flatMap_cons] at h
        obtain ⟨n, hn, hc, hr, -⟩ | ⟨n, m, hn, hl, hu, hc, hm⟩ := utf16_cases c <;>
          obtain ⟨n', hn', hd, hr', -⟩ | ⟨n', m', hn', hl', hu', hd, hm'⟩ := utf16_cases d <;>
          simp only [hn, hn', List.cons_append, List.nil_append, List.cons.injEq] at h
        · rw [Char.toNat_inj.mp (by omega : c.toNat = d.toNat), ih ds h.2]
        · omega
        · omega
        · rw [Char.toNat_inj.mp (by omega : c.toNat = d.toNat), ih ds h.2.2]
  intro k k' h
  exact String.toList_injective (hlist _ _ h)

lemma columnOrderList_eq (xs : List Json) : columnOrderList xs = xs.map columnOrder := by
  induction xs with
  | nil => rfl
  | cons x xs ih => simp [columnOrderList, ih]

lemma columnOrderFields_eq (fs : List (String × Json)) :
    columnOrderFields fs = fs.map fun f => (f.1, columnOrder f.2) := by
  induction fs with
  | nil => rfl
  | cons f fs ih => simp [columnOrderFields, ih]

lemma same_columnOrder {j : Json} (h : distinct j) : Same (columnOrder j) j := by
  induction j using induction with
  | null => rfl
  | bool _ => rfl
  | int _ => rfl
  | str _ => rfl
  | arr xs ih =>
    simp only [distinct, distinctList_iff] at h
    simp only [Same, columnOrder, sorted, columnOrderList_eq, sortedList_eq, List.map_map, arr.injEq]
    exact List.map_congr_left fun x hx => ih x hx (h x hx)
  | obj fs ih =>
    simp only [distinct, distinctFields_iff] at h
    simp only [Same, columnOrder, sorted, columnOrderFields_eq, sortedFields_eq, obj.injEq]
    have hvalues : (fs.map fun f => (f.1, columnOrder f.2)).map (fun f => (f.1, sorted f.2)) =
        fs.map fun f => (f.1, sorted f.2) := by
      rw [List.map_map]
      refine List.map_congr_left fun f hf => ?_
      have := ih f hf (h.2 f hf)
      simp only [Same] at this
      simp [this]
    rw [← hvalues]
    refine sortBy_eq_of_perm ((sortBy_perm _ _).map _) ?_
    rw [List.map_map]
    have hnames : ((sortBy (fun f => columnKey f.1) (fs.map fun f => (f.1, columnOrder f.2))).map
        Prod.fst).Nodup := by
      rw [nodup_map_sortBy, List.map_map]
      exact h.1
    have hunits := hnames.map keyUnits_injective
    rw [List.map_map] at hunits
    exact hunits

lemma loads_distinct {s : String} {j : Json} (h : loads s = some j) : distinct j := by
  unfold loads at h
  split at h
  · next j' r hread =>
    split_ifs at h
    cases h
    exact (read_distinct _).1 _ _ _ hread
  · cases h

lemma toJsonb_same {s : String} {j stored : Json} (hj : loads s = some j)
    (h : toJsonb s = some stored) : stored = columnOrder j ∧ Same stored j := by
  have hstored : columnOrder j = stored := by
    simp only [toJsonb, hj, Option.bind_eq_bind, Option.bind_some] at h
    split_ifs at h
    exact Option.some.inj h
  exact ⟨hstored.symm, hstored ▸ same_columnOrder (loads_distinct hj)⟩

/-- A column of type `jsonb` holds an object as an object. -/
lemma toJsonb_obj {s : String} {fields : List (String × Json)} {stored : Json}
    (hf : loads s = some (.obj fields)) (hs : toJsonb s = some stored) :
    ∃ fields', stored = .obj fields' := by
  obtain ⟨rfl, -⟩ := toJsonb_same hf hs
  exact ⟨_, rfl⟩

end NhaTrangLaundry.Lib.Json
