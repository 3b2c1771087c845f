import NhaTrangLaundry.Lib.Sorting
import Mathlib.Algebra.Ring.Int.Defs
import Mathlib.Data.List.Lex
import Mathlib.Tactic.Common

/-! JSON values without floats and their RFC 8785 text: object members in the
order of the UTF-16 units of their names, the shortest escapes, integers within
the IEEE-754 exact range. -/

namespace NhaTrangLaundry.Lib

open Sorting

inductive Json where
  | null
  | bool (b : Bool)
  | int (n : Int)
  | str (s : String)
  | arr (xs : List Json)
  | obj (fields : List (String × Json))
deriving Inhabited

namespace Json

/-- Induction over a JSON tree with the hypothesis for every member. -/
@[elab_as_elim]
theorem induction {P : Json → Prop} (null : P .null) (bool : ∀ b, P (.bool b))
    (int : ∀ n, P (.int n)) (str : ∀ s, P (.str s))
    (arr : ∀ xs, (∀ x ∈ xs, P x) → P (.arr xs))
    (obj : ∀ fs, (∀ f ∈ fs, P f.2) → P (.obj fs)) (j : Json) : P j := by
  refine @Json.rec P (fun xs => ∀ x ∈ xs, P x) (fun fs => ∀ f ∈ fs, P f.2) (fun f => P f.2)
    null bool int str arr obj ?_ ?_ ?_ ?_ ?_ j
  · simp
  · intro x xs hx hxs
    simpa using ⟨hx, hxs⟩
  · simp
  · intro f fs hf hfs
    simpa using ⟨hf, fun k v hk => hfs (k, v) hk⟩
  · intro k v hv
    exact hv

/-- `d[key]` of a JSON object. -/
def get? : Json → String → Option Json
  | .obj fields, key => fields.lookup key
  | _, _ => none

def maxInt : Int := 2 ^ 53 - 1

mutual

/-- Every integer has a canonical form: its magnitude is below 2^53. -/
def safe : Json → Bool
  | .null => true
  | .bool _ => true
  | .int n => decide (-maxInt ≤ n ∧ n ≤ maxInt)
  | .str _ => true
  | .arr xs => safeList xs
  | .obj fs => safeFields fs

def safeList : List Json → Bool
  | [] => true
  | x :: xs => safe x && safeList xs

def safeFields : List (String × Json) → Bool
  | [] => true
  | (_, v) :: fs => safe v && safeFields fs

end

def utf16 (c : Char) : List Nat :=
  if c.toNat < 0x10000 then [c.toNat]
  else [0xD800 + (c.toNat - 0x10000) / 0x400, 0xDC00 + (c.toNat - 0x10000) % 0x400]

def keyUnits (k : String) : List Nat := k.toList.flatMap utf16

def sortFields {α : Type} (fs : List (String × α)) : List (String × α) :=
  sortBy (fun f => keyUnits f.1) fs

def hexPair (n : Nat) : List Char := [Nat.digitChar (n / 16), Nat.digitChar (n % 16)]

def escape (c : Char) : List Char :=
  if c = '"' then ['\\', '"']
  else if c = '\\' then ['\\', '\\']
  else if c = '\x08' then ['\\', 'b']
  else if c = '\t' then ['\\', 't']
  else if c = '\n' then ['\\', 'n']
  else if c = '\x0c' then ['\\', 'f']
  else if c = '\r' then ['\\', 'r']
  else if c.toNat < 0x20 then ['\\', 'u', '0', '0'] ++ hexPair c.toNat
  else [c]

def strText (s : String) : List Char := '"' :: s.toList.flatMap escape ++ ['"']

def intText (n : Int) : List Char :=
  if n < 0 then '-' :: Nat.toDigits 10 n.natAbs else Nat.toDigits 10 n.natAbs

def member (f : String × List Char) : List Char := strText f.1 ++ ':' :: f.2

def joined : List (List Char) → List Char
  | [] => []
  | [t] => t
  | t :: t' :: ts => t ++ ',' :: joined (t' :: ts)

mutual

def text : Json → List Char
  | .null => ['n', 'u', 'l', 'l']
  | .bool true => ['t', 'r', 'u', 'e']
  | .bool false => ['f', 'a', 'l', 's', 'e']
  | .int n => intText n
  | .str s => strText s
  | .arr xs => '[' :: joined (texts xs) ++ [']']
  | .obj fs => '{' :: joined ((sortFields (fieldTexts fs)).map member) ++ ['}']

def texts : List Json → List (List Char)
  | [] => []
  | x :: xs => text x :: texts xs

def fieldTexts : List (String × Json) → List (String × List Char)
  | [] => []
  | (k, v) :: fs => (k, text v) :: fieldTexts fs

end

/-- `rfc8785.dumps`: the canonical text, or nothing when an integer is outside
the exact range. -/
def dumps (j : Json) : Option String :=
  if safe j then some (String.ofList (text j)) else none

mutual

def sorted : Json → Json
  | .arr xs => .arr (sortedList xs)
  | .obj fs => .obj (sortFields (sortedFields fs))
  | .null => .null
  | .bool b => .bool b
  | .int n => .int n
  | .str s => .str s

def sortedList : List Json → List Json
  | [] => []
  | x :: xs => sorted x :: sortedList xs

def sortedFields : List (String × Json) → List (String × Json)
  | [] => []
  | (k, v) :: fs => (k, sorted v) :: sortedFields fs

end

mutual

def inOrder : Json → List Char
  | .arr xs => '[' :: joined (elementsInOrder xs) ++ [']']
  | .obj fs => '{' :: joined (membersInOrder fs) ++ ['}']
  | .null => text .null
  | .bool b => text (.bool b)
  | .int n => text (.int n)
  | .str s => text (.str s)

def elementsInOrder : List Json → List (List Char)
  | [] => []
  | x :: xs => inOrder x :: elementsInOrder xs

def membersInOrder : List (String × Json) → List (List Char)
  | [] => []
  | (k, v) :: fs => member (k, inOrder v) :: membersInOrder fs

end

mutual

def distinct : Json → Prop
  | .arr xs => distinctList xs
  | .obj fs => (fs.map Prod.fst).Nodup ∧ distinctFields fs
  | .null => True
  | .bool _ => True
  | .int _ => True
  | .str _ => True

def distinctList : List Json → Prop
  | [] => True
  | x :: xs => distinct x ∧ distinctList xs

def distinctFields : List (String × Json) → Prop
  | [] => True
  | (_, v) :: fs => distinct v ∧ distinctFields fs

end

mutual

/-- Every string satisfies `p` and every member name `q`. -/
def allText (p q : String → Prop) : Json → Prop
  | .arr xs => allTextList p q xs
  | .obj fs => allTextFields p q fs
  | .null => True
  | .bool _ => True
  | .int _ => True
  | .str s => p s

def allTextList (p q : String → Prop) : List Json → Prop
  | [] => True
  | x :: xs => allText p q x ∧ allTextList p q xs

def allTextFields (p q : String → Prop) : List (String × Json) → Prop
  | [] => True
  | (k, v) :: fs => (q k ∧ allText p q v) ∧ allTextFields p q fs

end

lemma texts_eq (xs : List Json) : texts xs = xs.map text := by
  induction xs with
  | nil => rfl
  | cons x xs ih => simp [texts, ih]

lemma fieldTexts_eq (fs : List (String × Json)) :
    fieldTexts fs = fs.map (fun f => (f.1, text f.2)) := by
  induction fs with
  | nil => rfl
  | cons f fs ih => simp [fieldTexts, ih]

lemma sortedList_eq (xs : List Json) : sortedList xs = xs.map sorted := by
  induction xs with
  | nil => rfl
  | cons x xs ih => simp [sortedList, ih]

lemma sortedFields_eq (fs : List (String × Json)) :
    sortedFields fs = fs.map (fun f => (f.1, sorted f.2)) := by
  induction fs with
  | nil => rfl
  | cons f fs ih => simp [sortedFields, ih]

lemma safeList_iff (xs : List Json) : safeList xs = true ↔ ∀ x ∈ xs, safe x = true := by
  induction xs with
  | nil => simp [safeList]
  | cons x xs ih => simp [safeList, ih]

lemma safeFields_iff (fs : List (String × Json)) :
    safeFields fs = true ↔ ∀ f ∈ fs, safe f.2 = true := by
  induction fs with
  | nil => simp [safeFields]
  | cons f fs ih => simp [safeFields, ih]

lemma distinctList_iff (xs : List Json) : distinctList xs ↔ ∀ x ∈ xs, distinct x := by
  induction xs with
  | nil => simp [distinctList]
  | cons x xs ih => simp [distinctList, ih]

lemma distinctFields_iff (fs : List (String × Json)) :
    distinctFields fs ↔ ∀ f ∈ fs, distinct f.2 := by
  induction fs with
  | nil => simp [distinctFields]
  | cons f fs ih => simp [distinctFields, ih]

lemma allTextList_iff {p q : String → Prop} (xs : List Json) :
    allTextList p q xs ↔ ∀ x ∈ xs, allText p q x := by
  induction xs with
  | nil => simp [allTextList]
  | cons x xs ih => simp [allTextList, ih]

lemma allTextFields_iff {p q : String → Prop} (fs : List (String × Json)) :
    allTextFields p q fs ↔ ∀ f ∈ fs, q f.1 ∧ allText p q f.2 := by
  induction fs with
  | nil => simp [allTextFields]
  | cons f fs ih => simp [allTextFields, ih]

lemma sortFields_perm {α : Type} (fs : List (String × α)) : (sortFields fs).Perm fs :=
  sortBy_perm _ fs

lemma map_sortFields {α β : Type} (g : α → β) (fs : List (String × α)) :
    (sortFields fs).map (fun f => (f.1, g f.2)) = sortFields (fs.map fun f => (f.1, g f.2)) :=
  map_sortBy _ _ _ fs (by simp)

lemma lookup_perm {α : Type} {fs fs' : List (String × α)} (hp : fs.Perm fs')
    (hn : (fs.map Prod.fst).Nodup) (k : String) : fs.lookup k = fs'.lookup k := by
  induction hp with
  | nil => rfl
  | cons f _ ih =>
    obtain ⟨k', v⟩ := f
    have hn' := (List.nodup_cons.mp hn).2
    rw [List.lookup_cons, List.lookup_cons, ih hn']
  | swap f g l =>
    obtain ⟨a, v⟩ := f
    obtain ⟨b, w⟩ := g
    have hab : b ≠ a := by
      intro h
      simp [h] at hn
    simp only [List.lookup_cons]
    by_cases ha : k = a
    · subst ha
      simp [beq_eq_false_iff_ne.mpr (Ne.symm hab)]
    · simp [beq_eq_false_iff_ne.mpr ha]
  | trans h₁ _ ih₁ ih₂ =>
    rw [ih₁ hn, ih₂ ((h₁.map Prod.fst).nodup_iff.mp hn)]

lemma lookup_map {α β : Type} (g : α → β) (fs : List (String × α)) (k : String) :
    (fs.map fun f => (f.1, g f.2)).lookup k = (fs.lookup k).map g := by
  induction fs with
  | nil => rfl
  | cons f fs ih =>
    obtain ⟨a, v⟩ := f
    simp only [List.map_cons, List.lookup_cons]
    by_cases h : k = a
    · simp [h]
    · simp [beq_eq_false_iff_ne.mpr h, ih]

lemma sorted_obj_get? (fs : List (String × Json)) (hn : (fs.map Prod.fst).Nodup) (k : String) :
    (sorted (.obj fs)).get? k = (fs.lookup k).map sorted := by
  simp only [sorted, get?, sortedFields_eq]
  rw [lookup_perm (sortFields_perm _), lookup_map]
  refine ((sortFields_perm _).map Prod.fst).nodup_iff.mpr ?_
  simpa [List.map_map, Function.comp_def] using hn

lemma text_sorted (j : Json) : text (sorted j) = text j := by
  induction j using induction with
  | null => rfl
  | bool b => rfl
  | int n => rfl
  | str s => rfl
  | arr xs ih =>
    have h : (xs.map sorted).map text = xs.map text := by
      simpa using ih
    simp only [sorted, text, sortedList_eq, texts_eq, h]
  | obj fs ih =>
    have h : (fs.map fun f => (f.1, text (sorted f.2))) = fs.map fun f => (f.1, text f.2) := by
      simpa using ih
    simp only [sorted, text, fieldTexts_eq, sortedFields_eq, map_sortFields, List.map_map,
      Function.comp_def, h]
    rw [sortFields, sortFields, sortBy_idem]

lemma elementsInOrder_eq (xs : List Json) : elementsInOrder xs = xs.map inOrder := by
  induction xs with
  | nil => rfl
  | cons x xs ih => simp [elementsInOrder, ih]

lemma membersInOrder_eq (fs : List (String × Json)) :
    membersInOrder fs = fs.map fun f => member (f.1, inOrder f.2) := by
  induction fs with
  | nil => rfl
  | cons f fs ih => simp [membersInOrder, ih]

lemma text_eq_inOrder (j : Json) : text j = inOrder (sorted j) := by
  induction j using induction with
  | null => rfl
  | bool b => rfl
  | int n => rfl
  | str s => rfl
  | arr xs ih =>
    rw [text, sorted, inOrder, texts_eq, sortedList_eq, elementsInOrder_eq, List.map_map]
    rw [List.map_congr_left ih]
    rfl
  | obj fs ih =>
    have hfields : ∀ f ∈ sortFields fs, member (f.1, text f.2) = member (f.1, inOrder (sorted f.2)) :=
      fun f hf => by rw [ih f ((sortFields_perm fs).mem_iff.mp hf)]
    rw [text, sorted, inOrder, fieldTexts_eq, sortedFields_eq, membersInOrder_eq, ← map_sortFields,
      ← map_sortFields, List.map_map, List.map_map]
    exact congrArg (fun ts => '{' :: joined ts ++ ['}']) (List.map_congr_left hfields)

lemma safe_sorted (j : Json) : safe (sorted j) = safe j := by
  induction j using induction with
  | null => rfl
  | bool b => rfl
  | int n => rfl
  | str s => rfl
  | arr xs ih =>
    rw [Bool.eq_iff_iff]
    simp only [sorted, safe, safeList_iff, sortedList_eq, List.mem_map, forall_exists_index,
      and_imp, forall_apply_eq_imp_iff₂]
    exact forall₂_congr fun x hx => by rw [ih x hx]
  | obj fs ih =>
    rw [Bool.eq_iff_iff]
    simp only [sorted, safe, safeFields_iff, sortedFields_eq, (sortFields_perm _).mem_iff,
      List.mem_map, forall_exists_index, and_imp, forall_apply_eq_imp_iff₂]
    exact forall₂_congr fun f hf => by rw [ih f hf]

lemma distinct_sorted {j : Json} (h : distinct j) : distinct (sorted j) := by
  induction j using induction with
  | null => trivial
  | bool b => trivial
  | int n => trivial
  | str s => trivial
  | arr xs ih =>
    simp only [distinct, distinctList_iff] at h
    simp only [sorted, distinct, distinctList_iff, sortedList_eq, List.mem_map,
      forall_exists_index, and_imp, forall_apply_eq_imp_iff₂]
    exact fun x hx => ih x hx (h x hx)
  | obj fs ih =>
    simp only [distinct, distinctFields_iff] at h
    simp only [sorted, distinct, distinctFields_iff, sortedFields_eq]
    refine ⟨((sortFields_perm _).map Prod.fst).nodup_iff.mpr ?_, ?_⟩
    · simpa [List.map_map, Function.comp_def] using h.1
    · simp only [(sortFields_perm _).mem_iff, List.mem_map, forall_exists_index, and_imp,
        forall_apply_eq_imp_iff₂]
      exact fun f hf => ih f hf (h.2 f hf)

lemma allText_sorted {p q : String → Prop} {j : Json} (h : allText p q j) :
    allText p q (sorted j) := by
  induction j using induction with
  | null => trivial
  | bool b => trivial
  | int n => trivial
  | str s => exact h
  | arr xs ih =>
    simp only [allText, allTextList_iff] at h
    simp only [sorted, allText, allTextList_iff, sortedList_eq, List.mem_map,
      forall_exists_index, and_imp, forall_apply_eq_imp_iff₂]
    exact fun x hx => ih x hx (h x hx)
  | obj fs ih =>
    simp only [allText, allTextFields_iff] at h
    simp only [sorted, allText, allTextFields_iff, sortedFields_eq, (sortFields_perm _).mem_iff,
      List.mem_map, forall_exists_index, and_imp, forall_apply_eq_imp_iff₂]
    exact fun f hf => ⟨(h f hf).1, ih f hf (h f hf).2⟩

@[simp] lemma dumps_sorted (j : Json) : dumps (sorted j) = dumps j := by
  simp [dumps, safe_sorted, text_sorted]

end Json

end NhaTrangLaundry.Lib
