import NhaTrangLaundry.Lib.Json
import NhaTrangLaundry.Lib.Text
import Mathlib.Algebra.BigOperators.Group.List.Basic
import Mathlib.Tactic.IntervalCases

/-! Reading JSON text back, and that it inverts the canonical text up to the
order of object members. -/

namespace NhaTrangLaundry.Lib.Json

open Sorting
open Text (hexValue toDigits_head_ne_zero)

def isSpace (c : Char) : Bool := c = ' ' ∨ c = '\t' ∨ c = '\n' ∨ c = '\r'

def skip : List Char → List Char
  | [] => []
  | c :: cs => if isSpace c then skip cs else c :: cs

def hexUnit (a b c d : Char) : Option Nat := do
  some (((← hexValue a) * 16 + (← hexValue b)) * 256 + ((← hexValue c) * 16 + (← hexValue d)))

def unescape (c : Char) : Option Char :=
  if c = '"' then some '"'
  else if c = '\\' then some '\\'
  else if c = '/' then some '/'
  else if c = 'b' then some '\x08'
  else if c = 'f' then some '\x0c'
  else if c = 'n' then some '\n'
  else if c = 'r' then some '\r'
  else if c = 't' then some '\t'
  else none

/-- The characters of a string up to its closing quote. An unpaired surrogate is
not a character and is refused. -/
def readString : List Char → Option (List Char × List Char)
  | [] => none
  | c :: r =>
    if c = '"' then some ([], r)
    else if c = '\\' then
      match r with
      | 'u' :: a :: b :: d :: e :: r' => do
        let u ← hexUnit a b d e
        if 0xD800 ≤ u ∧ u ≤ 0xDBFF then
          match r' with
          | '\\' :: 'u' :: a' :: b' :: d' :: e' :: r'' => do
            let v ← hexUnit a' b' d' e'
            if 0xDC00 ≤ v ∧ v ≤ 0xDFFF then do
              let p ← readString r''
              some (Char.ofNat (0x10000 + (u - 0xD800) * 0x400 + (v - 0xDC00)) :: p.1, p.2)
            else none
          | _ => none
        else if 0xDC00 ≤ u ∧ u ≤ 0xDFFF then none
        else do
          let p ← readString r'
          some (Char.ofNat u :: p.1, p.2)
      | x :: r' => do
        let y ← unescape x
        let p ← readString r'
        some (y :: p.1, p.2)
      | [] => none
    else if c.toNat < 0x20 then none
    else do
      let p ← readString r
      some (c :: p.1, p.2)
termination_by structural cs => cs

def readDigits (cs : List Char) : Option (Nat × List Char) :=
  match cs with
  | [] => none
  | c :: r =>
    if c = '0' then some (0, r)
    else if c.isDigit then
      some (Nat.ofDigitChars 10 (cs.takeWhile Char.isDigit) 0, cs.dropWhile Char.isDigit)
    else none

def readInt : List Char → Option (Int × List Char)
  | '-' :: r => (readDigits r).map fun p => (-(p.1 : Int), p.2)
  | cs => (readDigits cs).map fun p => ((p.1 : Int), p.2)

/-- Assignment to a dictionary: an existing name keeps its place. -/
def insertField (fs : List (String × Json)) (f : String × Json) : List (String × Json) :=
  if f.1 ∈ fs.map Prod.fst then fs.map fun g => if g.1 = f.1 then f else g else fs ++ [f]

def dict (pairs : List (String × Json)) : List (String × Json) := pairs.foldl insertField []

mutual

def readValue : Nat → List Char → Option (Json × List Char)
  | 0, _ => none
  | n + 1, cs =>
    match skip cs with
    | [] => none
    | c :: r =>
      if c = '"' then (readString r).map fun p => (.str (String.ofList p.1), p.2)
      else if c = '[' then
        match skip r with
        | ']' :: r' => some (.arr [], r')
        | r' => (readElements n r').map fun p => (.arr p.1, p.2)
      else if c = '{' then
        match skip r with
        | '}' :: r' => some (.obj [], r')
        | r' => (readMembers n r').map fun p => (.obj (dict p.1), p.2)
      else if c = 'n' then
        if ['u', 'l', 'l'].isPrefixOf r then some (.null, r.drop 3) else none
      else if c = 't' then
        if ['r', 'u', 'e'].isPrefixOf r then some (.bool true, r.drop 3) else none
      else if c = 'f' then
        if ['a', 'l', 's', 'e'].isPrefixOf r then some (.bool false, r.drop 4) else none
      else (readInt (c :: r)).map fun p => (.int p.1, p.2)

def readElements : Nat → List Char → Option (List Json × List Char)
  | 0, _ => none
  | n + 1, cs => do
    let p ← readValue n cs
    match skip p.2 with
    | ',' :: r => do
      let q ← readElements n r
      some (p.1 :: q.1, q.2)
    | ']' :: r => some ([p.1], r)
    | _ => none

def readMembers : Nat → List Char → Option (List (String × Json) × List Char)
  | 0, _ => none
  | n + 1, cs =>
    match skip cs with
    | '"' :: r => do
      let k ← readString r
      match skip k.2 with
      | ':' :: r => do
        let p ← readValue n r
        match skip p.2 with
        | ',' :: r => do
          let q ← readMembers n r
          some ((String.ofList k.1, p.1) :: q.1, q.2)
        | '}' :: r => some ([(String.ofList k.1, p.1)], r)
        | _ => none
      | _ => none
    | _ => none

end

/-- `json.loads`, for text without floats. -/
def loads (s : String) : Option Json :=
  match readValue (s.toList.length + 1) s.toList with
  | some (j, r) => if skip r = [] then some j else none
  | none => none

lemma hexUnit_hexPair : ∀ n < 32,
    hexUnit '0' '0' (Nat.digitChar (n / 16)) (Nat.digitChar (n % 16)) = some n := by
  decide

lemma skip_cons {c : Char} (h : isSpace c = false) (r : List Char) : skip (c :: r) = c :: r := by
  simp [skip, h]

lemma bind_char (r : List Char) (c : Char) :
    (do let p ← readString r; some (c :: p.1, p.2)) =
      (readString r).map fun p => (c :: p.1, p.2) := by
  cases readString r <;> rfl

lemma readString_quote (r : List Char) : readString ('"' :: r) = some ([], r) := by
  rw [readString.eq_def]
  rfl

lemma readString_plain {c : Char} (hq : c ≠ '"') (hb : c ≠ '\\') (hc : ¬ c.toNat < 0x20)
    (r : List Char) : readString (c :: r) = (readString r).map fun p => (c :: p.1, p.2) := by
  rw [readString.eq_def]
  simp only [if_neg hq, if_neg hb, if_neg hc]
  exact bind_char r c

lemma readString_simple {x y : Char} (hx : x ≠ 'u') (hy : unescape x = some y) (r : List Char) :
    readString ('\\' :: x :: r) = (readString r).map fun p => (y :: p.1, p.2) := by
  rw [readString]
  · simp only [hy, Option.bind_eq_bind, Option.bind_some]
    exact bind_char _ y
  · intro a b d e r' hu
    exact absurd hu hx

lemma readString_control {c : Char} (h : c.toNat < 32) (r : List Char) :
    readString ('\\' :: 'u' :: '0' :: '0' :: hexPair c.toNat ++ r) =
      (readString r).map fun p => (c :: p.1, p.2) := by
  have hu := hexUnit_hexPair c.toNat h
  have hlow : ¬ (0xD800 ≤ c.toNat ∧ c.toNat ≤ 0xDBFF) := by omega
  have hhigh : ¬ (0xDC00 ≤ c.toNat ∧ c.toNat ≤ 0xDFFF) := by omega
  simp only [hexPair, List.cons_append, List.nil_append, readString, hu, Option.bind_eq_bind,
    Option.bind_some, if_neg hlow, if_neg hhigh, Char.ofNat_toNat, Char.reduceEq, if_false,
    if_true]
  exact bind_char r c

lemma readString_escape (c : Char) (r : List Char) :
    readString (escape c ++ r) = (readString r).map fun p => (c :: p.1, p.2) := by
  unfold escape
  split_ifs with h₁ h₂ h₃ h₄ h₅ h₆ h₇ h₈
  · subst h₁
    exact readString_simple (by decide) rfl r
  · subst h₂
    exact readString_simple (by decide) rfl r
  · exact h₃ ▸ readString_simple (by decide) rfl r
  · exact h₄ ▸ readString_simple (by decide) rfl r
  · exact h₅ ▸ readString_simple (by decide) rfl r
  · exact h₆ ▸ readString_simple (by decide) rfl r
  · exact h₇ ▸ readString_simple (by decide) rfl r
  · exact readString_control h₈ r
  · exact readString_plain h₁ h₂ h₈ r

lemma readString_text (s r : List Char) :
    readString (s.flatMap escape ++ '"' :: r) = some (s, r) := by
  induction s with
  | nil => simp [readString_quote]
  | cons c s ih => simp [List.append_assoc, readString_escape, ih]

/-- What may follow an integer: nothing, or a character that is not a digit. -/
def Stops (r : List Char) : Prop := ∀ c ∈ r.head?, c.isDigit = false

lemma readDigits_toDigits (n : Nat) {r : List Char} (hr : Stops r) :
    readDigits (Nat.toDigits 10 n ++ r) = some (n, r) := by
  rcases Nat.eq_zero_or_pos n with rfl | hn
  · simp [readDigits]
  · have hall : ∀ c ∈ Nat.toDigits 10 n, c.isDigit = true :=
      fun c hc => Nat.isDigit_of_mem_toDigits (by omega) (by omega) hc
    have hvalue := Nat.ofDigitChars_ten_toDigits (n := n)
    have hzero := toDigits_head_ne_zero n hn
    have htake : (Nat.toDigits 10 n ++ r).takeWhile Char.isDigit = Nat.toDigits 10 n := by
      rw [List.takeWhile_append_of_pos hall]
      cases r with
      | nil => simp
      | cons c r => simp [hr c rfl]
    have hdrop : (Nat.toDigits 10 n ++ r).dropWhile Char.isDigit = r := by
      rw [List.dropWhile_append_of_pos hall]
      cases r with
      | nil => simp
      | cons c r => simp [hr c rfl]
    cases hd : Nat.toDigits 10 n with
    | nil => exact absurd hd Nat.toDigits_ne_nil
    | cons c ds =>
      rw [hd] at hall hzero htake hdrop hvalue
      have hc : c ≠ '0' := by simpa using hzero
      simp only [List.cons_append] at htake hdrop ⊢
      simp only [readDigits, if_neg hc, hall c (by simp), if_true, htake, hdrop, hvalue]

lemma toDigits_head (n : Nat) : ∃ c ds, Nat.toDigits 10 n = c :: ds ∧ c.isDigit = true := by
  cases hd : Nat.toDigits 10 n with
  | nil => exact absurd hd Nat.toDigits_ne_nil
  | cons c ds =>
    refine ⟨c, ds, rfl, Nat.isDigit_of_mem_toDigits (n := n) (b := 10) (by omega) (by omega) ?_⟩
    simp [hd]

lemma readInt_intText (n : Int) {r : List Char} (hr : Stops r) :
    readInt (intText n ++ r) = some (n, r) := by
  unfold intText
  split_ifs with h
  · simp only [List.cons_append, readInt, readDigits_toDigits _ hr, Option.map_some]
    congr 2
    omega
  · obtain ⟨c, ds, hd, hc⟩ := toDigits_head n.natAbs
    have hminus : c ≠ '-' := by
      rintro rfl
      simp at hc
    have hread := readDigits_toDigits n.natAbs hr
    rw [hd, List.cons_append] at hread ⊢
    rw [readInt]
    · simp only [hread, Option.map_some]
      congr 2
      omega
    · intro r' h'
      exact hminus (List.cons.inj h').1

mutual

/-- Fuel that suffices to read the text of a value. -/
def need : Json → Nat
  | .arr xs => 1 + needList xs
  | .obj fs => 1 + needFields fs
  | .null => 1
  | .bool _ => 1
  | .int _ => 1
  | .str _ => 1

def needList : List Json → Nat
  | [] => 0
  | x :: xs => 1 + need x + needList xs

def needFields : List (String × Json) → Nat
  | [] => 0
  | (_, v) :: fs => 1 + need v + needFields fs

end

lemma needFields_eq (fs : List (String × Json)) :
    needFields fs = (fs.map fun f => 1 + need f.2).sum := by
  induction fs with
  | nil => rfl
  | cons f fs ih => simp [needFields, ih]

lemma dict_of_nodup {pairs : List (String × Json)} (h : (pairs.map Prod.fst).Nodup) :
    dict pairs = pairs := by
  suffices hs : ∀ ps acc : List (String × Json), ((acc ++ ps).map Prod.fst).Nodup →
      ps.foldl insertField acc = acc ++ ps by
    simpa [dict] using hs pairs [] (by simpa using h)
  intro ps
  induction ps with
  | nil => simp
  | cons p ps ih =>
    intro acc hn
    have hp : p.1 ∉ acc.map Prod.fst := by
      rw [List.map_append, List.map_cons] at hn
      intro hm
      exact (List.nodup_append'.mp hn).2.2 hm (by simp)
    rw [List.foldl_cons, insertField, if_neg hp, ih _ (by simpa using hn)]
    simp

lemma intText_head (n : Int) : ∃ c ds, intText n = c :: ds ∧ (c = '-' ∨ c.isDigit = true) := by
  unfold intText
  split_ifs with h
  · exact ⟨'-', _, rfl, Or.inl rfl⟩
  · obtain ⟨c, ds, hd, hc⟩ := toDigits_head n.natAbs
    exact ⟨c, ds, hd, Or.inr hc⟩

lemma isSpace_of_digit {c : Char} (h : c = '-' ∨ c.isDigit = true) :
    isSpace c = false ∧ c ≠ '"' ∧ c ≠ '[' ∧ c ≠ '{' ∧ c ≠ 'n' ∧ c ≠ 't' ∧ c ≠ 'f' := by
  refine ⟨?_, ?_, ?_, ?_, ?_, ?_, ?_⟩
  · rw [isSpace, decide_eq_false_iff_not]
    rintro (rfl | rfl | rfl | rfl) <;> simp at h
  all_goals
    rintro rfl
    simp at h

lemma readValue_int (n : Nat) (i : Int) {r : List Char} (hr : Stops r) :
    readValue (n + 1) (intText i ++ r) = some (.int i, r) := by
  obtain ⟨c, ds, ht, hc⟩ := intText_head i
  obtain ⟨hs, h₁, h₂, h₃, h₄, h₅, h₆⟩ := isSpace_of_digit hc
  have hread := readInt_intText i hr
  rw [ht, List.cons_append] at hread ⊢
  simp only [readValue, skip_cons hs, if_neg h₁, if_neg h₂, if_neg h₃, if_neg h₄, if_neg h₅,
    if_neg h₆, hread, Option.map_some]

lemma stops_comma (r : List Char) : Stops (',' :: r) := by simp [Stops]

lemma stops_bracket (r : List Char) : Stops (']' :: r) := by simp [Stops]

lemma stops_brace (r : List Char) : Stops ('}' :: r) := by simp [Stops]

def ReadsBack (j : Json) : Prop :=
  ∀ n r, need j ≤ n → Stops r → readValue n (inOrder j ++ r) = some (j, r)

lemma readElements_joined (xs : List Json) (hx : ∀ x ∈ xs, ReadsBack x) (hne : xs ≠ [])
    (n : Nat) (r : List Char) (hn : needList xs ≤ n) :
    readElements n (joined (xs.map inOrder) ++ ']' :: r) = some (xs, r) := by
  induction xs generalizing n with
  | nil => exact absurd rfl hne
  | cons x xs ih =>
    cases n with
    | zero => simp [needList] at hn
    | succ n =>
      have hfuel : need x ≤ n := by
        simp only [needList] at hn
        omega
      cases xs with
      | nil =>
        have hhead := hx x (by simp) n (']' :: r) hfuel (stops_bracket r)
        simp [joined, readElements, hhead, skip_cons (c := ']') (by decide)]
      | cons y ys =>
        have hhead := hx x (by simp) n (',' :: (joined ((y :: ys).map inOrder) ++ ']' :: r)) hfuel
          (stops_comma _)
        have htail := ih (fun z hz => hx z (by simp [hz])) (by simp) n (by
          simp only [needList] at hn ⊢
          omega)
        simp only [List.map_cons, joined, List.append_assoc, List.cons_append] at hhead htail ⊢
        simp [readElements, hhead, skip_cons (c := ',') (by decide), htail]

lemma readMembers_joined (fs : List (String × Json)) (hf : ∀ f ∈ fs, ReadsBack f.2)
    (hne : fs ≠ []) (n : Nat) (r : List Char) (hn : needFields fs ≤ n) :
    readMembers n (joined (fs.map fun f => member (f.1, inOrder f.2)) ++ '}' :: r) =
      some (fs, r) := by
  induction fs generalizing n with
  | nil => exact absurd rfl hne
  | cons f fs ih =>
    obtain ⟨k, v⟩ := f
    cases n with
    | zero => simp [needFields] at hn
    | succ n =>
      have hfuel : need v ≤ n := by
        simp only [needFields] at hn
        omega
      cases fs with
      | nil =>
        have hhead := hf (k, v) (by simp) n ('}' :: r) hfuel (stops_brace r)
        have hkey := readString_text k.toList (':' :: (inOrder v ++ '}' :: r))
        simp [joined, member, strText, readMembers, List.append_assoc,
          skip_cons (c := '"') (by decide), hkey, skip_cons (c := ':') (by decide), hhead,
          skip_cons (c := '}') (by decide)]
      | cons g gs =>
        have hhead := hf (k, v) (by simp) n
          (',' :: (joined ((g :: gs).map fun f => member (f.1, inOrder f.2)) ++ '}' :: r)) hfuel
          (stops_comma _)
        have hkey := readString_text k.toList (':' :: (inOrder v ++
          ',' :: (joined ((g :: gs).map fun f => member (f.1, inOrder f.2)) ++ '}' :: r)))
        have htail := ih (fun z hz => hf z (by simp [hz])) (by simp) n (by
          simp only [needFields] at hn ⊢
          omega)
        simp only [List.map_cons, joined, member, strText, List.append_assoc, List.cons_append,
          List.nil_append] at hhead hkey htail ⊢
        simp [readMembers, skip_cons (c := '"') (by decide), hkey,
          skip_cons (c := ':') (by decide), hhead, skip_cons (c := ',') (by decide), htail]

lemma inOrder_head (j : Json) : ∃ c cs, inOrder j = c :: cs ∧ isSpace c = false ∧ c ≠ ']' := by
  cases j with
  | null => exact ⟨'n', _, rfl, by decide, by decide⟩
  | bool b => cases b <;> exact ⟨_, _, rfl, by decide, by decide⟩
  | int n =>
    obtain ⟨c, ds, ht, hc⟩ := intText_head n
    refine ⟨c, ds, ht, (isSpace_of_digit hc).1, ?_⟩
    rintro rfl
    simp at hc
  | str s => exact ⟨'"', _, rfl, by decide, by decide⟩
  | arr xs => exact ⟨'[', _, rfl, by decide, by decide⟩
  | obj fs => exact ⟨'{', _, rfl, by decide, by decide⟩

lemma joined_head {c : Char} {cs t : List Char} (h : t = c :: cs) (ts : List (List Char)) :
    ∃ cs', joined (t :: ts) = c :: cs' := by
  cases ts with
  | nil => exact ⟨cs, h⟩
  | cons t' ts => exact ⟨cs ++ ',' :: joined (t' :: ts), by simp [joined, h]⟩

lemma readValue_arr (n : Nat) (xs : List Json) (hx : ∀ x ∈ xs, ReadsBack x) (r : List Char)
    (hn : needList xs ≤ n) :
    readValue (n + 1) (inOrder (.arr xs) ++ r) = some (.arr xs, r) := by
  simp only [inOrder, elementsInOrder_eq, List.cons_append, List.append_assoc,
    List.nil_append, readValue, skip_cons (c := '[') (by decide), Char.reduceEq, if_false, if_true]
  cases xs with
  | nil => simp [joined, skip_cons (c := ']') (by decide)]
  | cons x xs =>
    have hread := readElements_joined (x :: xs) hx (by simp) n r hn
    obtain ⟨c, cs, ht, hs, hc⟩ := inOrder_head x
    obtain ⟨cs', hj⟩ := joined_head ht (xs.map inOrder)
    rw [List.map_cons, hj, List.cons_append] at hread ⊢
    rw [skip_cons hs]
    split
    · next heq => exact absurd (List.cons.inj heq).1 hc
    · rw [hread, Option.map_some]

lemma readValue_obj (n : Nat) (fs : List (String × Json)) (hd : (fs.map Prod.fst).Nodup)
    (hf : ∀ f ∈ fs, ReadsBack f.2) (r : List Char) (hn : needFields fs ≤ n) :
    readValue (n + 1) (inOrder (.obj fs) ++ r) = some (.obj fs, r) := by
  simp only [inOrder, membersInOrder_eq, List.cons_append, List.append_assoc, List.nil_append,
    readValue, skip_cons (c := '{') (by decide), Char.reduceEq, if_false, if_true]
  cases fs with
  | nil => simp [joined, skip_cons (c := '}') (by decide)]
  | cons g gs =>
    have hread := readMembers_joined (g :: gs) hf (by simp) n r hn
    obtain ⟨cs', hj⟩ := joined_head (c := '"') (t := member (g.1, inOrder g.2)) rfl
      (gs.map fun f => member (f.1, inOrder f.2))
    rw [List.map_cons, hj, List.cons_append] at hread ⊢
    rw [skip_cons (by decide)]
    split
    · next heq => exact absurd (List.cons.inj heq).1 (by decide)
    · rw [hread, Option.map_some, dict_of_nodup hd]

lemma readsBack {j : Json} (hd : distinct j) : ReadsBack j := by
  intro n r hn hr
  induction j using induction generalizing n r with
  | null =>
    obtain ⟨n, rfl⟩ := Nat.exists_eq_add_of_le' hn
    simp [need, inOrder, text, readValue, skip_cons (c := 'n') (by decide), List.isPrefixOf]
  | bool b =>
    obtain ⟨n, rfl⟩ := Nat.exists_eq_add_of_le' hn
    cases b
    · simp [need, inOrder, text, readValue, skip_cons (c := 'f') (by decide), List.isPrefixOf]
    · simp [need, inOrder, text, readValue, skip_cons (c := 't') (by decide), List.isPrefixOf]
  | int i =>
    obtain ⟨n, rfl⟩ := Nat.exists_eq_add_of_le' hn
    exact readValue_int n i hr
  | str s =>
    obtain ⟨n, rfl⟩ := Nat.exists_eq_add_of_le' hn
    have hread := readString_text s.toList r
    simp [need, inOrder, text, strText, readValue, List.append_assoc,
      skip_cons (c := '"') (by decide), hread]
  | arr xs ih =>
    rw [distinct, distinctList_iff] at hd
    obtain ⟨n, rfl⟩ := Nat.exists_eq_add_of_le' hn
    have hfuel : needList xs ≤ n + needList xs := by omega
    rw [need, Nat.add_comm 1, ← Nat.add_assoc]
    exact readValue_arr _ xs (fun x hx n r hn hr => ih x hx (hd x hx) n r hn hr) r hfuel
  | obj fs ih =>
    rw [distinct, distinctFields_iff] at hd
    obtain ⟨n, rfl⟩ := Nat.exists_eq_add_of_le' hn
    have hfuel : needFields fs ≤ n + needFields fs := by omega
    rw [need, Nat.add_comm 1, ← Nat.add_assoc]
    exact readValue_obj _ fs hd.1 (fun f hf n r hn hr => ih f hf (hd.2 f hf) n r hn hr) r hfuel

lemma length_joined (ts : List (List Char)) :
    (ts.map fun t => 1 + t.length).sum ≤ (joined ts).length + 1 := by
  induction ts with
  | nil => simp
  | cons t ts ih =>
    cases ts with
    | nil => simp [joined, Nat.add_comm]
    | cons t' ts =>
      simp only [List.map_cons, List.sum_cons, joined, List.length_append, List.length_cons] at ih ⊢
      omega

lemma sum_map_le {α : Type} {f g : α → Nat} {l : List α} (h : ∀ a ∈ l, f a ≤ g a) :
    (l.map f).sum ≤ (l.map g).sum := by
  induction l with
  | nil => simp
  | cons a l ih =>
    have ha := h a (by simp)
    have hl := ih fun b hb => h b (by simp [hb])
    simp only [List.map_cons, List.sum_cons]
    omega

lemma needList_eq (xs : List Json) : needList xs = (xs.map fun x => 1 + need x).sum := by
  induction xs with
  | nil => rfl
  | cons x xs ih => simp [needList, ih]

lemma need_le_length (j : Json) : need j ≤ (inOrder j).length := by
  induction j using induction with
  | null => simp [need, inOrder, text]
  | bool b => cases b <;> simp [need, inOrder, text]
  | int n =>
    obtain ⟨c, ds, ht, _⟩ := intText_head n
    simp [need, inOrder, text, ht]
  | str s => simp [need, inOrder, text, strText]
  | arr xs ih =>
    have hsum := sum_map_le (f := fun x => 1 + need x) (g := fun x => 1 + (inOrder x).length)
      (l := xs) (fun x hx => by simpa using ih x hx)
    have hjoin := length_joined (xs.map inOrder)
    simp only [List.map_map, Function.comp_def] at hjoin
    simp only [need, inOrder, elementsInOrder_eq, needList_eq, List.length_append, List.length_cons,
      List.length_nil]
    omega
  | obj fs ih =>
    have hsum := sum_map_le (f := fun f => 1 + need f.2)
      (g := fun f : String × Json => 1 + (member (f.1, inOrder f.2)).length) (l := fs)
      (fun f hf => by
        have hv := ih f hf
        simp only [member, List.length_append, List.length_cons]
        omega)
    have hjoin := length_joined (fs.map fun f => member (f.1, inOrder f.2))
    simp only [List.map_map, Function.comp_def] at hjoin
    simp only [need, inOrder, membersInOrder_eq, needFields_eq, List.length_append, List.length_cons,
      List.length_nil]
    omega

lemma loads_inOrder {j : Json} (hd : distinct j) : loads (String.ofList (inOrder j)) = some j := by
  have hfuel : need j ≤ (inOrder j).length + 1 := (need_le_length j).trans (Nat.le_succ _)
  have hread := readsBack hd _ [] hfuel (by simp [Stops])
  rw [List.append_nil] at hread
  simp [loads, String.toList_ofList, hread, skip]

lemma inOrder_injective {j j' : Json} (hd : distinct j) (hd' : distinct j')
    (h : inOrder j = inOrder j') : j = j' := by
  have hread := loads_inOrder hd
  rw [h, loads_inOrder hd'] at hread
  exact (Option.some.inj hread).symm

/-- Reading canonical text gives the value back with its members in canonical order. -/
theorem loads_dumps {j : Json} {s : String} (hd : distinct j) (hs : dumps j = some s) :
    loads s = some (sorted j) := by
  rw [dumps] at hs
  split_ifs at hs
  obtain rfl := Option.some.inj hs
  rw [text_eq_inOrder, loads_inOrder (distinct_sorted hd)]

end NhaTrangLaundry.Lib.Json
