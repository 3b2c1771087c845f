import NhaTrangLaundry.Lib.Hashing

/-! 128-bit identifiers, their hexadecimal texts, and reading the texts back. -/

namespace NhaTrangLaundry.Lib

open Text Hashing

instance uuidSize : NeZero (2 ^ 128 : Nat) := ⟨by decide⟩

structure Uuid where
  int : Fin (2 ^ 128)
deriving DecidableEq

instance lawfulUuidPair : LawfulBEq (Uuid × Uuid) := inferInstance

namespace Uuid

def ofNat (n : Nat) : Uuid := ⟨Fin.ofNat (2 ^ 128) n⟩

def hex (u : Uuid) : List Char := padded 16 32 u.int

def hexUpper (u : Uuid) : String := String.ofList (u.hex.map Char.toUpper)

def dashed (h : List Char) : List Char :=
  h.take 8 ++ '-' :: ((h.drop 8).take 4 ++ '-' :: ((h.drop 12).take 4 ++
    '-' :: ((h.drop 16).take 4 ++ '-' :: h.drop 20)))

def str (u : Uuid) : String := String.ofList (dashed u.hex)

def remove (word : List Char) : Nat → List Char → List Char
  | _, [] => []
  | k + 1, _ :: cs => remove word k cs
  | 0, c :: cs =>
    if word.isPrefixOf (c :: cs) then remove word (word.length - 1) cs else c :: remove word 0 cs

def isBrace (c : Char) : Bool := c = '{' || c = '}'

/-- `UUID(text)`, on texts whose digits are hexadecimal digits. -/
def ofText (s : String) : Option Uuid :=
  let cs := remove ['u', 'u', 'i', 'd', ':'] 0 (remove ['u', 'r', 'n', ':'] 0 s.toList)
  let cs := ((cs.dropWhile isBrace).reverse.dropWhile isBrace).reverse
  let cs := cs.filter (· ≠ '-')
  if cs.length = 32 then
    match numeral 16 cs 0 with
    | some n => if h : n < 2 ^ 128 then some ⟨⟨n, h⟩⟩ else none
    | none => none
  else none

/-- `uuid5(namespace, name)`: a version 5 identifier from a SHA-1 digest. -/
def uuid5 (space : Uuid) (name : String) : Uuid :=
  let n := sha1Prefix (bigEndian 16 space.int ++ encode name)
  let n := n - (n / 2 ^ 62 % 4) * 2 ^ 62 + 2 ^ 63
  let n := n - (n / 2 ^ 76 % 16) * 2 ^ 76 + 5 * 2 ^ 76
  ⟨Fin.ofNat (2 ^ 128) n⟩

lemma remove_of_not_mem {x : Char} {word cs : List Char} (h : x ∉ cs) :
    remove (x :: word) 0 cs = cs := by
  induction cs with
  | nil => rfl
  | cons c cs ih =>
    rw [List.mem_cons, not_or] at h
    have hne : (x == c) = false := by simpa using h.1
    have hfalse : List.isPrefixOf (x :: word) (c :: cs) = false := by
      simp [List.isPrefixOf, hne]
    rw [remove, if_neg (by simp [hfalse]), ih h.2]

lemma trim_of_not_brace {cs : List Char} (h : ∀ c ∈ cs, isBrace c = false) :
    ((cs.dropWhile isBrace).reverse.dropWhile isBrace).reverse = cs := by
  have hdrop : ∀ l : List Char, (∀ c ∈ l, isBrace c = false) → l.dropWhile isBrace = l := by
    intro l hl
    cases l with
    | nil => rfl
    | cons c l => rw [List.dropWhile_cons_of_neg (by simp [hl c List.mem_cons_self])]
  rw [hdrop cs h, hdrop cs.reverse (fun c hc => h c (List.mem_reverse.mp hc)), List.reverse_reverse]

lemma ofText_eq {u : Uuid} {cs : List Char} (hu : 'u' ∉ cs) (hb : ∀ c ∈ cs, isBrace c = false)
    (hlen : (cs.filter (· ≠ '-')).length = 32)
    (hread : numeral 16 (cs.filter (· ≠ '-')) 0 = some u.int) :
    ofText (String.ofList cs) = some u := by
  simp only [ofText, String.toList_ofList, remove_of_not_mem hu, trim_of_not_brace hb]
  rw [if_pos hlen, hread]
  simp

lemma hexDigit_cases {d : Nat} (h : d < 16) :
    (Nat.digitChar d ≠ 'u' ∧ isBrace (Nat.digitChar d) = false ∧ Nat.digitChar d ≠ '-') ∧
      ((Nat.digitChar d).toUpper ≠ 'u' ∧ isBrace (Nat.digitChar d).toUpper = false ∧
        (Nat.digitChar d).toUpper ≠ '-') := by
  interval_cases d <;> decide

lemma mem_hex {u : Uuid} {c : Char} (h : c ∈ u.hex) : ∃ d < 16, c = Nat.digitChar d :=
  mem_padded (by decide) h

lemma length_hex (u : Uuid) : u.hex.length = 32 := length_padded 16 32 _

lemma mem_dashed {h : List Char} {c : Char} : c ∈ dashed h → c ∈ h ∨ c = '-' := by
  simp only [dashed, List.mem_append, List.mem_cons]
  rintro (hc | rfl | hc | rfl | hc | rfl | hc | rfl | hc)
  · exact .inl (List.mem_of_mem_take hc)
  · exact .inr rfl
  · exact .inl (List.mem_of_mem_drop (List.mem_of_mem_take hc))
  · exact .inr rfl
  · exact .inl (List.mem_of_mem_drop (List.mem_of_mem_take hc))
  · exact .inr rfl
  · exact .inl (List.mem_of_mem_drop (List.mem_of_mem_take hc))
  · exact .inr rfl
  · exact .inl (List.mem_of_mem_drop hc)

lemma filter_dashed {h : List Char} (hd : ∀ c ∈ h, c ≠ '-') : (dashed h).filter (· ≠ '-') = h := by
  have hkeep : ∀ l : List Char, (∀ c ∈ l, c ∈ h) → l.filter (· ≠ '-') = l := by
    intro l hl
    exact List.filter_eq_self.mpr fun c hc => by simpa using hd c (hl c hc)
  have hcut : ∀ i k : Nat, ∀ c ∈ (h.drop i).take k, c ∈ h :=
    fun i k c hc => List.mem_of_mem_drop (List.mem_of_mem_take hc)
  simp only [dashed, List.filter_append, List.filter_cons]
  rw [hkeep _ fun c hc => List.mem_of_mem_take hc, hkeep _ (hcut 8 4), hkeep _ (hcut 12 4),
    hkeep _ (hcut 16 4), hkeep _ fun c hc => List.mem_of_mem_drop hc]
  have h₁ : h.drop 16 = (h.drop 16).take 4 ++ h.drop 20 := by
    simpa [List.drop_drop] using (List.take_append_drop 4 (h.drop 16)).symm
  have h₂ : h.drop 12 = (h.drop 12).take 4 ++ h.drop 16 := by
    simpa [List.drop_drop] using (List.take_append_drop 4 (h.drop 12)).symm
  have h₃ : h.drop 8 = (h.drop 8).take 4 ++ h.drop 12 := by
    simpa [List.drop_drop] using (List.take_append_drop 4 (h.drop 8)).symm
  simp only [ne_eq, not_true_eq_false, decide_false, Bool.false_eq_true, if_false]
  rw [← h₁, ← h₂, ← h₃, List.take_append_drop]

@[simp] lemma ofText_str (u : Uuid) : ofText u.str = some u := by
  have hfilter : (dashed u.hex).filter (· ≠ '-') = u.hex := by
    refine filter_dashed fun c hc => ?_
    obtain ⟨d, hd, rfl⟩ := mem_hex hc
    exact (hexDigit_cases hd).1.2.2
  have hmem : ∀ c ∈ dashed u.hex, c ≠ 'u' ∧ isBrace c = false := by
    intro c hc
    rcases mem_dashed hc with hc | rfl
    · obtain ⟨d, hd, rfl⟩ := mem_hex hc
      exact ⟨(hexDigit_cases hd).1.1, (hexDigit_cases hd).1.2.1⟩
    · decide
  refine ofText_eq (fun hu => (hmem _ hu).1 rfl) (fun c hc => (hmem c hc).2) ?_ ?_
  · rw [hfilter, length_hex]
  · rw [hfilter]
    exact numeral_padded (by decide) (by decide) u.int.isLt

@[simp] lemma ofText_hexUpper (u : Uuid) : ofText u.hexUpper = some u := by
  have hmem : ∀ c ∈ u.hex.map Char.toUpper, c ≠ 'u' ∧ isBrace c = false ∧ c ≠ '-' := by
    intro c hc
    rw [List.mem_map] at hc
    obtain ⟨x, hx, rfl⟩ := hc
    obtain ⟨d, hd, rfl⟩ := mem_hex hx
    exact (hexDigit_cases hd).2
  have hfilter : (u.hex.map Char.toUpper).filter (· ≠ '-') = u.hex.map Char.toUpper :=
    List.filter_eq_self.mpr fun c hc => by simpa using (hmem c hc).2.2
  refine ofText_eq (fun hu => (hmem _ hu).1 rfl) (fun c hc => (hmem c hc).2.1) ?_ ?_
  · rw [hfilter, List.length_map, length_hex]
  · rw [hfilter]
    exact numeral_toUpper_padded (by decide) (by decide) u.int.isLt

lemma str_injective : Function.Injective str := by
  intro u v h
  have := congrArg ofText h
  simpa using this

end Uuid

end NhaTrangLaundry.Lib
