import Mathlib.Tactic.Common
import Mathlib.Tactic.IntervalCases
import Mathlib.Tactic.Ring

/-! Characters and fixed-width numerals: how text is trimmed, and that the digits
of a number in a base up to sixteen read back as the number. -/

namespace NhaTrangLaundry.Lib.Text

/-- The characters `str.strip` removes. -/
def isSpace (c : Char) : Bool :=
  (9 ≤ c.toNat && c.toNat ≤ 13) || (28 ≤ c.toNat && c.toNat ≤ 32) || c.toNat == 0x85 ||
    c.toNat == 0xA0 || c.toNat == 0x1680 || (0x2000 ≤ c.toNat && c.toNat ≤ 0x200A) ||
    c.toNat == 0x2028 || c.toNat == 0x2029 || c.toNat == 0x202F || c.toNat == 0x205F ||
    c.toNat == 0x3000

def strip (s : String) : String :=
  String.ofList ((s.toList.dropWhile isSpace).reverse.dropWhile isSpace).reverse

/-- A text that fits a column of type `text`: one without U+0000. -/
def storable (s : String) : Bool := s.toList.all (· ≠ '\x00')

def ascii (s : String) : Prop := ∀ c ∈ s.toList, c.toNat < 128

instance (s : String) : Decidable (ascii s) := List.decidableBAll _ s.toList

def hexValue (c : Char) : Option Nat :=
  if '0' ≤ c ∧ c ≤ '9' then some (c.toNat - 48)
  else if 'a' ≤ c ∧ c ≤ 'f' then some (c.toNat - 87)
  else if 'A' ≤ c ∧ c ≤ 'F' then some (c.toNat - 55)
  else none

/-- The `w` lowest digits of `n` in base `b`, highest first. -/
def padded (b : Nat) : Nat → Nat → List Char
  | 0, _ => []
  | w + 1, n => padded b w (n / b) ++ [Nat.digitChar (n % b)]

def digit (b : Nat) (c : Char) : Option Nat :=
  match hexValue c with
  | some d => if d < b then some d else none
  | none => none

def numeral (b : Nat) : List Char → Nat → Option Nat
  | [], n => some n
  | c :: cs, n =>
    match digit b c with
    | some d => numeral b cs (n * b + d)
    | none => none

lemma hexValue_digitChar {d : Nat} (h : d < 16) : hexValue (Nat.digitChar d) = some d := by
  interval_cases d <;> rfl

lemma hexValue_toUpper_digitChar {d : Nat} (h : d < 16) :
    hexValue (Nat.digitChar d).toUpper = some d := by
  interval_cases d <;> rfl

lemma digitChar_ascii {d : Nat} (h : d < 16) : (Nat.digitChar d).toNat < 128 := by
  interval_cases d <;> decide

lemma ascii_append {s t : String} (hs : ascii s) (ht : ascii t) : ascii (s ++ t) := by
  intro c hc
  rw [String.toList_append, List.mem_append] at hc
  exact hc.elim (hs c) (ht c)

lemma ascii_ofList {cs : List Char} : ascii (String.ofList cs) ↔ ∀ c ∈ cs, c.toNat < 128 := by
  rw [ascii, String.toList_ofList]

lemma length_padded (b w n : Nat) : (padded b w n).length = w := by
  induction w generalizing n with
  | zero => rfl
  | succ w ih => simp [padded, ih]

lemma mem_padded {b w n : Nat} (hb : 0 < b) {c : Char} (h : c ∈ padded b w n) :
    ∃ d < b, c = Nat.digitChar d := by
  induction w generalizing n with
  | zero => simp [padded] at h
  | succ w ih =>
    rw [padded, List.mem_append, List.mem_singleton] at h
    rcases h with h | h
    · exact ih h
    · exact ⟨n % b, Nat.mod_lt n hb, h⟩

lemma numeral_append (b : Nat) (cs ds : List Char) (n : Nat) :
    numeral b (cs ++ ds) n = (numeral b cs n).bind (numeral b ds) := by
  induction cs generalizing n with
  | nil => rfl
  | cons c cs ih =>
    rw [List.cons_append, numeral, numeral]
    cases digit b c with
    | none => rfl
    | some d => exact ih _

lemma numeral_map_padded {b : Nat} (f : Char → Char) (hb : 0 < b)
    (hf : ∀ d < b, digit b (f (Nat.digitChar d)) = some d) (w n m : Nat) :
    numeral b ((padded b w n).map f) m = some (m * b ^ w + n % b ^ w) := by
  induction w generalizing n with
  | zero => simp [padded, numeral, Nat.mod_one]
  | succ w ih =>
    rw [padded, List.map_append, numeral_append, ih, Option.bind_some, List.map_singleton,
      numeral, hf _ (Nat.mod_lt n hb)]
    have hsplit : n % b ^ (w + 1) = n % b + b * (n / b % b ^ w) := by
      rw [Nat.pow_succ', Nat.mod_mul]
    rw [hsplit]
    simp only [numeral, Option.some.injEq]
    ring

lemma digit_digitChar {b d : Nat} (hb : b ≤ 16) (h : d < b) : digit b (Nat.digitChar d) = some d := by
  simp [digit, hexValue_digitChar (lt_of_lt_of_le h hb), h]

lemma digit_toUpper_digitChar {b d : Nat} (hb : b ≤ 16) (h : d < b) :
    digit b (Nat.digitChar d).toUpper = some d := by
  simp [digit, hexValue_toUpper_digitChar (lt_of_lt_of_le h hb), h]

/-- A number below `b ^ w` is read back from its `w` digits. -/
lemma numeral_padded {b w n : Nat} (hb : 0 < b) (hb' : b ≤ 16) (h : n < b ^ w) :
    numeral b (padded b w n) 0 = some n := by
  have hread := numeral_map_padded id hb (fun d hd => digit_digitChar hb' hd) w n 0
  simpa [Nat.mod_eq_of_lt h] using hread

lemma numeral_toUpper_padded {b w n : Nat} (hb : 0 < b) (hb' : b ≤ 16) (h : n < b ^ w) :
    numeral b ((padded b w n).map Char.toUpper) 0 = some n := by
  have hread := numeral_map_padded Char.toUpper hb (fun d hd => digit_toUpper_digitChar hb' hd) w n 0
  simpa [Nat.mod_eq_of_lt h] using hread

lemma toDigits_head_ne_zero (n : Nat) (hn : 0 < n) : (Nat.toDigits 10 n).head? ≠ some '0' := by
  induction n using Nat.strong_induction_on with
  | _ n ih =>
    by_cases h : n < 10
    · rw [Nat.toDigits_of_lt_base h]
      interval_cases n <;> simp [Nat.digitChar]
    · have hfirst := ih (n / 10) (by omega) (by omega)
      rw [Nat.toDigits_of_base_le (by decide) (by omega)]
      cases hd : Nat.toDigits 10 (n / 10) with
      | nil => exact absurd hd Nat.toDigits_ne_nil
      | cons c ds =>
        rw [hd] at hfirst
        exact hfirst

def grouped : List Char → List Char
  | a :: b :: c :: d :: rest => a :: b :: c :: '.' :: grouped (d :: rest)
  | digits => digits

/-- An amount as the counter reads it: `11000` is `11.000 ₫`. -/
def vndText (amount : Int) : String :=
  (if amount < 0 then "-" else "") ++
    String.ofList (grouped (Nat.toDigits 10 amount.natAbs).reverse).reverse ++ " ₫"

example : vndText 1234567 = "1.234.567 ₫" := by decide

end NhaTrangLaundry.Lib.Text
