import NhaTrangLaundry.Domain.Pricing
import NhaTrangLaundry.Lib.DecimalText
import Mathlib.Data.List.TakeWhile

/-! The console's readers of amounts and quantities, and what they make of a text. -/

namespace NhaTrangLaundry.Web.Format

open Lib Lib.Text Lib.Decimal Domain Domain.Pricing Domain.Catalog

/-- The characters that `trim` removes and `\s` matches. -/
def isSpace (c : Char) : Bool :=
  (9 ≤ c.toNat && c.toNat ≤ 13) || c.toNat == 32 || c.toNat == 0xA0 || c.toNat == 0x1680 ||
    (0x2000 ≤ c.toNat && c.toNat ≤ 0x200A) || c.toNat == 0x2028 || c.toNat == 0x2029 ||
    c.toNat == 0x202F || c.toNat == 0x205F || c.toNat == 0x3000 || c.toNat == 0xFEFF

def trim (cs : List Char) : List Char := ((cs.dropWhile isSpace).reverse.dropWhile isSpace).reverse

def maxSafeInteger : Nat := 2 ^ 53 - 1

/-- `(\.\d{3})*$`. -/
def groups : List Char → Bool
  | [] => true
  | '.' :: a :: b :: c :: cs => isDigit a && isDigit b && isDigit c && groups cs
  | _ => false

/-- `^\d{1,3}(\.\d{3})*$`. -/
def groupedPattern (cs : List Char) : Bool :=
  1 ≤ (whole cs).length && (whole cs).length ≤ 3 && groups (rest cs)

/-- `^\d+$`. -/
def plainPattern (cs : List Char) : Bool := cs != [] && cs.all isDigit

def bare (cs : List Char) : List Char := cs.filter fun c => c ≠ '₫' && !isSpace c

def digits (cs : List Char) : List Char := cs.filter fun c => c ≠ '.'

/-- `Number.parseInt`, of which only a safe integer is kept. -/
def safeInteger (cs : List Char) : Option Nat :=
  match numeral 10 cs 0 with
  | some n => if n ≤ maxSafeInteger then some n else none
  | none => none

def parseDong (value : String) : Option Nat :=
  let trimmed := trim value.toList
  if trimmed = [] then none
  else if ',' ∈ trimmed then none
  else if ¬ (groupedPattern (bare trimmed) || plainPattern (bare trimmed)) then none
  else safeInteger (digits (bare trimmed))

/-- `QUANTITY_PATTERN` is that of the domain. A comma is read as the point where it is the only
mark of the two. -/
def candidate (trimmed : List Char) : List Char :=
  if trimmed.count ',' = 1 ∧ '.' ∉ trimmed then
    trimmed.map fun c => if c = ',' then '.' else c
  else trimmed

def notZero (c : Char) : Bool := '1' ≤ c && c ≤ '9'

/-- A unit that is not known is not one that is counted. -/
def parseQuantity (value : String) (unit : Option QuantityUnit) : Option String :=
  let trimmed := trim value.toList
  let candidate := candidate trimmed
  let fraction := (rest candidate).drop 1
  if trimmed = [] then none
  else if ¬ pattern (String.ofList candidate) then none
  else if 9 < (whole candidate).length ∨ 3 < fraction.length then none
  else if ¬ candidate.any notZero then none
  else if fraction.any notZero ∧ ∃ u ∈ unit, u ∈ countUnits then none
  else some (String.ofList candidate)

variable {cs ds : List Char} {c : Char} {n : Nat}

lemma filter_dropWhile (p : Char → Bool) (cs : List Char) :
    (cs.dropWhile p).filter (fun c => !p c) = cs.filter fun c => !p c := by
  induction cs with
  | nil => rfl
  | cons c cs ih =>
    cases hc : p c with
    | true => rw [List.dropWhile_cons_of_pos hc, ih, List.filter_cons_of_neg (by simp [hc])]
    | false => rw [List.dropWhile_cons_of_neg (by simp [hc])]

lemma filter_trim (cs : List Char) :
    (trim cs).filter (fun c => !isSpace c) = cs.filter fun c => !isSpace c := by
  rw [trim, List.filter_reverse, filter_dropWhile, List.filter_reverse, List.reverse_reverse,
    filter_dropWhile]

lemma mem_trim (hc : isSpace c = false) : c ∈ trim cs ↔ c ∈ cs := by
  have hmem : ∀ l : List Char, c ∈ l ↔ c ∈ l.filter fun c => !isSpace c := by
    intro l
    rw [List.mem_filter, hc]
    simp
  rw [hmem (trim cs), filter_trim, ← hmem]

lemma bare_trim (cs : List Char) : bare (trim cs) = bare cs := by
  have hsplit : ∀ l : List Char, bare l =
      (l.filter fun c => !isSpace c).filter fun c => c ≠ '₫' := by
    intro l
    rw [List.filter_filter]
    rfl
  rw [hsplit, filter_trim, ← hsplit]

def grouping (ds : List Char) : List Char := (grouped ds.reverse).reverse

lemma grouped_cons {a b c : Char} {m : List Char} (hm : m ≠ []) :
    grouped (a :: b :: c :: m) = a :: b :: c :: '.' :: grouped m := by
  cases m with
  | nil => exact absurd rfl hm
  | cons d m => rw [grouped]

lemma grouped_short {m : List Char} (hm : m.length ≤ 3) : grouped m = m := by
  match m, hm with
  | [], _ => rfl
  | [_], _ => rfl
  | [_, _], _ => rfl
  | [_, _, _], _ => rfl

lemma isDigit_point : isDigit '.' = false := by decide

lemma ne_point_of_isDigit (h : isDigit c = true) : c ≠ '.' := by
  rintro rfl
  rw [isDigit_point] at h
  exact Bool.false_ne_true h

lemma digits_of_all (h : cs.all isDigit = true) : digits cs = cs := by
  rw [digits, List.filter_eq_self]
  intro c hc
  simpa using ne_point_of_isDigit (List.all_eq_true.mp h c hc)

lemma digits_group {a b c : Char} (ha : isDigit a = true) (hb : isDigit b = true)
    (hc : isDigit c = true) (cs : List Char) :
    digits ('.' :: a :: b :: c :: cs) = a :: b :: c :: digits cs := by
  simp [digits, ne_point_of_isDigit ha, ne_point_of_isDigit hb, ne_point_of_isDigit hc]

lemma not_groups (hnil : cs = [] → False)
    (hcons : ∀ a b c rest, cs = '.' :: a :: b :: c :: rest → False) : groups cs = false := by
  rw [groups.eq_def]
  split
  · exact absurd rfl hnil
  · exact absurd rfl (hcons _ _ _ _)
  · rfl

lemma grouped_groups {m : List Char} (h : groups cs = true) (hm : m ≠ []) :
    grouped ((digits cs).reverse ++ m) = cs.reverse ++ grouped m := by
  induction cs using groups.induct generalizing m with
  | case1 => rfl
  | case2 a b c cs ih =>
    simp only [groups, Bool.and_eq_true] at h
    obtain ⟨⟨⟨ha, hb⟩, hc⟩, hcs⟩ := h
    rw [digits_group ha hb hc]
    simp only [List.reverse_cons, List.append_assoc, List.cons_append, List.nil_append]
    rw [ih hcs (List.cons_ne_nil _ _), grouped_cons hm]
  | case3 cs hnil hcons =>
    rw [not_groups hnil hcons] at h
    cases h

lemma all_digits_of_groups (h : groups cs = true) : (digits cs).all isDigit = true := by
  induction cs using groups.induct with
  | case1 => rfl
  | case2 a b c cs ih =>
    simp only [groups, Bool.and_eq_true] at h
    obtain ⟨⟨⟨ha, hb⟩, hc⟩, hcs⟩ := h
    rw [digits_group ha hb hc, List.all_cons, List.all_cons, List.all_cons, ha, hb, hc, ih hcs]
    rfl
  | case3 cs hnil hcons =>
    rw [not_groups hnil hcons] at h
    cases h

lemma whole_append_rest (cs : List Char) : whole cs ++ rest cs = cs :=
  List.takeWhile_append_dropWhile

lemma all_whole (cs : List Char) : (whole cs).all isDigit = true := List.all_takeWhile

lemma grouping_of_pattern (h : groupedPattern cs = true) :
    cs = grouping (digits cs) ∧ digits cs ≠ [] ∧ (digits cs).all isDigit = true := by
  simp only [groupedPattern, Bool.and_eq_true, decide_eq_true_eq] at h
  obtain ⟨⟨hfirst, hshort⟩, hgroups⟩ := h
  have hdigits : digits cs = whole cs ++ digits (rest cs) := by
    conv_lhs => rw [← whole_append_rest cs]
    rw [digits, List.filter_append]
    exact congrArg (· ++ digits (rest cs)) (digits_of_all (all_whole cs))
  have hne : whole cs ≠ [] := by
    intro hnil
    rw [hnil] at hfirst
    cases hfirst
  refine ⟨?_, ?_, ?_⟩
  · rw [grouping, hdigits, List.reverse_append,
      grouped_groups hgroups (by simpa using hne),
      grouped_short (by simpa using hshort), List.reverse_append, List.reverse_reverse,
      List.reverse_reverse, whole_append_rest]
  · rw [hdigits]
    exact List.append_ne_nil_of_left_ne_nil hne _
  · rw [hdigits, List.all_append, all_whole, all_digits_of_groups hgroups]
    rfl

lemma groups_snoc {a b c : Char} (h : groups cs = true) (ha : isDigit a = true)
    (hb : isDigit b = true) (hc : isDigit c = true) : groups (cs ++ ['.', a, b, c]) = true := by
  induction cs using groups.induct with
  | case1 => simp [groups, ha, hb, hc]
  | case2 x y z cs ih =>
    simp only [groups, Bool.and_eq_true] at h
    simp only [List.cons_append, groups, Bool.and_eq_true]
    exact ⟨h.1, ih h.2⟩
  | case3 cs hnil hcons =>
    rw [not_groups hnil hcons] at h
    cases h

lemma groupedPattern_snoc {a b c : Char} (h : groupedPattern cs = true) (ha : isDigit a = true)
    (hb : isDigit b = true) (hc : isDigit c = true) :
    groupedPattern (cs ++ ['.', a, b, c]) = true := by
  simp only [groupedPattern, Bool.and_eq_true] at h ⊢
  have hsplit : whole (cs ++ ['.', a, b, c]) = whole cs ∧
      rest (cs ++ ['.', a, b, c]) = rest cs ++ ['.', a, b, c] := by
    rw [whole, whole, rest, rest, List.takeWhile_append, List.dropWhile_append,
      List.takeWhile_cons_of_neg (by decide), List.dropWhile_cons_of_neg (by decide)]
    constructor
    · split_ifs with hall
      · rw [List.append_nil]
        exact ((List.takeWhile_prefix isDigit).eq_of_length hall).symm
      · rfl
    · split_ifs with hnone
      · rw [List.isEmpty_iff.mp hnone, List.nil_append]
      · rfl
  rw [hsplit.1, hsplit.2]
  exact ⟨h.1, groups_snoc h.2 ha hb hc⟩

lemma pattern_grouped (h : cs ≠ []) (hall : cs.all isDigit = true) :
    groupedPattern (grouped cs).reverse = true := by
  induction cs using grouped.induct with
  | case1 a b c d m ih =>
    simp only [List.all_cons, Bool.and_eq_true] at hall ih
    obtain ⟨ha, hb, hc, hrest⟩ := hall
    rw [grouped]
    simp only [List.reverse_cons, List.append_assoc, List.cons_append, List.nil_append]
    exact groupedPattern_snoc (ih (List.cons_ne_nil _ _) hrest) hc hb ha
  | case2 m hshort =>
    have hlength : m.length ≤ 3 := by
      by_contra hlong
      match m, hlong with
      | a :: b :: c :: d :: m, _ => exact hshort a b c d m rfl
      | [], hlong => simp at hlong
      | [_], hlong => simp at hlong
      | [_, _], hlong => simp at hlong
      | [_, _, _], hlong => simp at hlong
    have hdigit : ∀ c ∈ m.reverse, isDigit c = true :=
      fun c hc => List.all_eq_true.mp hall c (List.mem_reverse.mp hc)
    have hwhole : whole m.reverse = m.reverse := List.takeWhile_eq_self_iff.mpr hdigit
    have hrest : rest m.reverse = [] := List.dropWhile_eq_nil_iff.mpr hdigit
    have hpos := List.length_pos_of_ne_nil h
    rw [grouped_short hlength, groupedPattern, hwhole, hrest, List.length_reverse]
    simp only [groups, Bool.and_true, Bool.and_eq_true, decide_eq_true_eq]
    omega

lemma digits_grouped (hall : cs.all isDigit = true) : digits (grouped cs) = cs := by
  induction cs using grouped.induct with
  | case1 a b c d m ih =>
    simp only [List.all_cons, Bool.and_eq_true] at hall ih
    obtain ⟨ha, hb, hc, hrest⟩ := hall
    rw [grouped, digits, List.filter_cons_of_pos (by simpa using ne_point_of_isDigit ha),
      List.filter_cons_of_pos (by simpa using ne_point_of_isDigit hb),
      List.filter_cons_of_pos (by simpa using ne_point_of_isDigit hc),
      List.filter_cons_of_neg (by simp)]
    exact congrArg (fun l => a :: b :: c :: l) (ih hrest)
  | case2 m hshort =>
    rw [grouped.eq_def]
    split
    · exact absurd rfl (hshort _ _ _ _ _)
    · exact digits_of_all hall

lemma patterns_iff : groupedPattern cs = true ∨ plainPattern cs = true ↔
    digits cs ≠ [] ∧ (digits cs).all isDigit = true ∧
      (cs = digits cs ∨ cs = grouping (digits cs)) := by
  constructor
  · rintro (hgrouped | hplain)
    · obtain ⟨hcs, hne, hall⟩ := grouping_of_pattern hgrouped
      exact ⟨hne, hall, .inr hcs⟩
    · rw [plainPattern, Bool.and_eq_true] at hplain
      have hself := digits_of_all hplain.2
      rw [hself]
      exact ⟨by simpa using hplain.1, hplain.2, .inl rfl⟩
  · rintro ⟨hne, hall, hplain | hgrouped⟩
    · right
      rw [hplain, plainPattern, hall]
      simpa using hne
    · left
      rw [hgrouped, grouping]
      exact pattern_grouped (by simpa using hne) (by simpa using hall)

lemma toNat_le {a b : Char} : a ≤ b ↔ a.toNat ≤ b.toNat := by
  rw [Char.le_def, UInt32.le_iff_toNat_le]
  rfl

lemma digit_of_isDigit (h : isDigit c = true) :
    ∃ d, digit 10 c = some d ∧ d < 10 ∧ (d = 0 ↔ notZero c = false) := by
  rw [isDigit, Bool.and_eq_true, decide_eq_true_eq, decide_eq_true_eq] at h
  have hlow := toNat_le.mp h.1
  have hhigh := toNat_le.mp h.2
  have hbounds : '0'.toNat = 48 ∧ '9'.toNat = 57 ∧ '1'.toNat = 49 := by decide
  have hlt : c.toNat - 48 < 10 := by omega
  refine ⟨c.toNat - 48, ?_, hlt, ?_⟩
  · rw [digit, hexValue, if_pos h]
    exact if_pos hlt
  · rw [notZero, Bool.and_eq_false_iff, decide_eq_false_iff_not, decide_eq_false_iff_not,
      toNat_le, toNat_le]
    omega

lemma isDigit_of_digit {d : Nat} (h : digit 10 c = some d) : isDigit c = true := by
  have hbounds : 'a'.toNat = 97 ∧ 'A'.toNat = 65 := by decide
  rw [digit, hexValue] at h
  split_ifs at h with hdigit hlower hupper
  · rw [isDigit, Bool.and_eq_true, decide_eq_true_eq, decide_eq_true_eq]
    exact hdigit
  · have hlow := toNat_le.mp hlower.1
    dsimp only at h
    split_ifs at h with hlt
    omega
  · have hlow := toNat_le.mp hupper.1
    dsimp only at h
    split_ifs at h with hlt
    omega

lemma numeral_digits (h : cs.all isDigit = true) (m : Nat) :
    ∃ n, numeral 10 cs m = some n ∧ m * 10 ^ cs.length ≤ n ∧ n < (m + 1) * 10 ^ cs.length ∧
      (n = m * 10 ^ cs.length ↔ cs.any notZero = false) := by
  induction cs generalizing m with
  | nil => exact ⟨m, rfl, by simp, by simp, by simp⟩
  | cons c cs ih =>
    rw [List.all_cons, Bool.and_eq_true] at h
    obtain ⟨d, hd, hlt, hzero⟩ := digit_of_isDigit h.1
    obtain ⟨n, hn, hle, hbound, hsame⟩ := ih h.2 (m * 10 + d)
    have hpow : 0 < 10 ^ cs.length := Nat.pow_pos (by decide)
    refine ⟨n, ?_, ?_, ?_, ?_⟩
    · rw [numeral, hd]
      exact hn
    · rw [List.length_cons, Nat.pow_succ]
      nlinarith
    · rw [List.length_cons, Nat.pow_succ]
      nlinarith
    · rw [List.length_cons, Nat.pow_succ, List.any_cons, Bool.or_eq_false_iff, ← hzero, ← hsame]
      constructor
      · intro heq
        have hdzero : d = 0 := by nlinarith
        rw [hdzero] at hle ⊢
        exact ⟨rfl, by rw [heq]; ring⟩
      · rintro ⟨rfl, rfl⟩
        ring

lemma all_of_numeral {m : Nat} (h : numeral 10 cs m = some n) : cs.all isDigit = true := by
  induction cs generalizing m with
  | nil => rfl
  | cons c cs ih =>
    rw [numeral] at h
    cases hc : digit 10 c with
    | none =>
      rw [hc] at h
      cases h
    | some d =>
      rw [hc] at h
      rw [List.all_cons, ih h, Bool.and_true]
      exact isDigit_of_digit hc

lemma parseDong_eq (s : String) : parseDong s =
    if ',' ∉ s.toList ∧
      (groupedPattern (bare s.toList) = true ∨ plainPattern (bare s.toList) = true) then
      safeInteger (digits (bare s.toList))
    else none := by
  have hcomma : ',' ∈ trim s.toList ↔ ',' ∈ s.toList := mem_trim (by decide)
  rw [parseDong, bare_trim]
  by_cases htrim : trim s.toList = []
  · have hbare : bare s.toList = [] := by
      rw [← bare_trim, htrim]
      rfl
    rw [if_pos htrim, hbare, if_neg]
    rintro ⟨-, h | h⟩
    · exact Bool.false_ne_true h
    · exact Bool.false_ne_true h
  · rw [if_neg htrim]
    by_cases hmark : ',' ∈ s.toList
    · rw [if_pos (hcomma.mpr hmark), if_neg fun h => h.1 hmark]
    · rw [if_neg fun h => hmark (hcomma.mp h)]
      by_cases hpattern : groupedPattern (bare s.toList) = true ∨
          plainPattern (bare s.toList) = true
      · rw [if_neg (not_not.mpr (by simpa using hpattern)), if_pos ⟨hmark, hpattern⟩]
      · rw [if_pos (by simpa using hpattern), if_neg fun h => hpattern h.2]

lemma safeInteger_some : safeInteger cs = some n ↔
    numeral 10 cs 0 = some n ∧ n ≤ maxSafeInteger := by
  rw [safeInteger]
  cases hcs : numeral 10 cs 0 with
  | none => simp
  | some m =>
    dsimp only
    split_ifs with hle
    · constructor
      · rintro ⟨⟩
        exact ⟨rfl, hle⟩
      · exact fun h => h.1
    · constructor
      · exact fun h => by cases h
      · rintro ⟨hm, hn⟩
        rw [Option.some.inj hm] at hle
        exact absurd hn hle

/-- An amount is read exactly where the text, without its spaces and đồng signs, is digits, plain
or grouped in threes from the right; then it is the number of those digits. -/
lemma parseDong_iff (s : String) (n : Nat) : parseDong s = some n ↔
    ',' ∉ s.toList ∧ digits (bare s.toList) ≠ [] ∧
      numeral 10 (digits (bare s.toList)) 0 = some n ∧ n ≤ maxSafeInteger ∧
      (bare s.toList = digits (bare s.toList) ∨
        bare s.toList = grouping (digits (bare s.toList))) := by
  rw [parseDong_eq]
  constructor
  · intro h
    split_ifs at h with hread
    obtain ⟨hcomma, hpattern⟩ := hread
    obtain ⟨hne, -, hshape⟩ := patterns_iff.mp hpattern
    obtain ⟨hnumeral, hle⟩ := safeInteger_some.mp h
    exact ⟨hcomma, hne, hnumeral, hle, hshape⟩
  · rintro ⟨hcomma, hne, hnumeral, hle, hshape⟩
    rw [if_pos ⟨hcomma, patterns_iff.mpr ⟨hne, all_of_numeral hnumeral, hshape⟩⟩]
    exact safeInteger_some.mpr ⟨hnumeral, hle⟩

lemma bare_digits (hall : ∀ c ∈ cs, isDigit c = true ∨ c = '.') : bare cs = cs := by
  have hkept : ∀ c, isDigit c = true ∨ c = '.' → c ≠ '₫' ∧ isSpace c = false := by
    rintro c (hdigit | rfl)
    · rw [isDigit, Bool.and_eq_true, decide_eq_true_eq, decide_eq_true_eq] at hdigit
      have hlow := toNat_le.mp hdigit.1
      have hhigh := toNat_le.mp hdigit.2
      have hbounds : '0'.toNat = 48 ∧ '9'.toNat = 57 ∧ '₫'.toNat = 8363 := by decide
      refine ⟨?_, ?_⟩
      · rintro rfl
        omega
      · simp only [isSpace, Bool.or_eq_false_iff, Bool.and_eq_false_iff, beq_eq_false_iff_ne,
          decide_eq_false_iff_not]
        omega
    · decide
  rw [bare, List.filter_eq_self]
  intro c hc
  obtain ⟨hdong, hspace⟩ := hkept c (hall c hc)
  simp [hdong, hspace]

lemma grouping_chars (hall : cs.all isDigit = true) :
    ∀ c ∈ grouping cs, isDigit c = true ∨ c = '.' := by
  have hpoint : digits (grouping cs) = cs := by
    rw [grouping, digits, List.filter_reverse]
    have hgrouped := @digits_grouped cs.reverse (by simpa using hall)
    rw [digits] at hgrouped
    rw [hgrouped, List.reverse_reverse]
  intro c hc
  by_cases hdot : c = '.'
  · exact .inr hdot
  · refine .inl (List.all_eq_true.mp hall c ?_)
    rw [← hpoint, digits, List.mem_filter]
    exact ⟨hc, by simpa using hdot⟩

lemma digits_grouping (hall : cs.all isDigit = true) : digits (grouping cs) = cs := by
  have hgrouped := @digits_grouped cs.reverse (by simpa using hall)
  rw [digits] at hgrouped
  rw [grouping, digits, List.filter_reverse, hgrouped, List.reverse_reverse]

/-- A rendering of the amount: its digits, or its digits grouped, before what is not read. -/
structure Renders (n : Nat) (s : String) : Prop where
  noComma : ',' ∉ s.toList
  digits : bare s.toList = Nat.toDigits 10 n ∨ bare s.toList = grouping (Nat.toDigits 10 n)

lemma parseDong_renders {s : String} (h : Renders n s) (hn : n ≤ maxSafeInteger) :
    parseDong s = some n := by
  have hall : (Nat.toDigits 10 n).all isDigit = true :=
    List.all_eq_true.mpr fun c hc => isDigit_of_mem_toDigits hc
  have hdigits : digits (bare s.toList) = Nat.toDigits 10 n := by
    rcases h.digits with hplain | hgrouped
    · rw [hplain, digits_of_all hall]
    · rw [hgrouped, digits_grouping hall]
  rw [parseDong_iff, hdigits]
  exact ⟨h.noComma, Nat.toDigits_ne_nil, numeral_toDigits n, hn, h.digits⟩

lemma renders_plain (n : Nat) : Renders n (String.ofList (Nat.toDigits 10 n)) := by
  have hall : ∀ c ∈ Nat.toDigits 10 n, isDigit c = true := fun c hc => isDigit_of_mem_toDigits hc
  refine ⟨?_, .inl ?_⟩
  · rw [String.toList_ofList]
    intro hmem
    exact absurd (hall ',' hmem) (by decide)
  · rw [String.toList_ofList, bare_digits fun c hc => .inl (hall c hc)]

lemma renders_vndText (n : Nat) : Renders n (vndText n) := by
  have hall : (Nat.toDigits 10 n).all isDigit = true :=
    List.all_eq_true.mpr fun c hc => isDigit_of_mem_toDigits hc
  have htext : (vndText n).toList = grouping (Nat.toDigits 10 n) ++ [' ', '₫'] := by
    rw [vndText, if_neg (by omega), Int.natAbs_natCast]
    simp only [String.toList_append, String.toList_ofList]
    rfl
  refine ⟨?_, .inr ?_⟩
  · rw [htext]
    intro hmem
    rcases List.mem_append.mp hmem with hgroup | hsign
    · rcases grouping_chars hall ',' hgroup with hdigit | hdot
      · exact absurd hdigit (by decide)
      · exact absurd hdot (by decide)
    · exact absurd hsign (by decide)
  · rw [htext, bare, List.filter_append]
    have hkept : bare (grouping (Nat.toDigits 10 n)) = grouping (Nat.toDigits 10 n) :=
      bare_digits (grouping_chars hall)
    rw [bare] at hkept
    rw [hkept]
    simp [isSpace]

/-- The console reads an amount exactly where the text, without its spaces and đồng signs, is
digits, plain or grouped in threes from the right, and reads back every amount it can hold from
its digits and from the text that the counter is shown. -/
theorem console_reads_amounts :
    (∀ s n, parseDong s = some n ↔
      ',' ∉ s.toList ∧ digits (bare s.toList) ≠ [] ∧
        numeral 10 (digits (bare s.toList)) 0 = some n ∧ n ≤ maxSafeInteger ∧
        (bare s.toList = digits (bare s.toList) ∨
          bare s.toList = grouping (digits (bare s.toList)))) ∧
    ∀ n ≤ maxSafeInteger, parseDong (String.ofList (Nat.toDigits 10 n)) = some n ∧
      parseDong (vndText n) = some n :=
  ⟨parseDong_iff, fun n hn =>
    ⟨parseDong_renders (renders_plain n) hn, parseDong_renders (renders_vndText n) hn⟩⟩

example : parseDong "132.000 ₫" = some 132000 ∧ parseDong "170000.5" = none := by decide

end NhaTrangLaundry.Web.Format
