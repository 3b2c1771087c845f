import NhaTrangLaundry.Lib.JsonLoads

/-! JSON text in bytes: how its encoding is told, and that canonical text is read as UTF-8. -/

namespace NhaTrangLaundry.Lib.Json

inductive Encoding where
  | utf8
  | utf8Sig
  | utf16
  | utf16be
  | utf16le
  | utf32
  | utf32be
  | utf32le
deriving DecidableEq

/-- `json.detect_encoding` of bytes that start with no byte order mark. -/
def detectUnmarked : List UInt8 → Encoding
  | [b₀, b₁] => if b₀ = 0 then .utf16be else if b₁ = 0 then .utf16le else .utf8
  | b₀ :: b₁ :: b₂ :: b₃ :: _ =>
    if b₀ = 0 then if b₁ = 0 then .utf32be else .utf16be
    else if b₁ = 0 then if b₂ = 0 ∧ b₃ = 0 then .utf32le else .utf16le
    else .utf8
  | _ => .utf8

def detectEncoding (b : List UInt8) : Encoding :=
  if [0x00, 0x00, 0xFE, 0xFF].isPrefixOf b ∨ [0xFF, 0xFE, 0x00, 0x00].isPrefixOf b then .utf32
  else if [0xFE, 0xFF].isPrefixOf b ∨ [0xFF, 0xFE].isPrefixOf b then .utf16
  else if [0xEF, 0xBB, 0xBF].isPrefixOf b then .utf8Sig
  else detectUnmarked b

/-- `json.loads` of bytes, over the decoders of the other encodings. Bytes of an unpaired
surrogate, which Python decodes, are not UTF-8 here. -/
def loadsBytes (decode : Encoding → ByteArray → Option String) (payload : ByteArray) :
    Option Json :=
  match detectEncoding payload.data.toList with
  | .utf8 => (String.fromUTF8? payload).bind loads
  | encoding => (decode encoding payload).bind loads

lemma fromUTF8?_toByteArray (s : String) : String.fromUTF8? s.toByteArray = some s := by
  rw [String.fromUTF8?, dif_pos s.isValidUTF8]
  rfl

def Printed (cs : List Char) : Prop := ∀ c ∈ cs, 0x20 ≤ c.toNat

instance (cs : List Char) : Decidable (Printed cs) := List.decidableBAll _ cs

lemma printed_hexPair : ∀ n < 32, Printed (hexPair n) := by
  decide

lemma printed_escape (c : Char) : Printed (escape c) := by
  unfold escape
  split_ifs with h₁ h₂ h₃ h₄ h₅ h₆ h₇ h₈
  · decide
  · decide
  · decide
  · decide
  · decide
  · decide
  · decide
  · intro d hd
    rcases List.mem_append.mp hd with hd | hd
    · exact (by decide : Printed ['\\', 'u', '0', '0']) d hd
    · exact printed_hexPair _ h₈ d hd
  · intro d hd
    rw [List.mem_singleton] at hd
    subst hd
    omega

lemma isDigit_bounds {c : Char} (h : c.isDigit = true) : 0x20 ≤ c.toNat ∧ c.toNat < 0x80 := by
  rw [Char.isDigit, Bool.and_eq_true, decide_eq_true_eq, decide_eq_true_eq] at h
  have hlow := UInt32.le_iff_toNat_le.mp h.1
  have hhigh := UInt32.le_iff_toNat_le.mp h.2
  exact ⟨le_trans (by decide) hlow, lt_of_le_of_lt hhigh (by decide)⟩

lemma printed_strText (s : String) : Printed (strText s) := by
  intro c hc
  rw [strText, List.mem_append, List.mem_cons, List.mem_flatMap, List.mem_singleton] at hc
  rcases hc with (rfl | ⟨d, -, hc⟩) | rfl
  · decide
  · exact printed_escape d c hc
  · decide

lemma printed_intText (n : Int) : Printed (intText n) := by
  have hdigits : Printed (Nat.toDigits 10 n.natAbs) := fun c hc =>
    (isDigit_bounds (Nat.isDigit_of_mem_toDigits (by omega) (by omega) hc)).1
  intro c hc
  rw [intText] at hc
  split at hc
  · rcases List.mem_cons.mp hc with rfl | hc
    · decide
    · exact hdigits c hc
  · exact hdigits c hc

lemma printed_joined {ts : List (List Char)} (h : ∀ t ∈ ts, Printed t) : Printed (joined ts) := by
  induction ts with
  | nil => exact fun _ hc => nomatch hc
  | cons t ts ih =>
    rw [List.forall_mem_cons] at h
    cases ts with
    | nil => exact h.1
    | cons t' ts =>
      intro c hc
      rw [joined, List.mem_append, List.mem_cons] at hc
      rcases hc with hc | rfl | hc
      · exact h.1 c hc
      · decide
      · exact ih h.2 c hc

lemma printed_inOrder (j : Json) : Printed (inOrder j) := by
  induction j using induction with
  | null => exact (by decide : Printed ['n', 'u', 'l', 'l'])
  | bool b =>
    cases b with
    | false => exact (by decide : Printed ['f', 'a', 'l', 's', 'e'])
    | true => exact (by decide : Printed ['t', 'r', 'u', 'e'])
  | int n => exact printed_intText n
  | str s => exact printed_strText s
  | arr xs ih =>
    have hitems : Printed (joined (elementsInOrder xs)) := by
      rw [elementsInOrder_eq]
      exact printed_joined (List.forall_mem_map.mpr ih)
    intro c hc
    rw [inOrder, List.mem_append, List.mem_cons, List.mem_singleton] at hc
    rcases hc with (rfl | hc) | rfl
    · decide
    · exact hitems c hc
    · decide
  | obj fs ih =>
    have hmember : ∀ f ∈ fs, Printed (member (f.1, inOrder f.2)) := by
      intro f hf c hc
      rw [member, List.mem_append, List.mem_cons] at hc
      rcases hc with hc | rfl | hc
      · exact printed_strText f.1 c hc
      · decide
      · exact ih f hf c hc
    have hitems : Printed (joined (membersInOrder fs)) := by
      rw [membersInOrder_eq]
      exact printed_joined (List.forall_mem_map.mpr hmember)
    intro c hc
    rw [inOrder, List.mem_append, List.mem_cons, List.mem_singleton] at hc
    rcases hc with (rfl | hc) | rfl
    · decide
    · exact hitems c hc
    · decide

lemma inOrder_ascii (j : Json) : ∃ c cs, inOrder j = c :: cs ∧ c.toNat < 0x80 := by
  cases j with
  | null => exact ⟨'n', _, rfl, by decide⟩
  | bool b => cases b <;> exact ⟨_, _, rfl, by decide⟩
  | int n =>
    obtain ⟨c, ds, ht, hc⟩ := intText_head n
    refine ⟨c, ds, ht, ?_⟩
    rcases hc with rfl | hc
    · decide
    · exact (isDigit_bounds hc).2
  | str s => exact ⟨'"', _, rfl, by decide⟩
  | arr xs => exact ⟨'[', _, rfl, by decide⟩
  | obj fs => exact ⟨'{', _, rfl, by decide⟩

lemma utf8EncodeChar_ne_zero {c : Char} (h : 0x20 ≤ c.toNat) :
    ∀ b ∈ String.utf8EncodeChar c, b ≠ 0 := by
  have hval : 0x20 ≤ c.val.toNat := h
  have hbyte : ∀ n : Nat, 0 < n % 256 → UInt8.ofNat n ≠ 0 := by
    intro n hn hzero
    have hmod := congrArg UInt8.toNat hzero
    rw [UInt8.toNat_ofNat'] at hmod
    exact absurd hmod (by simpa using hn.ne')
  intro b hb
  simp only [String.utf8EncodeChar] at hb
  split_ifs at hb <;> simp only [List.mem_cons, List.not_mem_nil, or_false] at hb
  · exact hb ▸ hbyte _ (by omega)
  · rcases hb with rfl | rfl <;> exact hbyte _ (by omega)
  · rcases hb with rfl | rfl | rfl <;> exact hbyte _ (by omega)
  · rcases hb with rfl | rfl | rfl | rfl <;> exact hbyte _ (by omega)

lemma utf8EncodeChar_ascii {c : Char} (h : c.toNat < 0x80) :
    String.utf8EncodeChar c = [UInt8.ofNat c.toNat] := by
  have hval : c.val.toNat ≤ 0x7F := Nat.le_of_lt_succ h
  rw [String.utf8EncodeChar, if_pos hval]
  rfl

lemma detectUnmarked_of_ne_zero {b : List UInt8} (h : ∀ x ∈ b, x ≠ 0) : detectUnmarked b = .utf8 := by
  unfold detectUnmarked
  split
  · next b₀ b₁ =>
    rw [if_neg (h b₀ (by simp)), if_neg (h b₁ (by simp))]
  · next b₀ b₁ b₂ b₃ rest =>
    rw [if_neg (h b₀ (by simp)), if_neg (h b₁ (by simp))]
  · rfl

lemma detectEncoding_ascii {b₀ : UInt8} {b : List UInt8} (h : ∀ x ∈ b₀ :: b, x ≠ 0)
    (hascii : b₀.toNat < 0x80) : detectEncoding (b₀ :: b) = .utf8 := by
  have hne : ∀ mark : UInt8, 0x80 ≤ mark.toNat → (mark == b₀) = false := by
    intro mark hmark
    rw [beq_eq_false_iff_ne]
    rintro rfl
    omega
  have hzero : ((0 : UInt8) == b₀) = false := by
    rw [beq_eq_false_iff_ne]
    exact (h b₀ List.mem_cons_self).symm
  rw [detectEncoding]
  simp only [List.isPrefixOf, hne 0xFF (by decide), hne 0xFE (by decide), hne 0xEF (by decide),
    hzero, Bool.false_and, Bool.false_eq_true, or_self, if_false]
  exact detectUnmarked_of_ne_zero h

lemma loadsBytes_inOrder (decode : Encoding → ByteArray → Option String) (j : Json) :
    loadsBytes decode (String.ofList (inOrder j)).toByteArray = loads (String.ofList (inOrder j)) := by
  obtain ⟨c, cs, hhead, hascii⟩ := inOrder_ascii j
  have hbytes : (String.ofList (inOrder j)).toByteArray.data.toList =
      (inOrder j).flatMap String.utf8EncodeChar := by
    rw [String.toByteArray_ofList, List.utf8Encode, List.toList_data_toByteArray]
  have hzeros : ∀ x ∈ (inOrder j).flatMap String.utf8EncodeChar, x ≠ 0 := by
    intro x hx
    obtain ⟨d, hd, hx⟩ := List.mem_flatMap.mp hx
    exact utf8EncodeChar_ne_zero (printed_inOrder j d hd) x hx
  have hdetect : detectEncoding ((inOrder j).flatMap String.utf8EncodeChar) = .utf8 := by
    rw [hhead, List.flatMap_cons, utf8EncodeChar_ascii hascii] at hzeros ⊢
    refine detectEncoding_ascii hzeros ?_
    rw [UInt8.toNat_ofNat', Nat.mod_eq_of_lt (lt_trans hascii (by decide))]
    exact hascii
  rw [loadsBytes, hbytes, hdetect]
  simp only [fromUTF8?_toByteArray, Option.bind_some]

end NhaTrangLaundry.Lib.Json
