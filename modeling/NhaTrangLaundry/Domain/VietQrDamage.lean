import NhaTrangLaundry.Domain.VietQr
import NhaTrangLaundry.Lib.Crc
import Mathlib.Data.Nat.Bitwise

/-! A text that was read, damaged in two adjacent characters, is read no more. -/

namespace NhaTrangLaundry.Domain.VietQr

open Lib Outcome Text

def polynomial : BitVec (8 + 8) := 0x1021#16

lemma toNat_shift (register : BitVec (8 + 8)) :
    (Crc.shift polynomial register).toNat = crcBit register.toNat := by
  have hmask (n : Nat) : n &&& 0xFFFF = n % 2 ^ 16 := Nat.and_two_pow_sub_one_eq_mod n 16
  have htop : (register.toNat &&& 0x8000 ≠ 0) ↔ register.msb = true := by
    rw [show (0x8000 : Nat) = 2 ^ 15 by rfl, Nat.and_two_pow, BitVec.msb_eq_getLsbD_last]
    cases hbit : register.toNat.testBit 15 <;> simp [BitVec.getLsbD, hbit]
  have hfeed : ((register.toNat <<< 1) ^^^ 0x1021) % 2 ^ 16 =
      (register.toNat <<< 1) % 2 ^ 16 ^^^ 0x1021 := by
    rw [Nat.xor_mod_two_pow]
  rw [crcBit, hmask]
  by_cases h : register.msb = true
  · rw [if_pos (htop.mpr h), Crc.shift, if_pos h, BitVec.toNat_xor, BitVec.toNat_shiftLeft, hfeed]
    rfl
  · rw [if_neg (fun hset => h (htop.mp hset)), Crc.shift, if_neg h, BitVec.toNat_shiftLeft]

lemma toNat_iterate_shift (n : Nat) (register : BitVec (8 + 8)) :
    ((Crc.shift polynomial)^[n] register).toNat = crcBit^[n] register.toNat := by
  induction n generalizing register with
  | zero => rfl
  | succ n ih => rw [Function.iterate_succ_apply, Function.iterate_succ_apply, ih, toNat_shift]

lemma toNat_absorb (register : BitVec (8 + 8)) {byte : Nat} (h : byte < 2 ^ 8) :
    (Crc.absorb polynomial register (BitVec.ofNat 8 byte)).toNat = crcByte register.toNat byte := by
  have hword : (BitVec.ofNat 8 byte ++ 0#8).toNat = byte <<< 8 := by
    rw [BitVec.toNat_append, BitVec.toNat_ofNat, Nat.mod_eq_of_lt h]
    simp
  rw [Crc.absorb, toNat_iterate_shift, BitVec.toNat_xor, hword, crcByte]

def bytes (text : List Char) : List (BitVec 8) := text.map fun c => BitVec.ofNat 8 c.toNat

lemma toNat_checksum {text : List Char} (h : ∀ c ∈ text, c.toNat < 128) (start : BitVec (8 + 8)) :
    (Crc.checksum polynomial start (bytes text)).toNat =
      (text.map Char.toNat).foldl crcByte start.toNat := by
  induction text generalizing start with
  | nil => rfl
  | cons c text ih =>
    have hc := h c List.mem_cons_self
    have hrest := ih (fun d hd => h d (List.mem_cons_of_mem _ hd))
      (Crc.absorb polynomial start (BitVec.ofNat 8 c.toNat))
    rw [toNat_absorb start (by omega)] at hrest
    exact hrest

lemma crc16_eq {text : List Char} (h : ∀ c ∈ text, c.toNat < 128) :
    crc16CcittFalse (text.map Char.toNat) =
      (Crc.checksum polynomial 0xFFFF#16 (bytes text)).toNat := by
  rw [toNat_checksum h]
  rfl

lemma checksum_of_crcHex {text other : List Char} (htext : ∀ c ∈ text, c.toNat < 128)
    (hother : ∀ c ∈ other, c.toNat < 128) (h : crcHex text = crcHex other) :
    Crc.checksum polynomial 0xFFFF#16 (bytes text) =
      Crc.checksum polynomial 0xFFFF#16 (bytes other) := by
  apply BitVec.eq_of_toNat_eq
  rw [crcHex, crcHex, crc16_eq htext, crc16_eq hother] at h
  have hdigits (register : BitVec (8 + 8)) :
      numeral 16 ((padded 16 4 register.toNat).map Char.toUpper) 0 = some register.toNat :=
    numeral_toUpper_padded (by decide) (by decide) register.isLt
  have hread := congrArg (fun digits => numeral 16 digits 0) h
  simp only [hdigits] at hread
  exact Option.some.inj hread

lemma bytes_injective {text other : List Char} (htext : ∀ c ∈ text, c.toNat < 128)
    (hother : ∀ c ∈ other, c.toNat < 128) (h : bytes text = bytes other) : text = other := by
  induction text generalizing other with
  | nil => exact (List.map_eq_nil_iff.mp h.symm).symm
  | cons c text ih =>
    obtain _ | ⟨d, other⟩ := other
    · cases h
    obtain ⟨hbyte, hrest⟩ := List.cons.inj h
    have hc := htext c List.mem_cons_self
    have hd := hother d List.mem_cons_self
    have hvalue : c.toNat = d.toNat := by
      have hnat := congrArg BitVec.toNat hbyte
      rw [BitVec.toNat_ofNat, BitVec.toNat_ofNat] at hnat
      omega
    rw [Char.toNat_inj.mp hvalue, ih (fun e he => htext e (List.mem_cons_of_mem _ he))
      (fun e he => hother e (List.mem_cons_of_mem _ he)) hrest]

lemma accepted_shape {text : List Char} {parsed : ParsedVietQr}
    (h : parsePayload text = .ok parsed) :
    (∀ c ∈ text, c.toNat < 128) ∧ ∃ body, text = withCrc body := by
  obtain ⟨_, hascii, h⟩ := bind_ok.mp h
  obtain ⟨_, hmarker, h⟩ := bind_ok.mp h
  obtain ⟨_, hcrc, h⟩ := bind_ok.mp h
  have hlength := (require_ok.mp hascii).2
  have hsize : text.length - 8 + 4 = text.length - 4 := by omega
  have hmarker := require_ok.mp hmarker
  have hcrc := require_ok.mp hcrc
  refine ⟨ascii_chars (require_ok.mp hascii).1, text.take (text.length - 8), ?_⟩
  have hsplit : text.take (text.length - 4) = text.take (text.length - 8) ++ crcMarker := by
    rw [← hmarker, ← List.take_add, hsize]
  rw [withCrc, ← hsplit, hcrc, List.take_append_drop]

lemma unsigned_of_same {body body' : List Char} (hlength : body'.length = body.length) {j : Nat}
    (h : (withCrc body')[j]? = (withCrc body)[j]?) :
    (body' ++ crcMarker)[j]? = (body ++ crcMarker)[j]? := by
  have hmarked : (body' ++ crcMarker).length = (body ++ crcMarker).length := by
    rw [List.length_append, List.length_append, hlength]
  by_cases hj : j < (body ++ crcMarker).length
  · rwa [withCrc, withCrc, List.getElem?_append_left hj,
      List.getElem?_append_left (hmarked ▸ hj)] at h
  · rw [List.getElem?_eq_none (by omega), List.getElem?_eq_none (by omega)]

/-- A text that is read, changed in one or two adjacent characters and not in its
length, is refused. -/
theorem damaged_text_refused {text changed : List Char} {parsed : ParsedVietQr} {i : Nat}
    (haccepted : parsePayload text = .ok parsed) (hlength : changed.length = text.length)
    (hchanged : changed ≠ text)
    (hwithin : ∀ j, j ≠ i → j ≠ i + 1 → changed[j]? = text[j]?) :
    ∃ e, parsePayload changed = .error e := by
  cases hparsed : parsePayload changed with
  | error e => exact ⟨e, rfl⟩
  | ok parsed' =>
    exfalso
    obtain ⟨hascii, body, rfl⟩ := accepted_shape haccepted
    obtain ⟨hascii', body', rfl⟩ := accepted_shape hparsed
    have hbody : body'.length = body.length := by
      simpa [withCrc, length_crcHex] using hlength
    have hmarked : (body' ++ crcMarker).length = (body ++ crcMarker).length := by
      rw [List.length_append, List.length_append, hbody]
    -- the damage begins in the body: nothing else can tell the two texts apart
    have hearly : i < body.length := by
      by_contra hlate
      apply hchanged
      have hsame : body' = body := by
        apply List.ext_getElem?
        intro j
        by_cases hj : j < body.length
        · have hpart := unsigned_of_same hbody (hwithin j (by omega) (by omega))
          rwa [List.getElem?_append_left hj, List.getElem?_append_left (hbody ▸ hj)] at hpart
        · rw [List.getElem?_eq_none (by omega), List.getElem?_eq_none (by omega)]
      rw [hsame]
    have hcrc : crcHex (body' ++ crcMarker) = crcHex (body ++ crcMarker) := by
      apply List.ext_getElem?
      intro j
      have hmarker : crcMarker.length = 4 := rfl
      have hpart := hwithin ((body ++ crcMarker).length + j)
        (by rw [List.length_append]; omega) (by rw [List.length_append]; omega)
      rw [withCrc, withCrc, List.getElem?_append_right (by omega),
        List.getElem?_append_right (by omega), hmarked, Nat.add_sub_cancel_left] at hpart
      exact hpart
    have hsafe : ∀ c ∈ body ++ crcMarker, c.toNat < 128 := fun c hc =>
      hascii c (List.mem_append_left _ hc)
    have hsafe' : ∀ c ∈ body' ++ crcMarker, c.toNat < 128 := fun c hc =>
      hascii' c (List.mem_append_left _ hc)
    have hregister := checksum_of_crcHex hsafe' hsafe hcrc
    have hbytes : bytes (body' ++ crcMarker) = bytes (body ++ crcMarker) := by
      refine Crc.checksum_separates (by decide) (le_refl 8) _ i ?_ ?_ hregister
      · rw [bytes, bytes, List.length_map, List.length_map, hmarked]
      · intro j hj hj'
        rw [bytes, bytes, List.getElem?_map, List.getElem?_map,
          unsigned_of_same hbody (hwithin j hj hj')]
    apply hchanged
    rw [List.append_cancel_right (bytes_injective hsafe' hsafe hbytes)]

/-- The account's code, two digits of its number changed places. -/
theorem damaged_text_refused_account :
    let text := "00020101021138540010A00000072701240006970436011010175956000208QRIBFTTA53037045802VN630438BB".toList
    let changed := "00020101021138540010A00000072701240006970436011010179556000208QRIBFTTA53037045802VN630438BB".toList
    (∃ parsed, parsePayload text = .ok parsed) ∧ ∃ e, parsePayload changed = .error e := by
  intro text changed
  have hbuilt : napasPayload "970436".toList "1017595600".toList none none = .ok text := by
    decide +kernel
  have haccepted := parsePayload_napasPayload hbuilt
  have hlength : text.length = 91 := by decide +kernel
  have hlength' : changed.length = 91 := by decide +kernel
  have hwithin : ∀ j, j ≠ 52 → j ≠ 52 + 1 → changed[j]? = text[j]? := by
    intro j hj hj'
    have hpart : ∀ k < 91, k ≠ 52 → k ≠ 53 → changed[k]? = text[k]? := by decide +kernel
    by_cases hshort : j < 91
    · exact hpart j hshort hj hj'
    · rw [List.getElem?_eq_none (by omega), List.getElem?_eq_none (by omega)]
  exact ⟨⟨_, haccepted⟩,
    damaged_text_refused haccepted (hlength'.trans hlength.symm) (by decide +kernel) hwithin⟩

end NhaTrangLaundry.Domain.VietQr
