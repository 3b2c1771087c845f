import NhaTrangLaundry.Domain.VietQr
import NhaTrangLaundry.Lib.Date
import NhaTrangLaundry.Lib.Uuid

/-! The transfer codes of orders and account months, and how they are read as a customer types
them. -/

namespace NhaTrangLaundry.Domain.VietQr

open Lib Text Gregorian

def transferCodePrefix : List Char := ['N', 'T', 'L']

def accountMonthPrefix : List Char := ['N', 'T', 'L', 'C', 'N']

def ticketFormMax : Int := 999

def orderIdCode (orderId : Uuid) : List Char :=
  transferCodePrefix ++ (orderId.hex.take 8).map Char.toUpper

def orderTransferCode (orderId : Uuid) (ticketNumber : Option Int) (ticketIssuedOn : Option Date) :
    List Char :=
  match ticketNumber, ticketIssuedOn with
  | some ticket, some issued =>
    if 1 ≤ ticket ∧ ticket ≤ ticketFormMax then
      transferCodePrefix ++ padded 10 2 (day issued.ordinal) ++ padded 10 2 (month issued.ordinal) ++
        padded 10 3 ticket.toNat
    else orderIdCode orderId
  | _, _ => orderIdCode orderId

def accountMonthTransferCode (accountId : Uuid) (statement : Date) : List Char :=
  accountMonthPrefix ++ (accountId.hex.take 6).map Char.toUpper ++
    padded 10 2 (month statement.ordinal) ++ padded 10 2 (year statement.ordinal % 100)

inductive TransferCode where
  | ticket (day month ticketNumber : Nat)
  | orderId (digits : List Char)
  | accountMonth (accountDigits : List Char) (month yearTwoDigits : Nat)
deriving DecidableEq

/-- `"".join(text.split()).upper()`; `upper` is about a character outside ASCII. -/
def normaliseTransferCode (upper : Char → List Char) (text : List Char) : List Char :=
  (text.filter fun c => !isSpace c).flatMap fun c => if c.toNat < 128 then [c.toUpper] else upper c

def isUpperHex (c : Char) : Bool := c.isDigit || ('A' ≤ c && c ≤ 'F')

/-- `^NTL(?P<dd>[0-9]{2})(?P<mm>[0-9]{2})(?P<ticket>[0-9]{3})$`. -/
def ticketForm (code : List Char) : Option (List Char × List Char × List Char) :=
  if code.take 3 = transferCodePrefix ∧ code.length = 10 ∧ (code.drop 3).all Char.isDigit then
    some ((code.drop 3).take 2, (code.drop 5).take 2, code.drop 7)
  else none

/-- `^NTL(?P<prefix>[0-9A-F]{8})$`. -/
def idForm (code : List Char) : Option (List Char) :=
  if code.take 3 = transferCodePrefix ∧ code.length = 11 ∧ (code.drop 3).all isUpperHex then
    some (code.drop 3)
  else none

/-- `^NTLCN(?P<prefix>[0-9A-F]{6})(?P<mm>[0-9]{2})(?P<yy>[0-9]{2})$`. -/
def accountMonthForm (code : List Char) : Option (List Char × List Char × List Char) :=
  if code.take 5 = accountMonthPrefix ∧ code.length = 15 ∧ ((code.drop 5).take 6).all isUpperHex ∧
      (code.drop 11).all Char.isDigit then
    some ((code.drop 5).take 6, (code.drop 11).take 2, code.drop 13)
  else none

/-- `_days_in_month`: February has 29. -/
def daysInAnyMonth (month : Nat) : Nat :=
  if month = 2 then 29 else if month ∈ [4, 6, 9, 11] then 30 else 31

def parseTransferCode (upper : Char → List Char) (text : List Char) : Option TransferCode :=
  match ticketForm (normaliseTransferCode upper text) with
  | some (dd, mm, ticket) =>
    if ¬ (1 ≤ intOf mm ∧ intOf mm ≤ 12) ∨
        ¬ (1 ≤ intOf dd ∧ intOf dd ≤ daysInAnyMonth (intOf mm)) ∨ intOf ticket < 1 then none
    else some (.ticket (intOf dd) (intOf mm) (intOf ticket))
  | none =>
    match idForm (normaliseTransferCode upper text) with
    | some digits => some (.orderId (digits.map Char.toLower))
    | none =>
      match accountMonthForm (normaliseTransferCode upper text) with
      | some (digits, mm, yy) =>
        if 1 ≤ intOf mm ∧ intOf mm ≤ 12 then
          some (.accountMonth (digits.map Char.toLower) (intOf mm) (intOf yy))
        else none
      | none => none

/-- The code as someone may write it: spaces anywhere, letters in either case. -/
inductive Written : List Char → List Char → Prop
  | nil : Written [] []
  | space {code text : List Char} {c : Char} (hc : isSpace c = true) (h : Written code text) :
    Written code (c :: text)
  | char {code text : List Char} {c c' : Char} (hc : c' = c ∨ c' = c.toLower)
    (h : Written code text) : Written (c :: code) (c' :: text)

def codeChars : List Char := "NTLC0123456789ABCDEF".toList

/-- Read back as `c`, and not a space. -/
def plain (c c' : Char) : Bool := !isSpace c' && decide (c'.toNat < 128) && c'.toUpper == c

lemma codeChars_plain {c c' : Char} (hc : c ∈ codeChars) (hc' : c' = c ∨ c' = c.toLower) :
    isSpace c' = false ∧ c'.toNat < 128 ∧ c'.toUpper = c := by
  have hall : (codeChars.all fun c => plain c c && plain c c.toLower) = true := by decide
  have hboth := List.all_eq_true.mp hall c hc
  rw [Bool.and_eq_true] at hboth
  have hplain : plain c c' = true := by
    rcases hc' with rfl | rfl
    · exact hboth.1
    · exact hboth.2
  simpa [plain, and_assoc] using hplain

lemma coded_of_all {cs : List Char} (h : cs.all codeChars.contains = true) :
    ∀ c ∈ cs, c ∈ codeChars := fun c hc => List.contains_iff_mem.mp (List.all_eq_true.mp h c hc)

lemma hexDigit_facts {d : Nat} (h : d < 16) : (Nat.digitChar d).toUpper ∈ codeChars ∧
    isUpperHex (Nat.digitChar d).toUpper = true ∧
      (Nat.digitChar d).toUpper.toLower = Nat.digitChar d := by
  interval_cases d <;> decide

lemma digit_facts {d : Nat} (h : d < 10) : Nat.digitChar d ∈ codeChars ∧
    (Nat.digitChar d).isDigit = true := by
  interval_cases d <;> decide

lemma normalise_written {upper : Char → List Char} {code text : List Char} (h : Written code text)
    (hcode : ∀ c ∈ code, c ∈ codeChars) : normaliseTransferCode upper text = code := by
  rw [normaliseTransferCode]
  induction h with
  | nil => rfl
  | space hc h ih =>
    rw [List.filter_cons_of_neg (by simp [hc])]
    exact ih hcode
  | @char code text c c' hc h ih =>
    obtain ⟨hspace, hascii, hupper⟩ := codeChars_plain (hcode c List.mem_cons_self) hc
    rw [List.filter_cons_of_pos (by simp [hspace]), List.flatMap_cons, if_pos hascii, hupper,
      ih fun d hd => hcode d (List.mem_cons_of_mem _ hd)]
    rfl

lemma intOf_digits {w n : Nat} (h : n < 10 ^ w) : intOf (padded 10 w n) = n := by
  induction w generalizing n with
  | zero =>
    obtain rfl : n = 0 := by simpa using h
    rfl
  | succ w ih =>
    have hdigit : n % 10 < 10 := Nat.mod_lt _ (by decide)
    have hrest : n / 10 < 10 ^ w := by
      rw [Nat.div_lt_iff_lt_mul (by decide), ← Nat.pow_succ]
      exact h
    have hread := ih hrest
    rw [intOf] at hread
    rw [padded, intOf, Nat.ofDigitChars_append, hread,
      Nat.ofDigitChars_cons_digitChar_of_lt_ten hdigit, Nat.ofDigitChars_nil]
    omega

lemma digits_padded (w n : Nat) : ∀ c ∈ padded 10 w n, c ∈ codeChars ∧ c.isDigit = true := by
  intro c hc
  obtain ⟨d, hd, rfl⟩ := mem_padded (by decide) hc
  exact digit_facts hd

lemma upperHex_take (u : Uuid) (k : Nat) : ∀ c ∈ (u.hex.take k).map Char.toUpper,
    c ∈ codeChars ∧ isUpperHex c = true := by
  intro c hc
  obtain ⟨e, he, rfl⟩ := List.mem_map.mp hc
  obtain ⟨d, hd, rfl⟩ := Uuid.mem_hex (List.mem_of_mem_take he)
  exact ⟨(hexDigit_facts hd).1, (hexDigit_facts hd).2.1⟩

lemma lower_take (u : Uuid) (k : Nat) :
    ((u.hex.take k).map Char.toUpper).map Char.toLower = u.hex.take k := by
  rw [List.map_map]
  calc (u.hex.take k).map (Char.toLower ∘ Char.toUpper) = (u.hex.take k).map id := by
        refine List.map_congr_left fun c hc => ?_
        obtain ⟨d, hd, rfl⟩ := Uuid.mem_hex (List.mem_of_mem_take hc)
        exact (hexDigit_facts hd).2.2
    _ = u.hex.take k := List.map_id _

lemma ticketForm_code {dd mm ticket : List Char} (hdd : dd.length = 2) (hmm : mm.length = 2)
    (hticket : ticket.length = 3) (hdigits : ∀ c ∈ dd ++ mm ++ ticket, c.isDigit = true) :
    ticketForm (transferCodePrefix ++ dd ++ mm ++ ticket) = some (dd, mm, ticket) := by
  obtain ⟨a, b, rfl⟩ := List.length_eq_two.mp hdd
  obtain ⟨c, d, rfl⟩ := List.length_eq_two.mp hmm
  obtain ⟨e, f, g, rfl⟩ := List.length_eq_three.mp hticket
  exact if_pos ⟨rfl, rfl, List.all_eq_true.mpr hdigits⟩

lemma idForm_code {digits : List Char} (hlength : digits.length = 8)
    (hhex : ∀ c ∈ digits, isUpperHex c = true) :
    idForm (transferCodePrefix ++ digits) = some digits := by
  have htotal : (transferCodePrefix ++ digits).length = 11 := by
    rw [List.length_append, hlength]
    rfl
  exact if_pos ⟨rfl, htotal, List.all_eq_true.mpr hhex⟩

lemma accountMonthForm_code {digits mm yy : List Char} (hlength : digits.length = 6)
    (hmm : mm.length = 2) (hyy : yy.length = 2) (hhex : ∀ c ∈ digits, isUpperHex c = true)
    (hdigits : ∀ c ∈ mm ++ yy, c.isDigit = true) :
    accountMonthForm (accountMonthPrefix ++ digits ++ mm ++ yy) = some (digits, mm, yy) := by
  obtain ⟨a, b, rfl⟩ := List.length_eq_two.mp hmm
  obtain ⟨c, d, rfl⟩ := List.length_eq_two.mp hyy
  match digits, hlength with
  | [e, f, g, h, i, j], _ =>
    exact if_pos ⟨rfl, rfl, List.all_eq_true.mpr hhex, List.all_eq_true.mpr hdigits⟩

lemma length_of_ticketForm {code : List Char} (h : (ticketForm code).isSome) : code.length = 10 := by
  rw [ticketForm] at h
  split at h
  · next hform => exact hform.2.1
  · cases h

lemma length_of_idForm {code : List Char} (h : (idForm code).isSome) : code.length = 11 := by
  rw [idForm] at h
  split at h
  · next hform => exact hform.2.1
  · cases h

lemma length_of_accountMonthForm {code : List Char} (h : (accountMonthForm code).isSome) :
    code.length = 15 := by
  rw [accountMonthForm] at h
  split at h
  · next hform => exact hform.2.1
  · cases h

variable {upper : Char → List Char} {text : List Char}

lemma daysInMonth_le_any (y m : Nat) : daysInMonth y m ≤ daysInAnyMonth m := by
  rw [daysInMonth, daysInAnyMonth]
  split_ifs <;> simp_all

lemma parse_ticket {ticket : Int} {issued : Date} (hpos : 1 ≤ ticket) (hmax : ticket ≤ ticketFormMax)
    (h : Written (transferCodePrefix ++ padded 10 2 (day issued.ordinal) ++
      padded 10 2 (month issued.ordinal) ++ padded 10 3 ticket.toNat) text) :
    parseTransferCode upper text =
      some (.ticket (day issued.ordinal) (month issued.ordinal) ticket.toNat) := by
  have hdigits : ∀ c ∈ padded 10 2 (day issued.ordinal) ++ padded 10 2 (month issued.ordinal) ++
      padded 10 3 ticket.toNat, c ∈ codeChars ∧ c.isDigit = true := by
    intro c hc
    rw [List.mem_append, List.mem_append] at hc
    rcases hc with (hc | hc) | hc <;> exact digits_padded _ _ c hc
  have hchars : ∀ c ∈ transferCodePrefix ++ padded 10 2 (day issued.ordinal) ++
      padded 10 2 (month issued.ordinal) ++ padded 10 3 ticket.toNat, c ∈ codeChars := by
    intro c hc
    rw [List.append_assoc, List.append_assoc, List.mem_append, ← List.append_assoc] at hc
    rcases hc with hc | hc
    · exact coded_of_all (show transferCodePrefix.all codeChars.contains = true by decide) c hc
    · exact (hdigits c hc).1
  have hticket : ticket.toNat < 10 ^ 3 := by
    rw [ticketFormMax] at hmax
    omega
  obtain ⟨hmonth, hmonth'⟩ := month_bounds issued.ordinal
  obtain ⟨hday, hday'⟩ := day_bounds issued.ordinal_lt
  have hany := daysInMonth_le_any (year issued.ordinal) (month issued.ordinal)
  rw [parseTransferCode, normalise_written h hchars,
    ticketForm_code (length_padded _ _ _) (length_padded _ _ _) (length_padded _ _ _)
      fun c hc => (hdigits c hc).2]
  dsimp only
  rw [intOf_digits (Date.day_lt issued.ordinal_lt), intOf_digits (Date.month_lt _),
    intOf_digits hticket, if_neg]
  rintro (hbad | hbad | hbad)
  · exact hbad ⟨hmonth, hmonth'⟩
  · exact hbad ⟨hday, hday'.trans hany⟩
  · omega

lemma parse_orderId {orderId : Uuid} (h : Written (orderIdCode orderId) text) :
    parseTransferCode upper text = some (.orderId (orderId.hex.take 8)) := by
  have hlength : ((orderId.hex.take 8).map Char.toUpper).length = 8 := by
    rw [List.length_map, List.length_take, Uuid.length_hex]
    rfl
  have hhex := upperHex_take orderId 8
  have hchars : ∀ c ∈ orderIdCode orderId, c ∈ codeChars := by
    intro c hc
    rcases List.mem_append.mp hc with hc | hc
    · exact coded_of_all (show transferCodePrefix.all codeChars.contains = true by decide) c hc
    · exact (hhex c hc).1
  have hform : idForm (orderIdCode orderId) = some ((orderId.hex.take 8).map Char.toUpper) :=
    idForm_code hlength fun c hc => (hhex c hc).2
  have hother : ticketForm (orderIdCode orderId) = none := by
    rw [← Option.not_isSome_iff_eq_none]
    intro hticket
    have := length_of_ticketForm hticket
    rw [length_of_idForm (by rw [hform]; rfl)] at this
    omega
  rw [parseTransferCode, normalise_written h hchars, hother]
  dsimp only
  rw [hform]
  dsimp only
  rw [lower_take]

lemma parse_accountMonth {accountId : Uuid} {statement : Date}
    (h : Written (accountMonthTransferCode accountId statement) text) :
    parseTransferCode upper text = some (.accountMonth (accountId.hex.take 6)
      (month statement.ordinal) (year statement.ordinal % 100)) := by
  have hlength : ((accountId.hex.take 6).map Char.toUpper).length = 6 := by
    rw [List.length_map, List.length_take, Uuid.length_hex]
    rfl
  have hhex := upperHex_take accountId 6
  have hdigits : ∀ c ∈ padded 10 2 (month statement.ordinal) ++
      padded 10 2 (year statement.ordinal % 100), c ∈ codeChars ∧ c.isDigit = true := by
    intro c hc
    rcases List.mem_append.mp hc with hc | hc <;> exact digits_padded _ _ c hc
  have hchars : ∀ c ∈ accountMonthTransferCode accountId statement, c ∈ codeChars := by
    intro c hc
    rw [accountMonthTransferCode, List.append_assoc, List.mem_append, List.mem_append] at hc
    rcases hc with (hc | hc) | hc
    · exact coded_of_all (show accountMonthPrefix.all codeChars.contains = true by decide) c hc
    · exact (hhex c hc).1
    · exact (hdigits c hc).1
  have hform := accountMonthForm_code hlength (length_padded 10 2 (month statement.ordinal))
    (length_padded 10 2 (year statement.ordinal % 100)) (fun c hc => (hhex c hc).2)
    fun c hc => (hdigits c hc).2
  rw [← accountMonthTransferCode] at hform
  have htotal := length_of_accountMonthForm (by rw [hform]; rfl)
  have hticket : ticketForm (accountMonthTransferCode accountId statement) = none := by
    rw [← Option.not_isSome_iff_eq_none]
    intro hticket
    have := length_of_ticketForm hticket
    omega
  have hid : idForm (accountMonthTransferCode accountId statement) = none := by
    rw [← Option.not_isSome_iff_eq_none]
    intro hid
    have := length_of_idForm hid
    omega
  rw [parseTransferCode, normalise_written h hchars, hticket]
  dsimp only
  rw [hid]
  dsimp only
  rw [hform]
  dsimp only
  rw [intOf_digits (Date.month_lt _), intOf_digits (show year statement.ordinal % 100 < 10 ^ 2 from Nat.mod_lt _ (by decide)),
    if_pos (month_bounds _), lower_take]

/-- Every code is read back as what it was made from, however it is written, and no text has two
of the forms. -/
theorem transferCode_unambiguous (upper : Char → List Char) :
    (∀ orderId ticketNumber ticketIssuedOn text,
      Written (orderTransferCode orderId ticketNumber ticketIssuedOn) text →
        (∀ ticket issued, ticketNumber = some ticket → ticketIssuedOn = some issued → 1 ≤ ticket →
          ticket ≤ 999 → parseTransferCode upper text =
            some (.ticket (day issued.ordinal) (month issued.ordinal) ticket.toNat)) ∧
        ((ticketIssuedOn = none ∨ ∀ ticket, ticketNumber = some ticket → ¬ (1 ≤ ticket ∧ ticket ≤ 999)) →
          parseTransferCode upper text = some (.orderId (orderId.hex.take 8)))) ∧
    (∀ accountId statement text, Written (accountMonthTransferCode accountId statement) text →
      parseTransferCode upper text = some (.accountMonth (accountId.hex.take 6)
        (month statement.ordinal) (year statement.ordinal % 100))) ∧
    ∀ code, ((ticketForm code).isSome → idForm code = none ∧ accountMonthForm code = none) ∧
      ((idForm code).isSome → accountMonthForm code = none) := by
  refine ⟨fun orderId ticketNumber ticketIssuedOn text h => ⟨?_, ?_⟩,
    fun _ _ _ => parse_accountMonth, fun code => ⟨fun hticket => ?_, fun hid => ?_⟩⟩
  · rintro ticket issued rfl rfl hpos hmax
    rw [orderTransferCode, if_pos ⟨hpos, hmax⟩] at h
    exact parse_ticket hpos hmax h
  · intro hnone
    refine parse_orderId ?_
    rcases hnone with rfl | hnone
    · cases ticketNumber <;> exact h
    · cases ticketNumber with
      | none => exact h
      | some ticket =>
        cases ticketIssuedOn with
        | none => exact h
        | some issued =>
          rw [orderTransferCode, ticketFormMax, if_neg (hnone ticket rfl)] at h
          exact h
  · have hlength := length_of_ticketForm hticket
    constructor <;> rw [← Option.not_isSome_iff_eq_none] <;> intro hother
    · have := length_of_idForm hother
      omega
    · have := length_of_accountMonthForm hother
      omega
  · have hlength := length_of_idForm hid
    rw [← Option.not_isSome_iff_eq_none]
    intro hother
    have := length_of_accountMonthForm hother
    omega

def leapDay : Date := ⟨740405, by decide⟩

/-- Ticket 12 of 29 February 2028, typed in small letters with a space. -/
theorem transferCode_leap_day :
    parseTransferCode (fun _ => []) ['n', 't', 'l', ' ', '2', '9', '0', '2', '0', '1', '2'] =
      some (.ticket 29 2 12) := by
  have hcode : orderTransferCode ⟨0⟩ (some 12) (some leapDay) =
      ['N', 'T', 'L', '2', '9', '0', '2', '0', '1', '2'] := by decide +kernel
  have hwritten : Written (orderTransferCode ⟨0⟩ (some 12) (some leapDay))
      ['n', 't', 'l', ' ', '2', '9', '0', '2', '0', '1', '2'] := by
    rw [hcode]
    refine .char (.inr rfl) (.char (.inr rfl) (.char (.inr rfl) (.space rfl ?_)))
    exact .char (.inl rfl) (.char (.inl rfl) (.char (.inl rfl) (.char (.inl rfl)
      (.char (.inl rfl) (.char (.inl rfl) (.char (.inl rfl) .nil))))))
  have hday : day leapDay.ordinal = 29 ∧ month leapDay.ordinal = 2 := by decide +kernel
  have hread := ((transferCode_unambiguous fun _ => []).1 ⟨0⟩ (some 12) (some leapDay) _ hwritten).1
    12 leapDay rfl rfl (by decide) (by decide)
  rw [hday.1, hday.2] at hread
  exact hread

end NhaTrangLaundry.Domain.VietQr
