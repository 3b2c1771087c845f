import NhaTrangLaundry.Domain.Settlement
import NhaTrangLaundry.Lib.JsonLoads
import NhaTrangLaundry.Lib.Outcome
import NhaTrangLaundry.Lib.Text
import Mathlib.Logic.Function.Iterate

/-! The VietQR payload: what it is built from, and how it is read back. A text is
the list of its characters; the parser's position is the text that is still ahead. -/

namespace NhaTrangLaundry.Domain.VietQr

open Lib Outcome Text Settlement

structure VietQrError where
  message : String
deriving DecidableEq

def napasGuid : List Char := "A000000727".toList
def serviceToAccount : List Char := "QRIBFTTA".toList
def currencyVnd : List Char := "704".toList
def countryVn : List Char := "VN".toList
def pointOfInitiationStatic : List Char := "11".toList
def pointOfInitiationDynamic : List Char := "12".toList

def bankBinPattern (text : List Char) : Bool := text.length == 6 && text.all Char.isDigit

def accountNumberPattern (text : List Char) : Bool :=
  6 ≤ text.length && text.length ≤ 19 && text.all Char.isAlphanum

def transferCodePattern (text : List Char) : Bool :=
  1 ≤ text.length && text.length ≤ 25 && text.all fun c => c.isUpper || c.isDigit

def crcBit (crc : Nat) : Nat :=
  (if crc &&& 0x8000 ≠ 0 then (crc <<< 1) ^^^ 0x1021 else crc <<< 1) &&& 0xFFFF

def crcByte (crc byte : Nat) : Nat := crcBit^[8] (crc ^^^ (byte <<< 8))

def crc16CcittFalse (data : List Nat) : Nat := data.foldl crcByte 0xFFFF

example : crc16CcittFalse ("123456789".toList.map Char.toNat) = 0x29B1 := by decide +kernel

def crcHex (text : List Char) : List Char :=
  (padded 16 4 (crc16CcittFalse (text.map Char.toNat))).map Char.toUpper

def field (tag value : List Char) : Except VietQrError (List Char) := do
  require (value.length ≤ 99)
    ⟨"field " ++ String.ofList tag ++ " is longer than 99 characters"⟩
  .ok (tag ++ padded 10 2 value.length ++ value)

def requireAccount (bankBin accountNumber : List Char) : Except VietQrError Unit := do
  require (bankBinPattern bankBin) ⟨"a bank BIN is six digits"⟩
  require (accountNumberPattern accountNumber) ⟨"an account number is 6 to 19 letters or digits"⟩

def requireAmount (amountVnd : Int) : Except VietQrError Int := do
  require (1 ≤ amountVnd ∧ amountVnd ≤ maxSettlementVnd)
    ⟨"the amount is a whole number of đồng above zero"⟩
  .ok amountVnd

def accountTemplate (bankBin accountNumber : List Char) : Except VietQrError (List Char) := do
  let bin ← field ['0', '0'] bankBin
  let account ← field ['0', '1'] accountNumber
  let guid ← field ['0', '0'] napasGuid
  let beneficiary ← field ['0', '1'] (bin ++ account)
  let service ← field ['0', '2'] serviceToAccount
  .ok (guid ++ beneficiary ++ service)

def crcMarker : List Char := "6304".toList

def withCrc (body : List Char) : List Char :=
  body ++ crcMarker ++ crcHex (body ++ crcMarker)

def printable (c : Char) : Bool := 0x20 ≤ c.toNat && c.toNat ≤ 0x7E

def staticPayload (bankBin accountNumber : List Char) : Except VietQrError (List Char) := do
  let format ← field ['0', '0'] ['0', '1']
  let initiation ← field ['0', '1'] pointOfInitiationStatic
  let template ← accountTemplate bankBin accountNumber
  let account ← field ['3', '8'] template
  let currency ← field ['5', '3'] currencyVnd
  let country ← field ['5', '8'] countryVn
  .ok (withCrc (format ++ initiation ++ account ++ currency ++ country))

def dynamicPayload (bankBin accountNumber : List Char) (amountVnd : Int) (purpose : List Char) :
    Except VietQrError (List Char) := do
  let format ← field ['0', '0'] ['0', '1']
  let amount ← requireAmount amountVnd
  require (1 ≤ purpose.length ∧ purpose.length ≤ 25 ∧ purpose.all printable)
    ⟨"a memo is 1 to 25 printable ASCII characters"⟩
  let initiation ← field ['0', '1'] pointOfInitiationDynamic
  let template ← accountTemplate bankBin accountNumber
  let account ← field ['3', '8'] template
  let currency ← field ['5', '3'] currencyVnd
  let amountField ← field ['5', '4'] (Nat.toDigits 10 amount.toNat)
  let country ← field ['5', '8'] countryVn
  let memo ← field ['0', '8'] purpose
  let additional ← field ['6', '2'] memo
  .ok (withCrc (format ++ initiation ++ account ++ currency ++ amountField ++ country ++ additional))

def napasPayload (bankBin accountNumber : List Char) (amountVnd : Option Int)
    (purpose : Option (List Char)) : Except VietQrError (List Char) := do
  requireAccount bankBin accountNumber
  match amountVnd, purpose with
  | none, none => staticPayload bankBin accountNumber
  | some amount, some memo => dynamicPayload bankBin accountNumber amount memo
  | _, _ => .error ⟨"an amount and a memo come together, or neither does"⟩

def vietqrPayload (bankBin accountNumber : List Char) (amountVnd : Int) (transferCode : List Char) :
    Except VietQrError (List Char) := do
  require (transferCodePattern transferCode)
    ⟨"a transfer code is 1 to 25 upper-case letters or digits"⟩
  let amount ← requireAmount amountVnd
  napasPayload bankBin accountNumber (some amount) (some transferCode)

def staticVietqrPayload (bankBin accountNumber : List Char) : Except VietQrError (List Char) :=
  napasPayload bankBin accountNumber none none

structure ParsedVietQr where
  dynamic : Bool
  bankBin : List Char
  accountNumber : List Char
  amountVnd : Option Int
  purpose : Option (List Char)
  crc : List Char
deriving DecidableEq

abbrev Fields := List (List Char × List Char)

/-- `str.isdigit` of ASCII text. -/
def isDigits (text : List Char) : Bool := !text.isEmpty && text.all Char.isDigit

def intOf (digits : List Char) : Nat := Nat.ofDigitChars 10 digits 0

def fieldsFrom (ahead : List Char) (found : Fields) : Except VietQrError Fields :=
  if ahead = [] then .ok found
  else if ahead.length < 4 then .error ⟨"a field is cut short"⟩
  else if !isDigits (ahead.take 2) || !isDigits ((ahead.drop 2).take 2) then
    .error ⟨"a field id and length are digits"⟩
  else if ahead.length < 4 + intOf ((ahead.drop 2).take 2) then
    .error ⟨"field " ++ String.ofList (ahead.take 2) ++ " runs past the end"⟩
  else if (found.lookup (ahead.take 2)).isSome then
    .error ⟨"field " ++ String.ofList (ahead.take 2) ++ " appears twice"⟩
  else
    fieldsFrom ((ahead.drop 4).drop (intOf ((ahead.drop 2).take 2)))
      (found ++ [(ahead.take 2, (ahead.drop 4).take (intOf ((ahead.drop 2).take 2)))])
termination_by ahead.length
decreasing_by simp only [List.length_drop]; omega

def fields (text : List Char) : Except VietQrError Fields := fieldsFrom text []

def readAmount (found : Fields) : Except VietQrError (Option Int) :=
  match found.lookup ['5', '4'] with
  | some amountText => do
    require (isDigits amountText ∧ amountText.head? ≠ some '0') ⟨"the amount is digits only"⟩
    some <$> requireAmount (intOf amountText)
  | none => .ok none

def readPurpose (found : Fields) : Except VietQrError (Option (List Char)) :=
  match found.lookup ['6', '2'] with
  | some additional => (fun memo => memo.lookup ['0', '8']) <$> fields additional
  | none => .ok none

/-- What `parse_payload` makes of the fields of a text whose checksum holds. -/
def readFields (found : Fields) (crc : List Char) : Except VietQrError ParsedVietQr := do
  require (found.lookup ['0', '0'] = some ['0', '1']) ⟨"payload format indicator must be 01"⟩
  require (found.lookup ['0', '1'] = some pointOfInitiationStatic ∨
      found.lookup ['0', '1'] = some pointOfInitiationDynamic)
    ⟨"point of initiation must be 11 or 12"⟩
  let template ← fields ((found.lookup ['3', '8']).getD [])
  require (template.lookup ['0', '0'] = some napasGuid ∧
      template.lookup ['0', '2'] = some serviceToAccount)
    ⟨"not a NAPAS transfer to an account"⟩
  let beneficiary ← fields ((template.lookup ['0', '1']).getD [])
  requireAccount ((beneficiary.lookup ['0', '0']).getD []) ((beneficiary.lookup ['0', '1']).getD [])
  require (found.lookup ['5', '3'] = some currencyVnd ∧ found.lookup ['5', '8'] = some countryVn)
    ⟨"currency must be 704 and country VN"⟩
  let amount ← readAmount found
  let purpose ← readPurpose found
  require ((found.lookup ['0', '1'] = some pointOfInitiationDynamic) ↔ amount.isSome)
    ⟨"a dynamic QR carries an amount and a static one does not"⟩
  .ok {
    dynamic := found.lookup ['0', '1'] = some pointOfInitiationDynamic
    bankBin := (beneficiary.lookup ['0', '0']).getD []
    accountNumber := (beneficiary.lookup ['0', '1']).getD []
    amountVnd := amount
    purpose := purpose
    crc := crc }

def parsePayload (text : List Char) : Except VietQrError ParsedVietQr := do
  require (text.all (fun c => c.toNat < 128) = true ∧ 8 ≤ text.length) ⟨"a payload is ASCII text"⟩
  require ((text.drop (text.length - 8)).take 4 = crcMarker)
    ⟨"a payload ends with its CRC field"⟩
  require (crcHex (text.take (text.length - 4)) = text.drop (text.length - 4))
    ⟨"the CRC does not match"⟩
  let found ← fields (text.take (text.length - 8))
  readFields found (text.drop (text.length - 4))

def joined (found : Fields) : List Char :=
  found.flatMap fun f => f.1 ++ padded 10 2 f.2.length ++ f.2

/-- A field the parser can read back: a tag of two digits, a value of at most 99 characters. -/
def Readable (f : List Char × List Char) : Prop :=
  f.1.length = 2 ∧ isDigits f.1 = true ∧ f.2.length ≤ 99

lemma field_ok {tag value text : List Char} :
    field tag value = .ok text ↔ value.length ≤ 99 ∧ tag ++ padded 10 2 value.length ++ value = text := by
  simp [field]

lemma intOf_padded {n : Nat} (h : n ≤ 99) : intOf (padded 10 2 n) = n := by
  have htens : n / 10 % 10 < 10 := Nat.mod_lt _ (by omega)
  have hunits : n % 10 < 10 := Nat.mod_lt _ (by omega)
  simp only [intOf, padded, List.nil_append, List.cons_append]
  rw [Nat.ofDigitChars_cons_digitChar_of_lt_ten htens,
    Nat.ofDigitChars_cons_digitChar_of_lt_ten hunits, Nat.ofDigitChars_nil]
  omega

lemma isDigits_padded (n : Nat) : isDigits (padded 10 2 n) = true := by
  simp [isDigits, padded, Nat.isDigit_digitChar, Nat.mod_lt]

lemma fieldsFrom_cons {tag value ahead : List Char} {found : Fields} (h : Readable (tag, value))
    (hnew : found.lookup tag = none) :
    fieldsFrom (tag ++ padded 10 2 value.length ++ value ++ ahead) found =
      fieldsFrom ahead (found ++ [(tag, value)]) := by
  obtain ⟨htag, hdigits, hvalue⟩ : tag.length = 2 ∧ isDigits tag = true ∧ value.length ≤ 99 := h
  have hsize := length_padded 10 2 value.length
  have htake : (tag ++ padded 10 2 value.length ++ value ++ ahead).take 2 = tag := by
    rw [List.append_assoc, List.append_assoc, List.take_left' htag]
  have hdrop : (tag ++ padded 10 2 value.length ++ value ++ ahead).drop 2 =
      padded 10 2 value.length ++ value ++ ahead := by
    rw [List.append_assoc, List.append_assoc, List.drop_left' htag, List.append_assoc]
  have hsizeText : (padded 10 2 value.length ++ value ++ ahead).take 2 =
      padded 10 2 value.length := by
    rw [List.append_assoc, List.take_left' hsize]
  have hrest : (tag ++ padded 10 2 value.length ++ value ++ ahead).drop 4 = value ++ ahead := by
    rw [show 4 = 2 + 2 by rfl, ← List.drop_drop, hdrop, List.append_assoc, List.drop_left' hsize]
  have hlength : (tag ++ padded 10 2 value.length ++ value ++ ahead).length =
      4 + value.length + ahead.length := by
    simp only [List.length_append, htag, hsize]
  rw [fieldsFrom, htake, hdrop, hsizeText, hrest, intOf_padded hvalue, hlength]
  rw [if_neg (by intro hnil; rw [hnil, List.length_nil] at hlength; omega), if_neg (by omega),
    if_neg (by simp [hdigits, isDigits_padded]), if_neg (by omega), if_neg (by simp [hnew]),
    List.drop_left, List.take_left]

lemma fieldsFrom_joined {read found : Fields} (hread : ∀ f ∈ read, Readable f)
    (hdistinct : ((found ++ read).map Prod.fst).Nodup) :
    fieldsFrom (joined read) found = .ok (found ++ read) := by
  induction read generalizing found with
  | nil => rw [joined, List.flatMap_nil, fieldsFrom, if_pos rfl, List.append_nil]
  | cons f read ih =>
    have hnew : found.lookup f.1 = none := by
      rw [List.lookup_eq_none_iff]
      intro g hg
      rw [List.map_append, List.nodup_append] at hdistinct
      simpa using (hdistinct.2.2 g.1 (List.mem_map_of_mem hg) f.1 (by simp)).symm
    have hnext : fieldsFrom (joined read) (found ++ [f]) = .ok (found ++ [f] ++ read) :=
      ih (fun g hg => hread g (List.mem_cons_of_mem _ hg)) (by simpa using hdistinct)
    rw [joined, List.flatMap_cons, ← joined, fieldsFrom_cons (hread f List.mem_cons_self) hnew, hnext]
    simp

lemma fields_joined {read : Fields} (hread : ∀ f ∈ read, Readable f)
    (hdistinct : (read.map Prod.fst).Nodup) : fields (joined read) = .ok read :=
  fieldsFrom_joined hread (by rwa [List.nil_append])

def beneficiaryFields (bankBin accountNumber : List Char) : Fields :=
  [(['0', '0'], bankBin), (['0', '1'], accountNumber)]

def templateFields (bankBin accountNumber : List Char) : Fields :=
  [(['0', '0'], napasGuid), (['0', '1'], joined (beneficiaryFields bankBin accountNumber)),
    (['0', '2'], serviceToAccount)]

def staticFields (bankBin accountNumber : List Char) : Fields :=
  [(['0', '0'], ['0', '1']), (['0', '1'], pointOfInitiationStatic),
    (['3', '8'], joined (templateFields bankBin accountNumber)),
    (['5', '3'], currencyVnd), (['5', '8'], countryVn)]

def dynamicFields (bankBin accountNumber : List Char) (amount : Int) (purpose : List Char) : Fields :=
  [(['0', '0'], ['0', '1']), (['0', '1'], pointOfInitiationDynamic),
    (['3', '8'], joined (templateFields bankBin accountNumber)),
    (['5', '3'], currencyVnd), (['5', '4'], Nat.toDigits 10 amount.toNat),
    (['5', '8'], countryVn), (['6', '2'], joined [(['0', '8'], purpose)])]

lemma readable_of_length {a b : Char} {value : List Char} (ha : a.isDigit = true)
    (hb : b.isDigit = true) (h : value.length ≤ 99) : Readable ([a, b], value) :=
  ⟨rfl, by simp [isDigits, ha, hb], h⟩

lemma requireAccount_ok {bankBin accountNumber : List Char} {u : Unit} :
    requireAccount bankBin accountNumber = .ok u ↔
      bankBinPattern bankBin = true ∧ accountNumberPattern accountNumber = true := by
  simp [requireAccount]

lemma accountTemplate_ok {bankBin accountNumber template : List Char}
    (h : accountTemplate bankBin accountNumber = .ok template) :
    template = joined (templateFields bankBin accountNumber) ∧
      (∀ f ∈ beneficiaryFields bankBin accountNumber, Readable f) ∧
      ∀ f ∈ templateFields bankBin accountNumber, Readable f := by
  simp only [accountTemplate, bind_ok, field_ok, Except.ok.injEq] at h
  obtain ⟨_, ⟨hbin, rfl⟩, _, ⟨haccount, rfl⟩, _, ⟨hguid, rfl⟩, _, ⟨hbeneficiary, rfl⟩, _,
    ⟨hservice, rfl⟩, rfl⟩ := h
  have hjoined : ['0', '0'] ++ padded 10 2 bankBin.length ++ bankBin ++
      (['0', '1'] ++ padded 10 2 accountNumber.length ++ accountNumber) =
      joined (beneficiaryFields bankBin accountNumber) := by
    simp [joined, beneficiaryFields]
  rw [hjoined] at hbeneficiary ⊢
  refine ⟨by simp [joined, templateFields], ?_, ?_⟩
  · intro f hf
    rcases List.mem_pair.mp hf with rfl | rfl
    · exact readable_of_length rfl rfl hbin
    · exact readable_of_length rfl rfl haccount
  · intro f hf
    simp only [templateFields, List.mem_cons, List.not_mem_nil, or_false] at hf
    rcases hf with rfl | rfl | rfl
    · exact readable_of_length rfl rfl hguid
    · exact readable_of_length rfl rfl hbeneficiary
    · exact readable_of_length rfl rfl hservice

lemma staticPayload_ok {bankBin accountNumber payload : List Char}
    (h : staticPayload bankBin accountNumber = .ok payload) :
    payload = withCrc (joined (staticFields bankBin accountNumber)) ∧
      (∀ f ∈ beneficiaryFields bankBin accountNumber, Readable f) ∧
      (∀ f ∈ templateFields bankBin accountNumber, Readable f) ∧
      ∀ f ∈ staticFields bankBin accountNumber, Readable f := by
  simp only [staticPayload, bind_ok, field_ok, Except.ok.injEq] at h
  obtain ⟨_, ⟨hformat, rfl⟩, _, ⟨hinitiation, rfl⟩, template, htemplate, _, ⟨haccount, rfl⟩, _,
    ⟨hcurrency, rfl⟩, _, ⟨hcountry, rfl⟩, rfl⟩ := h
  obtain ⟨rfl, hbeneficiary, hinner⟩ := accountTemplate_ok htemplate
  refine ⟨by simp [joined, staticFields], hbeneficiary, hinner, ?_⟩
  intro f hf
  simp only [staticFields, List.mem_cons, List.not_mem_nil, or_false] at hf
  rcases hf with rfl | rfl | rfl | rfl | rfl
  · exact readable_of_length rfl rfl hformat
  · exact readable_of_length rfl rfl hinitiation
  · exact readable_of_length rfl rfl haccount
  · exact readable_of_length rfl rfl hcurrency
  · exact readable_of_length rfl rfl hcountry

lemma requireAmount_ok {amountVnd amount : Int} :
    requireAmount amountVnd = .ok amount ↔
      (1 ≤ amountVnd ∧ amountVnd ≤ maxSettlementVnd) ∧ amountVnd = amount := by
  simp [requireAmount]

lemma dynamicPayload_ok {bankBin accountNumber purpose payload : List Char} {amountVnd : Int}
    (h : dynamicPayload bankBin accountNumber amountVnd purpose = .ok payload) :
    payload = withCrc (joined (dynamicFields bankBin accountNumber amountVnd purpose)) ∧
      (1 ≤ amountVnd ∧ amountVnd ≤ maxSettlementVnd) ∧ purpose.length ≤ 25 ∧
      (∀ c ∈ purpose, printable c = true) ∧
      (∀ f ∈ beneficiaryFields bankBin accountNumber, Readable f) ∧
      (∀ f ∈ templateFields bankBin accountNumber, Readable f) ∧
      ∀ f ∈ dynamicFields bankBin accountNumber amountVnd purpose, Readable f := by
  simp only [dynamicPayload, bind_ok, field_ok, require_ok, requireAmount_ok, Except.ok.injEq] at h
  obtain ⟨_, ⟨hformat, rfl⟩, amount, ⟨hrange, rfl⟩, _, ⟨_, hmost, hprintable⟩, _, ⟨hinitiation, rfl⟩,
    template, htemplate, _, ⟨haccount, rfl⟩, _, ⟨hcurrency, rfl⟩, _, ⟨hamount, rfl⟩, _,
    ⟨hcountry, rfl⟩, _, ⟨hmemo, rfl⟩, _, ⟨hadditional, rfl⟩, rfl⟩ := h
  obtain ⟨rfl, hbeneficiary, hinner⟩ := accountTemplate_ok htemplate
  have hjoined : ['0', '8'] ++ padded 10 2 purpose.length ++ purpose =
      joined [(['0', '8'], purpose)] := by
    simp [joined]
  rw [hjoined] at hadditional ⊢
  refine ⟨by simp [joined, dynamicFields], hrange, hmost, List.all_eq_true.mp hprintable,
    hbeneficiary, hinner, ?_⟩
  intro f hf
  simp only [dynamicFields, List.mem_cons, List.not_mem_nil, or_false] at hf
  rcases hf with rfl | rfl | rfl | rfl | rfl | rfl | rfl
  · exact readable_of_length rfl rfl hformat
  · exact readable_of_length rfl rfl hinitiation
  · exact readable_of_length rfl rfl haccount
  · exact readable_of_length rfl rfl hcurrency
  · exact readable_of_length rfl rfl hamount
  · exact readable_of_length rfl rfl hcountry
  · exact readable_of_length rfl rfl hadditional

lemma length_crcHex (text : List Char) : (crcHex text).length = 4 := by
  rw [crcHex, List.length_map, length_padded]

lemma ascii_chars {cs : List Char} (h : (cs.all fun c => c.toNat < 128) = true) :
    ∀ c ∈ cs, c.toNat < 128 := by
  simpa using h

lemma ascii_crcHex {text : List Char} : ∀ c ∈ crcHex text, c.toNat < 128 := by
  intro c hc
  obtain ⟨d, hd, rfl⟩ := List.mem_map.mp hc
  obtain ⟨n, hn, rfl⟩ := mem_padded (by decide) hd
  interval_cases n <;> decide

lemma drop_withCrc (body : List Char) :
    (withCrc body).drop ((withCrc body).length - 4) = crcHex (body ++ crcMarker) := by
  have hlength : (withCrc body).length - 4 = (body ++ crcMarker).length := by
    rw [withCrc, List.length_append, length_crcHex, Nat.add_sub_cancel]
  rw [hlength, withCrc, List.drop_left]

lemma parsePayload_withCrc {body : List Char} (hascii : ∀ c ∈ body, c.toNat < 128) :
    parsePayload (withCrc body) =
      fields body >>= fun found => readFields found (crcHex (body ++ crcMarker)) := by
  have hcrc := length_crcHex (body ++ crcMarker)
  have hlength : (withCrc body).length = body.length + 8 := by
    rw [withCrc, List.length_append, List.length_append, hcrc, crcMarker]
    rfl
  have hall : (withCrc body).all (fun c => c.toNat < 128) = true := by
    simp only [List.all_eq_true, decide_eq_true_eq]
    intro c hc
    rw [withCrc, List.mem_append, List.mem_append] at hc
    rcases hc with (hc | hc) | hc
    · exact hascii c hc
    · exact ascii_chars (by decide) c hc
    · exact ascii_crcHex c hc
  have hmarked : (withCrc body).take (body.length + 4) = body ++ crcMarker := by
    rw [withCrc, List.take_left' (by simp [crcMarker])]
  have htail : (withCrc body).drop (body.length + 4) = crcHex (body ++ crcMarker) := by
    rw [withCrc, List.drop_left' (by simp [crcMarker])]
  have hmarker : ((withCrc body).drop body.length).take 4 = crcMarker := by
    rw [withCrc, List.append_assoc, List.drop_left, List.take_left' (by rfl)]
  have hbody : (withCrc body).take body.length = body := by
    rw [withCrc, List.append_assoc, List.take_left]
  have hfour : body.length + 8 - 4 = body.length + 4 := by omega
  rw [parsePayload, hlength, hfour, Nat.add_sub_cancel, hmarked, htail, hmarker, hbody,
    require_true ⟨hall, Nat.le_add_left _ _⟩, require_true rfl, require_true rfl]
  rfl

lemma isAlphanum_ascii {c : Char} (h : c.isAlphanum = true) : c.toNat < 128 := by
  have hle {d : Char} (hd : d.toNat < 128) (h : c.val ≤ d.val) : c.toNat < 128 :=
    lt_of_le_of_lt (UInt32.le_iff_toNat_le.mp h) hd
  rcases Bool.or_eq_true_iff.mp h with h | h
  · rcases Bool.or_eq_true_iff.mp h with h | h
    · exact hle (d := 'Z') (by decide) (of_decide_eq_true h).2
    · exact hle (d := 'z') (by decide) (of_decide_eq_true (Bool.and_eq_true_iff.mp h).2)
  · exact hle (d := '9') (by decide) (of_decide_eq_true (Bool.and_eq_true_iff.mp h).2)

lemma ascii_digits {text : List Char} (h : isDigits text = true) : ∀ c ∈ text, c.toNat < 128 := by
  simp only [isDigits, Bool.and_eq_true, List.all_eq_true] at h
  intro c hc
  exact isAlphanum_ascii (by simp [Char.isAlphanum, h.2 c hc])

lemma ascii_joined {read : Fields} (hread : ∀ f ∈ read, Readable f)
    (h : ∀ f ∈ read, ∀ c ∈ f.2, c.toNat < 128) : ∀ c ∈ joined read, c.toNat < 128 := by
  intro c hc
  obtain ⟨f, hf, hc⟩ := List.mem_flatMap.mp hc
  rw [List.mem_append, List.mem_append] at hc
  rcases hc with (hc | hc) | hc
  · exact ascii_digits (hread f hf).2.1 c hc
  · exact ascii_digits (isDigits_padded _) c hc
  · exact h f hf c hc

lemma ascii_templateFields {bankBin accountNumber : List Char} (hbin : bankBinPattern bankBin = true)
    (haccount : accountNumberPattern accountNumber = true)
    (hbeneficiary : ∀ f ∈ beneficiaryFields bankBin accountNumber, Readable f)
    (hread : ∀ f ∈ templateFields bankBin accountNumber, Readable f) :
    ∀ c ∈ joined (templateFields bankBin accountNumber), c.toNat < 128 := by
  simp only [bankBinPattern, accountNumberPattern, Bool.and_eq_true, List.all_eq_true] at hbin haccount
  have hinner : ∀ c ∈ joined (beneficiaryFields bankBin accountNumber), c.toNat < 128 := by
    apply ascii_joined hbeneficiary
    intro f hf
    rcases List.mem_pair.mp hf with rfl | rfl
    · exact fun c hc => isAlphanum_ascii (by simp [Char.isAlphanum, hbin.2 c hc])
    · exact fun c hc => isAlphanum_ascii (haccount.2 c hc)
  apply ascii_joined hread
  intro f hf
  simp only [templateFields, List.mem_cons, List.not_mem_nil, or_false] at hf
  rcases hf with rfl | rfl | rfl
  · exact ascii_chars (by decide)
  · exact hinner
  · exact ascii_chars (by decide)

lemma ascii_staticFields {bankBin accountNumber : List Char}
    (hread : ∀ f ∈ staticFields bankBin accountNumber, Readable f)
    (htemplate : ∀ c ∈ joined (templateFields bankBin accountNumber), c.toNat < 128) :
    ∀ c ∈ joined (staticFields bankBin accountNumber), c.toNat < 128 := by
  apply ascii_joined hread
  intro f hf
  simp only [staticFields, List.mem_cons, List.not_mem_nil, or_false] at hf
  rcases hf with rfl | rfl | rfl | rfl | rfl
  · exact ascii_chars (by decide)
  · exact ascii_chars (by decide)
  · exact htemplate
  · exact ascii_chars (by decide)
  · exact ascii_chars (by decide)

lemma ascii_dynamicFields {bankBin accountNumber purpose : List Char} {amount : Int}
    (hread : ∀ f ∈ dynamicFields bankBin accountNumber amount purpose, Readable f)
    (htemplate : ∀ c ∈ joined (templateFields bankBin accountNumber), c.toNat < 128)
    (hmost : purpose.length ≤ 25) (hpurpose : ∀ c ∈ purpose, printable c = true) :
    ∀ c ∈ joined (dynamicFields bankBin accountNumber amount purpose), c.toNat < 128 := by
  have hmemo : ∀ c ∈ joined [(['0', '8'], purpose)], c.toNat < 128 := by
    apply ascii_joined
    · rintro f hf
      obtain rfl := List.mem_singleton.mp hf
      exact readable_of_length rfl rfl (by omega)
    · rintro f hf c hc
      obtain rfl := List.mem_singleton.mp hf
      have hprintable := hpurpose c hc
      simp only [printable, Bool.and_eq_true, decide_eq_true_eq] at hprintable
      exact lt_of_le_of_lt hprintable.2 (by decide)
  have hdigits : ∀ c ∈ Nat.toDigits 10 amount.toNat, c.toNat < 128 := by
    intro c hc
    have hdigit := Nat.isDigit_of_mem_toDigits (by omega) (by omega) hc
    exact isAlphanum_ascii (by simp [Char.isAlphanum, hdigit])
  apply ascii_joined hread
  intro f hf
  simp only [dynamicFields, List.mem_cons, List.not_mem_nil, or_false] at hf
  rcases hf with rfl | rfl | rfl | rfl | rfl | rfl | rfl
  · exact ascii_chars (by decide)
  · exact ascii_chars (by decide)
  · exact htemplate
  · exact ascii_chars (by decide)
  · exact hdigits
  · exact ascii_chars (by decide)
  · exact hmemo

section ReadBack

variable {bankBin accountNumber : List Char}

lemma fields_templateFields (hread : ∀ f ∈ templateFields bankBin accountNumber, Readable f) :
    fields (joined (templateFields bankBin accountNumber)) =
      .ok (templateFields bankBin accountNumber) :=
  fields_joined hread (by simp [templateFields])

lemma fields_beneficiaryFields (hread : ∀ f ∈ beneficiaryFields bankBin accountNumber, Readable f) :
    fields (joined (beneficiaryFields bankBin accountNumber)) =
      .ok (beneficiaryFields bankBin accountNumber) :=
  fields_joined hread (by simp [beneficiaryFields])

variable (haccount : requireAccount bankBin accountNumber = .ok ())
  (hbeneficiary : ∀ f ∈ beneficiaryFields bankBin accountNumber, Readable f)
  (htemplate : ∀ f ∈ templateFields bankBin accountNumber, Readable f)

include haccount hbeneficiary htemplate

lemma readFields_static (crc : List Char) :
    readFields (staticFields bankBin accountNumber) crc =
      .ok ⟨false, bankBin, accountNumber, none, none, crc⟩ := by
  have hinner : (staticFields bankBin accountNumber).lookup ['3', '8'] =
      some (joined (templateFields bankBin accountNumber)) := rfl
  have hpair : (templateFields bankBin accountNumber).lookup ['0', '1'] =
      some (joined (beneficiaryFields bankBin accountNumber)) := rfl
  rw [readFields, require_true (by rfl), require_true (by left; rfl), hinner, Option.getD_some,
    fields_templateFields htemplate]
  simp only [ok_bind]
  rw [require_true ⟨rfl, rfl⟩, hpair, Option.getD_some, fields_beneficiaryFields hbeneficiary]
  simp only [ok_bind]
  have hread : requireAccount (((beneficiaryFields bankBin accountNumber).lookup ['0', '0']).getD [])
      (((beneficiaryFields bankBin accountNumber).lookup ['0', '1']).getD []) = .ok () := haccount
  rw [hread, require_true ⟨rfl, rfl⟩]
  rfl

lemma readFields_dynamic {amount : Int} {purpose : List Char} (crc : List Char)
    (hamount : 1 ≤ amount ∧ amount ≤ maxSettlementVnd) (hmost : purpose.length ≤ 25) :
    readFields (dynamicFields bankBin accountNumber amount purpose) crc =
      .ok ⟨true, bankBin, accountNumber, some amount, some purpose, crc⟩ := by
  have hinner : (dynamicFields bankBin accountNumber amount purpose).lookup ['3', '8'] =
      some (joined (templateFields bankBin accountNumber)) := rfl
  have hpair : (templateFields bankBin accountNumber).lookup ['0', '1'] =
      some (joined (beneficiaryFields bankBin accountNumber)) := rfl
  have hdigits : (dynamicFields bankBin accountNumber amount purpose).lookup ['5', '4'] =
      some (Nat.toDigits 10 amount.toNat) := rfl
  have hmemo : (dynamicFields bankBin accountNumber amount purpose).lookup ['6', '2'] =
      some (joined [(['0', '8'], purpose)]) := rfl
  have hreadAmount : readAmount (dynamicFields bankBin accountNumber amount purpose) =
      .ok (some amount) := by
    have hvalue : intOf (Nat.toDigits 10 amount.toNat) = amount.toNat :=
      Nat.ofDigitChars_ten_toDigits
    have hfirst := Text.toDigits_head_ne_zero amount.toNat (by omega)
    have hall : isDigits (Nat.toDigits 10 amount.toNat) = true := by
      simp only [isDigits, Bool.and_eq_true, List.all_eq_true]
      exact ⟨by simp [Nat.toDigits_ne_nil],
        fun c hc => Nat.isDigit_of_mem_toDigits (by omega) (by omega) hc⟩
    have hback : ((amount.toNat : Nat) : Int) = amount := Int.toNat_of_nonneg (by omega)
    rw [readAmount, hdigits]
    simp only [require_true (And.intro hall hfirst), ok_bind, hvalue, hback]
    rw [requireAmount_ok.mpr ⟨hamount, rfl⟩]
    rfl
  have hreadPurpose : readPurpose (dynamicFields bankBin accountNumber amount purpose) =
      .ok (some purpose) := by
    have hlabel : fields (joined [(['0', '8'], purpose)]) = .ok [(['0', '8'], purpose)] := by
      apply fields_joined
      · intro f hf
        obtain rfl := List.mem_singleton.mp hf
        exact readable_of_length rfl rfl (by omega)
      · simp
    rw [readPurpose, hmemo]
    simp only [hlabel]
    rfl
  rw [readFields, require_true (by rfl), require_true (by right; rfl), hinner, Option.getD_some,
    fields_templateFields htemplate]
  simp only [ok_bind]
  rw [require_true ⟨rfl, rfl⟩, hpair, Option.getD_some, fields_beneficiaryFields hbeneficiary]
  simp only [ok_bind]
  have hread : requireAccount (((beneficiaryFields bankBin accountNumber).lookup ['0', '0']).getD [])
      (((beneficiaryFields bankBin accountNumber).lookup ['0', '1']).getD []) = .ok () := haccount
  rw [hread, require_true ⟨rfl, rfl⟩, hreadAmount, hreadPurpose]
  rfl

end ReadBack

lemma parsePayload_napasPayload {bankBin accountNumber payload : List Char} {amountVnd : Option Int}
    {purpose : Option (List Char)}
    (h : napasPayload bankBin accountNumber amountVnd purpose = .ok payload) :
    parsePayload payload = .ok ⟨amountVnd.isSome, bankBin, accountNumber, amountVnd, purpose,
      payload.drop (payload.length - 4)⟩ := by
  obtain ⟨_, haccount, h⟩ := bind_ok.mp h
  obtain ⟨hbin, hnumber⟩ := requireAccount_ok.mp haccount
  cases amountVnd with
  | none =>
    cases purpose with
    | some purpose => cases h
    | none =>
      obtain ⟨rfl, hbeneficiary, htemplate, hread⟩ := staticPayload_ok h
      have hascii := ascii_staticFields hread
        (ascii_templateFields hbin hnumber hbeneficiary htemplate)
      rw [parsePayload_withCrc hascii, fields_joined hread (by simp [staticFields])]
      rw [drop_withCrc]
      exact readFields_static haccount hbeneficiary htemplate _
  | some amount =>
    cases purpose with
    | none => cases h
    | some purpose =>
      obtain ⟨rfl, hamount, hmost, hprintable, hbeneficiary, htemplate, hread⟩ := dynamicPayload_ok h
      have hascii := ascii_dynamicFields hread
        (ascii_templateFields hbin hnumber hbeneficiary htemplate) hmost hprintable
      rw [parsePayload_withCrc hascii, fields_joined hread (by simp [dynamicFields])]
      rw [drop_withCrc]
      exact readFields_dynamic haccount hbeneficiary htemplate _ hamount hmost

/-- Every payload is read back as the values it was built from, so that no two
inputs share one. -/
theorem payload_round_trip {bankBin accountNumber payload : List Char} {amountVnd : Option Int}
    {purpose : Option (List Char)}
    (h : napasPayload bankBin accountNumber amountVnd purpose = .ok payload) :
    parsePayload payload = .ok ⟨amountVnd.isSome, bankBin, accountNumber, amountVnd, purpose,
      payload.drop (payload.length - 4)⟩ ∧
    ∀ bankBin' accountNumber' amountVnd' purpose',
      napasPayload bankBin' accountNumber' amountVnd' purpose' = .ok payload →
      bankBin' = bankBin ∧ accountNumber' = accountNumber ∧ amountVnd' = amountVnd ∧
        purpose' = purpose := by
  refine ⟨parsePayload_napasPayload h, fun bankBin' accountNumber' amountVnd' purpose' h' => ?_⟩
  have hparsed := parsePayload_napasPayload h'
  rw [parsePayload_napasPayload h] at hparsed
  injection hparsed with hsame
  injection hsame with _ hbin haccount hamount hpurpose
  exact ⟨hbin.symm, haccount.symm, hamount.symm, hpurpose.symm⟩

/-- The static code of one account, and the dynamic code of a sum and a memo full of
what looks like fields. -/
theorem payload_round_trip_vectors :
    (∃ payload, napasPayload "970436".toList "1017595600".toList none none = .ok payload ∧
      (parsePayload payload).toOption.map ParsedVietQr.purpose = some none) ∧
    ∃ payload, napasPayload "970436".toList "1017595600".toList (some 70000)
        (some "63040812".toList) = .ok payload ∧
      (parsePayload payload).toOption.map ParsedVietQr.purpose = some (some "63040812".toList) := by
  constructor
  · obtain ⟨payload, h⟩ := exists_ok (x := napasPayload "970436".toList "1017595600".toList none none)
      (by decide +kernel)
    exact ⟨payload, h, by rw [(payload_round_trip h).1]; rfl⟩
  · obtain ⟨payload, h⟩ := exists_ok (x := napasPayload "970436".toList "1017595600".toList
      (some 70000) (some "63040812".toList)) (by decide +kernel)
    exact ⟨payload, h, by rw [(payload_round_trip h).1]; rfl⟩

end NhaTrangLaundry.Domain.VietQr
