import NhaTrangLaundry.Domain.StoredValues
import NhaTrangLaundry.Lib.Isoformat

/-! The end-of-day cash count: what the drawer should hold, how far a count is from it, and the
trace that a count stores. -/

namespace NhaTrangLaundry.Domain.CashCount

open Lib Catalog Canonical Outcome StrEnum

def cashCountRuleIdentifier : String := "cash-count-v1"

def countedMaxVnd : Int := 1000000000

inductive CashCountKind where
  | openingFloat
  | closingCount
deriving DecidableEq

instance : StrEnum CashCountKind where
  value
    | .openingFloat => "OPENING_FLOAT"
    | .closingCount => "CLOSING_COUNT"
  members := [.openingFloat, .closingCount]
  ofValue_value := by intro a; cases a <;> decide +kernel
  value_ascii := by intro a; cases a <;> decide +kernel

inductive ExpectedStatus where
  | complete
  | incomplete
  | floatMissing
  | booksBelowZero
deriving DecidableEq

instance : StrEnum ExpectedStatus where
  value
    | .complete => "COMPLETE"
    | .incomplete => "INCOMPLETE"
    | .floatMissing => "FLOAT_MISSING"
    | .booksBelowZero => "BOOKS_BELOW_ZERO"
  members := [.complete, .incomplete, .floatMissing, .booksBelowZero]
  ofValue_value := by intro a; cases a <;> decide +kernel
  value_ascii := by intro a; cases a <;> decide +kernel

inductive DifferenceDirection where
  | even
  | over
  | short
deriving DecidableEq

instance : StrEnum DifferenceDirection where
  value
    | .even => "EVEN"
    | .over => "OVER"
    | .short => "SHORT"
  members := [.even, .over, .short]
  ofValue_value := by intro a; cases a <;> decide +kernel
  value_ascii := by intro a; cases a <;> decide +kernel

/-- One business day's cash through the drawer, as the ledgers record it. -/
@[ext]
structure DrawerMovement where
  cashInVnd : Nat
  cashInEntries : Nat
  cashRefundedVnd : Nat
  cashRefundedEntries : Nat
  unknownRefundsVnd : Nat
  unknownRefundsEntries : Nat
  drawerExpensesVnd : Nat
  drawerExpensesEntries : Nat
deriving DecidableEq

def requireNonNegativeVnd (amountVnd : Int) : Except PyException Nat := do
  require (0 ≤ amountVnd) (.valueError "VND amount must not be negative")
  .ok amountVnd.toNat

def count (value : Int) (name : String) : Except PyException Nat := do
  require (0 ≤ value) (.valueError (name ++ " is a non-negative whole number"))
  .ok value.toNat

/-- `DrawerMovement(…)`, which checks the amounts first. -/
def drawerMovement (cashInVnd cashInEntries cashRefundedVnd cashRefundedEntries unknownRefundsVnd
    unknownRefundsEntries drawerExpensesVnd drawerExpensesEntries : Int) :
    Except PyException DrawerMovement := do
  let cashInVnd ← requireNonNegativeVnd cashInVnd
  let cashRefundedVnd ← requireNonNegativeVnd cashRefundedVnd
  let unknownRefundsVnd ← requireNonNegativeVnd unknownRefundsVnd
  let drawerExpensesVnd ← requireNonNegativeVnd drawerExpensesVnd
  let cashInEntries ← count cashInEntries "cash_in_entries"
  let cashRefundedEntries ← count cashRefundedEntries "cash_refunded_entries"
  let unknownRefundsEntries ← count unknownRefundsEntries "unknown_refunds_entries"
  let drawerExpensesEntries ← count drawerExpensesEntries "drawer_expenses_entries"
  .ok
    { cashInVnd, cashInEntries, cashRefundedVnd, cashRefundedEntries, unknownRefundsVnd,
      unknownRefundsEntries, drawerExpensesVnd, drawerExpensesEntries }

structure ExpectedCash where
  status : ExpectedStatus
  expectedVnd : Option Nat
  floatVnd : Option Nat
  movement : DrawerMovement
  booksOverVnd : Option Nat
deriving DecidableEq

/-- Float + cash taken - cash refunded - drawer expenses, or why there is none. -/
def expectedCash (floatVnd : Option Nat) (movement : DrawerMovement) : ExpectedCash :=
  match floatVnd with
  | none => ⟨.floatMissing, none, none, movement, none⟩
  | some float =>
    let held : Int :=
      float + movement.cashInVnd - movement.cashRefundedVnd - movement.drawerExpensesVnd
    if held < 0 then ⟨.booksBelowZero, none, some float, movement, some held.natAbs⟩
    else
      ⟨if movement.unknownRefundsEntries ≠ 0 then .incomplete else .complete, some held.natAbs,
        some float, movement, none⟩

structure CashDifference where
  amountVnd : Nat
  direction : DifferenceDirection
deriving DecidableEq

/-- Counted against expected; `none` where no figure was produced. -/
def cashDifference (countedVnd : Nat) (expected : ExpectedCash) : Option CashDifference :=
  expected.expectedVnd.map fun expectedVnd =>
    let gap : Int := countedVnd - expectedVnd
    if gap = 0 then ⟨0, .even⟩ else ⟨gap.natAbs, if 0 < gap then .over else .short⟩

inductive CashCountRefusal where
  | amountInvalid
  | amountTooLarge
  | dayNotToday
  | reasonLooksLikePhone
  | reasonInvalid
  | reasonRequired
  | reasonNotExpected
  | alreadyRecorded
  | stale
deriving DecidableEq

instance : StrEnum CashCountRefusal where
  value
    | .amountInvalid => "CASH_COUNT_AMOUNT_INVALID"
    | .amountTooLarge => "CASH_COUNT_AMOUNT_TOO_LARGE"
    | .dayNotToday => "CASH_COUNT_DAY_NOT_TODAY"
    | .reasonLooksLikePhone => "CASH_COUNT_REASON_LOOKS_LIKE_PHONE"
    | .reasonInvalid => "CASH_COUNT_REASON_INVALID"
    | .reasonRequired => "CASH_COUNT_REASON_REQUIRED"
    | .reasonNotExpected => "CASH_COUNT_REASON_NOT_EXPECTED"
    | .alreadyRecorded => "CASH_COUNT_ALREADY_RECORDED"
    | .stale => "CASH_COUNT_STALE"
  members := [.amountInvalid, .amountTooLarge, .dayNotToday, .reasonLooksLikePhone, .reasonInvalid,
    .reasonRequired, .reasonNotExpected, .alreadyRecorded, .stale]
  ofValue_value := by intro a; cases a <;> decide +kernel
  value_ascii := by intro a; cases a <;> decide +kernel

/-- Why a note is refused. -/
inductive NoteRefusal where
  | noteInvalid
  | noteLooksLikePhone
deriving DecidableEq

def countedAmount (value : Int) : Except CashCountRefusal Nat := do
  require (0 ≤ value) .amountInvalid
  require (value ≤ countedMaxVnd) .amountTooLarge
  .ok value.toNat

def recordingDay (asked today : Date) : Except CashCountRefusal Date := do
  require (asked = today) .dayNotToday
  .ok asked

/-- The reason an entry carries, of what `capture_note` made of it. -/
def correctionReason (note : Except NoteRefusal (Option String)) (correcting : Bool) :
    Except CashCountRefusal (Option String) :=
  match note with
  | .error .noteLooksLikePhone => .error .reasonLooksLikePhone
  | .error .noteInvalid => .error .reasonInvalid
  | .ok reason => do
    require (¬ (correcting = true ∧ reason = none)) .reasonRequired
    require (¬ (correcting = false ∧ reason ≠ none)) .reasonNotExpected
    .ok reason

structure CountTrace where
  document : Json
  traceHash : String

def optionalNat : Option Nat → Json
  | none => .null
  | some n => .int n

def traceFields (businessDay : Date) (countedVnd : Nat) (expected : ExpectedCash)
    (difference : Option CashDifference) : List (String × Json) :=
  [("rule", .str cashCountRuleIdentifier), ("business_day", .str businessDay.isoformat),
    ("float_vnd", optionalNat expected.floatVnd),
    ("cash_in_vnd", .int expected.movement.cashInVnd),
    ("cash_in_entries", .int expected.movement.cashInEntries),
    ("cash_refunded_vnd", .int expected.movement.cashRefundedVnd),
    ("cash_refunded_entries", .int expected.movement.cashRefundedEntries),
    ("drawer_expenses_vnd", .int expected.movement.drawerExpensesVnd),
    ("drawer_expenses_entries", .int expected.movement.drawerExpensesEntries),
    ("excluded_unknown_refunds_vnd", .int expected.movement.unknownRefundsVnd),
    ("excluded_unknown_refunds_entries", .int expected.movement.unknownRefundsEntries),
    ("status", .str (value expected.status)), ("expected_vnd", optionalNat expected.expectedVnd),
    ("books_over_vnd", optionalNat expected.booksOverVnd), ("counted_vnd", .int countedVnd),
    ("difference_vnd", optionalNat (difference.map (·.amountVnd))),
    ("difference_direction",
      match difference with
      | none => .null
      | some difference => .str (value difference.direction))]

/-- `document.get("rule")`, where it is a text. -/
def storedRule (document : Json) : Option String :=
  match document.get? "rule" with
  | some (.str rule) => some rule
  | _ => none

/-- `document[key]` as a whole number. -/
def wholeNumber (document : Json) (key : String) : Except PyException Int :=
  match document.get? key with
  | none => .error .keyError
  | some (.int n) => .ok n
  | some _ => .error (.valueError (key ++ " is not a whole number in the stored trace"))

/-- `document.get("float_vnd")`. -/
def storedFloat (document : Json) : Except PyException (Option Int) :=
  match document.get? "float_vnd" with
  | none | some .null => .ok none
  | some (.int n) => .ok (some n)
  | some _ => .error (.valueError "float_vnd is not a whole number in the stored trace")

/-- `date.fromisoformat(str(document["business_day"]))`. -/
def storedDay (document : Json) : Except PyException Date :=
  match document.get? "business_day" with
  | none => .error .keyError
  | some (.str s) =>
    match Date.fromisoformat s.toList with
    | some day => .ok day
    | none => .error (.valueError "Invalid isoformat string")
  | some _ => .error (.valueError "Invalid isoformat string")

variable [Unicodedata]

def closingTrace (businessDay : Date) (countedVnd : Nat) (expected : ExpectedCash)
    (difference : Option CashDifference) : Except PyException CountTrace := do
  let document ← canonicalDocument
    (.json (.obj (traceFields businessDay countedVnd expected difference))) true
  .ok ⟨.obj (traceFields businessDay countedVnd expected difference), document.snapshotHash⟩

def replayTrace (document : Json) : Except PyException CountTrace := do
  require (storedRule document = some cashCountRuleIdentifier)
    (.valueError "the stored trace was written under another rule")
  let float ← storedFloat document
  let cashInVnd ← wholeNumber document "cash_in_vnd"
  let cashInEntries ← wholeNumber document "cash_in_entries"
  let cashRefundedVnd ← wholeNumber document "cash_refunded_vnd"
  let cashRefundedEntries ← wholeNumber document "cash_refunded_entries"
  let unknownRefundsVnd ← wholeNumber document "excluded_unknown_refunds_vnd"
  let unknownRefundsEntries ← wholeNumber document "excluded_unknown_refunds_entries"
  let drawerExpensesVnd ← wholeNumber document "drawer_expenses_vnd"
  let drawerExpensesEntries ← wholeNumber document "drawer_expenses_entries"
  let movement ← drawerMovement cashInVnd cashInEntries cashRefundedVnd cashRefundedEntries
    unknownRefundsVnd unknownRefundsEntries drawerExpensesVnd drawerExpensesEntries
  let float ← float.mapM requireNonNegativeVnd
  let expected := expectedCash float movement
  let counted ← wholeNumber document "counted_vnd"
  let day ← storedDay document
  let counted ← requireNonNegativeVnd counted
  closingTrace day counted expected (cashDifference counted expected)

omit [Unicodedata] in
lemma expectedCash_inputs (float : Option Nat) (movement : DrawerMovement) :
    (expectedCash float movement).floatVnd = float ∧
      (expectedCash float movement).movement = movement := by
  cases float with
  | none => exact ⟨rfl, rfl⟩
  | some float =>
    simp only [expectedCash]
    split_ifs
    · exact ⟨rfl, rfl⟩
    · exact ⟨rfl, rfl⟩
    · exact ⟨rfl, rfl⟩

omit [Unicodedata] in
lemma requireNonNegativeVnd_nat (n : Nat) : requireNonNegativeVnd n = .ok n := by
  simp [requireNonNegativeVnd, require]

omit [Unicodedata] in
lemma count_nat (n : Nat) (name : String) : count n name = .ok n := by
  simp [count, require]

omit [Unicodedata] in
lemma drawerMovement_nat (m : DrawerMovement) :
    drawerMovement m.cashInVnd m.cashInEntries m.cashRefundedVnd m.cashRefundedEntries
      m.unknownRefundsVnd m.unknownRefundsEntries m.drawerExpensesVnd m.drawerExpensesEntries =
      .ok m := by
  simp only [drawerMovement, requireNonNegativeVnd_nat, count_nat]
  rfl

section Stored

variable {document : Json} {businessDay : Date} {countedVnd : Nat} {expected : ExpectedCash}
  {difference : Option CashDifference}

omit [Unicodedata] in
lemma wholeNumber_of_get? {key : String} {n : Int} (h : document.get? key = some (.int n)) :
    wholeNumber document key = .ok n := by
  rw [wholeNumber, h]

omit [Unicodedata] in
lemma wholeNumber_stored {fields : List (String × Json)} {key : String} {n : Int}
    (h : Json.Holds document fields) (hkey : fields.lookup key = some (.int n)) :
    wholeNumber document key = .ok n := by
  obtain ⟨kept, hkept, hsame, -⟩ := h.get? hkey
  rw [Json.same_int hsame] at hkept
  exact wholeNumber_of_get? hkept

omit [Unicodedata] in
lemma storedFloat_of_get? {float : Option Nat}
    (h : document.get? "float_vnd" = some (optionalNat float)) :
    storedFloat document = .ok (float.map Int.ofNat) := by
  rw [storedFloat, h]
  cases float with
  | none => rfl
  | some float => rfl

omit [Unicodedata] in
lemma storedFloat_stored (h : Json.Holds document
    (traceFields businessDay countedVnd expected difference)) :
    storedFloat document = .ok (expected.floatVnd.map Int.ofNat) := by
  have hkey : (traceFields businessDay countedVnd expected difference).lookup "float_vnd" =
      some (optionalNat expected.floatVnd) := rfl
  obtain ⟨kept, hkept, hsame, -⟩ := h.get? hkey
  refine storedFloat_of_get? (hkept.trans (congrArg some ?_))
  cases hfloat : expected.floatVnd with
  | none =>
    rw [hfloat] at hsame
    exact Json.same_null hsame
  | some float =>
    rw [hfloat] at hsame
    exact Json.same_int hsame

omit [Unicodedata] in
lemma storedRule_stored (h : Json.Holds document
    (traceFields businessDay countedVnd expected difference)) :
    storedRule document = some cashCountRuleIdentifier := by
  have hkey : (traceFields businessDay countedVnd expected difference).lookup "rule" =
      some (.str cashCountRuleIdentifier) := rfl
  obtain ⟨kept, hkept, hsame, -⟩ := h.get? hkey
  rw [Json.same_str hsame] at hkept
  rw [storedRule, hkept]

omit [Unicodedata] in
lemma storedDay_stored (h : Json.Holds document
    (traceFields businessDay countedVnd expected difference)) :
    storedDay document = .ok businessDay := by
  have hkey : (traceFields businessDay countedVnd expected difference).lookup "business_day" =
      some (.str businessDay.isoformat) := rfl
  obtain ⟨kept, hkept, hsame, -⟩ := h.get? hkey
  rw [Json.same_str hsame] at hkept
  rw [storedDay, hkept]
  dsimp only
  rw [Date.fromisoformat_isoformat]

lemma replayTrace_stored
    (h : Json.Holds document (traceFields businessDay countedVnd expected
      (cashDifference countedVnd expected)))
    (hexpected : expectedCash expected.floatVnd expected.movement = expected) :
    replayTrace document =
      closingTrace businessDay countedVnd expected (cashDifference countedVnd expected) := by
  have hcashIn : wholeNumber document "cash_in_vnd" = .ok expected.movement.cashInVnd :=
    wholeNumber_stored h rfl
  have hcashInEntries : wholeNumber document "cash_in_entries" =
      .ok expected.movement.cashInEntries := wholeNumber_stored h rfl
  have hrefunded : wholeNumber document "cash_refunded_vnd" =
      .ok expected.movement.cashRefundedVnd := wholeNumber_stored h rfl
  have hrefundedEntries : wholeNumber document "cash_refunded_entries" =
      .ok expected.movement.cashRefundedEntries := wholeNumber_stored h rfl
  have hunknown : wholeNumber document "excluded_unknown_refunds_vnd" =
      .ok expected.movement.unknownRefundsVnd := wholeNumber_stored h rfl
  have hunknownEntries : wholeNumber document "excluded_unknown_refunds_entries" =
      .ok expected.movement.unknownRefundsEntries := wholeNumber_stored h rfl
  have hexpenses : wholeNumber document "drawer_expenses_vnd" =
      .ok expected.movement.drawerExpensesVnd := wholeNumber_stored h rfl
  have hexpensesEntries : wholeNumber document "drawer_expenses_entries" =
      .ok expected.movement.drawerExpensesEntries := wholeNumber_stored h rfl
  have hcounted : wholeNumber document "counted_vnd" = .ok countedVnd := wholeNumber_stored h rfl
  have hfloat : (expected.floatVnd.map Int.ofNat).mapM requireNonNegativeVnd =
      .ok expected.floatVnd := by
    cases expected.floatVnd with
    | none => rfl
    | some float =>
      show (some <$> requireNonNegativeVnd (float : Int)) = _
      rw [requireNonNegativeVnd_nat]
      rfl
  rw [replayTrace, require, if_pos (storedRule_stored h), storedFloat_stored h, hcashIn,
    hcashInEntries, hrefunded, hrefundedEntries, hunknown, hunknownEntries, hexpenses,
    hexpensesEntries, hcounted, storedDay_stored h]
  simp only [ok_bind, drawerMovement_nat, hfloat, requireNonNegativeVnd_nat, hexpected]

end Stored

omit [Unicodedata] in
lemma distinct_optionalNat (o : Option Nat) : (optionalNat o).distinct := by
  cases o <;> trivial

omit [Unicodedata] in
lemma distinct_traceFields (businessDay : Date) (countedVnd : Nat) (expected : ExpectedCash)
    (difference : Option CashDifference) :
    (Json.obj (traceFields businessDay countedVnd expected difference)).distinct := by
  refine ⟨by simp [traceFields], trivial, trivial, distinct_optionalNat _, trivial, trivial,
    trivial, trivial, trivial, trivial, trivial, trivial, trivial, distinct_optionalNat _,
    distinct_optionalNat _, trivial, distinct_optionalNat _, ?_, trivial⟩
  cases difference <;> trivial

def traceNames : List String :=
  ["rule", "business_day", "float_vnd", "cash_in_vnd", "cash_in_entries", "cash_refunded_vnd",
    "cash_refunded_entries", "drawer_expenses_vnd", "drawer_expenses_entries",
    "excluded_unknown_refunds_vnd", "excluded_unknown_refunds_entries", "status", "expected_vnd",
    "books_over_vnd", "counted_vnd", "difference_vnd", "difference_direction"]

def Collide (document document' : Json) : Prop :=
  ∃ d d', canonicalDocument (.json document) true = .ok d ∧
    canonicalDocument (.json document') true = .ok d' ∧
    d.canonicalJson ≠ d'.canonicalJson ∧ d.snapshotHash = d'.snapshotHash

lemma canonical_figures {businessDay : Date} {countedVnd : Nat} {expected : ExpectedCash}
    {difference : Option CashDifference} {d : CanonicalDocument} {payload : Json}
    (h : canonicalDocument (.json (.obj (traceFields businessDay countedVnd expected difference)))
      true = .ok d) (hloads : Json.loads d.canonicalJson = some payload) :
    storedFloat payload = .ok (expected.floatVnd.map Int.ofNat) ∧
      ∀ key n, (traceFields businessDay countedVnd expected difference).lookup key =
        some (.int (n : Nat)) → wholeNumber payload key = .ok (n : Int) := by
  obtain ⟨payload', hloads', hstores⟩ := stores_captured .json h
  rw [hloads] at hloads'
  cases hloads'
  have hholding := Holding.of_obj traceNames rfl (by decide) (by decide) hstores
  constructor
  · have hkey : ((traceFields businessDay countedVnd expected difference).map fun f =>
        (f.1, Value.json f.2)).lookup "float_vnd" =
        some (.json (optionalNat expected.floatVnd)) := rfl
    obtain ⟨kept, hkept, j, hj, hsame, -⟩ := hholding.get? "float_vnd" hkey
    refine storedFloat_of_get? (hkept.trans (congrArg some ?_))
    cases hfloat : expected.floatVnd with
    | none =>
      rw [hfloat] at hj
      cases hj
      exact Json.same_null hsame
    | some float =>
      rw [hfloat] at hj
      cases hj
      exact Json.same_int hsame
  · intro key n hkey
    have hlookup : ((traceFields businessDay countedVnd expected difference).map fun f =>
        (f.1, Value.json f.2)).lookup key = some (.json (.int n)) := by
      rw [Json.lookup_map, hkey]
      rfl
    obtain ⟨kept, hkept, j, hj, hsame, -⟩ := hholding.get? key hlookup
    cases hj
    rw [Json.same_int hsame] at hkept
    exact wholeNumber_of_get? hkept

lemma closingTrace_determines {businessDay businessDay' : Date} {countedVnd countedVnd' : Nat}
    {expected expected' : ExpectedCash} {difference difference' : Option CashDifference}
    {trace trace' : CountTrace}
    (h : closingTrace businessDay countedVnd expected difference = .ok trace)
    (h' : closingTrace businessDay' countedVnd' expected' difference' = .ok trace')
    (hsame : trace.traceHash = trace'.traceHash) :
    (expected.floatVnd = expected'.floatVnd ∧ expected.movement = expected'.movement) ∨
      Collide trace.document trace'.document := by
  obtain ⟨d, hd, h⟩ := bind_ok.mp h
  obtain ⟨d', hd', h'⟩ := bind_ok.mp h'
  cases h
  cases h'
  by_cases hbytes : d.canonicalJson = d'.canonicalJson
  · refine .inl ?_
    obtain ⟨payload, hloads, -⟩ := stores_captured .json hd
    obtain ⟨hfloat, hfigures⟩ := canonical_figures hd hloads
    rw [hbytes] at hloads
    obtain ⟨hfloat', hfigures'⟩ := canonical_figures hd' hloads
    have hfigure : ∀ key n n',
        (traceFields businessDay countedVnd expected difference).lookup key =
          some (.int (n : Nat)) →
        (traceFields businessDay' countedVnd' expected' difference').lookup key =
          some (.int (n' : Nat)) → n = n' := by
      intro key n n' hn hn'
      have heq := hfigures key n hn
      rw [hfigures' key n' hn'] at heq
      exact Int.natCast_inj.mp (Except.ok.inj heq).symm
    rw [hfloat] at hfloat'
    have hcast : Function.Injective Int.ofNat := fun _ _ => Int.ofNat.inj
    refine ⟨Option.map_injective hcast (Except.ok.inj hfloat'), ?_⟩
    exact DrawerMovement.ext (hfigure "cash_in_vnd" _ _ rfl rfl)
      (hfigure "cash_in_entries" _ _ rfl rfl) (hfigure "cash_refunded_vnd" _ _ rfl rfl)
      (hfigure "cash_refunded_entries" _ _ rfl rfl)
      (hfigure "excluded_unknown_refunds_vnd" _ _ rfl rfl)
      (hfigure "excluded_unknown_refunds_entries" _ _ rfl rfl)
      (hfigure "drawer_expenses_vnd" _ _ rfl rfl) (hfigure "drawer_expenses_entries" _ _ rfl rfl)
  · exact .inr ⟨d, d', hd, hd', hbytes, hsame⟩

end NhaTrangLaundry.Domain.CashCount
