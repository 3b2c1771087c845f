import NhaTrangLaundry.Domain.Canonical
import NhaTrangLaundry.Lib.Decimal
import NhaTrangLaundry.Lib.Distinct

/-! Price calculation: grouped quantities, rules and the trace of every result. -/

namespace NhaTrangLaundry.Domain.Pricing

open Lib Catalog Canonical Outcome Distinct StrEnum

def maxNumericQuantity : Decimal := ⟨999999999999, -3⟩

def maxBigintVnd : Int := 9223372036854775807

def countUnits : List QuantityUnit := [.item, .pair, .set, .animalPlushItem, .case]

structure PriceTier where
  minimumQuantity : Decimal.Number
  maximumQuantityExclusive : Option Decimal.Number
  unitPriceVnd : Int
  minimumBillableQuantity : Option Decimal.Number

structure PriceRule where
  serviceCode : String
  ruleType : PriceRuleType
  unitPriceVnd : Option Int
  rangeMinVnd : Option Int
  rangeMaxVnd : Option Int
  tiers : List PriceTier
  unit : QuantityUnit

structure PriceLine where
  serviceCode : String
  quantity : String
  unit : QuantityUnit
  quantityBasis : QuantityBasis

structure CalculationTrace where
  serviceCode : String
  ruleType : PriceRuleType
  unit : QuantityUnit
  inputQuantities : List String
  quantityBases : List QuantityBasis
  aggregateQuantity : String
  billableQuantity : String
  selectedTier : Option Nat
  unitPriceVnd : Option Int
  rangeMinUnitVnd : Option Int
  rangeMaxUnitVnd : Option Int
  rounding : String

structure PriceResult where
  listAmountVnd : Option Int
  rangeMinVnd : Option Int
  rangeMaxVnd : Option Int
  requiresHuman : Bool
  finality : QuoteFinality
  trace : CalculationTrace

def roundingRule : String := "ROUND_HALF_UP_1_VND"

def refuse {α : Type} (code : ErrorCode) : Except PyException α := .error (.pricingError code)

def validPositiveVnd (value : Int) : Prop := 0 < value ∧ value ≤ maxBigintVnd

instance (value : Int) : Decidable (validPositiveVnd value) := by
  unfold validPositiveVnd
  infer_instance

def finite : Decimal.Number → Bool
  | .finite _ => true
  | .special => false

def below (d : Decimal) : Decimal.Number → Bool
  | .finite x => x.lt d
  | .special => false

def openEnd : Decimal := Decimal.ofInt (-1)

/-- Each tier starts at `expected`, where the one before it ended. -/
def validateTiers : List PriceTier → Decimal → Except PyException Unit
  | [], expected => require (expected.same openEnd) (.pricingError .priceRuleUnresolved)
  | tier :: tiers, expected =>
    match tier.minimumQuantity with
    | .special => refuse .priceRuleUnresolved
    | .finite minimum =>
      if ¬ tier.maximumQuantityExclusive.all finite ∨ ¬ tier.minimumBillableQuantity.all finite ∨
          ¬ minimum.same expected ∨ ¬ validPositiveVnd tier.unitPriceVnd ∨
          tier.minimumBillableQuantity.any (below minimum) then
        refuse .priceRuleUnresolved
      else
        match tier.maximumQuantityExclusive with
        | some (.finite upper) =>
          if upper.le minimum then refuse .priceRuleUnresolved else validateTiers tiers upper
        | _ => validateTiers tiers openEnd

def validateRule (rule : PriceRule) : Except PyException Unit :=
  match rule.ruleType with
  | .fixedPerUnit | .fixedPerOrder =>
    require ((∃ p ∈ rule.unitPriceVnd, validPositiveVnd p) ∧ rule.rangeMinVnd = none ∧
      rule.rangeMaxVnd = none ∧ rule.tiers.isEmpty) (.pricingError .priceRuleUnresolved)
  | .rangePerUnit =>
    require ((∃ lo ∈ rule.rangeMinVnd, ∃ hi ∈ rule.rangeMaxVnd, validPositiveVnd lo ∧
      validPositiveVnd hi ∧ lo ≤ hi) ∧ rule.unitPriceVnd = none ∧ rule.tiers.isEmpty)
      (.pricingError .priceRuleUnresolved)
  | .aggregateTierPerUnit => do
    require (rule.unitPriceVnd = none ∧ rule.rangeMinVnd = none ∧ rule.rangeMaxVnd = none ∧
      ¬ rule.tiers.isEmpty) (.pricingError .priceRuleUnresolved)
    validateTiers rule.tiers (Decimal.ofInt 0)
  | .manual => refuse .priceRuleUnresolved

def quantity (value : String) (unit : QuantityUnit) : Except PyException Decimal :=
  match Decimal.ofText value with
  | none => refuse .missingRequiredFact
  | some q =>
    if q.le (Decimal.ofInt 0) ∨ maxNumericQuantity.lt q ∨ q.exponent < -3 ∨
        (unit ∈ countUnits ∧ ¬ q.integral) then refuse .missingRequiredFact
    else .ok q

/-- `_round_vnd`; a product of more than 28 digits traps in `quantize`. -/
def roundVnd (value : Decimal) : Except PyException Int :=
  match value.toInteger with
  | none => .error .decimalError
  | some rounded =>
    if rounded < 0 ∨ maxBigintVnd < rounded then refuse .priceRuleUnresolved else .ok rounded

def selectTier (q : Decimal) (tiers : List PriceTier) : Option (PriceTier × Nat) :=
  tiers.zipIdx.find? fun t =>
    (match t.1.minimumQuantity with
      | .finite minimum => decide (minimum.le q)
      | .special => false) &&
    (match t.1.maximumQuantityExclusive with
      | none => true
      | some (.finite upper) => decide (q.lt upper)
      | some .special => false)

/-- The quantity a tier bills: its minimum when that is more. -/
def billableQuantity (q : Decimal) (tier : PriceTier) : Decimal :=
  match tier.minimumBillableQuantity with
  | some (.finite b) => q.max (if b.coefficient = 0 then Decimal.ofInt 0 else b)
  | _ => q.max (Decimal.ofInt 0)

def groupTrace (rule : PriceRule) (lines : List (PriceLine × Decimal)) (q : Decimal) :
    CalculationTrace where
  serviceCode := rule.serviceCode
  ruleType := rule.ruleType
  unit := rule.unit
  inputQuantities := lines.map fun l => l.2.text
  quantityBases := lines.map fun l => l.1.quantityBasis
  aggregateQuantity := q.text
  billableQuantity := q.text
  selectedTier := none
  unitPriceVnd := none
  rangeMinUnitVnd := none
  rangeMaxUnitVnd := none
  rounding := roundingRule

def exactResult (amount : Int) (trace : CalculationTrace) : PriceResult :=
  ⟨some amount, none, none, false, .estimate, trace⟩

def rangeResult (minimum maximum : Int) (trace : CalculationTrace) : PriceResult :=
  ⟨none, some minimum, some maximum, true, .range, trace⟩

/-- The amount of a group under its rule. A rule that passed its check has the
figures of its type. -/
def priceGroup (rule : PriceRule) (q : Decimal) (trace : CalculationTrace) :
    Except PyException PriceResult :=
  match rule.ruleType, rule.unitPriceVnd, rule.rangeMinVnd, rule.rangeMaxVnd with
  | .fixedPerUnit, some unitPrice, _, _ => do
    let amount ← roundVnd (q.mul (Decimal.ofInt unitPrice))
    .ok (exactResult amount { trace with unitPriceVnd := some unitPrice })
  | .fixedPerOrder, some unitPrice, _, _ => do
    require (q.same (Decimal.ofInt 1)) (.pricingError .incompatibleUnit)
    .ok (exactResult unitPrice { trace with billableQuantity := "1", unitPriceVnd := some unitPrice })
  | .rangePerUnit, _, some rangeMin, some rangeMax => do
    let minimum ← roundVnd (q.mul (Decimal.ofInt rangeMin))
    let maximum ← roundVnd (q.mul (Decimal.ofInt rangeMax))
    .ok (rangeResult minimum maximum
      { trace with rangeMinUnitVnd := some rangeMin, rangeMaxUnitVnd := some rangeMax })
  | .aggregateTierPerUnit, _, _, _ =>
    match selectTier q rule.tiers with
    | none => refuse .priceRuleUnresolved
    | some (tier, index) => do
      let amount ← roundVnd ((billableQuantity q tier).mul (Decimal.ofInt tier.unitPriceVnd))
      .ok (exactResult amount
        { trace with
          billableQuantity := (billableQuantity q tier).text
          selectedTier := some index
          unitPriceVnd := some tier.unitPriceVnd })
  | _, _, _, _ => refuse .priceRuleUnresolved

def totalQuantity (lines : List (PriceLine × Decimal)) : Decimal :=
  (lines.map Prod.snd).foldl Decimal.add (Decimal.ofInt 0)

def price (rule : PriceRule) (lines : List (PriceLine × Decimal)) : Except PyException PriceResult := do
  validateRule rule
  require (¬ maxNumericQuantity.lt (totalQuantity lines)) (.pricingError .missingRequiredFact)
  priceGroup rule (totalQuantity lines) (groupTrace rule lines (totalQuantity lines))

def readLine (rules : String → Option PriceRule) (line : PriceLine) :
    Except PyException (PriceLine × Decimal) :=
  match rules line.serviceCode with
  | none => refuse .priceRuleUnresolved
  | some rule => do
    require (rule.serviceCode = line.serviceCode) (.pricingError .priceRuleUnresolved)
    require (line.unit = rule.unit) (.pricingError .incompatibleUnit)
    let q ← quantity line.quantity line.unit
    .ok (line, q)

def priceService (rules : String → Option PriceRule) (grouped : List (PriceLine × Decimal))
    (code : String) : Except PyException (String × PriceResult) :=
  match rules code with
  | none => .error .keyError
  | some rule => do
    let result ← price rule (grouped.filter fun l => l.1.serviceCode = code)
    .ok (code, result)

def priceLines (rules : String → Option PriceRule) (lines : List PriceLine) :
    Except PyException (List (String × PriceResult)) := do
  require (¬ lines.isEmpty) (.pricingError .missingRequiredFact)
  let grouped ← lines.mapM (readLine rules)
  (firstsBy id (lines.map PriceLine.serviceCode)).mapM (priceService rules grouped)

end NhaTrangLaundry.Domain.Pricing
