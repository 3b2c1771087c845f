import NhaTrangLaundry.Domain.Catalog
import NhaTrangLaundry.Lib.Uuid

/-! Whether the amounts a staff member chose lie inside the published bands. -/

namespace NhaTrangLaundry.Domain.RangePrices

open Lib Catalog

def maxJcsInteger : Int := 9007199254740991

inductive RangePriceRefusal where
  | rangePriceOutOfBand
  | rangePriceNotApplicable
  | rangePricePricebookMismatch
deriving DecidableEq

instance : StrEnum RangePriceRefusal where
  value
    | .rangePriceOutOfBand => "RANGE_PRICE_OUT_OF_BAND"
    | .rangePriceNotApplicable => "RANGE_PRICE_NOT_APPLICABLE"
    | .rangePricePricebookMismatch => "RANGE_PRICE_PRICEBOOK_MISMATCH"
  members := [.rangePriceOutOfBand, .rangePriceNotApplicable, .rangePricePricebookMismatch]
  ofValue_value := by intro a; cases a <;> decide
  value_ascii := by intro a; cases a <;> decide

structure PriceBand where
  minimumVnd : Int
  maximumVnd : Int
deriving DecidableEq

structure RangePriceChoice where
  serviceCode : String
  amountVnd : Int
deriving DecidableEq

structure RangePriceAttestation where
  quoteId : Uuid
  revision : Int
  pricebookVersionId : Uuid
  pricebookVersion : Int
  choices : List RangePriceChoice
  approvalId : Option Uuid
deriving DecidableEq

def inBand (amount : Int) (band : PriceBand) : Prop :=
  0 ≤ amount ∧ amount ≤ maxJcsInteger ∧ band.minimumVnd ≤ amount ∧ amount ≤ band.maximumVnd

instance (amount : Int) (band : PriceBand) : Decidable (inBand amount band) := by
  unfold inBand
  infer_instance

def resolveChoices (bands : List (String × PriceBand)) :
    List RangePriceChoice → List (String × Int) → Except RangePriceRefusal (List (String × Int))
  | [], amounts => .ok amounts
  | choice :: choices, amounts =>
    match bands.lookup choice.serviceCode with
    | none => .error .rangePriceNotApplicable
    | some band =>
      if choice.serviceCode ∈ amounts.map Prod.fst then .error .rangePriceNotApplicable
      else if inBand choice.amountVnd band then
        resolveChoices bands choices (amounts ++ [(choice.serviceCode, choice.amountVnd)])
      else .error .rangePriceOutOfBand

def resolveRangePrices (bands : List (String × PriceBand)) (pricebookVersionId : Uuid)
    (pricebookVersion : Int) (attestation : RangePriceAttestation) :
    Except RangePriceRefusal (List (String × Int)) :=
  if attestation.pricebookVersionId ≠ pricebookVersionId ∨
      attestation.pricebookVersion ≠ pricebookVersion then
    .error .rangePricePricebookMismatch
  else resolveChoices bands attestation.choices []

end NhaTrangLaundry.Domain.RangePrices
