import NhaTrangLaundry.Domain.Catalog
import NhaTrangLaundry.Lib.LargestRemainder
import NhaTrangLaundry.Lib.Uuid

/-! Remedy credits, and how one is spread over the lines it lands on. -/

namespace NhaTrangLaundry.Domain.Remedies

open Lib Catalog Sorting LargestRemainder

def maxJcsInteger : Int := 9007199254740991

def remedyCreditReasonCode : String := "REMEDY_CREDIT_DEC_004"

def remedyCreditApplied : String := "REMEDY_CREDIT_APPLIED"

def remedyCreditReleased : String := "REMEDY_CREDIT_RELEASED"

inductive RemedyRefusal where
  | remedyCreditUnallocatable
  | remedyCreditRevisionNotOpen
  | remedyCreditAlreadyRedeemed
  | remedyCreditPromotionNotStackable
  | remedyCreditAlreadyOnQuote
deriving DecidableEq

instance : StrEnum RemedyRefusal where
  value
    | .remedyCreditUnallocatable => "REMEDY_CREDIT_UNALLOCATABLE"
    | .remedyCreditRevisionNotOpen => "REMEDY_CREDIT_REVISION_NOT_OPEN"
    | .remedyCreditAlreadyRedeemed => "REMEDY_CREDIT_ALREADY_REDEEMED"
    | .remedyCreditPromotionNotStackable => "REMEDY_CREDIT_PROMOTION_NOT_STACKABLE"
    | .remedyCreditAlreadyOnQuote => "REMEDY_CREDIT_ALREADY_ON_QUOTE"
  members := [.remedyCreditUnallocatable, .remedyCreditRevisionNotOpen,
    .remedyCreditAlreadyRedeemed, .remedyCreditPromotionNotStackable, .remedyCreditAlreadyOnQuote]
  ofValue_value := by intro a; cases a <;> decide
  value_ascii := by intro a; cases a <;> decide

structure RemedyCredit where
  creditId : Uuid
  amountVnd : Int
  policyVersionId : Uuid
  approvalId : Option Uuid
deriving DecidableEq

def weightsTotal (lineWeightsVnd : List (String × Int)) : Int := (lineWeightsVnd.map Prod.snd).sum

/-- The credit over the lines, or nothing when it does not fit on them. -/
def allocateRemedyCredit (lineWeightsVnd : List (String × Int)) (creditVnd : Int) :
    Except RemedyRefusal (Allocation String) :=
  if creditVnd < 0 ∨ maxJcsInteger < creditVnd ∨ creditVnd = 0 then .error .remedyCreditUnallocatable
  else if lineWeightsVnd.isEmpty ∨ weightsTotal lineWeightsVnd ≤ 0 ∨
      weightsTotal lineWeightsVnd < creditVnd then .error .remedyCreditUnallocatable
  else .ok (allocate (sortBy Prod.fst lineWeightsVnd) creditVnd (weightsTotal lineWeightsVnd) creditVnd)

/-- `per_line_vnd`. -/
def perLine (allocation : Allocation String) : List (String × Int) :=
  allocation.orderedIds.zip allocation.finalAllocations

end NhaTrangLaundry.Domain.Remedies
