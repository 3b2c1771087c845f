import NhaTrangLaundry.Domain.AccountStatements

/-! Customer records: how long one is kept without activity, and what its consent says. -/

namespace NhaTrangLaundry.Domain.Customers

open Lib Outcome Gregorian Canonical

inductive CustomerKind where
  | retail
  | business
deriving DecidableEq

inductive LinkKind where
  | counterTicket
  | channelBinding
deriving DecidableEq

inductive ErasureReason where
  | customerRequest
  | retention
deriving DecidableEq

inductive MarketingChange where
  | given
  | withdrawn
deriving DecidableEq

inductive CustomerRefusal where
  | privacyNoticeUnpublished
  | serviceConsentRequired
  | customerPhoneExists
  | customerErased
  | nothingToChange
  | customerHasAccount
  | linkReferenceUnknown
  | linkExists
deriving DecidableEq

def marketingChange (active : Bool) (requested : Option Bool) : Option MarketingChange :=
  match requested with
  | none => none
  | some requested =>
    if requested = active then none else some (if requested then .given else .withdrawn)

def customerRetentionMonths : Nat := 24

/-- `_months_back`: the same day and time, months before, or the last day of a shorter month. -/
def monthsBack (moment : Datetime) (months : Nat) : Except PyException Datetime := do
  let today := moment.wall / dayMicros
  let total : Int := Gregorian.year today * 12 + (Gregorian.month today - 1) - months
  let year := total / 12
  let month := (total % 12).toNat + 1
  let following := if month = 12 then year + 1 else year
  require (1 ≤ year ∧ following ≤ lastYear) (.valueError s!"year {year} is out of range")
  let day := min (Gregorian.day today) (daysInMonth year.toNat month)
  ofOption (.valueError "day is out of range for month")
    (Datetime.ofParts (ordinal year.toNat month day * dayMicros + moment.wall % dayMicros)
      moment.utcoffset)

def retentionCutoff (asOf : Datetime) : Except PyException Datetime := do
  require asOf.aware (.valueError "retention is judged at a timezone-aware instant")
  monthsBack asOf customerRetentionMonths

end NhaTrangLaundry.Domain.Customers
