import NhaTrangLaundry.Domain.Unclaimed

/-! When an order is promised: the published turnaround rules, and the times they take. -/

namespace NhaTrangLaundry.Domain.Promise

open Lib Outcome Gregorian Canonical Unclaimed

inductive TurnaroundScope where
  | standardClothes
  | shoes
  | curtains
  | blanketsAndSheets
  | otherSpecial
deriving DecidableEq

inductive ScopeKind where
  | fixed
  | rangeChoice
  | human
deriving DecidableEq

inductive PromiseChoice where
  | h24
  | h48
  | express2h
  | custom
deriving DecidableEq

inductive PromiseReason where
  | humanEtaRequired
  | tetDatesUnpublished
  | serviceNotInPolicy
  | noLines
deriving DecidableEq

inductive PromiseRefusal where
  | promiseChoiceNotApplicable
  | promiseCustomAtRequired
  | promiseCustomAtNotTaken
  | promiseNotAfterAcceptance
  | promiseOutsideOpeningHours
  | promiseOnClosedDay
  | promiseUnchanged
deriving DecidableEq

inductive PromiseChangeReason where
  | customerRequest
  | extraTreatment
  | machineIssue
  | workload
  | weatherDrying
  | other
deriving DecidableEq

inductive PromiseError where
  | refused (code : PromiseRefusal) (detail : String)
  | raised (e : PyException)
deriving DecidableEq

def slaIdByScope : TurnaroundScope → String
  | .standardClothes => "SLA_STANDARD_CLOTHES"
  | .shoes => "SLA_SHOES"
  | .curtains => "SLA_CURTAINS"
  | .blanketsAndSheets => "SLA_BLANKETS_SHEETS"
  | .otherSpecial => "SLA_OTHER_SPECIAL"

inductive ScopeRule where
  | fixed (hours : Nat) (positive : 0 < hours)
  | rangeChoice (choicesHours : List Nat) (defaultHours : Nat)
      (positive : ∀ hours ∈ choicesHours, 0 < hours) (offered : defaultHours ∈ choicesHours)
  | human

def ScopeRule.kind : ScopeRule → ScopeKind
  | .fixed _ _ => .fixed
  | .rangeChoice _ _ _ _ => .rangeChoice
  | .human => .human

def ScopeRule.hours : ScopeRule → Option Nat
  | .fixed hours _ => some hours
  | _ => none

def minuteMicros : Nat := 60000000

def hourMicros : Nat := 3600000000

/-- A policy that `parse_turnaround_policy` accepts. Clock times are microseconds of the day,
and days are counted from 0001-01-01. -/
structure TurnaroundPolicy where
  opensAt : Nat
  closesAt : Nat
  recurringClosed : List (Nat × Nat)
  closedDates : List Nat
  tetYears : List Nat
  scopes : TurnaroundScope → ScopeRule
  services : List (String × TurnaroundScope)
  expressHours : Nat
  opens_lt : opensAt < closesAt
  closes_lt : closesAt < dayMicros
  onMinute : minuteMicros ∣ opensAt ∧ minuteMicros ∣ closesAt
  express_pos : 0 < expressHours

def inTetWindow (n : Nat) : Prop :=
  (month n = 1 ∧ 15 ≤ day n) ∨ (month n = 2 ∧ day n ≤ 29)

instance decidableInTetWindow (n : Nat) : Decidable (inTetWindow n) :=
  inferInstanceAs (Decidable (_ ∨ _))

namespace TurnaroundPolicy

def isClosed (policy : TurnaroundPolicy) (n : Nat) : Prop :=
  n ∈ policy.closedDates ∨ (month n, day n) ∈ policy.recurringClosed

instance decidableIsClosed (policy : TurnaroundPolicy) (n : Nat) : Decidable (policy.isClosed n) :=
  inferInstanceAs (Decidable (_ ∨ _))

def tetUnknown (policy : TurnaroundPolicy) (n : Nat) : Prop :=
  inTetWindow n ∧ year n ∉ policy.tetYears

instance decidableTetUnknown (policy : TurnaroundPolicy) (n : Nat) :
    Decidable (policy.tetUnknown n) :=
  inferInstanceAs (Decidable (_ ∧ _))

def openAt (policy : TurnaroundPolicy) (wall : Nat) : Prop :=
  ¬ policy.isClosed (wall / dayMicros) ∧ policy.opensAt ≤ wall % dayMicros ∧
    wall % dayMicros ≤ policy.closesAt

end TurnaroundPolicy

structure LinePromise where
  serviceCode : String
  scope : Option TurnaroundScope
  slaId : Option String
  hours : Option Nat
  calendarHours : Bool
deriving DecidableEq

structure Promised where
  promisedAt : Int
  basis : String
  ruleId : String
  lines : List LinePromise
  acceptedAt : Datetime
deriving DecidableEq

inductive PromiseDecision where
  | promised (promised : Promised)
  | needsHuman (reasonCodes : List PromiseReason) (serviceCodes : List String)
deriving DecidableEq

section Clock

def floorMinute (wall : Nat) : Nat := wall - wall % minuteMicros

/-- `astimezone(SHOP_TIMEZONE)`. -/
def shopClock (moment : Datetime) : Except PromiseError Nat := do
  require moment.aware (.raised (.valueError "a promise instant must be timezone-aware"))
  let utc ← ofOption (.raised .overflowError) moment.toUtc
  require (utc.wall + shopOffset < wallLimit) (.raised .overflowError)
  .ok (utc.wall + shopOffset.toNat)

/-- `astimezone(UTC)` of a time of the shop's clock. -/
def shopInstant (wall : Nat) : Except PromiseError Int := do
  require (shopOffset ≤ wall) (.raised .overflowError)
  .ok (wall - shopOffset)

/-- `timedelta(hours=hours)`. -/
def hoursDelta (hours : Nat) : Except PromiseError Nat := do
  require (hours / 24 ≤ 999999999) (.raised .overflowError)
  .ok (hours * hourMicros)

/-- `day + timedelta(days=1)`. -/
def dayAfter (n : Nat) : Except PromiseError Nat := do
  require (n + 1 < maxDay) (.raised .overflowError)
  .ok (n + 1)

end Clock

def maxDaysWalked : Nat := 400

variable (policy : TurnaroundPolicy)

/-- The days that `add_opening_hours` walks, from one on which the clock stands at `cursor`. -/
def walkOpening : Nat → Nat → Nat → Nat → Except PromiseError (Option Nat)
  | 0, _, _, _ =>
    .error (.raised (.valueError "the calendar has no opening hours within a year"))
  | days + 1, today, cursor, remaining =>
    if policy.tetUnknown today then .ok none
    else
      let cursor := max cursor (today * dayMicros + policy.opensAt)
      let closeAt := today * dayMicros + policy.closesAt
      if ¬ policy.isClosed today ∧ cursor < closeAt then
        if cursor + remaining ≤ closeAt then .ok (some (floorMinute (cursor + remaining)))
        else do
          let tomorrow ← dayAfter today
          walkOpening days tomorrow (tomorrow * dayMicros + policy.opensAt)
            (remaining - (closeAt - cursor))
      else do
        let tomorrow ← dayAfter today
        walkOpening days tomorrow (tomorrow * dayMicros + policy.opensAt) remaining

/-- `_require_aware`, and hours to add. -/
def requireHours (start : Datetime) (hours : Nat) : Except PromiseError Unit := do
  require start.aware (.raised (.valueError "a promise instant must be timezone-aware"))
  require (0 < hours) (.raised (.valueError "hours must be positive"))

def addOpeningHours (start : Datetime) (hours : Nat) : Except PromiseError (Option Int) := do
  requireHours start hours
  let wall ← shopClock start
  let remaining ← hoursDelta hours
  let landing ← walkOpening policy maxDaysWalked (wall / dayMicros) wall remaining
  match landing with
  | none => .ok none
  | some landing => some <$> shopInstant landing

/-- The first open day from `today` on; a day that is closed moves the promise to an opening. -/
def nextOpen : Nat → Nat → Nat → Except PromiseError (Nat × Nat)
  | 0, _, _ => .error (.raised (.valueError "the calendar has no open day within a year"))
  | days + 1, today, landing =>
    if ¬ policy.isClosed today then .ok (today, landing)
    else do
      let tomorrow ← dayAfter today
      nextOpen days tomorrow (tomorrow * dayMicros + policy.opensAt)

/-- A time of the clock, moved into the opening hours of its day or to the next opening. -/
def rolled (landing : Nat) : Except PromiseError (Nat × Nat) :=
  let today := landing / dayMicros
  if landing % dayMicros < policy.opensAt then .ok (today, today * dayMicros + policy.opensAt)
  else if policy.closesAt < landing % dayMicros then do
    let tomorrow ← dayAfter today
    .ok (tomorrow, tomorrow * dayMicros + policy.opensAt)
  else .ok (today, landing)

def addCalendarHours (start : Datetime) (hours : Nat) : Except PromiseError (Option Int) := do
  requireHours start hours
  let wall ← shopClock start
  let delta ← hoursDelta hours
  require (wall + delta < wallLimit) (.raised .overflowError)
  let first ← rolled policy (floorMinute (wall + delta))
  let landing ← nextOpen policy maxDaysWalked first.1 first.2
  let walked := List.range' (wall / dayMicros) (landing.1 + 1 - wall / dayMicros)
  if ∃ n ∈ walked, policy.tetUnknown n then .ok none
  else do
    let _ ← dayAfter landing.1
    some <$> shopInstant landing.2

/-- A person's own time: later than `after`, on an open day, in opening hours. -/
def checkPromiseTime (at_ after : Datetime) : Except PromiseError Int := do
  let wall ← shopClock at_
  require after.aware (.raised (.valueError "a promise instant must be timezone-aware"))
  let landing := floorMinute wall
  require (after.instant < landing - shopOffset) (.refused .promiseNotAfterAcceptance "")
  require (¬ policy.isClosed (landing / dayMicros)) (.refused .promiseOnClosedDay "")
  require (policy.opensAt ≤ landing % dayMicros ∧ landing % dayMicros ≤ policy.closesAt)
    (.refused .promiseOutsideOpeningHours "")
  shopInstant landing

def linePromise (code : String) : LinePromise :=
  match policy.services.lookup code with
  | none => ⟨code, none, none, none, false⟩
  | some scope => ⟨code, some scope, some (slaIdByScope scope), (policy.scopes scope).hours, false⟩

def lineKind (line : LinePromise) : ScopeKind :=
  match line.scope with
  | none => .human
  | some scope => (policy.scopes scope).kind

def rangeHours (choicesHours : List Nat) (defaultHours : Nat) (choice : Option PromiseChoice) :
    Except PromiseError Nat := do
  let hours := match choice with
    | some .h24 => 24
    | some .h48 => 48
    | _ => defaultHours
  require (hours ∈ choicesHours) (.refused .promiseChoiceNotApplicable "")
  .ok hours

def counted (choice : Option PromiseChoice) (line : LinePromise) : Except PromiseError LinePromise :=
  match line.scope.map policy.scopes with
  | some (.fixed hours _) => .ok { line with hours := some hours }
  | some (.rangeChoice choicesHours defaultHours _ _) => do
    let hours ← rangeHours choicesHours defaultHours choice
    .ok { line with hours := some hours, calendarHours := true }
  | _ => .error (.raised (.valueError "AssertionError"))

def lineTime (acceptedAt : Datetime) (line : LinePromise) : Except PromiseError (Option Int) :=
  match line.hours with
  | none => .error (.raised (.valueError "AssertionError"))
  | some hours =>
    if line.calendarHours then addCalendarHours policy acceptedAt hours
    else addOpeningHours policy acceptedAt hours

/-- The latest line, the first of those that fall together; none across an unpublished Tết. -/
def latestLine (acceptedAt : Datetime) :
    Option (Int × LinePromise) → List LinePromise → Except PromiseError (Option (Int × LinePromise))
  | latest, [] => .ok latest
  | latest, line :: lines => do
    match ← lineTime policy acceptedAt line with
    | none => .ok none
    | some moment =>
      let later := match latest with
        | none => (moment, line)
        | some latest => if latest.1 < moment then (moment, line) else latest
      latestLine acceptedAt (some later) lines

def choiceText : PromiseChoice → String
  | .h24 => "H24"
  | .h48 => "H48"
  | .express2h => "EXPRESS_2H"
  | .custom => "CUSTOM"

def computeExpress (acceptedAt : Datetime) (lines : List LinePromise) :
    Except PromiseError PromiseDecision := do
  require (∀ line ∈ lines, lineKind policy line = .fixed ∧ line.scope = some .standardClothes)
    (.refused .promiseChoiceNotApplicable "express is for an order of standard clothing only")
  match ← addOpeningHours policy acceptedAt policy.expressHours with
  | none => .ok (.needsHuman [.tetDatesUnpublished] [])
  | some moment =>
    .ok (.promised ⟨moment, "EXPRESS_2H", "EXPRESS_2H",
      lines.map fun line => { line with hours := some policy.expressHours }, acceptedAt⟩)

def computeRule (acceptedAt : Datetime) (lines : List LinePromise) (choice : Option PromiseChoice) :
    Except PromiseError PromiseDecision := do
  let usesRange := ∃ line ∈ lines, lineKind policy line = .rangeChoice
  require (choice = some .h24 ∨ choice = some .h48 → usesRange)
    (.refused .promiseChoiceNotApplicable "24/48 h is for shoes, curtains and blankets")
  let needing := lines.filter fun line => lineKind policy line = .human
  if needing ≠ [] then
    .ok (.needsHuman
      ((if ∃ line ∈ needing, line.scope ≠ none then [.humanEtaRequired] else []) ++
        if ∃ line ∈ needing, line.scope = none then [.serviceNotInPolicy] else [])
      (needing.map LinePromise.serviceCode).eraseDups)
  else do
    let lines ← lines.mapM (counted policy choice)
    match ← latestLine policy acceptedAt none lines with
    | none => .ok (.needsHuman [.tetDatesUnpublished] [])
    | some latest =>
      let basis := if usesRange then choiceText (choice.getD .h48) else "RULE"
      .ok (.promised ⟨latest.1, basis, latest.2.slaId.getD "", lines, acceptedAt⟩)

def computePromise (acceptedAt : Datetime) (serviceCodes : List String)
    (choice : Option PromiseChoice) (customAt : Option Datetime) :
    Except PromiseError PromiseDecision := do
  require acceptedAt.aware (.raised (.valueError "a promise instant must be timezone-aware"))
  require (customAt ≠ none → choice = some .custom) (.refused .promiseCustomAtNotTaken "")
  let lines := serviceCodes.map (linePromise policy)
  if choice = some .custom then do
    let customAt ← ofOption (.refused .promiseCustomAtRequired "") customAt
    if serviceCodes = [] then .ok (.needsHuman [.noLines] [])
    else do
      let moment ← checkPromiseTime policy customAt acceptedAt
      .ok (.promised ⟨moment, "CUSTOM", "STAFF_SET", lines, acceptedAt⟩)
  else if serviceCodes = [] then .ok (.needsHuman [.noLines] [])
  else if choice = some .express2h then computeExpress policy acceptedAt lines
  else computeRule policy acceptedAt lines choice

/-- A time the customer may be told after an instant: the shop is open then. -/
def TurnaroundPolicy.offers (after moment : Int) : Prop :=
  after < moment ∧ ∃ wall : Nat, moment = wall - shopOffset ∧ policy.openAt wall

section Times

variable {policy}

lemma floorMinute_le (wall : Nat) : floorMinute wall ≤ wall :=
  Nat.sub_le _ _

lemma lt_floorMinute (wall : Nat) : wall < floorMinute wall + minuteMicros := by
  have hmod : wall % minuteMicros < minuteMicros := Nat.mod_lt _ (by decide)
  rw [floorMinute]
  omega

lemma le_floorMinute {wall moment : Nat} (hminute : minuteMicros ∣ moment) (h : moment ≤ wall) :
    moment ≤ floorMinute wall := by
  obtain ⟨k, rfl⟩ := hminute
  have hle : k ≤ wall / minuteMicros := (Nat.le_div_iff_mul_le (by decide)).mpr (by rwa [mul_comm])
  calc minuteMicros * k ≤ minuteMicros * (wall / minuteMicros) := Nat.mul_le_mul_left _ hle
    _ = floorMinute wall := by
      rw [floorMinute]
      have := Nat.div_add_mod wall minuteMicros
      omega

lemma floorMinute_mono {wall wall' : Nat} (h : wall ≤ wall') : floorMinute wall ≤ floorMinute wall' := by
  refine le_floorMinute ⟨wall / minuteMicros, ?_⟩ ((floorMinute_le wall).trans h)
  have := Nat.div_add_mod wall minuteMicros
  rw [floorMinute]
  omega

lemma lt_floorMinute_add {wall hours : Nat} (h : 0 < hours) :
    wall < floorMinute (wall + hours * hourMicros) := by
  have hlt := lt_floorMinute (wall + hours * hourMicros)
  have hhour : 1 * hourMicros ≤ hours * hourMicros := Nat.mul_le_mul_right _ h
  have hminute : minuteMicros < hourMicros := by decide
  omega

lemma openAt_of_within {today landing : Nat} (hopen : ¬ policy.isClosed today)
    (hopens : today * dayMicros + policy.opensAt ≤ landing)
    (hcloses : landing ≤ today * dayMicros + policy.closesAt) : policy.openAt landing := by
  have hlt := policy.closes_lt
  obtain ⟨clock, rfl⟩ := Nat.exists_eq_add_of_le hopens
  have hclock : policy.opensAt + clock < dayMicros := by omega
  have hday : (today * dayMicros + policy.opensAt + clock) / dayMicros = today := by
    rw [Nat.add_assoc, Nat.mul_comm, Nat.mul_add_div (by decide), Nat.div_eq_of_lt hclock,
      Nat.add_zero]
  have htime : (today * dayMicros + policy.opensAt + clock) % dayMicros = policy.opensAt + clock := by
    rw [Nat.add_assoc, Nat.mul_comm, Nat.mul_add_mod, Nat.mod_eq_of_lt hclock]
  rw [TurnaroundPolicy.openAt, hday, htime]
  exact ⟨hopen, Nat.le_add_right _ _, by omega⟩

lemma minute_dvd_opening (today : Nat) : minuteMicros ∣ today * dayMicros + policy.opensAt :=
  Nat.dvd_add (Dvd.dvd.mul_left (by decide) today) policy.onMinute.1

lemma dayAfter_ok {today tomorrow : Nat} (h : dayAfter today = .ok tomorrow) :
    tomorrow = today + 1 := by
  obtain ⟨_, -, h⟩ := bind_ok.mp h
  cases h
  rfl

lemma shopClock_ok {moment : Datetime} {wall : Nat} (h : shopClock moment = .ok wall) :
    moment.aware ∧ (wall : Int) = moment.instant + shopOffset := by
  obtain ⟨_, haware, h⟩ := bind_ok.mp h
  obtain ⟨utc, hutc, h⟩ := bind_ok.mp h
  obtain ⟨_, -, h⟩ := bind_ok.mp h
  cases h
  rw [require_ok] at haware
  rw [ofOption_ok] at hutc
  refine ⟨haware, ?_⟩
  rw [Nat.cast_add, Int.toNat_of_nonneg (by decide), Datetime.wall_toUtc hutc]

lemma shopInstant_ok {wall : Nat} {moment : Int} (h : shopInstant wall = .ok moment) :
    moment = wall - shopOffset := by
  obtain ⟨_, -, h⟩ := bind_ok.mp h
  cases h
  rfl

lemma hoursDelta_ok {hours delta : Nat} (h : hoursDelta hours = .ok delta) :
    delta = hours * hourMicros := by
  obtain ⟨_, -, h⟩ := bind_ok.mp h
  cases h
  rfl

lemma rolled_ok {landing : Nat} {first : Nat × Nat} (h : rolled policy landing = .ok first) :
    first.1 * dayMicros + policy.opensAt ≤ first.2 ∧
      first.2 ≤ first.1 * dayMicros + policy.closesAt ∧ landing ≤ first.2 := by
  have hopens := policy.opens_lt
  have hclock := Nat.div_add_mod landing dayMicros
  have hmod : landing % dayMicros < dayMicros := Nat.mod_lt _ (by decide)
  rw [mul_comm] at hclock
  simp only [rolled] at h
  by_cases hearly : landing % dayMicros < policy.opensAt
  · rw [if_pos hearly] at h
    cases h
    refine ⟨?_, ?_, ?_⟩ <;> dsimp only <;> omega
  rw [if_neg hearly] at h
  by_cases hlate : policy.closesAt < landing % dayMicros
  · rw [if_pos hlate] at h
    obtain ⟨tomorrow, htomorrow, h⟩ := bind_ok.mp h
    cases dayAfter_ok htomorrow
    cases h
    dsimp only
    rw [Nat.add_mul]
    refine ⟨?_, ?_, ?_⟩ <;> omega
  · rw [if_neg hlate] at h
    cases h
    refine ⟨?_, ?_, ?_⟩ <;> dsimp only <;> omega

lemma nextOpen_ok {days today landing : Nat} {found : Nat × Nat}
    (h : nextOpen policy days today landing = .ok found)
    (hopens : today * dayMicros + policy.opensAt ≤ landing)
    (hcloses : landing ≤ today * dayMicros + policy.closesAt) :
    policy.openAt found.2 ∧ landing ≤ found.2 := by
  have hwithin := policy.opens_lt
  have hday := policy.closes_lt
  induction days generalizing today landing with
  | zero => cases h
  | succ days ih =>
    rw [nextOpen] at h
    by_cases hopen : ¬ policy.isClosed today
    · rw [if_pos hopen] at h
      cases h
      exact ⟨openAt_of_within hopen hopens hcloses, le_rfl⟩
    · rw [if_neg hopen] at h
      obtain ⟨tomorrow, htomorrow, h⟩ := bind_ok.mp h
      cases dayAfter_ok htomorrow
      obtain ⟨hfound, hle⟩ := ih h le_rfl (by omega)
      refine ⟨hfound, le_trans ?_ hle⟩
      rw [Nat.add_mul]
      omega

lemma checkPromiseTime_ok {at_ after : Datetime} {moment : Int}
    (h : checkPromiseTime policy at_ after = .ok moment) : policy.offers after.instant moment := by
  obtain ⟨wall, -, h⟩ := bind_ok.mp h
  obtain ⟨_, -, h⟩ := bind_ok.mp h
  obtain ⟨_, hlater, h⟩ := bind_ok.mp h
  obtain ⟨_, hopen, h⟩ := bind_ok.mp h
  obtain ⟨_, hhours, h⟩ := bind_ok.mp h
  rw [require_ok] at hlater hopen hhours
  cases shopInstant_ok h
  exact ⟨hlater, floorMinute wall, rfl, hopen, hhours⟩

end Times

end NhaTrangLaundry.Domain.Promise
