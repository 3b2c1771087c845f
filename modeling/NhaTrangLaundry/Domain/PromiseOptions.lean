import NhaTrangLaundry.Domain.PromiseArithmetic

/-! What the counter is shown before it takes the laundry in, and the promise that is then
stored. -/

namespace NhaTrangLaundry.Domain.Promise

open Lib Outcome Gregorian Unclaimed

inductive PromiseRequirement where
  | none
  | rangeChoice
  | custom
deriving DecidableEq

structure ChoiceOption where
  choice : PromiseChoice
  promisedAt : Option Int
deriving DecidableEq

structure PromiseOptions where
  requirement : PromiseRequirement
  defaultPromisedAt : Option Int
  defaultChoice : Option PromiseChoice
  choices : List ChoiceOption
  reasonCodes : List PromiseReason
  humanServiceCodes : List String
deriving DecidableEq

variable (policy : TurnaroundPolicy)

def optionOf (choice : PromiseChoice) : PromiseDecision → List ChoiceOption
  | .promised promised => [⟨choice, some promised.promisedAt⟩]
  | .needsHuman _ _ => []

/-- The express promise; a refusal of the choice is no promise, any other exception is raised. -/
def tryExpress (acceptedAt : Datetime) (serviceCodes : List String) :
    Except PromiseError (List ChoiceOption) :=
  match computePromise policy acceptedAt serviceCodes (some .express2h) none with
  | .ok decision => .ok (optionOf .express2h decision)
  | .error (.refused _ _) => .ok []
  | .error (.raised e) => .error (.raised e)

def promiseOptions (acceptedAt : Datetime) (serviceCodes : List String) :
    Except PromiseError PromiseOptions := do
  match ← computePromise policy acceptedAt serviceCodes none none with
  | .needsHuman reasonCodes humanServiceCodes =>
    .ok ⟨.custom, none, none, [⟨.custom, none⟩], reasonCodes, humanServiceCodes⟩
  | .promised default =>
    if ∃ line ∈ serviceCodes.map (linePromise policy), lineKind policy line = .rangeChoice then do
      let h24 ← computePromise policy acceptedAt serviceCodes (some .h24) none
      let h48 ← computePromise policy acceptedAt serviceCodes (some .h48) none
      .ok ⟨.rangeChoice, some default.promisedAt, some .h48,
        optionOf .h24 h24 ++ optionOf .h48 h48 ++ [⟨.custom, none⟩], [], []⟩
    else do
      let express ← tryExpress policy acceptedAt serviceCodes
      .ok ⟨.none, some default.promisedAt, none, express ++ [⟨.custom, none⟩], [], []⟩

def PromisedAt (acceptedAt : Datetime) (serviceCodes : List String) (choice : Option PromiseChoice)
    (moment : Int) : Prop :=
  ∃ promised, computePromise policy acceptedAt serviceCodes choice none = .ok (.promised promised) ∧
    promised.promisedAt = moment

def Latest (acceptedAt : Datetime) (promised : Promised) : Prop :=
  (∀ line ∈ promised.lines, ∃ moment, lineTime policy acceptedAt line = .ok (some moment)) ∧
    IsGreatest {moment | ∃ line ∈ promised.lines, lineTime policy acceptedAt line = .ok (some moment)}
      promised.promisedAt

/-- The times that are shown are the times of the promises that they stand for. -/
structure PromiseOptions.Agrees (acceptedAt : Datetime) (serviceCodes : List String)
    (options : PromiseOptions) : Prop where
  listed : ∀ option ∈ options.choices, ∀ moment ∈ option.promisedAt,
    PromisedAt policy acceptedAt serviceCodes (some option.choice) moment
  default : ∀ moment, options.defaultPromisedAt = some moment ↔
    PromisedAt policy acceptedAt serviceCodes none moment
  chosen : ∀ choice ∈ options.defaultChoice, ∀ moment ∈ options.defaultPromisedAt,
    PromisedAt policy acceptedAt serviceCodes (some choice) moment

/-- What is shown is what is stored, and what is stored is the latest of the lines. -/
structure ShownAsStored (acceptedAt : Datetime) (serviceCodes : List String) : Prop where
  shown : ∃ options, promiseOptions policy acceptedAt serviceCodes = .ok options ∧
    options.Agrees policy acceptedAt serviceCodes
  latest : ∀ choice promised, choice ≠ some .custom →
    computePromise policy acceptedAt serviceCodes choice none = .ok (.promised promised) →
    promised.lines.map LinePromise.serviceCode = serviceCodes ∧ Latest policy acceptedAt promised
  reordered : ∀ choice moment serviceCodes', serviceCodes.Perm serviceCodes' →
    (PromisedAt policy acceptedAt serviceCodes choice moment ↔
      PromisedAt policy acceptedAt serviceCodes' choice moment)
  extended : ∀ choice moment moment' serviceCodes', serviceCodes ⊆ serviceCodes' →
    PromisedAt policy acceptedAt serviceCodes choice moment →
    PromisedAt policy acceptedAt serviceCodes' choice moment' → moment ≤ moment'
  ordered : ∀ moment moment', PromisedAt policy acceptedAt serviceCodes (some .h24) moment →
    PromisedAt policy acceptedAt serviceCodes (some .h48) moment' → moment ≤ moment'

def choiceHours (choice : Option PromiseChoice) (defaultHours : Nat) : Nat :=
  match choice with
  | some .h24 => 24
  | some .h48 => 48
  | _ => defaultHours

def publishes (choice : Option PromiseChoice) (line : LinePromise) : Prop :=
  match line.scope.map policy.scopes with
  | some (.rangeChoice choicesHours defaultHours _ _) =>
    choiceHours choice defaultHours ∈ choicesHours
  | _ => True

/-- When the line is done: after the opening hours of its rule, or the calendar hours chosen. -/
def timeUnder (acceptedAt : Datetime) (choice : Option PromiseChoice) (line : LinePromise) :
    Except PromiseError (Option Int) :=
  match line.scope.map policy.scopes with
  | some (.fixed hours _) => addOpeningHours policy acceptedAt hours
  | some (.rangeChoice _ defaultHours _ _) =>
    addCalendarHours policy acceptedAt (choiceHours choice defaultHours)
  | _ => .ok none

def timesUnder (acceptedAt : Datetime) (choice : Option PromiseChoice) (serviceCodes : List String) :
    List (Except PromiseError (Option Int)) :=
  serviceCodes.map fun code => timeUnder policy acceptedAt choice (linePromise policy code)

/-- Nothing is raised before a line meets a Tết that is not published. -/
def Walks : List (Except PromiseError (Option Int)) → Prop
  | [] => True
  | time :: times => time = .ok none ∨ (∃ moment, time = .ok (some moment)) ∧ Walks times

def AllTimed (times : List (Except PromiseError (Option Int))) : Prop :=
  ∀ time ∈ times, ∃ moment, time = .ok (some moment)

def LatestOf (times : List (Except PromiseError (Option Int))) (moment : Int) : Prop :=
  IsGreatest {m | .ok (some m) ∈ times} moment

def needsPerson (code : String) : Prop := lineKind policy (linePromise policy code) = .human

def isRange (code : String) : Prop := lineKind policy (linePromise policy code) = .rangeChoice

def isStandard (code : String) : Prop :=
  lineKind policy (linePromise policy code) = .fixed ∧
    (linePromise policy code).scope = some .standardClothes

/-- With a range on the order, every range publishes 24 and 48 hours and the order is as late
under its defaults as under 48 hours; with standard clothes alone, express hours can be added. -/
def ChoicesAgree (acceptedAt : Datetime) (serviceCodes : List String) : Prop :=
  let times := fun choice => timesUnder policy acceptedAt choice serviceCodes
  ((∃ code ∈ serviceCodes, isRange policy code) →
    (∀ code ∈ serviceCodes, publishes policy (some .h24) (linePromise policy code) ∧
      publishes policy (some .h48) (linePromise policy code)) ∧
    Walks (times (some .h24)) ∧ AllTimed (times (some .h48)) ∧
    ∀ moment, LatestOf (times none) moment → LatestOf (times (some .h48)) moment) ∧
  ((∀ code ∈ serviceCodes, isStandard policy code) →
    ∃ found, addOpeningHours policy acceptedAt policy.expressHours = .ok found)

/-- What is shown agrees with what is stored when a person must set the promise, and otherwise
where the choices agree. -/
def OptionsAgree (acceptedAt : Datetime) (serviceCodes : List String) : Prop :=
  let times := timesUnder policy acceptedAt none serviceCodes
  acceptedAt.aware ∧ (serviceCodes = [] ∨ (∃ code ∈ serviceCodes, needsPerson policy code) ∨
    (Walks times ∧ .ok none ∈ times) ∨
    (AllTimed times ∧ ChoicesAgree policy acceptedAt serviceCodes))

section

variable {policy : TurnaroundPolicy} {acceptedAt : Datetime} {choice : Option PromiseChoice}
  {serviceCodes : List String} {lines : List LinePromise} {line : LinePromise}
  {times : List (Except PromiseError (Option Int))} {latest : Option (Int × LinePromise)}

lemma publishes_default (line : LinePromise) : publishes policy none line := by
  unfold publishes
  split
  · next hours defaultHours positive offered hrule => exact offered
  · trivial

lemma rangeHours_eq (choicesHours : List Nat) (defaultHours : Nat) :
    rangeHours choicesHours defaultHours choice =
      (require (choiceHours choice defaultHours ∈ choicesHours)
        (.refused .promiseChoiceNotApplicable "") >>= fun _ => .ok (choiceHours choice defaultHours)) := by
  cases choice with
  | none => rfl
  | some choice => cases choice <;> rfl

lemma counted_publishes (hkind : lineKind policy line ≠ .human) (hclock : line.calendarHours = false)
    (h : publishes policy choice line) :
    ∃ line', counted policy choice line = .ok line' ∧ line'.serviceCode = line.serviceCode ∧
      lineTime policy acceptedAt line' = timeUnder policy acceptedAt choice line := by
  unfold publishes at h
  unfold counted timeUnder
  cases hscope : line.scope with
  | none => exact absurd (by rw [lineKind, hscope]) hkind
  | some scope =>
    simp only [lineKind, hscope] at hkind
    simp only [hscope, Option.map_some] at h ⊢
    cases hrule : policy.scopes scope with
    | fixed hours positive =>
      exact ⟨_, rfl, rfl, by simp [lineTime, hclock]⟩
    | rangeChoice choicesHours defaultHours positive offered =>
      simp only [hrule] at h
      simp only [rangeHours_eq, require_true h, ok_bind]
      exact ⟨_, rfl, rfl, rfl⟩
    | human => exact absurd (by rw [hrule]; rfl) hkind

lemma counted_refused (h : ¬ publishes policy choice line) :
    counted policy choice line = .error (.refused .promiseChoiceNotApplicable "") := by
  unfold publishes at h
  unfold counted
  split at h
  · next choicesHours defaultHours positive offered hrule =>
    simp only [hrule, rangeHours_eq, require_false h, error_bind]
  · exact absurd trivial h

lemma counted_lines (hkinds : ∀ line ∈ lines, lineKind policy line ≠ .human)
    (hclocks : ∀ line ∈ lines, line.calendarHours = false)
    (h : ∀ line ∈ lines, publishes policy choice line) :
    ∃ lines', lines.mapM (counted policy choice) = .ok lines' ∧
      lines'.map LinePromise.serviceCode = lines.map LinePromise.serviceCode ∧
      lines'.map (lineTime policy acceptedAt) = lines.map (timeUnder policy acceptedAt choice) := by
  induction lines with
  | nil => exact ⟨[], rfl, rfl, rfl⟩
  | cons line lines ih =>
    rw [List.forall_mem_cons] at hkinds hclocks h
    obtain ⟨line', hline, hcode, htime⟩ :=
      @counted_publishes policy acceptedAt choice line hkinds.1 hclocks.1 h.1
    obtain ⟨lines', hlines, hcodes, htimes⟩ := ih hkinds.2 hclocks.2 h.2
    refine ⟨line' :: lines', mapM_ok.mpr (.cons hline (mapM_ok.mp hlines)), ?_, ?_⟩
    · rw [List.map_cons, List.map_cons, hcode, hcodes]
    · rw [List.map_cons, List.map_cons, htime, htimes]

lemma counted_lines_publish {lines' : List LinePromise}
    (h : lines.mapM (counted policy choice) = .ok lines') :
    ∀ line ∈ lines, publishes policy choice line := by
  rw [mapM_ok] at h
  induction h with
  | nil => exact fun _ hline => nomatch hline
  | @cons line line' lines lines' hcounted _ ih =>
    refine List.forall_mem_cons.mpr ⟨?_, ih⟩
    by_contra hnot
    rw [counted_refused hnot] at hcounted
    cases hcounted

lemma AllTimed.walks (h : AllTimed times) : Walks times := by
  induction times with
  | nil => trivial
  | cons time times ih =>
    rw [AllTimed, List.forall_mem_cons] at h
    exact .inr ⟨h.1, ih h.2⟩

lemma AllTimed.not_none (h : AllTimed times) : .ok none ∉ times := by
  intro hmem
  obtain ⟨moment, hmoment⟩ := h _ hmem
  cases hmoment

lemma Walks.timed_or_none (h : Walks times) : AllTimed times ∨ .ok none ∈ times := by
  induction times with
  | nil => exact .inl fun _ hmem => nomatch hmem
  | cons time times ih =>
    rcases h with hnone | ⟨htime, hrest⟩
    · exact .inr (hnone ▸ List.mem_cons_self)
    · rcases ih hrest with hall | hnone
      · exact .inl (List.forall_mem_cons.mpr ⟨htime, hall⟩)
      · exact .inr (List.mem_cons_of_mem _ hnone)

lemma LatestOf.unique {moment moment' : Int} (h : LatestOf times moment)
    (h' : LatestOf times moment') : moment = moment' :=
  IsGreatest.unique h h'

lemma latestLine_returns :
    (∃ found, latestLine policy acceptedAt latest lines = .ok found) ↔
      Walks (lines.map (lineTime policy acceptedAt)) := by
  induction lines generalizing latest with
  | nil => exact ⟨fun _ => trivial, fun _ => ⟨latest, rfl⟩⟩
  | cons line lines ih =>
    rw [latestLine, List.map_cons, Walks]
    cases htime : lineTime policy acceptedAt line with
    | error e => simp
    | ok time =>
      rw [ok_bind]
      cases time with
      | none => simp
      | some moment =>
        simp only [ih]
        simp

lemma latestLine_none (h : latestLine policy acceptedAt latest lines = .ok none) :
    (latest = none ∧ lines = []) ∨ .ok none ∈ lines.map (lineTime policy acceptedAt) := by
  induction lines generalizing latest with
  | nil =>
    cases h
    exact .inl ⟨rfl, rfl⟩
  | cons line lines ih =>
    right
    rw [latestLine] at h
    obtain ⟨time, htime, h⟩ := bind_ok.mp h
    cases time with
    | none => exact List.mem_map.mpr ⟨line, List.mem_cons_self, htime⟩
    | some moment =>
      rcases ih h with ⟨hsome, -⟩ | hmem
      · cases hsome
      · exact List.mem_cons_of_mem _ hmem

lemma latestLine_some {found : Int × LinePromise}
    (h : latestLine policy acceptedAt latest lines = .ok (some found)) :
    AllTimed (lines.map (lineTime policy acceptedAt)) ∧ (∀ l ∈ latest, l.1 ≤ found.1) ∧
      (∀ moment, .ok (some moment) ∈ lines.map (lineTime policy acceptedAt) → moment ≤ found.1) ∧
      ((∃ l ∈ latest, l.1 = found.1) ∨
        .ok (some found.1) ∈ lines.map (lineTime policy acceptedAt)) := by
  induction lines generalizing latest with
  | nil =>
    cases h
    refine ⟨fun _ hmem => (nomatch hmem), ?_, fun _ hmem => (nomatch hmem), .inl ⟨found, rfl, rfl⟩⟩
    rintro l ⟨⟩
    exact le_rfl
  | cons line lines ih =>
    rw [latestLine] at h
    obtain ⟨time, htime, h⟩ := bind_ok.mp h
    cases time with
    | none => cases h
    | some moment =>
      obtain ⟨hall, hfirst, hrest, hattained⟩ := ih h
      have hlater := hfirst _ rfl
      have hmoment : moment ≤ found.1 ∧ ∀ l ∈ latest, l.1 ≤ found.1 := by
        cases latest with
        | none => exact ⟨hlater, fun _ hl => (nomatch hl)⟩
        | some l =>
          dsimp only at hlater
          split_ifs at hlater with hlt
          · exact ⟨hlater, fun l' hl => by cases hl; exact (le_of_lt hlt).trans hlater⟩
          · exact ⟨(not_lt.mp hlt).trans hlater, fun l' hl => by cases hl; exact hlater⟩
      rw [List.map_cons]
      refine ⟨List.forall_mem_cons.mpr ⟨⟨moment, htime⟩, hall⟩, hmoment.2, fun m hm => ?_, ?_⟩
      · rcases List.mem_cons.mp hm with heq | hm
        · rw [htime] at heq
          cases heq
          exact hmoment.1
        · exact hrest m hm
      · rcases hattained with ⟨l', hl', hfound⟩ | hmem
        · cases latest with
          | none =>
            cases hl'
            rw [← hfound, htime]
            exact .inr List.mem_cons_self
          | some l =>
            dsimp only at hl'
            split_ifs at hl' with hlt
            · cases hl'
              rw [← hfound, htime]
              exact .inr List.mem_cons_self
            · cases hl'
              exact .inl ⟨l', rfl, hfound⟩
        · exact .inr (List.mem_cons_of_mem _ hmem)

lemma latestLine_of_timed (hne : lines ≠ []) (h : AllTimed (lines.map (lineTime policy acceptedAt))) :
    ∃ found, latestLine policy acceptedAt none lines = .ok (some found) := by
  obtain ⟨found, hfound⟩ : ∃ found, latestLine policy acceptedAt none lines = .ok found :=
    latestLine_returns.mpr h.walks
  cases found with
  | some found => exact ⟨found, hfound⟩
  | none =>
    rcases latestLine_none hfound with ⟨-, hnil⟩ | hmem
    · exact absurd hnil hne
    · exact absurd hmem h.not_none

lemma computeRule_counted (hkinds : ∀ line ∈ lines, lineKind policy line ≠ .human)
    (hclocks : ∀ line ∈ lines, line.calendarHours = false)
    (hrange : choice = some .h24 ∨ choice = some .h48 →
      ∃ line ∈ lines, lineKind policy line = .rangeChoice)
    (h : ∀ line ∈ lines, publishes policy choice line) :
    ∃ lines' basis, lines'.map LinePromise.serviceCode = lines.map LinePromise.serviceCode ∧
      lines'.map (lineTime policy acceptedAt) = lines.map (timeUnder policy acceptedAt choice) ∧
      computeRule policy acceptedAt lines choice =
        (latestLine policy acceptedAt none lines' >>= fun
          | none => .ok (.needsHuman [.tetDatesUnpublished] [])
          | some latest =>
            .ok (.promised ⟨latest.1, basis, latest.2.slaId.getD "", lines', acceptedAt⟩)) := by
  obtain ⟨lines', hlines, hcodes, htimes⟩ := @counted_lines policy acceptedAt choice lines hkinds hclocks h
  refine ⟨lines', if ∃ line ∈ lines, lineKind policy line = .rangeChoice then
    choiceText (choice.getD .h48) else "RULE", hcodes, htimes, ?_⟩
  have hnone : lines.filter (fun line => lineKind policy line = .human) = [] :=
    List.filter_eq_nil_iff.mpr fun line hline => by simpa using hkinds line hline
  rw [computeRule, require_true hrange]
  refine (if_neg (not_not.mpr hnone)).trans ?_
  exact congrArg (fun counting => counting >>= _) hlines

structure Ruled (policy : TurnaroundPolicy) (choice : Option PromiseChoice)
    (serviceCodes : List String) : Prop where
  rule : choice ≠ some .custom ∧ choice ≠ some .express2h
  nonempty : serviceCodes ≠ []
  known : ∀ code ∈ serviceCodes, ¬ needsPerson policy code
  range : choice = some .h24 ∨ choice = some .h48 → ∃ code ∈ serviceCodes, isRange policy code

lemma linePromise_serviceCode (code : String) : (linePromise policy code).serviceCode = code := by
  rw [linePromise]
  split <;> rfl

lemma linePromise_calendarHours (code : String) : (linePromise policy code).calendarHours = false := by
  rw [linePromise]
  split <;> rfl

lemma known_lines : (serviceCodes.map (linePromise policy)).filter
    (fun line => lineKind policy line = .human) = [] ↔ ∀ code ∈ serviceCodes, ¬ needsPerson policy code := by
  rw [List.filter_eq_nil_iff, List.forall_mem_map]
  simp only [decide_eq_true_eq, needsPerson]

lemma range_lines : (∃ line ∈ serviceCodes.map (linePromise policy), lineKind policy line = .rangeChoice) ↔
    ∃ code ∈ serviceCodes, isRange policy code := by
  simp only [List.mem_map, exists_exists_and_eq_and, isRange]

lemma standard_lines : (∀ line ∈ serviceCodes.map (linePromise policy),
    lineKind policy line = .fixed ∧ line.scope = some .standardClothes) ↔
      ∀ code ∈ serviceCodes, isStandard policy code :=
  List.forall_mem_map

lemma computePromise_rule (haware : acceptedAt.aware)
    (hrule : choice ≠ some .custom ∧ choice ≠ some .express2h) (hne : serviceCodes ≠ []) :
    computePromise policy acceptedAt serviceCodes choice none =
      computeRule policy acceptedAt (serviceCodes.map (linePromise policy)) choice := by
  rw [computePromise, require_true haware, ok_bind, require_true (fun h => absurd rfl h), ok_bind]
  simp only [if_neg hrule.1, if_neg hne, if_neg hrule.2]

namespace Ruled

lemma computePromise_counted (hr : Ruled policy choice serviceCodes) (haware : acceptedAt.aware)
    (h : ∀ code ∈ serviceCodes, publishes policy choice (linePromise policy code)) :
    ∃ lines' basis, lines'.map LinePromise.serviceCode = serviceCodes ∧
      lines'.map (lineTime policy acceptedAt) = timesUnder policy acceptedAt choice serviceCodes ∧
      computePromise policy acceptedAt serviceCodes choice none =
        (latestLine policy acceptedAt none lines' >>= fun
          | none => .ok (.needsHuman [.tetDatesUnpublished] [])
          | some latest =>
            .ok (.promised ⟨latest.1, basis, latest.2.slaId.getD "", lines', acceptedAt⟩)) := by
  obtain ⟨lines', basis, hcodes, htimes, hrule⟩ :=
    @computeRule_counted policy acceptedAt choice (serviceCodes.map (linePromise policy))
      (List.forall_mem_map.mpr hr.known)
      (List.forall_mem_map.mpr fun code _ => linePromise_calendarHours code)
      (fun hchoice => range_lines.mpr (hr.range hchoice))
      (List.forall_mem_map.mpr h)
  refine ⟨lines', basis, ?_, ?_, by rw [computePromise_rule haware hr.rule hr.nonempty, hrule]⟩
  · rw [hcodes, List.map_map]
    exact (List.map_congr_left fun code _ => linePromise_serviceCode code).trans (List.map_id _)
  · rw [htimes, List.map_map]
    rfl

lemma publishes_of_ok (hr : Ruled policy choice serviceCodes) (haware : acceptedAt.aware)
    {decision : PromiseDecision}
    (h : computePromise policy acceptedAt serviceCodes choice none = .ok decision) :
    ∀ code ∈ serviceCodes, publishes policy choice (linePromise policy code) := by
  rw [computePromise_rule haware hr.rule hr.nonempty, computeRule] at h
  obtain ⟨_, -, h⟩ := bind_ok.mp h
  simp only [known_lines.mpr hr.known, ne_eq, not_true_eq_false, if_false] at h
  obtain ⟨lines', hlines, -⟩ := bind_ok.mp h
  exact List.forall_mem_map.mp
    (counted_lines_publish hlines)

lemma returns_iff (hr : Ruled policy choice serviceCodes) (haware : acceptedAt.aware) :
    (∃ decision, computePromise policy acceptedAt serviceCodes choice none = .ok decision) ↔
      (∀ code ∈ serviceCodes, publishes policy choice (linePromise policy code)) ∧
        Walks (timesUnder policy acceptedAt choice serviceCodes) := by
  constructor
  · rintro ⟨decision, h⟩
    have hpublishes := hr.publishes_of_ok haware h
    obtain ⟨lines', basis, -, htimes, heq⟩ := hr.computePromise_counted haware hpublishes
    rw [heq] at h
    obtain ⟨found, hfound, -⟩ := bind_ok.mp h
    exact ⟨hpublishes, htimes ▸ latestLine_returns.mp ⟨found, hfound⟩⟩
  · rintro ⟨hpublishes, hwalks⟩
    obtain ⟨lines', basis, -, htimes, heq⟩ := hr.computePromise_counted haware hpublishes
    rw [← htimes] at hwalks
    obtain ⟨found, hfound⟩ : ∃ found, latestLine policy acceptedAt none lines' = .ok found :=
      latestLine_returns.mpr hwalks
    rw [heq, hfound, ok_bind]
    cases found with
    | none => exact ⟨_, rfl⟩
    | some latest => exact ⟨_, rfl⟩

lemma latestOf (hr : Ruled policy choice serviceCodes) (haware : acceptedAt.aware) {promised : Promised}
    (h : computePromise policy acceptedAt serviceCodes choice none = .ok (.promised promised)) :
    promised.lines.map LinePromise.serviceCode = serviceCodes ∧
      promised.lines.map (lineTime policy acceptedAt) =
        timesUnder policy acceptedAt choice serviceCodes ∧
      AllTimed (timesUnder policy acceptedAt choice serviceCodes) ∧
      LatestOf (timesUnder policy acceptedAt choice serviceCodes) promised.promisedAt := by
  have hpublishes := hr.publishes_of_ok haware h
  obtain ⟨lines', basis, hcodes, htimes, heq⟩ := hr.computePromise_counted haware hpublishes
  rw [heq] at h
  obtain ⟨found, hfound, h⟩ := bind_ok.mp h
  cases found with
  | none => cases h
  | some latest =>
    cases h
    obtain ⟨hall, -, hle, hattained⟩ := latestLine_some hfound
    rw [← htimes]
    refine ⟨hcodes, rfl, hall, hattained.resolve_left ?_, fun moment hmoment => hle moment hmoment⟩
    rintro ⟨_, ⟨⟩, -⟩

lemma promisedAt_iff (hr : Ruled policy choice serviceCodes) (haware : acceptedAt.aware)
    (moment : Int) : PromisedAt policy acceptedAt serviceCodes choice moment ↔
      (∀ code ∈ serviceCodes, publishes policy choice (linePromise policy code)) ∧
        AllTimed (timesUnder policy acceptedAt choice serviceCodes) ∧
        LatestOf (timesUnder policy acceptedAt choice serviceCodes) moment := by
  constructor
  · rintro ⟨promised, h, rfl⟩
    obtain ⟨-, -, hall, hlatest⟩ := hr.latestOf haware h
    exact ⟨hr.publishes_of_ok haware h, hall, hlatest⟩
  · rintro ⟨hpublishes, hall, hlatest⟩
    obtain ⟨lines', basis, hcodes, htimes, heq⟩ := hr.computePromise_counted haware hpublishes
    have hne : lines' ≠ [] := by
      rintro rfl
      exact hr.nonempty hcodes.symm
    rw [← htimes] at hall
    obtain ⟨found, hfound⟩ := latestLine_of_timed hne hall
    rw [hfound, ok_bind] at heq
    refine ⟨_, heq, ?_⟩
    exact (hr.latestOf haware heq).2.2.2.unique hlatest

end Ruled

lemma promisedAt_aware {moment : Int} (h : PromisedAt policy acceptedAt serviceCodes choice moment) :
    acceptedAt.aware := by
  obtain ⟨promised, h, -⟩ := h
  obtain ⟨_, haware, -⟩ := bind_ok.mp h
  exact require_ok.mp haware

lemma computePromise_nil (haware : acceptedAt.aware) (hcustom : choice ≠ some .custom) :
    computePromise policy acceptedAt [] choice none = .ok (.needsHuman [.noLines] []) := by
  rw [computePromise, require_true haware, ok_bind, require_true (fun h => absurd rfl h), ok_bind]
  simp only [if_neg hcustom, if_true]

lemma not_promisedAt_custom (moment : Int) :
    ¬ PromisedAt policy acceptedAt serviceCodes (some .custom) moment := by
  rintro ⟨promised, h, -⟩
  obtain ⟨_, -, h⟩ := bind_ok.mp h
  obtain ⟨_, -, h⟩ := bind_ok.mp h
  rw [if_pos rfl] at h
  obtain ⟨customAt, hcustom, -⟩ := bind_ok.mp h
  cases hcustom

lemma promisedAt_ruled {moment : Int} (hrule : choice ≠ some .custom ∧ choice ≠ some .express2h)
    (h : PromisedAt policy acceptedAt serviceCodes choice moment) :
    Ruled policy choice serviceCodes := by
  have haware := promisedAt_aware h
  obtain ⟨promised, h, -⟩ := h
  have hne : serviceCodes ≠ [] := by
    rintro rfl
    rw [computePromise_nil haware hrule.1] at h
    cases h
  rw [computePromise_rule haware hrule hne, computeRule] at h
  obtain ⟨_, hrange, h⟩ := bind_ok.mp h
  rw [require_ok] at hrange
  refine ⟨hrule, hne, fun code hcode hperson => ?_, fun hchoice => ?_⟩
  · have hneeding : (serviceCodes.map (linePromise policy)).filter
        (fun line => lineKind policy line = .human) ≠ [] :=
      fun hnil => known_lines.mp hnil code hcode hperson
    simp only [if_pos hneeding] at h
    cases h
  · exact range_lines.mp (hrange hchoice)

lemma computePromise_express (haware : acceptedAt.aware) (hne : serviceCodes ≠ []) :
    computePromise policy acceptedAt serviceCodes (some .express2h) none =
      computeExpress policy acceptedAt (serviceCodes.map (linePromise policy)) := by
  rw [computePromise, require_true haware, ok_bind, require_true (fun h => absurd rfl h), ok_bind]
  simp only [if_neg hne, if_true, reduceCtorEq, if_false, Option.some.injEq]

lemma promisedAt_express {moment : Int} :
    PromisedAt policy acceptedAt serviceCodes (some .express2h) moment ↔
      acceptedAt.aware ∧ serviceCodes ≠ [] ∧ (∀ code ∈ serviceCodes, isStandard policy code) ∧
        addOpeningHours policy acceptedAt policy.expressHours = .ok (some moment) := by
  constructor
  · intro h
    have haware := promisedAt_aware h
    obtain ⟨promised, h, rfl⟩ := h
    have hne : serviceCodes ≠ [] := by
      rintro rfl
      rw [computePromise_nil haware (by decide)] at h
      cases h
    rw [computePromise_express haware hne] at h
    obtain ⟨_, hstandard, h⟩ := bind_ok.mp h
    obtain ⟨found, hfound, h⟩ := bind_ok.mp h
    cases found with
    | none => cases h
    | some found =>
      cases h
      exact ⟨haware, hne, standard_lines.mp (require_ok.mp hstandard), hfound⟩
  · rintro ⟨haware, hne, hstandard, hfound⟩
    rw [PromisedAt, computePromise_express haware hne, computeExpress,
      require_true (standard_lines.mpr hstandard), ok_bind, hfound, ok_bind]
    exact ⟨_, rfl, rfl⟩

variable {serviceCodes' : List String} {moment moment' : Int}

lemma LatestOf.perm {times' : List (Except PromiseError (Option Int))} (hperm : times.Perm times')
    (h : LatestOf times moment) : LatestOf times' moment :=
  ⟨hperm.mem_iff.mp h.1, fun _ hm => h.2 (hperm.mem_iff.mpr hm)⟩

lemma Ruled.perm (hr : Ruled policy choice serviceCodes) (hperm : serviceCodes.Perm serviceCodes') :
    Ruled policy choice serviceCodes' where
  rule := hr.rule
  nonempty := fun hnil => hr.nonempty (List.perm_nil.mp (hnil ▸ hperm))
  known := fun code hcode => hr.known code (hperm.mem_iff.mpr hcode)
  range := fun hchoice => by
    obtain ⟨code, hcode, hrange⟩ := hr.range hchoice
    exact ⟨code, hperm.mem_iff.mp hcode, hrange⟩

lemma promisedAt_perm (hperm : serviceCodes.Perm serviceCodes')
    (h : PromisedAt policy acceptedAt serviceCodes choice moment) :
    PromisedAt policy acceptedAt serviceCodes' choice moment := by
  have haware := promisedAt_aware h
  by_cases hcustom : choice = some .custom
  · subst hcustom
    exact absurd h (not_promisedAt_custom moment)
  by_cases hexpress : choice = some .express2h
  · subst hexpress
    obtain ⟨-, hne, hstandard, hfound⟩ := promisedAt_express.mp h
    exact promisedAt_express.mpr ⟨haware, fun hnil => hne (List.perm_nil.mp (hnil ▸ hperm)),
      fun code hcode => hstandard code (hperm.mem_iff.mpr hcode), hfound⟩
  · have hr := promisedAt_ruled ⟨hcustom, hexpress⟩ h
    obtain ⟨hpublishes, hall, hlatest⟩ := (hr.promisedAt_iff haware moment).mp h
    have htimes : (timesUnder policy acceptedAt choice serviceCodes).Perm
        (timesUnder policy acceptedAt choice serviceCodes') := hperm.map _
    exact ((hr.perm hperm).promisedAt_iff haware moment).mpr
      ⟨fun code hcode => hpublishes code (hperm.mem_iff.mpr hcode),
        fun time htime => hall time (htimes.mem_iff.mpr htime), hlatest.perm htimes⟩

lemma promisedAt_extended (hsub : serviceCodes ⊆ serviceCodes')
    (h : PromisedAt policy acceptedAt serviceCodes choice moment)
    (h' : PromisedAt policy acceptedAt serviceCodes' choice moment') : moment ≤ moment' := by
  have haware := promisedAt_aware h
  by_cases hcustom : choice = some .custom
  · subst hcustom
    exact absurd h (not_promisedAt_custom moment)
  by_cases hexpress : choice = some .express2h
  · subst hexpress
    obtain ⟨-, -, -, hfound⟩ := promisedAt_express.mp h
    obtain ⟨-, -, -, hfound'⟩ := promisedAt_express.mp h'
    rw [hfound] at hfound'
    cases hfound'
    exact le_rfl
  · obtain ⟨-, -, hlatest⟩ :=
      ((promisedAt_ruled ⟨hcustom, hexpress⟩ h).promisedAt_iff haware moment).mp h
    obtain ⟨-, -, hlatest'⟩ :=
      ((promisedAt_ruled ⟨hcustom, hexpress⟩ h').promisedAt_iff haware moment').mp h'
    exact hlatest'.2 (List.map_subset _ hsub hlatest.1)

lemma timeUnder_ordered (h : timeUnder policy acceptedAt (some .h24) line = .ok (some moment))
    (h' : timeUnder policy acceptedAt (some .h48) line = .ok (some moment')) : moment ≤ moment' := by
  unfold timeUnder at h h'
  cases hrule : line.scope.map policy.scopes with
  | none =>
    rw [hrule] at h
    cases h
  | some rule =>
    rw [hrule] at h h'
    cases rule with
    | fixed hours positive =>
      dsimp only at h h'
      rw [h] at h'
      cases h'
      exact le_rfl
    | rangeChoice choicesHours defaultHours positive offered =>
      exact addCalendarHours_ordered acceptedAt acceptedAt 24 48 moment moment' le_rfl (by decide) h h'
    | human => cases h

lemma promisedAt_ordered (h : PromisedAt policy acceptedAt serviceCodes (some .h24) moment)
    (h' : PromisedAt policy acceptedAt serviceCodes (some .h48) moment') : moment ≤ moment' := by
  have haware := promisedAt_aware h
  obtain ⟨-, -, hlatest⟩ :=
    ((promisedAt_ruled (by decide) h).promisedAt_iff haware moment).mp h
  obtain ⟨-, hall, hlatest'⟩ :=
    ((promisedAt_ruled (by decide) h').promisedAt_iff haware moment').mp h'
  obtain ⟨code, hcode, htime⟩ := List.mem_map.mp hlatest.1
  have hmem : timeUnder policy acceptedAt (some .h48) (linePromise policy code) ∈
      timesUnder policy acceptedAt (some .h48) serviceCodes := List.mem_map_of_mem hcode
  obtain ⟨time, htime'⟩ := hall _ hmem
  rw [htime'] at hmem
  exact (timeUnder_ordered htime htime').trans (hlatest'.2 hmem)

lemma latest_of_times {promised : Promised}
    (hall : AllTimed (promised.lines.map (lineTime policy acceptedAt)))
    (h : LatestOf (promised.lines.map (lineTime policy acceptedAt)) promised.promisedAt) :
    Latest policy acceptedAt promised := by
  refine ⟨fun line hline => hall _ (List.mem_map_of_mem hline), List.mem_map.mp h.1, ?_⟩
  rintro moment ⟨line, hline, htime⟩
  exact h.2 (List.mem_map.mpr ⟨line, hline, htime⟩)

lemma latest_of_express {promised : Promised}
    (h : computePromise policy acceptedAt serviceCodes (some .express2h) none =
      .ok (.promised promised)) :
    promised.lines.map LinePromise.serviceCode = serviceCodes ∧ Latest policy acceptedAt promised := by
  obtain ⟨moment, hmoment⟩ : ∃ moment, promised.promisedAt = moment := ⟨_, rfl⟩
  obtain ⟨haware, hne, hstandard, hfound⟩ := promisedAt_express.mp ⟨promised, h, hmoment⟩
  rw [computePromise_express haware hne, computeExpress,
    require_true (standard_lines.mpr hstandard), ok_bind, hfound, ok_bind] at h
  cases h
  have htime : ∀ code, lineTime policy acceptedAt
      { linePromise policy code with hours := some policy.expressHours } =
        addOpeningHours policy acceptedAt policy.expressHours := by
    intro code
    simp [lineTime, linePromise_calendarHours]
  refine ⟨?_, latest_of_times ?_ ⟨?_, ?_⟩⟩
  · rw [List.map_map, List.map_map]
    exact (List.map_congr_left fun code _ => linePromise_serviceCode code).trans (List.map_id _)
  · rw [List.map_map, List.map_map]
    exact List.forall_mem_map.mpr fun code _ => ⟨_, (htime code).trans hfound⟩
  · obtain ⟨code, hcode⟩ := List.exists_mem_of_ne_nil _ hne
    rw [List.map_map, List.map_map]
    exact List.mem_map.mpr ⟨code, hcode, (htime code).trans hfound⟩
  · intro moment hmoment
    rw [List.map_map, List.map_map] at hmoment
    obtain ⟨code, -, hcode⟩ := List.mem_map.mp hmoment
    have heq := (hcode.symm.trans (htime code)).trans hfound
    cases heq
    exact le_rfl

lemma latest_of_promised {promised : Promised} (hcustom : choice ≠ some .custom)
    (h : computePromise policy acceptedAt serviceCodes choice none = .ok (.promised promised)) :
    promised.lines.map LinePromise.serviceCode = serviceCodes ∧ Latest policy acceptedAt promised := by
  by_cases hexpress : choice = some .express2h
  · subst hexpress
    exact latest_of_express h
  · have hat : PromisedAt policy acceptedAt serviceCodes choice promised.promisedAt :=
      ⟨promised, h, rfl⟩
    obtain ⟨hcodes, htimes, hall, hlatest⟩ :=
      (promisedAt_ruled ⟨hcustom, hexpress⟩ hat).latestOf (promisedAt_aware hat) h
    rw [← htimes] at hall hlatest
    exact ⟨hcodes, latest_of_times hall hlatest⟩

def OnlyRaises {α : Type} (x : Except PromiseError α) : Prop :=
  ∀ e, x = .error e → ∃ exception, e = .raised exception

lemma OnlyRaises.bind {α β : Type} {x : Except PromiseError α} {f : α → Except PromiseError β}
    (hx : OnlyRaises x) (hf : ∀ a, OnlyRaises (f a)) : OnlyRaises (x >>= f) := by
  intro e h
  rcases bind_error.mp h with h | ⟨a, -, h⟩
  · exact hx e h
  · exact hf a e h

lemma onlyRaises_ok {α : Type} (a : α) : OnlyRaises (.ok a) := fun _ h => nomatch h

lemma onlyRaises_require {c : Prop} [Decidable c] (exception : Canonical.PyException) :
    OnlyRaises (require c (.raised exception)) :=
  fun _ h => ⟨exception, (require_error.mp h).2.symm⟩

lemma onlyRaises_ofOption {α : Type} (exception : Canonical.PyException) (x : Option α) :
    OnlyRaises (ofOption (.raised exception) x) := by
  intro e h
  cases x with
  | none =>
    cases h
    exact ⟨exception, rfl⟩
  | some a => cases h

lemma onlyRaises_dayAfter (n : Nat) : OnlyRaises (dayAfter n) := by
  unfold dayAfter
  exact (onlyRaises_require _).bind fun _ => onlyRaises_ok _

lemma onlyRaises_requireHours (hours : Nat) : OnlyRaises (requireHours acceptedAt hours) := by
  unfold requireHours
  exact (onlyRaises_require _).bind fun _ => onlyRaises_require _

lemma onlyRaises_shopClock : OnlyRaises (shopClock acceptedAt) := by
  unfold shopClock
  refine (onlyRaises_require _).bind fun _ => (onlyRaises_ofOption _ _).bind fun utc => ?_
  exact (onlyRaises_require _).bind fun _ => onlyRaises_ok _

lemma onlyRaises_hoursDelta (hours : Nat) : OnlyRaises (hoursDelta hours) := by
  unfold hoursDelta
  exact (onlyRaises_require _).bind fun _ => onlyRaises_ok _

lemma onlyRaises_shopInstant (wall : Nat) : OnlyRaises (shopInstant wall) := by
  unfold shopInstant
  exact (onlyRaises_require _).bind fun _ => onlyRaises_ok _

lemma onlyRaises_walkOpening (days today cursor remaining : Nat) :
    OnlyRaises (walkOpening policy days today cursor remaining) := by
  induction days generalizing today cursor remaining with
  | zero =>
    intro e h
    cases h
    exact ⟨_, rfl⟩
  | succ days ih =>
    rw [walkOpening]
    split
    · exact onlyRaises_ok _
    dsimp only
    split
    · split
      · exact onlyRaises_ok _
      · exact (onlyRaises_dayAfter today).bind fun _ => ih _ _ _
    · exact (onlyRaises_dayAfter today).bind fun _ => ih _ _ _

lemma onlyRaises_addOpeningHours (hours : Nat) :
    OnlyRaises (addOpeningHours policy acceptedAt hours) := by
  unfold addOpeningHours
  refine (onlyRaises_requireHours hours).bind fun _ => onlyRaises_shopClock.bind fun wall => ?_
  refine (onlyRaises_hoursDelta hours).bind fun remaining => ?_
  refine (onlyRaises_walkOpening _ _ _ _).bind fun landing => ?_
  cases landing with
  | none => exact onlyRaises_ok _
  | some landing =>
    intro e h
    cases hmoment : shopInstant landing with
    | ok moment => simp [hmoment] at h
    | error e' =>
      simp only [hmoment, Except.map_error, Except.error.injEq] at h
      subst h
      exact onlyRaises_shopInstant landing e' hmoment

lemma optionOf_listed {choice : PromiseChoice} {decision : PromiseDecision}
    (h : computePromise policy acceptedAt serviceCodes (some choice) none = .ok decision)
    {option : ChoiceOption} (hoption : option ∈ optionOf choice decision) :
    ∀ moment ∈ option.promisedAt,
      PromisedAt policy acceptedAt serviceCodes (some option.choice) moment := by
  cases decision with
  | needsHuman reasonCodes humanServiceCodes => cases hoption
  | promised promised =>
    rw [optionOf, List.mem_singleton] at hoption
    subst hoption
    rintro moment ⟨⟩
    exact ⟨promised, h, rfl⟩

lemma tryExpress_listed {express : List ChoiceOption}
    (h : tryExpress policy acceptedAt serviceCodes = .ok express) {option : ChoiceOption}
    (hoption : option ∈ express) : ∀ moment ∈ option.promisedAt,
      PromisedAt policy acceptedAt serviceCodes (some option.choice) moment := by
  rw [tryExpress] at h
  split at h
  · next decision hdecision =>
    cases h
    exact optionOf_listed hdecision hoption
  · cases h
    cases hoption
  · cases h

lemma tryExpress_returns (haware : acceptedAt.aware) (hne : serviceCodes ≠ []) :
    (∃ express, tryExpress policy acceptedAt serviceCodes = .ok express) ↔
      ((∀ code ∈ serviceCodes, isStandard policy code) →
        ∃ found, addOpeningHours policy acceptedAt policy.expressHours = .ok found) := by
  rw [tryExpress, computePromise_express haware hne, computeExpress]
  by_cases hstandard : ∀ code ∈ serviceCodes, isStandard policy code
  · rw [require_true (standard_lines.mpr hstandard), ok_bind]
    cases hadd : addOpeningHours policy acceptedAt policy.expressHours with
    | ok found => cases found <;> simp
    | error e =>
      obtain ⟨exception, rfl⟩ := onlyRaises_addOpeningHours _ e hadd
      simpa using hstandard
  · rw [require_false (fun h => hstandard (standard_lines.mp h)), error_bind]
    simp [hstandard]

lemma agrees_needsHuman {reasonCodes : List PromiseReason} {humanServiceCodes : List String}
    (h : computePromise policy acceptedAt serviceCodes none none =
      .ok (.needsHuman reasonCodes humanServiceCodes)) :
    ∃ options, promiseOptions policy acceptedAt serviceCodes = .ok options ∧
      options.Agrees policy acceptedAt serviceCodes := by
  refine ⟨⟨.custom, none, none, [⟨.custom, none⟩], reasonCodes, humanServiceCodes⟩, ?_, ?_, ?_, ?_⟩
  · rw [promiseOptions, h, ok_bind]
  · intro option hoption moment hmoment
    rw [List.mem_singleton] at hoption
    subst hoption
    cases hmoment
  · refine fun moment => ⟨fun hnone => (nomatch hnone), ?_⟩
    rintro ⟨promised, hpromised, -⟩
    rw [h] at hpromised
    cases hpromised
  · rintro choice ⟨⟩

lemma computePromise_person (haware : acceptedAt.aware)
    (hperson : ∃ code ∈ serviceCodes, needsPerson policy code) :
    ∃ reasonCodes humanServiceCodes, computePromise policy acceptedAt serviceCodes none none =
      .ok (.needsHuman reasonCodes humanServiceCodes) := by
  obtain ⟨code, hcode, hkind⟩ := hperson
  have hneeding : (serviceCodes.map (linePromise policy)).filter
      (fun line => lineKind policy line = .human) ≠ [] :=
    fun hnil => known_lines.mp hnil code hcode hkind
  have hrange : (none : Option PromiseChoice) = some .h24 ∨ (none : Option PromiseChoice) = some .h48 →
      ∃ line ∈ serviceCodes.map (linePromise policy), lineKind policy line = .rangeChoice := by
    rintro (h | h) <;> cases h
  rw [computePromise_rule haware (by decide) (List.ne_nil_of_mem hcode), computeRule,
    require_true hrange, ok_bind]
  simp only [if_pos hneeding]
  exact ⟨_, _, rfl⟩

lemma ruled_default (hne : serviceCodes ≠ []) (hknown : ∀ code ∈ serviceCodes, ¬ needsPerson policy code) :
    Ruled policy none serviceCodes :=
  ⟨by decide, hne, hknown, by rintro (h | h) <;> cases h⟩

lemma options_of_promised (hr : Ruled policy none serviceCodes) (haware : acceptedAt.aware)
    {default : Promised} (h : computePromise policy acceptedAt serviceCodes none none =
      .ok (.promised default)) :
    (∃ options, promiseOptions policy acceptedAt serviceCodes = .ok options ∧
      options.Agrees policy acceptedAt serviceCodes) ↔ ChoicesAgree policy acceptedAt serviceCodes := by
  have hat : PromisedAt policy acceptedAt serviceCodes none default.promisedAt := ⟨default, h, rfl⟩
  have hdefault : ∀ moment, some default.promisedAt = some moment ↔
      PromisedAt policy acceptedAt serviceCodes none moment := by
    refine fun moment => ⟨fun heq => Option.some.inj heq ▸ hat, ?_⟩
    rintro ⟨promised, hpromised, rfl⟩
    rw [h] at hpromised
    cases hpromised
    rfl
  obtain ⟨-, -, -, hlatest⟩ := hr.latestOf haware h
  rw [promiseOptions, h, ok_bind]
  dsimp only
  by_cases hrange : ∃ code ∈ serviceCodes, isRange policy code
  · have hrules : ∀ choice, choice = some .h24 ∨ choice = some .h48 → Ruled policy choice serviceCodes := by
      rintro choice (rfl | rfl)
      · exact ⟨by decide, hr.nonempty, hr.known, fun _ => hrange⟩
      · exact ⟨by decide, hr.nonempty, hr.known, fun _ => hrange⟩
    have h24 := hrules (some .h24) (.inl rfl)
    have h48 := hrules (some .h48) (.inr rfl)
    have hnotStandard : ¬ ∀ code ∈ serviceCodes, isStandard policy code := by
      obtain ⟨code, hcode, hkind⟩ := hrange
      intro hstandard
      have hfixed := (hstandard code hcode).1
      rw [isRange, hfixed] at hkind
      cases hkind
    rw [if_pos (range_lines.mpr hrange)]
    constructor
    · rintro ⟨options, hoptions, hagrees⟩
      obtain ⟨d24, hd24, hoptions⟩ := bind_ok.mp hoptions
      obtain ⟨d48, hd48, hoptions⟩ := bind_ok.mp hoptions
      cases hoptions
      obtain ⟨hpublishes, hwalks⟩ := (h24.returns_iff haware).mp ⟨d24, hd24⟩
      have hchosen := hagrees.chosen .h48 rfl default.promisedAt rfl
      obtain ⟨hpublishes', hall, hlatest'⟩ := (h48.promisedAt_iff haware _).mp hchosen
      refine ⟨fun _ => ⟨fun code hcode => ⟨hpublishes code hcode, hpublishes' code hcode⟩, hwalks, hall,
        fun moment hmoment => hmoment.unique hlatest ▸ hlatest'⟩, fun h => absurd h hnotStandard⟩
    · rintro ⟨hagree, -⟩
      obtain ⟨hpublishes, hwalks, hall, hsame⟩ := hagree hrange
      obtain ⟨d24, hd24⟩ := (h24.returns_iff haware).mpr
        ⟨fun code hcode => (hpublishes code hcode).1, hwalks⟩
      have hchosen := (h48.promisedAt_iff haware default.promisedAt).mpr
        ⟨fun code hcode => (hpublishes code hcode).2, hall, hsame _ hlatest⟩
      obtain ⟨promised, hd48, hmoment⟩ := hchosen
      rw [hd24, ok_bind, hd48, ok_bind]
      refine ⟨_, rfl, fun option hoption => ?_, hdefault, ?_⟩
      · rw [List.mem_append, List.mem_append] at hoption
        rcases hoption with (hoption | hoption) | hoption
        · exact optionOf_listed hd24 hoption
        · exact optionOf_listed hd48 hoption
        · rw [List.mem_singleton] at hoption
          subst hoption
          rintro moment ⟨⟩
      · rintro choice ⟨⟩ moment ⟨⟩
        exact ⟨promised, hd48, hmoment⟩
  · rw [if_neg (fun h => hrange (range_lines.mp h))]
    constructor
    · rintro ⟨options, hoptions, -⟩
      obtain ⟨express, hexpress, -⟩ := bind_ok.mp hoptions
      exact ⟨fun h => absurd h hrange, (tryExpress_returns haware hr.nonempty).mp ⟨express, hexpress⟩⟩
    · rintro ⟨-, hadd⟩
      obtain ⟨express, hexpress⟩ := (tryExpress_returns haware hr.nonempty).mpr hadd
      rw [hexpress, ok_bind]
      refine ⟨_, rfl, fun option hoption => ?_, hdefault, ?_⟩
      · rcases List.mem_append.mp hoption with hoption | hoption
        · exact tryExpress_listed hexpress hoption
        · rw [List.mem_singleton] at hoption
          subst hoption
          rintro moment ⟨⟩
      · rintro choice ⟨⟩

lemma options_iff : (∃ options, promiseOptions policy acceptedAt serviceCodes = .ok options ∧
    options.Agrees policy acceptedAt serviceCodes) ↔ OptionsAgree policy acceptedAt serviceCodes := by
  by_cases haware : acceptedAt.aware
  swap
  · refine ⟨?_, fun h => absurd h.1 haware⟩
    rintro ⟨options, hoptions, -⟩
    obtain ⟨decision, hdecision, -⟩ := bind_ok.mp hoptions
    obtain ⟨_, hrequired, -⟩ := bind_ok.mp hdecision
    exact absurd (require_ok.mp hrequired) haware
  by_cases hne : serviceCodes = []
  · subst hne
    exact ⟨fun _ => ⟨haware, .inl rfl⟩,
      fun _ => agrees_needsHuman (computePromise_nil haware (by decide))⟩
  by_cases hperson : ∃ code ∈ serviceCodes, needsPerson policy code
  · refine ⟨fun _ => ⟨haware, .inr (.inl hperson)⟩, fun _ => ?_⟩
    obtain ⟨reasonCodes, humanServiceCodes, h⟩ := computePromise_person haware hperson
    exact agrees_needsHuman h
  have hr : Ruled policy none serviceCodes :=
    ruled_default hne fun code hcode hneeds => hperson ⟨code, hcode, hneeds⟩
  have hpublishes : ∀ code ∈ serviceCodes, publishes policy none (linePromise policy code) :=
    fun code _ => publishes_default _
  have hreturns := hr.returns_iff haware
  have hrest : OptionsAgree policy acceptedAt serviceCodes ↔
      (Walks (timesUnder policy acceptedAt none serviceCodes) ∧
        .ok none ∈ timesUnder policy acceptedAt none serviceCodes) ∨
      (AllTimed (timesUnder policy acceptedAt none serviceCodes) ∧
        ChoicesAgree policy acceptedAt serviceCodes) := by
    simp only [OptionsAgree, haware, hne, hperson, true_and, false_or]
  rw [hrest]
  cases hdefault : computePromise policy acceptedAt serviceCodes none none with
  | error e =>
    have hwalks : ¬ Walks (timesUnder policy acceptedAt none serviceCodes) := by
      intro hwalks
      obtain ⟨decision, hdecision⟩ := hreturns.mpr ⟨hpublishes, hwalks⟩
      rw [hdefault] at hdecision
      cases hdecision
    rw [promiseOptions, hdefault, error_bind]
    constructor
    · rintro ⟨options, hoptions, -⟩
      cases hoptions
    · rintro (⟨h, -⟩ | ⟨h, -⟩)
      · exact absurd h hwalks
      · exact absurd h.walks hwalks
  | ok decision =>
    have hwalks := (hreturns.mp ⟨decision, hdefault⟩).2
    cases decision with
    | needsHuman reasonCodes humanServiceCodes =>
      refine ⟨fun _ => .inl ⟨hwalks, ?_⟩, fun _ => agrees_needsHuman hdefault⟩
      refine hwalks.timed_or_none.resolve_left fun hall => ?_
      obtain ⟨lines', basis, hcodes, htimes, heq⟩ := hr.computePromise_counted haware hpublishes
      have hlines : lines' ≠ [] := by
        rintro rfl
        exact hne hcodes.symm
      rw [← htimes] at hall
      obtain ⟨found, hfound⟩ := latestLine_of_timed hlines hall
      rw [hfound, ok_bind, hdefault] at heq
      cases heq
    | promised default =>
      obtain ⟨-, -, hall, -⟩ := hr.latestOf haware hdefault
      rw [options_of_promised hr haware hdefault]
      refine ⟨fun h => .inr ⟨hall, h⟩, ?_⟩
      rintro (⟨-, hnone⟩ | ⟨-, h⟩)
      · exact absurd hnone hall.not_none
      · exact h

/-- The promise shown is the promise stored exactly when the options agree; the rest holds of every
order. -/
theorem shown_as_stored_iff (policy : TurnaroundPolicy) (acceptedAt : Datetime)
    (serviceCodes : List String) :
    ShownAsStored policy acceptedAt serviceCodes ↔ OptionsAgree policy acceptedAt serviceCodes := by
  constructor
  · exact fun h => options_iff.mp h.shown
  · intro h
    exact {
      shown := options_iff.mpr h
      latest := fun choice promised hcustom hpromised => latest_of_promised hcustom hpromised
      reordered := fun choice moment serviceCodes' hperm =>
        ⟨promisedAt_perm hperm, promisedAt_perm hperm.symm⟩
      extended := fun choice moment moment' serviceCodes' hsub hat hat' =>
        promisedAt_extended hsub hat hat'
      ordered := fun moment moment' hat hat' => promisedAt_ordered hat hat' }

lemma shoe_opens : 8 * hourMicros < 20 * hourMicros := by decide

lemma shoe_closes : 20 * hourMicros < dayMicros := by decide

lemma shoe_minutes : minuteMicros ∣ 8 * hourMicros ∧ minuteMicros ∣ 20 * hourMicros := by decide

lemma shoe_express : 0 < 2 := by decide

def shoePolicy : TurnaroundPolicy where
  opensAt := 8 * hourMicros
  closesAt := 20 * hourMicros
  recurringClosed := []
  closedDates := []
  tetYears := []
  scopes := fun
    | .shoes => .rangeChoice [24, 72] 24 (by decide) (by decide)
    | _ => .human
  services := [("SHOES", .shoes)]
  expressHours := 2
  opens_lt := shoe_opens
  closes_lt := shoe_closes
  onMinute := shoe_minutes
  express_pos := shoe_express

def shoeMorning : Datetime := .ofUtc (730179 * dayMicros + 3 * hourMicros) (by decide)

set_option maxRecDepth 20000 in
/-- The options of the shoes ask for 48 hours, which the policy does not publish. -/
theorem shoes_unshown : ¬ ∀ (policy : TurnaroundPolicy) (acceptedAt : Datetime)
    (serviceCodes : List String), acceptedAt.aware → ShownAsStored policy acceptedAt serviceCodes := by
  intro h
  obtain ⟨options, hoptions, -⟩ := (h shoePolicy shoeMorning ["SHOES"] (by decide)).shown
  have hraised : promiseOptions shoePolicy shoeMorning ["SHOES"] =
      .error (.refused .promiseChoiceNotApplicable "") := by
    decide
  rw [hraised] at hoptions
  cases hoptions

end

end NhaTrangLaundry.Domain.Promise
