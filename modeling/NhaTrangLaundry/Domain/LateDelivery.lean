import NhaTrangLaundry.Domain.Promise
import NhaTrangLaundry.Lib.Extremes

/-! How late a delivery was: its legs measured against the first promise, or against the
newest new time that the customer asked for. -/

namespace NhaTrangLaundry.Domain.LateDelivery

open Lib Outcome Sorting Extremes Canonical Promise

inductive DeadlineBasis where
  | firstPromise
  | customerRequest
deriving DecidableEq

structure PromiseMove where
  newPromiseAt : Datetime
  reason : PromiseChangeReason
  changedAt : Datetime
deriving DecidableEq

structure LegAttempt where
  legKind : String
  outcome : String
  recordedAt : Datetime
deriving DecidableEq

structure LateDeliveryClock where
  deadline : Datetime
  deadlineBasis : DeadlineBasis
  deliveredAt : Option Datetime
  lateByMinutes : Option Int
  failedAttemptsBeforeDeadline : List Datetime
deriving DecidableEq

def LateDeliveryClock.isLateBeyond (clock : LateDeliveryClock) (thresholdMinutes : Int) : Bool :=
  clock.lateByMinutes.any fun late => thresholdMinutes < late

def requireAware (value : Datetime) : Except PyException Unit :=
  require value.aware (.valueError "late-delivery instants must be timezone-aware")

def arrivals (legs : List LegAttempt) : List Datetime :=
  sortBy Datetime.instant
    ((legs.filter fun a => a.legKind = "RETURN" ∧ a.outcome = "SUCCEEDED").map LegAttempt.recordedAt)

def failedBefore (deadline : Datetime) (legs : List LegAttempt) : List Datetime :=
  sortBy Datetime.instant
    ((legs.filter fun a => a.legKind = "RETURN" ∧ a.outcome = "FAILED" ∧
      a.recordedAt.instant ≤ deadline.instant).map LegAttempt.recordedAt)

structure Following where
  deadline : Datetime
  basis : DeadlineBasis
  newest : Option Datetime

def follow (deliveredAt : Option Datetime) (s : Following) (move : PromiseMove) : Following :=
  if move.reason ≠ .customerRequest then s
  else if deliveredAt.any (fun at_ => at_.instant < move.changedAt.instant) then s
  else if s.newest.all (fun newest => newest.instant ≤ move.changedAt.instant) then
    ⟨move.newPromiseAt, .customerRequest, some move.changedAt⟩
  else s

def lateBy (deliveredAt deadline : Datetime) : Int :=
  max 0 ((deliveredAt.instant - deadline.instant) / minuteMicros)

def measure (firstPromise : Datetime) (changes : List PromiseMove) (legs : List LegAttempt) :
    LateDeliveryClock :=
  let deliveredAt := (arrivals legs).head?
  let found := changes.foldl (follow deliveredAt) ⟨firstPromise, .firstPromise, none⟩
  { deadline := found.deadline
    deadlineBasis := found.basis
    deliveredAt
    lateByMinutes := deliveredAt.map fun at_ => lateBy at_ found.deadline
    failedAttemptsBeforeDeadline := failedBefore found.deadline legs }

def lateDeliveryClock (firstPromise : Datetime) (changes : List PromiseMove)
    (legs : List LegAttempt) : Except PyException LateDeliveryClock := do
  requireAware firstPromise
  changes.forM fun move => do
    requireAware move.newPromiseAt
    requireAware move.changedAt
  legs.forM fun attempt => requireAware attempt.recordedAt
  .ok (measure firstPromise changes legs)

/-- Every instant the clock is given names a point in time. -/
structure Aware (firstPromise : Datetime) (changes : List PromiseMove) (legs : List LegAttempt) :
    Prop where
  first : firstPromise.aware
  moves : ∀ move ∈ changes, move.newPromiseAt.aware ∧ move.changedAt.aware
  attempts : ∀ attempt ∈ legs, attempt.recordedAt.aware

/-- Two clocks are equal when they name the same points in time, whatever the offsets. -/
structure LateDeliveryClock.Same (c c' : LateDeliveryClock) : Prop where
  deadline : c.deadline.instant = c'.deadline.instant
  basis : c.deadlineBasis = c'.deadlineBasis
  delivered : c.deliveredAt.map Datetime.instant = c'.deliveredAt.map Datetime.instant
  late : c.lateByMinutes = c'.lateByMinutes
  failed : c.failedAttemptsBeforeDeadline.map Datetime.instant =
    c'.failedAttemptsBeforeDeadline.map Datetime.instant

/-- The changes that count: those the customer asked for, up to the arrival. -/
def counts (legs : List LegAttempt) (move : PromiseMove) : Bool :=
  move.reason = .customerRequest ∧
    ¬ (arrivals legs).head?.any fun at_ => at_.instant < move.changedAt.instant

variable {firstPromise deadline : Datetime} {changes changes' : List PromiseMove}
  {legs legs' : List LegAttempt} {clock : LateDeliveryClock} {threshold : Int}

lemma lateDeliveryClock_ok : lateDeliveryClock firstPromise changes legs = .ok clock ↔
    Aware firstPromise changes legs ∧ measure firstPromise changes legs = clock := by
  rw [lateDeliveryClock]
  simp only [bind_ok, requireAware, require_ok, forM_ok, exists_const, Except.ok.injEq]
  constructor
  · rintro ⟨hfirst, hmoves, hlegs, rfl⟩
    exact ⟨⟨hfirst, hmoves, hlegs⟩, rfl⟩
  · rintro ⟨haware, rfl⟩
    exact ⟨haware.first, haware.moves, haware.attempts, rfl⟩

lemma follow_eq (s : Following) (move : PromiseMove) :
    follow (arrivals legs).head? s move =
      if counts legs move then
        if s.newest.all (fun newest => newest.instant ≤ move.changedAt.instant) then
          ⟨move.newPromiseAt, .customerRequest, some move.changedAt⟩
        else s
      else s := by
  rw [follow]
  by_cases hreason : move.reason = .customerRequest
  · cases hafter : (arrivals legs).head?.any (fun at_ => at_.instant < move.changedAt.instant)
    · simp [counts, hreason, hafter]
    · simp [counts, hreason, hafter]
  · simp [counts, hreason]

def found (firstPromise : Datetime) : Option PromiseMove → Following
  | none => ⟨firstPromise, .firstPromise, none⟩
  | some move => ⟨move.newPromiseAt, .customerRequest, some move.changedAt⟩

lemma foldl_follow : changes.foldl (follow (arrivals legs).head?) ⟨firstPromise, .firstPromise, none⟩ =
    found firstPromise
      (latest (fun move => move.changedAt.instant) (changes.filter (counts legs))) := by
  induction changes using List.reverseRecOn with
  | nil => rfl
  | append_singleton changes move ih =>
    rw [List.foldl_append, ih, List.foldl_cons, List.foldl_nil, follow_eq, List.filter_append]
    by_cases hcounts : counts legs move = true
    · rw [if_pos hcounts, List.filter_cons_of_pos hcounts, List.filter_nil, latest_append]
      cases latest (fun m : PromiseMove => m.changedAt.instant) (changes.filter (counts legs)) with
      | none => rfl
      | some best =>
        rw [later]
        by_cases hle : best.changedAt.instant ≤ move.changedAt.instant
        · rw [if_pos hle, if_pos (by simpa [found] using hle)]
          rfl
        · rw [if_neg hle, if_neg (by simpa [found] using hle)]
    · rw [if_neg hcounts, List.filter_cons_of_neg hcounts, List.filter_nil, List.append_nil]

lemma measure_congr (h : changes.filter (counts legs) = changes'.filter (counts legs)) :
    measure firstPromise changes legs = measure firstPromise changes' legs := by
  rw [measure, measure, foldl_follow, foldl_follow, h]

lemma measure_perm (hp : changes.Perm changes')
    (hn : (changes.map fun move => move.changedAt.instant).Nodup) :
    measure firstPromise changes legs = measure firstPromise changes' legs := by
  have hlatest := latest_eq_of_perm (hp.filter (counts legs))
    (hn.sublist (List.filter_sublist.map _))
  rw [measure, measure, foldl_follow, foldl_follow, hlatest]

lemma arrivals_perm (hp : legs.Perm legs') :
    (arrivals legs).head?.map Datetime.instant = (arrivals legs').head?.map Datetime.instant := by
  rw [← List.head?_map, ← List.head?_map, arrivals, arrivals,
    map_key_sortBy_of_perm ((hp.filter _).map _)]

lemma failedBefore_perm (hp : legs.Perm legs') :
    (failedBefore deadline legs).map Datetime.instant =
      (failedBefore deadline legs').map Datetime.instant :=
  map_key_sortBy_of_perm ((hp.filter _).map _)

lemma any_instant (p : Int → Bool) {d d' : Option Datetime}
    (h : d.map Datetime.instant = d'.map Datetime.instant) :
    d.any (fun at_ => p at_.instant) = d'.any fun at_ => p at_.instant := by
  have hmap : (d.map Datetime.instant).any p = (d'.map Datetime.instant).any p := by rw [h]
  simpa only [Option.any_map] using hmap

lemma counts_perm (hp : legs.Perm legs') : counts legs = counts legs' := by
  funext move
  rw [counts, counts, any_instant (fun i => i < move.changedAt.instant) (arrivals_perm hp)]

lemma measure_perm_legs (hp : legs.Perm legs') :
    (measure firstPromise changes legs).Same (measure firstPromise changes legs') := by
  have hfound : changes.foldl (follow (arrivals legs).head?) ⟨firstPromise, .firstPromise, none⟩ =
      changes.foldl (follow (arrivals legs').head?) ⟨firstPromise, .firstPromise, none⟩ := by
    rw [foldl_follow, foldl_follow, counts_perm hp]
  have hdelivered := arrivals_perm hp
  refine ⟨?_, ?_, hdelivered, ?_, ?_⟩
  · rw [measure, measure, hfound]
  · rw [measure, measure, hfound]
  · rw [measure, measure, hfound]
    simp only [lateBy]
    revert hdelivered
    cases (arrivals legs).head? <;> cases (arrivals legs').head? <;> simp
    intro h
    rw [h]
  · rw [measure, measure, hfound]
    exact failedBefore_perm hp

variable (firstPromise changes legs) in
lemma measure_basis : (measure firstPromise changes legs).deadline = firstPromise ∧
      (measure firstPromise changes legs).deadlineBasis = .firstPromise ∨
    ∃ move ∈ changes, move.reason = .customerRequest ∧
      (measure firstPromise changes legs).deadline = move.newPromiseAt ∧
      (measure firstPromise changes legs).deadlineBasis = .customerRequest := by
  rw [measure, foldl_follow]
  cases hlatest : latest (fun m : PromiseMove => m.changedAt.instant) (changes.filter (counts legs)) with
  | none => exact .inl ⟨rfl, rfl⟩
  | some move =>
    obtain ⟨hmem, hcounts⟩ := List.mem_filter.mp (latest_mem hlatest)
    exact .inr ⟨move, hmem, (decide_eq_true_iff.mp hcounts).1, rfl, rfl⟩

lemma isLateBeyond_iff (hthreshold : 0 ≤ threshold) :
    (measure firstPromise changes legs).isLateBeyond threshold = true ↔
      ∃ at_, (arrivals legs).head? = some at_ ∧
        (measure firstPromise changes legs).deadline.instant + (threshold + 1) * minuteMicros ≤
          at_.instant := by
  rw [LateDeliveryClock.isLateBeyond, Option.any_eq_true]
  have hlate : (measure firstPromise changes legs).lateByMinutes =
      (arrivals legs).head?.map fun at_ => lateBy at_ (measure firstPromise changes legs).deadline :=
    rfl
  rw [hlate]
  simp only [Option.map_eq_some_iff, decide_eq_true_eq]
  constructor
  · rintro ⟨-, ⟨at_, hat, rfl⟩, hlt⟩
    refine ⟨at_, hat, ?_⟩
    rw [lateBy, minuteMicros] at hlt
    rw [minuteMicros]
    omega
  · rintro ⟨at_, hat, hle⟩
    refine ⟨_, ⟨at_, hat, rfl⟩, ?_⟩
    rw [minuteMicros] at hle
    rw [lateBy, minuteMicros]
    omega

end NhaTrangLaundry.Domain.LateDelivery
