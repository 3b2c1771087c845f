import NhaTrangLaundry.Db.StoreAccess
import Mathlib.Data.List.Nodup

/-! While nothing commits between the check of a call and its commit that the check
rested on, changes of store access are owner-made, numbered in order and never collide. -/

namespace NhaTrangLaundry.Db.StoreAccess

open Lib Outcome Table Staff Interleaved
open ConsentEgress (StaffPrincipal)

/-- The owner check is behind the call, which has not ended. -/
def Phase.pastOwner : Phase → Bool
  | .opened | .committed | .failed _ => false
  | _ => true

/-- So is the check that the staff user is active, which an assignment makes. -/
def Phase.pastStaff : Phase → Bool
  | .opened | .owner | .store | .committed | .failed _ => false
  | _ => true

def Phase.version : Phase → Option Nat
  | .versioned v | .checked v | .mutated v | .evented v => some v
  | _ => none

def Phase.wrote : Phase → Option Nat
  | .mutated v | .evented v => some v
  | _ => none

def Breaks (staff : StaffTables) (c : Call) : Prop :=
  (c.phase.pastOwner = true ∧ staff.activeOwner c.actorId = false) ∨
    (c.change = .assigned ∧ c.phase.pastStaff = true ∧ staff.isActive c.staffUserId = false)

instance decideBreaks (staff : StaffTables) (c : Call) : Decidable (Breaks staff c) :=
  inferInstanceAs (Decidable (_ ∨ _))

/-- The identity tables take away the role of a running call's actor, or disable its staff user. -/
def Withdraws (w : World) : Command → Prop
  | .identity staff => ∃ c ∈ w.calls, Breaks staff c
  | _ => False

/-- A change commits while another call has read its version for the same staff user. -/
def Overtakes (w : World) : Option (Nat × Call × Nat) → Prop
  | some (i, c, _) => ∃ d ∈ w.calls.eraseIdx i, d.staffUserId = c.staffUserId ∧
      d.phase.version.isSome = true
  | none => False

/-- A commit lands between the check of another call and its commit, and against what it checked. -/
def Disturbs (w : World) (command : Command) : Prop :=
  Withdraws w command ∨ Overtakes w (commits w command)

instance decideWithdraws (w : World) (command : Command) : Decidable (Withdraws w command) :=
  match command with
  | .identity staff => inferInstanceAs (Decidable (∃ c ∈ w.calls, Breaks staff c))
  | .call .. | .statement _ | .commit _ | .abort _ | .newStore _ => instDecidableFalse

instance decideOvertakes (w : World) (found : Option (Nat × Call × Nat)) :
    Decidable (Overtakes w found) :=
  match found with
  | some (i, c, _) => inferInstanceAs (Decidable (∃ d ∈ w.calls.eraseIdx i,
      d.staffUserId = c.staffUserId ∧ d.phase.version.isSome = true))
  | none => instDecidableFalse

instance decideDisturbs (w : World) (command : Command) : Decidable (Disturbs w command) :=
  inferInstanceAs (Decidable (_ ∨ _))

def Undisturbed (w : World) : List Command → Prop
  | [] => True
  | command :: rest => ¬ Disturbs w command ∧ Undisturbed (apply w command) rest

instance decideUndisturbed (w : World) (commands : List Command) :
    Decidable (Undisturbed w commands) :=
  match commands with
  | [] => instDecidableTrue
  | command :: rest =>
    have := decideUndisturbed (apply w command) rest
    inferInstanceAs (Decidable (_ ∧ _))

def liveIn (rows : List Membership) (key : Uuid × Uuid) : Bool :=
  (lookup Membership.key rows key).any Membership.live

def lastChange (t : Tables) (staffUserId storeId : Uuid) : Option Change :=
  (t.events.filter fun e => e.staffUserId = staffUserId ∧ e.storeId = storeId).getLast?.map
    ChangeEvent.change

def versions (t : Tables) (staffUserId : Uuid) : List Nat :=
  (t.events.filter fun e => e.staffUserId = staffUserId).map ChangeEvent.version

structure CallOk (t : Tables) (c : Call) : Prop where
  owner : c.phase.pastOwner = true → t.staff.activeOwner c.actorId = true
  staff : c.change = .assigned → c.phase.pastStaff = true → t.staff.isActive c.staffUserId = true
  version : ∀ v, c.phase.version = some v → nextVersion t c.staffUserId = v
  key : ∀ row, c.write = some row → row.key = c.key
  unwritten : c.phase.wrote = none → c.write = none
  wrote : ∀ v, c.phase.wrote = some v →
    (liveIn (writeMembership t.memberships c.write) c.key = true ↔ c.change = .assigned)
  collides : c.phase ≠ .failed .uniqueViolation

structure TablesOk (t : Tables) : Prop where
  keys : (t.memberships.map Membership.key).Nodup
  versions : ∀ staffUserId, (versions t staffUserId).Pairwise (· < ·)
  live : ∀ staffUserId storeId, liveIn t.memberships (staffUserId, storeId) = true ↔
    lastChange t staffUserId storeId = some .assigned

abbrev Inv (w : World) : Prop := Coherent TablesOk CallOk (fun _ _ => True) w

lemma le_foldl_max (l : List Nat) (a : Nat) :
    a ≤ l.foldl max a ∧ ∀ x ∈ l, x ≤ l.foldl max a := by
  induction l generalizing a with
  | nil => exact ⟨le_refl a, by simp⟩
  | cons y l ih =>
    obtain ⟨hstart, hrest⟩ := ih (max a y)
    refine ⟨le_trans (le_max_left a y) hstart, fun x hx => ?_⟩
    rcases List.mem_cons.mp hx with rfl | hx
    · exact le_trans (le_max_right a x) hstart
    · exact hrest x hx

lemma version_lt_next {t : Tables} {e : ChangeEvent} (he : e ∈ t.events) :
    e.version < nextVersion t e.staffUserId := by
  rw [nextVersion, Nat.lt_succ_iff]
  refine (le_foldl_max _ 0).2 e.version (List.mem_map_of_mem ?_)
  rw [List.mem_filter]
  exact ⟨he, by simp⟩

lemma nextVersion_commit_ne {t : Tables} {c : Call} {v : Nat} {s : Uuid} (h : s ≠ c.staffUserId) :
    nextVersion (commitChange t c v) s = nextVersion t s := by
  simp [nextVersion, commitChange, Call.event, Ne.symm h]

lemma versions_commit {t : Tables} (c : Call) (v : Nat) :
    versions (commitChange t c v) c.staffUserId = versions t c.staffUserId ++ [v] := by
  simp [versions, commitChange, Call.event]

lemma versions_commit_ne {t : Tables} {c : Call} {v : Nat} {s : Uuid} (h : s ≠ c.staffUserId) :
    versions (commitChange t c v) s = versions t s := by
  simp [versions, commitChange, Call.event, Ne.symm h]

lemma lookup_writeMembership {rows : List Membership} {row : Membership} {k : Uuid × Uuid} :
    lookup Membership.key (writeMembership rows (some row)) k =
      if row.key = k then some row else lookup Membership.key rows k := by
  rw [writeMembership]
  split
  · next hmem =>
    rw [lookup_put]
    by_cases hk : row.key = k
    · subst hk
      cases hfound : lookup Membership.key rows row.key with
      | none => exact absurd hmem (lookup_none.mp hfound)
      | some r => simp
    · rw [if_neg hk, if_neg hk]
  · next hmem => exact lookup_snoc (lookup_none.mpr hmem) k

lemma liveIn_write {rows : List Membership} {row : Membership} {k : Uuid × Uuid} :
    liveIn (writeMembership rows (some row)) k =
      if row.key = k then row.live else liveIn rows k := by
  rw [liveIn, lookup_writeMembership, liveIn]
  split <;> rfl

lemma liveIn_write_self {rows : List Membership} {row : Membership} {k : Uuid × Uuid}
    (h : row.key = k) : liveIn (writeMembership rows (some row)) k = row.live := by
  rw [liveIn_write, if_pos h]

lemma liveIn_write_ne {rows : List Membership} {write : Option Membership} {k : Uuid × Uuid}
    (h : ∀ row, write = some row → row.key ≠ k) :
    liveIn (writeMembership rows write) k = liveIn rows k := by
  cases write with
  | none => rfl
  | some row => rw [liveIn_write, if_neg (h row rfl)]

lemma keys_write {rows : List Membership} {write : Option Membership}
    (h : (rows.map Membership.key).Nodup) :
    ((writeMembership rows write).map Membership.key).Nodup := by
  cases write with
  | none => exact h
  | some row =>
    rw [writeMembership]
    split
    · rw [map_key_put]
      exact h
    · next hnew =>
      rw [List.map_append, List.nodup_append]
      refine ⟨h, List.nodup_singleton _, ?_⟩
      rintro k hk _ hmem rfl
      exact hnew (by rwa [List.mem_singleton.mp hmem] at hk)

/-- What the next statement of a call can do. -/
inductive Next (w : World) (c : Call) : Call → Prop where
  | waits : Next w c c
  | fails (refusal : Refusal) (h : refusal ≠ .uniqueViolation) : Next w c (c.fail refusal)
  | collides (v : Nat) (h : c.phase = .mutated v) (e : ChangeEvent) (he : e ∈ w.shared.events)
      (hsame : sameEvent c v e) : Next w c (c.fail .uniqueViolation)
  | owner (phase : Phase) (h : c.phase = .opened)
      (howner : w.shared.staff.activeOwner c.actorId = true)
      (hphase : phase = .owner ∨ (c.change = .revoked ∧ phase = .staff)) : Next w c { c with phase }
  | store (h : c.phase = .owner) : Next w c { c with phase := .store }
  | staff (h : c.phase = .store) (hactive : w.shared.staff.isActive c.staffUserId = true) :
      Next w c { c with phase := .staff }
  | locks (h : c.phase = .staff) : Next w c { c with phase := .locked }
  | reads (h : c.phase = .locked) :
      Next w c { c with phase := .versioned (nextVersion w.shared c.staffUserId) }
  | checks (v : Nat) (h : c.phase = .versioned v) : Next w c { c with phase := .checked v }
  | mutates (v : Nat) (h : c.phase = .checked v) (holdsRow : Bool) (write : Option Membership)
      (hkey : ∀ row, write = some row → row.key = c.key)
      (hlive : liveIn (writeMembership w.shared.memberships write) c.key = true ↔
        c.change = .assigned) :
      Next w c { c with phase := .mutated v, holdsRow, write }
  | events (v : Nat) (h : c.phase = .mutated v) : Next w c { c with phase := .evented v }

lemma assignMutation_spec {w : World} {c : Call} {v : Nat} (h : c.phase = .checked v)
    (hw : c.write = none) (hchange : c.change = .assigned) : Next w c (assignMutation w c v) := by
  rw [assignMutation]
  split
  · exact .waits
  split
  · refine .mutates v h true _ (fun row hrow => ?_) ?_
    · cases hrow
      rfl
    · rw [liveIn_write_self (by rfl), hchange]
      simp
  · next row hrow =>
    have hkey : row.key = c.key := lookup_key hrow
    split
    · next hlive =>
      refine .mutates v h true c.write (fun row hrow => ?_) ?_
      · rw [hw] at hrow
        cases hrow
      · rw [hw, writeMembership, liveIn, hrow, Option.any_some, hlive, hchange]
        simp
    · refine .mutates v h true _ (fun row' hrow' => ?_) ?_
      · cases hrow'
        exact hkey
      · rw [liveIn_write_self (by exact hkey), hchange]
        simp

lemma revokeMutation_spec {w : World} {c : Call} {v : Nat} (h : c.phase = .checked v)
    (hw : c.write = none) (hchange : c.change = .revoked) : Next w c (revokeMutation w c v) := by
  -- a row that is not there, or not live, stays as it is
  have hkeep (hdead : liveIn w.shared.memberships c.key = false) :
      Next w c { c with phase := .mutated v } := by
    refine .mutates v h c.holdsRow c.write (fun row hrow => ?_) ?_
    · rw [hw] at hrow
      cases hrow
    · rw [hw, writeMembership, hdead, hchange]
      simp
  rw [revokeMutation]
  split
  · next hnone => exact hkeep (by rw [liveIn, hnone]; rfl)
  · next row hrow =>
    have hkey : row.key = c.key := lookup_key hrow
    split
    · next hdead => exact hkeep (by rw [liveIn, hrow, Option.any_some, hdead])
    split
    · exact .waits
    · refine .mutates v h true _ (fun row' hrow' => ?_) ?_
      · cases hrow'
        exact hkey
      · rw [liveIn_write_self (by exact hkey), hchange]
        simp

lemma requireActiveOwner_ok {t : Tables} {principal : StaffPrincipal} {u : Unit}
    (h : requireActiveOwner t principal = .ok u) :
    t.staff.activeOwner principal.staffUserId = true := by
  obtain ⟨_, -, h⟩ := bind_ok.mp h
  exact require_ok.mp h

lemma requireActiveOwner_error {t : Tables} {principal : StaffPrincipal} {refusal : Refusal}
    (h : requireActiveOwner t principal = .error refusal) : refusal ≠ .uniqueViolation := by
  rcases bind_error.mp h with h | ⟨_, -, h⟩
  · obtain ⟨-, rfl⟩ := require_error.mp h
    exact fun hsame => by cases hsame
  · obtain ⟨-, rfl⟩ := require_error.mp h
    exact fun hsame => by cases hsame

lemma next_spec {w : World} {c : Call} (hun : c.phase.wrote = none → c.write = none) :
    Next w c (next w c) := by
  rw [next]
  split
  case h_1 hp _ =>
    cases howner : requireActiveOwner w.shared c.principal with
    | ok u => exact .owner .owner hp (requireActiveOwner_ok howner) (.inl rfl)
    | error refusal => exact .fails refusal (requireActiveOwner_error howner)
  case h_2 hp hchange =>
    cases howner : requireActiveOwner w.shared c.principal with
    | ok u => exact .owner .staff hp (requireActiveOwner_ok howner) (.inr ⟨hchange, rfl⟩)
    | error refusal => exact .fails refusal (requireActiveOwner_error howner)
  case h_3 hp =>
    by_cases hstore : c.storeId ∈ w.shared.stores
    · rw [require_true hstore]
      exact .store hp
    · rw [require_false hstore]
      exact .fails _ fun hsame => by cases hsame
  case h_4 hp =>
    by_cases hactive : w.shared.staff.isActive c.staffUserId = true
    · rw [require_true hactive]
      exact .staff hp hactive
    · rw [require_false hactive]
      exact .fails _ fun hsame => by cases hsame
  case h_5 hp =>
    split
    · exact .waits
    by_cases hrow : (w.shared.staff.user c.staffUserId).isSome = true
    · rw [require_true hrow]
      exact .locks hp
    · rw [require_false hrow]
      exact .fails _ fun hsame => by cases hsame
  case h_6 hp => exact .reads hp
  case h_7 v hp => exact .checks v hp
  case h_8 v hp hchange => exact assignMutation_spec hp (hun (by rw [hp]; rfl)) hchange
  case h_9 v hp hchange => exact revokeMutation_spec hp (hun (by rw [hp]; rfl)) hchange
  case h_10 v hp =>
    rw [insertEvent]
    split
    · next hsame =>
      obtain ⟨e, he, hsame⟩ := hsame
      exact .collides v hp e he hsame
    split
    · exact .waits
    · exact .events v hp
  case h_11 => exact .waits

lemma callOk_fail {t : Tables} {refusal : Refusal} (c : Call) (h : refusal ≠ .uniqueViolation) :
    CallOk t (c.fail refusal) where
  owner hp := by cases hp
  staff _ hp := by cases hp
  version v hv := by cases hv
  key row hrow := by cases hrow
  unwritten _ := rfl
  wrote v hv := by cases hv
  collides hsame := h (by simpa [Call.fail] using hsame)

lemma next_ok {w : World} {c c' : Call} (h : CallOk w.shared c) (hn : Next w c c') :
    CallOk w.shared c' := by
  have hkeep := h
  obtain ⟨howner, hstaff, hversion, hkey, hunwritten, hwrote, hcollides⟩ := h
  cases hn with
  | waits => exact hkeep
  | fails refusal hr => exact callOk_fail c hr
  | collides v hp e he hsame =>
    -- the version that the call has read is above every version there is
    obtain ⟨hstaffId, hv, -⟩ := hsame
    have hlt := version_lt_next he
    rw [hstaffId, hversion v (by rw [hp]; rfl), hv] at hlt
    exact absurd hlt (lt_irrefl v)
  | owner phase hp hactive hphase =>
    have hnone := hunwritten (by rw [hp]; rfl)
    rcases hphase with rfl | ⟨hrevoked, rfl⟩
    · exact ⟨fun _ => hactive, nofun, nofun, hkey,
        fun _ => hnone, nofun, nofun⟩
    · exact ⟨fun _ => hactive, fun hassigned => (nomatch hrevoked.symm.trans hassigned),
        nofun, hkey, fun _ => hnone, nofun,
        nofun⟩
  | store hp =>
    exact ⟨fun _ => howner (by rw [hp]; rfl), nofun, nofun,
      hkey, fun _ => hunwritten (by rw [hp]; rfl), nofun,
      nofun⟩
  | staff hp hactive =>
    exact ⟨fun _ => howner (by rw [hp]; rfl), fun _ _ => hactive, nofun, hkey,
      fun _ => hunwritten (by rw [hp]; rfl), nofun, nofun⟩
  | locks hp =>
    exact ⟨fun _ => howner (by rw [hp]; rfl), fun ha _ => hstaff ha (by rw [hp]; rfl),
      nofun, hkey, fun _ => hunwritten (by rw [hp]; rfl), nofun,
      nofun⟩
  | reads hp =>
    exact ⟨fun _ => howner (by rw [hp]; rfl), fun ha _ => hstaff ha (by rw [hp]; rfl),
      fun v hv => Option.some.inj hv, hkey, fun _ => hunwritten (by rw [hp]; rfl),
      nofun, nofun⟩
  | checks v hp =>
    exact ⟨fun _ => howner (by rw [hp]; rfl), fun ha _ => hstaff ha (by rw [hp]; rfl),
      fun v' hv => hversion v' (by rw [hp]; exact hv), hkey, fun _ => hunwritten (by rw [hp]; rfl),
      nofun, nofun⟩
  | mutates v hp holdsRow write hrow hlive =>
    exact ⟨fun _ => howner (by rw [hp]; rfl), fun ha _ => hstaff ha (by rw [hp]; rfl),
      fun v' hv => hversion v' (by rw [hp]; exact hv), hrow, nofun,
      fun v _ => hlive, nofun⟩
  | events v hp =>
    exact ⟨fun _ => howner (by rw [hp]; rfl), fun ha _ => hstaff ha (by rw [hp]; rfl),
      fun v' hv => hversion v' (by rw [hp]; exact hv), hkey, nofun,
      fun v' hv => hwrote v' (by rw [hp]; exact hv), nofun⟩

lemma commits_some {w : World} {command : Command} {i : Nat} {c : Call} {v : Nat}
    (h : commits w command = some (i, c, v)) :
    command = .commit i ∧ w.calls[i]? = some c ∧ c.phase = .evented v := by
  cases command with
  | commit j =>
    simp only [commits] at h
    split at h
    · next d hd =>
      split at h
      · next v' hp =>
        cases h
        exact ⟨rfl, hd, hp⟩
      · cases h
    · cases h
  | _ => cases h

section Commit

variable {t : Tables} {c d : Call} {v : Nat}

lemma callOk_committed (c : Call) :
    CallOk t { c with phase := .committed, holdsRow := false, write := none } :=
  ⟨nofun, nofun, nofun, nofun, fun _ => rfl, nofun, nofun⟩

lemma lastChange_commit : lastChange (commitChange t c v) c.staffUserId c.storeId = some c.change := by
  simp [lastChange, commitChange, Call.event]

lemma lastChange_commit_ne {staffUserId storeId : Uuid} (h : (staffUserId, storeId) ≠ c.key) :
    lastChange (commitChange t c v) staffUserId storeId = lastChange t staffUserId storeId := by
  have hother : ¬ (c.staffUserId = staffUserId ∧ c.storeId = storeId) := by
    rintro ⟨rfl, rfl⟩
    exact h rfl
  simp [lastChange, commitChange, Call.event, hother]

lemma tablesOk_commit (ht : TablesOk t) (h : CallOk t c) (hp : c.phase = .evented v) :
    TablesOk (commitChange t c v) := by
  have hnext : nextVersion t c.staffUserId = v := h.version v (by rw [hp]; rfl)
  refine ⟨keys_write ht.keys, fun s => ?_, fun staffUserId storeId => ?_⟩
  · by_cases hs : s = c.staffUserId
    · subst hs
      rw [versions_commit, List.pairwise_append]
      refine ⟨ht.versions _, List.pairwise_singleton _ _, fun x hx y hy => ?_⟩
      obtain ⟨e, he, rfl⟩ := List.mem_map.mp hx
      obtain ⟨he, hsame⟩ := List.mem_filter.mp he
      rw [List.mem_singleton.mp hy, ← hnext, ← of_decide_eq_true hsame]
      exact version_lt_next he
    · rw [versions_commit_ne hs]
      exact ht.versions s
  · by_cases hkey : (staffUserId, storeId) = c.key
    · obtain ⟨rfl, rfl⟩ := Prod.mk.inj hkey
      rw [lastChange_commit, Option.some.injEq]
      exact h.wrote v (by rw [hp]; rfl)
    · rw [lastChange_commit_ne hkey, ← ht.live]
      refine iff_of_eq (congrArg (· = true) (liveIn_write_ne fun row hrow hsame => ?_))
      exact hkey (hsame.symm.trans (h.key row hrow))

lemma callOk_beside (h : CallOk t c) (hd : CallOk t d)
    (hfree : d.staffUserId = c.staffUserId → d.phase.version = none) :
    CallOk (commitChange t c v) d := by
  refine ⟨hd.owner, hd.staff, fun u hu => ?_, hd.key, hd.unwritten, fun u hu => ?_, hd.collides⟩
  · have hne : d.staffUserId ≠ c.staffUserId := fun hsame => by
      rw [hfree hsame] at hu
      cases hu
    rw [nextVersion_commit_ne hne]
    exact hd.version u hu
  · have hne : d.staffUserId ≠ c.staffUserId := by
      intro hsame
      have hnone := hfree hsame
      revert hu hnone
      cases d.phase <;> simp [Phase.wrote, Phase.version]
    have hother {row : Membership} (hrow : c.write = some row) : row.key ≠ d.key := by
      intro hsame
      exact hne (congrArg Prod.fst (hsame.symm.trans (h.key row hrow)))
    rw [← hd.wrote u hu]
    refine iff_of_eq (congrArg (· = true) ?_)
    cases hwrite : d.write with
    | none => exact liveIn_write_ne fun row hrow => hother hrow
    | some row =>
      have hkey := hd.key row hwrite
      rw [liveIn_write_self hkey, liveIn_write_self hkey]

end Commit

lemma Inv.identity {w : World} (h : Inv w) {staff : StaffTables}
    (hfree : ∀ c ∈ w.calls, ¬ Breaks staff c) :
    Inv { w with shared := { w.shared with staff } } := by
  refine ⟨⟨h.shared.keys, h.shared.versions, h.shared.live⟩, fun {i c} hc => ?_, fun _ _ _ => trivial⟩
  have hok := h.own hc
  have hunbroken := hfree c (List.mem_of_getElem? hc)
  rw [Breaks, not_or] at hunbroken
  refine ⟨fun hp => ?_, fun ha hp => ?_, hok.version, hok.key, hok.unwritten, hok.wrote, hok.collides⟩
  · by_contra hlost
    exact hunbroken.1 ⟨hp, by simpa using hlost⟩
  · by_contra hlost
    exact hunbroken.2 ⟨ha, hp, by simpa using hlost⟩

lemma Inv.commit {w : World} (h : Inv w) {i : Nat} {c : Call} {v : Nat}
    (hc : w.calls[i]? = some c) (hp : c.phase = .evented v)
    (hfree : ¬ Overtakes w (some (i, c, v))) :
    Inv (w.put i { c with phase := .committed, holdsRow := false, write := none }
      (commitChange w.shared c v)) := by
  have hok := h.own hc
  refine Coherent.put h (fun _ => trivial) hc (tablesOk_commit h.shared hok hp)
    (callOk_committed c) fun j d hj hd hdok _ => ⟨callOk_beside hok hdok fun hsame => ?_, trivial⟩
  by_contra hversion
  refine hfree ⟨d, List.mem_eraseIdx_iff_getElem?.mpr ⟨j, hj, hd⟩, hsame, ?_⟩
  exact Option.isSome_iff_ne_none.mpr hversion

lemma inv_apply {w : World} (h : Inv w) {command : Command} (hfree : ¬ Disturbs w command) :
    Inv (apply w command) := by
  rw [Disturbs, not_or] at hfree
  cases command with
  | call change staffUserId storeId principal =>
    exact h.enter (fun _ => trivial) ⟨nofun, nofun, nofun, nofun, fun _ => rfl, nofun, nofun⟩
      fun _ _ _ => trivial
  | statement i =>
    rw [apply]
    split
    · next c hc =>
      have hok := h.own hc
      exact Coherent.put h (fun _ => trivial) hc h.shared (next_ok hok (next_spec hok.unwritten))
        fun _ _ _ _ hdok _ => ⟨hdok, trivial⟩
    · exact h
  | commit i =>
    rw [apply]
    cases hcommits : commits w (.commit i) with
    | none => exact h
    | some found =>
      obtain ⟨j, c, v⟩ := found
      obtain ⟨-, hc, hp⟩ := commits_some hcommits
      rw [hcommits] at hfree
      exact h.commit hc hp hfree.2
  | abort i =>
    rw [apply]
    split
    · next c hc =>
      split
      · exact h
      · exact Coherent.put h (fun _ => trivial) hc h.shared (callOk_fail c (by simp))
          fun _ _ _ _ hdok _ => ⟨hdok, trivial⟩
    · exact h
  | identity staff =>
    rw [apply]
    split
    · exact h.identity fun c hc hbreaks => hfree.1 ⟨c, hc, hbreaks⟩
    · exact h
  | newStore id =>
    refine ⟨⟨h.shared.keys, h.shared.versions, h.shared.live⟩, fun {i c} hc => ?_,
      fun _ _ _ => trivial⟩
    have hok := h.own hc
    exact ⟨hok.owner, hok.staff, hok.version, hok.key, hok.unwritten, hok.wrote, hok.collides⟩

lemma inv_empty (staff : StaffTables) : Inv ⟨⟨staff, [], [], []⟩, []⟩ where
  shared := ⟨List.nodup_nil, fun _ => List.Pairwise.nil, fun _ _ => by simp [liveIn, lookup, lastChange]⟩
  own h := by cases h
  apart _ h := by cases h

lemma inv_foldl {w : World} (h : Inv w) {commands : List Command} (hfree : Undisturbed w commands) :
    Inv (commands.foldl apply w) := by
  induction commands generalizing w with
  | nil => exact h
  | cons command rest ih => exact ih (inv_apply h hfree.1) hfree.2

lemma undisturbed_append {w : World} {before after : List Command} :
    Undisturbed w (before ++ after) ↔
      Undisturbed w before ∧ Undisturbed (before.foldl apply w) after := by
  induction before generalizing w with
  | nil => simp [Undisturbed]
  | cons command before ih => simp [Undisturbed, ih, and_assoc]

/-- Over any run in which no commit lands, against what a call has checked, between its check and
its commit: no call collides, each change is its owner's and for an active person, one person's
changes are numbered in their order, and the last of them decides. -/
theorem store_access_in_order (staff : StaffTables) (commands : List Command)
    (hfree : Undisturbed ⟨⟨staff, [], [], []⟩, []⟩ commands) :
    let w := run staff commands
    (∀ c ∈ w.calls, c.phase ≠ .failed .uniqueViolation) ∧
    (∀ before command after, commands = before ++ command :: after → ∀ i c v,
      commits (run staff before) command = some (i, c, v) →
      (run staff before).shared.staff.activeOwner c.actorId = true ∧
      (c.change = .assigned → (run staff before).shared.staff.isActive c.staffUserId = true)) ∧
    (∀ staffUserId, (versions w.shared staffUserId).Pairwise (· < ·)) ∧
    (∀ staffUserId storeId, liveIn w.shared.memberships (staffUserId, storeId) = true ↔
      lastChange w.shared staffUserId storeId = some .assigned) := by
  intro w
  have hinv : Inv w := inv_foldl (inv_empty staff) hfree
  refine ⟨fun c hc => ?_, fun before command after hsplit i c v hcommits => ?_,
    hinv.shared.versions, hinv.shared.live⟩
  · obtain ⟨i, hi⟩ := List.getElem?_of_mem hc
    exact (hinv.own hi).collides
  · rw [hsplit, undisturbed_append] at hfree
    obtain ⟨-, hc, hp⟩ := commits_some hcommits
    have hok := (inv_foldl (inv_empty staff) hfree.1).own hc
    exact ⟨hok.owner (by rw [hp]; rfl), fun ha => hok.staff ha (by rw [hp]; rfl)⟩

section Runs

def shop : StaffTables :=
  ⟨[⟨.ofNat 1, "owner", .active, 1⟩, ⟨.ofNat 2, "clerk", .active, 1⟩,
      ⟨.ofNat 3, "driver", .active, 1⟩],
    [⟨.ofNat 1, .ownerAdmin, false⟩], []⟩

def owner : StaffPrincipal := ⟨.ofNat 1, [.ownerAdmin], true⟩

def statements (i n : Nat) : List Command := List.replicate n (.statement i)

def givenAndTaken : List Command :=
  [.newStore (.ofNat 7), .call .assigned (.ofNat 2) (.ofNat 7) owner] ++ statements 0 8 ++
    [.commit 0, .call .revoked (.ofNat 2) (.ofNat 7) owner] ++ statements 1 6 ++ [.commit 1]

/-- Two people are given access at once: the second call has read its version when the first
commits. -/
def givenToBoth : List Command :=
  [.newStore (.ofNat 7), .call .assigned (.ofNat 2) (.ofNat 7) owner,
    .call .assigned (.ofNat 3) (.ofNat 7) owner] ++ statements 0 3 ++ statements 1 6 ++
    statements 0 5 ++ [.commit 0] ++ statements 1 2 ++ [.commit 1]

theorem store_access_in_order_given_and_taken :
    (liveIn (run shop givenAndTaken).shared.memberships (.ofNat 2, .ofNat 7) = true ↔
      lastChange (run shop givenAndTaken).shared (.ofNat 2) (.ofNat 7) = some .assigned) ∧
    (∀ c ∈ (run shop givenToBoth).calls, c.phase ≠ .failed .uniqueViolation) ∧
    lastChange (run shop givenToBoth).shared (.ofNat 2) (.ofNat 7) = some .assigned ∧
    lastChange (run shop givenToBoth).shared (.ofNat 3) (.ofNat 7) = some .assigned ∧
    liveIn (run shop givenToBoth).shared.memberships (.ofNat 3, .ofNat 7) = true := by
  have hfree : Undisturbed ⟨⟨shop, [], [], []⟩, []⟩ givenAndTaken := by decide
  have hfree' : Undisturbed ⟨⟨shop, [], [], []⟩, []⟩ givenToBoth := by decide
  obtain ⟨hcollides, -, -, hlive⟩ := store_access_in_order shop givenToBoth hfree'
  have hclerk : lastChange (run shop givenToBoth).shared (.ofNat 2) (.ofNat 7) = some .assigned := by
    decide
  have hdriver : lastChange (run shop givenToBoth).shared (.ofNat 3) (.ofNat 7) = some .assigned := by
    decide
  exact ⟨(store_access_in_order shop givenAndTaken hfree).2.2.2 _ _, hcollides, hclerk, hdriver,
    (hlive _ _).mpr hdriver⟩

/-- Two stores are given to one person at once: both calls have read the version when the first
commits. -/
def givenTwice : List Command :=
  [.newStore (.ofNat 7), .newStore (.ofNat 8), .call .assigned (.ofNat 2) (.ofNat 7) owner,
    .call .assigned (.ofNat 2) (.ofNat 8) owner] ++ statements 0 6 ++ statements 1 6 ++
    statements 0 2 ++ [.commit 0] ++ statements 1 2

theorem grants_collide :
    ∃ c ∈ (run shop givenTwice).calls, c.phase = .failed .uniqueViolation := by
  decide

end Runs

end NhaTrangLaundry.Db.StoreAccess
