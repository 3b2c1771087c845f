import NhaTrangLaundry.Db.StaffTables
import NhaTrangLaundry.Lib.Interleaving
import NhaTrangLaundry.Lib.Outcome

/-! Access of staff to stores: calls of `assign_store` and `revoke_store`, each in the two
transactions that the code opens, while the identity tables change beside them. -/

namespace NhaTrangLaundry.Db.StoreAccess

open Lib Outcome Table Staff
open ConsentEgress (StaffRole StaffPrincipal)

inductive Change where
  | assigned
  | revoked
deriving DecidableEq

/-- A row of `staff_store_assignments`; `live` is `revoked_at IS NULL`. -/
structure Membership where
  staffUserId : Uuid
  storeId : Uuid
  changedBy : Uuid
  live : Bool
  rowVersion : Nat
deriving DecidableEq

def Membership.key (m : Membership) : Uuid × Uuid := (m.staffUserId, m.storeId)

/-- A `STAFF_STORE_ASSIGNMENT` event, `STAFF_STORE_ASSIGNED` or `STAFF_STORE_REVOKED`. -/
structure ChangeEvent where
  staffUserId : Uuid
  version : Nat
  change : Change
  storeId : Uuid
  actorId : Uuid
deriving DecidableEq

structure Tables where
  staff : StaffTables
  stores : List Uuid
  memberships : List Membership
  events : List ChangeEvent

inductive Refusal where
  | shadowAuthorization (message : String)
  | shadowState (message : String)
  /-- `domain_events` has the aggregate, version and event type already. -/
  | uniqueViolation
  | connectionLost
deriving DecidableEq

/-- Where a call stands; from `versioned` on it has read the version of its event. The first
transaction ends at `checked`, the second runs from there. -/
inductive Phase where
  | opened
  | owner
  | store
  | staff
  | locked
  | versioned (version : Nat)
  | checked (version : Nat)
  | mutated (version : Nat)
  | evented (version : Nat)
  | committed
  | failed (refusal : Refusal)
deriving DecidableEq

def Phase.ended : Phase → Bool
  | .committed | .failed _ => true
  | _ => false

/-- A call; `holdsRow` is the lock on the row that it names, and `write` its uncommitted version. -/
structure Call where
  change : Change
  staffUserId : Uuid
  storeId : Uuid
  principal : StaffPrincipal
  phase : Phase
  holdsRow : Bool
  write : Option Membership

abbrev World := Interleaved Tables Call

def Call.key (c : Call) : Uuid × Uuid := (c.staffUserId, c.storeId)

def Call.actorId (c : Call) : Uuid := c.principal.staffUserId

def Call.event (c : Call) (version : Nat) : ChangeEvent :=
  ⟨c.staffUserId, version, c.change, c.storeId, c.actorId⟩

def Call.fail (c : Call) (refusal : Refusal) : Call :=
  { c with phase := .failed refusal, holdsRow := false, write := none }

/-- The call holds the lock on the row of its staff user. -/
def Call.holdsStaff (c : Call) : Bool :=
  match c.phase with
  | .locked | .versioned _ => true
  | _ => false

/-- `SELECT coalesce(max(aggregate_version), 0)`, and one more. -/
def nextVersion (t : Tables) (staffUserId : Uuid) : Nat :=
  ((t.events.filter fun e => e.staffUserId = staffUserId).map ChangeEvent.version).foldl max 0 + 1

def requireActiveOwner (t : Tables) (principal : StaffPrincipal) : Except Refusal Unit := do
  require (.ownerAdmin ∈ principal.roles)
    (.shadowAuthorization "store assignment requires OWNER_ADMIN")
  require (t.staff.activeOwner principal.staffUserId = true)
    (.shadowAuthorization "store assignment requires an active OWNER_ADMIN")

/-- The call goes on to a phase, or fails on the refusal of the statement that it made. -/
def Call.after (c : Call) (outcome : Except Refusal Unit) (phase : Phase) : Call :=
  match outcome with
  | .ok () => { c with phase }
  | .error refusal => c.fail refusal

def rowTaken (w : World) (c : Call) : Prop := ∃ d ∈ w.calls, d.holdsRow = true ∧ d.key = c.key

instance decideRowTaken (w : World) (c : Call) : Decidable (rowTaken w c) := List.decidableBEx _ _

/-- `INSERT … ON CONFLICT (staff_user_id, store_id) DO UPDATE … WHERE revoked_at IS NOT NULL`. The
row is locked also where it is left as it is. -/
def assignMutation (w : World) (c : Call) (version : Nat) : Call :=
  if rowTaken w c then c
  else
    match lookup Membership.key w.shared.memberships c.key with
    | none => { c with phase := .mutated version, holdsRow := true,
                       write := some ⟨c.staffUserId, c.storeId, c.actorId, true, 1⟩ }
    | some row =>
      if row.live then { c with phase := .mutated version, holdsRow := true }
      else { c with phase := .mutated version, holdsRow := true,
                    write := some { row with changedBy := c.actorId, live := true,
                                             rowVersion := row.rowVersion + 1 } }

/-- `UPDATE … WHERE … revoked_at IS NULL`: a row that is not live is neither changed nor locked. -/
def revokeMutation (w : World) (c : Call) (version : Nat) : Call :=
  match lookup Membership.key w.shared.memberships c.key with
  | none => { c with phase := .mutated version }
  | some row =>
    if row.live = false then { c with phase := .mutated version }
    else if rowTaken w c then c
    else { c with phase := .mutated version, holdsRow := true,
                  write := some { row with changedBy := c.actorId, live := false,
                                           rowVersion := row.rowVersion + 1 } }

/-- The events of this version and type, by which a second one is refused. -/
def sameEvent (c : Call) (version : Nat) (e : ChangeEvent) : Prop :=
  e.staffUserId = c.staffUserId ∧ e.version = version ∧ e.change = c.change

instance decideSameEvent (c : Call) (version : Nat) (e : ChangeEvent) :
    Decidable (sameEvent c version e) :=
  inferInstanceAs (Decidable (_ ∧ _ ∧ _))

/-- `INSERT INTO domain_events`: it waits for a transaction that has written the same key. -/
def insertEvent (w : World) (c : Call) (version : Nat) : Call :=
  if ∃ e ∈ w.shared.events, sameEvent c version e then c.fail .uniqueViolation
  else if ∃ d ∈ w.calls, d.phase = .evented version ∧ sameEvent c version (d.event version) then c
  else { c with phase := .evented version }

/-- The next statement of a call, or the end of its first transaction. -/
def next (w : World) (c : Call) : Call :=
  match c.phase, c.change with
  | .opened, .assigned => c.after (requireActiveOwner w.shared c.principal) .owner
  | .opened, .revoked => c.after (requireActiveOwner w.shared c.principal) .staff
  | .owner, _ =>
    c.after (require (c.storeId ∈ w.shared.stores) (.shadowState "no such store")) .store
  | .store, _ =>
    c.after (require (w.shared.staff.isActive c.staffUserId = true)
      (.shadowState "staff user is missing or disabled")) .staff
  | .staff, _ =>
    if ∃ d ∈ w.calls, d.holdsStaff = true ∧ d.staffUserId = c.staffUserId then c
    else c.after (require ((w.shared.staff.user c.staffUserId).isSome = true)
      (.shadowState "staff user is missing")) .locked
  | .locked, _ => { c with phase := .versioned (nextVersion w.shared c.staffUserId) }
  | .versioned version, _ => { c with phase := .checked version }
  | .checked version, .assigned => assignMutation w c version
  | .checked version, .revoked => revokeMutation w c version
  | .mutated version, _ => insertEvent w c version
  | _, _ => c

def writeMembership (rows : List Membership) : Option Membership → List Membership
  | none => rows
  | some row =>
    if row.key ∈ rows.map Membership.key then put Membership.key rows row else rows ++ [row]

/-- What the second transaction of a call commits. -/
def commitChange (t : Tables) (c : Call) (version : Nat) : Tables :=
  { t with memberships := writeMembership t.memberships c.write
           events := t.events ++ [c.event version] }

inductive Command where
  | call (change : Change) (staffUserId storeId : Uuid) (principal : StaffPrincipal)
  | statement (i : Nat)
  | commit (i : Nat)
  | abort (i : Nat)
  /-- A role change, a disabling, or any other change of the identity tables, commits. -/
  | identity (staff : StaffTables)
  | newStore (id : Uuid)

def identityFree (w : World) (staff : StaffTables) : Prop :=
  ∀ d ∈ w.calls, d.holdsStaff = true → staff.user d.staffUserId = w.shared.staff.user d.staffUserId

instance decideIdentityFree (w : World) (staff : StaffTables) : Decidable (identityFree w staff) :=
  List.decidableBAll _ _

def commits (w : World) : Command → Option (Nat × Call × Nat)
  | .commit i =>
    match w.calls[i]? with
    | some c =>
      match c.phase with
      | .evented version => some (i, c, version)
      | _ => none
    | none => none
  | _ => none

def apply (w : World) (command : Command) : World :=
  match command with
  | .call change staffUserId storeId principal =>
    w.enter ⟨change, staffUserId, storeId, principal, .opened, false, none⟩
  | .statement i =>
    match w.calls[i]? with
    | some c => w.put i (next w c) w.shared
    | none => w
  | .commit _ =>
    match commits w command with
    | some (i, c, version) =>
      w.put i { c with phase := .committed, holdsRow := false, write := none }
        (commitChange w.shared c version)
    | none => w
  | .abort i =>
    match w.calls[i]? with
    | some c => if c.phase.ended then w else w.put i (c.fail .connectionLost) w.shared
    | none => w
  | .identity staff =>
    if identityFree w staff then { w with shared := { w.shared with staff } } else w
  | .newStore id => { w with shared := { w.shared with stores := w.shared.stores ++ [id] } }

def run (staff : StaffTables) (commands : List Command) : World :=
  commands.foldl apply ⟨⟨staff, [], [], []⟩, []⟩

end NhaTrangLaundry.Db.StoreAccess
