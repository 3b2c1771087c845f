import NhaTrangLaundry.Db.ConsentEgress
import NhaTrangLaundry.Lib.Table

/-! Staff users, their roles and their sessions, as every reader finds them. -/

namespace NhaTrangLaundry.Db.Staff

open Lib Table
open ConsentEgress (StaffRole StaffPrincipal)

inductive StaffStatus where
  | active
  | disabled
deriving DecidableEq

structure StaffUser where
  id : Uuid
  oidcSubject : String
  status : StaffStatus
  authorizationVersion : Nat
deriving DecidableEq

/-- A row of `staff_role_assignments`, one for each user and role. -/
structure RoleAssignment where
  staffUserId : Uuid
  role : StaffRole
  revoked : Bool
deriving DecidableEq

structure StaffSession where
  id : Uuid
  staffUserId : Uuid
  secretHash : String
  authorizationVersion : Nat
  mfaVerified : Bool
  issuedAt : Int
  lastSeenAt : Int
  idleExpiresAt : Int
  absoluteExpiresAt : Int
  idleTimeoutSeconds : Nat
  identityTokenDigest : Option String
  revoked : Bool
deriving DecidableEq

structure StaffTables where
  users : List StaffUser
  roles : List RoleAssignment
  sessions : List StaffSession
deriving DecidableEq

namespace StaffTables

def user (t : StaffTables) (id : Uuid) : Option StaffUser := lookup StaffUser.id t.users id

def isActive (t : StaffTables) (id : Uuid) : Bool :=
  (t.user id).any fun u => u.status = .active

def holds (t : StaffTables) (id : Uuid) (role : StaffRole) : Bool :=
  t.roles.any fun r => r.staffUserId = id && r.role = role && !r.revoked

/-- The join of `_require_owner`, and of every other check that the actor owns the shop. -/
def activeOwner (t : StaffTables) (id : Uuid) : Bool := t.isActive id && t.holds id .ownerAdmin

end StaffTables

end NhaTrangLaundry.Db.Staff
