import NhaTrangLaundry.Db.StaffTables
import NhaTrangLaundry.Lib.Interleaving
import NhaTrangLaundry.Lib.Outcome
import NhaTrangLaundry.Lib.Sorting
import NhaTrangLaundry.Lib.Uuid
import Mathlib.Data.Prod.Lex

/-! Staff users, their roles and their sessions: the changes of authority, each a transaction under
the owner-set lock, and the calls that run in several statements beside them. -/

namespace NhaTrangLaundry.Db.Identity

open Lib Outcome Table Sorting Staff
open ConsentEgress (StaffRole)

inductive IdentityRefusal where
  | state (message : String)
  | permission (message : String)
  | subjectTaken (message : String)
  | tokenReplayed (message : String)
  | value (message : String)
  /-- A `CHECK` of the table, or the range of a column. -/
  | violated
deriving DecidableEq

/-- `create_session`'s arguments, with the identifier and the secret that it draws. Instants and
lifetimes are in microseconds. -/
structure CreateSession where
  oidcSubject : String
  mfaVerified : Bool
  now : Int
  idleTtl : Int
  absoluteTtl : Int
  identityTokenDigest : Option String
  sessionId : Uuid
  secret : String

/-- A principal that `authenticate_session` has returned, to which of the calls and when. -/
structure SignIn where
  call : Nat
  staffUserId : Uuid
  oidcSubject : String
  roles : List StaffRole
  sessionId : Uuid
  now : Int
deriving DecidableEq

inductive Call where
  /-- `create_staff`, past its owner check. -/
  | creating (subject : String) (staffId : Uuid)
  /-- `revoke_session`, past its checks; it holds the row of the session. -/
  | revoking (sessionId : Uuid)
  | minting (request : CreateSession) (userId : Uuid)
  | versioned (request : CreateSession) (userId : Uuid) (version : Nat)
  /-- `authenticate_session`; its first statement sees the tables as they were when it began. -/
  | opened (sessionId : Uuid) (secret : String) (now : Int) (seen : StaffTables)
  /-- It holds the row of the session, that it has found fit. -/
  | admitted (session : StaffSession) (subject : String) (now : Int)
  | answering (session : StaffSession) (subject : String) (roles : List StaffRole) (now : Int)
  | ended

structure Records where
  tables : StaffTables
  signIns : List SignIn

abbrev World := Interleaved Records Call

def second : Int := 1000000

def requiredText (value label : String) (maximumLength : Nat) : Except IdentityRefusal String := do
  let normalized := Text.strip value
  require (normalized ≠ "" ∧ normalized.toList.length ≤ maximumLength)
    (.state ("invalid " ++ label))
  .ok normalized

def isSha256Hex (value : String) : Bool :=
  value.toList.length = 64 && value.toList.all fun c => c ∈ "0123456789abcdef".toList

def parseSessionToken (value : String) : Except IdentityRefusal (Uuid × String) :=
  match value.toList.span (· ≠ '.') with
  | (text, _ :: c :: secret) =>
    match Uuid.ofText (String.ofList text) with
    | some id => .ok (id, String.ofList (c :: secret))
    | none => .error (.state "invalid session")
  | _ => .error (.state "invalid session")

def session (t : StaffTables) (id : Uuid) : Option StaffSession :=
  lookup StaffSession.id t.sessions id

def requireOwner (t : StaffTables) (actorId : Uuid) : Except IdentityRefusal Unit :=
  require (t.activeOwner actorId = true) (.permission "owner authorization is required")

def lockStaffVersion (t : StaffTables) (staffUserId : Uuid) : Except IdentityRefusal Unit :=
  require (t.isActive staffUserId = true) (.state "staff user is missing or disabled")

def requireOwnerSurvivesDisable (t : StaffTables) (staffUserId : Uuid) :
    Except IdentityRefusal Unit :=
  if t.holds staffUserId .ownerAdmin then
    require (∃ u ∈ t.users, u.id ≠ staffUserId ∧ t.activeOwner u.id = true)
      (.state "cannot disable the last active owner")
  else .ok ()

/-- `revoke_role` asks for another owner only where it takes away an owner's role. -/
def requireRevocable (t : StaffTables) (staffUserId : Uuid) (role : StaffRole) :
    Except IdentityRefusal Unit :=
  if role = .ownerAdmin then requireOwnerSurvivesDisable t staffUserId else .ok ()

/-- `revoke_session` and `list_live_sessions` ask for an owner where the sessions are another's. -/
def requireSelfOrOwner (t : StaffTables) (staffUserId actorId : Uuid) :
    Except IdentityRefusal Unit :=
  if staffUserId = actorId then .ok () else requireOwner t actorId

def activeRoles (t : StaffTables) (staffUserId : Uuid) : List StaffRole :=
  (t.roles.filter fun r => r.staffUserId = staffUserId && !r.revoked).map RoleAssignment.role

/-- `UPDATE staff_users … WHERE id = … AND status = 'ACTIVE'`. -/
def updateUser (f : StaffUser → StaffUser) (users : List StaffUser) (id : Uuid) : List StaffUser :=
  users.map fun u => if u.id = id ∧ u.status = .active then f u else u

def nextAuthorization (u : StaffUser) : StaffUser :=
  { u with authorizationVersion := u.authorizationVersion + 1 }

def disabledUser (u : StaffUser) : StaffUser :=
  { u with status := .disabled, authorizationVersion := u.authorizationVersion + 1 }

def ofRole (staffUserId : Uuid) (role : StaffRole) (r : RoleAssignment) : Bool :=
  r.staffUserId = staffUserId && r.role = role

def setRevoked (roles : List RoleAssignment) (staffUserId : Uuid) (role : StaffRole)
    (revoked : Bool) : List RoleAssignment :=
  roles.map fun r => if ofRole staffUserId role r then { r with revoked } else r

/-- `INSERT … ON CONFLICT (staff_user_id, role) DO UPDATE`. -/
def upsertRole (roles : List RoleAssignment) (staffUserId : Uuid) (role : StaffRole) :
    List RoleAssignment :=
  if roles.any (ofRole staffUserId role) then setRevoked roles staffUserId role false
  else roles ++ [⟨staffUserId, role, false⟩]

def insertStaff (t : StaffTables) (subject : String) (staffId : Uuid) :
    Except IdentityRefusal StaffTables := do
  require (∀ u ∈ t.users, u.id ≠ staffId ∧ u.oidcSubject ≠ subject)
    (.subjectTaken "this OIDC subject already belongs to a staff user")
  .ok { t with users := t.users ++ [⟨staffId, subject, .active, 1⟩] }

def revokeRow (s : StaffSession) : StaffSession := { s with revoked := true }

/-- What commits in one transaction that no other change of authority overlaps. -/
inductive Change where
  | bootstrapOwner (oidcSubject displayName : String) (staffId : Uuid)
  | assignRole (staffUserId : Uuid) (role : StaffRole) (actorId : Uuid)
  | revokeRole (staffUserId : Uuid) (role : StaffRole) (actorId : Uuid)
  /-- A session that is inserted after the last statement of `disable_staff` and before its commit
  is not among those that it saw. -/
  | disableStaff (staffUserId : Uuid) (actorId : Uuid) (saw : List Uuid)

/-- With several owners the database chooses which one `LIMIT 1` returns. -/
def bootstrapOwner (t : StaffTables) (oidcSubject displayName : String) (staffId : Uuid) :
    Except IdentityRefusal (StaffTables × Uuid) := do
  let subject ← requiredText oidcSubject "OIDC subject" 255
  let _name ← requiredText displayName "display name" 200
  match t.users.find? fun u => t.holds u.id .ownerAdmin with
  | some existing =>
    require (existing.oidcSubject = subject) (.state "an owner is already bootstrapped")
    .ok (t, existing.id)
  | none =>
    let inserted ← insertStaff t subject staffId
    .ok ({ inserted with roles := inserted.roles ++ [⟨staffId, .ownerAdmin, false⟩] }, staffId)

def assignRole (t : StaffTables) (staffUserId : Uuid) (role : StaffRole) (actorId : Uuid) :
    Except IdentityRefusal StaffTables := do
  requireOwner t actorId
  lockStaffVersion t staffUserId
  .ok { t with users := updateUser nextAuthorization t.users staffUserId
               roles := upsertRole t.roles staffUserId role }

def revokeRole (t : StaffTables) (staffUserId : Uuid) (role : StaffRole) (actorId : Uuid) :
    Except IdentityRefusal StaffTables := do
  requireOwner t actorId
  lockStaffVersion t staffUserId
  requireRevocable t staffUserId role
  require (t.holds staffUserId role = true) (.state "role is not currently assigned")
  .ok { t with users := updateUser nextAuthorization t.users staffUserId
               roles := setRevoked t.roles staffUserId role true }

def disableStaff (t : StaffTables) (staffUserId actorId : Uuid) (saw : List Uuid) :
    Except IdentityRefusal StaffTables := do
  requireOwner t actorId
  lockStaffVersion t staffUserId
  requireOwnerSurvivesDisable t staffUserId
  .ok { t with users := updateUser disabledUser t.users staffUserId
               sessions := t.sessions.map fun s =>
                 if s.staffUserId = staffUserId ∧ s.id ∈ saw then revokeRow s else s }

def change (t : StaffTables) : Change → Except IdentityRefusal StaffTables
  | .bootstrapOwner subject name id => Prod.fst <$> bootstrapOwner t subject name id
  | .assignRole id role actor => assignRole t id role actor
  | .revokeRole id role actor => revokeRole t id role actor
  | .disableStaff id actor saw => disableStaff t id actor saw

inductive Request where
  | createStaff (oidcSubject displayName : String) (actorId staffId : Uuid)
  | createSession (request : CreateSession)
  | authenticateSession (token : String) (now : Int)
  | revokeSession (sessionId actorId : Uuid)

def Call.holds : Call → Option Uuid
  | .revoking id => some id
  | .admitted s _ _ | .answering s _ _ _ => some s.id
  | _ => none

def rowHeld (w : World) (id : Uuid) : Prop := ∃ c ∈ w.calls, c.holds = some id

instance (w : World) (id : Uuid) : Decidable (rowHeld w id) := List.decidableBEx _ _

def beginCreateStaff (t : StaffTables) (oidcSubject displayName : String) (actorId staffId : Uuid) :
    Except IdentityRefusal Call := do
  let subject ← requiredText oidcSubject "OIDC subject" 255
  let _name ← requiredText displayName "display name" 200
  requireOwner t actorId
  .ok (.creating subject staffId)

def beginCreateSession (t : StaffTables) (request : CreateSession) :
    Except IdentityRefusal Call := do
  require (∀ digest ∈ request.identityTokenDigest, isSha256Hex digest = true)
    (.state "invalid identity token digest")
  require (0 < request.idleTtl ∧ 0 < request.absoluteTtl ∧ request.idleTtl ≤ request.absoluteTtl)
    (.state "invalid session lifetime")
  require (request.idleTtl % second = 0) (.state "session idle lifetime must use whole seconds")
  let subject ← requiredText request.oidcSubject "OIDC subject" 255
  match t.users.find? fun u => u.oidcSubject = subject with
  | some user =>
    require (user.status = .active) (.state "OIDC subject is not an active staff user")
    require (request.mfaVerified = true) (.state "MFA proof is required for every staff session")
    .ok (.minting request user.id)
  | none => .error (.state "OIDC subject is not an active staff user")

/-- `SELECT … FOR UPDATE` and the checks that follow it; the call waits for the row elsewhere. -/
def beginRevokeSession (t : StaffTables) (sessionId actorId : Uuid) :
    Except IdentityRefusal Call :=
  match session t sessionId with
  | some row => do
    require (row.revoked = false) (.state "session does not exist or is already revoked")
    requireSelfOrOwner t row.staffUserId actorId
    .ok (.revoking sessionId)
  | none => .error (.state "session does not exist or is already revoked")

def start (t : StaffTables) : Request → Except IdentityRefusal Call
  | .createStaff subject name actor id => beginCreateStaff t subject name actor id
  | .createSession request => beginCreateSession t request
  | .authenticateSession token now => do
    let (id, secret) ← parseSessionToken token
    .ok (.opened id secret now t)
  | .revokeSession id actor => beginRevokeSession t id actor

def secretHash (secret : String) : String := Hashing.sha256 secret

def CreateSession.row (request : CreateSession) (userId : Uuid) (version : Nat) : StaffSession where
  id := request.sessionId
  staffUserId := userId
  secretHash := secretHash request.secret
  authorizationVersion := version
  mfaVerified := request.mfaVerified
  issuedAt := request.now
  lastSeenAt := request.now
  idleExpiresAt := request.now + request.idleTtl
  absoluteExpiresAt := request.now + request.absoluteTtl
  idleTimeoutSeconds := (request.idleTtl / second).toNat
  identityTokenDigest := request.identityTokenDigest
  revoked := false

def insertSession (t : StaffTables) (row : StaffSession) : Except IdentityRefusal StaffTables := do
  require (row.idleExpiresAt ≤ row.absoluteExpiresAt ∧ row.issuedAt ≤ row.lastSeenAt ∧
    0 < row.idleTimeoutSeconds ∧ row.idleTimeoutSeconds < 2 ^ 31) .violated
  require (∀ s ∈ t.sessions, s.id ≠ row.id ∧ s.secretHash ≠ row.secretHash ∧
    (row.identityTokenDigest ≠ none → s.identityTokenDigest ≠ row.identityTokenDigest))
    (.tokenReplayed "identity token was already exchanged")
  .ok { t with sessions := t.sessions ++ [row] }

/-- The row that the first statement of `authenticate_session` locks is the newest one, beside the
user that it saw. -/
def authenticate (seen t : StaffTables) (sessionId : Uuid) (secret : String) (now : Int) :
    Except IdentityRefusal Call :=
  match session seen sessionId, session t sessionId with
  | some old, some row =>
    match seen.user old.staffUserId with
    | some user => do
      require (old.secretHash = secretHash secret) (.state "invalid session")
      require (user.status = .active ∧ row.revoked = false ∧
        user.authorizationVersion = row.authorizationVersion ∧ now < row.idleExpiresAt ∧
        now < row.absoluteExpiresAt) (.state "session is inactive, expired, or stale")
      .ok (.admitted row user.oidcSubject now)
    | none => .error (.state "invalid session")
  | _, _ => .error (.state "invalid session")

def seenAt (row : StaffSession) (now : Int) : StaffSession :=
  { row with lastSeenAt := now
             idleExpiresAt := min (now + row.idleTimeoutSeconds * second) row.absoluteExpiresAt }

/-- `UPDATE staff_sessions … WHERE id = … AND revoked_at IS NULL`. -/
def updateSession (f : StaffSession → StaffSession) (t : StaffTables) (id : Uuid) : StaffTables :=
  { t with sessions := t.sessions.map fun s => if s.id = id ∧ s.revoked = false then f s else s }

/-- A call ends with what it commits; a refused one leaves everything as it was. -/
def writing (records : Records) (outcome : Except IdentityRefusal StaffTables) : Call × Records :=
  match outcome with
  | .ok tables => (.ended, { records with tables })
  | .error _ => (.ended, records)

def staying (records : Records) (outcome : Except IdentityRefusal Call) : Call × Records :=
  match outcome with
  | .ok call => (call, records)
  | .error _ => (.ended, records)

/-- The next statement of call `i`. -/
def next (w : World) (i : Nat) : Call → Call × Records
  | .creating subject id => writing w.shared (insertStaff w.shared.tables subject id)
  | .revoking id =>
    (.ended, { w.shared with tables := updateSession revokeRow w.shared.tables id })
  | .minting request userId =>
    match w.shared.tables.user userId with
    | some user => (.versioned request userId user.authorizationVersion, w.shared)
    | none => (.ended, w.shared)
  | .versioned request userId version =>
    writing w.shared (insertSession w.shared.tables (request.row userId version))
  | .opened id secret now seen =>
    if rowHeld w id then (.opened id secret now seen, w.shared)
    else staying w.shared (authenticate seen w.shared.tables id secret now)
  | .admitted row subject now =>
    staying w.shared (do
      require (row.mfaVerified = true) (.state "MFA proof is required for every staff session")
      .ok (.answering row subject (activeRoles w.shared.tables row.staffUserId) now))
  | .answering row subject roles now =>
    if row.issuedAt ≤ now then
      (.ended,
        { tables := updateSession (fun s => seenAt s now) w.shared.tables row.id
          signIns := w.shared.signIns ++ [⟨i, row.staffUserId, subject, roles, row.id, now⟩] })
    else (.ended, w.shared)
  | .ended => (.ended, w.shared)

def maxSessionList : Int := 200

structure LiveSession where
  sessionId : Uuid
  issuedAt : Int
  lastSeenAt : Int
  idleExpiresAt : Int
  absoluteExpiresAt : Int
deriving DecidableEq

structure LiveSessionList where
  staffUserId : Uuid
  sessions : List LiveSession
  truncated : Bool
deriving DecidableEq

def LiveSession.ofRow (s : StaffSession) : LiveSession :=
  ⟨s.id, s.issuedAt, s.lastSeenAt, s.idleExpiresAt, s.absoluteExpiresAt⟩

/-- The `WHERE` of `list_live_sessions`. -/
def isLive (t : StaffTables) (staffUserId : Uuid) (now : Int) (s : StaffSession) : Bool :=
  s.staffUserId = staffUserId && !s.revoked && now < s.idleExpiresAt && now < s.absoluteExpiresAt &&
    ((t.user s.staffUserId).any fun u =>
      u.status = .active && s.authorizationVersion = u.authorizationVersion) && s.mfaVerified

def liveRows (t : StaffTables) (staffUserId : Uuid) (now : Int) : List StaffSession :=
  sortBy (fun s : StaffSession => toLex (-s.lastSeenAt, s.id.int.val))
    (t.sessions.filter (isLive t staffUserId now))

def listLiveSessions (t : StaffTables) (staffUserId actorId : Uuid) (now limit : Int) :
    Except IdentityRefusal LiveSessionList := do
  require (1 ≤ limit ∧ limit ≤ maxSessionList) (.value "limit must be between 1 and 200")
  requireSelfOrOwner t staffUserId actorId
  require ((t.user staffUserId).isSome = true) (.state "staff user is missing")
  let rows := (liveRows t staffUserId now).take (limit.toNat + 1)
  .ok ⟨staffUserId, (rows.take limit.toNat).map LiveSession.ofRow,
    decide (limit.toNat < rows.length)⟩

inductive Command where
  | change (change : Change)
  | call (request : Request)
  | statement (i : Nat)
  | abort (i : Nat)

def waits (w : World) : Command → Prop
  | .change (.disableStaff id _ _) =>
    ∃ s ∈ w.shared.tables.sessions, s.staffUserId = id ∧ s.revoked = false ∧ rowHeld w s.id
  | .call (.revokeSession id _) => rowHeld w id
  | _ => False

instance (w : World) (command : Command) : Decidable (waits w command) := by
  unfold waits
  split <;> infer_instance

def commit (w : World) (command : Command) : World :=
  match command with
  | .change c =>
    match change w.shared.tables c with
    | .ok tables => { w with shared := { w.shared with tables } }
    | .error _ => w
  | .call request =>
    match start w.shared.tables request with
    | .ok call => w.enter call
    | .error _ => w
  | .statement i =>
    match w.calls[i]? with
    | some c => w.put i (next w i c).1 (next w i c).2
    | none => w
  | .abort i =>
    match w.calls[i]? with
    | some _ => w.put i .ended w.shared
    | none => w

def apply (w : World) (command : Command) : World :=
  if waits w command then w else commit w command

def empty : World := ⟨⟨⟨[], [], []⟩, []⟩, []⟩

def run (w : World) (commands : List Command) : World := commands.foldl apply w

end NhaTrangLaundry.Db.Identity
