import NhaTrangLaundry.Db.Identity

/-! What every run keeps of the identity tables: an owner, versions that only rise, one session for
an identity token. -/

namespace NhaTrangLaundry.Db.Identity

open Lib Outcome Table Sorting Staff Interleaved
open ConsentEgress (StaffRole)

structure Advances (u u' : StaffUser) : Prop where
  id : u'.id = u.id
  version : u.authorizationVersion ≤ u'.authorizationVersion
  disabled : u.status = .disabled → u'.status = .disabled

structure Continues (s s' : StaffSession) : Prop where
  id : s'.id = s.id
  staffUserId : s'.staffUserId = s.staffUserId
  version : s'.authorizationVersion = s.authorizationVersion
  mfaVerified : s'.mfaVerified = s.mfaVerified
  expires : s'.absoluteExpiresAt = s.absoluteExpiresAt
  digest : s'.identityTokenDigest = s.identityTokenDigest
  revoked : s.revoked = true → s'.revoked = true

/-- No row is lost, no version falls, and what is disabled or revoked stays so. -/
structure Follows (t t' : StaffTables) : Prop where
  user : ∀ {id u}, t.user id = some u → ∃ u', t'.user id = some u' ∧ Advances u u'
  session : ∀ {id s}, session t id = some s → ∃ s', session t' id = some s' ∧ Continues s s'

def Rewritten (t t' : StaffTables) (added : List StaffSession) : Prop :=
  ∃ (f : StaffUser → StaffUser) (users : List StaffUser) (g : StaffSession → StaffSession),
    (∀ u, Advances u (f u)) ∧ (∀ s, Continues s (g s)) ∧ t'.users = t.users.map f ++ users ∧
      t'.sessions = t.sessions.map g ++ added

lemma Advances.refl (u : StaffUser) : Advances u u := ⟨rfl, le_rfl, fun h => h⟩

lemma Advances.trans {u u' u'' : StaffUser} (h : Advances u u') (h' : Advances u' u'') :
    Advances u u'' :=
  ⟨h'.id.trans h.id, h.version.trans h'.version, h'.disabled ∘ h.disabled⟩

lemma Continues.refl (s : StaffSession) : Continues s s :=
  ⟨rfl, rfl, rfl, rfl, rfl, rfl, fun h => h⟩

lemma Continues.trans {s s' s'' : StaffSession} (h : Continues s s') (h' : Continues s' s'') :
    Continues s s'' :=
  ⟨h'.id.trans h.id, h'.staffUserId.trans h.staffUserId, h'.version.trans h.version,
    h'.mfaVerified.trans h.mfaVerified, h'.expires.trans h.expires, h'.digest.trans h.digest,
    h'.revoked ∘ h.revoked⟩

lemma Follows.refl (t : StaffTables) : Follows t t :=
  ⟨fun h => ⟨_, h, .refl _⟩, fun h => ⟨_, h, .refl _⟩⟩

lemma Follows.trans {t t' t'' : StaffTables} (h : Follows t t') (h' : Follows t' t'') :
    Follows t t'' := by
  constructor
  · intro id u hu
    obtain ⟨u', hu', ha⟩ := h.user hu
    obtain ⟨u'', hu'', ha'⟩ := h'.user hu'
    exact ⟨u'', hu'', ha.trans ha'⟩
  · intro id s hs
    obtain ⟨s', hs', hc⟩ := h.session hs
    obtain ⟨s'', hs'', hc'⟩ := h'.session hs'
    exact ⟨s'', hs'', hc.trans hc'⟩

lemma lookup_rows {ρ κ : Type} [DecidableEq κ] {key : ρ → κ} {f : ρ → ρ}
    (hf : ∀ r, key (f r) = key r) (rows more : List ρ) (k : κ) :
    lookup key (rows.map f ++ more) k =
      ((lookup key rows k).map f).or (lookup key more k) := by
  rw [lookup, List.find?_append, List.find?_map]
  have hcomp : ((fun r => decide (key r = k)) ∘ f) = fun r => decide (key r = k) := by
    funext r
    simp [hf]
  rw [hcomp]
  rfl

variable {t t' : StaffTables} {added : List StaffSession}

lemma Rewritten.follows (h : Rewritten t t' added) : Follows t t' := by
  obtain ⟨f, users, g, hf, hg, husers, hsessions⟩ := h
  constructor
  · intro id u hu
    refine ⟨f u, ?_, hf u⟩
    rw [StaffTables.user, husers, lookup_rows fun u => (hf u).id]
    rw [StaffTables.user] at hu
    rw [hu]
    rfl
  · intro id s hs
    refine ⟨g s, ?_, hg s⟩
    rw [session, hsessions, lookup_rows fun s => (hg s).id]
    rw [session] at hs
    rw [hs]
    rfl

def Current (t : StaffTables) (s : StaffSession) : Prop :=
  ∃ u, t.user s.staffUserId = some u ∧ s.authorizationVersion ≤ u.authorizationVersion

lemma Current.follows {s s' : StaffSession} (h : Current t s) (hfollows : Follows t t')
    (hs : Continues s s') : Current t' s' := by
  obtain ⟨u, hu, hle⟩ := h
  obtain ⟨u', hu', ha⟩ := hfollows.user hu
  refine ⟨u', hs.staffUserId ▸ hu', ?_⟩
  rw [hs.version]
  exact hle.trans ha.version

lemma Rewritten.current (h : Rewritten t t' added) (hold : ∀ s ∈ t.sessions, Current t s)
    (hadded : ∀ s ∈ added, Current t s) : ∀ s ∈ t'.sessions, Current t' s := by
  have hfollows := h.follows
  obtain ⟨f, users, g, hf, hg, husers, hsessions⟩ := h
  intro s hs
  rw [hsessions, List.mem_append, List.mem_map] at hs
  rcases hs with ⟨old, hmem, rfl⟩ | hmem
  · exact (hold old hmem).follows hfollows (hg old)
  · exact (hadded s hmem).follows hfollows (.refl s)

def digests (sessions : List StaffSession) : List String :=
  sessions.filterMap StaffSession.identityTokenDigest

lemma Rewritten.digests (h : Rewritten t t' added) :
    digests t'.sessions = digests t.sessions ++ digests added := by
  obtain ⟨f, users, g, hf, hg, husers, hsessions⟩ := h
  have hcomp : StaffSession.identityTokenDigest ∘ g = StaffSession.identityTokenDigest := by
    funext s
    exact (hg s).digest
  rw [Identity.digests, hsessions, List.filterMap_append, List.filterMap_map, hcomp]
  rfl

def sessionIds (sessions : List StaffSession) : List Uuid := sessions.map StaffSession.id

lemma Rewritten.sessionIds (h : Rewritten t t' added) :
    sessionIds t'.sessions = sessionIds t.sessions ++ sessionIds added := by
  obtain ⟨f, users, g, hf, hg, husers, hsessions⟩ := h
  have hcomp : StaffSession.id ∘ g = StaffSession.id := by
    funext s
    exact (hg s).id
  rw [Identity.sessionIds, hsessions, List.map_append, List.map_map, hcomp]
  rfl

/-- What `updateUser` does to one row. -/
def rewriteUser (f : StaffUser → StaffUser) (id : Uuid) (u : StaffUser) : StaffUser :=
  if u.id = id ∧ u.status = .active then f u else u

lemma rewriteUser_id {f : StaffUser → StaffUser} (hid : ∀ u, (f u).id = u.id) (id : Uuid)
    (u : StaffUser) : (rewriteUser f id u).id = u.id := by
  rw [rewriteUser]
  split
  · exact hid u
  · rfl

/-- The rows of `disable_staff`'s last statement. -/
def rewriteSession (id : Uuid) (saw : List Uuid) (s : StaffSession) : StaffSession :=
  if s.staffUserId = id ∧ s.id ∈ saw then revokeRow s else s

lemma rewriteUser_advances {f : StaffUser → StaffUser} (hid : ∀ u, (f u).id = u.id)
    (hf : ∀ u, u.authorizationVersion ≤ (f u).authorizationVersion) (id : Uuid) (u : StaffUser) :
    Advances u (rewriteUser f id u) := by
  rw [rewriteUser]
  split
  · rename_i h
    refine ⟨hid u, hf u, fun hdisabled => ?_⟩
    rw [h.2] at hdisabled
    cases hdisabled
  · exact .refl u

lemma nextAuthorization_advances (id : Uuid) (u : StaffUser) :
    Advances u (rewriteUser nextAuthorization id u) :=
  rewriteUser_advances (f := nextAuthorization) (fun _ => rfl) (fun _ => Nat.le_succ _) id u

lemma disabledUser_advances (id : Uuid) (u : StaffUser) :
    Advances u (rewriteUser disabledUser id u) :=
  rewriteUser_advances (f := disabledUser) (fun _ => rfl) (fun _ => Nat.le_succ _) id u

lemma revokeRow_continues (s : StaffSession) : Continues s (revokeRow s) :=
  ⟨rfl, rfl, rfl, rfl, rfl, rfl, fun _ => rfl⟩

lemma seenAt_continues (now : Int) (s : StaffSession) : Continues s (seenAt s now) :=
  ⟨rfl, rfl, rfl, rfl, rfl, rfl, fun h => h⟩

lemma rewriteSession_continues (id : Uuid) (saw : List Uuid) (s : StaffSession) :
    Continues s (rewriteSession id saw s) := by
  rw [rewriteSession]
  split
  · exact revokeRow_continues s
  · exact .refl s

lemma rewritten_updateSession {g : StaffSession → StaffSession} (hg : ∀ s, Continues s (g s))
    (t : StaffTables) (id : Uuid) : Rewritten t (updateSession g t id) [] := by
  refine ⟨fun u => u, [], fun s => if s.id = id ∧ s.revoked = false then g s else s, .refl, ?_,
    by simp [updateSession], by simp [updateSession]⟩
  intro s
  by_cases h : s.id = id ∧ s.revoked = false
  · simpa [h] using hg s
  · simpa [h] using Continues.refl s

lemma insertStaff_ok {subject : String} {id : Uuid} (h : insertStaff t subject id = .ok t') :
    (∀ u ∈ t.users, u.id ≠ id) ∧
      t' = { t with users := t.users ++ [⟨id, subject, .active, 1⟩] } := by
  simp only [insertStaff, bind_ok, require_ok, Except.ok.injEq] at h
  obtain ⟨_, hfresh, rfl⟩ := h
  exact ⟨fun u hu => (hfresh u hu).1, rfl⟩

lemma insertSession_ok {row : StaffSession} (h : insertSession t row = .ok t') :
    (∀ s ∈ t.sessions, s.id ≠ row.id ∧ (row.identityTokenDigest ≠ none →
      s.identityTokenDigest ≠ row.identityTokenDigest)) ∧
      t' = { t with sessions := t.sessions ++ [row] } := by
  simp only [insertSession, bind_ok, require_ok, Except.ok.injEq] at h
  obtain ⟨_, -, _, hfresh, rfl⟩ := h
  exact ⟨fun s hs => ⟨(hfresh s hs).1, (hfresh s hs).2.2⟩, rfl⟩

lemma rewritten_added (t : StaffTables) (users : List StaffUser) (roles : List RoleAssignment)
    (sessions : List StaffSession) :
    Rewritten t ⟨t.users ++ users, roles, t.sessions ++ sessions⟩ sessions :=
  ⟨fun u => u, users, fun s => s, .refl, .refl, by simp, by simp⟩

lemma rewritten_insertStaff {subject : String} {id : Uuid}
    (h : insertStaff t subject id = .ok t') : Rewritten t t' [] := by
  obtain ⟨-, rfl⟩ := insertStaff_ok h
  simpa using rewritten_added t [⟨id, subject, .active, 1⟩] t.roles []

lemma bootstrapOwner_ok {subject name : String} {id owner : Uuid}
    (h : bootstrapOwner t subject name id = .ok (t', owner)) :
    t' = t ∨ (∀ u ∈ t.users, u.id ≠ id) ∧ ∃ normalized : String,
      t' = { t with users := t.users ++ [⟨id, normalized, .active, 1⟩]
                    roles := t.roles ++ [⟨id, .ownerAdmin, false⟩] } := by
  simp only [bootstrapOwner, bind_ok] at h
  obtain ⟨normalized, -, _, -, h⟩ := h
  split at h
  · simp only [bind_ok, Except.ok.injEq, Prod.mk.injEq] at h
    obtain ⟨_, -, rfl, -⟩ := h
    exact .inl rfl
  · simp only [bind_ok, Except.ok.injEq, Prod.mk.injEq] at h
    obtain ⟨inserted, hinserted, rfl, -⟩ := h
    obtain ⟨hfresh, rfl⟩ := insertStaff_ok hinserted
    exact .inr ⟨hfresh, normalized, rfl⟩

def Writes (t t' : StaffTables) : Change → Prop
  | .bootstrapOwner _ _ id => t' = t ∨ (∀ u ∈ t.users, u.id ≠ id) ∧ ∃ normalized : String,
      t' = { t with users := t.users ++ [⟨id, normalized, .active, 1⟩]
                    roles := t.roles ++ [⟨id, .ownerAdmin, false⟩] }
  | .assignRole id role actor => t.activeOwner actor = true ∧ t.isActive id = true ∧
      t' = { t with users := t.users.map (rewriteUser nextAuthorization id)
                    roles := upsertRole t.roles id role }
  | .revokeRole id role actor => t.activeOwner actor = true ∧ t.isActive id = true ∧
      requireRevocable t id role = .ok () ∧
      t' = { t with users := t.users.map (rewriteUser nextAuthorization id)
                    roles := setRevoked t.roles id role true }
  | .disableStaff id actor saw => t.activeOwner actor = true ∧ t.isActive id = true ∧
      requireOwnerSurvivesDisable t id = .ok () ∧
      t' = { t with users := t.users.map (rewriteUser disabledUser id)
                    sessions := t.sessions.map (rewriteSession id saw) }

lemma change_writes {c : Change} (h : change t c = .ok t') : Writes t t' c := by
  cases c with
  | bootstrapOwner subject name id =>
    obtain ⟨⟨tables, owner⟩, hbootstrap, hfst⟩ := map_ok.mp h
    subst hfst
    exact bootstrapOwner_ok hbootstrap
  | assignRole id role actor =>
    simp only [change, assignRole, requireOwner, lockStaffVersion, bind_ok, require_ok,
      Except.ok.injEq] at h
    obtain ⟨_, howner, _, hactive, rfl⟩ := h
    exact ⟨howner, hactive, rfl⟩
  | revokeRole id role actor =>
    simp only [change, revokeRole, requireOwner, lockStaffVersion, bind_ok, require_ok,
      Except.ok.injEq] at h
    obtain ⟨_, howner, _, hactive, _, hguard, _, -, rfl⟩ := h
    exact ⟨howner, hactive, hguard, rfl⟩
  | disableStaff id actor saw =>
    simp only [change, disableStaff, requireOwner, lockStaffVersion, bind_ok, require_ok,
      Except.ok.injEq] at h
    obtain ⟨_, howner, _, hactive, _, hguard, rfl⟩ := h
    exact ⟨howner, hactive, hguard, rfl⟩

lemma rewritten_change {c : Change} (h : change t c = .ok t') : Rewritten t t' [] := by
  have hok := change_writes h
  cases c with
  | bootstrapOwner subject name id =>
    rcases hok with rfl | ⟨-, normalized, rfl⟩
    · exact ⟨fun u => u, [], fun s => s, .refl, .refl, by simp, by simp⟩
    · simpa using rewritten_added t [⟨id, normalized, .active, 1⟩]
        (t.roles ++ [⟨id, .ownerAdmin, false⟩]) []
  | assignRole id role actor =>
    obtain ⟨-, -, rfl⟩ := hok
    exact ⟨_, [], fun s => s, nextAuthorization_advances id, .refl, by simp, by simp⟩
  | revokeRole id role actor =>
    obtain ⟨-, -, -, rfl⟩ := hok
    exact ⟨_, [], fun s => s, nextAuthorization_advances id, .refl, by simp, by simp⟩
  | disableStaff id actor saw =>
    obtain ⟨-, -, -, rfl⟩ := hok
    exact ⟨_, [], _, disabledUser_advances id, rewriteSession_continues id saw, by simp, by simp⟩

def HasOwner (t : StaffTables) : Prop := ∃ id, t.activeOwner id = true

lemma isActive_iff {id : Uuid} :
    t.isActive id = true ↔ ∃ u, t.user id = some u ∧ u.status = .active := by
  rw [StaffTables.isActive]
  cases t.user id <;> simp

lemma holds_iff {id : Uuid} {role : StaffRole} :
    t.holds id role = true ↔
      ∃ r ∈ t.roles, r.staffUserId = id ∧ r.role = role ∧ r.revoked = false := by
  simp [StaffTables.holds, and_assoc]

lemma activeOwner_iff {id : Uuid} :
    t.activeOwner id = true ↔ t.isActive id = true ∧ t.holds id .ownerAdmin = true := by
  rw [StaffTables.activeOwner, Bool.and_eq_true]

lemma activeOwner_added {id : Uuid} (h : t.activeOwner id = true) {users : List StaffUser}
    {roles : List RoleAssignment} (husers : t'.users = t.users ++ users)
    (hroles : t'.roles = t.roles ++ roles) : t'.activeOwner id = true := by
  rw [activeOwner_iff, isActive_iff, holds_iff] at h
  obtain ⟨⟨u, hu, hactive⟩, r, hr, hmatch⟩ := h
  rw [activeOwner_iff, isActive_iff, holds_iff]
  refine ⟨⟨u, ?_, hactive⟩, r, hroles ▸ List.mem_append_left _ hr, hmatch⟩
  rw [StaffTables.user, lookup] at hu ⊢
  rw [husers, List.find?_append, hu]
  rfl

lemma isActive_rewritten {f : StaffUser → StaffUser} {id k : Uuid}
    (hid : ∀ u, (f u).id = u.id) (hf : k = id → ∀ u, (f u).status = u.status)
    (husers : t'.users = t.users.map (rewriteUser f id)) (h : t.isActive k = true) :
    t'.isActive k = true := by
  rw [isActive_iff] at h ⊢
  obtain ⟨u, hu, hactive⟩ := h
  have hread := lookup_rows (rewriteUser_id hid id) t.users [] k
  rw [List.append_nil, ← husers] at hread
  refine ⟨rewriteUser f id u, ?_, ?_⟩
  · rw [StaffTables.user] at hu ⊢
    rw [hread, hu]
    rfl
  · have hk : u.id = k := lookup_key hu
    rw [rewriteUser]
    split
    · rename_i hrow
      rw [hf (hk.symm.trans hrow.1)]
      exact hactive
    · exact hactive

lemma mem_setRevoked_of_ne {roles : List RoleAssignment} {id : Uuid} {role : StaffRole}
    {revoked : Bool} {r : RoleAssignment} (hr : r ∈ roles) (hne : ofRole id role r = false) :
    r ∈ setRevoked roles id role revoked := by
  refine List.mem_map.mpr ⟨r, hr, ?_⟩
  rw [hne]
  rfl

lemma holds_upsertRole {id k : Uuid} {role other : StaffRole}
    (hroles : t'.roles = upsertRole t.roles id role) (h : t.holds k other = true) :
    t'.holds k other = true := by
  rw [holds_iff] at h ⊢
  obtain ⟨r, hr, hk, hrole, hlive⟩ := h
  rw [hroles, upsertRole]
  split
  · by_cases hof : ofRole id role r = true
    · refine ⟨{ r with revoked := false }, List.mem_map.mpr ⟨r, hr, ?_⟩, hk, hrole, rfl⟩
      rw [if_pos hof]
    · exact ⟨r, mem_setRevoked_of_ne hr (by simpa using hof), hk, hrole, hlive⟩
  · exact ⟨r, List.mem_append_left _ hr, hk, hrole, hlive⟩

lemma holds_setRevoked {id k : Uuid} {role other : StaffRole}
    (hroles : t'.roles = setRevoked t.roles id role true) (hne : ¬ (k = id ∧ other = role))
    (h : t.holds k other = true) : t'.holds k other = true := by
  rw [holds_iff] at h ⊢
  obtain ⟨r, hr, hk, hrole, hlive⟩ := h
  refine ⟨r, hroles ▸ mem_setRevoked_of_ne hr ?_, hk, hrole, hlive⟩
  rw [ofRole, Bool.and_eq_false_iff, decide_eq_false_iff_not, decide_eq_false_iff_not, hk, hrole]
  exact not_and_or.mp hne

lemma survivor {id actor : Uuid} (hactor : t.activeOwner actor = true)
    (h : requireOwnerSurvivesDisable t id = .ok ()) : ∃ k, k ≠ id ∧ t.activeOwner k = true := by
  rw [requireOwnerSurvivesDisable] at h
  split at h
  · rw [require_ok] at h
    obtain ⟨u, -, hne, howner⟩ := h
    exact ⟨u.id, hne, howner⟩
  · rename_i hnot
    refine ⟨actor, ?_, hactor⟩
    rintro rfl
    exact hnot (activeOwner_iff.mp hactor).2

lemma hasOwner_change {c : Change} (h : change t c = .ok t') (howned : t.users ≠ [] → HasOwner t)
    (hsome : t'.users ≠ []) : HasOwner t' := by
  have hok := change_writes h
  cases c with
  | bootstrapOwner subject name id =>
    rcases hok with rfl | ⟨hfresh, normalized, rfl⟩
    · exact howned hsome
    · refine ⟨id, activeOwner_iff.mpr ⟨isActive_iff.mpr ⟨⟨id, normalized, .active, 1⟩, ?_, rfl⟩,
        holds_iff.mpr ⟨⟨id, .ownerAdmin, false⟩, by simp, rfl, rfl, rfl⟩⟩⟩
      have hnone : lookup StaffUser.id t.users id = none :=
        lookup_none.mpr fun hmem => by
          obtain ⟨u, hu, hid⟩ := List.mem_map.mp hmem
          exact hfresh u hu hid
      have hnew : lookup StaffUser.id (t.users ++ [⟨id, normalized, .active, 1⟩]) id =
          some ⟨id, normalized, .active, 1⟩ := by
        rw [lookup_snoc hnone, if_pos rfl]
      exact hnew
  | assignRole id role actor =>
    obtain ⟨hactor, -, rfl⟩ := hok
    obtain ⟨hactive, hholds⟩ := activeOwner_iff.mp hactor
    exact ⟨actor, activeOwner_iff.mpr ⟨isActive_rewritten (f := nextAuthorization) (fun _ => rfl)
      (fun _ _ => rfl) rfl hactive, holds_upsertRole rfl hholds⟩⟩
  | revokeRole id role actor =>
    obtain ⟨hactor, -, hguard, rfl⟩ := hok
    have hkept : ∃ k, ¬ (k = id ∧ StaffRole.ownerAdmin = role) ∧ t.activeOwner k = true := by
      by_cases hrole : role = .ownerAdmin
      · rw [requireRevocable, if_pos hrole] at hguard
        obtain ⟨k, hne, howner⟩ := survivor hactor hguard
        exact ⟨k, fun hk => hne hk.1, howner⟩
      · exact ⟨actor, fun hk => hrole hk.2.symm, hactor⟩
    obtain ⟨k, hne, howner⟩ := hkept
    obtain ⟨hactive, hholds⟩ := activeOwner_iff.mp howner
    exact ⟨k, activeOwner_iff.mpr ⟨isActive_rewritten (f := nextAuthorization) (fun _ => rfl)
      (fun _ _ => rfl) rfl hactive, holds_setRevoked rfl hne hholds⟩⟩
  | disableStaff id actor saw =>
    obtain ⟨hactor, -, hguard, rfl⟩ := hok
    obtain ⟨k, hne, howner⟩ := survivor hactor hguard
    obtain ⟨hactive, hholds⟩ := activeOwner_iff.mp howner
    exact ⟨k, activeOwner_iff.mpr ⟨isActive_rewritten (f := disabledUser) (fun _ => rfl)
      (fun hk => absurd hk hne) rfl hactive, hholds⟩⟩

def Standing (t : StaffTables) (row : StaffSession) (now : Int) : Prop :=
  (∃ s, session t row.id = some s ∧ Continues row s) ∧ now < row.absoluteExpiresAt

def Own (t : StaffTables) : Call → Prop
  | .creating _ _ => t.users ≠ []
  | .versioned _ userId version =>
    ∃ u, t.user userId = some u ∧ version ≤ u.authorizationVersion
  | .opened _ _ _ seen => Follows seen t
  | .admitted row _ now => Standing t row now
  | .answering row _ _ now => Standing t row now ∧ row.mfaVerified = true
  | _ => True

/-- The session of a sign-in is its user's, proven by a second factor, and had not run out. -/
def Genuine (t : StaffTables) (x : SignIn) : Prop :=
  ∃ s, session t x.sessionId = some s ∧ s.staffUserId = x.staffUserId ∧ s.mfaVerified = true ∧
    x.now < s.absoluteExpiresAt

structure Sound (r : Records) : Prop where
  owned : r.tables.users ≠ [] → HasOwner r.tables
  apart : (sessionIds r.tables.sessions).Nodup
  once : (digests r.tables.sessions).Nodup
  current : ∀ s ∈ r.tables.sessions, Current r.tables s
  signed : ∀ x ∈ r.signIns, Genuine r.tables x

def Kept (w : World) : Prop := Coherent Sound (fun r => Own r.tables) (fun _ _ => True) w

lemma Standing.follows {row : StaffSession} {now : Int} (h : Standing t row now)
    (hfollows : Follows t t') : Standing t' row now := by
  obtain ⟨⟨s, hs, hrow⟩, hnow⟩ := h
  obtain ⟨s', hs', hcontinues⟩ := hfollows.session hs
  exact ⟨⟨s', hs', hrow.trans hcontinues⟩, hnow⟩

lemma Genuine.follows {x : SignIn} (h : Genuine t x) (hfollows : Follows t t') :
    Genuine t' x := by
  obtain ⟨s, hs, huser, hmfa, hnow⟩ := h
  obtain ⟨s', hs', hcontinues⟩ := hfollows.session hs
  refine ⟨s', hs', hcontinues.staffUserId.trans huser, hcontinues.mfaVerified.trans hmfa, ?_⟩
  rwa [hcontinues.expires]

lemma users_ne_nil (h : t.users ≠ []) (hfollows : Follows t t') : t'.users ≠ [] := by
  obtain ⟨u, hu⟩ := List.exists_mem_of_ne_nil _ h
  have hfound : (t.user u.id).isSome = true := by
    rw [StaffTables.user, lookup, List.find?_isSome]
    exact ⟨u, hu, by simp⟩
  obtain ⟨v, hv⟩ := Option.isSome_iff_exists.mp hfound
  obtain ⟨v', hv', -⟩ := hfollows.user hv
  exact List.ne_nil_of_mem (lookup_mem hv')

lemma Own.follows {c : Call} (h : Own t c) (hfollows : Follows t t') : Own t' c := by
  cases c with
  | creating subject id => exact users_ne_nil h hfollows
  | versioned request userId version =>
    obtain ⟨u, hu, hle⟩ := h
    obtain ⟨u', hu', ha⟩ := hfollows.user hu
    exact ⟨u', hu', hle.trans ha.version⟩
  | opened id secret now seen => exact Follows.trans h hfollows
  | admitted row subject now => exact Standing.follows h hfollows
  | answering row subject roles now => exact ⟨h.1.follows hfollows, h.2⟩
  | revoking id => trivial
  | minting request userId => trivial
  | ended => trivial

lemma Sound.rewritten {r : Records} (h : Sound r) (hrewritten : Rewritten r.tables t' added)
    (howned : t'.users ≠ [] → HasOwner t') (hadded : ∀ s ∈ added, Current r.tables s)
    (hapart : (sessionIds r.tables.sessions ++ sessionIds added).Nodup)
    (honce : (digests r.tables.sessions ++ digests added).Nodup) {signIns : List SignIn}
    (hsigned : ∀ x ∈ signIns, x ∈ r.signIns ∨ Genuine t' x) : Sound ⟨t', signIns⟩ where
  owned := howned
  apart := hrewritten.sessionIds ▸ hapart
  once := hrewritten.digests ▸ honce
  current := hrewritten.current h.current hadded
  signed := by
    intro x hx
    rcases hsigned x hx with hx | hx
    · exact (h.signed x hx).follows hrewritten.follows
    · exact hx

lemma Sound.once_kept {r : Records} (h : Sound r) :
    (digests r.tables.sessions ++ digests []).Nodup := by
  rw [digests, digests, List.filterMap_nil, List.append_nil]
  exact h.once

lemma Sound.apart_kept {r : Records} (h : Sound r) :
    (sessionIds r.tables.sessions ++ sessionIds []).Nodup := by
  rw [sessionIds, sessionIds, List.map_nil, List.append_nil]
  exact h.apart

lemma Sound.kept {r : Records} (h : Sound r) (hrewritten : Rewritten r.tables t' [])
    (howned : t'.users ≠ [] → HasOwner t') : Sound ⟨t', r.signIns⟩ :=
  h.rewritten hrewritten howned (fun _ hs => absurd hs List.not_mem_nil)
    h.apart_kept h.once_kept fun _ hx => .inl hx

lemma hasOwner_added (h : HasOwner t) (users : List StaffUser) (roles : List RoleAssignment)
    (husers : t'.users = t.users ++ users) (hroles : t'.roles = t.roles ++ roles) :
    HasOwner t' := by
  obtain ⟨id, hid⟩ := h
  exact ⟨id, activeOwner_added hid husers hroles⟩

lemma hasOwner_updateSession {g : StaffSession → StaffSession} {id : Uuid}
    (h : t.users ≠ [] → HasOwner t) (hsome : t.users ≠ []) : HasOwner (updateSession g t id) :=
  hasOwner_added (h hsome) [] [] (List.append_nil _).symm
    (List.append_nil _).symm

lemma authenticate_ok {seen : StaffTables} {id : Uuid} {secret : String} {now : Int} {c : Call}
    (h : authenticate seen t id secret now = .ok c) :
    ∃ old row user, session seen id = some old ∧ session t id = some row ∧
      seen.user old.staffUserId = some user ∧ user.status = .active ∧ row.revoked = false ∧
      user.authorizationVersion = row.authorizationVersion ∧ now < row.absoluteExpiresAt ∧
      c = .admitted row user.oidcSubject now := by
  rw [authenticate] at h
  split at h
  · rename_i old row hold hrow
    split at h
    · rename_i user huser
      simp only [bind_ok, require_ok, Except.ok.injEq] at h
      obtain ⟨_, -, _, ⟨hactive, hlive, hversion, -, hnow⟩, rfl⟩ := h
      exact ⟨old, row, user, hold, hrow, huser, hactive, hlive, hversion, hnow, rfl⟩
    · cases h
  · cases h

lemma standing_admitted {id : Uuid} {row : StaffSession} {now : Int}
    (h : session t id = some row) (hnow : now < row.absoluteExpiresAt) : Standing t row now := by
  have hid : row.id = id := lookup_key h
  exact ⟨⟨row, hid ▸ h, .refl row⟩, hnow⟩

/-- What one statement commits, and where it leaves its call. -/
structure Moves (r : Records) (moved : Call × Records) : Prop where
  follows : Follows r.tables moved.2.tables
  sound : Sound moved.2
  own : Own moved.2.tables moved.1

lemma Moves.stays {r : Records} (h : Sound r) {c : Call} (hc : Own r.tables c) : Moves r (c, r) :=
  ⟨.refl _, h, hc⟩

lemma moves_creating {r : Records} (h : Sound r) (hsome : r.tables.users ≠ []) (subject : String)
    (id : Uuid) : Moves r (writing r (insertStaff r.tables subject id)) := by
  cases hinsert : insertStaff r.tables subject id with
  | error e => exact .stays h trivial
  | ok tables =>
    have hrewritten := rewritten_insertStaff hinsert
    refine ⟨hrewritten.follows, h.kept hrewritten fun _ => ?_, trivial⟩
    obtain ⟨-, rfl⟩ := insertStaff_ok hinsert
    exact hasOwner_added (h.owned hsome) _ [] rfl (List.append_nil _).symm

lemma moves_versioned {r : Records} (h : Sound r) {request : CreateSession} {userId : Uuid}
    {version : Nat} (hc : Own r.tables (.versioned request userId version)) :
    Moves r (writing r (insertSession r.tables (request.row userId version))) := by
  cases hinsert : insertSession r.tables (request.row userId version) with
  | error e => exact .stays h trivial
  | ok tables =>
    obtain ⟨hfresh, rfl⟩ := insertSession_ok hinsert
    have hrewritten := rewritten_added r.tables [] r.tables.roles [request.row userId version]
    rw [List.append_nil] at hrewritten
    refine ⟨hrewritten.follows, h.rewritten hrewritten ?_ ?_ ?_ ?_ fun _ hx => .inl hx, trivial⟩
    · intro hsome
      exact hasOwner_added (h.owned hsome) [] [] (List.append_nil _).symm
        (List.append_nil _).symm
    · intro s hs
      rw [List.mem_singleton] at hs
      subst hs
      exact hc
    · rw [sessionIds, sessionIds, ← List.map_append]
      refine nodup_map_snoc h.apart (lookup_none.mpr fun hmem => ?_)
      obtain ⟨s, hs, hid⟩ := List.mem_map.mp hmem
      exact (hfresh s hs).1 hid
    · cases hdigest : (request.row userId version).identityTokenDigest with
      | none =>
        rw [digests, digests, List.filterMap_cons_none hdigest, List.filterMap_nil,
          List.append_nil]
        exact h.once
      | some digest =>
        rw [digests, digests, List.filterMap_cons_some hdigest, List.filterMap_nil,
          List.nodup_append]
        refine ⟨h.once, List.nodup_singleton _, ?_⟩
        intro a ha b hb hab
        rw [List.mem_singleton] at hb
        obtain ⟨s, hs, hsa⟩ := List.mem_filterMap.mp ha
        refine (hfresh s hs).2 (by rw [hdigest]; simp) ?_
        rw [hsa, hab, hb, hdigest]

lemma moves_answering {r : Records} (h : Sound r) {row : StaffSession} {subject : String}
    {roles : List StaffRole} {now : Int} (i : Nat)
    (hc : Own r.tables (.answering row subject roles now)) :
    Moves r (.ended, ⟨updateSession (fun s => seenAt s now) r.tables row.id,
      r.signIns ++ [⟨i, row.staffUserId, subject, roles, row.id, now⟩]⟩) := by
  have hrewritten := rewritten_updateSession (seenAt_continues now) r.tables row.id
  obtain ⟨⟨⟨s, hs, hrow⟩, hnow⟩, hmfa⟩ := hc
  refine ⟨hrewritten.follows,
    h.rewritten hrewritten (fun hsome => ?_) ?_ h.apart_kept h.once_kept ?_, trivial⟩
  · exact hasOwner_updateSession h.owned hsome
  · exact fun _ hs => absurd hs List.not_mem_nil
  · intro x hx
    rcases List.mem_append.mp hx with hx | hx
    · exact .inl hx
    · right
      rw [List.mem_singleton] at hx
      subst hx
      refine Genuine.follows ⟨s, hs, hrow.staffUserId, hrow.mfaVerified.trans hmfa, ?_⟩
        hrewritten.follows
      rw [hrow.expires]
      exact hnow

lemma next_moves {w : World} (h : Sound w.shared) (i : Nat) {c : Call}
    (hc : Own w.shared.tables c) : Moves w.shared (next w i c) := by
  cases c with
  | creating subject id => exact moves_creating h hc subject id
  | revoking id =>
    have hrewritten := rewritten_updateSession revokeRow_continues w.shared.tables id
    exact ⟨hrewritten.follows, h.kept hrewritten fun hsome => hasOwner_updateSession h.owned hsome,
      trivial⟩
  | minting request userId =>
    rw [next]
    split
    · rename_i user huser
      exact .stays h ⟨user, huser, le_rfl⟩
    · exact .stays h trivial
  | versioned request userId version => exact moves_versioned h hc
  | opened id secret now seen =>
    rw [next]
    split
    · exact .stays h hc
    · cases haccepts : authenticate seen w.shared.tables id secret now with
      | error e => exact .stays h trivial
      | ok call =>
        obtain ⟨-, row, user, -, hrow, -, -, -, -, hnow, rfl⟩ := authenticate_ok haccepts
        exact .stays h (standing_admitted hrow hnow)
  | admitted row subject now =>
    rw [next]
    by_cases hmfa : row.mfaVerified = true
    · rw [require, if_pos hmfa]
      exact .stays h ⟨hc, hmfa⟩
    · rw [require, if_neg hmfa]
      exact .stays h trivial
  | answering row subject roles now =>
    rw [next]
    split
    · exact moves_answering h i hc
    · exact .stays h trivial
  | ended => exact .stays h trivial

lemma start_ok {request : Request} {c : Call} (h : start t request = .ok c) :
    (∃ subject id, c = .creating subject id ∧ HasOwner t) ∨
      (∃ session userId, c = .minting session userId) ∨
      (∃ id secret now, c = .opened id secret now t) ∨ ∃ id, c = .revoking id := by
  cases request with
  | createStaff subject name actor id =>
    simp only [start, beginCreateStaff, requireOwner, bind_ok, require_ok, Except.ok.injEq] at h
    obtain ⟨normalized, -, _, -, _, hactor, rfl⟩ := h
    exact .inl ⟨normalized, id, rfl, actor, hactor⟩
  | createSession request =>
    simp only [start, beginCreateSession, bind_ok] at h
    obtain ⟨_, -, _, -, _, -, _, -, h⟩ := h
    split at h
    · rename_i user _
      simp only [bind_ok, Except.ok.injEq] at h
      obtain ⟨_, -, _, -, rfl⟩ := h
      exact .inr (.inl ⟨request, user.id, rfl⟩)
    · cases h
  | authenticateSession token now =>
    simp only [start, bind_ok, Except.ok.injEq] at h
    obtain ⟨⟨id, secret⟩, -, rfl⟩ := h
    exact .inr (.inr (.inl ⟨id, secret, now, rfl⟩))
  | revokeSession id actor =>
    simp only [start, beginRevokeSession] at h
    split at h
    · simp only [bind_ok, Except.ok.injEq] at h
      obtain ⟨_, -, _, -, rfl⟩ := h
      exact .inr (.inr (.inr ⟨id, rfl⟩))
    · cases h

lemma start_own {request : Request} {c : Call} (h : start t request = .ok c) : Own t c := by
  rcases start_ok h with ⟨subject, id, rfl, actor, hactor⟩ | ⟨request, userId, rfl⟩ |
    ⟨id, secret, now, rfl⟩ | ⟨id, rfl⟩
  · obtain ⟨u, hu, -⟩ := isActive_iff.mp (activeOwner_iff.mp hactor).1
    exact List.ne_nil_of_mem (lookup_mem hu)
  · trivial
  · exact Follows.refl t
  · trivial

lemma Kept.commit {w : World} (h : Kept w) (command : Command) :
    Kept (commit w command) ∧ Follows w.shared.tables (commit w command).shared.tables := by
  cases command with
  | change c =>
    rw [Identity.commit]
    split
    · rename_i tables hchange
      have hrewritten := rewritten_change hchange
      refine ⟨⟨h.shared.kept hrewritten (hasOwner_change hchange h.shared.owned),
        fun hd => (h.own hd).follows hrewritten.follows, fun _ _ _ => trivial⟩,
        hrewritten.follows⟩
    · exact ⟨h, .refl _⟩
  | call request =>
    rw [Identity.commit]
    split
    · rename_i call hstart
      exact ⟨Coherent.enter h (fun _ => trivial) (start_own hstart) fun _ _ _ => trivial, .refl _⟩
    · exact ⟨h, .refl _⟩
  | statement i =>
    rw [Identity.commit]
    split
    · rename_i c hc
      have hmoves := next_moves h.shared i (h.own hc)
      exact ⟨Coherent.put h (fun _ => trivial) hc hmoves.sound hmoves.own
        fun _ _ _ _ hd _ => ⟨hd.follows hmoves.follows, trivial⟩, hmoves.follows⟩
    · exact ⟨h, .refl _⟩
  | abort i =>
    rw [Identity.commit]
    split
    · rename_i c hc
      exact ⟨Coherent.put h (fun _ => trivial) hc h.shared trivial
        fun _ _ _ _ hd _ => ⟨hd, trivial⟩, .refl _⟩
    · exact ⟨h, .refl _⟩

lemma Kept.apply {w : World} (h : Kept w) (command : Command) :
    Kept (apply w command) ∧ Follows w.shared.tables (apply w command).shared.tables := by
  rw [Identity.apply]
  split
  · exact ⟨h, .refl _⟩
  · exact h.commit command

lemma Kept.run {w : World} (h : Kept w) (commands : List Command) :
    Kept (run w commands) ∧ Follows w.shared.tables (run w commands).shared.tables := by
  induction commands generalizing w with
  | nil => exact ⟨h, .refl _⟩
  | cons command commands ih =>
    obtain ⟨hkept, hfollows⟩ := h.apply command
    obtain ⟨hrun, hlater⟩ := ih hkept
    exact ⟨hrun, hfollows.trans hlater⟩

lemma kept_empty : Kept empty := by
  refine ⟨⟨fun h => absurd rfl h, List.nodup_nil, List.nodup_nil, ?_, ?_⟩, ?_, fun _ _ _ => trivial⟩
  · exact fun _ hs => absurd hs List.not_mem_nil
  · exact fun _ hx => absurd hx List.not_mem_nil
  · intro i c hc
    cases hc

lemma kept_run (commands : List Command) : Kept (run empty commands) :=
  (kept_empty.run commands).1

end NhaTrangLaundry.Db.Identity
