import NhaTrangLaundry.Db.IdentityRuns

/-! Who is signed in: never a session whose authority was taken away, and exactly the sessions that
the list of live ones shows. -/

namespace NhaTrangLaundry.Db.Identity

open Lib Outcome Table Sorting Staff Interleaved
open ConsentEgress (StaffRole)

variable {t t' : StaffTables}

/-- The session is revoked, or its user is disabled or has been given another authority since. -/
def Withdrawn (t : StaffTables) (id : Uuid) : Prop :=
  ∃ s, session t id = some s ∧ (s.revoked = true ∨ ∃ u, t.user s.staffUserId = some u ∧
    (u.status = .disabled ∨ s.authorizationVersion < u.authorizationVersion))

lemma Withdrawn.follows {id : Uuid} (h : Withdrawn t id) (hfollows : Follows t t') :
    Withdrawn t' id := by
  obtain ⟨s, hs, hwhy⟩ := h
  obtain ⟨s', hs', hcontinues⟩ := hfollows.session hs
  refine ⟨s', hs', ?_⟩
  rcases hwhy with hrevoked | ⟨u, hu, hwhy⟩
  · exact .inl (hcontinues.revoked hrevoked)
  · obtain ⟨u', hu', hadvances⟩ := hfollows.user hu
    refine .inr ⟨u', by rw [hcontinues.staffUserId, hu'], ?_⟩
    rcases hwhy with hdisabled | hlt
    · exact .inl (hadvances.disabled hdisabled)
    · rw [hcontinues.version]
      exact .inr (hlt.trans_le hadvances.version)

lemma not_authenticate {seen : StaffTables} {id : Uuid} (h : Withdrawn seen id)
    (hfollows : Follows seen t) {secret : String} {now : Int} {c : Call} :
    authenticate seen t id secret now ≠ .ok c := by
  intro haccepts
  obtain ⟨old, row, user, hold, hrow, huser, hactive, hlive, hversion, -⟩ :=
    authenticate_ok haccepts
  obtain ⟨s, hs, hwhy⟩ := h
  obtain ⟨row', hrow', hcontinues⟩ := hfollows.session hold
  have hsame : row' = row := Option.some.inj (hrow'.symm.trans hrow)
  have hseen : s = old := Option.some.inj (hs.symm.trans hold)
  subst hsame hseen
  rcases hwhy with hrevoked | ⟨u, hu, hwhy⟩
  · rw [hcontinues.revoked hrevoked] at hlive
    cases hlive
  · have hsameUser : u = user := Option.some.inj (hu.symm.trans huser)
    subst hsameUser
    rcases hwhy with hdisabled | hlt
    · rw [hactive] at hdisabled
      cases hdisabled
    · rw [hversion, hcontinues.version] at hlt
      exact absurd hlt (lt_irrefl _)

def Barred (id : Uuid) : Call → Prop
  | .opened sessionId _ _ seen => sessionId = id → Withdrawn seen id
  | .admitted row _ _ | .answering row _ _ _ => row.id ≠ id
  | _ => True

/-- From the calls that begin at `n` on, none signs the session in. -/
structure Shut (n : Nat) (id : Uuid) (w : World) : Prop where
  withdrawn : Withdrawn w.shared.tables id
  calls : ∀ {i : Nat} {c : Call}, n ≤ i → w.calls[i]? = some c → Barred id c
  silent : ∀ x ∈ w.shared.signIns, n ≤ x.call → x.sessionId ≠ id

lemma start_barred {request : Request} {c : Call} {id : Uuid} (hw : Withdrawn t id)
    (h : start t request = .ok c) : Barred id c := by
  rcases start_ok h with ⟨subject, staffId, rfl, -⟩ | ⟨request, userId, rfl⟩ |
    ⟨sessionId, secret, now, rfl⟩ | ⟨sessionId, rfl⟩
  · trivial
  · trivial
  · exact fun _ => hw
  · trivial

lemma writing_barred (r : Records) (outcome : Except IdentityRefusal StaffTables) (id : Uuid) :
    Barred id (writing r outcome).1 := by
  cases outcome <;> trivial

lemma next_barred {w : World} {i : Nat} {c : Call} {id : Uuid} (hown : Own w.shared.tables c)
    (h : Barred id c) : Barred id (next w i c).1 := by
  cases c with
  | creating subject staffId => exact writing_barred _ _ id
  | revoking sessionId => trivial
  | minting request userId =>
    rw [next]
    split <;> trivial
  | versioned request userId version => exact writing_barred _ _ id
  | opened sessionId secret now seen =>
    rw [next]
    split
    · exact h
    · cases haccepts : authenticate seen w.shared.tables sessionId secret now with
      | error e => trivial
      | ok call =>
        obtain ⟨-, row, user, -, hrow, -, -, -, -, -, rfl⟩ := authenticate_ok haccepts
        have hid : row.id = sessionId := lookup_key hrow
        show row.id ≠ id
        rintro rfl
        exact not_authenticate (h hid.symm) hown (hid ▸ haccepts)
  | admitted row subject now =>
    rw [next]
    by_cases hmfa : row.mfaVerified = true
    · rw [require, if_pos hmfa]
      exact h
    · rw [require, if_neg hmfa]
      trivial
  | answering row subject roles now =>
    rw [next]
    split <;> trivial
  | ended => trivial

lemma writing_signIns (r : Records) (outcome : Except IdentityRefusal StaffTables) :
    (writing r outcome).2.signIns = r.signIns := by
  cases outcome <;> rfl

lemma staying_shared (r : Records) (outcome : Except IdentityRefusal Call) :
    (staying r outcome).2 = r := by
  cases outcome <;> rfl

lemma next_signIns (w : World) (i : Nat) (c : Call) :
    (next w i c).2.signIns = w.shared.signIns ∨ ∃ row subject roles now,
      c = .answering row subject roles now ∧ (next w i c).2.signIns =
        w.shared.signIns ++ [⟨i, row.staffUserId, subject, roles, row.id, now⟩] := by
  cases c with
  | creating subject id => exact .inl (writing_signIns _ _)
  | revoking id => exact .inl rfl
  | minting request userId =>
    rw [next]
    split <;> exact .inl rfl
  | versioned request userId version => exact .inl (writing_signIns _ _)
  | opened id secret now seen =>
    rw [next]
    split
    · exact .inl rfl
    · exact .inl (congrArg Records.signIns (staying_shared _ _))
  | admitted row subject now => exact .inl (congrArg Records.signIns (staying_shared _ _))
  | answering row subject roles now =>
    rw [next]
    split
    · exact .inr ⟨row, subject, roles, now, rfl, rfl⟩
    · exact .inl rfl
  | ended => exact .inl rfl

lemma length_put (w : World) (i : Nat) (call : Call) (records : Records) :
    (w.put i call records).calls.length = w.calls.length :=
  List.length_set

lemma Shut.commit {n : Nat} {id : Uuid} {w : World} (h : Shut n id w) (hkept : Kept w)
    (hn : n ≤ w.calls.length) (command : Command) :
    Shut n id (commit w command) ∧ n ≤ (commit w command).calls.length := by
  have hlater := h.withdrawn.follows (hkept.commit command).2
  cases command with
  | change c =>
    rw [Identity.commit] at hlater ⊢
    split
    · rename_i tables hchange
      rw [hchange] at hlater
      exact ⟨⟨hlater, h.calls, h.silent⟩, hn⟩
    · exact ⟨h, hn⟩
  | call request =>
    rw [Identity.commit] at hlater ⊢
    split
    · rename_i call hstart
      refine ⟨⟨h.withdrawn, fun {i c} hi hc => ?_, h.silent⟩, ?_⟩
      · rcases getElem?_enter hc with ⟨-, rfl⟩ | ⟨-, hold⟩
        · exact start_barred h.withdrawn hstart
        · exact h.calls hi hold
      · rw [enter, List.length_append]
        omega
    · exact ⟨h, hn⟩
  | statement i =>
    rw [Identity.commit] at hlater ⊢
    split
    · rename_i c hc
      rw [hc] at hlater
      refine ⟨⟨hlater, fun {j d} hj hd => ?_, fun x hx hcall => ?_⟩, ?_⟩
      · rcases getElem?_put hd with ⟨rfl, rfl⟩ | ⟨-, hold⟩
        · exact next_barred (hkept.own hc) (h.calls hj hc)
        · exact h.calls hj hold
      · rcases next_signIns w i c with hsame | ⟨row, subject, roles, now, rfl, hmore⟩
        · exact h.silent x (hsame ▸ hx) hcall
        · have hmem : x ∈ w.shared.signIns ++ [_] := hmore ▸ hx
          rcases List.mem_append.mp hmem with hold | hnew
          · exact h.silent x hold hcall
          · rw [List.mem_singleton] at hnew
            subst hnew
            exact h.calls hcall hc
      · rw [length_put]
        exact hn
    · exact ⟨h, hn⟩
  | abort i =>
    rw [Identity.commit]
    split
    · rename_i c hc
      refine ⟨⟨h.withdrawn, fun {j d} hj hd => ?_, h.silent⟩, ?_⟩
      · rcases getElem?_put hd with ⟨-, rfl⟩ | ⟨-, hold⟩
        · trivial
        · exact h.calls hj hold
      · rw [length_put]
        exact hn
    · exact ⟨h, hn⟩

lemma Shut.run {n : Nat} {id : Uuid} {w : World} (h : Shut n id w) (hkept : Kept w)
    (hn : n ≤ w.calls.length) (commands : List Command) : Shut n id (run w commands) := by
  induction commands generalizing w with
  | nil => exact h
  | cons command commands ih =>
    have hstep : Shut n id (apply w command) ∧ n ≤ (apply w command).calls.length := by
      rw [Identity.apply]
      split
      · exact ⟨h, hn⟩
      · exact h.commit hkept hn command
    exact ih hstep.1 (hkept.apply command).1 hstep.2

def Change.target : Change → Option Uuid
  | .bootstrapOwner _ _ _ => none
  | .assignRole id _ _ | .revokeRole id _ _ | .disableStaff id _ _ => some id

lemma version_rewritten {f : StaffUser → StaffUser} {id : Uuid} (hid : ∀ u, (f u).id = u.id)
    (hf : ∀ u, (f u).authorizationVersion = u.authorizationVersion + 1)
    (husers : t'.users = t.users.map (rewriteUser f id)) (hactive : t.isActive id = true) :
    ∃ u u', t.user id = some u ∧ t'.user id = some u' ∧
      u'.authorizationVersion = u.authorizationVersion + 1 := by
  obtain ⟨u, hu, hstatus⟩ := isActive_iff.mp hactive
  have hread := lookup_rows (rewriteUser_id hid id) t.users [] id
  rw [List.append_nil, ← husers] at hread
  have huid : u.id = id := lookup_key hu
  refine ⟨u, f u, hu, ?_, hf u⟩
  rw [StaffTables.user] at hu ⊢
  rw [hread, hu, Option.map_some, rewriteUser, if_pos ⟨huid, hstatus⟩]
  rfl

lemma withdrawn_change {r : Records} (hsound : Sound r) {c : Change}
    (h : change r.tables c = .ok t') {staffId : Uuid} (htarget : c.target = some staffId)
    {id : Uuid} {s : StaffSession} (hs : session r.tables id = some s)
    (huser : s.staffUserId = staffId) : Withdrawn t' id := by
  have hwrites := change_writes h
  have hversion : ∃ u u', r.tables.user staffId = some u ∧ t'.user staffId = some u' ∧
      u'.authorizationVersion = u.authorizationVersion + 1 := by
    cases c with
    | bootstrapOwner subject name id => cases htarget
    | assignRole id role actor =>
      cases htarget
      obtain ⟨-, hactive, rfl⟩ := hwrites
      exact version_rewritten (f := nextAuthorization) (fun _ => rfl) (fun _ => rfl) rfl hactive
    | revokeRole id role actor =>
      cases htarget
      obtain ⟨-, hactive, -, rfl⟩ := hwrites
      exact version_rewritten (f := nextAuthorization) (fun _ => rfl) (fun _ => rfl) rfl hactive
    | disableStaff id actor saw =>
      cases htarget
      obtain ⟨-, hactive, -, rfl⟩ := hwrites
      exact version_rewritten (f := disabledUser) (fun _ => rfl) (fun _ => rfl) rfl hactive
  obtain ⟨u, u', hu, hu', hnext⟩ := hversion
  obtain ⟨v, hv, hle⟩ := hsound.current s (lookup_mem hs)
  rw [huser, hu] at hv
  cases hv
  obtain ⟨s', hs', hcontinues⟩ := (rewritten_change h).follows.session hs
  refine ⟨s', hs', .inr ⟨u', ?_, .inr ?_⟩⟩
  · rw [hcontinues.staffUserId, huser, hu']
  · rw [hcontinues.version]
    omega

lemma withdrawn_revoked {id : Uuid} {s : StaffSession} (hs : session t id = some s) :
    Withdrawn (updateSession revokeRow t id) id := by
  have hkeeps : ∀ s : StaffSession,
      (if s.id = id ∧ s.revoked = false then revokeRow s else s).id = s.id := by
    intro s
    split <;> rfl
  have hread := lookup_rows hkeeps t.sessions [] id
  rw [List.append_nil] at hread
  rw [session] at hs
  rw [hs, Option.map_some, Option.some_or] at hread
  refine ⟨_, hread, .inl ?_⟩
  have hid : s.id = id := lookup_key hs
  cases hrevoked : s.revoked with
  | true => rw [if_neg (by simp), hrevoked]
  | false => rw [if_pos ⟨hid, rfl⟩]; rfl

def Numbered (w : World) : Prop := ∀ x ∈ w.shared.signIns, x.call < w.calls.length

lemma Numbered.apply {w : World} (h : Numbered w) (command : Command) :
    Numbered (apply w command) := by
  rw [Identity.apply]
  split
  · exact h
  · cases command with
    | change c =>
      rw [commit]
      split
      · exact h
      · exact h
    | call request =>
      rw [commit]
      split
      · intro x hx
        rw [enter, List.length_append]
        exact (h x hx).trans_le (Nat.le_add_right _ _)
      · exact h
    | statement i =>
      rw [commit]
      split
      · rename_i c hc
        intro x hx
        rw [length_put]
        rcases next_signIns w i c with hsame | ⟨row, subject, roles, now, -, hmore⟩
        · exact h x (hsame ▸ hx)
        · have hmem : x ∈ w.shared.signIns ++ [_] := hmore ▸ hx
          rcases List.mem_append.mp hmem with hold | hnew
          · exact h x hold
          · rw [List.mem_singleton] at hnew
            subst hnew
            exact (List.getElem?_eq_some_iff.mp hc).1
      · exact h
    | abort i =>
      rw [commit]
      split
      · intro x hx
        rw [length_put]
        exact h x hx
      · exact h

lemma numbered_run (commands : List Command) : Numbered (run empty commands) := by
  have hfold : ∀ (commands : List Command) (w : World), Numbered w → Numbered (run w commands) := by
    intro commands
    induction commands with
    | nil => exact fun _ h => h
    | cons command commands ih => exact fun w h => ih _ (h.apply command)
  exact hfold commands empty fun _ hx => absurd hx List.not_mem_nil

/-- A session is withdrawn by a change of its user's authority, and by `revoke_session`. -/
def Withdraws (w : World) (command : Command) (id : Uuid) : Prop :=
  match command with
  | .change c => ¬ waits w (.change c) ∧ ∃ s t', session w.shared.tables id = some s ∧
      c.target = some s.staffUserId ∧ change w.shared.tables c = .ok t'
  | .statement i => w.calls[i]? = some (.revoking id) ∧ (session w.shared.tables id).isSome = true
  | _ => False

/-- A command that takes the authority of a session away. -/
structure Withdrawal (w : World) where
  command : Command
  sessionId : Uuid
  withdraws : Withdraws w command sessionId

lemma Withdraws.length {w : World} {command : Command} {id : Uuid} (h : Withdraws w command id) :
    (apply w command).calls.length = w.calls.length := by
  cases command with
  | change c =>
    obtain ⟨hfree, s, tables, -, -, hchange⟩ := h
    rw [apply, if_neg hfree, commit, hchange]
  | call request => cases h
  | statement i =>
    obtain ⟨hc, -⟩ := h
    have hfree : ¬ waits w (.statement i) := fun hwaits => hwaits
    rw [apply, if_neg hfree, commit, hc]
    exact length_put w i _ _
  | abort i => cases h

lemma Withdraws.withdrawn {w : World} (hkept : Kept w) {command : Command} {id : Uuid}
    (h : Withdraws w command id) : Withdrawn (apply w command).shared.tables id := by
  cases command with
  | change c =>
    obtain ⟨hfree, s, tables, hs, htarget, hchange⟩ := h
    have hwithdrawn := withdrawn_change hkept.shared hchange htarget hs rfl
    rw [apply, if_neg hfree, commit, hchange]
    exact hwithdrawn
  | call request => cases h
  | statement i =>
    obtain ⟨hc, hsome⟩ := h
    obtain ⟨s, hs⟩ := Option.isSome_iff_exists.mp hsome
    have hfree : ¬ waits w (.statement i) := fun hwaits => hwaits
    rw [apply, if_neg hfree, commit, hc]
    exact withdrawn_revoked hs
  | abort i => cases h

/-- From the commit on that takes a session's authority away, no call that begins later signs it
in, in whatever order the statements of all calls run. -/
theorem withdrawn_session_never_signs_in (commands later : List Command)
    (x : Withdrawal (run empty commands)) :
    Withdrawn (run (apply (run empty commands) x.command) later).shared.tables x.sessionId ∧
      ∀ signIn ∈ (run (apply (run empty commands) x.command) later).shared.signIns,
        (run empty commands).calls.length ≤ signIn.call → signIn.sessionId ≠ x.sessionId := by
  have hkept := kept_run commands
  have hafter := (hkept.apply x.command).1
  have hlength := x.withdraws.length
  have hnumbered := (numbered_run commands).apply x.command
  have hshut : Shut (run empty commands).calls.length x.sessionId
      (apply (run empty commands) x.command) := by
    refine ⟨x.withdraws.withdrawn hkept, fun {i c} hi hc => ?_, fun signIn hmem hcall => ?_⟩
    · have hlt := (List.getElem?_eq_some_iff.mp hc).1
      omega
    · have hlt := hnumbered signIn hmem
      omega
  have hrun := hshut.run hafter hlength.ge later
  exact ⟨hrun.withdrawn, hrun.silent⟩

def ownerRequest : CreateSession :=
  ⟨"owner", true, 0, 28800 * second, 86400 * second, none, ⟨2⟩, "s"⟩

def ownerSignsUp : List Command :=
  [.change (.bootstrapOwner "owner" "Owner" ⟨1⟩), .call (.createSession ownerRequest),
    .statement 0, .statement 0]

def ownerToken : String := "00000000-0000-0000-0000-000000000002.s"

lemma ownerSignsUp_withdraws :
    Withdraws (run empty ownerSignsUp) (.change (.assignRole ⟨1⟩ .operator ⟨1⟩)) ⟨2⟩ :=
  ⟨by decide +kernel, _, _, rfl, rfl, rfl⟩

def ownerNewRole : Withdrawal (run empty ownerSignsUp) :=
  ⟨.change (.assignRole ⟨1⟩ .operator ⟨1⟩), ⟨2⟩, ownerSignsUp_withdraws⟩

def ownerReturns : List Command :=
  [.call (.authenticateSession ownerToken 1), .statement 1, .statement 1, .statement 1]

/-- The owner's new role refuses the cookie that the owner had before. -/
theorem owner_new_role_ends_session :
    Withdrawn (run (apply (run empty ownerSignsUp) ownerNewRole.command) ownerReturns).shared.tables
        ownerNewRole.sessionId ∧
      ∀ signIn ∈
        (run (apply (run empty ownerSignsUp) ownerNewRole.command) ownerReturns).shared.signIns,
        (run empty ownerSignsUp).calls.length ≤ signIn.call →
          signIn.sessionId ≠ ownerNewRole.sessionId :=
  withdrawn_session_never_signs_in ownerSignsUp ownerReturns ownerNewRole

/-- Once there is a user there is an active owner, an identity token has made one session at most,
and whoever was signed in had a session of theirs, proven by a second factor and not run out. -/
theorem staff_identity_sound (commands : List Command) :
    ((run empty commands).shared.tables.users ≠ [] →
        HasOwner (run empty commands).shared.tables) ∧
      (∀ s ∈ (run empty commands).shared.tables.sessions,
        ∀ s' ∈ (run empty commands).shared.tables.sessions, ∀ digest,
          s.identityTokenDigest = some digest → s'.identityTokenDigest = some digest → s = s') ∧
      ∀ signIn ∈ (run empty commands).shared.signIns,
        Genuine (run empty commands).shared.tables signIn := by
  have hsound := (kept_run commands).shared
  refine ⟨hsound.owned, ?_, hsound.signed⟩
  intro s hs s' hs' digest hdigest hdigest'
  exact eq_of_column hsound.once hs hs' hdigest hdigest'

/-- What `authenticate_session` asks of a session at an instant, the update of its row apart. -/
def Fit (t : StaffTables) (row : StaffSession) (now : Int) : Prop :=
  ∃ user, t.user row.staffUserId = some user ∧ user.status = .active ∧ row.revoked = false ∧
    user.authorizationVersion = row.authorizationVersion ∧ now < row.idleExpiresAt ∧
    now < row.absoluteExpiresAt

lemma isLive_iff {staffUserId : Uuid} {now : Int} {s : StaffSession} :
    isLive t staffUserId now s = true ↔
      s.staffUserId = staffUserId ∧ Fit t s now ∧ s.mfaVerified = true := by
  rw [isLive, Fit]
  cases huser : t.user s.staffUserId with
  | none => simp
  | some user =>
    simp only [Option.any_some, Option.some.injEq, exists_eq_left', Bool.and_eq_true,
      decide_eq_true_eq, Bool.not_eq_true']
    constructor
    · rintro ⟨⟨⟨⟨⟨hof, hlive⟩, hidle⟩, habsolute⟩, hactive, hversion⟩, hmfa⟩
      exact ⟨hof, ⟨hactive, hlive, hversion.symm, hidle, habsolute⟩, hmfa⟩
    · rintro ⟨hof, ⟨hactive, hlive, hversion, hidle, habsolute⟩, hmfa⟩
      exact ⟨⟨⟨⟨⟨hof, hlive⟩, hidle⟩, habsolute⟩, hactive, hversion.symm⟩, hmfa⟩

lemma listLiveSessions_whole {staffUserId actorId : Uuid} {now limit : Int} {list : LiveSessionList}
    (h : listLiveSessions t staffUserId actorId now limit = .ok list)
    (hwhole : list.truncated = false) :
    list.sessions = (liveRows t staffUserId now).map LiveSession.ofRow := by
  simp only [listLiveSessions, bind_ok, Except.ok.injEq] at h
  obtain ⟨_, -, _, -, _, -, rfl⟩ := h
  rw [decide_eq_false_iff_not, List.length_take] at hwhole
  rw [List.take_take, List.take_of_length_le (by omega)]

structure Cookie (w : World) where
  token : String
  secret : String
  row : StaffSession
  stored : session w.shared.tables row.id = some row
  parses : parseSessionToken token = .ok (row.id, secret)
  secretHash_eq : row.secretHash = secretHash secret
  free : ¬ rowHeld w row.id

/-- A call of `authenticate_session` whose statements run one after the other. -/
def authenticateAlone (w : World) (token : String) (now : Int) : World :=
  run w [.call (.authenticateSession token now), .statement w.calls.length,
    .statement w.calls.length, .statement w.calls.length]

def Cookie.signIn {w : World} (cookie : Cookie w) (subject : String) (now : Int) : SignIn :=
  ⟨w.calls.length, cookie.row.staffUserId, subject,
    activeRoles w.shared.tables cookie.row.staffUserId, cookie.row.id, now⟩

lemma apply_statement {w : World} {i : Nat} {c : Call} (hc : w.calls[i]? = some c) :
    apply w (.statement i) = w.put i (next w i c).1 (next w i c).2 := by
  have hfree : ¬ waits w (.statement i) := fun hwaits => hwaits
  rw [apply, if_neg hfree, commit, hc]

lemma statement_to {w : World} {i : Nat} {c c' : Call} {r : Records} (hc : w.calls[i]? = some c)
    (hnext : next w i c = (c', r)) :
    (apply w (.statement i)).shared = r ∧ (apply w (.statement i)).calls[i]? = some c' := by
  rw [apply_statement hc, hnext]
  exact ⟨rfl, getElem?_put_self hc _ _⟩

lemma getElem?_entered (w : World) (call : Call) :
    (w.enter call).calls[w.calls.length]? = some call := by
  rw [enter, List.getElem?_append_right le_rfl, Nat.sub_self]
  rfl

lemma statement_ended {w : World} {i : Nat} (hc : w.calls[i]? = some .ended) :
    (apply w (.statement i)).shared = w.shared ∧ (apply w (.statement i)).calls[i]? = some .ended :=
  statement_to hc rfl

lemma authenticate_self {row : StaffSession} {secret : String}
    (hrow : session t row.id = some row) (hhash : row.secretHash = secretHash secret) (now : Int) :
    (∃ user, t.user row.staffUserId = some user ∧ Fit t row now ∧
        authenticate t t row.id secret now = .ok (.admitted row user.oidcSubject now)) ∨
      (¬ Fit t row now ∧ ∃ e, authenticate t t row.id secret now = .error e) := by
  rw [authenticate, hrow]
  dsimp only
  cases huser : t.user row.staffUserId with
  | none =>
    refine .inr ⟨?_, _, rfl⟩
    rintro ⟨user, hsome, -⟩
    rw [huser] at hsome
    cases hsome
  | some user =>
    dsimp only
    rw [require, if_pos hhash, ok_bind, require]
    by_cases hfit : user.status = .active ∧ row.revoked = false ∧
        user.authorizationVersion = row.authorizationVersion ∧ now < row.idleExpiresAt ∧
        now < row.absoluteExpiresAt
    · rw [if_pos hfit]
      exact .inl ⟨user, rfl, ⟨user, huser, hfit⟩, rfl⟩
    · rw [if_neg hfit]
      refine .inr ⟨?_, _, rfl⟩
      rintro ⟨user', hsome, hfits⟩
      rw [huser] at hsome
      cases hsome
      exact hfit hfits

lemma authenticateAlone_signIns {w : World} (cookie : Cookie w) (now : Int) :
    (Fit w.shared.tables cookie.row now ∧ cookie.row.mfaVerified = true ∧
        cookie.row.issuedAt ≤ now ∧
        ∃ user, w.shared.tables.user cookie.row.staffUserId = some user ∧
          (authenticateAlone w cookie.token now).shared.signIns =
            w.shared.signIns ++ [cookie.signIn user.oidcSubject now]) ∨
      (¬ (Fit w.shared.tables cookie.row now ∧ cookie.row.mfaVerified = true ∧
        cookie.row.issuedAt ≤ now) ∧
        (authenticateAlone w cookie.token now).shared.signIns = w.shared.signIns) := by
  let n := w.calls.length
  let opened := w.enter (.opened cookie.row.id cookie.secret now w.shared.tables)
  have hstart : apply w (.call (.authenticateSession cookie.token now)) = opened := by
    have hfree : ¬ waits w (.call (.authenticateSession cookie.token now)) := fun hwaits => hwaits
    rw [apply, if_neg hfree, commit, start, cookie.parses]
    rfl
  have hopened : opened.calls[n]? =
      some (.opened cookie.row.id cookie.secret now w.shared.tables) :=
    getElem?_entered w _
  have hunheld : ¬ rowHeld opened cookie.row.id := by
    rintro ⟨c, hc, hholds⟩
    rcases List.mem_append.mp hc with hc | hc
    · exact cookie.free ⟨c, hc, hholds⟩
    · rw [List.mem_singleton] at hc
      subst hc
      cases hholds
  have halone : authenticateAlone w cookie.token now =
      apply (apply (apply opened (.statement n)) (.statement n)) (.statement n) := by
    rw [← hstart]
    rfl
  have hfirst : next opened n (.opened cookie.row.id cookie.secret now w.shared.tables) =
      staying w.shared
        (authenticate w.shared.tables w.shared.tables cookie.row.id cookie.secret now) := by
    rw [next, if_neg hunheld]
    rfl
  rw [halone]
  rcases authenticate_self cookie.stored cookie.secretHash_eq now with
    ⟨user, huser, hfit, haccepts⟩ | ⟨hunfit, e, haccepts⟩
  · rw [haccepts] at hfirst
    obtain ⟨hshared, hcall⟩ := statement_to hopened hfirst
    by_cases hmfa : cookie.row.mfaVerified = true
    · have hsecond : next (apply opened (.statement n)) n
          (.admitted cookie.row user.oidcSubject now) =
          (.answering cookie.row user.oidcSubject
            (activeRoles w.shared.tables cookie.row.staffUserId) now, w.shared) := by
        rw [next, hshared, require, if_pos hmfa]
        rfl
      obtain ⟨hshared', hcall'⟩ := statement_to hcall hsecond
      by_cases hissued : cookie.row.issuedAt ≤ now
      · refine .inl ⟨hfit, hmfa, hissued, user, huser, ?_⟩
        rw [apply_statement hcall', shared_put, next, if_pos hissued, hshared']
        rfl
      · refine .inr ⟨fun h => hissued h.2.2, ?_⟩
        rw [apply_statement hcall', shared_put, next, if_neg hissued, hshared']
    · have hsecond : next (apply opened (.statement n)) n
          (.admitted cookie.row user.oidcSubject now) = (.ended, w.shared) := by
        rw [next, hshared, require, if_neg hmfa]
        rfl
      obtain ⟨hshared', hcall'⟩ := statement_to hcall hsecond
      refine .inr ⟨fun h => hmfa h.2.1, ?_⟩
      rw [(statement_ended hcall').1, hshared']
  · rw [haccepts] at hfirst
    obtain ⟨hshared, hcall⟩ := statement_to hopened hfirst
    obtain ⟨hshared', hcall'⟩ := statement_ended hcall
    refine .inr ⟨fun h => hunfit h.1, ?_⟩
    rw [(statement_ended hcall').1, hshared', hshared]

/-- An answer of `list_live_sessions` that lists all that it found. -/
structure Listing (w : World) (staffUserId : Uuid) (now : Int) where
  actorId : Uuid
  limit : Int
  list : LiveSessionList
  answered : listLiveSessions w.shared.tables staffUserId actorId now limit = .ok list
  whole : list.truncated = false

lemma mem_listing {w : World} (hsound : Sound w.shared) {now : Int} (cookie : Cookie w)
    (listing : Listing w cookie.row.staffUserId now) :
    cookie.row.id ∈ listing.list.sessions.map LiveSession.sessionId ↔
      Fit w.shared.tables cookie.row now ∧ cookie.row.mfaVerified = true := by
  rw [listLiveSessions_whole listing.answered listing.whole, List.map_map]
  constructor
  · intro h
    obtain ⟨s, hs, hid⟩ := List.mem_map.mp h
    rw [liveRows, mem_sortBy, List.mem_filter] at hs
    have hfound := lookup_of_mem hsound.apart hs.1
    have hid' : s.id = cookie.row.id := hid
    rw [hid'] at hfound
    have hrow : s = cookie.row := Option.some.inj (hfound.symm.trans cookie.stored)
    rw [← hrow]
    exact (isLive_iff.mp hs.2).2
  · intro h
    refine List.mem_map.mpr ⟨cookie.row, ?_, rfl⟩
    rw [liveRows, mem_sortBy, List.mem_filter]
    exact ⟨lookup_mem cookie.stored, isLive_iff.mpr ⟨rfl, h⟩⟩

/-- A session is on the list of its user's live sessions exactly where its cookie, brought at that
instant or any later than its issue, signs in, as its user and with the roles held then. -/
theorem live_sessions_sign_in (commands : List Command) (now : Int)
    (cookie : Cookie (run empty commands))
    (listing : Listing (run empty commands) cookie.row.staffUserId now) :
    (cookie.row.id ∈ listing.list.sessions.map LiveSession.sessionId ∧ cookie.row.issuedAt ≤ now ↔
        ∃ user, (run empty commands).shared.tables.user cookie.row.staffUserId = some user ∧
          (authenticateAlone (run empty commands) cookie.token now).shared.signIns =
            (run empty commands).shared.signIns ++ [cookie.signIn user.oidcSubject now]) ∧
      (¬ (cookie.row.id ∈ listing.list.sessions.map LiveSession.sessionId ∧
          cookie.row.issuedAt ≤ now) →
        (authenticateAlone (run empty commands) cookie.token now).shared.signIns =
          (run empty commands).shared.signIns) := by
  have hlisted := mem_listing (kept_run commands).shared cookie listing
  rw [hlisted, and_assoc]
  rcases authenticateAlone_signIns cookie now with
    ⟨hfit, hmfa, hissued, user, huser, hsigned⟩ | ⟨hnot, hsigned⟩
  · exact ⟨⟨fun _ => ⟨user, huser, hsigned⟩, fun _ => ⟨hfit, hmfa, hissued⟩⟩,
      fun hnot => absurd ⟨hfit, hmfa, hissued⟩ hnot⟩
  · refine ⟨⟨fun h => absurd h hnot, ?_⟩, fun _ => hsigned⟩
    rintro ⟨user, -, hsigns⟩
    rw [hsigned] at hsigns
    have hlength := congrArg List.length hsigns
    rw [List.length_append, List.length_singleton] at hlength
    omega

def ownerRow : StaffSession := ownerRequest.row ⟨1⟩ 1

lemma ownerRow_stored :
    session (run empty ownerSignsUp).shared.tables ownerRow.id = some ownerRow :=
  rfl

lemma ownerToken_parses : parseSessionToken ownerToken = .ok (ownerRow.id, "s") := by
  decide +kernel

lemma ownerRow_free : ¬ rowHeld (run empty ownerSignsUp) ownerRow.id := by
  decide +kernel

lemma ownerRow_secretHash : ownerRow.secretHash = secretHash "s" := rfl

def ownerSessions : LiveSessionList := ⟨⟨1⟩, [.ofRow ownerRow], false⟩

lemma owner_lists :
    listLiveSessions (run empty ownerSignsUp).shared.tables ⟨1⟩ ⟨1⟩ 1 50 = .ok ownerSessions := by
  decide +kernel

lemma ownerSessions_whole : ownerSessions.truncated = false := rfl

def ownerCookie : Cookie (run empty ownerSignsUp) :=
  ⟨ownerToken, "s", ownerRow, ownerRow_stored, ownerToken_parses, ownerRow_secretHash,
    ownerRow_free⟩

def ownerListing : Listing (run empty ownerSignsUp) ownerCookie.row.staffUserId 1 :=
  ⟨⟨1⟩, 50, ownerSessions, owner_lists, ownerSessions_whole⟩

theorem owner_session_listed :
    (ownerCookie.row.id ∈ ownerListing.list.sessions.map LiveSession.sessionId ∧
          ownerCookie.row.issuedAt ≤ 1 ↔
        ∃ user, (run empty ownerSignsUp).shared.tables.user ownerCookie.row.staffUserId =
            some user ∧
          (authenticateAlone (run empty ownerSignsUp) ownerCookie.token 1).shared.signIns =
            (run empty ownerSignsUp).shared.signIns ++
              [ownerCookie.signIn user.oidcSubject 1]) ∧
      (¬ (ownerCookie.row.id ∈ ownerListing.list.sessions.map LiveSession.sessionId ∧
          ownerCookie.row.issuedAt ≤ 1) →
        (authenticateAlone (run empty ownerSignsUp) ownerCookie.token 1).shared.signIns =
          (run empty ownerSignsUp).shared.signIns) :=
  live_sessions_sign_in ownerSignsUp 1 ownerCookie ownerListing

end NhaTrangLaundry.Db.Identity
