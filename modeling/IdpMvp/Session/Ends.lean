import IdpMvp.Service.DirectLogin
import IdpMvp.Session.Authorizing
import IdpMvp.Store.Effects

/-!
# What the login services do

The ends of the services that authenticate a user: what they leave in the store, and what they have
checked of the user on the way there. `SessionEnd` is for the services on an auth session, `DirectEnd`
for the portal and the admin console, `ApproveEnd` for the consent. Everything that is shown about
logins is shown from these.
-/

namespace IdpMvp

open Program Program.Prog Program.Flow IdpMvp.Prog

variable {D : Deploy} {s s' s'' : Store} {tenantId : TenantId} {ctx : RequestContext} {ε : Type}

/-! ## What stays -/

/-- The row of a user without what logins change: the password, its flag and the failed attempts. -/
def User.profile (u : User) : User :=
  { u with passwordHash := "", mustChangePassword := false, failedLoginCount := 0, lockedUntil := none }

/-- Nobody was authenticated: apart from what logins change of the users, and from counters and caches,
the store has at most lost auth sessions. -/
structure Kept (s s' : Store) : Prop where
  users : s'.users.map User.profile = s.users.map User.profile
  authSessions : s'.authSessions.Sublist s.authSessions
  ssoSessions : s'.ssoSessions = s.ssoSessions
  codes : s'.codes = s.codes
  refreshTokens : s'.refreshTokens = s.refreshTokens
  memberships : s'.memberships = s.memberships
  totpSecrets : s'.totpSecrets = s.totpSecrets
  consents : s'.consents = s.consents

/-- The same without a lost auth session. -/
structure Same (s s' : Store) : Prop extends Kept s s' where
  sessions : s'.authSessions = s.authSessions

lemma Same.refl (s : Store) : Same s s := ⟨⟨rfl, .refl _, rfl, rfl, rfl, rfl, rfl, rfl⟩, rfl⟩

lemma Kept.refl (s : Store) : Kept s s := (Same.refl s).toKept

lemma Kept.trans (h : Kept s s') (h' : Kept s' s'') : Kept s s'' :=
  ⟨h'.users.trans h.users, h'.authSessions.trans h.authSessions, h'.ssoSessions.trans h.ssoSessions,
    h'.codes.trans h.codes, h'.refreshTokens.trans h.refreshTokens,
    h'.memberships.trans h.memberships, h'.totpSecrets.trans h.totpSecrets,
    h'.consents.trans h.consents⟩

lemma Same.trans (h : Same s s') (h' : Same s' s'') : Same s s'' :=
  ⟨h.toKept.trans h'.toKept, h'.sessions.trans h.sessions⟩

lemma Same.attempts (s : Store) (attempts : List (String × List DateTime)) :
    Same s { s with loginAttempts := attempts } := ⟨⟨rfl, .refl _, rfl, rfl, rfl, rfl, rfl, rfl⟩, rfl⟩

lemma Same.updateUser (s : Store) (id : Uuid) {f : User → User} (same : ∀ u, (f u).profile = u.profile) :
    Same s (s.updateUser id f) := by
  refine ⟨⟨?_, .refl _, rfl, rfl, rfl, rfl, rfl, rfl⟩, rfl⟩
  simp only [Store.updateUser, List.map_map]
  refine List.map_congr_left fun u _ => ?_
  simp only [Function.comp_apply]
  split
  · exact same u
  · rfl

lemma Kept.deleteSession (s : Store) (id : String) :
    Kept s { s with authSessions := s.authSessions.filter fun a => D.coll a.id ≠ D.coll id } :=
  ⟨rfl, List.filter_sublist, rfl, rfl, rfl, rfl, rfl, rfl⟩

/-! ## The steps of a login -/

/-- The auth session a request is on, within its tenant and not expired. -/
structure OnSession (D : Deploy) (s : Store) (tenantId : TenantId) (now : DateTime) (a : AuthSession) :
    Prop where
  mem : a ∈ s.authSessions
  tenant : a.tenantId = tenantId
  unexpired : a.isExpiredAt now = false

lemma loadAuthSession_always {sessionId : String} {now : DateTime} {expired : ε}
    {internal : String → ε} :
    alwaysE (exec D) (loadAuthSession tenantId sessionId now expired internal) s
      (fun a s' => s' = s ∧ OnSession D s tenantId now a ∧ D.coll a.id = D.coll sessionId)
      (fun _ s' => Kept s s') := by
  unfold loadAuthSession
  refine read_step (fun _ => rfl) (fun _ => Kept.refl s) fun _ => ?_
  refine found_step (fun _ => Kept.refl s) fun a row => ?_
  have named := List.find?_some row
  simp only [decide_eq_true_eq] at named
  refine ensureOr_step (fun _ => ?_) fun unexpired => ?_
  · simp only [op, always_bind, always_db, pure_eq, always_ret, Stmt.exec, AuthSessionStmt.exec]
    exact ⟨fun _ => Kept.refl s, fun _ => Kept.deleteSession s _⟩
  · exact ⟨rfl, ⟨List.mem_of_find?_eq_some row, named.2, by simpa using unexpired⟩, named.1⟩

lemma rateLimitAddress_always {address : Option String} {now : DateTime} {limited : ε} :
    alwaysE (exec D) (rateLimitAddress address now limited) s
      (fun _ s' => ∃ attempts, s' = { s with loginAttempts := attempts })
      (fun _ s' => Kept s s') := by
  have checked : ∀ key, ∃ attempts, (s.checkAndRecord D key now).2 = { s with loginAttempts := attempts } := by
    intro key
    simp only [Store.checkAndRecord]
    split <;> exact ⟨_, rfl⟩
  cases address with
  | none => exact ⟨_, rfl⟩
  | some ip =>
    refine lift_step fun _ => ?_
    obtain ⟨attempts, eq⟩ := checked ip
    simp only [exec, eq, always_ret, alwaysE_ensure]
    exact ⟨fun _ => ⟨attempts, rfl⟩, fun _ => (Same.attempts s attempts).toKept⟩

/-- A user of the tenant who may log in now. -/
structure MayLogin (tenantId : TenantId) (now : DateTime) (user : User) : Prop where
  tenant : user.tenantId = tenantId
  unlocked : user.isLockedAt now = false
  active : user.isActive = true

/-- The row has the user name, under the collation. -/
def User.isNamed (D : Deploy) (username : String) (user : User) : Prop :=
  user.preferredUsername.map D.coll = some (D.coll username)

lemma findLoginUser_always {username : String} {now : DateTime} {rateLimited invalid locked : ε}
    {internal : String → ε} :
    alwaysE (exec D) (findLoginUser tenantId username ctx now rateLimited invalid locked internal) s
      (fun user s' => Same s s' ∧ user ∈ s'.users ∧ MayLogin tenantId now user ∧
        user.isNamed D username ∧ ∃ attempts, s' = { s with loginAttempts := attempts })
      (fun _ s' => Kept s s') := by
  unfold findLoginUser
  refine alwaysE_bind_of rateLimitAddress_always (fun _ _ h => h) ?_
  rintro _ _ ⟨attempts, rfl⟩
  have same := Same.attempts s attempts
  refine read_step (fun _ => rfl) (fun _ => same.toKept) fun _ => ?_
  refine found_step (fun _ => same.toKept) fun user row => ?_
  refine ensure_step (fun _ => same.toKept) fun unlocked => ?_
  refine ensure_step (fun _ => same.toKept) fun active => ?_
  have named := List.find?_some row
  simp only [decide_eq_true_eq] at named
  exact ⟨same, List.mem_of_find?_eq_some row, ⟨named.1, by simpa using unlocked, active⟩, named.2,
    attempts, rfl⟩

lemma checkLoginPassword_always {password : String} {user : User} {invalid locked : ε}
    {internal : String → ε} :
    alwaysE (exec D) (checkLoginPassword D password user invalid locked internal) s
      (fun _ s' => s' = s ∧ D.verifyPassword password user.passwordHash = .ok true)
      (fun _ s' => Kept s s') := by
  unfold checkLoginPassword
  refine orThrow_step (fun _ _ => Kept.refl s) fun verified eq => ?_
  rw [alwaysE_ensureOr]
  refine ⟨?_, fun _ => ?_⟩
  · rintro rfl
    exact ⟨rfl, eq⟩
  · simp only [countPasswordFailure, op, always_bind, always_clock, always_db, pure_eq, always_ret]
    refine fun i => ⟨fun _ => Kept.refl s, fun _ => ?_⟩
    simp only [Stmt.exec, UserStmt.exec, always_ret]
    exact Same.toKept (Same.updateUser s user.id fun u => rfl)

/-- The row of a user after the reset of the failure counter. -/
def ResetRow (user row : User) : Prop :=
  row = user ∨ row = { user with failedLoginCount := 0, lockedUntil := none }

lemma resetLoginFailures_always {user current : User} {internal : String → ε}
    (mem : current ∈ s.users) (id : current.id = user.id) :
    alwaysE (exec D) (resetLoginFailures user internal) s
      (fun _ s' => Same s s' ∧ ∃ row ∈ s'.users, ResetRow current row) (fun _ s' => Kept s s') := by
  unfold resetLoginFailures
  rw [alwaysE_onlyIf]
  refine ⟨fun _ => ?_, fun _ => ⟨Same.refl s, current, mem, .inl rfl⟩⟩
  simp only [alwaysE_orLeave, op, always_db, always_ret]
  refine ⟨fun e => ⟨by rintro _ ⟨⟩, fun _ _ => Kept.refl s⟩, fun _ => ⟨fun _ _ => ?_, by rintro _ ⟨⟩⟩⟩
  refine ⟨Same.updateUser s user.id fun u => rfl, _, List.mem_map_of_mem mem, ?_⟩
  rw [if_pos id]
  exact .inr rfl

/-- The user has a confirmed TOTP secret. -/
def Store.hasConfirmedTotp (s : Store) (userId : Uuid) : Bool :=
  (s.totpSecrets.find? (·.userId = userId)).any (·.isConfirmed)

lemma userHasConfirmedTotp_always {userId : Uuid} :
    always (exec D) (userHasConfirmedTotp userId) s (fun r s' =>
      s' = s ∧ ∀ b, r = .ok b → b = s.hasConfirmedTotp userId) := by
  simp only [userHasConfirmedTotp, op, always_bind, always_db, Stmt.exec, TotpSecretStmt.exec]
  refine ⟨fun e => ⟨rfl, by rintro _ ⟨⟩⟩, fun _ => ?_⟩
  simp only [always_ret, Store.hasConfirmedTotp]
  cases s.totpSecrets.find? (·.userId = userId) with
  | none =>
    refine ⟨rfl, ?_⟩
    rintro b ⟨⟩
    rfl
  | some secret =>
    refine ⟨rfl, ?_⟩
    rintro b ⟨⟩
    rfl

/-! ## What follows an authentication -/

/-- A stored consent covers the scopes of the session that need one. -/
def Consented (D : Deploy) (s : Store) (tenantId : TenantId) (userId : Uuid) (a : AuthSession) : Prop :=
  ConsentCovers D s tenantId userId a.clientId a.scope

/-- The rows of an auth session after the user was authenticated on it, and after its deletion. -/
def markAuthenticated (D : Deploy) (id : String) (userId : Uuid) (now : DateTime)
    (rows : List AuthSession) : List AuthSession :=
  rows.map fun a => if D.coll a.id = D.coll id then
    { a with authenticatedUserId := some userId, authTime := some now } else a

def dropSession (D : Deploy) (id : String) (rows : List AuthSession) : List AuthSession :=
  rows.filter fun a => D.coll a.id ≠ D.coll id

/-- What a login has done once `userId` was authenticated on `a` at `now`; it may have failed in
between. -/
structure Completed (D : Deploy) (tenantId : TenantId) (ctx : RequestContext) (a : AuthSession)
    (userId : Uuid) (now : DateTime) (s s' : Store) : Prop where
  users : s'.users = s.users
  refreshTokens : s'.refreshTokens = s.refreshTokens
  memberships : s'.memberships = s.memberships
  totpSecrets : s'.totpSecrets = s.totpSecrets
  consents : s'.consents = s.consents
  sso : s'.ssoSessions = s.ssoSessions ∨ ∃ id,
    s'.ssoSessions = s.ssoSessions ++ [ssoSessionFor D id userId now ctx]
  authSessions : s'.authSessions = s.authSessions ∨
    s'.authSessions = markAuthenticated D a.id userId now s.authSessions ∨
    s'.authSessions = dropSession D a.id (markAuthenticated D a.id userId now s.authSessions)
  codes : s'.codes = s.codes ∨ (Consented D s tenantId userId a ∧ ∃ code issuedAt, s'.codes =
    s.codes ++ [(a.issueCommand tenantId userId now).record D code issuedAt])

section
variable {a : AuthSession} {userId : Uuid} {now : DateTime}

lemma Completed.refl (s : Store) : Completed D tenantId ctx a userId now s s :=
  ⟨rfl, rfl, rfl, rfl, rfl, .inl rfl, .inl rfl, .inl rfl⟩

lemma createSsoSession_always {Q : DbResult String → Store → Prop} (fails : ∀ e, Q (.error e) s)
    (created : ∀ id, Q (.ok id)
      { s with ssoSessions := s.ssoSessions ++ [ssoSessionFor D id userId now ctx] }) :
    always (exec D) (createSsoSession D userId now ctx) s Q := by
  simp only [createSsoSession, op, always_bind, always_randomHex, always_db, always_ret, pure_eq]
  refine fun draw => ⟨fun e => fails e, fun _ => ?_⟩
  simp only [Stmt.exec, SsoSessionStmt.exec]
  split_ifs
  · exact fails _
  · exact fails _
  · exact created _

/-- The consent check, the code and the deletion, after a login that has stored nothing but its SSO
session and its result on the auth session. -/
lemma finishFlow_always {t : Store} (before : Completed D tenantId ctx a userId now s t)
    (marked : t.authSessions = markAuthenticated D a.id userId now s.authSessions)
    (codes : t.codes = s.codes) :
    always (exec D) (finishFlow D tenantId a userId now) t (fun _ s' =>
      Completed D tenantId ctx a userId now s s') := by
  unfold finishFlow
  rw [always_bind]
  refine always_mono hasConsent_always ?_
  rintro (e | _ | _) t' ⟨same, consented⟩
  · exact same ▸ before
  · exact same ▸ before
  · obtain rfl := same.symm
    have consent : Consented D s tenantId userId a := by
      have there := consented rfl
      rwa [ConsentCovers, before.consents] at there
    simp only [always_bind]
    refine issueCode_always (fun _ => before) fun code issuedAt => ?_
    have issued : Completed D tenantId ctx a userId now s
        { t with codes := t.codes ++ [(a.issueCommand tenantId userId now).record D code issuedAt] } :=
      { before with codes := .inr ⟨consent, code, issuedAt, by rw [codes]⟩ }
    simp only [op, always_db, always_bind, pure_eq, always_ret, Stmt.exec, AuthSessionStmt.exec]
    refine ⟨fun _ => issued, fun _ => ?_⟩
    exact { issued with authSessions := .inr (.inr (by rw [marked]; rfl)) }

lemma setAuthenticatedUser_always {Q : DbResult Unit → Store → Prop} {id : String}
    (fails : ∀ e, Q (.error e) s)
    (marked : Q (.ok ()) { s with authSessions := markAuthenticated D id userId now s.authSessions }) :
    always (exec D) (db (.authSessions (.setAuthenticatedUser id userId now))) s Q := by
  simp only [op, always_db, always_ret]
  refine ⟨fun e => fails e, fun _ => ?_⟩
  simp only [Stmt.exec, AuthSessionStmt.exec, Store.updateAuthSession]
  split_ifs
  · exact fails _
  · exact marked

section
variable {f g : DomainError → ε} {k : String → FlowEnd → ServiceFlow ε ε} {Q : Store → Prop}

/-- The end of `login`: the SSO session, then the result on the auth session. -/
lemma createThenMark_always (ends : ∀ s', Completed D tenantId ctx a userId now s s' → Q s')
    (returns : ∀ id e t, Q t → alwaysE (exec D) (k id e) t (fun _ s' => Q s') (fun _ s' => Q s')) :
    alwaysE (exec D) (do
      let id ← orLeave (createSsoSession D userId now ctx) f
      orLeave (db (.authSessions (.setAuthenticatedUser a.id userId now))) g
      let e ← finishFlow D tenantId a userId now
      k id e) s (fun _ s' => Q s') (fun _ s' => Q s') := by
  rw [alwaysE_bind, alwaysE_orLeave]
  refine createSsoSession_always (fun _ => ⟨nofun, fun _ _ => ends s (.refl s)⟩) fun id => ?_
  refine ⟨?_, nofun⟩
  rintro _ ⟨⟩
  have created : Completed D tenantId ctx a userId now s
      { s with ssoSessions := s.ssoSessions ++ [ssoSessionFor D id userId now ctx] } :=
    ⟨rfl, rfl, rfl, rfl, rfl, .inr ⟨id, rfl⟩, .inl rfl, .inl rfl⟩
  rw [alwaysE_bind, alwaysE_orLeave]
  refine setAuthenticatedUser_always (fun _ => ⟨nofun, fun _ _ => ends _ created⟩) ⟨fun _ _ => ?_, nofun⟩
  refine lift_step (always_mono (finishFlow_always
    { created with authSessions := .inr (.inl rfl) } rfl rfl) ?_)
  exact fun e t completed => returns _ e t (ends t completed)

/-- The end of the other services: the result on the auth session, then the SSO session. -/
lemma markThenCreate_always (ends : ∀ s', Completed D tenantId ctx a userId now s s' → Q s')
    (returns : ∀ id e t, Q t → alwaysE (exec D) (k id e) t (fun _ s' => Q s') (fun _ s' => Q s')) :
    alwaysE (exec D) (do
      orLeave (db (.authSessions (.setAuthenticatedUser a.id userId now))) g
      let id ← orLeave (createSsoSession D userId now ctx) f
      let e ← finishFlow D tenantId a userId now
      k id e) s (fun _ s' => Q s') (fun _ s' => Q s') := by
  rw [alwaysE_bind, alwaysE_orLeave]
  refine setAuthenticatedUser_always (fun _ => ⟨nofun, fun _ _ => ends s (.refl s)⟩) ⟨fun _ _ => ?_, nofun⟩
  have marked : Completed D tenantId ctx a userId now s
      { s with authSessions := markAuthenticated D a.id userId now s.authSessions } :=
    ⟨rfl, rfl, rfl, rfl, rfl, .inl rfl, .inr (.inl rfl), .inl rfl⟩
  rw [alwaysE_bind, alwaysE_orLeave]
  refine createSsoSession_always (fun _ => ⟨nofun, fun _ _ => ends _ marked⟩) fun id => ?_
  refine ⟨?_, nofun⟩
  rintro _ ⟨⟩
  refine lift_step (always_mono (finishFlow_always
    { marked with sso := .inr ⟨id, rfl⟩ } rfl rfl) ?_)
  exact fun e t completed => returns _ e t (ends t completed)

end
end

/-! ## The ends of a service on an auth session -/

/-- What a login on an auth session leaves behind. `Pending` and `Done` say what was checked of the
user, whose row is as it is then. -/
inductive SessionEnd (D : Deploy) (tenantId : TenantId) (ctx : RequestContext) (now : DateTime)
    (Pending Done : AuthSession → User → Prop) (s : Store) : Store → Prop where
  /-- Nobody is authenticated. -/
  | refused {s' : Store} (kept : Kept s s') : SessionEnd D tenantId ctx now Pending Done s s'
  /-- The password was right, and something else is still asked for. -/
  | pending {s₁ : Store} {a : AuthSession} {user : User} (same : Same s s₁)
    (session : OnSession D s tenantId now a) (row : user ∈ s₁.users) (evidence : Pending a user) :
    SessionEnd D tenantId ctx now Pending Done s
      { s₁ with
        authSessions := s.authSessions.map fun b => if D.coll b.id = D.coll a.id then
          { b with authenticatedUserId := some user.id, passwordVerifiedAt := some now } else b }
  /-- The user is authenticated. -/
  | done {s₁ s' : Store} {a : AuthSession} {user : User} (same : Same s s₁)
    (session : OnSession D s tenantId now a) (row : user ∈ s₁.users) (evidence : Done a user)
    (completed : Completed D tenantId ctx a user.id now s₁ s') :
    SessionEnd D tenantId ctx now Pending Done s s'

/-- The time a service has read first is the one it works with. -/
lemma clock_run_wp {ε : Type} {k : DateTime → ServiceFlow ε ε} {Q : Store → Prop} {ins : Nat → Input}
    (h : wpE (exec D) (k (ins 0).now) (fun n => ins (n + 1)) s (fun _ s' _ => Q s') (fun _ s' _ => Q s')) :
    Q ((outcome (liftM clockNow >>= k)).run (exec D) ins s).2 := by
  have w : (outcome (liftM clockNow >>= k)).wp (exec D) ins s (fun _ s' _ => Q s') := by
    rw [wp_outcome, wpE_bind, wpE_lift]
    exact h
  exact wp_iff_run.mp w

lemma clock_run {ε : Type} {k : DateTime → ServiceFlow ε ε} {Q : DateTime → Store → Prop}
    (h : ∀ now, alwaysE (exec D) (k now) s (fun _ s' => Q now s') (fun _ s' => Q now s'))
    (ins : Nat → Input) :
    Q (ins 0).now ((outcome (liftM clockNow >>= k)).run (exec D) ins s).2 :=
  clock_run_wp (h (ins 0).now).wpE

/-! ## `LoginService::login` -/

/-- A user of the tenant whose password was right and who may log in: what every login by name with a
mail address gate checks. -/
structure PasswordChecked (D : Deploy) (tenantId : TenantId) (now : DateTime) (password : String)
    (user : User) : Prop extends MayLogin tenantId now user where
  verified : D.verifyPassword password user.passwordHash = .ok true

lemma PasswordChecked.reset {now : DateTime} {password : String} {user row : User}
    (h : PasswordChecked D tenantId now password user) (reset : ResetRow user row) :
    PasswordChecked D tenantId now password row := by
  rcases reset with rfl | rfl
  · exact h
  · exact ⟨⟨h.tenant, rfl, h.active⟩, h.verified⟩

/-- A login names the auth session, with its CSRF token, and the user. -/
structure LoginNames (D : Deploy) (cmd : LoginCommand) (a : AuthSession) (user : User) : Prop where
  session : ∃ sessionId, nonEmpty cmd.authSessionId = some sessionId ∧ D.coll a.id = D.coll sessionId
  csrf : D.loginCsrfToken a.id = cmd.csrfToken
  user : user.isNamed D cmd.username

/-- The second factor or a new password is still asked for. -/
structure LoginPending (D : Deploy) (s : Store) (tenantId : TenantId) (now : DateTime)
    (password : String) (user : User) : Prop extends PasswordChecked D tenantId now password user where
  before : ∃ old ∈ s.users, ResetRow old user
  email : user.emailVerified = true
  pending : user.mustChangePassword = true ∨ s.hasConfirmedTotp user.id = true

/-- Nothing else is asked for. -/
structure LoginDone (D : Deploy) (s : Store) (tenantId : TenantId) (now : DateTime)
    (password : String) (user : User) : Prop extends PasswordChecked D tenantId now password user where
  before : ∃ old ∈ s.users, ResetRow old user
  email : user.emailVerified = true
  unflagged : user.mustChangePassword = false
  totp : s.hasConfirmedTotp user.id = false

lemma leavePending_always {a : AuthSession} {user : User} {now : DateTime} {pending : LoginOutcome}
    {Q : Store → Prop} (fails : Q s)
    (marked : Q { s with authSessions := s.authSessions.map fun b => if D.coll b.id = D.coll a.id then
      { b with authenticatedUserId := some user.id, passwordVerifiedAt := some now } else b }) :
    always (exec D) (leavePending a user now pending) s (fun _ s' => Q s') := by
  simp only [leavePending, op, always_bind, always_db, always_ret, pure_eq]
  refine ⟨fun _ => fails, fun _ => ?_⟩
  simp only [Stmt.exec, AuthSessionStmt.exec, Store.updateAuthSession]
  split_ifs
  · exact fails
  · exact marked

lemma loginChecks_always {cmd : LoginCommand} {now : DateTime} :
    alwaysE (exec D) (loginChecks D tenantId cmd ctx now) s
      (fun x s' => Same s s' ∧ OnSession D s tenantId now x.1 ∧ LoginNames D cmd x.1 x.2 ∧
        ∃ row ∈ s'.users, ResetRow x.2 row ∧
          PasswordChecked D tenantId now cmd.password x.2 ∧ x.2.emailVerified = true ∧ x.2 ∈ s.users)
      (fun _ s' => Kept s s') := by
  unfold loginChecks
  refine found_step (fun _ => Kept.refl s) fun sessionId cookie => ?_
  refine alwaysE_bind_of loadAuthSession_always (fun _ _ h => h) ?_
  rintro a _ ⟨rfl, session, onCookie⟩
  refine ensure_step (fun _ => Kept.refl _) fun csrf => ?_
  refine alwaysE_bind_of findLoginUser_always (fun _ _ h => h) ?_
  rintro user _ ⟨same, mem, may, named, attempts, rfl⟩
  refine alwaysE_bind_of checkLoginPassword_always (fun _ _ h => same.toKept.trans h) ?_
  rintro _ _ ⟨rfl, verified⟩
  refine alwaysE_bind_of (resetLoginFailures_always mem rfl) (fun _ _ h => same.toKept.trans h) ?_
  rintro _ s₂ ⟨same', row, mem', reset⟩
  refine ensure_step (fun _ => (same.trans same').toKept) fun email => ?_
  exact ⟨same.trans same', session, ⟨⟨sessionId, cookie, onCookie⟩, of_decide_eq_true csrf, named⟩,
    row, mem', reset, ⟨may, verified⟩, email, mem⟩

lemma login_end (cmd : LoginCommand) (ins : Nat → Input) :
    SessionEnd D tenantId ctx (ins 0).now
      (fun a user => LoginNames D cmd a user ∧ LoginPending D s tenantId (ins 0).now cmd.password user)
      (fun a user => LoginNames D cmd a user ∧ LoginDone D s tenantId (ins 0).now cmd.password user) s
      ((login D tenantId cmd ctx).run (exec D) ins s).2 := by
  refine clock_run (Q := fun now s' => SessionEnd D tenantId ctx now
      (fun a user => LoginNames D cmd a user ∧ LoginPending D s tenantId now cmd.password user)
      (fun a user => LoginNames D cmd a user ∧ LoginDone D s tenantId now cmd.password user) s s') (fun now => ?_) ins
  refine alwaysE_bind_of loginChecks_always (fun _ _ h => .refused h) ?_
  rintro ⟨a, user⟩ s₁ ⟨same, session, names, row, mem, reset, checked, email, before⟩
  have id : row.id = user.id := by rcases reset with rfl | rfl <;> rfl
  have names : LoginNames D cmd a row := ⟨names.session, names.csrf, by rcases reset with rfl | rfl <;> exact names.user⟩
  have flag : row.mustChangePassword = user.mustChangePassword := by rcases reset with rfl | rfl <;> rfl
  have email' : row.emailVerified = true := by rcases reset with rfl | rfl <;> exact email
  have totp : s₁.hasConfirmedTotp user.id = s.hasConfirmedTotp row.id := by
    rw [Store.hasConfirmedTotp, Store.hasConfirmedTotp, same.totpSecrets, id]
  have pending : (user.mustChangePassword = true ∨ s₁.hasConfirmedTotp user.id = true) →
      ∀ outcome, always (exec D) (leavePending a user now outcome) s₁ (fun _ s' =>
        SessionEnd D tenantId ctx now
          (fun a user => LoginNames D cmd a user ∧ LoginPending D s tenantId now cmd.password user)
          (fun a user => LoginNames D cmd a user ∧ LoginDone D s tenantId now cmd.password user) s s') := by
    intro why outcome
    refine leavePending_always (.refused same.toKept) ?_
    rw [← id, same.sessions]
    exact .pending same session mem ⟨names, checked.reset reset, ⟨user, before, reset⟩, email',
      by rw [flag, ← totp]; exact why⟩
  refine ensureOr_step (fun flagged => pending (.inl (by simpa using flagged)) _) fun unflagged => ?_
  rw [alwaysE_bind, alwaysE_orLeave]
  refine always_mono userHasConfirmedTotp_always ?_
  rintro r s₁ ⟨rfl, reads⟩
  refine ⟨fun b eq => ?_, fun _ _ => .refused same.toKept⟩
  obtain rfl := reads b eq
  refine ensureOr_step (fun has => pending (.inr (by simpa using has)) _) fun none => ?_
  have done : LoginDone D s tenantId now cmd.password row :=
    ⟨checked.reset reset, ⟨user, before, reset⟩, email', by rw [flag]; simpa using unflagged,
      by rw [← totp]; simpa using none⟩
  refine createThenMark_always (fun s' completed => .done same session mem ⟨names, done⟩ (by rwa [id])) ?_
  rintro ssoSessionId (_ | _ | _) t ended <;> exact ended

/-! ## `MfaLoginService::verify` and `ChangePasswordService::change` -/

section
variable {now : DateTime} {expired : ε} {internal : String → ε}

/-- The auth session a cookie names, with its CSRF token, on which the password of the user was
verified. -/
structure PasswordVerified (D : Deploy) (cookie : Option String) (csrfToken : String) (a : AuthSession)
    (userId : Uuid) : Prop where
  named : ∃ sessionId, nonEmpty cookie = some sessionId ∧ D.coll a.id = D.coll sessionId ∧
    D.loginCsrfToken sessionId = csrfToken
  user : a.authenticatedUserId = some userId
  verified : a.passwordVerifiedAt.isSome = true

lemma loadPendingSession_always {authSessionId : Option String} {csrfToken : String}
    {csrfMismatch : ε} :
    alwaysE (exec D)
      (loadPendingSession D tenantId authSessionId csrfToken now expired csrfMismatch internal) s
      (fun x s' => s' = s ∧ OnSession D s tenantId now x.1 ∧
        PasswordVerified D authSessionId csrfToken x.1 x.2)
      (fun _ s' => Kept s s') := by
  unfold loadPendingSession
  refine found_step (fun _ => Kept.refl s) fun sessionId cookie => ?_
  refine alwaysE_bind_of loadAuthSession_always (fun _ _ h => h) ?_
  rintro a s ⟨rfl, session, named⟩
  refine found_step (fun _ => Kept.refl s) fun userId user => ?_
  refine ensure_step (fun _ => Kept.refl s) fun verified => ?_
  refine ensure_step (fun _ => Kept.refl s) fun csrf => ?_
  exact ⟨rfl, session, ⟨sessionId, cookie, named, of_decide_eq_true csrf⟩, user, verified⟩

/-- The code was right for the confirmed secret of the user. -/
def TotpVerified (D : Deploy) (s : Store) (userId : Uuid) (code : String) : Prop :=
  ∃ secret bytes verifiedAt, s.totpSecrets.find? (·.userId = userId) = some secret ∧
    secret.isConfirmed = true ∧ D.decrypt secret.secretEncrypted = .ok bytes ∧
    D.verifyTotpCode verifiedAt bytes code = .ok true

lemma checkTotpCode_always {userId : Uuid} {code : String} {invalidCode : ε} :
    alwaysE (exec D) (checkTotpCode D userId code expired invalidCode internal) s
      (fun _ s' => s' = s ∧ TotpVerified D s userId code) (fun _ s' => Kept s s') := by
  unfold checkTotpCode
  refine read_step (fun _ => rfl) (fun _ => Kept.refl s) fun _ => ?_
  refine found_step (fun _ => Kept.refl s) fun secret row => ?_
  obtain ⟨row, confirmed⟩ := Option.filter_eq_some_iff.mp row
  refine orThrow_step (fun _ _ => Kept.refl s) fun bytes decrypted => ?_
  rw [alwaysE_bind, alwaysE_orLeave]
  intro i
  refine ⟨fun valid eq => ?_, fun _ _ => Kept.refl s⟩
  rw [alwaysE_ensure]
  refine ⟨?_, fun _ => Kept.refl s⟩
  rintro rfl
  exact ⟨rfl, secret, bytes, i.now, row, confirmed, decrypted, eq⟩

end

/-- The second factor was right, for an active user. -/
structure MfaDone (D : Deploy) (s : Store) (cmd : MfaLoginCommand) (a : AuthSession) (user : User) :
    Prop where
  session : PasswordVerified D cmd.authSessionId cmd.csrfToken a user.id
  row : user ∈ s.users
  active : user.isActive = true
  totp : TotpVerified D s user.id cmd.totpCode

lemma mfaVerify_end (cmd : MfaLoginCommand) (ins : Nat → Input) :
    SessionEnd D tenantId ctx (ins 0).now (fun _ _ => False) (MfaDone D s cmd) s
      ((mfaVerify D tenantId cmd ctx).run (exec D) ins s).2 := by
  refine clock_run (Q := fun now s' => SessionEnd D tenantId ctx now (fun _ _ => False)
    (MfaDone D s cmd) s s') (fun now => ?_) ins
  refine alwaysE_bind_of loadPendingSession_always (fun _ _ h => .refused h) ?_
  rintro ⟨a, userId⟩ s ⟨rfl, session, verified⟩
  refine read_step (fun _ => rfl) (fun _ => .refused (Kept.refl s)) fun _ => ?_
  refine found_step (fun _ => .refused (Kept.refl s)) fun user row => ?_
  obtain rfl : user.id = userId := by simpa using List.find?_some row
  refine ensure_step (fun _ => .refused (Kept.refl s)) fun active => ?_
  refine alwaysE_bind_of checkTotpCode_always (fun _ _ h => .refused h) ?_
  rintro _ s ⟨rfl, totp⟩
  refine markThenCreate_always (fun s' completed => .done (Same.refl s) session
    (List.mem_of_find?_eq_some row) ⟨verified, List.mem_of_find?_eq_some row, active, totp⟩
    completed) ?_
  rintro ssoSessionId (_ | _ | _) t ended <;> exact ended

/-- The row of a user with a new password. -/
def User.withPassword (u : User) (hash : String) : User :=
  { u with passwordHash := hash, mustChangePassword := false }

lemma Same.withPassword (s : Store) (id : Uuid) (hash : String) :
    Same s (s.updateUser id (·.withPassword hash)) :=
  Same.updateUser s id fun _ => rfl

lemma withPassword_mem {user : User} (mem : user ∈ s.users) (hash : String) :
    user.withPassword hash ∈ (s.updateUser user.id (·.withPassword hash)).users :=
  List.mem_map.mpr ⟨user, mem, if_pos rfl⟩

/-- A user who had to change the password has done so, having given the old one. -/
def ChangeDone (D : Deploy) (s : Store) (cmd : ChangePasswordCommand) (a : AuthSession) (user : User) :
    Prop :=
  PasswordVerified D cmd.authSessionId cmd.csrfToken a user.id ∧
    isStrongPassword cmd.newPassword = true ∧ ∃ old ∈ s.users, old.isActive = true ∧
    old.mustChangePassword = true ∧
    D.verifyPassword cmd.currentPassword old.passwordHash = .ok true ∧
    ∃ hash, user = old.withPassword hash

lemma changePassword_end (cmd : ChangePasswordCommand) (ins : Nat → Input) :
    SessionEnd D tenantId ctx (ins 0).now (fun _ _ => False) (ChangeDone D s cmd) s
      ((changePassword D tenantId cmd ctx).run (exec D) ins s).2 := by
  refine clock_run (Q := fun now s' => SessionEnd D tenantId ctx now (fun _ _ => False)
    (ChangeDone D s cmd) s s') (fun now => ?_) ins
  refine alwaysE_bind_of loadPendingSession_always (fun _ _ h => .refused h) ?_
  rintro ⟨a, userId⟩ s ⟨rfl, session, verified⟩
  have refused : SessionEnd D tenantId ctx now (fun _ _ => False)
    (ChangeDone D s cmd) s s := .refused (Kept.refl s)
  refine read_step (fun _ => rfl) (fun _ => refused) fun _ => ?_
  refine found_step (fun _ => refused) fun old row => ?_
  obtain rfl : old.id = userId := by simpa using List.find?_some row
  have mem := List.mem_of_find?_eq_some row
  refine ensure_step (fun _ => refused) fun may => ?_
  refine orThrow_step (fun _ _ => refused) fun _ right => ?_
  refine ensure_step (fun _ => refused) ?_
  rintro rfl
  refine ensure_step (fun _ => refused) fun strong => ?_
  rw [alwaysE_bind, alwaysE_orLeave]
  intro draw
  refine ⟨fun hash _ => ?_, fun _ _ => refused⟩
  refine write_step (fun _ => refused) (fun _ _ _ h => by simp [Stmt.exec, UserStmt.exec] at h) ?_
  rintro _ _ s₁ updated
  obtain rfl : s.updateUser old.id (·.withPassword hash) = s₁ := congrArg Prod.snd updated
  rw [Bool.and_eq_true] at may
  have done : ChangeDone D s cmd a (old.withPassword hash) :=
    ⟨verified, strong, old, mem, may.1, may.2, right, hash, rfl⟩
  refine markThenCreate_always (fun s' completed => .done (Same.withPassword s old.id hash) session
    (withPassword_mem mem hash) done completed) ?_
  rintro ssoSessionId (_ | _ | _) t ended <;> exact ended

/-! ## `PasskeyAuthenticationService::complete` -/

/-- An assertion for a stored challenge was right for a registered credential. -/
def AssertionVerified (D : Deploy) (s : Store) (challengeId : Uuid) (credentialValue : String)
    (challenge : PasskeyChallenge) (stored : WebAuthnCredential) : Prop :=
  s.passkeyChallenges.find? (·.id = challengeId) = some challenge ∧ stored ∈ s.webauthnCredentials ∧
    ∃ authState credential passkey result, D.parseAuthState challenge.stateJson = .ok authState ∧
      D.parseCredential credentialValue = .ok credential ∧
      D.coll stored.credentialId = D.coll credential.id ∧ D.parsePasskey stored.passkeyJson = .ok passkey ∧
      D.finishAuthentication credential authState passkey = .ok result

/-- The store with other passkey tables. -/
def Store.withPasskeys (s : Store) (challenges : List PasskeyChallenge)
    (credentials : List WebAuthnCredential) : Store :=
  { s with passkeyChallenges := challenges, webauthnCredentials := credentials }

lemma Same.withPasskeys (s : Store) (challenges : List PasskeyChallenge)
    (credentials : List WebAuthnCredential) : Same s (s.withPasskeys challenges credentials) :=
  ⟨⟨rfl, .refl _, rfl, rfl, rfl, rfl, rfl, rfl⟩, rfl⟩

/-- The answer lets nobody in. -/
def PasskeyAuthOutcome.isRefusal : PasskeyAuthOutcome → Bool
  | success _ _ | consentRequired _ _ => false
  | _ => true

lemma verifyAssertion_always {challengeId : Uuid} {credentialValue : String} {now : DateTime} :
    alwaysE (exec D) (verifyAssertion D challengeId credentialValue now) s
      (fun x s' => (∃ challenges credentials, s' = s.withPasskeys challenges credentials) ∧
        AssertionVerified D s challengeId credentialValue x.1 x.2)
      (fun e s' => e.isRefusal = true ∧ Same s s') := by
  unfold verifyAssertion
  refine read_step (fun _ => rfl) (fun _ => ⟨rfl, Same.refl s⟩) fun _ => ?_
  refine found_step (fun _ => ⟨rfl, Same.refl s⟩) fun challenge presented => ?_
  have deleted : ∀ rows, Same s (s.withPasskeys rows s.webauthnCredentials) :=
    fun rows => Same.withPasskeys s rows _
  refine ensureOr_step (fun _ => ?_) fun _ => ?_
  · simp only [op, always_bind, always_db, pure_eq, always_ret, Stmt.exec, PasskeyStmt.exec]
    exact ⟨fun _ => ⟨rfl, Same.refl s⟩, fun _ => ⟨rfl, deleted _⟩⟩
  refine write_step (fun _ => ⟨rfl, Same.refl s⟩) (fun _ _ _ h => by simp [Stmt.exec, PasskeyStmt.exec] at h) ?_
  rintro _ _ s₁ written
  obtain rfl : s.withPasskeys (s.passkeyChallenges.filter (·.id ≠ challengeId)) s.webauthnCredentials =
    s₁ := congrArg Prod.snd written
  refine orThrow_step (fun _ _ => ⟨rfl, deleted _⟩) fun authState parsed => ?_
  refine orThrow_step (fun _ _ => ⟨rfl, deleted _⟩) fun credential given => ?_
  refine read_step (fun _ => rfl) (fun _ => ⟨rfl, deleted _⟩) fun _ => ?_
  refine found_step (fun _ => ⟨rfl, deleted _⟩) fun stored row => ?_
  have registered : D.coll stored.credentialId = D.coll credential.id := by
    simpa using List.find?_some row
  refine orThrow_step (fun _ _ => ⟨rfl, deleted _⟩) fun passkey known => ?_
  refine orThrow_step (fun _ _ => ⟨rfl, deleted _⟩) fun result right => ?_
  have verified : AssertionVerified D s challengeId credentialValue challenge stored :=
    ⟨presented, List.mem_of_find?_eq_some row, authState, credential, passkey, result, parsed, given,
      registered, known, right⟩
  split
  · exact ⟨⟨_, _, rfl⟩, verified⟩
  · refine orThrow_step (fun _ _ => ⟨rfl, deleted _⟩) fun json _ => ?_
    refine write_step (fun _ => ⟨rfl, deleted _⟩) (fun _ _ _ h => by simp [Stmt.exec, PasskeyStmt.exec] at h) ?_
    rintro _ _ s₂ written
    obtain rfl := congrArg Prod.snd written
    exact ⟨⟨_, _, rfl⟩, verified⟩

lemma ensureActiveMember_always {userId : Uuid} :
    alwaysE (exec D) (ensureActiveMember tenantId userId) s
      (fun _ s' => s' = s ∧ ∃ user ∈ s.users, user.id = userId ∧ user.isActive = true ∧
        s.isActiveMember tenantId user.id = true)
      (fun e s' => e.isRefusal = true ∧ s' = s) := by
  unfold ensureActiveMember
  refine read_step (fun _ => rfl) (fun _ => ⟨rfl, rfl⟩) fun _ => ?_
  refine ensure_step (fun _ => ⟨rfl, rfl⟩) fun active => ?_
  obtain ⟨user, row, active⟩ := (Option.any_eq_true _ _).mp active
  have id : user.id = userId := by simpa using List.find?_some row
  refine read_step (fun _ => rfl) (fun _ => ⟨rfl, rfl⟩) fun _ => ?_
  rw [alwaysE_ensure]
  exact ⟨fun member => ⟨rfl, user, List.mem_of_find?_eq_some row, id, active, id ▸ member⟩,
    fun _ => ⟨rfl, rfl⟩⟩

/-- A passkey of an active user who is a member of the tenant was right, on the session its challenge
was made for. -/
structure PasskeyDone (D : Deploy) (s : Store) (tenantId : TenantId) (challengeId : Uuid)
    (credentialValue : String) (a : AuthSession) (user : User) : Prop where
  row : user ∈ s.users
  active : user.isActive = true
  member : s.isActiveMember tenantId user.id = true
  assertion : ∃ challenge stored, AssertionVerified D s challengeId credentialValue challenge stored ∧
    stored.userId = user.id ∧ challenge.authSessionId.map D.coll = some (D.coll a.id)

lemma passkeyComplete_end (challengeId : Uuid) (credentialValue : String) (ins : Nat → Input) :
    SessionEnd D tenantId ctx (ins 0).now (fun _ _ => False)
      (PasskeyDone D s tenantId challengeId credentialValue) s
      ((passkeyComplete D tenantId challengeId credentialValue ctx).run (exec D) ins s).2 := by
  refine clock_run (Q := fun now s' => SessionEnd D tenantId ctx now (fun _ _ => False)
    (PasskeyDone D s tenantId challengeId credentialValue) s s') (fun now => ?_) ins
  refine alwaysE_bind_of verifyAssertion_always (fun _ _ h => .refused h.2.toKept) ?_
  rintro ⟨challenge, stored⟩ _ ⟨⟨challenges, credentials, rfl⟩, verified⟩
  have same := Same.withPasskeys s challenges credentials
  have refused : SessionEnd D tenantId ctx now (fun _ _ => False)
      (PasskeyDone D s tenantId challengeId credentialValue) s
      (s.withPasskeys challenges credentials) := .refused same.toKept
  refine alwaysE_bind_of ensureActiveMember_always (fun _ _ h => h.2 ▸ refused) ?_
  rintro _ _ ⟨rfl, user, mem, id, active, member⟩
  refine found_step (fun _ => refused) fun authSessionId of => ?_
  refine alwaysE_bind_of loadAuthSession_always (fun _ _ h => .refused (same.toKept.trans h)) ?_
  rintro a s₁ ⟨rfl, session, named⟩
  have done : PasskeyDone D s tenantId challengeId credentialValue a user :=
    ⟨mem, active, member, challenge, stored, verified, id.symm, by rw [of, named]; rfl⟩
  refine markThenCreate_always (fun s' completed => .done same
    ⟨session.mem, session.tenant, session.unexpired⟩ mem done (id ▸ completed)) ?_
  rintro ssoSessionId (_ | _ | _) t ended <;> exact ended

/-! ## `ConsentService` -/

/-- What `approve` leaves behind; it may have failed in between. -/
inductive ApproveEnd (D : Deploy) (tenantId : TenantId) (authSessionId : String) (now : DateTime)
    (s : Store) : Store → Prop where
  | refused {s' : Store} (kept : Kept s s') : ApproveEnd D tenantId authSessionId now s s'
  /-- The consent is stored. -/
  | consented {a : AuthSession} {userId : Uuid} {authTime : DateTime} {rows : List ClientConsent}
    (session : OnSession D s tenantId now a) (named : D.coll a.id = D.coll authSessionId)
    (user : a.authenticatedUserId = some userId) (time : a.authTime = some authTime) :
    ApproveEnd D tenantId authSessionId now s { s with consents := rows }
  /-- The code is issued, and the session deleted or not. -/
  | issued {a : AuthSession} {userId : Uuid} {authTime issuedAt : DateTime} {code : String}
    {rows : List ClientConsent} {sessions : List AuthSession}
    (session : OnSession D s tenantId now a) (named : D.coll a.id = D.coll authSessionId)
    (user : a.authenticatedUserId = some userId) (time : a.authTime = some authTime)
    (left : sessions = s.authSessions ∨ sessions = dropSession D a.id s.authSessions) :
    ApproveEnd D tenantId authSessionId now s
      { s with
        consents := rows
        codes := s.codes ++ [(a.issueCommand tenantId userId authTime).record D code issuedAt]
        authSessions := sessions }

lemma approve_end (authSessionId : String) (ins : Nat → Input) :
    ApproveEnd D tenantId authSessionId (ins 0).now s
      ((approve D tenantId authSessionId).run (exec D) ins s).2 := by
  refine clock_run (Q := fun now s' => ApproveEnd D tenantId authSessionId now s s') (fun now => ?_) ins
  refine alwaysE_bind_of loadAuthSession_always (fun _ _ h => .refused h) ?_
  rintro a s ⟨rfl, session, named⟩
  refine found_step (fun _ => .refused (Kept.refl s)) fun userId user => ?_
  refine found_step (fun _ => .refused (Kept.refl s)) fun authTime time => ?_
  have upserted : ∀ {q : ConsentStmt} {r s'}, Stmt.exec D now s (.consents q) = (r, s') →
      ∃ rows, s' = { s with consents := rows } :=
    fun {q r s'} written => ⟨_, (congrArg Prod.snd written).symm.trans (q.exec_store s)⟩
  refine write_step (fun _ => .refused (Kept.refl s)) ?_ ?_
  · intro _ e s' fails
    obtain ⟨rows, rfl⟩ := upserted fails
    exact .consented session named user time
  · intro _ _ s' written
    obtain ⟨rows, rfl⟩ := upserted written
    rw [alwaysE_bind, alwaysE_orLeave]
    refine issueCode_always (fun _ => ⟨nofun, fun _ _ => .consented session named user time⟩) fun code at' => ?_
    refine ⟨fun _ _ => ?_, nofun⟩
    refine lift_step ?_
    simp only [op, always_db, always_ret, Stmt.exec, AuthSessionStmt.exec, alwaysE_pure]
    exact ⟨fun _ => .issued session named user time (.inl rfl), fun _ => .issued session named user time (.inr rfl)⟩

lemma deny_end (authSessionId : String) (ins : Nat → Input) :
    Kept s ((deny D tenantId authSessionId).run (exec D) ins s).2 := by
  refine clock_run (Q := fun _ s' => Kept s s') (fun now => ?_) ins
  refine alwaysE_bind_of loadAuthSession_always (fun _ _ h => h) ?_
  rintro a s ⟨rfl, session, -⟩
  refine lift_step ?_
  simp only [op, always_db, always_ret, Stmt.exec, AuthSessionStmt.exec, alwaysE_pure]
  exact ⟨fun _ => Kept.refl s, fun _ => Kept.deleteSession s _⟩

/-! ## The portal and the admin console -/

/-- What a login without an auth session leaves behind. -/
inductive DirectEnd (D : Deploy) (ctx : RequestContext) (now : DateTime) (Done : User → Prop) (s : Store) :
    Store → Prop where
  | refused {s' : Store} (kept : Kept s s') : DirectEnd D ctx now Done s s'
  | created {s₁ : Store} {user : User} {id : String} (same : Same s s₁) (row : user ∈ s₁.users)
    (evidence : Done user) :
    DirectEnd D ctx now Done s
      { s₁ with ssoSessions := s₁.ssoSessions ++ [ssoSessionFor D id user.id now ctx] }

section
variable {now : DateTime} {Done : User → Prop}

/-- The SSO session at the end of such a login. -/
lemma createSso_end {s₁ : Store} {user : User} {f : DomainError → ε} {k : String → ServiceFlow ε ε}
    (same : Same s s₁) (row : user ∈ s₁.users) (evidence : Done user)
    (returns : ∀ id t, DirectEnd D ctx now Done s t →
      alwaysE (exec D) (k id) t (fun _ s' => DirectEnd D ctx now Done s s')
        (fun _ s' => DirectEnd D ctx now Done s s')) :
    alwaysE (exec D) (do
      let id ← orLeave (createSsoSession D user.id now ctx) f
      k id) s₁ (fun _ s' => DirectEnd D ctx now Done s s') (fun _ s' => DirectEnd D ctx now Done s s') := by
  rw [alwaysE_bind, alwaysE_orLeave]
  refine createSsoSession_always (fun _ => ⟨nofun, fun _ _ => .refused same.toKept⟩) fun id => ?_
  exact ⟨fun _ _ => returns _ _ (.created same row evidence), nofun⟩

lemma storeNewPassword_always {user : User} {newPassword : String} {weak : ε} {internal : String → ε}
    (mem : user ∈ s.users) :
    alwaysE (exec D) (storeNewPassword user newPassword weak internal) s
      (fun _ s' => Same s s' ∧ isStrongPassword newPassword = true ∧
        ∃ hash, user.withPassword hash ∈ s'.users)
      (fun _ s' => Kept s s') := by
  unfold storeNewPassword
  refine ensure_step (fun _ => Kept.refl s) fun strong => ?_
  rw [alwaysE_bind, alwaysE_orLeave]
  intro draw
  refine ⟨fun hash _ => ?_, fun _ _ => Kept.refl s⟩
  simp only [alwaysE_orLeave, op, always_db, always_ret]
  refine ⟨fun _ => ⟨by rintro _ ⟨⟩, fun _ _ => Kept.refl s⟩, fun _ => ⟨fun _ _ => ?_, by rintro _ ⟨⟩⟩⟩
  exact ⟨Same.withPassword s user.id hash, strong, hash, withPassword_mem mem hash⟩

lemma portalLogin_end (cmd : PortalLoginCommand) (ins : Nat → Input) :
    DirectEnd D ctx (ins 0).now (LoginDone D s tenantId (ins 0).now cmd.password) s
      ((portalLogin D tenantId cmd ctx).run (exec D) ins s).2 := by
  refine clock_run (Q := fun now s' => DirectEnd D ctx now (LoginDone D s tenantId now cmd.password) s s')
    (fun now => ?_) ins
  refine alwaysE_bind_of findLoginUser_always (fun _ _ h => .refused h) ?_
  rintro user _ ⟨same, mem, may, -, attempts, rfl⟩
  refine alwaysE_bind_of checkLoginPassword_always (fun _ _ h => .refused (same.toKept.trans h)) ?_
  rintro _ _ ⟨rfl, verified⟩
  refine alwaysE_bind_of (resetLoginFailures_always mem rfl) (fun _ _ h => .refused (same.toKept.trans h)) ?_
  rintro _ s₂ ⟨same', row, mem', reset⟩
  have same := same.trans same'
  have id : row.id = user.id := by rcases reset with rfl | rfl <;> rfl
  refine ensure_step (fun _ => .refused same.toKept) fun email => ?_
  refine ensure_step (fun _ => .refused same.toKept) fun unflagged => ?_
  rw [alwaysE_bind, alwaysE_orLeave]
  refine always_mono userHasConfirmedTotp_always ?_
  rintro r s₂ ⟨rfl, reads⟩
  refine ⟨fun b eq => ?_, fun _ _ => .refused same.toKept⟩
  obtain rfl := reads b eq
  refine ensure_step (fun _ => .refused same.toKept) fun none => ?_
  have done : LoginDone D s tenantId now cmd.password row := by
    refine ⟨PasswordChecked.reset ⟨may, verified⟩ reset, ⟨user, mem, reset⟩, ?_, ?_, ?_⟩
    · rcases reset with rfl | rfl <;> exact email
    · rcases reset with rfl | rfl <;> simpa using unflagged
    · rw [Store.hasConfirmedTotp, ← same.totpSecrets, id]
      simpa [Store.hasConfirmedTotp] using none
  rw [← id]
  exact createSso_end same mem' done fun _ _ ended => ended

/-- A user who had to change the password has done so, having given the old one by name. -/
def ChangedByName (D : Deploy) (s : Store) (tenantId : TenantId) (now : DateTime)
    (username password : String) (user : User) : Prop :=
  ∃ old ∈ s.users, ∃ hash, PasswordChecked D tenantId now password old ∧ old.isNamed D username ∧
    old.mustChangePassword = true ∧ ResetRow (old.withPassword hash) user

/-- After the change: the account is active, not locked and not flagged. -/
lemma ChangedByName.may {username password : String} {user : User}
    (h : ChangedByName D s tenantId now username password user) :
    MayLogin tenantId now user ∧ user.isNamed D username ∧ user.mustChangePassword = false := by
  obtain ⟨old, -, hash, checked, named, -, rfl | rfl⟩ := h
  · exact ⟨⟨checked.tenant, checked.unlocked, checked.active⟩, named, rfl⟩
  · exact ⟨⟨checked.tenant, rfl, checked.active⟩, named, rfl⟩

/-- The portal also asks for the mail address and, if there is one, for the second factor. -/
structure PortalChangeDone (D : Deploy) (s : Store) (tenantId : TenantId) (now : DateTime)
    (username password : String) (user : User) : Prop where
  changed : ChangedByName D s tenantId now username password user
  email : user.emailVerified = true
  totp : s.hasConfirmedTotp user.id = false

lemma portalChangePassword_end (cmd : PortalChangePasswordCommand) (ins : Nat → Input) :
    DirectEnd D ctx (ins 0).now (PortalChangeDone D s tenantId (ins 0).now cmd.username cmd.currentPassword) s
      ((portalChangePassword D tenantId cmd ctx).run (exec D) ins s).2 := by
  refine clock_run (Q := fun now s' => DirectEnd D ctx now
    (PortalChangeDone D s tenantId now cmd.username cmd.currentPassword) s s') (fun now => ?_) ins
  refine alwaysE_bind_of findLoginUser_always (fun _ _ h => .refused h) ?_
  rintro old _ ⟨same, mem, may, named, attempts, rfl⟩
  refine ensure_step (fun _ => .refused same.toKept) fun flagged => ?_
  refine alwaysE_bind_of checkLoginPassword_always (fun _ _ h => .refused (same.toKept.trans h)) ?_
  rintro _ _ ⟨rfl, verified⟩
  refine ensure_step (fun _ => .refused same.toKept) fun email => ?_
  have before : old ∈ s.users := mem
  refine alwaysE_bind_of (storeNewPassword_always mem) (fun _ _ h => .refused (same.toKept.trans h)) ?_
  rintro _ s₂ ⟨same', -, hash, mem⟩
  have same := same.trans same'
  refine alwaysE_bind_of (resetLoginFailures_always mem rfl)
    (fun _ _ h => .refused (same.toKept.trans h)) ?_
  rintro _ s₃ ⟨same', row, mem, reset⟩
  have same := same.trans same'
  have id : row.id = old.id := by rcases reset with rfl | rfl <;> rfl
  have email' : row.emailVerified = old.emailVerified := by rcases reset with rfl | rfl <;> rfl
  rw [alwaysE_bind, alwaysE_orLeave]
  refine always_mono userHasConfirmedTotp_always ?_
  rintro r s₃ ⟨rfl, reads⟩
  refine ⟨fun b eq => ?_, fun _ _ => .refused same.toKept⟩
  obtain rfl := reads b eq
  refine ensure_step (fun _ => .refused same.toKept) fun none => ?_
  have done : PortalChangeDone D s tenantId now cmd.username cmd.currentPassword row := by
    refine ⟨⟨old, before, hash, ⟨may, verified⟩, named, flagged, reset⟩, email'.trans email, ?_⟩
    rw [Store.hasConfirmedTotp, ← same.totpSecrets, id]
    simpa [Store.hasConfirmedTotp] using none
  rw [← id]
  exact createSso_end same mem done fun _ _ ended => ended

/-- The ticket and the second factor were right, for an active user who is not locked. -/
structure PortalMfaDone (D : Deploy) (s : Store) (tenantId : TenantId) (now : DateTime)
    (cmd : PortalMfaCommand) (user : User) : Prop where
  row : user ∈ s.users
  ticket : verifyTicket D tenantId cmd.mfaTicket (DateTime.timestamp now) = some user.id
  unlocked : user.isLockedAt now = false
  active : user.isActive = true
  totp : TotpVerified D s user.id cmd.totpCode

lemma portalVerifyMfa_end (cmd : PortalMfaCommand) (ins : Nat → Input) :
    DirectEnd D ctx (ins 0).now (PortalMfaDone D s tenantId (ins 0).now cmd) s
      ((portalVerifyMfa D tenantId cmd ctx).run (exec D) ins s).2 := by
  refine clock_run (Q := fun now s' => DirectEnd D ctx now (PortalMfaDone D s tenantId now cmd) s s')
    (fun now => ?_) ins
  refine alwaysE_bind_of rateLimitAddress_always (fun _ _ h => .refused h) ?_
  rintro _ _ ⟨attempts, rfl⟩
  have same := Same.attempts s attempts
  refine found_step (fun _ => .refused same.toKept) fun userId ticket => ?_
  refine read_step (fun _ => rfl) (fun _ => .refused same.toKept) fun _ => ?_
  refine found_step (fun _ => .refused same.toKept) fun user row => ?_
  obtain rfl : user.id = userId := by simpa using List.find?_some row
  refine ensure_step (fun _ => .refused same.toKept) fun may => ?_
  rw [Bool.and_eq_true] at may
  refine alwaysE_bind_of checkTotpCode_always (fun _ _ h => .refused (same.toKept.trans h)) ?_
  rintro _ _ ⟨rfl, totp⟩
  have done : PortalMfaDone D s tenantId now cmd user := ⟨List.mem_of_find?_eq_some row, ticket, by simpa using may.1, may.2, totp⟩
  exact createSso_end same done.row done fun _ _ ended => ended

/-! The admin console reads the permission through the cache. -/

/-- A lookup of the permission may answer that it is held: the row is there, or at a time of these inputs the cache
says so. -/
def Store.answersHeld (D : Deploy) (s : Store) (ins : Nat → Input) (key : PermissionKey) : Prop :=
  s.hasPermission D key.tenantId key.userId key.code = true ∨
    ∃ e ∈ s.permissionCache, e.key = key ∧ e.value = true ∧ ∃ n, e.expiresAt > (ins n).now

/-- Lookups since `s`: nothing but the cache is changed, and what it says to be held it said before, or a row says. -/
def LookedUp (D : Deploy) (s s' : Store) : Prop :=
  ∃ entries, s' = { s with permissionCache := entries } ∧
    ∀ e ∈ entries, e.value = true →
      s.hasPermission D e.key.tenantId e.key.userId e.key.code = true ∨ e ∈ s.permissionCache

lemma LookedUp.refl (s : Store) : LookedUp D s s :=
  ⟨s.permissionCache, rfl, fun _ mem _ => .inr mem⟩

/-- Inputs that are among others answer no more than these. -/
lemma Store.answersHeld.later {ins ins' : Nat → Input} {key : PermissionKey} (h : s.answersHeld D ins' key)
    (among : ∀ n, ∃ m, ins' n = ins m) : s.answersHeld D ins key := by
  refine h.imp_right ?_
  rintro ⟨e, mem, same, held, n, live⟩
  obtain ⟨m, eq⟩ := among n
  exact ⟨e, mem, same, held, m, eq ▸ live⟩

/-- A lookup after a miss of the cache. -/
def lookupMiss (key : PermissionKey) : Service (DbResult Bool) := do
  match ← db (.permissions (.hasPermission key.tenantId key.userId key.code)) with
  | .error e => return .error e
  | .ok held =>
    cacheInsert key held
    return .ok held

lemma hasPermission_eq (key : PermissionKey) :
    userPermissions.hasPermission key.tenantId key.userId key.code = (do
      match ← cacheGet key with
      | some hit => return .ok hit
      | none => lookupMiss key) := by
  refine congrArg (Prog.call (Op.cacheGet key)) (funext ?_)
  rintro (_ | hit)
  · refine congrArg (Prog.call _) (funext ?_)
    rintro (e | held) <;> rfl
  · rfl

lemma lookupMiss_always {key : PermissionKey} (before : LookedUp D s s') :
    always (exec D) (lookupMiss key) s' (fun r s'' =>
      LookedUp D s s'' ∧ (r = .ok true → s.hasPermission D key.tenantId key.userId key.code = true)) := by
  obtain ⟨entries, rfl, cached⟩ := before
  simp only [lookupMiss, op, always_bind, always_db, Stmt.exec, PermissionStmt.exec]
  refine ⟨fun _ => ⟨⟨entries, rfl, cached⟩, by rintro ⟨⟩⟩, fun _ j => ⟨⟨_, rfl, ?_⟩, ?_⟩⟩
  · intro e mem held
    rcases List.mem_append.mp mem with mem | mem
    · exact cached e (List.mem_filter.mp mem).1 held
    · obtain rfl := List.mem_singleton.mp mem
      exact .inl held
  · exact fun answer => Except.ok.inj answer

lemma hasPermission_wp (key : PermissionKey) (ins : Nat → Input) (before : LookedUp D s s') :
    (userPermissions.hasPermission key.tenantId key.userId key.code).wp (exec D) ins s' (fun r s'' _ =>
      LookedUp D s s'' ∧ (r = .ok true → s.answersHeld D ins key)) := by
  have missed : ∀ {t : Store} {ins' : Nat → Input}, LookedUp D s t →
      (lookupMiss key).wp (exec D) ins' t (fun r s'' _ =>
        LookedUp D s s'' ∧ (r = .ok true → s.answersHeld D ins key)) :=
    fun before => wp_mono (lookupMiss_always before).wp fun _ _ _ after =>
      ⟨after.1, fun held => .inl (after.2 held)⟩
  rw [hasPermission_eq, wp_bind]
  cases row : s'.cached key with
  | none =>
    simp only [cacheGet, op, wp_call, exec, Store.cacheGet, row, wp_ret]
    exact missed before
  | some entry =>
    obtain ⟨entries, rfl, cached⟩ := before
    by_cases unexpired : entry.expiresAt > (ins 0).now
    · simp only [cacheGet, op, wp_call, exec, Store.cacheGet, row, if_pos unexpired, wp_ret]
      refine ⟨⟨entries, rfl, cached⟩, fun answer => ?_⟩
      have found : entry.key = key := by simpa using List.find?_some row
      have held : entry.value = true := Except.ok.inj answer
      refine (cached entry (List.mem_of_find?_eq_some row) held).imp (fun row => found ▸ row) fun mem => ?_
      exact ⟨entry, mem, found, held, 0, unexpired⟩
    · simp only [cacheGet, op, wp_call, exec, Store.cacheGet, row, if_neg unexpired, wp_ret]
      exact missed ⟨_, rfl, fun e mem => cached e (List.mem_filter.mp mem).1⟩

/-- The user may be answered to hold a permission that opens the admin console. -/
def Store.answersAdmin (D : Deploy) (s : Store) (ins : Nat → Input) (tenantId : TenantId) (userId : Uuid) : Prop :=
  ∃ code ∈ adminPermissions, s.answersHeld D ins ⟨tenantId, userId, code⟩

lemma Store.answersAdmin.later {ins ins' : Nat → Input} {userId : Uuid} (h : s.answersAdmin D ins' tenantId userId)
    (among : ∀ n, ∃ m, ins' n = ins m) : s.answersAdmin D ins tenantId userId := by
  obtain ⟨code, mem, held⟩ := h
  exact ⟨code, mem, held.later among⟩

lemma hasAnyPermission_wp {userId : Uuid} (codes : List String) (ins : Nat → Input) (before : LookedUp D s s') :
    (userPermissions.hasAnyPermission tenantId userId codes).wp (exec D) ins s' (fun r s'' _ =>
      LookedUp D s s'' ∧ (r = .ok true →
        ∃ code ∈ codes, s.answersHeld D ins ⟨tenantId, userId, code⟩)) := by
  induction codes generalizing s' ins with
  | nil => exact ⟨before, by rintro ⟨⟩⟩
  | cons code codes ih =>
    rw [UserPermissionRepository.hasAnyPermission, wp_bind]
    refine wp_mono (hasPermission_wp ⟨tenantId, userId, code⟩ ins before) ?_
    rintro (e | _ | _) s'' tr ⟨after, held⟩
    · exact ⟨after, by rintro ⟨⟩⟩
    · refine wp_mono (ih _ after) ?_
      rintro r s₃ _ ⟨after, held⟩
      refine ⟨after, fun answer => ?_⟩
      obtain ⟨code, mem, held⟩ := held answer
      exact ⟨code, List.mem_cons_of_mem _ mem, held.later fun n => ⟨_, rfl⟩⟩
    · exact ⟨after, fun _ => ⟨code, List.mem_cons_self, held rfl⟩⟩

lemma checkAdminPermission_wp {userId : Uuid} (ins : Nat → Input) :
    wpE (exec D) (checkAdminPermission tenantId userId) ins s
      (fun _ s' _ => (∃ entries, s' = { s with permissionCache := entries }) ∧
        s.answersAdmin D ins tenantId userId)
      (fun _ s' _ => ∃ entries, s' = { s with permissionCache := entries }) := by
  unfold checkAdminPermission
  rw [wpE_bind, wpE_orLeave]
  refine wp_mono (hasAnyPermission_wp adminPermissions ins (LookedUp.refl s)) ?_
  rintro (e | held) s' _ ⟨⟨entries, rfl, -⟩, answers⟩
  · exact ⟨entries, rfl⟩
  · dsimp only
    rw [wpE_ensure]
    refine ⟨?_, fun _ => ⟨entries, rfl⟩⟩
    rintro rfl
    exact ⟨⟨entries, rfl⟩, answers rfl⟩

lemma Same.cache (s : Store) (entries : List PermissionEntry) :
    Same s { s with permissionCache := entries } := ⟨⟨rfl, .refl _, rfl, rfl, rfl, rfl, rfl, rfl⟩, rfl⟩

/-- The permission is asked for once the password was right. -/
lemma checkAdminPermission_then {α : Type} {userId : Uuid} {f : Unit → ServiceFlow AdminLoginOutcome α}
    {E : AdminLoginOutcome → Store → Prop} {Q : α → Store → Prop} (ins : Nat → Input) {ins' : Nat → Input}
    (among : ∀ n, ∃ m, ins' n = ins m) (leave : ∀ e entries, E e { s with permissionCache := entries })
    (next : ∀ entries, s.answersAdmin D ins tenantId userId →
      alwaysE (exec D) (f ()) { s with permissionCache := entries } Q E) :
    wpE (exec D) (checkAdminPermission tenantId userId >>= f) ins' s (fun a s' _ => Q a s') (fun e s' _ => E e s') := by
  rw [wpE_bind]
  refine wpE_mono (checkAdminPermission_wp ins') ?_ ?_
  · rintro _ _ _ ⟨⟨entries, rfl⟩, admin⟩
    exact (next entries (admin.later among)).wpE
  · rintro e _ _ ⟨entries, rfl⟩
    exact leave e entries

/-- The password was right, for an administrator without the flag. -/
structure AdminDone (D : Deploy) (s : Store) (tenantId : TenantId) (ins : Nat → Input)
    (username password : String) (user : User) : Prop
    extends PasswordChecked D tenantId (ins 0).now password user where
  before : ∃ old ∈ s.users, ResetRow old user
  named : user.isNamed D username
  admin : s.answersAdmin D ins tenantId user.id
  unflagged : user.mustChangePassword = false

lemma adminLogin_end (cmd : AdminLoginCommand) (ins : Nat → Input) :
    DirectEnd D ctx (ins 0).now (AdminDone D s tenantId ins cmd.username cmd.password) s
      ((adminLogin D tenantId cmd ctx).run (exec D) ins s).2 := by
  refine clock_run_wp (Q := DirectEnd D ctx (ins 0).now (AdminDone D s tenantId ins cmd.username cmd.password) s) ?_
  refine wpE_bind_always findLoginUser_always (fun _ _ h => .refused h) ?_
  rintro user s₁ n ⟨same, mem, may, named, attempts, rfl⟩
  refine wpE_bind_always checkLoginPassword_always (fun _ _ h => .refused (same.toKept.trans h)) ?_
  rintro _ _ n' ⟨rfl, verified⟩
  refine checkAdminPermission_then ins (fun n => ⟨_, rfl⟩)
    (fun _ entries => .refused (same.trans (Same.cache _ entries)).toKept) fun entries admin => ?_
  have same := same.trans (Same.cache _ entries)
  refine ensure_step (fun _ => .refused same.toKept) fun unflagged => ?_
  have before : user ∈ s.users := mem
  refine alwaysE_bind_of (resetLoginFailures_always mem rfl)
    (fun _ _ h => .refused (same.toKept.trans h)) ?_
  rintro _ s₃ ⟨same', row, mem, reset⟩
  have id : row.id = user.id := by rcases reset with rfl | rfl <;> rfl
  have done : AdminDone D s tenantId ins cmd.username cmd.password row := by
    refine ⟨PasswordChecked.reset ⟨may, verified⟩ reset, ⟨user, before, reset⟩, ?_, id ▸ admin, ?_⟩
    · rcases reset with rfl | rfl <;> exact named
    · rcases reset with rfl | rfl <;> simpa using unflagged
  rw [← id]
  exact createSso_end (same.trans same') mem done fun _ _ ended => ended

/-- An administrator who had to change the password has done so. -/
structure AdminChangeDone (D : Deploy) (s : Store) (tenantId : TenantId) (ins : Nat → Input)
    (cmd : AdminChangePasswordCommand) (user : User) : Prop where
  changed : ChangedByName D s tenantId (ins 0).now cmd.username cmd.currentPassword user
  admin : s.answersAdmin D ins tenantId user.id
  strong : isStrongPassword cmd.newPassword = true

lemma adminChangePassword_end (cmd : AdminChangePasswordCommand) (ins : Nat → Input) :
    DirectEnd D ctx (ins 0).now (AdminChangeDone D s tenantId ins cmd) s
      ((adminChangePassword D tenantId cmd ctx).run (exec D) ins s).2 := by
  refine clock_run_wp (Q := DirectEnd D ctx (ins 0).now (AdminChangeDone D s tenantId ins cmd) s) ?_
  refine wpE_bind_always findLoginUser_always (fun _ _ h => .refused h) ?_
  rintro old s₁ n ⟨same, mem, may, named, attempts, rfl⟩
  refine wpE_ensure_split (fun _ => .refused same.toKept) fun flagged => ?_
  refine wpE_bind_always checkLoginPassword_always (fun _ _ h => .refused (same.toKept.trans h)) ?_
  rintro _ _ n' ⟨rfl, verified⟩
  refine checkAdminPermission_then ins (fun n => ⟨_, rfl⟩)
    (fun _ entries => .refused (same.trans (Same.cache _ entries)).toKept) fun entries admin => ?_
  have same := same.trans (Same.cache _ entries)
  have before : old ∈ s.users := mem
  refine alwaysE_bind_of (storeNewPassword_always mem) (fun _ _ h => .refused (same.toKept.trans h)) ?_
  rintro _ s₂ ⟨same', strong, hash, mem⟩
  have same := same.trans same'
  refine alwaysE_bind_of (resetLoginFailures_always mem rfl)
    (fun _ _ h => .refused (same.toKept.trans h)) ?_
  rintro _ s₃ ⟨same', row, mem, reset⟩
  have id : row.id = old.id := by rcases reset with rfl | rfl <;> rfl
  have done : AdminChangeDone D s tenantId ins cmd row :=
    ⟨⟨old, before, hash, ⟨may, verified⟩, named, flagged, reset⟩, id ▸ admin, strong⟩
  rw [← id]
  exact createSso_end (same.trans same') mem done fun _ _ ended => ended

end

end IdpMvp
