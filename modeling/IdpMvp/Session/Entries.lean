import IdpMvp.Program.History
import IdpMvp.Sample
import IdpMvp.Session.Ends

/-!
# The login entry points

The nine services that create SSO sessions, in whole runs: they are called in any order, and between two
calls everything else in the store may change. For every call, whom it has created SSO sessions and
codes for, and what it has checked of that user.
-/

namespace IdpMvp

open Program

variable {D : Deploy} {s s' : Store} {now : DateTime} {tenantId : TenantId} {ctx : RequestContext}

/-! ## Calls -/

/-- A call of a login entry point. -/
inductive LoginCall where
  | login (tenantId : TenantId) (cmd : LoginCommand) (ctx : RequestContext)
  | mfaVerify (tenantId : TenantId) (cmd : MfaLoginCommand) (ctx : RequestContext)
  | changePassword (tenantId : TenantId) (cmd : ChangePasswordCommand) (ctx : RequestContext)
  | passkeyComplete (tenantId : TenantId) (challengeId : Uuid) (credentialValue : String)
    (ctx : RequestContext)
  | portalLogin (tenantId : TenantId) (cmd : PortalLoginCommand) (ctx : RequestContext)
  | portalChangePassword (tenantId : TenantId) (cmd : PortalChangePasswordCommand)
    (ctx : RequestContext)
  | portalVerifyMfa (tenantId : TenantId) (cmd : PortalMfaCommand) (ctx : RequestContext)
  | adminLogin (tenantId : TenantId) (cmd : AdminLoginCommand) (ctx : RequestContext)
  | adminChangePassword (tenantId : TenantId) (cmd : AdminChangePasswordCommand)
    (ctx : RequestContext)

namespace LoginCall

/-- The store after a call. -/
def run (D : Deploy) (c : LoginCall) (ins : Nat → Input) (s : Store) : Store :=
  match c with
  | login tenantId cmd ctx => ((IdpMvp.login D tenantId cmd ctx).run (exec D) ins s).2
  | mfaVerify tenantId cmd ctx => ((IdpMvp.mfaVerify D tenantId cmd ctx).run (exec D) ins s).2
  | changePassword tenantId cmd ctx =>
    ((IdpMvp.changePassword D tenantId cmd ctx).run (exec D) ins s).2
  | passkeyComplete tenantId challengeId credentialValue ctx =>
    ((IdpMvp.passkeyComplete D tenantId challengeId credentialValue ctx).run (exec D) ins s).2
  | portalLogin tenantId cmd ctx => ((IdpMvp.portalLogin D tenantId cmd ctx).run (exec D) ins s).2
  | portalChangePassword tenantId cmd ctx =>
    ((IdpMvp.portalChangePassword D tenantId cmd ctx).run (exec D) ins s).2
  | portalVerifyMfa tenantId cmd ctx =>
    ((IdpMvp.portalVerifyMfa D tenantId cmd ctx).run (exec D) ins s).2
  | adminLogin tenantId cmd ctx => ((IdpMvp.adminLogin D tenantId cmd ctx).run (exec D) ins s).2
  | adminChangePassword tenantId cmd ctx =>
    ((IdpMvp.adminChangePassword D tenantId cmd ctx).run (exec D) ins s).2

/-- What a call has checked of the user it authenticates, whose row is as it is after the call. -/
def Authenticates (D : Deploy) (s : Store) (ins : Nat → Input) (user : User) : LoginCall → Prop
  | login tenantId cmd _ => LoginDone D s tenantId (ins 0).now cmd.password user
  | mfaVerify tenantId cmd _ => ∃ a, OnSession D s tenantId (ins 0).now a ∧ MfaDone D s cmd a user
  | changePassword tenantId cmd _ => ∃ a, OnSession D s tenantId (ins 0).now a ∧ ChangeDone D s cmd a user
  | passkeyComplete tenantId challengeId credentialValue _ =>
    ∃ a, OnSession D s tenantId (ins 0).now a ∧
      PasskeyDone D s tenantId challengeId credentialValue a user
  | portalLogin tenantId cmd _ => LoginDone D s tenantId (ins 0).now cmd.password user
  | portalChangePassword tenantId cmd _ =>
    PortalChangeDone D s tenantId (ins 0).now cmd.username cmd.currentPassword user
  | portalVerifyMfa tenantId cmd _ => PortalMfaDone D s tenantId (ins 0).now cmd user
  | adminLogin tenantId cmd _ => AdminDone D s tenantId ins cmd.username cmd.password user
  | adminChangePassword tenantId cmd _ => AdminChangeDone D s tenantId ins cmd user

end LoginCall

/-! ## What a call creates -/

/-- An SSO session of the user is created between two states: the table has a row it had not. -/
def CreatedSso (s s' : Store) (userId : Uuid) : Prop :=
  ∃ x ∈ s'.ssoSessions, x ∉ s.ssoSessions ∧ x.userId = userId

/-- The same for an authorization code. -/
def CreatedCode (s s' : Store) (userId : Uuid) : Prop :=
  ∃ c ∈ s'.codes, c ∉ s.codes ∧ c.userId = userId

/-- What is created is of a user of whom `Done` was checked; of the users nothing changes but what logins
change, and of the TOTP secrets nothing. -/
structure Authenticated (Done : User → Prop) (s s' : Store) : Prop where
  users : s'.users.map User.profile = s.users.map User.profile
  totpSecrets : s'.totpSecrets = s.totpSecrets
  created : ∀ userId, CreatedSso s s' userId ∨ CreatedCode s s' userId →
    ∃ user ∈ s'.users, user.id = userId ∧ Done user

section
variable {Done : User → Prop}

lemma Authenticated.of_unchanged (users : s'.users.map User.profile = s.users.map User.profile)
    (totpSecrets : s'.totpSecrets = s.totpSecrets)
    (sso : s'.ssoSessions = s.ssoSessions) (codes : s'.codes = s.codes) : Authenticated Done s s' := by
  refine ⟨users, totpSecrets, ?_⟩
  rintro userId (⟨x, mem, new, -⟩ | ⟨c, mem, new, -⟩)
  · rw [sso] at mem
    exact absurd mem new
  · rw [codes] at mem
    exact absurd mem new

lemma Kept.authenticated (kept : Kept s s') : Authenticated Done s s' :=
  .of_unchanged kept.users kept.totpSecrets kept.ssoSessions kept.codes

/-- One user is authenticated, with at most one SSO session and one code. -/
lemma Authenticated.of_user {user : User}
    (users : s'.users.map User.profile = s.users.map User.profile)
    (totpSecrets : s'.totpSecrets = s.totpSecrets)
    (sso : s'.ssoSessions = s.ssoSessions ∨
      ∃ x, s'.ssoSessions = s.ssoSessions ++ [x] ∧ x.userId = user.id)
    (codes : s'.codes = s.codes ∨ ∃ c, s'.codes = s.codes ++ [c] ∧ c.userId = user.id)
    (row : user ∈ s'.users) (done : Done user) : Authenticated Done s s' := by
  refine ⟨users, totpSecrets, ?_⟩
  rintro userId (⟨x, mem, new, rfl⟩ | ⟨c, mem, new, rfl⟩)
  · obtain same | ⟨y, more, of⟩ := sso
    · rw [same] at mem
      exact absurd mem new
    · rw [more, List.mem_append, List.mem_singleton] at mem
      obtain rfl := mem.resolve_left new
      exact ⟨user, row, of.symm, done⟩
  · obtain same | ⟨d, more, of⟩ := codes
    · rw [same] at mem
      exact absurd mem new
    · rw [more, List.mem_append, List.mem_singleton] at mem
      obtain rfl := mem.resolve_left new
      exact ⟨user, row, of.symm, done⟩

lemma SessionEnd.authenticated {Pending Done : AuthSession → User → Prop}
    (h : SessionEnd D tenantId ctx now Pending Done s s') :
    Authenticated (fun user => ∃ a, OnSession D s tenantId now a ∧ Done a user) s s' := by
  cases h with
  | refused kept => exact kept.authenticated
  | pending same => exact .of_unchanged same.users same.totpSecrets same.ssoSessions same.codes
  | @done s₁ s' a user same session row evidence completed =>
    have sso := completed.sso
    have codes := completed.codes
    rw [same.ssoSessions] at sso
    rw [same.codes] at codes
    refine .of_user (completed.users ▸ same.users) (completed.totpSecrets.trans same.totpSecrets)
      (sso.imp_right ?_) (codes.imp_right ?_) (completed.users ▸ row) ⟨a, session, evidence⟩
    · rintro ⟨id, more⟩
      exact ⟨_, more, rfl⟩
    · rintro ⟨-, code, issuedAt, more⟩
      exact ⟨_, more, rfl⟩

lemma DirectEnd.authenticated (h : DirectEnd D ctx now Done s s') : Authenticated Done s s' := by
  cases h with
  | refused kept => exact kept.authenticated
  | created same row evidence =>
    exact .of_user same.users same.totpSecrets (.inr ⟨_, by rw [same.ssoSessions], rfl⟩)
      (.inl same.codes) row evidence

end

/-- Every call authenticates nobody but the user it has checked. -/
lemma LoginCall.run_authenticated (c : LoginCall) (ins : Nat → Input) (s : Store) :
    Authenticated (fun user => c.Authenticates D s ins user) s (c.run D ins s) := by
  cases c with
  | login tenantId cmd ctx =>
    obtain ⟨users, totpSecrets, created⟩ := (login_end cmd ins).authenticated
    refine ⟨users, totpSecrets, fun userId new => ?_⟩
    obtain ⟨user, row, id, a, -, -, done⟩ := created userId new
    exact ⟨user, row, id, done⟩
  | mfaVerify tenantId cmd ctx => exact (mfaVerify_end cmd ins).authenticated
  | changePassword tenantId cmd ctx => exact (changePassword_end cmd ins).authenticated
  | passkeyComplete tenantId challengeId credentialValue ctx =>
    exact (passkeyComplete_end challengeId credentialValue ins).authenticated
  | portalLogin tenantId cmd ctx => exact (portalLogin_end cmd ins).authenticated
  | portalChangePassword tenantId cmd ctx => exact (portalChangePassword_end cmd ins).authenticated
  | portalVerifyMfa tenantId cmd ctx => exact (portalVerifyMfa_end cmd ins).authenticated
  | adminLogin tenantId cmd ctx => exact (adminLogin_end cmd ins).authenticated
  | adminChangePassword tenantId cmd ctx => exact (adminChangePassword_end cmd ins).authenticated

/-! ## Runs -/

/-- The primary key of `users`. -/
def Store.UserKeys (s : Store) : Prop := (s.users.map (·.id)).Nodup

/-- Runs of the entry points. Before them and between them the store may be and become whatever the
primary key of the users allows. -/
abbrev LoginRuns (D : Deploy) : List (Event LoginCall Input Store) → Store → Prop :=
  Runs (LoginCall.run D) Store.UserKeys (fun _ s' => s'.UserKeys) (fun _ _ => True)

lemma Authenticated.userKeys {Done : User → Prop} (h : Authenticated Done s s') (keys : s.UserKeys) :
    s'.UserKeys := by
  have ids : s'.users.map (·.id) = s.users.map (·.id) := by
    simpa [Function.comp_def, User.profile] using congrArg (List.map (·.id)) h.users
  rwa [Store.UserKeys, ids]

/-- Before and after every call of a run a user has one row. -/
lemma LoginRuns.userKeys {es : List (Event LoginCall Input Store)} (run : LoginRuns D es s) :
    ∀ e ∈ es, e.pre.UserKeys ∧ (e.post (LoginCall.run D)).UserKeys := by
  have keys := run.invariant
    (I := fun es s => s.UserKeys ∧ ∀ e ∈ es, e.pre.UserKeys ∧ (e.post (LoginCall.run D)).UserKeys)
    (fun s init => ⟨init, nofun⟩) (fun es s s' keys env => ⟨env, keys.2⟩) ?_
  · exact keys.2
  · rintro es s c ins ⟨keys, before⟩ -
    have after := (c.run_authenticated (D := D) ins s).userKeys keys
    refine ⟨after, fun e mem => ?_⟩
    rcases List.mem_append.mp mem with mem | mem
    · exact before e mem
    · obtain rfl := List.mem_singleton.mp mem
      exact ⟨keys, after⟩

/-- The row of a user. -/
lemma Store.UserKeys.eq (keys : s.UserKeys) {u v : User} (hu : u ∈ s.users) (hv : v ∈ s.users)
    (id : u.id = v.id) : u = v :=
  eq_of_nodup_map keys hu hv id

/-! ## Who is authenticated -/

/-- The account may be logged in to. -/
structure Fit (now : DateTime) (user : User) : Prop where
  active : user.isActive = true
  unlocked : user.isLockedAt now = false
  unflagged : user.mustChangePassword = false
  email : user.emailVerified = true

namespace LoginCall

/-- The forced password changes. -/
def ChangesPassword : LoginCall → Prop
  | changePassword _ _ _ | portalChangePassword _ _ _ | adminChangePassword _ _ _ => True
  | _ => False

/-- What a call does not check holds of the users who pass what it checks. -/
def ChecksSuffice (D : Deploy) (s : Store) (ins : Nat → Input) : LoginCall → Prop
  | login _ _ _ | portalLogin _ _ _ | portalChangePassword _ _ _ => True
  | mfaVerify tenantId cmd _ => ∀ a user, OnSession D s tenantId (ins 0).now a → MfaDone D s cmd a user →
    user.isLockedAt (ins 0).now = false ∧ user.mustChangePassword = false ∧ user.emailVerified = true
  | changePassword tenantId cmd _ => ∀ a user, OnSession D s tenantId (ins 0).now a →
    ChangeDone D s cmd a user → user.isLockedAt (ins 0).now = false ∧ user.emailVerified = true
  | passkeyComplete tenantId challengeId credentialValue _ => ∀ a user,
    OnSession D s tenantId (ins 0).now a → PasskeyDone D s tenantId challengeId credentialValue a user →
    user.isLockedAt (ins 0).now = false ∧ user.mustChangePassword = false ∧ user.emailVerified = true
  | portalVerifyMfa tenantId cmd _ => ∀ user, PortalMfaDone D s tenantId (ins 0).now cmd user →
    user.mustChangePassword = false ∧ user.emailVerified = true
  | adminLogin tenantId cmd _ => ∀ user,
    AdminDone D s tenantId ins cmd.username cmd.password user → user.emailVerified = true
  | adminChangePassword tenantId cmd _ => ∀ user, AdminChangeDone D s tenantId ins cmd user →
    user.emailVerified = true

/-- Whom a call authenticates is then fit. -/
lemma Authenticates.fit {c : LoginCall} {user : User} (h : c.Authenticates D s ins user)
    (suffice : c.ChecksSuffice D s ins) : Fit (ins 0).now user := by
  cases c with
  | login | portalLogin => exact ⟨h.active, h.unlocked, h.unflagged, h.email⟩
  | mfaVerify =>
    obtain ⟨a, session, done⟩ := h
    obtain ⟨unlocked, unflagged, email⟩ := suffice a user session done
    exact ⟨done.active, unlocked, unflagged, email⟩
  | changePassword =>
    obtain ⟨a, session, done⟩ := h
    obtain ⟨unlocked, email⟩ := suffice a user session done
    obtain ⟨-, -, old, -, active, -, -, hash, rfl⟩ := done
    exact ⟨active, unlocked, rfl, email⟩
  | passkeyComplete =>
    obtain ⟨a, session, done⟩ := h
    obtain ⟨unlocked, unflagged, email⟩ := suffice a user session done
    exact ⟨done.active, unlocked, unflagged, email⟩
  | portalChangePassword =>
    obtain ⟨may, -, unflagged⟩ := h.changed.may
    exact ⟨may.active, may.unlocked, unflagged, h.email⟩
  | portalVerifyMfa =>
    obtain ⟨unflagged, email⟩ := suffice user h
    exact ⟨h.active, h.unlocked, unflagged, email⟩
  | adminLogin => exact ⟨h.active, h.unlocked, h.unflagged, suffice user h⟩
  | adminChangePassword =>
    obtain ⟨may, -, unflagged⟩ := h.changed.may
    exact ⟨may.active, may.unlocked, unflagged, suffice user h⟩

/-- Beside the password changes, a user without the flag afterwards had none before. -/
lemma Authenticates.unflagged_before {c : LoginCall} {user : User} (h : c.Authenticates D s ins user)
    (other : ¬ c.ChangesPassword) :
    ∃ old ∈ s.users, old.id = user.id ∧ old.mustChangePassword = user.mustChangePassword := by
  have reset : (∃ old ∈ s.users, ResetRow old user) →
      ∃ old ∈ s.users, old.id = user.id ∧ old.mustChangePassword = user.mustChangePassword := by
    rintro ⟨old, mem, reset⟩
    refine ⟨old, mem, ?_⟩
    rcases reset with rfl | rfl <;> exact ⟨rfl, rfl⟩
  cases c with
  | login | portalLogin | adminLogin => exact reset h.before
  | mfaVerify | passkeyComplete =>
    obtain ⟨a, -, done⟩ := h
    exact ⟨user, done.row, rfl, rfl⟩
  | portalVerifyMfa => exact ⟨user, h.row, rfl, rfl⟩
  | changePassword | portalChangePassword | adminChangePassword => exact absurd trivial other

end LoginCall

/-- Whoever a call has created an SSO session or a code for is fit at that moment, and had to change the
password before the call only if the call is the change. -/
structure CreatesForFit (D : Deploy) (e : Event LoginCall Input Store) (userId : Uuid) : Prop where
  fit : ∀ user ∈ (e.post (LoginCall.run D)).users, user.id = userId → Fit (e.ins 0).now user
  unflagged : ∀ user ∈ e.pre.users, user.id = userId → user.mustChangePassword = true →
    e.call.ChangesPassword

/-- In every run in which the checks of each entry point suffice for the users who pass them, nobody
else gets an SSO session or a code. -/
theorem created_for_fit_users {es : List (Event LoginCall Input Store)} (run : LoginRuns D es s)
    (suffice : ∀ e ∈ es, e.call.ChecksSuffice D e.pre e.ins) :
    ∀ e ∈ es, ∀ userId, CreatedSso e.pre (e.post (LoginCall.run D)) userId ∨
      CreatedCode e.pre (e.post (LoginCall.run D)) userId → CreatesForFit D e userId := by
  intro e mem userId created
  obtain ⟨before, after⟩ := run.userKeys e mem
  obtain ⟨user, row, rfl, authenticates⟩ := (e.call.run_authenticated e.ins e.pre).created userId created
  have fit := authenticates.fit (suffice e mem)
  refine ⟨fun user' row' id => after.eq row row' id.symm ▸ fit, fun old row' id flagged => ?_⟩
  by_contra other
  obtain ⟨old', row'', id', flag⟩ := authenticates.unflagged_before other
  obtain rfl := before.eq row' row'' (id.trans id'.symm)
  rw [flag, fit.unflagged] at flagged
  cases flagged

namespace Sample

/-- The row is of a user whose password was right on `authSession` and who has a confirmed TOTP secret. -/
def pendingStore (user : User) : Store :=
  { store with
    users := [user, admin]
    authSessions := [pendingSession aliceId]
    totpSecrets := [confirmedTotp aliceId] }

/-- The code follows. -/
def pendingEvent (user : User) : Event LoginCall Input Store :=
  ⟨.mfaVerify tenantA ⟨some (sessionId 7), totpCode, csrfToken⟩ browser, fun _ => input 5,
    pendingStore user⟩

/-- An administrator has reset Alice's password in between. -/
def flaggedAlice : User := { alice with mustChangePassword := true }

lemma pending_run (user : User) (id : user.id = aliceId) :
    LoginRuns loginDeploy [pendingEvent user] ((pendingEvent user).post (LoginCall.run loginDeploy)) := by
  have keys : (pendingStore user).UserKeys := by
    simp only [Store.UserKeys, pendingStore, List.map_cons, id]
    decide
  exact .call (.start keys) _ _ trivial

end Sample

open Sample in
/-- The second factor gives Alice an SSO session while she has to change her password. -/
theorem mfa_for_flagged_user :
    ¬ ∀ es s, LoginRuns loginDeploy es s → ∀ e ∈ es, ∀ userId,
      CreatedSso e.pre (e.post (LoginCall.run loginDeploy)) userId ∨
        CreatedCode e.pre (e.post (LoginCall.run loginDeploy)) userId →
      CreatesForFit loginDeploy e userId := by
  intro claim
  have created : CreatedSso (pendingStore flaggedAlice)
      ((pendingEvent flaggedAlice).post (LoginCall.run loginDeploy)) aliceId := by
    unfold CreatedSso
    decide +kernel
  have fit := claim _ _ (pending_run flaggedAlice rfl) _ (List.mem_singleton_self _) aliceId (.inl created)
  exact fit.unflagged flaggedAlice (by simp [pendingEvent, pendingStore]) rfl rfl

open Sample in
theorem created_for_fit_users_sample :
    CreatedSso (pendingStore alice) ((pendingEvent alice).post (LoginCall.run loginDeploy)) aliceId ∧
      CreatesForFit loginDeploy (pendingEvent alice) aliceId := by
  have created : CreatedSso (pendingStore alice)
      ((pendingEvent alice).post (LoginCall.run loginDeploy)) aliceId := by
    unfold CreatedSso
    decide +kernel
  refine ⟨created, created_for_fit_users (pending_run alice rfl) ?_ _ (List.mem_singleton_self _)
    aliceId (.inl created)⟩
  intro e mem
  obtain rfl := List.mem_singleton.mp mem
  intro a user _ done
  obtain rfl | rfl : user = alice ∨ user = admin := by
    simpa [pendingEvent, pendingStore] using done.row
  · exact ⟨rfl, rfl, rfl⟩
  · exact ⟨rfl, rfl, rfl⟩

/-! ## The second factor -/

/-- The call has verified a second factor of the user: a TOTP code or a passkey assertion. -/
def LoginCall.VerifiesFactor (D : Deploy) (s : Store) (userId : Uuid) : LoginCall → Prop
  | mfaVerify _ cmd _ => TotpVerified D s userId cmd.totpCode
  | portalVerifyMfa _ cmd _ => TotpVerified D s userId cmd.totpCode
  | passkeyComplete _ challengeId credentialValue _ => ∃ challenge stored,
    AssertionVerified D s challengeId credentialValue challenge stored ∧ stored.userId = userId
  | _ => False

/-- The call is one of the admin console, which asks for an admin permission and for no second factor. -/
def LoginCall.OfAdminConsole (tenantId : TenantId) : LoginCall → Prop
  | adminLogin t _ _ | adminChangePassword t _ _ => t = tenantId
  | _ => False

/-- An SSO session of a user with a confirmed TOTP secret comes from the second factor or, on the admin
console, from the permission. Of `changePassword` nothing is said. -/
lemma LoginCall.Authenticates.secondFactor {c : LoginCall} {user : User}
    (h : c.Authenticates D s ins user) (other : ∀ tenantId cmd ctx, c ≠ .changePassword tenantId cmd ctx)
    (totp : s.hasConfirmedTotp user.id = true) :
    c.VerifiesFactor D s user.id ∨
      ∃ tenantId, c.OfAdminConsole tenantId ∧ s.answersAdmin D ins tenantId user.id := by
  cases c with
  | login | portalLogin | portalChangePassword =>
    have none := h.totp
    rw [totp] at none
    cases none
  | mfaVerify =>
    obtain ⟨a, -, done⟩ := h
    exact .inl done.totp
  | changePassword tenantId cmd ctx => exact absurd rfl (other tenantId cmd ctx)
  | passkeyComplete =>
    obtain ⟨a, -, done⟩ := h
    obtain ⟨challenge, stored, verified, owner, -⟩ := done.assertion
    exact .inl ⟨challenge, stored, verified, owner⟩
  | portalVerifyMfa => exact .inl h.totp
  | adminLogin tenantId | adminChangePassword tenantId => exact .inr ⟨tenantId, rfl, h.admin⟩

/-- Whatever run led to a call, a user who has a confirmed TOTP secret when it creates an SSO session gets
it by a TOTP code or a passkey assertion, or as an administrator on the admin console. -/
theorem second_factor_verified (D : Deploy) (e : Event LoginCall Input Store)
    (other : ∀ tenantId cmd ctx, e.call ≠ .changePassword tenantId cmd ctx) (userId : Uuid)
    (created : CreatedSso e.pre (e.post (LoginCall.run D)) userId)
    (totp : (e.post (LoginCall.run D)).hasConfirmedTotp userId = true) :
    e.call.VerifiesFactor D e.pre userId ∨
      ∃ tenantId, e.call.OfAdminConsole tenantId ∧ e.pre.answersAdmin D e.ins tenantId userId := by
  have authenticated := e.call.run_authenticated (D := D) e.ins e.pre
  obtain ⟨user, -, rfl, authenticates⟩ := authenticated.created userId (.inl created)
  refine authenticates.secondFactor other ?_
  rwa [Store.hasConfirmedTotp, ← authenticated.totpSecrets]

namespace Sample

/-- The administrator has a confirmed TOTP secret. -/
def guardedStore : Store :=
  { store with
    permissionCodes := [systemAdmin, tenantAdmin]
    permissions := [⟨adminId, systemAdmin, tenantA⟩]
    totpSecrets := [confirmedTotp adminId] }

/-- The administrator's password on the admin console. -/
def consoleEvent : Event LoginCall Input Store :=
  ⟨.adminLogin tenantA ⟨"admin", "admin@example.com"⟩ browser, fun _ => input 5, guardedStore⟩

end Sample

open Sample in
/-- The password alone gives the administrator an SSO session. -/
theorem admin_login_without_second_factor :
    ¬ ∀ es s, LoginRuns loginDeploy es s → ∀ e ∈ es, ∀ userId,
      CreatedSso e.pre (e.post (LoginCall.run loginDeploy)) userId →
      (e.post (LoginCall.run loginDeploy)).hasConfirmedTotp userId = true →
      e.call.VerifiesFactor loginDeploy e.pre userId := by
  intro claim
  have run : LoginRuns loginDeploy [consoleEvent] _ :=
    .call (.start (s := guardedStore) (by unfold Store.UserKeys; decide)) _ _ trivial
  refine claim _ _ run consoleEvent (by simp) adminId ?_ (by decide +kernel)
  unfold CreatedSso
  decide +kernel

open Sample in
theorem second_factor_verified_sample :
    (pendingEvent alice).call.VerifiesFactor loginDeploy (pendingEvent alice).pre aliceId ∨
      ∃ tenantId, (pendingEvent alice).call.OfAdminConsole tenantId ∧
        (pendingEvent alice).pre.answersAdmin loginDeploy (pendingEvent alice).ins tenantId aliceId :=
  second_factor_verified loginDeploy (pendingEvent alice) nofun aliceId
    (by unfold CreatedSso; decide +kernel) (by decide +kernel)

end IdpMvp
