import IdpMvp.Sample
import IdpMvp.Service.Footprint
import IdpMvp.Store.Effects
import IdpMvp.Store.Monitors

/-!
# Lockout

`login`, the portal's and the admin console's login read the user, count a failure in memory and write
the new count, in statements of their own. Every failure is counted, ten of them lock the account and
a lock is kept, in every interleaving in which no attempt writes over a count it has not read.
-/

namespace IdpMvp

open Program Program.Prog Program.Flow IdpMvp.Prog

variable {D : Deploy}

/-! ## Attempts -/

/-- A login with a user name and a password. -/
inductive Attempt where
  | login (tenantId : TenantId) (cmd : LoginCommand) (ctx : RequestContext)
  | portalLogin (tenantId : TenantId) (cmd : PortalLoginCommand) (ctx : RequestContext)
  | adminLogin (tenantId : TenantId) (cmd : AdminLoginCommand) (ctx : RequestContext)

inductive AttemptAnswer where
  | login (answer : LoginOutcome)
  | portalLogin (answer : PortalLoginOutcome)
  | adminLogin (answer : AdminLoginOutcome)

namespace Attempt

def password : Attempt → String
  | login _ cmd _ => cmd.password
  | portalLogin _ cmd _ => cmd.password
  | adminLogin _ cmd _ => cmd.password

def program (D : Deploy) : Attempt → Service AttemptAnswer
  | login tenantId cmd ctx => return .login (← IdpMvp.login D tenantId cmd ctx)
  | portalLogin tenantId cmd ctx => return .portalLogin (← IdpMvp.portalLogin D tenantId cmd ctx)
  | adminLogin tenantId cmd ctx => return .adminLogin (← IdpMvp.adminLogin D tenantId cmd ctx)

end Attempt

/-- The answers to a wrong password. -/
def AttemptAnswer.fails : AttemptAnswer → Bool
  | login .invalidCredentials | login .locked => true
  | portalLogin .invalidCredentials | portalLogin .locked => true
  | adminLogin .invalidCredentials | adminLogin .locked => true
  | _ => false

/-! ## Phases -/

/-- Where an attempt is: after its reading of the clock, after it has found the user, after the second
reading of the clock before it counts, and after it has counted. -/
inductive AttemptPhase where
  | start
  | timed (now : DateTime)
  | found (now : DateTime) (user : User)
  | counting (now : DateTime) (user : User) (countedAt : DateTime)
  | counted (id : Uuid)
  deriving DecidableEq, Repr

/-- The lock that goes with a number of failures. -/
def lockAfter (failed : Int) (now : DateTime) : Option DateTime :=
  if failed ≥ maxFailedLogins then some (now + Duration.minutes lockDurationMinutes) else none

namespace AttemptPhase

/-- The account an attempt is about. -/
def account : AttemptPhase → Option Uuid
  | start | timed _ => none
  | found _ user | counting _ user _ => some user.id
  | counted id => some id

def next (φ : AttemptPhase) : (o : Op) → Op.Res o → AttemptPhase
  | .clock, now =>
    match φ with
    | start => timed now
    | found begun user => counting begun user now
    | φ => φ
  | .db (.users (.findByUsername _ _)), .ok (some user) =>
    match φ with
    | timed now => found now user
    | φ => φ
  | .db (.users (.updateLoginState id _ _)), .ok _ =>
    match φ with
    | counting _ _ _ => counted id
    | φ => φ
  | _, _ => φ

/-- One of the passwords is the user's. -/
def Succeeds (D : Deploy) (tried : String → Prop) (user : User) : Prop :=
  ∃ password, tried password ∧ D.verifyPassword password user.passwordHash = .ok true

/-- The attempt counts a failure of the user it has found. -/
def Counts (φ : AttemptPhase) (id : Uuid) (failed : Int) (lockedUntil : Option DateTime) : Prop :=
  ∃ now user countedAt, φ = counting now user countedAt ∧ user.isLockedAt now = false ∧ id = user.id ∧
    failed = user.failedLoginCount + 1 ∧ lockedUntil = lockAfter failed countedAt

/-- The attempt has succeeded, and resets the count. -/
def Resets (D : Deploy) (tried : String → Prop) (φ : AttemptPhase) (id : Uuid) : Prop :=
  ∃ now user, φ = found now user ∧ id = user.id ∧ Succeeds D tried user

def Allows (D : Deploy) (tried : String → Prop) (φ : AttemptPhase) : Op → Prop
  | .db (.users (.updateLoginState id failed lockedUntil)) =>
    φ.Counts id failed lockedUntil ∨ φ.Resets D tried id
  | .db (.users (.findByUsername _ _)) => True
  | .db (.users _) => False
  | _ => True

/-- Why an attempt may have failed in this phase: there is no user, the account is locked or not
active, or the failure is counted; or one of the passwords was right. -/
def Explained (D : Deploy) (tried : String → Prop) : AttemptPhase → Prop
  | start | timed _ | counted _ => True
  | found now user => user.isLockedAt now = true ∨ user.isActive = false ∨ Succeeds D tried user
  | counting _ user _ => Succeeds D tried user

end AttemptPhase

def attemptMonitor (D : Deploy) (tried : String → Prop) : Monitor Op.Res AttemptPhase where
  init := .start
  ok := AttemptPhase.Allows D tried
  next := AttemptPhase.next

/-! ## Attempts keep to the monitor -/

section
variable {tried : String → Prop} {tenantId : TenantId} {ctx : RequestContext} {ε α : Type}
variable {fails : ε → Bool}

/-- An outcome is explained by the phase it is reached in. -/
def Ends (D : Deploy) (tried : String → Prop) (fails : ε → Bool) (e : ε)
    (ψ : Option AttemptPhase) : Prop :=
  ∃ φ, ψ = some φ ∧ (fails e = true → φ.Explained D tried)

/-- The operations beside the clock and the users. -/
def Op.BesideUsers : Op → Prop
  | .db (.users _) | .clock => False
  | _ => True

lemma attemptMonitor_beside (φ : AttemptPhase) (o : Op) (h : Op.BesideUsers o) :
    (attemptMonitor D tried).ok φ o ∧ ∀ r, (attemptMonitor D tried).next φ o r = φ := by
  cases o with
  | db q =>
    cases q with
    | users q => cases h
    | _ => exact ⟨trivial, fun _ => rfl⟩
  | clock => cases h
  | _ => exact ⟨trivial, fun _ => rfl⟩

lemma rateLimitAddress_beside {address : Option String} {now : DateTime} {limited : ε} :
    (rateLimitAddress address now limited).run.Uses Op.BesideUsers := by
  cases address with
  | none => trivial
  | some ip => exact uses_bind (uses_lift (uses_op trivial)) fun _ => uses_ensure _ _

/-- Whatever is beside the users leaves the phase. -/
lemma beside_step {φ : AttemptPhase} {β : Type} {p : ServiceFlow ε β} {k : β → ServiceFlow ε α}
    {Q : α → Option AttemptPhase → Prop} {E : ε → Option AttemptPhase → Prop}
    (u : p.run.Uses Op.BesideUsers) (leave : ∀ e, E e (some φ))
    (next : ∀ b, alwaysE (attemptMonitor D tried).oracle (k b) (some φ) Q E) :
    alwaysE (attemptMonitor D tried).oracle (p >>= k) (some φ) Q E :=
  aside_step u (attemptMonitor_beside φ) leave next

/-- The user is found, not locked and active; or there is a reason to leave. -/
lemma findLoginUser_guarded {username : String} {now : DateTime} {rateLimited invalid locked : ε}
    {internal : String → ε} (quiet : ∀ d, fails (internal d) = false) :
    alwaysE (attemptMonitor D tried).oracle
      (findLoginUser tenantId username ctx now rateLimited invalid locked internal)
      (some (.timed now))
      (fun user ψ => ψ = some (.found now user) ∧ user.isLockedAt now = false)
      (Ends D tried fails) := by
  unfold findLoginUser
  refine beside_step rateLimitAddress_beside (fun e => ⟨_, rfl, fun _ => trivial⟩) fun _ => ?_
  refine guard_db_step trivial (fun e => ⟨_, rfl, by simp [quiet]⟩) fun row => ?_
  cases row with
  | none =>
    refine found_step (fun _ => ⟨_, rfl, fun _ => trivial⟩) ?_
    rintro _ ⟨⟩
  | some user =>
    refine found_step nofun ?_
    rintro _ ⟨⟩
    refine ensure_step (fun h => ⟨_, rfl, fun _ => .inl (by simpa using h)⟩) fun unlocked => ?_
    refine ensure_step (fun h => ⟨_, rfl, fun _ => .inr (.inl h)⟩) fun _ => ?_
    exact ⟨rfl, by simpa using unlocked⟩

/-- A failure is counted, or the database fails. -/
lemma countPasswordFailure_guarded {now : DateTime} {user : User} {invalid locked : ε}
    {internal : String → ε} (quiet : ∀ d, fails (internal d) = false)
    (unlocked : user.isLockedAt now = false) :
    (countPasswordFailure user locked invalid internal).always (attemptMonitor D tried).oracle
      (some (.found now user)) (Ends D tried fails) := by
  intro clock
  rw [Monitor.oracle_some trivial]
  generalize (clock .clock : DateTime) = countedAt
  change always _ (Prog.call (Op.db (.users (.updateLoginState user.id (user.failedLoginCount + 1)
    (lockAfter (user.failedLoginCount + 1) countedAt)))) _) (some (AttemptPhase.counting now user countedAt)) _
  have counts : (attemptMonitor D tried).ok (.counting now user countedAt)
      (.db (.users (.updateLoginState user.id (user.failedLoginCount + 1)
        (lockAfter (user.failedLoginCount + 1) countedAt)))) :=
    Or.inl ⟨now, user, countedAt, rfl, unlocked, rfl, rfl, rfl⟩
  intro answer
  rw [Monitor.oracle_some counts]
  cases answer (.db (.users (.updateLoginState user.id (user.failedLoginCount + 1)
    (lockAfter (user.failedLoginCount + 1) countedAt)))) with
  | error e => exact ⟨_, rfl, by simp [quiet]⟩
  | ok _ => exact ⟨_, rfl, fun _ => trivial⟩

/-- A wrong password is counted, or the database fails. -/
lemma checkLoginPassword_guarded {now : DateTime} {user : User} {password : String}
    {invalid locked : ε} {internal : String → ε} (quiet : ∀ d, fails (internal d) = false)
    (tries : tried password) (unlocked : user.isLockedAt now = false) :
    alwaysE (attemptMonitor D tried).oracle
      (checkLoginPassword D password user invalid locked internal) (some (.found now user))
      (fun _ ψ => ψ = some (.found now user) ∧ AttemptPhase.Succeeds D tried user)
      (Ends D tried fails) := by
  unfold checkLoginPassword
  refine orThrow_step (fun d _ => ⟨_, rfl, by simp [quiet]⟩) fun verified eq => ?_
  rw [alwaysE_ensureOr]
  refine ⟨?_, ?_⟩
  · rintro rfl
    exact ⟨rfl, password, tries, eq⟩
  · intro _
    exact countPasswordFailure_guarded quiet unlocked

/-- After a right password, the count is reset or there is none. -/
lemma resetLoginFailures_guarded {now : DateTime} {user : User} {internal : String → ε}
    (quiet : ∀ d, fails (internal d) = false) (succeeds : AttemptPhase.Succeeds D tried user) :
    alwaysE (attemptMonitor D tried).oracle (resetLoginFailures user internal)
      (some (.found now user)) (fun _ ψ => ψ = some (.found now user)) (Ends D tried fails) := by
  unfold resetLoginFailures
  rw [alwaysE_onlyIf]
  refine ⟨fun _ => ?_, fun _ => rfl⟩
  have resets : (attemptMonitor D tried).ok (.found now user)
      (.db (.users (.updateLoginState user.id 0 none))) := Or.inr ⟨now, user, rfl, rfl, succeeds⟩
  rw [alwaysE_orLeave]
  intro answer
  rw [Monitor.oracle_some resets]
  cases answer (.db (.users (.updateLoginState user.id 0 none))) with
  | error e => exact ⟨nofun, fun d _ => ⟨_, rfl, by simp [quiet]⟩⟩
  | ok _ => exact ⟨fun _ _ => rfl, nofun⟩

/-- The operations that do not write users. -/
def Op.KeepsUsers : Op → Prop
  | .db (.users _) => False
  | _ => True

/-- Once a password was right, every outcome is explained, as long as no user is written. -/
lemma succeeded_guarded {now : DateTime} {user : User} {p : ServiceFlow ε α}
    {Q : α → Option AttemptPhase → Prop} (succeeds : AttemptPhase.Succeeds D tried user)
    (u : p.run.Uses Op.KeepsUsers)
    (ends : ∀ a φ, φ.Explained D tried → Q a (some φ)) :
    alwaysE (attemptMonitor D tried).oracle p (some (.found now user)) Q (Ends D tried fails) := by
  have kept : alwaysE (attemptMonitor D tried).oracle p (some (.found now user))
      (fun _ ψ => ∃ φ, ψ = some φ ∧ (φ = .found now user ∨ ∃ r, φ = .counting now user r))
      (fun _ ψ => ∃ φ, ψ = some φ ∧ (φ = .found now user ∨ ∃ r, φ = .counting now user r)) := by
    refine uses_alwaysE u ?_ ⟨_, rfl, .inl rfl⟩
    rintro o keeps answer _ ⟨φ, rfl, phase⟩
    by_cases beside : Op.BesideUsers o
    · obtain ⟨allowed, stays⟩ := @attemptMonitor_beside D tried φ o beside
      rw [Monitor.oracle_some allowed, stays]
      exact ⟨φ, rfl, phase⟩
    · obtain rfl : o = .clock := by
        cases o with
        | db q => cases q <;> simp_all [Op.BesideUsers, Op.KeepsUsers]
        | clock => rfl
        | _ => exact absurd trivial beside
      rw [Monitor.oracle_some trivial]
      rcases phase with rfl | ⟨r, rfl⟩
      · exact ⟨_, rfl, .inr ⟨_, rfl⟩⟩
      · exact ⟨_, rfl, .inr ⟨_, rfl⟩⟩
  have explained : ∀ φ : AttemptPhase, (φ = .found now user ∨ ∃ r, φ = .counting now user r) →
      φ.Explained D tried := by
    rintro _ (rfl | ⟨r, rfl⟩)
    · exact .inr (.inr succeeds)
    · exact succeeds
  refine alwaysE_mono kept ?_ ?_
  · rintro a _ ⟨φ, rfl, phase⟩
    exact ends a φ (explained φ phase)
  · rintro e _ ⟨φ, rfl, phase⟩
    exact ⟨φ, rfl, fun _ => explained φ phase⟩

/-! What follows a right password writes no user. -/

lemma userHasConfirmedTotp_keepsUsers {userId : Uuid} :
    (userHasConfirmedTotp userId).Uses Op.KeepsUsers := by
  refine ⟨trivial, ?_⟩
  rintro (e | _ | secret) <;> trivial

lemma leavePending_keepsUsers {session : AuthSession} {user : User} {now : DateTime}
    {pending : LoginOutcome} : (leavePending session user now pending).Uses Op.KeepsUsers := by
  refine ⟨trivial, ?_⟩
  rintro (e | _) <;> trivial

lemma finishFlow_keepsUsers {session : AuthSession} {userId : Uuid} {now : DateTime} :
    (finishFlow D tenantId session userId now).Uses Op.KeepsUsers :=
  finishFlow_uses (fun _ => trivial) trivial trivial (fun _ => trivial) fun _ => trivial

lemma hasPermission_besideUsers {userId : Uuid} {code : String} :
    (userPermissions.hasPermission tenantId userId code).Uses Op.BesideUsers := by
  refine ⟨trivial, ?_⟩
  rintro (_ | hit)
  · refine ⟨trivial, ?_⟩
    rintro (e | held)
    · trivial
    · exact ⟨trivial, fun _ => trivial⟩
  · trivial

lemma checkAdminPermission_beside {userId : Uuid} :
    (checkAdminPermission tenantId userId).run.Uses Op.BesideUsers := by
  refine uses_bind (uses_orLeave ?_ _) fun _ => uses_ensure _ _
  refine Uses.bind hasPermission_besideUsers ?_
  rintro (e | _ | _)
  · trivial
  · refine Uses.bind hasPermission_besideUsers ?_
    rintro (e | _ | _) <;> trivial
  · trivial

lemma loginChecks_guarded {cmd : LoginCommand} {now : DateTime} (tries : tried cmd.password) :
    alwaysE (attemptMonitor D tried).oracle (loginChecks D tenantId cmd ctx now) (some (.timed now))
      (fun x ψ => ψ = some (.found now x.2) ∧ AttemptPhase.Succeeds D tried x.2)
      (Ends D tried fun o => (AttemptAnswer.login o).fails) := by
  have early : ∀ e : LoginOutcome, Ends D tried (fun o => (AttemptAnswer.login o).fails) e
      (some (.timed now)) := fun e => ⟨_, rfl, fun _ => trivial⟩
  unfold loginChecks
  refine found_step (fun _ => early _) fun sessionId _ => ?_
  refine beside_step (loadAuthSession_uses trivial fun _ => trivial) early fun session => ?_
  refine ensure_step (fun _ => early _) fun _ => ?_
  refine alwaysE_bind_of (findLoginUser_guarded fun _ => rfl) (fun _ _ h => h) ?_
  rintro user _ ⟨rfl, unlocked⟩
  refine alwaysE_bind_of (checkLoginPassword_guarded (fun _ => rfl) tries unlocked) (fun _ _ h => h) ?_
  rintro _ _ ⟨rfl, succeeds⟩
  refine alwaysE_bind_of (resetLoginFailures_guarded (fun _ => rfl) succeeds) (fun _ _ h => h) ?_
  rintro _ _ rfl
  refine ensure_step (fun _ => ⟨_, rfl, fun _ => .inr (.inr succeeds)⟩) fun _ => ?_
  exact ⟨rfl, succeeds⟩

lemma login_guarded {cmd : LoginCommand} (tries : tried cmd.password) :
    ((Attempt.login tenantId cmd ctx).program D).Guarded (attemptMonitor D tried) .start
      (fun φ a => a.fails = true → φ.Explained D tried) := by
  refine guarded_of_always ((always_bind _ _).mpr ((always_outcome _).mpr ?_))
  change alwaysE _ _ _ (Ends D tried fun o => (AttemptAnswer.login o).fails)
    (Ends D tried fun o => (AttemptAnswer.login o).fails)
  refine guard_step trivial fun now => ?_
  refine alwaysE_bind_of (loginChecks_guarded tries) (fun _ _ h => h) ?_
  rintro ⟨session, user⟩ _ ⟨rfl, succeeds⟩
  refine succeeded_guarded succeeds ?_ fun _ φ explained => ⟨φ, rfl, fun _ => explained⟩
  refine uses_bind (uses_ensureOr _ leavePending_keepsUsers) fun _ => ?_
  refine uses_bind (uses_orLeave userHasConfirmedTotp_keepsUsers _) fun _ => ?_
  refine uses_bind (uses_ensureOr _ leavePending_keepsUsers) fun _ => ?_
  refine uses_bind (uses_orLeave (createSsoSession_uses trivial fun _ => trivial) _) fun _ => ?_
  refine uses_bind (uses_orLeave (uses_op (o := Op.db _) trivial) _) fun _ => ?_
  refine uses_bind (uses_lift finishFlow_keepsUsers) ?_
  rintro (_ | _ | _) <;> trivial

lemma portalLogin_guarded {cmd : PortalLoginCommand} (tries : tried cmd.password) :
    ((Attempt.portalLogin tenantId cmd ctx).program D).Guarded (attemptMonitor D tried) .start
      (fun φ a => a.fails = true → φ.Explained D tried) := by
  refine guarded_of_always ((always_bind _ _).mpr ((always_outcome _).mpr ?_))
  change alwaysE _ _ _ (Ends D tried fun o => (AttemptAnswer.portalLogin o).fails)
    (Ends D tried fun o => (AttemptAnswer.portalLogin o).fails)
  refine guard_step trivial fun now => ?_
  refine alwaysE_bind_of (findLoginUser_guarded fun _ => rfl) (fun _ _ h => h) ?_
  rintro user _ ⟨rfl, unlocked⟩
  refine alwaysE_bind_of (checkLoginPassword_guarded (fun _ => rfl) tries unlocked) (fun _ _ h => h) ?_
  rintro _ _ ⟨rfl, succeeds⟩
  refine alwaysE_bind_of (resetLoginFailures_guarded (fun _ => rfl) succeeds) (fun _ _ h => h) ?_
  rintro _ _ rfl
  refine succeeded_guarded succeeds ?_ fun _ φ explained => ⟨φ, rfl, fun _ => explained⟩
  refine uses_bind (uses_ensure _ _) fun _ => ?_
  refine uses_bind (uses_ensure _ _) fun _ => ?_
  refine uses_bind (uses_orLeave userHasConfirmedTotp_keepsUsers _) fun _ => ?_
  refine uses_bind (uses_ensure _ _) fun _ => ?_
  exact uses_bind (uses_orLeave (createSsoSession_uses trivial fun _ => trivial) _) fun _ => trivial

lemma adminLogin_guarded {cmd : AdminLoginCommand} (tries : tried cmd.password) :
    ((Attempt.adminLogin tenantId cmd ctx).program D).Guarded (attemptMonitor D tried) .start
      (fun φ a => a.fails = true → φ.Explained D tried) := by
  refine guarded_of_always ((always_bind _ _).mpr ((always_outcome _).mpr ?_))
  change alwaysE _ _ _ (Ends D tried fun o => (AttemptAnswer.adminLogin o).fails)
    (Ends D tried fun o => (AttemptAnswer.adminLogin o).fails)
  refine guard_step trivial fun now => ?_
  refine alwaysE_bind_of (findLoginUser_guarded fun _ => rfl) (fun _ _ h => h) ?_
  rintro user _ ⟨rfl, unlocked⟩
  refine alwaysE_bind_of (checkLoginPassword_guarded (fun _ => rfl) tries unlocked) (fun _ _ h => h) ?_
  rintro _ _ ⟨rfl, succeeds⟩
  have ended : ∀ e : AdminLoginOutcome, Ends D tried (fun o => (AttemptAnswer.adminLogin o).fails) e
      (some (.found now user)) := fun e => ⟨_, rfl, fun _ => .inr (.inr succeeds)⟩
  refine beside_step checkAdminPermission_beside ended fun _ => ?_
  refine ensure_step (fun _ => ended _) fun _ => ?_
  refine alwaysE_bind_of (resetLoginFailures_guarded (fun _ => rfl) succeeds) (fun _ _ h => h) ?_
  rintro _ _ rfl
  refine succeeded_guarded succeeds ?_ fun _ φ explained => ⟨φ, rfl, fun _ => explained⟩
  exact uses_bind (uses_orLeave (createSsoSession_uses trivial fun _ => trivial) _) fun _ => trivial

lemma Attempt.guarded (attempt : Attempt) (tries : tried attempt.password) :
    (attempt.program D).Guarded (attemptMonitor D tried) .start
      (fun φ a => a.fails = true → φ.Explained D tried) := by
  cases attempt with
  | login => exact login_guarded tries
  | portalLogin => exact portalLogin_guarded tries
  | adminLogin => exact adminLogin_guarded tries

end

/-! ## What is counted -/

abbrev AttemptPool := Program.Config Op.Res Input Store AttemptAnswer

abbrev AttemptPool.phase (D : Deploy) (c : AttemptPool) (t : Nat) : AttemptPhase :=
  Config.phase (exec D) (attemptMonitor D fun _ => True) t c.trace

/-- The call has written the login state of the account. -/
def counts (id : Uuid) (e : Program.Entry Op Input Store) : Bool :=
  match e.op with
  | .db (.users (.updateLoginState id' _ _)) => id' = id && e.input.fault.isNone
  | _ => false

/-- The failures counted in a trace. -/
def failures (id : Uuid) (trace : List (Program.Entry Op Input Store)) : Nat := trace.countP (counts id)

/-- An attempt that counts a failure writes on the count and the lock it has read. -/
def CountsWhatItRead (D : Deploy) (c : AttemptPool) (x : Nat × Input) : Prop :=
  ∀ id failed lockedUntil k,
    c.thread x.1 = .call (.db (.users (.updateLoginState id failed lockedUntil))) k →
    ∀ now user countedAt, c.phase D x.1 = .counting now user countedAt →
    ∀ row ∈ c.store.users, row.id = user.id →
      row.failedLoginCount = user.failedLoginCount ∧ row.lockedUntil = user.lockedUntil

/-- A reading of the clock between two times. -/
def Within (lo hi : DateTime) (x : Nat × Input) : Prop := lo ≤ x.2.now ∧ x.2.now ≤ hi

/-- The row of the account `u₀` after `n` failures. Its lock is none that runs out between the two
times, and from ten failures on there is one. -/
structure Tallied (lo hi : DateTime) (u₀ : User) (n : Nat) (row : User) : Prop where
  id : row.id = u₀.id
  passwordHash : row.passwordHash = u₀.passwordHash
  status : row.status = u₀.status
  failed : row.failedLoginCount = u₀.failedLoginCount + n
  lock : ∀ l, row.lockedUntil = some l → l ≤ lo ∨ hi < l
  locked : 0 < n → maxFailedLogins ≤ row.failedLoginCount → row.isLockedAt hi = true

/-- What an attempt knows of the account. -/
structure Knows (lo hi : DateTime) (u₀ row : User) (now : DateTime) (user : User) : Prop where
  between : lo ≤ now ∧ now ≤ hi
  passwordHash : user.id = u₀.id → user.passwordHash = u₀.passwordHash
  status : user.id = u₀.id → user.status = u₀.status
  locked : user.id = u₀.id → user.isLockedAt now = true → row.isLockedAt hi = true

/-- What holds of an attempt in a phase. -/
def Sound (lo hi : DateTime) (u₀ row : User) (made : Prop) : AttemptPhase → Prop
  | .start => True
  | .timed now => lo ≤ now ∧ now ≤ hi
  | .found now user => Knows lo hi u₀ row now user
  | .counting now user countedAt => Knows lo hi u₀ row now user ∧ lo ≤ countedAt
  | .counted id => id = u₀.id → made

/-- The attempt has counted a failure of the account. -/
def MadeCount (c : AttemptPool) (id : Uuid) (t : Nat) : Prop :=
  ∃ e ∈ c.trace, e.tid = t ∧ counts id e = true

structure Tally (D : Deploy) (lo hi : DateTime) (u₀ : User) (c : AttemptPool) (row : User) : Prop where
  keys : (c.store.users.map (·.id)).Nodup
  mem : row ∈ c.store.users
  tallied : Tallied lo hi u₀ (failures u₀.id c.trace) row
  sound : ∀ t, Sound lo hi u₀ row (MadeCount c u₀.id t) (c.phase D t)

lemma User.isLockedAt_iff {u : User} {now : DateTime} :
    u.isLockedAt now = true ↔ ∃ l, u.lockedUntil = some l ∧ now < l := by
  unfold User.isLockedAt
  cases u.lockedUntil with
  | none => simp
  | some l => simp

/-- A lock at a time between is one at the end. -/
lemma Tallied.isLockedAt_hi {lo hi now : DateTime} {u₀ row : User} {n : Nat}
    (h : Tallied lo hi u₀ n row) (between : lo ≤ now) (locked : row.isLockedAt now = true) :
    row.isLockedAt hi = true := by
  obtain ⟨l, eq, lt⟩ := User.isLockedAt_iff.mp locked
  rcases h.lock l eq with le | gt
  · simp only [DateTime] at *
    omega
  · exact User.isLockedAt_iff.mpr ⟨l, eq, gt⟩

/-- One more failure, on the row as it is. -/
lemma Tallied.count {lo hi countedAt : DateTime} {u₀ row : User} {n : Nat}
    (h : Tallied lo hi u₀ n row) (between : lo ≤ countedAt)
    (short : hi < lo + Duration.minutes lockDurationMinutes) :
    Tallied lo hi u₀ (n + 1) { row with
      failedLoginCount := row.failedLoginCount + 1
      lockedUntil := lockAfter (row.failedLoginCount + 1) countedAt } := by
  have beyond : hi < countedAt + Duration.minutes lockDurationMinutes := by
    simp only [DateTime, Duration] at *
    omega
  refine ⟨h.id, h.passwordHash, h.status, ?_, ?_, ?_⟩
  · have failed := h.failed
    push_cast
    omega
  · intro l eq
    simp only [lockAfter] at eq
    split at eq
    · cases eq
      exact .inr beyond
    · cases eq
  · intro _ many
    rw [User.isLockedAt_iff]
    exact ⟨_, if_pos many, beyond⟩

/-! ## One step -/

section
variable {tried : String → Prop} {lo hi : DateTime} {u₀ row row' : User} {φ : AttemptPhase}

/-- What an attempt knows stays true as long as a lock stays. -/
lemma Sound.mono {made made' : Prop} (h : Sound lo hi u₀ row made φ)
    (stays : row.isLockedAt hi = true → row'.isLockedAt hi = true) (more : made → made') :
    Sound lo hi u₀ row' made' φ := by
  cases φ with
  | start => trivial
  | timed now => exact h
  | found now user => exact ⟨h.1, h.2, h.3, fun same locked => stays (h.4 same locked)⟩
  | counting now user countedAt =>
    exact ⟨⟨h.1.1, h.1.2, h.1.3, fun same locked => stays (h.1.4 same locked)⟩, h.2⟩
  | counted id => exact fun same => more (h same)

/-- A statement of an attempt leaves the users, or writes a login state. -/
lemma exec_users_allowed {o : Op} (allowed : φ.Allows D tried o) (i : Input) (s : Store) :
    ((exec D o i s).2.users = s.users ∧ ∀ id t, counts id ⟨⟨o, i, s⟩, t⟩ = false) ∨
      ∃ id failed lockedUntil,
      o = .db (.users (.updateLoginState id failed lockedUntil)) ∧ i.fault = none ∧
      (exec D o i s).2.users = s.users.map fun u =>
        if u.id = id then { u with failedLoginCount := failed, lockedUntil := lockedUntil } else u := by
  by_cases users : ∃ q, o = .db (.users q)
  · obtain ⟨q, rfl⟩ := users
    cases f : i.fault with
    | some e =>
      refine .inl ⟨by simp only [exec, f], fun id t => ?_⟩
      unfold counts
      split <;> simp [f]
    | none =>
      cases q with
      | updateLoginState id failed lockedUntil =>
        right
        refine ⟨id, failed, lockedUntil, rfl, rfl, ?_⟩
        simp only [exec, f, Stmt.exec, UserStmt.exec, Store.updateUser]
      | findByUsername =>
        exact .inl ⟨by simp only [exec, f, Stmt.exec, UserStmt.exec], fun _ _ => rfl⟩
      | _ => cases allowed
  · push Not at users
    refine .inl ⟨exec_users i s users, fun id t => ?_⟩
    unfold counts
    split
    · rename_i eq
      exact absurd eq (users _)
    · rfl

lemma keys_step {o : Op} {i : Input} {s : Store} (allowed : φ.Allows D tried o)
    (keys : (s.users.map (·.id)).Nodup) : ((exec D o i s).2.users.map (·.id)).Nodup := by
  rcases exec_users_allowed (D := D) allowed i s with ⟨same, -⟩ | ⟨id, failed, lockedUntil, -, -, mapped⟩
  · rwa [same]
  · have ids : (exec D o i s).2.users.map (·.id) = s.users.map (·.id) := by
      rw [mapped, List.map_map]
      refine List.map_congr_left fun u _ => ?_
      simp only [Function.comp_apply]
      split <;> rfl
    rwa [ids]

lemma failures_snoc (id : Uuid) (trace : List (Program.Entry Op Input Store)) (e : Program.Entry Op Input Store) :
    failures id (trace ++ [e]) = failures id trace + if counts id e then 1 else 0 := by
  simp [failures, List.countP_append, List.countP_cons]

/-- What a step does to the account: it counts a failure on the row as it is, when there is no lock, or
leaves the row. -/
lemma Tally.row_step {c : AttemptPool} {x : Nat × Input} {o : Op}
    {k : Op.Res o → Service AttemptAnswer} (h : Tally D lo hi u₀ c row)
    (e : c.thread x.1 = .call o k) (allowed : (c.phase D x.1).Allows D tried o)
    (reads : CountsWhatItRead D c x)
    (wrong : ∀ user : User, user.passwordHash = u₀.passwordHash →
      ¬ AttemptPhase.Succeeds D tried user)
    (short : hi < lo + Duration.minutes lockDurationMinutes) :
    ∃ row' ∈ (exec D o x.2 c.store).2.users,
      Tallied lo hi u₀ (failures u₀.id (c.trace ++ [⟨⟨o, x.2, c.store⟩, x.1⟩])) row' ∧
        (row.isLockedAt hi = true → row' = row) := by
  rw [failures_snoc]
  have kept : counts u₀.id ⟨⟨o, x.2, c.store⟩, x.1⟩ = false → row ∈ (exec D o x.2 c.store).2.users →
      ∃ row' ∈ (exec D o x.2 c.store).2.users, Tallied lo hi u₀ (failures u₀.id c.trace +
        if counts u₀.id ⟨⟨o, x.2, c.store⟩, x.1⟩ then 1 else 0) row' ∧
          (row.isLockedAt hi = true → row' = row) := by
    intro uncounted mem
    rw [uncounted]
    exact ⟨row, mem, h.tallied, fun _ => rfl⟩
  rcases exec_users_allowed (D := D) allowed x.2 c.store with
    ⟨same, uncounted⟩ | ⟨id, failed, lockedUntil, rfl, quiet, mapped⟩
  · exact kept (uncounted _ _) (same ▸ h.mem)
  · by_cases own : id = u₀.id
    · subst own
      have sound := h.sound x.1
      rcases allowed with ⟨now, user, countedAt, phase, unlocked, same, rfl, rfl⟩ |
        ⟨now, user, phase, same, succeeds⟩
      · rw [phase] at sound
        obtain ⟨failed, lock⟩ := reads _ _ _ k e now user countedAt phase row h.mem
          (h.tallied.id.trans same)
        have counted : counts u₀.id ⟨⟨.db (.users (.updateLoginState u₀.id (user.failedLoginCount + 1)
            (lockAfter (user.failedLoginCount + 1) countedAt))), x.2, c.store⟩, x.1⟩ = true := by
          simp [counts, quiet]
        rw [counted, mapped]
        refine ⟨_, List.mem_map_of_mem h.mem, ?_, fun locked => ?_⟩
        · rw [if_pos h.tallied.id, if_pos rfl, ← failed]
          exact h.tallied.count sound.2 short
        · -- A lock at the end would have been one when the attempt began.
          obtain ⟨l, eq, lt⟩ := User.isLockedAt_iff.mp locked
          have was : user.isLockedAt now = true :=
            User.isLockedAt_iff.mpr ⟨l, lock ▸ eq, by have := sound.1.1.2; simp only [DateTime] at *; omega⟩
          rw [was] at unlocked
          cases unlocked
      · rw [phase] at sound
        exact absurd succeeds (wrong user (sound.2 same.symm))
    · refine kept (by simp [counts, own]) ?_
      rw [mapped]
      refine List.mem_map.mpr ⟨row, h.mem, if_neg ?_⟩
      rw [h.tallied.id]
      exact Ne.symm own

/-- What the attempt knows after its call. -/
lemma Tally.sound_step {c : AttemptPool} {x : Nat × Input} {o : Op} {made : Prop}
    (h : Tally D lo hi u₀ c row) (within : Within lo hi x)
    (more : MadeCount c u₀.id x.1 → made)
    (now_made : counts u₀.id ⟨⟨o, x.2, c.store⟩, x.1⟩ = true → made) :
    Sound lo hi u₀ row made ((c.phase D x.1).next o (exec D o x.2 c.store).1) := by
  have sound := (h.sound x.1).mono id more
  generalize c.phase D x.1 = φ at sound
  cases o with
  | clock =>
    cases φ with
    | start => exact within
    | found now user => exact ⟨sound, within.1⟩
    | _ => exact sound
  | db q =>
    cases q with
    | users q =>
      cases q with
      | findByUsername tenantId username =>
        cases f : x.2.fault with
        | some e =>
          simp only [exec, f]
          exact sound
        | none =>
          simp only [exec, f, Stmt.exec, UserStmt.exec]
          generalize lookup : c.store.users.find? _ = found
          cases found with
          | none => exact sound
          | some user =>
            cases φ with
            | timed now =>
              have mem := List.mem_of_find?_eq_some lookup
              have same : user.id = u₀.id → user = row := fun own =>
                List.inj_on_of_nodup_map h.keys mem h.mem (own.trans h.tallied.id.symm)
              refine ⟨sound, fun own => ?_, fun own => ?_, fun own locked => ?_⟩
              · rw [same own, h.tallied.passwordHash]
              · rw [same own, h.tallied.status]
              · rw [same own] at locked
                exact h.tallied.isLockedAt_hi sound.1 locked
            | _ => exact sound
      | updateLoginState id failed lockedUntil =>
        cases f : x.2.fault with
        | some e =>
          simp only [exec, f]
          exact sound
        | none =>
          simp only [exec, f, Stmt.exec, UserStmt.exec]
          cases φ with
          | counting now user countedAt =>
            rintro rfl
            exact now_made (by simp [counts, f])
          | _ => exact sound
      | _ => exact sound
    | _ => exact sound
  | _ => exact sound

/-- A step of an attempt keeps the tally, and the row once it is locked. -/
lemma Tally.step {c : AttemptPool} {x : Nat × Input}
    {Q : Nat → AttemptPhase → AttemptAnswer → Prop} (h : Tally D lo hi u₀ c row)
    (guarded : Config.Guarded (exec D) (attemptMonitor D tried) Q c)
    (reads : CountsWhatItRead D c x) (within : Within lo hi x)
    (wrong : ∀ user : User, user.passwordHash = u₀.passwordHash →
      ¬ AttemptPhase.Succeeds D tried user)
    (short : hi < lo + Duration.minutes lockDurationMinutes) :
    ∃ row', Tally D lo hi u₀ (Config.step (exec D) c x) row' ∧
      (row.isLockedAt hi = true → row' = row) := by
  cases e : c.thread x.1 with
  | ret a =>
    rw [Config.step_ret e]
    exact ⟨row, h, fun _ => rfl⟩
  | call o k =>
    have allowed : (c.phase D x.1).Allows D tried o := guarded.allowed e
    obtain ⟨row', mem, tallied, keeps⟩ := h.row_step e allowed reads wrong short
    have more : ∀ t, MadeCount c u₀.id t → MadeCount (Config.step (exec D) c x) u₀.id t := by
      rintro t ⟨r, mem, eq⟩
      rw [MadeCount, Config.step_call e]
      exact ⟨r, List.mem_append_left _ mem, eq⟩
    have stays : row.isLockedAt hi = true → row'.isLockedAt hi = true := by
      intro locked
      rwa [keeps locked]
    refine ⟨row', ⟨?_, ?_, ?_, fun t => ?_⟩, keeps⟩
    · rw [Config.step_call e]
      exact keys_step allowed h.keys
    · rw [Config.step_call e]
      exact mem
    · rw [Config.step_call e]
      exact tallied
    · by_cases same : t = x.1
      · subst same
        rw [AttemptPool.phase, Config.phase_step_self e]
        refine (h.sound_step within (more _) fun counted => ?_).mono stays id
        rw [MadeCount, Config.step_call e]
        exact ⟨_, List.mem_append_right _ (List.mem_singleton_self _), rfl, counted⟩
      · rw [AttemptPool.phase, Config.phase_step_ne same]
        exact (h.sound t).mono stays (more t)

end

/-! ## Runs -/

def attemptPool (D : Deploy) (s₀ : Store) (attempts : Nat → Attempt) : AttemptPool :=
  Config.start s₀ fun t => (attempts t).program D

/-- Attempt `t` was on the account and has failed. -/
def Failed (D : Deploy) (c : AttemptPool) (id : Uuid) (t : Nat) : Prop :=
  (c.phase D t).account = some id ∧ ∃ a, c.thread t = .ret a ∧ a.fails = true

/-- A lockout: the row holds every failure, and ten failed attempts lock the account. -/
structure LockedOut (D : Deploy) (u₀ : User) (hi : DateTime) (c : AttemptPool) (row : User) :
    Prop where
  mem : row ∈ c.store.users
  id : row.id = u₀.id
  counted : row.failedLoginCount = u₀.failedLoginCount + failures u₀.id c.trace
  locked : ∀ ts : List Nat, ts.Nodup → 10 ≤ ts.length → (∀ t ∈ ts, Failed D c u₀.id t) →
    row.isLockedAt hi = true

section
variable {tried : String → Prop} {lo hi : DateTime} {u₀ row : User} {c : AttemptPool}

/-- A failed attempt has counted, or the account is locked. -/
lemma Tally.failed (h : Tally D lo hi u₀ c row)
    (guarded : Config.Guarded (exec D) (attemptMonitor D tried)
      (fun _ φ a => a.fails = true → φ.Explained D tried) c)
    (wrong : ∀ user : User, user.passwordHash = u₀.passwordHash →
      ¬ AttemptPhase.Succeeds D tried user)
    (active : u₀.isActive = true) {t : Nat} (failed : Failed D c u₀.id t) :
    row.isLockedAt hi = true ∨ MadeCount c u₀.id t := by
  obtain ⟨account, a, returned, fails⟩ := failed
  have explained : (c.phase D t).Explained D tried := guarded.returned returned fails
  have sound := h.sound t
  generalize c.phase D t = φ at account explained sound
  cases φ with
  | start | timed => cases account
  | found now user =>
    obtain own : user.id = u₀.id := Option.some.inj account
    rcases explained with locked | inactive | succeeds
    · exact .inl (sound.locked own locked)
    · rw [User.isActive, sound.status own, ← User.isActive, active] at inactive
      cases inactive
    · exact absurd succeeds (wrong user (sound.passwordHash own))
  | counting now user countedAt =>
    obtain own : user.id = u₀.id := Option.some.inj account
    exact absurd explained (wrong user (sound.1.passwordHash own))
  | counted id => exact .inr (sound (Option.some.inj account))

/-- Attempts that have counted are not more than the failures. -/
lemma length_le_failures {id : Uuid} {ts : List Nat} (nodup : ts.Nodup)
    (made : ∀ t ∈ ts, MadeCount c id t) : ts.length ≤ failures id c.trace := by
  have sub : ts ⊆ (c.trace.filter (counts id)).map (·.tid) := by
    intro t mem
    obtain ⟨e, made, rfl, counted⟩ := made t mem
    exact List.mem_map_of_mem (List.mem_filter.mpr ⟨made, counted⟩)
  have le := nodup.length_le_of_subset sub
  rwa [List.length_map, ← List.countP_eq_length_filter] at le

lemma Tally.lockedOut (h : Tally D lo hi u₀ c row)
    (guarded : Config.Guarded (exec D) (attemptMonitor D tried)
      (fun _ φ a => a.fails = true → φ.Explained D tried) c)
    (wrong : ∀ user : User, user.passwordHash = u₀.passwordHash →
      ¬ AttemptPhase.Succeeds D tried user)
    (active : u₀.isActive = true) (count : 0 ≤ u₀.failedLoginCount) : LockedOut D u₀ hi c row := by
  refine ⟨h.mem, h.tallied.id, h.tallied.failed, fun ts nodup many failed => ?_⟩
  by_contra unlocked
  have made : ∀ t ∈ ts, MadeCount c u₀.id t := fun t mem =>
    (h.failed guarded wrong active (failed t mem)).resolve_left unlocked
  have le := length_le_failures nodup made
  refine unlocked (h.tallied.locked (by omega) ?_)
  rw [h.tallied.failed, maxFailedLogins]
  omega

end

/-- In every interleaving of attempts with wrong passwords, over less than the duration of a lock, in
which no attempt writes over a count it has not read: every failure is counted, ten failed attempts
lock the account, and a lock stays as it is. -/
theorem lockout_counts_every_failure (D : Deploy) (s₀ : Store) (u₀ : User) (mem : u₀ ∈ s₀.users)
    (keys : (s₀.users.map (·.id)).Nodup) (active : u₀.isActive = true)
    (count : 0 ≤ u₀.failedLoginCount) (attempts : Nat → Attempt)
    (wrong : ∀ t, D.verifyPassword (attempts t).password u₀.passwordHash = .ok false)
    (lo hi : DateTime) (short : hi < lo + Duration.minutes lockDurationMinutes)
    (lock : ∀ l, u₀.lockedUntil = some l → l ≤ lo ∨ hi < l) (earlier later : List (Nat × Input))
    (within : ∀ x ∈ earlier ++ later, Within lo hi x)
    (reads : Config.Admissible (exec D) (CountsWhatItRead D) (attemptPool D s₀ attempts)
      (earlier ++ later)) :
    ∃ row row',
      LockedOut D u₀ hi (Config.exec (exec D) (attemptPool D s₀ attempts) earlier) row ∧
      LockedOut D u₀ hi (Config.exec (exec D) (attemptPool D s₀ attempts) (earlier ++ later)) row' ∧
      (row.isLockedAt hi = true → row' = row) := by
  let tried : String → Prop := fun password => ∃ t, (attempts t).password = password
  let Inv : AttemptPool → User → Prop := fun c row =>
    Config.Guarded (exec D) (attemptMonitor D tried)
      (fun _ φ a => a.fails = true → φ.Explained D tried) c ∧ Tally D lo hi u₀ c row
  have fails : ∀ user : User, user.passwordHash = u₀.passwordHash →
      ¬ AttemptPhase.Succeeds D tried user := by
    rintro user same ⟨_, ⟨t, rfl⟩, right⟩
    rw [same, wrong t] at right
    cases right
  have step : ∀ (c : AttemptPool) x row, Inv c row → CountsWhatItRead D c x ∧ Within lo hi x →
      ∃ row', Inv (Config.step (exec D) c x) row' ∧ (row.isLockedAt hi = true → row' = row) := by
    rintro c x row ⟨guarded, tally⟩ ⟨reads, within⟩
    obtain ⟨row', tally, keeps⟩ := tally.step guarded reads within fails short
    exact ⟨row', ⟨guarded.step x, tally⟩, keeps⟩
  have start : Inv (attemptPool D s₀ attempts) u₀ := by
    refine ⟨fun t => (attempts t).guarded ⟨t, rfl⟩, keys, mem, ?_, fun t => trivial⟩
    exact ⟨rfl, rfl, rfl, (Int.add_zero _).symm, lock, nofun⟩
  have adm := reads.and_all within
  obtain ⟨row, first⟩ := Config.exec_invariant (I := fun c => ∃ row, Inv c row) adm.append_left
    ⟨u₀, start⟩ fun c x ⟨row, inv⟩ fair => (step c x row inv fair).imp fun _ h => h.1
  obtain ⟨row', second, keeps⟩ := Config.exec_invariant
    (I := fun c => ∃ row', Inv c row' ∧ (row.isLockedAt hi = true → row' = row)) adm.append_right
    ⟨row, first, fun _ => rfl⟩ (by
      rintro c x ⟨row₁, inv, keeps⟩ fair
      obtain ⟨row₂, inv, keeps'⟩ := step c x row₁ inv fair
      refine ⟨row₂, inv, fun locked => ?_⟩
      obtain rfl := keeps locked
      exact keeps' locked)
  rw [← Config.exec_append] at second
  exact ⟨row, row', first.2.lockedOut first.1 fails active count,
    second.2.lockedOut second.1 fails active count, keeps⟩

/-- The attempt counts on what it has read, as a test. -/
def countsWhatItRead (D : Deploy) (c : AttemptPool) (x : Nat × Input) : Bool :=
  match c.phase D x.1 with
  | .counting _ user _ => c.store.users.all fun row =>
    row.id ≠ user.id ∨
      (row.failedLoginCount = user.failedLoginCount ∧ row.lockedUntil = user.lockedUntil)
  | _ => true

lemma countsWhatItRead_sound (c : AttemptPool) (x : Nat × Input)
    (h : countsWhatItRead D c x = true) : CountsWhatItRead D c x := by
  intro id failed lockedUntil k _ now user countedAt phase row mem own
  rw [countsWhatItRead, phase, List.all_eq_true] at h
  rcases of_decide_eq_true (h row mem) with other | same
  · exact absurd own other
  · exact same

/-- The attempt has returned and failed, as a test. -/
def hasFailed (D : Deploy) (c : AttemptPool) (id : Uuid) (t : Nat) : Bool :=
  match c.thread t with
  | .ret a => a.fails && decide ((c.phase D t).account = some id)
  | .call _ _ => false

lemma hasFailed_sound {c : AttemptPool} {id : Uuid} {t : Nat} (h : hasFailed D c id t = true) :
    Failed D c id t := by
  unfold hasFailed at h
  split at h
  · rename_i a returned
    rw [Bool.and_eq_true, decide_eq_true_eq] at h
    exact ⟨h.2, a, returned, h.1⟩
  · cases h

namespace Sample

/-- Attempts on Alice's account with a wrong password. -/
def wrongAttempt : Nat → Attempt :=
  fun _ => .portalLogin tenantA ⟨"alice", "wrong"⟩ ⟨none, none⟩

/-- Ten attempts, one after the other. -/
def oneByOne : List (Nat × Input) := (List.range 10).flatMap fun t => List.replicate 4 (t, input 0)

/-- Ten attempts, of which all read the user before the first counts. -/
def allAtOnce : List (Nat × Input) :=
  ((List.range 10).flatMap fun t => List.replicate 2 (t, input 0)) ++
    (List.range 10).flatMap fun t => List.replicate 2 (t, input 0)

def wrongPool : AttemptPool := attemptPool deploy store wrongAttempt

end Sample

open Sample in
set_option maxRecDepth 8000 in
/-- Ten attempts fail, and one failure is counted. -/
theorem failures_lost :
    let c := Config.exec (exec deploy) wrongPool allAtOnce
    (∀ t ∈ List.range 10, Failed deploy c aliceId t) ∧ failures aliceId c.trace = 10 ∧
      ∀ row ∈ c.store.users, row.id = aliceId →
        row.failedLoginCount = 1 ∧ row.isLockedAt now = false := by
  intro c
  have failed : ∀ t ∈ List.range 10, hasFailed deploy c aliceId t = true := by decide +kernel
  exact ⟨fun t mem => hasFailed_sound (failed t mem), by decide +kernel, by decide +kernel⟩

open Sample in
set_option maxRecDepth 8000 in
/-- One by one, they lock the account. -/
theorem lockout_counts_every_failure_sample :
    ∃ row ∈ (Config.exec (exec deploy) wrongPool oneByOne).store.users,
      row.id = aliceId ∧ row.failedLoginCount = 10 ∧ row.isLockedAt now = true := by
  have failed : ∀ t ∈ List.range 10,
      hasFailed deploy (Config.exec (exec deploy) wrongPool oneByOne) aliceId t = true := by
    decide +kernel
  have ten : failures aliceId (Config.exec (exec deploy) wrongPool oneByOne).trace = 10 := by
    decide +kernel
  have wrong : deploy.verifyPassword "wrong" alice.passwordHash = .ok false := by decide +kernel
  have times : ∀ x ∈ oneByOne, now ≤ x.2.now ∧ x.2.now ≤ now := by decide +kernel
  have reads : Config.Admissible (exec deploy) (CountsWhatItRead deploy) wrongPool oneByOne :=
    Config.admissible_of_passes countsWhatItRead_sound (by decide +kernel)
  obtain ⟨_, row, -, out, -⟩ := lockout_counts_every_failure deploy store alice (by decide) (by decide)
    (by decide) (by decide) wrongAttempt (fun _ => wrong) now now (by decide) nofun [] oneByOne times
    reads
  rw [← wrongPool, List.nil_append] at out
  generalize Config.exec (exec deploy) wrongPool oneByOne = c at failed ten out
  refine ⟨row, out.mem, out.id, ?_, ?_⟩
  · rw [out.counted]
    change (0 : Int) + failures aliceId c.trace = 10
    rw [ten]
    rfl
  · exact out.locked (List.range 10) List.nodup_range (by decide)
      fun t mem => hasFailed_sound (failed t mem)

end IdpMvp
