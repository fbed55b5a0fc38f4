import IdpMvp.Program.History
import IdpMvp.Sample
import IdpMvp.Session.Ends

/-!
# Authorization flows

The services that create, fill and consume auth sessions, in whole runs: `authorize`, the logins on an
auth session and the consent. `FlowStep` lists what one call can do to the auth sessions and the codes;
what holds of a row over a run follows from it.
-/

namespace IdpMvp

open Program

variable {D : Deploy} {s s' : Store} {now : DateTime}

/-! ## Calls -/

inductive FlowCall where
  | authorize (tenantId : TenantId) (req : AuthorizeRequest)
  | login (tenantId : TenantId) (cmd : LoginCommand) (ctx : RequestContext)
  | mfaVerify (tenantId : TenantId) (cmd : MfaLoginCommand) (ctx : RequestContext)
  | changePassword (tenantId : TenantId) (cmd : ChangePasswordCommand) (ctx : RequestContext)
  | passkeyComplete (tenantId : TenantId) (challengeId : Uuid) (credentialValue : String)
    (ctx : RequestContext)
  | approve (tenantId : TenantId) (authSessionId : String)
  | deny (tenantId : TenantId) (authSessionId : String)

namespace FlowCall

/-- The store after a call. -/
def run (D : Deploy) (c : FlowCall) (ins : Nat → Input) (s : Store) : Store :=
  match c with
  | authorize tenantId req => ((IdpMvp.authorize D tenantId req).run (exec D) ins s).2
  | login tenantId cmd ctx => ((IdpMvp.login D tenantId cmd ctx).run (exec D) ins s).2
  | mfaVerify tenantId cmd ctx => ((IdpMvp.mfaVerify D tenantId cmd ctx).run (exec D) ins s).2
  | changePassword tenantId cmd ctx =>
    ((IdpMvp.changePassword D tenantId cmd ctx).run (exec D) ins s).2
  | passkeyComplete tenantId challengeId credentialValue ctx =>
    ((IdpMvp.passkeyComplete D tenantId challengeId credentialValue ctx).run (exec D) ins s).2
  | approve tenantId authSessionId => ((IdpMvp.approve D tenantId authSessionId).run (exec D) ins s).2
  | deny tenantId authSessionId => ((IdpMvp.deny D tenantId authSessionId).run (exec D) ins s).2

def tenantId : FlowCall → TenantId
  | authorize t _ | login t _ _ | mfaVerify t _ _ | changePassword t _ _ | passkeyComplete t _ _ _
  | approve t _ | deny t _ => t

/-- The password is right on the auth session, and something else is still asked for. -/
def Pends (D : Deploy) (s : Store) (now : DateTime) (a : AuthSession) (user : User) : FlowCall → Prop
  | login tenantId cmd _ => LoginNames D cmd a user ∧ LoginPending D s tenantId now cmd.password user
  | _ => False

/-- The user is authenticated on the auth session. -/
def Authenticates (D : Deploy) (s : Store) (now : DateTime) (a : AuthSession) (user : User) :
    FlowCall → Prop
  | login tenantId cmd _ => LoginNames D cmd a user ∧ LoginDone D s tenantId now cmd.password user
  | mfaVerify _ cmd _ => MfaDone D s cmd a user
  | changePassword _ cmd _ => ChangeDone D s cmd a user
  | passkeyComplete tenantId challengeId credentialValue _ =>
    PasskeyDone D s tenantId challengeId credentialValue a user
  | _ => False

/-- The request resumes an SSO session. -/
def Resumes (D : Deploy) (s : Store) (userId : Uuid) (authTime : DateTime) : FlowCall → Prop
  | authorize tenantId req => req.prompt ≠ some "login" ∧ ∃ sessionId,
    nonEmpty req.ssoSessionId = some sessionId ∧ Resumed D s tenantId sessionId userId authTime
  | _ => False

end FlowCall

/-- The rows after the password of a user was right on one of them. -/
def markPending (D : Deploy) (id : String) (userId : Uuid) (now : DateTime) (rows : List AuthSession) :
    List AuthSession :=
  rows.map fun b => if D.coll b.id = D.coll id then
    { b with authenticatedUserId := some userId, passwordVerifiedAt := some now } else b

/-! ## What one call does -/

/-- What a call does to the auth sessions and the codes. -/
inductive FlowStep (D : Deploy) (c : FlowCall) (now : DateTime) (s s' : Store) : Prop where
  | kept (sessions : s'.authSessions.Sublist s.authSessions) (codes : s'.codes = s.codes)
  /-- A request starts an auth session, without a user or for the user of a resumed SSO session. -/
  | started {req : AuthorizeRequest} {f : AuthorizeFlow} {id : String} {startedAt : DateTime}
    {authentication : Option (Uuid × DateTime)} (call : c = .authorize c.tenantId req)
    (valid : Validated D s c.tenantId req f)
    (resumes : ∀ userId authTime, authentication = some (userId, authTime) → c.Resumes D s userId authTime)
    (sessions : s'.authSessions = s.authSessions ++ [f.authSession D id startedAt authentication])
    (codes : s'.codes = s.codes)
  /-- A request gets its code at once. -/
  | issued {req : AuthorizeRequest} {f : AuthorizeFlow} {code : String} {issuedAt : DateTime}
    {userId : Uuid} {authTime : DateTime} (call : c = .authorize c.tenantId req)
    (valid : Validated D s c.tenantId req f) (resumes : c.Resumes D s userId authTime)
    (unforced : req.prompt ≠ some "consent")
    (consented : ConsentCovers D s c.tenantId userId f.client.clientId f.scope)
    (sessions : s'.authSessions = s.authSessions)
    (codes : s'.codes = s.codes ++ [(f.issueCommand userId authTime).record D code issuedAt])
  | pending {a : AuthSession} {user : User} (session : OnSession D s c.tenantId now a)
    (pends : c.Pends D s now a user)
    (sessions : s'.authSessions = markPending D a.id user.id now s.authSessions)
    (codes : s'.codes = s.codes)
  /-- A login is complete; its code is issued if there is a consent. -/
  | authenticated {a : AuthSession} {user : User} (session : OnSession D s c.tenantId now a)
    (authenticates : c.Authenticates D s now a user)
    (sessions : s'.authSessions = s.authSessions ∨
      s'.authSessions = markAuthenticated D a.id user.id now s.authSessions ∨
      s'.authSessions = dropSession D a.id (markAuthenticated D a.id user.id now s.authSessions))
    (codes : s'.codes = s.codes ∨ (Consented D s c.tenantId user.id a ∧ ∃ code issuedAt, s'.codes =
      s.codes ++ [(a.issueCommand c.tenantId user.id now).record D code issuedAt]))
  | approved {a : AuthSession} {authSessionId : String} {userId : Uuid} {authTime issuedAt : DateTime}
    {code : String} (call : c = .approve c.tenantId authSessionId)
    (session : OnSession D s c.tenantId now a) (named : D.coll a.id = D.coll authSessionId)
    (user : a.authenticatedUserId = some userId) (time : a.authTime = some authTime)
    (sessions : s'.authSessions.Sublist s.authSessions)
    (codes : s'.codes = s.codes ++ [(a.issueCommand c.tenantId userId authTime).record D code issuedAt])

lemma Kept.flowStep {c : FlowCall} (kept : Kept s s') : FlowStep D c now s s' :=
  .kept kept.authSessions kept.codes

lemma SessionEnd.flowStep {c : FlowCall} {ctx : RequestContext}
    (h : SessionEnd D c.tenantId ctx now (fun a user => c.Pends D s now a user)
      (fun a user => c.Authenticates D s now a user) s s') : FlowStep D c now s s' := by
  cases h with
  | refused kept => exact kept.flowStep
  | pending same session row evidence => exact .pending session evidence rfl same.codes
  | done same session row evidence completed =>
    have sessions := completed.authSessions
    have codes := completed.codes
    rw [same.sessions] at sessions
    rw [same.codes, Consented, ConsentCovers, same.consents] at codes
    exact .authenticated session evidence sessions codes

lemma AuthorizeEnd.flowStep {tenantId : TenantId} {req : AuthorizeRequest} {outcome : AuthorizeOutcome}
    (h : AuthorizeEnd D tenantId req s outcome s') :
    FlowStep D (.authorize tenantId req) now s s' := by
  cases h with
  | fatal | invalid | refused => exact .kept (.refl _) rfl
  | login valid sso =>
    refine .started rfl valid ?_ rfl rfl
    rintro _ _ ⟨⟩
  | consent valid sso cookie resumed unforced =>
    refine .started rfl valid ?_ rfl rfl
    rintro _ _ ⟨⟩
    exact ⟨unforced, _, cookie, resumed⟩
  | issued valid sso cookie resumed unforced consented =>
    exact .issued rfl valid ⟨unforced.1, _, cookie, resumed⟩ unforced.2 consented rfl rfl

lemma ApproveEnd.flowStep {tenantId : TenantId} {authSessionId : String}
    (h : ApproveEnd D tenantId authSessionId now s s') :
    FlowStep D (.approve tenantId authSessionId) now s s' := by
  cases h with
  | refused kept => exact kept.flowStep
  | consented => exact .kept (.refl _) rfl
  | issued session named user time left =>
    refine .approved rfl session named user time ?_ rfl
    rcases left with rfl | rfl
    · exact .refl _
    · exact List.filter_sublist

/-- Every call does one of these. -/
lemma FlowCall.run_step (c : FlowCall) (ins : Nat → Input) (s : Store) :
    FlowStep D c (ins 0).now s (c.run D ins s) := by
  cases c with
  | authorize tenantId req => exact (authorize_always.run ins).flowStep
  | login tenantId cmd ctx =>
    exact SessionEnd.flowStep (c := .login tenantId cmd ctx) (login_end cmd ins)
  | mfaVerify tenantId cmd ctx =>
    exact SessionEnd.flowStep (c := .mfaVerify tenantId cmd ctx) (mfaVerify_end cmd ins)
  | changePassword tenantId cmd ctx =>
    exact SessionEnd.flowStep (c := .changePassword tenantId cmd ctx) (changePassword_end cmd ins)
  | passkeyComplete tenantId challengeId credentialValue ctx =>
    exact SessionEnd.flowStep (c := .passkeyComplete tenantId challengeId credentialValue ctx)
      (passkeyComplete_end challengeId credentialValue ins)
  | approve tenantId authSessionId => exact (approve_end authSessionId ins).flowStep
  | deny tenantId authSessionId => exact (deny_end authSessionId ins).flowStep

/-! ## Runs -/

/-- The primary key of the auth sessions, under the collation. -/
def Store.SessionKeys (D : Deploy) (s : Store) : Prop := (s.authSessions.map fun a => D.coll a.id).Nodup

/-- What happens to auth sessions besides: expired ones are deleted, and the deletion of a user takes
the user off. -/
structure SessionsLost (D : Deploy) (s s' : Store) : Prop where
  rows : ∀ b ∈ s'.authSessions, ∃ a ∈ s.authSessions, b = a ∨ b = { a with authenticatedUserId := none }
  keys : s'.SessionKeys D

/-- Runs of the flows, from no auth session on. Between the calls, nothing is said of the other tables. -/
abbrev FlowRuns (D : Deploy) : List (Event FlowCall Input Store) → Store → Prop :=
  Runs (FlowCall.run D) (fun s => s.authSessions = []) (SessionsLost D) (fun _ _ => True)

lemma FlowCall.run_keys (c : FlowCall) (ins : Nat → Input) (keys : s.SessionKeys D) :
    (c.run D ins s).SessionKeys D := by
  have kept : ∀ {α : Type} (p : Service α), (p.run (exec D) ins s).2.SessionKeys D := fun p =>
    Prog.run_invariant (I := Store.SessionKeys D) exec_authSession_keys p keys
  cases c <;> exact kept _

/-- The row of an auth session. -/
lemma Store.SessionKeys.eq (keys : s.SessionKeys D) {a b : AuthSession} (ha : a ∈ s.authSessions)
    (hb : b ∈ s.authSessions) (id : D.coll a.id = D.coll b.id) : a = b :=
  eq_of_nodup_map keys ha hb id

/-! ## The authentication time -/

/-- The event has completed an authentication of the user and stored its time on the auth session: it
has resumed an SSO session, or the user has passed a login on it. -/
structure CompletesOn (D : Deploy) (e : Event FlowCall Input Store) (id : String) (userId : Uuid)
    (authTime : DateTime) : Prop where
  stored : ∃ b ∈ (e.post (FlowCall.run D)).authSessions, b.id = id ∧
    b.authenticatedUserId = some userId ∧ b.authTime = some authTime
  completed : e.call.Resumes D e.pre userId authTime ∨ (authTime = (e.ins 0).now ∧
    ∃ a user, OnSession D e.pre e.call.tenantId authTime a ∧ D.coll a.id = D.coll id ∧
      user.id = userId ∧ e.call.Authenticates D e.pre authTime a user)

/-- A login that leaves something pending finds no authentication on the auth session, or one of the
same user. -/
def FlowCall.KeepsTime (D : Deploy) (s : Store) (now : DateTime) (c : FlowCall) : Prop :=
  ∀ a user, OnSession D s c.tenantId now a → c.Pends D s now a user →
    a.authTime = none ∨ a.authenticatedUserId = some user.id

/-- Whoever an auth session says was authenticated, at the time it says, was so by an event. -/
structure Timed (D : Deploy) (es : List (Event FlowCall Input Store)) (s : Store) : Prop where
  keys : s.SessionKeys D
  rows : ∀ b ∈ s.authSessions, ∀ userId authTime, b.authenticatedUserId = some userId →
    b.authTime = some authTime → ∃ e ∈ es, CompletesOn D e b.id userId authTime

section
variable {es : List (Event FlowCall Input Store)} {c : FlowCall} {ins : Nat → Input}

lemma Timed.call (h : Timed D es s) (keeps : c.KeepsTime D s (ins 0).now) :
    Timed D (es ++ [⟨c, ins, s⟩]) (c.run D ins s) := by
  refine ⟨c.run_keys ins h.keys, fun b mem userId authTime user time => ?_⟩
  have old : b ∈ s.authSessions →
      ∃ e ∈ es ++ [⟨c, ins, s⟩], CompletesOn D e b.id userId authTime := by
    intro mem
    obtain ⟨e, before, completes⟩ := h.rows b mem userId authTime user time
    exact ⟨e, List.mem_append_left _ before, completes⟩
  have new : (c.Resumes D s userId authTime ∨ (authTime = (ins 0).now ∧
      ∃ a user, OnSession D s c.tenantId authTime a ∧ D.coll a.id = D.coll b.id ∧
        user.id = userId ∧ c.Authenticates D s authTime a user)) →
      ∃ e ∈ es ++ [⟨c, ins, s⟩], CompletesOn D e b.id userId authTime :=
    fun completed => ⟨⟨c, ins, s⟩, List.mem_append_right _ (List.mem_singleton_self _),
      ⟨b, mem, rfl, user, time⟩, completed⟩
  cases c.run_step (D := D) ins s with
  | kept sessions codes => exact old (sessions.subset mem)
  | @started req f id startedAt authentication call valid resumes sessions codes =>
    rw [sessions, List.mem_append, List.mem_singleton] at mem
    rcases mem with mem | rfl
    · exact old mem
    · -- The new row carries what was resumed.
      obtain ⟨x, eq, rfl⟩ := Option.map_eq_some_iff.mp user
      obtain ⟨y, eq', rfl⟩ := Option.map_eq_some_iff.mp time
      obtain rfl := Option.some.inj (eq.symm.trans eq')
      exact new (.inl (resumes x.1 x.2 eq))
  | issued call valid resumes unforced consented sessions codes => exact old (sessions ▸ mem)
  | @pending a who session pends sessions codes =>
    rw [sessions] at mem
    rcases mem_map_ite mem with mem | ⟨a', mem', same, rfl⟩
    · exact old mem
    · obtain rfl := h.keys.eq mem' session.mem same
      obtain none | same := keeps a' who session pends
      · rw [none] at time
        cases time
      · obtain ⟨e, before, completes⟩ := h.rows a' mem' userId authTime (same.trans user) time
        exact ⟨e, List.mem_append_left _ before, completes⟩
  | @authenticated a who session authenticates sessions codes =>
    have marked : b ∈ markAuthenticated D a.id who.id (ins 0).now s.authSessions →
        ∃ e ∈ es ++ [⟨c, ins, s⟩], CompletesOn D e b.id userId authTime := by
      intro mem
      rcases mem_map_ite mem with mem | ⟨a', mem', same, rfl⟩
      · exact old mem
      · obtain rfl := Option.some.inj user
        obtain rfl := Option.some.inj time
        exact new (.inr ⟨rfl, a, who, session, same.symm, rfl, authenticates⟩)
    rcases sessions with sessions | sessions | sessions
    · exact old (sessions ▸ mem)
    · exact marked (sessions ▸ mem)
    · rw [sessions] at mem
      exact marked (List.mem_filter.mp mem).1
  | approved call session named who at' sessions codes => exact old (sessions.subset mem)

lemma FlowRuns.timed (run : FlowRuns D es s)
    (keeps : ∀ e ∈ es, e.call.KeepsTime D e.pre (e.ins 0).now) : Timed D es s := by
  refine run.invariant (I := fun es s => (∀ e ∈ es, e.call.KeepsTime D e.pre (e.ins 0).now) →
    Timed D es s) ?_ ?_ ?_ keeps
  · intro s empty _
    refine ⟨?_, ?_⟩
    · rw [Store.SessionKeys, empty]
      exact List.nodup_nil
    · rw [empty]
      exact nofun
  · intro es s s' timed lost keeps
    refine ⟨lost.keys, fun b mem userId authTime user time => ?_⟩
    obtain ⟨a, mem, rfl | rfl⟩ := lost.rows b mem
    · exact (timed keeps).rows b mem userId authTime user time
    · cases user
  · intro es s c ins timed _ keeps
    refine (timed fun e mem => keeps e (List.mem_append_left _ mem)).call ?_
    exact keeps _ (List.mem_append_right _ (List.mem_singleton_self _))

end

/-- In every run in which no login leaves something pending on an auth session that another user was
authenticated on, the consent gives a code only to a user who has completed an authentication on that
session, and with the time of it. -/
theorem approved_after_authentication {es before after : List (Event FlowCall Input Store)}
    {e : Event FlowCall Input Store} (run : FlowRuns D es s)
    (keeps : ∀ e ∈ es, e.call.KeepsTime D e.pre (e.ins 0).now) (split : es = before ++ e :: after)
    {tenantId : TenantId} {authSessionId : String} (call : e.call = .approve tenantId authSessionId) :
    ∀ c ∈ (e.post (FlowCall.run D)).codes, c ∉ e.pre.codes →
      ∃ a ∈ e.pre.authSessions, D.coll a.id = D.coll authSessionId ∧ a.tenantId = tenantId ∧
        ∃ e' ∈ before, CompletesOn D e' a.id c.userId c.authTime := by
  intro c mem new
  have timed : Timed D before e.pre :=
    FlowRuns.timed (run.upTo split).1 fun e' mem => keeps e' (split ▸ List.mem_append_left _ mem)
  cases e.call.run_step (D := D) e.ins e.pre with
  | kept sessions codes | started _ _ _ _ codes | pending _ _ _ codes =>
    exact absurd (codes ▸ mem) new
  | issued call' =>
    rw [call] at call'
    cases call'
  | authenticated session authenticates =>
    rw [call] at authenticates
    cases authenticates
  | approved call' session named user time sessions codes =>
    rw [call] at call' session
    obtain rfl := (FlowCall.approve.inj call').2
    rw [Event.post, codes, List.mem_append, List.mem_singleton] at mem
    obtain rfl := mem.resolve_left new
    exact ⟨_, session.mem, named, session.tenant, timed.rows _ session.mem _ _ user time⟩

namespace Sample

/-- A request of the public client, without an SSO session. -/
def authorizeRequest : AuthorizeRequest where
  responseType := some "code"
  clientId := some "app"
  redirectUri := some "https://app.example.com/cb"
  scope := some "openid profile"
  state := some "s1"
  nonce := some "n1"
  codeChallenge := some challenge
  codeChallengeMethod := some "S256"
  ssoSessionId := none
  prompt := none
  maxAge := none

/-- A login on the auth session `sessionId 7`. -/
def loginOn (username password : String) : FlowCall :=
  .login tenantA ⟨some (sessionId 7), username, password, csrfToken⟩ browser

/-- The administrator has a confirmed TOTP secret, and nobody has begun. -/
def flowStore : Store :=
  { store with
    codes := []
    totpSecrets := [confirmedTotp adminId] }

/-- A call on inputs that are all `input b`, after which the next one starts. -/
def eventOf (call : FlowCall) (b : UInt8) (s : Store) : Event FlowCall Input Store :=
  ⟨call, fun _ => input b, s⟩

def requested : Event FlowCall Input Store :=
  eventOf (.authorize tenantA authorizeRequest) 7 flowStore

/-- Alice logs in and is asked for her consent. -/
def aliceLogin : Event FlowCall Input Store :=
  eventOf (loginOn "alice" "ChangeMe!123") 5 (requested.post (FlowCall.run loginDeploy))

/-- Then the administrator's password is given on the same session; the TOTP code is still asked for. -/
def adminPassword : Event FlowCall Input Store :=
  eventOf (loginOn "admin" "admin@example.com") 6 (aliceLogin.post (FlowCall.run loginDeploy))

/-- The consent after a login. -/
def approval (login : Event FlowCall Input Store) : Event FlowCall Input Store :=
  eventOf (.approve tenantA (sessionId 7)) 2 (login.post (FlowCall.run loginDeploy))

lemma aliceLogin_run :
    FlowRuns loginDeploy [requested, aliceLogin] (aliceLogin.post (FlowCall.run loginDeploy)) := by
  have start : FlowRuns loginDeploy [] requested.pre := .start rfl
  exact (start.post requested trivial).post aliceLogin trivial

set_option maxRecDepth 8000 in
/-- What the administrator's password and the consent after it leave. -/
lemma adminApproval_left :
    (∃ c ∈ ((approval adminPassword).post (FlowCall.run loginDeploy)).codes,
      c ∉ (approval adminPassword).pre.codes ∧ c.userId = adminId) ∧
    (∀ b ∈ (requested.post (FlowCall.run loginDeploy)).authSessions, b.authenticatedUserId = none) ∧
    (∀ b ∈ (aliceLogin.post (FlowCall.run loginDeploy)).authSessions,
      b.authenticatedUserId = some aliceId) ∧
    adminPassword.pre.hasConfirmedTotp adminId = true := by
  decide +kernel

end Sample

set_option maxRecDepth 8000 in
open Sample in
/-- The consent then gives a code of the administrator, who has not completed an authentication. -/
theorem code_without_authentication :
    ¬ ∀ es s, FlowRuns loginDeploy es s → ∀ before e after, es = before ++ e :: after →
      ∀ tenantId authSessionId, e.call = .approve tenantId authSessionId →
        ∀ c ∈ (e.post (FlowCall.run loginDeploy)).codes, c ∉ e.pre.codes →
          ∃ a ∈ e.pre.authSessions, loginDeploy.coll a.id = loginDeploy.coll authSessionId ∧
            a.tenantId = tenantId ∧ ∃ e' ∈ before, CompletesOn loginDeploy e' a.id c.userId c.authTime := by
  intro claim
  have run : FlowRuns loginDeploy [requested, aliceLogin, adminPassword, approval adminPassword] _ :=
    (aliceLogin_run.post adminPassword trivial).post (approval adminPassword) trivial
  obtain ⟨⟨c, mem, new, user⟩, first, second, totp⟩ := adminApproval_left
  obtain ⟨a, -, -, -, e, before, ⟨b, row, -, stored, -⟩, completed⟩ :=
    claim _ _ run [requested, aliceLogin, adminPassword] _ [] rfl _ _ rfl c mem new
  rw [user] at stored completed
  simp only [List.mem_cons, List.not_mem_nil, or_false] at before
  rcases before with rfl | rfl | rfl
  · cases (first b row).symm.trans stored
  · exact absurd ((second b row).symm.trans stored) (by decide)
  · -- The administrator's own login has left the second factor pending.
    rcases completed with resumes | ⟨-, a, who, -, -, id, -, done⟩
    · exact resumes.elim
    · have none := done.totp
      rw [id, totp] at none
      cases none

set_option maxRecDepth 8000 in
open Sample in
theorem approved_after_authentication_sample :
    ∃ c ∈ ((approval aliceLogin).post (FlowCall.run loginDeploy)).codes,
      ∃ a ∈ (approval aliceLogin).pre.authSessions, ∃ e ∈ [requested, aliceLogin],
        CompletesOn loginDeploy e a.id c.userId c.authTime := by
  have run : FlowRuns loginDeploy [requested, aliceLogin, approval aliceLogin] _ :=
    aliceLogin_run.post (approval aliceLogin) trivial
  have code : ∃ c ∈ ((approval aliceLogin).post (FlowCall.run loginDeploy)).codes,
      c ∉ (approval aliceLogin).pre.codes := by decide +kernel
  have untimed : ∀ a ∈ aliceLogin.pre.authSessions, a.authTime = none := by decide +kernel
  obtain ⟨c, mem, new⟩ := code
  have keeps : ∀ e ∈ [requested, aliceLogin, approval aliceLogin],
      e.call.KeepsTime loginDeploy e.pre (e.ins 0).now := by
    intro e mem a user session pends
    simp only [List.mem_cons, List.not_mem_nil, or_false] at mem
    rcases mem with rfl | rfl | rfl
    · exact pends.elim
    · exact .inl (untimed a session.mem)
    · exact pends.elim
  have split : [requested, aliceLogin, approval aliceLogin] =
    [requested, aliceLogin] ++ approval aliceLogin :: [] := rfl
  obtain ⟨a, row, -, -, e, before, completes⟩ :=
    approved_after_authentication run keeps split rfl c mem new
  exact ⟨c, mem, a, row, e, before, completes⟩

end IdpMvp
