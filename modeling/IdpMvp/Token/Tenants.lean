import IdpMvp.Session.Flows
import IdpMvp.Token.Revocation

/-!
# Tenants

Codes, refresh tokens and auth sessions are rows of tables that all tenants share, and access tokens are
signed with keys that all tenants share. What a flow of one tenant creates is told apart by the tenant in
the `WHERE` clauses and by the issuer in the claims. Only the revocation endpoint asks for neither.
-/

namespace IdpMvp

open Program Program.Prog Program.Flow Prog

/-! ## Requests -/

/-- A request to one of the services that create or accept codes, tokens and auth sessions. -/
inductive TenantCall where
  | flow (c : FlowCall)
  | consentInfo (tenantId : TenantId) (authSessionId : String)
  | hasMfaPending (tenantId : TenantId) (authSessionId : String)
  | exchange (tenantId : TenantId) (cmd : TokenCommand)
  | userinfo (tenantId : TenantId) (token : String)
  | introspect (tenantId : TenantId) (token : String) (hint : Option String) (clientId : String)
    (basic : Option (String × String))
  | revoke (tenantId : TenantId) (token : String) (hint : Option String) (clientId : String)
    (basic : Option (String × String))

namespace TenantCall

def tenantId : TenantCall → TenantId
  | flow c => c.tenantId
  | consentInfo t _ | hasMfaPending t _ | exchange t _ | userinfo t _ | introspect t _ _ _ _
  | revoke t _ _ _ _ => t

/-- The store after a call. -/
def run (D : Deploy) (c : TenantCall) (ins : Nat → Input) (s : Store) : Store :=
  match c with
  | flow c => c.run D ins s
  | consentInfo t id => ((IdpMvp.consentInfo t id).run (exec D) ins s).2
  | hasMfaPending t id => ((IdpMvp.hasMfaPending t id).run (exec D) ins s).2
  | exchange t cmd => ((IdpMvp.exchange D t cmd).run (exec D) ins s).2
  | userinfo t token => ((IdpMvp.userinfo D t token).run.run (exec D) ins s).2
  | introspect t token hint clientId basic =>
    ((IdpMvp.introspect D t token hint clientId basic).run.run (exec D) ins s).2
  | revoke t token hint clientId basic =>
    ((IdpMvp.revoke D t token hint clientId basic).run.run (exec D) ins s).2

end TenantCall

/-! ## Artefacts -/

/-- What a flow hands out. -/
inductive Artefact where
  | code (plain : String)
  | refreshToken (plain : String)
  | accessToken (token : String)
  | authSession (id : String)

/-- The event has created the artefact: a row that was not there, or a token that is answered. -/
def Creates (D : Deploy) (e : Event TenantCall Input Store) : Artefact → Prop
  | .code plain => (∀ r ∈ e.pre.codes, r.codeHash ≠ D.sha256Hex plain) ∧
    ∃ c, e.call = .flow c ∧ ∃ r ∈ (e.post (TenantCall.run D)).codes, r.codeHash = D.sha256Hex plain
  | .authSession id => (∀ a ∈ e.pre.authSessions, D.coll a.id ≠ D.coll id) ∧
    ∃ c, e.call = .flow c ∧ ∃ a ∈ (e.post (TenantCall.run D)).authSessions, a.id = id
  | .refreshToken plain => ∃ t cmd tokens, e.call = .exchange t cmd ∧
    ((exchange D t cmd).run (exec D) e.ins e.pre).1 = .ok tokens ∧ tokens.refreshToken = some plain
  | .accessToken token => ∃ t cmd tokens, e.call = .exchange t cmd ∧
    ((exchange D t cmd).run (exec D) e.ins e.pre).1 = .ok tokens ∧ tokens.accessToken = token

namespace Artefact

/-- The operation does not draw the text of the artefact again for a new row. -/
def NotDrawn (D : Deploy) : Artefact → Op → Prop
  | code plain, op => ∀ c, op = .db (.codes (.create c)) → c.codeHash ≠ D.sha256Hex plain
  | refreshToken plain, op => NotCreating (D.sha256Hex plain) op
  | authSession id, op => ∀ a, op = .db (.authSessions (.create a)) → D.coll a.id ≠ D.coll id
  | accessToken _, _ => True

/-- SHA-256 does not give an access token the hash of a stored refresh token. -/
def Unmistaken (D : Deploy) (s : Store) : Artefact → Prop
  | accessToken token => ∀ r ∈ s.refreshTokens, r.tokenHash ≠ D.sha256Hex token
  | _ => True

end Artefact

/-! ## Presenting an artefact -/

/-- The request is on the auth session, as the database compares ids. -/
def FlowCall.Names (D : Deploy) (s : Store) (id : String) : FlowCall → Prop
  | login _ cmd _ => cmd.authSessionId.map D.coll = some (D.coll id)
  | mfaVerify _ cmd _ => cmd.authSessionId.map D.coll = some (D.coll id)
  | changePassword _ cmd _ => cmd.authSessionId.map D.coll = some (D.coll id)
  | passkeyComplete _ challengeId _ _ => ∃ challenge,
    s.passkeyChallenges.find? (·.id = challengeId) = some challenge ∧
      challenge.authSessionId.map D.coll = some (D.coll id)
  | approve _ authSessionId | deny _ authSessionId => D.coll authSessionId = D.coll id
  | authorize _ _ => False

/-- The request presents the artefact for what it is. -/
def TenantCall.Presents (D : Deploy) (s : Store) : TenantCall → Artefact → Prop
  | flow c, .authSession id => c.Names D s id
  | consentInfo _ authSessionId, .authSession id | hasMfaPending _ authSessionId, .authSession id =>
    D.coll authSessionId = D.coll id
  | exchange _ cmd, .code plain =>
    cmd.grantType = some "authorization_code" ∧ nonEmpty cmd.code = some plain
  | exchange _ cmd, .refreshToken plain =>
    cmd.grantType = some "refresh_token" ∧ nonEmpty cmd.refreshToken = some plain
  | userinfo _ token, .accessToken token' => token = token'
  | introspect _ token _ _ _, .accessToken token' | introspect _ token _ _ _, .refreshToken token'
  | revoke _ token _ _ _, .accessToken token' | revoke _ token _ _ _, .refreshToken token' =>
    token = token'
  | _, _ => False

/-! ## Refusals -/

def LoginOutcome.isRefusal : LoginOutcome → Bool
  | sessionExpired | csrfMismatch | rateLimited | invalidCredentials | locked | internal _ => true
  | _ => false

def MfaLoginOutcome.isRefusal : MfaLoginOutcome → Bool
  | success _ _ _ | consentRequired _ _ => false
  | _ => true

def ChangePasswordOutcome.isRefusal : ChangePasswordOutcome → Bool
  | success _ _ | consentRequired _ _ => false
  | _ => true

def ConsentOutcome.isRefusal : ConsentOutcome → Bool
  | approved _ | denied _ => false
  | _ => true

/-- The answer to a request on an auth session is a refusal. -/
def FlowCall.refused (D : Deploy) (c : FlowCall) (ins : Nat → Input) (s : Store) : Bool :=
  match c with
  | authorize _ _ => false
  | login t cmd ctx => ((IdpMvp.login D t cmd ctx).run (exec D) ins s).1.isRefusal
  | mfaVerify t cmd ctx => ((IdpMvp.mfaVerify D t cmd ctx).run (exec D) ins s).1.isRefusal
  | changePassword t cmd ctx => ((IdpMvp.changePassword D t cmd ctx).run (exec D) ins s).1.isRefusal
  | passkeyComplete t challengeId credentialValue ctx =>
    ((IdpMvp.passkeyComplete D t challengeId credentialValue ctx).run (exec D) ins s).1.isRefusal
  | approve t id => ((IdpMvp.approve D t id).run (exec D) ins s).1.isRefusal
  | deny t id => ((IdpMvp.deny D t id).run (exec D) ins s).1.isRefusal

/-- What the request presents is not accepted: the answer is a refusal, and the store is as before. A
passkey login may have used up its challenge. A revocation answers alike in any case. -/
def TenantCall.Refuses (D : Deploy) (c : TenantCall) (ins : Nat → Input) (s : Store) : Prop :=
  match c with
  | flow c => c.refused D ins s = true ∧ Same s (c.run D ins s)
  | consentInfo t id => (∀ info, ((IdpMvp.consentInfo t id).run (exec D) ins s).1 ≠ .ok (some info)) ∧
    c.run D ins s = s
  | hasMfaPending t id => ((IdpMvp.hasMfaPending t id).run (exec D) ins s).1 = false ∧ c.run D ins s = s
  | exchange t cmd => (∀ tokens, ((IdpMvp.exchange D t cmd).run (exec D) ins s).1 ≠ .ok tokens) ∧
    c.run D ins s = s
  | userinfo t token => (∀ info, ((IdpMvp.userinfo D t token).run.run (exec D) ins s).1 ≠ .ok info) ∧
    c.run D ins s = s
  | introspect t token hint clientId basic =>
    (∀ resp, ((IdpMvp.introspect D t token hint clientId basic).run.run (exec D) ins s).1 = .ok resp →
      resp.active = false) ∧ c.run D ins s = s
  | revoke _ _ _ _ _ => c.run D ins s = s

/-- The request is no revocation that would take effect: its client does not pass, or what it would
revoke is revoked already. -/
def TenantCall.Spares (D : Deploy) (s : Store) (ins : Nat → Input) : TenantCall → Prop
  | revoke t token hint clientId basic =>
    (ins 0).fault = none → RevocationClientOk D s t clientId basic →
      (RevokesRefresh D token hint ins → RevokedHash (D.sha256Hex token) s) ∧
      (RevokesAccess D token hint ins → ∀ jti exp, readJti D token = some (jti, exp) →
        JtiRevoked D s (truncateJti jti))
  | _ => True

/-! ## Auth sessions of other tenants -/

variable {D : Deploy} {s : Store} {tenantId : TenantId} {ins : Nat → Input}

/-- The tenant has no auth session with this id. -/
def Store.lacksSession (D : Deploy) (s : Store) (tenantId : TenantId) (id : String) : Prop :=
  ∀ a ∈ s.authSessions, D.coll a.id = D.coll id → a.tenantId ≠ tenantId

section
variable {id id' : String} {ε : Type}

lemma Store.lacksSession.find (absent : s.lacksSession D tenantId id) (same : D.coll id' = D.coll id) :
    s.authSessions.find? (fun a => D.coll a.id = D.coll id' ∧ a.tenantId = tenantId) = none := by
  rw [List.find?_eq_none]
  intro a mem
  simp only [decide_eq_true_eq, not_and]
  exact fun named => absent a mem (named.trans same)

/-- The auth session is not found, whatever comes next. -/
lemma loadAuthSession_absent (absent : s.lacksSession D tenantId id) (same : D.coll id' = D.coll id)
    {now : DateTime} {expired : ε} {internal : String → ε} {Q : AuthSession → Store → Prop}
    {E : ε → Store → Prop} (leave : E expired s) (fails : ∀ d, E (internal d) s) :
    alwaysE (exec D) (loadAuthSession tenantId id' now expired internal) s Q E := by
  unfold loadAuthSession
  refine read_step (fun _ => rfl) (fun e => fails e.display) fun _ => ?_
  rw [absent.find same]
  exact leave

lemma nonEmpty_coll {o : Option String} (named : o.map D.coll = some (D.coll id)) {x : String}
    (given : nonEmpty o = some x) : D.coll x = D.coll id := by
  cases o with
  | none => cases given
  | some y =>
    simp only [nonEmpty] at given
    split at given
    · cases given
    · exact Option.some.inj given ▸ Option.some.inj named

lemma login_absent (absent : s.lacksSession D tenantId id) {cmd : LoginCommand}
    (named : cmd.authSessionId.map D.coll = some (D.coll id)) {ctx : RequestContext} :
    always (exec D) (login D tenantId cmd ctx) s (fun o s' => o.isRefusal = true ∧ s' = s) := by
  unfold login loginChecks
  rw [always_outcome]
  refine clock_step fun now => ?_
  rw [alwaysE_bind]
  refine found_step (fun _ => ⟨rfl, rfl⟩) fun x given => ?_
  exact alwaysE_bind_of (loadAuthSession_absent absent (nonEmpty_coll named given) ⟨rfl, rfl⟩
    fun _ => ⟨rfl, rfl⟩) (fun _ _ h => h) fun _ _ h => False.elim h

lemma loadPendingSession_absent (absent : s.lacksSession D tenantId id) {given : Option String}
    (named : given.map D.coll = some (D.coll id)) {csrfToken : String} {now : DateTime}
    {expired csrfMismatch : ε} {internal : String → ε} {Q : AuthSession × Uuid → Store → Prop}
    {E : ε → Store → Prop} (leave : E expired s) (fails : ∀ d, E (internal d) s) :
    alwaysE (exec D) (loadPendingSession D tenantId given csrfToken now expired csrfMismatch internal) s
      Q E := by
  unfold loadPendingSession
  refine found_step (fun _ => leave) fun x given => ?_
  exact alwaysE_bind_of (loadAuthSession_absent absent (nonEmpty_coll named given) leave fails)
    (fun _ _ h => h) fun _ _ h => False.elim h

lemma mfaVerify_absent (absent : s.lacksSession D tenantId id) {cmd : MfaLoginCommand}
    (named : cmd.authSessionId.map D.coll = some (D.coll id)) {ctx : RequestContext} :
    always (exec D) (mfaVerify D tenantId cmd ctx) s (fun o s' => o.isRefusal = true ∧ s' = s) := by
  unfold mfaVerify
  rw [always_outcome]
  refine clock_step fun now => ?_
  exact alwaysE_bind_of (loadPendingSession_absent absent named ⟨rfl, rfl⟩ fun _ => ⟨rfl, rfl⟩)
    (fun _ _ h => h) fun _ _ h => False.elim h

lemma changePassword_absent (absent : s.lacksSession D tenantId id) {cmd : ChangePasswordCommand}
    (named : cmd.authSessionId.map D.coll = some (D.coll id)) {ctx : RequestContext} :
    always (exec D) (changePassword D tenantId cmd ctx) s (fun o s' => o.isRefusal = true ∧ s' = s) := by
  unfold changePassword
  rw [always_outcome]
  refine clock_step fun now => ?_
  exact alwaysE_bind_of (loadPendingSession_absent absent named ⟨rfl, rfl⟩ fun _ => ⟨rfl, rfl⟩)
    (fun _ _ h => h) fun _ _ h => False.elim h

lemma passkeyComplete_absent (absent : s.lacksSession D tenantId id) {challengeId : Uuid}
    {credentialValue : String} {challenge : PasskeyChallenge}
    (row : s.passkeyChallenges.find? (·.id = challengeId) = some challenge)
    (named : challenge.authSessionId.map D.coll = some (D.coll id)) {ctx : RequestContext} :
    always (exec D) (passkeyComplete D tenantId challengeId credentialValue ctx) s
      (fun o s' => o.isRefusal = true ∧ Same s s') := by
  unfold passkeyComplete
  rw [always_outcome]
  refine clock_step fun now => ?_
  refine alwaysE_bind_of verifyAssertion_always (fun _ _ h => h) ?_
  rintro ⟨challenge', stored⟩ _ ⟨⟨challenges, credentials, rfl⟩, verified⟩
  have same := Same.withPasskeys s challenges credentials
  obtain rfl := Option.some.inj (row.symm.trans verified.1)
  refine alwaysE_bind_of ensureActiveMember_always (fun _ _ h => ⟨h.1, h.2 ▸ same⟩) ?_
  rintro _ _ ⟨rfl, -⟩
  refine found_step (fun _ => ⟨rfl, same⟩) fun authSessionId given => ?_
  have same_id : D.coll authSessionId = D.coll id := by
    rw [given] at named
    exact Option.some.inj named
  have absent : (s.withPasskeys challenges credentials).lacksSession D tenantId id := absent
  exact alwaysE_bind_of (loadAuthSession_absent absent same_id ⟨rfl, same⟩ fun _ => ⟨rfl, same⟩)
    (fun _ _ h => h) fun _ _ h => False.elim h

lemma approve_absent (absent : s.lacksSession D tenantId id) (named : D.coll id' = D.coll id) :
    always (exec D) (approve D tenantId id') s (fun o s' => o.isRefusal = true ∧ s' = s) := by
  unfold approve
  rw [always_outcome]
  refine clock_step fun now => ?_
  exact alwaysE_bind_of (loadAuthSession_absent absent named ⟨rfl, rfl⟩ fun _ => ⟨rfl, rfl⟩)
    (fun _ _ h => h) fun _ _ h => False.elim h

lemma deny_absent (absent : s.lacksSession D tenantId id) (named : D.coll id' = D.coll id) :
    always (exec D) (deny D tenantId id') s (fun o s' => o.isRefusal = true ∧ s' = s) := by
  unfold deny
  rw [always_outcome]
  refine clock_step fun now => ?_
  exact alwaysE_bind_of (loadAuthSession_absent absent named ⟨rfl, rfl⟩ fun _ => ⟨rfl, rfl⟩)
    (fun _ _ h => h) fun _ _ h => False.elim h

lemma consentInfo_absent (absent : s.lacksSession D tenantId id) (named : D.coll id' = D.coll id) :
    always (exec D) (consentInfo tenantId id') s (fun r s' => (∀ info, r ≠ .ok (some info)) ∧ s' = s) := by
  unfold consentInfo
  rw [always_outcome]
  refine clock_step fun now => ?_
  refine read_step (fun _ => rfl) (fun _ => ⟨nofun, rfl⟩) fun _ => ?_
  rw [absent.find named]
  exact ⟨nofun, rfl⟩

lemma hasMfaPending_absent (absent : s.lacksSession D tenantId id) (named : D.coll id' = D.coll id) :
    always (exec D) (hasMfaPending tenantId id') s (fun r s' => r = false ∧ s' = s) := by
  simp only [hasMfaPending, op, always_bind, always_db, always_ret, Stmt.exec, AuthSessionStmt.exec,
    absent.find named]
  exact ⟨fun _ => ⟨rfl, rfl⟩, fun _ => ⟨rfl, rfl⟩⟩

/-- A request on an auth session that its tenant does not have is refused. -/
lemma FlowCall.refused_of_absent (c : FlowCall) (absent : s.lacksSession D c.tenantId id)
    (names : c.Names D s id) (ins : Nat → Input) :
    c.refused D ins s = true ∧ Same s (c.run D ins s) := by
  have unchanged : ∀ {r : Bool} {s' : Store}, r = true ∧ s' = s → r = true ∧ Same s s' :=
    fun h => ⟨h.1, h.2 ▸ Same.refl s⟩
  cases c with
  | authorize => exact names.elim
  | login t cmd ctx => exact unchanged ((login_absent absent names).run ins)
  | mfaVerify t cmd ctx => exact unchanged ((mfaVerify_absent absent names).run ins)
  | changePassword t cmd ctx => exact unchanged ((changePassword_absent absent names).run ins)
  | passkeyComplete t challengeId credentialValue ctx =>
    obtain ⟨challenge, row, named⟩ := names
    exact (passkeyComplete_absent absent row named).run ins
  | approve t authSessionId => exact unchanged ((approve_absent absent names).run ins)
  | deny t authSessionId => exact unchanged ((deny_absent absent names).run ins)

end

/-! ## Whose an artefact is -/

/-- The artefact belongs to the tenant: whatever row the text leads to is the tenant's, and an access
token names the tenant as its issuer. -/
def Artefact.Owned (D : Deploy) (tenantId : TenantId) (s : Store) : Artefact → Prop
  | code plain => ∀ r ∈ s.codes, r.codeHash = D.sha256Hex plain → r.tenantId = tenantId
  | refreshToken plain => ('.' ∉ plain.toList ∧ plain ≠ "") ∧
    ∀ r ∈ s.refreshTokens, r.tokenHash = D.sha256Hex plain → r.tenantId = tenantId
  | accessToken token => ∃ s₀ scope user key claims,
    IssuedAccessToken D s₀ tenantId scope token user key claims
  | authSession id => ∀ a ∈ s.authSessions, D.coll a.id = D.coll id → a.tenantId = tenantId

/-- The rows of auth sessions after a call: as before, or updated with their id and tenant kept, or new
ones of the call's tenant. -/
lemma FlowStep.authSession_mem {c : FlowCall} {now : DateTime} {s' : Store}
    (step : FlowStep D c now s s') {b : AuthSession} (mem : b ∈ s'.authSessions) :
    (∃ a ∈ s.authSessions, a.id = b.id) ∨ b.tenantId = c.tenantId := by
  have marked : ∀ {id : String} {userId : Uuid}, b ∈ markAuthenticated D id userId now s.authSessions →
      ∃ a ∈ s.authSessions, a.id = b.id := by
    intro id userId mem
    rcases mem_map_ite mem with mem | ⟨a, row, -, rfl⟩
    · exact ⟨b, mem, rfl⟩
    · exact ⟨a, row, rfl⟩
  cases step with
  | kept sessions | approved _ _ _ _ _ sessions => exact .inl ⟨b, sessions.subset mem, rfl⟩
  | issued _ _ _ _ _ sessions => exact .inl ⟨b, sessions ▸ mem, rfl⟩
  | started call valid _ sessions =>
    rw [sessions, List.mem_append, List.mem_singleton] at mem
    rcases mem with mem | rfl
    · exact .inl ⟨b, mem, rfl⟩
    · exact .inr valid.tenant
  | pending _ _ sessions =>
    rw [sessions] at mem
    rcases mem_map_ite mem with mem | ⟨a, row, -, rfl⟩
    · exact .inl ⟨b, mem, rfl⟩
    · exact .inl ⟨a, row, rfl⟩
  | authenticated _ _ sessions =>
    rcases sessions with sessions | sessions | sessions
    · exact .inl ⟨b, sessions ▸ mem, rfl⟩
    · exact .inl (marked (sessions ▸ mem))
    · rw [sessions] at mem
      exact .inl (marked (List.mem_filter.mp mem).1)

/-- The rows of codes after a call: as before, or a new one of the call's tenant. -/
lemma FlowStep.code_mem {c : FlowCall} {now : DateTime} {s' : Store} (step : FlowStep D c now s s')
    {r : AuthorizationCode} (mem : r ∈ s'.codes) : r ∈ s.codes ∨ r.tenantId = c.tenantId := by
  have appended : ∀ {row : AuthorizationCode}, row.tenantId = c.tenantId → s'.codes = s.codes ++ [row] →
      r ∈ s.codes ∨ r.tenantId = c.tenantId := by
    intro row tenant codes
    rw [codes, List.mem_append, List.mem_singleton] at mem
    rcases mem with mem | rfl
    · exact .inl mem
    · exact .inr tenant
  cases step with
  | kept _ codes | started _ _ _ _ codes | pending _ _ _ codes => exact .inl (codes ▸ mem)
  | issued _ valid _ _ _ _ codes => exact appended valid.tenant codes
  | authenticated _ _ _ codes =>
    rcases codes with codes | ⟨-, code, issuedAt, codes⟩
    · exact .inl (codes ▸ mem)
    · exact appended rfl codes
  | approved _ _ _ _ _ _ codes => exact appended rfl codes

/-- The rows with the hash of a refresh token that was just issued are of the tenant. -/
lemma exchange_refresh_tenant {cmd : TokenCommand} {tokens : IssuedTokens} {plain : String}
    (issued : ((exchange D tenantId cmd).run (exec D) ins s).1 = .ok tokens)
    (given : tokens.refreshToken = some plain) {r : RefreshToken}
    (mem : r ∈ ((exchange D tenantId cmd).run (exec D) ins s).2.refreshTokens)
    (hash : r.tokenHash = D.sha256Hex plain) : r.tenantId = tenantId := by
  unfold exchange at issued mem
  split at issued
  · rename_i grant
    rw [if_pos grant] at mem
    obtain ⟨_, _, _, _, _, granted⟩ := exchangeCode_always.run_ok issued
    rcases granted.store with ⟨none, -⟩ | ⟨newPlain, new, fresh, store⟩
    · cases none.symm.trans given
    · obtain rfl := Option.some.inj (new.symm.trans given)
      rw [store, Store.addRefreshToken, List.mem_append, List.mem_singleton] at mem
      rcases mem with mem | rfl
      · exact absurd hash (fresh r mem)
      · rfl
  · rename_i notCode
    rw [if_neg notCode] at mem
    split at issued
    · rename_i grant
      rw [if_pos grant] at mem
      obtain ⟨_, _, _, _, _, rotated⟩ := exchangeRefreshToken_always.run_ok issued
      obtain rfl := Option.some.inj (rotated.refresh.symm.trans given)
      rw [rotated.store, Store.addRefreshToken, List.mem_append, List.mem_singleton] at mem
      rcases mem with mem | rfl
      · obtain ⟨t, row, rfl⟩ := mem_revokeWhere.mp mem
        rw [revokeIf_tokenHash] at hash
        exact absurd hash (rotated.fresh t row)
      · rfl
    · cases issued

/-- What an event creates belongs to its tenant. -/
lemma Creates.owned {e : Event TenantCall Input Store} {x : Artefact} (created : Creates D e x) :
    x.Owned D e.call.tenantId (e.post (TenantCall.run D)) := by
  obtain ⟨call, ins, s⟩ := e
  cases x with
  | code plain =>
    obtain ⟨fresh, c, rfl, -⟩ := created
    intro r mem hash
    rcases (c.run_step ins s).code_mem mem with mem | tenant
    · exact absurd hash (fresh r mem)
    · exact tenant
  | authSession id =>
    obtain ⟨fresh, c, rfl, -⟩ := created
    intro b mem named
    rcases (c.run_step ins s).authSession_mem mem with ⟨a, mem, same⟩ | tenant
    · exact absurd (same ▸ named) (fresh a mem)
    · exact tenant
  | refreshToken plain =>
    obtain ⟨t, cmd, tokens, rfl, issued, given⟩ := created
    exact ⟨refreshToken_drawn issued given, fun r mem hash =>
      exchange_refresh_tenant issued given mem hash⟩
  | accessToken token =>
    obtain ⟨t, cmd, tokens, rfl, issued, rfl⟩ := created
    obtain ⟨scope, -, user, key, claims, access⟩ := exchange_access issued
    exact ⟨s, scope, user, key, claims, access⟩

/-- The tenant of what is in the tables does not change. -/
lemma Artefact.Owned.step {x : Artefact} (owned : x.Owned D tenantId s) {op : Op} (i : Input)
    (other : x.NotDrawn D op) : x.Owned D tenantId (exec D op i s).2 := by
  cases x with
  | code plain =>
    intro r mem hash
    have w := exec_codes (D := D) op i s
    generalize (exec D op i s).2.codes = rows at w mem
    cases w with
    | keep => exact owned r mem hash
    | create c eq _ =>
      rcases List.mem_append.mp mem with mem | mem
      · exact owned r mem hash
      · obtain rfl := List.mem_singleton.mp mem
        exact absurd hash (other r eq)
    | mark p now =>
      rcases mem_map_ite mem with mem | ⟨c, row, -, rfl⟩
      · exact owned r mem hash
      · exact owned c row hash
    | delete userId => exact owned r (List.mem_filter.mp mem).1 hash
  | refreshToken plain =>
    refine ⟨owned.1, fun r mem hash => ?_⟩
    have w := exec_refreshTokens (D := D) op i s
    generalize (exec D op i s).2.refreshTokens = rows at w mem
    cases w with
    | keep => exact owned.2 r mem hash
    | create t eq _ =>
      rcases List.mem_append.mp mem with mem | mem
      · exact owned.2 r mem hash
      · obtain rfl := List.mem_singleton.mp mem
        exact absurd hash (other r eq)
    | revoke p now =>
      obtain ⟨t, row, rfl⟩ := mem_revokeWhere.mp mem
      rw [revokeIf_tokenHash] at hash
      rw [revokeIf_tenantId]
      exact owned.2 t row hash
    | delete userId => exact owned.2 r (List.mem_filter.mp mem).1 hash
  | accessToken token => exact owned
  | authSession id =>
    intro b mem named
    rcases exec_authSessions_mem mem with ⟨a, mem, same, tenant⟩ | ⟨a, eq, same⟩
    · exact tenant ▸ owned a mem (same ▸ named)
    · exact absurd (same ▸ named) (other a eq)

lemma Artefact.Owned.later {x : Artefact} (owned : x.Owned D tenantId s) {s' : Store}
    (reach : Reaches (exec D) (x.NotDrawn D) s s') : x.Owned D tenantId s' :=
  reach.invariant (I := fun s => x.Owned D tenantId s) owned fun _ other i _ owned => owned.step i other

/-! ## Refused under another tenant -/

section
variable {owner : TenantId} {pairs : EncodingKey → DecodingKey → Prop}

/-- Tenants have different issuers. -/
lemma tenantIssuer_injective (uuid : UuidLaws D) (eq : D.tenantIssuer tenantId = D.tenantIssuer owner) :
    tenantId = owner := by
  refine uuid.injective ?_
  have chars := congrArg String.toList eq
  simp only [Deploy.tenantIssuer, String.toList_append] at chars
  exact String.toList_inj.mp (List.append_cancel_left chars)

/-- An access token of another tenant has another issuer. -/
lemma AccessChecked.issuer {token : String} (jwt : JwtLaws D pairs) (uuid : UuidLaws D)
    (owned : (Artefact.accessToken token).Owned D owner s) {claims : AccessTokenClaims}
    (checked : AccessChecked D s tenantId token claims) : tenantId = owner := by
  obtain ⟨s₀, scope, user, key, issued, access⟩ := owned
  obtain ⟨-, rfl⟩ := access.signed.of_verifies jwt checked.verifies
  obtain ⟨clientId, iat, jti, rfl⟩ := access.form
  exact tenantIssuer_injective uuid checked.iss.symm

/-- The code grant does not find a code of another tenant, and does not mark it used. -/
lemma exchange_code_refused {plain : String} (owned : (Artefact.code plain).Owned D owner s)
    (other : tenantId ≠ owner) {cmd : TokenCommand} (grant : cmd.grantType = some "authorization_code")
    (given : nonEmpty cmd.code = some plain) (ins : Nat → Input) :
    (TenantCall.exchange tenantId cmd).Refuses D ins s := by
  have unmatched : ∀ now, ∀ c ∈ s.codes, c.consumable tenantId (D.sha256Hex plain) now = false := by
    intro now c mem
    by_contra matched
    obtain ⟨hash, tenant, -⟩ : c.codeHash = D.sha256Hex plain ∧ c.tenantId = tenantId ∧ _ := by
      simpa [AuthorizationCode.consumable] using matched
    exact other (tenant.symm.trans (owned c mem hash))
  have kept : ∀ now, s.consumeCodes tenantId (D.sha256Hex plain) now = s := by
    intro now
    have rows : s.codes.map (fun c => if c.consumable tenantId (D.sha256Hex plain) now then
        { c with usedAt := some now } else c) = s.codes := by
      nth_rewrite 2 [← List.map_id s.codes]
      exact List.map_congr_left fun c mem => by simp [unmatched now c mem]
    rw [Store.consumeCodes, rows]
  have eq : exchange D tenantId cmd = (exchangeCode D tenantId cmd).run := by simp [exchange, grant]
  simp only [TenantCall.Refuses, TenantCall.run, eq]
  have never : ∀ tokens, ((exchangeCode D tenantId cmd).run.run (exec D) ins s).1 ≠ .ok tokens := by
    intro tokens ok
    obtain ⟨plain', verifier, code, user, now, granted⟩ := exchangeCode_always.run_ok ok
    obtain rfl : plain = plain' := by simpa [given] using granted.presented
    obtain ⟨c, mem, matched⟩ := granted.consumed
    rw [unmatched now c mem] at matched
    cases matched
  refine ⟨never, ?_⟩
  cases answer : ((exchangeCode D tenantId cmd).run.run (exec D) ins s).1 with
  | ok tokens => exact absurd answer (never tokens)
  | error e =>
    rcases exchangeCode_always.run_error answer with same | ⟨plain', now, given', store⟩
    · exact same
    · obtain rfl : plain = plain' := by simpa [given] using given'
      rw [store, kept]

/-- The refresh grant does not find a refresh token of another tenant. -/
lemma exchange_refresh_refused {plain : String} (owned : (Artefact.refreshToken plain).Owned D owner s)
    (other : tenantId ≠ owner) {cmd : TokenCommand} (grant : cmd.grantType = some "refresh_token")
    (given : nonEmpty cmd.refreshToken = some plain) (ins : Nat → Input) :
    (TenantCall.exchange tenantId cmd).Refuses D ins s := by
  have unpresented : ∀ plain' stored, ¬ Presented D s tenantId cmd plain' stored := by
    intro plain' stored presented
    obtain rfl : plain = plain' := by simpa [given] using presented.token
    obtain ⟨hash, tenant⟩ : stored.tokenHash = D.sha256Hex plain ∧ stored.tenantId = tenantId := by
      simpa using List.find?_some presented.row
    exact other (tenant.symm.trans (owned.2 stored (List.mem_of_find?_eq_some presented.row) hash))
  simp only [TenantCall.Refuses, TenantCall.run, exchange_refresh grant]
  have never : ∀ tokens,
      ((exchangeRefreshToken D tenantId cmd).run.run (exec D) ins s).1 ≠ .ok tokens := by
    intro tokens ok
    obtain ⟨plain', newPlain, stored, user, now, rotated⟩ := exchangeRefreshToken_always.run_ok ok
    exact unpresented plain' stored rotated.toPresented
  refine ⟨never, ?_⟩
  cases answer : ((exchangeRefreshToken D tenantId cmd).run.run (exec D) ins s).1 with
  | ok tokens => exact absurd answer (never tokens)
  | error e =>
    rcases exchangeRefreshToken_always.run_error answer with same | ⟨plain', stored, now, presented, -⟩
    · exact same
    · exact absurd presented (unpresented plain' stored)

lemma userinfo_refused {token : String} (jwt : JwtLaws D pairs) (uuid : UuidLaws D)
    (owned : (Artefact.accessToken token).Owned D owner s) (other : tenantId ≠ owner)
    (ins : Nat → Input) : (TenantCall.userinfo tenantId token).Refuses D ins s := by
  refine ⟨fun info ok => ?_, (alwaysE_mono userinfo_always (fun _ _ h => h.1) fun _ _ h => h).run_state ins⟩
  obtain ⟨-, claims, checked, -⟩ := userinfo_always.run_ok ok
  exact other (checked.issuer jwt uuid owned)

/-- Introspection reports neither kind of token of another tenant active. -/
lemma introspect_refused {token : String} (inactive : ¬ ActiveToken D s tenantId token)
    (hint : Option String) (clientId : String) (basic : Option (String × String)) (ins : Nat → Input) :
    (TenantCall.introspect tenantId token hint clientId basic).Refuses D ins s := by
  refine ⟨fun resp ok => ?_, (alwaysE_mono introspect_always (fun _ _ h => h.1) fun _ _ h => h).run_state ins⟩
  by_contra active
  exact inactive ((introspect_always.run_ok ok).2 (by simpa using active))

/-- A refresh token under another tenant. -/
lemma refreshToken_inactive {plain : String} (jwt : JwtLaws D pairs)
    (owned : (Artefact.refreshToken plain).Owned D owner s) (other : tenantId ≠ owner) :
    ¬ ActiveToken D s tenantId plain := by
  rintro (⟨claims, checked⟩ | ⟨rt, mem, hash, tenant, -⟩)
  · obtain ⟨header, -, -, -, decoded, -⟩ := checked.verifies
    exact owned.1.1 (jwt.dotted decoded)
  · exact other (tenant.symm.trans (owned.2 rt mem hash))

/-- An access token under another tenant. -/
lemma accessToken_inactive {token : String} (jwt : JwtLaws D pairs) (uuid : UuidLaws D)
    (owned : (Artefact.accessToken token).Owned D owner s)
    (apart : (Artefact.accessToken token).Unmistaken D s) (other : tenantId ≠ owner) :
    ¬ ActiveToken D s tenantId token := by
  rintro (⟨claims, checked⟩ | ⟨rt, mem, hash, -⟩)
  · exact other (checked.issuer jwt uuid owned)
  · exact apart rt mem hash

/-! ## Revocation under another tenant -/

/-- The `UPDATE` of a revocation changes nothing exactly if every row it hits is revoked. -/
lemma revokeRefreshTokens_eq_iff {hash : String} {now : DateTime} :
    s.revokeRefreshTokens (·.tokenHash = hash) now = s ↔ RevokedHash hash s := by
  have rows : s.revokeRefreshTokens (·.tokenHash = hash) now = s ↔
      s.refreshTokens.map (·.revokeIf (·.tokenHash = hash) now) = s.refreshTokens.map id := by
    rw [List.map_id]
    refine ⟨fun same => congrArg Store.refreshTokens same, fun same => ?_⟩
    rw [Store.revokeRefreshTokens, revokeWhere, same]
  rw [rows, List.map_inj_left]
  simp only [id, revokeIf_eq_self_iff, decide_eq_true_eq, RevokedHash]

/-- The `INSERT` changes nothing exactly if the `jti` is in the table. -/
lemma revokeJti_eq_iff {t : RevokedAccessToken} :
    s.revokeJti D t = s ↔ JtiRevoked D s (truncateJti t.jti) := by
  obtain ⟨known, same⟩ | ⟨unknown, added⟩ := revokeJti_cases (D := D) s t
  · exact ⟨fun _ => known, fun _ => same⟩
  · refine ⟨fun same => ?_, fun known => absurd known unknown⟩
    rw [added] at same
    have longer := congrArg (fun s => s.revokedAccessTokens.length) same
    simp at longer

/-- What a revocation that hits no row of the tenant changes. -/
lemma revoke_refuses_iff {token : String} (nonempty : token ≠ "") {hint : Option String}
    {clientId : String} {basic : Option (String × String)} :
    (TenantCall.revoke tenantId token hint clientId basic).Refuses D ins s ↔
      (TenantCall.revoke tenantId token hint clientId basic).Spares D s ins := by
  have w : wpE (exec D) (revoke D tenantId token hint clientId basic) ins s _ _ := revoke_wp nonempty
  rw [wpE, wp_iff_run] at w
  simp only [TenantCall.Refuses, TenantCall.run, TenantCall.Spares]
  generalize ((revoke D tenantId token hint clientId basic).run.run (exec D) ins s).1 = answer at w
  generalize ((revoke D tenantId token hint clientId basic).run.run (exec D) ins s).2 = s' at w
  cases answer with
  | error e =>
    obtain ⟨rfl, rejected⟩ := w
    exact ⟨fun _ quiet ok => absurd ⟨quiet, ok⟩ rejected, fun _ => rfl⟩
  | ok _ =>
    obtain ⟨⟨quiet, ok⟩, attempts⟩ := w
    rw [forall_prop_of_true quiet, forall_prop_of_true ok]
    cases attempts with
    | refresh h =>
      rw [revokeRefreshTokens_eq_iff]
      exact ⟨fun revoked => ⟨fun _ => revoked, fun k => absurd h k.not_refresh⟩, fun spares => spares.1 h⟩
    | access jti exp read h =>
      rw [revokeJti_eq_iff]
      refine ⟨fun revoked => ⟨fun k => absurd k h.not_refresh, fun _ jti' exp' read' => ?_⟩,
        fun spares => spares.2 h jti exp read⟩
      obtain ⟨rfl, -⟩ := Prod.mk.inj (Option.some.inj (read.symm.trans read'))
      exact revoked
    | nothing h h' => exact ⟨fun _ => ⟨fun k => absurd k h, fun k => absurd k h'⟩, fun _ => rfl⟩

/-- What a flow of one tenant has created is refused under another tenant: codes and refresh tokens by the
token endpoint, access tokens by `/userinfo`, both kinds of tokens by introspection, auth sessions by the
logins and the consent. Only the revocation endpoint may accept it: it does so exactly if the client passes
and there is something to revoke. -/
theorem tenants_apart_iff (jwt : JwtLaws D pairs) (uuid : UuidLaws D)
    {e : Event TenantCall Input Store} {x : Artefact} (created : Creates D e x)
    (later : Reaches (exec D) (x.NotDrawn D) (e.post (TenantCall.run D)) s)
    (apart : x.Unmistaken D s) {c : TenantCall} (other : c.tenantId ≠ e.call.tenantId)
    (presents : c.Presents D s x) (ins : Nat → Input) : c.Refuses D ins s ↔ c.Spares D s ins := by
  have owned := created.owned.later later
  have refused : ∀ {P : Prop}, P → (P ↔ True) := fun h => ⟨fun _ => trivial, fun _ => h⟩
  cases c with
  | flow c =>
    cases x with
    | authSession id =>
      refine refused (c.refused_of_absent (fun a mem named tenant => ?_) presents ins)
      exact other (tenant.symm.trans (owned a mem named))
    | _ => exact presents.elim
  | consentInfo t id' =>
    cases x with
    | authSession id =>
      have absent : s.lacksSession D t id := fun a mem named tenant =>
        other (tenant.symm.trans (owned a mem named))
      exact refused ((consentInfo_absent absent presents).run ins)
    | _ => exact presents.elim
  | hasMfaPending t id' =>
    cases x with
    | authSession id =>
      have absent : s.lacksSession D t id := fun a mem named tenant =>
        other (tenant.symm.trans (owned a mem named))
      exact refused ((hasMfaPending_absent absent presents).run ins)
    | _ => exact presents.elim
  | exchange t cmd =>
    cases x with
    | code plain => exact refused (exchange_code_refused owned other presents.1 presents.2 ins)
    | refreshToken plain => exact refused (exchange_refresh_refused owned other presents.1 presents.2 ins)
    | _ => exact presents.elim
  | userinfo t token =>
    cases x with
    | accessToken token' =>
      obtain rfl : token = token' := presents
      exact refused (userinfo_refused jwt uuid owned other ins)
    | _ => exact presents.elim
  | introspect t token hint clientId basic =>
    cases x with
    | accessToken token' =>
      obtain rfl : token = token' := presents
      exact refused (introspect_refused (accessToken_inactive jwt uuid owned apart other) hint clientId
        basic ins)
    | refreshToken token' =>
      obtain rfl : token = token' := presents
      exact refused (introspect_refused (refreshToken_inactive jwt owned other) hint clientId basic ins)
    | _ => exact presents.elim
  | revoke t token hint clientId basic =>
    cases x with
    | accessToken token' =>
      obtain rfl : token = token' := presents
      obtain ⟨s₀, scope, user, key, claims, access⟩ := owned
      exact revoke_refuses_iff (access.signed.ne_empty jwt)
    | refreshToken token' =>
      obtain rfl : token = token' := presents
      exact revoke_refuses_iff owned.1.2
    | _ => exact presents.elim

end

namespace Sample

/-- The client `app` of tenant A redeems the sample code. -/
def grantEvent : Event TenantCall Input Store :=
  ⟨.exchange tenantA codeRequest, fun _ => input 2, store⟩

/-- The client `app` of tenant B revokes the refresh token of that grant. -/
def foreignRevocation : TenantCall := .revoke tenantB (plainToken 2) none "app" none

lemma grantEvent_creates : Creates deploy grantEvent (.refreshToken (plainToken 2)) :=
  ⟨tenantA, codeRequest, rsaTokens, rfl, rsaTokens_issued, rfl⟩

end Sample

open Sample in
set_option maxRecDepth 4000 in
/-- A client of tenant B with the same id revokes a refresh token of tenant A, and tenant A's client can
no longer use it. -/
theorem other_tenants_token_revoked :
    Creates deploy grantEvent (.refreshToken (plainToken 2)) ∧
    foreignRevocation.tenantId ≠ grantEvent.call.tenantId ∧
    foreignRevocation.Presents deploy afterGrant (.refreshToken (plainToken 2)) ∧
    ¬ foreignRevocation.Refuses deploy (fun _ => input 2) afterGrant ∧
    ((exchange deploy tenantA (refreshRequest 2)).run (exec deploy) (fun _ => input 3)
      (foreignRevocation.run deploy (fun _ => input 2) afterGrant)).1 =
        .error ⟨.invalidGrant, "refresh_token is revoked or expired"⟩ := by
  have changed : foreignRevocation.run deploy (fun _ => input 2) afterGrant ≠ afterGrant := by
    decide +kernel
  exact ⟨grantEvent_creates, by decide +kernel, rfl, changed, by decide +kernel⟩

open Sample in
/-- Tenant B's token endpoint refuses the refresh token of tenant A to a client with the same id, and
leaves it alone. -/
theorem tenants_apart_iff_sample :
    (TenantCall.exchange tenantB (refreshRequest 2)).Refuses deploy (fun _ => input 3) afterGrant :=
  (tenants_apart_iff jwtLaws uuidLaws grantEvent_creates .refl trivial
    (c := .exchange tenantB (refreshRequest 2)) (by decide +kernel) ⟨rfl, rfl⟩ _).mpr trivial

end IdpMvp
