import IdpMvp.Session.Flows
import IdpMvp.Service.TenantManagement
import IdpMvp.Token.Rotation

/-!
# Tenants on the routes

Model of `presentation/tenant.rs` with the handlers that create SSO sessions, codes and tokens. The public
routes resolve the tenant of their path, through the cache; the internal routes take the tenant that the web
server names, and check no more than that it is a UUID. So nothing is created for a tenant that is disabled or
unknown as long as the web server names none (`created_for_active_tenants`).
-/

namespace IdpMvp

open Program Program.Prog Program.Flow Prog

/-! ## The tenant of a request -/

inductive TenantRejection where
  | notFound
  | unavailable
  | badRequest
  deriving DecidableEq, Repr

/-- `resolve` of the middleware on the public routes. -/
def resolveTenant (D : Deploy) (rawTenantId : String) : ServiceFlow TenantRejection Tenant := do
  let tenantId ← found (D.parseUuid rawTenantId) .notFound
  let tenant ← orLeave (resolve tenantId).run (fun _ => .unavailable)
  found tenant .notFound

/-- `require_internal_tenant`. -/
def requireInternalTenant (D : Deploy) (rawTenantId : Option String) : Except TenantRejection TenantId :=
  match nonEmpty rawTenantId with
  | none => .error .badRequest
  | some raw =>
    match D.parseUuid raw with
    | none => .error .badRequest
    | some tenantId => .ok tenantId

/-! ## Routes -/

/-- The handlers under `/internal` that can create something. -/
inductive InternalRoute where
  | authenticate (cmd : LoginCommand) (ctx : RequestContext)
  | mfaTotpVerify (cmd : MfaLoginCommand) (ctx : RequestContext)
  | changePassword (cmd : ChangePasswordCommand) (ctx : RequestContext)
  | passkeyLoginComplete (challengeId : Uuid) (credentialValue : String) (ctx : RequestContext)
  | authenticatePortal (cmd : PortalLoginCommand) (ctx : RequestContext)
  | portalChangePassword (cmd : PortalChangePasswordCommand) (ctx : RequestContext)
  | portalMfa (cmd : PortalMfaCommand) (ctx : RequestContext)
  | authenticateAdmin (cmd : AdminLoginCommand) (ctx : RequestContext)
  | adminChangePassword (cmd : AdminChangePasswordCommand) (ctx : RequestContext)
  | consentApprove (authSessionId : String)
  | consentDeny (authSessionId : String)

inductive ApiRequest where
  | authorize (rawTenantId : String) (req : AuthorizeRequest)
  | token (rawTenantId : String) (cmd : TokenCommand)
  | internal (rawTenantId : Option String) (route : InternalRoute)

inductive ApiAnswer where
  | rejected (rejection : TenantRejection)
  | authorized (outcome : AuthorizeOutcome)
  | tokens (result : Except TokenError IssuedTokens)
  | answered

def InternalRoute.serve (D : Deploy) (tenantId : TenantId) : InternalRoute → Service ApiAnswer
  | authenticate cmd ctx => do
    let _ ← login D tenantId cmd ctx
    return .answered
  | mfaTotpVerify cmd ctx => do
    let _ ← mfaVerify D tenantId cmd ctx
    return .answered
  | changePassword cmd ctx => do
    let _ ← IdpMvp.changePassword D tenantId cmd ctx
    return .answered
  | passkeyLoginComplete challengeId credentialValue ctx => do
    let _ ← passkeyComplete D tenantId challengeId credentialValue ctx
    return .answered
  | authenticatePortal cmd ctx => do
    let _ ← portalLogin D tenantId cmd ctx
    return .answered
  | portalChangePassword cmd ctx => do
    let _ ← IdpMvp.portalChangePassword D tenantId cmd ctx
    return .answered
  | portalMfa cmd ctx => do
    let _ ← portalVerifyMfa D tenantId cmd ctx
    return .answered
  | authenticateAdmin cmd ctx => do
    let _ ← adminLogin D tenantId cmd ctx
    return .answered
  | adminChangePassword cmd ctx => do
    let _ ← IdpMvp.adminChangePassword D tenantId cmd ctx
    return .answered
  | consentApprove authSessionId => do
    let _ ← approve D tenantId authSessionId
    return .answered
  | consentDeny authSessionId => do
    let _ ← deny D tenantId authSessionId
    return .answered

namespace ApiRequest

/-- The tenant that a request names. -/
def names (D : Deploy) : ApiRequest → Option TenantId
  | authorize raw _ | token raw _ => D.parseUuid raw
  | internal raw _ => (nonEmpty raw).bind D.parseUuid

/-- The tenant that a request is let in for. -/
def tenant (D : Deploy) : ApiRequest → ServiceFlow TenantRejection TenantId
  | authorize raw _ | token raw _ => do
    let tenant ← resolveTenant D raw
    return tenant.id
  | internal raw _ => orThrow (requireInternalTenant D raw) id

def serve (D : Deploy) (tenantId : TenantId) : ApiRequest → Service ApiAnswer
  | authorize _ req => return .authorized (← IdpMvp.authorize D tenantId req)
  | token _ cmd => return .tokens (← exchange D tenantId cmd)
  | internal _ route => route.serve D tenantId

def program (D : Deploy) (r : ApiRequest) : Service ApiAnswer := do
  match ← (r.tenant D).run with
  | .error rejection => return .rejected rejection
  | .ok tenantId => r.serve D tenantId

end ApiRequest

/-! ## What is claimed of a request -/

/-- A request and its inputs. -/
abbrev ApiStep := ApiRequest × (Nat → Input)

/-- The store after a request. -/
def ApiStep.run (D : Deploy) (c : ApiStep) (_ : Nat → Unit) (s : Store) : Store :=
  ((c.1.program D).run (exec D) c.2 s).2

def ApiStep.answer (D : Deploy) (c : ApiStep) (s : Store) : ApiAnswer :=
  ((c.1.program D).run (exec D) c.2 s).1

/-- The tenant exists and is active. -/
def Store.activeTenant (s : Store) (tenantId : TenantId) : Prop :=
  ∃ tenant, s.findTenant tenantId = some tenant ∧ tenant.isActive = true

/-- The user logs in at the tenant: at home in it or a member of it, with a password that was verified on an auth
session of the tenant, or by the ticket that the tenant gave for the second factor. -/
inductive LogsInAt (D : Deploy) (s : Store) (r : ApiRequest) (tenantId : TenantId) (userId : Uuid) : Prop where
  | home {u : User} (mem : u ∈ s.users) (id : u.id = userId) (tenant : u.tenantId = tenantId)
  | member (active : s.isActiveMember tenantId userId = true)
  | session {a : AuthSession} (mem : a ∈ s.authSessions) (tenant : a.tenantId = tenantId)
    (user : a.authenticatedUserId = some userId) (verified : a.passwordVerifiedAt.isSome = true)
  | ticket {raw : Option String} {cmd : PortalMfaCommand} {ctx : RequestContext} {now : DateTime}
    (request : r = .internal raw (.portalMfa cmd ctx))
    (ticket : verifyTicket D tenantId cmd.mfaTicket (DateTime.timestamp now) = some userId)

/-- The ID token and the access token are signed, with the tenant as their issuer. -/
structure IssuedBy (D : Deploy) (s : Store) (tenantId : TenantId) (tokens : IssuedTokens) : Prop where
  id : ∃ claims key, SignedBy D s.signingKeys "JWT" (.idToken claims) tokens.idToken key ∧
    claims.iss = D.tenantIssuer tenantId
  access : ∃ claims key, SignedBy D s.signingKeys "at+jwt" (.accessToken claims) tokens.accessToken key ∧
    claims.iss = D.tenantIssuer tenantId

/-- What a request has created is of the tenant that it names, and this is active at the time: the codes and refresh
tokens by their rows, an SSO session by its user, who logs in at the tenant, and signed tokens by their issuer. -/
structure CreatesForActive (D : Deploy) (c : ApiStep) (s s' : Store) : Prop where
  codes : ∀ r ∈ s'.codes, (∀ r' ∈ s.codes, r'.codeHash ≠ r.codeHash) →
    c.1.names D = some r.tenantId ∧ s.activeTenant r.tenantId
  refreshTokens : ∀ t ∈ s'.refreshTokens, (∀ t' ∈ s.refreshTokens, t'.tokenHash ≠ t.tokenHash) →
    c.1.names D = some t.tenantId ∧ s.activeTenant t.tenantId
  ssoSessions : ∀ x ∈ s'.ssoSessions, (∀ x' ∈ s.ssoSessions, x'.sessionHash ≠ x.sessionHash) →
    ∃ tenantId, LogsInAt D s c.1 tenantId x.userId ∧ c.1.names D = some tenantId ∧ s.activeTenant tenantId
  tokens : ∀ tokens, c.answer D s = .tokens (.ok tokens) →
    ∃ tenantId, IssuedBy D s tenantId tokens ∧ c.1.names D = some tenantId ∧ s.activeTenant tenantId

/-- A live entry of the tenant in the cache, if there is one, is right about whether it is active. -/
def Store.CachedRightly (s : Store) (tenantId : TenantId) (now : DateTime) : Prop :=
  ∀ entry, s.cachedTenant tenantId = some entry → entry.expiresAt > now →
    ∃ tenant, s.findTenant tenantId = some tenant ∧ tenant.id = entry.value.id ∧
      tenant.isActive = entry.value.isActive

/-- An internal request names an active tenant; a public one finds no outdated entry in the cache. -/
def ApiStep.NamesActive (D : Deploy) (c : ApiStep) (s : Store) : Prop :=
  ∀ tenantId, c.1.names D = some tenantId →
    match c.1 with
    | .internal _ _ => s.activeTenant tenantId
    | _ => s.CachedRightly tenantId (c.2 0).now

/-! ## Resolving the tenant -/

section
variable {D : Deploy} {s : Store} {tenantId : TenantId} {ins : Nat → Input}

/-- The same store but for the cache of the tenant resolution. -/
def Store.CachesTenants (s s' : Store) : Prop := ∃ entries, s' = { s with tenantCache := entries }

lemma Store.CachesTenants.refl (s : Store) : s.CachesTenants s := ⟨s.tenantCache, rfl⟩

lemma findTenant_id {tenant : Tenant} (row : s.findTenant tenantId = some tenant) : tenant.id = tenantId := by
  simpa using List.find?_some row

lemma tenantCacheGet_caches {now : DateTime} : s.CachesTenants (s.tenantCacheGet tenantId now).2 := by
  unfold Store.tenantCacheGet
  split
  · exact .refl s
  · split_ifs
    · exact .refl s
    · exact ⟨_, rfl⟩

/-- What the resolution answers. -/
def Resolves (s : Store) (tenantId : TenantId) (row : Option Tenant) : Prop :=
  ∀ tenant, row = some tenant → tenant.id = tenantId ∧ s.activeTenant tenantId

lemma resolves_ite {tenant : Tenant} (id : tenant.id = tenantId)
    (active : tenant.isActive = true → s.activeTenant tenantId) :
    Resolves s tenantId (if tenant.isActive then some tenant else none) := by
  intro t eq
  split_ifs at eq with isActive
  cases eq
  exact ⟨id, active isActive⟩

lemma resolve_wp (rightly : s.CachedRightly tenantId (ins 0).now) :
    wpE (exec D) (resolve tenantId) ins s
      (fun row s' _ => s.CachesTenants s' ∧ Resolves s tenantId row) (fun _ s' _ => s.CachesTenants s') := by
  unfold resolve
  rw [wpE_op]
  have caches : s.CachesTenants (exec D (.tenantCacheGet tenantId) (ins 0) s).2 := tenantCacheGet_caches
  cases got : (exec D (.tenantCacheGet tenantId) (ins 0) s).1 with
  | some tenant =>
    refine ⟨caches, ?_⟩
    have hit : (s.tenantCacheGet tenantId (ins 0).now).1 = some tenant := got
    unfold Store.tenantCacheGet at hit
    split at hit
    · cases hit
    · rename_i entry cached
      split_ifs at hit with live
      cases hit
      obtain ⟨row, found, id, same⟩ := rightly entry cached live
      refine resolves_ite (id.symm.trans (findTenant_id found)) fun active => ?_
      exact ⟨row, found, same.trans active⟩
  | none =>
    obtain ⟨entries, store⟩ := caches
    rw [store]
    refine alwaysE.wpE (read_step (v := fun _ => s.findTenant tenantId) (fun _ => rfl)
      (fun _ => ⟨entries, rfl⟩) fun _ => ?_)
    cases row : s.findTenant tenantId with
    | none => exact ⟨⟨entries, rfl⟩, fun tenant never => by cases never⟩
    | some tenant =>
      refine op_step fun i => ⟨⟨_, rfl⟩, resolves_ite (findTenant_id row) fun active => ?_⟩
      exact ⟨tenant, row, active⟩

lemma resolveTenant_wp {raw : String} (rightly : ∀ tenantId, D.parseUuid raw = some tenantId →
      s.CachedRightly tenantId (ins 0).now) :
    wpE (exec D) (resolveTenant D raw) ins s
      (fun tenant s' _ => s.CachesTenants s' ∧ D.parseUuid raw = some tenant.id ∧ s.activeTenant tenant.id)
      (fun _ s' _ => s.CachesTenants s') := by
  unfold resolveTenant
  cases parsed : D.parseUuid raw with
  | none => exact .refl s
  | some tenantId =>
    refine wpE_found_step rfl ?_
    rw [wpE_bind, wpE_orLeave]
    refine wp_mono (resolve_wp (rightly tenantId parsed)) ?_
    rintro (e | row) s' tr h
    · exact h
    · obtain ⟨caches, resolves⟩ := h
      simp only [wpE_found]
      refine ⟨fun tenant eq => ?_, fun _ => caches⟩
      obtain ⟨rfl, active⟩ := resolves tenant eq
      exact ⟨caches, rfl, active⟩

/-- A request is let in for the tenant that it names, and this is active. -/
lemma tenant_wp {c : ApiStep} (ok : c.NamesActive D s) :
    wpE (exec D) (c.1.tenant D) c.2 s
      (fun tenantId s' _ => s.CachesTenants s' ∧ c.1.names D = some tenantId ∧ s.activeTenant tenantId)
      (fun _ s' _ => s.CachesTenants s') := by
  obtain ⟨r, ins⟩ := c
  cases r with
  | authorize raw req =>
    unfold ApiRequest.tenant
    rw [wpE_bind]
    exact wpE_mono (resolveTenant_wp ok) (fun _ _ _ h => h) fun _ _ _ h => h
  | token raw cmd =>
    unfold ApiRequest.tenant
    rw [wpE_bind]
    exact wpE_mono (resolveTenant_wp ok) (fun _ _ _ h => h) fun _ _ _ h => h
  | internal raw route =>
    unfold ApiRequest.tenant
    rw [wpE_orThrow]
    refine ⟨fun tenantId given => ?_, fun _ _ => .refl s⟩
    have named : (nonEmpty raw).bind D.parseUuid = some tenantId := by
      unfold requireInternalTenant at given
      cases text : nonEmpty raw with
      | none => simp [text] at given
      | some raw =>
        simp only [text] at given
        cases parsed : D.parseUuid raw with
        | none => simp [parsed] at given
        | some id => simpa [parsed] using given
    exact ⟨.refl s, named, ok tenantId named⟩

end

/-! ## What a service creates is of its tenant -/

/-- The codes, refresh tokens and SSO sessions that are new are of the tenant. -/
structure CreatesWithin (D : Deploy) (r : ApiRequest) (tenantId : TenantId) (s s' : Store) : Prop where
  codes : ∀ r ∈ s'.codes, (∃ r' ∈ s.codes, r'.codeHash = r.codeHash) ∨ r.tenantId = tenantId
  refreshTokens : ∀ t ∈ s'.refreshTokens,
    (∃ t' ∈ s.refreshTokens, t'.tokenHash = t.tokenHash) ∨ t.tenantId = tenantId
  ssoSessions : ∀ x ∈ s'.ssoSessions,
    (∃ x' ∈ s.ssoSessions, x'.sessionHash = x.sessionHash) ∨ LogsInAt D s r tenantId x.userId

section
variable {D : Deploy} {s s' : Store} {r : ApiRequest} {tenantId : TenantId} {now : DateTime} {ctx : RequestContext}

lemma LogsInAt.withCache {entries : List TenantEntry} {userId : Uuid}
    (h : LogsInAt D { s with tenantCache := entries } r tenantId userId) : LogsInAt D s r tenantId userId := by
  cases h with
  | home mem id tenant => exact .home mem id tenant
  | member active => exact .member active
  | session mem tenant user verified => exact .session mem tenant user verified
  | ticket request ticket => exact .ticket request ticket

lemma CreatesWithin.of_codes (refreshTokens : s'.refreshTokens = s.refreshTokens)
    (ssoSessions : s'.ssoSessions = s.ssoSessions)
    (codes : ∀ c ∈ s'.codes, c ∈ s.codes ∨ c.tenantId = tenantId) : CreatesWithin D r tenantId s s' := by
  refine ⟨fun c mem => (codes c mem).imp_left fun old => ⟨c, old, rfl⟩, fun t mem => ?_, fun x mem => ?_⟩
  · rw [refreshTokens] at mem
    exact .inl ⟨t, mem, rfl⟩
  · rw [ssoSessions] at mem
    exact .inl ⟨x, mem, rfl⟩

lemma CreatesWithin.refl (s : Store) : CreatesWithin D r tenantId s s := .of_codes rfl rfl fun _ mem => .inl mem

lemma Kept.createsWithin (kept : Kept s s') : CreatesWithin D r tenantId s s' := by
  refine .of_codes kept.refreshTokens kept.ssoSessions fun c mem => ?_
  rw [kept.codes] at mem
  exact .inl mem

/-- The SSO session at the end of a login is that of a user who logs in at the tenant. -/
lemma created_ssoSession {rows : List SsoSession} {id : String} {userId : Uuid} {x : SsoSession}
    (same : rows = s.ssoSessions) (logsIn : LogsInAt D s r tenantId userId)
    (mem : x ∈ rows ++ [ssoSessionFor D id userId now ctx]) :
    (∃ x' ∈ s.ssoSessions, x'.sessionHash = x.sessionHash) ∨ LogsInAt D s r tenantId x.userId := by
  rcases List.mem_append.mp mem with mem | mem
  · exact .inl ⟨x, same ▸ mem, rfl⟩
  · rw [List.mem_singleton.mp mem]
    exact .inr logsIn

lemma SessionEnd.createsWithin {Pending Done : AuthSession → User → Prop}
    (h : SessionEnd D tenantId ctx now Pending Done s s')
    (logsIn : ∀ a user, OnSession D s tenantId now a → Done a user → LogsInAt D s r tenantId user.id) :
    CreatesWithin D r tenantId s s' := by
  cases h with
  | refused kept => exact kept.createsWithin
  | pending same => exact .of_codes same.refreshTokens same.ssoSessions fun c mem => .inl (same.codes ▸ mem)
  | done same session row evidence completed =>
    refine ⟨fun c mem => ?_, fun t mem => ?_, fun x mem => ?_⟩
    · rcases completed.codes with codes | ⟨-, code, issuedAt, codes⟩
      · exact .inl ⟨c, same.codes ▸ codes ▸ mem, rfl⟩
      · rw [codes, same.codes, List.mem_append, List.mem_singleton] at mem
        rcases mem with mem | rfl
        · exact .inl ⟨c, mem, rfl⟩
        · exact .inr rfl
    · exact .inl ⟨t, same.refreshTokens ▸ completed.refreshTokens ▸ mem, rfl⟩
    · rcases completed.sso with sso | ⟨id, sso⟩
      · exact .inl ⟨x, same.ssoSessions ▸ sso ▸ mem, rfl⟩
      · rw [sso] at mem
        exact created_ssoSession same.ssoSessions (logsIn _ _ session evidence) mem

lemma DirectEnd.createsWithin {Done : User → Prop} (h : DirectEnd D ctx now Done s s')
    (logsIn : ∀ user, Done user → LogsInAt D s r tenantId user.id) : CreatesWithin D r tenantId s s' := by
  cases h with
  | refused kept => exact kept.createsWithin
  | created same row evidence =>
    refine ⟨fun c mem => .inl ⟨c, same.codes ▸ mem, rfl⟩, fun t mem => .inl ⟨t, same.refreshTokens ▸ mem, rfl⟩,
      fun x mem => ?_⟩
    exact created_ssoSession same.ssoSessions (logsIn _ evidence) mem

lemma ApproveEnd.createsWithin {authSessionId : String} (h : ApproveEnd D tenantId authSessionId now s s') :
    CreatesWithin D r tenantId s s' := by
  cases h with
  | refused kept => exact kept.createsWithin
  | consented => exact .of_codes rfl rfl fun c mem => .inl mem
  | issued =>
    refine .of_codes rfl rfl fun c mem => ?_
    rcases List.mem_append.mp mem with mem | mem
    · exact .inl mem
    · rw [List.mem_singleton.mp mem]
      exact .inr rfl

lemma AuthorizeEnd.createsWithin {req : AuthorizeRequest} {outcome : AuthorizeOutcome}
    (h : AuthorizeEnd D tenantId req s outcome s') : CreatesWithin D r tenantId s s' := by
  have same : CreatesWithin D r tenantId s s := .refl s
  have resumed : ∀ {rows : List SsoSession}, SsoKept s.ssoSessions rows → ∀ x ∈ rows,
      (∃ x' ∈ s.ssoSessions, x'.sessionHash = x.sessionHash) ∨ LogsInAt D s r tenantId x.userId := by
    intro rows kept x mem
    obtain ⟨x', old, hash, -, -⟩ := kept x mem
    exact .inl ⟨x', old, hash.symm⟩
  cases h with
  | fatal | invalid => exact same
  | refused _ kept | login _ kept | consent _ kept => exact ⟨same.codes, same.refreshTokens, resumed kept⟩
  | issued valid kept =>
    refine ⟨fun c mem => ?_, same.refreshTokens, resumed kept⟩
    rcases List.mem_append.mp mem with mem | mem
    · exact same.codes c mem
    · rw [List.mem_singleton.mp mem]
      exact .inr valid.tenant

lemma revoked_hash {p : RefreshToken → Bool} {t : RefreshToken} {rows : List RefreshToken}
    (mem : t ∈ revokeWhere p now rows) : ∃ t' ∈ rows, t'.tokenHash = t.tokenHash := by
  obtain ⟨t', row, rfl⟩ := mem_revokeWhere.mp mem
  exact ⟨t', row, (revokeIf_tokenHash p now t').symm⟩

/-- The codes that are consumed keep their hashes. -/
lemma consumeCodes_hash {hash : String} {r : AuthorizationCode}
    (mem : r ∈ (s.consumeCodes tenantId hash now).codes) : ∃ r' ∈ s.codes, r'.codeHash = r.codeHash := by
  rcases mem_map_ite mem with mem | ⟨r', row, -, rfl⟩
  · exact ⟨r, mem, rfl⟩
  · exact ⟨r', row, rfl⟩

lemma exchange_createsWithin (cmd : TokenCommand) (ins : Nat → Input) :
    CreatesWithin D r tenantId s ((exchange D tenantId cmd).run (exec D) ins s).2 := by
  have same : CreatesWithin D r tenantId s s := .refl s
  have consumed : ∀ plain now, CreatesWithin D r tenantId s (s.consumeCodes tenantId (D.sha256Hex plain) now) :=
    fun plain now => ⟨fun c mem => .inl (consumeCodes_hash mem), same.refreshTokens, same.ssoSessions⟩
  unfold exchange
  split_ifs
  · refine alwaysE.run_state (alwaysE_mono exchangeCode_always (fun tokens s' h => ?_) fun _ s' h => ?_) ins
    · obtain ⟨plain, verifier, code, user, now, granted⟩ := h
      rcases granted.store with ⟨-, rfl⟩ | ⟨newPlain, -, -, rfl⟩
      · exact consumed plain now
      · refine ⟨(consumed plain now).codes, fun t mem => ?_, same.ssoSessions⟩
        rcases List.mem_append.mp mem with mem | mem
        · exact .inl ⟨t, mem, rfl⟩
        · rw [List.mem_singleton.mp mem]
          exact .inr rfl
    · rcases h with rfl | ⟨plain, now, -, rfl⟩
      · exact same
      · exact consumed plain now
  · refine alwaysE.run_state (alwaysE_mono exchangeRefreshToken_always (fun tokens s' h => ?_) fun _ s' h => ?_) ins
    · obtain ⟨plain, newPlain, stored, user, now, rotated⟩ := h
      rw [rotated.store]
      refine ⟨same.codes, fun t mem => ?_, same.ssoSessions⟩
      rcases List.mem_append.mp mem with mem | mem
      · exact .inl (revoked_hash mem)
      · rw [List.mem_singleton.mp mem]
        exact .inr rfl
    · rcases h with rfl | ⟨plain, stored, now, -, rfl⟩
      · exact same
      · exact ⟨same.codes, fun t mem => .inl (revoked_hash mem), same.ssoSessions⟩
  · exact same

/-- The store after a service whose answer is not looked at. -/
lemma answered_store {α : Type} {p : Service α} {ins : Nat → Input} {answer : α → ApiAnswer} :
    ((do return answer (← p) : Service ApiAnswer).run (exec D) ins s).2 = (p.run (exec D) ins s).2 := by
  rw [run_bind]
  rfl

/-! The users of the logins. -/

lemma LoginDone.home {password : String} {user : User} (h : LoginDone D s tenantId now password user) :
    LogsInAt D s r tenantId user.id := by
  obtain ⟨old, mem, rfl | rfl⟩ := h.before
  · exact .home mem rfl h.tenant
  · exact .home mem rfl h.tenant

lemma ChangedByName.home {username password : String} {user : User}
    (h : ChangedByName D s tenantId now username password user) : LogsInAt D s r tenantId user.id := by
  obtain ⟨old, mem, hash, checked, -, -, rfl | rfl⟩ := h
  · exact .home mem rfl checked.tenant
  · exact .home mem rfl checked.tenant

lemma AdminDone.home {ins : Nat → Input} {username password : String} {user : User}
    (h : AdminDone D s tenantId ins username password user) : LogsInAt D s r tenantId user.id := by
  obtain ⟨old, mem, rfl | rfl⟩ := h.before
  · exact .home mem rfl h.tenant
  · exact .home mem rfl h.tenant

lemma PasswordVerified.onSession {cookie : Option String} {csrfToken : String} {a : AuthSession} {userId : Uuid}
    (h : PasswordVerified D cookie csrfToken a userId) (session : OnSession D s tenantId now a) :
    LogsInAt D s r tenantId userId :=
  .session session.mem session.tenant h.user h.verified

lemma internal_createsWithin {raw : Option String} (route : InternalRoute) (ins : Nat → Input) :
    CreatesWithin D (.internal raw route) tenantId s ((route.serve D tenantId).run (exec D) ins s).2 := by
  cases route with
  | authenticate cmd ctx =>
    rw [InternalRoute.serve, answered_store]
    exact (login_end cmd ins).createsWithin fun a user _ done => done.2.home
  | mfaTotpVerify cmd ctx =>
    rw [InternalRoute.serve, answered_store]
    exact (mfaVerify_end cmd ins).createsWithin fun a user session done => done.session.onSession session
  | changePassword cmd ctx =>
    rw [InternalRoute.serve, answered_store]
    exact (changePassword_end cmd ins).createsWithin fun a user session done => done.1.onSession session
  | passkeyLoginComplete challengeId credentialValue ctx =>
    rw [InternalRoute.serve, answered_store]
    exact (passkeyComplete_end challengeId credentialValue ins).createsWithin fun a user _ done => .member done.member
  | authenticatePortal cmd ctx =>
    rw [InternalRoute.serve, answered_store]
    exact (portalLogin_end cmd ins).createsWithin fun user done => done.home
  | portalChangePassword cmd ctx =>
    rw [InternalRoute.serve, answered_store]
    exact (portalChangePassword_end cmd ins).createsWithin fun user done => done.changed.home
  | portalMfa cmd ctx =>
    rw [InternalRoute.serve, answered_store]
    exact (portalVerifyMfa_end cmd ins).createsWithin fun user done => .ticket rfl done.ticket
  | authenticateAdmin cmd ctx =>
    rw [InternalRoute.serve, answered_store]
    exact (adminLogin_end cmd ins).createsWithin fun user done => done.home
  | adminChangePassword cmd ctx =>
    rw [InternalRoute.serve, answered_store]
    exact (adminChangePassword_end cmd ins).createsWithin fun user done => done.changed.home
  | consentApprove authSessionId =>
    rw [InternalRoute.serve, answered_store]
    exact (approve_end authSessionId ins).createsWithin
  | consentDeny authSessionId =>
    rw [InternalRoute.serve, answered_store]
    exact (deny_end authSessionId ins).createsWithin

lemma serve_createsWithin (r : ApiRequest) (ins : Nat → Input) :
    CreatesWithin D r tenantId s ((r.serve D tenantId).run (exec D) ins s).2 := by
  cases r with
  | authorize raw req =>
    rw [ApiRequest.serve, answered_store]
    exact (authorize_always.run ins).createsWithin
  | token raw cmd =>
    rw [ApiRequest.serve, answered_store]
    exact exchange_createsWithin cmd ins
  | internal raw route => exact internal_createsWithin route ins

/-! The tokens are of the tenant. -/

lemma TokensOk.issuedBy {user : User} {clientId nonce : String} {scope : List String} {iat authTime : Int}
    {tokens : IssuedTokens} (h : TokensOk D s.signingKeys tenantId user clientId scope iat authTime nonce
      tokens.idToken tokens.accessToken) : IssuedBy D s tenantId tokens := by
  obtain ⟨⟨jti, key, signedId⟩, ⟨jti', key', signedAccess⟩⟩ := h
  exact ⟨⟨_, key, signedId, rfl⟩, ⟨_, key', signedAccess, rfl⟩⟩

lemma exchange_issuedBy {cmd : TokenCommand} {ins : Nat → Input} {tokens : IssuedTokens}
    (issued : ((exchange D tenantId cmd).run (exec D) ins s).1 = .ok tokens) : IssuedBy D s tenantId tokens := by
  have always : alwaysE (exec D) (exchange D tenantId cmd) s (fun tokens _ => IssuedBy D s tenantId tokens)
      fun _ _ => True := by
    unfold exchange
    split_ifs
    · refine alwaysE_mono exchangeCode_always (fun tokens s' h => ?_) fun _ _ _ => trivial
      obtain ⟨plain, verifier, code, user, now, granted⟩ := h
      exact granted.signed.issuedBy
    · refine alwaysE_mono exchangeRefreshToken_always (fun tokens s' h => ?_) fun _ _ _ => trivial
      obtain ⟨plain, newPlain, stored, user, now, rotated⟩ := h
      exact rotated.signed.issuedBy
    · trivial
  exact always.run_ok issued

lemma serve_issuedBy {r : ApiRequest} {ins : Nat → Input} {tokens : IssuedTokens}
    (issued : ((r.serve D tenantId).run (exec D) ins s).1 = .tokens (.ok tokens)) : IssuedBy D s tenantId tokens := by
  cases r with
  | authorize raw req =>
    rw [ApiRequest.serve, run_bind] at issued
    cases issued
  | token raw cmd =>
    rw [ApiRequest.serve, run_bind] at issued
    exact exchange_issuedBy (ApiAnswer.tokens.inj issued)
  | internal raw route =>
    cases route
    all_goals
      rw [ApiRequest.serve, InternalRoute.serve, run_bind] at issued
      cases issued

/-- A request ends with a rejection, or is served for the tenant that it names, which is active. -/
lemma request_end {c : ApiStep} (ok : c.NamesActive D s) :
    (∃ rejection s₁, (c.1.program D).run (exec D) c.2 s = (.rejected rejection, s₁) ∧ s.CachesTenants s₁) ∨
      ∃ tenantId ins s₁, c.1.names D = some tenantId ∧ s.activeTenant tenantId ∧ s.CachesTenants s₁ ∧
        (c.1.program D).run (exec D) c.2 s = (c.1.serve D tenantId).run (exec D) ins s₁ := by
  have entered := tenant_wp ok
  rw [wpE, wp_iff_run] at entered
  have unfolded : (c.1.program D).run (exec D) c.2 s = _ := run_bind _ _
  rcases result : (c.1.tenant D).run.run (exec D) c.2 s with ⟨r, s₁⟩
  rw [result] at entered unfolded
  cases r with
  | error rejection => exact .inl ⟨rejection, s₁, unfolded, entered⟩
  | ok tenantId =>
    obtain ⟨caches, named, active⟩ := entered
    exact .inr ⟨tenantId, _, s₁, named, active, caches, unfolded⟩

/-- What a request that meets the condition creates is of an active tenant. -/
lemma request_creates {c : ApiStep} (ok : c.NamesActive D s) (ins : Nat → Unit) :
    CreatesForActive D c s (c.run D ins s) := by
  rcases request_end ok with ⟨rejection, s₁, ended, entries, rfl⟩ | ⟨tenantId, ins', s₁, named, active, ⟨entries, rfl⟩, ended⟩
  · unfold ApiStep.run
    rw [ended]
    refine ⟨fun r mem new => ?_, fun t mem new => ?_, fun x mem new => ?_, fun tokens answer => ?_⟩
    · exact absurd rfl (new r mem)
    · exact absurd rfl (new t mem)
    · exact absurd rfl (new x mem)
    · rw [ApiStep.answer, ended] at answer
      cases answer
  · have within : CreatesWithin D c.1 tenantId { s with tenantCache := entries } (c.run D ins s) := by
      rw [ApiStep.run, ended]
      exact serve_createsWithin c.1 ins'
    refine ⟨fun r mem new => ?_, fun t mem new => ?_, fun x mem new => ?_, fun tokens answer => ?_⟩
    · rcases within.codes r mem with ⟨r', old, same⟩ | rfl
      · exact absurd same (new r' old)
      · exact ⟨named, active⟩
    · rcases within.refreshTokens t mem with ⟨t', old, same⟩ | rfl
      · exact absurd same (new t' old)
      · exact ⟨named, active⟩
    · rcases within.ssoSessions x mem with ⟨x', old, same⟩ | logsIn
      · exact absurd same (new x' old)
      · exact ⟨tenantId, logsIn.withCache, named, active⟩
    · rw [ApiStep.answer, ended] at answer
      obtain ⟨id, access⟩ := serve_issuedBy answer
      exact ⟨tenantId, ⟨id, access⟩, named, active⟩

end

/-- Runs of requests; before them and between them the store may be and become anything, tenants may be
disabled, enabled and deleted. -/
abbrev ApiRuns (D : Deploy) (ok : ApiStep → Store → Prop) : List (Event ApiStep Unit Store) → Store → Prop :=
  Runs (ApiStep.run D) (fun _ => True) (fun _ _ => True) ok

/-- In every run in which the internal requests name active tenants and the public ones find no outdated entry in the
cache, nothing is created for a tenant that is disabled or unknown at the time. -/
theorem created_for_active_tenants (D : Deploy) {es : List (Event ApiStep Unit Store)} {s : Store}
    (run : ApiRuns D (ApiStep.NamesActive D) es s) :
    ∀ e ∈ es, CreatesForActive D e.call e.pre (e.post (ApiStep.run D)) := by
  intro e mem
  obtain ⟨before, after, split⟩ := List.append_of_mem mem
  exact request_creates (run.upTo split).2 e.ins

/-! ## A disabled tenant -/

namespace Sample

/-- Alice and her tenant. -/
def tenantWith (status : TenantStatus) : Store :=
  { store with
    tenants := [⟨tenantA, none, "root", status, false⟩]
    memberships := [.newHome tenantA aliceId] }

/-- Alice logs in at the portal. -/
def portalRequest : ApiStep :=
  (.internal (some (uuidToString tenantA)) (.authenticatePortal ⟨"alice", "ChangeMe!123"⟩ browser), fun _ => input 5)

def portalEvent (status : TenantStatus) : Event ApiStep Unit Store := ⟨portalRequest, fun _ => (), tenantWith status⟩

/-- The SSO session that the login creates. -/
lemma portalEvent_creates (status : TenantStatus) :
    ∃ x ∈ ((portalEvent status).post (ApiStep.run deploy)).ssoSessions,
      ∀ x' ∈ (tenantWith status).ssoSessions, x'.sessionHash ≠ x.sessionHash := by
  cases status with
  | active => decide +kernel
  | disabled => decide +kernel

end Sample

open Sample in
/-- At the portal of a disabled tenant a login creates an SSO session. -/
theorem disabled_tenant_served :
    ¬ ∀ es s, ApiRuns deploy (fun _ _ => True) es s →
      ∀ e ∈ es, CreatesForActive deploy e.call e.pre (e.post (ApiStep.run deploy)) := by
  intro claim
  have run : ApiRuns deploy (fun _ _ => True) [portalEvent .disabled] _ := .call (.start trivial) portalRequest _ trivial
  have creates := claim _ _ run _ (List.mem_singleton_self _)
  obtain ⟨x, mem, new⟩ := portalEvent_creates .disabled
  obtain ⟨tenantId, -, named, tenant, row, active⟩ := creates.ssoSessions x mem new
  have named' : portalRequest.1.names deploy = some tenantA := by decide +kernel
  cases named'.symm.trans named
  have disabled : ∀ tenant, (tenantWith .disabled).findTenant tenantA = some tenant → tenant.isActive = false := by
    intro tenant row
    cases row
    rfl
  rw [disabled tenant row] at active
  cases active

open Sample in
theorem created_for_active_tenants_sample :
    (∃ x ∈ ((portalEvent .active).post (ApiStep.run deploy)).ssoSessions,
      ∀ x' ∈ (tenantWith .active).ssoSessions, x'.sessionHash ≠ x.sessionHash) ∧
      CreatesForActive deploy portalRequest (tenantWith .active) ((portalEvent .active).post (ApiStep.run deploy)) := by
  have names : portalRequest.NamesActive deploy (tenantWith .active) := by
    intro tenantId named
    have named' : portalRequest.1.names deploy = some tenantA := by decide +kernel
    cases named'.symm.trans named
    exact ⟨_, rfl, rfl⟩
  have run : ApiRuns deploy (ApiStep.NamesActive deploy) [portalEvent .active] _ :=
    .call (.start trivial) portalRequest _ names
  exact ⟨portalEvent_creates .active, created_for_active_tenants deploy run _ (List.mem_singleton_self _)⟩

end IdpMvp
