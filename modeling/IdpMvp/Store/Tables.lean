import IdpMvp.Domain.Crypto

/-!
# Tables and statements

Model of the sqlx repositories (`crates/core/src/infrastructure/repositories/`) over the schema of
`migrations/0001_baseline.up.sql`. A table is the list of its rows in insertion order. Every
repository has a type of statements, one constructor a SQL statement; `Val` is what a statement
returns when it succeeds, and `exec` what it does to the store.

Primary and foreign keys act as they do in the schema: an `INSERT` that repeats a primary key or
misses a referenced row fails and changes nothing, and deleting a user cascades. Text columns filled
from requests (`client_id`, `preferred_username`, `auth_sessions.id`, `jti`, `kid`, permission codes)
are compared under the collation `D.coll`. Hash columns hold lowercase hexadecimal only, on which the
collation is equality, as the head of the migration says.
-/

namespace IdpMvp

/-- The database, and the memory of the rate limiters and of the two caches. -/
structure Store where
  tenants : List Tenant := []
  users : List User := []
  clients : List Client := []
  memberships : List TenantMembership := []
  /-- The master table of permission codes. -/
  permissionCodes : List String := []
  permissions : List UserPermission := []
  authSessions : List AuthSession := []
  ssoSessions : List SsoSession := []
  codes : List AuthorizationCode := []
  refreshTokens : List RefreshToken := []
  consents : List ClientConsent := []
  revokedAccessTokens : List RevokedAccessToken := []
  signingKeys : List SigningKey := []
  totpSecrets : List TotpSecret := []
  passkeyChallenges : List PasskeyChallenge := []
  webauthnCredentials : List WebAuthnCredential := []
  passwordResetTokens : List PasswordResetToken := []
  emailVerificationTokens : List EmailVerificationToken := []
  systemSettings : List SystemSetting := []
  loginAttempts : List (String × List DateTime) := []
  otherAttempts : List ((Limiter × String) × List DateTime) := []
  permissionCache : List PermissionEntry := []
  tenantCache : List TenantEntry := []
  deriving DecidableEq, Repr

/-- What a statement returns: its value, or the error of the repository. -/
abbrev DbResult (α : Type) := Except DomainError α

def duplicateEntry : DomainError := .repository "Duplicate entry"

def foreignKeyFails : DomainError := .repository "a foreign key constraint fails"

namespace Store

/-- A user row exists (the target of the `user_id` foreign keys). -/
def hasUser (s : Store) (id : Uuid) : Bool := s.users.any (·.id = id)

/-- A client row exists (the target of the `(tenant_id, client_id)` foreign keys). -/
def hasClient (D : Deploy) (s : Store) (tenantId : TenantId) (clientId : String) : Bool :=
  s.clients.any fun c => c.tenantId = tenantId ∧ D.coll c.clientId = D.coll clientId

end Store

/-! ## Users (`user.rs`) -/

inductive UserStmt where
  | create (user : User)
  | findById (id : Uuid)
  | findBySub (sub : Uuid)
  | findByEmail (tenantId : TenantId) (email : String)
  | findByUsername (tenantId : TenantId) (username : String)
  | updateLoginState (id : Uuid) (failedLoginCount : Int) (lockedUntil : Option DateTime)
  | updatePassword (id : Uuid) (passwordHash : String)
  | resetPasswordForced (id : Uuid) (passwordHash : String)
  | updateStatus (id : Uuid) (status : UserStatus)
  | updateName (id : Uuid) (name : Option String)
  | updateLanguage (id : Uuid) (language : Option String)
  | markEmailVerified (id : Uuid)
  | delete (id : Uuid)

@[reducible] def UserStmt.Val : UserStmt → Type
  | findById _ | findBySub _ | findByEmail _ _ | findByUsername _ _ => Option User
  | _ => Unit

/-- `UPDATE users SET ... WHERE id = ?`. -/
def Store.updateUser (s : Store) (id : Uuid) (f : User → User) : Store :=
  { s with users := s.users.map fun u => if u.id = id then f u else u }

/-- `DELETE FROM users WHERE id = ?` with the cascades of the schema: rows that reference the user
go, except auth sessions, whose `authenticated_user_id` is set to NULL. -/
def Store.deleteUser (s : Store) (id : Uuid) : Store :=
  { s with
    users := s.users.filter (·.id ≠ id)
    memberships := s.memberships.filter (·.userId ≠ id)
    permissions := s.permissions.filter (·.userId ≠ id)
    authSessions := s.authSessions.map fun a =>
      if a.authenticatedUserId = some id then { a with authenticatedUserId := none } else a
    ssoSessions := s.ssoSessions.filter (·.userId ≠ id)
    codes := s.codes.filter (·.userId ≠ id)
    refreshTokens := s.refreshTokens.filter (·.userId ≠ id)
    consents := s.consents.filter (·.userId ≠ id)
    totpSecrets := s.totpSecrets.filter (·.userId ≠ id)
    webauthnCredentials := s.webauthnCredentials.filter (·.userId ≠ id)
    passwordResetTokens := s.passwordResetTokens.filter (·.userId ≠ id)
    emailVerificationTokens := s.emailVerificationTokens.filter (·.userId ≠ id) }

/-- The primary key and the unique keys of `users`: `sub`, and within a tenant the mail address and
the user name. -/
def User.collides (D : Deploy) (u r : User) : Bool :=
  r.id = u.id ∨ r.sub = u.sub ∨ (r.tenantId = u.tenantId ∧ (D.coll r.email = D.coll u.email ∨
    (r.preferredUsername.isSome ∧
      r.preferredUsername.map D.coll = u.preferredUsername.map D.coll)))

def UserStmt.exec (D : Deploy) (s : Store) : (q : UserStmt) → DbResult q.Val × Store
  | create u =>
    if s.users.any (u.collides D) then
      (.error (.conflict "email or preferred_username already exists"), s)
    else (.ok (), { s with users := s.users ++ [u] })
  | findById id => (.ok (s.users.find? (·.id = id)), s)
  | findBySub sub => (.ok (s.users.find? (·.sub = sub)), s)
  | findByEmail tenantId email =>
    (.ok (s.users.find? fun u => u.tenantId = tenantId ∧ D.coll u.email = D.coll email), s)
  | findByUsername tenantId username =>
    (.ok (s.users.find? fun u => u.tenantId = tenantId ∧
      u.preferredUsername.map D.coll = some (D.coll username)), s)
  | updateLoginState id n lockedUntil =>
    (.ok (), s.updateUser id fun u => { u with failedLoginCount := n, lockedUntil := lockedUntil })
  | updatePassword id hash =>
    (.ok (), s.updateUser id fun u => { u with passwordHash := hash, mustChangePassword := false })
  | resetPasswordForced id hash =>
    (.ok (), s.updateUser id fun u => { u with passwordHash := hash, mustChangePassword := true })
  | updateStatus id status => (.ok (), s.updateUser id fun u => { u with status := status })
  | updateName id name => (.ok (), s.updateUser id fun u => { u with name := name })
  | updateLanguage id language => (.ok (), s.updateUser id fun u => { u with language := language })
  | markEmailVerified id => (.ok (), s.updateUser id fun u => { u with emailVerified := true })
  | delete id => (.ok (), s.deleteUser id)

/-! ## Clients (`client.rs`), memberships (`tenant_membership.rs`), permissions
(`user_permission.rs`) -/

inductive ClientStmt where
  | findByClientId (tenantId : TenantId) (clientId : String)

@[reducible] def ClientStmt.Val : ClientStmt → Type
  | findByClientId _ _ => Option Client

def ClientStmt.exec (D : Deploy) (s : Store) : (q : ClientStmt) → DbResult q.Val × Store
  | findByClientId tenantId clientId =>
    (.ok (s.clients.find? fun c => c.tenantId = tenantId ∧ D.coll c.clientId = D.coll clientId), s)

/-- The statements of the client management. -/
inductive ClientAdminStmt where
  | create (client : Client)
  | list (tenantId : TenantId)
  | update (client : Client)

@[reducible] def ClientAdminStmt.Val : ClientAdminStmt → Type
  | list _ => List Client
  | _ => Unit

/-- The unique keys `id` and `(tenant_id, client_id)` of `clients` collide. -/
def Client.collides (D : Deploy) (c r : Client) : Bool :=
  r.id = c.id ∨ (r.tenantId = c.tenantId ∧ D.coll r.clientId = D.coll c.clientId)

/-- The row after an `UPDATE` with the columns of `c`. -/
def Client.overwrite (c r : Client) : Client :=
  { c with id := r.id, tenantId := r.tenantId, clientId := r.clientId }

def ClientAdminStmt.exec (D : Deploy) (s : Store) : (q : ClientAdminStmt) → DbResult q.Val × Store
  | create c =>
    if s.clients.any (c.collides D) then
      (.error (.conflict "client_id already exists in this tenant"), s)
    else (.ok (), { s with clients := s.clients ++ [c] })
  | list tenantId => (.ok (s.clients.filter (·.tenantId = tenantId)).reverse, s)
  | update c =>
    (.ok (), { s with clients := s.clients.map fun r =>
      if r.id = c.id ∧ r.tenantId = c.tenantId then c.overwrite r else r })

inductive MembershipStmt where
  | create (membership : TenantMembership)
  | find (tenantId : TenantId) (userId : Uuid)
  | isActiveMember (tenantId : TenantId) (userId : Uuid)
  | listActiveForUser (userId : Uuid)
  | findByInvitationTokenHash (hash : String)
  | activate (tenantId : TenantId) (userId : Uuid)
  | delete (tenantId : TenantId) (userId : Uuid)

@[reducible] def MembershipStmt.Val : MembershipStmt → Type
  | find _ _ | findByInvitationTokenHash _ => Option TenantMembership
  | isActiveMember _ _ => Bool
  | listActiveForUser _ => List TenantMembership
  | _ => Unit

/-- The primary key `(tenant_id, user_id)` of `tenant_memberships`. -/
def TenantMembership.hasKey (tenantId : TenantId) (userId : Uuid) (m : TenantMembership) : Bool :=
  m.tenantId = tenantId ∧ m.userId = userId

/-- The user is an `ACTIVE` member of the tenant. -/
def Store.isActiveMember (s : Store) (tenantId : TenantId) (userId : Uuid) : Bool :=
  s.memberships.any fun m => m.tenantId = tenantId ∧ m.userId = userId ∧ m.status = .active

/-- The `ACTIVE` memberships of a user, ordered by the text of the type: `GUEST` before `HOME`. -/
def Store.activeMemberships (s : Store) (userId : Uuid) : List TenantMembership :=
  let rows := s.memberships.filter fun m => m.userId = userId ∧ m.status = .active
  rows.filter (!·.isHome) ++ rows.filter (·.isHome)

def MembershipStmt.exec (s : Store) : (q : MembershipStmt) → DbResult q.Val × Store
  | create m =>
    if s.memberships.any (·.hasKey m.tenantId m.userId) then
      (.error (.conflict "membership already exists"), s)
    else if !s.hasUser m.userId then (.error foreignKeyFails, s)
    else (.ok (), { s with memberships := s.memberships ++ [m] })
  | find tenantId userId => (.ok (s.memberships.find? (·.hasKey tenantId userId)), s)
  | isActiveMember tenantId userId => (.ok (s.isActiveMember tenantId userId), s)
  | listActiveForUser userId => (.ok (s.activeMemberships userId), s)
  | findByInvitationTokenHash hash =>
    (.ok (s.memberships.find? fun m => m.invitationTokenHash = some hash ∧ m.status = .invited), s)
  | activate tenantId userId =>
    (.ok (), { s with
      memberships := s.memberships.map fun m =>
        if m.hasKey tenantId userId then
          { m with status := .active, invitationTokenHash := none, invitationExpiresAt := none }
        else m })
  | delete tenantId userId =>
    (.ok (), { s with memberships := s.memberships.filter fun m => !m.hasKey tenantId userId })

inductive PermissionStmt where
  | listCodesForUser (tenantId : TenantId) (userId : Uuid)
  | hasPermission (tenantId : TenantId) (userId : Uuid) (code : String)
  | grant (tenantId : TenantId) (userId : Uuid) (code : String)
  | revoke (tenantId : TenantId) (userId : Uuid) (code : String)
  /-- The transaction of `revoke_all_for_user_in_tenant`. -/
  | revokeAllForUserInTenant (tenantId : TenantId) (userId : Uuid)

@[reducible] def PermissionStmt.Val : PermissionStmt → Type
  | listCodesForUser _ _ | revokeAllForUserInTenant _ _ => List String
  | hasPermission _ _ _ => Bool
  | _ => Unit

/-- The row is of the user within the tenant. -/
def UserPermission.ofUser (tenantId : TenantId) (userId : Uuid) (p : UserPermission) : Bool :=
  p.userId = userId ∧ p.tenantId = tenantId

/-- The primary key `(user_id, permission_code, tenant_id)` of `user_permissions`. -/
def UserPermission.hasKey (D : Deploy) (tenantId : TenantId) (userId : Uuid) (code : String)
    (p : UserPermission) : Bool :=
  p.ofUser tenantId userId ∧ D.coll p.permissionCode = D.coll code

/-- The codes a user holds within a tenant. -/
def Store.codesOfUser (s : Store) (tenantId : TenantId) (userId : Uuid) : List String :=
  (s.permissions.filter (·.ofUser tenantId userId)).map (·.permissionCode)

/-- The `SELECT` of `has_permission`. -/
def Store.hasPermission (D : Deploy) (s : Store) (tenantId : TenantId) (userId : Uuid)
    (code : String) : Bool :=
  s.permissions.any (·.hasKey D tenantId userId code)

/-- The `CHECK` constraint of migration 0002 fails: `idp.system.admin` has the scope of the root
tenant. -/
def outOfScope (D : Deploy) (tenantId : TenantId) (code : String) : Bool :=
  D.coll code = D.coll systemAdmin ∧ tenantId ≠ D.rootTenantId

def checkFails : DomainError :=
  .repository "CONSTRAINT `user_permissions_system_admin_scope_chk` failed"

def PermissionStmt.exec (D : Deploy) (s : Store) : (q : PermissionStmt) → DbResult q.Val × Store
  | listCodesForUser tenantId userId => (.ok (s.codesOfUser tenantId userId), s)
  | hasPermission tenantId userId code => (.ok (s.hasPermission D tenantId userId code), s)
  | grant tenantId userId code =>
    if outOfScope D tenantId code then (.error checkFails, s)
    -- `ON DUPLICATE KEY UPDATE user_id = user_id`.
    else if s.hasPermission D tenantId userId code then (.ok (), s)
    else if !s.hasUser userId || !s.permissionCodes.any (fun c => D.coll c = D.coll code) then
      (.error (.invalidValue ("unknown permission code or user: " ++ code)), s)
    else (.ok (), { s with permissions := s.permissions ++ [⟨userId, code, tenantId⟩] })
  | revoke tenantId userId code =>
    (.ok (), { s with permissions := s.permissions.filter fun p => !p.hasKey D tenantId userId code })
  | revokeAllForUserInTenant tenantId userId =>
    (.ok (s.codesOfUser tenantId userId),
      { s with permissions := s.permissions.filter fun p => !p.ofUser tenantId userId })

/-! ## Auth sessions (`auth_session.rs`) -/

inductive AuthSessionStmt where
  | create (session : AuthSession)
  | findById (tenantId : TenantId) (id : String)
  | setAuthenticatedUser (id : String) (userId : Uuid) (authTime : DateTime)
  | setPasswordVerified (id : String) (userId : Uuid) (verifiedAt : DateTime)
  | delete (id : String)

@[reducible] def AuthSessionStmt.Val : AuthSessionStmt → Type
  | findById _ _ => Option AuthSession
  | _ => Unit

/-- `UPDATE auth_sessions SET authenticated_user_id = ?, ... WHERE id = ?`, which fails when it
would make a row reference a user that does not exist. -/
def Store.updateAuthSession (D : Deploy) (s : Store) (id : String) (userId : Uuid)
    (f : AuthSession → AuthSession) : DbResult Unit × Store :=
  if (s.authSessions.any fun a => D.coll a.id = D.coll id) && !s.hasUser userId then
    (.error foreignKeyFails, s)
  else
    (.ok (), { s with
      authSessions := s.authSessions.map fun a => if D.coll a.id = D.coll id then f a else a })

def AuthSessionStmt.exec (D : Deploy) (s : Store) : (q : AuthSessionStmt) → DbResult q.Val × Store
  | create a =>
    if (s.authSessions.any fun r => D.coll r.id = D.coll a.id) then (.error duplicateEntry, s)
    else if !s.hasClient D a.tenantId a.clientId ||
        (a.authenticatedUserId.any fun u => !s.hasUser u) then (.error foreignKeyFails, s)
    else
      -- The INSERT does not name `password_verified_at`, so the column takes its default.
      (.ok (), { s with authSessions := s.authSessions ++ [{ a with passwordVerifiedAt := none }] })
  | findById tenantId id =>
    (.ok (s.authSessions.find? fun a => D.coll a.id = D.coll id ∧ a.tenantId = tenantId), s)
  | setAuthenticatedUser id userId authTime =>
    s.updateAuthSession D id userId fun a =>
      { a with authenticatedUserId := some userId, authTime := some authTime }
  | setPasswordVerified id userId verifiedAt =>
    s.updateAuthSession D id userId fun a =>
      { a with authenticatedUserId := some userId, passwordVerifiedAt := some verifiedAt }
  | delete id =>
    (.ok (), { s with authSessions := s.authSessions.filter fun a => D.coll a.id ≠ D.coll id })

/-! ## SSO sessions (`sso_session.rs`) -/

inductive SsoSessionStmt where
  | create (session : SsoSession)
  | findByHash (hash : String)
  | extendIdle (hash : String) (idleExpiresAt : DateTime)
  | delete (hash : String)
  | deleteAllForUser (userId : Uuid)

@[reducible] def SsoSessionStmt.Val : SsoSessionStmt → Type
  | findByHash _ => Option SsoSession
  | _ => Unit

def SsoSessionStmt.exec (s : Store) : (q : SsoSessionStmt) → DbResult q.Val × Store
  | create x =>
    if s.ssoSessions.any (·.sessionHash = x.sessionHash) then (.error duplicateEntry, s)
    else if !s.hasUser x.userId then (.error foreignKeyFails, s)
    else (.ok (), { s with ssoSessions := s.ssoSessions ++ [x] })
  | findByHash hash => (.ok (s.ssoSessions.find? (·.sessionHash = hash)), s)
  | extendIdle hash idleExpiresAt =>
    (.ok (), { s with ssoSessions := s.ssoSessions.map fun x =>
      if x.sessionHash = hash then { x with idleExpiresAt := idleExpiresAt } else x })
  | delete hash => (.ok (), { s with ssoSessions := s.ssoSessions.filter (·.sessionHash ≠ hash) })
  | deleteAllForUser userId =>
    (.ok (), { s with ssoSessions := s.ssoSessions.filter (·.userId ≠ userId) })

/-! ## Authorization codes (`authorization_code.rs`) -/

inductive CodeStmt where
  | create (code : AuthorizationCode)
  /-- The conditional `UPDATE` of `consume`; its value is the number of affected rows. -/
  | consumeUpdate (tenantId : TenantId) (hash : String) (usedAt : DateTime)
  /-- The `SELECT` of `consume` that follows an `UPDATE` of one row. -/
  | consumeSelect (hash : String)
  | revokeAllActiveForUser (userId : Uuid) (now : DateTime)

@[reducible] def CodeStmt.Val : CodeStmt → Type
  | consumeUpdate _ _ _ => Nat
  | consumeSelect _ => Option AuthorizationCode
  | _ => Unit

/-- The `WHERE` clause of `consume`. -/
def AuthorizationCode.consumable (tenantId : TenantId) (hash : String) (now : DateTime)
    (c : AuthorizationCode) : Bool :=
  c.codeHash = hash ∧ c.tenantId = tenantId ∧ c.usedAt = none ∧ c.expiresAt > now

/-- The store after the `UPDATE` of `consume`. -/
def Store.consumeCodes (s : Store) (tenantId : TenantId) (hash : String) (usedAt : DateTime) : Store :=
  { s with codes := s.codes.map fun c =>
    if c.consumable tenantId hash usedAt then { c with usedAt := some usedAt } else c }

def CodeStmt.exec (D : Deploy) (s : Store) : (q : CodeStmt) → DbResult q.Val × Store
  | create c =>
    if s.codes.any (·.codeHash = c.codeHash) then (.error duplicateEntry, s)
    else if !s.hasUser c.userId || !s.hasClient D c.tenantId c.clientId then
      (.error foreignKeyFails, s)
    else (.ok (), { s with codes := s.codes ++ [c] })
  | consumeUpdate tenantId hash usedAt =>
    (.ok (s.codes.countP (·.consumable tenantId hash usedAt)), s.consumeCodes tenantId hash usedAt)
  | consumeSelect hash => (.ok (s.codes.find? (·.codeHash = hash)), s)
  | revokeAllActiveForUser userId now =>
    (.ok (), { s with codes := s.codes.map fun c =>
      if c.userId = userId ∧ c.usedAt = none ∧ c.expiresAt > now then { c with usedAt := some now }
      else c })

/-! ## Refresh tokens (`refresh_token.rs`) -/

inductive RefreshTokenStmt where
  | create (token : RefreshToken)
  | findByHash (tenantId : TenantId) (hash : String)
  | revoke (hash : String) (revokedAt : DateTime)
  | existsByParentHash (hash : String)
  | revokeAllForUser (userId : Uuid) (revokedAt : DateTime)

@[reducible] def RefreshTokenStmt.Val : RefreshTokenStmt → Type
  | findByHash _ _ => Option RefreshToken
  | existsByParentHash _ => Bool
  | _ => Unit

/-- A row after `UPDATE refresh_tokens SET revoked_at = ? WHERE ... AND revoked_at IS NULL`. -/
def RefreshToken.revokeIf (p : RefreshToken → Bool) (now : DateTime) (t : RefreshToken) :
    RefreshToken :=
  if p t ∧ t.revokedAt = none then { t with revokedAt := some now } else t

/-- The table after such an `UPDATE`. -/
def revokeWhere (p : RefreshToken → Bool) (now : DateTime) (rows : List RefreshToken) :
    List RefreshToken :=
  rows.map (·.revokeIf p now)

/-- The store after such an `UPDATE`. -/
def Store.revokeRefreshTokens (s : Store) (p : RefreshToken → Bool) (now : DateTime) : Store :=
  { s with refreshTokens := revokeWhere p now s.refreshTokens }

/-- The store with one more refresh token. -/
def Store.addRefreshToken (s : Store) (t : RefreshToken) : Store :=
  { s with refreshTokens := s.refreshTokens ++ [t] }

def RefreshTokenStmt.exec (D : Deploy) (s : Store) : (q : RefreshTokenStmt) → DbResult q.Val × Store
  | create t =>
    if s.refreshTokens.any (·.tokenHash = t.tokenHash) then (.error duplicateEntry, s)
    else if !s.hasUser t.userId || !s.hasClient D t.tenantId t.clientId then
      (.error foreignKeyFails, s)
    else (.ok (), s.addRefreshToken t)
  | findByHash tenantId hash =>
    (.ok (s.refreshTokens.find? fun t => t.tokenHash = hash ∧ t.tenantId = tenantId), s)
  | revoke hash revokedAt =>
    (.ok (), s.revokeRefreshTokens (·.tokenHash = hash) revokedAt)
  | existsByParentHash hash => (.ok (s.refreshTokens.any (·.parentHash = some hash)), s)
  | revokeAllForUser userId revokedAt =>
    (.ok (), s.revokeRefreshTokens (·.userId = userId) revokedAt)

section
variable (p : RefreshToken → Bool) (now : DateTime) (t : RefreshToken)

@[simp] lemma revokeIf_tokenHash : (t.revokeIf p now).tokenHash = t.tokenHash := by
  unfold RefreshToken.revokeIf
  split <;> rfl

@[simp] lemma revokeIf_parentHash : (t.revokeIf p now).parentHash = t.parentHash := by
  unfold RefreshToken.revokeIf
  split <;> rfl

@[simp] lemma revokeIf_tenantId : (t.revokeIf p now).tenantId = t.tenantId := by
  unfold RefreshToken.revokeIf
  split <;> rfl

/-- A row is revoked afterwards if it was before or if it was meant. -/
@[simp] lemma revokeIf_isRevoked : (t.revokeIf p now).isRevoked = (t.isRevoked || p t) := by
  unfold RefreshToken.revokeIf RefreshToken.isRevoked
  cases p t <;> cases h : t.revokedAt <;> simp [h]

/-- A row stays as it is unless it is meant and not revoked yet. -/
lemma revokeIf_eq_self_iff : t.revokeIf p now = t ↔ (p t = true → t.isRevoked = true) := by
  unfold RefreshToken.revokeIf RefreshToken.isRevoked
  cases h : t.revokedAt with
  | some at' => simp
  | none =>
    by_cases hp : p t
    · simp only [hp, true_and, if_true, Option.isSome_none, Bool.false_eq_true, imp_false, not_true,
        iff_false]
      intro same
      have revoked := congrArg RefreshToken.revokedAt same
      rw [h] at revoked
      cases revoked
    · simp [hp]

end

lemma mem_revokeWhere {p : RefreshToken → Bool} {now : DateTime} {rows : List RefreshToken}
    {r : RefreshToken} : r ∈ revokeWhere p now rows ↔ ∃ t ∈ rows, t.revokeIf p now = r :=
  List.mem_map

/-! ## Consents (`consent.rs`) and revoked access tokens (`revoked_access_token.rs`) -/

inductive ConsentStmt where
  | find (tenantId : TenantId) (userId : Uuid) (clientId : String)
  | upsert (consent : ClientConsent)

@[reducible] def ConsentStmt.Val : ConsentStmt → Type
  | find _ _ _ => Option ClientConsent
  | upsert _ => Unit

/-- The primary key `(user_id, tenant_id, client_id)` of `client_consents`. -/
def ClientConsent.hasKey (D : Deploy) (tenantId : TenantId) (userId : Uuid) (clientId : String)
    (c : ClientConsent) : Bool :=
  c.userId = userId ∧ c.tenantId = tenantId ∧ D.coll c.clientId = D.coll clientId

def ConsentStmt.exec (D : Deploy) (s : Store) : (q : ConsentStmt) → DbResult q.Val × Store
  | find tenantId userId clientId => (.ok (s.consents.find? (·.hasKey D tenantId userId clientId)), s)
  | upsert c =>
    if !s.hasUser c.userId || !s.hasClient D c.tenantId c.clientId then (.error foreignKeyFails, s)
    else if s.consents.any (·.hasKey D c.tenantId c.userId c.clientId) then
      (.ok (), { s with
        consents := s.consents.map fun r =>
          if r.hasKey D c.tenantId c.userId c.clientId then { r with scopes := c.scopes } else r })
    else (.ok (), { s with consents := s.consents ++ [c] })

inductive RevokedAccessTokenStmt where
  | revoke (token : RevokedAccessToken)
  | isRevoked (jti : String)

@[reducible] def RevokedAccessTokenStmt.Val : RevokedAccessTokenStmt → Type
  | revoke _ => Unit
  | isRevoked _ => Bool

/-- What `INSERT IGNORE` keeps of a `jti`: the column is a `VARCHAR(64)`. -/
def truncateJti (jti : String) : String := String.ofList (jti.toList.take 64)

/-- The store after `INSERT IGNORE` of a revoked `jti`. -/
def Store.revokeJti (D : Deploy) (s : Store) (t : RevokedAccessToken) : Store :=
  if s.revokedAccessTokens.any (fun r => D.coll r.jti = D.coll (truncateJti t.jti)) then s
  else { s with
    revokedAccessTokens := s.revokedAccessTokens ++ [{ t with jti := truncateJti t.jti }] }

def RevokedAccessTokenStmt.exec (D : Deploy) (s : Store) :
    (q : RevokedAccessTokenStmt) → DbResult q.Val × Store
  | revoke t => (.ok (), s.revokeJti D t)
  | isRevoked jti => (.ok (s.revokedAccessTokens.any fun r => D.coll r.jti = D.coll jti), s)

/-! ## Signing keys (`signing_key.rs`) -/

inductive SigningKeyStmt where
  | findActive
  | listPublished
  | findByKid (kid : String)
  /-- The `GET_LOCK` of `insert_if_no_active`; not getting the lock is a failure of it. -/
  | bootstrapLock
  /-- The `SELECT` of `insert_if_no_active`. -/
  | anyActive

@[reducible] def SigningKeyStmt.Val : SigningKeyStmt → Type
  | findActive | findByKid _ => Option SigningKey
  | listPublished => List SigningKey
  | bootstrapLock => Unit
  | anyActive => Bool

/-- The later of two keys by `not_before`, the first of equals. -/
def SigningKey.newer (best : Option SigningKey) (k : SigningKey) : Option SigningKey :=
  match best with
  | none => some k
  | some b => if b.notBefore < k.notBefore then some k else some b

/-- `SigningKey::is_usable_for_signing_at`, the `WHERE` clause of `find_active`. -/
def SigningKey.isUsableForSigningAt (now : DateTime) (k : SigningKey) : Bool :=
  k.status = .active ∧ k.notBefore ≤ now ∧ now < k.notAfter

/-- Statements that read `UTC_TIMESTAMP(6)` take the server's clock as `now`. -/
def SigningKeyStmt.exec (D : Deploy) (now : DateTime) (s : Store) :
    (q : SigningKeyStmt) → DbResult q.Val × Store
  | findActive =>
    (.ok ((s.signingKeys.filter (·.isUsableForSigningAt now)).foldl SigningKey.newer none), s)
  | listPublished => (.ok (s.signingKeys.filter (·.notAfter > now)), s)
  | findByKid kid => (.ok (s.signingKeys.find? fun k => D.coll k.kid = D.coll kid), s)
  | bootstrapLock => (.ok (), s)
  | anyActive => (.ok (s.signingKeys.any (·.status = .active)), s)

/-- The statements of the key management. -/
inductive SigningKeyAdminStmt where
  | insert (key : SigningKey)
  | updateStatus (kid : String) (status : SigningKeyStatus)
  | delete (kid : String)

@[reducible] def SigningKeyAdminStmt.Val : SigningKeyAdminStmt → Type
  | _ => Unit

def SigningKeyAdminStmt.exec (D : Deploy) (s : Store) :
    (q : SigningKeyAdminStmt) → DbResult q.Val × Store
  | insert key =>
    if (s.signingKeys.any fun k => D.coll k.kid = D.coll key.kid) then (.error duplicateEntry, s)
    else (.ok (), { s with signingKeys := s.signingKeys ++ [key] })
  | updateStatus kid status =>
    if (s.signingKeys.any fun k => D.coll k.kid = D.coll kid) then
      (.ok (), { s with
        signingKeys := s.signingKeys.map fun k =>
          if D.coll k.kid = D.coll kid then { k with status := status } else k })
    else (.error .notFound, s)
  | delete kid =>
    (.ok (), { s with signingKeys := s.signingKeys.filter fun k => D.coll k.kid ≠ D.coll kid })

/-! ## TOTP secrets (`totp_secret.rs`) and passkeys (`passkey_challenge.rs`,
`webauthn_credential.rs`) -/

inductive TotpSecretStmt where
  | upsert (secret : TotpSecret)
  | findByUserId (userId : Uuid)
  | confirm (userId : Uuid) (confirmedAt : DateTime)
  | delete (userId : Uuid)

@[reducible] def TotpSecretStmt.Val : TotpSecretStmt → Type
  | findByUserId _ => Option TotpSecret
  | _ => Unit

def TotpSecretStmt.exec (s : Store) : (q : TotpSecretStmt) → DbResult q.Val × Store
  | upsert t =>
    if !s.hasUser t.userId then (.error foreignKeyFails, s)
    else if s.totpSecrets.any (·.userId = t.userId) then
      (.ok (), { s with totpSecrets := s.totpSecrets.map fun r => if r.userId = t.userId then t else r })
    else (.ok (), { s with totpSecrets := s.totpSecrets ++ [t] })
  | findByUserId userId => (.ok (s.totpSecrets.find? (·.userId = userId)), s)
  | confirm userId confirmedAt =>
    (.ok (), { s with totpSecrets := s.totpSecrets.map fun r =>
      if r.userId = userId ∧ r.confirmedAt = none then { r with confirmedAt := some confirmedAt }
      else r })
  | delete userId => (.ok (), { s with totpSecrets := s.totpSecrets.filter (·.userId ≠ userId) })

inductive PasskeyStmt where
  | challengeCreate (challenge : PasskeyChallenge)
  | challengeFindById (id : Uuid)
  | challengeDelete (id : Uuid)
  | credentialFindByCredentialId (credentialId : String)
  | credentialUpdatePasskey (id : Uuid) (passkeyJson : String) (lastUsedAt : DateTime)
  | credentialCreate (credential : WebAuthnCredential)
  | credentialListByUserId (userId : Uuid)
  | credentialDelete (id userId : Uuid)

@[reducible] def PasskeyStmt.Val : PasskeyStmt → Type
  | challengeFindById _ => Option PasskeyChallenge
  | credentialFindByCredentialId _ => Option WebAuthnCredential
  | credentialListByUserId _ => List WebAuthnCredential
  | _ => Unit

/-- The unique key of `user_webauthn_credentials` is on the first 255 characters of the credential id. -/
def credentialKey (D : Deploy) (credentialId : String) : String :=
  D.coll (String.ofList (credentialId.toList.take 255))

def PasskeyStmt.exec (D : Deploy) (s : Store) : (q : PasskeyStmt) → DbResult q.Val × Store
  | challengeCreate c =>
    if s.passkeyChallenges.any (·.id = c.id) then (.error duplicateEntry, s)
    else (.ok (), { s with passkeyChallenges := s.passkeyChallenges ++ [c] })
  | challengeFindById id => (.ok (s.passkeyChallenges.find? (·.id = id)), s)
  | challengeDelete id =>
    (.ok (), { s with passkeyChallenges := s.passkeyChallenges.filter (·.id ≠ id) })
  | credentialFindByCredentialId credentialId =>
    (.ok (s.webauthnCredentials.find? fun c => D.coll c.credentialId = D.coll credentialId), s)
  | credentialUpdatePasskey id passkeyJson lastUsedAt =>
    (.ok (), { s with webauthnCredentials := s.webauthnCredentials.map fun c =>
      if c.id = id then { c with passkeyJson := passkeyJson, lastUsedAt := some lastUsedAt } else c })
  | credentialCreate c =>
    if (s.webauthnCredentials.any fun r => r.id = c.id ∨
        credentialKey D r.credentialId = credentialKey D c.credentialId) then
      (.error duplicateEntry, s)
    else if !s.hasUser c.userId then (.error foreignKeyFails, s)
    else (.ok (), { s with webauthnCredentials := s.webauthnCredentials ++ [c] })
  | credentialListByUserId userId => (.ok (s.webauthnCredentials.filter (·.userId = userId)), s)
  | credentialDelete id userId =>
    (.ok (), { s with webauthnCredentials :=
      s.webauthnCredentials.filter fun c => ¬ (c.id = id ∧ c.userId = userId) })

/-! ## Password reset tokens (`password_reset_token.rs`) -/

inductive PasswordResetTokenStmt where
  | create (token : PasswordResetToken)
  /-- The conditional `UPDATE` of `consume`; its value is the number of affected rows. -/
  | consumeUpdate (hash : String) (usedAt : DateTime)
  /-- The `SELECT` of `consume` that follows an `UPDATE` of one row. -/
  | consumeSelect (hash : String)
  | invalidateAllForUser (userId : Uuid) (now : DateTime)

@[reducible] def PasswordResetTokenStmt.Val : PasswordResetTokenStmt → Type
  | consumeUpdate _ _ => Nat
  | consumeSelect _ => Option PasswordResetToken
  | _ => Unit

/-- The `WHERE` clause of `consume`. -/
def PasswordResetToken.consumable (hash : String) (now : DateTime) (t : PasswordResetToken) : Bool :=
  t.tokenHash = hash ∧ t.usedAt = none ∧ t.expiresAt > now

def PasswordResetTokenStmt.exec (s : Store) :
    (q : PasswordResetTokenStmt) → DbResult q.Val × Store
  | create t =>
    if s.passwordResetTokens.any (·.tokenHash = t.tokenHash) then (.error duplicateEntry, s)
    else if !s.hasUser t.userId then (.error foreignKeyFails, s)
    else (.ok (), { s with passwordResetTokens := s.passwordResetTokens ++ [t] })
  | consumeUpdate hash usedAt =>
    (.ok (s.passwordResetTokens.countP (·.consumable hash usedAt)),
      { s with passwordResetTokens := s.passwordResetTokens.map fun t =>
        if t.consumable hash usedAt then { t with usedAt := some usedAt } else t })
  | consumeSelect hash => (.ok (s.passwordResetTokens.find? (·.tokenHash = hash)), s)
  | invalidateAllForUser userId now =>
    (.ok (), { s with passwordResetTokens := s.passwordResetTokens.map fun t =>
      if t.userId = userId ∧ t.usedAt = none then { t with usedAt := some now } else t })

/-! ## Mail verification tokens (`email_verification_token.rs`) -/

inductive EmailVerificationTokenStmt where
  | create (token : EmailVerificationToken)
  /-- The conditional `UPDATE` of `consume`; its value is the number of affected rows. -/
  | consumeUpdate (hash : String) (usedAt : DateTime)
  /-- The `SELECT` of `consume` that follows an `UPDATE` of one row. -/
  | consumeSelect (hash : String)
  | invalidateAllForUser (userId : Uuid) (now : DateTime)

@[reducible] def EmailVerificationTokenStmt.Val : EmailVerificationTokenStmt → Type
  | consumeUpdate _ _ => Nat
  | consumeSelect _ => Option EmailVerificationToken
  | _ => Unit

/-- The SQL of this repository is that of the password reset tokens, on its own table. -/
def EmailVerificationTokenStmt.exec (s : Store) :
    (q : EmailVerificationTokenStmt) → DbResult q.Val × Store
  | create t =>
    if s.emailVerificationTokens.any (·.tokenHash = t.tokenHash) then (.error duplicateEntry, s)
    else if !s.hasUser t.userId then (.error foreignKeyFails, s)
    else (.ok (), { s with emailVerificationTokens := s.emailVerificationTokens ++ [t] })
  | consumeUpdate hash usedAt =>
    (.ok (s.emailVerificationTokens.countP (·.consumable hash usedAt)),
      { s with emailVerificationTokens := s.emailVerificationTokens.map fun t =>
        if t.consumable hash usedAt then { t with usedAt := some usedAt } else t })
  | consumeSelect hash => (.ok (s.emailVerificationTokens.find? (·.tokenHash = hash)), s)
  | invalidateAllForUser userId now =>
    (.ok (), { s with emailVerificationTokens := s.emailVerificationTokens.map fun t =>
      if t.userId = userId ∧ t.usedAt = none then { t with usedAt := some now } else t })

/-! ## Tenants (`tenant.rs`, `tenant_provisioning.rs`) and system settings (`system_setting.rs`)

The foreign keys on `tenants` are the business of its own statements: a row that is referenced is not
deleted, and memberships and permissions go with their tenant. Other tables are only ever filled for
tenants that were found before. -/

inductive TenantStmt where
  | findById (id : TenantId)
  | listChildren (parentId : TenantId)
  | update (tenant : Tenant)
  | delete (id : TenantId)
  /-- The transaction of `provision`. -/
  | provision (tenant : Tenant) (adminMembership : TenantMembership) (adminPermissionCode : String)

@[reducible] def TenantStmt.Val : TenantStmt → Type
  | findById _ => Option Tenant
  | listChildren _ => List Tenant
  | _ => Unit

/-- The row of a tenant. -/
def Store.findTenant (s : Store) (id : TenantId) : Option Tenant := s.tenants.find? (·.id = id)

/-- The store after the `DELETE` of a tenant that nothing restricts, with its cascades. -/
def Store.deleteTenant (s : Store) (id : TenantId) : Store :=
  { s with
    tenants := s.tenants.filter (·.id ≠ id)
    memberships := s.memberships.filter (·.tenantId ≠ id)
    permissions := s.permissions.filter (·.tenantId ≠ id) }

/-- A child tenant, a user or a client references the tenant. -/
def Store.referencesTenant (s : Store) (id : TenantId) : Bool :=
  s.tenants.any (·.parentTenantId = some id) || s.users.any (·.tenantId = id) ||
    s.clients.any (·.tenantId = id)

/-- The membership and the grant of `provision`, in one transaction with the tenant. -/
def Store.provision (D : Deploy) (s : Store) (t : Tenant) (m : TenantMembership) (code : String) :
    DbResult Unit × Store :=
  match MembershipStmt.exec { s with tenants := s.tenants ++ [t] } (.create m) with
  | (.error e, _) => (.error e, s)
  | (.ok (), s₁) =>
    match PermissionStmt.exec D s₁ (.grant m.tenantId m.userId code) with
    | (.error e, _) => (.error e, s)
    | (.ok (), s₂) => (.ok (), s₂)

def TenantStmt.exec (D : Deploy) (s : Store) : (q : TenantStmt) → DbResult q.Val × Store
  | findById id => (.ok (s.findTenant id), s)
  | listChildren parentId => (.ok (s.tenants.filter (·.parentTenantId = some parentId)), s)
  | update t =>
    (.ok (), { s with tenants := s.tenants.map fun r =>
      if r.id = t.id then { r with
        name := t.name, status := t.status, selfRegistrationEnabled := t.selfRegistrationEnabled }
      else r })
  | delete id =>
    if s.tenants.any (·.id = id) && s.referencesTenant id then
      (.error (.conflict "tenant has child tenants, users, or clients"), s)
    else (.ok (), s.deleteTenant id)
  | provision t m code =>
    if s.tenants.any (fun r => r.id = t.id || (r.isRoot && t.isRoot)) then
      (.error (.conflict "a root tenant already exists"), s)
    else if t.parentTenantId.any (fun p => !s.tenants.any (·.id = p)) then (.error foreignKeyFails, s)
    else s.provision D t m code

inductive SystemSettingStmt where
  | loadAll
  | upsert (setting : SystemSetting)

@[reducible] def SystemSettingStmt.Val : SystemSettingStmt → Type
  | loadAll => List SystemSetting
  | upsert _ => Unit

def SystemSettingStmt.exec (D : Deploy) (s : Store) : (q : SystemSettingStmt) → DbResult q.Val × Store
  | loadAll => (.ok s.systemSettings, s)
  | upsert x =>
    if s.systemSettings.any (fun r => D.coll r.key = D.coll x.key) then
      (.ok (), { s with
        systemSettings := s.systemSettings.map fun r =>
          if D.coll r.key = D.coll x.key then { r with value := x.value, isSecret := x.isSecret }
          else r })
    else (.ok (), { s with systemSettings := s.systemSettings ++ [x] })

end IdpMvp
