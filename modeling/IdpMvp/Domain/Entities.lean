import IdpMvp.Domain.Values

/-!
# Entities

Model of the entity modules of `crates/core/src/domain/` that the modelled services read or write:
`user.rs`, `client.rs`, `tenant_membership.rs`, `auth_session.rs`, `sso_session.rs`,
`authorization_code.rs`, `refresh_token.rs`, `consent.rs`, `revoked_access_token.rs`,
`signing_key.rs`, `totp_secret.rs`, `passkey_challenge.rs`, `webauthn_credential.rs`,
`password_reset.rs`, `email_verification.rs`, `tenant.rs` and `system_setting.rs`, each with its
predicates. The `created_at` and `updated_at` columns are left out: no modelled function reads them.
-/

namespace IdpMvp

/-- `User` of `user.rs`. -/
structure User where
  id : Uuid
  tenantId : TenantId
  sub : Uuid
  email : String
  emailVerified : Bool
  preferredUsername : Option String
  name : Option String
  language : Option String
  passwordHash : String
  mustChangePassword : Bool
  status : UserStatus
  failedLoginCount : Int
  lockedUntil : Option DateTime
  deriving DecidableEq, Repr

def User.isActive (u : User) : Bool := u.status = .active

def User.isLockedAt (u : User) (now : DateTime) : Bool :=
  match u.lockedUntil with
  | some t => t > now
  | none => false

/-- `Client` of `client.rs`. -/
structure Client where
  id : Uuid
  tenantId : TenantId
  clientId : String
  clientSecretHash : Option String
  clientType : ClientType
  clientStatus : ClientStatus
  appName : String
  redirectUris : List String
  grantTypes : List String
  responseTypes : List String
  scopes : List String
  tokenEndpointAuthMethod : TokenEndpointAuthMethod
  requirePkce : Bool
  postLogoutRedirectUris : List String
  frontchannelLogoutUri : Option String
  backchannelLogoutUri : Option String
  deriving DecidableEq, Repr

def Client.isActive (c : Client) : Bool := c.clientStatus = .active

def Client.allowsRedirectUri (c : Client) (uri : String) : Bool := c.redirectUris.any (· = uri)

def Client.allowsScopes (c : Client) (requested : List String) : Bool :=
  requested.all (fun s => c.scopes.contains s)

/-- `TenantMembership` of `tenant_membership.rs`. -/
structure TenantMembership where
  tenantId : TenantId
  userId : Uuid
  membershipType : MembershipType
  status : MembershipStatus
  invitedBy : Option Uuid
  invitationTokenHash : Option String
  invitationExpiresAt : Option DateTime
  deriving DecidableEq, Repr

/-- `TenantMembership::new_home`. -/
def TenantMembership.newHome (tenantId : TenantId) (userId : Uuid) : TenantMembership where
  tenantId := tenantId
  userId := userId
  membershipType := .home
  status := .active
  invitedBy := none
  invitationTokenHash := none
  invitationExpiresAt := none

/-- `TenantMembership::new_active_guest`. -/
def TenantMembership.newActiveGuest (tenantId : TenantId) (userId : Uuid) : TenantMembership where
  tenantId := tenantId
  userId := userId
  membershipType := .guest
  status := .active
  invitedBy := none
  invitationTokenHash := none
  invitationExpiresAt := none

def TenantMembership.isHome (m : TenantMembership) : Bool := m.membershipType = .home

/-- `AuthSession` of `auth_session.rs`. -/
structure AuthSession where
  id : String
  tenantId : TenantId
  clientId : String
  redirectUri : String
  scope : List String
  state : String
  nonce : String
  codeChallenge : String
  codeChallengeMethod : CodeChallengeMethod
  authenticatedUserId : Option Uuid
  authTime : Option DateTime
  passwordVerifiedAt : Option DateTime
  expiresAt : DateTime
  deriving DecidableEq, Repr

def AuthSession.isExpiredAt (a : AuthSession) (now : DateTime) : Bool := a.expiresAt ≤ now

/-- `SsoSession` of `sso_session.rs`. -/
structure SsoSession where
  sessionHash : String
  userId : Uuid
  authTime : DateTime
  idleExpiresAt : DateTime
  absoluteExpiresAt : DateTime
  userAgent : Option String
  ipAddress : Option String
  deriving DecidableEq, Repr

def SsoSession.isValidAt (s : SsoSession) (now : DateTime) : Bool :=
  s.idleExpiresAt > now && s.absoluteExpiresAt > now

/-- `AuthorizationCode` of `authorization_code.rs`. -/
structure AuthorizationCode where
  codeHash : String
  tenantId : TenantId
  userId : Uuid
  clientId : String
  redirectUri : String
  scope : List String
  nonce : String
  authTime : DateTime
  codeChallenge : String
  codeChallengeMethod : CodeChallengeMethod
  expiresAt : DateTime
  usedAt : Option DateTime
  deriving DecidableEq, Repr

/-- `RefreshToken` of `refresh_token.rs`. -/
structure RefreshToken where
  tokenHash : String
  parentHash : Option String
  tenantId : TenantId
  userId : Uuid
  clientId : String
  scope : List String
  expiresAt : DateTime
  revokedAt : Option DateTime
  deriving DecidableEq, Repr

def RefreshToken.isRevoked (t : RefreshToken) : Bool := t.revokedAt.isSome

def RefreshToken.isExpiredAt (t : RefreshToken) (now : DateTime) : Bool := t.expiresAt ≤ now

def RefreshToken.isValidAt (t : RefreshToken) (now : DateTime) : Bool :=
  !t.isRevoked && !t.isExpiredAt now

/-- `ClientConsent` of `consent.rs`. -/
structure ClientConsent where
  userId : Uuid
  tenantId : TenantId
  clientId : String
  scopes : List String
  deriving DecidableEq, Repr

def ClientConsent.covers (c : ClientConsent) (required : List String) : Bool :=
  required.all (fun s => c.scopes.contains s)

/-- `RevokedAccessToken` of `revoked_access_token.rs`. -/
structure RevokedAccessToken where
  jti : String
  revokedAt : DateTime
  expiresAt : DateTime
  deriving DecidableEq, Repr

/-- `SigningKey` of `signing_key.rs`. -/
structure SigningKey where
  kid : String
  algorithm : String
  publicKey : String
  privateKeyEncrypted : String
  status : SigningKeyStatus
  notBefore : DateTime
  notAfter : DateTime
  deriving DecidableEq, Repr

/-- `TotpSecret` of `totp_secret.rs`. -/
structure TotpSecret where
  userId : Uuid
  secretEncrypted : String
  confirmedAt : Option DateTime
  deriving DecidableEq, Repr

def TotpSecret.isConfirmed (t : TotpSecret) : Bool := t.confirmedAt.isSome

/-- A row of `user_permissions`. -/
structure UserPermission where
  userId : Uuid
  permissionCode : String
  tenantId : TenantId
  deriving DecidableEq, Repr

/-- `PermissionKey` of `cached_user_permission.rs`. -/
structure PermissionKey where
  tenantId : TenantId
  userId : Uuid
  code : String
  deriving DecidableEq, Repr

/-- The `Entry` of an `InMemoryTtlCache` for a permission, with its key. -/
structure PermissionEntry where
  key : PermissionKey
  value : Bool
  expiresAt : DateTime
  deriving DecidableEq, Repr

/-- `PasswordResetToken` of `password_reset.rs`. -/
structure PasswordResetToken where
  tokenHash : String
  userId : Uuid
  expiresAt : DateTime
  usedAt : Option DateTime
  deriving DecidableEq, Repr

/-- `EmailVerificationToken` of `email_verification.rs`, with the same fields. -/
abbrev EmailVerificationToken := PasswordResetToken

/-- `Tenant` of `tenant.rs`. -/
structure Tenant where
  id : TenantId
  parentTenantId : Option TenantId
  name : String
  status : TenantStatus
  selfRegistrationEnabled : Bool
  deriving DecidableEq, Repr

def Tenant.isRoot (t : Tenant) : Bool := t.parentTenantId.isNone

def Tenant.isActive (t : Tenant) : Bool := t.status = .active

/-- The `Entry` of an `InMemoryTtlCache` for a tenant, under its id. -/
structure TenantEntry where
  key : TenantId
  value : Tenant
  expiresAt : DateTime
  deriving DecidableEq, Repr

/-- `SystemSetting` of `system_setting.rs`. -/
structure SystemSetting where
  key : String
  value : String
  isSecret : Bool
  deriving DecidableEq, Repr

inductive PasskeyChallengeType where
  | register
  | authenticate
  deriving DecidableEq, Repr

/-- `PasskeyChallenge` of `passkey_challenge.rs`. -/
structure PasskeyChallenge where
  id : Uuid
  userId : Option Uuid
  challengeType : PasskeyChallengeType
  stateJson : String
  authSessionId : Option String
  expiresAt : DateTime
  deriving DecidableEq, Repr

/-- `WebAuthnCredential` of `webauthn_credential.rs`. -/
structure WebAuthnCredential where
  id : Uuid
  userId : Uuid
  credentialId : String
  passkeyJson : String
  name : String
  lastUsedAt : Option DateTime
  deriving DecidableEq, Repr

end IdpMvp
