import IdpMvp.Service.Permission

/-!
# Invitations and memberships

Model of `application/invitation.rs`: a guest is invited, accepts with the token and is removed again.
The mail that delivers the token is left out, and with it the `email_sent` of the answer: the
invitation does not depend on it.
-/

namespace IdpMvp

open Program Program.Flow

inductive InvitationError where
  | notFound
  | alreadyMember
  | forbidden (detail : String)
  | invalidOrExpired
  | internal (detail : String)
  deriving DecidableEq, Repr

structure CreatedInvitation where
  token : String
  expiresAt : DateTime
  inviteeEmail : String
  deriving DecidableEq, Repr

def invitationTokenBytes : Nat := 32

/-- `InvitationService::create_invitation`. -/
def createInvitation (D : Deploy) (host : TenantId) (target invitedBy : Uuid) :
    ServiceFlow InvitationError CreatedInvitation := do
  let row ← orLeave (db (.users (.findById target))) (.internal ·.display)
  let invitee ← found row .notFound
  let membership ← orLeave (db (.memberships (.find host target))) (.internal ·.display)
  ensure membership.isNone .alreadyMember
  let now ← clockNow
  let token ← randomToken invitationTokenBytes
  let expiresAt := now + D.invitationTtl
  orLeave (db (.memberships (.create {
    tenantId := host
    userId := target
    membershipType := .guest
    status := .invited
    invitedBy := some invitedBy
    invitationTokenHash := some (D.sha256Hex token)
    invitationExpiresAt := some expiresAt }))) (.internal ·.display)
  return ⟨token, expiresAt, invitee.email⟩

/-- `InvitationService::accept_invitation`. -/
def acceptInvitation (D : Deploy) (tenantId : TenantId) (sessionUserId : Uuid) (token : String) :
    ServiceFlow InvitationError Unit := do
  ensure (token ≠ "") .invalidOrExpired
  let row ← orLeave (db (.memberships (.findByInvitationTokenHash (D.sha256Hex token))))
    (.internal ·.display)
  let membership ← found row .invalidOrExpired
  ensure (membership.tenantId = tenantId) .invalidOrExpired
  ensure (membership.userId = sessionUserId)
    (.forbidden "only the invited user may accept this invitation")
  let now ← clockNow
  ensure (membership.invitationExpiresAt.any (· > now)) .invalidOrExpired
  orLeave (db (.memberships (.activate tenantId sessionUserId))) (.internal ·.display)

/-- `InvitationService::revoke_membership`: the permissions go first, so that a failure in between
leaves a member without permissions and not the other way round. -/
def revokeMembership (repo : UserPermissionRepository) (host : TenantId) (target : Uuid) :
    ServiceFlow InvitationError Unit := do
  let row ← orLeave (db (.memberships (.find host target))) (.internal ·.display)
  let membership ← found row .notFound
  ensure (!membership.isHome) (.forbidden "home membership cannot be revoked")
  let _ ← orLeave (repo.revokeAllForUserInTenant host target) (.internal ·.display)
  orLeave (db (.memberships (.delete host target))) (.internal ·.display)

end IdpMvp
