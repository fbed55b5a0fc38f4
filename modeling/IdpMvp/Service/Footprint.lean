import IdpMvp.Service.DirectLogin

/-!
# What the shared steps of the login services use

The operations of a step that several services share, for any class of operations that contains them.
-/

namespace IdpMvp

open Program Program.Prog Program.Flow

variable {D : Deploy} {tenantId : TenantId} {P : Op → Prop}

lemma loadAuthSession_uses {ε : Type} {sessionId : String} {now : DateTime} {expired : ε}
    {internal : String → ε} (find : P (.db (.authSessions (.findById tenantId sessionId))))
    (delete : ∀ id, P (.db (.authSessions (.delete id)))) :
    (loadAuthSession tenantId sessionId now expired internal).run.Uses P := by
  unfold loadAuthSession
  refine uses_bind (uses_orLeave (uses_op find) _) fun row => ?_
  refine uses_bind (uses_found _ _) fun session => ?_
  exact uses_bind (uses_ensureOr _ (Uses.bind (uses_op (delete _)) fun _ => trivial)) fun _ => trivial

lemma ensureActiveMember_uses {userId : Uuid} (user : P (.db (.users (.findById userId))))
    (member : P (.db (.memberships (.isActiveMember tenantId userId)))) :
    (ensureActiveMember tenantId userId).run.Uses P := by
  unfold ensureActiveMember
  refine uses_bind (uses_orLeave (uses_op user) _) fun row => uses_bind (uses_ensure _ _) fun _ => ?_
  exact uses_bind (uses_orLeave (uses_op member) _) fun _ => uses_ensure _ _

lemma createSsoSession_uses {userId : Uuid} {now : DateTime} {ctx : RequestContext} (random : P (.randomHex 32))
    (create : ∀ session, P (.db (.ssoSessions (.create session)))) :
    (createSsoSession D userId now ctx).Uses P := by
  refine ⟨random, fun ssoSessionId => ⟨create _, ?_⟩⟩
  rintro (e | _) <;> trivial

lemma hasConsent_uses {userId : Uuid} {clientId : String} {scope : List String}
    (find : P (.db (.consents (.find tenantId userId clientId)))) :
    (hasConsent tenantId userId clientId scope).Uses P := by
  unfold hasConsent
  split
  · trivial
  · refine ⟨find, ?_⟩
    rintro (e | _ | consent) <;> trivial

lemma issueCode_uses {cmd : IssueCodeCommand} (random : P (.randomToken 32)) (clock : P .clock)
    (create : ∀ code, P (.db (.codes (.create code)))) : (issueCode D cmd).Uses P := by
  refine ⟨random, fun code => ⟨clock, fun now => ⟨create _, ?_⟩⟩⟩
  rintro (e | _) <;> trivial

lemma finishFlow_uses {session : AuthSession} {userId : Uuid} {now : DateTime}
    (find : ∀ clientId, P (.db (.consents (.find tenantId userId clientId)))) (random : P (.randomToken 32))
    (clock : P .clock) (create : ∀ code, P (.db (.codes (.create code))))
    (delete : ∀ id, P (.db (.authSessions (.delete id)))) : (finishFlow D tenantId session userId now).Uses P := by
  refine Uses.bind (hasConsent_uses (find _)) ?_
  rintro (e | _ | _)
  · trivial
  · trivial
  refine Uses.bind (issueCode_uses random clock create) ?_
  rintro (e | code)
  · trivial
  · exact ⟨delete _, fun _ => trivial⟩

end IdpMvp
