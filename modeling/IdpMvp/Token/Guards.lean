import IdpMvp.Service.Token
import IdpMvp.Store.Monitors

/-!
# Monitors on the token endpoint

The parts of the token endpoint that no monitor of codes or refresh tokens takes notice of: finding
the client, loading the user and signing.
-/

namespace IdpMvp

open Program Program.Prog Program.Flow

/-- The request has returned tokens. -/
def succeeded : Service (Except TokenError IssuedTokens) → Bool
  | .ret (.ok _) => true
  | _ => false

lemma succeeded_iff {p : Service (Except TokenError IssuedTokens)} :
    succeeded p = true ↔ ∃ tokens, p = .ret (.ok tokens) := by
  unfold succeeded
  split
  · simp
  · rename_i h
    simp only [Bool.false_eq_true, false_iff]
    rintro ⟨tokens, e⟩
    exact h tokens e

/-- The request has returned an error. -/
def refused : Service (Except TokenError IssuedTokens) → Bool
  | .ret (.error _) => true
  | _ => false

/-! ## Operations beside codes and refresh tokens -/

/-- What the token endpoint calls to find the client, load the user and sign. -/
def Op.Aside : Op → Prop
  | .db (.clients _) | .db (.users (.findById _)) | .db (.signingKeys _) | .uuidV4 => True
  | _ => False

variable {D : Deploy}

lemma tokenClient_uses {tenantId : TenantId} {cmd : TokenCommand} :
    (tokenClient D tenantId cmd).run.Uses Op.Aside := by
  refine uses_bind (uses_orThrow _ _) fun clientId => ?_
  refine uses_bind ?_ fun client => uses_bind (uses_orThrow _ _) fun _ => trivial
  refine uses_bind (uses_orLeave (uses_op trivial) _) fun row => ?_
  exact uses_bind (uses_found _ _) fun _ => uses_bind (uses_ensure _ _) fun _ => trivial

lemma loadActiveUser_uses {userId : Uuid} : (loadActiveUser userId).run.Uses Op.Aside := by
  refine uses_bind (uses_orLeave (uses_op trivial) _) fun row => ?_
  exact uses_bind (uses_found _ _) fun _ => uses_bind (uses_ensure _ _) fun _ => trivial

lemma activeSigningKey_uses : (activeSigningKey D).Uses Op.Aside := by
  refine Uses.bind (uses_op trivial) ?_
  intro r
  split
  · trivial
  · trivial
  · split
    · trivial
    · split <;> trivial

lemma signToken_uses {typ : String} {claims : JwtClaims} :
    (signToken D typ claims).run.Uses Op.Aside :=
  uses_bind (uses_orLeave activeSigningKey_uses _) fun _ => uses_orThrow _ _

lemma signTokens_uses {tenantId : TenantId} {user : User} {clientId : String}
    {scope : List String} {iat authTime : Int} {nonce : String} :
    (signTokens D tenantId user clientId scope iat authTime nonce).run.Uses Op.Aside := by
  have draw : (uuidV4).Uses Op.Aside := uses_op trivial
  refine uses_bind (uses_lift draw) fun i => uses_bind (uses_lift draw) fun j => ?_
  exact uses_bind signToken_uses fun _ => uses_bind signToken_uses fun _ => trivial

/-! The code exchange adds its own. -/

/-- The operations of a code exchange. -/
def Op.OfCodeExchange : Op → Prop
  | .db (.codes (.consumeUpdate _ _ _)) | .db (.codes (.consumeSelect _))
  | .db (.refreshTokens (.create _)) | .clock | .randomToken _ => True
  | o => Op.Aside o

lemma Op.Aside.ofCodeExchange {o : Op} (h : Op.Aside o) : Op.OfCodeExchange o := by
  unfold Op.OfCodeExchange
  split <;> trivial

lemma consume_uses {tenantId : TenantId} {hash : String} {now : DateTime} :
    (consume tenantId hash now).Uses Op.OfCodeExchange := by
  refine Uses.bind (uses_op trivial) ?_
  rintro (e | _ | n)
  · trivial
  · trivial
  · exact uses_op trivial

lemma issueRootRefreshToken_uses {tenantId : TenantId} {code : AuthorizationCode}
    {clientId : String} {now : DateTime} :
    (issueRootRefreshToken D tenantId code clientId now).run.Uses Op.OfCodeExchange := by
  unfold issueRootRefreshToken
  split
  · have draw : (randomToken 32).Uses Op.OfCodeExchange := uses_op trivial
    refine uses_bind (uses_lift draw) fun plain => ?_
    exact uses_bind (uses_orLeave (uses_op trivial) _) fun _ => trivial
  · trivial

lemma exchangeCode_uses {tenantId : TenantId} {cmd : TokenCommand} :
    (exchangeCode D tenantId cmd).run.Uses Op.OfCodeExchange := by
  have aside : ∀ o, Op.Aside o → Op.OfCodeExchange o := fun _ h => h.ofCodeExchange
  have clock : (clockNow).Uses Op.OfCodeExchange := uses_op trivial
  refine uses_bind (tokenClient_uses.mono aside) fun clientId => ?_
  refine uses_bind (uses_found _ _) fun verifier => uses_bind (uses_ensure _ _) fun _ => ?_
  refine uses_bind (uses_found _ _) fun plain => uses_bind (uses_lift clock) fun now => ?_
  refine uses_bind (uses_orLeave consume_uses _) fun row => uses_bind (uses_found _ _) fun code => ?_
  refine uses_bind (uses_ensure _ _) fun _ => uses_bind (uses_ensure _ _) fun _ => ?_
  refine uses_bind (uses_ensure _ _) fun _ => ?_
  refine uses_bind (loadActiveUser_uses.mono aside) fun user => ?_
  refine uses_bind (signTokens_uses.mono aside) fun tokens => ?_
  exact uses_bind issueRootRefreshToken_uses fun _ => trivial

end IdpMvp
