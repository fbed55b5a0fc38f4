import Mathlib.Data.List.Forall2
import IdpMvp.Program.Aligned
import IdpMvp.Token.Guards
import IdpMvp.Token.Revocation

/-!
# Whose tokens a revocation touches

`refresh_token.rs` says that a refresh token is used and revoked within its tenant only, and
`try_revoke_refresh_token` is given the client; but its `UPDATE` asks for the hash alone. The `jti` of an
access token is taken from a payload whose signature, issuer and client nobody checks. A revocation leaves
other clients alone exactly when the token it is given is the client's own, or has no effect.

The last part of that is a comparison of two runs: with and without the revocation, the other clients get
the same answers from the token, introspection and userinfo endpoints, one after another.
-/

namespace IdpMvp

open Program Program.Prog Program.Flow Prog

variable {D : Deploy} {s s' : Store} {tenantId : TenantId} {clientId : String}
variable {hidden : Option String} {mine : String → Prop} {keys : List SigningKey}

/-! ## Stores that agree for the other clients -/

/-- The refresh token belongs to the client of the tenant, as the database compares client ids. -/
def RefreshToken.ownedBy (D : Deploy) (tenantId : TenantId) (clientId : String) (t : RefreshToken) :
    Bool :=
  t.tenantId = tenantId ∧ D.coll t.clientId = D.coll clientId

/-- The second row is the first one, or it differs in `revoked_at` and is the client's row with the
hidden hash. -/
def MaybeRevoked (D : Deploy) (tenantId : TenantId) (clientId : String) (hidden : Option String)
    (r r' : RefreshToken) : Prop :=
  r' = r ∨ (hidden = some r.tokenHash ∧ r.ownedBy D tenantId clientId = true ∧
    ∃ revokedAt, r' = { r with revokedAt := revokedAt })

/-- The stores differ only in the `revoked_at` of the client's row with the hidden hash and in the
revocation of its `jti`s. -/
structure Agree (D : Deploy) (tenantId : TenantId) (clientId : String) (hidden : Option String)
    (mine : String → Prop) (keys : List SigningKey) (s s' : Store) : Prop where
  keys : s.signingKeys = keys
  rest : s' = { s with
    refreshTokens := s'.refreshTokens, revokedAccessTokens := s'.revokedAccessTokens }
  rows : List.Forall₂ (MaybeRevoked D tenantId clientId hidden) s.refreshTokens s'.refreshTokens
  jtis : ∀ jti, ¬ mine jti → (JtiRevoked D s jti ↔ JtiRevoked D s' jti)

/-- The operations of the three endpoints that answer alike in stores that agree. -/
def Respects (hidden : Option String) (mine : String → Prop) : Op → Prop
  | .db (.clients _) | .db (.users (.findById _)) | .db (.users (.findBySub _))
  | .db (.signingKeys _) | .db (.codes _) | .clock | .uuidV4 | .randomToken _ => True
  | .db (.refreshTokens (.findByHash _ hash)) => hidden ≠ some hash
  | .db (.refreshTokens _) => True
  | .db (.revokedAccessTokens (.isRevoked jti)) => ¬ mine jti
  | _ => False

namespace MaybeRevoked

variable {r r' : RefreshToken}

lemma tokenHash (h : MaybeRevoked D tenantId clientId hidden r r') : r'.tokenHash = r.tokenHash := by
  obtain rfl | ⟨-, -, _, rfl⟩ := h <;> rfl

lemma parentHash (h : MaybeRevoked D tenantId clientId hidden r r') : r'.parentHash = r.parentHash := by
  obtain rfl | ⟨-, -, _, rfl⟩ := h <;> rfl

lemma tenant (h : MaybeRevoked D tenantId clientId hidden r r') : r'.tenantId = r.tenantId := by
  obtain rfl | ⟨-, -, _, rfl⟩ := h <;> rfl

lemma user (h : MaybeRevoked D tenantId clientId hidden r r') : r'.userId = r.userId := by
  obtain rfl | ⟨-, -, _, rfl⟩ := h <;> rfl

/-- Both rows may be revoked by one more statement. -/
lemma revokeIf (h : MaybeRevoked D tenantId clientId hidden r r') {p : RefreshToken → Bool}
    (same : p r' = p r) (now : DateTime) :
    MaybeRevoked D tenantId clientId hidden (r.revokeIf p now) (r'.revokeIf p now) := by
  obtain rfl | ⟨hash, owned, revokedAt, rfl⟩ := h
  · exact .inl rfl
  · have form : ∀ t : RefreshToken, ∃ at', t.revokeIf p now = { t with revokedAt := at' } := by
      intro t
      unfold RefreshToken.revokeIf
      split
      · exact ⟨_, rfl⟩
      · exact ⟨t.revokedAt, rfl⟩
    obtain ⟨at₁, e₁⟩ := form r
    obtain ⟨at₂, e₂⟩ := form { r with revokedAt := revokedAt }
    rw [e₁, e₂]
    exact .inr ⟨hash, owned, at₂, rfl⟩

end MaybeRevoked

/-- Related tables have related rows under the same key. -/
lemma find?_maybeRevoked {l l' : List RefreshToken} {p : RefreshToken → Bool}
    (rows : List.Forall₂ (MaybeRevoked D tenantId clientId hidden) l l')
    (same : ∀ r r', MaybeRevoked D tenantId clientId hidden r r' → p r' = p r) :
    (l.find? p = none ∧ l'.find? p = none) ∨
      ∃ r r', l.find? p = some r ∧ l'.find? p = some r' ∧
        MaybeRevoked D tenantId clientId hidden r r' := by
  induction rows with
  | nil => exact .inl ⟨rfl, rfl⟩
  | @cons r r' l l' h rows ih =>
    cases e : p r with
    | true => exact .inr ⟨r, r', by simp [e], by simp [same r r' h, e], h⟩
    | false =>
      rw [List.find?_cons_of_neg (by simp [e]), List.find?_cons_of_neg (by simp [same r r' h, e])]
      exact ih

lemma any_maybeRevoked {l l' : List RefreshToken} {p : RefreshToken → Bool}
    (rows : List.Forall₂ (MaybeRevoked D tenantId clientId hidden) l l')
    (same : ∀ r r', MaybeRevoked D tenantId clientId hidden r r' → p r' = p r) :
    l'.any p = l.any p := by
  induction rows with
  | nil => rfl
  | cons h rows ih => simp [same _ _ h, ih]

namespace Agree

/-- One statement on the refresh tokens. -/
lemma refreshTokens_step (h : Agree D tenantId clientId hidden mine keys s s') (q : RefreshTokenStmt)
    (ok : Respects hidden mine (.db (.refreshTokens q))) :
    (q.exec D s).1 = (q.exec D s').1 ∧
      Agree D tenantId clientId hidden mine keys (q.exec D s).2 (q.exec D s').2 := by
  obtain ⟨A, B, rfl⟩ : ∃ A B, s' = { s with refreshTokens := A, revokedAccessTokens := B } :=
    ⟨_, _, h.rest⟩
  have revoked : ∀ (p : RefreshToken → Bool) (now : DateTime),
      (∀ r r', MaybeRevoked D tenantId clientId hidden r r' → p r' = p r) →
      Agree D tenantId clientId hidden mine keys (s.revokeRefreshTokens p now)
        (Store.revokeRefreshTokens { s with refreshTokens := A, revokedAccessTokens := B } p now) := by
    intro p now same
    refine ⟨h.keys, rfl, ?_, h.jtis⟩
    simp only [Store.revokeRefreshTokens, revokeWhere]
    rw [List.forall₂_map_left_iff, List.forall₂_map_right_iff]
    exact h.rows.imp fun r r' m => m.revokeIf (same r r' m) now
  cases q with
  | create t =>
    have known := any_maybeRevoked (p := (·.tokenHash = t.tokenHash)) h.rows
      fun r r' m => by rw [m.tokenHash]
    simp only [RefreshTokenStmt.exec]
    rw [known]
    split
    · exact ⟨rfl, h⟩
    · split
      · rename_i missing
        rw [if_pos (by exact missing)]
        exact ⟨rfl, h⟩
      · rename_i present
        rw [if_neg (by exact present)]
        exact ⟨rfl, h.keys, rfl, List.rel_append h.rows (.cons (.inl rfl) .nil), h.jtis⟩
  | findByHash tenantId' hash =>
    refine ⟨?_, h⟩
    obtain ⟨none, none'⟩ | ⟨r, r', found, found', m⟩ :=
      find?_maybeRevoked (p := fun t => t.tokenHash = hash ∧ t.tenantId = tenantId') h.rows
        fun r r' m => by rw [m.tokenHash, m.tenant]
    · simp only [RefreshTokenStmt.exec, none, none']
    · simp only [RefreshTokenStmt.exec, found, found']
      obtain rfl | ⟨hash', -, -⟩ := m
      · rfl
      · have key : r.tokenHash = hash ∧ r.tenantId = tenantId' := by simpa using List.find?_some found
        exact absurd (key.1 ▸ hash') ok
  | revoke hash now =>
    exact ⟨rfl, revoked _ now fun r r' m => by rw [m.tokenHash]⟩
  | existsByParentHash hash =>
    refine ⟨?_, h⟩
    have known := any_maybeRevoked (p := (·.parentHash = some hash)) h.rows
      fun r r' m => by rw [m.parentHash]
    simp only [RefreshTokenStmt.exec, known]
  | revokeAllForUser userId now =>
    exact ⟨rfl, revoked _ now fun r r' m => by rw [m.user]⟩

/-- One statement on the codes, which agree. -/
lemma codes_step (h : Agree D tenantId clientId hidden mine keys s s') (q : CodeStmt) :
    (q.exec D s).1 = (q.exec D s').1 ∧
      Agree D tenantId clientId hidden mine keys (q.exec D s).2 (q.exec D s').2 := by
  obtain ⟨A, B, rfl⟩ : ∃ A B, s' = { s with refreshTokens := A, revokedAccessTokens := B } :=
    ⟨_, _, h.rest⟩
  have lifted : ∀ codes, Agree D tenantId clientId hidden mine keys { s with codes := codes }
      { s with refreshTokens := A, revokedAccessTokens := B, codes := codes } :=
    fun codes => ⟨h.keys, rfl, h.rows, h.jtis⟩
  cases q with
  | create c =>
    simp only [CodeStmt.exec]
    split
    · exact ⟨rfl, h⟩
    · split
      · rename_i missing
        rw [if_pos (by exact missing)]
        exact ⟨rfl, h⟩
      · rename_i present
        rw [if_neg (by exact present)]
        exact ⟨rfl, lifted _⟩
  | consumeUpdate => exact ⟨rfl, lifted _⟩
  | consumeSelect => exact ⟨rfl, h⟩
  | revokeAllActiveForUser => exact ⟨rfl, lifted _⟩

end Agree

/-- The other endpoints' operations answer alike in stores that agree, and the stores go on agreeing. -/
lemma Respects.step (op : Op) (ok : Respects hidden mine op) (i : Input) (s s' : Store)
    (h : Agree D tenantId clientId hidden mine keys s s') :
    (exec D op i s).1 = (exec D op i s').1 ∧
      Agree D tenantId clientId hidden mine keys (exec D op i s).2 (exec D op i s').2 := by
  cases op with
  | db q =>
    cases f : i.fault with
    | some e =>
      simp only [exec, f]
      exact ⟨trivial, h⟩
    | none =>
      simp only [exec, f]
      cases q with
      | refreshTokens q => exact h.refreshTokens_step q ok
      | codes q => exact h.codes_step q
      | clients q =>
        cases q
        rw [h.rest]
        exact ⟨rfl, h.rest ▸ h⟩
      | users q =>
        cases q with
        | findById | findBySub =>
          rw [h.rest]
          exact ⟨rfl, h.rest ▸ h⟩
        | _ => exact ok.elim
      | signingKeys q =>
        rw [h.rest]
        cases q <;> exact ⟨rfl, h.rest ▸ h⟩
      | revokedAccessTokens q =>
        cases q with
        | isRevoked jti =>
          refine ⟨congrArg Except.ok ?_, h⟩
          rw [Bool.eq_iff_iff]
          simp only [List.any_eq_true, decide_eq_true_eq]
          exact h.jtis jti ok
        | revoke => exact ok.elim
      | _ => exact ok.elim
  | clock | uuidV4 | randomToken => exact ⟨rfl, h⟩
  | _ => exact ok.elim

/-! ## What the other clients call -/

/-- A statement that reads, where the program goes on alike. -/
lemma aligned_read {ε α : Type} {R : Store → Store → Prop} {q : Stmt} {f : DomainError → ε}
    {k : q.Val → ServiceFlow ε α} {v v' : DateTime → q.Val} (h : R s s')
    (reads : ∀ now, q.exec D now s = (.ok (v now), s))
    (reads' : ∀ now, q.exec D now s' = (.ok (v' now), s'))
    (next : ∀ now, k (v now) = k (v' now) ∧ (k (v now)).run.Aligned (exec D) R s s') :
    (orLeave (db q) f >>= k).run.Aligned (exec D) R s s' := by
  intro i
  cases fault : i.fault with
  | some e =>
    simp only [exec, fault]
    exact ⟨trivial, h⟩
  | none =>
    simp only [exec, fault, reads, reads']
    exact ⟨congrArg ExceptT.run (next i.now).1, (next i.now).2⟩

lemma aligned_clock {ε α : Type} {R : Store → Store → Prop} {k : DateTime → ServiceFlow ε α}
    (next : ∀ now, (k now).run.Aligned (exec D) R s s') :
    (liftM clockNow >>= k).run.Aligned (exec D) R s s' := fun i => ⟨rfl, next i.now⟩

lemma Respects.of_aside {op : Op} (h : op.Aside) : Respects hidden mine op := by
  unfold Op.Aside at h
  split at h <;> trivial

/-- The code grant reads nothing the stores differ in. -/
lemma Respects.of_codeExchange {op : Op} (h : op.OfCodeExchange) : Respects hidden mine op := by
  unfold Op.OfCodeExchange at h
  split at h
  · trivial
  · trivial
  · trivial
  · trivial
  · trivial
  · exact .of_aside h

section
variable {tenantId' : TenantId} {cmd : TokenCommand}

/-- The refresh grant finds the hidden row, if at all, for another client, and stops there. -/
lemma exchangeRefreshToken_aligned (h : Agree D tenantId clientId hidden mine keys s s')
    (other : ∀ d, resolveClientId cmd = .ok d → tenantId' = tenantId → D.coll d ≠ D.coll clientId) :
    (exchangeRefreshToken D tenantId' cmd).run.Aligned (exec D)
      (Agree D tenantId clientId hidden mine keys) s s' := by
  have same : ∀ {ε α : Type} {p : ServiceFlow ε α}, p.run.Uses (Respects hidden mine) →
      ∀ {s s'}, Agree D tenantId clientId hidden mine keys s s' →
        p.run.Aligned (exec D) (Agree D tenantId clientId hidden mine keys) s s' :=
    fun u _ _ h => u.aligned Respects.step h
  unfold exchangeRefreshToken
  refine aligned_bind_of (P := fun d => resolveClientId cmd = .ok d)
    (same (tokenClient_uses.mono fun _ => .of_aside) h)
    (alwaysE_mono tokenClient_always (fun _ _ ok => ok.2.resolved) fun _ _ _ => trivial) ?_
  intro d resolved s s' h
  refine aligned_found h fun plain _ => ?_
  refine aligned_clock fun now => ?_
  refine aligned_read h (fun _ => rfl) (fun _ => rfl) fun _ => ?_
  obtain ⟨none, none'⟩ | ⟨r, r', found, found', m⟩ :=
    find?_maybeRevoked (p := fun t => t.tokenHash = D.sha256Hex plain ∧ t.tenantId = tenantId') h.rows
      fun r r' m => by rw [m.tokenHash, m.tenant]
  · rw [none, none']
    exact ⟨rfl, h⟩
  · rw [found, found']
    obtain rfl | ⟨-, owned, revokedAt, rfl⟩ := m
    · refine ⟨rfl, same ?_ h⟩
      refine uses_bind (uses_found _ _) fun stored => ?_
      refine uses_bind (uses_ensure _ _) fun _ => ?_
      refine uses_bind (uses_orLeave (uses_op trivial) _) fun rotated => ?_
      refine uses_bind (uses_ensureOr _ (Uses.bind (uses_op trivial) fun _ => trivial)) fun _ => ?_
      refine uses_bind (uses_ensure _ _) fun _ => ?_
      refine uses_bind (loadActiveUser_uses.mono fun _ => .of_aside) fun user => ?_
      refine uses_bind (uses_orLeave (uses_op trivial) _) fun _ => ?_
      refine uses_bind (signTokens_uses.mono fun _ => .of_aside) fun tokens => ?_
      refine uses_bind (uses_lift ⟨trivial, fun _ => trivial⟩) fun newPlain => ?_
      exact uses_bind (uses_orLeave (uses_op trivial) _) fun _ => trivial
    · obtain ⟨tenant, client⟩ : r.tenantId = tenantId ∧ D.coll r.clientId = D.coll clientId := by
        simpa [RefreshToken.ownedBy] using owned
      have key : r.tokenHash = D.sha256Hex plain ∧ r.tenantId = tenantId' := by
        simpa using List.find?_some found
      have ne : r.clientId ≠ d := fun e => other d resolved (key.2.symm.trans tenant) (e ▸ client)
      have stops := decide_eq_false ne
      rw [found_some_bind, found_some_bind, ensure_false_bind stops, ensure_false_bind stops]
      exact ⟨rfl, h⟩

lemma exchange_aligned (h : Agree D tenantId clientId hidden mine keys s s')
    (other : ∀ d, resolveClientId cmd = .ok d → tenantId' = tenantId → D.coll d ≠ D.coll clientId) :
    (exchange D tenantId' cmd).Aligned (exec D) (Agree D tenantId clientId hidden mine keys) s s' := by
  unfold exchange
  split
  · exact (exchangeCode_uses.mono fun _ => .of_codeExchange).aligned Respects.step h
  · split
    · exact exchangeRefreshToken_aligned h other
    · exact h

end

section
variable {tenantId' : TenantId} {token : String}

lemma isJtiRevoked_uses {jti : String} (apart : ¬ mine jti) :
    (isJtiRevoked jti).Uses (Respects hidden mine) := by
  unfold isJtiRevoked
  split
  · trivial
  · exact uses_op apart

lemma verifyAccessToken_aligned (h : Agree D tenantId clientId hidden mine keys s s')
    (apart : ∀ claims, Verifies D keys token claims → ¬ mine claims.jti) :
    (verifyAccessToken D tenantId' token).run.Aligned (exec D)
      (Agree D tenantId clientId hidden mine keys) s s' := by
  unfold verifyAccessToken
  refine aligned_orThrow h fun header decoded => ?_
  refine aligned_ensure h fun typ => ?_
  refine aligned_found h fun kid hkid => ?_
  refine aligned_read h (fun _ => rfl) (fun _ => by rw [h.rest]; rfl) fun _ => ⟨rfl, ?_⟩
  refine aligned_found h fun key row => ?_
  refine aligned_orThrow h fun dk loaded => ?_
  refine aligned_orThrow h fun claims verified => ?_
  refine aligned_ensure h fun _ => ?_
  refine aligned_ensure h fun _ => ?_
  refine aligned_clock fun now => ?_
  refine aligned_ensure h fun _ => ?_
  have unknown : ¬ mine claims.jti := apart claims
    ⟨header, kid, key, dk, decoded, of_decide_eq_true typ, hkid, h.keys ▸ row, loaded, verified⟩
  refine aligned_bind ((uses_orLeave (isJtiRevoked_uses unknown) _).aligned Respects.step h) ?_
  intro revoked s s' h
  exact aligned_ensure h fun _ => h

lemma userinfo_aligned (h : Agree D tenantId clientId hidden mine keys s s')
    (apart : ∀ claims, Verifies D keys token claims → ¬ mine claims.jti) :
    (userinfo D tenantId' token).run.Aligned (exec D)
      (Agree D tenantId clientId hidden mine keys) s s' := by
  unfold userinfo
  refine aligned_bind (verifyAccessToken_aligned h apart) fun claims s s' h => ?_
  refine aligned_ensure h fun _ => ?_
  refine aligned_found h fun sub _ => ?_
  refine aligned_bind ((uses_orLeave (uses_op trivial) _).aligned Respects.step h) ?_
  intro row s s' h
  refine aligned_found h fun user _ => ?_
  exact aligned_ensure h fun _ => h

lemma subjectIsActive_uses {sub : String} : (subjectIsActive D sub).Uses (Respects hidden mine) := by
  unfold subjectIsActive
  split
  · trivial
  · refine Uses.bind (uses_op trivial) fun r => ?_
    split <;> trivial

lemma introspectAccessToken_aligned {issuer : String}
    (h : Agree D tenantId clientId hidden mine keys s s')
    (apart : ∀ claims, Verifies D keys token claims → ¬ mine claims.jti) :
    (introspectAccessToken D token issuer).Aligned (exec D)
      (Agree D tenantId clientId hidden mine keys) s s' := by
  refine aligned_outcome ?_
  refine aligned_orThrow h fun header decoded => ?_
  refine aligned_ensure h fun typ => ?_
  refine aligned_found h fun kid hkid => ?_
  refine aligned_read h (fun _ => rfl) (fun _ => by rw [h.rest]; rfl) fun _ => ⟨rfl, ?_⟩
  refine aligned_found h fun key row => ?_
  refine aligned_orThrow h fun dk loaded => ?_
  refine aligned_orThrow h fun claims verified => ?_
  refine aligned_ensure h fun _ => ?_
  refine aligned_clock fun now => ?_
  refine aligned_ensure h fun _ => ?_
  have unknown : ¬ mine claims.jti := apart claims
    ⟨header, kid, key, dk, decoded, of_decide_eq_true typ, hkid, h.keys ▸ row, loaded, verified⟩
  refine aligned_bind ((uses_orLeave (isJtiRevoked_uses unknown) _).aligned Respects.step h) ?_
  intro revoked s s' h
  refine aligned_ensure h fun _ => ?_
  refine aligned_bind ((uses_lift subjectIsActive_uses).aligned Respects.step h) ?_
  intro active s s' h
  exact aligned_ensure h fun _ => h

lemma introspectRefreshToken_uses {issuer : String} (apart : hidden ≠ some (D.sha256Hex token)) :
    (introspectRefreshToken D tenantId' token issuer).Uses (Respects hidden mine) := by
  refine Uses.bind ?_ fun r => by cases r <;> trivial
  refine uses_bind (uses_orLeave (uses_op (o := Op.db _) apart) _) fun row => ?_
  refine uses_bind (uses_found _ _) fun rt => ?_
  refine uses_bind (uses_lift ⟨trivial, fun _ => trivial⟩) fun now => ?_
  refine uses_bind (uses_ensure _ _) fun _ => ?_
  refine uses_bind (uses_orLeave (uses_op trivial) _) fun user => ?_
  exact uses_bind (uses_ensure _ _) fun _ => trivial

lemma authenticateConfidentialClient_uses {clientId' : String} {basic : Option (String × String)} :
    (authenticateConfidentialClient D tenantId' clientId' basic).run.Uses (Respects hidden mine) := by
  refine uses_bind (uses_orLeave (uses_op trivial) _) fun row => ?_
  refine uses_bind (uses_found _ _) fun client => ?_
  refine uses_bind (uses_ensure _ _) fun _ => ?_
  refine uses_bind (uses_ensure _ _) fun _ => ?_
  refine uses_bind (uses_found _ _) fun credentials => ?_
  refine uses_bind (uses_ensure _ _) fun _ => ?_
  refine uses_bind (uses_found _ _) fun hash => ?_
  refine uses_bind (uses_orThrow _ _) fun ok => ?_
  exact uses_bind (uses_ensure _ _) fun _ => trivial

lemma introspect_aligned {hint : Option String} {clientId' : String}
    {basic : Option (String × String)} (h : Agree D tenantId clientId hidden mine keys s s')
    (apart : ∀ claims, Verifies D keys token claims → ¬ mine claims.jti)
    (apart' : hidden ≠ some (D.sha256Hex token)) :
    (introspect D tenantId' token hint clientId' basic).run.Aligned (exec D)
      (Agree D tenantId clientId hidden mine keys) s s' := by
  have refresh : ∀ s s', Agree D tenantId clientId hidden mine keys s s' →
      (liftM (introspectRefreshToken D tenantId' token (D.tenantIssuer tenantId')) :
        ServiceFlow IntrospectionError IntrospectionResponse).run.Aligned (exec D)
        (Agree D tenantId clientId hidden mine keys) s s' :=
    fun s s' h => (uses_lift (introspectRefreshToken_uses apart')).aligned Respects.step h
  have access : ∀ s s', Agree D tenantId clientId hidden mine keys s s' →
      (liftM (introspectAccessToken D token (D.tenantIssuer tenantId')) :
        ServiceFlow IntrospectionError IntrospectionResponse).run.Aligned (exec D)
        (Agree D tenantId clientId hidden mine keys) s s' :=
    fun s s' h => (introspectAccessToken_aligned h apart).bind fun _ _ _ h => h
  unfold introspect
  split
  · exact h
  · refine aligned_bind (authenticateConfidentialClient_uses.aligned Respects.step h) ?_
    intro client s s' h
    dsimp only
    split
    · refine aligned_bind (refresh s s' h) fun resp s s' h => ?_
      split
      · exact h
      · exact access s s' h
    · refine aligned_bind (access s s' h) fun resp s s' h => ?_
      split
      · exact h
      · exact refresh s s' h

end

/-! ## Runs of the other clients -/

/-- A request to one of the three endpoints that accept tokens. -/
inductive ClientCall where
  | exchange (tenantId : TenantId) (cmd : TokenCommand)
  | introspect (tenantId : TenantId) (token : String) (hint : Option String) (clientId : String)
    (basic : Option (String × String))
  | userinfo (tenantId : TenantId) (token : String)

inductive Answer where
  | tokens (r : Except TokenError IssuedTokens)
  | introspection (r : Except IntrospectionError IntrospectionResponse)
  | claims (r : Except UserInfoError UserInfoClaims)

def ClientCall.answer (D : Deploy) : ClientCall → Service Answer
  | exchange tenantId cmd => do return .tokens (← IdpMvp.exchange D tenantId cmd)
  | introspect tenantId token hint clientId basic => do
    return .introspection (← (IdpMvp.introspect D tenantId token hint clientId basic).run)
  | userinfo tenantId token => do return .claims (← (IdpMvp.userinfo D tenantId token).run)

/-- The answers to some requests, one after another. -/
def answers (D : Deploy) : List (ClientCall × (Nat → Input)) → Store → List Answer
  | [], _ => []
  | (c, ins) :: rest, s =>
    ((c.answer D).run (exec D) ins s).1 :: answers D rest ((c.answer D).run (exec D) ins s).2

/-- A token of another client than the one that presents `presented`: no refresh token of that client,
and no access token with the `jti` of the presented one. -/
def OtherToken (D : Deploy) (s : Store) (tenantId : TenantId) (clientId presented token : String) :
    Prop :=
  (∀ r ∈ s.refreshTokens, r.tokenHash = D.sha256Hex token → r.ownedBy D tenantId clientId = false) ∧
  ∀ claims, Verifies D s.signingKeys token claims → ∀ jti exp,
    readJti D presented = some (jti, exp) → D.coll claims.jti ≠ D.coll (truncateJti jti)

/-- A request of another client, or about the token of another client. -/
def ClientCall.ByOther (D : Deploy) (s : Store) (tenantId : TenantId) (clientId presented : String) :
    ClientCall → Prop
  | exchange tenantId' cmd => ∀ d, resolveClientId cmd = .ok d → tenantId' = tenantId →
    D.coll d ≠ D.coll clientId
  | introspect _ token _ _ _ | userinfo _ token => OtherToken D s tenantId clientId presented token

/-- Requests of other clients are answered alike in stores that agree. -/
lemma answers_agree {s₀ : Store} {presented : String}
    (apart : ∀ token, OtherToken D s₀ tenantId clientId presented token →
      hidden ≠ some (D.sha256Hex token) ∧ ∀ claims, Verifies D keys token claims → ¬ mine claims.jti)
    {calls : List (ClientCall × (Nat → Input))}
    (other : ∀ c ∈ calls, c.1.ByOther D s₀ tenantId clientId presented) :
    ∀ {s s'}, Agree D tenantId clientId hidden mine keys s s' → answers D calls s = answers D calls s' := by
  induction calls with
  | nil => exact fun _ => rfl
  | cons c calls ih =>
    intro s s' h
    obtain ⟨call, ins⟩ := c
    have aligned : (call.answer D).Aligned (exec D) (Agree D tenantId clientId hidden mine keys) s s' := by
      have by_other := other _ List.mem_cons_self
      cases call with
      | exchange tenantId' cmd => exact (exchange_aligned h by_other).bind fun _ _ _ h => h
      | introspect tenantId' token hint clientId' basic =>
        obtain ⟨hash, jti⟩ := apart token by_other
        exact (introspect_aligned h jti hash).bind fun _ _ _ h => h
      | userinfo tenantId' token =>
        exact (userinfo_aligned h (apart token by_other).2).bind fun _ _ _ h => h
    obtain ⟨same, rest⟩ := aligned.run ins
    simp only [answers]
    rw [same, ih (fun c mem => other c (List.mem_cons_of_mem _ mem)) rest]

/-! ## Revocation -/

/-- The token is an access token this tenant has signed for the client, with this `jti`. -/
def IssuedTo (D : Deploy) (keys : List SigningKey) (tenantId : TenantId) (clientId token jti : String) :
    Prop :=
  ∃ key ∈ keys, ∃ bytes pem claims, D.decrypt key.privateKeyEncrypted = .ok bytes ∧
    fromUtf8 bytes = some pem ∧
    sign D pem key.kid "at+jwt" key.algorithm (.accessToken claims) = .ok token ∧
    claims.iss = D.tenantIssuer tenantId ∧ D.coll claims.clientId = D.coll clientId ∧ claims.jti = jti

/-- What the revocation of `token` by the client leaves alone: the refresh tokens of others, every `jti`
that is not its own, and the answers the others get from then on. -/
structure Isolated (D : Deploy) (tenantId : TenantId) (clientId token : String) (s s' : Store) :
    Prop where
  refresh : s'.refreshTokens.filter (!·.ownedBy D tenantId clientId) =
    s.refreshTokens.filter (!·.ownedBy D tenantId clientId)
  jtis : ∀ r ∈ s'.revokedAccessTokens, r ∉ s.revokedAccessTokens →
    IssuedTo D s.signingKeys tenantId clientId token r.jti
  others : ∀ calls : List (ClientCall × (Nat → Input)),
    (∀ c ∈ calls, c.1.ByOther D s tenantId clientId token) → answers D calls s' = answers D calls s

/-- The request hits nobody else: the refresh tokens it revokes are the client's, and the `jti` it adds
stands in an access token of the client. -/
structure HitsOwn (D : Deploy) (tenantId : TenantId) (clientId token : String) (hint : Option String)
    (ins : Nat → Input) (s : Store) : Prop where
  refresh : RevokesRefresh D token hint ins → ∀ r ∈ s.refreshTokens,
    r.tokenHash = D.sha256Hex token → r.isRevoked = false → r.ownedBy D tenantId clientId = true
  access : RevokesAccess D token hint ins → ∀ jti exp, readJti D token = some (jti, exp) →
    ¬ JtiRevoked D s (truncateJti jti) → IssuedTo D s.signingKeys tenantId clientId token (truncateJti jti)

section
variable {token : String} {hint : Option String} {ins : Nat → Input}

lemma revokeIf_ownedBy (p : RefreshToken → Bool) (now : DateTime) (r : RefreshToken) :
    (r.revokeIf p now).ownedBy D tenantId clientId = r.ownedBy D tenantId clientId := by
  unfold RefreshToken.revokeIf
  split <;> rfl

/-- The rows of others stay as they are exactly if none of them is revoked now. -/
lemma filter_revokeWhere_iff {p : RefreshToken → Bool} {now : DateTime} {rows : List RefreshToken} :
    (revokeWhere p now rows).filter (!·.ownedBy D tenantId clientId) =
        rows.filter (!·.ownedBy D tenantId clientId) ↔
      ∀ r ∈ rows, p r = true → r.isRevoked = false → r.ownedBy D tenantId clientId = true := by
  have kept : (revokeWhere p now rows).filter (!·.ownedBy D tenantId clientId) =
      (rows.filter (!·.ownedBy D tenantId clientId)).map (·.revokeIf p now) := by
    rw [revokeWhere, List.filter_map]
    simp only [Function.comp_def, revokeIf_ownedBy]
  rw [kept]
  nth_rewrite 2 [← List.map_id (rows.filter (!·.ownedBy D tenantId clientId))]
  rw [List.map_inj_left]
  simp only [id, revokeIf_eq_self_iff, List.mem_filter, Bool.not_eq_true']
  constructor
  · intro h r mem hp live
    by_contra foreign
    rw [h r ⟨mem, by simpa using foreign⟩ hp] at live
    cases live
  · rintro h r ⟨mem, foreign⟩ hp
    by_contra live
    rw [h r mem hp (by simpa using live)] at foreign
    cases foreign

/-- After the client's own refresh token was revoked, the others get the same answers. -/
lemma answers_refresh {now : DateTime}
    (hits : ∀ r ∈ s.refreshTokens, r.tokenHash = D.sha256Hex token → r.isRevoked = false →
      r.ownedBy D tenantId clientId = true) {calls : List (ClientCall × (Nat → Input))}
    (other : ∀ c ∈ calls, c.1.ByOther D s tenantId clientId token) :
    answers D calls s =
      answers D calls (s.revokeRefreshTokens (·.tokenHash = D.sha256Hex token) now) := by
  -- There is something to hide only if the client has a token with the hash.
  let hidden : Option String :=
    if s.refreshTokens.any fun r => r.tokenHash = D.sha256Hex token ∧ r.ownedBy D tenantId clientId
    then some (D.sha256Hex token) else none
  have agree : Agree D tenantId clientId hidden (fun _ => False) s.signingKeys s
      (s.revokeRefreshTokens (·.tokenHash = D.sha256Hex token) now) := by
    refine ⟨rfl, rfl, ?_, fun _ _ => Iff.rfl⟩
    rw [Store.revokeRefreshTokens, revokeWhere, List.forall₂_map_right_iff, List.forall₂_same]
    intro r mem
    unfold RefreshToken.revokeIf
    split
    · rename_i hit
      have hash : r.tokenHash = D.sha256Hex token := by simpa using hit.1
      have own := hits r mem hash (by simp [RefreshToken.isRevoked, hit.2])
      have some_hidden : hidden = some (D.sha256Hex token) :=
        if_pos (List.any_eq_true.mpr ⟨r, mem, by simp [hash, own]⟩)
      exact .inr ⟨by rw [some_hidden, hash], own, _, rfl⟩
    · exact .inl rfl
  refine answers_agree ?_ other agree
  intro token' otherToken
  refine ⟨?_, fun _ _ => id⟩
  intro e
  have known : (s.refreshTokens.any fun r =>
      r.tokenHash = D.sha256Hex token ∧ r.ownedBy D tenantId clientId) = true := by
    by_contra no
    rw [show hidden = none from if_neg no] at e
    cases e
  rw [show hidden = some (D.sha256Hex token) from if_pos known, Option.some.injEq] at e
  obtain ⟨r, mem, row⟩ := List.any_eq_true.mp known
  obtain ⟨hash, own⟩ : r.tokenHash = D.sha256Hex token ∧ r.ownedBy D tenantId clientId = true := by
    simpa using row
  rw [otherToken.1 r mem (hash.trans e)] at own
  cases own

/-- After a `jti` was revoked, the holders of tokens with another one get the same answers. -/
lemma answers_access {jti : String} {exp : Int} {now : DateTime}
    (read : readJti D token = some (jti, exp)) {calls : List (ClientCall × (Nat → Input))}
    (other : ∀ c ∈ calls, c.1.ByOther D s tenantId clientId token) :
    answers D calls s = answers D calls (s.revokeJti D (revokedEntry jti exp now)) := by
  have agree : Agree D tenantId clientId none (fun j => D.coll j = D.coll (truncateJti jti))
      s.signingKeys s (s.revokeJti D (revokedEntry jti exp now)) := by
    obtain ⟨-, e⟩ | ⟨-, e⟩ := revokeJti_cases (D := D) s (revokedEntry jti exp now)
    · rw [e]
      exact ⟨rfl, rfl, List.forall₂_same.mpr fun _ _ => .inl rfl, fun _ _ => Iff.rfl⟩
    · rw [e]
      refine ⟨rfl, rfl, List.forall₂_same.mpr fun _ _ => .inl rfl, fun j apart => ?_⟩
      have apart' : D.coll (truncateJti jti) ≠ D.coll j := fun e => apart e.symm
      simp [JtiRevoked, revokedEntry, or_and_right, exists_or, apart']
  refine answers_agree ?_ other agree
  intro token' otherToken
  exact ⟨by rintro ⟨⟩, fun claims verifies => otherToken.2 claims verifies jti exp read⟩

/-- A revocation leaves the other clients alone exactly if it hits nobody else. -/
theorem revocation_isolated_iff {basic : Option (String × String)}
    (ok : ((revoke D tenantId token hint clientId basic).run.run (exec D) ins s).1 = .ok ()) :
    Isolated D tenantId clientId token s
        ((revoke D tenantId token hint clientId basic).run.run (exec D) ins s).2 ↔
      (token ≠ "" → HitsOwn D tenantId clientId token hint ins s) := by
  have alone : Isolated D tenantId clientId token s s :=
    ⟨rfl, fun r mem new => absurd mem new, fun _ _ => rfl⟩
  by_cases nonempty : token = ""
  · have e : ((revoke D tenantId token hint clientId basic).run.run (exec D) ins s).2 = s := by
      rw [revoke, if_pos nonempty]
      rfl
    rw [e]
    exact ⟨fun _ ne => absurd nonempty ne, fun _ => alone⟩
  have w := revoke_ok nonempty ok
  generalize ((revoke D tenantId token hint clientId basic).run.run (exec D) ins s).2 = s' at w
  rw [forall_prop_of_true nonempty]
  cases w with
  | nothing h h' => exact ⟨fun _ => ⟨fun k => absurd k h, fun k => absurd k h'⟩, fun _ => alone⟩
  | refresh h =>
    constructor
    · intro isolated
      refine ⟨fun _ => ?_, fun k => absurd h k.not_refresh⟩
      have own := filter_revokeWhere_iff.mp isolated.refresh
      exact fun r mem hash => own r mem (by simpa using hash)
    · intro own
      have hits := own.refresh h
      refine ⟨filter_revokeWhere_iff.mpr fun r mem hash => hits r mem (by simpa using hash),
        fun r mem new => absurd mem new, fun calls other => (answers_refresh hits other).symm⟩
  | access jti exp read h =>
    have same : ∀ {jti' exp'}, readJti D token = some (jti', exp') → jti' = jti := by
      intro jti' exp' read'
      rw [read, Option.some.injEq, Prod.mk.injEq] at read'
      exact read'.1.symm
    constructor
    · intro isolated
      refine ⟨fun k => absurd k h.not_refresh, ?_⟩
      rintro _ jti' exp' read' unknown
      obtain rfl := same read'
      obtain ⟨known, -⟩ | ⟨-, e⟩ := revokeJti_cases (D := D) s (revokedEntry jti' exp (ins 1).now)
      · exact absurd known unknown
      · refine isolated.jtis { revokedEntry jti' exp (ins 1).now with jti := truncateJti jti' } ?_ ?_
        · rw [e]
          exact List.mem_append_right _ (List.mem_singleton.mpr rfl)
        · exact fun mem => unknown ⟨_, mem, rfl⟩
    · intro own
      refine ⟨by rw [revokeJti_refreshTokens], ?_, fun calls other => (answers_access read other).symm⟩
      intro r mem new
      obtain ⟨-, e⟩ | ⟨unknown, e⟩ := revokeJti_cases (D := D) s (revokedEntry jti exp (ins 1).now)
      · rw [e] at mem
        exact absurd mem new
      · rw [e, List.mem_append, List.mem_singleton] at mem
        obtain mem | rfl := mem
        · exact absurd mem new
        · exact own.access h jti exp read unknown

end

namespace Sample

/-- A client of tenant A revokes the refresh token of the sample grant, which belongs to `app`. -/
def revokedBy (clientId : String) : Except RevocationError Unit × Store :=
  (revoke deploy tenantA (plainToken 2) none clientId none).run.run (exec deploy) (fun _ => input 2)
    afterGrant

end Sample

open Sample in
set_option maxRecDepth 4000 in
/-- The client `other` revokes the refresh token of `app`, and `app` can no longer use it. -/
theorem another_clients_token_revoked :
    (revokedBy "other").1 = .ok () ∧
    ((exchange deploy tenantA (refreshRequest 2)).run (exec deploy) (fun _ => input 3)
      (revokedBy "other").2).1 = .error ⟨.invalidGrant, "refresh_token is revoked or expired"⟩ ∧
    ¬ Isolated deploy tenantA "other" (plainToken 2) afterGrant (revokedBy "other").2 := by
  refine ⟨by decide +kernel, by decide +kernel, ?_⟩
  intro isolated
  have changed : (revokedBy "other").2.refreshTokens.filter (!·.ownedBy deploy tenantA "other") ≠
      afterGrant.refreshTokens.filter (!·.ownedBy deploy tenantA "other") := by
    decide +kernel
  exact changed isolated.refresh

open Sample in
set_option maxRecDepth 4000 in
/-- The client `app` revokes its own refresh token; nobody else notices. -/
theorem revocation_isolated_iff_sample :
    Isolated deploy tenantA "app" (plainToken 2) afterGrant (revokedBy "app").2 := by
  have ok : (revokedBy "app").1 = .ok () := by decide +kernel
  have owned : ∀ r ∈ afterGrant.refreshTokens, r.ownedBy deploy tenantA "app" = true := by
    decide +kernel
  have unread : readJti deploy (plainToken 2) = none := by decide +kernel
  refine (revocation_isolated_iff ok).mpr fun _ => ⟨fun _ r mem _ _ => owned r mem, ?_⟩
  intro _ jti exp read
  rw [unread] at read
  cases read

end IdpMvp
