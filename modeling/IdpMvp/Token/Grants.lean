import IdpMvp.Service.Token

/-!
# What the token endpoint can do

One lemma for each part of `TokenService`: what it has checked when it succeeds and what it has
written, in every execution. The proofs about the token endpoint use these and do not unfold the
services again.
-/

namespace IdpMvp

open Program Program.Prog Program.Flow Prog

variable {D : Deploy} {s : Store} {tenantId : TenantId} {cmd : TokenCommand}

/-! ## Clients, users and signatures -/

/-- The request names an active client of the tenant and authenticates as it. -/
structure ClientOk (D : Deploy) (s : Store) (tenantId : TenantId) (cmd : TokenCommand)
    (clientId : String) : Prop where
  resolved : resolveClientId cmd = .ok clientId
  client : ∃ c, s.clients.find? (fun c => c.tenantId = tenantId ∧ D.coll c.clientId = D.coll clientId)
    = some c ∧ c.isActive ∧ authenticateClient D c cmd = .ok ()

lemma tokenClient_always :
    alwaysE (exec D) (tokenClient D tenantId cmd) s
      (fun clientId s' => s' = s ∧ ClientOk D s tenantId cmd clientId) (fun _ s' => s' = s) := by
  simp only [tokenClient, loadActiveClient, alwaysE_bind, alwaysE_orThrow, alwaysE_orLeave, op,
    always_db, always_ret, Stmt.exec, ClientStmt.exec, alwaysE_found, alwaysE_ensure, alwaysE_pure,
    reduceCtorEq, Except.ok.injEq, forall_eq', false_imp_iff, implies_true, and_true, true_and]
  intro clientId resolved _ client found active _ authenticated
  exact ⟨resolved, client, found, active, authenticated⟩

/-- The user row of a request, active. -/
lemma loadActiveUser_always {userId : Uuid} :
    alwaysE (exec D) (loadActiveUser userId) s
      (fun user s' => s' = s ∧ s.users.find? (·.id = userId) = some user ∧ user.isActive)
      (fun _ s' => s' = s) := by
  simp only [loadActiveUser, alwaysE_bind, alwaysE_orLeave, op, always_db, always_ret, Stmt.exec,
    UserStmt.exec, alwaysE_found, alwaysE_ensure, alwaysE_pure, reduceCtorEq, Except.ok.injEq,
    forall_eq', false_imp_iff, implies_true, and_true, true_and]
  intro _ user found active
  exact ⟨found, active⟩

/-- The active signing key of the key table, with its private key in the clear. -/
structure SigningKey.LoadedFrom (D : Deploy) (keys : List SigningKey) (key : SigningKey)
    (pem : String) : Prop where
  active : ∃ now, (keys.filter (·.isUsableForSigningAt now)).foldl SigningKey.newer none = some key
  pem : ∃ bytes, D.decrypt key.privateKeyEncrypted = .ok bytes ∧ fromUtf8 bytes = some pem

/-- `token` is what `sign` makes of the claims under the active key. -/
def SignedBy (D : Deploy) (keys : List SigningKey) (typ : String) (claims : JwtClaims)
    (token : String) (key : SigningKey) : Prop :=
  ∃ pem, key.LoadedFrom D keys pem ∧ sign D pem key.kid typ key.algorithm claims = .ok token

lemma activeSigningKey_always :
    always (exec D) (activeSigningKey D) s (fun r s' => s' = s ∧ ∀ active, r = .ok active →
      ∃ key : SigningKey, key.LoadedFrom D s.signingKeys active.privatePem ∧ active.kid = key.kid ∧
        active.algorithm = key.algorithm) := by
  simp only [activeSigningKey, always_bind, op, always_db, Stmt.exec, SigningKeyStmt.exec]
  refine ⟨by simp, ?_⟩
  intro now
  rw [always_ret]
  split
  · simp
  · simp
  · rename_i key active
    split
    · simp
    · rename_i bytes decrypted
      split
      · simp
      · rename_i pem utf8
        refine ⟨rfl, ?_⟩
        rintro _ ⟨⟩
        exact ⟨key, ⟨⟨now, by simpa using active⟩, bytes, decrypted, utf8⟩, rfl, rfl⟩

lemma signToken_always {typ : String} {claims : JwtClaims} :
    alwaysE (exec D) (signToken D typ claims) s
      (fun token s' => s' = s ∧ ∃ key, SignedBy D s.signingKeys typ claims token key) (fun _ s' => s' = s) := by
  simp only [signToken, alwaysE_bind, alwaysE_orLeave, alwaysE_orThrow]
  refine always_mono activeSigningKey_always ?_
  rintro r s' ⟨rfl, loaded⟩
  refine ⟨?_, fun _ _ => rfl⟩
  intro active e
  obtain ⟨key, load, kid, alg⟩ := loaded active e
  refine ⟨?_, fun _ _ => rfl⟩
  intro token signed
  rw [kid, alg] at signed
  exact ⟨rfl, key, active.privatePem, load, signed⟩

/-- The tokens of a grant, with the claims they were signed with. -/
structure TokensOk (D : Deploy) (keys : List SigningKey) (tenantId : TenantId) (user : User)
    (clientId : String) (scope : List String) (iat authTime : Int)
    (nonce idToken accessToken : String) : Prop where
  id : ∃ jti key, SignedBy D keys "JWT" (.idToken
    (idTokenClaims D tenantId user clientId scope iat authTime nonce (D.uuidToString jti))) idToken key
  access : ∃ jti key, SignedBy D keys "at+jwt" (.accessToken
    (accessTokenClaims D tenantId user clientId scope iat (D.uuidToString jti))) accessToken key

lemma signTokens_always {user : User} {clientId : String} {scope : List String} {iat authTime : Int}
    {nonce : String} :
    alwaysE (exec D) (signTokens D tenantId user clientId scope iat authTime nonce) s
      (fun tokens s' => s' = s ∧
        TokensOk D s.signingKeys tenantId user clientId scope iat authTime nonce tokens.1 tokens.2)
      (fun _ s' => s' = s) := by
  simp only [signTokens, alwaysE_bind, alwaysE_lift, uuidV4, op, always_uuidV4, always_ret]
  intro i j
  refine alwaysE_mono signToken_always ?_ (fun _ _ e => e)
  rintro idToken s' ⟨rfl, key, signedId⟩
  refine alwaysE_mono signToken_always ?_ (fun _ _ e => e)
  rintro accessToken s' ⟨rfl, key', signedAccess⟩
  exact ⟨rfl, ⟨_, key, signedId⟩, ⟨_, key', signedAccess⟩⟩

/-! ## Rotation -/

/-- A refresh token is inserted only if its hash is new. -/
lemma create_refreshToken_ok {t : RefreshToken} {now : DateTime} {v : Unit} {s' : Store}
    (e : (Stmt.refreshTokens (.create t)).exec D now s = (.ok v, s')) :
    s' = s.addRefreshToken t ∧ ∀ r ∈ s.refreshTokens, r.tokenHash ≠ t.tokenHash := by
  simp only [Stmt.exec, RefreshTokenStmt.exec] at e
  split at e
  · cases e
  · rename_i fresh
    split at e
    · cases e
    · cases e
      exact ⟨rfl, by simpa using fresh⟩

/-- A refresh token that is not inserted changes nothing. -/
lemma create_refreshToken_error {t : RefreshToken} {now : DateTime} {err : DomainError} {s' : Store}
    (e : (Stmt.refreshTokens (.create t)).exec D now s = (.error err, s')) : s' = s := by
  simp only [Stmt.exec, RefreshTokenStmt.exec] at e
  split at e
  · cases e; rfl
  · split at e
    · cases e; rfl
    · cases e

/-- The request presents a refresh token of its own tenant and client (steps 1 to 4). -/
structure Presented (D : Deploy) (s : Store) (tenantId : TenantId) (cmd : TokenCommand)
    (plain : String) (stored : RefreshToken) : Prop where
  client : ClientOk D s tenantId cmd stored.clientId
  token : nonEmpty cmd.refreshToken = some plain
  row : s.refreshTokens.find? (fun t => t.tokenHash = D.sha256Hex plain ∧ t.tenantId = tenantId) =
    some stored

/-- What a request has checked before it rotates the token it presents (steps 1 to 7). -/
structure Rotatable (D : Deploy) (s : Store) (tenantId : TenantId) (cmd : TokenCommand)
    (plain : String) (stored : RefreshToken) (user : User) (now : DateTime) : Prop
    extends Presented D s tenantId cmd plain stored where
  first : ∀ t ∈ s.refreshTokens, t.parentHash ≠ some (D.sha256Hex plain)
  valid : stored.isValidAt now
  found : s.users.find? (·.id = stored.userId) = some user
  active : user.isActive

/-- The store after a failed rotation: nothing changed, or the presented token was revoked. -/
def Unrotated (D : Deploy) (s : Store) (tenantId : TenantId) (cmd : TokenCommand) (s' : Store) :
    Prop :=
  s' = s ∨ ∃ plain stored now, Presented D s tenantId cmd plain stored ∧
    s' = s.revokeRefreshTokens (·.tokenHash = D.sha256Hex plain) now

/-- A rotation: the presented token is revoked and its first child created. -/
structure Rotated (D : Deploy) (s : Store) (tenantId : TenantId) (cmd : TokenCommand)
    (plain newPlain : String) (stored : RefreshToken) (user : User) (now : DateTime)
    (tokens : IssuedTokens) (s' : Store) : Prop
    extends Rotatable D s tenantId cmd plain stored user now where
  fresh : ∀ t ∈ s.refreshTokens, t.tokenHash ≠ D.sha256Hex newPlain
  store : s' = (s.revokeRefreshTokens (·.tokenHash = D.sha256Hex plain) now).addRefreshToken
    (childRefreshToken D tenantId stored (D.sha256Hex plain) stored.clientId newPlain)
  signed : TokensOk D s.signingKeys tenantId user stored.clientId stored.scope
    (DateTime.timestamp now) (DateTime.timestamp now) "" tokens.idToken tokens.accessToken
  refresh : tokens.refreshToken = some newPlain
  drawn : ∃ i : Input, newPlain = base64Url (i.bytes 32)

/-- Every execution of `exchange_refresh_token` either fails, having revoked at most the token it was
given, or at the time of its clock it revokes that token and creates its first child. -/
theorem exchangeRefreshToken_rotates {ins : Nat → Input} :
    wpE (exec D) (exchangeRefreshToken D tenantId cmd) ins s
      (fun tokens s' tr => ∃ plain newPlain stored user now,
        Rotated D s tenantId cmd plain newPlain stored user now tokens s' ∧
          ∃ e ∈ tr, e.op = .clock ∧ e.input.now = now)
      (fun _ s' _ => Unrotated D s tenantId cmd s') := by
  unfold exchangeRefreshToken
  rw [wpE_bind]
  refine wpE_mono tokenClient_always.wpE ?_ fun _ _ _ e => .inl e
  rintro clientId _ tr ⟨rfl, client⟩
  rename_i s
  rw [wpE_bind, wpE_found]
  refine ⟨fun plain token => ?_, fun _ => .inl rfl⟩
  rw [clockNow, wpE_op]
  generalize ins (0 + ([] : List (Call Op Input Store)).length + tr.length) = i
  have read : exec D .clock i s = (i.now, s) := rfl
  rw [read]
  generalize time : i.now = now
  refine wpE_mono (alwaysE.wpE (Q := fun tokens s' => ∃ newPlain stored user,
    Rotated D s tenantId cmd plain newPlain stored user now tokens s')
    (E := fun _ s' => Unrotated D s tenantId cmd s') ?_) ?_ fun _ _ _ e => e
  rotate_left
  · rintro tokens s' rest ⟨newPlain, stored, user, rotated⟩
    exact ⟨plain, newPlain, stored, user, now, rotated, ⟨.clock, i, s⟩,
      List.mem_append_right _ List.mem_cons_self, rfl, time⟩
  refine read_step (fun _ => rfl) (fun _ => .inl rfl) fun _ => ?_
  refine found_step (fun _ => .inl rfl) fun stored row => ?_
  refine ensure_step (fun _ => .inl rfl) fun owner => ?_
  obtain rfl := of_decide_eq_true owner
  have presented : Presented D s tenantId cmd plain stored := ⟨client, token, row⟩
  have interrupted : ∀ now, Unrotated D s tenantId cmd
      (s.revokeRefreshTokens (·.tokenHash = D.sha256Hex plain) now) :=
    fun now => .inr ⟨plain, stored, now, presented, rfl⟩
  refine read_step (fun _ => rfl) (fun _ => .inl rfl) fun _ => ?_
  refine ensureOr_step (fun _ => ?_) fun first => ?_
  · -- Reuse was detected; a failure of the revocation is ignored.
    simp only [always_bind, op, always_db, Stmt.exec, RefreshTokenStmt.exec, pure_eq, always_ret]
    exact ⟨fun _ => .inl rfl, fun _ => interrupted now⟩
  refine ensure_step (fun _ => .inl rfl) fun valid => ?_
  refine alwaysE_bind_of loadActiveUser_always (fun _ _ e => .inl e) ?_
  rintro user _ ⟨rfl, foundUser, active⟩
  rename_i s
  have rotatable : Rotatable D s tenantId cmd plain stored user now :=
    ⟨presented, by simpa using first, valid, foundUser, active⟩
  refine write_step (fun _ => .inl rfl) (fun _ _ _ e => by cases e) fun _ _ s₁ revoked => ?_
  obtain rfl := (Prod.mk.inj revoked).2
  refine alwaysE_bind_of signTokens_always (fun _ _ e => e ▸ interrupted now) ?_
  rintro ⟨idToken, accessToken⟩ _ ⟨rfl, signed⟩
  refine lift_step fun i => ?_
  refine write_step (fun _ => interrupted now)
    (fun _ _ _ e => create_refreshToken_error e ▸ interrupted now) fun _ _ s₂ created => ?_
  obtain ⟨rfl, fresh⟩ := create_refreshToken_ok created
  have fresh' : ∀ t ∈ s.refreshTokens, t.tokenHash ≠ D.sha256Hex (base64Url (i.bytes 32)) := by
    intro t mem
    have ne := fresh _ (mem_revokeWhere.mpr ⟨t, mem, rfl⟩)
    rwa [revokeIf_tokenHash] at ne
  exact ⟨_, stored, user, rotatable, fresh', rfl, signed, rfl, _, rfl⟩

/-- The same of every execution. -/
lemma exchangeRefreshToken_always :
    alwaysE (exec D) (exchangeRefreshToken D tenantId cmd) s
      (fun tokens s' => ∃ plain newPlain stored user now,
        Rotated D s tenantId cmd plain newPlain stored user now tokens s')
      (fun _ s' => Unrotated D s tenantId cmd s') := by
  refine alwaysE_of_wpE fun ins => wpE_mono exchangeRefreshToken_rotates ?_ fun _ _ _ e => e
  rintro tokens s' tr ⟨plain, newPlain, stored, user, now, rotated, -⟩
  exact ⟨plain, newPlain, stored, user, now, rotated⟩

/-! ## The code grant -/

/-- In every execution, `consume` returns the row of the code after its `UPDATE` if that changed a
row, and nothing otherwise. -/
lemma consume_always {hash : String} {now : DateTime} :
    always (exec D) (consume tenantId hash now) s (fun r s' =>
      (s' = s ∨ s' = s.consumeCodes tenantId hash now) ∧
      ∀ code, r = .ok (some code) → s' = s.consumeCodes tenantId hash now ∧
        (∃ c ∈ s.codes, c.consumable tenantId hash now) ∧
        s'.codes.find? (·.codeHash = hash) = some code) := by
  simp only [consume, always_bind, op, always_db, Stmt.exec, CodeStmt.exec, pure_eq, always_ret]
  refine ⟨by simp, fun _ => ?_⟩
  split
  · simp_all
  · simp
  · rename_i n affected
    have count : s.codes.countP (·.consumable tenantId hash now) = n + 1 := Except.ok.inj affected
    obtain ⟨c, mem, consumable⟩ := List.countP_pos_iff.mp (by rw [count]; exact Nat.succ_pos n)
    simp only [always_db, Stmt.exec, CodeStmt.exec, always_ret, or_true, true_and]
    refine ⟨by simp, fun _ => ?_⟩
    intro code e
    exact ⟨⟨c, mem, consumable⟩, Except.ok.inj e⟩

/-- What a request has checked when it redeems a code (steps 1 to 7). -/
structure Redeemed (D : Deploy) (s : Store) (tenantId : TenantId) (cmd : TokenCommand)
    (plain verifier : String) (code : AuthorizationCode) (user : User) (now : DateTime) : Prop where
  client : ClientOk D s tenantId cmd code.clientId
  presented : nonEmpty cmd.code = some plain
  consumed : ∃ c ∈ s.codes, c.consumable tenantId (D.sha256Hex plain) now
  row : (s.consumeCodes tenantId (D.sha256Hex plain) now).codes.find?
    (·.codeHash = D.sha256Hex plain) = some code
  redirect : cmd.redirectUri = some code.redirectUri
  proof : nonEmpty cmd.codeVerifier = some verifier
  pkce : D.s256 verifier = code.codeChallenge
  found : s.users.find? (·.id = code.userId) = some user
  active : user.isActive

/-- The tokens of a code grant and the store it leaves. -/
structure Granted (D : Deploy) (s : Store) (tenantId : TenantId) (cmd : TokenCommand)
    (plain verifier : String) (code : AuthorizationCode) (user : User) (now : DateTime)
    (tokens : IssuedTokens) (s' : Store) : Prop
    extends Redeemed D s tenantId cmd plain verifier code user now where
  signed : TokensOk D s.signingKeys tenantId user code.clientId code.scope (DateTime.timestamp now)
    (DateTime.timestamp code.authTime) code.nonce tokens.idToken tokens.accessToken
  store : (tokens.refreshToken = none ∧ s' = s.consumeCodes tenantId (D.sha256Hex plain) now) ∨
    ∃ newPlain, tokens.refreshToken = some newPlain ∧
      (∀ t ∈ s.refreshTokens, t.tokenHash ≠ D.sha256Hex newPlain) ∧
      s' = (s.consumeCodes tenantId (D.sha256Hex plain) now).addRefreshToken
        (rootRefreshToken D tenantId code code.clientId newPlain now)
  drawn : ∀ plain, tokens.refreshToken = some plain → ∃ i : Input, plain = base64Url (i.bytes 32)

/-- The store after a code grant that failed: nothing changed, or a code was consumed. -/
def Ungranted (D : Deploy) (s : Store) (tenantId : TenantId) (cmd : TokenCommand) (s' : Store) :
    Prop :=
  s' = s ∨ ∃ plain now, nonEmpty cmd.code = some plain ∧
    s' = s.consumeCodes tenantId (D.sha256Hex plain) now

/-- In every execution, `exchange_code` either fails, having consumed at most the code it was given,
or it consumes that code and creates at most one refresh token, the root of a chain. -/
theorem exchangeCode_always :
    alwaysE (exec D) (exchangeCode D tenantId cmd) s
      (fun tokens s' => ∃ plain verifier code user now,
        Granted D s tenantId cmd plain verifier code user now tokens s')
      (fun _ s' => Ungranted D s tenantId cmd s') := by
  unfold exchangeCode
  refine alwaysE_bind_of tokenClient_always (fun _ _ e => .inl e) ?_
  rintro clientId _ ⟨rfl, client⟩
  rename_i s
  refine found_step (fun _ => .inl rfl) fun verifier hverifier => ?_
  refine ensure_step (fun _ => .inl rfl) fun _ => ?_
  refine found_step (fun _ => .inl rfl) fun plain hcode => ?_
  refine clock_step fun now => ?_
  have consumed : Ungranted D s tenantId cmd
      (s.consumeCodes tenantId (D.sha256Hex plain) now) := .inr ⟨plain, now, hcode, rfl⟩
  rw [alwaysE_bind, alwaysE_orLeave]
  refine always_mono consume_always ?_
  rintro r s' ⟨stores, ok⟩
  have ungranted : Ungranted D s tenantId cmd s' := by
    obtain rfl | rfl := stores
    · exact .inl rfl
    · exact consumed
  refine ⟨?_, fun _ _ => ungranted⟩
  intro row e
  refine found_step (fun _ => ungranted) fun code hrow => ?_
  obtain ⟨rfl, unused, row⟩ := ok code (hrow ▸ e)
  refine ensure_step (fun _ => consumed) fun owner => ?_
  obtain rfl := of_decide_eq_true owner
  refine ensure_step (fun _ => consumed) fun redirect => ?_
  refine ensure_step (fun _ => consumed) fun pkce => ?_
  refine alwaysE_bind_of loadActiveUser_always (fun _ _ e => e ▸ consumed) ?_
  rintro user _ ⟨rfl, foundUser, active⟩
  have redeemed : Redeemed D s tenantId cmd plain verifier code user now :=
    ⟨client, hcode, unused, row, of_decide_eq_true redirect, hverifier, of_decide_eq_true pkce,
      foundUser, active⟩
  refine alwaysE_bind_of signTokens_always (fun _ _ e => e ▸ consumed) ?_
  rintro ⟨idToken, accessToken⟩ _ ⟨rfl, signed⟩
  rw [alwaysE_bind, issueRootRefreshToken]
  split
  · refine lift_step fun i => ?_
    refine write_step (fun _ => consumed)
      (fun _ _ _ e => create_refreshToken_error e ▸ consumed) fun _ _ s₂ created => ?_
    obtain ⟨rfl, fresh⟩ := create_refreshToken_ok created
    refine ⟨plain, verifier, code, user, now, redeemed, signed, .inr ⟨_, rfl, fresh, rfl⟩, ?_⟩
    rintro _ ⟨⟩
    exact ⟨_, rfl⟩
  · exact ⟨plain, verifier, code, user, now, redeemed, signed, .inl ⟨rfl, rfl⟩, nofun⟩

end IdpMvp
