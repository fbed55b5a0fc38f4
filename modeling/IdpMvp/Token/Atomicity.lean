import IdpMvp.Sample
import IdpMvp.Token.Revocation

/-!
# Refresh requests that fail half way

`exchange_refresh_token` revokes the presented token before it signs the new tokens and stores the new
refresh token. A step that fails up to the revocation leaves everything as it was; one that fails later
leaves the client without any token.
-/

namespace IdpMvp

open Program Program.Prog Program.Flow Prog

variable {D : Deploy} {s s' : Store} {tenantId : TenantId} {cmd : TokenCommand} {ins : Nat → Input}

/-! ## The steps that may fail -/

/-- The key that is active at `now`, with its private key in the clear. -/
def activeAt (D : Deploy) (keys : List SigningKey) (now : DateTime) : Option ActiveSigningKey := do
  let key ← (keys.filter (·.isUsableForSigningAt now)).foldl SigningKey.newer none
  let bytes ← (D.decrypt key.privateKeyEncrypted).toOption
  let pem ← fromUtf8 bytes
  return ⟨key.kid, key.algorithm, pem⟩

/-- The claims can be signed on the input `i`. -/
def Signs (D : Deploy) (keys : List SigningKey) (i : Input) (typ : String) (claims : JwtClaims) : Prop :=
  i.fault = none ∧ ∃ key token, activeAt D keys i.now = some key ∧
    sign D key.privatePem key.kid typ key.algorithm claims = .ok token

/-- Both tokens of a grant can be signed, on the inputs of `signTokens`. -/
def SignsBoth (D : Deploy) (keys : List SigningKey) (tenantId : TenantId) (user : User) (clientId : String)
    (scope : List String) (iat authTime : Int) (nonce : String) (ins : Nat → Input) : Prop :=
  Signs D keys (ins 2) "JWT" (.idToken (idTokenClaims D tenantId user clientId scope iat authTime nonce
    (D.uuidToString (ins 0).uuid))) ∧
  Signs D keys (ins 3) "at+jwt" (.accessToken (accessTokenClaims D tenantId user clientId scope iat
    (D.uuidToString (ins 1).uuid)))

/-- A statement fails that finds the client, the token, its child or the user, or that revokes the
token. -/
def FailsEarly (ins : Nat → Input) : Prop :=
  (ins 0).fault ≠ none ∨ (ins 2).fault ≠ none ∨ (ins 3).fault ≠ none ∨ (ins 4).fault ≠ none ∨
    (ins 5).fault ≠ none

/-- The new refresh token, drawn at random. -/
def drawnPlain (ins : Nat → Input) : String := base64Url ((ins 10).bytes 32)

/-- Both tokens can be signed and the new refresh token stored. -/
structure Completes (D : Deploy) (s : Store) (tenantId : TenantId) (stored : RefreshToken) (user : User)
    (now : DateTime) (ins : Nat → Input) : Prop where
  signs : SignsBoth D s.signingKeys tenantId user stored.clientId stored.scope (DateTime.timestamp now)
    (DateTime.timestamp now) "" fun n => ins (n + 6)
  inserted : (ins 11).fault = none
  fresh : ∀ t ∈ s.refreshTokens, t.tokenHash ≠ D.sha256Hex (drawnPlain ins)

/-! ## What each part makes of them -/

lemma activeSigningKey_wp :
    (activeSigningKey D).wp (exec D) ins s (fun r s' tr => s' = s ∧ tr.length = 1 ∧
      ∀ key, r = .ok key ↔ (ins 0).fault = none ∧ activeAt D s.signingKeys (ins 0).now = some key) := by
  simp only [activeSigningKey, wp_bind, op, wp_db, Stmt.exec, SigningKeyStmt.exec]
  refine ⟨fun e fault => ?_, fun quiet => ?_⟩
  · simp [fault]
  · simp only [quiet, true_and]
    rw [wp_ret]
    unfold activeAt
    generalize (s.signingKeys.filter (·.isUsableForSigningAt (ins 0).now)).foldl SigningKey.newer none = row
    cases row with
    | none => exact ⟨rfl, rfl, fun _ => by simp⟩
    | some key =>
      dsimp only
      cases decrypted : D.decrypt key.privateKeyEncrypted with
      | error e => exact ⟨rfl, rfl, fun _ => by simp [decrypted, Except.toOption]⟩
      | ok bytes =>
        dsimp only
        cases utf8 : fromUtf8 bytes with
        | none => exact ⟨rfl, rfl, fun _ => by simp [decrypted, utf8, Except.toOption]⟩
        | some pem => exact ⟨rfl, rfl, fun _ => by simp [decrypted, utf8, Except.toOption]⟩

lemma signToken_wp {typ : String} {claims : JwtClaims} :
    wpE (exec D) (signToken D typ claims) ins s
      (fun _ s' tr => s' = s ∧ tr.length = 1 ∧ Signs D s.signingKeys (ins 0) typ claims)
      (fun _ s' _ => s' = s ∧ ¬ Signs D s.signingKeys (ins 0) typ claims) := by
  unfold signToken
  rw [wpE_bind, wpE_orLeave]
  refine wp_mono activeSigningKey_wp ?_
  rintro (e | key) s' tr ⟨rfl, length, loaded⟩
  · refine ⟨rfl, ?_⟩
    rintro ⟨quiet, key, -, active, -⟩
    cases (loaded key).mpr ⟨quiet, active⟩
  · obtain ⟨quiet, active⟩ := (loaded key).mp rfl
    dsimp only
    rw [wpE_orThrow]
    refine ⟨fun token signed => ?_, fun e failed => ⟨rfl, ?_⟩⟩
    · exact ⟨rfl, by simpa using length, quiet, key, token, active, signed⟩
    · rintro ⟨-, key', token, active', signed⟩
      obtain rfl := Option.some.inj (active.symm.trans active')
      cases failed.symm.trans signed

section
variable {user : User} {clientId : String} {scope : List String} {iat authTime : Int} {nonce : String}

lemma signTokens_wp :
    wpE (exec D) (signTokens D tenantId user clientId scope iat authTime nonce) ins s
      (fun _ s' tr => s' = s ∧ tr.length = 4 ∧
        SignsBoth D s.signingKeys tenantId user clientId scope iat authTime nonce ins)
      (fun _ s' _ => s' = s ∧
        ¬ SignsBoth D s.signingKeys tenantId user clientId scope iat authTime nonce ins) := by
  unfold signTokens
  rw [uuidV4, wpE_op, wpE_op, wpE_bind]
  refine wpE_mono signToken_wp ?_ fun e s' tr left => ⟨left.1, fun both => left.2 both.1⟩
  rintro idToken s' tr ⟨rfl, length, idSigned⟩
  rw [wpE_bind, length]
  refine wpE_mono signToken_wp ?_ fun e s' tr left => ⟨left.1, fun both => left.2 both.2⟩
  rintro accessToken s' tr' ⟨rfl, length', accessSigned⟩
  exact ⟨rfl, by simp [length, length'], idSigned, accessSigned⟩

end

lemma faulted {i : Input} {e : DomainError} (fault : i.fault = some e) : i.fault ≠ none := by
  rw [fault]
  exact nofun

lemma tokenClient_wp {clientId : String} (client : ClientOk D s tenantId cmd clientId) :
    wpE (exec D) (tokenClient D tenantId cmd) ins s
      (fun id s' tr => id = clientId ∧ s' = s ∧ tr.length = 1 ∧ (ins 0).fault = none)
      (fun _ s' _ => s' = s ∧ (ins 0).fault ≠ none) := by
  obtain ⟨row, found, active, authenticated⟩ := client.client
  simp only [tokenClient, loadActiveClient, wpE_bind, wpE_orThrow, wpE_orLeave, op, wp_db, wp_ret,
    Stmt.exec, ClientStmt.exec, wpE_found, wpE_ensure, wpE_pure, client.resolved]
  refine ⟨?_, fun _ e => by cases e⟩
  rintro _ ⟨⟩
  refine ⟨fun e fault => ⟨trivial, faulted fault⟩, fun quiet => ?_⟩
  have quiet : (ins 0).fault = none := quiet
  rw [found]
  simp [active, authenticated, quiet]

lemma loadActiveUser_wp {userId : Uuid} {user : User} (found : s.users.find? (·.id = userId) = some user)
    (active : user.isActive) :
    wpE (exec D) (loadActiveUser userId) ins s
      (fun u s' tr => u = user ∧ s' = s ∧ tr.length = 1 ∧ (ins 0).fault = none)
      (fun _ s' _ => s' = s ∧ (ins 0).fault ≠ none) := by
  simp only [loadActiveUser, wpE_bind, wpE_orLeave, op, wp_db, wp_ret, Stmt.exec, UserStmt.exec, wpE_found,
    wpE_ensure, wpE_pure]
  refine ⟨fun e fault => ⟨trivial, faulted fault⟩, fun quiet => ?_⟩
  rw [found]
  simp [active, quiet]

/-- With the user and the client there, a refresh token is refused only if its hash is taken. -/
lemma create_refreshToken_taken {t : RefreshToken} {now : DateTime} {e : DomainError}
    (user : s.hasUser t.userId) (client : s.hasClient D t.tenantId t.clientId)
    (failed : (Stmt.refreshTokens (.create t)).exec D now s = (.error e, s')) :
    s' = s ∧ ∃ r ∈ s.refreshTokens, r.tokenHash = t.tokenHash := by
  simp only [Stmt.exec, RefreshTokenStmt.exec, user, client] at failed
  split at failed
  · rename_i taken
    cases failed
    exact ⟨rfl, by simpa using taken⟩
  · cases failed

/-- A request whose token can be rotated returns new tokens if no step fails; it leaves everything as it was
if one fails up to the revocation, and the token revoked if one fails later. -/
lemma exchangeRefreshToken_wp {plain : String} {stored : RefreshToken} {user : User}
    (rotatable : Rotatable D s tenantId cmd plain stored user (ins 1).now) :
    wpE (exec D) (exchangeRefreshToken D tenantId cmd) ins s
      (fun tokens s' _ => ¬ FailsEarly ins ∧ Completes D s tenantId stored user (ins 1).now ins ∧
        tokens.refreshToken = some (drawnPlain ins) ∧
        s' = (s.revokeRefreshTokens (·.tokenHash = D.sha256Hex plain) (ins 1).now).addRefreshToken
          (childRefreshToken D tenantId stored (D.sha256Hex plain) stored.clientId (drawnPlain ins)))
      (fun _ s' _ => (FailsEarly ins ∧ s' = s) ∨
        (¬ FailsEarly ins ∧ ¬ Completes D s tenantId stored user (ins 1).now ins ∧
          s' = s.revokeRefreshTokens (·.tokenHash = D.sha256Hex plain) (ins 1).now)) := by
  have unrotated : s.refreshTokens.any (·.parentHash = some (D.sha256Hex plain)) = false := by
    simpa using rotatable.first
  have user : s.hasUser stored.userId := by
    have row := List.find?_some rotatable.found
    exact List.any_eq_true.mpr ⟨user, List.mem_of_find?_eq_some rotatable.found, row⟩
  have client : s.hasClient D tenantId stored.clientId := by
    obtain ⟨c, row, -⟩ := rotatable.client.client
    exact List.any_eq_true.mpr ⟨c, List.mem_of_find?_eq_some row, by simpa using List.find?_some row⟩
  unfold exchangeRefreshToken
  rw [wpE_bind]
  refine wpE_mono (tokenClient_wp rotatable.client) ?_ fun _ _ _ left => .inl ⟨.inl left.2, left.1⟩
  rintro _ _ tr ⟨rfl, rfl, length, quiet₀⟩
  rw [length]
  refine wpE_found_step rotatable.token ?_
  refine wpE_clock_step ?_
  refine wpE_db_split (fun e fault => .inl ⟨.inr (.inl (faulted fault)), rfl⟩) (fun _ _ _ e => by cases e) ?_
  rintro _ _ quiet₂ ⟨⟩
  refine wpE_found_step rotatable.row ?_
  refine wpE_ensure_step (decide_eq_true rfl) ?_
  refine wpE_db_split (fun e fault => .inl ⟨.inr (.inr (.inl (faulted fault))), rfl⟩) (fun _ _ _ e => by cases e) ?_
  rintro _ _ quiet₃ ⟨⟩
  refine wpE_ensureOr_step (by rw [unrotated]; rfl) ?_
  refine wpE_ensure_step rotatable.valid ?_
  rw [wpE_bind]
  refine wpE_mono (loadActiveUser_wp rotatable.found rotatable.active) ?_ fun _ _ _ left =>
    .inl ⟨.inr (.inr (.inr (.inl left.2))), left.1⟩
  rintro _ _ tr ⟨rfl, rfl, length, quiet₄⟩
  rw [length]
  refine wpE_db_split (fun e fault => .inl ⟨.inr (.inr (.inr (.inr (faulted fault)))), rfl⟩) (fun _ _ _ e => by cases e) ?_
  rintro _ _ quiet₅ ⟨⟩
  -- The token is revoked; whatever fails now, it stays so.
  have late : ¬ FailsEarly ins := by
    rintro (f | f | f | f | f)
    · exact f quiet₀
    · exact f quiet₂
    · exact f quiet₃
    · exact f quiet₄
    · exact f quiet₅
  rw [wpE_bind]
  refine wpE_mono signTokens_wp ?_ fun _ _ _ left =>
    .inr ⟨late, fun completes => left.2 completes.signs, left.1⟩
  rintro tokens _ tr ⟨rfl, length, signs⟩
  rw [length, wpE_bind, wpE_lift, randomToken, op, wp_randomToken, wp_ret]
  refine wpE_db_split (fun e fault => .inr ⟨late, fun completes => faulted fault completes.inserted, rfl⟩)
    (fun e s' _ failed => ?_) fun _ s' quiet created => ?_
  · obtain ⟨rfl, r, mem, taken⟩ := create_refreshToken_taken (by exact user) (by exact client) failed
    obtain ⟨t, row, rfl⟩ := mem_revokeWhere.mp mem
    rw [revokeIf_tokenHash] at taken
    exact .inr ⟨late, fun completes => completes.fresh t row taken, rfl⟩
  · obtain ⟨rfl, fresh⟩ := create_refreshToken_ok created
    refine ⟨late, ⟨signs, quiet, fun t mem => ?_⟩, rfl, rfl⟩
    have ne := fresh _ (mem_revokeWhere.mpr ⟨t, mem, rfl⟩)
    rwa [revokeIf_tokenHash] at ne

/-! ## Tokens that can be used -/

section
variable {plain : String} {stored : RefreshToken} {user : User} {now : DateTime}

/-- From `since` until the token expires, every request with it on which no step fails returns new tokens,
whichever signing keys there are by then. -/
def Retriable (D : Deploy) (s : Store) (tenantId : TenantId) (cmd : TokenCommand) (stored : RefreshToken)
    (user : User) (since : DateTime) : Prop :=
  ∀ keys ins, since ≤ (ins 1).now → (ins 1).now < stored.expiresAt → ¬ FailsEarly ins →
    Completes D { s with signingKeys := keys } tenantId stored user (ins 1).now ins →
    ∃ tokens, ((exchangeRefreshToken D tenantId cmd).run.run (exec D) ins { s with signingKeys := keys }).1 =
      .ok tokens

/-- The token that the request presents is stored, valid and not rotated, and the request can succeed later. -/
structure Usable (D : Deploy) (s : Store) (tenantId : TenantId) (cmd : TokenCommand) (plain : String)
    (stored : RefreshToken) (user : User) (now : DateTime) : Prop where
  rotatable : Rotatable D s tenantId cmd plain stored user now
  retriable : Retriable D s tenantId cmd stored user now

lemma Rotatable.usable (rotatable : Rotatable D s tenantId cmd plain stored user now) :
    Usable D s tenantId cmd plain stored user now := by
  refine ⟨rotatable, fun keys ins since unexpired early completes => ?_⟩
  have valid : stored.isValidAt (ins 1).now := by
    have unrevoked := rotatable.valid
    simp only [RefreshToken.isValidAt, Bool.and_eq_true, RefreshToken.isExpiredAt] at unrevoked ⊢
    exact ⟨unrevoked.1, by simpa using unexpired⟩
  have later : Rotatable D { s with signingKeys := keys } tenantId cmd plain stored user (ins 1).now :=
    ⟨⟨⟨rotatable.client.resolved, rotatable.client.client⟩, rotatable.token, rotatable.row⟩, rotatable.first,
      valid, rotatable.found, rotatable.active⟩
  have spec := exchangeRefreshToken_wp later
  rw [wpE, wp_iff_run] at spec
  cases result : ((exchangeRefreshToken D tenantId cmd).run.run (exec D) ins { s with signingKeys := keys }).1 with
  | ok tokens => exact ⟨tokens, rfl⟩
  | error e =>
    rw [result] at spec
    rcases spec with ⟨early', -⟩ | ⟨-, incomplete, -⟩
    · exact absurd early' early
    · exact absurd completes incomplete

/-- After a rotation the new token is the one that can be used. -/
lemma Rotatable.renewed {new : String} (rotatable : Rotatable D s tenantId cmd plain stored user now)
    (nonempty : new ≠ "") (fresh : ∀ t ∈ s.refreshTokens, t.tokenHash ≠ D.sha256Hex new)
    (unnamed : ∀ t ∈ s.refreshTokens, t.parentHash ≠ some (D.sha256Hex new)) :
    Rotatable D ((s.revokeRefreshTokens (·.tokenHash = D.sha256Hex plain) now).addRefreshToken
        (childRefreshToken D tenantId stored (D.sha256Hex plain) stored.clientId new)) tenantId
      { cmd with refreshToken := some new } new
      (childRefreshToken D tenantId stored (D.sha256Hex plain) stored.clientId new) user now := by
  have hash : stored.tokenHash = D.sha256Hex plain := by
    have presented := List.find?_some rotatable.row
    exact (of_decide_eq_true presented).1
  have others : ∀ t ∈ (s.revokeRefreshTokens (·.tokenHash = D.sha256Hex plain) now).refreshTokens,
      t.tokenHash ≠ D.sha256Hex new ∧ t.parentHash ≠ some (D.sha256Hex new) := by
    intro t mem
    obtain ⟨r, row, rfl⟩ := mem_revokeWhere.mp mem
    rw [revokeIf_tokenHash, revokeIf_parentHash]
    exact ⟨fresh r row, unnamed r row⟩
  refine ⟨⟨⟨rotatable.client.resolved, rotatable.client.client⟩, ?_, ?_⟩, ?_, ?_, rotatable.found,
    rotatable.active⟩
  · exact if_neg nonempty
  · rw [Store.addRefreshToken, List.find?_append, List.find?_eq_none.mpr fun t mem => ?_]
    · simp [childRefreshToken]
    · simp [(others t mem).1]
  · intro t mem
    rcases List.mem_append.mp mem with mem | mem
    · exact (others t mem).2
    · obtain rfl := List.mem_singleton.mp mem
      intro same
      refine fresh stored (List.mem_of_find?_eq_some rotatable.row) (hash.trans ?_)
      exact Option.some.inj same
  · have valid := rotatable.valid
    simp only [RefreshToken.isValidAt, Bool.and_eq_true] at valid ⊢
    exact ⟨rfl, valid.2⟩

/-- A token that has been revoked is not valid. -/
lemma Rotatable.unrevoked (rotatable : Rotatable D s tenantId cmd plain stored user now)
    {since : DateTime} :
    ¬ Rotatable D (s.revokeRefreshTokens (·.tokenHash = D.sha256Hex plain) since) tenantId cmd plain stored
      user now := by
  intro later
  obtain ⟨t, row, rfl⟩ := mem_revokeWhere.mp (List.mem_of_find?_eq_some later.row)
  have presented := List.find?_some later.row
  have hash := (of_decide_eq_true presented).1
  have valid := later.valid
  rw [revokeIf_tokenHash] at hash
  simp [RefreshToken.isValidAt, hash] at valid

/-- After a request the client has a token it can go on with: the one it presented if the request failed,
and else the new one. -/
def KeepsAToken (D : Deploy) (s : Store) (tenantId : TenantId) (cmd : TokenCommand) (plain : String)
    (stored : RefreshToken) (user : User) (ins : Nat → Input) : Prop :=
  let r := (exchangeRefreshToken D tenantId cmd).run.run (exec D) ins s
  (∀ e, r.1 = .error e → Usable D r.2 tenantId cmd plain stored user (ins 1).now) ∧
  (∀ tokens, r.1 = .ok tokens → ∃ new child, tokens.refreshToken = some new ∧
    Usable D r.2 tenantId { cmd with refreshToken := some new } new child user (ins 1).now)

/-- A request with a valid token that has not been rotated leaves the client with a token exactly when it
fails before the token is revoked, or when everything after that succeeds. -/
theorem refresh_keeps_a_token_iff
    (rotatable : Rotatable D s tenantId cmd plain stored user (ins 1).now) :
    KeepsAToken D s tenantId cmd plain stored user ins ↔
      FailsEarly ins ∨ (Completes D s tenantId stored user (ins 1).now ins ∧
        ∀ t ∈ s.refreshTokens, t.parentHash ≠ some (D.sha256Hex (drawnPlain ins))) := by
  have spec := exchangeRefreshToken_wp rotatable
  rw [wpE, wp_iff_run] at spec
  cases result : ((exchangeRefreshToken D tenantId cmd).run.run (exec D) ins s).1 with
  | ok tokens =>
    rw [result] at spec
    obtain ⟨late, completes, refresh, store⟩ := spec
    simp only [KeepsAToken, result, reduceCtorEq, false_imp_iff, implies_true, true_and, Except.ok.injEq,
      forall_eq']
    rw [store, or_iff_right late, and_iff_right completes]
    constructor
    · rintro ⟨new, child, returned, usable⟩ t mem
      obtain rfl := Option.some.inj (returned.symm.trans refresh)
      have unnamed := usable.rotatable.first _ (List.mem_append_left _ (mem_revokeWhere.mpr ⟨t, mem, rfl⟩))
      rwa [revokeIf_parentHash] at unnamed
    · intro unnamed
      have nonempty : drawnPlain ins ≠ "" := base64Url_ne_empty (by simp [Input.bytes])
      exact ⟨_, _, refresh, (rotatable.renewed nonempty completes.fresh unnamed).usable⟩
  | error e =>
    rw [result] at spec
    simp only [KeepsAToken, result, reduceCtorEq, false_imp_iff, implies_true, and_true, Except.error.injEq,
      forall_eq']
    rcases spec with ⟨early, same⟩ | ⟨late, incomplete, revoked⟩
    · rw [same]
      exact iff_of_true rotatable.usable (.inl early)
    · rw [revoked]
      refine iff_of_false (fun usable => rotatable.unrevoked usable.rotatable) ?_
      rintro (early | completes)
      · exact late early
      · exact incomplete completes.1

end

namespace Sample

/-- Alice's refresh token, of a store where nothing else has happened. -/
def storedToken : RefreshToken := rootRefreshToken deploy tenantA code "app" (plainToken 2) now

def refreshStore : Store := { store with refreshTokens := [storedToken] }

/-- Only the call `k` fails. -/
def failsAt (k n : Nat) : Input :=
  if n = k then { input 3 with fault := some (.repository "connection lost") } else input 3

lemma storedToken_rotatable :
    Rotatable deploy refreshStore tenantA (refreshRequest 2) (plainToken 2) storedToken alice now where
  client := ⟨rfl, publicClient tenantA "app", by decide +kernel, rfl, rfl⟩
  token := by decide +kernel
  row := by decide +kernel
  first := by decide +kernel
  valid := by decide +kernel
  found := by decide +kernel
  active := rfl

end Sample

open Sample in
/-- If the revocation fails, the presented token can be used again. -/
theorem refresh_keeps_a_token_iff_sample :
    KeepsAToken deploy refreshStore tenantA (refreshRequest 2) (plainToken 2) storedToken alice (failsAt 5) :=
  (refresh_keeps_a_token_iff storedToken_rotatable).mpr (.inl (.inr (.inr (.inr (.inr nofun)))))

open Sample in
set_option maxRecDepth 8000 in
/-- If the new refresh token cannot be stored, the request fails and the presented one is revoked. -/
theorem failed_refresh_loses_token :
    Rotatable deploy refreshStore tenantA (refreshRequest 2) (plainToken 2) storedToken alice now ∧
    ((exchangeRefreshToken deploy tenantA (refreshRequest 2)).run.run (exec deploy) (failsAt 11)
      refreshStore).1 = .error .internal ∧
    ¬ KeepsAToken deploy refreshStore tenantA (refreshRequest 2) (plainToken 2) storedToken alice
      (failsAt 11) := by
  have failed : ((exchangeRefreshToken deploy tenantA (refreshRequest 2)).run.run (exec deploy) (failsAt 11)
      refreshStore).1 = .error .internal := by decide +kernel
  have revoked : ∀ t ∈ ((exchangeRefreshToken deploy tenantA (refreshRequest 2)).run.run (exec deploy)
      (failsAt 11) refreshStore).2.refreshTokens, t.isValidAt now = false := by decide +kernel
  refine ⟨storedToken_rotatable, failed, fun keeps => ?_⟩
  have usable := (keeps.1 _ failed).rotatable
  have invalid := revoked _ (List.mem_of_find?_eq_some usable.row)
  rw [show storedToken.isValidAt now = true from usable.valid] at invalid
  cases invalid

end IdpMvp
