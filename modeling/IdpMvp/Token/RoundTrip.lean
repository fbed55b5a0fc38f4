import IdpMvp.Sample
import IdpMvp.Token.Inspecting

/-!
# Issued access tokens and their verifiers

`sign` takes the algorithm from the stored key. The two verifiers of access tokens, `verify_access_token`
of `userinfo.rs` and `introspect_access_token` of `introspection.rs`, load the public key as RSA and
admit RS256 only, though the key table admits ES256 keys and `decoding_key_from_jwk` handles them. So an
access token is accepted, as long as it should be, exactly when the key that signed it is an RSA key.
-/

namespace IdpMvp

open Program Program.Prog Program.Flow Prog

variable {D : Deploy} {s : Store} {tenantId : TenantId} {token : String}

/-! ## The scope claim -/

/-- Words that were split off before the end of a text are words of the text. -/
lemma mem_splitWhitespaceAux_append {w : String} {cs ds : List Char} :
    ∀ {cur : List Char}, w ∈ splitWhitespaceAux cur cs →
      w ∈ splitWhitespaceAux cur (cs ++ ' ' :: ds) := by
  have blank : isWhiteSpace ' ' = true := by decide
  induction cs with
  | nil =>
    intro cur mem
    simp only [splitWhitespaceAux] at mem
    simp only [List.nil_append, splitWhitespaceAux, blank, if_true]
    split at mem
    · cases mem
    · rename_i ne
      rw [if_neg ne]
      exact List.mem_cons.mpr (.inl (List.mem_singleton.mp mem))
  | cons c cs ih =>
    intro cur mem
    simp only [List.cons_append, splitWhitespaceAux] at mem ⊢
    split
    · rename_i white
      rw [if_pos white] at mem
      split
      · rename_i empty
        rw [if_pos empty] at mem
        exact ih mem
      · rename_i ne
        rw [if_neg ne, List.mem_cons] at mem
        exact List.mem_cons.mpr (mem.imp id ih)
    · rename_i black
      rw [if_neg black] at mem
      exact ih mem

/-- Words behind a blank are words of the text. -/
lemma mem_splitWhitespaceAux_behind {w : String} {cs ds : List Char}
    (mem : w ∈ splitWhitespaceAux [] ds) :
    ∀ {cur : List Char}, w ∈ splitWhitespaceAux cur (cs ++ ' ' :: ds) := by
  have blank : isWhiteSpace ' ' = true := by decide
  induction cs with
  | nil =>
    intro cur
    simp only [List.nil_append, splitWhitespaceAux, blank, if_true]
    split
    · exact mem
    · exact List.mem_cons_of_mem _ mem
  | cons c cs ih =>
    intro cur
    simp only [List.cons_append, splitWhitespaceAux]
    split
    · split
      · exact ih
      · exact List.mem_cons_of_mem _ ih
    · exact ih

/-- A word of the scope is found again in the scope claim. -/
lemma mem_splitWhitespace_joinScope {w : String} {scope : List String}
    (word : splitWhitespace w = [w]) (mem : w ∈ scope) :
    w ∈ splitWhitespace (joinScope scope) := by
  induction scope with
  | nil => cases mem
  | cons x scope ih =>
    cases scope with
    | nil =>
      obtain rfl := List.mem_singleton.mp mem
      simp [joinScope, word]
    | cons y scope =>
      have split : (joinScope (x :: y :: scope)).toList =
          x.toList ++ ' ' :: (joinScope (y :: scope)).toList := by
        simp [joinScope, String.intercalate_cons_cons]
      rw [splitWhitespace, split]
      obtain rfl | mem := List.mem_cons.mp mem
      · refine mem_splitWhitespaceAux_append ?_
        have alone : w ∈ splitWhitespace w := by simp [word]
        exact alone
      · exact mem_splitWhitespaceAux_behind (ih mem)

/-! ## A token that passes every check is accepted -/

/-- No statement fails, and it is not yet `exp`. -/
def Before (exp : Int) (ins : Nat → Input) : Prop :=
  ∀ n, (ins n).fault = none ∧ DateTime.timestamp (ins n).now < exp

lemma Before.shift {exp : Int} {ins : Nat → Input} (b : Before exp ins) (m : Nat) :
    Before exp (fun n => ins (n + m)) := fun n => b (n + m)

lemma isJtiRevoked_ok {jti : String} {exp : Int} {ins : Nat → Input} (before : Before exp ins)
    (unrevoked : ¬ JtiRevoked D s jti) :
    (isJtiRevoked jti).wp (exec D) ins s (fun r s' _ => r = .ok false ∧ s' = s) := by
  unfold isJtiRevoked
  split
  · exact ⟨rfl, rfl⟩
  · have none : (s.revokedAccessTokens.any fun r => D.coll r.jti = D.coll jti) = false := by
      simpa [JtiRevoked] using unrevoked
    simp [op, wp_db, (before 0).1, Stmt.exec, RevokedAccessTokenStmt.exec, none]

section
variable {claims : AccessTokenClaims} {ins : Nat → Input}

lemma verifyAccessToken_ok (checked : AccessChecked D s tenantId token claims)
    (unrevoked : ¬ JtiRevoked D s claims.jti) (before : Before claims.exp ins) :
    wpE (exec D) (verifyAccessToken D tenantId token) ins s (fun c s' _ => c = claims ∧ s' = s)
      (fun _ _ _ => False) := by
  obtain ⟨header, kid, key, dk, decoded, typ, hkid, row, loaded, verified⟩ := checked.verifies
  have time : ∀ n, DateTime.timestamp (ins n).now < claims.exp + D.clockSkewSecs :=
    fun n => by have := (before n).2; omega
  unfold verifyAccessToken
  refine wpE_orThrow_step decoded ?_
  refine wpE_ensure_step (by simp [typ]) ?_
  refine wpE_found_step hkid ?_
  refine wpE_db_step (before 0).1 rfl ?_
  refine wpE_found_step row ?_
  refine wpE_orThrow_step loaded ?_
  refine wpE_orThrow_step verified ?_
  refine wpE_ensure_step (by simp [checked.iss]) ?_
  refine wpE_ensure_step (by simp [checked.aud]) ?_
  refine wpE_clock_step ?_
  refine wpE_ensure_step (by simpa using time 1) ?_
  rw [wpE_bind, wpE_orLeave]
  refine wp_mono (isJtiRevoked_ok (before.shift 2) unrevoked) ?_
  rintro _ _ _ ⟨rfl, rfl⟩
  exact ⟨rfl, rfl⟩

lemma subjectIsActive_ok {sub : Uuid} {user : User} (uuid : UuidLaws D)
    (row : s.users.find? (·.sub = sub) = some user) (active : user.isActive)
    (quiet : (ins 0).fault = none) :
    (subjectIsActive D (D.uuidToString sub)).wp (exec D) ins s (fun r s' _ => r = true ∧ s' = s) := by
  unfold subjectIsActive
  rw [uuid.parse]
  simp [op, wp_db, quiet, Stmt.exec, UserStmt.exec, row, active]

/-- `/userinfo` answers to an access token with the scope `openid` of an active user. -/
lemma userinfo_ok (uuid : UuidLaws D) (checked : AccessChecked D s tenantId token claims)
    (unrevoked : ¬ JtiRevoked D s claims.jti) (before : Before claims.exp ins)
    (scope : Scope.openId.asStr ∈ splitWhitespace claims.scope) {sub : Uuid}
    (subject : claims.sub = D.uuidToString sub) {user : User}
    (row : s.users.find? (·.sub = sub) = some user) (active : user.isActive) :
    wpE (exec D) (userinfo D tenantId token) ins s (fun _ _ _ => True) (fun _ _ _ => False) := by
  unfold userinfo
  refine wpE_bind_of (wpE_mono (verifyAccessToken_ok checked unrevoked before) (fun _ _ _ h => h)
    fun _ _ _ h => h.elim) ?_
  rintro _ _ tr ⟨rfl, rfl⟩
  refine wpE_ensure_step (by simpa using scope) ?_
  refine wpE_found_step (subject ▸ uuid.parse sub) ?_
  refine wpE_db_step (before _).1 rfl ?_
  refine wpE_found_step row ?_
  exact wpE_ensure_step active trivial

lemma introspectAccessToken_ok (uuid : UuidLaws D)
    (checked : AccessChecked D s tenantId token claims) (unrevoked : ¬ JtiRevoked D s claims.jti)
    (before : Before claims.exp ins) {sub : Uuid} (subject : claims.sub = D.uuidToString sub)
    {user : User} (row : s.users.find? (·.sub = sub) = some user) (active : user.isActive) :
    (introspectAccessToken D token (D.tenantIssuer tenantId)).wp (exec D) ins s
      (fun resp _ _ => resp.active = true) := by
  obtain ⟨header, kid, key, dk, decoded, typ, hkid, found, loaded, verified⟩ := checked.verifies
  have time : ∀ n, DateTime.timestamp (ins n).now < claims.exp + D.clockSkewSecs :=
    fun n => by have := (before n).2; omega
  unfold introspectAccessToken
  rw [wp_outcome]
  refine wpE_orThrow_step decoded ?_
  refine wpE_ensure_step (by simp [typ]) ?_
  refine wpE_found_step hkid ?_
  refine wpE_db_step (before 0).1 rfl ?_
  refine wpE_found_step found ?_
  refine wpE_orThrow_step loaded ?_
  refine wpE_orThrow_step verified ?_
  refine wpE_ensure_step (by simp [checked.iss, checked.aud]) ?_
  refine wpE_clock_step ?_
  refine wpE_ensure_step (by simpa using time 1) ?_
  rw [wpE_bind, wpE_orLeave]
  refine wp_mono (isJtiRevoked_ok (before.shift 2) unrevoked) ?_
  rintro _ _ tr ⟨rfl, rfl⟩
  refine wpE_ensure_step rfl ?_
  rw [wpE_bind, wpE_lift, subject]
  refine wp_mono (subjectIsActive_ok uuid row active (before _).1) ?_
  rintro _ _ _ ⟨rfl, rfl⟩
  exact wpE_ensure_step rfl rfl

/-- Introspection reports such a token active to every client that authenticates, whatever the hint. -/
lemma introspect_ok (uuid : UuidLaws D) (checked : AccessChecked D s tenantId token claims)
    (unrevoked : ¬ JtiRevoked D s claims.jti) (before : Before claims.exp ins) {sub : Uuid}
    (subject : claims.sub = D.uuidToString sub) {user : User}
    (row : s.users.find? (·.sub = sub) = some user) (active : user.isActive) (nonempty : token ≠ "")
    {hint : Option String} {clientId : String} {basic : Option (String × String)} {client : Client}
    (authenticated : ((authenticateConfidentialClient D tenantId clientId basic).run.run
      (exec D) ins s).1 = .ok client) :
    wpE (exec D) (introspect D tenantId token hint clientId basic) ins s
      (fun resp _ _ => resp.active = true) (fun _ _ _ => False) := by
  have access : ∀ m, (introspectAccessToken D token (D.tenantIssuer tenantId)).wp (exec D)
      (fun n => ins (n + m)) s (fun resp _ _ => resp.active = true) := fun m =>
    introspectAccessToken_ok uuid checked unrevoked (before.shift m) subject row active
  have start : wpE (exec D) (authenticateConfidentialClient D tenantId clientId basic) ins s
      (fun _ s' _ => s' = s) (fun _ _ _ => False) := by
    rw [wpE, wp_iff_run, authenticated]
    exact authenticateConfidentialClient_always.run_ok authenticated
  unfold introspect
  rw [if_neg nonempty]
  refine wpE_bind_of start ?_
  rintro _ _ tr rfl
  dsimp only
  split
  · rw [wpE_bind, wpE_lift]
    refine wp_mono introspectRefreshToken_always.wp ?_
    rintro resp _ tr' ⟨rfl, -⟩
    split
    · assumption
    · rw [wpE_lift]
      have := access (tr'.length + tr.length)
      simpa only [Nat.add_assoc] using this
  · rw [wpE_bind, wpE_lift]
    refine wp_mono (access _) ?_
    intro resp _ _ h
    rw [if_pos h]
    exact h

end

/-! ## Issued tokens -/

/-- The scope of the grant a token request presents, as it is stored. -/
def presentedScope (D : Deploy) (s : Store) (tenantId : TenantId) (cmd : TokenCommand) :
    Option (List String) :=
  if cmd.grantType = some "authorization_code" then
    (nonEmpty cmd.code).bind fun plain =>
      (s.codes.find? (·.codeHash = D.sha256Hex plain)).map (·.scope)
  else
    (nonEmpty cmd.refreshToken).bind fun plain =>
      (s.refreshTokens.find? fun t => t.tokenHash = D.sha256Hex plain ∧ t.tenantId = tenantId).map
        (·.scope)

/-- An access token as it was issued: the user and the key it was signed with, and its claims. -/
structure IssuedAccessToken (D : Deploy) (s : Store) (tenantId : TenantId) (scope : List String)
    (token : String) (user : User) (key : SigningKey) (claims : AccessTokenClaims) : Prop where
  known : user ∈ s.users
  form : ∃ clientId iat jti,
    claims = accessTokenClaims D tenantId user clientId scope iat (D.uuidToString jti)
  signed : SignedBy D s.signingKeys "at+jwt" (.accessToken claims) token key

/-- The row of a redeemed code before it was marked used. -/
lemma Redeemed.stored {cmd : TokenCommand} {plain verifier : String} {code : AuthorizationCode}
    {user : User} {now : DateTime} (r : Redeemed D s tenantId cmd plain verifier code user now) :
    ∃ c, s.codes.find? (·.codeHash = D.sha256Hex plain) = some c ∧ c.scope = code.scope ∧
      c.userId = code.userId := by
  have row := r.row
  rw [Store.consumeCodes, List.find?_map, Option.map_eq_some_iff] at row
  obtain ⟨c, found, rfl⟩ := row
  have same : s.codes.find? (·.codeHash = D.sha256Hex plain) = some c := by
    rw [← found]
    congr 1
    funext c
    simp only [Function.comp_apply]
    split <;> rfl
  refine ⟨c, same, ?_⟩
  split <;> exact ⟨rfl, rfl⟩

/-- Every access token the token endpoint returns was issued for the scope of the grant. -/
lemma exchange_access {cmd : TokenCommand} {ins : Nat → Input} {tokens : IssuedTokens}
    (ok : ((exchange D tenantId cmd).run (exec D) ins s).1 = .ok tokens) :
    ∃ scope, presentedScope D s tenantId cmd = some scope ∧ ∃ user key claims,
      IssuedAccessToken D s tenantId scope tokens.accessToken user key claims := by
  unfold exchange at ok
  split at ok
  · rename_i grant
    obtain ⟨plain, verifier, code, user, now, granted⟩ := exchangeCode_always.run_ok ok
    obtain ⟨jti, key, signed⟩ := granted.signed.access
    refine ⟨code.scope, ?_, user, key, _, List.mem_of_find?_eq_some granted.found, ⟨_, _, _, rfl⟩,
      signed⟩
    obtain ⟨c, row, scope, -⟩ := granted.toRedeemed.stored
    rw [presentedScope, if_pos grant, granted.presented, Option.bind_some, row, Option.map_some, scope]
  · rename_i notCode
    split at ok
    · obtain ⟨plain, newPlain, stored, user, now, rotated⟩ := exchangeRefreshToken_always.run_ok ok
      obtain ⟨jti, key, signed⟩ := rotated.signed.access
      refine ⟨stored.scope, ?_, user, key, _, List.mem_of_find?_eq_some rotated.found,
        ⟨_, _, _, rfl⟩, signed⟩
      rw [presentedScope, if_neg notCode, rotated.token, Option.bind_some, rotated.row]
      rfl
    · cases ok

/-- In the store `s` the token should still be accepted: its key is published, its user active and its
`jti` not revoked. -/
structure Standing (D : Deploy) (s : Store) (user : User) (key : SigningKey)
    (claims : AccessTokenClaims) : Prop where
  published : ∃ row, s.signingKeys.find? (fun k => D.coll k.kid = D.coll key.kid) = some row ∧
    row.publicKey = key.publicKey
  active : ∃ u, s.users.find? (·.sub = user.sub) = some u ∧ u.isActive
  unrevoked : ¬ JtiRevoked D s claims.jti

/-- `/userinfo` answers to the token, and introspection reports it active to every client that
authenticates. -/
structure Accepted (D : Deploy) (s : Store) (ins : Nat → Input) (tenantId : TenantId)
    (token : String) : Prop where
  userinfo : ∃ info, ((userinfo D tenantId token).run.run (exec D) ins s).1 = .ok info
  introspection : ∀ hint clientId basic client,
    ((authenticateConfidentialClient D tenantId clientId basic).run.run (exec D) ins s).1 =
      .ok client →
    ∃ resp, ((introspect D tenantId token hint clientId basic).run.run (exec D) ins s).1 = .ok resp ∧
      resp.active = true

/-- Every access token issued for a scope with `openid` is accepted by both verifiers, in every store
and at every time before `exp` in which it should be, exactly when it was signed with an RSA key. -/
theorem issued_token_accepted_iff {pairs : EncodingKey → DecodingKey → Prop} (jwt : JwtLaws D pairs)
    (uuid : UuidLaws D)
    (matched : ∀ key ∈ s.signingKeys, key.Matched D pairs) {cmd : TokenCommand}
    {ins : Nat → Input} {tokens : IssuedTokens} {scope : List String}
    (ok : ((exchange D tenantId cmd).run (exec D) ins s).1 = .ok tokens)
    (presented : presentedScope D s tenantId cmd = some scope) (openid : Scope.openId.asStr ∈ scope) :
    ∃ user key claims, IssuedAccessToken D s tenantId scope tokens.accessToken user key claims ∧
      ∀ s' ins', Standing D s' user key claims → Before claims.exp ins' →
        (Accepted D s' ins' tenantId tokens.accessToken ↔ key.algorithm = "RS256") := by
  obtain ⟨scope', presented', user, key, claims, issued⟩ := exchange_access ok
  obtain rfl : scope = scope' := by simpa [presented] using presented'
  refine ⟨user, key, claims, issued, fun s' ins' standing before => ?_⟩
  constructor
  · intro accepted
    obtain ⟨info, answered⟩ := accepted.userinfo
    obtain ⟨-, c, checked, -⟩ := userinfo_always.run_ok answered
    exact (issued.signed.of_verifies jwt checked.verifies).1
  · intro rs
    obtain ⟨row, found, same⟩ := standing.published
    obtain ⟨u, foundUser, active⟩ := standing.active
    obtain ⟨clientId, iat, jti, rfl⟩ := issued.form
    have checked : AccessChecked D s' tenantId tokens.accessToken
        (accessTokenClaims D tenantId user clientId scope iat (D.uuidToString jti)) :=
      ⟨issued.signed.verifies jwt rs (matched key issued.signed.mem) found same, rfl, rfl,
        .inr standing.unrevoked⟩
    constructor
    · have answers := userinfo_ok uuid checked standing.unrevoked before
        (mem_splitWhitespace_joinScope (by decide +kernel) openid) rfl foundUser active
      obtain ⟨info, answered, -⟩ := answers.returns
      exact ⟨info, answered⟩
    · intro hint clientId' basic client authenticated
      exact (introspect_ok uuid checked standing.unrevoked before rfl foundUser active
        (issued.signed.ne_empty jwt) authenticated).returns

namespace Sample

/-- The sample store with the elliptic curve key in place of the RSA key. -/
def ecStore : Store := { store with signingKeys := [ecKey] }

def ecTokens : IssuedTokens where
  accessToken := ecAccessToken
  idToken := "jwt-es.code.ec"
  expiresIn := 900
  scope := "openid offline_access"
  refreshToken := some (plainToken 2)

/-- The answer to the sample request under the RSA key. -/
def rsaTokens : IssuedTokens :=
  { ecTokens with accessToken := rsaAccessToken, idToken := "jwt-rs.code.rsa" }

set_option maxRecDepth 4000 in
lemma rsaTokens_issued :
    ((exchange deploy tenantA codeRequest).run (exec deploy) (fun _ => input 2) store).1 =
      .ok rsaTokens := by
  decide +kernel

/-- The store after the code was redeemed. -/
def afterEcCode : Store :=
  ((exchange deploy tenantA codeRequest).run (exec deploy) (fun _ => input 2) ecStore).2

set_option maxRecDepth 4000 in
/-- The grant under the EC key and the request for `/userinfo`, run. -/
lemma ecGrant_run :
    ((exchange deploy tenantA codeRequest).run (exec deploy) (fun _ => input 2) ecStore).1 =
        .ok ecTokens ∧
      ((userinfo deploy tenantA ecAccessToken).run.run (exec deploy) (fun _ => input 2) afterEcCode).1 =
        .error (.internal "build decoding key from PEM: InvalidKeyFormat") ∧
      afterEcCode.signingKeys.find? (fun k => deploy.coll k.kid = deploy.coll ecKey.kid) = some ecKey ∧
      afterEcCode.users.find? (·.sub = alice.sub) = some alice ∧
      afterEcCode.revokedAccessTokens = [] := by
  decide +kernel

lemma before_exp (b : UInt8) : Before accessClaims.exp (fun _ => input b) :=
  fun _ => ⟨rfl, (by decide : DateTime.timestamp now < accessClaims.exp)⟩

lemma rsaKey_matched : ∀ key ∈ store.signingKeys, key.Matched deploy keyPairs := by
  intro key mem bytes pem k _ _ load
  obtain rfl : key = rsaKey := List.mem_singleton.mp mem
  refine ⟨⟨"rsa"⟩, by decide +kernel, ?_⟩
  simp only [deploy] at load
  split at load
  · obtain rfl := Except.ok.inj load
    rfl
  · cases load

/-- Every access token of the sample has the sample's claims. -/
lemma claims_of_signed {keys : List SigningKey} {claims : AccessTokenClaims} {token : String}
    {key : SigningKey} (signed : SignedBy deploy keys "at+jwt" (.accessToken claims) token key) :
    claims = accessClaims := by
  obtain ⟨pem, -, e⟩ := signed
  obtain ⟨alg, k, encoded, -⟩ := sign_ok e
  have mem := (jwtEncode_ok encoded).1
  simp only [jwtTable, List.mem_cons, Prod.mk.injEq, JwtClaims.accessToken.injEq, reduceCtorEq,
    false_and, and_false, or_false, List.not_mem_nil] at mem
  obtain ⟨⟨-, rfl, -⟩, -⟩ | ⟨⟨-, rfl, -⟩, -⟩ := mem <;> rfl

end Sample

open Sample in
set_option maxRecDepth 4000 in
/-- Under an ES256 key the token endpoint issues an access token, and `/userinfo` fails on it at once. -/
theorem es256_token_refused :
    ((exchange deploy tenantA codeRequest).run (exec deploy) (fun _ => input 2) ecStore).1 =
      .ok ecTokens ∧
    IssuedAccessToken deploy ecStore tenantA ["openid", "offline_access"] ecAccessToken alice ecKey
      accessClaims ∧
    Standing deploy afterEcCode alice ecKey accessClaims ∧
    Before accessClaims.exp (fun _ => input 2) ∧
    ((userinfo deploy tenantA ecAccessToken).run.run (exec deploy) (fun _ => input 2) afterEcCode).1 =
      .error (.internal "build decoding key from PEM: InvalidKeyFormat") ∧
    ¬ Accepted deploy afterEcCode (fun _ => input 2) tenantA ecAccessToken := by
  obtain ⟨issued, refused, key, user, none⟩ := ecGrant_run
  refine ⟨issued, ?_, ?_, before_exp 2, refused, ?_⟩
  · refine ⟨by decide +kernel, ⟨"app", 1700000000, tokenJti, by decide +kernel⟩, "EC", ⟨⟨now, rfl⟩, ?_⟩, ?_⟩
    · exact ⟨[69, 67], by decide +kernel, by decide +kernel⟩
    · decide +kernel
  · refine ⟨⟨ecKey, key, rfl⟩, ⟨alice, user, rfl⟩, ?_⟩
    rintro ⟨r, mem, -⟩
    rw [none] at mem
    cases mem
  · intro accepted
    obtain ⟨info, answered⟩ := accepted.userinfo
    rw [refused] at answered
    cases answered

open Sample in
set_option maxRecDepth 4000 in
/-- Under the RSA key the token of the sample code is accepted. -/
theorem issued_token_accepted_iff_sample :
    Accepted deploy store (fun _ => input 0) tenantA rsaAccessToken := by
  have presented : presentedScope deploy store tenantA codeRequest =
      some ["openid", "offline_access"] := by
    decide +kernel
  obtain ⟨user, key, claims, issued, iff⟩ :=
    issued_token_accepted_iff jwtLaws uuidLaws rsaKey_matched rsaTokens_issued presented (by decide)
  obtain rfl : key = rsaKey := List.mem_singleton.mp issued.signed.mem
  obtain rfl := claims_of_signed issued.signed
  refine (iff store _ ⟨⟨rsaKey, by decide +kernel, rfl⟩, ?_, ?_⟩ (before_exp 0)).mpr rfl
  · have known : user ∈ [alice, admin] := issued.known
    simp only [List.mem_cons, List.not_mem_nil, or_false] at known
    obtain rfl | rfl := known
    · exact ⟨alice, by decide +kernel, rfl⟩
    · exact ⟨admin, by decide +kernel, rfl⟩
  · rintro ⟨r, mem, -⟩
    cases mem

end IdpMvp
