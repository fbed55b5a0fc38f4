import IdpMvp.Token.Rotation
import IdpMvp.Token.Verdicts

/-!
# Whom tokens speak of

The tokens of one grant name a user in two ways: ID and access tokens carry the public `sub`, the row of
a refresh token the internal id. Introspection answers with what it finds, so its two answers name the
same subject only if the two are one. Along a refresh chain the row carries the id from which `sub` is
read again at every rotation, but no authentication time.
-/

namespace IdpMvp

open Program Program.Prog Program.Flow Prog

variable {D : Deploy} {s : Store} {tenantId : TenantId} {cmd : TokenCommand} {tokens : IssuedTokens}

/-! ## The tokens of a grant -/

/-- The user of the grant a token request presents. -/
def presentedUser (D : Deploy) (s : Store) (tenantId : TenantId) (cmd : TokenCommand) : Option User :=
  (if cmd.grantType = some "authorization_code" then
    (nonEmpty cmd.code).bind fun plain =>
      (s.codes.find? (·.codeHash = D.sha256Hex plain)).map (·.userId)
  else
    (nonEmpty cmd.refreshToken).bind fun plain =>
      (s.refreshTokens.find? fun t => t.tokenHash = D.sha256Hex plain ∧ t.tenantId = tenantId).map
        (·.userId)).bind fun userId => s.users.find? (·.id = userId)

/-- The tokens of an exchange are for the user and what was granted; so is the row of the refresh
token. -/
structure IssuedFor (D : Deploy) (s : Store) (tenantId : TenantId) (cmd : TokenCommand)
    (tokens : IssuedTokens) (s' : Store) (user : User) (grant : RefreshGrant) : Prop where
  presented : presentedUser D s tenantId cmd = some user
  mem : user ∈ s.users
  owner : grant.userId = user.id
  tenant : grant.tenantId = tenantId
  signed : ∃ iat authTime nonce, TokensOk D s.signingKeys tenantId user grant.clientId grant.scope iat
    authTime nonce tokens.idToken tokens.accessToken ∧
      (cmd.grantType = some "refresh_token" → authTime = iat)
  row : ∀ plain, tokens.refreshToken = some plain →
    ∀ r ∈ s'.refreshTokens, r.tokenHash = D.sha256Hex plain → r.grant = grant

lemma Granted.issuedFor {plain verifier : String} {code : AuthorizationCode} {user : User}
    {now : DateTime} {s' : Store} (granted : Granted D s tenantId cmd plain verifier code user now tokens s')
    (grant : cmd.grantType = some "authorization_code") :
    IssuedFor D s tenantId cmd tokens s' user
      ⟨tenantId, code.clientId, code.userId, code.scope, now + D.refreshTokenTtl⟩ where
  presented := by
    obtain ⟨c, row, -, userId⟩ := granted.toRedeemed.stored
    simp only [presentedUser, if_pos grant, granted.presented, Option.bind_some, row, Option.map_some,
      userId, granted.found]
  mem := List.mem_of_find?_eq_some granted.found
  owner := by
    have named := List.find?_some granted.found
    exact (of_decide_eq_true named).symm
  tenant := rfl
  signed := by
    refine ⟨_, _, _, granted.signed, fun refresh => ?_⟩
    rw [grant] at refresh
    exact absurd refresh (by decide)
  row := by
    intro plain given r mem hash
    obtain ⟨none, -⟩ | ⟨newPlain, new, fresh, rfl⟩ := granted.store
    · cases none.symm.trans given
    · obtain rfl := Option.some.inj (new.symm.trans given)
      rw [Store.addRefreshToken, List.mem_append, List.mem_singleton] at mem
      obtain mem | rfl := mem
      · exact absurd hash (fresh r mem)
      · rfl

lemma Rotated.issuedFor {plain newPlain : String} {stored : RefreshToken} {user : User}
    {now : DateTime} {s' : Store}
    (rotated : Rotated D s tenantId cmd plain newPlain stored user now tokens s')
    (grant : cmd.grantType = some "refresh_token") :
    IssuedFor D s tenantId cmd tokens s' user stored.grant where
  presented := by
    have notCode : ¬ cmd.grantType = some "authorization_code" := by
      rw [grant]
      decide
    simp only [presentedUser, if_neg notCode, rotated.token, Option.bind_some, rotated.row,
      Option.map_some, rotated.found]
  mem := List.mem_of_find?_eq_some rotated.found
  owner := by
    have named := List.find?_some rotated.found
    exact (of_decide_eq_true named).symm
  tenant := by
    have row := List.find?_some rotated.row
    simp only [decide_eq_true_eq] at row
    exact row.2
  signed := ⟨_, _, _, rotated.signed, fun _ => rfl⟩
  row := by
    intro plain' given r mem hash
    obtain rfl := Option.some.inj (rotated.refresh.symm.trans given)
    rw [rotated.store, Store.addRefreshToken, List.mem_append, List.mem_singleton] at mem
    obtain mem | rfl := mem
    · obtain ⟨t, row, rfl⟩ := mem_revokeWhere.mp mem
      rw [revokeIf_tokenHash] at hash
      exact absurd hash (rotated.fresh t row)
    · have row := List.find?_some rotated.row
      simp only [decide_eq_true_eq] at row
      rw [← row.2]
      rfl

/-- Every exchange issues its tokens for a user of the store. -/
lemma exchange_issuedFor {ins : Nat → Input}
    (ok : ((exchange D tenantId cmd).run (exec D) ins s).1 = .ok tokens) :
    ∃ user grant, IssuedFor D s tenantId cmd tokens ((exchange D tenantId cmd).run (exec D) ins s).2 user
      grant := by
  unfold exchange at ok ⊢
  split at ok
  · rename_i grant
    obtain ⟨plain, verifier, code, user, now, granted⟩ := exchangeCode_always.run_ok ok
    rw [if_pos grant]
    exact ⟨user, _, granted.issuedFor grant⟩
  · rename_i notCode
    split at ok
    · rename_i grant
      obtain ⟨plain, newPlain, stored, user, now, rotated⟩ := exchangeRefreshToken_always.run_ok ok
      rw [if_neg notCode, if_pos grant]
      exact ⟨user, _, rotated.issuedFor grant⟩
    · cases ok

/-- What a refresh token grants does not change. -/
lemma refreshGrant_later {hash : String} {grant : RefreshGrant} {s' : Store}
    (row : ∀ r ∈ s.refreshTokens, r.tokenHash = hash → r.grant = grant)
    (later : Reaches (exec D) (NotCreating hash) s s') :
    ∀ r ∈ s'.refreshTokens, r.tokenHash = hash → r.grant = grant := by
  refine later.invariant (I := fun s => ∀ r ∈ s.refreshTokens, r.tokenHash = hash → r.grant = grant) row ?_
  intro op other i s row r mem named
  have w := exec_refreshTokens (D := D) op i s
  generalize (exec D op i s).2.refreshTokens = rows at w mem
  cases w with
  | keep => exact row r mem named
  | create t eq _ =>
    rcases List.mem_append.mp mem with mem | mem
    · exact row r mem named
    · obtain rfl := List.mem_singleton.mp mem
      exact absurd named (other r eq)
  | revoke p now =>
    obtain ⟨t, old, rfl⟩ := mem_revokeWhere.mp mem
    rw [revokeIf_tokenHash] at named
    rw [revokeIf_grant]
    exact row t old named
  | delete userId => exact row r (List.mem_filter.mp mem).1 named

/-! ## Introspection -/

/-- Some client's introspection reports the token active, with this answer. -/
def ReportsActive (D : Deploy) (s : Store) (token : String) (resp : IntrospectionResponse) : Prop :=
  ∃ tenantId hint clientId basic ins,
    ((introspect D tenantId token hint clientId basic).run.run (exec D) ins s).1 = .ok resp ∧
      resp.active = true

/-- The two answers are about one grant, and about the user of the ID token and of `/userinfo`. -/
structure SpeakOfOne (D : Deploy) (keys : List SigningKey) (s : Store) (tokens : IssuedTokens)
    (access refresh : IntrospectionResponse) : Prop where
  sub : access.sub = refresh.sub
  clientId : access.clientId = refresh.clientId
  iss : access.iss = refresh.iss
  scope : access.scope = refresh.scope
  idToken : ∃ claims key, SignedBy D keys "JWT" (.idToken claims) tokens.idToken key ∧
    access.sub = some claims.sub
  userinfo : ∀ tenantId ins info,
    ((userinfo D tenantId tokens.accessToken).run.run (exec D) ins s).1 = .ok info →
      access.sub = some info.sub

section
variable {pairs : EncodingKey → DecodingKey → Prop} {token : String} {resp : IntrospectionResponse}

/-- Active texts without a dot are refresh tokens. -/
lemma ReportsActive.refresh (jwt : JwtLaws D pairs) (dot : '.' ∉ token.toList)
    (active : ReportsActive D s token resp) : ∃ rt ∈ s.refreshTokens,
      rt.tokenHash = D.sha256Hex token ∧ resp = rt.response D (D.tenantIssuer rt.tenantId) := by
  obtain ⟨tenantId, hint, clientId, basic, ins, ok, active⟩ := active
  obtain ⟨-, reported⟩ := introspect_reported.run_ok ok
  cases reported active with
  | access claims checked =>
    obtain ⟨header, -, -, -, decoded, -⟩ := checked.verifies
    exact absurd (jwt.dotted decoded) dot
  | refresh rt mem hash tenant live => exact ⟨rt, mem, hash, by rw [tenant]⟩

/-- Active texts that hash to no stored refresh token are access tokens. -/
lemma ReportsActive.access (apart : ∀ r ∈ s.refreshTokens, r.tokenHash ≠ D.sha256Hex token)
    (active : ReportsActive D s token resp) :
    ∃ tenantId claims, AccessChecked D s tenantId token claims ∧ resp = claims.response := by
  obtain ⟨tenantId, hint, clientId, basic, ins, ok, active⟩ := active
  obtain ⟨-, reported⟩ := introspect_reported.run_ok ok
  cases reported active with
  | access claims checked => exact ⟨tenantId, claims, checked, rfl⟩
  | refresh rt mem hash => exact absurd hash (apart rt mem)

/-- For every grant with a refresh token, whatever happens later: while both are active, introspection
speaks of one grant and one user for the two tokens exactly if the public subject of the user is its
internal id. -/
theorem introspection_speaks_of_one_iff (jwt : JwtLaws D pairs) (uuid : UuidLaws D) {ins : Nat → Input}
    (ok : ((exchange D tenantId cmd).run (exec D) ins s).1 = .ok tokens) {plain : String}
    (given : tokens.refreshToken = some plain) :
    ∃ user, presentedUser D s tenantId cmd = some user ∧ ∀ s',
      Reaches (exec D) (NotCreating (D.sha256Hex plain))
        ((exchange D tenantId cmd).run (exec D) ins s).2 s' →
      (∀ r ∈ s'.refreshTokens, r.tokenHash ≠ D.sha256Hex tokens.accessToken) →
      ∀ access refresh, ReportsActive D s' tokens.accessToken access → ReportsActive D s' plain refresh →
        (SpeakOfOne D s.signingKeys s' tokens access refresh ↔ user.sub = user.id) := by
  obtain ⟨user, grant, issued⟩ := exchange_issuedFor ok
  refine ⟨user, issued.presented, fun s' later apart access refresh activeAccess activeRefresh => ?_⟩
  obtain ⟨iat, authTime, nonce, signed, -⟩ := issued.signed
  obtain ⟨jti, key, signedAccess⟩ := signed.access
  obtain ⟨idJti, idKey, signedId⟩ := signed.id
  obtain ⟨t, claims, checked, rfl⟩ := activeAccess.access apart
  obtain ⟨-, rfl⟩ := signedAccess.of_verifies jwt checked.verifies
  obtain ⟨rt, mem, hash, rfl⟩ := activeRefresh.refresh jwt (refreshToken_drawn ok given).1
  obtain rfl : rt.grant = grant := refreshGrant_later (issued.row plain given) later rt mem hash
  have owner : rt.userId = user.id := issued.owner
  have tenant : rt.tenantId = tenantId := issued.tenant
  constructor
  · intro one
    have same : D.uuidToString user.sub = D.uuidToString rt.userId := Option.some.inj one.sub
    exact (uuid.injective same).trans owner
  · intro same
    refine ⟨?_, rfl, ?_, rfl, ⟨_, idKey, signedId, rfl⟩, ?_⟩
    · exact congrArg (fun u => some (D.uuidToString u)) (same.trans owner.symm)
    · exact congrArg (fun t => some (D.tenantIssuer t)) tenant.symm
    · intro t ins info answered
      obtain ⟨-, c, checked, sub, parsed, named⟩ := userinfo_always.run_ok answered
      obtain ⟨-, rfl⟩ := signedAccess.of_verifies jwt checked.verifies
      have parses : D.parseUuid (D.uuidToString user.sub) = some sub := parsed
      obtain rfl := Option.some.inj ((uuid.parse user.sub).symm.trans parses)
      exact congrArg some named.symm

end

namespace Sample

/-- The sample store with the resource server registered. -/
def servedStore : Store := { store with clients := resourceServer :: store.clients }

/-- The store after the sample grant. -/
def servedGrant : Store :=
  ((exchange deploy tenantA codeRequest).run (exec deploy) (fun _ => input 2) servedStore).2

/-- What the resource server is told of a token. -/
def inspected (token : String) : Except IntrospectionError IntrospectionResponse :=
  ((introspect deploy tenantA token none "api" (some ("api", "admin@example.com"))).run.run
    (exec deploy) (fun _ => input 0) servedGrant).1

/-- The answers for the two tokens of the sample grant. -/
def accessAnswer : IntrospectionResponse := accessClaims.response

def refreshAnswer : IntrospectionResponse where
  active := true
  scope := accessAnswer.scope
  clientId := accessAnswer.clientId
  username := none
  tokenType := some "refresh_token"
  exp := some 1702592000
  iat := none
  sub := some "018bcfe5-6800-7000-8000-0000000000a1"
  iss := accessAnswer.iss
  jti := none

set_option maxRecDepth 4000 in
/-- The grant and the two questions, run. -/
lemma servedGrant_run :
    ((exchange deploy tenantA codeRequest).run (exec deploy) (fun _ => input 2) servedStore).1 =
        .ok rsaTokens ∧
      inspected rsaAccessToken = .ok accessAnswer ∧ inspected (plainToken 2) = .ok refreshAnswer ∧
      accessAnswer.sub = some (deploy.uuidToString alice.sub) ∧
      refreshAnswer.sub = some (deploy.uuidToString alice.id) ∧
      presentedUser deploy servedStore tenantA codeRequest = some alice ∧
      ∀ r ∈ servedGrant.refreshTokens, r.tokenHash ≠ deploy.sha256Hex rsaTokens.accessToken := by
  decide +kernel

lemma accessAnswer_sub_ne : accessAnswer.sub ≠ refreshAnswer.sub := by decide +kernel

lemma inspected_active {token : String} {resp : IntrospectionResponse}
    (told : inspected token = .ok resp) (active : resp.active = true) :
    ReportsActive deploy servedGrant token resp :=
  ⟨tenantA, none, "api", some ("api", "admin@example.com"), fun _ => input 0, told, active⟩

end Sample

open Sample in
/-- The resource server is told two subjects for the two tokens of one grant: the `sub` of the user for
the access token, the internal id for the refresh token. -/
theorem refresh_token_reports_internal_id :
    ((exchange deploy tenantA codeRequest).run (exec deploy) (fun _ => input 2) servedStore).1 =
      .ok rsaTokens ∧
    inspected rsaTokens.accessToken = .ok accessAnswer ∧ accessAnswer.active = true ∧
    inspected (plainToken 2) = .ok refreshAnswer ∧ refreshAnswer.active = true ∧
    accessAnswer.sub = some (deploy.uuidToString alice.sub) ∧
    refreshAnswer.sub = some (deploy.uuidToString alice.id) ∧
    ¬ SpeakOfOne deploy servedStore.signingKeys servedGrant rsaTokens accessAnswer refreshAnswer := by
  obtain ⟨issued, access, refresh, sub, id, -⟩ := servedGrant_run
  exact ⟨issued, access, rfl, refresh, rfl, sub, id, fun one => accessAnswer_sub_ne one.sub⟩

open Sample in
set_option maxRecDepth 4000 in
/-- So it is for alice, whose `sub` is not her id. -/
theorem introspection_speaks_of_one_iff_sample :
    ¬ SpeakOfOne deploy servedStore.signingKeys servedGrant rsaTokens accessAnswer refreshAnswer := by
  have given : rsaTokens.refreshToken = some (plainToken 2) := rfl
  obtain ⟨issued, access, refresh, -, -, known, apart⟩ := servedGrant_run
  obtain ⟨user, presented, iff⟩ := introspection_speaks_of_one_iff jwtLaws uuidLaws issued given
  obtain rfl := Option.some.inj (known.symm.trans presented)
  rw [iff servedGrant .refl apart accessAnswer refreshAnswer (inspected_active access rfl)
    (inspected_active refresh rfl)]
  decide

/-! ## Along a chain -/

/-- An id stands for one subject. -/
def SubjectOf (subOf : Uuid → Uuid) (s : Store) : Prop := ∀ u ∈ s.users, u.sub = subOf u.id

/-- Whoever is enrolled gets the subject of the id. -/
def Enrols (subOf : Uuid → Uuid) (op : Op) : Prop :=
  ∀ u, op = .db (.users (.create u)) → u.sub = subOf u.id

section
variable {subOf : Uuid → Uuid}

lemma SubjectOf.step (inv : SubjectOf subOf s) {op : Op} (enrols : Enrols subOf op) (i : Input) :
    SubjectOf subOf (exec D op i s).2 := by
  intro u mem
  obtain ⟨r, row, id, sub⟩ | new := exec_users_mem mem
  · rw [← id, ← sub]
    exact inv r row
  · exact enrols u new

lemma SubjectOf.later (inv : SubjectOf subOf s) {s' : Store}
    (later : Reaches (exec D) (Enrols subOf) s s') : SubjectOf subOf s' :=
  later.invariant inv fun _ enrols i _ inv => inv.step enrols i

/-- The operation enrols no user. -/
def NotEnrolling (op : Op) : Prop := ∀ u, op ≠ .db (.users (.create u))

def Op.enrols : Op → Bool
  | .db (.users (.create _)) => true
  | _ => false

lemma notEnrolling_of {op : Op} (other : op.enrols = false) : NotEnrolling op := by
  rintro u rfl
  cases other

lemma SubjectOf.keeps {ε α : Type} {p : ServiceFlow ε α} (uses : p.run.Uses NotEnrolling)
    (inv : SubjectOf subOf s) (ins : Nat → Input) : SubjectOf subOf (p.run.run (exec D) ins s).2 := by
  have kept : alwaysE (exec D) p s (fun _ s' => SubjectOf subOf s') (fun _ s' => SubjectOf subOf s') :=
    uses_alwaysE uses (fun _ other i _ inv => inv.step (fun u eq => absurd eq (other u)) i) inv
  exact kept.run_state ins

lemma findHomeUser_notEnrolling {target : Uuid} :
    (findHomeUser tenantId target).run.Uses NotEnrolling :=
  uses_bind (uses_orLeave (uses_op (notEnrolling_of rfl)) _) fun _ => uses_found _ _

lemma revokeCredentials_notEnrolling {userId : Uuid} :
    (revokeCredentials userId).Uses NotEnrolling := by
  refine Uses.bind (uses_op (notEnrolling_of rfl)) fun now => ?_
  refine Uses.bind (uses_op (notEnrolling_of rfl)) fun _ => ?_
  refine Uses.bind (uses_op (notEnrolling_of rfl)) fun _ => ?_
  exact Uses.bind (uses_op (notEnrolling_of rfl)) fun _ => trivial

lemma resetPasswordFor_notEnrolling {user : User} :
    (resetPasswordFor user).run.Uses NotEnrolling := by
  refine uses_bind (uses_lift (Uses.bind (uses_op (notEnrolling_of rfl)) fun _ => trivial)) fun generated => ?_
  refine uses_bind (uses_orLeave (uses_op (notEnrolling_of rfl)) _) fun hash => ?_
  refine uses_bind (uses_orLeave (uses_op (notEnrolling_of rfl)) _) fun _ => ?_
  exact uses_bind (uses_lift revokeCredentials_notEnrolling) fun _ => trivial

/-- No call of the run changes whom an id stands for. -/
lemma TokenCall.subjects (c : TokenCall) (ins : Nat → Input) (inv : SubjectOf subOf s) :
    SubjectOf subOf (c.run D ins s) := by
  cases c with
  | exchange tenantId cmd =>
    have same : (TokenCall.run D (.exchange tenantId cmd) ins s).users = s.users := by
      simp only [TokenCall.run, IdpMvp.exchange]
      split
      · cases e : ((exchangeCode D tenantId cmd).run.run (exec D) ins s).1 with
        | ok tokens =>
          obtain ⟨_, _, _, _, _, granted⟩ := exchangeCode_always.run_ok e
          obtain ⟨-, store⟩ | ⟨_, -, -, store⟩ := granted.store <;> rw [store] <;> rfl
        | error err =>
          obtain store | ⟨_, _, -, store⟩ := exchangeCode_always.run_error e <;> rw [store]
          rfl
      · split
        · cases e : ((exchangeRefreshToken D tenantId cmd).run.run (exec D) ins s).1 with
          | ok tokens =>
            obtain ⟨_, _, _, _, _, rotated⟩ := exchangeRefreshToken_always.run_ok e
            rw [rotated.store]
            rfl
          | error err =>
            obtain store | ⟨_, _, _, -, store⟩ := exchangeRefreshToken_always.run_error e <;> rw [store]
            rfl
        · rfl
    intro u mem
    exact inv u (same ▸ mem)
  | revoke tenantId token hint clientId basic =>
    have revoked : alwaysE (exec D) (IdpMvp.revoke D tenantId token hint clientId basic) s
        (fun _ s' => Revoked D token s s') (fun _ s' => Revoked D token s s') :=
      alwaysE_mono revoke_always (fun _ _ r => r) (fun _ _ e => e ▸ Revoked.unchanged)
    have same : ∀ s', Revoked D token s s' → s'.users = s.users := by
      intro s' w
      cases w with
      | unchanged => rfl
      | refresh now => rfl
      | access jti exp now _ =>
        unfold Store.revokeJti
        split <;> rfl
    intro u mem
    exact inv u (same _ (revoked.run_state ins) ▸ mem)
  | resetPassword tenantId target actor =>
    refine inv.keeps (uses_bind findHomeUser_notEnrolling fun user => ?_) ins
    exact uses_bind (uses_ensure _ _) fun _ => resetPasswordFor_notEnrolling
  | resetPasswordByEmail tenantId email actor =>
    refine inv.keeps (uses_bind (uses_ensure _ _) fun _ => ?_) ins
    refine uses_bind (uses_orLeave (uses_op (notEnrolling_of rfl)) _) fun _ => ?_
    refine uses_bind (uses_found _ _) fun user => ?_
    exact uses_bind (uses_ensure _ _) fun _ => resetPasswordFor_notEnrolling
  | setStatus tenantId target status actor =>
    refine inv.keeps (uses_bind (uses_ensure _ _) fun _ => ?_) ins
    refine uses_bind findHomeUser_notEnrolling fun user => ?_
    refine uses_bind (uses_ensure _ _) fun _ => ?_
    refine uses_bind (uses_orLeave (uses_op (notEnrolling_of rfl)) _) fun _ => ?_
    unfold onlyIf
    split
    · exact uses_lift revokeCredentials_notEnrolling
    · trivial
  | deleteUser tenantId target actor =>
    refine inv.keeps (uses_bind findHomeUser_notEnrolling fun user => ?_) ins
    exact uses_bind (uses_ensure _ _) fun _ => uses_orLeave (uses_op (notEnrolling_of rfl)) _

/-- Sequential runs of the calls that write refresh tokens, from an empty table. In between, other
services may do anything else, and no id is given to two users. -/
abbrev SubjectRuns (D : Deploy) (subOf : Uuid → Uuid) : List (Event TokenCall Input Store) → Store → Prop :=
  Runs (TokenCall.run D) (fun s => s.refreshTokens = [] ∧ SubjectOf subOf s)
    (fun s s' => s'.refreshTokens = s.refreshTokens ∧ Reaches (exec D) (Enrols subOf) s s')
    (fun _ _ => True)

lemma SubjectRuns.tokenRuns {es : List (Event TokenCall Input Store)}
    (run : SubjectRuns D subOf es s) : TokenRuns D es s :=
  run.mono (fun _ h => h.1) (fun _ _ h => h.1) fun _ _ h => h

lemma SubjectRuns.subjects {es : List (Event TokenCall Input Store)}
    (run : SubjectRuns D subOf es s) : SubjectOf subOf s :=
  run.invariant (I := fun _ s => SubjectOf subOf s) (fun _ h => h.2) (fun _ _ _ inv h => inv.later h.2)
    fun _ _ c ins inv _ => c.subjects ins inv

end

/-- The event is an exchange with this answer. -/
def Exchanged (D : Deploy) (e : Event TokenCall Input Store) (tenantId : TenantId) (cmd : TokenCommand)
    (tokens : IssuedTokens) : Prop :=
  e.call = .exchange tenantId cmd ∧
    ((exchange D tenantId cmd).run (exec D) e.ins e.pre).1 = .ok tokens

/-- The ID token of the answer was signed with these claims. -/
def SignsIdToken (D : Deploy) (e : Event TokenCall Input Store) (tokens : IssuedTokens)
    (claims : IdTokenClaims) : Prop :=
  ∃ key, SignedBy D e.pre.signingKeys "JWT" (.idToken claims) tokens.idToken key

/-- The event redeemed a code and handed out the first refresh token of a chain. -/
def StartsChain (D : Deploy) (e : Event TokenCall Input Store) (tokens : IssuedTokens)
    (root : RefreshToken) : Prop :=
  ∃ tenantId cmd plain, Exchanged D e tenantId cmd tokens ∧
    cmd.grantType = some "authorization_code" ∧ tokens.refreshToken = some plain ∧
      root.tokenHash = D.sha256Hex plain

/-- Along a refresh chain of any length, the ID token of every refresh has the issuer, the subject and the
audience of the ID token of the code grant at the root of the chain; its `auth_time` is its `iat`, the time
of the clock that the refresh has read. -/
theorem refreshed_id_tokens {subOf : Uuid → Uuid} {es : List (Event TokenCall Input Store)}
    (run : SubjectRuns D subOf es s) {e : Event TokenCall Input Store} (mem : e ∈ es)
    (answered : Exchanged D e tenantId cmd tokens) (grant : cmd.grantType = some "refresh_token") :
    ∃ stored root, stored ∈ e.pre.refreshTokens ∧
      (nonEmpty cmd.refreshToken).map D.sha256Hex = some stored.tokenHash ∧ root.parentHash = none ∧
      Relation.ReflTransGen (RefreshToken.Child e.pre.refreshTokens) root stored ∧
      ∃ e₀ ∈ es, ∃ tokens₀, StartsChain D e₀ tokens₀ root ∧
      ∃ claims claims₀, SignsIdToken D e tokens claims ∧ SignsIdToken D e₀ tokens₀ claims₀ ∧
        claims.iss = claims₀.iss ∧ claims.sub = claims₀.sub ∧ claims.aud = claims₀.aud ∧
        claims.authTime = claims.iat ∧
        ∃ clock ∈ (exchange D tenantId cmd).trace (exec D) e.ins e.pre,
          clock.op = .clock ∧ claims.authTime = DateTime.timestamp clock.input.now := by
  obtain ⟨before, after, rfl⟩ := List.append_of_mem mem
  obtain ⟨run, -⟩ := run.upTo rfl
  obtain ⟨call, ok⟩ := answered
  rw [exchange_refresh grant] at ok ⊢
  obtain ⟨plain, newPlain, stored, user, now, rotated, clock, read, isClock, time⟩ :=
    exchangeRefreshToken_rotates.run_ok ok
  have issued := rotated.issuedFor grant
  have row : stored ∈ e.pre.refreshTokens := List.mem_of_find?_eq_some rotated.row
  have hash := List.find?_some rotated.row
  simp only [decide_eq_true_eq] at hash
  -- The root of the chain was created by a code grant of the run, with the grant of the presented row.
  obtain ⟨-, chains, -⟩ := refresh_tokens_form_chains (SubjectRuns.tokenRuns run)
  obtain ⟨root, -, orphan, reach, same, e₀, mem₀, created⟩ := chains stored row
  obtain ⟨tenantId₀, cmd₀, tokens₀, plain₀, call₀, grant₀, ok₀, given₀, hash₀⟩ := created.issues
  obtain ⟨user₀, granted, issued₀⟩ := exchange_issuedFor ok₀
  obtain ⟨r, memr, hashr, samer⟩ := created.created
  rw [Event.post, call₀] at memr
  obtain rfl : r.grant = granted := issued₀.row plain₀ given₀ r memr (hashr.trans hash₀)
  have carried : stored.grant = r.grant := same.symm.trans samer.symm
  obtain ⟨front, back, split⟩ := List.append_of_mem mem₀
  obtain ⟨run₀, -⟩ := run.upTo split
  have sub : user.sub = user₀.sub := by
    have id : user.id = user₀.id := by
      rw [← issued.owner, ← issued₀.owner]
      exact congrArg RefreshGrant.userId carried
    rw [SubjectRuns.subjects run user issued.mem, SubjectRuns.subjects run₀ user₀ issued₀.mem, id]
  have tenant : tenantId = tenantId₀ := by
    rw [← issued.tenant, ← issued₀.tenant]
    exact congrArg RefreshGrant.tenantId carried
  obtain ⟨jti, key, signedId⟩ := rotated.signed.id
  obtain ⟨iat₀, authTime₀, nonce₀, signed₀, -⟩ := issued₀.signed
  obtain ⟨jti₀, key₀, signedId₀⟩ := signed₀.id
  refine ⟨stored, root, row, ?_, orphan, reach, e₀, List.mem_append_left _ mem₀, tokens₀, ?_, _, _,
    ⟨key, signedId⟩, ⟨key₀, signedId₀⟩, ?_, ?_, ?_, rfl, clock, read, isClock, ?_⟩
  · rw [rotated.token, Option.map_some, hash.1]
  · exact ⟨tenantId₀, cmd₀, plain₀, ⟨call₀, ok₀⟩, grant₀, given₀, hash₀⟩
  · exact congrArg D.tenantIssuer tenant
  · exact congrArg D.uuidToString sub
  · exact congrArg RefreshGrant.clientId carried
  · rw [time]
    rfl

namespace Sample

/-- The sample code, ten minutes after alice authenticated. -/
def earlyCode : AuthorizationCode := { code with authTime := Sample.now - 600000000 }

/-- The claims of the ID token it is redeemed for. -/
def earlyIdClaims : IdTokenClaims := { idClaims "n1" with authTime := 1699999400 }

/-- The sample deployment, signing them too. -/
def earlyDeploy : Deploy :=
  { deploy with
    jwtEncode := fun h c k =>
      if (h, c, k) = (rsaHeader "JWT", .idToken earlyIdClaims, ⟨"rsa"⟩) then .ok "jwt-rs.early.rsa"
      else deploy.jwtEncode h c k }

def earlyStore : Store := { store with codes := [earlyCode] }

/-- The code is redeemed, then the refresh token it gave is used. -/
def earlyGrant : Event TokenCall Input Store :=
  ⟨.exchange tenantA codeRequest, fun _ => input 2, earlyStore⟩

def earlyRefresh : Event TokenCall Input Store :=
  ⟨.exchange tenantA (refreshRequest 2), fun _ => input 3, earlyGrant.post (TokenCall.run earlyDeploy)⟩

def earlyTokens : IssuedTokens := { rsaTokens with idToken := "jwt-rs.early.rsa" }

def refreshedTokens : IssuedTokens :=
  { rsaTokens with idToken := "jwt-rs.refresh.rsa", refreshToken := some (plainToken 3) }

/-- Whom the ids of the sample stand for. -/
def sampleSubject (id : Uuid) : Uuid := if id = aliceId then aliceSub else adminSub

lemma early_run : SubjectRuns earlyDeploy sampleSubject [earlyGrant, earlyRefresh]
    (earlyRefresh.post (TokenCall.run earlyDeploy)) := by
  have subjects : ∀ u ∈ earlyStore.users, u.sub = sampleSubject u.id := by decide +kernel
  have start : SubjectRuns earlyDeploy sampleSubject [] earlyGrant.pre := .start ⟨rfl, subjects⟩
  have granted : SubjectRuns earlyDeploy sampleSubject [earlyGrant] earlyRefresh.pre :=
    start.post earlyGrant trivial
  exact granted.post earlyRefresh trivial

set_option maxRecDepth 4000 in
lemma early_answered :
    ((exchange earlyDeploy tenantA codeRequest).run (exec earlyDeploy) earlyGrant.ins earlyGrant.pre).1 =
        .ok earlyTokens ∧
      ((exchange earlyDeploy tenantA (refreshRequest 2)).run (exec earlyDeploy) earlyRefresh.ins
        earlyRefresh.pre).1 = .ok refreshedTokens ∧
      earlyRefresh.pre.signingKeys = [rsaKey] := by
  decide +kernel

lemma earlyGrant_answered : Exchanged earlyDeploy earlyGrant tenantA codeRequest earlyTokens :=
  ⟨rfl, early_answered.1⟩

lemma earlyRefresh_answered :
    Exchanged earlyDeploy earlyRefresh tenantA (refreshRequest 2) refreshedTokens :=
  ⟨rfl, early_answered.2.1⟩

lemma early_signed :
    earlyDeploy.decrypt rsaKey.privateKeyEncrypted = .ok [82, 83, 65] ∧
      fromUtf8 [82, 83, 65] = some "RSA" ∧
      sign earlyDeploy "RSA" rsaKey.kid "JWT" rsaKey.algorithm (.idToken earlyIdClaims) =
        .ok earlyTokens.idToken ∧
      sign earlyDeploy "RSA" rsaKey.kid "JWT" rsaKey.algorithm (.idToken (idClaims "")) =
        .ok refreshedTokens.idToken := by
  decide +kernel

lemma rsaKey_loaded : rsaKey.LoadedFrom earlyDeploy [rsaKey] "RSA" :=
  ⟨⟨Sample.now, rfl⟩, [82, 83, 65], early_signed.1, early_signed.2.1⟩

end Sample

open Sample in
set_option maxRecDepth 4000 in
/-- alice authenticates, ten minutes later the code is redeemed and its refresh token used: the ID token of
the refresh says she authenticated at that moment. -/
theorem refresh_moves_auth_time :
    SubjectRuns earlyDeploy sampleSubject [earlyGrant, earlyRefresh]
      (earlyRefresh.post (TokenCall.run earlyDeploy)) ∧
    Exchanged earlyDeploy earlyGrant tenantA codeRequest earlyTokens ∧
    earlyTokens.refreshToken = (refreshRequest 2).refreshToken ∧
    Exchanged earlyDeploy earlyRefresh tenantA (refreshRequest 2) refreshedTokens ∧
    SignsIdToken earlyDeploy earlyGrant earlyTokens earlyIdClaims ∧
    SignsIdToken earlyDeploy earlyRefresh refreshedTokens (idClaims "") ∧
    earlyIdClaims.authTime < (idClaims "").authTime := by
  obtain ⟨-, -, signed, refreshSigned⟩ := early_signed
  refine ⟨early_run, earlyGrant_answered, rfl, earlyRefresh_answered,
    ⟨rsaKey, "RSA", rsaKey_loaded, signed⟩, ⟨rsaKey, "RSA", ?_, refreshSigned⟩, by decide⟩
  rw [early_answered.2.2]
  exact rsaKey_loaded

open Sample in
/-- The ID token of that refresh names the subject of the one at the root, and the time of the refresh. -/
theorem refreshed_id_tokens_sample :
    ∃ e₀ ∈ [earlyGrant, earlyRefresh], ∃ tokens₀ root claims claims₀,
      StartsChain earlyDeploy e₀ tokens₀ root ∧
      SignsIdToken earlyDeploy earlyRefresh refreshedTokens claims ∧
      SignsIdToken earlyDeploy e₀ tokens₀ claims₀ ∧ claims.sub = claims₀.sub ∧
      claims.authTime = DateTime.timestamp Sample.now := by
  obtain ⟨_, root, -, -, -, -, e₀, mem, tokens₀, starts, claims, claims₀, signed, signed₀, -, sub, -, -, clock,
    read, -, time⟩ :=
    refreshed_id_tokens early_run (List.mem_cons_of_mem _ List.mem_cons_self) earlyRefresh_answered rfl
  have times : ∀ e ∈ (exchange earlyDeploy tenantA (refreshRequest 2)).trace (exec earlyDeploy) earlyRefresh.ins
      earlyRefresh.pre, e.input.now = Sample.now := by decide +kernel
  rw [times clock read] at time
  exact ⟨e₀, mem, tokens₀, root, claims, claims₀, starts, signed, signed₀, sub, time⟩

end IdpMvp
