import IdpMvp.Key.Bootstrap
import IdpMvp.Service.Discovery
import IdpMvp.Session.Logout
import IdpMvp.Token.Atomicity
import IdpMvp.Token.Subjects
import IdpMvp.Token.Tenants

/-!
# One issuer per tenant

The discovery document of a tenant names its issuer, the ID and access tokens of the tenant carry it, and the
front-channel URIs of a logout send it. The logout tokens of the back channel carry the base issuer instead. So a
flow of a tenant sends the tenant's issuer only, exactly if it sends no logout token (`one_issuer_iff`).
-/

namespace IdpMvp

open Program Program.Prog Program.Flow Prog

/-! ## What a flow sends -/

def JwtClaims.iss : JwtClaims → String
  | idToken c => c.iss
  | accessToken c => c.iss

/-- A reader of the `iss` of a signed token. -/
structure ReadsIss (D : Deploy) (readIss : String → Option String) : Prop where
  token : ∀ {h c k t}, D.jwtEncode h c k = .ok t → readIss t = some c.iss
  logoutToken : ∀ {h c k t}, D.jwtEncodeLogout h c k = .ok t → readIss t = some c.iss

/-- The parameter `iss` at the end of a front-channel URI. -/
def sentIss (uri : String) : Option String :=
  let parameter := (uri.toList.reverse.takeWhile (· ≠ '=')).reverse
  fromUtf8 (Encoding.percentDecode (asBytes (String.ofList parameter)))

inductive IssuerFlow where
  | discovery
  | token (cmd : TokenCommand)
  | logout (cmd : LogoutCommand)

/-- The issuers that a flow of a tenant sends. -/
def IssuerFlow.issuers (D : Deploy) (readIss : String → Option String) (tenantId : TenantId) :
    IssuerFlow → Service (List (Option String))
  | discovery => return [((openidConfiguration D tenantId).get "issuer").asStr]
  | token cmd => do
    match ← exchange D tenantId cmd with
    | .ok tokens => return [readIss tokens.idToken, readIss tokens.accessToken]
    | .error _ => return []
  | logout cmd => do
    let result ← Logout.logout D tenantId cmd
    let posts ← Logout.backchannelPosts D result
    return result.frontchannelUris.map sentIss ++ posts.map (readIss ·.logoutToken)

/-- The issuer in the discovery document of a tenant. -/
def discoveredIssuer (D : Deploy) (tenantId : TenantId) : Option String :=
  ((openidConfiguration D tenantId).get "issuer").asStr

/-- A relying party of the tenant accepts whatever the flow sends, and one of another tenant nothing. -/
def OneIssuer (D : Deploy) (readIss : String → Option String) (tenantId : TenantId) (flow : IssuerFlow)
    (ins : Nat → Input) (s : Store) : Prop :=
  ∀ iss ∈ ((flow.issuers D readIss tenantId).run (exec D) ins s).1,
    ∀ other, iss = discoveredIssuer D other ↔ other = tenantId

/-- A logout token for one of the clients is signed. -/
def SignsLogoutToken (D : Deploy) (keys : List SigningKey) (sub : String) (targets : List BackchannelTarget)
    (ins : Nat → Input) (token : String) : Prop :=
  (ins 0).fault = none ∧ ∃ key i target, activeAt D keys (ins 0).now = some key ∧ targets[i]? = some target ∧
    Logout.jwtSign D D.jwtEncodeLogout key.privatePem key.kid "logout+jwt" key.algorithm
      (Logout.logoutTokenClaims D.baseIssuer sub target.clientId (ins 1).now.timestamp
        (D.uuidToString (ins (i + 2)).uuid)) = .ok token

/-- The flow is a logout of a user who is found, and a logout token for one of the clients is signed. -/
def SendsLogoutToken (D : Deploy) (tenantId : TenantId) (flow : IssuerFlow) (ins : Nat → Input) (s : Store) :
    Prop :=
  ∃ cmd sid x sub token, flow = .logout cmd ∧ nonEmpty cmd.ssoSessionId = some sid ∧
    (ins 1).fault = none ∧ s.presentedSession D sid = some x ∧ foundSub D (ins 4) s x.userId = some sub ∧
    SignsLogoutToken D s.signingKeys sub (Logout.backchannelTargets (listedClients (ins 5) s tenantId))
      (fun n => ins (n + 6)) token

/-! ## Tokens and their issuers -/

section
variable {D : Deploy} {tenantId : TenantId} {readIss : String → Option String} {ins : Nat → Input} {s : Store}

/-- What `jwt::sign` has encoded. -/
lemma jwtSign_ok {Claims : Type} {encode : JwtHeader → Claims → EncodingKey → Except String String}
    {pem kid typ algorithm token : String} {claims : Claims}
    (signed : Logout.jwtSign D encode pem kid typ algorithm claims = .ok token) :
    ∃ h k, encode h claims k = .ok token := by
  have encoded : ∀ {h : JwtHeader} {k : EncodingKey},
      (encode h claims k).mapError ("jwt encode: " ++ ·) = .ok token → encode h claims k = .ok token := by
    intro h k e
    cases r : encode h claims k with
    | error d =>
      rw [r] at e
      cases e
    | ok t =>
      rw [r] at e
      exact e
  unfold Logout.jwtSign at signed
  dsimp only at signed
  split_ifs at signed
  all_goals
    split at signed
    · cases signed
    · exact ⟨_, _, encoded signed⟩

lemma discoveredIssuer_eq : discoveredIssuer D tenantId = some (D.tenantIssuer tenantId) := rfl

/-- The issuer of a tenant is not the base issuer. -/
lemma tenantIssuer_ne_base : D.tenantIssuer tenantId ≠ D.baseIssuer := by
  intro same
  have chars := congrArg (fun s : String => s.toList.length) same
  simp only [Deploy.tenantIssuer, String.toList_append, List.length_append] at chars
  have slash : "/".toList.length = 1 := rfl
  omega

/-- The tenant's issuer is accepted by the tenant's relying parties only. -/
lemma tenantIssuer_accepted (uuid : UuidLaws D) (other : TenantId) :
    some (D.tenantIssuer tenantId) = discoveredIssuer D other ↔ other = tenantId := by
  rw [discoveredIssuer_eq, Option.some.injEq]
  constructor
  · exact fun same => (tenantIssuer_injective uuid same).symm
  · rintro rfl
    rfl

lemma SignedBy.readsIss {keys : List SigningKey} {typ token : String} {claims : JwtClaims} {key : SigningKey}
    (reads : ReadsIss D readIss) (signed : SignedBy D keys typ claims token key) :
    readIss token = some claims.iss := by
  obtain ⟨pem, -, signed⟩ := signed
  rw [Logout.sign_eq_jwtSign] at signed
  obtain ⟨h, k, encoded⟩ := jwtSign_ok signed
  exact reads.token encoded

/-- The tokens of a grant carry the tenant's issuer. -/
lemma TokensOk.readsIss {keys : List SigningKey} {user : User} {clientId : String} {scope : List String}
    {iat authTime : Int} {nonce idToken accessToken : String} (reads : ReadsIss D readIss)
    (tokens : TokensOk D keys tenantId user clientId scope iat authTime nonce idToken accessToken) :
    readIss idToken = some (D.tenantIssuer tenantId) ∧ readIss accessToken = some (D.tenantIssuer tenantId) := by
  obtain ⟨jti, key, id⟩ := tokens.id
  obtain ⟨jti', key', access⟩ := tokens.access
  exact ⟨id.readsIss reads, access.readsIss reads⟩

/-- The encoded text has no `=`. -/
lemma utf8PercentEncode_plain {text : String} {c : Char} (mem : c ∈ (utf8PercentEncode text).toList) : c ≠ '=' := by
  have letters : ∀ n < 128, Char.ofNat n = '=' → n = 61 := by decide
  rw [utf8PercentEncode, Encoding.asciiText, String.toList_ofList] at mem
  obtain ⟨b, written, rfl⟩ := List.mem_map.mp mem
  intro sign
  rcases Encoding.mem_percentEncode written with alphanumeric | rfl
  · have code := letters _ (Encoding.isAlphanumeric_ascii alphanumeric) sign
    obtain rfl : b = 61 := UInt8.toNat_inj.mp code
    cases alphanumeric
  · exact absurd sign (by decide)

/-- The parameter of a front-channel URI is the issuer. -/
lemma sentIss_frontchannelUri {issuer uri : String} :
    sentIss (Logout.frontchannelUri issuer uri) = some issuer := by
  have parameter : (((Logout.frontchannelUri issuer uri).toList.reverse.takeWhile (· ≠ '=')).reverse) =
      (utf8PercentEncode issuer).toList := by
    have shape : (Logout.frontchannelUri issuer uri).toList.reverse =
        (utf8PercentEncode issuer).toList.reverse ++ '=' :: (uri ++ querySeparator uri ++ "iss").toList.reverse := by
      simp [Logout.frontchannelUri, String.toList_append]
    rw [shape, List.takeWhile_append_of_pos, List.takeWhile_cons_of_neg (by decide), List.append_nil,
      List.reverse_reverse]
    intro c mem
    exact decide_eq_true (utf8PercentEncode_plain (List.mem_reverse.mp mem))
  unfold sentIss
  dsimp only
  rw [parameter, String.ofList_toList, utf8PercentEncode, asBytes, Encoding.toUTF8_asciiText,
    ← List.append_nil (Encoding.percentEncode _ _), Encoding.percentDecode_percentEncode rfl]
  · rw [Encoding.percentDecode, List.append_nil]
    exact fromUtf8_asBytes issuer
  · exact Encoding.percentEncode_ascii (fun _ => Encoding.isAlphanumeric_ascii) _

/-! ## Logout tokens -/

lemma sendTokens_wp {userSub issuer : String} {key : ActiveSigningKey} {iat : Int}
    {targets : List BackchannelTarget} :
    (Logout.sendTokens D userSub issuer key iat targets).wp (exec D) ins s (fun posts s' _ => s' = s ∧
      ∀ token, (∃ post ∈ posts, post.logoutToken = token) ↔ ∃ i target, targets[i]? = some target ∧
        Logout.jwtSign D D.jwtEncodeLogout key.privatePem key.kid "logout+jwt" key.algorithm
          (Logout.logoutTokenClaims issuer userSub target.clientId iat (D.uuidToString (ins i).uuid)) =
            .ok token) := by
  induction targets generalizing ins with
  | nil =>
    refine ⟨rfl, fun token => iff_of_false ?_ ?_⟩
    · rintro ⟨post, mem, -⟩
      cases mem
    · rintro ⟨i, target, found, -⟩
      cases found
  | cons target targets ih =>
    rw [Logout.sendTokens, uuidV4]
    simp only [op, call_bind, ret_bind, wp_uuidV4, wp_bind]
    refine wp_mono ih ?_
    rintro posts s' tr ⟨rfl, sent⟩
    have later : ∀ token, (∃ post ∈ posts, post.logoutToken = token) ↔ ∃ i later,
        (target :: targets)[i + 1]? = some later ∧
          Logout.jwtSign D D.jwtEncodeLogout key.privatePem key.kid "logout+jwt" key.algorithm
            (Logout.logoutTokenClaims issuer userSub later.clientId iat (D.uuidToString (ins (i + 1)).uuid)) =
              .ok token := sent
    generalize first : Logout.jwtSign D D.jwtEncodeLogout key.privatePem key.kid "logout+jwt" key.algorithm
      (Logout.logoutTokenClaims issuer userSub target.clientId iat (D.uuidToString (ins 0).uuid)) = r
    cases r with
    | error e =>
      refine ⟨rfl, fun token => (later token).trans ?_⟩
      constructor
      · rintro ⟨i, target', found, signed⟩
        exact ⟨i + 1, target', found, signed⟩
      · rintro ⟨_ | i, target', found, signed⟩
        · obtain rfl := Option.some.inj found
          cases first.symm.trans signed
        · exact ⟨i, target', found, signed⟩
    | ok jwt =>
      refine ⟨rfl, fun token => ?_⟩
      constructor
      · rintro ⟨post, mem, rfl⟩
        rcases List.mem_cons.mp mem with rfl | mem
        · exact ⟨0, target, rfl, first⟩
        · obtain ⟨i, target', found, signed⟩ := (later _).mp ⟨post, mem, rfl⟩
          exact ⟨i + 1, target', found, signed⟩
      · rintro ⟨_ | i, target', found, signed⟩
        · obtain rfl := Option.some.inj found
          exact ⟨_, List.mem_cons_self, Except.ok.inj (first.symm.trans signed)⟩
        · obtain ⟨post, mem, same⟩ := (later token).mpr ⟨i, target', found, signed⟩
          exact ⟨post, List.mem_cons_of_mem _ mem, same⟩

lemma sendBackchannelLogoutTokens_wp {sub : String} {targets : List BackchannelTarget} :
    (Logout.sendBackchannelLogoutTokens D targets sub D.baseIssuer).wp (exec D) ins s (fun posts s' _ => s' = s ∧
      ∀ token, (∃ post ∈ posts, post.logoutToken = token) ↔
        SignsLogoutToken D s.signingKeys sub targets ins token) := by
  unfold Logout.sendBackchannelLogoutTokens
  rw [wp_bind]
  refine wp_mono activeSigningKey_wp ?_
  rintro (e | key) s' tr ⟨rfl, length, loaded⟩
  · refine ⟨rfl, fun token => iff_of_false ?_ ?_⟩
    · rintro ⟨post, mem, -⟩
      cases mem
    · rintro ⟨quiet, key, i, target, active, -⟩
      cases (loaded key).mpr ⟨quiet, active⟩
  · obtain ⟨quiet, active⟩ := (loaded key).mp rfl
    dsimp only
    rw [clockNow, length]
    simp only [op, call_bind, ret_bind, wp_clock]
    refine wp_mono sendTokens_wp ?_
    rintro posts s' tr' ⟨rfl, sent⟩
    refine ⟨rfl, fun token => (sent token).trans ?_⟩
    constructor
    · rintro ⟨i, target, found, signed⟩
      exact ⟨quiet, key, i, target, active, found, signed⟩
    · rintro ⟨-, key', i, target, active', found, signed⟩
      obtain rfl := Option.some.inj (active.symm.trans active')
      exact ⟨i, target, found, signed⟩

/-- The posts of a logout whose user is found. -/
lemma backchannelPosts_wp {result : LogoutResult} :
    (Logout.backchannelPosts D result).wp (exec D) ins s (fun posts _ _ =>
      ∀ token, (∃ post ∈ posts, post.logoutToken = token) ↔ ∃ sub, result.userSub = some sub ∧
        SignsLogoutToken D s.signingKeys sub result.backchannelTargets ins token) := by
  unfold Logout.backchannelPosts
  cases result.userSub with
  | none =>
    intro token
    refine iff_of_false ?_ ?_
    · rintro ⟨post, mem, -⟩
      cases mem
    · rintro ⟨sub, missing, -⟩
      cases missing
  | some sub =>
    dsimp only
    split_ifs with targets
    · refine wp_mono sendBackchannelLogoutTokens_wp ?_
      rintro posts s' tr ⟨-, sent⟩ token
      refine (sent token).trans ?_
      constructor
      · exact fun signs => ⟨sub, rfl, signs⟩
      · rintro ⟨_, ⟨⟩, signs⟩
        exact signs
    · intro token
      have nothing : result.backchannelTargets = [] := by simpa using targets
      refine iff_of_false ?_ ?_
      · rintro ⟨post, mem, -⟩
        cases mem
      · rintro ⟨_, -, quiet, key, i, target, -, found, -⟩
        rw [nothing] at found
        cases found

/-! ## What each flow sends -/

lemma SignsLogoutToken.readsIss {keys : List SigningKey} {sub token : String} {targets : List BackchannelTarget}
    (reads : ReadsIss D readIss) (signs : SignsLogoutToken D keys sub targets ins token) :
    readIss token = some D.baseIssuer := by
  obtain ⟨-, key, i, target, -, -, signed⟩ := signs
  obtain ⟨h, k, encoded⟩ := jwtSign_ok signed
  exact reads.logoutToken encoded

lemma frontchannelUris_sentIss {issuer uri : String} {clients : List Client}
    (mem : uri ∈ Logout.frontchannelUris issuer clients) : sentIss uri = some issuer := by
  obtain ⟨c, -, written⟩ := List.mem_filterMap.mp mem
  obtain ⟨registered, -, rfl⟩ := Option.map_eq_some_iff.mp written
  exact sentIss_frontchannelUri

/-- A flow of the tenant sends its issuer and the base issuer, and the latter in logout tokens. -/
def SendsIssuers (D : Deploy) (tenantId : TenantId) (sendsToken : Prop) (issuers : List (Option String)) : Prop :=
  (∀ iss ∈ issuers, iss = some (D.tenantIssuer tenantId) ∨ iss = some D.baseIssuer) ∧
    (some D.baseIssuer ∈ issuers ↔ sendsToken)

lemma notifies_wp (reads : ReadsIss D readIss) {result : LogoutResult}
    (front : ∀ uri ∈ result.frontchannelUris, sentIss uri = some (D.tenantIssuer tenantId)) :
    (Logout.backchannelPosts D result >>= fun posts =>
      (return result.frontchannelUris.map sentIss ++ posts.map (readIss ·.logoutToken) :
        Service (List (Option String)))).wp (exec D) ins s (fun issuers _ _ =>
      SendsIssuers D tenantId (∃ sub, result.userSub = some sub ∧
        ∃ token, SignsLogoutToken D s.signingKeys sub result.backchannelTargets ins token) issuers) := by
  rw [wp_bind]
  refine wp_mono backchannelPosts_wp ?_
  intro posts s' tr sent
  have back : ∀ post ∈ posts, readIss post.logoutToken = some D.baseIssuer := by
    intro post mem
    obtain ⟨sub, -, signs⟩ := (sent post.logoutToken).mp ⟨post, mem, rfl⟩
    exact signs.readsIss reads
  have notFront : some D.baseIssuer ∉ result.frontchannelUris.map sentIss := by
    intro mem
    obtain ⟨uri, mem, base⟩ := List.mem_map.mp mem
    rw [front uri mem] at base
    exact tenantIssuer_ne_base (Option.some.inj base)
  refine ⟨?_, ?_⟩
  · intro iss mem
    rcases List.mem_append.mp mem with mem | mem
    · obtain ⟨uri, listed, rfl⟩ := List.mem_map.mp mem
      exact .inl (front uri listed)
    · obtain ⟨post, made, rfl⟩ := List.mem_map.mp mem
      exact .inr (back post made)
  · constructor
    · intro mem
      obtain ⟨post, mem, -⟩ := List.mem_map.mp ((List.mem_append.mp mem).resolve_left notFront)
      obtain ⟨sub, found, signs⟩ := (sent post.logoutToken).mp ⟨post, mem, rfl⟩
      exact ⟨sub, found, _, signs⟩
    · rintro ⟨sub, found, token, signs⟩
      obtain ⟨post, mem, -⟩ := (sent token).mpr ⟨sub, found, signs⟩
      exact List.mem_append_right _ (List.mem_map.mpr ⟨post, mem, back post mem⟩)

lemma logout_issuers (reads : ReadsIss D readIss) {cmd : LogoutCommand} :
    SendsIssuers D tenantId (SendsLogoutToken D tenantId (.logout cmd) ins s)
      (((IssuerFlow.logout cmd).issuers D readIss tenantId).run (exec D) ins s).1 := by
  suffices w : ((IssuerFlow.logout cmd).issuers D readIss tenantId).wp (exec D) ins s (fun issuers _ _ =>
      SendsIssuers D tenantId (SendsLogoutToken D tenantId (.logout cmd) ins s) issuers) from wp_iff_run.mp w
  rw [IssuerFlow.issuers, wp_bind]
  cases cookie : nonEmpty cmd.ssoSessionId with
  | none =>
    refine wp_mono (logout_absent cookie) ?_
    rintro r s' tr ⟨rfl, rfl⟩
    refine wp_mono (notifies_wp reads fun _ => frontchannelUris_sentIss) ?_
    rintro issuers s' tr' ⟨own, back⟩
    refine ⟨own, back.trans (iff_of_false ?_ ?_)⟩
    · rintro ⟨sub, missing, -⟩
      cases missing
    · rintro ⟨_, sid, x, sub, token, ⟨⟩, presented, -⟩
      cases cookie.symm.trans presented
  | some sid =>
    by_cases unknown : (ins 1).fault ≠ none ∨ s.presentedSession D sid = none
    · refine wp_mono (logout_unknown cookie unknown) ?_
      rintro r s' tr ⟨rfl, rfl⟩
      have front : ∀ uri ∈ Logout.unknownSession.frontchannelUris, sentIss uri = some (D.tenantIssuer tenantId) :=
        fun _ mem => by cases mem
      refine wp_mono (notifies_wp reads front) ?_
      rintro issuers s' tr' ⟨own, back⟩
      refine ⟨own, back.trans (iff_of_false ?_ ?_)⟩
      · rintro ⟨sub, missing, -⟩
        cases missing
      · rintro ⟨_, sid', x, sub, token, ⟨⟩, presented, quiet, row, -⟩
        obtain rfl := Option.some.inj (cookie.symm.trans presented)
        rcases unknown with fault | missing
        · exact fault quiet
        · cases missing.symm.trans row
    · obtain ⟨quiet, known⟩ := not_or.mp unknown
      obtain ⟨x, row⟩ := Option.ne_none_iff_exists'.mp known
      have quiet := not_not.mp quiet
      refine wp_mono (logout_known cookie quiet row) ?_
      rintro r s' tr ⟨rfl, length, rfl⟩
      rw [length]
      refine wp_mono (notifies_wp reads fun _ => frontchannelUris_sentIss) ?_
      rintro issuers s' tr' ⟨own, back⟩
      refine ⟨own, back.trans ?_⟩
      constructor
      · rintro ⟨sub, found, token, signs⟩
        exact ⟨cmd, sid, x, sub, token, rfl, cookie, quiet, row, found, signs⟩
      · rintro ⟨_, sid', x', sub, token, ⟨⟩, presented, -, row', found, signs⟩
        obtain rfl := Option.some.inj (cookie.symm.trans presented)
        obtain rfl := Option.some.inj (row.symm.trans row')
        exact ⟨sub, found, token, signs⟩

lemma SendsLogoutToken.logsOut {flow : IssuerFlow} (sends : SendsLogoutToken D tenantId flow ins s) :
    ∃ cmd, flow = .logout cmd := by
  obtain ⟨cmd, _, _, _, _, same, -⟩ := sends
  exact ⟨cmd, same⟩

lemma token_issuers (reads : ReadsIss D readIss) {cmd : TokenCommand} :
    ∀ iss ∈ (((IssuerFlow.token cmd).issuers D readIss tenantId).run (exec D) ins s).1,
      iss = some (D.tenantIssuer tenantId) := by
  rw [IssuerFlow.issuers, run_bind]
  cases answer : ((exchange D tenantId cmd).run (exec D) ins s).1 with
  | error e =>
    intro iss mem
    cases mem
  | ok tokens =>
    obtain ⟨user, grant, issued⟩ := exchange_issuedFor answer
    obtain ⟨iat, authTime, nonce, signed, -⟩ := issued.signed
    obtain ⟨id, access⟩ := signed.readsIss reads
    intro iss mem
    rcases List.mem_cons.mp mem with rfl | mem
    · exact id
    · obtain rfl := List.mem_singleton.mp mem
      exact access

end

/-- Every issuer that a flow of the tenant sends is the one of its discovery document, and of no other tenant's,
exactly if the flow sends no logout token. -/
theorem one_issuer_iff {D : Deploy} {readIss : String → Option String} (uuid : UuidLaws D)
    (reads : ReadsIss D readIss) (tenantId : TenantId) (flow : IssuerFlow) (ins : Nat → Input) (s : Store) :
    OneIssuer D readIss tenantId flow ins s ↔ ¬ SendsLogoutToken D tenantId flow ins s := by
  have accepted : ∀ {iss}, iss = some (D.tenantIssuer tenantId) →
      ∀ other, iss = discoveredIssuer D other ↔ other = tenantId := by
    rintro _ rfl
    exact tenantIssuer_accepted uuid
  cases flow with
  | discovery =>
    refine iff_of_true ?_ ?_
    · intro iss mem
      obtain rfl := List.mem_singleton.mp mem
      exact accepted rfl
    · intro sends
      obtain ⟨cmd, ⟨⟩⟩ := sends.logsOut
  | token cmd =>
    refine iff_of_true ?_ ?_
    · intro iss mem
      exact accepted (token_issuers reads iss mem)
    · intro sends
      obtain ⟨cmd, ⟨⟩⟩ := sends.logsOut
  | logout cmd =>
    have sent : SendsIssuers D tenantId (SendsLogoutToken D tenantId (.logout cmd) ins s)
        (((IssuerFlow.logout cmd).issuers D readIss tenantId).run (exec D) ins s).1 := logout_issuers reads
    obtain ⟨own, back⟩ := sent
    constructor
    · intro one sends
      have base := (one _ (back.mpr sends) tenantId).mpr rfl
      exact tenantIssuer_ne_base (Option.some.inj base).symm
    · intro silent iss mem
      rcases own iss mem with tenant | base
      · exact accepted tenant
      · exact absurd (back.mp (base ▸ mem)) silent

namespace Sample

/-- The deployment with one logout token. -/
def logoutDeploy : Deploy :=
  { deploy with jwtEncodeLogout := fun _ c _ =>
      if c.iss = "http://localhost:8060" then .ok "logout-token" else .error "not a token of the sample" }

lemma logoutLaws : UuidLaws logoutDeploy where
  parse u := by simp only [logoutDeploy, deploy, parseUuid_uuidToString]
  length u := by simp only [logoutDeploy, deploy, uuidToString_length]

/-- Who issued a token of the sample. -/
def readIss (token : String) : Option String :=
  match jwtTable.find? (·.2 = token) with
  | some ((_, c, _), _) => some c.iss
  | none => if token = "logout-token" then some "http://localhost:8060" else none

lemma readsIss : ReadsIss logoutDeploy readIss where
  token := by
    intro h c k t encoded
    rw [readIss, (jwtEncode_ok encoded).2]
  logoutToken := by
    intro h c k t encoded
    have ok : (if c.iss = "http://localhost:8060" then .ok "logout-token" else .error "not a token of the sample" :
        Except String String) = .ok t := encoded
    split_ifs at ok with base
    obtain rfl := Except.ok.inj ok
    have unlisted : jwtTable.find? (·.2 = "logout-token") = none := by decide
    rw [readIss, unlisted, base]
    rfl

/-- The store with a client that is notified of a logout, and a session of `alice`. -/
def notifiedStore : Store :=
  { store with
    clients := [{ publicClient tenantA "app" with backchannelLogoutUri := some "https://app.example.com/out" }]
    ssoSessions := [⟨deploy.sha256Hex "sso", aliceId, now, 2 * now, 2 * now, none, none⟩] }

/-- A logout with the cookie of that session. -/
def logoutRequest : LogoutCommand := ⟨some "sso", none, none⟩

end Sample

open Sample in
/-- The tokens of a code carry the issuer of the discovery document. -/
theorem one_issuer_sample :
    OneIssuer logoutDeploy readIss tenantA (.token codeRequest) (fun _ => input 1) notifiedStore := by
  have silent : ¬ SendsLogoutToken logoutDeploy tenantA (.token codeRequest) (fun _ => input 1) notifiedStore := by
    intro sends
    obtain ⟨cmd, same⟩ := sends.logsOut
    cases same
  exact (one_issuer_iff logoutLaws readsIss tenantA (.token codeRequest) (fun _ => input 1) notifiedStore).mpr silent

open Sample in
/-- The logout token of a tenant carries the base issuer. -/
theorem logout_token_carries_base_issuer :
    (((IssuerFlow.logout logoutRequest).issuers logoutDeploy readIss tenantA).run (exec logoutDeploy)
        (fun _ => input 1) notifiedStore).1 = [some "http://localhost:8060"] ∧
      discoveredIssuer logoutDeploy tenantA =
        some "http://localhost:8060/018bcfe5-6800-7000-8000-00000000000a" ∧
      ¬ OneIssuer logoutDeploy readIss tenantA (.logout logoutRequest) (fun _ => input 1) notifiedStore := by
  have sent : (((IssuerFlow.logout logoutRequest).issuers logoutDeploy readIss tenantA).run (exec logoutDeploy)
      (fun _ => input 1) notifiedStore).1 = [some "http://localhost:8060"] := by decide +kernel
  have discovered : discoveredIssuer logoutDeploy tenantA =
      some "http://localhost:8060/018bcfe5-6800-7000-8000-00000000000a" := by decide +kernel
  refine ⟨sent, discovered, fun one => ?_⟩
  have accepted := (one (some "http://localhost:8060") (by rw [sent]; exact List.mem_cons_self) tenantA).mpr rfl
  rw [discovered] at accepted
  exact absurd (Option.some.inj accepted) (by decide)

end IdpMvp
