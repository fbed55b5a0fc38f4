import IdpMvp.Service.Consent

/-!
# What an authorization request does

`AuthorizeEnd` lists every end of `authorize`: what it answers, what it leaves in the store, and what it
has checked on the way there. `authorize_always` says that there is no other. From it follows that no
answer leads elsewhere than to a registered redirect URI, and that nothing stored exceeds what the
client is registered for.
-/

namespace IdpMvp

open Program Program.Prog Program.Flow IdpMvp.Prog

variable {D : Deploy} {s : Store} {tenantId : TenantId} {req : AuthorizeRequest}

/-! ## What is checked -/

/-- The client row a request names, within the tenant. -/
def AuthorizeRequest.client (D : Deploy) (s : Store) (tenantId : TenantId) (req : AuthorizeRequest) :
    Option Client :=
  (nonEmpty req.clientId).bind fun clientId =>
    s.clients.find? fun c => c.tenantId = tenantId ∧ D.coll c.clientId = D.coll clientId

/-- The request names an active client of the tenant and, letter by letter, one of its redirect
URIs. -/
structure Registered (D : Deploy) (s : Store) (tenantId : TenantId) (req : AuthorizeRequest)
    (client : Client) (redirectUri : String) : Prop where
  row : req.client D s tenantId = some client
  active : client.isActive = true
  named : nonEmpty req.redirectUri = some redirectUri
  allowed : redirectUri ∈ client.redirectUris

/-- The flow of a request that has passed all checks. -/
def AuthorizeRequest.flow (req : AuthorizeRequest) (tenantId : TenantId) (client : Client)
    (redirectUri : String) : AuthorizeFlow where
  tenantId := tenantId
  client := client
  redirectUri := redirectUri
  scope := req.scopes
  state := req.state.getD ""
  nonce := req.nonce.getD ""
  codeChallenge := req.codeChallenge.getD ""

/-- The request is registered and valid, and `f` is its flow. -/
structure Validated (D : Deploy) (s : Store) (tenantId : TenantId) (req : AuthorizeRequest)
    (f : AuthorizeFlow) : Prop where
  registered : Registered D s tenantId req f.client f.redirectUri
  valid : validateRequest req f.client = .ok ()
  flow : f = req.flow tenantId f.client f.redirectUri

lemma Validated.tenant {f : AuthorizeFlow} (valid : Validated D s tenantId req f) :
    f.tenantId = tenantId :=
  congrArg AuthorizeFlow.tenantId valid.flow

lemma Registered.tenant {client : Client} {uri : String} (r : Registered D s tenantId req client uri) :
    client ∈ s.clients ∧ client.tenantId = tenantId := by
  obtain ⟨clientId, -, row⟩ := Option.bind_eq_some_iff.mp r.row
  have named := List.find?_some row
  simp only [decide_eq_true_eq] at named
  exact ⟨List.mem_of_find?_eq_some row, named.1⟩

/-- What a valid request has: the state, and scopes within those of its client. -/
lemma validateRequest_ok {client : Client} (h : validateRequest req client = .ok ()) :
    Scope.openId.asStr ∈ req.scopes ∧ (∀ scope ∈ req.scopes, scope ∈ client.scopes) ∧
      ∃ state, nonEmpty req.state = some state := by
  unfold validateRequest at h
  split_ifs at h with _ _ openId scopes state _ _ _
  refine ⟨?_, ?_, ?_⟩
  · simpa using openId
  · simpa [Client.allowsScopes] using scopes
  · exact Option.ne_none_iff_exists'.mp (by simpa using state)

lemma nonEmpty_getD {v : Option String} {text : String} (h : nonEmpty v = some text) :
    v.getD "" = text := by
  rw [(nonEmpty_some h).1]
  rfl

lemma Validated.state {f : AuthorizeFlow} (v : Validated D s tenantId req f) :
    nonEmpty req.state = some f.state := by
  obtain ⟨-, -, state, h⟩ := validateRequest_ok v.valid
  rw [h, v.flow]
  exact congrArg some (nonEmpty_getD h).symm

/-! ## SSO sessions -/

/-- Resuming an SSO session creates none: the rows keep their hash, user and authentication time. -/
def SsoKept (rows rows' : List SsoSession) : Prop :=
  ∀ x' ∈ rows', ∃ x ∈ rows, x'.sessionHash = x.sessionHash ∧ x'.userId = x.userId ∧
    x'.authTime = x.authTime

lemma SsoKept.refl (rows : List SsoSession) : SsoKept rows rows :=
  fun x' h => ⟨x', h, rfl, rfl, rfl⟩

lemma SsoKept.delete (rows : List SsoSession) (p : SsoSession → Bool) :
    SsoKept rows (rows.filter p) :=
  fun x' h => ⟨x', (List.mem_filter.mp h).1, rfl, rfl, rfl⟩

lemma SsoKept.extend (rows : List SsoSession) (hash : String) (deadline : DateTime) :
    SsoKept rows (rows.map fun x =>
      if x.sessionHash = hash then { x with idleExpiresAt := deadline } else x) := by
  intro x' h
  obtain ⟨x, mem, rfl⟩ := List.mem_map.mp h
  refine ⟨x, mem, ?_⟩
  split <;> exact ⟨rfl, rfl, rfl⟩

/-- A valid SSO session of the browser was resumed: its user is active, not locked, and an active
member of the tenant. -/
structure Resumed (D : Deploy) (s : Store) (tenantId : TenantId) (sessionId : String) (userId : Uuid)
    (authTime : DateTime) : Prop where
  session : ∃ x ∈ s.ssoSessions, x.sessionHash = D.sha256Hex sessionId ∧ x.userId = userId ∧
    x.authTime = authTime
  user : ∃ now u, s.users.find? (·.id = userId) = some u ∧ u.isActive = true ∧
    u.isLockedAt now = false
  member : s.isActiveMember tenantId userId = true

lemma tryResumeSso_always {sessionId : String} :
    always (exec D) (tryResumeSso D tenantId sessionId) s (fun r s' =>
      (∃ rows, SsoKept s.ssoSessions rows ∧ s' = { s with ssoSessions := rows }) ∧
      ∀ userId authTime, r = .ok (some (userId, authTime)) →
        Resumed D s tenantId sessionId userId authTime) := by
  have same : ∃ rows, SsoKept s.ssoSessions rows ∧ s = { s with ssoSessions := rows } :=
    ⟨_, SsoKept.refl _, rfl⟩
  unfold tryResumeSso
  rw [always_outcome]
  refine read_step (fun _ => rfl) (fun _ => ⟨same, nofun⟩) fun _ => ?_
  refine found_step (fun _ => ⟨same, nofun⟩) fun session row => ?_
  have here : session ∈ s.ssoSessions := List.mem_of_find?_eq_some row
  have hash : session.sessionHash = D.sha256Hex sessionId := by
    simpa using List.find?_some row
  refine clock_step fun now => ?_
  refine ensureOr_step (fun _ => ?_) fun _ => ?_
  · simp only [op, always_bind, always_db, pure_eq, always_ret, Stmt.exec, SsoSessionStmt.exec]
    exact ⟨fun _ => ⟨same, nofun⟩, fun _ => ⟨⟨_, SsoKept.delete _ _, rfl⟩, nofun⟩⟩
  refine read_step (fun _ => rfl) (fun _ => ⟨same, nofun⟩) fun _ => ?_
  refine ensure_step (fun _ => ⟨same, nofun⟩) fun active => ?_
  refine read_step (fun _ => rfl) (fun _ => ⟨same, nofun⟩) fun _ => ?_
  refine ensure_step (fun _ => ⟨same, nofun⟩) fun member => ?_
  refine write_step (fun _ => ⟨same, nofun⟩) ?_ ?_
  · intro _ e _ fails
    simp [Stmt.exec, SsoSessionStmt.exec] at fails
  · intro _ _ _ extended
    simp only [Stmt.exec, SsoSessionStmt.exec, Prod.mk.injEq, true_and] at extended
    refine ⟨⟨_, SsoKept.extend _ _ _, extended.symm⟩, ?_⟩
    rintro _ _ ⟨⟩
    obtain ⟨user, found, ok⟩ := (Option.any_eq_true _ _).mp active
    exact ⟨⟨session, here, hash, rfl, rfl⟩, ⟨now, user, found, by simpa using ok⟩, member⟩

/-- A stored consent covers the scopes of a request that need one. -/
def ConsentCovers (D : Deploy) (s : Store) (tenantId : TenantId) (userId : Uuid) (clientId : String)
    (scope : List String) : Prop :=
  scopesNeedingConsent scope = [] ∨ ∃ consent ∈ s.consents,
    consent.hasKey D tenantId userId clientId = true ∧
      consent.covers (scopesNeedingConsent scope) = true

/-- The consent check only reads. -/
lemma hasConsent_always {userId : Uuid} {clientId : String} {scope : List String} :
    always (exec D) (hasConsent tenantId userId clientId scope) s (fun r s' =>
      s' = s ∧ (r = .ok true → ConsentCovers D s tenantId userId clientId scope)) := by
  unfold hasConsent
  split
  · rename_i empty
    exact ⟨rfl, fun _ => .inl (List.isEmpty_iff.mp empty)⟩
  · simp only [op, always_bind, always_db, Stmt.exec, ConsentStmt.exec]
    refine ⟨fun _ => ⟨rfl, by rintro ⟨⟩⟩, fun _ => ?_⟩
    simp only [always_ret]
    cases row : s.consents.find? (·.hasKey D tenantId userId clientId) with
    | none => exact ⟨rfl, by rintro ⟨⟩⟩
    | some consent =>
      refine ⟨rfl, fun covers => .inr ⟨consent, List.mem_of_find?_eq_some row, ?_, ?_⟩⟩
      · exact List.find?_some row
      · exact Except.ok.inj covers

lemma checkConsent_always {userId : Uuid} {clientId : String} {scope : List String} :
    always (exec D) (checkConsent tenantId userId clientId scope) s (fun r s' =>
      s' = s ∧ (r = true → ConsentCovers D s tenantId userId clientId scope)) := by
  rw [checkConsent, always_bind]
  refine always_mono hasConsent_always ?_
  rintro (e | _ | _) _ ⟨rfl, covers⟩
  · exact ⟨rfl, nofun⟩
  · exact ⟨rfl, nofun⟩
  · exact ⟨rfl, fun _ => covers rfl⟩

/-! ## The ends of a request -/

/-- What `authorize` answers and leaves behind. -/
inductive AuthorizeEnd (D : Deploy) (tenantId : TenantId) (req : AuthorizeRequest) (s : Store) :
    AuthorizeOutcome → Store → Prop where
  | fatal (error : OAuthErrorCode) (description : String) :
    AuthorizeEnd D tenantId req s (.fatalError error description) s
  /-- Client and redirect URI are registered, another parameter is wrong. -/
  | invalid {client : Client} {uri : String} {error : OAuthErrorCode} {description : String}
    (registered : Registered D s tenantId req client uri) :
    AuthorizeEnd D tenantId req s
      (.errorRedirect (errorRedirectWithState D uri error description (nonEmpty req.state))) s
  /-- The request is valid and ends in an error. -/
  | refused {f : AuthorizeFlow} {rows : List SsoSession} {error : OAuthErrorCode}
    {description : String} (valid : Validated D s tenantId req f) (sso : SsoKept s.ssoSessions rows) :
    AuthorizeEnd D tenantId req s (f.errorRedirect D error description)
      { s with ssoSessions := rows }
  /-- The user has to log in on a new auth session. -/
  | login {f : AuthorizeFlow} {rows : List SsoSession} {id : String} {now : DateTime}
    (valid : Validated D s tenantId req f) (sso : SsoKept s.ssoSessions rows) :
    AuthorizeEnd D tenantId req s (.loginRequired id)
      { s with
        ssoSessions := rows
        authSessions := s.authSessions ++ [f.authSession D id now none] }
  /-- The user of a resumed SSO session has to consent on a new auth session. -/
  | consent {f : AuthorizeFlow} {rows : List SsoSession} {id sessionId : String} {now : DateTime}
    {userId : Uuid} {authTime : DateTime} (valid : Validated D s tenantId req f)
    (sso : SsoKept s.ssoSessions rows) (cookie : nonEmpty req.ssoSessionId = some sessionId)
    (resumed : Resumed D s tenantId sessionId userId authTime)
    (unforced : req.prompt ≠ some "login") :
    AuthorizeEnd D tenantId req s (.consentRequired id)
      { s with
        ssoSessions := rows
        authSessions := s.authSessions ++ [f.authSession D id now (some (userId, authTime))] }
  /-- The user of a resumed SSO session has consented before. -/
  | issued {f : AuthorizeFlow} {rows : List SsoSession} {code sessionId : String} {now : DateTime}
    {userId : Uuid} {authTime : DateTime} (valid : Validated D s tenantId req f)
    (sso : SsoKept s.ssoSessions rows) (cookie : nonEmpty req.ssoSessionId = some sessionId)
    (resumed : Resumed D s tenantId sessionId userId authTime)
    (unforced : req.prompt ≠ some "login" ∧ req.prompt ≠ some "consent")
    (consented : ConsentCovers D s tenantId userId f.client.clientId f.scope) :
    AuthorizeEnd D tenantId req s (.redirect (codeRedirect D f.redirectUri code f.state))
      { s with
        ssoSessions := rows
        codes := s.codes ++ [(f.issueCommand userId authTime).record D code now] }

section
variable {f : AuthorizeFlow} {rows : List SsoSession} {Q : AuthorizeOutcome → Store → Prop}

/-- A session is created, or an error is answered. -/
lemma startSession_always {authentication : Option (Uuid × DateTime)} {failure : String}
    {answer : String → AuthorizeOutcome}
    (fails : ∀ error description, Q (f.errorRedirect D error description) s)
    (created : ∀ id now, Q (answer id)
      { s with authSessions := s.authSessions ++ [f.authSession D id now authentication] }) :
    always (exec D) (startSession D f authentication failure answer) s Q := by
  simp only [startSession, op, always_bind, always_clock, always_randomHex, always_db, always_ret,
    pure_eq]
  refine fun clock draw => ⟨fun _ => fails _ _, fun _ => ?_⟩
  simp only [Stmt.exec, AuthSessionStmt.exec]
  split_ifs
  · exact fails _ _
  · exact fails _ _
  · exact created _ _

/-- A code is created, or nothing is. -/
lemma issueCode_always {cmd : IssueCodeCommand} {Q : DbResult String → Store → Prop}
    (fails : ∀ e, Q (.error e) s)
    (created : ∀ code now, Q (.ok code) { s with codes := s.codes ++ [cmd.record D code now] }) :
    always (exec D) (issueCode D cmd) s Q := by
  simp only [issueCode, op, always_bind, always_randomToken, always_clock, always_db, always_ret,
    pure_eq]
  refine fun draw clock => ⟨fun e => fails e, fun _ => ?_⟩
  simp only [Stmt.exec, CodeStmt.exec]
  split_ifs
  · exact fails _
  · exact fails _
  · exact created _ _

lemma requireLogin_always {promptNone : Bool} (valid : Validated D s tenantId req f)
    (sso : SsoKept s.ssoSessions rows) :
    always (exec D) (requireLogin D f promptNone) { s with ssoSessions := rows }
      (AuthorizeEnd D tenantId req s) := by
  unfold requireLogin
  split
  · exact .refused valid sso
  · exact startSession_always (fun _ _ => .refused valid sso) fun _ _ => .login valid sso

lemma resumed_always {sessionId : String} {userId : Uuid} {authTime : DateTime}
    (valid : Validated D s tenantId req f) (sso : SsoKept s.ssoSessions rows)
    (cookie : nonEmpty req.ssoSessionId = some sessionId)
    (resumed : Resumed D s tenantId sessionId userId authTime)
    (unforced : req.prompt ≠ some "login") :
    always (exec D)
      (IdpMvp.resumed D f (req.prompt = some "consent") (req.prompt = some "none") userId authTime)
      { s with ssoSessions := rows } (AuthorizeEnd D tenantId req s) := by
  have ask : always (exec D)
      (if decide (req.prompt = some "none") = true then
        pure (f.errorRedirect D .consentRequired "consent required")
      else startSession D f (some (userId, authTime)) "failed to start consent" .consentRequired)
      { s with ssoSessions := rows } (AuthorizeEnd D tenantId req s) := by
    split
    · exact .refused valid sso
    · exact startSession_always (fun _ _ => .refused valid sso)
        fun _ _ => .consent valid sso cookie resumed unforced
  by_cases forced : req.prompt = some "consent"
  · simpa only [IdpMvp.resumed, forced, decide_true, if_true, pure_eq, ret_bind, Bool.false_eq_true,
      if_false] using ask
  · simp only [IdpMvp.resumed, forced, decide_false, Bool.false_eq_true, if_false, always_bind]
    have tenant : f.tenantId = tenantId := by rw [valid.flow]; rfl
    rw [tenant]
    refine always_mono checkConsent_always ?_
    rintro consented _ ⟨rfl, covers⟩
    split
    · rename_i yes
      rw [always_bind]
      exact issueCode_always (fun _ => .refused valid sso)
        fun _ _ => .issued valid sso cookie resumed ⟨unforced, forced⟩ (covers yes)
    · exact ask

lemma maxAgeExceeded_always {maxAge : Option UInt64} {authTime : DateTime} :
    always (exec D) (maxAgeExceeded maxAge authTime) s (fun _ s' => s' = s) := by
  cases maxAge with
  | none => rfl
  | some maxAge => exact fun _ => rfl

lemma authorizeFlow_always (valid : Validated D s tenantId req f) :
    always (exec D) (authorizeFlow D f req) s (AuthorizeEnd D tenantId req s) := by
  have direct : always (exec D) (requireLogin D f (decide (req.prompt = some "none"))) s
      (AuthorizeEnd D tenantId req s) := requireLogin_always valid (SsoKept.refl _)
  have tenant : f.tenantId = tenantId := by rw [valid.flow]; rfl
  cases cookie : nonEmpty req.ssoSessionId with
  | none => simpa only [authorizeFlow, cookie] using direct
  | some sessionId =>
    by_cases forced : req.prompt = some "login"
    · simpa only [authorizeFlow, cookie, if_pos forced] using direct
    · simp only [authorizeFlow, cookie, if_neg forced, always_bind, tenant]
      refine always_mono tryResumeSso_always ?_
      rintro (e | _ | ⟨userId, authTime⟩) _ ⟨⟨rows, sso, rfl⟩, resumed⟩
      · exact requireLogin_always valid sso
      · exact requireLogin_always valid sso
      · simp only [always_bind]
        refine always_mono maxAgeExceeded_always ?_
        rintro exceeded _ rfl
        split
        · split
          · exact .refused valid sso
          · exact requireLogin_always valid sso
        · exact resumed_always valid sso cookie (resumed _ _ rfl) forced

end

/-- Every authorization request ends in one of these ways. -/
theorem authorize_always :
    always (exec D) (authorize D tenantId req) s (AuthorizeEnd D tenantId req s) := by
  unfold authorize
  rw [always_outcome]
  refine found_step (fun _ => .fatal _ _) fun clientId named => ?_
  refine read_step (fun _ => rfl) (fun _ => .fatal _ _) fun _ => ?_
  refine found_step (fun _ => .fatal _ _) fun client row => ?_
  refine ensure_step (fun _ => .fatal _ _) fun active => ?_
  refine found_step (fun _ => .fatal _ _) fun uri namedUri => ?_
  refine ensure_step (fun _ => .fatal _ _) fun allowed => ?_
  have registered : Registered D s tenantId req client uri :=
    ⟨by rw [AuthorizeRequest.client, named]; exact row, active, namedUri,
      by simpa [Client.allowsRedirectUri] using allowed⟩
  refine orThrow_step (fun _ _ => .invalid registered) fun _ valid => ?_
  rw [alwaysE_lift]
  exact authorizeFlow_always ⟨registered, valid, rfl⟩

/-! ## Redirects -/

/-- Query pairs appended one after another. -/
def Deploy.appendPairs (D : Deploy) (url : Url) (pairs : List (String × String)) : Url :=
  pairs.foldl (fun url p => D.urlAppendPair url p.1 p.2) url

/-- The location is a redirect URI registered for the client of the request with query pairs
appended; one of them is named `state` if the request has a state, and has that value. -/
def RegisteredLocation (D : Deploy) (s : Store) (tenantId : TenantId) (req : AuthorizeRequest)
    (location : String) : Prop :=
  ∃ client uri url pairs, Registered D s tenantId req client uri ∧ D.urlParse uri = some url ∧
    location = D.urlToString (D.appendPairs url pairs) ∧
    pairs.filter (·.1 = "state") = (nonEmpty req.state).toList.map (("state", ·))

/-- What the `url` crate says of its values: appending a pair keeps scheme, host and path, and
`query_pairs` reads the pairs back. -/
structure UrlLaws (D : Deploy) (endpoint : Url → String) (queryPairs : Url → List (String × String)) :
    Prop where
  endpoint : ∀ url key value, endpoint (D.urlAppendPair url key value) = endpoint url
  pairs : ∀ url key value, queryPairs (D.urlAppendPair url key value) = queryPairs url ++ [(key, value)]

lemma UrlLaws.appendPairs {endpoint : Url → String} {queryPairs : Url → List (String × String)}
    (laws : UrlLaws D endpoint queryPairs) (url : Url) (pairs : List (String × String)) :
    endpoint (D.appendPairs url pairs) = endpoint url ∧
      queryPairs (D.appendPairs url pairs) = queryPairs url ++ pairs := by
  induction pairs generalizing url with
  | nil => simp [Deploy.appendPairs]
  | cons p pairs ih =>
    obtain ⟨kept, read⟩ := ih (D.urlAppendPair url p.1 p.2)
    refine ⟨kept.trans (laws.endpoint _ _ _), read.trans ?_⟩
    rw [laws.pairs, List.append_assoc]
    rfl

/-- So the browser is sent to the scheme, host and path of a registered redirect URI. -/
theorem RegisteredLocation.endpoint {endpoint : Url → String}
    {queryPairs : Url → List (String × String)} (laws : UrlLaws D endpoint queryPairs)
    {location : String} (h : RegisteredLocation D s tenantId req location) :
    ∃ client uri url target, Registered D s tenantId req client uri ∧ D.urlParse uri = some url ∧
      location = D.urlToString target ∧ endpoint target = endpoint url := by
  obtain ⟨client, uri, url, pairs, registered, parsed, rfl, -⟩ := h
  exact ⟨client, uri, url, _, registered, parsed, rfl, (laws.appendPairs url pairs).1⟩

lemma Registered.errorLocation {client : Client} {uri : String} {error : OAuthErrorCode}
    {description location : String} (r : Registered D s tenantId req client uri)
    (h : errorRedirectWithState D uri error description (nonEmpty req.state) = some location) :
    RegisteredLocation D s tenantId req location := by
  obtain ⟨url, parsed, h⟩ := Option.map_eq_some_iff.mp h
  refine ⟨client, uri, url, [("error", error.asStr), ("error_description", description)] ++
    (nonEmpty req.state).toList.map (("state", ·)), r, parsed, ?_, ?_⟩
  · rw [← h]
    cases nonEmpty req.state <;> rfl
  · cases nonEmpty req.state <;> simp

lemma Validated.errorLocation {f : AuthorizeFlow} {error : OAuthErrorCode}
    {description location : String} (v : Validated D s tenantId req f)
    (h : errorRedirectWithState D f.redirectUri error description (some f.state) = some location) :
    RegisteredLocation D s tenantId req location :=
  v.registered.errorLocation (by rwa [v.state])

lemma Validated.codeLocation {f : AuthorizeFlow} {code location : String}
    (v : Validated D s tenantId req f)
    (h : codeRedirect D f.redirectUri code f.state = some location) :
    RegisteredLocation D s tenantId req location := by
  obtain ⟨url, parsed, rfl⟩ := Option.map_eq_some_iff.mp h
  refine ⟨f.client, f.redirectUri, url, [("code", code), ("state", f.state)], v.registered, parsed,
    rfl, ?_⟩
  rw [v.state]
  simp

/-! ## Scopes -/

/-- A stored flow is of the client and the redirect URI of the request, and its scopes are registered
for that client. -/
def WithinClient (D : Deploy) (s : Store) (tenantId : TenantId) (req : AuthorizeRequest)
    (ofTenant : TenantId) (clientId redirectUri : String) (scope : List String) : Prop :=
  ∃ client, Registered D s tenantId req client redirectUri ∧ ofTenant = tenantId ∧
    clientId = client.clientId ∧ Scope.openId.asStr ∈ scope ∧ ∀ x ∈ scope, x ∈ client.scopes

lemma Validated.within {f : AuthorizeFlow} (v : Validated D s tenantId req f) :
    WithinClient D s tenantId req f.tenantId f.client.clientId f.redirectUri f.scope := by
  obtain ⟨openId, scopes, -⟩ := validateRequest_ok v.valid
  have tenant : f.tenantId = tenantId := by rw [v.flow]; rfl
  have scope : f.scope = req.scopes := by rw [v.flow]; rfl
  exact ⟨f.client, v.registered, tenant, rfl, scope ▸ openId, scope ▸ scopes⟩

/-- What no request gets beyond. -/
structure Contained (D : Deploy) (tenantId : TenantId) (req : AuthorizeRequest) (s : Store)
    (outcome : AuthorizeOutcome) (s' : Store) : Prop where
  location : ∀ location, outcome = .redirect (some location) ∨ outcome = .errorRedirect (some location) →
    RegisteredLocation D s tenantId req location
  unregistered : (¬ ∃ client uri, Registered D s tenantId req client uri) →
    (∃ error description, outcome = .fatalError error description) ∧ s' = s
  codes : ∃ new, s'.codes = s.codes ++ new ∧ ∀ c ∈ new,
    WithinClient D s tenantId req c.tenantId c.clientId c.redirectUri c.scope
  authSessions : ∃ new, s'.authSessions = s.authSessions ++ new ∧ ∀ a ∈ new,
    WithinClient D s tenantId req a.tenantId a.clientId a.redirectUri a.scope

lemma AuthorizeEnd.contained {outcome : AuthorizeOutcome} {s' : Store}
    (h : AuthorizeEnd D tenantId req s outcome s') : Contained D tenantId req s outcome s' := by
  cases h with
  | fatal error description =>
    exact ⟨nofun, fun _ => ⟨⟨_, _, rfl⟩, rfl⟩, ⟨[], by simp⟩, ⟨[], by simp⟩⟩
  | invalid registered =>
    refine ⟨?_, fun none => (none ⟨_, _, registered⟩).elim, ⟨[], by simp⟩, ⟨[], by simp⟩⟩
    rintro location (h | h)
    · cases h
    · exact registered.errorLocation (AuthorizeOutcome.errorRedirect.inj h)
  | refused valid sso =>
    refine ⟨?_, fun none => (none ⟨_, _, valid.registered⟩).elim, ⟨[], by simp⟩, ⟨[], by simp⟩⟩
    rintro location (h | h)
    · cases h
    · exact valid.errorLocation (AuthorizeOutcome.errorRedirect.inj h)
  | login valid sso | consent valid sso =>
    exact ⟨nofun, fun none => (none ⟨_, _, valid.registered⟩).elim, ⟨[], by simp⟩,
      ⟨_, rfl, by simpa [AuthorizeFlow.authSession] using valid.within⟩⟩
  | issued valid sso =>
    refine ⟨?_, fun none => (none ⟨_, _, valid.registered⟩).elim,
      ⟨_, rfl, by simpa [AuthorizeFlow.issueCommand, IssueCodeCommand.record] using valid.within⟩,
      ⟨[], by simp⟩⟩
    rintro location (h | h)
    · exact valid.codeLocation (AuthorizeOutcome.redirect.inj h)
    · cases h

/-- Whatever the store, the request and the failures on the way, the authorization endpoint redirects
only to registered redirect URIs, refuses everything else without a trace, and stores only codes and
auth sessions within the registration of the client. -/
theorem authorize_contained (D : Deploy) (tenantId : TenantId) (req : AuthorizeRequest) (s : Store)
    (ins : Nat → Input) :
    Contained D tenantId req s ((authorize D tenantId req).run (exec D) ins s).1
      ((authorize D tenantId req).run (exec D) ins s).2 :=
  (authorize_always.run ins).contained

end IdpMvp
