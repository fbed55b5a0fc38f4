import IdpMvp.Token.Revocation

/-!
# One verdict on a token

What `/userinfo` and the introspection endpoint find out about a token at a moment is a function of the
store: `accessVerdict` for an access token, `refreshVerdict` for a refresh token. Each endpoint, in an
execution in which no statement fails, answers exactly what the verdict says. That the two verifiers of
access tokens agree follows, and that the hint does not matter.
-/

namespace IdpMvp

open Program Program.Prog Program.Flow Prog

variable {D : Deploy} {s : Store} {tenantId : TenantId} {token : String} {now : DateTime}
variable {ins : Nat → Input}

/-- No statement fails, and every clock shows `now`. -/
def AtRest (now : DateTime) (ins : Nat → Input) : Prop :=
  ∀ n, (ins n).fault = none ∧ (ins n).now = now

lemma AtRest.shift (rest : AtRest now ins) (m : Nat) : AtRest now (fun n => ins (n + m)) :=
  fun n => rest (n + m)

/-! ## Access tokens -/

/-- The claims of a token whose signature verifies under the stored key its header names. -/
def verifiedClaims (D : Deploy) (s : Store) (token : String) : Option AccessTokenClaims :=
  (D.jwtDecodeHeader token).toOption.bind fun header =>
    if header.typ = some "at+jwt" then
      header.kid.bind fun kid =>
        (s.signingKeys.find? fun k => D.coll k.kid = D.coll kid).bind fun key =>
          (decodingKeyFromPublicPem D key.publicKey).toOption.bind fun decodingKey =>
            (D.jwtDecode token decodingKey accessTokenValidation).toOption
    else none

/-- The claims are for the tenant, unexpired and not revoked. -/
def claimsStand (D : Deploy) (s : Store) (tenantId : TenantId) (now : DateTime)
    (claims : AccessTokenClaims) : Bool :=
  claims.iss = D.tenantIssuer tenantId && claims.aud = userinfoAudience (D.tenantIssuer tenantId) &&
    claims.exp + D.clockSkewSecs > DateTime.timestamp now &&
    (claims.jti = "" || !s.revokedAccessTokens.any fun r => D.coll r.jti = D.coll claims.jti)

/-- The active user of a subject. -/
def activeSubject (D : Deploy) (s : Store) (sub : String) : Option User :=
  (D.parseUuid sub).bind fun sub => (s.users.find? (·.sub = sub)).filter (·.isActive)

/-- The claims that verify and stand. -/
def standingClaims (D : Deploy) (s : Store) (tenantId : TenantId) (now : DateTime) (token : String) :
    Option AccessTokenClaims :=
  (verifiedClaims D s token).filter (claimsStand D s tenantId now)

/-- The claims and the user of an access token that is good in the tenant at a moment. -/
def accessVerdict (D : Deploy) (s : Store) (tenantId : TenantId) (now : DateTime) (token : String) :
    Option (AccessTokenClaims × User) :=
  (standingClaims D s tenantId now token).bind fun claims =>
    (activeSubject D s claims.sub).map fun user => (claims, user)

lemma isJtiRevoked_atRest {jti : String} (rest : AtRest now ins) :
    (isJtiRevoked jti).wp (exec D) ins s (fun r s' _ => s' = s ∧
      r = .ok (!(jti = "" || !s.revokedAccessTokens.any fun r => D.coll r.jti = D.coll jti))) := by
  unfold isJtiRevoked
  split
  · rename_i empty
    exact ⟨rfl, by simp [empty]⟩
  · rename_i nonempty
    simp only [op, wp_db, (rest 0).1, Stmt.exec, RevokedAccessTokenStmt.exec, wp_ret]
    exact ⟨by rintro _ ⟨⟩, fun _ => ⟨trivial, by simp [nonempty]⟩⟩

/-- `verify_access_token` returns the claims exactly if they verify and stand. -/
lemma verifyAccessToken_atRest (rest : AtRest now ins) :
    wpE (exec D) (verifyAccessToken D tenantId token) ins s
      (fun claims s' _ => s' = s ∧ standingClaims D s tenantId now token = some claims)
      (fun _ s' _ => s' = s ∧ standingClaims D s tenantId now token = none) := by
  unfold verifyAccessToken standingClaims verifiedClaims
  refine wpE_orThrow_split (fun _ h => ⟨rfl, by rw [h]; rfl⟩) fun header decoded => ?_
  simp only [decoded, Except.toOption, Option.bind_some]
  refine wpE_ensure_split (fun h => ⟨rfl, by rw [if_neg (of_decide_eq_false h)]; rfl⟩) fun typ => ?_
  simp only [if_pos (of_decide_eq_true typ)]
  refine wpE_found_split (fun h => ⟨rfl, by rw [h]; rfl⟩) fun kid hkid => ?_
  simp only [hkid, Option.bind_some]
  refine wpE_db_step (rest 0).1 rfl ?_
  refine wpE_found_split (fun h => ⟨rfl, by rw [h]; rfl⟩) fun key row => ?_
  simp only [row, Option.bind_some]
  refine wpE_orThrow_split (fun _ h => ⟨rfl, by rw [h]; rfl⟩) fun dk loaded => ?_
  simp only [loaded, Option.bind_some]
  refine wpE_orThrow_split (fun _ h => ⟨rfl, by rw [h]; rfl⟩) fun claims verified => ?_
  simp only [verified, Option.filter, claimsStand]
  refine wpE_ensure_split (fun h => ⟨rfl, by simp [h]⟩) fun iss => ?_
  refine wpE_ensure_split (fun h => ⟨rfl, by simp [h]⟩) fun aud => ?_
  refine wpE_clock_step ?_
  rw [(rest 1).2]
  refine wpE_ensure_split (fun h => ⟨rfl, by simp [h]⟩) fun unexpired => ?_
  rw [wpE_bind, wpE_orLeave]
  refine wp_mono (isJtiRevoked_atRest (rest.shift 2)) ?_
  rintro _ _ _ ⟨rfl, rfl⟩
  refine wpE_ensure_split (fun h => ⟨rfl, ?_⟩) fun live => ⟨rfl, ?_⟩
  · rw [Bool.not_not] at h
    simp [h]
  · rw [Bool.not_not] at live
    simp only [iss, aud, unexpired, live]
    rfl

/-- `/userinfo` answers exactly to a good access token with the scope `openid`. -/
lemma userinfo_atRest (rest : AtRest now ins) :
    wpE (exec D) (userinfo D tenantId token) ins s
      (fun info _ _ => ∃ claims user, accessVerdict D s tenantId now token = some (claims, user) ∧
        Scope.openId.asStr ∈ splitWhitespace claims.scope ∧ info.sub = D.uuidToString user.sub)
      (fun _ _ _ => ∀ claims user, accessVerdict D s tenantId now token = some (claims, user) →
        Scope.openId.asStr ∉ splitWhitespace claims.scope) := by
  unfold userinfo accessVerdict
  refine wpE_bind_of (wpE_mono (verifyAccessToken_atRest rest) (fun _ _ _ h => h) ?_) ?_
  · rintro _ _ _ ⟨-, none⟩
    simp [none]
  rintro claims s tr ⟨rfl, standing⟩
  simp only [standing, Option.bind_some, activeSubject]
  refine wpE_ensure_split (fun h => ?_) fun openid => ?_
  · intro c user verdict
    obtain ⟨u, -, eq⟩ := Option.map_eq_some_iff.mp verdict
    obtain ⟨rfl, -⟩ := Prod.mk.inj eq
    simpa using h
  refine wpE_found_split (fun h => by simp [h]) fun sub parsed => ?_
  simp only [parsed, Option.bind_some]
  refine wpE_db_step (rest _).1 rfl ?_
  refine wpE_found_split (fun h => by rw [h]; rintro _ _ ⟨⟩) fun user row => ?_
  simp only [row, Option.filter]
  refine wpE_ensure_split (fun h => by simp [h]) fun active => ?_
  rw [if_pos active]
  exact ⟨claims, user, rfl, by simpa using openid, rfl⟩

lemma subjectIsActive_atRest {sub : String} (rest : AtRest now ins) :
    (subjectIsActive D sub).wp (exec D) ins s
      (fun r s' _ => s' = s ∧ r = (activeSubject D s sub).isSome) := by
  unfold subjectIsActive activeSubject
  cases D.parseUuid sub with
  | none => exact ⟨rfl, rfl⟩
  | some sub =>
    simp only [op, wp_bind, wp_db, (rest 0).1, Stmt.exec, UserStmt.exec, Option.bind_some]
    refine ⟨by rintro _ ⟨⟩, fun _ => ?_⟩
    cases s.users.find? (·.sub = sub) with
    | none => exact ⟨rfl, rfl⟩
    | some user =>
      refine ⟨rfl, ?_⟩
      rw [Option.filter]
      split <;> simp_all

/-- Introspection of an access token answers what the verdict says. -/
lemma introspectAccessToken_atRest (rest : AtRest now ins) :
    (introspectAccessToken D token (D.tenantIssuer tenantId)).wp (exec D) ins s (fun r s' _ => s' = s ∧
      r = ((accessVerdict D s tenantId now token).map (·.1.response)).getD .inactive) := by
  unfold introspectAccessToken accessVerdict standingClaims verifiedClaims
  rw [wp_outcome]
  refine wpE_orThrow_split (fun _ h => ⟨rfl, by rw [h]; rfl⟩) fun header decoded => ?_
  simp only [decoded, Except.toOption, Option.bind_some]
  refine wpE_ensure_split (fun h => ⟨rfl, by rw [if_neg (of_decide_eq_false h)]; rfl⟩) fun typ => ?_
  simp only [if_pos (of_decide_eq_true typ)]
  refine wpE_found_split (fun h => ⟨rfl, by rw [h]; rfl⟩) fun kid hkid => ?_
  simp only [hkid, Option.bind_some]
  refine wpE_db_step (rest 0).1 rfl ?_
  refine wpE_found_split (fun h => ⟨rfl, by rw [h]; rfl⟩) fun key row => ?_
  simp only [row, Option.bind_some]
  refine wpE_orThrow_split (fun _ h => ⟨rfl, by rw [h]; rfl⟩) fun dk loaded => ?_
  simp only [loaded, Option.bind_some]
  refine wpE_orThrow_split (fun _ h => ⟨rfl, by rw [h]; rfl⟩) fun claims verified => ?_
  simp only [verified, Option.filter, claimsStand]
  refine wpE_ensure_split (fun h => ⟨rfl, by simp [h]⟩) fun named => ?_
  refine wpE_clock_step ?_
  rw [(rest 1).2]
  refine wpE_ensure_split (fun h => ⟨rfl, by simp [h]⟩) fun unexpired => ?_
  rw [wpE_bind, wpE_orLeave]
  refine wp_mono (isJtiRevoked_atRest (rest.shift 2)) ?_
  rintro _ _ tr ⟨rfl, rfl⟩
  refine wpE_ensure_split (fun h => ⟨rfl, ?_⟩) fun live => ?_
  · rw [Bool.not_not] at h
    simp [h]
  rw [Bool.not_not] at live
  simp only [named, unexpired, live, Bool.and_self, if_true, Option.bind_some]
  rw [wpE_bind, wpE_lift]
  refine wp_mono (subjectIsActive_atRest ((rest.shift 2).shift tr.length)) ?_
  rintro _ _ _ ⟨rfl, rfl⟩
  refine wpE_ensure_split (fun h => ⟨rfl, ?_⟩) fun active => ⟨rfl, ?_⟩
  · rw [Option.isSome_eq_false_iff, Option.isNone_iff_eq_none] at h
    rw [h]
    rfl
  · obtain ⟨user, active⟩ := Option.isSome_iff_exists.mp active
    rw [active]
    rfl

/-! ## Refresh tokens -/

/-- The row of a refresh token that is good in the tenant at a moment. -/
def refreshVerdict (D : Deploy) (s : Store) (tenantId : TenantId) (now : DateTime) (token : String) :
    Option RefreshToken :=
  (s.refreshTokens.find? fun t => t.tokenHash = D.sha256Hex token ∧ t.tenantId = tenantId).filter
    fun rt => rt.isValidAt now && (s.users.find? (·.id = rt.userId)).any (·.isActive)

lemma introspectRefreshToken_atRest {issuer : String} (rest : AtRest now ins) :
    (introspectRefreshToken D tenantId token issuer).wp (exec D) ins s (fun r s' _ => s' = s ∧
      r = ((refreshVerdict D s tenantId now token).map (·.response D issuer)).getD .inactive) := by
  unfold introspectRefreshToken refreshVerdict
  rw [wp_outcome]
  refine wpE_db_step (rest 0).1 rfl ?_
  refine wpE_found_split (fun h => ⟨rfl, by rw [h]; rfl⟩) fun rt row => ?_
  simp only [row, Option.filter]
  refine wpE_clock_step ?_
  rw [(rest 1).2]
  refine wpE_ensure_split (fun h => ⟨rfl, by simp [h]⟩) fun valid => ?_
  refine wpE_db_step (rest 2).1 rfl ?_
  refine wpE_ensure_split (fun h => ⟨rfl, by simp [h]⟩) fun active => ⟨rfl, ?_⟩
  simp only [valid, active, Bool.and_self, if_true]
  rfl

/-! ## The two together -/

/-- What introspection answers at a moment, under a hint. -/
def introspectionVerdict (D : Deploy) (s : Store) (tenantId : TenantId) (now : DateTime) (token : String)
    (hint : Option String) : IntrospectionResponse :=
  let access := (accessVerdict D s tenantId now token).map (·.1.response)
  let refresh := (refreshVerdict D s tenantId now token).map (·.response D (D.tenantIssuer tenantId))
  if hint = some "refresh_token" then (refresh.or access).getD .inactive
  else (access.or refresh).getD .inactive

/-- The client that introspects is authenticated. -/
def Introspects (D : Deploy) (s : Store) (tenantId : TenantId) (clientId : String)
    (basic : Option (String × String)) (ins : Nat → Input) : Prop :=
  ∃ client, ((authenticateConfidentialClient D tenantId clientId basic).run.run (exec D) ins s).1 = .ok client

lemma introspect_atRest {hint : Option String} {clientId : String} {basic : Option (String × String)}
    (rest : AtRest now ins) (nonempty : token ≠ "") (client : Introspects D s tenantId clientId basic ins) :
    ((introspect D tenantId token hint clientId basic).run.run (exec D) ins s).1 =
      .ok (introspectionVerdict D s tenantId now token hint) := by
  obtain ⟨client, authenticated⟩ := client
  have start : wpE (exec D) (authenticateConfidentialClient D tenantId clientId basic) ins s
      (fun _ s' _ => s' = s) (fun _ _ _ => False) := by
    rw [wpE, wp_iff_run, authenticated]
    exact authenticateConfidentialClient_always.run_ok authenticated
  have answers : wpE (exec D) (introspect D tenantId token hint clientId basic) ins s
      (fun resp _ _ => resp = introspectionVerdict D s tenantId now token hint) (fun _ _ _ => False) := by
    unfold introspect introspectionVerdict
    rw [if_neg nonempty]
    refine wpE_bind_of start ?_
    rintro _ _ tr rfl
    dsimp only
    split
    · rw [wpE_bind, wpE_lift]
      refine wp_mono (introspectRefreshToken_atRest (rest.shift _)) ?_
      rintro _ _ tr' ⟨rfl, rfl⟩
      cases refreshVerdict D _ tenantId now token with
      | some rt => rfl
      | none =>
        simp only [Option.map_none, Option.getD_none, IntrospectionResponse.inactive, Bool.false_eq_true,
          if_false, wpE_lift]
        refine wp_mono (introspectAccessToken_atRest ((rest.shift tr.length).shift tr'.length)) ?_
        exact fun _ _ _ h => h.2
    · rw [wpE_bind, wpE_lift]
      refine wp_mono (introspectAccessToken_atRest (rest.shift _)) ?_
      rintro _ _ tr' ⟨rfl, rfl⟩
      cases accessVerdict D _ tenantId now token with
      | some verdict => rfl
      | none =>
        simp only [Option.map_none, Option.getD_none, IntrospectionResponse.inactive, Bool.false_eq_true,
          if_false, wpE_lift]
        refine wp_mono (introspectRefreshToken_atRest ((rest.shift tr.length).shift tr'.length)) ?_
        exact fun _ _ _ h => h.2
  obtain ⟨resp, answered, rfl⟩ := answers.returns
  exact answered

/-! ## Agreement -/

/-- Signatures cannot be forged: what verifies under a stored key has claims `TokenService` has signed. -/
def Unforgeable (D : Deploy) (s : Store) (token : String) : Prop :=
  ∀ claims, verifiedClaims D s token = some claims → ∃ tenantId user clientId scope iat jti,
    claims = accessTokenClaims D tenantId user clientId scope iat jti

/-- A text with the hash of a stored refresh token is a random token. -/
def RefreshDrawn (D : Deploy) (s : Store) (token : String) : Prop :=
  ∀ t ∈ s.refreshTokens, t.tokenHash = D.sha256Hex token → ∃ bytes, token = base64Url bytes

section
variable {pairs : EncodingKey → DecodingKey → Prop}

/-- Only a text with a dot is a good access token. -/
lemma accessVerdict_dot (jwt : JwtLaws D pairs) {verdict : AccessTokenClaims × User}
    (good : accessVerdict D s tenantId now token = some verdict) : '.' ∈ token.toList := by
  unfold accessVerdict standingClaims verifiedClaims at good
  cases decoded : D.jwtDecodeHeader token with
  | error e =>
    rw [decoded] at good
    cases good
  | ok header => exact jwt.dotted decoded

/-- No text is a good token of both kinds. -/
lemma verdicts_apart (jwt : JwtLaws D pairs) (drawn : RefreshDrawn D s token) :
    accessVerdict D s tenantId now token = none ∨ refreshVerdict D s tenantId now token = none := by
  cases good : accessVerdict D s tenantId now token with
  | none => exact .inl rfl
  | some verdict =>
    right
    have none : (s.refreshTokens.find? fun t => t.tokenHash = D.sha256Hex token ∧ t.tenantId = tenantId) =
        none := by
      refine List.find?_eq_none.mpr fun t mem h => ?_
      obtain ⟨bytes, rfl⟩ := drawn t mem (of_decide_eq_true h).1
      exact base64Url_dot bytes (accessVerdict_dot jwt good)
    rw [refreshVerdict, none]
    rfl

/-- So the hint does not matter: introspection answers for whichever the token is. -/
lemma introspectionVerdict_eq (jwt : JwtLaws D pairs) (drawn : RefreshDrawn D s token)
    (hint : Option String) :
    introspectionVerdict D s tenantId now token hint =
      (((accessVerdict D s tenantId now token).map (·.1.response)).or
        ((refreshVerdict D s tenantId now token).map (·.response D (D.tenantIssuer tenantId)))).getD
          .inactive := by
  simp only [introspectionVerdict]
  split
  · have apart : accessVerdict D s tenantId now token = none ∨
        refreshVerdict D s tenantId now token = none := verdicts_apart jwt drawn
    rcases apart with bad | bad
    · rw [bad, Option.map_none, Option.or_none, Option.none_or]
    · rw [bad, Option.map_none, Option.or_none, Option.none_or]
  · rfl

/-- It reports an access token exactly on a good one. -/
lemma introspectionVerdict_access {claims : AccessTokenClaims} {user : User}
    (jwt : JwtLaws D pairs) (drawn : RefreshDrawn D s token) (hint : Option String)
    (good : accessVerdict D s tenantId now token = some (claims, user)) :
    introspectionVerdict D s tenantId now token hint = claims.response := by
  rw [introspectionVerdict_eq jwt drawn, good]
  rfl

lemma accessVerdict_of_bearer (jwt : JwtLaws D pairs) (drawn : RefreshDrawn D s token)
    (hint : Option String)
    (bearer : (introspectionVerdict D s tenantId now token hint).tokenType = some "Bearer") :
    ∃ claims user, accessVerdict D s tenantId now token = some (claims, user) := by
  rw [introspectionVerdict_eq jwt drawn] at bearer
  cases good : accessVerdict D s tenantId now token with
  | some verdict => exact ⟨verdict.1, verdict.2, rfl⟩
  | none =>
    rw [good, Option.map_none, Option.none_or] at bearer
    cases refreshed : refreshVerdict D s tenantId now token with
    | none =>
      rw [refreshed] at bearer
      cases bearer
    | some rt =>
      rw [refreshed] at bearer
      have kind : some "refresh_token" = some "Bearer" := bearer
      exact absurd kind (by decide)

/-- The subject of a good access token is its user's. -/
lemma accessVerdict_sub (uuid : UuidLaws D) (sound : Unforgeable D s token) {claims : AccessTokenClaims}
    {user : User} (good : accessVerdict D s tenantId now token = some (claims, user)) :
    claims.sub = D.uuidToString user.sub := by
  obtain ⟨c, standing, found⟩ := Option.bind_eq_some_iff.mp good
  obtain ⟨u, active, eq⟩ := Option.map_eq_some_iff.mp found
  obtain ⟨rfl, rfl⟩ := Prod.mk.inj eq
  obtain ⟨verified, -⟩ := Option.filter_eq_some_iff.mp standing
  obtain ⟨tenant, user, clientId, scope, iat, jti, rfl⟩ := sound _ verified
  have parsed : D.parseUuid (accessTokenClaims D tenant user clientId scope iat jti).sub = some user.sub :=
    uuid.parse user.sub
  rw [activeSubject, parsed, Option.bind_some] at active
  have named := List.find?_some (Option.filter_eq_some_iff.mp active).1
  rw [of_decide_eq_true named]
  rfl

/-- What `/userinfo` answers at a moment. -/
lemma userinfo_answer (D : Deploy) (s : Store) (tenantId : TenantId) (token : String)
    (rest : AtRest now ins) :
    (∃ info claims user, ((userinfo D tenantId token).run.run (exec D) ins s).1 = .ok info ∧
      accessVerdict D s tenantId now token = some (claims, user) ∧
      Scope.openId.asStr ∈ splitWhitespace claims.scope ∧ info.sub = D.uuidToString user.sub) ∨
    (∃ e, ((userinfo D tenantId token).run.run (exec D) ins s).1 = .error e ∧
      ∀ claims user, accessVerdict D s tenantId now token = some (claims, user) →
        Scope.openId.asStr ∉ splitWhitespace claims.scope) := by
  have answer : wpE (exec D) (userinfo D tenantId token) ins s _ _ := userinfo_atRest rest
  rw [wpE, wp_iff_run] at answer
  cases result : ((userinfo D tenantId token).run.run (exec D) ins s).1 with
  | ok info =>
    rw [result] at answer
    obtain ⟨claims, user, h⟩ := answer
    exact .inl ⟨info, claims, user, rfl, h⟩
  | error e =>
    rw [result] at answer
    exact .inr ⟨e, rfl, answer⟩

/-- Introspection reports the text active, as an access token with the scope `openid`. -/
def ReportsOpenId (resp : IntrospectionResponse) : Prop :=
  resp.active = true ∧ resp.tokenType = some "Bearer" ∧
    ∃ scope, resp.scope = some scope ∧ Scope.openId.asStr ∈ splitWhitespace scope

/-- At every moment and in every store, `/userinfo` answers to a text exactly if introspection reports it
active as an access token with the scope `openid`; both then name the same subject; and introspection
answers the same whatever the hint. -/
theorem verifiers_agree (jwt : JwtLaws D pairs) (uuid : UuidLaws D) (sound : Unforgeable D s token)
    (drawn : RefreshDrawn D s token) {ins' : Nat → Input} (rest : AtRest now ins)
    (rest' : AtRest now ins') {clientId : String} {basic : Option (String × String)}
    (client : Introspects D s tenantId clientId basic ins') (hint : Option String) :
    ∃ resp, ((introspect D tenantId token hint clientId basic).run.run (exec D) ins' s).1 = .ok resp ∧
      ((∃ info, ((userinfo D tenantId token).run.run (exec D) ins s).1 = .ok info) ↔ ReportsOpenId resp) ∧
      (∀ info, ((userinfo D tenantId token).run.run (exec D) ins s).1 = .ok info →
        resp.sub = some info.sub) ∧
      ∀ hint', ((introspect D tenantId token hint' clientId basic).run.run (exec D) ins' s).1 = .ok resp := by
  by_cases empty : token = ""
  · -- An empty text is inactive before the client is looked at, and no JWT.
    subst empty
    have bad : accessVerdict D s tenantId now "" = none := by
      refine Option.eq_none_iff_forall_ne_some.mpr fun verdict good => ?_
      exact absurd (accessVerdict_dot jwt good) (by simp)
    have refused : ¬ ∃ info, ((userinfo D tenantId "").run.run (exec D) ins s).1 = .ok info := by
      rintro ⟨info, ok⟩
      obtain ⟨_, claims, user, -, good, -⟩ | ⟨e, error, -⟩ := userinfo_answer D s tenantId "" rest
      · cases bad.symm.trans good
      · cases ok.symm.trans error
    refine ⟨.inactive, rfl, iff_of_false refused (fun h => by cases h.1), ?_, fun _ => rfl⟩
    exact fun info ok => absurd ⟨info, ok⟩ refused
  have responds : ∀ hint', ((introspect D tenantId token hint' clientId basic).run.run (exec D) ins' s).1 =
      .ok (introspectionVerdict D s tenantId now token hint) := by
    intro hint'
    rw [introspect_atRest rest' empty client, introspectionVerdict_eq jwt drawn hint',
      introspectionVerdict_eq jwt drawn hint]
  refine ⟨_, responds hint, ?_⟩
  obtain ⟨info, claims, user, ok, good, openid, sub⟩ | ⟨e, error, lacks⟩ :=
    userinfo_answer D s tenantId token rest
  · rw [introspectionVerdict_access jwt drawn hint good] at responds ⊢
    refine ⟨iff_of_true ⟨info, ok⟩ ⟨rfl, rfl, _, rfl, openid⟩, fun info' ok' => ?_, responds⟩
    obtain rfl := Except.ok.inj (ok.symm.trans ok')
    rw [sub]
    exact congrArg some (accessVerdict_sub uuid sound good)
  · have refused : ¬ ∃ info, ((userinfo D tenantId token).run.run (exec D) ins s).1 = .ok info :=
      fun ⟨_, ok⟩ => by cases ok.symm.trans error
    refine ⟨iff_of_false refused ?_, fun info ok => absurd ⟨info, ok⟩ refused, responds⟩
    rintro ⟨-, bearer, scope, stated, openid⟩
    obtain ⟨claims, user, good⟩ := accessVerdict_of_bearer jwt drawn hint bearer
    rw [introspectionVerdict_access jwt drawn hint good] at stated
    obtain rfl := Option.some.inj stated
    exact lacks claims user good openid

end

namespace Sample

/-- A resource server: a confidential client of tenant A. -/
def resourceServer : Client :=
  { publicClient tenantA "api" with
    clientSecretHash := some adminHash
    clientType := .confidential
    tokenEndpointAuthMethod := .clientSecretBasic }

/-- The store after the sample grant, with the resource server registered. -/
def inspectedStore : Store := { afterGrant with clients := resourceServer :: afterGrant.clients }

lemma atRest (b : UInt8) : AtRest Sample.now (fun _ => input b) := fun _ => ⟨rfl, rfl⟩

set_option maxRecDepth 4000 in
lemma resourceServer_introspects :
    Introspects deploy inspectedStore tenantA "api" (some ("api", "admin@example.com"))
      (fun _ => input 0) :=
  ⟨resourceServer, by decide +kernel⟩

set_option maxRecDepth 4000 in
lemma rsaAccessToken_unforgeable : Unforgeable deploy inspectedStore rsaAccessToken := by
  have verified : verifiedClaims deploy inspectedStore rsaAccessToken = some accessClaims := by
    decide +kernel
  have signed : accessClaims = accessTokenClaims deploy tenantA alice "app" ["openid", "offline_access"]
      1700000000 (deploy.uuidToString tokenJti) := by
    decide +kernel
  intro claims h
  obtain rfl := Option.some.inj (verified.symm.trans h)
  exact ⟨tenantA, alice, "app", _, _, _, signed⟩

/-- The only refresh token stored is the one of the sample grant. -/
lemma rsaAccessToken_drawn : RefreshDrawn deploy inspectedStore rsaAccessToken := by
  have other : ∀ t ∈ inspectedStore.refreshTokens, t.tokenHash ≠ deploy.sha256Hex rsaAccessToken := by
    decide +kernel
  intro t mem same
  exact absurd same (other t mem)

end Sample

open Sample in
set_option maxRecDepth 4000 in
/-- Both verifiers accept the access token of the sample grant, for the same subject. -/
theorem verifiers_agree_sample :
    ∃ resp info,
      ((introspect deploy tenantA rsaAccessToken (some "refresh_token") "api"
        (some ("api", "admin@example.com"))).run.run (exec deploy) (fun _ => input 0)
          inspectedStore).1 = .ok resp ∧
      ((userinfo deploy tenantA rsaAccessToken).run.run (exec deploy) (fun _ => input 1)
        inspectedStore).1 = .ok info ∧
      ReportsOpenId resp ∧ resp.sub = some info.sub := by
  obtain ⟨resp, answered, iff, sub, -⟩ := verifiers_agree jwtLaws uuidLaws rsaAccessToken_unforgeable
    rsaAccessToken_drawn (atRest 1) (atRest 0) resourceServer_introspects (some "refresh_token")
  have ok : ((userinfo deploy tenantA rsaAccessToken).run.run (exec deploy) (fun _ => input 1)
      inspectedStore).1 = .ok ⟨"018bcfe5-6800-7000-8000-0000000000a2", none, none, none, none⟩ := by
    decide +kernel
  exact ⟨resp, _, answered, ok, iff.mp ⟨_, ok⟩, sub _ ok⟩

end IdpMvp
