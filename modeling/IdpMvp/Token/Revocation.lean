import Mathlib.Data.List.TakeDrop
import Mathlib.Data.List.TakeWhile
import IdpMvp.Token.RoundTrip
import IdpMvp.Token.Revoking

/-!
# Revocation and its hint

`revoke` of `application/revocation.rs` tries its token as a refresh token and as an access token; the
hint decides which comes first, and the second attempt runs only if the first reports failure. But
`try_revoke_refresh_token` reports success whenever its `UPDATE` does, whether or not a row matched, so
without the hint `access_token` an access token is never revoked. A failure of the database is swallowed,
too.
-/

namespace IdpMvp

open Program Program.Prog Program.Flow Prog

variable {D : Deploy} {s : Store} {tenantId : TenantId} {token : String} {hint : Option String}
variable {ins : Nat → Input}

/-! ## Which attempt is made -/

/-- The request revokes refresh tokens by the hash of its token. The first statement on the tokens is its
third call, after the client and the clock; where that is the one on the `jti`, it has to fail first. -/
def RevokesRefresh (D : Deploy) (token : String) (hint : Option String) (ins : Nat → Input) : Prop :=
  if hint = some "access_token" ∧ (readJti D token).isSome then
    (ins 2).fault ≠ none ∧ (ins 3).fault = none
  else (ins 2).fault = none

/-- The request revokes the `jti` it reads from its token. -/
def RevokesAccess (D : Deploy) (token : String) (hint : Option String) (ins : Nat → Input) : Prop :=
  (readJti D token).isSome ∧
    if hint = some "access_token" then (ins 2).fault = none
    else (ins 2).fault ≠ none ∧ (ins 3).fault = none

/-- What a request that gets past its client does. -/
inductive RevokedBy (D : Deploy) (token : String) (hint : Option String) (ins : Nat → Input)
    (s : Store) : Store → Prop where
  | refresh (h : RevokesRefresh D token hint ins) :
    RevokedBy D token hint ins s
      (s.revokeRefreshTokens (·.tokenHash = D.sha256Hex token) (ins 1).now)
  | access (jti : String) (exp : Int) (read : readJti D token = some (jti, exp))
    (h : RevokesAccess D token hint ins) :
    RevokedBy D token hint ins s (s.revokeJti D (revokedEntry jti exp (ins 1).now))
  | nothing (h : ¬ RevokesRefresh D token hint ins) (h' : ¬ RevokesAccess D token hint ins) :
    RevokedBy D token hint ins s s

lemma tryRevokeRefreshToken_wp {now : DateTime} :
    (tryRevokeRefreshToken D token now).wp (exec D) ins s (fun done s' tr => tr.length = 1 ∧
      (((ins 0).fault = none ∧ done = true ∧
          s' = s.revokeRefreshTokens (·.tokenHash = D.sha256Hex token) now) ∨
        ((ins 0).fault ≠ none ∧ done = false ∧ s' = s))) := by
  unfold tryRevokeRefreshToken
  simp only [op_bind, wp_db, Stmt.exec, RefreshTokenStmt.exec, pure_eq, wp_ret]
  refine ⟨fun e fault => ?_, fun quiet => ?_⟩
  · simp [fault]
  · simp [quiet]

lemma tryRevokeAccessToken_wp {now : DateTime} :
    (tryRevokeAccessToken D token now).wp (exec D) ins s (fun done s' tr =>
      (readJti D token = none ∧ tr.length = 0 ∧ done = false ∧ s' = s) ∨
      ∃ jti exp, readJti D token = some (jti, exp) ∧ tr.length = 1 ∧
        (((ins 0).fault = none ∧ done = true ∧ s' = s.revokeJti D (revokedEntry jti exp now)) ∨
          ((ins 0).fault ≠ none ∧ done = false ∧ s' = s))) := by
  unfold tryRevokeAccessToken
  split
  · rename_i none
    exact .inl ⟨none, rfl, rfl, rfl⟩
  · rename_i jti exp read
    simp only [op_bind, wp_db, Stmt.exec, RevokedAccessTokenStmt.exec, pure_eq, wp_ret]
    refine ⟨fun e fault => .inr ⟨jti, exp, read, ?_⟩, fun quiet => .inr ⟨jti, exp, read, ?_⟩⟩
    · simp [fault]
    · simp [quiet, revokedEntry]

/-- The client of a revocation request passes: it is active and, where it has to, gives its secret. -/
def RevocationClientOk (D : Deploy) (s : Store) (tenantId : TenantId) (clientId : String)
    (basic : Option (String × String)) : Prop :=
  ∃ client, s.clients.find? (fun c => c.tenantId = tenantId ∧ D.coll c.clientId = D.coll clientId) =
      some client ∧ client.isActive = true ∧
    (client.tokenEndpointAuthMethod = .clientSecretBasic → ∃ secret hash,
      basic = some (clientId, secret) ∧ client.clientSecretHash = some hash ∧
      D.verifyPassword secret hash = .ok true)

/-- The client is one statement, and what is checked of its row. -/
lemma loadRevocationClient_wp {clientId : String} {basic : Option (String × String)} :
    wpE (exec D) (loadRevocationClient D tenantId clientId basic) ins s
      (fun _ s' tr => s' = s ∧ tr.length = 1 ∧ (ins 0).fault = none ∧
        RevocationClientOk D s tenantId clientId basic)
      (fun _ s' _ => s' = s ∧
        ¬ ((ins 0).fault = none ∧ RevocationClientOk D s tenantId clientId basic)) := by
  unfold loadRevocationClient
  rw [wpE_bind, wpE_orLeave, db, op, wp_db]
  refine ⟨fun e fault => ⟨rfl, by simp [fault]⟩, fun quiet => ?_⟩
  simp only [wp_ret, Stmt.exec, ClientStmt.exec, RevocationClientOk, quiet, true_and, wpE_bind,
    wpE_found, wpE_ensure]
  generalize s.clients.find? _ = row
  cases row with
  | none => simp
  | some client =>
    refine ⟨?_, by rintro ⟨⟩⟩
    rintro _ ⟨⟩
    cases active : client.isActive with
    | false => simp [active]
    | true =>
      refine ⟨fun _ => ?_, by rintro ⟨⟩⟩
      split
      · rename_i confidential
        obtain _ | ⟨cid, secret⟩ := basic
        · simp [confidential]
        · by_cases same : cid = clientId
          · subst same
            cases stored : client.clientSecretHash with
            | none => simp [confidential, stored]
            | some hash =>
              rcases verified : D.verifyPassword secret hash with _ | _ | _
              all_goals simp [confidential, stored, verified, active]
          · simp [confidential, same]
      · rename_i unauthenticated
        simp [unauthenticated, active]

/-- Both attempts, on the inputs that are left to them. -/
lemma revokeToken_wp {now : DateTime} (clock : (ins 1).now = now) :
    (revokeToken D token hint now).wp (exec D) (fun n => ins (n + 2)) s
      (fun _ s' _ => RevokedBy D token hint ins s s') := by
  subst clock
  unfold revokeToken
  split
  · rename_i access
    rw [wp_bind]
    refine wp_mono tryRevokeAccessToken_wp ?_
    rintro done s' tr (⟨none, len, rfl, rfl⟩ | ⟨jti, exp, read, len, ⟨quiet, rfl, rfl⟩ | ⟨fault, rfl, rfl⟩⟩)
    · have first : RevokesRefresh D token hint ins ↔ (ins 2).fault = .none := by
        simp [RevokesRefresh, none]
      have never : ¬ RevokesAccess D token hint ins := by simp [RevokesAccess, none]
      simp only [Bool.false_eq_true, if_false, wp_bind, len]
      refine wp_mono tryRevokeRefreshToken_wp ?_
      rintro _ s' _ ⟨-, ⟨quiet, -, rfl⟩ | ⟨fault, -, rfl⟩⟩
      · exact .refresh (first.mpr quiet)
      · exact .nothing (mt first.mp fault) never
    · simp only [if_true]
      exact .access jti exp read ⟨by simp [read], by simpa [access] using quiet⟩
    · have second : RevokesRefresh D token hint ins ↔ (ins 3).fault = .none := by
        simpa [RevokesRefresh, read, access] using fun _ => fault
      have never : ¬ RevokesAccess D token hint ins := by
        rintro ⟨-, quiet⟩
        rw [if_pos access] at quiet
        exact fault quiet
      simp only [Bool.false_eq_true, if_false, wp_bind, len]
      refine wp_mono tryRevokeRefreshToken_wp ?_
      rintro _ s' _ ⟨-, ⟨quiet, -, rfl⟩ | ⟨fault, -, rfl⟩⟩
      · exact .refresh (second.mpr quiet)
      · exact .nothing (mt second.mp fault) never
  · rename_i other
    have first : RevokesRefresh D token hint ins ↔ (ins 2).fault = .none := by
      simp [RevokesRefresh, other]
    rw [wp_bind]
    refine wp_mono tryRevokeRefreshToken_wp ?_
    rintro done s' tr ⟨len, ⟨quiet, rfl, rfl⟩ | ⟨fault, rfl, rfl⟩⟩
    · simp only [if_true]
      exact .refresh (first.mpr quiet)
    · simp only [Bool.false_eq_true, if_false, wp_bind, len]
      refine wp_mono tryRevokeAccessToken_wp ?_
      rintro _ s' _ (⟨none, -, -, rfl⟩ | ⟨jti, exp, read, -, ⟨quiet, -, rfl⟩ | ⟨fault', -, rfl⟩⟩)
      · exact .nothing (mt first.mp fault) (by simp [RevokesAccess, none])
      · exact .access jti exp read ⟨by simp [read], by rw [if_neg other]; exact ⟨fault, quiet⟩⟩
      · refine .nothing (mt first.mp fault) ?_
        rintro ⟨-, second⟩
        rw [if_neg other] at second
        exact fault' second.2

/-- What a revocation request does: it makes its attempts if its client passes, and nothing otherwise. -/
lemma revoke_wp {clientId : String} {basic : Option (String × String)} (nonempty : token ≠ "") :
    wpE (exec D) (revoke D tenantId token hint clientId basic) ins s
      (fun _ s' _ => ((ins 0).fault = none ∧ RevocationClientOk D s tenantId clientId basic) ∧
        RevokedBy D token hint ins s s')
      (fun _ s' _ => s' = s ∧
        ¬ ((ins 0).fault = none ∧ RevocationClientOk D s tenantId clientId basic)) := by
  unfold revoke
  rw [if_neg nonempty]
  refine wpE_bind_of loadRevocationClient_wp ?_
  rintro client _ tr ⟨rfl, len, ok⟩
  simp only [len]
  refine wpE_clock_step (Q := fun _ s' => _ ∧ RevokedBy D token hint ins _ s') (E := fun _ s' => s' = _ ∧ _) ?_
  rw [wpE_lift]
  exact wp_mono (revokeToken_wp rfl) fun _ _ _ w => ⟨ok, w⟩

/-- A revocation request that succeeds has made these attempts. -/
theorem revoke_ok {clientId : String} {basic : Option (String × String)} (nonempty : token ≠ "")
    (ok : ((revoke D tenantId token hint clientId basic).run.run (exec D) ins s).1 = .ok ()) :
    RevokedBy D token hint ins s
      ((revoke D tenantId token hint clientId basic).run.run (exec D) ins s).2 := by
  have w : wpE (exec D) (revoke D tenantId token hint clientId basic) ins s _ _ := revoke_wp nonempty
  rw [wpE, wp_iff_run, ok] at w
  exact w.2

/-! ## What is read from an issued token -/

lemma splitN_append {sep : Char} {part rest : List Char} (free : sep ∉ part) (n : Nat) :
    splitN (n + 2) sep (part ++ sep :: rest) = part :: splitN (n + 1) sep rest := by
  have keep : ∀ c ∈ part, decide (c ≠ sep) = true := by
    intro c mem
    exact decide_eq_true fun e => free (e ▸ mem)
  have span : (part ++ sep :: rest).span (· ≠ sep) = (part, sep :: rest) := by
    rw [List.span_eq_takeWhile_dropWhile, List.takeWhile_append_of_pos keep,
      List.dropWhile_append_of_pos keep]
    simp
  rw [splitN, span]

lemma splitN_single {sep : Char} {cs : List Char} (free : sep ∉ cs) (n : Nat) :
    splitN (n + 2) sep cs = [cs] := by
  have keep : ∀ c ∈ cs, decide (c ≠ sep) = true := by
    intro c mem
    exact decide_eq_true fun e => free (e ▸ mem)
  have span : cs.span (· ≠ sep) = (cs, []) := by
    rw [List.span_eq_takeWhile_dropWhile, List.takeWhile_eq_self_iff.mpr keep,
      List.dropWhile_eq_nil_iff.mpr keep]
  rw [splitN, span]

lemma base64Url_dot (bytes : Bytes) : '.' ∉ (base64Url bytes).toList := by
  have char : ∀ n, base64UrlChar n ≠ '.' := by
    have all : ∀ i < 64, base64UrlAlphabet.getD i 'A' ≠ '.' := by decide
    exact fun n => all _ (Nat.mod_lt _ (by decide))
  rw [base64Url, String.toList_ofList]
  induction bytes using base64UrlChars.induct with
  | case1 => simp [base64UrlChars]
  | case2 a => simp [base64UrlChars, (char _).symm]
  | case3 a b => simp [base64UrlChars, (char _).symm]
  | case4 a b c rest ih => simp [base64UrlChars, (char _).symm, ih]

lemma base64Url_ne_empty {bytes : Bytes} (ne : bytes ≠ []) : base64Url bytes ≠ "" := by
  intro e
  have chars : base64UrlChars bytes = [] := by
    simpa [base64Url] using congrArg String.toList e
  match bytes with
  | [] => exact ne rfl
  | [_] | [_, _] | _ :: _ :: _ :: _ => simp [base64UrlChars] at chars

/-- A refresh token as it is drawn. -/
lemma refreshToken_drawn {cmd : TokenCommand} {tokens : IssuedTokens}
    (issued : ((exchange D tenantId cmd).run (exec D) ins s).1 = .ok tokens)
    (plain : tokens.refreshToken = some token) : '.' ∉ token.toList ∧ token ≠ "" := by
  have drawn : ∃ i : Input, token = base64Url (i.bytes 32) := by
    unfold exchange at issued
    split at issued
    · obtain ⟨_, _, _, _, _, granted⟩ := exchangeCode_always.run_ok issued
      exact granted.drawn token plain
    · split at issued
      · obtain ⟨_, _, _, _, _, rotated⟩ := exchangeRefreshToken_always.run_ok issued
        obtain rfl : _ = token := by simpa [rotated.refresh] using plain
        exact rotated.drawn
      · cases issued
  obtain ⟨i, rfl⟩ := drawn
  exact ⟨base64Url_dot _, base64Url_ne_empty (by simp [Input.bytes])⟩

lemma readJti_refreshToken (dot : '.' ∉ token.toList) : readJti D token = none := by
  rw [readJti, splitN_single dot 1]

/-- The `jti` of an issued access token is read, though not verified. -/
lemma readJti_accessToken {pairs : EncodingKey → DecodingKey → Prop} (jwt : JwtLaws D pairs)
    (uuid : UuidLaws D) {scope : List String} {user : User} {key : SigningKey}
    {claims : AccessTokenClaims} (issued : IssuedAccessToken D s tenantId scope token user key claims) :
    ∃ exp, readJti D token = some (claims.jti, exp) := by
  obtain ⟨pem, -, e⟩ := issued.signed
  obtain ⟨alg, k, encoded, -⟩ := sign_ok e
  obtain ⟨head, payload, signature, bytes, json, text, dot, dot', decoded, parsed, jti⟩ :=
    jwt.compact encoded
  have nonempty : claims.jti ≠ "" := by
    obtain ⟨_, _, u, rfl⟩ := issued.form
    exact uuid.ne_empty u
  refine ⟨((json.get "exp").asI64).getD 0, ?_⟩
  rw [readJti, text, List.append_assoc, List.cons_append, splitN_append dot 1, splitN_append dot' 0]
  simp [decoded, parsed, jti, Json.asStr, nonEmpty, nonempty]

/-! ## Refused tokens -/

/-- Nothing that happens later takes a `jti` off the table. -/
lemma JtiRevoked.later {jti : String} {s' : Store} (revoked : JtiRevoked D s jti)
    (r : Reaches (exec D) (fun _ => True) s s') : JtiRevoked D s' jti := by
  refine r.invariant (I := fun s => JtiRevoked D s jti) revoked fun op _ i s revoked => ?_
  obtain ⟨row, mem, same⟩ := revoked
  exact ⟨row, exec_revokedAccessTokens op i s mem, same⟩

/-- The refresh token is revoked, and in every later state, unless its hash is drawn again, the token
endpoint refuses it and introspection reports it inactive. -/
structure RefreshRefused (D : Deploy) (token : String) (s : Store) : Prop where
  revoked : RevokedHash (D.sha256Hex token) s
  exchange : ∀ s', Reaches (exec D) (NotCreating (D.sha256Hex token)) s s' → ∀ tenantId cmd,
    cmd.grantType = some "refresh_token" → nonEmpty cmd.refreshToken = some token →
      ∀ ins tokens, ((exchange D tenantId cmd).run (exec D) ins s').1 ≠ .ok tokens
  introspection : ∀ s', Reaches (exec D) (NotCreating (D.sha256Hex token)) s s' →
    ∀ tenantId hint clientId basic ins resp,
      ((introspect D tenantId token hint clientId basic).run.run (exec D) ins s').1 = .ok resp →
        resp.active = false

/-- The `jti` of the access token is revoked, and in every later state `/userinfo` refuses the token and
introspection reports it inactive, unless its text is a refresh token, too. -/
structure AccessRefused (D : Deploy) (token : String) (claims : AccessTokenClaims) (s : Store) :
    Prop where
  revoked : JtiRevoked D s claims.jti
  userinfo : ∀ s', Reaches (exec D) (fun _ => True) s s' → ∀ tenantId ins info,
    ((userinfo D tenantId token).run.run (exec D) ins s').1 ≠ .ok info
  introspection : ∀ s', Reaches (exec D) (fun _ => True) s s' →
    (∀ r ∈ s'.refreshTokens, r.tokenHash ≠ D.sha256Hex token) →
    ∀ tenantId hint clientId basic ins resp,
      ((introspect D tenantId token hint clientId basic).run.run (exec D) ins s').1 = .ok resp →
        resp.active = false

section
variable {pairs : EncodingKey → DecodingKey → Prop}

lemma RefreshRefused.of_revoked (jwt : JwtLaws D pairs) (dot : '.' ∉ token.toList)
    (revoked : RevokedHash (D.sha256Hex token) s) : RefreshRefused D token s where
  revoked := revoked
  exchange := fun _ later _ _ grant presents => (revoked.later later).refused grant presents
  introspection := by
    intro s' later tenantId hint clientId basic ins resp ok
    by_contra active
    rw [Bool.not_eq_false] at active
    obtain ⟨claims, checked⟩ | ⟨rt, mem, hash, -, live⟩ := (introspect_always.run_ok ok).2 active
    · obtain ⟨header, -, -, -, decoded, -⟩ := checked.verifies
      exact dot (jwt.dotted decoded)
    · rw [revoked.later later rt mem hash] at live
      cases live

lemma AccessRefused.of_revoked (jwt : JwtLaws D pairs) (uuid : UuidLaws D) {s₀ : Store}
    {scope : List String} {user : User} {key : SigningKey} {claims : AccessTokenClaims}
    (issued : IssuedAccessToken D s₀ tenantId scope token user key claims)
    (revoked : JtiRevoked D s claims.jti) : AccessRefused D token claims s := by
  have unchecked : ∀ s', Reaches (exec D) (fun _ => True) s s' → ∀ tenantId c,
      ¬ AccessChecked D s' tenantId token c := by
    intro s' later tenantId c checked
    obtain ⟨-, rfl⟩ := issued.signed.of_verifies jwt checked.verifies
    obtain empty | live := checked.unrevoked
    · obtain ⟨_, _, u, rfl⟩ := issued.form
      exact uuid.ne_empty u empty
    · exact live (revoked.later later)
  refine ⟨revoked, ?_, ?_⟩
  · intro s' later tenantId ins info ok
    obtain ⟨-, c, checked, -⟩ := userinfo_always.run_ok ok
    exact unchecked s' later tenantId c checked
  · intro s' later apart tenantId hint clientId basic ins resp ok
    by_contra active
    rw [Bool.not_eq_false] at active
    obtain ⟨c, checked⟩ | ⟨rt, mem, hash, -⟩ := (introspect_always.run_ok ok).2 active
    · exact unchecked s' later tenantId c checked
    · exact apart rt mem hash

end

/-! ## What a revocation achieves -/

/-- Only one of the two attempts takes effect. -/
lemma RevokesAccess.not_refresh (h : RevokesAccess D token hint ins) :
    ¬ RevokesRefresh D token hint ins := by
  obtain ⟨read, attempt⟩ := h
  unfold RevokesRefresh
  by_cases access : hint = some "access_token"
  · rw [if_pos access] at attempt
    rw [if_pos ⟨access, read⟩]
    exact fun h => h.1 attempt
  · rw [if_neg access] at attempt
    rw [if_neg fun h => access h.1]
    exact attempt.1

/-- A revoked `jti` is in the table already, or it is added. -/
lemma revokeJti_cases (s : Store) (t : RevokedAccessToken) :
    (JtiRevoked D s (truncateJti t.jti) ∧ s.revokeJti D t = s) ∨
      (¬ JtiRevoked D s (truncateJti t.jti) ∧ s.revokeJti D t = { s with
        revokedAccessTokens := s.revokedAccessTokens ++ [{ t with jti := truncateJti t.jti }] }) := by
  have iff : (s.revokedAccessTokens.any fun r => D.coll r.jti = D.coll (truncateJti t.jti)) = true ↔
      JtiRevoked D s (truncateJti t.jti) := by
    simp only [List.any_eq_true, decide_eq_true_eq, JtiRevoked]
  by_cases known : JtiRevoked D s (truncateJti t.jti)
  · exact .inl ⟨known, if_pos (iff.mpr known)⟩
  · exact .inr ⟨known, if_neg (mt iff.mp known)⟩

lemma revokeJti_refreshTokens (s : Store) (t : RevokedAccessToken) :
    (s.revokeJti D t).refreshTokens = s.refreshTokens := by
  obtain ⟨-, e⟩ | ⟨-, e⟩ := revokeJti_cases (D := D) s t <;> rw [e]

/-- The refresh token is revoked afterwards if it was before or if the attempt was made. -/
lemma RevokedBy.refresh_iff {s' : Store} (w : RevokedBy D token hint ins s s') :
    RevokedHash (D.sha256Hex token) s' ↔
      RevokedHash (D.sha256Hex token) s ∨ RevokesRefresh D token hint ins := by
  cases w with
  | refresh h =>
    refine ⟨fun _ => .inr h, fun _ t mem hash => ?_⟩
    obtain ⟨r, -, rfl⟩ := mem_revokeWhere.mp mem
    rw [revokeIf_tokenHash] at hash
    simp [hash]
  | access jti exp read h => simp [RevokedHash, revokeJti_refreshTokens, h.not_refresh]
  | nothing h h' => simp [h]

/-- The `jti` is revoked afterwards if it was before or if the attempt was made. -/
lemma RevokedBy.jti_iff {s' : Store} (w : RevokedBy D token hint ins s s') {jti : String} {exp : Int}
    (read : readJti D token = some (jti, exp)) (short : truncateJti jti = jti) :
    JtiRevoked D s' jti ↔ JtiRevoked D s jti ∨ RevokesAccess D token hint ins := by
  cases w with
  | refresh h =>
    have no : ¬ RevokesAccess D token hint ins := fun h' => h'.not_refresh h
    simp [JtiRevoked, Store.revokeRefreshTokens, no]
  | access jti' exp' read' h =>
    obtain ⟨rfl, rfl⟩ : jti = jti' ∧ exp = exp' := by simpa [read] using read'
    refine ⟨fun _ => .inr h, fun _ => ?_⟩
    obtain ⟨known, e⟩ | ⟨-, e⟩ := revokeJti_cases (D := D) s (revokedEntry jti exp (ins 1).now)
    · rw [e]
      exact short ▸ known
    · rw [e]
      exact ⟨_, List.mem_append_right _ (List.mem_singleton.mpr rfl), congrArg D.coll short⟩
  | nothing h h' => simp [h']

/-- The text of a UUID fits the column. -/
lemma truncateJti_uuid (uuid : UuidLaws D) (u : Uuid) :
    truncateJti (D.uuidToString u) = D.uuidToString u := by
  rw [truncateJti, List.take_of_length_le (by rw [uuid.length]; decide), String.ofList_toList]

/-- What a successful revocation of an issued token achieves. A refresh token is refused for good if it
was revoked before or the `UPDATE` does not fail. An access token is refused for good only if its `jti`
was revoked before, or the hint is `access_token` and the `INSERT` does not fail, or without that hint the
`UPDATE` of the refresh tokens fails and the `INSERT` does not. -/
theorem revocation_refuses_iff {pairs : EncodingKey → DecodingKey → Prop} (jwt : JwtLaws D pairs)
    (uuid : UuidLaws D) {s₀ : Store} {cmd : TokenCommand} {ins₀ : Nat → Input} {tokens : IssuedTokens}
    (issued : ((exchange D tenantId cmd).run (exec D) ins₀ s₀).1 = .ok tokens) {clientId : String}
    {basic : Option (String × String)}
    (ok : ((revoke D tenantId token hint clientId basic).run.run (exec D) ins s).1 = .ok ()) :
    (tokens.refreshToken = some token →
      (RefreshRefused D token ((revoke D tenantId token hint clientId basic).run.run (exec D) ins s).2 ↔
        RevokedHash (D.sha256Hex token) s ∨ (ins 2).fault = none)) ∧
    (tokens.accessToken = token → ∃ scope user key claims,
      IssuedAccessToken D s₀ tenantId scope token user key claims ∧
      (AccessRefused D token claims
          ((revoke D tenantId token hint clientId basic).run.run (exec D) ins s).2 ↔
        JtiRevoked D s claims.jti ∨
          if hint = some "access_token" then (ins 2).fault = none
          else (ins 2).fault ≠ none ∧ (ins 3).fault = none)) := by
  constructor
  · intro refresh
    obtain ⟨dot, nonempty⟩ := refreshToken_drawn issued refresh
    have w := revoke_ok nonempty ok
    have attempt : RevokesRefresh D token hint ins ↔ (ins 2).fault = none := by
      simp [RevokesRefresh, readJti_refreshToken dot]
    rw [← attempt, ← w.refresh_iff]
    exact ⟨fun h => h.revoked, .of_revoked jwt dot⟩
  · rintro rfl
    obtain ⟨scope, -, user, key, claims, access⟩ := exchange_access issued
    refine ⟨scope, user, key, claims, access, ?_⟩
    obtain ⟨exp, read⟩ := readJti_accessToken jwt uuid access
    have w := revoke_ok (access.signed.ne_empty jwt) ok
    have attempt : RevokesAccess D tokens.accessToken hint ins ↔
        if hint = some "access_token" then (ins 2).fault = none
        else (ins 2).fault ≠ none ∧ (ins 3).fault = none := by
      simp [RevokesAccess, read]
    have short : truncateJti claims.jti = claims.jti := by
      obtain ⟨_, _, u, rfl⟩ := access.form
      exact truncateJti_uuid uuid u
    rw [← attempt, ← w.jti_iff read short]
    exact ⟨fun h => h.revoked, .of_revoked jwt uuid access⟩

namespace Sample

/-- The store after the sample code was redeemed under the RSA key. -/
def afterGrant : Store :=
  ((exchange deploy tenantA codeRequest).run (exec deploy) (fun _ => input 2) store).2

/-- The sample client revokes a token. -/
def revokes (token : String) (hint : Option String) : Except RevocationError Unit × Store :=
  (revoke deploy tenantA token hint "app" none).run.run (exec deploy) (fun _ => input 2) afterGrant

end Sample

open Sample in
set_option maxRecDepth 4000 in
/-- The client revokes its access token without a hint, successfully, and `/userinfo` goes on answering
to it. -/
theorem unhinted_revocation_misses_access_token :
    ((exchange deploy tenantA codeRequest).run (exec deploy) (fun _ => input 2) store).1 =
      .ok rsaTokens ∧
    (revokes rsaTokens.accessToken none).1 = .ok () ∧
    ((userinfo deploy tenantA rsaTokens.accessToken).run.run (exec deploy) (fun _ => input 2)
      (revokes rsaTokens.accessToken none).2).1 =
        .ok ⟨"018bcfe5-6800-7000-8000-0000000000a2", none, none, none, none⟩ ∧
    ∀ claims, ¬ AccessRefused deploy rsaTokens.accessToken claims
      (revokes rsaTokens.accessToken none).2 := by
  have answered : ((userinfo deploy tenantA rsaTokens.accessToken).run.run (exec deploy)
      (fun _ => input 2) (revokes rsaTokens.accessToken none).2).1 =
        .ok ⟨"018bcfe5-6800-7000-8000-0000000000a2", none, none, none, none⟩ := by
    decide +kernel
  refine ⟨rsaTokens_issued, by decide +kernel, answered, ?_⟩
  intro claims refused
  exact refused.userinfo _ .refl tenantA (fun _ => input 2) _ answered

open Sample in
set_option maxRecDepth 4000 in
/-- The refresh token of the sample is refused after its revocation, and so is the access token if the
hint says what it is. -/
theorem revocation_refuses_iff_sample :
    RefreshRefused deploy (plainToken 2) (revokes (plainToken 2) none).2 ∧
    ∃ claims, AccessRefused deploy rsaTokens.accessToken claims
      (revokes rsaTokens.accessToken (some "access_token")).2 := by
  constructor
  · have ok : (revokes (plainToken 2) none).1 = .ok () := by decide +kernel
    exact ((revocation_refuses_iff jwtLaws uuidLaws rsaTokens_issued ok).1 rfl).mpr (.inr rfl)
  · have ok : (revokes rsaTokens.accessToken (some "access_token")).1 = .ok () := by decide +kernel
    obtain ⟨_, _, _, claims, -, iff⟩ :=
      (revocation_refuses_iff jwtLaws uuidLaws rsaTokens_issued ok).2 rfl
    exact ⟨claims, iff.mpr (.inr rfl)⟩

end IdpMvp
