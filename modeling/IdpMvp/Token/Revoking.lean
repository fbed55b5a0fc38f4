import IdpMvp.Service.UserLifecycle
import IdpMvp.Store.Effects
import IdpMvp.Token.Inspecting

/-!
# What revokes tokens

The revocation endpoint and the user lifecycle, one lemma each: what they can have done to the store
when they return.
-/

namespace IdpMvp

open Program Program.Prog Program.Flow Prog

variable {D : Deploy} {s : Store}

/-! ## The revocation endpoint -/

/-- The entry a revocation makes for an access token it has read. -/
def revokedEntry (jti : String) (exp : Int) (now : DateTime) : RevokedAccessToken :=
  ⟨jti, now, (fromTimestamp exp).getD now⟩

/-- What a revocation request for `token` can do to the store. -/
inductive Revoked (D : Deploy) (token : String) (s : Store) : Store → Prop where
  | unchanged : Revoked D token s s
  | refresh (now : DateTime) :
    Revoked D token s (s.revokeRefreshTokens (·.tokenHash = D.sha256Hex token) now)
  | access (jti : String) (exp : Int) (now : DateTime) (read : readJti D token = some (jti, exp)) :
    Revoked D token s (s.revokeJti D (revokedEntry jti exp now))

lemma tryRevokeRefreshToken_always {token : String} {now : DateTime} :
    always (exec D) (tryRevokeRefreshToken D token now) s (fun done s' =>
      (done = false ∧ s' = s) ∨
      (done = true ∧ s' = s.revokeRefreshTokens (·.tokenHash = D.sha256Hex token) now)) := by
  simp [tryRevokeRefreshToken, op, always_db, Stmt.exec, RefreshTokenStmt.exec]

lemma tryRevokeAccessToken_always {token : String} {now : DateTime} :
    always (exec D) (tryRevokeAccessToken D token now) s (fun done s' =>
      (done = false ∧ s' = s) ∨
      (done = true ∧ ∃ jti exp, readJti D token = some (jti, exp) ∧
        s' = s.revokeJti D (revokedEntry jti exp now))) := by
  unfold tryRevokeAccessToken
  split
  · simp
  · rename_i jti exp read
    simp [op, always_db, Stmt.exec, RevokedAccessTokenStmt.exec, read, revokedEntry]

lemma revokeToken_always {token : String} {hint : Option String} {now : DateTime} :
    always (exec D) (revokeToken D token hint now) s (fun _ s' => Revoked D token s s') := by
  have access : ∀ s', (∃ jti exp, readJti D token = some (jti, exp) ∧
      s' = s.revokeJti D (revokedEntry jti exp now)) → Revoked D token s s' := by
    rintro s' ⟨jti, exp, read, rfl⟩
    exact .access jti exp now read
  unfold revokeToken
  split
  · rw [always_bind]
    refine always_mono tryRevokeAccessToken_always ?_
    rintro done s' (⟨rfl, rfl⟩ | ⟨rfl, written⟩)
    · simp only [Bool.false_eq_true, if_false, always_bind]
      refine always_mono tryRevokeRefreshToken_always ?_
      rintro _ s' (⟨-, rfl⟩ | ⟨-, rfl⟩)
      · exact .unchanged
      · exact .refresh now
    · exact access s' written
  · rw [always_bind]
    refine always_mono tryRevokeRefreshToken_always ?_
    rintro done s' (⟨rfl, rfl⟩ | ⟨rfl, rfl⟩)
    · simp only [Bool.false_eq_true, if_false, always_bind]
      refine always_mono tryRevokeAccessToken_always ?_
      rintro _ s' (⟨-, rfl⟩ | ⟨-, written⟩)
      · exact .unchanged
      · exact access s' written
    · exact .refresh now

/-- The client of a revocation request: an active one of the tenant. -/
lemma loadRevocationClient_always {tenantId : TenantId} {clientId : String}
    {basic : Option (String × String)} :
    alwaysE (exec D) (loadRevocationClient D tenantId clientId basic) s
      (fun client s' => s' = s ∧ client.isActive ∧ s.clients.find? (fun c =>
        c.tenantId = tenantId ∧ D.coll c.clientId = D.coll clientId) = some client)
      (fun _ s' => s' = s) := by
  unfold loadRevocationClient
  refine read_step (fun _ => rfl) (fun _ => rfl) fun _ => ?_
  refine found_step (fun _ => rfl) fun client row => ?_
  refine ensure_step (fun _ => rfl) fun active => ?_
  split
  · refine found_step (fun _ => rfl) fun credentials _ => ?_
    refine ensure_step (fun _ => rfl) fun _ => ?_
    refine found_step (fun _ => rfl) fun _ _ => ?_
    refine orThrow_step (fun _ _ => rfl) fun _ _ => ?_
    exact ensure_step (fun _ => rfl) fun _ => ⟨rfl, active, row⟩
  · exact ⟨rfl, active, row⟩

/-- In every execution, a revocation request revokes what its token names, or does nothing. -/
theorem revoke_always {tenantId : TenantId} {token : String} {hint : Option String}
    {clientId : String} {basic : Option (String × String)} :
    alwaysE (exec D) (revoke D tenantId token hint clientId basic) s
      (fun _ s' => Revoked D token s s') (fun _ s' => s' = s) := by
  unfold revoke
  split
  · exact .unchanged
  · refine alwaysE_bind_of loadRevocationClient_always (fun _ _ e => e) ?_
    rintro client _ ⟨rfl, -⟩
    refine clock_step fun now => ?_
    rw [alwaysE_lift]
    exact revokeToken_always

/-! ## The user lifecycle -/

/-- What a lifecycle operation on a user can do to the refresh tokens. -/
inductive LifecycleWrite (rows : List RefreshToken) : List RefreshToken → Prop where
  | keep : LifecycleWrite rows rows
  | revoke (userId : Uuid) (now : DateTime) :
    LifecycleWrite rows (revokeWhere (·.userId = userId) now rows)
  | delete (userId : Uuid) : LifecycleWrite rows (rows.filter (·.userId ≠ userId))

/-- `revoke_credentials` revokes the user's refresh tokens, unless its statement fails. -/
lemma revokeCredentials_always {userId : Uuid} :
    always (exec D) (revokeCredentials userId) s
      (fun _ s' => LifecycleWrite s.refreshTokens s'.refreshTokens) := by
  simp only [revokeCredentials, op, always_bind, always_clock, always_db, always_ret, Stmt.exec,
    SsoSessionStmt.exec, RefreshTokenStmt.exec, CodeStmt.exec, pure_eq]
  intro i
  simp only [Store.revokeRefreshTokens, implies_true, and_self, LifecycleWrite.keep,
    LifecycleWrite.revoke]

lemma findHomeUser_always {tenantId : TenantId} {target : Uuid} :
    alwaysE (exec D) (findHomeUser tenantId target) s (fun _ s' => s' = s) (fun _ s' => s' = s) := by
  unfold findHomeUser
  refine read_step (fun _ => rfl) (fun _ => rfl) fun _ => ?_
  rw [alwaysE_found]
  exact ⟨fun _ _ => rfl, fun _ => rfl⟩

lemma resetPasswordFor_always {user : User} :
    alwaysE (exec D) (resetPasswordFor user) s
      (fun _ s' => LifecycleWrite s.refreshTokens s'.refreshTokens)
      (fun _ s' => LifecycleWrite s.refreshTokens s'.refreshTokens) := by
  unfold resetPasswordFor
  refine lift_step fun i => ?_
  rw [always_ret, alwaysE_bind, alwaysE_orLeave]
  refine fun j => ⟨fun hash _ => ?_, fun _ _ => .keep⟩
  refine write_step (fun _ => .keep) (fun _ _ _ e => by cases e) fun _ _ s₁ reset => ?_
  obtain rfl := (Prod.mk.inj reset).2
  refine lift_step ?_
  exact always_mono revokeCredentials_always fun _ _ w => w

lemma resetPassword_always {tenantId : TenantId} {target actor : Uuid} :
    alwaysE (exec D) (resetPassword tenantId target actor) s
      (fun _ s' => LifecycleWrite s.refreshTokens s'.refreshTokens)
      (fun _ s' => LifecycleWrite s.refreshTokens s'.refreshTokens) := by
  unfold resetPassword
  refine alwaysE_bind_of findHomeUser_always (fun _ _ e => e ▸ .keep) ?_
  rintro user _ rfl
  exact ensure_step (fun _ => .keep) fun _ => resetPasswordFor_always

lemma resetPasswordByEmail_always {tenantId : TenantId} {email : String} {actor : Uuid} :
    alwaysE (exec D) (resetPasswordByEmail tenantId email actor) s
      (fun _ s' => LifecycleWrite s.refreshTokens s'.refreshTokens)
      (fun _ s' => LifecycleWrite s.refreshTokens s'.refreshTokens) := by
  simp only [resetPasswordByEmail]
  generalize trimWhitespace email = email
  refine ensure_step (fun _ => .keep) fun _ => ?_
  refine read_step (fun _ => rfl) (fun _ => .keep) fun _ => ?_
  refine found_step (fun _ => .keep) fun user _ => ?_
  exact ensure_step (fun _ => .keep) fun _ => resetPasswordFor_always

lemma setStatus_always {tenantId : TenantId} {target actor : Uuid} {status : UserStatus} :
    alwaysE (exec D) (setStatus tenantId target status actor) s
      (fun _ s' => LifecycleWrite s.refreshTokens s'.refreshTokens)
      (fun _ s' => LifecycleWrite s.refreshTokens s'.refreshTokens) := by
  unfold setStatus
  refine ensure_step (fun _ => .keep) fun _ => ?_
  refine alwaysE_bind_of findHomeUser_always (fun _ _ e => e ▸ .keep) ?_
  rintro user _ rfl
  refine ensure_step (fun _ => .keep) fun _ => ?_
  refine write_step (fun _ => .keep) (fun _ _ _ e => by cases e) fun _ _ s₁ updated => ?_
  obtain rfl := (Prod.mk.inj updated).2
  rw [alwaysE_onlyIf, alwaysE_lift]
  exact ⟨fun _ => revokeCredentials_always, fun _ => .keep⟩

lemma deleteUser_always {tenantId : TenantId} {target actor : Uuid} :
    alwaysE (exec D) (deleteUser tenantId target actor) s
      (fun _ s' => LifecycleWrite s.refreshTokens s'.refreshTokens)
      (fun _ s' => LifecycleWrite s.refreshTokens s'.refreshTokens) := by
  unfold deleteUser
  refine alwaysE_bind_of findHomeUser_always (fun _ _ e => e ▸ .keep) ?_
  rintro user _ rfl
  refine ensure_step (fun _ => .keep) fun _ => ?_
  rw [alwaysE_orLeave, db, Prog.op, always_db]
  simp only [always_ret, Stmt.exec, UserStmt.exec]
  exact ⟨fun _ => ⟨by simp, fun _ _ => .keep⟩, fun _ => ⟨fun _ _ => .delete _, by simp⟩⟩

/-! ## Revoked tokens stay revoked -/

/-- No token with this hash is good for anything: its row is revoked, if there is one. -/
def RevokedHash (hash : String) (s : Store) : Prop :=
  ∀ t ∈ s.refreshTokens, t.tokenHash = hash → t.isRevoked = true

/-- The operation does not create a refresh token with this hash. -/
def NotCreating (hash : String) (op : Op) : Prop :=
  ∀ t, op = .db (.refreshTokens (.create t)) → t.tokenHash ≠ hash

/-- Nothing that happens later makes a revoked token valid again, unless its hash is drawn again. -/
lemma RevokedHash.later {hash : String} {s' : Store} (revoked : RevokedHash hash s)
    (r : Reaches (exec D) (NotCreating hash) s s') : RevokedHash hash s' := by
  refine r.invariant revoked fun op ok i s revoked => ?_
  intro t mem e
  have w := exec_refreshTokens (D := D) op i s
  generalize (exec D op i s).2.refreshTokens = rows at w mem
  cases w with
  | keep => exact revoked t mem e
  | create new eq _ =>
    rw [List.mem_append, List.mem_singleton] at mem
    obtain mem | rfl := mem
    · exact revoked t mem e
    · exact absurd e (ok _ eq)
  | revoke p now =>
    obtain ⟨r, memr, rfl⟩ := mem_revokeWhere.mp mem
    simp [revoked r memr (by simpa using e)]
  | delete userId => exact revoked t (List.mem_filter.mp mem).1 e

/-- `exchange` is `exchange_refresh_token` on the refresh grant. -/
lemma exchange_refresh {tenantId : TenantId} {cmd : TokenCommand}
    (grant : cmd.grantType = some "refresh_token") :
    exchange D tenantId cmd = (exchangeRefreshToken D tenantId cmd).run := by
  simp [exchange, grant]

/-- A revoked token is refused. -/
lemma RevokedHash.refused {plain : String} {tenantId : TenantId} {cmd : TokenCommand}
    (revoked : RevokedHash (D.sha256Hex plain) s) (grant : cmd.grantType = some "refresh_token")
    (presents : nonEmpty cmd.refreshToken = some plain) (ins : Nat → Input) (tokens : IssuedTokens) :
    ((exchange D tenantId cmd).run (exec D) ins s).1 ≠ .ok tokens := by
  rw [exchange_refresh grant]
  intro ok
  obtain ⟨plain', newPlain, stored, user, now, rotated⟩ := exchangeRefreshToken_always.run_ok ok
  obtain rfl : plain = plain' := by simpa [presents] using rotated.token
  obtain ⟨hash, -⟩ : stored.tokenHash = D.sha256Hex plain ∧ stored.tenantId = tenantId := by
    simpa using List.find?_some rotated.row
  have live := rotated.valid
  simp [RefreshToken.isValidAt, revoked stored (List.mem_of_find?_eq_some rotated.row) hash] at live

end IdpMvp
