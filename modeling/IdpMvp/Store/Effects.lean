import IdpMvp.Program.Chain
import IdpMvp.Store.Ops

/-!
# What an operation does to a table

For the tables that results about later states are about, everything one atomic operation can do to
them. An invariant of such a table under all services, in any interleaving, needs no more.
-/

namespace IdpMvp

open Program

variable {D : Deploy}

/-- What one operation can do to the store. A statement writes its own table, except the deletion of a
user; of the tables that have an effect lemma below, the statement is kept. -/
inductive Written (D : Deploy) (op : Op) (s : Store) : Store → Prop where
  | reads : Written D op s s
  | memory (attempts : List (String × List DateTime)) :
    Written D op s { s with loginAttempts := attempts }
  | otherMemory (attempts : List ((Limiter × String) × List DateTime)) :
    Written D op s { s with otherAttempts := attempts }
  | cache (entries : List PermissionEntry) (outside : ∀ q, op ≠ .db q) :
    Written D op s { s with permissionCache := entries }
  | tenantCache (entries : List TenantEntry) (outside : ∀ q, op ≠ .db q) :
    Written D op s { s with tenantCache := entries }
  | tenants (q : TenantStmt) (eq : op = .db (.tenants q)) (rows : List Tenant)
    (h : (q.exec D s).2.tenants = rows) : Written D op s { s with tenants := rows }
  | deleteTenant (id : TenantId) (eq : op = .db (.tenants (.delete id))) :
    Written D op s (s.deleteTenant id)
  | provision (t : Tenant) (m : TenantMembership) (code : String)
    (eq : op = .db (.tenants (.provision t m code)))
    (fresh : s.memberships.any (·.hasKey m.tenantId m.userId) = false)
    (rows : List UserPermission) (granted : ∀ p ∈ rows, p ∈ s.permissions ∨ p = ⟨m.userId, code, m.tenantId⟩) :
    Written D op s { s with
      tenants := s.tenants ++ [t], memberships := s.memberships ++ [m], permissions := rows }
  | users (q : UserStmt) (eq : op = .db (.users q)) (rows : List User)
    (h : (q.exec D s).2.users = rows) : Written D op s { s with users := rows }
  | deleteUser (id : Uuid) (eq : op = .db (.users (.delete id))) : Written D op s (s.deleteUser id)
  | clients (q : ClientAdminStmt) (eq : op = .db (.clientAdmin q)) (rows : List Client)
    (h : (q.exec D s).2.clients = rows) : Written D op s { s with clients := rows }
  | memberships (q : MembershipStmt) (eq : op = .db (.memberships q)) (rows : List TenantMembership)
    (h : (q.exec s).2.memberships = rows) : Written D op s { s with memberships := rows }
  | permissions (q : PermissionStmt) (eq : op = .db (.permissions q)) (rows : List UserPermission)
    (h : (q.exec D s).2.permissions = rows) : Written D op s { s with permissions := rows }
  | signingKeys (q : SigningKeyAdminStmt) (eq : op = .db (.signingKeyAdmin q))
    (rows : List SigningKey) (h : (q.exec D s).2.signingKeys = rows) :
    Written D op s { s with signingKeys := rows }
  | passwordResetTokens (q : PasswordResetTokenStmt) (eq : op = .db (.passwordResetTokens q))
    (rows : List PasswordResetToken) (h : (q.exec s).2.passwordResetTokens = rows) :
    Written D op s { s with passwordResetTokens := rows }
  | emailVerificationTokens (q : EmailVerificationTokenStmt)
    (eq : op = .db (.emailVerificationTokens q)) (rows : List EmailVerificationToken)
    (h : (q.exec s).2.emailVerificationTokens = rows) :
    Written D op s { s with emailVerificationTokens := rows }
  | systemSettings (rows : List SystemSetting) : Written D op s { s with systemSettings := rows }
  | authSessions (q : AuthSessionStmt) (eq : op = .db (.authSessions q)) (rows : List AuthSession)
    (h : (q.exec D s).2.authSessions = rows) : Written D op s { s with authSessions := rows }
  | ssoSessions (q : SsoSessionStmt) (eq : op = .db (.ssoSessions q)) (rows : List SsoSession)
    (h : (q.exec s).2.ssoSessions = rows) : Written D op s { s with ssoSessions := rows }
  | codes (q : CodeStmt) (eq : op = .db (.codes q)) (rows : List AuthorizationCode)
    (h : (q.exec D s).2.codes = rows) : Written D op s { s with codes := rows }
  | refreshTokens (q : RefreshTokenStmt) (eq : op = .db (.refreshTokens q))
    (rows : List RefreshToken) (h : (q.exec D s).2.refreshTokens = rows) :
    Written D op s { s with refreshTokens := rows }
  | consents (rows : List ClientConsent) : Written D op s { s with consents := rows }
  | revokedAccessTokens (q : RevokedAccessTokenStmt) (eq : op = .db (.revokedAccessTokens q))
    (rows : List RevokedAccessToken) (h : (q.exec D s).2.revokedAccessTokens = rows) :
    Written D op s { s with revokedAccessTokens := rows }
  | totpSecrets (q : TotpSecretStmt) (eq : op = .db (.totpSecrets q)) (rows : List TotpSecret)
    (h : (q.exec s).2.totpSecrets = rows) : Written D op s { s with totpSecrets := rows }
  | passkeys (q : PasskeyStmt) (eq : op = .db (.passkeys q)) (challenges : List PasskeyChallenge)
    (credentials : List WebAuthnCredential) (h : (q.exec D s).2.passkeyChallenges = challenges)
    (h' : (q.exec D s).2.webauthnCredentials = credentials) :
    Written D op s
      { s with passkeyChallenges := challenges, webauthnCredentials := credentials }

/-! ## Frames -/

section
variable (s : Store)

lemma ClientAdminStmt.exec_store (q : ClientAdminStmt) :
    (q.exec D s).2 = { s with clients := (q.exec D s).2.clients } := by
  cases q with
  | create c =>
    simp only [ClientAdminStmt.exec]
    split_ifs <;> rfl
  | _ => rfl

lemma MembershipStmt.exec_store (q : MembershipStmt) :
    (q.exec s).2 = { s with memberships := (q.exec s).2.memberships } := by
  cases q with
  | create m =>
    simp only [MembershipStmt.exec]
    split_ifs <;> rfl
  | _ => rfl

lemma PermissionStmt.exec_store (q : PermissionStmt) :
    (q.exec D s).2 = { s with permissions := (q.exec D s).2.permissions } := by
  cases q with
  | grant tenantId userId code =>
    simp only [PermissionStmt.exec]
    split_ifs <;> rfl
  | _ => rfl

lemma SigningKeyAdminStmt.exec_store (q : SigningKeyAdminStmt) :
    (q.exec D s).2 = { s with signingKeys := (q.exec D s).2.signingKeys } := by
  cases q with
  | insert key =>
    simp only [SigningKeyAdminStmt.exec]
    split_ifs <;> rfl
  | updateStatus kid status =>
    simp only [SigningKeyAdminStmt.exec]
    split_ifs <;> rfl
  | delete kid => rfl

lemma PasswordResetTokenStmt.exec_store (q : PasswordResetTokenStmt) :
    (q.exec s).2 = { s with passwordResetTokens := (q.exec s).2.passwordResetTokens } := by
  cases q with
  | create t =>
    simp only [PasswordResetTokenStmt.exec]
    split_ifs <;> rfl
  | _ => rfl

lemma EmailVerificationTokenStmt.exec_store (q : EmailVerificationTokenStmt) :
    (q.exec s).2 = { s with emailVerificationTokens := (q.exec s).2.emailVerificationTokens } := by
  cases q with
  | create t =>
    simp only [EmailVerificationTokenStmt.exec]
    split_ifs <;> rfl
  | _ => rfl

lemma SystemSettingStmt.exec_store (q : SystemSettingStmt) :
    (q.exec D s).2 = { s with systemSettings := (q.exec D s).2.systemSettings } := by
  cases q with
  | loadAll => rfl
  | upsert x =>
    simp only [SystemSettingStmt.exec]
    split_ifs <;> rfl

lemma AuthSessionStmt.exec_store (q : AuthSessionStmt) :
    (q.exec D s).2 = { s with authSessions := (q.exec D s).2.authSessions } := by
  cases q with
  | create a =>
    simp only [AuthSessionStmt.exec]
    split_ifs <;> rfl
  | setAuthenticatedUser | setPasswordVerified =>
    simp only [AuthSessionStmt.exec, Store.updateAuthSession]
    split_ifs <;> rfl
  | _ => rfl

lemma SsoSessionStmt.exec_store (q : SsoSessionStmt) :
    (q.exec s).2 = { s with ssoSessions := (q.exec s).2.ssoSessions } := by
  cases q with
  | create x =>
    simp only [SsoSessionStmt.exec]
    split_ifs <;> rfl
  | _ => rfl

lemma CodeStmt.exec_store (q : CodeStmt) :
    (q.exec D s).2 = { s with codes := (q.exec D s).2.codes } := by
  cases q with
  | create c =>
    simp only [CodeStmt.exec]
    split_ifs <;> rfl
  | _ => rfl

lemma RefreshTokenStmt.exec_store (q : RefreshTokenStmt) :
    (q.exec D s).2 = { s with refreshTokens := (q.exec D s).2.refreshTokens } := by
  cases q with
  | create t =>
    simp only [RefreshTokenStmt.exec]
    split_ifs <;> rfl
  | _ => rfl

lemma ConsentStmt.exec_store (q : ConsentStmt) :
    (q.exec D s).2 = { s with consents := (q.exec D s).2.consents } := by
  cases q with
  | upsert c =>
    simp only [ConsentStmt.exec]
    split_ifs <;> rfl
  | _ => rfl

lemma RevokedAccessTokenStmt.exec_store (q : RevokedAccessTokenStmt) :
    (q.exec D s).2 = { s with revokedAccessTokens := (q.exec D s).2.revokedAccessTokens } := by
  cases q with
  | revoke t =>
    simp only [RevokedAccessTokenStmt.exec, Store.revokeJti]
    split_ifs <;> rfl
  | isRevoked => rfl

lemma TotpSecretStmt.exec_store (q : TotpSecretStmt) :
    (q.exec s).2 = { s with totpSecrets := (q.exec s).2.totpSecrets } := by
  cases q with
  | upsert t =>
    simp only [TotpSecretStmt.exec]
    split_ifs <;> rfl
  | _ => rfl

lemma PasskeyStmt.exec_store (q : PasskeyStmt) :
    (q.exec D s).2 = { s with
      passkeyChallenges := (q.exec D s).2.passkeyChallenges
      webauthnCredentials := (q.exec D s).2.webauthnCredentials } := by
  cases q with
  | challengeCreate | credentialCreate =>
    simp only [PasskeyStmt.exec]
    split_ifs <;> rfl
  | _ => rfl

end

/-- What the statements on tenants write. -/
lemma exec_tenants_written {s : Store} (q : TenantStmt) :
    Written D (.db (.tenants q)) s (q.exec D s).2 := by
  cases q with
  | findById | listChildren => exact .reads
  | update t => exact .tenants (.update t) rfl _ rfl
  | delete id =>
    simp only [TenantStmt.exec]
    split_ifs
    · exact .reads
    · exact .deleteTenant id rfl
  | provision t m code =>
    simp only [TenantStmt.exec]
    split_ifs
    · exact .reads
    · exact .reads
    · simp only [Store.provision, MembershipStmt.exec]
      by_cases known : s.memberships.any (·.hasKey m.tenantId m.userId) = true
      · rw [if_pos known]
        exact .reads
      · rw [if_neg known]
        split_ifs
        · exact .reads
        · have fresh := Bool.eq_false_iff.mpr known
          simp only [PermissionStmt.exec]
          split_ifs
          · exact .reads
          · exact .provision t m code rfl fresh _ fun p mem => .inl mem
          · exact .reads
          · refine .provision t m code rfl fresh _ fun p mem => ?_
            exact (List.mem_append.mp mem).imp id List.mem_singleton.mp

/-- What the statements on users write. -/
lemma exec_users_written {s : Store} (q : UserStmt) :
    Written D (.db (.users q)) s (q.exec D s).2 := by
  cases q with
  | create u =>
    simp only [UserStmt.exec]
    split_ifs with collides
    · exact .reads
    · exact .users (.create u) rfl _ (by rw [UserStmt.exec, if_neg collides])
  | findById | findBySub | findByEmail | findByUsername => exact .reads
  | delete id => exact .deleteUser id rfl
  | updateLoginState id n lockedUntil => exact .users (.updateLoginState id n lockedUntil) rfl _ rfl
  | updatePassword id hash => exact .users (.updatePassword id hash) rfl _ rfl
  | resetPasswordForced id hash => exact .users (.resetPasswordForced id hash) rfl _ rfl
  | updateStatus id status => exact .users (.updateStatus id status) rfl _ rfl
  | updateName id name => exact .users (.updateName id name) rfl _ rfl
  | updateLanguage id language => exact .users (.updateLanguage id language) rfl _ rfl
  | markEmailVerified id => exact .users (.markEmailVerified id) rfl _ rfl

/-- What the other statements write. -/
lemma exec_stmt_written {now : DateTime} {s : Store} (q : Stmt) :
    Written D (.db q) s (q.exec D now s).2 := by
  cases q with
  | tenants q => exact exec_tenants_written q
  | users q => exact exec_users_written q
  | clients q => cases q; exact .reads
  | clientAdmin q => rw [Stmt.exec, q.exec_store]; exact .clients q rfl _ rfl
  | memberships q => rw [Stmt.exec, q.exec_store]; exact .memberships q rfl _ rfl
  | permissions q => rw [Stmt.exec, q.exec_store]; exact .permissions q rfl _ rfl
  | authSessions q => rw [Stmt.exec, q.exec_store]; exact .authSessions q rfl _ rfl
  | ssoSessions q => rw [Stmt.exec, q.exec_store]; exact .ssoSessions q rfl _ rfl
  | codes q => rw [Stmt.exec, q.exec_store]; exact .codes q rfl _ rfl
  | refreshTokens q => rw [Stmt.exec, q.exec_store]; exact .refreshTokens q rfl _ rfl
  | consents q => rw [Stmt.exec, q.exec_store]; exact .consents _
  | revokedAccessTokens q => rw [Stmt.exec, q.exec_store]; exact .revokedAccessTokens q rfl _ rfl
  | signingKeys q => cases q <;> exact .reads
  | signingKeyAdmin q => rw [Stmt.exec, q.exec_store]; exact .signingKeys q rfl _ rfl
  | totpSecrets q => rw [Stmt.exec, q.exec_store]; exact .totpSecrets q rfl _ rfl
  | passkeys q => rw [Stmt.exec, q.exec_store]; exact .passkeys q rfl _ _ rfl rfl
  | passwordResetTokens q => rw [Stmt.exec, q.exec_store]; exact .passwordResetTokens q rfl _ rfl
  | emailVerificationTokens q =>
    rw [Stmt.exec, q.exec_store]
    exact .emailVerificationTokens q rfl _ rfl
  | systemSettings q => rw [Stmt.exec, q.exec_store]; exact .systemSettings _

/-- Every operation is one of these. -/
lemma exec_written (op : Op) (i : Input) (s : Store) : Written D op s (exec D op i s).2 := by
  cases op with
  | db q =>
    cases f : i.fault with
    | some e =>
      simp only [exec, f]
      exact .reads
    | none =>
      simp only [exec, f]
      exact exec_stmt_written q
  | checkAndRecord key now =>
    simp only [exec, Store.checkAndRecord]
    split <;> exact .memory _
  | limit limiter key now =>
    simp only [exec, Store.limit]
    split <;> exact .otherMemory _
  | cacheGet key =>
    simp only [exec, Store.cacheGet]
    split
    · exact .reads
    · split
      · exact .reads
      · exact .cache _ (fun _ eq => by cases eq)
  | cacheInsert key value => exact .cache _ (fun _ eq => by cases eq)
  | cacheInvalidate key => exact .cache _ (fun _ eq => by cases eq)
  | tenantCacheGet key =>
    simp only [exec, Store.tenantCacheGet]
    split
    · exact .reads
    · split
      · exact .reads
      · exact .tenantCache _ (fun _ eq => by cases eq)
  | tenantCacheInsert key value => exact .tenantCache _ (fun _ eq => by cases eq)
  | tenantCacheInvalidate key => exact .tenantCache _ (fun _ eq => by cases eq)
  | sendMail address link =>
    simp only [exec]
    split <;> exact .reads
  | _ => exact .reads

/-! ## Users -/

/-- Only a statement on users writes them. -/
lemma exec_users {op : Op} (i : Input) (s : Store) (other : ∀ q, op ≠ .db (.users q)) :
    (exec D op i s).2.users = s.users := by
  have w := exec_written (D := D) op i s
  generalize (exec D op i s).2 = s' at w
  cases w with
  | users q eq => exact absurd eq (other q)
  | deleteUser id eq => exact absurd eq (other _)
  | _ => rfl

/-- No statement changes the id or the subject of a user. -/
lemma exec_users_mem {op : Op} {i : Input} {s : Store} {u : User} (mem : u ∈ (exec D op i s).2.users) :
    (∃ r ∈ s.users, r.id = u.id ∧ r.sub = u.sub) ∨ op = .db (.users (.create u)) := by
  have updated : ∀ (id : Uuid) (f : User → User), u ∈ (s.updateUser id f).users →
      (∀ r, (f r).id = r.id ∧ (f r).sub = r.sub) → ∃ r ∈ s.users, r.id = u.id ∧ r.sub = u.sub := by
    intro id f mem same
    obtain ⟨r, row, rfl⟩ := List.mem_map.mp mem
    refine ⟨r, row, ?_⟩
    split
    · exact ⟨(same r).1.symm, (same r).2.symm⟩
    · exact ⟨rfl, rfl⟩
  have w := exec_written (D := D) op i s
  generalize (exec D op i s).2 = s' at w mem
  cases w with
  | users q eq rows h =>
    subst h
    cases q with
    | create new =>
      simp only [UserStmt.exec] at mem
      split at mem
      · exact .inl ⟨u, mem, rfl, rfl⟩
      · rcases List.mem_append.mp mem with mem | mem
        · exact .inl ⟨u, mem, rfl, rfl⟩
        · obtain rfl := List.mem_singleton.mp mem
          exact .inr eq
    | findById | findBySub | findByEmail | findByUsername => exact .inl ⟨u, mem, rfl, rfl⟩
    | delete id => exact .inl ⟨u, (List.mem_filter.mp mem).1, rfl, rfl⟩
    | updateLoginState id | updatePassword id | resetPasswordForced id | updateStatus id | updateName id
    | updateLanguage id | markEmailVerified id => exact .inl (updated id _ mem fun _ => ⟨rfl, rfl⟩)
  | deleteUser id => exact .inl ⟨u, (List.mem_filter.mp mem).1, rfl, rfl⟩
  | _ => exact .inl ⟨u, mem, rfl, rfl⟩

/-! ## Refresh tokens -/

/-- What one operation can do to the refresh tokens. -/
inductive RefreshEffect (op : Op) (rows : List RefreshToken) : List RefreshToken → Prop where
  | keep : RefreshEffect op rows rows
  | create (t : RefreshToken) (eq : op = .db (.refreshTokens (.create t)))
    (fresh : ∀ r ∈ rows, r.tokenHash ≠ t.tokenHash) : RefreshEffect op rows (rows ++ [t])
  | revoke (p : RefreshToken → Bool) (now : DateTime) : RefreshEffect op rows (revokeWhere p now rows)
  | delete (userId : Uuid) : RefreshEffect op rows (rows.filter (·.userId ≠ userId))

lemma exec_refreshTokens (op : Op) (i : Input) (s : Store) :
    RefreshEffect op s.refreshTokens (exec D op i s).2.refreshTokens := by
  have w := exec_written (D := D) op i s
  generalize (exec D op i s).2 = s' at w
  cases w with
  | refreshTokens q eq rows h =>
    subst h
    cases q with
    | create t =>
      simp only [RefreshTokenStmt.exec]
      split
      · exact .keep
      · rename_i fresh
        split
        · exact .keep
        · exact .create t eq (by simpa using fresh)
    | findByHash => exact .keep
    | revoke hash now => exact .revoke _ now
    | existsByParentHash => exact .keep
    | revokeAllForUser userId now => exact .revoke _ now
  | deleteUser id => exact .delete id
  | _ => exact .keep

/-! ## Authorization codes -/

/-- What one operation can do to the codes. -/
inductive CodeEffect (op : Op) (rows : List AuthorizationCode) : List AuthorizationCode → Prop where
  | keep : CodeEffect op rows rows
  | create (c : AuthorizationCode) (eq : op = .db (.codes (.create c)))
    (fresh : ∀ r ∈ rows, r.codeHash ≠ c.codeHash) : CodeEffect op rows (rows ++ [c])
  | mark (p : AuthorizationCode → Bool) (now : DateTime) :
    CodeEffect op rows (rows.map fun c => if p c then { c with usedAt := some now } else c)
  | delete (userId : Uuid) : CodeEffect op rows (rows.filter (·.userId ≠ userId))

lemma exec_codes (op : Op) (i : Input) (s : Store) :
    CodeEffect op s.codes (exec D op i s).2.codes := by
  have w := exec_written (D := D) op i s
  generalize (exec D op i s).2 = s' at w
  cases w with
  | codes q eq rows h =>
    subst h
    cases q with
    | create c =>
      simp only [CodeStmt.exec]
      split
      · exact .keep
      · rename_i fresh
        split
        · exact .keep
        · exact .create c eq (by simpa using fresh)
    | consumeUpdate tenantId hash now => exact .mark _ now
    | consumeSelect => exact .keep
    | revokeAllActiveForUser userId now =>
      have marked : CodeEffect op s.codes _ :=
        .mark (fun c => c.userId = userId ∧ c.usedAt = none ∧ c.expiresAt > now) now
      simpa [CodeStmt.exec] using marked
  | deleteUser id => exact .delete id
  | _ => exact .keep

/-- The primary key of the codes is kept by every operation. -/
lemma CodeEffect.keys {op : Op} {rows rows' : List AuthorizationCode} (w : CodeEffect op rows rows')
    (keys : (rows.map (·.codeHash)).Nodup) : (rows'.map (·.codeHash)).Nodup := by
  cases w with
  | keep => exact keys
  | create c _ fresh => exact nodup_map_snoc keys fresh
  | mark p now =>
    have same : (rows.map fun c => if p c then { c with usedAt := some now } else c).map
        (·.codeHash) = rows.map (·.codeHash) := by
      rw [List.map_map]
      refine List.map_congr_left fun c _ => ?_
      simp only [Function.comp_apply]
      split <;> rfl
    rwa [same]
  | delete userId => exact keys.sublist (List.filter_sublist.map _)

/-- The primary key of the auth sessions, under the collation, is kept by every operation. -/
lemma exec_authSession_keys (op : Op) (i : Input) (s : Store)
    (keys : (s.authSessions.map fun a => D.coll a.id).Nodup) :
    ((exec D op i s).2.authSessions.map fun a => D.coll a.id).Nodup := by
  have updated : ∀ f : AuthSession → AuthSession, (∀ a, (f a).id = a.id) →
      ((s.authSessions.map f).map fun a => D.coll a.id).Nodup := by
    intro f same
    simpa [Function.comp_def, same] using keys
  have w := exec_written (D := D) op i s
  generalize (exec D op i s).2 = s' at w
  cases w with
  | authSessions q eq rows h =>
    subst h
    cases q with
    | create a =>
      simp only [AuthSessionStmt.exec]
      split
      · exact keys
      · rename_i fresh
        split
        · exact keys
        · exact nodup_map_snoc keys (by simpa using fresh)
    | findById => exact keys
    | setAuthenticatedUser | setPasswordVerified =>
      simp only [AuthSessionStmt.exec, Store.updateAuthSession]
      split
      · exact keys
      · refine updated _ fun a => ?_
        split <;> rfl
    | delete id => exact keys.sublist (List.filter_sublist.map _)
  | deleteUser id =>
    refine updated _ fun a => ?_
    split <;> rfl
  | _ => exact keys

/-- A row of `auth_sessions` comes from an `INSERT` and keeps its id and its tenant. -/
lemma exec_authSessions_mem {op : Op} {i : Input} {s : Store} {b : AuthSession}
    (mem : b ∈ (exec D op i s).2.authSessions) :
    (∃ a ∈ s.authSessions, a.id = b.id ∧ a.tenantId = b.tenantId) ∨
      ∃ a, op = .db (.authSessions (.create a)) ∧ a.id = b.id := by
  have updated : ∀ {f : AuthSession → AuthSession}, (∀ a, (f a).id = a.id ∧ (f a).tenantId = a.tenantId) →
      b ∈ s.authSessions.map f → ∃ a ∈ s.authSessions, a.id = b.id ∧ a.tenantId = b.tenantId := by
    rintro f same mem
    obtain ⟨a, row, rfl⟩ := List.mem_map.mp mem
    exact ⟨a, row, (same a).1.symm, (same a).2.symm⟩
  have w := exec_written (D := D) op i s
  generalize (exec D op i s).2 = s' at w mem
  cases w with
  | authSessions q eq rows h =>
    subst h
    cases q with
    | create a =>
      simp only [AuthSessionStmt.exec] at mem
      split_ifs at mem
      · exact .inl ⟨b, mem, rfl, rfl⟩
      · exact .inl ⟨b, mem, rfl, rfl⟩
      · rcases List.mem_append.mp mem with mem | mem
        · exact .inl ⟨b, mem, rfl, rfl⟩
        · obtain rfl := List.mem_singleton.mp mem
          exact .inr ⟨a, eq, rfl⟩
    | findById => exact .inl ⟨b, mem, rfl, rfl⟩
    | setAuthenticatedUser | setPasswordVerified =>
      simp only [AuthSessionStmt.exec, Store.updateAuthSession] at mem
      split_ifs at mem
      · exact .inl ⟨b, mem, rfl, rfl⟩
      · refine .inl (updated (fun a => ?_) mem)
        split <;> exact ⟨rfl, rfl⟩
    | delete id => exact .inl ⟨b, (List.mem_filter.mp mem).1, rfl, rfl⟩
  | deleteUser id =>
    refine .inl (updated (fun a => ?_) mem)
    split <;> exact ⟨rfl, rfl⟩
  | _ => exact .inl ⟨b, mem, rfl, rfl⟩

/-! ## Revoked access tokens -/

/-- Nothing takes a `jti` off the table of revoked ones. -/
lemma exec_revokedAccessTokens (op : Op) (i : Input) (s : Store) :
    s.revokedAccessTokens ⊆ (exec D op i s).2.revokedAccessTokens := by
  have w := exec_written (D := D) op i s
  generalize (exec D op i s).2 = s' at w
  cases w with
  | revokedAccessTokens q eq rows h =>
    subst h
    cases q with
    | revoke t =>
      simp only [RevokedAccessTokenStmt.exec, Store.revokeJti]
      split
      · exact List.Subset.refl _
      · exact List.subset_append_left _ _
    | isRevoked => exact List.Subset.refl _
  | _ => exact List.Subset.refl _

/-! ## Memberships and permissions -/

/-- The operation sets up a tenant. -/
def Op.isProvision : Op → Bool
  | .db (.tenants (.provision _ _ _)) => true
  | _ => false

/-- A row of `user_permissions` comes from a grant, or from setting up its tenant. -/
lemma exec_permissions_mem {op : Op} {i : Input} {s : Store} {p : UserPermission}
    (other : op.isProvision = false) (mem : p ∈ (exec D op i s).2.permissions) :
    p ∈ s.permissions ∨
      ∃ tenantId userId code, op = .db (.permissions (.grant tenantId userId code)) ∧
        p = ⟨userId, code, tenantId⟩ := by
  have w := exec_written (D := D) op i s
  generalize (exec D op i s).2 = s' at w mem
  cases w with
  | permissions q eq rows h =>
    subst h
    cases q with
    | grant tenantId userId code =>
      simp only [PermissionStmt.exec] at mem
      split_ifs at mem
      · exact .inl mem
      · exact .inl mem
      · exact .inl mem
      · rcases List.mem_append.mp mem with mem | mem
        · exact .inl mem
        · exact .inr ⟨tenantId, userId, code, eq, List.mem_singleton.mp mem⟩
    | revoke | revokeAllForUserInTenant => exact .inl (List.mem_filter.mp mem).1
    | _ => exact .inl mem
  | deleteUser id => exact .inl (List.mem_filter.mp mem).1
  | deleteTenant id => exact .inl (List.mem_filter.mp mem).1
  | provision t m code eq =>
    subst eq
    cases other
  | _ => exact .inl mem

/-- What one operation can do to the memberships. -/
inductive MembershipEffect (op : Op) (rows : List TenantMembership) : List TenantMembership → Prop where
  | keep : MembershipEffect op rows rows
  | create (m : TenantMembership) (eq : op = .db (.memberships (.create m)))
    (fresh : rows.any (·.hasKey m.tenantId m.userId) = false) : MembershipEffect op rows (rows ++ [m])
  | provision (t : Tenant) (m : TenantMembership) (code : String)
    (eq : op = .db (.tenants (.provision t m code)))
    (fresh : rows.any (·.hasKey m.tenantId m.userId) = false) : MembershipEffect op rows (rows ++ [m])
  | activate (tenantId : TenantId) (userId : Uuid)
    (eq : op = .db (.memberships (.activate tenantId userId))) :
    MembershipEffect op rows (rows.map fun m =>
      if m.hasKey tenantId userId then
        { m with status := .active, invitationTokenHash := none, invitationExpiresAt := none }
      else m)
  | delete (tenantId : TenantId) (userId : Uuid)
    (eq : op = .db (.memberships (.delete tenantId userId))) :
    MembershipEffect op rows (rows.filter fun m => !m.hasKey tenantId userId)
  | deleteUser (userId : Uuid) (eq : op = .db (.users (.delete userId))) :
    MembershipEffect op rows (rows.filter (·.userId ≠ userId))
  | deleteTenant (tenantId : TenantId) (eq : op = .db (.tenants (.delete tenantId))) :
    MembershipEffect op rows (rows.filter (·.tenantId ≠ tenantId))

lemma exec_memberships (op : Op) (i : Input) (s : Store) :
    MembershipEffect op s.memberships (exec D op i s).2.memberships := by
  have w := exec_written (D := D) op i s
  generalize (exec D op i s).2 = s' at w
  cases w with
  | memberships q eq rows h =>
    subst h
    cases q with
    | create m =>
      simp only [MembershipStmt.exec]
      split
      · exact .keep
      · rename_i fresh
        split
        · exact .keep
        · exact .create m eq (Bool.eq_false_iff.mpr fresh)
    | activate tenantId userId => exact .activate tenantId userId eq
    | delete tenantId userId => exact .delete tenantId userId eq
    | _ => exact .keep
  | provision t m code eq fresh => exact .provision t m code eq fresh
  | deleteUser id eq => exact .deleteUser id eq
  | deleteTenant id eq => exact .deleteTenant id eq
  | _ => exact .keep

/-- The primary key of a membership. -/
def TenantMembership.key (m : TenantMembership) : TenantId × Uuid := (m.tenantId, m.userId)

lemma TenantMembership.hasKey_iff {m : TenantMembership} {tenantId : TenantId} {userId : Uuid} :
    m.hasKey tenantId userId = true ↔ m.key = (tenantId, userId) := by
  simp [TenantMembership.hasKey, TenantMembership.key]

lemma membership_fresh_key {rows : List TenantMembership} {m : TenantMembership}
    (fresh : rows.any (·.hasKey m.tenantId m.userId) = false) : ∀ r ∈ rows, r.key ≠ m.key := by
  intro r mem same
  have known : rows.any (·.hasKey m.tenantId m.userId) = true :=
    List.any_eq_true.mpr ⟨r, mem, TenantMembership.hasKey_iff.mpr same⟩
  rw [fresh] at known
  cases known

/-- The primary key of the memberships is kept by every operation. -/
lemma MembershipEffect.keys {op : Op} {rows rows' : List TenantMembership}
    (w : MembershipEffect op rows rows') (keys : (rows.map (·.key)).Nodup) :
    (rows'.map (·.key)).Nodup := by
  cases w with
  | keep => exact keys
  | create m _ fresh => exact nodup_map_snoc keys (membership_fresh_key fresh)
  | provision t m code _ fresh => exact nodup_map_snoc keys (membership_fresh_key fresh)
  | activate tenantId userId =>
    have same : (rows.map fun m => if m.hasKey tenantId userId then
        { m with status := .active, invitationTokenHash := none, invitationExpiresAt := none }
        else m).map (·.key) = rows.map (·.key) := by
      rw [List.map_map]
      refine List.map_congr_left fun m _ => ?_
      simp only [Function.comp_apply]
      split <;> rfl
    rwa [same]
  | delete | deleteUser | deleteTenant => exact keys.sublist (List.filter_sublist.map _)

/-- The operation can remove memberships: of the key, of the user or of the tenant. -/
def Op.removesMember (tenantId : TenantId) (userId : Uuid) : Op → Prop
  | .db (.memberships (.delete t u)) => t = tenantId ∧ u = userId
  | .db (.users (.delete u)) => u = userId
  | .db (.tenants (.delete t)) => t = tenantId
  | _ => False

/-- A row that is not removed stays as it is, or is activated. -/
lemma MembershipEffect.stays {op : Op} {rows rows' : List TenantMembership}
    (w : MembershipEffect op rows rows') {m : TenantMembership} (mem : m ∈ rows)
    (kept : ¬ op.removesMember m.tenantId m.userId) :
    m ∈ rows' ∨ (op = .db (.memberships (.activate m.tenantId m.userId)) ∧
      { m with status := .active, invitationTokenHash := none, invitationExpiresAt := none } ∈ rows') := by
  cases w with
  | keep => exact .inl mem
  | create | provision => exact .inl (List.mem_append_left _ mem)
  | activate tenantId userId eq =>
    by_cases key : m.hasKey tenantId userId = true
    · obtain ⟨rfl, rfl⟩ : m.tenantId = tenantId ∧ m.userId = userId := by
        simpa [TenantMembership.hasKey] using key
      exact .inr ⟨eq, List.mem_map.mpr ⟨m, mem, if_pos key⟩⟩
    · exact .inl (List.mem_map.mpr ⟨m, mem, if_neg key⟩)
  | delete tenantId userId eq =>
    refine .inl (List.mem_filter.mpr ⟨mem, ?_⟩)
    have other : m.hasKey tenantId userId = false := by
      by_contra key
      obtain ⟨rfl, rfl⟩ : m.tenantId = tenantId ∧ m.userId = userId := by
        simpa [TenantMembership.hasKey] using key
      subst eq
      exact kept ⟨rfl, rfl⟩
    simp [other]
  | deleteUser userId eq =>
    subst eq
    exact .inl (List.mem_filter.mpr ⟨mem, by simpa using fun same => kept same.symm⟩)
  | deleteTenant tenantId eq =>
    subst eq
    exact .inl (List.mem_filter.mpr ⟨mem, by simpa using fun same => kept same.symm⟩)

/-- A member stays one, unless the membership, the user or the tenant is deleted. -/
lemma exec_isActiveMember {op : Op} {i : Input} {s : Store} {tenantId : TenantId} {userId : Uuid}
    (member : s.isActiveMember tenantId userId = true) (kept : ¬ op.removesMember tenantId userId) :
    (exec D op i s).2.isActiveMember tenantId userId = true := by
  simp only [Store.isActiveMember, List.any_eq_true, decide_eq_true_eq] at member ⊢
  obtain ⟨m, mem, rfl, rfl, active⟩ := member
  rcases (exec_memberships (D := D) op i s).stays mem kept with stays | ⟨-, activated⟩
  · exact ⟨m, stays, rfl, rfl, active⟩
  · exact ⟨_, activated, rfl, rfl, rfl⟩

/-! ## The permission cache -/

/-- An entry was there before and has not been invalidated, or is inserted. -/
lemma exec_permissionCache_mem {op : Op} {i : Input} {s : Store} {e : PermissionEntry}
    (mem : e ∈ (exec D op i s).2.permissionCache) :
    (e ∈ s.permissionCache ∧ op ≠ .cacheInvalidate e.key) ∨ op = .cacheInsert e.key e.value := by
  cases op with
  | db q =>
    refine .inl ⟨?_, by rintro ⟨⟩⟩
    have w := exec_written (D := D) (.db q) i s
    generalize (exec D (.db q) i s).2 = s' at w mem
    cases w with
    | cache _ outside => exact absurd rfl (outside q)
    | _ => exact mem
  | checkAndRecord key now =>
    refine .inl ⟨?_, by rintro ⟨⟩⟩
    simp only [exec, Store.checkAndRecord] at mem
    split at mem <;> exact mem
  | cacheGet key =>
    refine .inl ⟨?_, by rintro ⟨⟩⟩
    simp only [exec, Store.cacheGet] at mem
    split at mem
    · exact mem
    · split at mem
      · exact mem
      · exact (List.mem_filter.mp mem).1
  | cacheInsert key value =>
    rcases List.mem_append.mp mem with mem | mem
    · exact .inl ⟨(List.mem_filter.mp mem).1, by rintro ⟨⟩⟩
    · obtain rfl := List.mem_singleton.mp mem
      exact .inr rfl
  | cacheInvalidate key =>
    obtain ⟨mem, other⟩ := List.mem_filter.mp mem
    refine .inl ⟨mem, ?_⟩
    rintro ⟨⟩
    simp at other
  | limit limiter key now =>
    refine .inl ⟨?_, by rintro ⟨⟩⟩
    simp only [exec, Store.limit] at mem
    split at mem <;> exact mem
  | sendMail address link =>
    refine .inl ⟨?_, by rintro ⟨⟩⟩
    simp only [exec] at mem
    split at mem <;> exact mem
  | tenantCacheGet key =>
    refine .inl ⟨?_, by rintro ⟨⟩⟩
    simp only [exec, Store.tenantCacheGet] at mem
    split at mem
    · exact mem
    · split at mem <;> exact mem
  | _ => exact .inl ⟨mem, by rintro ⟨⟩⟩

/-! ## The active signing key -/

/-- The newest of some keys is one of them. -/
lemma newer_mem {keys : List SigningKey} {best : Option SigningKey} {key : SigningKey}
    (e : keys.foldl SigningKey.newer best = some key) : best = some key ∨ key ∈ keys := by
  induction keys generalizing best with
  | nil => exact .inl e
  | cons k keys ih =>
    obtain e | mem := ih e
    · unfold SigningKey.newer at e
      split at e
      · exact .inr (by simp_all)
      · split at e
        · exact .inr (by simp_all)
        · exact .inl e
    · exact .inr (List.mem_cons_of_mem _ mem)

/-- It is as new as any of them. -/
lemma newer_le {keys : List SigningKey} {best : Option SigningKey} {key k : SigningKey}
    (e : keys.foldl SigningKey.newer best = some key) (among : best = some k ∨ k ∈ keys) :
    k.notBefore ≤ key.notBefore := by
  induction keys generalizing best k with
  | nil =>
    rcases among with first | mem
    · cases first.symm.trans e
      exact Int.le_refl _
    · cases mem
  | cons k' keys ih =>
    rw [List.foldl_cons] at e
    cases best with
    | none =>
      rcases among with first | mem
      · cases first
      · rcases List.mem_cons.mp mem with rfl | mem
        · exact ih e (.inl rfl)
        · exact ih e (.inr mem)
    | some b =>
      simp only [SigningKey.newer] at e
      split_ifs at e with newer
      · have later := ih e (.inl rfl)
        rcases among with first | mem
        · cases first
          exact Int.le_trans (Int.le_of_lt newer) later
        · rcases List.mem_cons.mp mem with rfl | mem
          · exact later
          · exact ih e (.inr mem)
      · have later := ih e (.inl rfl)
        rcases among with first | mem
        · cases first
          exact later
        · rcases List.mem_cons.mp mem with rfl | mem
          · exact Int.le_trans (Int.not_lt.mp newer) later
          · exact ih e (.inr mem)

lemma newer_none {keys : List SigningKey} {best : Option SigningKey}
    (e : keys.foldl SigningKey.newer best = none) : best = none ∧ keys = [] := by
  induction keys generalizing best with
  | nil => exact ⟨e, rfl⟩
  | cons k keys ih =>
    have never : SigningKey.newer best k = none := (ih e).1
    unfold SigningKey.newer at never
    split at never
    · cases never
    · split_ifs at never

/-- `find_active`: the usable key whose validity began last. -/
def Store.activeKey (s : Store) (now : DateTime) : Option SigningKey :=
  (s.signingKeys.filter (·.isUsableForSigningAt now)).foldl SigningKey.newer none

section
variable {s : Store} {now : DateTime} {a k : SigningKey}

lemma activeKey_mem (active : s.activeKey now = some a) :
    a ∈ s.signingKeys ∧ a.isUsableForSigningAt now = true := by
  rcases newer_mem active with never | mem
  · cases never
  · exact List.mem_filter.mp mem

lemma activeKey_newest (active : s.activeKey now = some a) (mem : k ∈ s.signingKeys)
    (usable : k.isUsableForSigningAt now = true) : k.notBefore ≤ a.notBefore :=
  newer_le active (.inr (List.mem_filter.mpr ⟨mem, usable⟩))

lemma activeKey_none_iff :
    s.activeKey now = none ↔ ∀ k ∈ s.signingKeys, k.isUsableForSigningAt now = false := by
  constructor
  · intro none k mem
    have empty := (newer_none none).2
    rw [List.filter_eq_nil_iff] at empty
    simpa using empty k mem
  · intro unusable
    have empty : s.signingKeys.filter (·.isUsableForSigningAt now) = [] := by
      rw [List.filter_eq_nil_iff]
      intro k mem
      simp [unusable k mem]
    rw [Store.activeKey, empty]
    rfl

end

end IdpMvp
