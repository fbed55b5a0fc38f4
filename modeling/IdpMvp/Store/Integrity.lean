import IdpMvp.Sample
import IdpMvp.Store.Effects

/-!
# Whose the credentials are

Every row that can authenticate somebody references its user by a foreign key. Over any sequence of
operations, of whatever services and in whatever order, it is therefore the row of a stored user; and a
user that is deleted leaves no such row behind, not even by a request that was under way.
-/

namespace IdpMvp

open Program

variable {D : Deploy} {s s' : Store} {id : Uuid}

/-- The owners of the rows are stored users. -/
def Store.OwnsRows {α : Type} (s : Store) (owner : α → Uuid) (rows : List α) : Prop :=
  ∀ r ∈ rows, s.hasUser (owner r) = true

/-- Sessions, codes, tokens and second factors are of stored users. -/
structure Store.CredentialsOwned (s : Store) : Prop where
  authSessions : ∀ a ∈ s.authSessions, ∀ userId, a.authenticatedUserId = some userId → s.hasUser userId = true
  ssoSessions : s.OwnsRows SsoSession.userId s.ssoSessions
  codes : s.OwnsRows AuthorizationCode.userId s.codes
  refreshTokens : s.OwnsRows RefreshToken.userId s.refreshTokens
  totpSecrets : s.OwnsRows TotpSecret.userId s.totpSecrets
  webauthnCredentials : s.OwnsRows WebAuthnCredential.userId s.webauthnCredentials
  passwordResetTokens : s.OwnsRows PasswordResetToken.userId s.passwordResetTokens
  emailVerificationTokens : s.OwnsRows PasswordResetToken.userId s.emailVerificationTokens

/-! ## One operation -/

namespace Store.OwnsRows

variable {α : Type} {owner : α → Uuid} {rows : List α}

/-- A row is added for an owner who is there. -/
lemma append (owned : s.OwnsRows owner rows) {new : α} (own : s.hasUser (owner new) = true) :
    s.OwnsRows owner (rows ++ [new]) := by
  intro r mem
  rcases List.mem_append.mp mem with old | mem
  · exact owned r old
  · obtain rfl := List.mem_singleton.mp mem
    exact own

/-- Rows are changed, but not their owners. -/
lemma map (owned : s.OwnsRows owner rows) {f : α → α} (same : ∀ r, owner (f r) = owner r) :
    s.OwnsRows owner (rows.map f) := by
  intro r mem
  obtain ⟨old, here, rfl⟩ := List.mem_map.mp mem
  rw [same]
  exact owned old here

lemma filter (owned : s.OwnsRows owner rows) (p : α → Bool) : s.OwnsRows owner (rows.filter p) :=
  fun r mem => owned r (List.mem_filter.mp mem).1

/-- The rows of one owner are deleted with the owner. -/
lemma cascade (owned : s.OwnsRows owner rows) :
    (s.deleteUser id).OwnsRows owner (rows.filter (owner · ≠ id)) := by
  intro r mem
  obtain ⟨mem, other⟩ := List.mem_filter.mp mem
  obtain ⟨u, row, eq⟩ := List.any_eq_true.mp (owned r mem)
  refine List.any_eq_true.mpr ⟨u, List.mem_filter.mpr ⟨row, ?_⟩, eq⟩
  rw [decide_eq_true_eq] at eq
  rwa [eq]

end Store.OwnsRows

/-- More users, the same rows. -/
lemma Store.CredentialsOwned.users (owned : s.CredentialsOwned) {rows : List User}
    (kept : ∀ id, s.hasUser id = true → { s with users := rows }.hasUser id = true) :
    { s with users := rows }.CredentialsOwned where
  authSessions a mem userId eq := kept _ (owned.authSessions a mem userId eq)
  ssoSessions x mem := kept _ (owned.ssoSessions x mem)
  codes c mem := kept _ (owned.codes c mem)
  refreshTokens t mem := kept _ (owned.refreshTokens t mem)
  totpSecrets t mem := kept _ (owned.totpSecrets t mem)
  webauthnCredentials c mem := kept _ (owned.webauthnCredentials c mem)
  passwordResetTokens t mem := kept _ (owned.passwordResetTokens t mem)
  emailVerificationTokens t mem := kept _ (owned.emailVerificationTokens t mem)

lemma hasUser_updateUser (target : Uuid) {f : User → User} (same : ∀ u, (f u).id = u.id) (id : Uuid)
    (has : s.hasUser id = true) : (s.updateUser target f).hasUser id = true := by
  obtain ⟨u, mem, eq⟩ := List.any_eq_true.mp has
  refine List.any_eq_true.mpr ⟨_, List.mem_map_of_mem mem, ?_⟩
  split
  · rwa [same]
  · exact eq

/-- A statement on users leaves the credentials with their users; a deletion takes them along. -/
lemma users_owned (owned : s.CredentialsOwned) (q : UserStmt) : (q.exec D s).2.CredentialsOwned := by
  have updated : ∀ (target : Uuid) (f : User → User), (∀ u, (f u).id = u.id) →
      (s.updateUser target f).CredentialsOwned :=
    fun target f same => owned.users (hasUser_updateUser target same)
  cases q with
  | create u =>
    simp only [UserStmt.exec]
    split
    · exact owned
    · refine owned.users fun id has => ?_
      obtain ⟨r, mem, eq⟩ := List.any_eq_true.mp has
      exact List.any_eq_true.mpr ⟨r, List.mem_append_left _ mem, eq⟩
  | findById | findBySub | findByEmail | findByUsername => exact owned
  | updateLoginState id | updatePassword id | resetPasswordForced id | updateStatus id | updateName id
  | updateLanguage id | markEmailVerified id => exact updated id _ fun _ => rfl
  | delete id =>
    refine ⟨?_, owned.ssoSessions.cascade, owned.codes.cascade, owned.refreshTokens.cascade,
      owned.totpSecrets.cascade, owned.webauthnCredentials.cascade, owned.passwordResetTokens.cascade,
      owned.emailVerificationTokens.cascade⟩
    -- An auth session stays, without its user.
    intro a mem userId authenticated
    obtain ⟨b, old, rfl⟩ := List.mem_map.mp mem
    split at authenticated
    · cases authenticated
    · rename_i other
      obtain ⟨u, row, eq⟩ := List.any_eq_true.mp (owned.authSessions b old userId authenticated)
      refine List.any_eq_true.mpr ⟨u, List.mem_filter.mpr ⟨row, ?_⟩, eq⟩
      rw [decide_eq_true_eq] at eq ⊢
      rintro rfl
      exact other (authenticated.trans (congrArg some eq.symm))

/-- A user becomes the user of an auth session only if the user is stored. -/
lemma updateAuthSession_owned (owned : s.CredentialsOwned) {sid : String} {userId : Uuid}
    {f : AuthSession → AuthSession} (sets : ∀ a, (f a).authenticatedUserId = some userId) :
    ∀ a ∈ (s.updateAuthSession D sid userId f).2.authSessions, ∀ u, a.authenticatedUserId = some u →
      s.hasUser u = true := by
  unfold Store.updateAuthSession
  split
  · exact owned.authSessions
  · rename_i allowed
    intro a mem u authenticated
    obtain ⟨b, old, rfl⟩ := List.mem_map.mp mem
    split at authenticated
    · rename_i named
      obtain rfl := Option.some.inj ((sets b).symm.trans authenticated)
      have present : (s.authSessions.any fun a => D.coll a.id = D.coll sid) = true :=
        List.any_eq_true.mpr ⟨b, old, decide_eq_true named⟩
      simpa [present] using allowed
    · exact owned.authSessions b old u authenticated

lemma authSessions_owned (owned : s.CredentialsOwned) (q : AuthSessionStmt) :
    ∀ a ∈ (q.exec D s).2.authSessions, ∀ u, a.authenticatedUserId = some u → s.hasUser u = true := by
  cases q with
  | create a =>
    simp only [AuthSessionStmt.exec]
    split
    · exact owned.authSessions
    · split
      · exact owned.authSessions
      · rename_i allowed
        intro b mem u authenticated
        rcases List.mem_append.mp mem with old | new
        · exact owned.authSessions b old u authenticated
        · obtain rfl := List.mem_singleton.mp new
          simp only [Bool.or_eq_true, not_or] at allowed
          have user := allowed.2
          rw [authenticated] at user
          simpa using user
  | findById => exact owned.authSessions
  | setAuthenticatedUser => exact updateAuthSession_owned owned fun _ => rfl
  | setPasswordVerified => exact updateAuthSession_owned owned fun _ => rfl
  | delete sid => exact fun a mem => owned.authSessions a (List.mem_filter.mp mem).1

/-- Every operation keeps the credentials with stored users. -/
lemma exec_owned (op : Op) (i : Input) (s : Store) (owned : s.CredentialsOwned) :
    (exec D op i s).2.CredentialsOwned := by
  by_cases users : ∃ q, op = .db (.users q)
  · obtain ⟨q, rfl⟩ := users
    cases fault : i.fault with
    | some e => simpa only [exec, fault] using owned
    | none =>
      simp only [exec, fault]
      exact users_owned owned q
  have w := exec_written (D := D) op i s
  generalize (exec D op i s).2 = s' at w
  cases w with
  | users q eq => exact absurd ⟨q, eq⟩ users
  | deleteUser id eq => exact absurd ⟨_, eq⟩ users
  | authSessions q eq rows h =>
    subst h
    exact ⟨authSessions_owned owned q, owned.2, owned.3, owned.4, owned.5, owned.6, owned.7, owned.8⟩
  | ssoSessions q eq rows h =>
    subst h
    refine ⟨owned.1, ?_, owned.3, owned.4, owned.5, owned.6, owned.7, owned.8⟩
    cases q with
    | create x =>
      simp only [SsoSessionStmt.exec]
      split
      · exact owned.ssoSessions
      · split
        · exact owned.ssoSessions
        · rename_i has
          exact owned.ssoSessions.append (by simpa using has)
    | findByHash => exact owned.ssoSessions
    | extendIdle hash deadline => exact owned.ssoSessions.map fun x => by split <;> rfl
    | delete | deleteAllForUser => exact owned.ssoSessions.filter _
  | codes q eq rows h =>
    subst h
    refine ⟨owned.1, owned.2, ?_, owned.4, owned.5, owned.6, owned.7, owned.8⟩
    cases q with
    | create c =>
      simp only [CodeStmt.exec]
      split
      · exact owned.codes
      · split
        · exact owned.codes
        · rename_i has
          simp only [Bool.or_eq_true, not_or] at has
          exact owned.codes.append (by simpa using has.1)
    | consumeSelect => exact owned.codes
    | consumeUpdate => exact owned.codes.map fun c => by split <;> rfl
    | revokeAllActiveForUser => exact owned.codes.map fun c => by split <;> rfl
  | refreshTokens q eq rows h =>
    subst h
    refine ⟨owned.1, owned.2, owned.3, ?_, owned.5, owned.6, owned.7, owned.8⟩
    cases q with
    | create t =>
      simp only [RefreshTokenStmt.exec]
      split
      · exact owned.refreshTokens
      · split
        · exact owned.refreshTokens
        · rename_i has
          simp only [Bool.or_eq_true, not_or] at has
          exact owned.refreshTokens.append (by simpa using has.1)
    | findByHash | existsByParentHash => exact owned.refreshTokens
    | revoke | revokeAllForUser =>
      refine owned.refreshTokens.map fun t => ?_
      unfold RefreshToken.revokeIf
      split <;> rfl
  | totpSecrets q eq rows h =>
    subst h
    refine ⟨owned.1, owned.2, owned.3, owned.4, ?_, owned.6, owned.7, owned.8⟩
    cases q with
    | upsert t =>
      simp only [TotpSecretStmt.exec]
      split
      · exact owned.totpSecrets
      · rename_i has
        have own : s.hasUser t.userId = true := by simpa using has
        split
        · intro r mem
          obtain ⟨old, here, rfl⟩ := List.mem_map.mp mem
          split
          · exact own
          · exact owned.totpSecrets old here
        · exact owned.totpSecrets.append own
    | findByUserId => exact owned.totpSecrets
    | confirm => exact owned.totpSecrets.map fun r => by split <;> rfl
    | delete => exact owned.totpSecrets.filter _
  | passkeys q eq challenges rows h h' =>
    subst h h'
    refine ⟨owned.1, owned.2, owned.3, owned.4, owned.5, ?_, owned.7, owned.8⟩
    cases q with
    | challengeCreate c =>
      simp only [PasskeyStmt.exec]
      split <;> exact owned.webauthnCredentials
    | challengeFindById | challengeDelete | credentialFindByCredentialId | credentialListByUserId =>
      exact owned.webauthnCredentials
    | credentialUpdatePasskey => exact owned.webauthnCredentials.map fun c => by split <;> rfl
    | credentialCreate c =>
      simp only [PasskeyStmt.exec]
      split
      · exact owned.webauthnCredentials
      · split
        · exact owned.webauthnCredentials
        · rename_i has
          exact owned.webauthnCredentials.append (by simpa using has)
    | credentialDelete => exact owned.webauthnCredentials.filter _
  | passwordResetTokens q eq rows h =>
    subst h
    refine ⟨owned.1, owned.2, owned.3, owned.4, owned.5, owned.6, ?_, owned.8⟩
    cases q with
    | create t =>
      simp only [PasswordResetTokenStmt.exec]
      split
      · exact owned.passwordResetTokens
      · split
        · exact owned.passwordResetTokens
        · rename_i has
          exact owned.passwordResetTokens.append (by simpa using has)
    | consumeSelect => exact owned.passwordResetTokens
    | consumeUpdate | invalidateAllForUser =>
      exact owned.passwordResetTokens.map fun t => by split <;> rfl
  | emailVerificationTokens q eq rows h =>
    subst h
    refine ⟨owned.1, owned.2, owned.3, owned.4, owned.5, owned.6, owned.7, ?_⟩
    cases q with
    | create t =>
      simp only [EmailVerificationTokenStmt.exec]
      split
      · exact owned.emailVerificationTokens
      · split
        · exact owned.emailVerificationTokens
        · rename_i has
          exact owned.emailVerificationTokens.append (by simpa using has)
    | consumeSelect => exact owned.emailVerificationTokens
    | consumeUpdate | invalidateAllForUser =>
      exact owned.emailVerificationTokens.map fun t => by split <;> rfl
  | _ => exact ⟨owned.1, owned.2, owned.3, owned.4, owned.5, owned.6, owned.7, owned.8⟩

/-! ## Any sequence of operations -/

lemma credentials_owned {ok : Op → Prop} (owned : s.CredentialsOwned) (run : Reaches (exec D) ok s s') :
    s'.CredentialsOwned :=
  run.invariant owned fun op _ i s owned => exec_owned op i s owned

/-- The operation creates no user of this id. -/
def Op.EnrolsOther (id : Uuid) (op : Op) : Prop := ∀ u, op = .db (.users (.create u)) → u.id ≠ id

/-- A user who is not stored stays so. -/
lemma hasUser_later (gone : s.hasUser id = false) (run : Reaches (exec D) (Op.EnrolsOther id) s s') :
    s'.hasUser id = false := by
  refine run.invariant (I := fun s => s.hasUser id = false) gone fun op other i s gone => ?_
  refine List.any_eq_false.mpr fun u mem => ?_
  rw [decide_eq_true_eq]
  rcases exec_users_mem mem with ⟨r, row, same, -⟩ | created
  · rw [← same]
    simpa using List.any_eq_false.mp gone r row
  · exact other u created

lemma hasUser_deleteUser (s : Store) (id : Uuid) : (s.deleteUser id).hasUser id = false := by
  refine List.any_eq_false.mpr fun u mem => ?_
  simpa using (List.mem_filter.mp mem).2

/-- After the user was deleted, whatever operations of whatever services come before and after, as long as
no other user gets the id: no session, code, token or second factor is the user's. -/
theorem deleted_user_leaves_nothing {before : Op → Prop} {s₁ : Store} (owned : s.CredentialsOwned)
    (earlier : Reaches (exec D) before s s₁)
    (later : Reaches (exec D) (Op.EnrolsOther id) (s₁.deleteUser id) s') :
    (∀ a ∈ s'.authSessions, a.authenticatedUserId ≠ some id) ∧
    (∀ x ∈ s'.ssoSessions, x.userId ≠ id) ∧ (∀ c ∈ s'.codes, c.userId ≠ id) ∧
    (∀ t ∈ s'.refreshTokens, t.userId ≠ id) ∧ (∀ t ∈ s'.totpSecrets, t.userId ≠ id) ∧
    (∀ c ∈ s'.webauthnCredentials, c.userId ≠ id) ∧ (∀ t ∈ s'.passwordResetTokens, t.userId ≠ id) ∧
    ∀ t ∈ s'.emailVerificationTokens, t.userId ≠ id := by
  have gone : s'.hasUser id = false := hasUser_later (hasUser_deleteUser s₁ id) later
  have deleted : (s₁.deleteUser id).CredentialsOwned :=
    users_owned (D := D) (credentials_owned owned earlier) (.delete id)
  have kept : s'.CredentialsOwned := credentials_owned deleted later
  have other : ∀ userId, s'.hasUser userId = true → userId ≠ id := by
    rintro userId has rfl
    cases has.symm.trans gone
  exact ⟨fun a mem eq => other id (kept.authSessions a mem id eq) rfl, fun x mem => other _ (kept.ssoSessions x mem),
    fun c mem => other _ (kept.codes c mem), fun t mem => other _ (kept.refreshTokens t mem),
    fun t mem => other _ (kept.totpSecrets t mem), fun c mem => other _ (kept.webauthnCredentials c mem),
    fun t mem => other _ (kept.passwordResetTokens t mem), fun t mem => other _ (kept.emailVerificationTokens t mem)⟩

namespace Sample

/-- A login stores its session. -/
def opensSession (userId : Uuid) : Op :=
  .db (.ssoSessions (.create ⟨deploy.sha256Hex (sessionId 5), userId, Sample.now, Sample.now + 1, Sample.now + 1,
    none, none⟩))

/-- Alice has a code and sets up a second factor. -/
def enrolledStore : Store :=
  (exec deploy (.db (.totpSecrets (.upsert ⟨aliceId, stored 0 totpSecret, none⟩))) (input 0) store).2

/-- She is deleted while she logs in, and then another user logs in. -/
def deletedStore : Store :=
  (exec deploy (opensSession adminId) (input 0)
    (exec deploy (opensSession aliceId) (input 0) (enrolledStore.deleteUser aliceId)).2).2

end Sample

open Sample in
theorem deleted_user_leaves_nothing_sample :
    (∃ c ∈ enrolledStore.codes, c.userId = aliceId) ∧ (∃ t ∈ enrolledStore.totpSecrets, t.userId = aliceId) ∧
    (∃ x ∈ deletedStore.ssoSessions, x.userId = adminId) ∧ (∀ x ∈ deletedStore.ssoSessions, x.userId ≠ aliceId) ∧
    (∀ c ∈ deletedStore.codes, c.userId ≠ aliceId) ∧ ∀ t ∈ deletedStore.totpSecrets, t.userId ≠ aliceId := by
  have owned : store.CredentialsOwned := by
    constructor
    case codes =>
      unfold Store.OwnsRows
      decide
    all_goals rintro _ ⟨⟩
  have earlier : Reaches (exec deploy) (fun _ => True) store enrolledStore := Reaches.refl.step _ (input 0) trivial
  have later : Reaches (exec deploy) (Op.EnrolsOther aliceId) (enrolledStore.deleteUser aliceId) deletedStore := by
    refine (Reaches.refl.step _ (input 0) ?_).step _ (input 0) ?_
    · rintro _ ⟨⟩
    · rintro _ ⟨⟩
  obtain ⟨-, sessions, codes, -, factors, -⟩ := deleted_user_leaves_nothing owned earlier later
  exact ⟨by decide +kernel, by decide +kernel, by decide +kernel, sessions, codes, factors⟩

end IdpMvp
