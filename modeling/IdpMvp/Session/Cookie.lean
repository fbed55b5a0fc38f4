import IdpMvp.Account.Enrolment
import IdpMvp.Service.Account
import IdpMvp.Service.UserLifecycle

/-!
# Who the SSO cookie stands for

Seven services resolve the cookie to a user, each with a copy of its own. The profile, the password and the admin
access ask whether the user is active; the language, the tenants, the TOTP secrets and the passkeys do not.
-/

namespace IdpMvp

open Program Program.Prog Program.Flow Prog

/-! ## The calls -/

/-- A call that the cookie alone authenticates. -/
inductive SsoCall where
  | adminAuthorize (tenantId : TenantId) (required : String)
  | adminUser
  | profileGet
  | profileName (name : Option String)
  | passwordChange (currentPassword newPassword : String)
  | languageUpdate (language : String)
  | tenantsList
  | totpSetup (accountName : String)
  | totpConfirm (code : String)
  | totpDelete
  | passkeyBegin (userName : String)
  | passkeyComplete (challengeId : Uuid) (name credentialValue : String)
  | passkeyDelete (credentialId : Uuid)
  | passkeyList

/-- The service of a call. -/
inductive SsoService where
  | admin
  | profile
  | password
  | language
  | tenants
  | totp
  | passkey
  deriving DecidableEq

def SsoCall.service : SsoCall → SsoService
  | adminAuthorize _ _ | adminUser => .admin
  | profileGet | profileName _ => .profile
  | passwordChange _ _ => .password
  | languageUpdate _ => .language
  | tenantsList => .tenants
  | totpSetup _ | totpConfirm _ | totpDelete => .totp
  | passkeyBegin _ | passkeyComplete _ _ _ | passkeyDelete _ | passkeyList => .passkey

/-- Why there is no user. -/
inductive SsoRefusal where
  | expired
  | internal (detail : String)

/-- The user that a service resolves the cookie to. -/
def SsoService.resolveUser (D : Deploy) (ssoSessionId : String) : SsoService → ServiceFlow SsoRefusal Uuid
  | admin => do
    let user ← AdminAccess.resolveSessionUser D (some ssoSessionId) .expired
    return user.id
  | profile => do
    let user ← AccountProfile.resolveActiveUser D ssoSessionId .expired .internal
    return user.id
  | password => do
    let user ← AccountPassword.resolveUser D ssoSessionId .expired .internal
    return user.id
  | language => AccountLanguage.resolveUser D ssoSessionId .expired .internal
  | tenants => AccountTenants.resolveUser D ssoSessionId .expired .internal
  | totp => resolveSsoUser D ssoSessionId .expired .internal
  | passkey => resolveSsoUser D ssoSessionId .expired .internal

/-- The user that a service resolves the cookie to in one execution. -/
def SsoService.resolves (D : Deploy) (ssoSessionId : String) (ins : Nat → Input) (s : Store) (v : SsoService) :
    Option Uuid :=
  ((v.resolveUser D ssoSessionId).run.run (exec D) ins s).1.toOption

/-! Whether something was done for a user, or told about one. -/

def ProfileOutcome.isServed : ProfileOutcome → Bool
  | ok _ _ _ => true
  | _ => false

def UpdateNameOutcome.isServed : UpdateNameOutcome → Bool
  | ok => true
  | _ => false

def AccountPasswordOutcome.isServed : AccountPasswordOutcome → Bool
  | sessionExpired | internal _ => false
  | _ => true

def UpdateLanguageOutcome.isServed : UpdateLanguageOutcome → Bool
  | ok => true
  | _ => false

def ListTenantsOutcome.isServed : ListTenantsOutcome → Bool
  | ok _ => true
  | _ => false

def AdminAccess.isServed : AdminAccess → Bool
  | unauthenticated => false
  | _ => true

def TotpRegistrationError.isServed : TotpRegistrationError → Bool
  | sessionExpired | internal _ => false
  | _ => true

def PasskeyRegistrationError.isServed : PasskeyRegistrationError → Bool
  | sessionExpired | internal _ => false
  | _ => true

/-- An execution in which nothing was done for a user, or told about one, and what it leaves. -/
def servedAs {ε α : Type} (isServed : ε → Bool) (onOk : α → Bool) (p : ServiceFlow ε α) : Service Bool := do
  match ← p.run with
  | .error e => return isServed e
  | .ok a => return onOk a

/-- A call, of which it counts whether it served somebody. -/
def SsoCall.serve (D : Deploy) (sid : String) : SsoCall → Service Bool
  | adminAuthorize tenantId required =>
    servedAs AdminAccess.isServed AdminAccess.isServed (AdminAccess.authorize D tenantId (some sid) required)
  | adminUser => servedAs (fun _ => false) (fun _ => true) (AdminAccess.authenticatedUser D (some sid))
  | profileGet => servedAs ProfileOutcome.isServed ProfileOutcome.isServed (AccountProfile.get D sid)
  | profileName name =>
    servedAs UpdateNameOutcome.isServed UpdateNameOutcome.isServed (AccountProfile.updateName D sid name)
  | passwordChange currentPassword newPassword =>
    servedAs AccountPasswordOutcome.isServed AccountPasswordOutcome.isServed
      (AccountPassword.change D sid currentPassword newPassword)
  | languageUpdate language =>
    servedAs UpdateLanguageOutcome.isServed UpdateLanguageOutcome.isServed (AccountLanguage.update D sid language)
  | tenantsList => servedAs ListTenantsOutcome.isServed ListTenantsOutcome.isServed (AccountTenants.list D sid)
  | totpSetup accountName =>
    servedAs TotpRegistrationError.isServed (fun _ => true) (TotpRegistration.setup D sid accountName)
  | totpConfirm code => servedAs TotpRegistrationError.isServed (fun _ => true) (TotpRegistration.confirm D sid code)
  | totpDelete => servedAs TotpRegistrationError.isServed (fun _ => true) (TotpRegistration.delete D sid)
  | passkeyBegin userName =>
    servedAs PasskeyRegistrationError.isServed (fun _ => true) (PasskeyRegistration.begin D sid userName)
  | passkeyComplete challengeId name credentialValue =>
    servedAs PasskeyRegistrationError.isServed (fun _ => true)
      (PasskeyRegistration.complete D sid challengeId name credentialValue)
  | passkeyDelete credentialId =>
    servedAs PasskeyRegistrationError.isServed (fun _ => true) (PasskeyRegistration.delete D sid credentialId)
  | passkeyList => servedAs PasskeyRegistrationError.isServed (fun _ => true) (PasskeyRegistration.list D sid)

/-! ## What the services accept -/

/-- The session of a cookie. -/
def Store.sessionOf (D : Deploy) (s : Store) (sid : String) : Option SsoSession :=
  s.ssoSessions.find? (·.sessionHash = D.sha256Hex sid)

/-- The user exists and is active. -/
def Store.hasActive (s : Store) (userId : Uuid) : Bool := (s.users.find? (·.id = userId)).any (·.isActive)

/-- The services that look at the user. -/
def SsoService.checksUser : SsoService → Bool
  | admin | profile | password => true
  | language | tenants | totp | passkey => false

/-- The lookup of the session. -/
def SsoService.lookup (ins : Nat → Input) : SsoService → Input
  | profile | password | language | tenants => ins 1
  | admin | totp | passkey => ins 0

/-- The time that the session must be valid at, which some read before the lookup and some after it. -/
def SsoService.readsAt (ins : Nat → Input) : SsoService → DateTime
  | profile | password | language | tenants => (ins 0).now
  | admin | totp | passkey => (ins 1).now

/-- What a service accepts. -/
structure SsoService.Accepts (D : Deploy) (sid : String) (ins : Nat → Input) (s : Store) (v : SsoService)
    (userId : Uuid) : Prop where
  quiet : (v.lookup ins).fault = none
  session : ∃ x, s.sessionOf D sid = some x ∧ x.isValidAt (v.readsAt ins) = true ∧ x.userId = userId
  user : v.checksUser = true → (ins 2).fault = none ∧ s.hasActive userId = true
  cookie : v = .admin → sid ≠ ""

/-- A service resolves the cookie only to the active user of a session that has not expired, and serves nobody if the
session is that of another user. -/
structure SsoCall.Protects (D : Deploy) (sid : String) (ins : Nat → Input) (s : Store) (c : SsoCall) : Prop where
  resolves : ∀ userId, c.service.resolves D sid ins s = some userId →
    (∃ x, s.sessionOf D sid = some x ∧ x.isValidAt (c.service.readsAt ins) = true ∧ x.userId = userId) ∧
      s.hasActive userId = true
  refuses : (∀ x, s.sessionOf D sid = some x → s.hasActive x.userId = false) →
    (c.serve D sid).run (exec D) ins s = (false, s)

section
variable {D : Deploy} {sid : String} {ins : Nat → Input} {s : Store} {ε α : Type} {expired : ε}
  {internal : String → ε} {now : DateTime}

/-- The outcomes of who is not signed in. -/
abbrev NotSignedIn (expired : ε) (internal : String → ε) (e : ε) : Prop := e = expired ∨ ∃ d, e = internal d

lemma findLiveSession_wp :
    wpE (exec D) (findLiveSession D sid now expired internal) ins s
      (fun x s' tr => s' = s ∧ tr.length = 1 ∧ (ins 0).fault = none ∧ s.sessionOf D sid = some x ∧
        x.isValidAt now = true)
      (fun e s' _ => s' = s ∧ NotSignedIn expired internal e ∧ ∀ x, (ins 0).fault = none →
        s.sessionOf D sid = some x → x.isValidAt now = false) := by
  unfold findLiveSession
  rw [wpE_bind, wpE_orLeave, db, Prog.op, wp_db]
  refine ⟨fun e fault => ⟨rfl, .inr ⟨_, rfl⟩, fun x quiet => ?_⟩, fun quiet => ?_⟩
  · rw [quiet] at fault
    cases fault
  · simp only [Stmt.exec, SsoSessionStmt.exec, wp_ret, wpE_found]
    rw [← Store.sessionOf]
    cases row : s.sessionOf D sid with
    | none => simp [NotSignedIn]
    | some x =>
      cases valid : x.isValidAt now with
      | false => simp [NotSignedIn, valid]
      | true => simp [quiet, valid]

lemma findActiveUser_wp {userId : Uuid} :
    wpE (exec D) (findActiveUser userId expired internal) ins s
      (fun user s' _ => s' = s ∧ user.id = userId ∧ (ins 0).fault = none ∧ s.hasActive userId = true)
      (fun e s' _ => s' = s ∧ NotSignedIn expired internal e ∧ ((ins 0).fault = none → s.hasActive userId = false)) := by
  unfold findActiveUser
  rw [wpE_bind, wpE_orLeave, db, Prog.op, wp_db]
  refine ⟨fun e fault => ⟨rfl, .inr ⟨_, rfl⟩, fun quiet => ?_⟩, fun quiet => ?_⟩
  · rw [quiet] at fault
    cases fault
  · simp only [Stmt.exec, UserStmt.exec, wp_ret, wpE_found]
    rw [Store.hasActive]
    cases row : s.users.find? (·.id = userId) with
    | none => simp [NotSignedIn]
    | some user =>
      have named : user.id = userId := by simpa using List.find?_some row
      cases active : user.isActive with
      | false => simp [NotSignedIn, active]
      | true => simp [quiet, active, named]

/-! ### The resolvers -/

/-- Both spellings of the check are the same. -/
lemma unexpired_eq (x : SsoSession) (now : DateTime) :
    (!(x.idleExpiresAt ≤ now || x.absoluteExpiresAt ≤ now)) = x.isValidAt now := by
  rw [SsoSession.isValidAt, Bool.not_or, ← decide_not, ← decide_not]
  simp only [Int.not_le, gt_iff_lt]

/-- The services that look at the user, with the lookup after the clock. -/
lemma resolveActive_wp {v : SsoService} (late : v = .profile ∨ v = .password) :
    wpE (exec D) (AccountProfile.resolveActiveUser D sid expired internal) ins s
      (fun user s' _ => s' = s ∧ v.Accepts D sid ins s user.id)
      (fun e s' _ => s' = s ∧ NotSignedIn expired internal e ∧ ∀ userId, ¬ v.Accepts D sid ins s userId) := by
  have lookup : v.lookup ins = ins 1 := by rcases late with rfl | rfl <;> rfl
  have reads : v.readsAt ins = (ins 0).now := by rcases late with rfl | rfl <;> rfl
  have checks : v.checksUser = true := by rcases late with rfl | rfl <;> rfl
  have other : v ≠ .admin := by rcases late with rfl | rfl <;> decide
  unfold AccountProfile.resolveActiveUser
  refine wpE_clock_step ?_
  rw [wpE_bind]
  refine wpE_mono findLiveSession_wp ?_ ?_
  · rintro x _ tr ⟨rfl, one, quiet, row, valid⟩
    refine wpE_mono findActiveUser_wp ?_ ?_
    · rintro user _ _ ⟨rfl, named, quiet', active⟩
      rw [one] at quiet'
      refine ⟨rfl, lookup ▸ quiet, ⟨x, row, reads ▸ valid, named.symm⟩, fun _ => ⟨quiet', named ▸ active⟩, ?_⟩
      exact fun admin => absurd admin other
    · rintro e _ _ ⟨rfl, kind, inactive⟩
      refine ⟨rfl, kind, fun userId accepts => ?_⟩
      obtain ⟨x', row', -, rfl⟩ := accepts.session
      obtain rfl := Option.some.inj (row.symm.trans row')
      obtain ⟨quiet', active⟩ := accepts.user checks
      rw [one] at inactive
      rw [inactive quiet'] at active
      cases active
  · rintro e _ _ ⟨rfl, kind, none⟩
    refine ⟨rfl, kind, fun userId accepts => ?_⟩
    obtain ⟨x, row, valid, -⟩ := accepts.session
    rw [reads, none x (lookup ▸ accepts.quiet) row] at valid
    cases valid

/-- The services that do not look at the user, with the lookup after the clock. -/
lemma resolveLive_wp {v : SsoService} (late : v = .language ∨ v = .tenants) :
    wpE (exec D) (AccountLanguage.resolveUser D sid expired internal) ins s
      (fun userId s' _ => s' = s ∧ v.Accepts D sid ins s userId)
      (fun e s' _ => s' = s ∧ NotSignedIn expired internal e ∧ ∀ userId, ¬ v.Accepts D sid ins s userId) := by
  have lookup : v.lookup ins = ins 1 := by rcases late with rfl | rfl <;> rfl
  have reads : v.readsAt ins = (ins 0).now := by rcases late with rfl | rfl <;> rfl
  have unchecked : v.checksUser ≠ true := by rcases late with rfl | rfl <;> decide
  have other : v ≠ .admin := by rcases late with rfl | rfl <;> decide
  unfold AccountLanguage.resolveUser
  refine wpE_clock_step ?_
  rw [wpE_bind]
  refine wpE_mono findLiveSession_wp ?_ ?_
  · rintro x _ tr ⟨rfl, -, quiet, row, valid⟩
    refine ⟨rfl, lookup ▸ quiet, ⟨x, row, reads ▸ valid, rfl⟩, fun checks => absurd checks unchecked, fun admin =>
      absurd admin other⟩
  · rintro e _ _ ⟨rfl, kind, none⟩
    refine ⟨rfl, kind, fun userId accepts => ?_⟩
    obtain ⟨x, row, valid, -⟩ := accepts.session
    rw [reads, none x (lookup ▸ accepts.quiet) row] at valid
    cases valid

/-- The second factors, with the lookup before the clock. -/
lemma resolveSsoUser_wp {v : SsoService} (early : v = .totp ∨ v = .passkey) :
    wpE (exec D) (resolveSsoUser D sid expired internal) ins s
      (fun userId s' _ => s' = s ∧ v.Accepts D sid ins s userId)
      (fun e s' _ => s' = s ∧ NotSignedIn expired internal e ∧ ∀ userId, ¬ v.Accepts D sid ins s userId) := by
  have lookup : v.lookup ins = ins 0 := by rcases early with rfl | rfl <;> rfl
  have reads : v.readsAt ins = (ins 1).now := by rcases early with rfl | rfl <;> rfl
  have unchecked : v.checksUser ≠ true := by rcases early with rfl | rfl <;> decide
  have other : v ≠ .admin := by rcases early with rfl | rfl <;> decide
  unfold resolveSsoUser
  refine wpE_db_split ?_ ?_ ?_
  · intro e fault
    refine ⟨rfl, .inr ⟨_, rfl⟩, fun userId accepts => ?_⟩
    rw [← lookup, accepts.quiet] at fault
    cases fault
  · intro e s₁ _ executed
    cases executed
  · intro row s₁ quiet executed
    have row : row = s.sessionOf D sid ∧ s₁ = s := by
      cases executed
      exact ⟨rfl, rfl⟩
    obtain ⟨rfl, rfl⟩ := row
    refine wpE_found_split (fun none => ?_) fun x row => ?_
    · refine ⟨rfl, .inl rfl, fun userId accepts => ?_⟩
      obtain ⟨x, row, -⟩ := accepts.session
      rw [none] at row
      cases row
    refine wpE_clock_step ?_
    refine wpE_ensure_split (fun invalid => ?_) fun valid => ?_
    · refine ⟨rfl, .inl rfl, fun userId accepts => ?_⟩
      obtain ⟨x', row', valid, -⟩ := accepts.session
      obtain rfl := Option.some.inj (row.symm.trans row')
      rw [reads, ← unexpired_eq] at valid
      exact absurd valid (ne_true_of_eq_false invalid)
    · refine ⟨rfl, lookup ▸ quiet, ⟨x, row, ?_, rfl⟩, fun checks => absurd checks unchecked, fun admin =>
        absurd admin other⟩
      rw [reads, ← unexpired_eq]
      exact valid

/-- The admin access, which tells no failure from another. -/
lemma resolveSessionUser_wp :
    wpE (exec D) (AdminAccess.resolveSessionUser D (some sid) expired) ins s
      (fun user s' _ => s' = s ∧ SsoService.Accepts D sid ins s .admin user.id)
      (fun e s' _ => s' = s ∧ e = expired ∧ ∀ userId, ¬ SsoService.Accepts D sid ins s .admin userId) := by
  unfold AdminAccess.resolveSessionUser
  by_cases blank : sid = ""
  · have none : nonEmpty (some sid) = none := if_pos blank
    rw [none]
    exact ⟨rfl, rfl, fun userId accepts => accepts.cookie rfl blank⟩
  refine wpE_found_step (if_neg blank) ?_
  refine wpE_db_split ?_ ?_ ?_
  · intro e fault
    refine ⟨rfl, rfl, fun userId accepts => ?_⟩
    have quiet : (ins 0).fault = none := accepts.quiet
    rw [quiet] at fault
    cases fault
  · intro e s₁ _ executed
    cases executed
  · intro row s₁ quiet executed
    have row : row = s.sessionOf D sid ∧ s₁ = s := by
      cases executed
      exact ⟨rfl, rfl⟩
    obtain ⟨rfl, rfl⟩ := row
    refine wpE_found_split (fun none => ?_) fun x row => ?_
    · refine ⟨rfl, rfl, fun userId accepts => ?_⟩
      obtain ⟨x, row, -⟩ := accepts.session
      rw [none] at row
      cases row
    refine wpE_clock_step ?_
    refine wpE_ensure_split (fun invalid => ?_) fun valid => ?_
    · refine ⟨rfl, rfl, fun userId accepts => ?_⟩
      obtain ⟨x', row', valid, -⟩ := accepts.session
      obtain rfl := Option.some.inj (row.symm.trans row')
      exact absurd valid (ne_true_of_eq_false invalid)
    refine wpE_mono findActiveUser_wp ?_ ?_
    · rintro user _ _ ⟨rfl, named, quiet', active⟩
      exact ⟨rfl, quiet, ⟨x, row, valid, named.symm⟩, fun _ => ⟨quiet', named ▸ active⟩, fun _ => blank⟩
    · rintro e _ _ ⟨rfl, kind, inactive⟩
      have refused : e = expired := by
        rcases kind with rfl | ⟨d, rfl⟩ <;> rfl
      refine ⟨rfl, refused, fun userId accepts => ?_⟩
      obtain ⟨x', row', -, rfl⟩ := accepts.session
      obtain rfl := Option.some.inj (row.symm.trans row')
      obtain ⟨quiet', active⟩ := accepts.user rfl
      rw [inactive quiet'] at active
      cases active

/-- Every service resolves the cookie to whom it accepts. -/
lemma SsoService.resolveUser_wp (v : SsoService) :
    wpE (exec D) (v.resolveUser D sid) ins s (fun userId s' _ => s' = s ∧ v.Accepts D sid ins s userId)
      (fun _ s' _ => s' = s ∧ ∀ userId, ¬ v.Accepts D sid ins s userId) := by
  cases v with
  | admin =>
    refine wpE_bind_of (wpE_mono resolveSessionUser_wp (fun _ _ _ h => h) fun _ _ _ h => ⟨h.1, h.2.2⟩) ?_
    exact fun user s' tr h => h
  | profile =>
    refine wpE_bind_of (wpE_mono (resolveActive_wp (.inl rfl)) (fun _ _ _ h => h) fun _ _ _ h => ⟨h.1, h.2.2⟩) ?_
    exact fun user s' tr h => h
  | password =>
    refine wpE_bind_of (wpE_mono (resolveActive_wp (.inr rfl)) (fun _ _ _ h => h) fun _ _ _ h => ⟨h.1, h.2.2⟩) ?_
    exact fun user s' tr h => h
  | language => exact wpE_mono (resolveLive_wp (.inl rfl)) (fun _ _ _ h => h) fun _ _ _ h => ⟨h.1, h.2.2⟩
  | tenants => exact wpE_mono (resolveLive_wp (.inr rfl)) (fun _ _ _ h => h) fun _ _ _ h => ⟨h.1, h.2.2⟩
  | totp => exact wpE_mono (resolveSsoUser_wp (.inl rfl)) (fun _ _ _ h => h) fun _ _ _ h => ⟨h.1, h.2.2⟩
  | passkey => exact wpE_mono (resolveSsoUser_wp (.inr rfl)) (fun _ _ _ h => h) fun _ _ _ h => ⟨h.1, h.2.2⟩

lemma SsoService.Accepts.unique {v : SsoService} {u u' : Uuid} (accepts : v.Accepts D sid ins s u)
    (accepts' : v.Accepts D sid ins s u') : u = u' := by
  obtain ⟨x, row, -, rfl⟩ := accepts.session
  obtain ⟨x', row', -, rfl⟩ := accepts'.session
  rw [Option.some.inj (row.symm.trans row')]

lemma SsoService.resolves_iff {v : SsoService} {userId : Uuid} :
    v.resolves D sid ins s = some userId ↔ v.Accepts D sid ins s userId := by
  have w : wpE (exec D) (v.resolveUser D sid) ins s _ _ := v.resolveUser_wp
  rw [wpE, wp_iff_run] at w
  rw [resolves]
  generalize (v.resolveUser D sid).run.run (exec D) ins s = ended at w ⊢
  obtain ⟨r, s'⟩ := ended
  cases r with
  | error e => exact iff_of_false (by rintro ⟨⟩) (w.2 userId)
  | ok u =>
    constructor
    · intro same
      obtain rfl := Option.some.inj same
      exact w.2
    · exact fun accepts => congrArg some (w.2.unique accepts)

/-! ### The calls -/

/-- A call that starts with its service's resolver serves nobody where the service accepts nobody. -/
lemma servedAs_wp {v : SsoService} {β γ : Type} {isServed : ε → Bool} {onOk : γ → Bool} {resolver : ServiceFlow ε β}
    {rest : β → ServiceFlow ε γ} {f : β → Uuid}
    (w : wpE (exec D) resolver ins s (fun b s' _ => s' = s ∧ v.Accepts D sid ins s (f b))
      (fun e s' _ => s' = s ∧ isServed e = false ∧ ∀ userId, ¬ v.Accepts D sid ins s userId))
    (nobody : ∀ userId, ¬ v.Accepts D sid ins s userId) :
    (servedAs isServed onOk (resolver >>= rest)).wp (exec D) ins s (fun served s' _ => served = false ∧ s' = s) := by
  have leaves : wpE (exec D) (resolver >>= rest) ins s (fun _ _ _ => False)
      (fun e s' _ => s' = s ∧ isServed e = false) :=
    wpE_bind_of (wpE_mono w (fun _ _ _ h => h) fun _ _ _ h => ⟨h.1, h.2.1⟩) fun b _ _ h => (nobody _ h.2).elim
  unfold servedAs
  rw [wp_bind]
  refine wp_mono leaves ?_
  rintro (e | a) s' tr h
  · exact ⟨h.2, h.1⟩
  · exact h.elim

/-- The resolvers as the calls use them, where an outcome of who is not signed in serves nobody. -/
lemma active_served {v : SsoService} {isServed : ε → Bool} (late : v = .profile ∨ v = .password)
    (refused : ∀ e, NotSignedIn expired internal e → isServed e = false) :
    wpE (exec D) (AccountProfile.resolveActiveUser D sid expired internal) ins s
      (fun user s' _ => s' = s ∧ v.Accepts D sid ins s user.id)
      (fun e s' _ => s' = s ∧ isServed e = false ∧ ∀ userId, ¬ v.Accepts D sid ins s userId) :=
  wpE_mono (resolveActive_wp late) (fun _ _ _ h => h) fun _ _ _ h => ⟨h.1, refused _ h.2.1, h.2.2⟩

lemma live_served {v : SsoService} {isServed : ε → Bool} (late : v = .language ∨ v = .tenants)
    (refused : ∀ e, NotSignedIn expired internal e → isServed e = false) :
    wpE (exec D) (AccountLanguage.resolveUser D sid expired internal) ins s
      (fun userId s' _ => s' = s ∧ v.Accepts D sid ins s userId)
      (fun e s' _ => s' = s ∧ isServed e = false ∧ ∀ userId, ¬ v.Accepts D sid ins s userId) :=
  wpE_mono (resolveLive_wp late) (fun _ _ _ h => h) fun _ _ _ h => ⟨h.1, refused _ h.2.1, h.2.2⟩

lemma sso_served {v : SsoService} {isServed : ε → Bool} (early : v = .totp ∨ v = .passkey)
    (refused : ∀ e, NotSignedIn expired internal e → isServed e = false) :
    wpE (exec D) (resolveSsoUser D sid expired internal) ins s
      (fun userId s' _ => s' = s ∧ v.Accepts D sid ins s userId)
      (fun e s' _ => s' = s ∧ isServed e = false ∧ ∀ userId, ¬ v.Accepts D sid ins s userId) :=
  wpE_mono (resolveSsoUser_wp early) (fun _ _ _ h => h) fun _ _ _ h => ⟨h.1, refused _ h.2.1, h.2.2⟩

/-- A call serves nobody where its service accepts nobody. -/
lemma SsoCall.refused (c : SsoCall) (nobody : ∀ userId, ¬ c.service.Accepts D sid ins s userId) :
    (c.serve D sid).run (exec D) ins s = (false, s) := by
  have w : (c.serve D sid).wp (exec D) ins s (fun served s' _ => served = false ∧ s' = s) := by
    cases c with
    | adminAuthorize tenantId required =>
      refine servedAs_wp (v := .admin) (wpE_mono resolveSessionUser_wp (fun _ _ _ h => h) ?_) nobody
      rintro e s' tr ⟨same, rfl, none⟩
      exact ⟨same, rfl, none⟩
    | adminUser =>
      refine servedAs_wp (v := .admin) (wpE_mono resolveSessionUser_wp (fun _ _ _ h => h) ?_) nobody
      exact fun e s' tr h => ⟨h.1, rfl, h.2.2⟩
    | profileGet =>
      refine servedAs_wp (active_served (.inl rfl) ?_) nobody
      rintro _ (rfl | ⟨d, rfl⟩) <;> rfl
    | profileName name =>
      -- A name that is not valid is refused before the cookie is looked at.
      rw [serve, AccountProfile.updateName]
      cases AccountProfile.isValidName name with
      | false => exact ⟨rfl, rfl⟩
      | true =>
        change (servedAs _ _ (AccountProfile.resolveActiveUser D sid UpdateNameOutcome.sessionExpired .internal >>= _)).wp
          _ _ _ _
        refine servedAs_wp (active_served (.inl rfl) ?_) nobody
        rintro _ (rfl | ⟨d, rfl⟩) <;> rfl
    | passwordChange currentPassword newPassword =>
      refine servedAs_wp (active_served (.inr rfl) ?_) nobody
      rintro _ (rfl | ⟨d, rfl⟩) <;> rfl
    | languageUpdate language =>
      rw [serve, AccountLanguage.update]
      cases trimWhitespace language = "ja" || trimWhitespace language = "en" with
      | false => exact ⟨rfl, rfl⟩
      | true =>
        change (servedAs _ _ (AccountLanguage.resolveUser D sid UpdateLanguageOutcome.sessionExpired .internal >>= _)).wp
          _ _ _ _
        refine servedAs_wp (f := id) (live_served (.inl rfl) ?_) nobody
        rintro _ (rfl | ⟨d, rfl⟩) <;> rfl
    | tenantsList =>
      refine servedAs_wp (f := id) (live_served (.inr rfl) ?_) nobody
      rintro _ (rfl | ⟨d, rfl⟩) <;> rfl
    | totpSetup accountName =>
      refine servedAs_wp (f := id) (sso_served (.inl rfl) ?_) nobody
      rintro _ (rfl | ⟨d, rfl⟩) <;> rfl
    | totpConfirm code =>
      refine servedAs_wp (f := id) (sso_served (.inl rfl) ?_) nobody
      rintro _ (rfl | ⟨d, rfl⟩) <;> rfl
    | totpDelete =>
      refine servedAs_wp (f := id) (sso_served (.inl rfl) ?_) nobody
      rintro _ (rfl | ⟨d, rfl⟩) <;> rfl
    | passkeyBegin userName =>
      refine servedAs_wp (f := id) (sso_served (.inr rfl) ?_) nobody
      rintro _ (rfl | ⟨d, rfl⟩) <;> rfl
    | passkeyComplete challengeId name credentialValue =>
      refine servedAs_wp (f := id) (sso_served (.inr rfl) ?_) nobody
      rintro _ (rfl | ⟨d, rfl⟩) <;> rfl
    | passkeyDelete credentialId =>
      refine servedAs_wp (f := id) (sso_served (.inr rfl) ?_) nobody
      rintro _ (rfl | ⟨d, rfl⟩) <;> rfl
    | passkeyList =>
      refine servedAs_wp (f := id) (sso_served (.inr rfl) ?_) nobody
      rintro _ (rfl | ⟨d, rfl⟩) <;> rfl
  exact Prod.ext (wp_iff_run.mp w).1 (wp_iff_run.mp w).2

/-- A call keeps to active users exactly if its service looks at the user, the lookup fails or the cookie's session,
as long as it is valid, is that of an active user. -/
theorem ssoCall_protects_iff (c : SsoCall) :
    c.Protects D sid ins s ↔
      c.service.checksUser = true ∨ (c.service.lookup ins).fault.isSome = true ∨
        ∀ x, s.sessionOf D sid = some x → x.isValidAt (c.service.readsAt ins) = true → s.hasActive x.userId = true := by
  constructor
  · intro protects
    by_cases checks : c.service.checksUser = true
    · exact .inl checks
    cases quiet : (c.service.lookup ins).fault with
    | some e => exact .inr (.inl rfl)
    | none =>
      refine .inr (.inr fun x row valid => ?_)
      have unasked : c.service = .admin → sid ≠ "" := fun admin => absurd (by rw [admin]; rfl) checks
      have accepts : c.service.Accepts D sid ins s x.userId :=
        ⟨quiet, ⟨x, row, valid, rfl⟩, fun asked => absurd asked checks, unasked⟩
      exact (protects.resolves _ (SsoService.resolves_iff.mpr accepts)).2
  · intro condition
    have active : ∀ userId, c.service.Accepts D sid ins s userId → s.hasActive userId = true := by
      intro userId accepts
      rcases condition with checks | fault | owned
      · exact (accepts.user checks).2
      · rw [accepts.quiet] at fault
        cases fault
      · obtain ⟨x, row, valid, rfl⟩ := accepts.session
        exact owned x row valid
    refine ⟨fun userId resolved => ?_, fun inactive => c.refused fun userId accepts => ?_⟩
    · have accepts := SsoService.resolves_iff.mp resolved
      exact ⟨accepts.session, active userId accepts⟩
    · obtain ⟨x, row, -, rfl⟩ := accepts.session
      have there := active _ accepts
      rw [inactive x row] at there
      cases there

end

/-! ## A session that outlives its user -/

namespace Sample

/-- Alice is signed in. -/
def signedInStore : Store :=
  { store with
    ssoSessions := [⟨enrolmentDeploy.sha256Hex (sessionId 5), aliceId, Sample.now, Sample.now + 1,
      Sample.now + 1, none, none⟩] }

/-- The deletion of her sessions fails. -/
def deletionFails (n : Nat) : Input :=
  if n = 3 then { input 2 with fault := some (.repository "connection lost") } else input 2

/-- An administrator has disabled her. -/
def disabledStore : Store :=
  ((setStatus tenantA aliceId .disabled adminId).run.run (exec enrolmentDeploy) deletionFails signedInStore).2

set_option maxRecDepth 8000 in
/-- She sets up a secret all the same. -/
theorem disabled_sets_up_totp :
    ((setStatus tenantA aliceId .disabled adminId).run.run (exec enrolmentDeploy) deletionFails signedInStore).1 =
      .ok () ∧
    disabledStore.hasActive aliceId = false ∧
    (((SsoCall.totpSetup "alice@example.com").serve enrolmentDeploy (sessionId 5)).run (exec enrolmentDeploy)
      (fun _ => input 2) disabledStore).1 = true ∧
    (((SsoCall.totpSetup "alice@example.com").serve enrolmentDeploy (sessionId 5)).run (exec enrolmentDeploy)
      (fun _ => input 2) disabledStore).2.totpSecrets = [⟨aliceId, stored 2 newTotpSecret, none⟩] ∧
    ¬ (SsoCall.totpSetup "alice@example.com").Protects enrolmentDeploy (sessionId 5) (fun _ => input 2)
      disabledStore := by
  refine ⟨by decide +kernel, by decide +kernel, by decide +kernel, by decide +kernel, fun protects => ?_⟩
  have resolved : SsoService.totp.resolves enrolmentDeploy (sessionId 5) (fun _ => input 2) disabledStore =
      some aliceId := by
    decide +kernel
  have active := (protects.resolves aliceId resolved).2
  revert active
  decide +kernel

end Sample
end IdpMvp
