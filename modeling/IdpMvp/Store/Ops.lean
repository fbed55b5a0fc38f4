import IdpMvp.Store.Tables
import IdpMvp.Program.Flow

/-!
# The atomic operations of the services

A service is a program over these operations: one SQL statement, one reading of the clock, one draw
of randomness, one call of the rate limiter (`infrastructure/rate_limit.rs`), of a cache
(`infrastructure/cache.rs`), of the mailer or of the TOTP library, which reads the system time. Every
statement may fail with a repository error and then changes nothing.

The audit log is left out: it is only written, `AuditService::record` swallows its errors, and no
modelled function reads it.
-/

namespace IdpMvp

open Program

/-- One SQL statement. -/
inductive Stmt where
  | tenants (q : TenantStmt)
  | users (q : UserStmt)
  | clients (q : ClientStmt)
  | clientAdmin (q : ClientAdminStmt)
  | memberships (q : MembershipStmt)
  | permissions (q : PermissionStmt)
  | authSessions (q : AuthSessionStmt)
  | ssoSessions (q : SsoSessionStmt)
  | codes (q : CodeStmt)
  | refreshTokens (q : RefreshTokenStmt)
  | consents (q : ConsentStmt)
  | revokedAccessTokens (q : RevokedAccessTokenStmt)
  | signingKeys (q : SigningKeyStmt)
  | signingKeyAdmin (q : SigningKeyAdminStmt)
  | totpSecrets (q : TotpSecretStmt)
  | passkeys (q : PasskeyStmt)
  | passwordResetTokens (q : PasswordResetTokenStmt)
  | emailVerificationTokens (q : EmailVerificationTokenStmt)
  | systemSettings (q : SystemSettingStmt)

@[reducible] def Stmt.Val : Stmt → Type
  | tenants q => q.Val
  | users q => q.Val
  | clients q => q.Val
  | clientAdmin q => q.Val
  | memberships q => q.Val
  | permissions q => q.Val
  | authSessions q => q.Val
  | ssoSessions q => q.Val
  | codes q => q.Val
  | refreshTokens q => q.Val
  | consents q => q.Val
  | revokedAccessTokens q => q.Val
  | signingKeys q => q.Val
  | signingKeyAdmin q => q.Val
  | totpSecrets q => q.Val
  | passkeys q => q.Val
  | passwordResetTokens q => q.Val
  | emailVerificationTokens q => q.Val
  | systemSettings q => q.Val

/-- What a statement that does not fail returns and does, `now` being the database's clock. -/
def Stmt.exec (D : Deploy) (now : DateTime) (s : Store) : (q : Stmt) → DbResult q.Val × Store
  | tenants q => q.exec D s
  | users q => q.exec D s
  | clients q => q.exec D s
  | clientAdmin q => q.exec D s
  | memberships q => q.exec s
  | permissions q => q.exec D s
  | authSessions q => q.exec D s
  | ssoSessions q => q.exec s
  | codes q => q.exec D s
  | refreshTokens q => q.exec D s
  | consents q => q.exec D s
  | revokedAccessTokens q => q.exec D s
  | signingKeys q => q.exec D now s
  | signingKeyAdmin q => q.exec D s
  | totpSecrets q => q.exec s
  | passkeys q => q.exec D s
  | passwordResetTokens q => q.exec s
  | emailVerificationTokens q => q.exec s
  | systemSettings q => q.exec D s

/-- The atomic operations. -/
inductive Op where
  | db (q : Stmt)
  /-- `Clock::now`. -/
  | clock
  /-- `crypto::random_token`. -/
  | randomToken (bytes : Nat)
  /-- `crypto::random_hex`. -/
  | randomHex (bytes : Nat)
  /-- `rand::thread_rng().fill_bytes`. -/
  | randomBytes (bytes : Nat)
  /-- `Uuid::new_v4`. -/
  | uuidV4
  /-- `IdGenerator::new_id`. -/
  | newId
  /-- `PasswordHasher::hash`, which draws its salt. -/
  | hashPassword (password : String)
  /-- `crypto::encrypt`, which draws its nonce. -/
  | encrypt (plaintext : Bytes)
  /-- `jwt::generate_rsa_keypair` or `jwt::generate_ec_keypair`. -/
  | generateKeypair (algorithm : SigningAlgorithm)
  /-- `WebAuthnPort::begin_registration`, which draws its challenge. -/
  | beginRegistration (userId : Uuid) (userName : String) (existing : List String)
  /-- `Mailer::send` of a link to an address. -/
  | sendMail (address link : String)
  /-- `verify_totp_code`, at the system time. -/
  | verifyTotpCode (secret : Bytes) (code : String)
  /-- `LoginRateLimiter::check_and_record`. -/
  | checkAndRecord (key : String) (now : DateTime)
  /-- The same of another rate limiter. -/
  | limit (limiter : Limiter) (key : String) (now : DateTime)
  /-- `InMemoryTtlCache::get`, at the time it reads under its lock. -/
  | cacheGet (key : PermissionKey)
  /-- `InMemoryTtlCache::insert`. -/
  | cacheInsert (key : PermissionKey) (value : Bool)
  /-- `InMemoryTtlCache::invalidate`. -/
  | cacheInvalidate (key : PermissionKey)
  /-- The same for the cache of the tenant resolution. -/
  | tenantCacheGet (key : TenantId)
  | tenantCacheInsert (key : TenantId) (value : Tenant)
  | tenantCacheInvalidate (key : TenantId)

@[reducible] def Op.Res : Op → Type
  | db q => DbResult q.Val
  | clock => DateTime
  | randomToken _ | randomHex _ => String
  | randomBytes _ => Bytes
  | uuidV4 | newId => Uuid
  | hashPassword _ => Except DomainError String
  | encrypt _ => Except String String
  | generateKeypair _ | beginRegistration _ _ _ => Except String (String × String)
  | sendMail _ _ => Except String Unit
  | verifyTotpCode _ _ => Except String Bool
  | checkAndRecord _ _ | limit _ _ _ => Bool
  | cacheGet _ => Option Bool
  | cacheInsert _ _ | cacheInvalidate _ => Unit
  | tenantCacheGet _ => Option Tenant
  | tenantCacheInsert _ _ | tenantCacheInvalidate _ => Unit

/-- What a call reads from outside the store: a time, a failure of the database or of a delivery, random
bytes and a random UUID. -/
structure Input where
  now : DateTime
  fault : Option DomainError
  byte : Nat → UInt8
  uuid : Uuid

instance : Nonempty Input := ⟨⟨0, none, fun _ => 0, ⟨0⟩⟩⟩

/-- The first `n` random bytes of an input. -/
def Input.bytes (i : Input) (n : Nat) : Bytes := (List.range n).map i.byte

lemma Input.length_bytes (i : Input) (n : Nat) : (i.bytes n).length = n := by
  rw [Input.bytes, List.length_map, List.length_range]

/-- `InMemoryLoginRateLimiter::check_and_record`. -/
def Store.checkAndRecord (D : Deploy) (s : Store) (key : String) (now : DateTime) : Bool × Store :=
  let cutoff := now - D.loginWindow
  let map := (s.loginAttempts.map fun (k, times) => (k, times.filter (· > cutoff))).filter
    fun (_, times) => !times.isEmpty
  let times := (map.lookup key).getD []
  let others := map.filter fun (k, _) => k ≠ key
  if times.length ≥ D.loginMaxAttempts then
    (false, { s with loginAttempts := others ++ [(key, times)] })
  else
    (true, { s with loginAttempts := others ++ [(key, times ++ [now])] })

/-- The same for the other rate limiters; a call only sees the entries of its own. -/
def Store.limit (D : Deploy) (s : Store) (limiter : Limiter) (key : String) (now : DateTime) :
    Bool × Store :=
  let cutoff := now - D.limiterWindow limiter
  let map := (s.otherAttempts.map fun (k, times) =>
    (k, if k.1 = limiter then times.filter (· > cutoff) else times)).filter fun (_, times) => !times.isEmpty
  let times := (map.lookup (limiter, key)).getD []
  let others := map.filter fun (k, _) => k ≠ (limiter, key)
  if times.length ≥ D.limiterMaxAttempts limiter then
    (false, { s with otherAttempts := others ++ [((limiter, key), times)] })
  else
    (true, { s with otherAttempts := others ++ [((limiter, key), times ++ [now])] })

/-- The entry of a key in the permission cache. -/
def Store.cached (s : Store) (key : PermissionKey) : Option PermissionEntry :=
  s.permissionCache.find? (·.key = key)

/-- The store without the entry of a key in the permission cache. -/
def Store.uncache (s : Store) (key : PermissionKey) : Store :=
  { s with permissionCache := s.permissionCache.filter (·.key ≠ key) }

/-- `InMemoryTtlCache::get`: an expired entry is removed. -/
def Store.cacheGet (s : Store) (key : PermissionKey) (now : DateTime) : Option Bool × Store :=
  match s.cached key with
  | none => (none, s)
  | some entry => if entry.expiresAt > now then (some entry.value, s) else (none, s.uncache key)

/-- `InMemoryTtlCache::insert`. -/
def Store.cacheInsert (D : Deploy) (s : Store) (key : PermissionKey) (value : Bool)
    (now : DateTime) : Store :=
  { s with permissionCache :=
      s.permissionCache.filter (·.key ≠ key) ++ [⟨key, value, now + D.permissionCacheTtl⟩] }

/-- The entry of a tenant in the cache of the tenant resolution. -/
def Store.cachedTenant (s : Store) (key : TenantId) : Option TenantEntry :=
  s.tenantCache.find? (·.key = key)

/-- The store without the entry of a tenant in that cache. -/
def Store.uncacheTenant (s : Store) (key : TenantId) : Store :=
  { s with tenantCache := s.tenantCache.filter (·.key ≠ key) }

/-- `InMemoryTtlCache::get` on it. -/
def Store.tenantCacheGet (s : Store) (key : TenantId) (now : DateTime) : Option Tenant × Store :=
  match s.cachedTenant key with
  | none => (none, s)
  | some entry => if entry.expiresAt > now then (some entry.value, s) else (none, s.uncacheTenant key)

/-- `InMemoryTtlCache::insert` on it. -/
def Store.tenantCacheInsert (D : Deploy) (s : Store) (key : TenantId) (value : Tenant)
    (now : DateTime) : Store :=
  { s with tenantCache :=
      s.tenantCache.filter (·.key ≠ key) ++ [⟨key, value, now + D.tenantCacheTtl⟩] }

/-- What an operation does. -/
def exec (D : Deploy) : Handler Op.Res Input Store
  | .db q, i, s =>
    match i.fault with
    | some e => (.error e, s)
    | none => q.exec D i.now s
  | .clock, i, s => (i.now, s)
  | .randomToken n, i, s => (base64Url (i.bytes n), s)
  | .randomHex n, i, s => (hexEncode (i.bytes n), s)
  | .randomBytes n, i, s => (i.bytes n, s)
  | .uuidV4, i, s => (i.uuid, s)
  | .newId, i, s => (i.uuid, s)
  | .hashPassword password, i, s => (D.hashPassword (i.bytes 16) password, s)
  | .encrypt plaintext, i, s => (D.encrypt (i.bytes gcmNonceLen) plaintext, s)
  | .generateKeypair algorithm, i, s => (D.generateKeypair algorithm (i.bytes 256), s)
  | .beginRegistration userId userName existing, i, s =>
    (D.beginRegistration (i.bytes 32) userId userName existing, s)
  | .sendMail _ _, i, s =>
    match i.fault with
    | some e => (.error e.display, s)
    | none => (.ok (), s)
  | .verifyTotpCode secret code, i, s => (D.verifyTotpCode i.now secret code, s)
  | .checkAndRecord key now, _, s => s.checkAndRecord D key now
  | .limit limiter key now, _, s => s.limit D limiter key now
  | .cacheGet key, i, s => s.cacheGet key i.now
  | .cacheInsert key value, i, s => ((), s.cacheInsert D key value i.now)
  | .cacheInvalidate key, _, s => ((), s.uncache key)
  | .tenantCacheGet key, i, s => s.tenantCacheGet key i.now
  | .tenantCacheInsert key value, i, s => ((), s.tenantCacheInsert D key value i.now)
  | .tenantCacheInvalidate key, _, s => ((), s.uncacheTenant key)

/-- The same at a moment: every clock shows `now`. -/
def execAt (D : Deploy) (now : DateTime) : Handler Op.Res Input Store :=
  fun o i s => exec D o { i with now := now } s

/-- A service's program. -/
abbrev Service (α : Type) := Prog Op.Res α

/-- A service's program that may return early with an outcome `ε`. -/
abbrev ServiceFlow (ε α : Type) := Flow Op.Res ε α

/-- A statement as a program. -/
abbrev db (q : Stmt) : Service (DbResult q.Val) := Prog.op (Op.db q)

abbrev clockNow : Service DateTime := Prog.op Op.clock

abbrev randomToken (bytes : Nat) : Service String := Prog.op (Op.randomToken bytes)

abbrev randomHex (bytes : Nat) : Service String := Prog.op (Op.randomHex bytes)

abbrev randomBytes (bytes : Nat) : Service Bytes := Prog.op (Op.randomBytes bytes)

abbrev uuidV4 : Service Uuid := Prog.op Op.uuidV4

abbrev newId : Service Uuid := Prog.op Op.newId

abbrev hashPassword (password : String) : Service (Except DomainError String) :=
  Prog.op (Op.hashPassword password)

abbrev encrypt (plaintext : Bytes) : Service (Except String String) := Prog.op (Op.encrypt plaintext)

abbrev generateKeypair (algorithm : SigningAlgorithm) : Service (Except String (String × String)) :=
  Prog.op (Op.generateKeypair algorithm)

abbrev beginRegistration (userId : Uuid) (userName : String) (existing : List String) :
    Service (Except String (String × String)) :=
  Prog.op (Op.beginRegistration userId userName existing)

abbrev sendMail (address link : String) : Service (Except String Unit) :=
  Prog.op (Op.sendMail address link)

abbrev verifyTotpCode (secret : Bytes) (code : String) : Service (Except String Bool) :=
  Prog.op (Op.verifyTotpCode secret code)

abbrev checkAndRecord (key : String) (now : DateTime) : Service Bool :=
  Prog.op (Op.checkAndRecord key now)

abbrev limit (limiter : Limiter) (key : String) (now : DateTime) : Service Bool :=
  Prog.op (Op.limit limiter key now)

abbrev cacheGet (key : PermissionKey) : Service (Option Bool) := Prog.op (Op.cacheGet key)

abbrev cacheInsert (key : PermissionKey) (value : Bool) : Service Unit :=
  Prog.op (Op.cacheInsert key value)

abbrev cacheInvalidate (key : PermissionKey) : Service Unit := Prog.op (Op.cacheInvalidate key)

abbrev tenantCacheGet (key : TenantId) : Service (Option Tenant) := Prog.op (Op.tenantCacheGet key)

abbrev tenantCacheInsert (key : TenantId) (value : Tenant) : Service Unit :=
  Prog.op (Op.tenantCacheInsert key value)

/-! ## One call at a time -/

namespace Prog

open Program.Prog

variable {D : Deploy} {α : Type} {ins : Nat → Input} {s : Store}
variable {Q : α → Store → List (Call Op Input Store) → Prop}

/-- A statement either fails and changes nothing, or executes. -/
lemma wp_db (q : Stmt) (k : DbResult q.Val → Service α) :
    wp (exec D) (.call (.db q) k) ins s Q ↔
      (∀ e, (ins 0).fault = some e →
        wp (exec D) (k (.error e)) (fun n => ins (n + 1)) s
          (fun a s' tr => Q a s' (⟨.db q, ins 0, s⟩ :: tr))) ∧
      ((ins 0).fault = none →
        wp (exec D) (k (q.exec D (ins 0).now s).1) (fun n => ins (n + 1))
          (q.exec D (ins 0).now s).2 (fun a s' tr => Q a s' (⟨.db q, ins 0, s⟩ :: tr))) := by
  rw [wp_call]
  cases f : (ins 0).fault with
  | none => simp [exec, f]
  | some e => simp [exec, f]

/-- A statement either fails and changes nothing, or executes. -/
lemma always_db {P : α → Store → Prop} (q : Stmt) (k : DbResult q.Val → Service α) :
    always (exec D) (.call (.db q) k) s P ↔
      (∀ e, always (exec D) (k (.error e)) s P) ∧
      (∀ now, always (exec D) (k (q.exec D now s).1) (q.exec D now s).2 P) := by
  constructor
  · intro w
    exact ⟨fun e => w ⟨0, some e, fun _ => 0, ⟨0⟩⟩, fun now => w ⟨now, none, fun _ => 0, ⟨0⟩⟩⟩
  · rintro ⟨fails, executes⟩ ⟨now, _ | e, byte, uuid⟩
    · exact executes now
    · exact fails e

@[simp] lemma wp_clock (k : DateTime → Service α) :
    wp (exec D) (.call .clock k) ins s Q ↔
      wp (exec D) (k (ins 0).now) (fun n => ins (n + 1)) s
        (fun a s' tr => Q a s' (⟨.clock, ins 0, s⟩ :: tr)) := Iff.rfl

@[simp] lemma wp_randomToken (n : Nat) (k : String → Service α) :
    wp (exec D) (.call (.randomToken n) k) ins s Q ↔
      wp (exec D) (k (base64Url ((ins 0).bytes n))) (fun n => ins (n + 1)) s
        (fun a s' tr => Q a s' (⟨.randomToken n, ins 0, s⟩ :: tr)) := Iff.rfl

@[simp] lemma wp_randomHex (n : Nat) (k : String → Service α) :
    wp (exec D) (.call (.randomHex n) k) ins s Q ↔
      wp (exec D) (k (hexEncode ((ins 0).bytes n))) (fun n => ins (n + 1)) s
        (fun a s' tr => Q a s' (⟨.randomHex n, ins 0, s⟩ :: tr)) := Iff.rfl

@[simp] lemma wp_uuidV4 (k : Uuid → Service α) :
    wp (exec D) (.call .uuidV4 k) ins s Q ↔
      wp (exec D) (k (ins 0).uuid) (fun n => ins (n + 1)) s
        (fun a s' tr => Q a s' (⟨.uuidV4, ins 0, s⟩ :: tr)) := Iff.rfl

@[simp] lemma wp_hashPassword (password : String) (k : Except DomainError String → Service α) :
    wp (exec D) (.call (.hashPassword password) k) ins s Q ↔
      wp (exec D) (k (D.hashPassword ((ins 0).bytes 16) password)) (fun n => ins (n + 1)) s
        (fun a s' tr => Q a s' (⟨.hashPassword password, ins 0, s⟩ :: tr)) := Iff.rfl

@[simp] lemma wp_verifyTotpCode (secret : Bytes) (code : String)
    (k : Except String Bool → Service α) :
    wp (exec D) (.call (.verifyTotpCode secret code) k) ins s Q ↔
      wp (exec D) (k (D.verifyTotpCode (ins 0).now secret code)) (fun n => ins (n + 1)) s
        (fun a s' tr => Q a s' (⟨.verifyTotpCode secret code, ins 0, s⟩ :: tr)) := Iff.rfl

@[simp] lemma wp_checkAndRecord (key : String) (now : DateTime) (k : Bool → Service α) :
    wp (exec D) (.call (.checkAndRecord key now) k) ins s Q ↔
      wp (exec D) (k (s.checkAndRecord D key now).1) (fun n => ins (n + 1))
        (s.checkAndRecord D key now).2
        (fun a s' tr => Q a s' (⟨.checkAndRecord key now, ins 0, s⟩ :: tr)) := Iff.rfl

/-! For all executions, an operation other than a statement only draws its input. -/

variable {P : α → Store → Prop}

@[simp] lemma always_clock (k : DateTime → Service α) :
    always (exec D) (.call .clock k) s P ↔ ∀ i : Input, always (exec D) (k i.now) s P := Iff.rfl

@[simp] lemma always_randomToken (n : Nat) (k : String → Service α) :
    always (exec D) (.call (.randomToken n) k) s P ↔
      ∀ i : Input, always (exec D) (k (base64Url (i.bytes n))) s P := Iff.rfl

@[simp] lemma always_randomHex (n : Nat) (k : String → Service α) :
    always (exec D) (.call (.randomHex n) k) s P ↔
      ∀ i : Input, always (exec D) (k (hexEncode (i.bytes n))) s P := Iff.rfl

@[simp] lemma always_uuidV4 (k : Uuid → Service α) :
    always (exec D) (.call .uuidV4 k) s P ↔ ∀ i : Input, always (exec D) (k i.uuid) s P := Iff.rfl

@[simp] lemma always_hashPassword (password : String)
    (k : Except DomainError String → Service α) :
    always (exec D) (.call (.hashPassword password) k) s P ↔
      ∀ i : Input, always (exec D) (k (D.hashPassword (i.bytes 16) password)) s P := Iff.rfl

@[simp] lemma always_verifyTotpCode (secret : Bytes) (code : String)
    (k : Except String Bool → Service α) :
    always (exec D) (.call (.verifyTotpCode secret code) k) s P ↔
      ∀ i : Input, always (exec D) (k (D.verifyTotpCode i.now secret code)) s P := Iff.rfl

@[simp] lemma always_checkAndRecord (key : String) (now : DateTime) (k : Bool → Service α) :
    always (exec D) (.call (.checkAndRecord key now) k) s P ↔
      Input → always (exec D) (k (s.checkAndRecord D key now).1)
        (s.checkAndRecord D key now).2 P := Iff.rfl

/-! Rules to follow a flow of a service step by step. -/

variable {ε : Type} {Q : α → Store → Prop} {E : ε → Store → Prop}

lemma clock_step {k : DateTime → ServiceFlow ε α}
    (next : ∀ now, Flow.alwaysE (exec D) (k now) s Q E) :
    Flow.alwaysE (exec D) (liftM clockNow >>= k) s Q E :=
  Flow.lift_step (fun i => next i.now)

/-- A statement that reads. -/
lemma read_step {q : Stmt} {f : DomainError → ε} {k : q.Val → ServiceFlow ε α} {v : DateTime → q.Val}
    (reads : ∀ now, q.exec D now s = (.ok (v now), s)) (leave : ∀ e, E (f e) s)
    (next : ∀ now, Flow.alwaysE (exec D) (k (v now)) s Q E) :
    Flow.alwaysE (exec D) (Flow.orLeave (db q) f >>= k) s Q E := by
  rw [Flow.alwaysE_bind, Flow.alwaysE_orLeave, db, Prog.op, always_db]
  refine ⟨by simpa using leave, fun now => ?_⟩
  rw [always_ret, reads now]
  exact ⟨by simpa using next now, by simp⟩

/-- A statement that writes. -/
lemma write_step {q : Stmt} {f : DomainError → ε} {k : q.Val → ServiceFlow ε α}
    (leave : ∀ e, E (f e) s) (fails : ∀ now e s', q.exec D now s = (.error e, s') → E (f e) s')
    (next : ∀ now v s', q.exec D now s = (.ok v, s') → Flow.alwaysE (exec D) (k v) s' Q E) :
    Flow.alwaysE (exec D) (Flow.orLeave (db q) f >>= k) s Q E := by
  rw [Flow.alwaysE_bind, Flow.alwaysE_orLeave, db, Prog.op, always_db]
  refine ⟨by simpa using leave, fun now => ?_⟩
  rw [always_ret]
  exact ⟨fun v e => next now v _ (Prod.ext e rfl), fun d e => fails now d _ (Prod.ext e rfl)⟩

/-! The same for one execution. -/

lemma wpE_clock_step {k : DateTime → ServiceFlow ε α}
    (next : Flow.wpE (exec D) (k (ins 0).now) (fun n => ins (n + 1)) s (fun a s' _ => Q a s')
      (fun d s' _ => E d s')) :
    Flow.wpE (exec D) (liftM clockNow >>= k) ins s (fun a s' _ => Q a s')
      (fun d s' _ => E d s') := by
  rw [Flow.wpE_bind, Flow.wpE_lift]
  exact next

/-- A statement that does not fail. -/
lemma wpE_db_step {q : Stmt} {f : DomainError → ε} {k : q.Val → ServiceFlow ε α} {v : q.Val}
    {s₁ : Store} (quiet : (ins 0).fault = none) (executes : q.exec D (ins 0).now s = (.ok v, s₁))
    (next : Flow.wpE (exec D) (k v) (fun n => ins (n + 1)) s₁ (fun a s' _ => Q a s')
      (fun d s' _ => E d s')) :
    Flow.wpE (exec D) (Flow.orLeave (db q) f >>= k) ins s (fun a s' _ => Q a s')
      (fun d s' _ => E d s') := by
  rw [Flow.wpE_bind, Flow.wpE_orLeave, db, Prog.op, wp_db]
  refine ⟨fun e fault => ?_, fun _ => ?_⟩
  · rw [quiet] at fault
    cases fault
  · rw [executes]
    exact next

/-- A statement that may fail. -/
lemma wpE_db_split {q : Stmt} {f : DomainError → ε} {k : q.Val → ServiceFlow ε α}
    (leave : ∀ e, (ins 0).fault = some e → E (f e) s)
    (fails : ∀ e s₁, (ins 0).fault = none → q.exec D (ins 0).now s = (.error e, s₁) → E (f e) s₁)
    (next : ∀ v s₁, (ins 0).fault = none → q.exec D (ins 0).now s = (.ok v, s₁) →
      Flow.wpE (exec D) (k v) (fun n => ins (n + 1)) s₁ (fun a s' _ => Q a s') (fun d s' _ => E d s')) :
    Flow.wpE (exec D) (Flow.orLeave (db q) f >>= k) ins s (fun a s' _ => Q a s')
      (fun d s' _ => E d s') := by
  rw [Flow.wpE_bind, Flow.wpE_orLeave, db, Prog.op, wp_db]
  refine ⟨leave, fun quiet => ?_⟩
  rw [wp_ret]
  cases result : q.exec D (ins 0).now s with
  | mk r s₁ =>
    cases r with
    | ok v => exact next v s₁ quiet result
    | error e => exact fails e s₁ quiet result

/-! The same for all executions at a moment. -/

section
variable {now : DateTime}

/-- What all executions do, those at a moment do. -/
lemma always_at {p : Service α} (w : always (exec D) p s P) : always (execAt D now) p s P := by
  induction p generalizing s with
  | ret a => exact w
  | call o k ih => exact fun i => ih _ (w { i with now := now })

lemma clock_at {k : DateTime → ServiceFlow ε α}
    (next : Flow.alwaysE (execAt D now) (k now) s Q E) :
    Flow.alwaysE (execAt D now) (liftM clockNow >>= k) s Q E :=
  Flow.op_step fun _ => next

lemma db_at {q : Stmt} {f : DomainError → ε} {Q : q.Val → Store → Prop} (leave : ∀ e, E (f e) s)
    (fails : ∀ e s', q.exec D now s = (.error e, s') → E (f e) s')
    (next : ∀ v s', q.exec D now s = (.ok v, s') → Q v s') :
    Flow.alwaysE (execAt D now) (Flow.orLeave (db q) f) s Q E := by
  rw [Flow.alwaysE_orLeave]
  rintro ⟨_, _ | d, byte, uuid⟩
  · exact ⟨fun v e => next v _ (Prod.ext e rfl), fun d e => fails d _ (Prod.ext e rfl)⟩
  · refine ⟨(fun v e => by cases e), fun d' e => ?_⟩
    cases e
    exact leave d

/-- A statement that reads. -/
lemma read_at {q : Stmt} {f : DomainError → ε} {k : q.Val → ServiceFlow ε α} {v : q.Val}
    (reads : q.exec D now s = (.ok v, s)) (leave : ∀ e, E (f e) s)
    (next : Flow.alwaysE (execAt D now) (k v) s Q E) :
    Flow.alwaysE (execAt D now) (Flow.orLeave (db q) f >>= k) s Q E := by
  rw [Flow.alwaysE_bind]
  refine db_at leave (fun e s' fails => ?_) fun v' s' executes => ?_
  · cases reads.symm.trans fails
  · cases reads.symm.trans executes
    exact next

end

end Prog
end IdpMvp
