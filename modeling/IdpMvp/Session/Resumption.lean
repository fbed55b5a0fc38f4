import IdpMvp.Session.Flows
import Mathlib.Algebra.Group.Int.Defs
import Mathlib.Algebra.Group.Nat.Defs

/-!
# Resuming an SSO session

An authorization request at a moment `now`, from a browser with an SSO session. `maxAgeExceeded` measures
the age of the authentication in whole seconds against `max_age as i64`; `resumes_iff` says for which
values that is the age the client asked for. A request with `prompt=none` never interacts with the user:
`SilentEnd` lists its answers, and a code is among them only for a session that was resumed, young enough
and covered by a consent.
-/

namespace IdpMvp

open Program Program.Prog Program.Flow IdpMvp.Prog

variable {D : Deploy} {s : Store} {tenantId : TenantId} {req : AuthorizeRequest} {now : DateTime}

/-- The SSO session of a browser that can be resumed in a tenant at a moment: it is valid, and its user is
active, not locked, and an active member of the tenant. -/
structure Resumable (D : Deploy) (s : Store) (tenantId : TenantId) (now : DateTime) (sessionId : String)
    (x : SsoSession) : Prop where
  row : s.ssoSessions.find? (·.sessionHash = D.sha256Hex sessionId) = some x
  valid : x.isValidAt now = true
  user : ∃ u, s.users.find? (·.id = x.userId) = some u ∧ u.isActive = true ∧ u.isLockedAt now = false
  member : s.isActiveMember tenantId x.userId = true

/-! ## The age of the authentication -/

/-- `elapsed.num_seconds() > max_age as i64` does not hold. -/
def WithinMaxAge (maxAge : UInt64) (elapsed : Duration) : Prop :=
  Duration.numSeconds elapsed ≤ maxAgeSecs maxAge

instance (maxAge : UInt64) (elapsed : Duration) : Decidable (WithinMaxAge maxAge elapsed) :=
  inferInstanceAs (Decidable (_ ≤ _))

/-- `max_age as i64`: the upper half of `u64` is negative. -/
lemma maxAgeSecs_eq (maxAge : UInt64) :
    maxAgeSecs maxAge =
      if maxAge.toNat < 2 ^ 63 then (maxAge.toNat : Int) else maxAge.toNat - 2 ^ 64 := by
  rw [maxAgeSecs, BitVec.toInt_eq_toNat_cond, UInt64.toNat_toBitVec]
  split_ifs with low high high <;> omega

/-- A number of whole seconds is not exceeded up to its last fraction of a second; a span before zero is
cut off towards zero. -/
lemma numSeconds_le_iff (elapsed secs : Int) :
    Duration.numSeconds elapsed ≤ secs ↔
      if 0 ≤ secs then elapsed < (secs + 1) * 1000000 else elapsed ≤ secs * 1000000 := by
  have parts := Int.mul_tdiv_add_tmod elapsed 1000000
  have below := Int.tmod_lt_of_pos elapsed (show (0 : Int) < 1000000 by decide)
  unfold Duration.numSeconds
  rcases Int.le_total 0 elapsed with sign | sign
  · have above := Int.tmod_nonneg 1000000 sign
    split_ifs <;> omega
  · have above := Int.tmod_nonneg 1000000 (Int.neg_nonneg_of_nonpos sign)
    rw [Int.neg_tmod] at above
    have far := Int.lt_tmod_of_pos elapsed (show (0 : Int) < 1000000 by decide)
    split_ifs <;> omega

/-- The whole seconds the code counts are over exactly when the seconds of `max_age` are: `max_age` is in
the lower half of its type and the span is not within the second that follows it, or the span is beyond
either reading of `max_age`. -/
def MeasuresMaxAge (maxAge : UInt64) (elapsed : Duration) : Prop :=
  if maxAge.toNat < 2 ^ 63 then
    elapsed ≤ maxAge.toNat * 1000000 ∨ (maxAge.toNat + 1) * 1000000 ≤ elapsed
  else
    elapsed ≤ (maxAge.toNat - 2 ^ 64) * 1000000 ∨ maxAge.toNat * 1000000 < elapsed

lemma withinMaxAge_iff (maxAge : UInt64) (elapsed : Int) :
    (WithinMaxAge maxAge elapsed ↔ elapsed ≤ maxAge.toNat * 1000000) ↔
      MeasuresMaxAge maxAge elapsed := by
  have bound : maxAge.toNat < 2 ^ 64 := maxAge.toNat_lt
  rw [WithinMaxAge, numSeconds_le_iff, maxAgeSecs_eq, MeasuresMaxAge]
  unfold Duration
  split_ifs with low sign sign <;> omega

/-- A span within `max_age` as the code measures it is over by less than a second. -/
lemma WithinMaxAge.numSeconds_le {maxAge : UInt64} {elapsed : Duration}
    (within : WithinMaxAge maxAge elapsed) : Duration.numSeconds elapsed ≤ maxAge.toNat := by
  refine Int.le_trans within ?_
  rw [maxAgeSecs_eq]
  split <;> omega

/-! ## Requests that go unhindered -/

/-- No call fails, every clock shows `now`, and what is drawn is not in the store yet. -/
structure Unhindered (D : Deploy) (s : Store) (now : DateTime) (ins : Nat → Input) : Prop where
  quiet : ∀ n, (ins n).fault = none
  clock : ∀ n, (ins n).now = now
  codes : ∀ n, ∀ c ∈ s.codes, c.codeHash ≠ D.sha256Hex (base64Url ((ins n).bytes 32))
  authSessions : ∀ n, ∀ a ∈ s.authSessions, D.coll a.id ≠ D.coll (hexEncode ((ins n).bytes 32))

section
variable {ins : Nat → Input} {f : AuthorizeFlow} {x : SsoSession} {sessionId : String}

lemma Unhindered.shift (calm : Unhindered D s now ins) (k : Nat) :
    Unhindered D s now (fun n => ins (n + k)) :=
  ⟨fun _ => calm.quiet _, fun _ => calm.clock _, fun _ => calm.codes _, fun _ => calm.authSessions _⟩

lemma Unhindered.withRows (calm : Unhindered D s now ins) (rows : List SsoSession) :
    Unhindered D { s with ssoSessions := rows } now ins :=
  ⟨calm.quiet, calm.clock, calm.codes, calm.authSessions⟩

/-- The client of a registered request is there for the rows that refer to it. -/
lemma Registered.hasClient {client : Client} {uri : String}
    (registered : Registered D s tenantId req client uri) :
    s.hasClient D tenantId client.clientId = true := by
  obtain ⟨mem, tenant⟩ := registered.tenant
  exact List.any_eq_true.mpr ⟨client, mem, by simp [tenant]⟩

lemma Resumable.hasUser (able : Resumable D s tenantId now sessionId x) : s.hasUser x.userId = true := by
  obtain ⟨u, row, -⟩ := able.user
  have named := List.find?_some row
  exact List.any_eq_true.mpr ⟨u, List.mem_of_find?_eq_some row, named⟩

lemma startSession_unhindered {authentication : Option (Uuid × DateTime)} {failure : String}
    {answer : String → AuthorizeOutcome} (calm : Unhindered D s now ins)
    (client : s.hasClient D f.tenantId f.client.clientId = true)
    (user : ∀ u a, authentication = some (u, a) → s.hasUser u = true) :
    (startSession D f authentication failure answer).wp (exec D) ins s
      (fun r _ _ => ∃ id, r = answer id) := by
  have fresh : (s.authSessions.any fun a => D.coll a.id = D.coll (hexEncode ((ins 1).bytes 32))) =
      false := by
    simpa using calm.authSessions 1
  have users : (authentication.map (·.1)).any (fun u => !s.hasUser u) = false := by
    cases authentication with
    | none => rfl
    | some p => simp [user p.1 p.2 rfl]
  simp only [startSession, op, wp_bind, wp_clock, wp_randomHex, wp_db, wp_ret, pure_eq]
  refine ⟨fun e fault => ?_, fun _ => ?_⟩
  · cases fault.symm.trans (calm.quiet _)
  · simp only [Stmt.exec, AuthSessionStmt.exec, AuthorizeFlow.authSession, client, users, Bool.not_true,
      Bool.or_self, Bool.false_eq_true, if_false]
    rw [if_neg (fun taken => by cases taken.symm.trans fresh)]
    exact ⟨_, rfl⟩

lemma issueCode_unhindered {cmd : IssueCodeCommand} (calm : Unhindered D s now ins)
    (client : s.hasClient D cmd.tenantId cmd.clientId = true) (user : s.hasUser cmd.userId = true) :
    (issueCode D cmd).wp (exec D) ins s (fun r _ _ => ∃ code, r = .ok code) := by
  have fresh : s.codes.any (·.codeHash = D.sha256Hex (base64Url ((ins 0).bytes 32))) = false := by
    simpa using calm.codes 0
  simp only [issueCode, op, wp_bind, wp_clock, wp_randomToken, wp_db, wp_ret, pure_eq]
  refine ⟨fun e fault => ?_, fun _ => ?_⟩
  · cases fault.symm.trans (calm.quiet _)
  · simp only [Stmt.exec, CodeStmt.exec, IssueCodeCommand.record, client, user, Bool.not_true,
      Bool.or_self, Bool.false_eq_true, if_false]
    rw [if_neg (fun taken => by cases taken.symm.trans fresh)]
    exact ⟨_, rfl⟩

/-- The session is resumed. -/
lemma tryResumeSso_unhindered (calm : Unhindered D s now ins)
    (able : Resumable D s tenantId now sessionId x) :
    (tryResumeSso D tenantId sessionId).wp (exec D) ins s (fun r s' _ =>
      r = .ok (some (x.userId, x.authTime)) ∧ ∃ rows, s' = { s with ssoSessions := rows }) := by
  obtain ⟨u, user, active, unlocked⟩ := able.user
  unfold tryResumeSso
  rw [wp_outcome]
  refine wpE_db_step (calm.quiet 0) rfl ?_
  refine wpE_found_step able.row ?_
  refine wpE_clock_step ?_
  rw [calm.clock 1]
  refine wpE_ensureOr_step able.valid ?_
  refine wpE_db_step (calm.quiet 2) rfl ?_
  refine wpE_ensure_step (by simp [user, active, unlocked]) ?_
  refine wpE_db_step (calm.quiet 3) rfl ?_
  refine wpE_ensure_step able.member ?_
  refine wpE_db_step (calm.quiet 4) rfl ?_
  exact ⟨rfl, _, rfl⟩

/-! ## `max_age` -/

/-- The request is answered by asking for a consent. -/
def AuthorizeOutcome.AsksConsent (D : Deploy) (f : AuthorizeFlow) (outcome : AuthorizeOutcome) : Prop :=
  (∃ id, outcome = .consentRequired id) ∨ outcome = f.errorRedirect D .consentRequired "consent required"

/-- The answer of a request whose SSO session is resumed: a code, or what asks for no more than the
consent. -/
def AuthorizeOutcome.Resumes (D : Deploy) (f : AuthorizeFlow) (outcome : AuthorizeOutcome) : Prop :=
  (∃ location, outcome = .redirect location) ∨ outcome.AsksConsent D f

/-- With `prompt=none`, a missing consent is answered differently from a login that is too old. -/
def TellsApart (D : Deploy) (f : AuthorizeFlow) : Prop :=
  f.errorRedirect D .consentRequired "consent required" ≠
    f.errorRedirect D .loginRequired "max_age exceeded, re-authentication required"

/-- The row of the consent check covers the scopes of a request. -/
def ConsentFound (D : Deploy) (s : Store) (tenantId : TenantId) (userId : Uuid) (clientId : String)
    (scope : List String) : Prop :=
  scopesNeedingConsent scope = [] ∨ ∃ consent,
    s.consents.find? (·.hasKey D tenantId userId clientId) = some consent ∧
      consent.covers (scopesNeedingConsent scope) = true

lemma checkConsent_unhindered {userId : Uuid} {clientId : String} {scope : List String}
    (calm : Unhindered D s now ins) :
    (checkConsent tenantId userId clientId scope).wp (exec D) ins s
      (fun r s' _ => s' = s ∧ (r = true ↔ ConsentFound D s tenantId userId clientId scope)) := by
  unfold checkConsent hasConsent
  split
  · rename_i empty
    exact ⟨rfl, iff_of_true rfl (.inl (List.isEmpty_iff.mp empty))⟩
  · rename_i needed
    simp only [op, wp_bind, wp_db, Stmt.exec, ConsentStmt.exec, calm.quiet 0]
    refine ⟨fun _ fault => (by cases fault), fun _ => ?_⟩
    have needed : scopesNeedingConsent scope ≠ [] := mt List.isEmpty_iff.mpr needed
    rw [ConsentFound, or_iff_right needed]
    cases row : s.consents.find? (·.hasKey D tenantId userId clientId) with
    | none => exact ⟨rfl, iff_of_false Bool.false_ne_true (by simp)⟩
    | some consent => exact ⟨rfl, by simp⟩

lemma resumed_unhindered {forceConsent promptNone : Bool} {userId : Uuid} {authTime : DateTime}
    (calm : Unhindered D s now ins) (client : s.hasClient D f.tenantId f.client.clientId = true)
    (user : s.hasUser userId = true) :
    (resumed D f forceConsent promptNone userId authTime).wp (exec D) ins s
      (fun r _ _ => r.Resumes D f ∧ (forceConsent = false →
        (r.AsksConsent D f ↔ ¬ ConsentFound D s f.tenantId userId f.client.clientId f.scope))) := by
  have ask : ∀ k, (if promptNone then
        pure (f.errorRedirect D .consentRequired "consent required")
      else startSession D f (some (userId, authTime)) "failed to start consent" .consentRequired).wp
      (exec D) (fun n => ins (n + k)) s (fun r _ _ => r.AsksConsent D f) := by
    intro k
    split
    · exact .inr rfl
    · refine wp_mono (startSession_unhindered (calm.shift k) client ?_) ?_
      · rintro _ _ ⟨⟩
        exact user
      · rintro _ _ _ ⟨id, rfl⟩
        exact .inl ⟨id, rfl⟩
  cases forceConsent with
  | true => exact wp_mono (ask 0) fun _ _ _ asks => ⟨.inr asks, nofun⟩
  | false =>
    simp only [resumed, Bool.false_eq_true, if_false, wp_bind]
    refine wp_mono (checkConsent_unhindered calm) ?_
    rintro consented _ tr ⟨rfl, found⟩
    split
    · rename_i yes
      rw [wp_bind]
      refine wp_mono (issueCode_unhindered (calm.shift _) client user) ?_
      rintro _ s' _ ⟨code, rfl⟩
      refine ⟨.inl ⟨_, rfl⟩, fun _ => iff_of_false ?_ (not_not_intro (found.mp yes))⟩
      rintro (⟨_, answer⟩ | answer) <;> cases answer
    · rename_i missing
      exact wp_mono (ask tr.length) fun _ _ _ asks => ⟨.inr asks, fun _ => iff_of_true asks (mt found.mpr missing)⟩

lemma requireLogin_unhindered {promptNone : Bool} (calm : Unhindered D s now ins)
    (client : s.hasClient D f.tenantId f.client.clientId = true) (interactive : promptNone = false) :
    (requireLogin D f promptNone).wp (exec D) ins s (fun r _ _ => ∃ id, r = .loginRequired id) := by
  subst interactive
  exact startSession_unhindered calm client nofun

/-- The login is within `max_age`, as the code measures it. -/
def Young (req : AuthorizeRequest) (elapsed : Duration) : Prop :=
  ∀ maxAge, req.maxAge = some maxAge → WithinMaxAge maxAge elapsed

lemma maxAgeExceeded_unhindered {authTime : DateTime} (calm : Unhindered D s now ins) :
    (maxAgeExceeded req.maxAge authTime).wp (exec D) ins s
      (fun r s' _ => s' = s ∧ (r = false ↔ Young req (now - authTime))) := by
  unfold Young
  cases req.maxAge with
  | none => exact ⟨rfl, by simp⟩
  | some maxAge =>
    refine ⟨rfl, ?_⟩
    simp only [Option.some.injEq, forall_eq', WithinMaxAge, decide_eq_false_iff_not, Int.not_lt, exec,
      calm.clock 0]

/-- A request whose session can be resumed: it resumes the session exactly within the age the code
measures, and then asks for a consent exactly if none is there that covers its scopes. -/
lemma authorizeFlow_unhindered (calm : Unhindered D s now ins) (valid : Validated D s tenantId req f)
    (cookie : nonEmpty req.ssoSessionId = some sessionId)
    (able : Resumable D s tenantId now sessionId x) (unforced : req.prompt ≠ some "login")
    (told : req.prompt = some "none" → TellsApart D f) :
    (authorizeFlow D f req).wp (exec D) ins s (fun r _ _ =>
      (r.Resumes D f ↔ Young req (now - x.authTime)) ∧
      (Young req (now - x.authTime) → req.prompt ≠ some "consent" →
        (r.AsksConsent D f ↔ ¬ ConsentFound D s tenantId x.userId f.client.clientId f.scope))) := by
  have client : s.hasClient D f.tenantId f.client.clientId = true := by
    rw [valid.tenant]
    exact valid.registered.hasClient
  simp only [authorizeFlow, cookie, if_neg unforced, wp_bind, valid.tenant]
  refine wp_mono (tryResumeSso_unhindered calm able) ?_
  rintro _ _ tr ⟨rfl, rows, rfl⟩
  have here := (calm.shift tr.length).withRows rows
  simp only [wp_bind]
  refine wp_mono (maxAgeExceeded_unhindered here) ?_
  rintro exceeded _ tr' ⟨rfl, young⟩
  split
  · rename_i exceeds
    have old : ¬ Young req (now - x.authTime) := fun h => by cases exceeds.symm.trans (young.mpr h)
    split
    · rename_i silent
      refine ⟨iff_of_false ?_ old, fun h => absurd h old⟩
      rintro (⟨_, answer⟩ | ⟨_, answer⟩ | answer)
      · cases answer
      · cases answer
      · exact told silent answer.symm
    · rename_i interactive
      refine wp_mono (requireLogin_unhindered (here.shift _) client (decide_eq_false interactive)) ?_
      rintro _ _ _ ⟨id, rfl⟩
      refine ⟨iff_of_false ?_ old, fun h => absurd h old⟩
      rintro (⟨_, answer⟩ | ⟨_, answer⟩ | answer) <;> cases answer
  · rename_i within
    have within : Young req (now - x.authTime) := young.mp (Bool.not_eq_true _ ▸ within)
    refine wp_mono (resumed_unhindered (here.shift _) client able.hasUser) ?_
    rintro r s' _ ⟨resumes, consented⟩
    rw [valid.tenant] at consented
    exact ⟨iff_of_true resumes within, fun _ free => consented (decide_eq_false free)⟩

/-- A valid request of a browser whose SSO session `x` can be resumed at `now`, and that does not force a
login. -/
structure SsoRequest (D : Deploy) (s : Store) (tenantId : TenantId) (now : DateTime)
    (req : AuthorizeRequest) (f : AuthorizeFlow) (x : SsoSession) : Prop where
  valid : Validated D s tenantId req f
  session : ∃ sessionId, nonEmpty req.ssoSessionId = some sessionId ∧
    Resumable D s tenantId now sessionId x
  unforced : req.prompt ≠ some "login"
  told : req.prompt = some "none" → TellsApart D f

lemma authorize_unhindered (calm : Unhindered D s now ins)
    (request : SsoRequest D s tenantId now req f x) :
    (authorize D tenantId req).wp (exec D) ins s (fun r _ _ =>
      (r.Resumes D f ↔ Young req (now - x.authTime)) ∧
      (Young req (now - x.authTime) → req.prompt ≠ some "consent" →
        (r.AsksConsent D f ↔ ¬ ConsentFound D s tenantId x.userId f.client.clientId f.scope))) := by
  obtain ⟨registered, valid, flow⟩ := request.valid
  obtain ⟨sessionId, cookie, able⟩ := request.session
  obtain ⟨clientId, named, row⟩ := Option.bind_eq_some_iff.mp registered.row
  unfold authorize
  rw [wp_outcome]
  refine wpE_found_step named ?_
  refine wpE_db_step (calm.quiet 0) rfl ?_
  refine wpE_found_step row ?_
  refine wpE_ensure_step registered.active ?_
  refine wpE_found_step registered.named ?_
  refine wpE_ensure_step (by simpa [Client.allowsRedirectUri] using registered.allowed) ?_
  refine wpE_orThrow_step valid ?_
  rw [wpE_lift]
  change (authorizeFlow D (req.flow tenantId f.client f.redirectUri) req).wp _ _ _ _
  rw [← flow]
  exact authorizeFlow_unhindered (calm.shift 1) request.valid cookie able request.unforced request.told

/-- An SSO session is resumed for a `max_age` in seconds exactly when it is not older, if and only if
whole seconds and `i64` measure that age right. -/
theorem max_age_honoured_iff {maxAge : UInt64} (request : SsoRequest D s tenantId now req f x)
    (aged : req.maxAge = some maxAge) (calm : Unhindered D s now ins) :
    (((authorize D tenantId req).run (exec D) ins s).1.Resumes D f ↔
      now - x.authTime ≤ maxAge.toNat * 1000000) ↔ MeasuresMaxAge maxAge (now - x.authTime) := by
  have young : Young req (now - x.authTime) ↔ WithinMaxAge maxAge (now - x.authTime) := by
    simp [Young, aged]
  rw [(wp_iff_run.mp (authorize_unhindered calm request)).1, young]
  exact withinMaxAge_iff maxAge (now - x.authTime)

end

namespace Sample

/-- Alice has logged in at a time, and has consented to the scopes of `authorizeRequest`. -/
def ssoSession (authTime : DateTime) : SsoSession where
  sessionHash := deploy.sha256Hex (sessionId 5)
  userId := aliceId
  authTime := authTime
  idleExpiresAt := Sample.now + 28800000000
  absoluteExpiresAt := Sample.now + 86400000000
  userAgent := none
  ipAddress := none

def ssoStore (authTime : DateTime) : Store :=
  { flowStore with
    memberships := [.newHome tenantA aliceId]
    ssoSessions := [ssoSession authTime]
    consents := [⟨aliceId, tenantA, "app", ["openid", "profile"]⟩] }

/-- A request with the cookie of her session. -/
def agedRequest (maxAge : UInt64) : AuthorizeRequest :=
  { authorizeRequest with ssoSessionId := some (sessionId 5), maxAge := some maxAge }

def agedFlow : AuthorizeFlow :=
  authorizeRequest.flow tenantA (publicClient tenantA "app") "https://app.example.com/cb"

end Sample

open Sample in
lemma ssoRequest_sample (authTime : DateTime) (maxAge : UInt64) :
    SsoRequest deploy (ssoStore authTime) tenantA Sample.now (agedRequest maxAge) agedFlow
      (ssoSession authTime) where
  valid := ⟨⟨rfl, rfl, rfl, List.mem_singleton_self _⟩,
    show validateRequest authorizeRequest agedFlow.client = .ok () by decide +kernel, rfl⟩
  session := ⟨sessionId 5, rfl, rfl, rfl, ⟨alice, rfl, rfl, rfl⟩, rfl⟩
  unforced := nofun
  told := nofun

open Sample in
lemma unhindered_sample (authTime : DateTime) :
    Unhindered deploy (ssoStore authTime) Sample.now (fun _ => input 2) where
  quiet _ := rfl
  clock _ := rfl
  codes _ _ mem := absurd mem List.not_mem_nil
  authSessions _ _ mem := absurd mem List.not_mem_nil

open Sample in
/-- Half an hour after the login, for a `max_age` of an hour. -/
theorem max_age_honoured_iff_sample :
    MeasuresMaxAge 3600 (Sample.now - (Sample.now - 1800000000)) ∧
      (((authorize deploy tenantA (agedRequest 3600)).run (exec deploy) (fun _ => input 2)
        (ssoStore (Sample.now - 1800000000))).1.Resumes deploy agedFlow ↔
        Sample.now - (Sample.now - 1800000000) ≤ (3600 : UInt64).toNat * 1000000) := by
  have measures : MeasuresMaxAge 3600 (Sample.now - (Sample.now - 1800000000)) := by
    unfold MeasuresMaxAge
    decide
  exact ⟨measures, (max_age_honoured_iff (ssoRequest_sample _ 3600) rfl (unhindered_sample _)).mpr measures⟩

set_option maxRecDepth 8000 in
open Sample in
/-- A session of this moment is not resumed for a `max_age` of `2^63` seconds; one that is half a second
too old is, for a `max_age` of 60. -/
theorem max_age_wraps_and_rounds :
    ¬ (((authorize deploy tenantA (agedRequest 9223372036854775808)).run (exec deploy)
        (fun _ => input 2) (ssoStore Sample.now)).1.Resumes deploy agedFlow ↔
      Sample.now - Sample.now ≤ (9223372036854775808 : UInt64).toNat * 1000000) ∧
    ¬ (((authorize deploy tenantA (agedRequest 60)).run (exec deploy)
        (fun _ => input 2) (ssoStore (Sample.now - 60500000))).1.Resumes deploy agedFlow ↔
      Sample.now - (Sample.now - 60500000) ≤ (60 : UInt64).toNat * 1000000) := by
  have wrapped : ((authorize deploy tenantA (agedRequest 9223372036854775808)).run (exec deploy)
      (fun _ => input 2) (ssoStore Sample.now)).1 = .loginRequired (sessionId 2) := by decide +kernel
  have rounded : ((authorize deploy tenantA (agedRequest 60)).run (exec deploy) (fun _ => input 2)
      (ssoStore (Sample.now - 60500000))).1 =
        .redirect (codeRedirect deploy "https://app.example.com/cb" (plainToken 2) "s1") := by
    decide +kernel
  constructor
  · intro claim
    rw [wrapped] at claim
    rcases claim.mpr (by decide) with ⟨_, answer⟩ | ⟨_, answer⟩ | answer <;> cases answer
  · intro claim
    rw [rounded] at claim
    exact absurd (claim.mp (.inl ⟨_, rfl⟩)) (by decide)

/-! ## `prompt=none` -/

section
variable {f : AuthorizeFlow} {sessionId : String}

/-- Only a session that can be resumed is. -/
lemma tryResumeSso_at :
    always (execAt D now) (tryResumeSso D tenantId sessionId) s (fun r s' =>
      (∃ rows, s' = { s with ssoSessions := rows }) ∧
      ∀ userId authTime, r = .ok (some (userId, authTime)) →
        ∃ x, Resumable D s tenantId now sessionId x ∧ userId = x.userId ∧ authTime = x.authTime) := by
  have same : ∃ rows, s = { s with ssoSessions := rows } := ⟨_, rfl⟩
  unfold tryResumeSso
  rw [always_outcome]
  refine read_at rfl (fun _ => ⟨same, nofun⟩) ?_
  refine found_step (fun _ => ⟨same, nofun⟩) fun x row => ?_
  refine clock_at ?_
  refine ensureOr_step (fun _ => ?_) fun valid => ?_
  · refine always_at ?_
    simp only [op, always_bind, always_db, pure_eq, always_ret, Stmt.exec, SsoSessionStmt.exec]
    exact ⟨fun _ => ⟨same, nofun⟩, fun _ => ⟨⟨_, rfl⟩, nofun⟩⟩
  refine read_at rfl (fun _ => ⟨same, nofun⟩) ?_
  refine ensure_step (fun _ => ⟨same, nofun⟩) fun active => ?_
  refine read_at rfl (fun _ => ⟨same, nofun⟩) ?_
  refine ensure_step (fun _ => ⟨same, nofun⟩) fun member => ?_
  rw [alwaysE_bind]
  refine db_at (fun _ => ⟨same, nofun⟩) ?_ ?_
  · intro e _ fails
    cases fails
  · rintro _ _ ⟨⟩
    refine ⟨⟨_, rfl⟩, ?_⟩
    rintro _ _ ⟨⟩
    obtain ⟨u, user, ok⟩ := (Option.any_eq_true _ _).mp active
    exact ⟨x, ⟨row, valid, ⟨u, user, by simpa using ok⟩, member⟩, rfl, rfl⟩

/-- What a code that is given without interaction rests on: a session that was resumed, not older than
`max_age` in whole seconds, and a consent to every scope that needs one. -/
structure SilentlyEarned (D : Deploy) (s : Store) (tenantId : TenantId) (now : DateTime)
    (req : AuthorizeRequest) (client : Client) (x : SsoSession) : Prop where
  session : ∃ sessionId, nonEmpty req.ssoSessionId = some sessionId ∧
    Resumable D s tenantId now sessionId x
  age : ∀ maxAge, req.maxAge = some maxAge → Duration.numSeconds (now - x.authTime) ≤ maxAge.toNat
  consent : ConsentCovers D s tenantId x.userId client.clientId req.scopes

/-- How a request that must not interact ends: with a code, or with an error on its redirect URI; it
leaves no auth session behind. -/
def SilentEnd (D : Deploy) (s : Store) (tenantId : TenantId) (now : DateTime) (req : AuthorizeRequest)
    (client : Client) (uri : String) (outcome : AuthorizeOutcome) (s' : Store) : Prop :=
  s'.authSessions = s.authSessions ∧
    ((∃ code state, outcome = .redirect (codeRedirect D uri code state) ∧
        ∃ x, SilentlyEarned D s tenantId now req client x) ∨
      ∃ error description state,
        outcome = .errorRedirect (errorRedirectWithState D uri error description state))

lemma SilentEnd.refused {rows : List SsoSession} {error : OAuthErrorCode} {description : String} :
    SilentEnd D s tenantId now req f.client f.redirectUri (f.errorRedirect D error description)
      { s with ssoSessions := rows } :=
  ⟨rfl, .inr ⟨_, _, _, rfl⟩⟩

lemma maxAgeExceeded_at {maxAge : Option UInt64} {authTime : DateTime} :
    always (execAt D now) (maxAgeExceeded maxAge authTime) s (fun r s' => s' = s ∧
      (r = false → ∀ m, maxAge = some m → WithinMaxAge m (now - authTime))) := by
  cases maxAge with
  | none => exact ⟨rfl, fun _ _ eq => by cases eq⟩
  | some maxAge =>
    intro i
    refine ⟨rfl, fun exceeded m eq => ?_⟩
    cases eq
    exact Int.not_lt.mp (of_decide_eq_false exceeded)

/-- A session that was resumed gives a code, or a consent is missing. -/
lemma resumed_silent {userId : Uuid} {authTime : DateTime} {rows : List SsoSession}
    (valid : Validated D s tenantId req f)
    (earned : ConsentCovers D s tenantId userId f.client.clientId f.scope →
      ∃ x, SilentlyEarned D s tenantId now req f.client x) :
    always (execAt D now) (resumed D f false true userId authTime) { s with ssoSessions := rows }
      (SilentEnd D s tenantId now req f.client f.redirectUri) := by
  simp only [resumed, Bool.false_eq_true, if_false, if_true, always_bind, valid.tenant]
  refine always_mono (always_at checkConsent_always) ?_
  rintro consented _ ⟨rfl, covers⟩
  split
  · rename_i yes
    rw [always_bind]
    refine always_at (issueCode_always (fun _ => SilentEnd.refused) fun _ _ => ?_)
    exact ⟨rfl, .inl ⟨_, _, rfl, earned (covers yes)⟩⟩
  · exact SilentEnd.refused

lemma authorizeFlow_silent (valid : Validated D s tenantId req f) (silent : req.prompt = some "none") :
    always (execAt D now) (authorizeFlow D f req) s
      (SilentEnd D s tenantId now req f.client f.redirectUri) := by
  have scope : f.scope = req.scopes := congrArg AuthorizeFlow.scope valid.flow
  have forced : req.prompt ≠ some "login" := by simp [silent]
  have unforced : decide (req.prompt = some "consent") = false := by simp [silent]
  have none : decide (req.prompt = some "none") = true := decide_eq_true silent
  cases cookie : nonEmpty req.ssoSessionId with
  | none =>
    simp only [authorizeFlow, cookie, requireLogin, none, if_true]
    exact SilentEnd.refused
  | some sessionId =>
    simp only [authorizeFlow, cookie, if_neg forced, requireLogin, unforced, none, if_true,
      if_pos silent, always_bind, valid.tenant]
    refine always_mono tryResumeSso_at ?_
    rintro (e | _ | ⟨userId, authTime⟩) _ ⟨⟨rows, rfl⟩, resumes⟩
    · exact SilentEnd.refused
    · exact SilentEnd.refused
    · obtain ⟨x, able, rfl, rfl⟩ := resumes _ _ rfl
      simp only [always_bind]
      refine always_mono maxAgeExceeded_at ?_
      rintro exceeded _ ⟨rfl, age⟩
      split
      · exact SilentEnd.refused
      · rename_i within
        refine resumed_silent valid fun covers => ⟨x, ⟨sessionId, cookie, able⟩, ?_, scope ▸ covers⟩
        exact fun m aged => (age (Bool.not_eq_true _ ▸ within) m aged).numSeconds_le

/-- The answers to a request that must not interact: a code that was earned or an error, both by a
redirect; and an error that is not redirected if the client could not be looked up. -/
def SilentAnswer (D : Deploy) (s : Store) (tenantId : TenantId) (now : DateTime) (req : AuthorizeRequest)
    (client : Client) (lookup : Option DomainError) : AuthorizeOutcome → Prop
  | .redirect location => location.isSome = true ∧ ∃ x, SilentlyEarned D s tenantId now req client x
  | .errorRedirect location => location.isSome = true
  | .fatalError error _ => lookup.isSome = true ∧ error = .serverError
  | .loginRequired _ | .consentRequired _ => False

lemma SilentEnd.answer {client : Client} {uri : String} {outcome : AuthorizeOutcome} {s' : Store}
    {lookup : Option DomainError} (url : (D.urlParse uri).isSome = true)
    (h : SilentEnd D s tenantId now req client uri outcome s') :
    s'.authSessions = s.authSessions ∧ SilentAnswer D s tenantId now req client lookup outcome := by
  obtain ⟨kept, ⟨code, state, rfl, earned⟩ | ⟨error, description, state, rfl⟩⟩ := h
  · exact ⟨kept, by simpa [codeRedirect] using url, earned⟩
  · exact ⟨kept, by simpa [SilentAnswer, errorRedirectWithState] using url⟩

/-- A request with `prompt=none` of a registered client and redirect URI, at any moment and whatever calls
fail: it creates no auth session and is answered without interaction. -/
theorem prompt_none_silent {client : Client} {uri : String}
    (registered : Registered D s tenantId req client uri) (url : (D.urlParse uri).isSome = true)
    (silent : req.prompt = some "none") (now : DateTime) (ins : Nat → Input) :
    ((authorize D tenantId req).run (execAt D now) ins s).2.authSessions = s.authSessions ∧
      SilentAnswer D s tenantId now req client (ins 0).fault
        ((authorize D tenantId req).run (execAt D now) ins s).1 := by
  obtain ⟨clientId, named, row⟩ := Option.bind_eq_some_iff.mp registered.row
  -- Everything after the lookup of the client.
  have rest : (authorize D tenantId req).wp (execAt D now) ins s (fun outcome s' _ =>
      s'.authSessions = s.authSessions ∧
        SilentAnswer D s tenantId now req client (ins 0).fault outcome) := by
    unfold authorize
    rw [wp_outcome]
    refine wpE_found_step named ?_
    rw [wpE_bind, wpE_orLeave, db, Prog.op, wp_call]
    cases lookup : (ins 0).fault with
    | some e =>
      simp only [execAt, exec, lookup, wp_ret]
      exact ⟨trivial, rfl, rfl⟩
    | none =>
      simp only [execAt, exec, lookup, wp_ret, Stmt.exec, ClientStmt.exec]
      refine wpE_found_step row ?_
      refine wpE_ensure_step registered.active ?_
      refine wpE_found_step registered.named ?_
      refine wpE_ensure_step (by simpa [Client.allowsRedirectUri] using registered.allowed) ?_
      refine alwaysE.wpE (orThrow_step (fun _ _ => ?_) fun _ valid => ?_)
      · exact ⟨rfl, by simpa [SilentAnswer, errorRedirectWithState] using url⟩
      · rw [alwaysE_lift]
        exact always_mono (authorizeFlow_silent ⟨registered, valid, rfl⟩ silent) fun _ _ h => h.answer url
  exact wp_iff_run.mp rest

end

namespace Sample

/-- Alice's browser asks without interaction for some scopes. -/
def silentRequest (scope : String) : AuthorizeRequest :=
  { agedRequest 3600 with scope := some scope, prompt := some "none" }

/-- The first call of a request fails. -/
def lookupFails (n : Nat) : Input :=
  if n = 0 then { input 2 with fault := some (.repository "pool timed out") } else input 2

end Sample

open Sample in
lemma registered_silent (scope : String) (authTime : DateTime) :
    Registered deploy (ssoStore authTime) tenantA (silentRequest scope) (publicClient tenantA "app")
      "https://app.example.com/cb" :=
  ⟨rfl, rfl, rfl, List.mem_singleton_self _⟩

open Sample in
theorem prompt_none_silent_sample :
    ((authorize deploy tenantA (silentRequest "openid profile")).run (execAt deploy Sample.now)
        (fun _ => input 2) (ssoStore Sample.now)).2.authSessions = [] ∧
      SilentAnswer deploy (ssoStore Sample.now) tenantA Sample.now (silentRequest "openid profile")
        (publicClient tenantA "app") none
        ((authorize deploy tenantA (silentRequest "openid profile")).run (execAt deploy Sample.now)
          (fun _ => input 2) (ssoStore Sample.now)).1 :=
  prompt_none_silent (registered_silent _ _) rfl rfl Sample.now (fun _ => input 2)

set_option maxRecDepth 8000 in
open Sample in
/-- If the client cannot be looked up the error is not redirected, and a request for `openid` alone is
given its code without a stored consent. -/
theorem prompt_none_exceptions :
    (Registered deploy (ssoStore Sample.now) tenantA (silentRequest "openid profile")
        (publicClient tenantA "app") "https://app.example.com/cb" ∧
      ((authorize deploy tenantA (silentRequest "openid profile")).run (exec deploy) lookupFails
        (ssoStore Sample.now)).1 = .fatalError .serverError "internal error") ∧
    (Registered deploy { ssoStore Sample.now with consents := [] } tenantA (silentRequest "openid")
        (publicClient tenantA "app") "https://app.example.com/cb" ∧
      ((authorize deploy tenantA (silentRequest "openid")).run (exec deploy) (fun _ => input 2)
        { ssoStore Sample.now with consents := [] }).1 =
          .redirect (codeRedirect deploy "https://app.example.com/cb" (plainToken 2) "s1")) :=
  ⟨⟨registered_silent _ _, by decide +kernel⟩, ⟨rfl, rfl, rfl, List.mem_singleton_self _⟩,
    by decide +kernel⟩

end IdpMvp
