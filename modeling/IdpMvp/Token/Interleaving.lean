import IdpMvp.Store.Effects
import IdpMvp.Token.Guards
import IdpMvp.Token.Rotation

/-!
# Interleaved rotations

Any number of `exchange_refresh_token` requests share the store, one statement at a time. Between the
check of `exists_by_parent_hash` and the `create` of the child a second request can pass the same check,
and then both rotate the token. In interleavings where no request makes its check while another one is
between its own check of the same token and its end, the rotation chains are kept.
-/

namespace IdpMvp

open Program Program.Prog Program.Flow Prog

variable {D : Deploy}

/-! ## The phases of a request -/

/-- How far a request has come: the row it found for a hash, whether it has passed the check, revoked
the token and created its child. -/
inductive RotationPhase where
  | start
  | found (tenantId : TenantId) (hash : String) (stored : RefreshToken)
  | checked (tenantId : TenantId) (hash : String) (stored : RefreshToken)
  | revoked (tenantId : TenantId) (hash : String) (stored : RefreshToken)
  | created (hash : String)
  deriving DecidableEq

namespace RotationPhase

/-- The request has passed the check of this hash and not created a child. -/
def Pending (hash : String) : RotationPhase → Prop
  | checked _ h _ | revoked _ h _ => h = hash
  | _ => False

/-- What the phase knows about the table. -/
def Knows (rows : List RefreshToken) : RotationPhase → Prop
  | start => True
  | found tenantId hash stored | checked tenantId hash stored =>
    stored.tenantId = tenantId ∧ ∃ r ∈ rows, r.tokenHash = hash ∧ r.grant = stored.grant
  | revoked tenantId hash stored =>
    stored.tenantId = tenantId ∧ ∃ r ∈ rows, r.tokenHash = hash ∧ r.grant = stored.grant ∧
      r.isRevoked = true
  | created hash => ∃ r ∈ rows, r.parentHash = some hash

/-- Where the answer of a call leads. -/
def next (φ : RotationPhase) : (o : Op) → o.Res → RotationPhase
  | .db (.refreshTokens (.findByHash tenantId hash)), .ok (some stored) => found tenantId hash stored
  | .db (.refreshTokens (.existsByParentHash _)), .ok false =>
    match φ with
    | found tenantId hash stored => checked tenantId hash stored
    | φ => φ
  | .db (.refreshTokens (.revoke _ _)), .ok () =>
    match φ with
    | checked tenantId hash stored => revoked tenantId hash stored
    | φ => φ
  | .db (.refreshTokens (.create _)), .ok () =>
    match φ with
    | revoked _ hash _ => created hash
    | φ => φ
  | _, _ => φ

/-- The calls of a phase. -/
def Allows (D : Deploy) (φ : RotationPhase) : Op → Prop
  | .db (.refreshTokens (.findByHash _ _)) => φ = start
  | .db (.refreshTokens (.existsByParentHash hash)) => ∃ tenantId stored, φ = found tenantId hash stored
  | .db (.refreshTokens (.revoke hash _)) =>
    ∃ tenantId stored, φ = found tenantId hash stored ∨ φ = checked tenantId hash stored
  | .db (.refreshTokens (.create child)) => ∃ tenantId hash stored plain,
    φ = revoked tenantId hash stored ∧
      child = childRefreshToken D tenantId stored hash stored.clientId plain
  | .db (.clients _) | .db (.users (.findById _)) | .db (.signingKeys _) => True
  | .db _ => False
  | .checkAndRecord _ _ => False
  | _ => True

end RotationPhase

/-- The monitor of a refresh request. -/
def rotationMonitor (D : Deploy) : Monitor Op.Res RotationPhase where
  init := .start
  ok := RotationPhase.Allows D
  next := RotationPhase.next

lemma rotationMonitor_aside (φ : RotationPhase) (o : Op) (aside : Op.Aside o) :
    (rotationMonitor D).ok φ o ∧ ∀ r, (rotationMonitor D).next φ o r = φ := by
  unfold Op.Aside at aside
  split at aside
  · exact ⟨trivial, fun _ => rfl⟩
  · exact ⟨trivial, fun _ => rfl⟩
  · exact ⟨trivial, fun _ => rfl⟩
  · exact ⟨trivial, fun _ => rfl⟩
  · cases aside

/-- A refresh request keeps to the monitor, and it succeeds only after it has created a child of the
token it was given. -/
lemma exchangeRefreshToken_guarded (tenantId : TenantId) (cmd : TokenCommand) :
    (exchangeRefreshToken D tenantId cmd).run.Guarded (rotationMonitor D) .start
      (fun φ r => ∀ tokens, r = .ok tokens → ∃ plain, nonEmpty cmd.refreshToken = some plain ∧
        φ = .created (D.sha256Hex plain)) := by
  refine guarded_of_alwaysE ?_
  unfold exchangeRefreshToken
  refine aside_step tokenClient_uses (rotationMonitor_aside _) (fun _ => rfl) fun clientId => ?_
  refine found_step (fun _ => rfl) fun plain token => ?_
  refine guard_step trivial fun now => ?_
  refine guard_db_step rfl (fun _ => rfl) fun row => ?_
  refine found_step (fun e => ?_) fun stored e => ?_
  · rfl
  subst e
  refine ensure_step (fun _ => rfl) fun owner => ?_
  obtain rfl := of_decide_eq_true owner
  refine guard_db_step ⟨_, _, rfl⟩ (fun _ => rfl) fun rotated => ?_
  refine ensureOr_step (fun reused => ?_) fun first => ?_
  · obtain rfl : rotated = true := by simpa using reused
    have allowed : (rotationMonitor D).ok (.found tenantId (D.sha256Hex plain) stored)
        (.db (.refreshTokens (.revoke (D.sha256Hex plain) now))) := ⟨_, _, .inl rfl⟩
    intro answer
    exact congrArg (·.2.isSome) (Monitor.oracle_some allowed answer)
  obtain rfl : rotated = false := by simpa using first
  refine ensure_step (fun _ => rfl) fun _ => ?_
  refine aside_step loadActiveUser_uses (rotationMonitor_aside _) (fun _ => rfl) fun user => ?_
  refine guard_db_step ⟨_, _, .inr rfl⟩ (fun _ => rfl) fun _ => ?_
  refine aside_step signTokens_uses (rotationMonitor_aside _) (fun _ => rfl) fun tokens => ?_
  refine guard_step trivial fun newPlain => ?_
  refine guard_db_step ⟨_, _, _, _, rfl, rfl⟩ (fun _ => rfl) fun _ => ?_
  exact ⟨_, rfl, plain, token, rfl⟩

/-! ## One call -/

/-- What an allowed call does to the phase of its request and to the table. -/
inductive RotationStep (D : Deploy) (o : Op) (rows : List RefreshToken) :
    RotationPhase → RotationPhase → List RefreshToken → Prop where
  | aside (φ : RotationPhase) : RotationStep D o rows φ φ rows
  | find (tenantId : TenantId) (hash : String) (stored : RefreshToken) (mem : stored ∈ rows)
    (eq : stored.tokenHash = hash) (tenant : stored.tenantId = tenantId) :
    RotationStep D o rows .start (.found tenantId hash stored) rows
  | check (tenantId : TenantId) (hash : String) (stored : RefreshToken)
    (eq : o = .db (.refreshTokens (.existsByParentHash hash)))
    (first : ∀ r ∈ rows, r.parentHash ≠ some hash) :
    RotationStep D o rows (.found tenantId hash stored) (.checked tenantId hash stored) rows
  | reuse (tenantId : TenantId) (hash : String) (stored : RefreshToken) (now : DateTime) :
    RotationStep D o rows (.found tenantId hash stored) (.found tenantId hash stored)
      (revokeWhere (·.tokenHash = hash) now rows)
  | revoke (tenantId : TenantId) (hash : String) (stored : RefreshToken) (now : DateTime) :
    RotationStep D o rows (.checked tenantId hash stored) (.revoked tenantId hash stored)
      (revokeWhere (·.tokenHash = hash) now rows)
  | create (tenantId : TenantId) (hash : String) (stored : RefreshToken) (plain : String)
    (fresh : ∀ r ∈ rows, r.tokenHash ≠ D.sha256Hex plain) :
    RotationStep D o rows (.revoked tenantId hash stored) (.created hash)
      (rows ++ [childRefreshToken D tenantId stored hash stored.clientId plain])

lemma exec_rotationStep {φ : RotationPhase} {o : Op} (allowed : φ.Allows D o) (i : Input)
    (s : Store) :
    RotationStep D o s.refreshTokens φ (φ.next o (exec D o i s).1)
      (exec D o i s).2.refreshTokens := by
  cases o with
  | db q =>
    cases q with
    | refreshTokens q =>
      cases f : i.fault with
      | some e =>
        simp only [exec, f]
        cases q <;> exact .aside φ
      | none =>
        simp only [exec, f]
        cases q with
        | findByHash tenantId hash =>
          obtain rfl : φ = .start := allowed
          simp only [Stmt.exec, RefreshTokenStmt.exec]
          cases e : s.refreshTokens.find? (fun t => t.tokenHash = hash ∧ t.tenantId = tenantId) with
          | none => exact .aside .start
          | some stored =>
            obtain ⟨eq, tenant⟩ : stored.tokenHash = hash ∧ stored.tenantId = tenantId := by
              simpa using List.find?_some e
            exact .find tenantId hash stored (List.mem_of_find?_eq_some e) eq tenant
        | existsByParentHash hash =>
          obtain ⟨tenantId, stored, rfl⟩ := allowed
          simp only [Stmt.exec, RefreshTokenStmt.exec]
          cases e : s.refreshTokens.any (·.parentHash = some hash) with
          | true => exact .aside _
          | false => exact .check tenantId hash stored rfl (by simpa using e)
        | revoke hash now =>
          obtain ⟨tenantId, stored, rfl | rfl⟩ := allowed
          · exact .reuse tenantId hash stored now
          · exact .revoke tenantId hash stored now
        | create child =>
          obtain ⟨tenantId, hash, stored, plain, rfl, rfl⟩ := allowed
          simp only [Stmt.exec, RefreshTokenStmt.exec]
          split
          · exact .aside _
          · rename_i fresh
            split
            · exact .aside _
            · have unused : ∀ r ∈ s.refreshTokens, r.tokenHash ≠
                  (childRefreshToken D tenantId stored hash stored.clientId plain).tokenHash := by
                simpa using fresh
              exact .create tenantId hash stored plain unused
        | revokeAllForUser => cases allowed
    | clients q =>
      cases f : i.fault <;> cases q <;> simp only [exec, f] <;> exact .aside φ
    | users q =>
      cases q with
      | findById id => cases f : i.fault <;> simp only [exec, f] <;> exact .aside φ
      | _ => cases allowed
    | signingKeys q =>
      cases f : i.fault <;> cases q <;> simp only [exec, f] <;> exact .aside φ
    | _ => cases allowed
  | checkAndRecord => cases allowed
  | cacheGet key =>
    have same : (exec D (.cacheGet key) i s).2.refreshTokens = s.refreshTokens := by
      simp only [exec, Store.cacheGet]
      split
      · rfl
      · split <;> rfl
    rw [same]
    exact .aside φ
  | tenantCacheGet key =>
    have same : (exec D (.tenantCacheGet key) i s).2.refreshTokens = s.refreshTokens := by
      simp only [exec, Store.tenantCacheGet]
      split
      · rfl
      · split <;> rfl
    rw [same]
    exact .aside φ
  | limit limiter key now =>
    have same : (exec D (.limit limiter key now) i s).2.refreshTokens = s.refreshTokens := by
      simp only [exec, Store.limit]
      split <;> rfl
    rw [same]
    exact .aside φ
  | sendMail address link =>
    have same : (exec D (.sendMail address link) i s).2.refreshTokens = s.refreshTokens := by
      simp only [exec]
      split <;> rfl
    rw [same]
    exact .aside φ
  | _ => exact .aside φ

/-- Every row is still there, with what rotation carries over, and no revocation was taken back. -/
def Grown (rows rows' : List RefreshToken) : Prop :=
  ∀ r ∈ rows, ∃ r' ∈ rows', r'.tokenHash = r.tokenHash ∧ r'.parentHash = r.parentHash ∧
    r'.grant = r.grant ∧ (r.isRevoked = true → r'.isRevoked = true)

lemma grown_revokeWhere (p : RefreshToken → Bool) (now : DateTime) (rows : List RefreshToken) :
    Grown rows (revokeWhere p now rows) := by
  intro r mem
  exact ⟨r.revokeIf p now, mem_revokeWhere.mpr ⟨r, mem, rfl⟩, by simp, by simp, by simp,
    fun h => by simp [h]⟩

lemma RotationStep.grown {o : Op} {rows rows' : List RefreshToken} {φ φ' : RotationPhase}
    (step : RotationStep D o rows φ φ' rows') : Grown rows rows' := by
  cases step with
  | reuse _ _ _ now => exact grown_revokeWhere _ now rows
  | revoke _ _ _ now => exact grown_revokeWhere _ now rows
  | create => exact fun r mem => ⟨r, List.mem_append_left _ mem, rfl, rfl, rfl, id⟩
  | _ => exact fun r mem => ⟨r, mem, rfl, rfl, rfl, id⟩

lemma RotationPhase.Knows.grown {rows rows' : List RefreshToken} {φ : RotationPhase}
    (knows : φ.Knows rows) (grown : Grown rows rows') : φ.Knows rows' := by
  cases φ with
  | start => trivial
  | found tenantId hash stored | checked tenantId hash stored =>
    obtain ⟨tenant, r, mem, eq, same⟩ := knows
    obtain ⟨r', mem', eq', -, same', -⟩ := grown r mem
    exact ⟨tenant, r', mem', eq'.trans eq, same'.trans same⟩
  | revoked tenantId hash stored =>
    obtain ⟨tenant, r, mem, eq, same, done⟩ := knows
    obtain ⟨r', mem', eq', -, same', done'⟩ := grown r mem
    exact ⟨tenant, r', mem', eq'.trans eq, same'.trans same, done' done⟩
  | created hash =>
    obtain ⟨r, mem, eq⟩ := knows
    obtain ⟨r', mem', -, eq', -, -⟩ := grown r mem
    exact ⟨r', mem', eq'.trans eq⟩

/-- The request knows what its new phase says. -/
lemma RotationStep.knows {o : Op} {rows rows' : List RefreshToken} {φ φ' : RotationPhase}
    (step : RotationStep D o rows φ φ' rows') (knows : φ.Knows rows) : φ'.Knows rows' := by
  cases step with
  | aside φ => exact knows
  | find tenantId hash stored mem eq tenant => exact ⟨tenant, stored, mem, eq, rfl⟩
  | check tenantId hash stored eq first => exact knows
  | reuse tenantId hash stored now => exact knows.grown (grown_revokeWhere _ now rows)
  | revoke tenantId hash stored now =>
    obtain ⟨tenant, r, mem, eq, same⟩ := knows
    exact ⟨tenant, r.revokeIf (·.tokenHash = hash) now, mem_revokeWhere.mpr ⟨r, mem, rfl⟩,
      by simpa using eq, by simpa using same, by simp [eq]⟩
  | create tenantId hash stored plain fresh =>
    exact ⟨_, List.mem_append_right _ (List.mem_singleton_self _), rfl⟩

/-- The chains are kept by a request whose token has no child while the request is past its check. -/
lemma RotationStep.chains {o : Op} {rows rows' : List RefreshToken} {φ φ' : RotationPhase}
    (step : RotationStep D o rows φ φ' rows') (chains : RefreshChains rows) (knows : φ.Knows rows)
    (first : ∀ hash, φ.Pending hash → ∀ r ∈ rows, r.parentHash ≠ some hash) :
    RefreshChains rows' := by
  cases step with
  | reuse _ _ _ now => exact chains.revoke _ now
  | revoke _ _ _ now => exact chains.revoke _ now
  | create tenantId hash stored plain fresh =>
    obtain ⟨tenant, r, mem, eq, same, done⟩ := knows
    refine chains.append_child mem fresh (by rw [eq]; rfl) ?_ done ?_
    · rw [eq]
      exact first hash rfl
    · rw [same, ← tenant]
      rfl
  | _ => exact chains

/-- Only a check makes a request pending. -/
lemma RotationStep.pending {o : Op} {rows rows' : List RefreshToken} {φ φ' : RotationPhase}
    (step : RotationStep D o rows φ φ' rows') {hash : String} (pending : φ'.Pending hash) :
    φ.Pending hash ∨ (o = .db (.refreshTokens (.existsByParentHash hash)) ∧
      ∀ r ∈ rows, r.parentHash ≠ some hash) := by
  cases step with
  | aside φ => exact .inl pending
  | check tenantId h stored eq first =>
    obtain rfl : h = hash := pending
    exact .inr ⟨eq, first⟩
  | revoke => exact .inl pending
  | _ => cases pending

/-- A new child belongs to the token its request is pending on. -/
lemma RotationStep.parent {o : Op} {rows rows' : List RefreshToken} {φ φ' : RotationPhase}
    (step : RotationStep D o rows φ φ' rows') {r' : RefreshToken} (mem : r' ∈ rows') :
    (∃ r ∈ rows, r.parentHash = r'.parentHash) ∨
      ∃ hash, φ.Pending hash ∧ r'.parentHash = some hash ∧ φ' = .created hash := by
  cases step with
  | reuse _ _ _ now =>
    obtain ⟨r, memr, rfl⟩ := mem_revokeWhere.mp mem
    exact .inl ⟨r, memr, by simp⟩
  | revoke _ _ _ now =>
    obtain ⟨r, memr, rfl⟩ := mem_revokeWhere.mp mem
    exact .inl ⟨r, memr, by simp⟩
  | create tenantId hash stored plain fresh =>
    rw [List.mem_append, List.mem_singleton] at mem
    obtain mem | rfl := mem
    · exact .inl ⟨r', mem, rfl⟩
    · exact .inr ⟨hash, rfl, rfl, rfl⟩
  | _ => exact .inl ⟨r', mem, rfl⟩

/-- A request that has created a child was pending on the token before. -/
lemma RotationStep.created {o : Op} {rows rows' : List RefreshToken} {φ : RotationPhase}
    {hash : String} (step : RotationStep D o rows φ (.created hash) rows') :
    φ = .created hash ∨ φ.Pending hash := by
  cases step with
  | aside => exact .inl rfl
  | create => exact .inr rfl

/-! ## Interleavings -/

/-- Refresh requests that share a store. -/
abbrev RotationPool := Program.Config Op.Res Input Store (Except TokenError IssuedTokens)

/-- The phase a request has reached. -/
abbrev RotationPool.phase (D : Deploy) (c : RotationPool) (t : Nat) : RotationPhase :=
  Config.phase (exec D) (rotationMonitor D) t c.trace

/-- Request `t` is between its check of this hash and its end. -/
def RotationPool.InSection (D : Deploy) (c : RotationPool) (t : Nat) (hash : String) : Prop :=
  (c.phase D t).Pending hash ∧ ∀ r, c.thread t ≠ .ret r

/-- When a request is about to check a hash, no request is between its check of this hash and its
end. -/
def ChecksAlone (D : Deploy) (c : RotationPool) (x : Nat × Input) : Prop :=
  ∀ hash k, c.thread x.1 = .call (.db (.refreshTokens (.existsByParentHash hash))) k →
    ∀ t, ¬ c.InSection D t hash

/-- What holds in every state of a pool in which requests check alone. -/
structure RotationInv (D : Deploy) (Q : Nat → RotationPhase → Except TokenError IssuedTokens → Prop)
    (c : RotationPool) : Prop where
  guarded : Config.Guarded (exec D) (rotationMonitor D) Q c
  chains : RefreshChains c.store.refreshTokens
  knows : ∀ t, (c.phase D t).Knows c.store.refreshTokens
  first : ∀ t hash, c.InSection D t hash → ∀ r ∈ c.store.refreshTokens, r.parentHash ≠ some hash
  alone : ∀ t t' hash, c.InSection D t hash → c.InSection D t' hash → t = t'
  single : ∀ t t' hash, c.phase D t = .created hash → c.phase D t' = .created hash → t = t'

/-- A request that is in a section after a step was in it before, or it has just made its check. -/
lemma RotationPool.step_sections {c : RotationPool} {x : Nat × Input} {o : Op}
    {k : o.Res → Service (Except TokenError IssuedTokens)} (e : c.thread x.1 = .call o k)
    (step : RotationStep D o c.store.refreshTokens (c.phase D x.1)
      (RotationPool.phase D (Config.step (exec D) c x) x.1) (exec D o x.2 c.store).2.refreshTokens)
    {t : Nat} {hash : String} (sect : RotationPool.InSection D (Config.step (exec D) c x) t hash) :
    c.InSection D t hash ∨ (t = x.1 ∧ o = .db (.refreshTokens (.existsByParentHash hash)) ∧
      ∀ r ∈ c.store.refreshTokens, r.parentHash ≠ some hash) := by
  by_cases et : t = x.1
  · subst et
    obtain pending | check := step.pending sect.1
    · exact .inl ⟨pending, by simp [e]⟩
    · exact .inr ⟨rfl, check⟩
  · have pending := sect.1
    have running := sect.2
    rw [RotationPool.phase, Config.phase_step_ne et] at pending
    rw [Config.thread_step_ne et] at running
    exact .inl ⟨pending, running⟩

lemma RotationInv.step {Q : Nat → RotationPhase → Except TokenError IssuedTokens → Prop}
    {c : RotationPool} (inv : RotationInv D Q c) (x : Nat × Input) (checks : ChecksAlone D c x) :
    RotationInv D Q (Config.step (exec D) c x) := by
  cases e : c.thread x.1 with
  | ret r =>
    rw [Config.step_ret e]
    exact inv
  | call o k =>
    have step := exec_rotationStep (inv.guarded.allowed e) x.2 c.store
    have self : RotationPool.phase D (Config.step (exec D) c x) x.1 =
        (c.phase D x.1).next o (exec D o x.2 c.store).1 := Config.phase_step_self e
    rw [← self] at step
    have rows : (Config.step (exec D) c x).store.refreshTokens =
        (exec D o x.2 c.store).2.refreshTokens := by rw [Config.step_call e]
    have sections : ∀ {t hash}, RotationPool.InSection D (Config.step (exec D) c x) t hash → _ :=
      fun sect => RotationPool.step_sections e step sect
    have own : ∀ {hash}, (c.phase D x.1).Pending hash → c.InSection D x.1 hash :=
      fun pending => ⟨pending, by simp [e]⟩
    constructor
    case guarded => exact inv.guarded.step x
    case chains =>
      rw [rows]
      exact step.chains inv.chains (inv.knows x.1) fun hash pending => inv.first x.1 hash (own pending)
    case knows =>
      intro t
      rw [rows]
      by_cases et : t = x.1
      · subst et
        exact step.knows (inv.knows x.1)
      · rw [RotationPool.phase, Config.phase_step_ne et]
        exact (inv.knows t).grown step.grown
    case first =>
      intro t hash sect r' mem'
      rw [rows] at mem'
      obtain ⟨r, mem, eq⟩ | ⟨h, pending, eq, created⟩ := step.parent mem'
      · rw [← eq]
        obtain old | ⟨-, -, unused⟩ := sections sect
        · exact inv.first t hash old r mem
        · exact unused r mem
      · rw [eq]
        rintro ⟨rfl⟩
        obtain old | ⟨rfl, -, -⟩ := sections sect
        · obtain rfl := inv.alone t x.1 _ old (own pending)
          have still := sect.1
          rw [created] at still
          exact still
        · have still := sect.1
          rw [created] at still
          exact still
    case alone =>
      intro t t' hash sect sect'
      obtain old | ⟨rfl, rfl, -⟩ := sections sect
      · obtain old' | ⟨rfl, rfl, -⟩ := sections sect'
        · exact inv.alone t t' hash old old'
        · exact absurd old (checks hash k e t)
      · obtain old' | ⟨rfl, -, -⟩ := sections sect'
        · exact absurd old' (checks hash k e t')
        · rfl
    case single =>
      -- One of two requests that have created a child has just done so, while the other's child
      -- was there.
      have fresh : ∀ t hash, t ≠ x.1 → c.phase D t = .created hash →
          RotationPool.phase D (Config.step (exec D) c x) x.1 ≠ .created hash := by
        intro t hash ne created created'
        rw [created'] at step
        obtain before | pending := step.created
        · exact ne (inv.single t x.1 hash created before)
        · have known := inv.knows t
          rw [created] at known
          obtain ⟨r, mem, eq⟩ := known
          exact inv.first x.1 hash (own pending) r mem eq
      intro t t' hash created created'
      by_cases et : t = x.1
      · by_cases et' : t' = x.1
        · rw [et, et']
        · rw [RotationPool.phase, Config.phase_step_ne et'] at created'
          exact absurd (et ▸ created) (fresh t' hash et' created')
      · rw [RotationPool.phase, Config.phase_step_ne et] at created
        by_cases et' : t' = x.1
        · exact absurd (et' ▸ created') (fresh t hash et created)
        · rw [RotationPool.phase, Config.phase_step_ne et'] at created'
          exact inv.single t t' hash created created'

/-- Refresh requests, one for each number, on a store. -/
def refreshPool (D : Deploy) (s : Store) (tenantId : Nat → TenantId) (cmd : Nat → TokenCommand) :
    RotationPool :=
  Config.start s fun t => exchange D (tenantId t) (cmd t)

/-- What rotation promises: of the requests that present one token at most one succeeds, no token has
two children, and a chain has at most one token that is not revoked. -/
structure RotatesOnce (cmd : Nat → TokenCommand) (c : RotationPool) : Prop where
  one_success : ∀ t t', succeeded (c.thread t) → succeeded (c.thread t') →
    (cmd t).refreshToken = (cmd t').refreshToken → t = t'
  one_child : ∀ p a b, RefreshToken.Child c.store.refreshTokens p a →
    RefreshToken.Child c.store.refreshTokens p b → a = b
  one_live : ∀ a b, Relation.EqvGen (RefreshToken.Child c.store.refreshTokens) a b →
    a.isRevoked = false → b.isRevoked = false → a = b

/-- The monitor's view of a request: it succeeds only after it has created a child of the token it
presents. -/
abbrev CreatesChild (D : Deploy) (cmd : Nat → TokenCommand) (t : Nat) (φ : RotationPhase)
    (r : Except TokenError IssuedTokens) : Prop :=
  ∀ tokens, r = .ok tokens → ∃ plain, nonEmpty (cmd t).refreshToken = some plain ∧
    φ = .created (D.sha256Hex plain)

lemma RotationInv.rotatesOnce {cmd : Nat → TokenCommand} {c : RotationPool}
    (inv : RotationInv D (CreatesChild D cmd) c) : RotatesOnce cmd c := by
  have creates : ∀ t, succeeded (c.thread t) → ∃ plain,
      nonEmpty (cmd t).refreshToken = some plain ∧
        c.phase D t = .created (D.sha256Hex plain) := by
    intro t done
    obtain ⟨tokens, returned⟩ := succeeded_iff.mp done
    exact inv.guarded.returned returned tokens rfl
  constructor
  case one_success =>
    intro t t' done done' same
    obtain ⟨plain, token, created⟩ := creates t done
    obtain ⟨plain', token', created'⟩ := creates t' done'
    rw [same, token', Option.some.injEq] at token
    subst token
    exact inv.single t t' _ created created'
  case one_child => exact fun p a b childa childb => inv.chains.rightUnique childa childb
  case one_live =>
    exact fun a b chain live live' =>
      inv.chains.unretired_unique chain (by simp [live]) (by simp [live'])

lemma refreshPool_guarded (s : Store) (tenantId : Nat → TenantId) {cmd : Nat → TokenCommand}
    (grants : ∀ t, (cmd t).grantType = some "refresh_token") :
    Config.Guarded (exec D) (rotationMonitor D) (CreatesChild D cmd)
      (refreshPool D s tenantId cmd) := by
  intro t
  change (exchange D (tenantId t) (cmd t)).Guarded (rotationMonitor D) .start (CreatesChild D cmd t)
  have unfolded : exchange D (tenantId t) (cmd t) =
      (exchangeRefreshToken D (tenantId t) (cmd t)).run := by simp [exchange, grants t]
  rw [unfolded]
  exact exchangeRefreshToken_guarded (tenantId t) (cmd t)

/-- In every interleaving in which no request makes its check of a token while another one is between
its check of the same token and its end, rotation keeps its promise in every state. -/
theorem rotations_apart_rotate_once {es : List (Event TokenCall Input Store)} {s : Store}
    (run : TokenRuns D es s) (tenantId : Nat → TenantId) (cmd : Nat → TokenCommand)
    (grants : ∀ t, (cmd t).grantType = some "refresh_token") (sched : List (Nat × Input))
    (apart : Config.Admissible (exec D) (ChecksAlone D) (refreshPool D s tenantId cmd) sched) :
    RotatesOnce cmd (Config.exec (exec D) (refreshPool D s tenantId cmd) sched) := by
  have init : RotationInv D (CreatesChild D cmd) (refreshPool D s tenantId cmd) :=
    ⟨refreshPool_guarded s tenantId grants, (TokenRuns.chains run).1, fun _ => trivial,
      fun _ _ sect => sect.1.elim, fun _ _ _ sect => sect.1.elim, fun _ _ _ e => nomatch e⟩
  exact (Config.exec_invariant apart init fun c x inv checks => inv.step x checks).rotatesOnce

/-- While only request `t` runs, and the others have not begun or have returned, requests check alone. -/
lemma alone_admissible (t : Nat) {Q : Nat → RotationPhase → Except TokenError IssuedTokens → Prop}
    {c : RotationPool} (guarded : Config.Guarded (exec D) (rotationMonitor D) Q c)
    (others : ∀ t', t' ≠ t → c.phase D t' = .start ∨ ∃ r, c.thread t' = .ret r) (ins : List Input) :
    Config.Admissible (exec D) (ChecksAlone D) c (ins.map (t, ·)) := by
  induction ins generalizing c with
  | nil => trivial
  | cons i ins ih =>
    refine ⟨?_, ih (guarded.step _) fun t' ne => ?_⟩
    · intro hash k e t' sect
      have pending := sect.1
      by_cases et : t' = t
      · subst et
        obtain ⟨tenantId, stored, found⟩ := guarded.allowed e
        rw [RotationPool.phase, found] at pending
        exact pending
      · obtain idle | ⟨r, returned⟩ := others t' et
        · rw [idle] at pending
          exact pending
        · exact sect.2 r returned
    · rw [RotationPool.phase, Config.phase_step_ne ne, Config.thread_step_ne ne]
      exact others t' ne

/-- Two requests in turn check alone: the second begins when the first has returned. -/
lemma in_turn_admissible {Q : Nat → RotationPhase → Except TokenError IssuedTokens → Prop} {c : RotationPool}
    (guarded : Config.Guarded (exec D) (rotationMonitor D) Q c) (fresh : ∀ u, c.phase D u = .start) {t t' : Nat}
    (ins ins' : List Input) (returned : ∃ r, (Config.exec (exec D) c (ins.map (t, ·))).thread t = .ret r) :
    Config.Admissible (exec D) (ChecksAlone D) c (ins.map (t, ·) ++ ins'.map (t', ·)) := by
  have idle : ∀ u, u ≠ t' →
      RotationPool.phase D (Config.exec (exec D) c (ins.map (t, ·))) u = .start ∨
        ∃ r, (Config.exec (exec D) c (ins.map (t, ·))).thread u = .ret r := by
    intro u _
    by_cases same : u = t
    · subst same
      exact .inr returned
    · exact .inl ((Config.phase_exec_ne same ins).trans (fresh u))
  exact (alone_admissible t guarded (fun u _ => .inl (fresh u)) ins).append
    (alone_admissible t' (guarded.exec _) idle ins')

namespace Sample

/-- Requests that all present the root token of `afterCode`. -/
def racingPool : RotationPool := refreshPool deploy afterCode (fun _ => tenantA) fun _ => refreshRequest 2

/-- Both requests make their four first calls, up to the check, before either goes on. -/
def racingSchedule : List (Nat × Input) :=
  List.replicate 4 (0, input 3) ++ List.replicate 4 (1, input 4) ++
    List.replicate 8 (0, input 3) ++ List.replicate 8 (1, input 4)

end Sample

open Sample in
set_option maxRecDepth 8000 in
/-- Two requests that interleave at the check both rotate the token. -/
theorem racing_rotations_both_succeed :
    (∃ es, TokenRuns deploy es afterCode) ∧
    succeeded ((Config.exec (exec deploy) racingPool racingSchedule).thread 0) = true ∧
    succeeded ((Config.exec (exec deploy) racingPool racingSchedule).thread 1) = true ∧
    ¬ RotatesOnce (fun _ => refreshRequest 2)
      (Config.exec (exec deploy) racingPool racingSchedule) := by
  have both : succeeded ((Config.exec (exec deploy) racingPool racingSchedule).thread 0) = true ∧
      succeeded ((Config.exec (exec deploy) racingPool racingSchedule).thread 1) = true := by
    decide +kernel
  obtain ⟨first, second⟩ := both
  refine ⟨code_run, first, second, fun once => ?_⟩
  exact absurd (once.one_success 0 1 first second rfl) (by decide)

namespace Sample

/-- Request 1 begins when request 0 has returned. -/
def firstTurn : List (Nat × Input) := (List.replicate 12 (input 3)).map (0, ·)

def secondTurn : List (Nat × Input) := (List.replicate 12 (input 4)).map (1, ·)

end Sample

open Sample in
set_option maxRecDepth 8000 in
/-- Of two requests in turn the first rotates the token and the second is refused. -/
theorem rotations_apart_rotate_once_sample :
    succeeded ((Config.exec (exec deploy) racingPool (firstTurn ++ secondTurn)).thread 0) = true ∧
    refused ((Config.exec (exec deploy) racingPool (firstTurn ++ secondTurn)).thread 1) = true ∧
    RotatesOnce (fun _ => refreshRequest 2)
      (Config.exec (exec deploy) racingPool (firstTurn ++ secondTurn)) := by
  have first : succeeded ((Config.exec (exec deploy) racingPool firstTurn).thread 0) = true := by
    decide +kernel
  have both : succeeded ((Config.exec (exec deploy) racingPool (firstTurn ++ secondTurn)).thread 0) = true ∧
      refused ((Config.exec (exec deploy) racingPool (firstTurn ++ secondTurn)).thread 1) = true := by
    decide +kernel
  obtain ⟨es, run⟩ := code_run
  have start : Config.Guarded (exec deploy) (rotationMonitor deploy)
      (CreatesChild deploy fun _ => refreshRequest 2) racingPool :=
    refreshPool_guarded afterCode (fun _ => tenantA) fun _ => rfl
  obtain ⟨tokens, returned⟩ := succeeded_iff.mp first
  have apart : Config.Admissible (exec deploy) (ChecksAlone deploy) racingPool (firstTurn ++ secondTurn) := by
    unfold firstTurn at returned
    unfold firstTurn secondTurn
    exact in_turn_admissible start (fun _ => rfl) _ _ ⟨_, returned⟩
  exact ⟨both.1, both.2, rotations_apart_rotate_once run _ _ (fun _ => rfl) _ apart⟩

end IdpMvp
