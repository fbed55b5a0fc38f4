import IdpMvp.Sample
import IdpMvp.Service.Permission
import IdpMvp.Store.Effects
import IdpMvp.Store.Monitors

/-!
# Coherence of the permission cache

`CachedUserPermissionRepository` reads the store and then inserts the answer into the cache, and
changes the store and then invalidates the cache, each in two steps. A lookup that starts when no
change of its user and tenant is under way answers what the store holds at one of its own calls, in
every interleaving in which the invalidations come in time: none misses a key that the cache holds
under another spelling, and none is overtaken by the insertion of an older answer.
-/

namespace IdpMvp

open Program Program.Prog Program.Flow IdpMvp.Prog

variable {D : Deploy}

/-! ## Calls -/

/-- A call of the decorator. -/
inductive CacheCall where
  | hasPermission (tenantId : TenantId) (userId : Uuid) (code : String)
  | grant (tenantId : TenantId) (userId : Uuid) (code : String)
  | revoke (tenantId : TenantId) (userId : Uuid) (code : String)
  | revokeAllForUserInTenant (tenantId : TenantId) (userId : Uuid)

inductive CacheAnswer where
  | held (r : DbResult Bool)
  | changed (r : DbResult Unit)
  | revoked (r : DbResult (List String))

def CacheCall.program : CacheCall → Service CacheAnswer
  | hasPermission tenantId userId code =>
    return .held (← userPermissions.hasPermission tenantId userId code)
  | grant tenantId userId code => return .changed (← userPermissions.grant tenantId userId code)
  | revoke tenantId userId code => return .changed (← userPermissions.revoke tenantId userId code)
  | revokeAllForUserInTenant tenantId userId =>
    return .revoked (← userPermissions.revokeAllForUserInTenant tenantId userId)

abbrev CachePool := Program.Config Op.Res Input Store CacheAnswer

/-- What the store holds for a key. -/
def Store.holds (D : Deploy) (s : Store) (key : PermissionKey) : Bool :=
  s.hasPermission D key.tenantId key.userId key.code

/-- The keys that are to be invalidated after an operation with this result. -/
def Op.invalidates : (o : Op) → Op.Res o → List PermissionKey
  | .db (.permissions (.grant tenantId userId code)), .ok _ => [⟨tenantId, userId, code⟩]
  | .db (.permissions (.revoke tenantId userId code)), .ok _ => [⟨tenantId, userId, code⟩]
  | .db (.permissions (.revokeAllForUserInTenant tenantId userId)), .ok codes =>
    codes.map fun code => ⟨tenantId, userId, code⟩
  | _, _ => []

/-- The operation is a change of the permissions of the user within the tenant. -/
def Op.ChangeOf (tenantId : TenantId) (userId : Uuid) : Op → Prop
  | .db (.permissions (.grant t u _)) => t = tenantId ∧ u = userId
  | .db (.permissions (.revoke t u _)) => t = tenantId ∧ u = userId
  | .db (.permissions (.revokeAllForUserInTenant t u)) => t = tenantId ∧ u = userId
  | _ => False

lemma Op.changeOf_of_invalidates {o : Op} {r : Op.Res o} {key : PermissionKey}
    (mem : key ∈ o.invalidates r) : o.ChangeOf key.tenantId key.userId := by
  unfold Op.invalidates at mem
  split at mem
  · obtain rfl := List.mem_singleton.mp mem
    exact ⟨rfl, rfl⟩
  · obtain rfl := List.mem_singleton.mp mem
    exact ⟨rfl, rfl⟩
  · obtain ⟨code, -, rfl⟩ := List.mem_map.mp mem
    exact ⟨rfl, rfl⟩
  · cases mem

/-! ## Phases -/

/-- Where a call is: a lookup between its read and its insertion, or a change between its statement
and its last invalidation. -/
inductive CachePhase where
  | idle
  | read (key : PermissionKey) (value : Bool)
  | pending (keys : List PermissionKey)
  deriving DecidableEq, Repr

namespace CachePhase

/-- The phase after an invalidation. -/
def invalidated (key : PermissionKey) : CachePhase → CachePhase
  | pending keys => pending (keys.filter (· ≠ key))
  | φ => φ

def next (φ : CachePhase) : (o : Op) → Op.Res o → CachePhase
  | .db (.permissions (.hasPermission tenantId userId code)), .ok held =>
    read ⟨tenantId, userId, code⟩ held
  | .cacheInsert _ _, _ => idle
  | .cacheInvalidate key, _ => φ.invalidated key
  | o, r => if (o.invalidates r).isEmpty then φ else pending (o.invalidates r)

def Allows : CachePhase → Op → Prop
  | read key value, o => o = .cacheInsert key value
  | pending _, o => ∃ key, o = .cacheInvalidate key
  | idle, o => ∀ key value, o ≠ .cacheInsert key value

/-- Nothing is left to invalidate. -/
def Settled (φ : CachePhase) : Prop := ∀ keys, φ = pending keys → keys = []

end CachePhase

def cacheMonitor : Monitor Op.Res CachePhase where
  init := .idle
  ok := CachePhase.Allows
  next := CachePhase.next

/-! ## Calls keep to the monitor -/

section
variable {tenantId : TenantId} {userId : Uuid} {code : String}

lemma hasPermission_guarded :
    (CacheCall.hasPermission tenantId userId code).program.Guarded cacheMonitor .idle
      (fun φ _ => φ.Settled) := by
  refine ⟨nofun, ?_⟩
  rintro (_ | hit)
  · refine ⟨nofun, ?_⟩
    rintro (e | held)
    · exact nofun
    · exact ⟨rfl, fun _ => nofun⟩
  · exact nofun

/-- After its invalidations, a change has none left. -/
lemma invalidateCodes_guarded {codes : List String} {keys : List PermissionKey}
    (within : ∀ key ∈ keys, ∃ code ∈ codes, key = ⟨tenantId, userId, code⟩) :
    (invalidateCodes tenantId userId codes).Guarded cacheMonitor (.pending keys)
      (fun φ _ => φ.Settled) := by
  induction codes generalizing keys with
  | nil =>
    rintro _ ⟨⟩
    refine List.eq_nil_iff_forall_not_mem.mpr fun key mem => ?_
    obtain ⟨code, none, -⟩ := within key mem
    cases none
  | cons code codes ih =>
    refine ⟨⟨_, rfl⟩, fun _ => ih ?_⟩
    intro key mem
    obtain ⟨mem, other⟩ := List.mem_filter.mp mem
    obtain ⟨c, mem_c, rfl⟩ := within key mem
    rcases List.mem_cons.mp mem_c with rfl | mem_c
    · simp at other
    · exact ⟨c, mem_c, rfl⟩

lemma CacheCall.guarded (call : CacheCall) :
    call.program.Guarded cacheMonitor .idle (fun φ _ => φ.Settled) := by
  cases call with
  | hasPermission => exact hasPermission_guarded
  | grant tenantId userId code | revoke tenantId userId code =>
    refine ⟨nofun, ?_⟩
    rintro (e | _)
    · exact nofun
    · refine ⟨⟨_, rfl⟩, fun _ => ?_⟩
      rintro _ ⟨⟩
      simp [Op.invalidates]
  | revokeAllForUserInTenant tenantId userId =>
    refine ⟨nofun, ?_⟩
    rintro (e | codes)
    · exact nofun
    · cases codes with
      | nil => exact nofun
      | cons code codes =>
        change ((invalidateCodes tenantId userId (code :: codes) >>= fun _ =>
          ret (Except.ok (code :: codes))) >>= fun r => ret (CacheAnswer.revoked r)).Guarded
            cacheMonitor (.pending ((code :: codes).map fun code => ⟨tenantId, userId, code⟩)) _
        rw [guarded_bind, guarded_bind]
        refine invalidateCodes_guarded ?_
        intro key mem
        obtain ⟨c, mem_c, rfl⟩ := List.mem_map.mp mem
        exact ⟨c, mem_c, rfl⟩

end

/-! ## What a call means for the phases -/

section
variable {φ : CachePhase} {o : Op} {r : Op.Res o} {key : PermissionKey} {keys : List PermissionKey}

/-- A call with keys to invalidate leads to the phase in which they are. -/
lemma CachePhase.next_of_invalidates (mem : key ∈ o.invalidates r) :
    φ.next o r = .pending (o.invalidates r) := by
  unfold CachePhase.next
  split
  · cases mem
  · cases mem
  · cases mem
  · rw [if_neg]
    simpa using List.ne_nil_of_mem mem

/-- A key that is to be invalidated was before, or the call is a change of it. -/
lemma CachePhase.next_pending (h : φ.next o r = .pending keys) (mem : key ∈ keys) :
    (∃ keys', φ = .pending keys' ∧ key ∈ keys') ∨ o.ChangeOf key.tenantId key.userId := by
  unfold CachePhase.next at h
  split at h
  · cases h
  · cases h
  · cases φ with
    | pending keys' =>
      cases h
      exact .inl ⟨keys', rfl, (List.mem_filter.mp mem).1⟩
    | _ => cases h
  · split at h
    · exact .inl ⟨keys, h, mem⟩
    · cases h
      exact .inr (Op.changeOf_of_invalidates mem)

/-- Only the read of a lookup leads past it. -/
lemma CachePhase.next_idle_ne_read {value : Bool}
    (other : ∀ tenantId userId code, o ≠ .db (.permissions (.hasPermission tenantId userId code))) :
    CachePhase.idle.next o r ≠ .read key value := by
  unfold CachePhase.next
  split
  · exact absurd rfl (other _ _ _)
  · nofun
  · nofun
  · split <;> nofun

lemma CachePhase.next_read {i : Input} {s : Store} {value : Bool}
    (h : φ.next o (exec D o i s).1 = .read key value) (allowed : φ.Allows o) :
    o = .db (.permissions (.hasPermission key.tenantId key.userId key.code)) ∧
      value = s.holds D key := by
  cases φ with
  | read key' value' =>
    cases allowed
    cases h
  | pending keys =>
    obtain ⟨key', rfl⟩ := allowed
    cases h
  | idle =>
    by_cases reads : ∃ tenantId userId code,
        o = .db (.permissions (.hasPermission tenantId userId code))
    · obtain ⟨tenantId, userId, code, rfl⟩ := reads
      cases f : i.fault with
      | some e =>
        simp [exec, f, CachePhase.next, Op.invalidates] at h
      | none =>
        simp only [exec, f, Stmt.exec, PermissionStmt.exec, CachePhase.next] at h
        cases h
        exact ⟨rfl, rfl⟩
    · push Not at reads
      exact absurd h (CachePhase.next_idle_ne_read reads)

end

/-! ## The condition -/

section
variable (D : Deploy)

abbrev CachePool.phase (c : CachePool) (t : Nat) : CachePhase :=
  Config.phase (exec D) cacheMonitor t c.trace

/-- The change that call `t` has made is still to invalidate the key. -/
def PendingAt (c : CachePool) (t : Nat) (key : PermissionKey) : Prop :=
  ∃ keys, c.phase D t = .pending keys ∧ key ∈ keys

/-- The statement `w` has changed what the store holds for the key. -/
def Overwrites (key : PermissionKey) (w : Program.Entry Op Input Store) : Prop :=
  (w.post (exec D)).holds D key ≠ w.pre.holds D key

/-- Call `t` has read the key, and then the entries `after` were made. -/
def ReadThen (c : CachePool) (t : Nat) (key : PermissionKey)
    (after : List (Program.Entry Op Input Store)) : Prop :=
  ∃ before e, c.trace = before ++ e :: after ∧ e.tid = t ∧
    e.op = .db (.permissions (.hasPermission key.tenantId key.userId key.code))

/-- Invalidations come in time. A statement that changes what the store holds for a key in the cache
has this key invalidated; and an answer is not inserted after the invalidation by a change that was
made since it was read. -/
structure InTime (c : CachePool) (x : Nat × Input) : Prop where
  covers : ∀ o k, c.thread x.1 = .call o k → ∀ key, c.store.cached key ≠ none →
    (exec D o x.2 c.store).2.holds D key ≠ c.store.holds D key →
    key ∈ o.invalidates (exec D o x.2 c.store).1
  before : ∀ key value k, c.thread x.1 = .call (.cacheInsert key value) k → ∀ after,
    ReadThen c x.1 key after → ∀ w ∈ after, Overwrites D key w → PendingAt D c w.tid key

end

/-! ## The invariant -/

/-- An entry of the cache is what the store holds, or it is to be invalidated; and so is what a lookup
has read, as long as no change has been made since. -/
structure Coherent (D : Deploy) (c : CachePool) : Prop where
  entries : ∀ e ∈ c.store.permissionCache,
    e.value = c.store.holds D e.key ∨ ∃ t, PendingAt D c t e.key
  reads : ∀ t key value, c.phase D t = .read key value → ∃ after, ReadThen c t key after ∧
    (value = c.store.holds D key ∨ ∃ w ∈ after, Overwrites D key w)
  changes : ∀ t key, PendingAt D c t key →
    ∃ e ∈ c.trace, e.tid = t ∧ e.op.ChangeOf key.tenantId key.userId

lemma cached_ne_none {s : Store} {e : PermissionEntry} (mem : e ∈ s.permissionCache) :
    s.cached e.key ≠ none := by
  intro none
  simpa using List.find?_eq_none.mp none e mem

section
variable {c : CachePool} {x : Nat × Input} {o : Op} {k : Op.Res o → Service CacheAnswer}
variable {key : PermissionKey} {t : Nat}

/-- A key stays to be invalidated until it is. -/
lemma PendingAt.step (h : PendingAt D c t key) (e : c.thread x.1 = .call o k)
    (allowed : (c.phase D x.1).Allows o) (other : o ≠ .cacheInvalidate key) :
    PendingAt D (Config.step (exec D) c x) t key := by
  obtain ⟨keys, phase, mem⟩ := h
  by_cases same : t = x.1
  · subst same
    rw [phase] at allowed
    obtain ⟨key', rfl⟩ := allowed
    refine ⟨keys.filter (· ≠ key'), ?_, List.mem_filter.mpr ⟨mem, ?_⟩⟩
    · rw [CachePool.phase, Config.phase_step_self e, ← CachePool.phase, phase]
      rfl
    · simpa using fun eq => other (by rw [eq])
  · refine ⟨keys, ?_, mem⟩
    rw [CachePool.phase, Config.phase_step_ne same]
    exact phase

lemma PendingAt.of_step (h : PendingAt D (Config.step (exec D) c x) t key)
    (e : c.thread x.1 = .call o k) :
    PendingAt D c t key ∨ (t = x.1 ∧ o.ChangeOf key.tenantId key.userId) := by
  obtain ⟨keys, phase, mem⟩ := h
  by_cases same : t = x.1
  · subst same
    rw [CachePool.phase, Config.phase_step_self e] at phase
    exact (CachePhase.next_pending phase mem).imp id fun change => ⟨rfl, change⟩
  · rw [CachePool.phase, Config.phase_step_ne same] at phase
    exact .inl ⟨keys, phase, mem⟩

lemma ReadThen.step {after : List (Program.Entry Op Input Store)} (h : ReadThen c t key after)
    (e : c.thread x.1 = .call o k) :
    ReadThen (Config.step (exec D) c x) t key (after ++ [⟨⟨o, x.2, c.store⟩, x.1⟩]) := by
  obtain ⟨before, r, trace, tid, op⟩ := h
  exact ⟨before, r, by simp [Config.step_call e, trace], tid, op⟩

/-- What the call has done to an entry: one that is no longer what the store holds is to be
invalidated. -/
lemma Coherent.entries_step (h : Coherent D c) (inTime : InTime D c x)
    (e : c.thread x.1 = .call o k) (allowed : (c.phase D x.1).Allows o) {entry : PermissionEntry}
    (mem : entry ∈ (exec D o x.2 c.store).2.permissionCache) :
    entry.value = (exec D o x.2 c.store).2.holds D entry.key ∨
      ∃ t, PendingAt D (Config.step (exec D) c x) t entry.key := by
  rcases exec_permissionCache_mem mem with ⟨mem, other⟩ | rfl
  · by_cases kept : (exec D o x.2 c.store).2.holds D entry.key = c.store.holds D entry.key
    · rw [kept]
      exact (h.entries entry mem).imp id fun ⟨t, pending⟩ => ⟨t, pending.step e allowed other⟩
    · have covered := inTime.covers o k e entry.key (cached_ne_none mem) kept
      refine .inr ⟨x.1, _, ?_, covered⟩
      rw [CachePool.phase, Config.phase_step_self e]
      exact CachePhase.next_of_invalidates covered
  · have phase : c.phase D x.1 = .read entry.key entry.value := by
      cases φ : c.phase D x.1 with
      | read key' value' =>
        rw [φ] at allowed
        cases allowed
        rfl
      | pending keys =>
        rw [φ] at allowed
        obtain ⟨key', eq⟩ := allowed
        cases eq
      | idle =>
        rw [φ] at allowed
        exact absurd rfl (allowed _ _)
    obtain ⟨after, read, fresh | ⟨w, mem_w, overwrites⟩⟩ := h.reads _ _ _ phase
    · exact .inl fresh
    · have pending := inTime.before _ _ k e after read w mem_w overwrites
      exact .inr ⟨w.tid, pending.step e allowed nofun⟩

lemma Coherent.step (h : Coherent D c)
    (guarded : Config.Guarded (exec D) cacheMonitor (fun _ φ _ => φ.Settled) c)
    (inTime : InTime D c x) : Coherent D (Config.step (exec D) c x) := by
  cases e : c.thread x.1 with
  | ret a => rwa [Config.step_ret e]
  | call o k =>
    have allowed : (c.phase D x.1).Allows o := guarded.allowed e
    have store : (Config.step (exec D) c x).store = (exec D o x.2 c.store).2 := by
      rw [Config.step_call e]
    have trace : (Config.step (exec D) c x).trace = c.trace ++ [⟨⟨o, x.2, c.store⟩, x.1⟩] := by
      rw [Config.step_call e]
    refine ⟨?_, ?_, ?_⟩
    · intro entry mem
      rw [store] at mem ⊢
      exact h.entries_step inTime e allowed mem
    · intro t key value phase
      rw [store]
      by_cases same : t = x.1
      · -- The thread has just read: nothing was made since.
        subst same
        rw [CachePool.phase, Config.phase_step_self e] at phase
        obtain ⟨rfl, rfl⟩ := CachePhase.next_read phase allowed
        refine ⟨[], ⟨c.trace, _, trace, rfl, rfl⟩, .inl ?_⟩
        cases f : x.2.fault with
        | none => simp only [exec, f, Stmt.exec, PermissionStmt.exec]
        | some e => simp only [exec, f]
      · rw [CachePool.phase, Config.phase_step_ne same] at phase
        obtain ⟨after, read, fresh⟩ := h.reads t key value phase
        refine ⟨_, read.step e, ?_⟩
        rcases fresh with rfl | ⟨w, mem, overwrites⟩
        · by_cases kept : (exec D o x.2 c.store).2.holds D key = c.store.holds D key
          · exact .inl kept.symm
          · exact .inr ⟨_, List.mem_append_right _ (List.mem_singleton_self _), kept⟩
        · exact .inr ⟨w, List.mem_append_left _ mem, overwrites⟩
    · intro t key pending
      rw [trace]
      rcases pending.of_step e with pending | ⟨rfl, change⟩
      · obtain ⟨r, mem, eq⟩ := h.changes t key pending
        exact ⟨r, List.mem_append_left _ mem, eq⟩
      · exact ⟨_, List.mem_append_right _ (List.mem_singleton_self _), rfl, change⟩

end

/-! ## Lookups -/

/-- The pool of the calls. -/
def cachePool (s₀ : Store) (calls : Nat → CacheCall) : CachePool :=
  Config.start s₀ fun t => (calls t).program

/-- Every change of the permissions of the user within the tenant that was made has returned. -/
def Quiet (c : CachePool) (tenantId : TenantId) (userId : Uuid) : Prop :=
  ∀ e ∈ c.trace, e.op.ChangeOf tenantId userId → ∃ a, c.thread e.tid = .ret a

/-- Call `t` has not begun. -/
def Unbegun (c : CachePool) (t : Nat) : Prop := ∀ e ∈ c.trace, e.tid ≠ t

/-- Call `t` was made on a store that holds the answer. -/
def AnswersStore (D : Deploy) (c : CachePool) (t : Nat) (key : PermissionKey) (v : Bool) : Prop :=
  ∃ e ∈ c.trace, e.tid = t ∧ v = e.pre.holds D key

lemma coherent_exec {s₀ : Store} (cold : s₀.permissionCache = []) {calls : Nat → CacheCall}
    {sched : List (Nat × Input)}
    (inTime : Config.Admissible (exec D) (InTime D) (cachePool s₀ calls) sched) :
    Config.Guarded (exec D) cacheMonitor (fun _ φ _ => φ.Settled)
        (Config.exec (exec D) (cachePool s₀ calls) sched) ∧
      Coherent D (Config.exec (exec D) (cachePool s₀ calls) sched) := by
  refine Config.exec_invariant (I := fun c =>
    Config.Guarded (exec D) cacheMonitor (fun _ φ _ => φ.Settled) c ∧ Coherent D c)
    inTime ⟨fun t => (calls t).guarded, ?_, ?_, ?_⟩ ?_
  · intro e mem
    rw [cachePool, Config.start, cold] at mem
    cases mem
  · rintro t key value ⟨⟩
  · rintro t key ⟨keys, ⟨⟩, -⟩
  · rintro c x ⟨guarded, coherent⟩ fair
    exact ⟨guarded.step x, coherent.step guarded fair⟩

section
variable {c : CachePool} {t : Nat} {key : PermissionKey}

/-- A lookup after its read. -/
def afterRead (key : PermissionKey) (held : Bool) : Service CacheAnswer :=
  .call (.cacheInsert key held) fun _ => .ret (.held (.ok held))

/-- A lookup that has missed the cache. -/
def afterMiss (key : PermissionKey) : Service CacheAnswer :=
  .call (.db (.permissions (.hasPermission key.tenantId key.userId key.code))) fun
    | .error e => .ret (.held (.error e))
    | .ok held => afterRead key held

/-- A lookup after a call of the cache. -/
def afterGet (key : PermissionKey) : Option Bool → Service CacheAnswer
  | some hit => .ret (.held (.ok hit))
  | none => afterMiss key

lemma hasPermission_program (key : PermissionKey) :
    (CacheCall.hasPermission key.tenantId key.userId key.code).program =
      .call (.cacheGet key) (afterGet key) := by
  refine congrArg (Prog.call (Op.cacheGet key)) (funext ?_)
  rintro (_ | hit)
  · refine congrArg (Prog.call _) (funext ?_)
    rintro (e | held) <;> rfl
  · rfl

/-- Where a lookup is that has made its first call, and that what it knows it has from the store. -/
def Looking (D : Deploy) (c : CachePool) (t : Nat) (key : PermissionKey) : Prop :=
  c.thread t = afterMiss key ∨ (∃ e, c.thread t = .ret (.held (.error e))) ∨
    ∃ v, AnswersStore D c t key v ∧ (c.thread t = afterRead key v ∨ c.thread t = .ret (.held (.ok v)))

lemma answersStore_now {x : Nat × Input} {o : Op} {k : Op.Res o → Service CacheAnswer}
    (e : c.thread x.1 = .call o k) :
    AnswersStore D (Config.step (exec D) c x) x.1 key (c.store.holds D key) := by
  rw [Config.step_call e]
  exact ⟨_, List.mem_append_right _ (List.mem_singleton_self _), rfl, rfl⟩

lemma AnswersStore.step {v : Bool} (h : AnswersStore D c t key v) (x : Nat × Input) :
    AnswersStore D (Config.step (exec D) c x) t key v := by
  obtain ⟨e, mem, eq⟩ := h
  refine ⟨e, ?_, eq⟩
  cases et : c.thread x.1 with
  | ret a => rwa [Config.step_ret et]
  | call o k =>
    rw [Config.step_call et]
    exact List.mem_append_left _ mem

lemma Looking.step (h : Looking D c t key) (x : Nat × Input) :
    Looking D (Config.step (exec D) c x) t key := by
  by_cases same : t = x.1
  · subst same
    rcases h with missed | ⟨e, failed⟩ | ⟨v, answers, read | returned⟩
    · have stepped := Config.step_call (H := exec D) missed
      cases f : x.2.fault with
      | some e =>
        refine .inr (.inl ⟨e, ?_⟩)
        rw [stepped]
        simp [exec, f]
      | none =>
        refine .inr (.inr ⟨c.store.holds D key, answersStore_now missed, .inl ?_⟩)
        rw [stepped]
        simp [exec, f, Stmt.exec, PermissionStmt.exec, Store.holds]
    · rw [Config.step_ret failed]
      exact .inr (.inl ⟨e, failed⟩)
    · refine .inr (.inr ⟨v, answers.step x, .inr ?_⟩)
      rw [Config.step_call read]
      exact Function.update_self ..
    · rw [Config.step_ret returned]
      exact .inr (.inr ⟨v, answers, .inr returned⟩)
  · unfold Looking
    rw [Config.thread_step_ne same]
    refine h.imp id (Or.imp id ?_)
    rintro ⟨v, answers, rest⟩
    exact ⟨v, answers.step x, rest⟩

/-- The first call of a lookup, when no change is under way. -/
lemma Coherent.looking {i : Input} (h : Coherent D c)
    (guarded : Config.Guarded (exec D) cacheMonitor (fun _ φ _ => φ.Settled) c)
    (quiet : Quiet c key.tenantId key.userId) (begins : c.thread t = .call (.cacheGet key) (afterGet key)) :
    Looking D (Config.step (exec D) c (t, i)) t key := by
  have unstale : ∀ e ∈ c.store.permissionCache, e.key = key → e.value = c.store.holds D key := by
    rintro e mem rfl
    rcases h.entries e mem with fresh | ⟨t', pending⟩
    · exact fresh
    · obtain ⟨r, made, rfl, change⟩ := h.changes t' _ pending
      obtain ⟨a, returned⟩ := quiet r made change
      obtain ⟨keys, phase, mem⟩ := pending
      rw [guarded.returned returned keys phase] at mem
      cases mem
  have stepped := Config.step_call (H := exec D) (x := (t, i)) begins
  cases hit : (exec D (.cacheGet key) i c.store).1 with
  | none =>
    refine .inl ?_
    rw [stepped]
    simp [hit, afterGet]
  | some v =>
    have value : v = c.store.holds D key := by
      simp only [exec, Store.cacheGet] at hit
      split at hit
      · cases hit
      · rename_i entry found
        split at hit
        · cases hit
          exact unstale entry (List.mem_of_find?_eq_some found)
            (by simpa using List.find?_some found)
        · cases hit
    refine .inr (.inr ⟨v, ?_, .inr ?_⟩)
    · rw [value]
      exact answersStore_now begins
    · rw [stepped]
      simp [hit, afterGet]

end

/-- In every interleaving of calls of the decorator in which the invalidations come in time, a lookup
that starts when every change of its user and tenant has returned answers what the store holds at one
of its calls. -/
theorem lookup_answers_store (D : Deploy) (s₀ : Store) (cold : s₀.permissionCache = [])
    (calls : Nat → CacheCall) (earlier later : List (Nat × Input)) (t : Nat) (i : Input)
    (key : PermissionKey) (asks : calls t = .hasPermission key.tenantId key.userId key.code)
    (inTime : Config.Admissible (exec D) (InTime D) (cachePool s₀ calls) (earlier ++ (t, i) :: later))
    (unbegun : Unbegun (Config.exec (exec D) (cachePool s₀ calls) earlier) t)
    (quiet : Quiet (Config.exec (exec D) (cachePool s₀ calls) earlier) key.tenantId key.userId)
    (v : Bool) (answer : (Config.exec (exec D) (cachePool s₀ calls)
      (earlier ++ (t, i) :: later)).thread t = .ret (.held (.ok v))) :
    AnswersStore D (Config.exec (exec D) (cachePool s₀ calls) (earlier ++ (t, i) :: later)) t key v := by
  obtain ⟨guarded, coherent⟩ := coherent_exec cold inTime.append_left
  rw [Config.exec_append] at answer ⊢
  generalize start : Config.exec (exec D) (cachePool s₀ calls) earlier = c at *
  have begins : c.thread t = .call (.cacheGet key) (afterGet key) := by
    subst start
    rw [Config.thread_of_uncalled unbegun, ← hasPermission_program, ← asks]
    rfl
  have looking := Config.exec_invariant (I := fun c => Looking D c t key)
    (Config.admissible_true (H := exec D) (Config.step (exec D) c (t, i)) later)
    (coherent.looking guarded quiet begins) fun c x h _ => h.step x
  change (Config.exec (exec D) (Config.step (exec D) c (t, i)) later).thread t = _ at answer
  rcases looking with missed | ⟨e, failed⟩ | ⟨v', answers, read | returned⟩
  · rw [missed] at answer
    cases answer
  · rw [failed] at answer
    cases answer
  · rw [read] at answer
    cases answer
  · rw [returned] at answer
    cases answer
    exact answers

namespace Sample

/-- Alice administers the first tenant. -/
def aliceRow : PermissionKey := ⟨tenantA, aliceId, tenantAdmin⟩

def permittedStore : Store :=
  { store with
    permissionCodes := [tenantAdmin]
    permissions := [⟨aliceId, tenantAdmin, tenantA⟩] }

/-- Call 1 revokes her permission, the others ask for it. -/
def aliceCalls : Nat → CacheCall
  | 1 => .revoke tenantA aliceId tenantAdmin
  | _ => .hasPermission tenantA aliceId tenantAdmin

/-- Call 0 reads, call 1 revokes and invalidates, call 0 inserts what it has read. -/
def staleSchedule : List (Nat × Input) := [0, 0, 1, 1, 0].map (·, input 0)

end Sample

open Sample in
set_option maxRecDepth 4000 in
/-- A lookup that starts after the revocation has returned is answered from the cache that she has
the permission. -/
theorem revoked_permission_answered_true :
    let earlier := Config.exec (exec deploy) (cachePool permittedStore aliceCalls) staleSchedule
    let c := Config.exec (exec deploy) (cachePool permittedStore aliceCalls)
      (staleSchedule ++ [(2, input 0)])
    Unbegun earlier 2 ∧ Quiet earlier tenantA aliceId ∧ earlier.store.holds deploy aliceRow = false ∧
      c.thread 2 = .ret (.held (.ok true)) ∧ ¬ AnswersStore deploy c 2 aliceRow true := by
  intro earlier c
  have callers : ∀ e ∈ earlier.trace, e.tid = 0 ∨ e.tid = 1 := by decide +kernel
  refine ⟨?_, ?_, by decide +kernel, rfl, ?_⟩
  · intro e mem
    rcases callers e mem with tid | tid <;> simp [tid]
  · intro e mem _
    rcases callers e mem with tid | tid
    · rw [tid]
      exact ⟨_, rfl⟩
    · rw [tid]
      exact ⟨_, rfl⟩
  · rintro ⟨e, mem, tid, eq⟩
    have none : ∀ e ∈ c.trace, e.tid = 2 → e.pre.holds deploy aliceRow = false := by decide +kernel
    rw [none e mem tid] at eq
    cases eq

/-- The operation reads a permission from the store. -/
def Op.isRead : Op → Bool
  | .db (.permissions (.hasPermission _ _ _)) => true
  | _ => false

/-- With a cold cache, a call whose only read is the last call made is in time. -/
lemma InTime.of_cold {c : CachePool} {x : Nat × Input} (cold : c.store.permissionCache = [])
    (earlier : ∀ e ∈ c.trace.dropLast, e.tid = x.1 → e.op.isRead = false) : InTime D c x := by
  refine ⟨fun o k _ key cached _ => ?_, fun key value k _ after read w mem _ => ?_⟩
  · rw [Store.cached, cold] at cached
    exact absurd rfl cached
  · obtain ⟨before, e, trace, tid, op⟩ := read
    have unlast : e ∈ c.trace.dropLast := by
      rw [trace, List.dropLast_append_of_ne_nil (List.cons_ne_nil _ _),
        List.dropLast_cons_of_ne_nil (List.ne_nil_of_mem mem)]
      simp
    have reads := earlier e unlast tid
    rw [op] at reads
    cases reads

open Sample in
set_option maxRecDepth 4000 in
theorem lookup_answers_store_sample :
    AnswersStore deploy (Config.exec (exec deploy) (cachePool permittedStore aliceCalls)
      ([(1, input 0), (1, input 0)] ++ (2, input 0) :: [(2, input 0), (2, input 0)])) 2 aliceRow
        false := by
  refine lookup_answers_store deploy permittedStore rfl aliceCalls _ _ 2 (input 0) aliceRow rfl ?_ ?_ ?_
    false rfl
  · exact ⟨.of_cold rfl (by decide +kernel), .of_cold rfl (by decide +kernel),
      .of_cold rfl (by decide +kernel), .of_cold rfl (by decide +kernel),
      .of_cold rfl (by decide +kernel), trivial⟩
  · have callers : ∀ e ∈ (Config.exec (exec deploy) (cachePool permittedStore aliceCalls)
        [(1, input 0), (1, input 0)]).trace, e.tid = 1 := by decide +kernel
    intro e mem
    simp [callers e mem]
  · have callers : ∀ e ∈ (Config.exec (exec deploy) (cachePool permittedStore aliceCalls)
        [(1, input 0), (1, input 0)]).trace, e.tid = 1 := by decide +kernel
    intro e mem _
    rw [callers e mem]
    exact ⟨_, rfl⟩

end IdpMvp
