import IdpMvp.Program.Pool
import IdpMvp.Sample
import IdpMvp.Service.TenantManagement
import IdpMvp.Store.Effects

/-!
# The cache of the tenant resolution

`resolve` answers from a cache that no change of a tenant invalidates. It answers what the store holds
in every interleaving in which a tenant changes only while the cache holds no live entry of it and no
resolution is about to insert one (`resolves_current`).
-/

namespace IdpMvp

open Program Program.Prog Program.Flow

variable {D : Deploy}

/-! ## Requests -/

inductive ResolutionCall where
  | resolve (tenantId : TenantId)
  | update (requesting childId : TenantId) (cmd : UpdateTenantCommand)
  | updateCurrent (current : TenantId) (name : String) (selfRegistrationEnabled : Option Bool)
  | delete (requesting childId : TenantId)

inductive ResolutionAnswer where
  | resolved (r : DbResult (Option Tenant))
  | updated (r : Except TenantManagementError Tenant)
  | deleted (r : Except TenantManagementError Unit)

def ResolutionCall.program : ResolutionCall → Service ResolutionAnswer
  | resolve tenantId => return .resolved (← (IdpMvp.resolve tenantId).run)
  | update requesting childId cmd => return .updated (← (updateTenant requesting childId cmd).run)
  | updateCurrent current name selfRegistrationEnabled =>
    return .updated (← (updateCurrentSettings current name selfRegistrationEnabled).run)
  | delete requesting childId => return .deleted (← (deleteTenant requesting childId).run)

abbrev ResolutionPool := Program.Config Op.Res Input Store ResolutionAnswer

def resolutionPool (s : Store) (calls : Nat → ResolutionCall) : ResolutionPool :=
  Config.start s fun t => (calls t).program

/-! ## What is claimed of a resolution -/

/-- The resolution without the cache. -/
def Store.resolve (s : Store) (tenantId : TenantId) : Option Tenant :=
  (s.findTenant tenantId).filter (·.isActive)

/-- Every resolution that has returned answers what the store holds at one of its own calls, so whatever
was changed before it has started is in force. -/
def ResolvesCurrent (calls : Nat → ResolutionCall) (c : ResolutionPool) : Prop :=
  ∀ t tenantId a, calls t = .resolve tenantId → c.thread t = .ret (.resolved (.ok a)) →
    ∃ e ∈ c.trace, e.tid = t ∧ a = e.pre.resolve tenantId

/-- Time does not go back, and the next call does not change a tenant of which the cache holds a live
entry or a resolution is about to insert one. -/
structure ChangesUncached (D : Deploy) (c : ResolutionPool) (x : Nat × Input) : Prop where
  time : ∀ e ∈ c.trace, e.input.now ≤ x.2.now
  live : ∀ tenantId, (Config.step (exec D) c x).store.findTenant tenantId ≠ c.store.findTenant tenantId →
    ∀ entry ∈ c.store.tenantCache, entry.key = tenantId → entry.expiresAt ≤ x.2.now
  inserting : ∀ tenantId,
    (Config.step (exec D) c x).store.findTenant tenantId ≠ c.store.findTenant tenantId →
    ∀ t value k, c.thread t ≠ .call (.tenantCacheInsert tenantId value) k

lemma ChangesUncached.unchanged {c : ResolutionPool} {x : Nat × Input}
    (time : ∀ e ∈ c.trace, e.input.now ≤ x.2.now)
    (same : (Config.step (exec D) c x).store.tenants = c.store.tenants) : ChangesUncached D c x := by
  have rows : ∀ tenantId,
      (Config.step (exec D) c x).store.findTenant tenantId = c.store.findTenant tenantId := by
    intro tenantId
    rw [Store.findTenant, Store.findTenant, same]
  exact ⟨time, fun tenantId changed => absurd (rows tenantId) changed,
    fun tenantId changed => absurd (rows tenantId) changed⟩

/-! ## Where a resolution is -/

/-- The answer for a tenant that was found. -/
def answered (tenant : Tenant) : ResolutionAnswer :=
  .resolved (.ok (if tenant.isActive then some tenant else none))

/-- A resolution that is about to insert what it has read. -/
def insertingTenant (tenantId : TenantId) (tenant : Tenant) : Service ResolutionAnswer :=
  .call (.tenantCacheInsert tenantId tenant) fun _ => .ret (answered tenant)

/-- A resolution that has found nothing in the cache. -/
def readingTenant (tenantId : TenantId) : Service ResolutionAnswer :=
  .call (.db (.tenants (.findById tenantId))) fun
    | .error e => .ret (.resolved (.error e))
    | .ok none => .ret (.resolved (.ok none))
    | .ok (some tenant) => insertingTenant tenantId tenant

/-- A resolution that has not started. -/
def gettingTenant (tenantId : TenantId) : Service ResolutionAnswer :=
  .call (.tenantCacheGet tenantId) fun
    | some tenant => .ret (answered tenant)
    | none => readingTenant tenantId

lemma resolve_program (tenantId : TenantId) :
    (ResolutionCall.resolve tenantId).program = gettingTenant tenantId := by
  refine congrArg (Prog.call _) (funext ?_)
  rintro (_ | tenant)
  · refine congrArg (Prog.call _) (funext ?_)
    rintro (e | _ | tenant) <;> rfl
  · rfl

lemma answered_resolve {s : Store} {tenantId : TenantId} {tenant : Tenant}
    (row : s.findTenant tenantId = some tenant) :
    answered tenant = .resolved (.ok (s.resolve tenantId)) := by
  unfold answered Store.resolve
  rw [row]
  cases active : tenant.isActive <;> simp [Option.filter, active]

/-! ## The other requests -/

/-- Does not insert into the cache. -/
def Op.Uncaching : Op → Prop
  | .tenantCacheInsert _ _ => False
  | _ => True

lemma loadChild_uncaching (requesting childId : TenantId) :
    (loadChild requesting childId).run.Uses Op.Uncaching := by
  unfold loadChild
  exact uses_bind (uses_orLeave (uses_op trivial) _) fun row => uses_found _ _

lemma updateTenant_uncaching (requesting childId : TenantId) (cmd : UpdateTenantCommand) :
    (updateTenant requesting childId cmd).run.Uses Op.Uncaching := by
  unfold updateTenant
  refine uses_bind (loadChild_uncaching requesting childId) fun tenant => ?_
  refine uses_bind (uses_orThrow _ _) fun name => ?_
  exact uses_bind (uses_orLeave (uses_op trivial) _) fun _ => trivial

lemma updateCurrentSettings_uncaching (current : TenantId) (name : String) (enabled : Option Bool) :
    (updateCurrentSettings current name enabled).run.Uses Op.Uncaching := by
  unfold updateCurrentSettings getCurrent
  refine uses_bind ?_ fun tenant => ?_
  · exact uses_bind (uses_orLeave (uses_op trivial) _) fun row => uses_found _ _
  · refine uses_bind (uses_orThrow _ _) fun name => ?_
    exact uses_bind (uses_orLeave (uses_op trivial) _) fun _ => trivial

lemma deleteTenant_uncaching (requesting childId : TenantId) :
    (deleteTenant requesting childId).run.Uses Op.Uncaching := by
  unfold deleteTenant
  refine uses_bind (loadChild_uncaching requesting childId) fun tenant => ?_
  refine uses_bind (uses_ensure _ _) fun _ => ?_
  refine uses_bind (uses_orLeave (uses_op trivial) _) fun children => ?_
  refine uses_bind (uses_ensure _ _) fun _ => ?_
  exact uses_orLeave (uses_op trivial) _

lemma resolutionCall_uncaching {call : ResolutionCall} (other : ∀ tenantId, call ≠ .resolve tenantId) :
    call.program.Uses Op.Uncaching := by
  cases call with
  | resolve tenantId => exact absurd rfl (other tenantId)
  | update requesting childId cmd =>
    exact Uses.bind (updateTenant_uncaching requesting childId cmd) fun _ => trivial
  | updateCurrent current name enabled =>
    exact Uses.bind (updateCurrentSettings_uncaching current name enabled) fun _ => trivial
  | delete requesting childId =>
    exact Uses.bind (deleteTenant_uncaching requesting childId) fun _ => trivial

/-! ## The invariant -/

/-- An entry of the cache was there before, or is the one that the call inserts. -/
lemma tenantCache_mem {o : Op} {i : Input} {s : Store} {entry : TenantEntry}
    (mem : entry ∈ (exec D o i s).2.tenantCache) :
    entry ∈ s.tenantCache ∨
      ∃ key value, o = .tenantCacheInsert key value ∧ entry.key = key ∧ entry.value = value := by
  cases o with
  | tenantCacheInsert key value =>
    rcases List.mem_append.mp mem with mem | mem
    · exact .inl (List.mem_filter.mp mem).1
    · obtain rfl := List.mem_singleton.mp mem
      exact .inr ⟨key, value, rfl, rfl, rfl⟩
  | tenantCacheGet key =>
    left
    simp only [exec, Store.tenantCacheGet] at mem
    split at mem
    · exact mem
    · split_ifs at mem
      · exact mem
      · exact (List.mem_filter.mp mem).1
  | tenantCacheInvalidate key => exact .inl (List.mem_filter.mp mem).1
  | db q =>
    have w := exec_written (D := D) (.db q) i s
    generalize (exec D (.db q) i s).2 = s' at w mem
    cases w with
    | tenantCache entries outside => exact absurd rfl (outside q)
    | _ => exact .inl mem
  | checkAndRecord key now =>
    simp only [exec, Store.checkAndRecord] at mem
    split_ifs at mem <;> exact .inl mem
  | limit limiter key now =>
    simp only [exec, Store.limit] at mem
    split_ifs at mem <;> exact .inl mem
  | cacheGet key =>
    simp only [exec, Store.cacheGet] at mem
    split at mem
    · exact .inl mem
    · split_ifs at mem <;> exact .inl mem
  | sendMail address link =>
    simp only [exec] at mem
    split at mem <;> exact .inl mem
  | _ => exact .inl mem

/-- The entry is what the store holds, or it has expired. -/
def TenantEntry.Current (c : ResolutionPool) (entry : TenantEntry) : Prop :=
  c.store.findTenant entry.key = some entry.value ∨ ∃ e ∈ c.trace, entry.expiresAt ≤ e.input.now

/-- Where a resolution is, and what it has read. -/
def Resolving (c : ResolutionPool) (t : Nat) (tenantId : TenantId) : Prop :=
  c.thread t = gettingTenant tenantId ∨ c.thread t = readingTenant tenantId ∨
    (∃ tenant, c.thread t = insertingTenant tenantId tenant ∧ c.store.findTenant tenantId = some tenant ∧
      ∃ e ∈ c.trace, e.tid = t ∧ e.pre.findTenant tenantId = some tenant) ∨
    (∃ d, c.thread t = .ret (.resolved (.error d))) ∨
    ∃ a, c.thread t = .ret (.resolved (.ok a)) ∧ ∃ e ∈ c.trace, e.tid = t ∧ a = e.pre.resolve tenantId

structure TenantsCached (calls : Nat → ResolutionCall) (c : ResolutionPool) : Prop where
  entries : ∀ entry ∈ c.store.tenantCache, entry.Current c
  resolving : ∀ t tenantId, calls t = .resolve tenantId → Resolving c t tenantId
  others : ∀ t, (∀ tenantId, calls t ≠ .resolve tenantId) → (c.thread t).Uses Op.Uncaching

section
variable {calls : Nat → ResolutionCall} {c : ResolutionPool} {x : Nat × Input} {o : Op}
variable {k : Op.Res o → Service ResolutionAnswer}

/-- Only a resolution inserts, and what it inserts is what the store holds. -/
lemma TenantsCached.inserts {key : TenantId} {value : Tenant} (h : TenantsCached calls c)
    (e : c.thread x.1 = .call o k) (op : o = .tenantCacheInsert key value) :
    c.store.findTenant key = some value := by
  subst op
  by_cases resolution : ∃ tenantId, calls x.1 = .resolve tenantId
  · obtain ⟨tenantId, call⟩ := resolution
    rcases h.resolving x.1 tenantId call with stage | stage | ⟨tenant, stage, row, -⟩ | ⟨d, stage⟩ | ⟨a, stage, -⟩
    · cases stage.symm.trans e
    · cases stage.symm.trans e
    · cases stage.symm.trans e
      exact row
    · cases stage.symm.trans e
    · cases stage.symm.trans e
  · have uses := h.others x.1 fun tenantId call => resolution ⟨tenantId, call⟩
    rw [e] at uses
    exact uses.1.elim

lemma TenantsCached.entries_step (h : TenantsCached calls c) (g : ChangesUncached D c x)
    (e : c.thread x.1 = .call o k) :
    ∀ entry ∈ (Config.step (exec D) c x).store.tenantCache, entry.Current (Config.step (exec D) c x) := by
  intro entry mem
  have changes := g.live entry.key
  unfold TenantEntry.Current
  rw [Config.step_call e] at mem changes ⊢
  rcases tenantCache_mem mem with mem | ⟨key, value, op, rfl, rfl⟩
  · rcases h.entries entry mem with row | ⟨d, earlier, expired⟩
    · by_cases same : (exec D o x.2 c.store).2.findTenant entry.key = c.store.findTenant entry.key
      · exact .inl (same.trans row)
      · exact .inr ⟨_, List.mem_append_right _ (List.mem_singleton_self _), changes same entry mem rfl⟩
    · exact .inr ⟨d, List.mem_append_left _ earlier, expired⟩
  · left
    have row := h.inserts e op
    subst op
    exact row

end

section
variable {calls : Nat → ResolutionCall} {c : ResolutionPool} {x : Nat × Input} {o : Op}
variable {k : Op.Res o → Service ResolutionAnswer}

/-- A live entry that is found is what the store holds. -/
lemma TenantsCached.hit {tenantId : TenantId} {tenant : Tenant} (h : TenantsCached calls c)
    (time : ∀ e ∈ c.trace, e.input.now ≤ x.2.now)
    (got : (c.store.tenantCacheGet tenantId x.2.now).1 = some tenant) :
    c.store.findTenant tenantId = some tenant := by
  unfold Store.tenantCacheGet at got
  split at got
  · cases got
  · rename_i entry found
    split_ifs at got with live
    cases got
    have key : entry.key = tenantId := by simpa using List.find?_some found
    rcases h.entries entry (List.mem_of_find?_eq_some found) with row | ⟨e, earlier, expired⟩
    · rwa [key] at row
    · exact absurd live (Int.not_lt.mpr (Int.le_trans expired (time e earlier)))

lemma Resolving.step {t : Nat} {tenantId : TenantId} (w : Resolving c t tenantId)
    (h : TenantsCached calls c) (g : ChangesUncached D c x) (e : c.thread x.1 = .call o k) :
    Resolving (Config.step (exec D) c x) t tenantId := by
  by_cases same : t = x.1
  · subst same
    have thread : ∀ {o' : Op} {k' : Op.Res o' → Service ResolutionAnswer},
        c.thread x.1 = .call o' k' →
        (Config.step (exec D) c x).thread x.1 = k' (exec D o' x.2 c.store).1 := by
      intro o' k' e'
      rw [Config.step_call e']
      exact Function.update_self ..
    have own : ∃ e' ∈ (Config.step (exec D) c x).trace, e'.tid = x.1 ∧ e'.pre = c.store := by
      rw [Config.step_call e]
      exact ⟨_, List.mem_append_right _ (List.mem_singleton_self _), rfl, rfl⟩
    obtain ⟨e', mem, tid, pre⟩ := own
    rcases w with starts | reads | ⟨tenant, inserts, row, read⟩ | ⟨d, failed⟩ | ⟨a, returned, -⟩
    · have now := thread starts
      cases got : (exec D (.tenantCacheGet tenantId) x.2 c.store).1 with
      | none =>
        rw [got] at now
        exact .inr (.inl now)
      | some tenant =>
        rw [got] at now
        have row := h.hit g.time got
        have now := now.trans (congrArg Prog.ret (answered_resolve row))
        exact .inr (.inr (.inr (.inr ⟨_, now, e', mem, tid, by rw [pre]⟩)))
    · have now := thread reads
      have store : (Config.step (exec D) c x).store = c.store := by
        rw [Config.step_call reads]
        cases f : x.2.fault <;> simp [exec, f, Stmt.exec, TenantStmt.exec]
      cases f : x.2.fault with
      | some d =>
        simp only [exec, f] at now
        exact .inr (.inr (.inr (.inl ⟨d, now⟩)))
      | none =>
        simp only [exec, f, Stmt.exec, TenantStmt.exec] at now
        cases row : c.store.findTenant tenantId with
        | none =>
          rw [row] at now
          refine .inr (.inr (.inr (.inr ⟨none, now, e', mem, tid, ?_⟩)))
          simp [pre, Store.resolve, row]
        | some tenant =>
          rw [row] at now
          exact .inr (.inr (.inl ⟨tenant, now, by rw [store, row], e', mem, tid, by rw [pre, row]⟩))
    · have now := thread inserts
      obtain ⟨d, earlier, tid', row'⟩ := read
      have now := now.trans (congrArg Prog.ret (answered_resolve row'))
      refine .inr (.inr (.inr (.inr ⟨_, now, d, ?_, tid', rfl⟩)))
      rw [Config.step_call e]
      exact List.mem_append_left _ earlier
    · cases failed.symm.trans e
    · cases returned.symm.trans e
  · have earlier : ∀ e' ∈ c.trace, e' ∈ (Config.step (exec D) c x).trace := by
      intro e' mem
      rw [Config.step_call e]
      exact List.mem_append_left _ mem
    unfold Resolving
    rw [Config.thread_step_ne same]
    rcases w with starts | reads | ⟨tenant, inserts, row, d, mem, read⟩ | failed | ⟨a, returned, d, mem, read⟩
    · exact .inl starts
    · exact .inr (.inl reads)
    · refine .inr (.inr (.inl ⟨tenant, inserts, ?_, d, earlier d mem, read⟩))
      by_contra changed
      exact g.inserting tenantId (fun same => changed (same.trans row)) t tenant _ inserts
    · exact .inr (.inr (.inr (.inl failed)))
    · exact .inr (.inr (.inr (.inr ⟨a, returned, d, earlier d mem, read⟩)))

lemma TenantsCached.step (h : TenantsCached calls c) (g : ChangesUncached D c x) :
    TenantsCached calls (Config.step (exec D) c x) := by
  cases e : c.thread x.1 with
  | ret a => rwa [Config.step_ret e]
  | call o k =>
    refine ⟨h.entries_step g e, fun t tenantId call => (h.resolving t tenantId call).step h g e, ?_⟩
    intro t other
    have uses := h.others t other
    by_cases same : t = x.1
    · subst same
      rw [e] at uses
      rw [Config.step_call e]
      simpa using uses.2 _
    · rwa [Config.thread_step_ne same]

end

/-- In every interleaving of resolutions and changes of tenants in which a tenant changes only while the
cache holds no live entry of it and no resolution is about to insert one, the cached resolution answers
what the resolution without cache would answer. -/
theorem resolves_current (D : Deploy) (s₀ : Store)
    (start : ∀ entry ∈ s₀.tenantCache, s₀.findTenant entry.key = some entry.value)
    (calls : Nat → ResolutionCall) (sched : List (Nat × Input))
    (uncached : Config.Admissible (exec D) (ChangesUncached D) (resolutionPool s₀ calls) sched) :
    ResolvesCurrent calls (Config.exec (exec D) (resolutionPool s₀ calls) sched) := by
  have cached : TenantsCached calls (Config.exec (exec D) (resolutionPool s₀ calls) sched) := by
    refine Config.exec_invariant uncached ⟨?_, ?_, ?_⟩ fun c x h g => h.step g
    · exact fun entry mem => .inl (start entry mem)
    · intro t tenantId call
      exact .inl ((congrArg ResolutionCall.program call).trans (resolve_program tenantId))
    · exact fun t other => resolutionCall_uncaching other
  intro t tenantId a call returned
  rcases cached.resolving t tenantId call with stage | stage | ⟨_, stage, -⟩ | ⟨d, stage⟩ | ⟨a', stage, e, mem, read⟩
  · cases stage.symm.trans returned
  · cases stage.symm.trans returned
  · cases stage.symm.trans returned
  · cases stage.symm.trans returned
  · cases stage.symm.trans returned
    exact ⟨e, mem, read⟩

namespace Sample

/-- The root tenant and a tenant under it. -/
def tenantStore : Store where
  tenants := [⟨tenantA, none, "root", .active, false⟩, ⟨tenantB, some tenantA, "child", .active, false⟩]

/-- Requests 0 and 2 resolve the second tenant, request 1 disables it. -/
def resolutionCalls : Nat → ResolutionCall
  | 1 => .update tenantA tenantB ⟨none, some .disabled⟩
  | _ => .resolve tenantB

/-- One request after another. -/
def disabledInBetween : List (Nat × Input) :=
  [(0, input 0), (0, input 0), (0, input 0), (1, input 0), (1, input 0), (2, input 0)]

end Sample

open Sample in
set_option maxRecDepth 4000 in
/-- A tenant that was disabled is still resolved. -/
theorem disabled_tenant_resolved :
    let c := Config.exec (exec deploy) (resolutionPool tenantStore resolutionCalls) disabledInBetween
    c.store.resolve tenantB = none ∧
      c.thread 1 = .ret (.updated (.ok ⟨tenantB, some tenantA, "child", .disabled, false⟩)) ∧
      c.thread 2 = .ret (.resolved (.ok (some ⟨tenantB, some tenantA, "child", .active, false⟩))) ∧
      ¬ ResolvesCurrent resolutionCalls c := by
  intro c
  have returned : c.thread 2 =
      .ret (.resolved (.ok (some ⟨tenantB, some tenantA, "child", .active, false⟩))) := rfl
  refine ⟨by decide +kernel, rfl, returned, fun current => ?_⟩
  obtain ⟨e, mem, tid, answer⟩ := current 2 tenantB _ rfl returned
  have refused : ∀ e ∈ c.trace, e.tid = 2 → e.pre.resolve tenantB = none := by decide +kernel
  rw [refused e mem tid] at answer
  cases answer

open Sample in
set_option maxRecDepth 4000 in
/-- A tenant that was disabled before anyone resolved it is refused. -/
theorem resolves_current_sample :
    let c := Config.exec (exec deploy) (resolutionPool tenantStore resolutionCalls)
      [(1, input 0), (1, input 0), (2, input 0), (2, input 0), (2, input 0)]
    c.thread 2 = .ret (.resolved (.ok none)) ∧ ResolvesCurrent resolutionCalls c := by
  refine ⟨rfl, resolves_current deploy tenantStore (by simp [tenantStore]) resolutionCalls _ ?_⟩
  refine ⟨.unchanged (by decide +kernel) rfl, ⟨by decide +kernel, (fun _ _ _ mem => by cases mem), ?_⟩,
    .unchanged (by decide +kernel) rfl, .unchanged (by decide +kernel) rfl,
    .unchanged (by decide +kernel) rfl, trivial⟩
  rintro tenantId - (_ | _ | t) value k stage
  · cases stage
  · cases stage
  · cases stage

end IdpMvp
