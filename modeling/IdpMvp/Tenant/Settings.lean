import IdpMvp.Program.Overwrite
import IdpMvp.Sample
import IdpMvp.Service.TenantManagement
import IdpMvp.Store.Effects
import IdpMvp.Store.Monitors

/-!
# Overlapping updates of a tenant

`update_tenant`, by the administrator of the parent, and `update_current_settings`, by the tenant's own, read
the tenant and write its name, its status and its toggle. The status stays as the last update that means to set
it has set it (`tenant_status_lasts`), as long as no other update writes a status back that it has read before.
-/

namespace IdpMvp

open Program Program.Prog Program.Flow

/-! ## Calls -/

inductive TenantChange where
  | update (requesting : TenantId) (cmd : UpdateTenantCommand)
  | settings (name : String) (selfRegistrationEnabled : Option Bool)

def TenantChange.flow (tenantId : TenantId) : TenantChange → ServiceFlow TenantManagementError Tenant
  | update requesting cmd => updateTenant requesting tenantId cmd
  | settings name selfRegistrationEnabled => updateCurrentSettings tenantId name selfRegistrationEnabled

/-- The status a call sets. -/
def TenantChange.status : TenantChange → Option TenantStatus
  | update _ cmd => cmd.status
  | settings _ _ => none

abbrev TenantChangePool := Program.Config Op.Res Input Store (Except TenantManagementError Tenant)

/-- Updates of one tenant. -/
def tenantChangePool (tenantId : TenantId) (s : Store) (calls : Nat → TenantChange) : TenantChangePool :=
  Config.start s fun t => ((calls t).flow tenantId).run

/-! ## What is promised -/

/-- The status of a tenant that exists. -/
def Store.tenantStatus (s : Store) (tenantId : TenantId) : Option TenantStatus :=
  (s.findTenant tenantId).map (·.status)

/-- The entry has read the tenant. -/
def ReadsTenant (tenantId : TenantId) (e : Program.Entry Op Input Store) : Prop :=
  e.op = .db (.tenants (.findById tenantId)) ∧ e.input.fault = none

/-- The entry has written a tenant. -/
def WritesTenant (e : Program.Entry Op Input Store) : Prop :=
  ∃ row, e.op = .db (.tenants (.update row)) ∧ e.input.fault = none

section
variable (D : Deploy) (tenantId : TenantId) (calls : Nat → TenantChange)

/-- The entry has written a status that its call sets. -/
def SetsStatus (e : Program.Entry Op Input Store) : Prop := WritesTenant e ∧ (calls e.tid).status.isSome = true

/-- The status that an update has set stays until another one sets it, and no other call changes it. A call that
has returned without an error has written. -/
structure StatusLasts (c : TenantChangePool) : Prop where
  lasts : ∀ before e after, c.trace = before ++ e :: after → WritesTenant e →
    ∀ status, (calls e.tid).status = some status → (∀ d ∈ after, ¬ SetsStatus calls d) →
      c.store.tenantStatus tenantId = some status
  kept : ∀ e ∈ c.trace, ¬ SetsStatus calls e →
    (e.post (exec D)).tenantStatus tenantId = e.pre.tenantStatus tenantId
  returned : ∀ t a, c.thread t = .ret (.ok a) → ∃ e ∈ c.trace, e.tid = t ∧ WritesTenant e

/-- A call that writes a tenant and does not set the status has read it after the last one that does. -/
def WritesCurrent (c : TenantChangePool) (x : Nat × Input) : Prop :=
  ∀ row k, c.thread x.1 = .call (.db (.tenants (.update row))) k → x.2.fault = none →
    (calls x.1).status = none → ∀ before r after, c.trace = before ++ r :: after → r.tid = x.1 →
      ReadsTenant tenantId r → ∀ d ∈ after, ¬ SetsStatus calls d

end

/-! ## Where a call is -/

/-- Where the result of a call leads. -/
def tenantRewriteNext (tenantId : TenantId) (φ : Rewrite Tenant) (o : Op) (r : o.Res) : Rewrite Tenant :=
  match φ, o, r with
  | .idle, .db (.tenants (.findById t)), .ok (some row) => if t = tenantId then .read row else .idle
  | .read _, .db (.tenants (.update _)), .ok _ => .written
  | φ, _, _ => φ

/-- The calls of a phase: the tenant is written back with the status that was read, or that the call sets. -/
def tenantRewriteAllows (tenantId : TenantId) (call : TenantChange) (φ : Rewrite Tenant) : Op → Prop
  | .db (.tenants (.findById t)) => t = tenantId
  | .db (.tenants (.update row')) =>
    ∃ row, φ = .read row ∧ row'.id = row.id ∧ row'.status = call.status.getD row.status
  | .db _ => False
  | _ => True

def tenantRewriteMonitor (tenantId : TenantId) (call : TenantChange) : Monitor Op.Res (Rewrite Tenant) where
  init := .idle
  ok := tenantRewriteAllows tenantId call
  next := tenantRewriteNext tenantId

section
variable {D : Deploy} {tenantId : TenantId} {call : TenantChange}

/-- The tenant that a load returns is the one it has read. -/
lemma loadChild_guarded {requesting : TenantId} :
    alwaysE (tenantRewriteMonitor tenantId call).oracle (loadChild requesting tenantId)
      (some .idle) (fun row ψ => ψ = some (.read row)) (fun _ ψ => ψ.isSome = true) := by
  unfold loadChild
  refine guard_db_step rfl (fun _ => rfl) ?_
  rintro (_ | row)
  · rfl
  rw [alwaysE_found]
  refine ⟨fun tenant child => ?_, fun _ => ?_⟩
  · obtain ⟨same, -⟩ := Option.filter_eq_some_iff.mp child
    obtain rfl := Option.some.inj same
    exact congrArg some (if_pos rfl)
  · exact congrArg Option.isSome (congrArg some (if_pos rfl))

lemma getCurrent_guarded :
    alwaysE (tenantRewriteMonitor tenantId call).oracle (getCurrent tenantId)
      (some .idle) (fun row ψ => ψ = some (.read row)) (fun _ ψ => ψ.isSome = true) := by
  unfold getCurrent
  refine guard_db_step rfl (fun _ => rfl) ?_
  rintro (_ | row)
  · rfl
  · exact congrArg some (if_pos rfl)

/-- The last statement of a call. -/
lemma writeTenant_guarded {ε : Type} {row row' : Tenant} {f : DomainError → ε} (id : row'.id = row.id)
    (status : row'.status = call.status.getD row.status) :
    alwaysE (tenantRewriteMonitor tenantId call).oracle
      (orLeave (db (.tenants (.update row'))) f >>= fun _ => (pure row' : ServiceFlow ε Tenant))
      (some (.read row)) (fun _ ψ => ψ = some .written) (fun _ ψ => ψ.isSome = true) := by
  refine guard_db_step ⟨row, rfl, id, status⟩ (fun _ => rfl) fun _ => ?_
  rfl

/-- A call that returns without an error has written. -/
lemma TenantChange.guarded (call : TenantChange) :
    (call.flow tenantId).run.Guarded (tenantRewriteMonitor tenantId call) .idle
      (fun φ r => ∀ a, r = .ok a → φ = .written) := by
  refine guarded_of_alwaysE ?_
  suffices written : alwaysE (tenantRewriteMonitor tenantId call).oracle (call.flow tenantId) (some .idle)
      (fun _ ψ => ψ = some .written) (fun _ ψ => ψ.isSome = true) from
    alwaysE_mono written (fun _ _ done => ⟨_, done, rfl⟩) fun _ _ inside => inside
  cases call with
  | update requesting cmd =>
    refine alwaysE_bind_of loadChild_guarded (fun _ _ left => left) ?_
    rintro row _ rfl
    refine orThrow_step (fun _ _ => rfl) fun name _ => ?_
    exact writeTenant_guarded rfl rfl
  | settings name selfRegistrationEnabled =>
    refine alwaysE_bind_of getCurrent_guarded (fun _ _ left => left) ?_
    rintro row _ rfl
    refine orThrow_step (fun _ _ => rfl) fun name _ => ?_
    exact writeTenant_guarded rfl rfl

end

/-! ## What a call does -/

section
variable {D : Deploy} {tenantId : TenantId}

/-- An `UPDATE` that does not fail. -/
lemma exec_tenantUpdate {row : Tenant} {i : Input} {s : Store} (executed : i.fault = none) :
    (exec D (.db (.tenants (.update row))) i s).2.findTenant tenantId =
      (s.findTenant tenantId).map fun r =>
        if r.id = row.id then { r with
          name := row.name, status := row.status, selfRegistrationEnabled := row.selfRegistrationEnabled }
        else r := by
  rw [exec, executed]
  simp only [Stmt.exec, TenantStmt.exec, Store.findTenant, List.find?_map]
  congr 2
  funext r
  simp only [Function.comp]
  split_ifs <;> rfl

/-- Nothing else changes the tenant. -/
lemma exec_findTenant {φ : Rewrite Tenant} {call : TenantChange} {o : Op} {i : Input} {s : Store}
    (allowed : tenantRewriteAllows tenantId call φ o)
    (other : ∀ row, o = .db (.tenants (.update row)) → i.fault ≠ none) :
    (exec D o i s).2.findTenant tenantId = s.findTenant tenantId := by
  have same : (exec D o i s).2.tenants = s.tenants := by
    by_cases update : ∃ row, o = .db (.tenants (.update row))
    · obtain ⟨row, rfl⟩ := update
      obtain ⟨e, fault⟩ := Option.ne_none_iff_exists'.mp (other row rfl)
      rw [exec, fault]
    · have w := exec_written (D := D) o i s
      generalize (exec D o i s).2 = s' at w
      cases w with
      | tenants q eq rows h =>
        subst eq
        cases q with
        | findById => exact h.symm
        | update row => exact absurd ⟨row, rfl⟩ update
        | _ => exact allowed.elim
      | deleteTenant id eq =>
        subst eq
        exact allowed.elim
      | provision t m code eq =>
        subst eq
        exact allowed.elim
      | _ => rfl
  rw [Store.findTenant, same, Store.findTenant]

/-- A call that enters the phase of having read the tenant has done so. -/
lemma readsTenant_of_next {φ : Rewrite Tenant} {e : Program.Entry Op Input Store} {row : Tenant} (before : φ ≠ .read row)
    (after : tenantRewriteNext tenantId φ e.op (e.res (exec D)) = .read row) :
    ReadsTenant tenantId e ∧ (e.post (exec D)).findTenant tenantId = some row := by
  obtain ⟨⟨o, i, s⟩, t⟩ := e
  change tenantRewriteNext tenantId φ o (exec D o i s).1 = .read row at after
  change ReadsTenant tenantId ⟨⟨o, i, s⟩, t⟩ ∧ (exec D o i s).2.findTenant tenantId = some row
  generalize result : (exec D o i s).1 = r at after
  unfold tenantRewriteNext at after
  split at after
  · rename_i t' row'
    split_ifs at after with same
    obtain rfl := same
    obtain rfl := Rewrite.read.inj after
    cases fault : i.fault with
    | some e =>
      rw [exec, fault] at result
      cases result
    | none =>
      rw [exec, fault] at result ⊢
      exact ⟨⟨rfl, fault⟩, Except.ok.inj result⟩
  · cases after
  · exact absurd after before

/-- A call that enters the phase of having written has done so. -/
lemma writesTenant_of_next {φ : Rewrite Tenant} {e : Program.Entry Op Input Store} (before : φ ≠ .written)
    (after : tenantRewriteNext tenantId φ e.op (e.res (exec D)) = .written) : WritesTenant e := by
  obtain ⟨⟨o, i, s⟩, t⟩ := e
  change tenantRewriteNext tenantId φ o (exec D o i s).1 = .written at after
  generalize result : (exec D o i s).1 = r at after
  unfold tenantRewriteNext at after
  split at after
  · split_ifs at after
  · rename_i row row' v
    refine ⟨row', rfl, ?_⟩
    cases fault : i.fault with
    | some e =>
      rw [exec, fault] at result
      cases result
    | none => rfl
  · exact absurd after before

end

/-! ## The invariant -/

section
variable (D : Deploy) (tenantId : TenantId) (calls : Nat → TenantChange)

/-- The monitor of each call. -/
abbrev tenantRewriteMonitors (t : Nat) : Monitor Op.Res (Rewrite Tenant) := tenantRewriteMonitor tenantId (calls t)

structure StatusHistory (c : TenantChangePool) : Prop where
  guarded : Config.GuardedBy (exec D) (tenantRewriteMonitors tenantId calls)
    (fun _ φ r => ∀ a, r = .ok a → φ = .written) c
  /-- Only the calls that set the status have changed it. -/
  settled : Config.Settled (exec D) (Store.tenantStatus · tenantId) (SetsStatus calls) c
  /-- The tenant is the same row all the time. -/
  row : Config.Settled (exec D) (fun s => (s.findTenant tenantId).map (·.id)) (fun _ => False) c
  /-- A call leaves the status that it sets. -/
  sets : ∀ e ∈ c.trace, WritesTenant e → ∀ status, (calls e.tid).status = some status →
    (e.post (exec D)).tenantStatus tenantId = some status
  kept : ∀ e ∈ c.trace, ¬ SetsStatus calls e →
    (e.post (exec D)).tenantStatus tenantId = e.pre.tenantStatus tenantId

end

section
variable {D : Deploy} {tenantId : TenantId} {calls : Nat → TenantChange}
variable {c : TenantChangePool} {x : Nat × Input} {o : Op}
  {k : o.Res → Service (Except TenantManagementError Tenant)}

lemma StatusHistory.statusLasts (history : StatusHistory D tenantId calls c) :
    StatusLasts D tenantId calls c where
  lasts before e after split writes status own unset := by
    have made : e ∈ c.trace := split ▸ List.mem_append_right _ List.mem_cons_self
    rw [← history.sets e made writes status own]
    exact history.settled before e after split unset
  kept := history.kept
  returned t a returned := by
    have done := history.guarded.returned returned a rfl
    obtain ⟨earlier, e, after, split, own, before, entered⟩ :=
      Config.phase_entered (P := (· = Rewrite.written)) (fun bad => by cases bad) done
    exact ⟨e, split ▸ List.mem_append_right _ List.mem_cons_self, own, writesTenant_of_next before entered⟩

/-- The entry of the next call. -/
abbrev tenantEntry (c : TenantChangePool) (x : Nat × Input) (o : Op) : Program.Entry Op Input Store :=
  ⟨⟨o, x.2, c.store⟩, x.1⟩

/-- A call that writes has read the tenant, which is still the same row. -/
lemma StatusHistory.writer (history : StatusHistory D tenantId calls c) (e : c.thread x.1 = .call o k)
    (writes : WritesTenant (tenantEntry c x o)) :
    ∃ row row' r₀, o = .db (.tenants (.update row')) ∧ x.2.fault = none ∧
      row'.status = (calls x.1).status.getD row.status ∧ c.store.findTenant tenantId = some r₀ ∧
      r₀.id = row'.id ∧ ∃ before r after, c.trace = before ++ r :: after ∧ r.tid = x.1 ∧
        ReadsTenant tenantId r ∧ (r.post (exec D)).findTenant tenantId = some row := by
  obtain ⟨row', rfl, executed⟩ := writes
  obtain ⟨row, phase, id, status⟩ := history.guarded.allowed e
  obtain ⟨before, r, after, split, own, earlier, entered⟩ :=
    Config.phase_entered (P := (· = Rewrite.read row)) (fun bad => by cases bad) phase
  obtain ⟨reads, found⟩ := readsTenant_of_next earlier entered
  have same := history.row before r after split fun _ _ bad => bad
  simp only [found, Option.map_some, Option.map_eq_some_iff] at same
  obtain ⟨r₀, stored, id'⟩ := same
  exact ⟨row, row', r₀, rfl, executed, status, stored, id'.trans id.symm, before, r, after, split, own, reads, found⟩

/-- A call that does not set the status keeps it. -/
lemma StatusHistory.keeps (history : StatusHistory D tenantId calls c)
    (current : WritesCurrent tenantId calls c x) (e : c.thread x.1 = .call o k)
    (unset : ¬ SetsStatus calls (tenantEntry c x o)) :
    (exec D o x.2 c.store).2.tenantStatus tenantId = c.store.tenantStatus tenantId := by
  by_cases writes : WritesTenant (tenantEntry c x o)
  · obtain ⟨row, row', r₀, rfl, executed, status, stored, id, before, r, after, split, own, reads, found⟩ :=
      history.writer e writes
    have notSet : (calls x.1).status = none :=
      Option.not_isSome_iff_eq_none.mp fun sets => unset ⟨writes, sets⟩
    -- Nobody has set the status since the reading.
    have since := current row' k e executed notSet before r after split own reads
    have value := history.settled before r after split since
    simp only [Store.tenantStatus, found, stored, Option.map_some, Option.some.injEq] at value
    rw [Store.tenantStatus, exec_tenantUpdate executed, stored, Option.map_some, if_pos id, Option.map_some,
      Store.tenantStatus, stored, Option.map_some, status, notSet, Option.getD_none, value]
  · rw [Store.tenantStatus, Store.tenantStatus, exec_findTenant (history.guarded.allowed e) fun row eq executed =>
      writes ⟨row, eq, executed⟩]

/-- A call that sets the status leaves it. -/
lemma StatusHistory.leaves (history : StatusHistory D tenantId calls c) (e : c.thread x.1 = .call o k)
    (writes : WritesTenant (tenantEntry c x o)) {status : TenantStatus}
    (own : (calls x.1).status = some status) :
    (exec D o x.2 c.store).2.tenantStatus tenantId = some status := by
  obtain ⟨row, row', r₀, rfl, executed, written, stored, id, -⟩ := history.writer e writes
  rw [Store.tenantStatus, exec_tenantUpdate executed, stored, Option.map_some, if_pos id, Option.map_some, written,
    own, Option.getD_some]

lemma StatusHistory.step (history : StatusHistory D tenantId calls c)
    (current : WritesCurrent tenantId calls c x) :
    StatusHistory D tenantId calls (Config.step (exec D) c x) := by
  cases e : c.thread x.1 with
  | ret a =>
    rw [Config.step_ret e]
    exact history
  | call o k =>
    have trace' : (Config.step (exec D) c x).trace = c.trace ++ [tenantEntry c x o] := by rw [Config.step_call e]
    refine ⟨history.guarded.step x, ?_, ?_, ?_, ?_⟩
    · refine history.settled.step fun o' k' e' unset => ?_
      exact history.keeps current e' unset
    · refine history.row.step fun o' k' e' _ => ?_
      by_cases writes : WritesTenant (tenantEntry c x o')
      · obtain ⟨row', rfl, executed⟩ := writes
        simp only [exec_tenantUpdate executed, Option.map_map]
        congr 1
        funext r
        simp only [Function.comp]
        split_ifs <;> rfl
      · exact congrArg (Option.map _) (exec_findTenant (history.guarded.allowed e') fun row eq executed =>
          writes ⟨row, eq, executed⟩)
    · rw [trace']
      intro d mem writes status own
      rcases List.mem_append.mp mem with mem | mem
      · exact history.sets d mem writes status own
      · obtain rfl := List.mem_singleton.mp mem
        exact history.leaves e writes own
    · rw [trace']
      intro d mem unset
      rcases List.mem_append.mp mem with mem | mem
      · exact history.kept d mem unset
      · obtain rfl := List.mem_singleton.mp mem
        exact history.keeps current e unset

end

/-- In every interleaving of updates of a tenant in which no call writes back a status that was set since it has
read the tenant, the status stays as it was set. -/
theorem tenant_status_lasts {D : Deploy} {tenantId : TenantId} {s : Store} {calls : Nat → TenantChange}
    {sched : List (Nat × Input)}
    (current : Config.Admissible (exec D) (WritesCurrent tenantId calls) (tenantChangePool tenantId s calls) sched) :
    StatusLasts D tenantId calls (Config.exec (exec D) (tenantChangePool tenantId s calls) sched) := by
  refine StatusHistory.statusLasts
    (Config.exec_invariant (I := StatusHistory D tenantId calls) current ?_ ?_)
  · refine ⟨fun t => (calls t).guarded, Config.settled_start _ _, Config.settled_start _ _, ?_, ?_⟩
    all_goals
      intro e mem
      cases mem
  · intro c x history current
    exact history.step current

/-! ## A disabled tenant that is enabled again -/

namespace Sample

/-- Call 0 saves the settings of the second tenant, call 1 disables it. -/
def tenantChanges : Nat → TenantChange
  | 1 => .update tenantA ⟨none, some .disabled⟩
  | _ => .settings "renamed" none

def tenantChangeStart : TenantChangePool :=
  tenantChangePool tenantB
    { tenants := [⟨tenantA, none, "root", .active, false⟩, ⟨tenantB, some tenantA, "child", .active, false⟩] }
    tenantChanges

def isTenantUpdate : Op → Bool
  | .db (.tenants (.update _)) => true
  | _ => false

/-- The next call is of the one that sets the status, or nothing is written yet. -/
def setsOrFirst (c : TenantChangePool) (x : Nat × Input) : Bool :=
  (tenantChanges x.1).status.isSome ∨ ∀ e ∈ c.trace, isTenantUpdate e.op = false

lemma setsOrFirst_current (c : TenantChangePool) (x : Nat × Input) (passes : setsOrFirst c x = true) :
    WritesCurrent tenantB tenantChanges c x := by
  intro row k _ _ notSet before r after split _ _ d mem sets
  rcases of_decide_eq_true passes with own | unwritten
  · rw [notSet] at own
    cases own
  · obtain ⟨⟨row', op, -⟩, -⟩ := sets
    have first := unwritten d (split ▸ List.mem_append_right _ (List.mem_cons_of_mem _ mem))
    rw [op] at first
    cases first

end Sample

open Sample in
/-- The settings are saved with the status that was read before the tenant was disabled. -/
theorem settings_update_enables_tenant :
    let c := Config.exec (exec deploy) tenantChangeStart [(0, input 0), (1, input 0), (1, input 0), (0, input 0)]
    c.thread 1 = .ret (.ok ⟨tenantB, some tenantA, "child", .disabled, false⟩) ∧
      c.store.tenantStatus tenantB = some .active ∧ ¬ StatusLasts deploy tenantB tenantChanges c := by
  intro c
  refine ⟨rfl, by decide +kernel, fun lasts => ?_⟩
  have restored : ∃ e ∈ c.trace, e.tid = 0 ∧ e.pre.tenantStatus tenantB = some .disabled ∧
      (e.post (exec deploy)).tenantStatus tenantB = some .active := by decide +kernel
  obtain ⟨e, made, own, before, after⟩ := restored
  have unset : ¬ SetsStatus tenantChanges e := by
    rintro ⟨-, sets⟩
    rw [own] at sets
    cases sets
  have kept := lasts.kept e made unset
  rw [before, after] at kept
  cases kept

open Sample in
/-- The settings are saved before the tenant is disabled. -/
theorem tenant_status_lasts_sample :
    let c := Config.exec (exec deploy) tenantChangeStart [(0, input 0), (0, input 0), (1, input 0), (1, input 0)]
    c.thread 0 = .ret (.ok ⟨tenantB, some tenantA, "renamed", .active, false⟩) ∧
      c.thread 1 = .ret (.ok ⟨tenantB, some tenantA, "renamed", .disabled, false⟩) ∧
      StatusLasts deploy tenantB tenantChanges c := by
  intro c
  exact ⟨rfl, rfl, tenant_status_lasts (Config.admissible_of_passes setsOrFirst_current (by decide +kernel))⟩

end IdpMvp
