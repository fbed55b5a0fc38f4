import IdpMvp.Sample
import IdpMvp.Service.Permission
import IdpMvp.Store.Effects

/-!
# Granting and revoking the system permission

`ensure_system_admin_change_allowed` compares codes letter by letter, the store under its collation.
A change by an actor without `idp.system.admin` reaches the rows of that permission exactly when the
code is spelled in another way that the store takes for the same.
-/

namespace IdpMvp

open Program Program.Prog Program.Flow IdpMvp.Prog

variable {D : Deploy} {s s' : Store} {tenantId : TenantId} {target actor : Uuid} {code : String}

/-! ## Operations that leave the permissions alone -/

/-- The operation writes no row of `user_permissions`. -/
def KeepsPermissions (D : Deploy) (o : Op) : Prop :=
  ∀ i s, (exec D o i s).2.permissions = s.permissions

lemma keepsPermissions_read {q : Stmt} (reads : ∀ now s, (q.exec D now s).2 = s) :
    KeepsPermissions D (.db q) := by
  intro i s
  cases f : i.fault with
  | some e => simp only [exec, f]
  | none => simp only [exec, f, reads]

lemma keepsPermissions_cacheGet (key : PermissionKey) : KeepsPermissions D (.cacheGet key) := by
  intro i s
  simp only [exec, Store.cacheGet]
  split
  · rfl
  · split <;> rfl

lemma hasPermission_uses (userId : Uuid) :
    (userPermissions.hasPermission tenantId userId code).Uses (KeepsPermissions D) := by
  refine ⟨keepsPermissions_cacheGet _, ?_⟩
  rintro (_ | hit)
  · refine ⟨keepsPermissions_read fun _ _ => rfl, ?_⟩
    rintro (e | held)
    · trivial
    · exact ⟨fun _ _ => rfl, fun _ => trivial⟩
  · trivial

lemma ensureUserInTenant_uses :
    (ensureUserInTenant tenantId target).run.Uses (KeepsPermissions D) := by
  refine uses_bind (uses_orLeave (uses_op (keepsPermissions_read fun _ _ => rfl)) _) fun _ => ?_
  refine uses_bind (uses_ensure _ _) fun _ => ?_
  refine uses_bind (uses_orLeave (uses_op (keepsPermissions_read fun _ _ => rfl)) _) fun _ => ?_
  exact uses_ensure _ _

lemma listPermissions_uses :
    (listPermissions userPermissions tenantId target).run.Uses (KeepsPermissions D) :=
  uses_bind ensureUserInTenant_uses fun _ =>
    uses_orLeave (uses_op (keepsPermissions_read fun _ _ => rfl)) _

/-- A flow of such operations keeps the rows, however it ends. -/
lemma keeps_alwaysE {ε α : Type} {p : ServiceFlow ε α} (u : p.run.Uses (KeepsPermissions D)) :
    alwaysE (exec D) p s (fun _ s' => s'.permissions = s.permissions)
      (fun _ s' => s'.permissions = s.permissions) :=
  uses_alwaysE (I := fun s' => s'.permissions = s.permissions) u
    (fun _ keeps i s' inv => (keeps i s').trans inv) rfl

/-! ## What a change does -/

inductive PermissionChange where
  | grant
  | revoke
  deriving DecidableEq, Repr

/-- `PermissionManagementService::grant` and `revoke`. -/
def PermissionChange.perform (change : PermissionChange) :
    TenantId → Uuid → String → Uuid → ServiceFlow PermissionManagementError (List String) :=
  match change with
  | grant => grantPermission userPermissions
  | revoke => revokePermission userPermissions

/-- The statement behind it. -/
def PermissionChange.stmt (change : PermissionChange) (tenantId : TenantId) (target : Uuid)
    (code : String) : PermissionStmt :=
  match change with
  | grant => .grant tenantId target code
  | revoke => .revoke tenantId target code

/-- The rows after the statement. -/
def PermissionChange.rows (D : Deploy) (s : Store) (change : PermissionChange) (tenantId : TenantId)
    (target : Uuid) (code : String) : List UserPermission :=
  ((change.stmt tenantId target code).exec D s).2.permissions

/-- The repository's method behind it. -/
def PermissionChange.method (change : PermissionChange) :
    TenantId → Uuid → String → Service (DbResult Unit) :=
  match change with
  | grant => userPermissions.grant
  | revoke => userPermissions.revoke

lemma PermissionChange.perform_eq (change : PermissionChange) :
    change.perform = changePermission userPermissions change.method := by
  cases change <;> rfl

lemma invalidating_always {change : Service (DbResult Unit)} {key : PermissionKey}
    {Q : DbResult Unit → Store → Prop}
    (w : always (exec D) change s (fun r s' =>
      match r with
      | .error e => Q (.error e) s'
      | .ok () => Q (.ok ()) (s'.uncache key))) :
    always (exec D) (invalidating change key) s Q := by
  rw [invalidating, always_bind]
  refine always_mono w ?_
  rintro (e | _) s' q
  · exact q
  · exact fun _ => q

/-- The method either does nothing or executes its statement. -/
lemma PermissionChange.method_always (change : PermissionChange) :
    always (exec D) (change.method tenantId target code) s (fun _ s' =>
      s'.permissions = s.permissions ∨ s'.permissions = change.rows D s tenantId target code) := by
  cases change with
  | grant =>
    refine invalidating_always ((always_db _ _).mpr ⟨fun e => .inl rfl, fun now => ?_⟩)
    generalize e : (Stmt.permissions (.grant tenantId target code)).exec D now s = x
    have rows : x.2.permissions = PermissionChange.grant.rows D s tenantId target code := by
      rw [← e]; rfl
    rcases x with ⟨_ | _, s'⟩ <;> exact .inr rows
  | revoke =>
    exact invalidating_always ((always_db _ _).mpr ⟨fun e => .inl rfl, fun now => .inr rfl⟩)

/-- The actor does not hold `idp.system.admin`: the repository never answers that it does. -/
def LacksSystemAdmin (D : Deploy) (s : Store) (tenantId : TenantId) (actor : Uuid) : Prop :=
  always (exec D) (userPermissions.hasPermission tenantId actor systemAdmin) s
    (fun r _ => r ≠ .ok true)

/-- The request gets past its checks without the guard of `idp.system.admin`. -/
structure Unguarded (s : Store) (tenantId : TenantId) (target : Uuid) (code : String) : Prop where
  other : code ≠ systemAdmin
  parsed : ∃ c, PermissionCode.parse code = .ok c
  user : s.hasUser target = true
  member : s.isActiveMember tenantId target = true

lemma PermissionCode.parse_text {c : PermissionCode} (h : PermissionCode.parse code = .ok c) :
    c.text = code := by
  unfold PermissionCode.parse at h
  split at h
  · cases h
  · exact (Except.ok.inj h) ▸ rfl

lemma ensureUserInTenant_always :
    alwaysE (exec D) (ensureUserInTenant tenantId target) s
      (fun _ s' => s' = s ∧ s.hasUser target = true ∧ s.isActiveMember tenantId target = true)
      (fun _ s' => s' = s) := by
  unfold ensureUserInTenant
  refine read_step (fun _ => rfl) (fun _ => rfl) fun _ => ?_
  refine ensure_step (fun _ => rfl) fun user => ?_
  refine read_step (fun _ => rfl) (fun _ => rfl) fun _ => ?_
  rw [alwaysE_ensure]
  exact ⟨fun member => ⟨rfl, by simpa [Store.hasUser, List.find?_isSome] using user, member⟩,
    fun _ => rfl⟩

/-- A request of an actor without the permission changes the rows only unguarded, and then as its
statement does. -/
lemma PermissionChange.perform_always (change : PermissionChange)
    (lacks : LacksSystemAdmin D s tenantId actor) :
    alwaysE (exec D) (change.perform tenantId target code actor) s
      (fun _ s' => s'.permissions = s.permissions ∨ Unguarded s tenantId target code ∧
        s'.permissions = change.rows D s tenantId target code)
      (fun _ s' => s'.permissions = s.permissions ∨ Unguarded s tenantId target code ∧
        s'.permissions = change.rows D s tenantId target code) := by
  rw [change.perform_eq, changePermission]
  refine orThrow_step (fun _ _ => .inl rfl) fun c parsed => ?_
  refine alwaysE_bind_of ensureUserInTenant_always (fun _ _ e => .inl (e ▸ rfl)) ?_
  rintro _ s ⟨rfl, user, member⟩
  by_cases guarded : c.text = systemAdmin
  · -- The guard asks the repository, which does not answer that the actor holds the permission.
    have refused : alwaysE (exec D)
        (ensureSystemAdminChangeAllowed userPermissions tenantId c actor) s (fun _ _ => False)
        (fun _ s' => s'.permissions = s.permissions) := by
      rw [ensureSystemAdminChangeAllowed, onlyIf, if_pos (decide_eq_true guarded), alwaysE_bind,
        alwaysE_orLeave]
      refine always_mono (always_and.mpr ⟨lacks, (hasPermission_uses actor).always
        (I := fun s' => s'.permissions = s.permissions)
        (fun _ keeps i s' inv => (keeps i s').trans inv) rfl⟩) ?_
      rintro (e | held) s' ⟨no, kept⟩
      · exact ⟨by rintro _ ⟨⟩, fun _ _ => kept⟩
      · refine ⟨?_, by rintro _ ⟨⟩⟩
        rintro _ ⟨⟩
        rw [alwaysE_ensure]
        exact ⟨fun yes => no (by rw [yes]), fun _ => kept⟩
    exact alwaysE_bind_of refused (fun _ _ kept => .inl kept) fun _ _ f => f.elim
  · have passes : ensureSystemAdminChangeAllowed userPermissions tenantId c actor = pure () := by
      rw [ensureSystemAdminChangeAllowed, onlyIf, if_neg (by simpa using guarded)]
    have text := c.parse_text parsed
    rw [passes, alwaysE_bind, alwaysE_pure, text, alwaysE_bind, alwaysE_orLeave]
    have unguarded : Unguarded s tenantId target code := ⟨text ▸ guarded, ⟨c, parsed⟩, user, member⟩
    refine always_mono change.method_always fun r s' rows => ?_
    have rows := rows.imp_right fun h => (⟨unguarded, h⟩ : _ ∧ _)
    refine ⟨fun _ _ => ?_, fun _ _ => rows⟩
    refine alwaysE_mono (keeps_alwaysE listPermissions_uses) (fun _ _ kept => ?_) fun _ _ kept => ?_
    all_goals exact kept.symm ▸ rows

section
variable {ins : Nat → Input}

lemma ensureUserInTenant_wpE (quiet : ∀ n, (ins n).fault = none) (user : s.hasUser target = true)
    (member : s.isActiveMember tenantId target = true) :
    wpE (exec D) (ensureUserInTenant tenantId target) ins s (fun _ s' _ => s' = s)
      (fun _ _ _ => False) := by
  unfold ensureUserInTenant
  refine wpE_db_step (Q := fun _ s' => s' = s) (E := fun _ _ => False) (quiet 0) rfl ?_
  refine wpE_ensure_step (by simpa [Store.hasUser, List.find?_isSome] using user) ?_
  refine wpE_db_step (quiet 1) rfl ?_
  exact (wpE_ensure _ _).mpr ⟨fun _ => rfl, fun none => absurd (member.symm.trans none) nofun⟩

/-- The method executes its statement, if that does not fail. -/
lemma PermissionChange.method_wp (change : PermissionChange) (quiet : (ins 0).fault = none) :
    wp (exec D) (change.method tenantId target code) ins s
      (fun _ s' _ => s'.permissions = change.rows D s tenantId target code) := by
  cases change with
  | grant =>
    refine (wp_db _ _).mpr ⟨fun e fault => absurd (quiet.symm.trans fault) nofun, fun _ => ?_⟩
    generalize e : (Stmt.permissions (.grant tenantId target code)).exec D (ins 0).now s = x
    have rows : x.2.permissions = PermissionChange.grant.rows D s tenantId target code := by
      rw [← e]; rfl
    rcases x with ⟨_ | _, s'⟩ <;> exact rows
  | revoke =>
    exact (wp_db _ _).mpr ⟨fun e fault => absurd (quiet.symm.trans fault) nofun, fun _ => rfl⟩

/-- An unguarded request whose statements do not fail executes its statement. -/
lemma PermissionChange.perform_wpE (change : PermissionChange) (quiet : ∀ n, (ins n).fault = none)
    (unguarded : Unguarded s tenantId target code) :
    wpE (exec D) (change.perform tenantId target code actor) ins s
      (fun _ s' _ => s'.permissions = change.rows D s tenantId target code)
      (fun _ s' _ => s'.permissions = change.rows D s tenantId target code) := by
  obtain ⟨other, ⟨c, parsed⟩, user, member⟩ := unguarded
  have text := c.parse_text parsed
  have passes : ensureSystemAdminChangeAllowed userPermissions tenantId c actor = pure () := by
    rw [ensureSystemAdminChangeAllowed, onlyIf, if_neg (by simpa [text] using other)]
  rw [change.perform_eq, changePermission]
  refine wpE_orThrow_step
    (Q := fun _ (s' : Store) => s'.permissions = change.rows D s tenantId target code)
    (E := fun _ (s' : Store) => s'.permissions = change.rows D s tenantId target code) parsed ?_
  rw [wpE_bind]
  refine wpE_mono (ensureUserInTenant_wpE quiet user member) ?_ (fun _ _ _ f => f.elim)
  rintro _ s tr rfl
  rw [passes, wpE_bind, wpE_pure, text, wpE_bind, wpE_orLeave]
  refine wp_mono (change.method_wp (quiet _)) fun r s' tr' rows => ?_
  rcases r with e | _
  · exact rows
  · exact Prog.wp_mono (Prog.always.wp (alwaysE_mono (keeps_alwaysE listPermissions_uses)
      (fun _ _ kept => kept.trans rows) fun _ _ kept => kept.trans rows)) fun r _ _ h => by
        cases r <;> exact h

end

/-! ## The rows of the system permission -/

/-- The store takes the row for one of `idp.system.admin`. -/
def UserPermission.isSystemAdmin (D : Deploy) (p : UserPermission) : Bool :=
  D.coll p.permissionCode = D.coll systemAdmin

/-- No row of `idp.system.admin` has come or gone, and nobody's answer has changed. -/
structure SystemAdminKept (D : Deploy) (s s' : Store) : Prop where
  rows : s'.permissions.filter (·.isSystemAdmin D) = s.permissions.filter (·.isSystemAdmin D)
  answers : ∀ tenantId userId, s'.hasPermission D tenantId userId systemAdmin =
    s.hasPermission D tenantId userId systemAdmin

lemma hasPermission_systemAdmin (userId : Uuid) :
    s.hasPermission D tenantId userId systemAdmin =
      (s.permissions.filter (·.isSystemAdmin D)).any (·.ofUser tenantId userId) := by
  rw [Store.hasPermission, List.any_filter]
  congr 1
  funext p
  simp [UserPermission.hasKey, UserPermission.isSystemAdmin, Bool.and_comm]

lemma SystemAdminKept.of_rows
    (rows : s'.permissions.filter (·.isSystemAdmin D) = s.permissions.filter (·.isSystemAdmin D)) :
    SystemAdminKept D s s' :=
  ⟨rows, fun _ _ => by rw [hasPermission_systemAdmin, hasPermission_systemAdmin, rows]⟩

/-- The statement has rows to change. -/
def PermissionChange.Changes (D : Deploy) (s : Store) (tenantId : TenantId) (target : Uuid)
    (code : String) : PermissionChange → Prop
  | grant => tenantId = D.rootTenantId ∧ s.hasPermission D tenantId target code = false ∧
    ∃ c ∈ s.permissionCodes, D.coll c = D.coll code
  | revoke => s.hasPermission D tenantId target code = true

/-- A code the store tells from `idp.system.admin` reaches no row of it. -/
lemma PermissionChange.rows_other (change : PermissionChange)
    (other : D.coll code ≠ D.coll systemAdmin) :
    (change.rows D s tenantId target code).filter (·.isSystemAdmin D) =
      s.permissions.filter (·.isSystemAdmin D) := by
  cases change with
  | grant =>
    simp only [rows, stmt, PermissionStmt.exec]
    split_ifs
    · rfl
    · rfl
    · rfl
    · simp [UserPermission.isSystemAdmin, other]
  | revoke =>
    simp only [rows, stmt, PermissionStmt.exec, List.filter_filter]
    refine List.filter_congr fun p _ => ?_
    by_cases key : D.coll p.permissionCode = D.coll code
    · simp [UserPermission.isSystemAdmin, UserPermission.hasKey, key, other]
    · simp [UserPermission.isSystemAdmin, UserPermission.hasKey, key]

/-- For another spelling of `idp.system.admin`, a statement without rows to change keeps them. -/
lemma PermissionChange.rows_idle (change : PermissionChange) (user : s.hasUser target = true)
    (same : D.coll code = D.coll systemAdmin) (idle : ¬ change.Changes D s tenantId target code) :
    change.rows D s tenantId target code = s.permissions := by
  cases change with
  | grant =>
    simp only [rows, stmt, PermissionStmt.exec]
    split_ifs with scope held unknown
    · rfl
    · rfl
    · rfl
    · refine (idle ⟨?_, by simpa using held, ?_⟩).elim
      · simpa [outOfScope, same] using scope
      · simpa [user] using unknown
  | revoke =>
    have none : s.hasPermission D tenantId target code = false := by simpa [Changes] using idle
    simp only [rows, stmt, PermissionStmt.exec]
    refine List.filter_eq_self.mpr fun p mem => ?_
    simpa using List.any_eq_false.mp none p mem

/-- With rows to change, it changes rows of `idp.system.admin`. -/
lemma PermissionChange.rows_changed (change : PermissionChange) (user : s.hasUser target = true)
    (same : D.coll code = D.coll systemAdmin) (changes : change.Changes D s tenantId target code) :
    (change.rows D s tenantId target code).filter (·.isSystemAdmin D) ≠
      s.permissions.filter (·.isSystemAdmin D) := by
  cases change with
  | grant =>
    obtain ⟨rfl, held, c, mem, eq⟩ := changes
    have known : (s.permissionCodes.any fun c => decide (D.coll c = D.coll code)) = true :=
      List.any_eq_true.mpr ⟨c, mem, by simpa using eq⟩
    simp only [rows, stmt, PermissionStmt.exec, outOfScope, held, user, known]
    simp [UserPermission.isSystemAdmin, same]
  | revoke =>
    obtain ⟨p, mem, key⟩ := List.any_eq_true.mp changes
    intro eq
    have code_eq : D.coll p.permissionCode = D.coll code := by
      simpa [UserPermission.hasKey] using (show _ ∧ _ from by simpa [UserPermission.hasKey] using key).2
    have gone : p ∈ (PermissionChange.revoke.rows D s tenantId target code).filter
        (·.isSystemAdmin D) := by
      rw [eq]
      exact List.mem_filter.mpr ⟨mem, by simp [UserPermission.isSystemAdmin, code_eq, same]⟩
    have left := (List.mem_filter.mp gone).1
    simp only [rows, stmt, PermissionStmt.exec] at left
    simpa [key] using (List.mem_filter.mp left).2

/-! ## When the system permission is kept -/

/-- Whoever has neither the row nor an answer in the cache does not hold the permission. -/
lemma lacksSystemAdmin_of (uncached : s.cached ⟨tenantId, actor, systemAdmin⟩ = none)
    (none : s.hasPermission D tenantId actor systemAdmin = false) :
    LacksSystemAdmin D s tenantId actor := by
  intro i
  have miss : exec D (.cacheGet ⟨tenantId, actor, systemAdmin⟩) i s = (Option.none, s) := by
    simp only [exec, Store.cacheGet, uncached]
  rw [miss]
  refine (always_db _ _).mpr ⟨fun _ => by rintro ⟨⟩, fun _ _ => ?_⟩
  change (Except.ok (s.hasPermission D tenantId actor systemAdmin) : DbResult Bool) ≠ .ok true
  rw [none]
  rintro ⟨⟩

/-- A grant or a revocation by an actor without `idp.system.admin` keeps the rows and the answers of
that permission in every execution, exactly when its code is not another spelling of
`idp.system.admin` that passes the checks and has rows to change. -/
theorem systemAdmin_kept_iff (D : Deploy) (s : Store) (change : PermissionChange)
    (tenantId : TenantId) (target : Uuid) (code : String) (actor : Uuid)
    (lacks : LacksSystemAdmin D s tenantId actor) :
    (∀ ins, SystemAdminKept D s
      ((change.perform tenantId target code actor).run.run (exec D) ins s).2) ↔
    ¬ (D.coll code = D.coll systemAdmin ∧ Unguarded s tenantId target code ∧
      change.Changes D s tenantId target code) := by
  constructor
  · rintro kept ⟨same, unguarded, changes⟩
    have ran : wpE (exec D) (change.perform tenantId target code actor) (fun _ => Sample.input 0) s _ _ :=
      change.perform_wpE (fun _ => rfl) unguarded
    have rows := (kept fun _ => Sample.input 0).rows
    rw [wpE, wp_iff_run] at ran
    refine change.rows_changed unguarded.user same changes ?_
    rw [← rows]
    congr 1
    revert ran
    generalize (change.perform tenantId target code actor).run.run (exec D) _ s = x
    rcases x with ⟨_ | _, s'⟩ <;> exact fun ran => ran.symm
  · intro meets ins
    refine SystemAdminKept.of_rows ?_
    have rows : _ ∨ Unguarded s tenantId target code ∧ _ := (change.perform_always lacks).run_state ins
    rcases rows with rows | ⟨unguarded, rows⟩
    · rw [rows]
    · rw [rows]
      by_cases same : D.coll code = D.coll systemAdmin
      · rw [change.rows_idle unguarded.user same fun changes => meets ⟨same, unguarded, changes⟩]
      · exact change.rows_other same

namespace Sample

/-- Alice administers the root tenant, without `idp.system.admin`. -/
def adminStore : Store :=
  { store with
    memberships := [.newHome tenantA aliceId, .newHome tenantA adminId]
    permissionCodes := [systemAdmin, tenantAdmin]
    permissions := [⟨aliceId, tenantAdmin, tenantA⟩, ⟨adminId, systemAdmin, tenantA⟩] }

lemma alice_lacksSystemAdmin : LacksSystemAdmin deploy adminStore tenantA aliceId :=
  lacksSystemAdmin_of rfl (by decide)

/-- The store after she has asked for `code`. -/
def afterAsking (code : String) : Store :=
  ((PermissionChange.grant.perform tenantA aliceId code aliceId).run.run (exec deploy)
    (fun _ => input 0) adminStore).2

end Sample

open Sample in
/-- In capital letters, Alice grants herself the system permission. -/
theorem tenantAdmin_becomes_systemAdmin :
    LacksSystemAdmin deploy adminStore tenantA aliceId ∧
      adminStore.hasPermission deploy tenantA aliceId systemAdmin = false ∧
      (Sample.afterAsking "IDP.SYSTEM.ADMIN").hasPermission deploy tenantA aliceId systemAdmin = true :=
  ⟨alice_lacksSystemAdmin, by decide, by decide +kernel⟩

open Sample in
theorem systemAdmin_kept_iff_sample :
    SystemAdminKept deploy adminStore ((PermissionChange.grant.perform tenantA aliceId
      systemAdmin aliceId).run.run (exec deploy) (fun _ => input 0) adminStore).2 :=
  (systemAdmin_kept_iff deploy adminStore .grant tenantA aliceId systemAdmin aliceId
    alice_lacksSystemAdmin).mpr (fun h => h.2.1.other rfl) _

end IdpMvp
