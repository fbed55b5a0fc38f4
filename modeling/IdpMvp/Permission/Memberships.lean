import IdpMvp.Sample
import IdpMvp.Service.Invitation
import IdpMvp.Store.Effects
import IdpMvp.Store.Monitors

/-!
# Permissions of members

A grant checks the membership in one statement and inserts in another, and the removal of a guest
deletes the permissions and then the membership. The invariant that granted permissions belong to
members holds in every interleaving in which neither of the two falls into the gap of the other, and
a phase for each request says where it is.
-/

namespace IdpMvp

open Program Program.Prog Program.Flow IdpMvp.Prog

variable {D : Deploy}

/-! ## Requests -/

inductive MembershipCall where
  | grant (tenantId : TenantId) (target : Uuid) (code : String) (actor : Uuid)
  | createInvitation (host : TenantId) (target invitedBy : Uuid)
  | accept (tenantId : TenantId) (sessionUserId : Uuid) (token : String)
  | revokeMembership (host : TenantId) (target : Uuid)

/-- A flow without its answer, which no result here is about. -/
def unanswered {ε α : Type} (p : ServiceFlow ε α) : Service Unit := do
  let _ ← p.run
  return ()

def MembershipCall.program (D : Deploy) : MembershipCall → Service Unit
  | grant tenantId target code actor =>
    unanswered (grantPermission userPermissions tenantId target code actor)
  | createInvitation host target invitedBy => unanswered (IdpMvp.createInvitation D host target invitedBy)
  | accept tenantId sessionUserId token => unanswered (acceptInvitation D tenantId sessionUserId token)
  | revokeMembership host target => unanswered (IdpMvp.revokeMembership userPermissions host target)

/-! ## Phases -/

/-- Where a request is: a grant between its check and its `INSERT`, or a removal between its two
deletions. -/
inductive MembershipPhase where
  | idle
  | checked (tenantId : TenantId) (userId : Uuid)
  | cleared (tenantId : TenantId) (userId : Uuid)
  | done
  deriving DecidableEq, Repr

namespace MembershipPhase

/-- The phase after a successful membership check: the check of the answer, after the `INSERT`, opens
no new gap. -/
def check (φ : MembershipPhase) (tenantId : TenantId) (userId : Uuid) : MembershipPhase :=
  match φ with
  | idle => checked tenantId userId
  | φ => φ

def next (φ : MembershipPhase) : (o : Op) → Op.Res o → MembershipPhase
  | .db (.memberships (.isActiveMember tenantId userId)), .ok true => φ.check tenantId userId
  | .db (.permissions (.grant _ _ _)), _ => done
  | .db (.permissions (.revokeAllForUserInTenant tenantId userId)), .ok _ => cleared tenantId userId
  | .db (.memberships (.delete _ _)), _ => done
  | _, _ => φ

def Allows (φ : MembershipPhase) : Op → Prop
  | .db (.permissions (.grant tenantId userId _)) => φ = checked tenantId userId
  | .db (.memberships (.delete tenantId userId)) => φ = cleared tenantId userId
  | .db (.permissions _) | .db (.memberships _) | .db (.users (.findById _)) => True
  | .db _ => False
  | _ => True

end MembershipPhase

def membershipMonitor : Monitor Op.Res MembershipPhase where
  init := .idle
  ok := MembershipPhase.Allows
  next := MembershipPhase.next

/-! ## Requests keep to the monitor -/

/-- A flow that keeps to the monitor does so without its answer. -/
lemma unanswered_guarded {ε α : Type} {p : ServiceFlow ε α}
    (w : alwaysE membershipMonitor.oracle p (some .idle) (fun _ ψ => ψ.isSome = true)
      (fun _ ψ => ψ.isSome = true)) :
    (unanswered p).Guarded membershipMonitor .idle (fun _ _ => True) := by
  refine guarded_of_always ?_
  rw [unanswered, always_bind]
  refine always_mono w ?_
  rintro (e | a) ψ h
  all_goals
    obtain ⟨ψ, rfl⟩ := Option.isSome_iff_exists.mp h
    exact ⟨ψ, rfl, trivial⟩

/-- The operations the monitor takes no notice of. -/
def Op.BesideMembership : Op → Prop
  | .db (.permissions (.hasPermission _ _ _)) | .db (.permissions (.listCodesForUser _ _))
  | .db (.users (.findById _)) => True
  | .cacheGet _ | .cacheInsert _ _ | .cacheInvalidate _ => True
  | _ => False

lemma membershipMonitor_beside (φ : MembershipPhase) (o : Op) (h : Op.BesideMembership o) :
    membershipMonitor.ok φ o ∧ ∀ r, membershipMonitor.next φ o r = φ := by
  unfold Op.BesideMembership at h
  split at h
  all_goals first | exact ⟨trivial, fun _ => rfl⟩ | cases h

section
variable {tenantId : TenantId} {target actor : Uuid} {code : String} {φ : MembershipPhase}

lemma ensureUserInTenant_guarded :
    alwaysE membershipMonitor.oracle (ensureUserInTenant tenantId target) (some φ)
      (fun _ ψ => ψ = some (φ.check tenantId target)) (fun _ ψ => ψ.isSome = true) := by
  unfold ensureUserInTenant
  refine guard_db_step trivial (fun _ => rfl) fun row => ?_
  refine ensure_step (fun _ => rfl) fun _ => ?_
  refine guard_db_step trivial (fun _ => rfl) fun active => ?_
  rw [alwaysE_ensure]
  refine ⟨?_, fun _ => rfl⟩
  rintro rfl
  rfl

lemma hasPermission_beside (userId : Uuid) :
    (userPermissions.hasPermission tenantId userId code).Uses Op.BesideMembership := by
  refine ⟨trivial, ?_⟩
  rintro (_ | hit)
  · refine ⟨trivial, ?_⟩
    rintro (e | held)
    · trivial
    · exact ⟨trivial, fun _ => trivial⟩
  · trivial

lemma ensureSystemAdminChangeAllowed_beside {c : PermissionCode} :
    (ensureSystemAdminChangeAllowed userPermissions tenantId c actor).run.Uses
      Op.BesideMembership := by
  unfold ensureSystemAdminChangeAllowed onlyIf
  split
  · exact uses_bind (uses_orLeave (hasPermission_beside actor) _) fun _ => uses_ensure _ _
  · trivial

/-- An `INSERT` is made in the phase its check has led to, and closes the gap. -/
lemma grant_guarded :
    alwaysE membershipMonitor.oracle
      (grantPermission userPermissions tenantId target code actor) (some .idle)
      (fun _ ψ => ψ.isSome = true) (fun _ ψ => ψ.isSome = true) := by
  unfold grantPermission changePermission
  refine orThrow_step (fun _ _ => rfl) fun c _ => ?_
  refine alwaysE_bind_of ensureUserInTenant_guarded (fun _ _ h => h) ?_
  rintro _ _ rfl
  refine aside_step ensureSystemAdminChangeAllowed_beside (membershipMonitor_beside _)
    (fun _ => rfl) fun _ => ?_
  have inserts : always membershipMonitor.oracle (userPermissions.grant tenantId target c.text)
      (some (.checked tenantId target)) (fun _ ψ => ψ = some .done) := by
    intro answer
    rw [Monitor.oracle_some rfl]
    cases answer (.db (.permissions (.grant tenantId target c.text))) with
    | error e => rfl
    | ok _ =>
      intro answer
      rw [Monitor.oracle_some trivial]
      rfl
  rw [alwaysE_bind, alwaysE_orLeave]
  refine always_mono inserts ?_
  rintro r _ rfl
  refine ⟨fun _ _ => ?_, fun _ _ => rfl⟩
  refine alwaysE_bind_of ensureUserInTenant_guarded (fun _ _ h => h) ?_
  rintro _ _ rfl
  refine (alwaysE_orLeave _ _).mpr fun answer => ?_
  rw [Monitor.oracle_some trivial]
  exact ⟨fun _ _ => rfl, fun _ _ => rfl⟩

lemma createInvitation_guarded {host : TenantId} {invitedBy : Uuid} :
    alwaysE membershipMonitor.oracle (createInvitation D host target invitedBy) (some .idle)
      (fun _ ψ => ψ.isSome = true) (fun _ ψ => ψ.isSome = true) := by
  unfold createInvitation
  refine guard_db_step trivial (fun _ => rfl) fun row => ?_
  refine found_step (fun _ => rfl) fun invitee _ => ?_
  refine guard_db_step trivial (fun _ => rfl) fun membership => ?_
  refine ensure_step (fun _ => rfl) fun _ => ?_
  refine guard_step trivial fun now => ?_
  refine guard_step trivial fun token => ?_
  exact guard_db_step trivial (fun _ => rfl) fun _ => rfl

lemma acceptInvitation_guarded {token : String} :
    alwaysE membershipMonitor.oracle (acceptInvitation D tenantId target token) (some .idle)
      (fun _ ψ => ψ.isSome = true) (fun _ ψ => ψ.isSome = true) := by
  unfold acceptInvitation
  refine ensure_step (fun _ => rfl) fun _ => ?_
  refine guard_db_step trivial (fun _ => rfl) fun row => ?_
  refine found_step (fun _ => rfl) fun membership _ => ?_
  refine ensure_step (fun _ => rfl) fun _ => ?_
  refine ensure_step (fun _ => rfl) fun _ => ?_
  refine guard_step trivial fun now => ?_
  refine ensure_step (fun _ => rfl) fun _ => ?_
  refine (alwaysE_orLeave _ _).mpr fun answer => ?_
  rw [Monitor.oracle_some trivial]
  exact ⟨fun _ _ => rfl, fun _ _ => rfl⟩

lemma invalidateCodes_beside (codes : List String) :
    (invalidateCodes tenantId target codes).Uses Op.BesideMembership := by
  induction codes with
  | nil => trivial
  | cons code codes ih => exact ⟨trivial, fun _ => ih⟩

/-- A removal deletes the membership in the phase the deletion of the permissions has led to. -/
lemma revokeMembership_guarded {host : TenantId} :
    alwaysE membershipMonitor.oracle (revokeMembership userPermissions host target) (some .idle)
      (fun _ ψ => ψ.isSome = true) (fun _ ψ => ψ.isSome = true) := by
  unfold revokeMembership
  refine guard_db_step trivial (fun _ => rfl) fun row => ?_
  refine found_step (fun _ => rfl) fun membership _ => ?_
  refine ensure_step (fun _ => rfl) fun _ => ?_
  have clears : always membershipMonitor.oracle
      (userPermissions.revokeAllForUserInTenant host target) (some .idle)
      (fun r ψ => ψ.isSome = true ∧ ∀ codes, r = .ok codes → ψ = some (.cleared host target)) := by
    intro answer
    rw [Monitor.oracle_some trivial]
    cases h : answer (.db (.permissions (.revokeAllForUserInTenant host target))) with
    | error e => exact ⟨rfl, nofun⟩
    | ok codes =>
      refine (always_bind (invalidateCodes host target codes) _).mpr (always_mono
        ((invalidateCodes_beside codes).always
          (I := fun ψ => ψ = some (MembershipPhase.cleared host target)) ?_ rfl) ?_)
      · rintro o beside answer _ rfl
        obtain ⟨allowed, stays⟩ := membershipMonitor_beside (.cleared host target) o beside
        rw [Monitor.oracle_some allowed, stays]
      · rintro _ _ rfl
        exact ⟨rfl, fun _ _ => rfl⟩
  rw [alwaysE_bind, alwaysE_orLeave]
  refine always_mono clears fun r ψ h => ⟨fun codes e => ?_, fun _ _ => h.1⟩
  obtain rfl := h.2 codes e
  refine (alwaysE_orLeave _ _).mpr fun answer => ?_
  rw [Monitor.oracle_some rfl]
  exact ⟨fun _ _ => rfl, fun _ _ => rfl⟩

lemma MembershipCall.guarded (call : MembershipCall) :
    (call.program D).Guarded membershipMonitor .idle (fun _ _ => True) := by
  cases call with
  | grant => exact unanswered_guarded grant_guarded
  | createInvitation => exact unanswered_guarded createInvitation_guarded
  | accept => exact unanswered_guarded acceptInvitation_guarded
  | revokeMembership => exact unanswered_guarded revokeMembership_guarded

end

/-! ## What a call means for the gaps -/

section
variable {φ : MembershipPhase} {o : Op} {i : Input} {s : Store} {tenantId : TenantId} {userId : Uuid}

/-- A request is past its check because it was before, or because the user is a member. -/
lemma MembershipPhase.next_checked (h : φ.next o (exec D o i s).1 = .checked tenantId userId) :
    (φ = .checked tenantId userId ∧ o ≠ .db (.memberships (.delete tenantId userId))) ∨
      (s.isActiveMember tenantId userId = true ∧ o ≠ .db (.memberships (.delete tenantId userId))) := by
  cases o with
  | db q =>
    cases q with
    | memberships q =>
      cases q with
      | isActiveMember t u =>
        cases f : i.fault with
        | some e => exact .inl ⟨by simpa [exec, f, next] using h, by rintro ⟨⟩⟩
        | none =>
          cases member : s.isActiveMember t u with
          | false => exact .inl ⟨by simpa [exec, f, Stmt.exec, MembershipStmt.exec, member, next] using h, by rintro ⟨⟩⟩
          | true =>
            have moved : φ.check t u = .checked tenantId userId := by
              simpa [exec, f, Stmt.exec, MembershipStmt.exec, member, next] using h
            cases φ with
            | idle =>
              obtain ⟨rfl, rfl⟩ : t = tenantId ∧ u = userId := by simpa [check] using moved
              exact .inr ⟨member, by rintro ⟨⟩⟩
            | _ => exact .inl ⟨moved, by rintro ⟨⟩⟩
      | delete => cases h
      | _ => exact .inl ⟨h, by rintro ⟨⟩⟩
    | permissions q =>
      cases q with
      | grant => cases h
      | revokeAllForUserInTenant t u =>
        cases f : i.fault with
        | some e => exact .inl ⟨by simpa [exec, f, next] using h, by rintro ⟨⟩⟩
        | none => simp [exec, f, Stmt.exec, PermissionStmt.exec, next] at h
      | _ => exact .inl ⟨h, by rintro ⟨⟩⟩
    | _ => exact .inl ⟨h, by rintro ⟨⟩⟩
  | _ => exact .inl ⟨h, by rintro ⟨⟩⟩

/-- A request is past the deletion of the permissions because it was before, or because they are
gone. -/
lemma MembershipPhase.next_cleared (h : φ.next o (exec D o i s).1 = .cleared tenantId userId) :
    φ = .cleared tenantId userId ∨
      ∀ p ∈ (exec D o i s).2.permissions, p.ofUser tenantId userId = false := by
  cases o with
  | db q =>
    cases q with
    | memberships q =>
      cases q with
      | isActiveMember t u =>
        left
        cases f : i.fault with
        | some e => simpa [exec, f, next] using h
        | none =>
          cases member : s.isActiveMember t u with
          | false => simpa [exec, f, Stmt.exec, MembershipStmt.exec, member, next] using h
          | true =>
            have moved : φ.check t u = .cleared tenantId userId := by
              simpa [exec, f, Stmt.exec, MembershipStmt.exec, member, next] using h
            cases φ with
            | idle => cases moved
            | _ => exact moved
      | delete => cases h
      | _ => exact .inl h
    | permissions q =>
      cases q with
      | grant => cases h
      | revokeAllForUserInTenant t u =>
        cases f : i.fault with
        | some e => exact .inl (by simpa [exec, f, next] using h)
        | none =>
          obtain ⟨rfl, rfl⟩ : t = tenantId ∧ u = userId := by
            simpa [exec, f, Stmt.exec, PermissionStmt.exec, next] using h
          right
          intro p mem
          simp only [exec, f, Stmt.exec, PermissionStmt.exec] at mem
          simpa using (List.mem_filter.mp mem).2
      | _ => exact .inl h
    | _ => exact .inl h
  | _ => exact .inl h

end

/-! ## The invariant -/

/-- The thread has not returned. -/
def Running (c : Program.Config Op.Res Input Store Unit) (t : Nat) : Prop := ∃ o k, c.thread t = .call o k

/-- Some request that has not returned is in the phase. -/
def InGap (D : Deploy) (c : Program.Config Op.Res Input Store Unit) (φ : MembershipPhase) : Prop :=
  ∃ t, Running c t ∧ Config.phase (exec D) membershipMonitor t c.trace = φ

/-- Some request has executed the `INSERT` of the row. -/
def GrantedRow (c : Program.Config Op.Res Input Store Unit) (p : UserPermission) : Prop :=
  ∃ e ∈ c.trace, e.op = .db (.permissions (.grant p.tenantId p.userId p.permissionCode))

/-- No grant inserts between the two deletions of a removal of the same member, and no removal deletes
the membership between the check of a grant to the same member and its `INSERT`. -/
def Undisturbed (D : Deploy) (c : Program.Config Op.Res Input Store Unit) (x : Nat × Input) : Prop :=
  ∀ o k, c.thread x.1 = .call o k → ∀ tenantId userId,
    ((∃ code, o = .db (.permissions (.grant tenantId userId code))) →
      ¬ InGap D c (.cleared tenantId userId)) ∧
    (o = .db (.memberships (.delete tenantId userId)) → ¬ InGap D c (.checked tenantId userId))

/-- Granted rows are of members; so is what a grant is about to insert, and a member that is about to
be removed has no rows. -/
structure Attached (D : Deploy) (c : Program.Config Op.Res Input Store Unit) : Prop where
  rows : ∀ p ∈ c.store.permissions, GrantedRow c p →
    c.store.isActiveMember p.tenantId p.userId = true
  checked : ∀ tenantId userId, InGap D c (.checked tenantId userId) →
    c.store.isActiveMember tenantId userId = true
  cleared : ∀ tenantId userId, InGap D c (.cleared tenantId userId) →
    ∀ p ∈ c.store.permissions, p.ofUser tenantId userId = false

lemma Attached.step {c : Program.Config Op.Res Input Store Unit} {x : Nat × Input}
    (h : Attached D c) (guarded : Config.Guarded (exec D) membershipMonitor (fun _ _ _ => True) c)
    (undisturbed : Undisturbed D c x) : Attached D (Config.step (exec D) c x) := by
  cases e : c.thread x.1 with
  | ret a => rwa [Config.step_ret e]
  | call o k =>
    have running : Running c x.1 := ⟨o, k, e⟩
    have allowed := guarded.allowed e
    have store : (Config.step (exec D) c x).store = (exec D o x.2 c.store).2 := by
      rw [Config.step_call e]
    have stays : ∀ tenantId userId, c.store.isActiveMember tenantId userId = true →
        o ≠ .db (.memberships (.delete tenantId userId)) →
        (exec D o x.2 c.store).2.isActiveMember tenantId userId = true := by
      intro tenantId userId member other
      refine exec_isActiveMember member ?_
      unfold Op.removesMember
      split
      · rintro ⟨rfl, rfl⟩
        exact other rfl
      · exact fun _ => allowed
      · exact fun _ => allowed
      · exact id
    have unprovisioned : o.isProvision = false := by
      unfold Op.isProvision
      split
      · exact absurd allowed id
      · rfl
    -- A gap after the step was one before, of the same thread, or the step has opened it.
    have gap : ∀ φ, InGap D (Config.step (exec D) c x) φ →
        (∃ t, t ≠ x.1 ∧ Running c t ∧ Config.phase (exec D) membershipMonitor t c.trace = φ) ∨
          (Config.phase (exec D) membershipMonitor x.1 c.trace).next o (exec D o x.2 c.store).1 = φ := by
      rintro φ ⟨t, ⟨o', k', et⟩, rfl⟩
      by_cases same : t = x.1
      · subst same
        exact .inr (Config.phase_step_self (M := membershipMonitor) e).symm
      · rw [Config.thread_step_ne same] at et
        exact .inl ⟨t, same, ⟨o', k', et⟩, (Config.phase_step_ne same).symm⟩
    refine ⟨?_, ?_, ?_⟩
    · intro p mem granted
      rw [store] at mem ⊢
      -- The row is inserted now, or it was before and is still there.
      have now_or_before : o = .db (.permissions (.grant p.tenantId p.userId p.permissionCode)) ∨
          (p ∈ c.store.permissions ∧ GrantedRow c p) := by
        obtain ⟨e', mem', eq⟩ := granted
        rw [Config.step_call e, List.mem_append, List.mem_singleton] at mem'
        rcases mem' with before | rfl
        · rcases exec_permissions_mem unprovisioned mem with mem | ⟨tenantId, userId, code, rfl, rfl⟩
          · exact .inr ⟨mem, e', before, eq⟩
          · exact .inl rfl
        · exact .inl eq
      rcases now_or_before with rfl | ⟨was, granted⟩
      · exact stays _ _ (h.checked _ _ ⟨x.1, running, allowed⟩) nofun
      · refine stays _ _ (h.rows p was granted) ?_
        rintro rfl
        have none := h.cleared _ _ ⟨x.1, running, allowed⟩ p was
        simp [UserPermission.ofUser] at none
    · rw [store]
      intro tenantId userId inGap
      rcases gap _ inGap with ⟨t, -, runs, phase⟩ | moved
      · refine stays _ _ (h.checked _ _ ⟨t, runs, phase⟩) fun deletes => ?_
        exact (undisturbed o k e tenantId userId).2 deletes ⟨t, runs, phase⟩
      · rcases MembershipPhase.next_checked moved with ⟨phase, other⟩ | ⟨member, other⟩
        · exact stays _ _ (h.checked _ _ ⟨x.1, running, phase⟩) other
        · exact stays _ _ member other
    · rw [store]
      intro tenantId userId inGap p mem
      rcases gap _ inGap with ⟨t, -, runs, phase⟩ | moved
      · rcases exec_permissions_mem unprovisioned mem with mem | ⟨t', u', code, rfl, rfl⟩
        · exact h.cleared _ _ ⟨t, runs, phase⟩ p mem
        · by_contra own
          obtain ⟨rfl, rfl⟩ : u' = userId ∧ t' = tenantId := by
            simpa [UserPermission.ofUser] using own
          exact (undisturbed _ k e t' u').1 ⟨code, rfl⟩ ⟨t, runs, phase⟩
      · rcases MembershipPhase.next_cleared moved with phase | none
        · rcases exec_permissions_mem unprovisioned mem with mem | ⟨t', u', code, rfl, rfl⟩
          · exact h.cleared _ _ ⟨x.1, running, phase⟩ p mem
          · have checked : Config.phase (exec D) membershipMonitor x.1 c.trace = .checked t' u' := allowed
            rw [checked] at phase
            cases phase
        · exact none p mem

/-- In every interleaving of grants, invitations, their acceptance and removals of guests in which no
request falls into the gap of another, every row that was granted belongs to an active member, at
every moment. -/
theorem granted_permissions_attached (D : Deploy) (s₀ : Store) (calls : Nat → MembershipCall)
    (sched : List (Nat × Input))
    (undisturbed : Config.Admissible (exec D) (Undisturbed D)
      (Config.start s₀ fun t => (calls t).program D) sched) :
    let c := Config.exec (exec D) (Config.start s₀ fun t => (calls t).program D) sched
    ∀ p ∈ c.store.permissions, GrantedRow c p →
      c.store.isActiveMember p.tenantId p.userId = true := by
  intro c
  have idle : ∀ t, Config.phase (exec D) membershipMonitor t ([] : List (Program.Entry Op Input Store)) = .idle :=
    fun _ => rfl
  have inv : Config.Guarded (exec D) membershipMonitor (fun _ _ _ => True) c ∧ Attached D c := by
    refine Config.exec_invariant (I := fun c =>
      Config.Guarded (exec D) membershipMonitor (fun _ _ _ => True) c ∧ Attached D c)
      undisturbed ⟨fun t => (calls t).guarded, ?_⟩ ?_
    · refine ⟨?_, ?_, ?_⟩
      · rintro p - ⟨e, mem, -⟩
        cases mem
      · rintro tenantId userId ⟨t, -, phase⟩
        cases (idle t).symm.trans phase
      · rintro tenantId userId ⟨t, -, phase⟩
        cases (idle t).symm.trans phase
    · rintro c x ⟨guarded, attached⟩ fair
      exact ⟨guarded.step x, attached.step guarded fair⟩
  exact inv.2.rows

/-- While only request `t` runs, and the others have not begun or have returned, the pool is undisturbed. -/
lemma undisturbed_alone (t : Nat) {c : Program.Config Op.Res Input Store Unit}
    (guarded : Config.Guarded (exec D) membershipMonitor (fun _ _ _ => True) c)
    (others : ∀ t', t' ≠ t → Config.phase (exec D) membershipMonitor t' c.trace = .idle ∨ ¬ Running c t')
    (ins : List Input) : Config.Admissible (exec D) (Undisturbed D) c (ins.map (t, ·)) := by
  induction ins generalizing c with
  | nil => trivial
  | cons i ins ih =>
    refine ⟨?_, ih (guarded.step _) fun t' ne => ?_⟩
    · intro o k e tenantId userId
      have allowed := guarded.allowed e
      refine ⟨?_, ?_⟩
      · rintro ⟨code, rfl⟩ ⟨t', running, phase⟩
        by_cases et : t' = t
        · subst et
          cases allowed.symm.trans phase
        · obtain idle | returned := others t' et
          · cases idle.symm.trans phase
          · exact returned running
      · rintro rfl ⟨t', running, phase⟩
        by_cases et : t' = t
        · subst et
          cases allowed.symm.trans phase
        · obtain idle | returned := others t' et
          · cases idle.symm.trans phase
          · exact returned running
    · rw [Config.phase_step_ne ne, Running, Config.thread_step_ne ne]
      exact others t' ne

namespace Sample

/-- Alice is a guest of the second tenant. -/
def guestStore : Store :=
  { store with
    memberships := [.newHome tenantA aliceId, .newHome tenantA adminId,
      { TenantMembership.newHome tenantB aliceId with membershipType := .guest }]
    permissionCodes := [systemAdmin, tenantAdmin] }

/-- Request 0 makes her an administrator there, and the others remove her. -/
def guestCalls : Nat → MembershipCall
  | 0 => .grant tenantB aliceId tenantAdmin adminId
  | _ => .revokeMembership tenantB aliceId

def guestPool : Program.Config Op.Res Input Store Unit :=
  Config.start guestStore fun t => (guestCalls t).program deploy

/-- The grant, up to its `INSERT`; the removal; the rest of the grant. -/
def guestSchedule : List (Nat × Input) :=
  List.replicate 2 (0, input 0) ++ List.replicate 3 (1, input 0) ++ List.replicate 5 (0, input 0)

def guestRow : UserPermission := ⟨aliceId, tenantAdmin, tenantB⟩

end Sample

/-- A row whose `INSERT` the trace has at a position was granted. -/
lemma granted_at {c : Program.Config Op.Res Input Store Unit} {p : UserPermission} (n : Nat)
    (made : (c.trace[n]?).map (·.op) =
      some (.db (.permissions (.grant p.tenantId p.userId p.permissionCode)))) : GrantedRow c p := by
  obtain ⟨e, at_n, op⟩ := Option.map_eq_some_iff.mp made
  exact ⟨e, List.mem_of_getElem? at_n, op⟩

open Sample in
set_option maxRecDepth 4000 in
/-- A removal between the check and the `INSERT` of a grant leaves a row of someone who is no
member. -/
theorem grant_outlives_membership :
    let c := Config.exec (exec deploy) guestPool guestSchedule
    guestRow ∈ c.store.permissions ∧ GrantedRow c guestRow ∧
      c.store.isActiveMember guestRow.tenantId guestRow.userId = false :=
  ⟨by decide +kernel, granted_at 5 rfl, by decide +kernel⟩

namespace Sample

/-- The grant, and then the removal. -/
def grantTurn : List (Nat × Input) := (List.replicate 7 (input 0)).map (0, ·)

def removalTurn : List (Nat × Input) := (List.replicate 4 (input 0)).map (1, ·)

end Sample

open Sample in
set_option maxRecDepth 4000 in
/-- The row is there as long as Alice is a member, and goes with the membership. -/
theorem granted_permissions_attached_sample :
    let granted := Config.exec (exec deploy) guestPool grantTurn
    let removed := Config.exec (exec deploy) guestPool (grantTurn ++ removalTurn)
    (guestRow ∈ granted.store.permissions ∧
      granted.store.isActiveMember guestRow.tenantId guestRow.userId = true) ∧
    GrantedRow removed guestRow ∧
      removed.store.isActiveMember guestRow.tenantId guestRow.userId = false ∧
      guestRow ∉ removed.store.permissions := by
  intro granted removed
  have row : guestRow ∈ granted.store.permissions := by decide +kernel
  have left : removed.store.isActiveMember guestRow.tenantId guestRow.userId = false := by decide +kernel
  have start : Config.Guarded (exec deploy) membershipMonitor (fun _ _ _ => True) guestPool :=
    fun t => (guestCalls t).guarded
  have grants : Config.Admissible (exec deploy) (Undisturbed deploy) guestPool grantTurn :=
    undisturbed_alone 0 start (fun _ _ => .inl rfl) _
  have returned : ∀ t, t ≠ 1 → Config.phase (exec deploy) membershipMonitor t granted.trace = .idle ∨
      ¬ Running granted t := by
    intro t _
    by_cases zero : t = 0
    · subst zero
      refine .inr fun ⟨o, k, running⟩ => ?_
      cases (show granted.thread 0 = .ret () from rfl).symm.trans running
    · exact .inl (Config.phase_exec_ne zero (List.replicate 7 (input 0)))
  have removes : Config.Admissible (exec deploy) (Undisturbed deploy) granted removalTurn :=
    undisturbed_alone 1 (start.exec grantTurn) returned _
  have member := granted_permissions_attached deploy guestStore guestCalls grantTurn grants guestRow row
    (granted_at 2 rfl)
  refine ⟨⟨row, member⟩, granted_at 2 rfl, left, fun still => ?_⟩
  have attached := granted_permissions_attached deploy guestStore guestCalls (grantTurn ++ removalTurn)
    (grants.append removes) guestRow still (granted_at 2 rfl)
  exact Bool.false_ne_true (left.symm.trans attached)

end IdpMvp
