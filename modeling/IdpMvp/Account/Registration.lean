import IdpMvp.Program.History
import IdpMvp.Sample
import IdpMvp.Service.TenantManagement
import IdpMvp.Service.UserManagement
import IdpMvp.Store.Effects

/-!
# A user and its HOME membership

A user is stored in one statement and its HOME membership in the next. As long as the second does not
fail after the first, every user has its membership, and a request that fails has changed nothing
(`home_membership_iff`).
-/

namespace IdpMvp

open Program Program.Prog Program.Flow IdpMvp.Prog

variable {D : Deploy}

/-! ## Requests -/

inductive AccountCall where
  | register (tenantId : TenantId) (cmd : RegisterCommand) (ipAddress : Option String)
  | createUser (tenantId : TenantId) (cmd : CreateUserCommand)
  | createTenant (requesting : TenantId) (name : String) (actor : Uuid)

inductive AccountAnswer where
  | registered (r : Except RegisterError RegisteredUser)
  | created (r : Except UserManagementError CreatedUser)
  | provisioned (r : Except TenantManagementError Tenant)

/-- The request returns an error. -/
def AccountAnswer.failed : AccountAnswer → Bool
  | registered (.error _) | created (.error _) | provisioned (.error _) => true
  | _ => false

def AccountCall.program : AccountCall → Service AccountAnswer
  | register tenantId cmd ipAddress => return .registered (← (IdpMvp.register tenantId cmd ipAddress).run)
  | createUser tenantId cmd => return .created (← (IdpMvp.createUser tenantId cmd).run)
  | createTenant requesting name actor =>
    return .provisioned (← (IdpMvp.createTenant requesting name actor).run)

/-! ## What is claimed of a call -/

/-- The user has exactly one HOME membership, it is `ACTIVE` and in the tenant of the user. -/
def HomeMember (s : Store) (u : User) : Prop :=
  ∃ m, s.memberships.filter (fun m => m.userId = u.id && m.isHome) = [m] ∧ m.status = .active ∧
    m.tenantId = u.tenantId

/-- Every user has its HOME membership, and every membership references a user. -/
structure Housed (s : Store) : Prop where
  home : ∀ u ∈ s.users, HomeMember s u
  owned : ∀ m ∈ s.memberships, s.hasUser m.userId = true

/-- The users and the memberships are as they were. -/
def SameAccounts (s s' : Store) : Prop := s'.users = s.users ∧ s'.memberships = s.memberships

/-- After the call every user has its HOME membership, and if it returns an error it has changed
neither users nor memberships. -/
def KeepsTogether (D : Deploy) (call : AccountCall) (ins : Nat → Input) (s : Store) : Prop :=
  let r := call.program.run (exec D) ins s
  (∀ u ∈ r.2.users, HomeMember r.2 u) ∧ (r.1.failed = true → SameAccounts s r.2)

/-- The operation is the `INSERT` of a membership after that of its user. -/
def Op.createsMembership : Op → Bool
  | .db (.memberships (.create _)) => true
  | _ => false

/-- No such `INSERT` among the calls fails. -/
def MembershipStored (calls : List (Call Op Input Store)) : Prop :=
  ∀ e ∈ calls, e.op.createsMembership = true → e.input.fault = none

/-- What a call can do: every `INSERT` of a membership succeeds and it keeps users and memberships
together, or one fails and leaves a user without membership. -/
def Accounted (s : Store) (failed : Bool) (s' : Store) (calls : List (Call Op Input Store)) : Prop :=
  (MembershipStored calls ∧ Housed s' ∧ (failed = true → SameAccounts s s')) ∨
    (¬ MembershipStored calls ∧ failed = true ∧ ¬ ∀ u ∈ s'.users, HomeMember s' u)

/-! ## Preparing a user -/

section

-- These checks take strings apart, which is not to happen while a flow is followed.
attribute [local irreducible] validateEmail validateLength validatePasswordStrength validateName

/-- What the services call before they store anything. -/
def Op.Preparing : Op → Prop
  | .db (.users (.findByEmail _ _)) | .db (.users (.findByUsername _ _))
  | .db (.tenants (.findById _)) => True
  | .db _ => False
  | _ => True

lemma Op.Preparing.same {o : Op} (h : o.Preparing) (i : Input) (s : Store) :
    SameAccounts s (exec D o i s).2 := by
  have w := exec_written (D := D) o i s
  generalize (exec D o i s).2 = s' at w
  cases w with
  | users q eq rows changed =>
    subst eq
    cases q with
    | findByEmail | findByUsername => exact ⟨changed.symm, rfl⟩
    | _ => cases h
  | deleteTenant _ eq | provision _ _ _ eq | deleteUser _ eq | memberships _ eq =>
    subst eq
    cases h
  | _ => exact ⟨rfl, rfl⟩

lemma Op.Preparing.stores_nothing {o : Op} (h : o.Preparing) : o.createsMembership = false := by
  unfold Op.createsMembership
  split
  · cases h
  · rfl

lemma ensureUnique_preparing {ε : Type} (errors : CreationErrors ε) (tenantId : TenantId)
    (a : UserAttributes) : (ensureUnique errors tenantId a).run.Uses Op.Preparing := by
  unfold ensureUnique
  refine uses_bind (uses_orLeave (uses_op trivial) _) fun sameEmail => ?_
  refine uses_bind (uses_ensure _ _) fun _ => ?_
  refine uses_bind (uses_orLeave (uses_op trivial) _) fun sameName => ?_
  exact uses_ensure _ _

lemma newUser_preparing (tenantId : TenantId) (a : UserAttributes) (hash : String) (v m : Bool) :
    (newUser tenantId a hash v m).Uses Op.Preparing :=
  ⟨trivial, fun _ => ⟨trivial, fun _ => ⟨trivial, fun _ => trivial⟩⟩⟩

lemma prepareRegistration_preparing (tenantId : TenantId) (cmd : RegisterCommand)
    (ipAddress : Option String) :
    (prepareRegistration tenantId cmd ipAddress).run.Uses Op.Preparing := by
  unfold prepareRegistration
  refine uses_bind (uses_lift (uses_op trivial)) fun started => ?_
  refine uses_bind (uses_lift (uses_op trivial)) fun allowed => ?_
  refine uses_bind (uses_ensure _ _) fun _ => ?_
  refine uses_bind (uses_orLeave (uses_op trivial) _) fun tenant => ?_
  refine uses_bind (uses_ensure _ _) fun _ => ?_
  refine uses_bind (uses_orThrow _ _) fun _ => ?_
  refine uses_bind (uses_orThrow _ _) fun _ => ?_
  refine uses_bind (uses_orThrow _ _) fun _ => ?_
  refine uses_bind (ensureUnique_preparing _ _ _) fun _ => ?_
  refine uses_bind (uses_orLeave (uses_op trivial) _) fun hash => ?_
  exact uses_lift (newUser_preparing _ _ _ _ _)

lemma prepareUser_preparing (tenantId : TenantId) (cmd : CreateUserCommand) :
    (prepareUser tenantId cmd).run.Uses Op.Preparing := by
  unfold prepareUser
  refine uses_bind (uses_orThrow _ _) fun _ => ?_
  refine uses_bind (uses_orThrow _ _) fun _ => ?_
  refine uses_bind (ensureUnique_preparing _ _ _) fun _ => ?_
  refine uses_bind (uses_lift (uses_op trivial)) fun password => ?_
  refine uses_bind (uses_orLeave (uses_op trivial) _) fun hash => ?_
  exact uses_bind (uses_lift (newUser_preparing _ _ _ _ _)) fun _ => trivial

/-! ## Storing a user -/

section
variable {s : Store} {user : User}

/-- Nobody has a membership under the identifier of a new user. -/
lemma Housed.unknown (h : Housed s) (fresh : s.users.any (user.collides D) = false) :
    ∀ m ∈ s.memberships, m.userId ≠ user.id := by
  intro m mem same
  obtain ⟨u, row, id⟩ := List.any_eq_true.mp (h.owned m mem)
  rw [decide_eq_true_eq, same] at id
  have collides : s.users.any (user.collides D) = true :=
    List.any_eq_true.mpr ⟨u, row, by simp [User.collides, id]⟩
  rw [fresh] at collides
  cases collides

lemma Housed.unnamed (h : Housed s) (fresh : s.users.any (user.collides D) = false) :
    s.memberships.filter (fun m => m.userId = user.id && m.isHome) = [] := by
  rw [List.filter_eq_nil_iff]
  intro m mem
  simp [h.unknown fresh m mem]

/-- A user that is stored alone has no HOME membership. -/
lemma Housed.unhoused (h : Housed s) (fresh : s.users.any (user.collides D) = false) :
    ¬ ∀ u ∈ s.users ++ [user], HomeMember { s with users := s.users ++ [user] } u := by
  intro housed
  obtain ⟨m, only, -⟩ := housed user (by simp)
  rw [h.unnamed fresh] at only
  cases only

/-- With its membership it is housed. -/
lemma Housed.store (h : Housed s) (fresh : s.users.any (user.collides D) = false) :
    Housed { s with
      users := s.users ++ [user]
      memberships := s.memberships ++ [.newHome user.tenantId user.id] } := by
  refine ⟨fun u mem => ?_, fun m mem => ?_⟩
  · rcases List.mem_append.mp mem with mem | mem
    · have other : u.id ≠ user.id := by
        intro same
        have collides : s.users.any (user.collides D) = true :=
          List.any_eq_true.mpr ⟨u, mem, by simp [User.collides, same]⟩
        rw [fresh] at collides
        cases collides
      obtain ⟨m, only, rest⟩ := h.home u mem
      refine ⟨m, ?_, rest⟩
      simp only [List.filter_append, only]
      simp [TenantMembership.newHome, Ne.symm other]
    · obtain rfl := List.mem_singleton.mp mem
      refine ⟨.newHome u.tenantId u.id, ?_, rfl, rfl⟩
      simp only [List.filter_append, h.unnamed fresh]
      simp [TenantMembership.newHome, TenantMembership.isHome]
  · rcases List.mem_append.mp mem with mem | mem
    · have owner := h.owned m mem
      simp only [Store.hasUser, List.any_append, Bool.or_eq_true] at owner ⊢
      exact .inl owner
    · obtain rfl := List.mem_singleton.mp mem
      simp [Store.hasUser, TenantMembership.newHome]

lemma Housed.createMembership (h : Housed s) (fresh : s.users.any (user.collides D) = false) :
    MembershipStmt.exec { s with users := s.users ++ [user] } (.create (.newHome user.tenantId user.id)) =
      (.ok (), { s with
        users := s.users ++ [user]
        memberships := s.memberships ++ [.newHome user.tenantId user.id] }) := by
  have unknown : s.memberships.any (·.hasKey user.tenantId user.id) = false := by
    rw [List.any_eq_false]
    intro m mem
    simp [TenantMembership.hasKey, h.unknown fresh m mem]
  simp [MembershipStmt.exec, TenantMembership.newHome, unknown, Store.hasUser]

/-- The two statements that store a user. -/
lemma storeUser_accounted {ε : Type} (errors : CreationErrors ε) {ins : Nat → Input} (h : Housed s) :
    wpE (exec D) (storeUser errors user) ins s (fun _ s' calls => Accounted s false s' calls)
      (fun _ s' calls => Accounted s true s' calls) := by
  unfold storeUser
  rw [wpE_bind, wpE_orLeave, db, Prog.op, wp_db]
  refine ⟨fun e _ => ?_, fun quiet => ?_⟩
  · exact .inl ⟨by simp [MembershipStored, Op.createsMembership], h, fun _ => ⟨rfl, rfl⟩⟩
  · rw [wp_ret]
    cases fresh : s.users.any (user.collides D) with
    | true =>
      simp only [Stmt.exec, UserStmt.exec, fresh, if_true]
      exact .inl ⟨by simp [MembershipStored, Op.createsMembership], h, fun _ => ⟨rfl, rfl⟩⟩
    | false =>
      simp only [Stmt.exec, UserStmt.exec, fresh]
      rw [wpE_orLeave, db, Prog.op, wp_db]
      refine ⟨fun e fault => ?_, fun quiet' => ?_⟩
      · right
        refine ⟨fun stored => ?_, rfl, h.unhoused fresh⟩
        have quiet' := stored ⟨_, _, _⟩ (List.mem_append_right _ List.mem_cons_self) rfl
        cases fault.symm.trans quiet'
      · have executes := h.createMembership fresh
        simp only [Bool.false_eq_true, if_false, Stmt.exec, executes, wp_ret]
        left
        refine ⟨?_, h.store fresh, fun failed => by cases failed⟩
        intro e mem _
        rcases List.mem_append.mp mem with mem | mem
        · rwa [List.mem_singleton.mp mem]
        · rwa [List.mem_singleton.mp mem]

lemma SameAccounts.housed {s' : Store} (same : SameAccounts s s') (h : Housed s) : Housed s' := by
  obtain ⟨users, memberships⟩ := same
  refine ⟨fun u mem => ?_, fun m mem => ?_⟩
  · unfold HomeMember
    rw [memberships]
    rw [users] at mem
    exact h.home u mem
  · rw [memberships] at mem
    unfold Store.hasUser
    rw [users]
    exact h.owned m mem

/-- What is prepared before does not matter. -/
lemma Accounted.after {s₁ s' : Store} {failed : Bool} {calls calls' : List (Call Op Input Store)}
    (w : Accounted s₁ failed s' calls') (same : SameAccounts s s₁)
    (preparing : ∀ e ∈ calls, e.op.Preparing) : Accounted s failed s' (calls ++ calls') := by
  have stored : MembershipStored (calls ++ calls') ↔ MembershipStored calls' := by
    unfold MembershipStored
    rw [List.forall_mem_append]
    refine and_iff_right fun e mem creates => ?_
    rw [(preparing e mem).stores_nothing] at creates
    cases creates
  unfold Accounted
  rw [stored]
  refine w.imp (fun ⟨stored, housed, unchanged⟩ => ⟨stored, housed, fun failed => ?_⟩) id
  obtain ⟨users, memberships⟩ := unchanged failed
  exact ⟨users.trans same.1, memberships.trans same.2⟩

/-- Preparing a user and storing it. -/
lemma creation_accounted {ε α β : Type} {prepare : ServiceFlow ε β} (errors : CreationErrors ε)
    (user : β → User) (answer : β → α) {ins : Nat → Input} (h : Housed s)
    (preparing : prepare.run.Uses Op.Preparing) :
    wpE (exec D) (prepare >>= fun b => storeUser errors (user b) >>= fun _ => pure (answer b)) ins s
      (fun _ s' calls => Accounted s false s' calls) (fun _ s' calls => Accounted s true s' calls) := by
  have step : ∀ o, o.Preparing → ∀ i s', SameAccounts s s' → SameAccounts s (exec D o i s').2 := by
    intro o preparing i s' same
    obtain ⟨users, memberships⟩ := preparing.same (D := D) i s'
    exact ⟨users.trans same.1, memberships.trans same.2⟩
  have prepared : wpE (exec D) prepare ins s
      (fun _ s' tr => SameAccounts s s' ∧ ∀ e ∈ tr, e.op.Preparing)
      (fun _ s' tr => SameAccounts s s' ∧ ∀ e ∈ tr, e.op.Preparing) := uses_wpE preparing step ⟨rfl, rfl⟩
  rw [wpE_bind]
  refine wpE_mono prepared (fun b s₁ calls ⟨same, preparing⟩ => ?_) fun e s₁ calls ⟨same, preparing⟩ => ?_
  · rw [wpE_bind]
    refine wpE_mono (storeUser_accounted errors (same.housed h)) (fun _ s' calls' w => ?_)
      fun _ s' calls' w => w.after same preparing
    rw [wpE_pure, List.append_nil]
    exact w.after same preparing
  · have rest : Accounted s₁ true s₁ [] :=
      .inl ⟨by simp [MembershipStored], same.housed h, fun _ => ⟨rfl, rfl⟩⟩
    simpa using rest.after same preparing

end

/-! ## Provisioning a tenant -/

section
variable {s : Store}

/-- A guest does not count. -/
lemma Housed.guest {m : TenantMembership} {s' : Store} (h : Housed s) (guest : m.isHome = false)
    (known : s.hasUser m.userId = true) (users : s'.users = s.users)
    (memberships : s'.memberships = s.memberships ++ [m]) : Housed s' := by
  refine ⟨fun u mem => ?_, fun m' mem => ?_⟩
  · rw [users] at mem
    obtain ⟨home, only, rest⟩ := h.home u mem
    refine ⟨home, ?_, rest⟩
    rw [memberships, List.filter_append, only]
    simp [guest]
  · rw [memberships] at mem
    unfold Store.hasUser
    rw [users]
    rcases List.mem_append.mp mem with mem | mem
    · exact h.owned m' mem
    · rwa [List.mem_singleton.mp mem]

lemma createMembership_ok {m : TenantMembership} {s' : Store}
    (ok : MembershipStmt.exec s (.create m) = (.ok (), s')) :
    s.hasUser m.userId = true ∧ s' = { s with memberships := s.memberships ++ [m] } := by
  simp only [MembershipStmt.exec] at ok
  split_ifs at ok with taken unknown
  · exact absurd (congrArg Prod.fst ok) (by simp)
  · exact absurd (congrArg Prod.fst ok) (by simp)
  · exact ⟨by simpa using unknown, (congrArg Prod.snd ok).symm⟩

/-- The transaction stores all or nothing. -/
lemma provision_housed {t : Tenant} {m : TenantMembership} {code : String} (h : Housed s)
    (guest : m.isHome = false) :
    Housed (TenantStmt.exec D s (.provision t m code)).2 ∧
      ∀ e, (TenantStmt.exec D s (.provision t m code)).1 = .error e →
        (TenantStmt.exec D s (.provision t m code)).2 = s := by
  simp only [TenantStmt.exec]
  split_ifs with root parent
  · exact ⟨h, fun _ _ => rfl⟩
  · exact ⟨h, fun _ _ => rfl⟩
  · unfold Store.provision
    split
    · exact ⟨h, fun _ _ => rfl⟩
    · rename_i s₁ member
      split
      · exact ⟨h, fun _ _ => rfl⟩
      · rename_i s₂ granted
        refine ⟨?_, by simp⟩
        have kept := PermissionStmt.exec_store (D := D) s₁ (.grant m.tenantId m.userId code)
        rw [granted] at kept
        obtain ⟨known, rfl⟩ := createMembership_ok member
        rw [kept]
        exact h.guest guest known rfl rfl

lemma createTenant_accounted {requesting : TenantId} {name : String} {actor : Uuid} {ins : Nat → Input}
    (h : Housed s) :
    wpE (exec D) (createTenant requesting name actor) ins s
      (fun _ s' calls => Accounted s false s' calls) (fun _ s' calls => Accounted s true s' calls) := by
  unfold createTenant
  rw [wpE_bind, wpE_orThrow]
  refine ⟨fun name _ => ?_, fun e _ => ?_⟩
  · rw [wpE_op, wpE_op, wpE_bind, wpE_orLeave, db, Prog.op, wp_db]
    refine ⟨fun e _ => ?_, fun _ => ?_⟩
    · exact .inl ⟨by simp [MembershipStored, Op.createsMembership], h, fun _ => ⟨rfl, rfl⟩⟩
    · rw [wp_ret]
      simp only [exec, Stmt.exec]
      split
      · rw [wpE_pure]
        exact .inl ⟨by simp [MembershipStored, Op.createsMembership], (provision_housed h rfl).1,
          fun failed => by cases failed⟩
      · rename_i d fails
        have unchanged := (provision_housed h rfl).2 d fails
        rw [unchanged]
        exact .inl ⟨by simp [MembershipStored, Op.createsMembership], h, fun _ => ⟨rfl, rfl⟩⟩
  · exact .inl ⟨by simp [MembershipStored], h, fun _ => ⟨rfl, rfl⟩⟩

end

/-! ## Runs -/

lemma answer_accounted {ε α : Type} {p : ServiceFlow ε α} (answer : Except ε α → AccountAnswer)
    {s : Store} {ins : Nat → Input}
    (w : wpE (exec D) p ins s (fun _ s' calls => Accounted s false s' calls)
      (fun _ s' calls => Accounted s true s' calls))
    (ok : ∀ a, (answer (.ok a)).failed = false) (error : ∀ e, (answer (.error e)).failed = true) :
    (p.run >>= fun r => ret (answer r)).wp (exec D) ins s
      (fun r s' calls => Accounted s r.failed s' calls) := by
  rw [wp_bind]
  refine wp_mono w ?_
  rintro (e | a) s' calls accounted
  · rw [wp_ret, List.append_nil, error]
    exact accounted
  · rw [wp_ret, List.append_nil, ok]
    exact accounted

lemma register_accounted {tenantId : TenantId} {cmd : RegisterCommand} {ipAddress : Option String}
    {s : Store} {ins : Nat → Input} (h : Housed s) :
    wpE (exec D) (register tenantId cmd ipAddress) ins s (fun _ s' calls => Accounted s false s' calls)
      (fun _ s' calls => Accounted s true s' calls) := by
  unfold register
  exact creation_accounted registerErrors id _ h (prepareRegistration_preparing tenantId cmd ipAddress)

lemma createUser_accounted {tenantId : TenantId} {cmd : CreateUserCommand} {s : Store}
    {ins : Nat → Input} (h : Housed s) :
    wpE (exec D) (createUser tenantId cmd) ins s (fun _ s' calls => Accounted s false s' calls)
      (fun _ s' calls => Accounted s true s' calls) := by
  unfold createUser
  exact creation_accounted userManagementErrors PreparedUser.user _ h (prepareUser_preparing tenantId cmd)

lemma accountCall_accounted (call : AccountCall) {s : Store} (h : Housed s) (ins : Nat → Input) :
    Accounted s (call.program.run (exec D) ins s).1.failed (call.program.run (exec D) ins s).2
      (call.program.trace (exec D) ins s) := by
  refine (wp_iff_run (Q := fun (r : AccountAnswer) s' calls => Accounted s r.failed s' calls)).mp ?_
  cases call with
  | register tenantId cmd ipAddress =>
    exact answer_accounted .registered (register_accounted h) (fun _ => rfl) fun _ => rfl
  | createUser tenantId cmd =>
    exact answer_accounted .created (createUser_accounted h) (fun _ => rfl) fun _ => rfl
  | createTenant requesting name actor =>
    exact answer_accounted .provisioned (createTenant_accounted h) (fun _ => rfl) fun _ => rfl

/-- A request and its inputs. -/
abbrev AccountStep := AccountCall × (Nat → Input)

/-- A run of such requests; in between, the rest of the system works on other tables. -/
abbrev AccountRuns (D : Deploy) (ok : AccountStep → Store → Prop) :=
  Runs (fun (c : AccountStep) (_ : Nat → Unit) s => (c.1.program.run (exec D) c.2 s).2) Housed SameAccounts ok

/-- The call's `INSERT` of a membership, if it comes to it, does not fail. -/
def StoresMembership (D : Deploy) (c : AccountStep) (s : Store) : Prop :=
  MembershipStored (c.1.program.trace (exec D) c.2 s)

lemma keepsTogether_iff {s : Store} (h : Housed s) (call : AccountCall) (ins : Nat → Input) :
    KeepsTogether D call ins s ↔ StoresMembership D (call, ins) s := by
  rcases accountCall_accounted (D := D) call h ins with ⟨stored, housed, unchanged⟩ | ⟨lost, -, unhoused⟩
  · exact ⟨fun _ => stored, fun _ => ⟨housed.home, unchanged⟩⟩
  · exact ⟨fun together => absurd together.1 unhoused, fun stored => absurd stored lost⟩

/-- In every run in which no `INSERT` of a membership fails after that of its user, every user has its
HOME membership, and the next request keeps it so and fails without a trace exactly if its `INSERT` does
not fail either. -/
theorem home_membership_iff (D : Deploy) {es : List (Event AccountStep Unit Store)} {s : Store}
    (run : AccountRuns D (StoresMembership D) es s) :
    (∀ u ∈ s.users, HomeMember s u) ∧
      ∀ call ins, KeepsTogether D call ins s ↔ StoresMembership D (call, ins) s := by
  have housed : Housed s := by
    refine run.invariant (I := fun _ s => Housed s) (fun _ h => h) (fun _ s s' h same => same.housed h) ?_
    intro es s c _ h stored
    rcases accountCall_accounted (D := D) c.1 h c.2 with ⟨-, housed, -⟩ | ⟨lost, -⟩
    · exact housed
    · exact absurd stored lost
  exact ⟨housed.home, fun call ins => keepsTogether_iff housed call ins⟩

end

namespace Sample

/-- The deployment with the hash of the password that is registered here. -/
def registerDeploy : Deploy :=
  { deploy with
    hashPassword := fun _ password =>
      if password = "ChangeMe!123" then .ok aliceHash else .error (.invalidValue password) }

/-- A tenant where users register themselves, with Alice and her membership. -/
def openStore : Store where
  tenants := [⟨tenantA, none, "root", .active, true⟩]
  users := [alice]
  memberships := [.newHome tenantA aliceId]

def registration : AccountCall := .register tenantA ⟨"bob@example.com", some "bob", "ChangeMe!123", none⟩ none

/-- The database fails at the eleventh call, the `INSERT` of the membership. -/
def failingInsert (n : Nat) : Input := { input 0 with fault := if n = 10 then some .notFound else none }

lemma openStore_housed : Housed openStore := by
  refine ⟨fun u mem => ?_, by decide⟩
  obtain rfl := List.mem_singleton.mp mem
  exact ⟨.newHome tenantA aliceId, by decide, rfl, rfl⟩

end Sample

open Sample in
set_option maxRecDepth 4000 in
/-- A registration that fails at its last statement leaves a user without membership, and then it cannot
be repeated. -/
theorem failed_registration_leaves_user :
    let r := registration.program.run (exec registerDeploy) failingInsert openStore
    r.1.failed = true ∧ r.2.users.length = 2 ∧ r.2.memberships = openStore.memberships ∧
      (registration.program.run (exec registerDeploy) (fun _ => input 0) r.2).1 =
        .registered (.error (.conflict "email already registered")) ∧
      ¬ KeepsTogether registerDeploy registration failingInsert openStore := by
  intro r
  have failed : r.1.failed = true := by decide +kernel
  have stored : r.2.users.length = 2 := by decide +kernel
  refine ⟨failed, stored, by decide +kernel, rfl, fun together => ?_⟩
  have users : r.2.users = openStore.users := (together.2 failed).1
  rw [users] at stored
  cases stored

open Sample in
set_option maxRecDepth 4000 in
/-- Without the failure it succeeds. -/
theorem home_membership_iff_sample :
    (registration.program.run (exec registerDeploy) (fun _ => input 0) openStore).1.failed = false ∧
      KeepsTogether registerDeploy registration (fun _ => input 0) openStore := by
  refine ⟨by decide +kernel, ((home_membership_iff registerDeploy (.start openStore_housed)).2 _ _).mpr ?_⟩
  unfold StoresMembership MembershipStored
  decide +kernel

end IdpMvp
