import IdpMvp.Sample
import IdpMvp.Service.Invitation
import IdpMvp.Store.Effects
import IdpMvp.Program.Pool

/-!
# Accepting an invitation

`accept_invitation` looks the invitation up by the hash of the token and then activates the membership
by tenant and user. What an accept does to a membership is right as long as nobody deletes it in
between, and as long as the invitation does not expire in between: `accepts_by_token_iff` says so for
every call of every interleaving.
-/

namespace IdpMvp

open Program Program.Prog Program.Flow IdpMvp.Prog

variable {D : Deploy}

/-! ## Requests -/

inductive InvitationCall where
  | create (host : TenantId) (target invitedBy : Uuid)
  | accept (tenantId : TenantId) (sessionUserId : Uuid) (token : String)
  | revoke (host : TenantId) (target : Uuid)

inductive InvitationAnswer where
  | created (r : Except InvitationError CreatedInvitation)
  | accepted (r : Except InvitationError Unit)
  | revoked (r : Except InvitationError Unit)

def InvitationCall.program (D : Deploy) : InvitationCall → Service InvitationAnswer
  | create host target invitedBy => return .created (← (createInvitation D host target invitedBy).run)
  | accept tenantId sessionUserId token =>
    return .accepted (← (acceptInvitation D tenantId sessionUserId token).run)
  | revoke host target => return .revoked (← (revokeMembership userPermissions host target).run)

abbrev InvitationPool := Program.Config Op.Res Input Store InvitationAnswer

def invitationPool (D : Deploy) (s : Store) (calls : Nat → InvitationCall) : InvitationPool :=
  Config.start s fun t => (calls t).program D

/-! ## What is claimed of a call -/

/-- The entry is a lookup by token that has found the row. -/
def Found (D : Deploy) (m : TenantMembership) (e : Program.Entry Op Input Store) : Prop :=
  ∃ hash, e.op = .db (.memberships (.findByInvitationTokenHash hash)) ∧
    exec D (.db (.memberships (.findByInvitationTokenHash hash))) e.input e.pre = (.ok (some m), e.pre)

/-- The entry has deleted the membership. -/
def Deletes (tenantId : TenantId) (userId : Uuid) (e : Program.Entry Op Input Store) : Prop :=
  e.op = .db (.memberships (.delete tenantId userId)) ∧ e.input.fault = none

/-- Since request `t` has looked up an invitation, the membership was deleted. -/
def RevokedSince (D : Deploy) (c : InvitationPool) (t : Nat) (tenantId : TenantId) (userId : Uuid) :
    Prop :=
  ∃ before e after m, c.trace = before ++ e :: after ∧ e.tid = t ∧ Found D m e ∧
    ∃ d ∈ after, Deletes tenantId userId d

/-- The call makes the membership `ACTIVE`. -/
def BecomesActive (D : Deploy) (c : InvitationPool) (x : Nat × Input) (tenantId : TenantId)
    (userId : Uuid) : Prop :=
  c.store.isActiveMember tenantId userId = false ∧
    (Config.step (exec D) c x).store.isActiveMember tenantId userId = true

/-- Request `x.1` reports that the invitation is accepted, and has not before. -/
def ReportsAccepted (D : Deploy) (c : InvitationPool) (x : Nat × Input) : Prop :=
  (∃ o k, c.thread x.1 = .call o k) ∧
    (Config.step (exec D) c x).thread x.1 = .ret (.accepted (.ok ()))

/-- The invitation of the row has not expired. -/
def TenantMembership.isOpenAt (m : TenantMembership) (now : DateTime) : Bool :=
  m.invitationExpiresAt.any (· > now)

/-- A membership becomes `ACTIVE` only by the token that its row holds, presented by the invited user
before it expires; and who has looked up an invitation that was revoked since neither activates
anything nor reports success. -/
structure AcceptsByToken (D : Deploy) (calls : Nat → InvitationCall) (c : InvitationPool)
    (x : Nat × Input) : Prop where
  token : ∀ tenantId userId, BecomesActive D c x tenantId userId →
    ∃ token, calls x.1 = .accept tenantId userId token ∧
      ∃ m ∈ c.store.memberships, m.hasKey tenantId userId = true ∧
        m.invitationTokenHash = some (D.sha256Hex token) ∧ m.isOpenAt x.2.now = true
  revoked : ∀ tenantId userId token, calls x.1 = .accept tenantId userId token →
    RevokedSince D c x.1 tenantId userId →
    (∀ tenantId' userId', ¬ BecomesActive D c x tenantId' userId') ∧ ¬ ReportsAccepted D c x

/-- No accept executes its `UPDATE` when the membership was deleted since its lookup, nor when the
invitation has expired since its check. -/
def AcceptUndisturbed (D : Deploy) (calls : Nat → InvitationCall) (c : InvitationPool)
    (x : Nat × Input) : Prop :=
  ∀ tenantId userId token k, calls x.1 = .accept tenantId userId token →
    c.thread x.1 = .call (.db (.memberships (.activate tenantId userId))) k → x.2.fault = none →
    ¬ RevokedSince D c x.1 tenantId userId ∧
      ∀ m ∈ c.store.memberships, m.hasKey tenantId userId = true → m.status ≠ .active →
        m.isOpenAt x.2.now = true

/-! ## Where an accept is -/

/-- An accept that is about to activate. -/
def activating (tenantId : TenantId) (userId : Uuid) : Service InvitationAnswer :=
  .call (.db (.memberships (.activate tenantId userId))) fun
    | .error e => .ret (.accepted (.error (.internal e.display)))
    | .ok () => .ret (.accepted (.ok ()))

/-- An accept that has found its invitation. -/
def afterFound (tenantId : TenantId) (userId : Uuid) (m : TenantMembership) : Service InvitationAnswer :=
  .call .clock fun now =>
    if m.isOpenAt now then activating tenantId userId
    else .ret (.accepted (.error .invalidOrExpired))

/-- An accept after its lookup. -/
def afterLookup (tenantId : TenantId) (userId : Uuid) :
    DbResult (Option TenantMembership) → Service InvitationAnswer
  | .error e => .ret (.accepted (.error (.internal e.display)))
  | .ok none => .ret (.accepted (.error .invalidOrExpired))
  | .ok (some m) =>
    if m.tenantId = tenantId then
      if m.userId = userId then afterFound tenantId userId m
      else .ret (.accepted (.error (.forbidden "only the invited user may accept this invitation")))
    else .ret (.accepted (.error .invalidOrExpired))

/-- An accept that has not started. -/
def lookingUp (D : Deploy) (tenantId : TenantId) (userId : Uuid) (token : String) :
    Service InvitationAnswer :=
  .call (.db (.memberships (.findByInvitationTokenHash (D.sha256Hex token)))) (afterLookup tenantId userId)

/-- The steps of `accept_invitation` after the lookup has found a row. -/
def acceptFound (tenantId : TenantId) (userId : Uuid) (m : TenantMembership) :
    ServiceFlow InvitationError Unit := do
  ensure (m.tenantId = tenantId) .invalidOrExpired
  ensure (m.userId = userId) (.forbidden "only the invited user may accept this invitation")
  let now ← clockNow
  ensure (m.isOpenAt now) .invalidOrExpired
  orLeave (db (.memberships (.activate tenantId userId))) (.internal ·.display)

lemma acceptFound_program (tenantId : TenantId) (userId : Uuid) (m : TenantMembership) :
    ((acceptFound tenantId userId m).run >>= fun r => .ret (.accepted r)) =
      afterLookup tenantId userId (.ok (some m)) := by
  unfold acceptFound
  simp only [afterLookup]
  by_cases tenant : m.tenantId = tenantId
  · rw [ensure_true_bind (decide_eq_true tenant), if_pos tenant]
    by_cases user : m.userId = userId
    · rw [ensure_true_bind (decide_eq_true user), if_pos user]
      refine congrArg (Prog.call Op.clock) (funext fun now => ?_)
      change ((ensure (m.isOpenAt now) .invalidOrExpired >>= fun _ =>
        orLeave (db (.memberships (.activate tenantId userId))) (.internal ·.display) :
          ServiceFlow InvitationError Unit).run >>= fun r => Prog.ret (InvitationAnswer.accepted r)) = _
      cases m.isOpenAt now with
      | false => rfl
      | true =>
        refine congrArg (Prog.call _) (funext ?_)
        rintro (e | _) <;> rfl
    · rw [ensure_false_bind (decide_eq_false user), if_neg user]
      rfl
  · rw [ensure_false_bind (decide_eq_false tenant), if_neg tenant]
    rfl

lemma accept_program (tenantId : TenantId) (userId : Uuid) (token : String) :
    (InvitationCall.accept tenantId userId token).program D =
      if token = "" then .ret (.accepted (.error .invalidOrExpired))
      else lookingUp D tenantId userId token := by
  by_cases empty : token = ""
  · subst empty
    rfl
  · rw [if_neg empty]
    simp only [InvitationCall.program, acceptInvitation]
    rw [ensure_true_bind (decide_eq_true empty)]
    refine congrArg (Prog.call _) (funext ?_)
    rintro (e | _ | m)
    · rfl
    · rfl
    · exact acceptFound_program tenantId userId m

/-! ## The other requests -/

/-- What an invitation and a removal call: no membership becomes `ACTIVE` by it, and no user or tenant
is deleted. -/
def Op.Unactivating : Op → Prop
  | .db (.memberships (.create m)) => m.status = .invited
  | .db (.memberships (.activate _ _)) => False
  | .db (.memberships _) | .db (.permissions _) | .db (.users (.findById _)) => True
  | .db _ => False
  | _ => True

lemma createInvitation_unactivating {host : TenantId} {target invitedBy : Uuid} :
    ((InvitationCall.create host target invitedBy).program D).Uses Op.Unactivating := by
  refine Uses.bind ?_ fun _ => trivial
  unfold createInvitation
  refine uses_bind (uses_orLeave (uses_op trivial) _) fun row => ?_
  refine uses_bind (uses_found _ _) fun invitee => ?_
  refine uses_bind (uses_orLeave (uses_op trivial) _) fun membership => ?_
  refine uses_bind (uses_ensure _ _) fun _ => ?_
  refine uses_bind (uses_lift (uses_op trivial)) fun now => ?_
  refine uses_bind (uses_lift (uses_op trivial)) fun token => ?_
  refine uses_bind (uses_orLeave (uses_op ?_) _) fun _ => trivial
  rfl

lemma invalidateCodes_unactivating {tenantId : TenantId} {userId : Uuid} (codes : List String) :
    (invalidateCodes tenantId userId codes).Uses Op.Unactivating := by
  induction codes with
  | nil => trivial
  | cons code codes ih => exact ⟨trivial, fun _ => ih⟩

lemma revokeMembership_unactivating {host : TenantId} {target : Uuid} :
    ((InvitationCall.revoke host target).program D).Uses Op.Unactivating := by
  refine Uses.bind ?_ fun _ => trivial
  unfold revokeMembership
  refine uses_bind (uses_orLeave (uses_op trivial) _) fun row => ?_
  refine uses_bind (uses_found _ _) fun membership => ?_
  refine uses_bind (uses_ensure _ _) fun _ => ?_
  refine uses_bind (uses_orLeave ?_ _) fun _ => uses_orLeave (uses_op trivial) _
  refine ⟨trivial, ?_⟩
  rintro (e | codes)
  · trivial
  · exact (Uses.bind (invalidateCodes_unactivating codes) fun _ => trivial :
      Uses _ (invalidateCodes host target codes >>= fun _ => ret (Except.ok codes)))

/-! ## What a call means for a membership -/

section
variable {o : Op} {i : Input} {s : Store} {tenantId : TenantId} {userId : Uuid}

lemma isActiveMember_iff :
    s.isActiveMember tenantId userId = true ↔
      ∃ m ∈ s.memberships, m.hasKey tenantId userId = true ∧ m.status = .active := by
  simp [Store.isActiveMember, TenantMembership.hasKey, and_assoc]

/-- Without an activation nobody becomes a member. -/
lemma Op.Unactivating.isActiveMember (h : o.Unactivating)
    (active : (exec D o i s).2.isActiveMember tenantId userId = true) :
    s.isActiveMember tenantId userId = true := by
  rw [isActiveMember_iff] at active ⊢
  obtain ⟨m, mem, key, active⟩ := active
  have w := exec_memberships (D := D) o i s
  generalize (exec D o i s).2.memberships = rows at w mem
  cases w with
  | keep => exact ⟨m, mem, key, active⟩
  | create m' eq =>
    subst eq
    rcases List.mem_append.mp mem with mem | mem
    · exact ⟨m, mem, key, active⟩
    · obtain rfl := List.mem_singleton.mp mem
      cases active.symm.trans h
  | provision t m' code eq => subst eq; cases h
  | activate t u eq => subst eq; cases h
  | delete | deleteUser | deleteTenant => exact ⟨m, (List.mem_filter.mp mem).1, key, active⟩

/-- An activation concerns its own membership. -/
lemma activate_isActiveMember {t : TenantId} {u : Uuid}
    (active : (exec D (.db (.memberships (.activate t u))) i s).2.isActiveMember tenantId userId = true) :
    s.isActiveMember tenantId userId = true ∨
      (i.fault = none ∧ t = tenantId ∧ u = userId ∧ s.memberships.any (·.hasKey t u) = true) := by
  cases f : i.fault with
  | some e =>
    left
    simpa [exec, f] using active
  | none =>
    rw [isActiveMember_iff] at active ⊢
    obtain ⟨m', mem, key, active⟩ := active
    simp only [exec, f, Stmt.exec, MembershipStmt.exec] at mem
    rcases mem_map_ite mem with mem | ⟨m, row, own, rfl⟩
    · exact .inl ⟨m', mem, key, active⟩
    · obtain ⟨rfl, rfl⟩ : m.tenantId = t ∧ m.userId = u := by simpa [TenantMembership.hasKey] using own
      obtain ⟨rfl, rfl⟩ : m.tenantId = tenantId ∧ m.userId = userId := by
        simpa [TenantMembership.hasKey] using key
      exact .inr ⟨rfl, rfl, rfl, List.any_eq_true.mpr ⟨m, row, own⟩⟩

/-- A row is still there, or is `ACTIVE` now, unless it is deleted. -/
lemma row_stays {m : TenantMembership} (key : m.hasKey tenantId userId = true)
    (row : ∃ r ∈ s.memberships, r.hasKey tenantId userId = true ∧ (r = m ∨ r.status = .active))
    (kept : ¬ o.removesMember tenantId userId) :
    ∃ r ∈ (exec D o i s).2.memberships, r.hasKey tenantId userId = true ∧
      (r = m ∨ r.status = .active) := by
  obtain ⟨r, mem, rkey, same⟩ := row
  obtain ⟨rfl, rfl⟩ : r.tenantId = tenantId ∧ r.userId = userId := by
    simpa [TenantMembership.hasKey] using rkey
  rcases (exec_memberships (D := D) o i s).stays mem kept with stays | ⟨-, activated⟩
  · exact ⟨r, stays, rkey, same⟩
  · exact ⟨_, activated, by simp [TenantMembership.hasKey], .inr rfl⟩

end

/-! ## The invariant -/

/-- Request `t` has looked up the row by the token. The row is still there, or is `ACTIVE` now, as long
as nobody has deleted it since. -/
structure InvitationRead (D : Deploy) (c : InvitationPool) (t : Nat) (tenantId : TenantId) (userId : Uuid)
    (token : String) (m : TenantMembership) : Prop where
  key : m.hasKey tenantId userId = true
  hash : m.invitationTokenHash = some (D.sha256Hex token)
  since : ∃ before e after, c.trace = before ++ e :: after ∧ e.tid = t ∧ Found D m e ∧
    ((∀ d ∈ after, ¬ Deletes tenantId userId d) →
      ∃ r ∈ c.store.memberships, r.hasKey tenantId userId = true ∧ (r = m ∨ r.status = .active))

/-- Where an accept is, and what it has looked up. -/
def Accepting (D : Deploy) (c : InvitationPool) (t : Nat) (tenantId : TenantId) (userId : Uuid)
    (token : String) : Prop :=
  (∃ a, c.thread t = .ret a) ∨ c.thread t = lookingUp D tenantId userId token ∨
    ∃ m, InvitationRead D c t tenantId userId token m ∧
      (c.thread t = afterFound tenantId userId m ∨ c.thread t = activating tenantId userId)

structure Inviting (D : Deploy) (calls : Nat → InvitationCall) (c : InvitationPool) : Prop where
  keys : (c.store.memberships.map (·.key)).Nodup
  accepting : ∀ t tenantId userId token, calls t = .accept tenantId userId token →
    Accepting D c t tenantId userId token
  others : ∀ t, (∀ tenantId userId token, calls t ≠ .accept tenantId userId token) →
    (c.thread t).Uses Op.Unactivating

section
variable {calls : Nat → InvitationCall} {c : InvitationPool} {x : Nat × Input} {o : Op}
variable {k : Op.Res o → Service InvitationAnswer} {tenantId : TenantId} {userId : Uuid} {token : String}
variable {m : TenantMembership} {t : Nat}

/-- The only activations are those of accepts that have looked up their invitation. -/
lemma Inviting.op (h : Inviting D calls c) (e : c.thread x.1 = .call o k) :
    o.Unactivating ∨ ∃ tenantId userId token m, calls x.1 = .accept tenantId userId token ∧
      InvitationRead D c x.1 tenantId userId token m ∧ c.thread x.1 = activating tenantId userId := by
  cases call : calls x.1 with
  | accept tenantId userId token =>
    rcases h.accepting _ _ _ _ call with ⟨a, returned⟩ | starts | ⟨m, lookedUp, found | activates⟩
    · cases returned.symm.trans e
    · cases starts.symm.trans e
      exact .inl trivial
    · cases found.symm.trans e
      exact .inl trivial
    · exact .inr ⟨tenantId, userId, token, m, rfl, lookedUp, activates⟩
  | create | revoke =>
    have uses := h.others x.1 (by simp [call])
    rw [e] at uses
    exact .inl uses.1

/-- A call that does not delete the membership does not remove it. -/
lemma Inviting.stays (h : Inviting D calls c) (e : c.thread x.1 = .call o k)
    (key : m.hasKey tenantId userId = true)
    (kept : ¬ Deletes tenantId userId ⟨⟨o, x.2, c.store⟩, x.1⟩)
    (row : ∃ r ∈ c.store.memberships, r.hasKey tenantId userId = true ∧ (r = m ∨ r.status = .active)) :
    ∃ r ∈ (exec D o x.2 c.store).2.memberships, r.hasKey tenantId userId = true ∧
      (r = m ∨ r.status = .active) := by
  by_cases removes : o.removesMember tenantId userId
  · have deletes : o = .db (.memberships (.delete tenantId userId)) := by
      rcases h.op e with unactivating | ⟨_, _, _, _, _, _, activates⟩
      · unfold Op.removesMember at removes
        split at removes
        · obtain ⟨rfl, rfl⟩ := removes
          rfl
        · cases unactivating
        · cases unactivating
        · cases removes
      · cases activates.symm.trans e
        cases removes
    subst deletes
    cases f : x.2.fault with
    | none => exact absurd ⟨rfl, f⟩ kept
    | some d => simpa [exec, f] using row
  · exact row_stays key row removes

lemma InvitationRead.step (w : InvitationRead D c t tenantId userId token m) (h : Inviting D calls c)
    (e : c.thread x.1 = .call o k) :
    InvitationRead D (Config.step (exec D) c x) t tenantId userId token m := by
  obtain ⟨key, hash, before, r, after, trace, tid, found, row⟩ := w
  refine ⟨key, hash, before, r, after ++ [⟨⟨o, x.2, c.store⟩, x.1⟩], ?_, tid, found, ?_⟩
  · simp [Config.step_call e, trace]
  · intro kept
    rw [Config.step_call e]
    refine h.stays e key (kept _ (by simp)) (row fun d mem => kept d ?_)
    exact List.mem_append_left _ mem

/-- What a lookup that answers has found. -/
lemma invitationRead_now (starts : c.thread x.1 = lookingUp D tenantId userId token)
    (own : m.tenantId = tenantId ∧ m.userId = userId)
    (answer : (exec D (.db (.memberships (.findByInvitationTokenHash (D.sha256Hex token)))) x.2
      c.store).1 = .ok (some m)) :
    InvitationRead D (Config.step (exec D) c x) x.1 tenantId userId token m := by
  obtain ⟨rfl, rfl⟩ := own
  have key : m.hasKey m.tenantId m.userId = true := by simp [TenantMembership.hasKey]
  cases f : x.2.fault with
  | some d =>
    rw [exec, f] at answer
    cases answer
  | none =>
    simp only [exec, f, Stmt.exec, MembershipStmt.exec, Except.ok.injEq] at answer
    have found := List.find?_some answer
    simp only [decide_eq_true_eq] at found
    refine ⟨key, found.1, c.trace, ⟨⟨_, x.2, c.store⟩, x.1⟩, [], ?_, rfl,
      ⟨D.sha256Hex token, rfl, ?_⟩, fun _ => ?_⟩
    · rw [Config.step_call starts]
    · simp only [exec, f, Stmt.exec, MembershipStmt.exec, answer]
    · rw [Config.step_call starts]
      simp only [exec, f, Stmt.exec, MembershipStmt.exec]
      exact ⟨m, List.mem_of_find?_eq_some answer, key, .inl rfl⟩

lemma Accepting.step (w : Accepting D c t tenantId userId token) (h : Inviting D calls c)
    (e : c.thread x.1 = .call o k) :
    Accepting D (Config.step (exec D) c x) t tenantId userId token := by
  by_cases same : t = x.1
  · subst same
    have thread : ∀ {o' : Op} {k' : Op.Res o' → Service InvitationAnswer},
        c.thread x.1 = .call o' k' →
        (Config.step (exec D) c x).thread x.1 = k' (exec D o' x.2 c.store).1 := by
      intro o' k' e'
      rw [Config.step_call e']
      exact Function.update_self ..
    rcases w with ⟨a, returned⟩ | starts | ⟨m, lookedUp, found | activates⟩
    · cases returned.symm.trans e
    · have now := thread starts
      cases answer : (exec D (.db (.memberships (.findByInvitationTokenHash (D.sha256Hex token)))) x.2
        c.store).1 with
      | error d =>
        rw [answer] at now
        exact .inl ⟨_, now⟩
      | ok row =>
        rw [answer] at now
        cases row with
        | none => exact .inl ⟨_, now⟩
        | some m =>
          simp only [afterLookup] at now
          split_ifs at now with tenant user
          · exact .inr (.inr ⟨m, invitationRead_now starts ⟨tenant, user⟩ answer, .inl now⟩)
          · exact .inl ⟨_, now⟩
          · exact .inl ⟨_, now⟩
    · have now := thread found
      split_ifs at now
      · exact .inr (.inr ⟨m, lookedUp.step h found, .inr now⟩)
      · exact .inl ⟨_, now⟩
    · have now := thread activates
      cases answer : (exec D (.db (.memberships (.activate tenantId userId))) x.2 c.store).1 with
      | error d =>
        rw [answer] at now
        exact .inl ⟨_, now⟩
      | ok _ =>
        rw [answer] at now
        exact .inl ⟨_, now⟩
  · unfold Accepting
    rw [Config.thread_step_ne same]
    exact w.imp id (Or.imp id fun ⟨m, lookedUp, rest⟩ => ⟨m, lookedUp.step h e, rest⟩)

lemma Inviting.step (h : Inviting D calls c) (x : Nat × Input) :
    Inviting D calls (Config.step (exec D) c x) := by
  cases e : c.thread x.1 with
  | ret a => rwa [Config.step_ret e]
  | call o k =>
    refine ⟨?_, fun t tenantId userId token call => (h.accepting t _ _ _ call).step h e, ?_⟩
    · rw [Config.step_call e]
      exact (exec_memberships o x.2 c.store).keys h.keys
    · intro t other
      have uses := h.others t other
      by_cases same : t = x.1
      · subst same
        rw [e] at uses
        rw [Config.step_call e]
        simpa using uses.2 _
      · rwa [Config.thread_step_ne same]

end

lemma inviting_exec (s₀ : Store) (keys : (s₀.memberships.map (·.key)).Nodup)
    (calls : Nat → InvitationCall) (sched : List (Nat × Input)) :
    Inviting D calls (Config.exec (exec D) (invitationPool D s₀ calls) sched) := by
  refine Config.exec_invariant (Config.admissible_true _ sched) ⟨keys, ?_, ?_⟩ fun c x h _ => h.step x
  · intro t tenantId userId token call
    have program : (invitationPool D s₀ calls).thread t = _ :=
      (congrArg (InvitationCall.program D) call).trans (accept_program tenantId userId token)
    split_ifs at program
    · exact .inl ⟨_, program⟩
    · exact .inr (.inl program)
  · intro t other
    change ((calls t).program D).Uses _
    cases call : calls t with
    | accept => exact absurd call (other _ _ _)
    | create => exact createInvitation_unactivating
    | revoke => exact revokeMembership_unactivating

section
variable {calls : Nat → InvitationCall} {c : InvitationPool} {x : Nat × Input}

/-- A membership that becomes `ACTIVE` is activated by an accept of it. -/
lemma Inviting.activated {tenantId : TenantId} {userId : Uuid} (h : Inviting D calls c)
    (becomes : BecomesActive D c x tenantId userId) :
    ∃ token m, calls x.1 = .accept tenantId userId token ∧ InvitationRead D c x.1 tenantId userId token m ∧
      c.thread x.1 = activating tenantId userId ∧ x.2.fault = none := by
  obtain ⟨before, after⟩ := becomes
  cases e : c.thread x.1 with
  | ret a =>
    rw [Config.step_ret e, before] at after
    cases after
  | call o k =>
    rw [Config.step_call e] at after
    rcases h.op e with unactivating | ⟨t, u, token, m, call, lookedUp, activates⟩
    · rw [unactivating.isActiveMember after] at before
      cases before
    · cases activates.symm.trans e
      rcases activate_isActiveMember after with was | ⟨quiet, rfl, rfl, -⟩
      · rw [was] at before
        cases before
      · exact ⟨token, m, call, lookedUp, rfl, quiet⟩

/-- The row of an accept that nobody has disturbed is the one it has looked up. -/
lemma InvitationRead.row {t : Nat} {tenantId : TenantId} {userId : Uuid} {token : String}
    {m : TenantMembership} (w : InvitationRead D c t tenantId userId token m)
    (unrevoked : ¬ RevokedSince D c t tenantId userId)
    (inactive : c.store.isActiveMember tenantId userId = false) : m ∈ c.store.memberships := by
  obtain ⟨before, e, after, trace, tid, found, row⟩ := w.since
  obtain ⟨r, mem, key, rfl | active⟩ := row fun d memd deletes =>
    unrevoked ⟨before, e, after, m, trace, tid, found, d, memd, deletes⟩
  · exact mem
  · rw [isActiveMember_iff.mpr ⟨r, mem, key, active⟩] at inactive
    cases inactive

/-- An accept reports success only after its `UPDATE`. -/
lemma Inviting.reported {tenantId : TenantId} {userId : Uuid} {token : String} (h : Inviting D calls c)
    (call : calls x.1 = .accept tenantId userId token) (reports : ReportsAccepted D c x) :
    c.thread x.1 = activating tenantId userId ∧ x.2.fault = none := by
  obtain ⟨⟨o, k, e⟩, now⟩ := reports
  rcases h.accepting _ _ _ _ call with ⟨a, returned⟩ | starts | ⟨m, -, found | activates⟩
  · cases returned.symm.trans e
  · rw [Config.step_call starts] at now
    simp only [Function.update_self] at now
    unfold afterLookup at now
    split at now
    · cases now
    · cases now
    · split_ifs at now <;> cases now
  · rw [Config.step_call found] at now
    simp only [Function.update_self] at now
    split_ifs at now <;> cases now
  · refine ⟨activates, ?_⟩
    cases f : x.2.fault with
    | none => rfl
    | some d =>
      rw [Config.step_call activates] at now
      simp only [Function.update_self, exec, f] at now
      cases now

lemma Inviting.acceptsByToken (h : Inviting D calls c) (undisturbed : AcceptUndisturbed D calls c x) :
    AcceptsByToken D calls c x := by
  refine ⟨fun tenantId userId becomes => ?_, fun tenantId userId token call revoked => ⟨?_, ?_⟩⟩
  · obtain ⟨token, m, call, lookedUp, activates, quiet⟩ := h.activated becomes
    obtain ⟨unrevoked, unexpired⟩ := undisturbed _ _ token _ call activates quiet
    have mem := lookedUp.row unrevoked becomes.1
    refine ⟨token, call, m, mem, lookedUp.key, lookedUp.hash, unexpired m mem lookedUp.key ?_⟩
    intro active
    have was := becomes.1
    rw [isActiveMember_iff.mpr ⟨m, mem, lookedUp.key, active⟩] at was
    cases was
  · intro tenantId' userId' becomes
    obtain ⟨token', m, call', -, activates, quiet⟩ := h.activated becomes
    cases call.symm.trans call'
    exact (undisturbed _ _ token _ call activates quiet).1 revoked
  · intro reports
    obtain ⟨activates, quiet⟩ := h.reported call reports
    exact (undisturbed _ _ token _ call activates quiet).1 revoked

lemma Inviting.undisturbed (h : Inviting D calls c) (accepts : AcceptsByToken D calls c x) :
    AcceptUndisturbed D calls c x := by
  intro tenantId userId token k call e quiet
  have activates : c.thread x.1 = activating tenantId userId := by
    rcases h.accepting _ _ _ _ call with ⟨a, returned⟩ | starts | ⟨m, -, found | activates⟩
    · cases returned.symm.trans e
    · cases starts.symm.trans e
    · cases found.symm.trans e
    · exact activates
  refine ⟨fun revoked => ?_, fun m mem key inactive => ?_⟩
  · refine (accepts.revoked _ _ _ call revoked).2 ⟨⟨_, _, e⟩, ?_⟩
    rw [Config.step_call activates]
    simp [exec, quiet, Stmt.exec, MembershipStmt.exec]
  · have only : ∀ r ∈ c.store.memberships, r.hasKey tenantId userId = true → r = m := by
      intro r row own
      refine eq_of_nodup_map h.keys row mem ?_
      rw [TenantMembership.hasKey_iff.mp own, TenantMembership.hasKey_iff.mp key]
    have becomes : BecomesActive D c x tenantId userId := by
      refine ⟨Bool.eq_false_iff.mpr fun was => ?_, ?_⟩
      · obtain ⟨r, row, own, active⟩ := isActiveMember_iff.mp was
        rw [only r row own] at active
        exact inactive active
      · rw [Config.step_call e, isActiveMember_iff]
        simp only [exec, quiet, Stmt.exec, MembershipStmt.exec]
        exact ⟨_, List.mem_map.mpr ⟨m, mem, if_pos key⟩, key, rfl⟩
    obtain ⟨-, -, r, row, own, -, unexpired⟩ := accepts.token _ _ becomes
    rwa [only r row own] at unexpired

end

/-- In every interleaving of invitations, their acceptance and removals, the next call keeps to the
tokens exactly if it is not the `UPDATE` of an accept whose membership was deleted since its lookup or
whose invitation has expired since its check. -/
theorem accepts_by_token_iff (D : Deploy) (s₀ : Store) (keys : (s₀.memberships.map (·.key)).Nodup)
    (calls : Nat → InvitationCall) (sched : List (Nat × Input)) (x : Nat × Input) :
    AcceptsByToken D calls (Config.exec (exec D) (invitationPool D s₀ calls) sched) x ↔
      AcceptUndisturbed D calls (Config.exec (exec D) (invitationPool D s₀ calls) sched) x := by
  have inviting := inviting_exec (D := D) s₀ keys calls sched
  exact ⟨inviting.undisturbed, inviting.acceptsByToken⟩

namespace Sample

/-- Alice's invitation to the second tenant, with the token `plainToken 1`. -/
def invitation : TenantMembership where
  tenantId := tenantB
  userId := aliceId
  membershipType := .guest
  status := .invited
  invitedBy := some adminId
  invitationTokenHash := some (deploy.sha256Hex (plainToken 1))
  invitationExpiresAt := some (now + 604800000000)

def invitedStore : Store := { store with memberships := [.newHome tenantA aliceId, invitation] }

/-- Request 0 accepts it, request 1 takes it back and request 2 invites her again. -/
def invitationCalls : Nat → InvitationCall
  | 0 => .accept tenantB aliceId (plainToken 1)
  | 1 => .revoke tenantB aliceId
  | _ => .create tenantB aliceId adminId

/-- The accept, up to its `UPDATE`; the removal; the new invitation, with the token `plainToken 2`. -/
def reinvitation : List (Nat × Input) :=
  [(0, input 0), (0, input 0), (1, input 0), (1, input 0), (1, input 0), (2, input 0), (2, input 0),
    (2, input 0), (2, input 2), (2, input 0)]

end Sample

open Sample in
set_option maxRecDepth 4000 in
/-- The accept with the first token activates the second invitation and reports success. -/
theorem accept_activates_replacement :
    let c := Config.exec (exec deploy) (invitationPool deploy invitedStore invitationCalls) reinvitation
    BecomesActive deploy c (0, input 0) tenantB aliceId ∧ ReportsAccepted deploy c (0, input 0) ∧
      (∀ m ∈ c.store.memberships, m.hasKey tenantB aliceId = true →
        m.invitationTokenHash ≠ some (deploy.sha256Hex (plainToken 1))) ∧
      ¬ AcceptsByToken deploy invitationCalls c (0, input 0) := by
  intro c
  have becomes : BecomesActive deploy c (0, input 0) tenantB aliceId := by
    constructor <;> decide +kernel
  have replaced : ∀ m ∈ c.store.memberships, m.hasKey tenantB aliceId = true →
      m.invitationTokenHash ≠ some (deploy.sha256Hex (plainToken 1)) := by decide +kernel
  refine ⟨becomes, ⟨⟨_, _, rfl⟩, rfl⟩, replaced, fun accepts => ?_⟩
  obtain ⟨token, call, m, mem, key, hash, -⟩ := accepts.token _ _ becomes
  cases call
  exact replaced m mem key hash

/-- The operation deletes a membership. -/
def Op.deletesMembership : Op → Bool
  | .db (.memberships (.delete _ _)) => true
  | _ => false

open Sample in
set_option maxRecDepth 4000 in
theorem accepts_by_token_iff_sample :
    AcceptsByToken deploy invitationCalls
      (Config.exec (exec deploy) (invitationPool deploy invitedStore invitationCalls)
        [(0, input 0), (0, input 0)]) (0, input 0) := by
  refine (accepts_by_token_iff deploy invitedStore (by decide +kernel) invitationCalls _ _).mpr ?_
  generalize reached : Config.exec (exec deploy) (invitationPool deploy invitedStore invitationCalls)
    [(0, input 0), (0, input 0)] = c
  have undeleted : ∀ e ∈ c.trace, e.op.deletesMembership = false := by
    subst reached
    decide +kernel
  have rows : c.store.memberships = invitedStore.memberships := by
    subst reached
    rfl
  rintro tenantId userId token k ⟨⟩ - -
  refine ⟨?_, ?_⟩
  · rintro ⟨before, e, after, m, trace, -, -, d, mem, deletes, -⟩
    have spared := undeleted d (by simp [trace, mem])
    rw [deletes] at spared
    cases spared
  · rw [rows]
    decide +kernel

end IdpMvp
