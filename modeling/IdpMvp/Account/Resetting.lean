import IdpMvp.Account.Links
import IdpMvp.Program.Claim

/-!
# Redeeming a reset token

Calls of `reset_password` with one token compete for it: the conditional `UPDATE` that consumes the token
lets at most one of them on, and what that one does to the account it does alone. Every other call changes
nothing.
-/

namespace IdpMvp

open Program Program.Prog Program.Flow Prog

variable {D : Deploy} {s : Store} {token : String}

/-! ## The token -/

/-- The primary key of the reset tokens. -/
def UniqueResetTokens (s : Store) : Prop := (s.passwordResetTokens.map (·.tokenHash)).Nodup

/-- The token with this hash has been used, if there is one. -/
def ResetSpent (hash : String) (s : Store) : Prop :=
  ∀ t ∈ s.passwordResetTokens, t.tokenHash = hash → t.usedAt ≠ none

/-- A row in which only `used_at` may have changed. -/
lemma LinkEffect.old {kind : LinkKind} {op : Op} {rows rows' : List PasswordResetToken}
    (w : LinkEffect kind op rows rows') {t : PasswordResetToken} (mem : t ∈ rows')
    (other : op ≠ .db (kind.createStmt t)) :
    ∃ r ∈ rows, r.tokenHash = t.tokenHash ∧ (r.usedAt ≠ none → t.usedAt ≠ none) := by
  cases w with
  | keep => exact ⟨t, mem, rfl, id⟩
  | create new eq =>
    rcases List.mem_append.mp mem with mem | mem
    · exact ⟨t, mem, rfl, id⟩
    · obtain rfl := List.mem_singleton.mp mem
      exact absurd eq other
  | mark p now =>
    rcases mem_map_ite mem with mem | ⟨r, row, -, rfl⟩
    · exact ⟨t, mem, rfl, id⟩
    · exact ⟨r, row, rfl, fun _ none => by cases none⟩
  | deleteUser userId => exact ⟨t, (List.mem_filter.mp mem).1, rfl, id⟩

/-- A token that has been used stays used. -/
lemma ResetSpent.stays {hash : String} (spent : ResetSpent hash s) {op : Op} (linkless : op.Linkless)
    (i : Input) : ResetSpent hash (exec D op i s).2 := by
  intro t mem named
  have other : op ≠ .db (LinkKind.passwordReset.createStmt t) := by
    rintro rfl
    exact linkless
  obtain ⟨r, row, same, used⟩ := (exec_links .passwordReset op i s).old mem other
  exact used (spent r row (same.trans named))

lemma UniqueResetTokens.step (keys : UniqueResetTokens s) (op : Op) (i : Input) :
    UniqueResetTokens (exec D op i s).2 := by
  have marked : ∀ (p : PasswordResetToken → Prop) [DecidablePred p] (now : DateTime),
      ((s.passwordResetTokens.map fun t => if p t then { t with usedAt := some now } else t).map
        (·.tokenHash)).Nodup := by
    intro p _ now
    have same : (s.passwordResetTokens.map fun t => if p t then { t with usedAt := some now } else t).map
        (·.tokenHash) = s.passwordResetTokens.map (·.tokenHash) := by
      rw [List.map_map]
      refine List.map_congr_left fun t _ => ?_
      simp only [Function.comp_apply]
      split <;> rfl
    rwa [same]
  have w := exec_written (D := D) op i s
  generalize (exec D op i s).2 = s' at w
  cases w with
  | passwordResetTokens q eq rows h =>
    subst h
    cases q with
    | create t =>
      simp only [PasswordResetTokenStmt.exec]
      split_ifs with known
      · exact keys
      · exact keys
      · exact nodup_map_snoc keys (by simpa using known)
    | consumeUpdate hash now => exact marked (fun t => t.consumable hash now = true) now
    | invalidateAllForUser userId now => exact marked (fun t => t.userId = userId ∧ t.usedAt = none) now
    | consumeSelect => exact keys
  | deleteUser id => exact keys.sublist (List.filter_sublist.map _)
  | _ => exact keys

lemma uniqueResetTokens {s₀ : Store} (reach : Reaches (exec D) (fun _ => True) s₀ s)
    (empty : s₀.passwordResetTokens = []) : UniqueResetTokens s :=
  reach.invariant (I := UniqueResetTokens) (by simp [UniqueResetTokens, empty])
    fun op _ i _ keys => keys.step op i

/-- With unique keys, rows with one hash are one row. -/
lemma UniqueResetTokens.same (keys : UniqueResetTokens s) {t u : PasswordResetToken}
    (mem : t ∈ s.passwordResetTokens) (mem' : u ∈ s.passwordResetTokens) (hash : t.tokenHash = u.tokenHash) :
    t = u :=
  List.inj_on_of_nodup_map keys mem mem' hash

/-- Consumption uses the token up, or finds nothing to use. -/
lemma consumeUpdate_spends (keys : UniqueResetTokens s) (hash : String) (now : DateTime) :
    let r := (Stmt.passwordResetTokens (.consumeUpdate hash now)).exec D now s
    (r.1 = .ok 0 ∧ r.2 = s) ∨ (¬ ResetSpent hash s ∧ ResetSpent hash r.2) := by
  intro r
  by_cases found : ∃ t ∈ s.passwordResetTokens, t.consumable hash now = true
  · obtain ⟨t, mem, consumable⟩ := found
    have open_ : t.tokenHash = hash ∧ t.usedAt = none ∧ t.expiresAt > now := of_decide_eq_true consumable
    refine .inr ⟨fun spent => spent t mem open_.1 open_.2.1, fun u mem' named => ?_⟩
    obtain ⟨v, row, rfl⟩ := List.mem_map.mp mem'
    have same : v = t := by
      refine keys.same row mem (Eq.trans ?_ open_.1.symm)
      rw [← named]
      split <;> rfl
    rw [if_pos (same ▸ consumable)]
    exact nofun
  · have none : ∀ t ∈ s.passwordResetTokens, ¬ t.consumable hash now = true :=
      fun t mem consumable => found ⟨t, mem, consumable⟩
    refine .inl ⟨congrArg Except.ok (List.countP_eq_zero.mpr none), ?_⟩
    have rows : (s.passwordResetTokens.map fun t =>
        if t.consumable hash now then { t with usedAt := some now } else t) = s.passwordResetTokens := by
      refine (List.map_congr_left fun t mem => ?_).trans (List.map_id _)
      rw [if_neg (none t mem)]
      rfl
    simp only [r, Stmt.exec, PasswordResetTokenStmt.exec, rows]

/-- A call of `consume` takes the token, or it changes nothing and returns none. -/
lemma consume_claims (hash : String) (now : DateTime) :
    (LinkKind.passwordReset.consume hash now).Claims (exec D) UniqueResetTokens (ResetSpent hash)
      (Within (· = none) fun _ => True) := by
  intro i s keys
  cases f : i.fault with
  | some e =>
    have failed : exec D (.db (.passwordResetTokens (.consumeUpdate hash now))) i s = (.error e, s) := by
      simp only [exec, f]
    rw [failed]
    exact .inl ⟨rfl, trivial⟩
  | none =>
    have executed : exec D (.db (.passwordResetTokens (.consumeUpdate hash now))) i s =
        (Stmt.passwordResetTokens (.consumeUpdate hash now)).exec D i.now s := by
      simp only [exec, f]
    rw [executed]
    rcases consumeUpdate_spends (D := D) keys hash now with ⟨zero, same⟩ | spent
    · refine .inl ⟨same, ?_⟩
      have answer : ((Stmt.passwordResetTokens (.consumeUpdate hash now)).exec D i.now s).1 = .ok 0 := zero
      rw [answer]
      rfl
    · exact .inr spent

/-! ## One call -/

/-- An attempt to redeem the token. -/
structure ResetAttempt where
  tenantId : TenantId
  newPassword : String

def ResetAttempt.program (D : Deploy) (token : String) (a : ResetAttempt) : Service ResetPasswordOutcome :=
  resetPasswordByToken D a.tenantId token a.newPassword

variable {a : ResetAttempt}

/-- An attempt with a password that is not weak competes for the token, and without it fails. -/
lemma ResetAttempt.claims (strong : validatePasswordStrength a.newPassword = .ok ()) :
    (a.program D token).Claims (exec D) UniqueResetTokens (ResetSpent (D.sha256Hex token))
      (fun r => r ≠ .ok ∧ r ≠ .weakPassword) := by
  unfold program resetPasswordByToken
  rw [strong]
  refine claims_outcome ?_
  by_cases empty : token = ""
  · subst empty
    exact ⟨nofun, nofun⟩
  · have given : decide (token ≠ "") = true := decide_eq_true empty
    rw [ensure_true_bind given]
    refine claims_bind (R := fun _ => True) trivial fun _ _ => ?_
    refine claims_bind (claims_lift (claims_op fun _ _ => rfl)) fun now _ => ?_
    refine claims_bind (R := (· = none)) (claims_orLeave ?_) ?_
    · refine (consume_claims (D := D) (D.sha256Hex token) now).mono ?_
      rintro (e | record) within
      · exact ⟨nofun, nofun⟩
      · exact within
    · rintro _ rfl
      exact ⟨nofun, nofun⟩

/-- An attempt with a weak one makes no call. -/
lemma ResetAttempt.weak {e : String} (weak : validatePasswordStrength a.newPassword = .error e) :
    ∃ r, r ≠ .ok ∧ a.program D token = .ret r := by
  unfold program resetPasswordByToken
  rw [weak]
  by_cases empty : token = ""
  · subst empty
    exact ⟨.invalidOrExpired, nofun, rfl⟩
  · have given : decide (token ≠ "") = true := decide_eq_true empty
    rw [ensure_true_bind given]
    exact ⟨.weakPassword, nofun, rfl⟩

/-! ## What an attempt does -/

/-- Passwords, sessions, refresh tokens and codes are the same. -/
structure SameCredentials (s s' : Store) : Prop where
  users : s'.users = s.users
  ssoSessions : s'.ssoSessions = s.ssoSessions
  refreshTokens : s'.refreshTokens = s.refreshTokens
  codes : s'.codes = s.codes

lemma SameCredentials.refl (s : Store) : SameCredentials s s := ⟨rfl, rfl, rfl, rfl⟩

/-- The user has no session and no refresh token or code that is good at `now`. -/
structure CredentialsRevoked (userId : Uuid) (now : DateTime) (s : Store) : Prop where
  ssoSessions : ∀ x ∈ s.ssoSessions, x.userId ≠ userId
  refreshTokens : ∀ t ∈ s.refreshTokens, t.userId = userId → t.isRevoked = true
  codes : ∀ c ∈ s.codes, c.userId = userId → c.usedAt = none → c.expiresAt ≤ now

/-- A successful reset at `now`: what was presented, and what it has made of the password. -/
structure PasswordReset (D : Deploy) (s : Store) (token : String) (a : ResetAttempt)
    (record : PasswordResetToken) (user : User) (now : DateTime) (hash : String) (s' : Store) : Prop where
  stored : record ∈ s.passwordResetTokens
  presented : record.tokenHash = D.sha256Hex token
  unused : record.usedAt = none
  unexpired : record.expiresAt > now
  owner : s.users.find? (·.id = record.userId) = some user
  active : user.isActive
  home : user.tenantId = a.tenantId
  hashed : ∃ salt, D.hashPassword salt a.newPassword = .ok hash
  users : s'.users = s.users.map fun u =>
    if u.id = user.id then { u with passwordHash := hash, mustChangePassword := false } else u

section
variable {ins : Nat → Input}

/-- Consumption returns the token it has used up. -/
lemma consume_returns (keys : UniqueResetTokens s) (hash : String) (now : DateTime) :
    (LinkKind.passwordReset.consume hash now).wp (exec D) ins s (fun r s' _ =>
      SameCredentials s s' ∧ ∀ record, r = .ok (some record) → ∃ t ∈ s.passwordResetTokens,
        t.consumable hash now = true ∧ record.userId = t.userId) := by
  unfold LinkKind.consume
  simp only [op, wp_bind, wp_db]
  refine ⟨fun e _ => ⟨.refl s, by rintro _ ⟨⟩⟩, fun _ => ?_⟩
  simp only [Stmt.exec, PasswordResetTokenStmt.exec, wp_ret]
  split
  · rename_i failed
    cases failed
  · exact ⟨⟨rfl, rfl, rfl, rfl⟩, by rintro _ ⟨⟩⟩
  · rename_i n counted
    have count : s.passwordResetTokens.countP (·.consumable hash now) = n + 1 := Except.ok.inj counted
    obtain ⟨t, mem, consumable⟩ := List.countP_pos_iff.mp (by rw [count]; exact Nat.succ_pos n)
    have named : t.tokenHash = hash := (of_decide_eq_true consumable).1
    rw [wp_db]
    refine ⟨fun e _ => ⟨⟨rfl, rfl, rfl, rfl⟩, by rintro _ ⟨⟩⟩, fun _ => ⟨⟨rfl, rfl, rfl, rfl⟩, ?_⟩⟩
    intro record found
    have row := Except.ok.inj found
    rw [List.find?_map, Option.map_eq_some_iff] at row
    obtain ⟨u, row, rfl⟩ := row
    have hash' := List.find?_some row
    simp only [Function.comp_apply, decide_eq_true_eq] at hash'
    have same : u = t := by
      refine keys.same (List.mem_of_find?_eq_some row) mem (Eq.trans ?_ named.symm)
      rw [← hash']
      split <;> rfl
    refine ⟨t, mem, consumable, ?_⟩
    rw [same]
    split <;> rfl

/-- The three revocations at the end: failures are passed over. -/
lemma revocations_wp {userId : Uuid} {now : DateTime} :
    wpE (exec D) (ε := ResetPasswordOutcome) (do
      let _ ← db (.ssoSessions (.deleteAllForUser userId))
      let _ ← db (.refreshTokens (.revokeAllForUser userId now))
      let _ ← db (.codes (.revokeAllActiveForUser userId now))
      return .ok) ins s
      (fun r s' _ => r = ResetPasswordOutcome.ok ∧ s'.users = s.users ∧
        ((∀ n, (ins n).fault = none) → CredentialsRevoked userId now s')) (fun _ _ _ => False) := by
  rw [wpE_op, wpE_op, wpE_op]
  refine ⟨rfl, ?_, fun quiet => ?_⟩
  · rw [exec_users _ _ (fun _ eq => by cases eq), exec_users _ _ (fun _ eq => by cases eq),
      exec_users _ _ (fun _ eq => by cases eq)]
  · simp only [exec, quiet, Stmt.exec, SsoSessionStmt.exec, RefreshTokenStmt.exec, CodeStmt.exec]
    constructor
    · intro x mem
      exact of_decide_eq_true (List.mem_filter.mp mem).2
    · intro t mem own
      obtain ⟨r, -, rfl⟩ := mem_revokeWhere.mp mem
      have kept : (r.revokeIf (·.userId = userId) now).userId = r.userId := by
        unfold RefreshToken.revokeIf
        split <;> rfl
      rw [kept] at own
      simp [own]
    · intro c mem own unused
      obtain ⟨r, -, rfl⟩ := List.mem_map.mp mem
      split at unused
      · cases unused
      · rename_i spared
        rw [if_neg spared] at own ⊢
        exact Int.not_lt.mp fun late => spared ⟨own, unused, late⟩

/-- An attempt that succeeds has reset the password, at the time of its clock. -/
lemma ResetAttempt.succeeds (keys : UniqueResetTokens s) :
    (a.program D token).wp (exec D) ins s (fun r s' tr => r = .ok →
      ∃ record user now hash, PasswordReset D s token a record user now hash s' ∧
        (∃ e ∈ tr, e.op = .clock ∧ e.input.now = now) ∧
        ((∀ n, (ins n).fault = none) → CredentialsRevoked user.id now s')) := by
  unfold program resetPasswordByToken
  rw [wp_outcome, wpE_bind, wpE_ensure]
  refine ⟨fun _ => ?_, fun _ => nofun⟩
  rw [wpE_bind, wpE_orThrow]
  refine ⟨fun _ _ => ?_, fun _ _ => nofun⟩
  rw [wpE_op]
  refine wpE_mono (Q := fun r s' _ => r = .ok → ∃ record user hash,
    PasswordReset D s token a record user (ins 0).now hash s' ∧
      ((∀ n, (ins n).fault = none) → CredentialsRevoked user.id (ins 0).now s'))
    (E := fun r _ _ => r ≠ .ok) ?_ ?_ fun e _ _ ne ok => absurd ok ne
  · rw [wpE_bind, wpE_orLeave]
    refine wp_mono (consume_returns keys _ _) ?_
    rintro (e | row) s₁ tr ⟨same, returned⟩
    · exact nofun
    refine wpE_found_split (fun _ => nofun) fun record found => ?_
    subst found
    obtain ⟨t, stored, consumable, owner⟩ := returned record rfl
    obtain ⟨presented, unused, unexpired⟩ := of_decide_eq_true consumable
    refine wpE_db_split (fun _ _ => nofun) (fun _ _ _ e => by cases e) fun _ _ _ read => ?_
    cases read
    refine wpE_found_split (fun _ => nofun) fun user row => ?_
    obtain ⟨row, fit⟩ := Option.filter_eq_some_iff.mp row
    simp only [Bool.and_eq_true, decide_eq_true_eq] at fit
    rw [wpE_bind, wpE_orLeave, hashPassword, op, wp_hashPassword, wp_ret]
    cases hashed : D.hashPassword _ a.newPassword with
    | error e => exact nofun
    | ok hash =>
      refine wpE_db_split (fun _ _ => nofun) (fun _ _ _ e => by cases e) fun _ _ _ updated => ?_
      cases updated
      refine wpE_mono revocations_wp ?_ fun _ _ _ impossible => impossible.elim
      rintro r s' _ ⟨-, users, revoked⟩ -
      have owned : s.users.find? (·.id = t.userId) = some user := by
        rw [← owner, ← same.users]
        exact row
      refine ⟨t, user, hash, ⟨stored, presented, unused, unexpired, owned, fit.1, fit.2, ⟨_, hashed⟩, ?_⟩,
        fun quiet => revoked fun _ => quiet _⟩
      rw [users, Store.updateUser, same.users]
  · rintro r s' tr reset ok
    obtain ⟨record, user, hash, reset, revoked⟩ := reset ok
    exact ⟨record, user, _, hash, reset, ⟨_, List.mem_cons_self, rfl, rfl⟩, revoked⟩

/-- The calls of an attempt up to the change of the password, and those that go wrong. -/
def Op.Sparing : Op → Prop
  | .clock | .hashPassword _ | .db (.users (.findById _)) | .db (.passwordResetTokens _) => True
  | _ => False

lemma Op.Sparing.same {o : Op} (h : o.Sparing) (i : Input) (s : Store) :
    SameCredentials s (exec D o i s).2 := by
  cases o with
  | clock | hashPassword => exact .refl s
  | db q =>
    cases f : i.fault with
    | some e =>
      simp only [exec, f]
      exact .refl s
    | none =>
      simp only [exec, f]
      cases q with
      | users q =>
        cases q with
        | findById => exact .refl s
        | _ => cases h
      | passwordResetTokens q =>
        rw [Stmt.exec, q.exec_store]
        exact ⟨rfl, rfl, rfl, rfl⟩
      | _ => cases h
  | _ => cases h

/-- The call has left the credentials alone. -/
def Spares (D : Deploy) (e : Call Op Input Store) : Prop := SameCredentials e.pre (e.post (exec D))

lemma sparing_calls {α : Type} {p : Service α} (uses : p.Uses Op.Sparing) :
    p.wp (exec D) ins s fun _ _ tr => ∀ e ∈ tr, Spares D e := by
  refine wp_mono (uses.wp (I := fun _ => True) (fun _ _ _ _ _ => trivial) trivial) ?_
  exact fun _ _ _ calls e mem => (calls.2 e mem).same e.input e.pre

lemma consume_sparing {hash : String} {now : DateTime} :
    (LinkKind.passwordReset.consume hash now).Uses Op.Sparing := by
  refine ⟨trivial, ?_⟩
  rintro (e | _ | n)
  · trivial
  · trivial
  · exact ⟨trivial, fun _ => trivial⟩

/-- Every call of an attempt that does not succeed has left the credentials alone. -/
lemma ResetAttempt.spares :
    (a.program D token).wp (exec D) ins s (fun r _ tr => r ≠ .ok → ∀ e ∈ tr, Spares D e) := by
  unfold program resetPasswordByToken
  rw [wp_outcome]
  refine wpE_calls_step (sparing_calls (uses_ensure _ _)) fun _ s _ => ?_
  refine wpE_calls_step (sparing_calls (uses_orThrow _ _)) fun _ s _ => ?_
  refine wpE_calls_step (sparing_calls (uses_lift (uses_op trivial))) fun now s _ => ?_
  refine wpE_calls_step (sparing_calls (uses_orLeave consume_sparing _)) fun record s _ => ?_
  refine wpE_calls_step (sparing_calls (uses_found _ _)) fun record s _ => ?_
  refine wpE_calls_step (sparing_calls (uses_orLeave (uses_op trivial) _)) fun row s _ => ?_
  refine wpE_calls_step (sparing_calls (uses_found _ _)) fun user s _ => ?_
  refine wpE_calls_step (sparing_calls (uses_orLeave (uses_op trivial) _)) fun hash s _ => ?_
  -- If the password is not changed nothing is, and if it is the attempt succeeds.
  rw [wpE_bind, wpE_orLeave, db, op, wp_db]
  refine ⟨fun e fault => ?_, fun _ => ?_⟩
  · intro _ d mem
    obtain rfl := List.mem_singleton.mp mem
    simp only [Spares, Call.post, exec, fault]
    exact .refl s
  · refine wpE_mono revocations_wp (fun _ _ _ done ne => absurd done.1 ne) ?_
    exact fun _ _ _ impossible => impossible.elim

/-- An attempt with a password that is not weak is not told that it is. -/
lemma ResetAttempt.strong (ok : validatePasswordStrength a.newPassword = .ok ()) :
    (a.program D token).always (exec D) s (fun r _ => r ≠ .weakPassword) := by
  unfold program resetPasswordByToken
  rw [always_outcome]
  refine ensure_step (fun _ => nofun) fun _ => ?_
  refine orThrow_step (fun e weak => ?_) fun _ _ => ?_
  · rw [ok] at weak
    cases weak
  have steps : ∀ {β : Type} {p : Service (DbResult β)}
      {k : β → ServiceFlow ResetPasswordOutcome ResetPasswordOutcome} {s : Store},
      (∀ b s, alwaysE (exec D) (k b) s (fun r _ => r ≠ .weakPassword) fun r _ => r ≠ .weakPassword) →
      alwaysE (exec D) (orLeave p (.internal ·.display) >>= k) s (fun r _ => r ≠ .weakPassword)
        fun r _ => r ≠ .weakPassword := by
    intro β p k s next
    rw [alwaysE_bind, alwaysE_orLeave]
    exact always_mono (always_true p s) fun _ _ _ => ⟨fun b _ => next b _, fun _ _ => nofun⟩
  refine op_step fun _ => ?_
  refine steps fun _ _ => found_step (fun _ => nofun) fun _ _ => ?_
  refine steps fun _ _ => found_step (fun _ => nofun) fun _ _ => ?_
  refine steps fun _ _ => steps fun _ _ => ?_
  exact op_step fun _ => op_step fun _ => op_step fun _ => nofun

end

/-! ## Many attempts -/

abbrev ResetPool := Program.Config Op.Res Input Store ResetPasswordOutcome

/-- Attempts to redeem one token, at once. -/
def resetPool (D : Deploy) (s : Store) (token : String) (attempts : Nat → ResetAttempt) : ResetPool :=
  Config.start s fun t => (attempts t).program D token

/-- The statements of a thread have not failed. -/
def ResetPool.Quiet (c : ResetPool) (t : Nat) : Prop := ∀ e ∈ c.trace, e.tid = t → e.input.fault = none

section
variable {s₀ : Store} {attempts : Nat → ResetAttempt} {c : ResetPool} {t : Nat}

/-- What an attempt that has not got hold of the token returns. -/
def Refused (a : ResetAttempt) (r : ResetPasswordOutcome) : Prop :=
  r ≠ .ok ∧ (validatePasswordStrength a.newPassword = .ok () → r ≠ .weakPassword)

/-- The attempts compete for the token. -/
abbrev ResetRace (D : Deploy) (s : Store) (token : String) (attempts : Nat → ResetAttempt) (c : ResetPool) :
    Prop :=
  Config.Race (exec D) UniqueResetTokens (ResetSpent (D.sha256Hex token)) (fun t => Refused (attempts t))
    (fun t => (attempts t).program D token) s c

lemma resetRace (keys : UniqueResetTokens s) (token : String) (attempts : Nat → ResetAttempt)
    (sched : List (Nat × Input)) :
    ResetRace D s token attempts (Config.exec (exec D) (resetPool D s token attempts) sched) := by
  refine Config.race (fun o i s keys => keys.step o i)
    (fun o (linkless : o.Linkless) i s _ spent => spent.stays linkless i) (fun t => ?_) (fun t => ?_) keys sched
  · exact resetPasswordByToken_uses _ _ _
  · cases strength : validatePasswordStrength (attempts t).newPassword with
    | ok => exact (ResetAttempt.claims strength).mono fun r lost => ⟨lost.1, fun _ => lost.2⟩
    | error e =>
      have fails : ∃ r, r ≠ .ok ∧ (attempts t).program D token = .ret r := ResetAttempt.weak strength
      obtain ⟨r, refused, returned⟩ := fails
      rw [returned]
      refine ⟨refused, fun strong => ?_⟩
      rw [strength] at strong
      cases strong

/-- One that succeeds has reset the password. -/
lemma ResetRace.succeeded (race : ResetRace D s token attempts c) (keys : UniqueResetTokens s)
    (e : c.thread t = .ret .ok) :
    ∃ record user now hash, PasswordReset D s token (attempts t) record user now hash c.store ∧
      (∃ e ∈ c.trace, e.tid = t ∧ e.op = .clock ∧ e.input.now = now) ∧
      (ResetPool.Quiet c t → CredentialsRevoked user.id now c.store) := by
  rcases race.returned e with ⟨lost, -⟩ | alone
  · exact absurd rfl lost.1
  obtain ⟨ins, run, trace, inputs⟩ := alone.finished (Sample.input 0)
  have spec : ((attempts t).program D token).wp (exec D) ins s _ := ResetAttempt.succeeds keys
  rw [wp_iff_run, run, trace] at spec
  obtain ⟨record, user, now, hash, reset, ⟨d, mem, clock, time⟩, revoked⟩ := spec rfl
  refine ⟨record, user, now, hash, reset, ?_, fun quiet => ?_⟩
  · obtain ⟨e, made, own, rfl⟩ := Config.callsOf_mem mem
    exact ⟨e, made, own, clock, time⟩
  · refine revoked (inputs (fun i => i.fault = none) (fun d mem => ?_) rfl)
    obtain ⟨e, made, own, rfl⟩ := Config.callsOf_mem mem
    exact quiet e made own

/-- One that does not has left the credentials alone. -/
lemma ResetRace.failed (race : ResetRace D s token attempts c) {r : ResetPasswordOutcome}
    (e : c.thread t = .ret r) (failed : r ≠ .ok) : ∀ e ∈ c.trace, e.tid = t → Spares D e.toCall := by
  intro d mem own
  rcases race.returned e with ⟨-, idle⟩ | alone
  · have same : d.toCall.post (exec D) = d.pre := idle d mem own
    rw [Spares, same]
    exact .refl _
  · obtain ⟨ins, run, trace, -⟩ := alone.finished (Sample.input 0)
    have spec : ((attempts t).program D token).wp (exec D) ins s _ := ResetAttempt.spares
    rw [wp_iff_run, run, trace] at spec
    subst own
    exact spec failed _ (Config.mem_callsOf mem)

/-- Only one with a weak password is told so. -/
lemma ResetRace.weak (race : ResetRace D s token attempts c) (e : c.thread t = .ret .weakPassword) :
    ∃ d, validatePasswordStrength (attempts t).newPassword = .error d := by
  cases strength : validatePasswordStrength (attempts t).newPassword with
  | error d => exact ⟨d, rfl⟩
  | ok =>
    rcases race.returned e with ⟨lost, -⟩ | alone
    · exact absurd rfl (lost.2 strength)
    · obtain ⟨ins, run, -, -⟩ := alone.finished (Sample.input 0)
      have strong : ((attempts t).program D token).always (exec D) s _ := ResetAttempt.strong strength
      have spec := strong.run ins
      rw [run] at spec
      exact absurd rfl spec

end

/-- In every interleaving of attempts with one token, from every reachable state: at most one succeeds; one
that does presented a token that was unused and unexpired at the time of its clock, of an active user at
home in its tenant, and unless its statements fail the user has the new password and neither a session nor
a refresh token or code that is still good; all calls of the others leave passwords, sessions, refresh
tokens and codes alone; and one with a weak password makes no call. -/
theorem reset_token_redeemed_once {s₀ : Store} (reach : Reaches (exec D) (fun _ => True) s₀ s)
    (empty : s₀.passwordResetTokens = []) (token : String) (attempts : Nat → ResetAttempt)
    (sched : List (Nat × Input)) :
    let c := Config.exec (exec D) (resetPool D s token attempts) sched
    (∀ t u, c.thread t = .ret .ok → c.thread u = .ret .ok → t = u) ∧
    (∀ t, c.thread t = .ret .ok → ∃ record user now hash,
      PasswordReset D s token (attempts t) record user now hash c.store ∧
      (∃ e ∈ c.trace, e.tid = t ∧ e.op = .clock ∧ e.input.now = now) ∧
      (ResetPool.Quiet c t → CredentialsRevoked user.id now c.store)) ∧
    (∀ t r, c.thread t = .ret r → r ≠ .ok → ∀ e ∈ c.trace, e.tid = t → Spares D e.toCall) ∧
    (∀ t, c.thread t = .ret .weakPassword → ∀ e ∈ c.trace, e.tid ≠ t) := by
  intro c
  have keys := uniqueResetTokens reach empty
  have race := resetRace (D := D) keys token attempts sched
  refine ⟨fun t u returned returned' => ?_, fun t => race.succeeded keys, fun t r => race.failed, ?_⟩
  · exact race.one returned (fun lost => lost.1 rfl) returned' fun lost => lost.1 rfl
  · intro t returned
    obtain ⟨d, weak⟩ := race.weak returned
    have fails : ∃ r, r ≠ .ok ∧ (attempts t).program D token = .ret r := ResetAttempt.weak weak
    obtain ⟨r, -, program⟩ := fails
    exact (Config.uncalled_of_ret program (by simp [resetPool, Config.start]) sched).2

namespace Sample

def resetDeploy : Deploy := { deploy with hashPassword := fun _ password => .ok ("argon2:" ++ password) }

/-- A reset token of alice. -/
def resetToken : PasswordResetToken := linkToken deploy .passwordReset aliceId (plainToken 2) now

/-- Alice has had a code that she has not redeemed in time. -/
def lateStore : Store := { store with codes := [{ code with expiresAt := now }] }

def resetStore : Store := { lateStore with passwordResetTokens := [resetToken] }

/-- One strong password and many weak ones. -/
def resetAttempts (t : Nat) : ResetAttempt := ⟨tenantA, if t = 0 then "correct horse" else "horse"⟩

/-- The calls of the first attempt. -/
def resetSchedule : List (Nat × Input) := List.replicate 9 (0, input 0)

lemma resetStore_reached : Reaches (exec resetDeploy) (fun _ => True) lateStore resetStore := by
  have created : (exec resetDeploy (.db (.passwordResetTokens (.create resetToken))) (input 0) lateStore).2 =
      resetStore := by rfl
  rw [← created]
  exact .step .refl _ _ trivial

end Sample

open Sample in
set_option maxRecDepth 8000 in
theorem reset_token_redeemed_once_sample :
    let c := Config.exec (exec resetDeploy) (resetPool resetDeploy resetStore (plainToken 2) resetAttempts)
      resetSchedule
    c.thread 0 = .ret .ok ∧ ∀ t, c.thread t = .ret .ok → t = 0 := by
  intro c
  have succeeded : c.thread 0 = .ret .ok := by rfl
  have once := (reset_token_redeemed_once resetStore_reached rfl (plainToken 2) resetAttempts resetSchedule).1
  exact ⟨succeeded, fun t returned => once t 0 returned succeeded⟩

open Sample in
set_option maxRecDepth 8000 in
/-- A reset leaves a code that has not been consumed, because it has expired. -/
theorem reset_keeps_expired_code :
    let c := Config.exec (exec resetDeploy) (resetPool resetDeploy resetStore (plainToken 2) resetAttempts)
      resetSchedule
    c.thread 0 = .ret .ok ∧ ResetPool.Quiet c 0 ∧
      ∃ x ∈ resetStore.codes, x.userId = aliceId ∧ x.usedAt = none ∧ x ∈ c.store.codes := by
  intro c
  have quiet : ∀ e ∈ c.trace, e.input.fault = none := by decide +kernel
  have left : c.store.codes = lateStore.codes := by rfl
  refine ⟨rfl, fun e mem _ => quiet e mem, { code with expiresAt := now }, ?_, rfl, rfl, ?_⟩
  · exact List.mem_singleton_self _
  · rw [left]
    exact List.mem_singleton_self _

end IdpMvp
