import IdpMvp.Program.History
import IdpMvp.Sample
import IdpMvp.Service.MailLinks
import IdpMvp.Store.Effects
import IdpMvp.Store.Monitors
import Mathlib.Data.List.Induction

/-!
# Only the latest link works

A request for a link first invalidates the unused tokens of its user and then stores its own, in two
statements. Between requests that do not overlap this leaves one token that can be redeemed, the one
stored last (`latest_link_only`). Two requests that both invalidate before either stores leave two.
-/

namespace IdpMvp

open Program Program.Prog Program.Flow

variable {D : Deploy}

/-! ## Requests -/

inductive LinkCall where
  | requestReset (tenantId : TenantId) (email : String) (ipAddress : Option String)
  | sendVerification (tenantId : TenantId) (userId : Uuid) (email : String)
  | resetPassword (tenantId : TenantId) (token newPassword : String)
  | verify (tenantId : TenantId) (token : String)

inductive LinkAnswer where
  | requested (r : RequestResetOutcome)
  | sent (r : Bool)
  | reset (r : ResetPasswordOutcome)
  | verified (r : VerifyEmailOutcome)

def LinkCall.program (D : Deploy) : LinkCall → Service LinkAnswer
  | requestReset tenantId email ipAddress =>
    return .requested (← IdpMvp.requestReset D tenantId email ipAddress)
  | sendVerification tenantId userId email =>
    return .sent (← IdpMvp.sendVerification D tenantId userId email)
  | resetPassword tenantId token newPassword =>
    return .reset (← resetPasswordByToken D tenantId token newPassword)
  | verify tenantId token => return .verified (← verifyEmail D tenantId token)

abbrev LinkPool := Program.Config Op.Res Input Store LinkAnswer

def linkPool (D : Deploy) (s : Store) (calls : Nat → LinkCall) : LinkPool :=
  Config.start s fun t => (calls t).program D

/-! ## Tokens that can be redeemed -/

namespace LinkKind

/-- The table of the tokens. -/
def rows : LinkKind → Store → List PasswordResetToken
  | passwordReset, s => s.passwordResetTokens
  | emailVerification, s => s.emailVerificationTokens

def createStmt : LinkKind → PasswordResetToken → Stmt
  | passwordReset, t => .passwordResetTokens (.create t)
  | emailVerification, t => .emailVerificationTokens (.create t)

def invalidateStmt : LinkKind → Uuid → DateTime → Stmt
  | passwordReset, userId, now => .passwordResetTokens (.invalidateAllForUser userId now)
  | emailVerification, userId, now => .emailVerificationTokens (.invalidateAllForUser userId now)

end LinkKind

/-- The token is the user's, unused and unexpired. -/
def PasswordResetToken.isOpen (userId : Uuid) (now : DateTime) (t : PasswordResetToken) : Bool :=
  t.userId = userId ∧ t.usedAt = none ∧ t.expiresAt > now

/-- The tokens of a user that can be redeemed at `now`. -/
def LinkKind.openTokens (kind : LinkKind) (s : Store) (userId : Uuid) (now : DateTime) :
    List PasswordResetToken :=
  (kind.rows s).filter (·.isOpen userId now)

/-- The entry has invalidated the unused tokens of the user. -/
def Invalidates (kind : LinkKind) (userId : Uuid) (e : Program.Entry Op Input Store) : Prop :=
  ∃ now, e.op = .db (kind.invalidateStmt userId now) ∧ e.input.fault = none

/-- The entry has stored the token. -/
def Stores (D : Deploy) (kind : LinkKind) (t : PasswordResetToken) (e : Program.Entry Op Input Store) : Prop :=
  e.op = .db (kind.createStmt t) ∧ kind.rows (e.post (exec D)) = kind.rows e.pre ++ [t]

/-- At most one token of the user can be redeemed, and it is the one that was stored last. -/
structure LatestOnly (D : Deploy) (kind : LinkKind) (userId : Uuid) (now : DateTime) (c : LinkPool) :
    Prop where
  one : (kind.openTokens c.store userId now).length ≤ 1
  latest : ∀ t ∈ kind.openTokens c.store userId now, ∀ before e after t',
    c.trace = before ++ e :: after → Stores D kind t' e → t'.userId = userId →
    (∀ d ∈ after, ∀ t'', Stores D kind t'' d → t''.userId ≠ userId) → t' = t

/-- Since request `tid` has invalidated the tokens of the user, another token was stored that can still
be redeemed. -/
def Overlapped (D : Deploy) (kind : LinkKind) (userId : Uuid) (now : DateTime) (c : LinkPool)
    (tid : Nat) : Prop :=
  ∃ before e after, c.trace = before ++ e :: after ∧ e.tid = tid ∧ Invalidates kind userId e ∧
    ∃ d ∈ after, ∃ t ∈ kind.openTokens c.store userId now, Stores D kind t d

/-- The next call does not store a token of the user in an overlap. -/
def StoresAlone (D : Deploy) (kind : LinkKind) (userId : Uuid) (now : DateTime) (c : LinkPool)
    (x : Nat × Input) : Prop :=
  ∀ o k t, c.thread x.1 = .call o k → Stores D kind t ⟨⟨o, x.2, c.store⟩, x.1⟩ → t.userId = userId →
    ¬ Overlapped D kind userId now c x.1

/-! ## What a call does to the tokens -/

/-- What an operation makes of the tokens of one kind: it stores one, it marks some as used, or it deletes
those of a user. -/
inductive LinkEffect (kind : LinkKind) (op : Op) (rows : List PasswordResetToken) :
    List PasswordResetToken → Prop where
  | keep : LinkEffect kind op rows rows
  | create (t : PasswordResetToken) (eq : op = .db (kind.createStmt t))
    (fresh : t ∉ rows) : LinkEffect kind op rows (rows ++ [t])
  | mark (p : PasswordResetToken → Prop) [DecidablePred p] (now : DateTime) :
    LinkEffect kind op rows (rows.map fun t => if p t then { t with usedAt := some now } else t)
  | deleteUser (userId : Uuid) : LinkEffect kind op rows (rows.filter (·.userId ≠ userId))

lemma exec_links (kind : LinkKind) (op : Op) (i : Input) (s : Store) :
    LinkEffect kind op (kind.rows s) (kind.rows (exec D op i s).2) := by
  have w := exec_written (D := D) op i s
  generalize (exec D op i s).2 = s' at w
  -- A row with the hash of another one is not stored.
  have stored : ∀ {rows : List PasswordResetToken} {t : PasswordResetToken},
      ¬ rows.any (·.tokenHash = t.tokenHash) = true → t ∉ rows := by
    intro rows t fresh mem
    exact fresh (List.any_eq_true.mpr ⟨t, mem, by simp⟩)
  cases kind with
  | passwordReset =>
    cases w with
    | passwordResetTokens q eq rows h =>
      subst h
      cases q with
      | create t =>
        simp only [PasswordResetTokenStmt.exec, LinkKind.rows]
        split_ifs with known
        · exact .keep
        · exact .keep
        · exact .create t eq (stored known)
      | consumeUpdate hash now => exact .mark (fun t => t.consumable hash now = true) now
      | invalidateAllForUser userId now => exact .mark (fun t => t.userId = userId ∧ t.usedAt = none) now
      | consumeSelect => exact .keep
    | deleteUser id => exact .deleteUser id
    | _ => exact .keep
  | emailVerification =>
    cases w with
    | emailVerificationTokens q eq rows h =>
      subst h
      cases q with
      | create t =>
        simp only [EmailVerificationTokenStmt.exec, LinkKind.rows]
        split_ifs with known
        · exact .keep
        · exact .keep
        · exact .create t eq (stored known)
      | consumeUpdate hash now => exact .mark (fun t => t.consumable hash now = true) now
      | invalidateAllForUser userId now => exact .mark (fun t => t.userId = userId ∧ t.usedAt = none) now
      | consumeSelect => exact .keep
    | deleteUser id => exact .deleteUser id
    | _ => exact .keep

/-- An unused token was there before, unchanged, or is the one that the call stores. -/
lemma LinkEffect.unused {kind : LinkKind} {op : Op} {rows rows' : List PasswordResetToken}
    {t : PasswordResetToken} (w : LinkEffect kind op rows rows') (mem : t ∈ rows')
    (unused : t.usedAt = none) :
    t ∈ rows ∨ (op = .db (kind.createStmt t) ∧ rows' = rows ++ [t]) := by
  cases w with
  | keep => exact .inl mem
  | create t' eq =>
    rcases List.mem_append.mp mem with mem | mem
    · exact .inl mem
    · obtain rfl := List.mem_singleton.mp mem
      exact .inr ⟨eq, rfl⟩
  | mark p now =>
    rcases mem_map_ite mem with mem | ⟨r, -, -, rfl⟩
    · exact .inl mem
    · cases unused
  | deleteUser userId => exact .inl (List.mem_filter.mp mem).1

/-- A token that is stored was not there. -/
lemma LinkEffect.fresh {kind : LinkKind} {op : Op} {rows rows' : List PasswordResetToken}
    {t : PasswordResetToken} (w : LinkEffect kind op rows rows') (stored : rows' = rows ++ [t]) :
    t ∉ rows := by
  have longer : rows'.length = rows.length + 1 := by simp [stored]
  cases w with
  | keep => omega
  | create t' _ fresh =>
    obtain rfl : t' = t := by simpa using stored
    exact fresh
  | mark p now =>
    rw [List.length_map] at longer
    omega
  | deleteUser userId =>
    have shorter := List.length_filter_le (fun r : PasswordResetToken => decide (r.userId ≠ userId)) rows
    omega

/-- An invalidation leaves no unused token of its user. -/
lemma invalidates_unused {kind : LinkKind} {userId : Uuid} {e : Program.Entry Op Input Store}
    {t : PasswordResetToken} (invalidates : Invalidates kind userId e)
    (mem : t ∈ kind.rows (e.post (exec D))) (own : t.userId = userId) : t.usedAt ≠ none := by
  obtain ⟨now, op, quiet⟩ := invalidates
  have rows : kind.rows (e.post (exec D)) = (kind.rows e.pre).map fun t =>
      if t.userId = userId ∧ t.usedAt = none then { t with usedAt := some now } else t := by
    rw [Call.post, op]
    cases kind <;> simp [exec, quiet, LinkKind.invalidateStmt, Stmt.exec,
      PasswordResetTokenStmt.exec, EmailVerificationTokenStmt.exec, LinkKind.rows]
  rw [rows, List.mem_map] at mem
  obtain ⟨r, -, rfl⟩ := mem
  split_ifs with unused
  · simp
  · intro none
    rw [if_neg unused] at own
    exact unused ⟨own, none⟩

/-! ## A request stores what it has invalidated for -/

/-- Whose tokens a request has invalidated. -/
def linkMonitor : Monitor Op.Res (Option (LinkKind × Uuid)) where
  init := none
  ok φ o := ∀ kind t, o = .db (kind.createStmt t) → φ = some (kind, t.userId)
  next φ o r :=
    match o, r with
    | .db (.passwordResetTokens (.invalidateAllForUser userId _)), .ok _ => some (.passwordReset, userId)
    | .db (.emailVerificationTokens (.invalidateAllForUser userId _)), .ok _ =>
      some (.emailVerification, userId)
    | _, _ => φ

/-- Neither stores nor invalidates. -/
def Op.Linkless : Op → Prop
  | .db (.passwordResetTokens (.create _)) | .db (.passwordResetTokens (.invalidateAllForUser _ _))
  | .db (.emailVerificationTokens (.create _))
  | .db (.emailVerificationTokens (.invalidateAllForUser _ _)) => False
  | _ => True

lemma Op.Linkless.ignored {o : Op} (h : o.Linkless) (φ : Option (LinkKind × Uuid)) :
    linkMonitor.ok φ o ∧ ∀ r, linkMonitor.next φ o r = φ := by
  refine ⟨?_, fun r => ?_⟩
  · rintro kind t rfl
    cases kind <;> cases h
  · unfold linkMonitor
    simp only
    split
    · cases h
    · cases h
    · rfl

lemma issueLink_guarded (kind : LinkKind) (userId : Uuid) :
    alwaysE linkMonitor.oracle (issueLink D kind userId) (some none) (fun _ ψ => ψ.isSome = true)
      (fun _ ψ => ψ.isSome = true) := by
  unfold issueLink
  refine guard_step (fun _ _ e => by cases e) fun now => ?_
  cases kind with
  | passwordReset =>
    refine guard_db_step (fun kind _ e => by cases kind <;> cases e) (fun _ => rfl) fun _ => ?_
    refine guard_step (fun _ _ e => by cases e) fun token => ?_
    refine guard_db_step ?_ (fun _ => rfl) fun _ => rfl
    rintro (_ | _) t e <;> cases e
    rfl
  | emailVerification =>
    refine guard_db_step (fun kind _ e => by cases kind <;> cases e) (fun _ => rfl) fun _ => ?_
    refine guard_step (fun _ _ e => by cases e) fun token => ?_
    refine guard_db_step ?_ (fun _ => rfl) fun _ => rfl
    rintro (_ | _) t e <;> cases e
    rfl

/-- Whatever takes no notice of the links stays in some phase. -/
lemma linkless_phase {o : Op} (linkless : o.Linkless) (answer : (o : Op) → Op.Res o)
    {ψ : Option (Option (LinkKind × Uuid))} (started : ψ.isSome = true) :
    (linkMonitor.oracle o answer ψ).2.isSome = true := by
  obtain ⟨φ, rfl⟩ := Option.isSome_iff_exists.mp started
  rw [Monitor.oracle_some (linkless.ignored φ).1]
  rfl

lemma linkless_always {α : Type} {p : Service α} (u : p.Uses Op.Linkless) :
    p.always linkMonitor.oracle (some none) (fun _ ψ => ψ.isSome = true) :=
  u.always (I := fun ψ : Option (Option (LinkKind × Uuid)) => ψ.isSome = true)
    (fun _ linkless answer _ started => linkless_phase linkless answer started) rfl

lemma linkless_isSome {ε α : Type} {p : ServiceFlow ε α} {ψ : Option (Option (LinkKind × Uuid))}
    (u : p.run.Uses Op.Linkless) (started : ψ.isSome = true) :
    alwaysE linkMonitor.oracle p ψ (fun _ ψ => ψ.isSome = true) (fun _ ψ => ψ.isSome = true) :=
  uses_alwaysE u (fun _ linkless answer _ started => linkless_phase linkless answer started) started

lemma linkless_step {ε α β : Type} {p : ServiceFlow ε β} {k : β → ServiceFlow ε α}
    {φ : Option (LinkKind × Uuid)} (u : p.run.Uses Op.Linkless)
    (next : ∀ b, alwaysE linkMonitor.oracle (k b) (some φ) (fun _ ψ => ψ.isSome = true)
      (fun _ ψ => ψ.isSome = true)) :
    alwaysE linkMonitor.oracle (p >>= k) (some φ) (fun _ ψ => ψ.isSome = true)
      (fun _ ψ => ψ.isSome = true) :=
  aside_step u (fun _ linkless => linkless.ignored φ) (fun _ => rfl) next

lemma smtpServer_linkless : (smtpServer D).run.Uses Op.Linkless := by
  unfold smtpServer
  refine uses_bind (uses_orLeave (uses_op trivial) _) fun settings => ?_
  simp only
  split_ifs
  · trivial
  · exact uses_bind (uses_orThrow _ _) fun _ => trivial

lemma requestReset_guarded (tenantId : TenantId) (email : String) (ipAddress : Option String) :
    (requestReset D tenantId email ipAddress).always linkMonitor.oracle (some none)
      (fun _ ψ => ψ.isSome = true) := by
  unfold requestReset
  rw [always_outcome]
  refine linkless_step (uses_lift (uses_op trivial)) fun now => ?_
  refine linkless_step (uses_lift (uses_op trivial)) fun allowed => ?_
  refine ensure_step (fun _ => rfl) fun _ => ?_
  refine linkless_step (uses_orLeave smtpServer_linkless _) fun server => ?_
  refine ensure_step (fun _ => rfl) fun _ => ?_
  refine linkless_step (uses_orLeave (uses_op trivial) _) fun row => ?_
  refine found_step (fun _ => rfl) fun user _ => ?_
  rw [alwaysE_bind, alwaysE_orLeave]
  refine always_mono (issueLink_guarded .passwordReset user.id) ?_
  rintro (_ | token) ψ issued
  · exact ⟨by simp, fun _ _ => issued⟩
  · refine ⟨fun _ _ => linkless_isSome ?_ issued, by simp⟩
    exact uses_bind (uses_lift (uses_op trivial)) fun _ => trivial

lemma sendVerification_guarded (tenantId : TenantId) (userId : Uuid) (email : String) :
    (sendVerification D tenantId userId email).always linkMonitor.oracle (some none)
      (fun _ ψ => ψ.isSome = true) := by
  unfold sendVerification
  rw [always_outcome]
  refine linkless_step (uses_orLeave smtpServer_linkless _) fun server => ?_
  refine ensure_step (fun _ => rfl) fun _ => ?_
  rw [alwaysE_bind, alwaysE_orLeave]
  refine always_mono (issueLink_guarded .emailVerification userId) ?_
  rintro (_ | token) ψ issued
  · exact ⟨by simp, fun _ _ => issued⟩
  · refine ⟨fun _ _ => linkless_isSome ?_ issued, by simp⟩
    exact uses_bind (uses_orLeave (uses_op trivial) _) fun _ => trivial

lemma consume_linkless (kind : LinkKind) (hash : String) (now : DateTime) :
    (kind.consume hash now).Uses Op.Linkless := by
  cases kind with
  | passwordReset =>
    refine ⟨trivial, ?_⟩
    rintro (e | _ | n)
    · trivial
    · trivial
    · exact ⟨trivial, fun _ => trivial⟩
  | emailVerification =>
    refine ⟨trivial, ?_⟩
    rintro (e | _ | n)
    · trivial
    · trivial
    · exact ⟨trivial, fun _ => trivial⟩

lemma resetPasswordByToken_uses (tenantId : TenantId) (token newPassword : String) :
    (resetPasswordByToken D tenantId token newPassword).Uses Op.Linkless := by
  refine uses_outcome ?_
  refine uses_bind (uses_ensure _ _) fun _ => ?_
  refine uses_bind (uses_orThrow _ _) fun _ => ?_
  refine uses_bind (uses_lift (uses_op trivial)) fun now => ?_
  refine uses_bind (uses_orLeave (consume_linkless _ _ _) _) fun record => ?_
  refine uses_bind (uses_found _ _) fun record => ?_
  refine uses_bind (uses_orLeave (uses_op trivial) _) fun row => ?_
  refine uses_bind (uses_found _ _) fun user => ?_
  refine uses_bind (uses_orLeave (uses_op trivial) _) fun hash => ?_
  refine uses_bind (uses_orLeave (uses_op trivial) _) fun _ => ?_
  refine uses_bind (uses_lift (uses_op trivial)) fun _ => ?_
  refine uses_bind (uses_lift (uses_op trivial)) fun _ => ?_
  exact uses_bind (uses_lift (uses_op trivial)) fun _ => trivial

lemma resetPasswordByToken_linkless (tenantId : TenantId) (token newPassword : String) :
    (resetPasswordByToken D tenantId token newPassword).always linkMonitor.oracle (some none)
      (fun _ ψ => ψ.isSome = true) :=
  linkless_always (resetPasswordByToken_uses tenantId token newPassword)

lemma verifyEmail_linkless (tenantId : TenantId) (token : String) :
    (verifyEmail D tenantId token).always linkMonitor.oracle (some none)
      (fun _ ψ => ψ.isSome = true) := by
  unfold verifyEmail
  rw [always_outcome]
  refine linkless_isSome ?_ rfl
  refine uses_bind (uses_ensure _ _) fun _ => ?_
  refine uses_bind (uses_lift (uses_op trivial)) fun now => ?_
  refine uses_bind (uses_orLeave (consume_linkless _ _ _) _) fun record => ?_
  refine uses_bind (uses_found _ _) fun record => ?_
  refine uses_bind (uses_orLeave (uses_op trivial) _) fun row => ?_
  refine uses_bind (uses_found _ _) fun user => ?_
  exact uses_bind (uses_orLeave (uses_op trivial) _) fun _ => trivial

lemma linkCall_guarded (call : LinkCall) :
    (call.program D).Guarded linkMonitor none (fun _ _ => True) := by
  have kept : (call.program D).always linkMonitor.oracle (some none) (fun _ ψ => ψ.isSome = true) := by
    cases call with
    | requestReset tenantId email ipAddress =>
      exact (always_bind _ _).mpr (requestReset_guarded tenantId email ipAddress)
    | sendVerification tenantId userId email =>
      exact (always_bind _ _).mpr (sendVerification_guarded tenantId userId email)
    | resetPassword tenantId token newPassword =>
      exact (always_bind _ _).mpr (resetPasswordByToken_linkless tenantId token newPassword)
    | verify tenantId token => exact (always_bind _ _).mpr (verifyEmail_linkless tenantId token)
  refine guarded_of_always (always_mono kept fun _ ψ started => ?_)
  obtain ⟨φ, rfl⟩ := Option.isSome_iff_exists.mp started
  exact ⟨φ, rfl, trivial⟩

/-- A call moves the phase of its request only if it invalidates. -/
lemma linkMonitor_step {φ : Option (LinkKind × Uuid)} {e : Program.Entry Op Input Store} {kind : LinkKind}
    {userId : Uuid} (phase : linkMonitor.next φ e.op (e.res (exec D)) = some (kind, userId)) :
    φ = some (kind, userId) ∨ Invalidates kind userId e := by
  obtain ⟨⟨op, i, pre⟩, tid⟩ := e
  simp only [Call.res, linkMonitor] at phase
  split at phase
  · rename_i answered
    cases phase
    refine .inr ⟨_, rfl, ?_⟩
    cases f : i.fault with
    | none => rfl
    | some d => simp [exec, f] at answered
  · rename_i answered
    cases phase
    refine .inr ⟨_, rfl, ?_⟩
    cases f : i.fault with
    | none => rfl
    | some d => simp [exec, f] at answered
  · exact .inl phase

/-- A request that has invalidated tokens did so in a call of its own. -/
lemma phase_invalidated {trace : List (Program.Entry Op Input Store)} {tid : Nat} {kind : LinkKind}
    {userId : Uuid} (phase : Config.phase (exec D) linkMonitor tid trace = some (kind, userId)) :
    ∃ before e after, trace = before ++ e :: after ∧ e.tid = tid ∧ Invalidates kind userId e := by
  induction trace using List.reverseRecOn with
  | nil => cases phase
  | append_singleton trace e ih =>
    have earlier : Config.phase (exec D) linkMonitor tid trace = some (kind, userId) →
        ∃ before d after, trace ++ [e] = before ++ d :: after ∧ d.tid = tid ∧
          Invalidates kind userId d := by
      intro phase
      obtain ⟨before, d, after, rfl, tid, invalidates⟩ := ih phase
      exact ⟨before, d, after ++ [e], by simp, tid, invalidates⟩
    rw [Config.phase_snoc] at phase
    split_ifs at phase with own
    · rcases linkMonitor_step phase with phase | invalidates
      · exact earlier phase
      · exact ⟨trace, e, [], rfl, own, invalidates⟩
    · exact earlier phase

/-! ## The invariants -/

/-- The tokens of a user that can be redeemed only get fewer, unless the call stores one. -/
lemma LinkEffect.open_sublist {kind : LinkKind} {op : Op} {rows rows' : List PasswordResetToken}
    {userId : Uuid} (w : LinkEffect kind op rows rows')
    (other : ∀ t, op = .db (kind.createStmt t) → rows' = rows ++ [t] → t.userId ≠ userId)
    (now : DateTime) :
    (rows'.filter (·.isOpen userId now)).Sublist (rows.filter (·.isOpen userId now)) := by
  cases w with
  | keep => exact List.Sublist.refl _
  | create t eq =>
    have foreign := other t eq rfl
    simp [List.filter_append, PasswordResetToken.isOpen, foreign]
  | mark p usedAt =>
    -- A token that is marked is not open, and the others stay as they are.
    have same : (rows.map fun t => if p t then { t with usedAt := some usedAt } else t).filter
        (·.isOpen userId now) = rows.filter fun t => !decide (p t) && t.isOpen userId now := by
      rw [List.filter_map]
      have unmarked : rows.filter (fun t => !decide (p t) && t.isOpen userId now) =
          (rows.filter fun t => !decide (p t) && t.isOpen userId now).map
            fun t => if p t then { t with usedAt := some usedAt } else t := by
        refine (List.map_id _).symm.trans (List.map_congr_left fun t mem => ?_)
        have unmarked := (List.mem_filter.mp mem).2
        simp only [Bool.and_eq_true, Bool.not_eq_true', decide_eq_false_iff_not] at unmarked
        rw [if_neg unmarked.1]
        rfl
      rw [unmarked]
      congr 1
      refine List.filter_congr fun t _ => ?_
      by_cases marked : p t
      · simp [marked, PasswordResetToken.isOpen]
      · simp [marked]
    rw [same, ← List.filter_filter]
    exact List.filter_sublist
  | deleteUser id => exact List.filter_sublist.filter _

lemma not_invalidates_of_stores {kind : LinkKind} {t : PasswordResetToken} {userId : Uuid}
    {e : Program.Entry Op Input Store} (stores : Stores D kind t e) : ¬ Invalidates kind userId e := by
  rintro ⟨now, op, -⟩
  rw [stores.1] at op
  cases kind <;> cases op

/-- Every request keeps to its phases, and an unused token was stored since the last invalidation for
its user, or was there from the start. -/
structure Linking (D : Deploy) (s₀ : Store) (c : LinkPool) : Prop where
  guarded : Config.Guarded (exec D) linkMonitor (fun _ _ _ => True) c
  origin : ∀ kind, ∀ t ∈ LinkKind.rows kind c.store, t.usedAt = none →
    (∀ d ∈ c.trace, ¬ Invalidates kind t.userId d) ∨
    ∃ before e after, c.trace = before ++ e :: after ∧ Stores D kind t e ∧
      ∀ d ∈ after, ¬ Invalidates kind t.userId d

section
variable {s₀ : Store} {c : LinkPool} {kind : LinkKind} {userId : Uuid} {now : DateTime}

lemma Linking.step (h : Linking D s₀ c) (x : Nat × Input) : Linking D s₀ (Config.step (exec D) c x) := by
  refine ⟨h.guarded.step x, fun kind t mem unused => ?_⟩
  cases e : c.thread x.1 with
  | ret a =>
    rw [Config.step_ret e] at mem ⊢
    exact h.origin kind t mem unused
  | call o k =>
    have spared : ¬ Invalidates kind t.userId ⟨⟨o, x.2, c.store⟩, x.1⟩ := fun invalidates => by
      rw [Config.step_call e] at mem
      exact invalidates_unused (D := D) invalidates mem rfl unused
    rw [Config.step_call e] at mem ⊢
    rcases (exec_links kind o x.2 c.store).unused mem unused with mem | ⟨op, rows⟩
    · rcases h.origin kind t mem unused with never | ⟨before, d, after, trace, stores, kept⟩
      · left
        intro d mem
        rcases List.mem_append.mp mem with mem | mem
        · exact never d mem
        · rwa [List.mem_singleton.mp mem]
      · right
        refine ⟨before, d, after ++ [⟨⟨o, x.2, c.store⟩, x.1⟩], by simp [trace], stores, fun d mem => ?_⟩
        rcases List.mem_append.mp mem with mem | mem
        · exact kept d mem
        · rwa [List.mem_singleton.mp mem]
    · exact .inr ⟨c.trace, _, [], rfl, ⟨op, rows⟩, by simp⟩

lemma linking_exec (s₀ : Store) (calls : Nat → LinkCall) (sched : List (Nat × Input)) :
    Linking D s₀ (Config.exec (exec D) (linkPool D s₀ calls) sched) := by
  refine Config.exec_invariant (Config.admissible_true _ sched) ⟨?_, ?_⟩ fun c x h _ => h.step x
  · exact fun t => linkCall_guarded (calls t)
  · exact fun _ _ _ _ => .inl (by simp [linkPool, Config.start])

/-- A request that stores a token alone finds no other one that can be redeemed. -/
lemma Linking.alone {x : Nat × Input} {o : Op} {k : Op.Res o → Service LinkAnswer}
    {t : PasswordResetToken} (h : Linking D s₀ c) (e : c.thread x.1 = .call o k)
    (op : o = .db (kind.createStmt t)) (own : t.userId = userId)
    (alone : ¬ Overlapped D kind userId now c x.1) : kind.openTokens c.store userId now = [] := by
  obtain ⟨before, d, after, trace, tid, invalidates⟩ := phase_invalidated (h.guarded.allowed e kind t op)
  rw [List.eq_nil_iff_forall_not_mem]
  intro r mem
  obtain ⟨row, isOpen⟩ := List.mem_filter.mp mem
  simp only [PasswordResetToken.isOpen, decide_eq_true_eq] at isOpen
  have invalidated : Invalidates kind r.userId d := by rwa [isOpen.1, ← own]
  rcases h.origin kind r row isOpen.2.1 with never | ⟨before', d', after', trace', stores, kept⟩
  · exact never d (by simp [trace]) invalidated
  · refine alone ⟨before, d, after, trace, tid, own ▸ invalidates, d', ?_, r, mem, stores⟩
    exact later_split (trace.symm.trans trace') invalidated (not_invalidates_of_stores stores) kept

lemma LatestOnly.step (w : LatestOnly D kind userId now c) (h : Linking D s₀ c) {x : Nat × Input}
    (alone : StoresAlone D kind userId now c x) :
    LatestOnly D kind userId now (Config.step (exec D) c x) := by
  cases e : c.thread x.1 with
  | ret a => rwa [Config.step_ret e]
  | call o k =>
    rw [Config.step_call e]
    by_cases storing : ∃ t, Stores D kind t ⟨⟨o, x.2, c.store⟩, x.1⟩ ∧ t.userId = userId
    · obtain ⟨t, stores, own⟩ := storing
      have none : kind.openTokens c.store userId now = [] :=
        h.alone e stores.1 own (alone o k t e stores own)
      have only : kind.openTokens (exec D o x.2 c.store).2 userId now =
          [t].filter (·.isOpen userId now) := by
        have rows : kind.rows (exec D o x.2 c.store).2 = kind.rows c.store ++ [t] := stores.2
        rw [LinkKind.openTokens, rows, List.filter_append]
        exact congrArg (· ++ _) none
      refine ⟨?_, fun t' mem before d after t'' split stores' own' last => ?_⟩
      · rw [only]
        exact List.length_filter_le _ _
      · rw [only] at mem
        obtain rfl := List.mem_singleton.mp (List.mem_filter.mp mem).1
        rcases snoc_split split with ⟨-, rfl⟩ | ⟨rest, rfl, -⟩
        · have same := stores'.1.symm.trans stores.1
          cases kind <;> cases same <;> rfl
        · exact absurd own (last _ (by simp) _ stores)
    · have fewer : (kind.openTokens (exec D o x.2 c.store).2 userId now).Sublist
          (kind.openTokens c.store userId now) := by
        refine (exec_links kind o x.2 c.store).open_sublist (fun t op rows own => ?_) now
        exact storing ⟨t, ⟨op, rows⟩, own⟩
      refine ⟨Nat.le_trans fewer.length_le w.one, fun t mem before d after t' split stores own last => ?_⟩
      rcases snoc_split split with ⟨-, rfl⟩ | ⟨rest, rfl, earlier⟩
      · exact absurd ⟨t', stores, own⟩ storing
      · refine w.latest t (fewer.subset mem) before d rest t' earlier stores own fun d mem => ?_
        exact last d (List.mem_append_left _ mem)

/-- Storing a token in an overlap leaves one that was not stored last. -/
lemma LatestOnly.alone {x : Nat × Input} (w : LatestOnly D kind userId now (Config.step (exec D) c x)) :
    StoresAlone D kind userId now c x := by
  rintro o k t e stores own ⟨before, d, after, trace, -, -, d', -, r, mem, -⟩
  have rows : kind.rows (exec D o x.2 c.store).2 = kind.rows c.store ++ [t] := stores.2
  obtain ⟨row, isOpen⟩ := List.mem_filter.mp mem
  rw [Config.step_call e] at w
  have still : r ∈ kind.openTokens (exec D o x.2 c.store).2 userId now := by
    rw [LinkKind.openTokens, rows, List.filter_append]
    exact List.mem_append_left _ mem
  obtain rfl := w.latest r still c.trace _ [] t rfl stores own (by simp)
  exact (exec_links kind o x.2 c.store).fresh rows row

end

/-- In every interleaving in which no request stores its token while another one, stored since its own
invalidation, can still be redeemed, only the token stored last can be redeemed; and that stays so after
the next call exactly if it keeps to this. -/
theorem latest_link_only (D : Deploy) (s₀ : Store) (calls : Nat → LinkCall) (kind : LinkKind)
    (userId : Uuid) (now : DateTime) (start : (kind.openTokens s₀ userId now).length ≤ 1)
    (sched : List (Nat × Input))
    (alone : Config.Admissible (exec D) (StoresAlone D kind userId now) (linkPool D s₀ calls) sched) :
    let c := Config.exec (exec D) (linkPool D s₀ calls) sched
    LatestOnly D kind userId now c ∧
      ∀ x, LatestOnly D kind userId now (Config.step (exec D) c x) ↔ StoresAlone D kind userId now c x := by
  have inv := Config.exec_invariant
    (I := fun c => Linking D s₀ c ∧ LatestOnly D kind userId now c) alone ⟨?_, ?_⟩ ?_
  · obtain ⟨linking, latest⟩ := inv
    exact ⟨latest, fun x => ⟨LatestOnly.alone, latest.step linking⟩⟩
  · exact linking_exec s₀ calls []
  · exact ⟨start, fun t mem before e after t' split => by simp [linkPool, Config.start] at split⟩
  · intro c x ⟨linking, latest⟩ alone
    exact ⟨linking.step x, latest.step linking alone⟩

namespace Sample

/-- The settings with which mails can be sent. -/
def smtpSettings : List SystemSetting :=
  [⟨"smtp.host", "mail.example", false⟩, ⟨"smtp.from_address", "idp@mail.example", false⟩]

def mailStore : Store := { store with systemSettings := smtpSettings }

/-- Every request asks for a link for Alice. -/
def resetRequests : Nat → LinkCall := fun _ => .requestReset tenantA alice.email none

/-- A request up to its `INSERT`: the clock, the limiter, the settings, the user, the clock, the
invalidation and the token. -/
def uptoInsert (tid : Nat) (n : UInt8) : List (Nat × Input) :=
  [(tid, input 0), (tid, input 0), (tid, input 0), (tid, input 0), (tid, input 0), (tid, input 0),
    (tid, input n)]

/-- Two requests that both invalidate before either stores its token. -/
def overlap : List (Nat × Input) :=
  uptoInsert 0 1 ++ uptoInsert 1 2 ++ [(0, input 0), (1, input 0), (0, input 0), (1, input 0)]

/-- One request after the other. -/
def resetTurns : List (Nat × Input) :=
  uptoInsert 0 1 ++ [(0, input 0), (0, input 0)] ++ uptoInsert 1 2 ++ [(1, input 0), (1, input 0)]

/-- A token is stored only when no link of Alice can be redeemed. -/
def linkless (c : LinkPool) (x : Nat × Input) : Bool :=
  match c.thread x.1 with
  | .call (.db (.passwordResetTokens (.create _))) _ =>
    (LinkKind.passwordReset.openTokens c.store alice.id now).isEmpty
  | _ => true

end Sample

open Sample in
set_option maxRecDepth 4000 in
/-- Both requests have returned and both links work. -/
theorem overlapping_requests_leave_two_links :
    let c := Config.exec (exec deploy) (linkPool deploy mailStore resetRequests) overlap
    c.thread 0 = .ret (.requested .accepted) ∧ c.thread 1 = .ret (.requested .accepted) ∧
      (LinkKind.passwordReset.openTokens c.store alice.id now).length = 2 ∧
      ¬ LatestOnly deploy .passwordReset alice.id now c := by
  intro c
  have two : (LinkKind.passwordReset.openTokens c.store alice.id now).length = 2 := by decide +kernel
  refine ⟨rfl, rfl, two, fun latest => ?_⟩
  have one := latest.one
  omega

open Sample in
set_option maxRecDepth 4000 in
/-- Of the two links that were mailed in turn, only the second works. -/
theorem latest_link_only_sample :
    let c := Config.exec (exec deploy) (linkPool deploy mailStore resetRequests) resetTurns
    c.thread 0 = .ret (.requested .accepted) ∧ c.thread 1 = .ret (.requested .accepted) ∧
      c.store.passwordResetTokens.length = 2 ∧
      (LinkKind.passwordReset.openTokens c.store alice.id now).length = 1 ∧
      LatestOnly deploy .passwordReset alice.id now c := by
  intro c
  have sound : ∀ c x, linkless c x = true → StoresAlone deploy .passwordReset alice.id now c x := by
    rintro c x passes o k t e stores - ⟨-, -, -, -, -, -, -, -, r, mem, -⟩
    obtain rfl : o = .db (.passwordResetTokens (.create t)) := stores.1
    simp only [linkless, e] at passes
    rw [List.isEmpty_iff.mp passes] at mem
    cases mem
  have rows : c.store.passwordResetTokens.length = 2 ∧
      (LinkKind.passwordReset.openTokens c.store alice.id now).length = 1 := by decide +kernel
  refine ⟨rfl, rfl, rows.1, rows.2, ?_⟩
  exact (latest_link_only deploy mailStore resetRequests .passwordReset alice.id now (by decide +kernel) resetTurns
    (Config.admissible_of_passes sound (by decide +kernel))).1

end IdpMvp
