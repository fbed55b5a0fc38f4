import IdpMvp.Program.Chain
import IdpMvp.Program.History
import IdpMvp.Sample
import IdpMvp.Token.Revoking

/-!
# Refresh token chains over sequential runs

The refresh token table under the calls that write it: the token endpoint, the revocation endpoint
and the user lifecycle. Each call makes one of five kinds of write (`RefreshWrite`), and each kind
keeps the table a table of rotation chains (`Program.Rotation`), whatever the other services do to the
other tables in between.
-/

namespace IdpMvp

open Program Program.Prog Program.Flow Prog

/-- What a refresh token grants: everything rotation must carry over unchanged. -/
structure RefreshGrant where
  tenantId : TenantId
  clientId : String
  userId : Uuid
  scope : List String
  expiresAt : DateTime
  deriving DecidableEq, Repr

def RefreshToken.grant (t : RefreshToken) : RefreshGrant :=
  ⟨t.tenantId, t.clientId, t.userId, t.scope, t.expiresAt⟩

/-- `b` was created by rotating `a`. -/
abbrev RefreshToken.Child (rows : List RefreshToken) : RefreshToken → RefreshToken → Prop :=
  Program.Child (·.tokenHash) (·.parentHash) rows

/-- The refresh token table consists of rotation chains. -/
abbrev RefreshChains (rows : List RefreshToken) : Prop :=
  Rotation (·.tokenHash) (·.parentHash) RefreshToken.grant (·.isRevoked = true) rows

/-! ## The writes -/

/-- What one call can do to the refresh token table; a root is one that `issued` holds of. -/
inductive RefreshWrite (issued : RefreshToken → Prop) (rows : List RefreshToken) :
    List RefreshToken → Prop where
  | keep : RefreshWrite issued rows rows
  | root (t : RefreshToken) (granted : issued t) (fresh : ∀ r ∈ rows, r.tokenHash ≠ t.tokenHash)
    (orphan : t.parentHash = none) : RefreshWrite issued rows (rows ++ [t])
  | revoke (p : RefreshToken → Bool) (now : DateTime) :
    RefreshWrite issued rows (revokeWhere p now rows)
  | rotate (stored child : RefreshToken) (now : DateTime) (mem : stored ∈ rows)
    (fresh : ∀ r ∈ rows, r.tokenHash ≠ child.tokenHash)
    (parent : child.parentHash = some stored.tokenHash)
    (first : ∀ r ∈ rows, r.parentHash ≠ some stored.tokenHash)
    (same : child.grant = stored.grant) :
    RefreshWrite issued rows
      (revokeWhere (·.tokenHash = stored.tokenHash) now rows ++ [child])
  | delete (userId : Uuid) : RefreshWrite issued rows (rows.filter (·.userId ≠ userId))

@[simp] lemma revokeIf_grant (p : RefreshToken → Bool) (now : DateTime) (t : RefreshToken) :
    (t.revokeIf p now).grant = t.grant := by
  unfold RefreshToken.revokeIf
  split <;> rfl

lemma RefreshChains.revoke {rows : List RefreshToken} (chains : RefreshChains rows)
    (p : RefreshToken → Bool) (now : DateTime) : RefreshChains (revokeWhere p now rows) :=
  chains.map (fun t => revokeIf_tokenHash p now t) (fun t => revokeIf_parentHash p now t)
    (fun t => revokeIf_grant p now t) (fun t revoked => by simp [revoked])

/-- Every write keeps the chains. -/
lemma RefreshWrite.chains {issued : RefreshToken → Prop} {rows rows' : List RefreshToken}
    (w : RefreshWrite issued rows rows') (chains : RefreshChains rows) : RefreshChains rows' := by
  cases w with
  | keep => exact chains
  | root t _ fresh orphan => exact chains.append_root fresh orphan
  | revoke p now => exact chains.revoke p now
  | rotate stored child now mem fresh parent first same =>
    have mem' : stored.revokeIf (·.tokenHash = stored.tokenHash) now ∈
        revokeWhere (·.tokenHash = stored.tokenHash) now rows :=
      mem_revokeWhere.mpr ⟨stored, mem, rfl⟩
    refine (chains.revoke _ now).append_child mem' ?_ ?_ ?_ ?_ ?_
    · intro r memr
      obtain ⟨t, memt, rfl⟩ := mem_revokeWhere.mp memr
      rw [revokeIf_tokenHash]
      exact fresh t memt
    · rw [parent, revokeIf_tokenHash]
    · intro r memr
      obtain ⟨t, memt, rfl⟩ := mem_revokeWhere.mp memr
      rw [revokeIf_tokenHash, revokeIf_parentHash]
      exact first t memt
    · simp
    · rw [revokeIf_grant, same]
  | delete userId =>
    refine chains.filter ?_
    intro a b same
    have e : a.userId = b.userId := congrArg RefreshGrant.userId same
    simp only [e]

/-- A row after a write stands for a row before it, or it is new: a child of a row before it, or a
root that was issued. -/
lemma RefreshWrite.origin {issued : RefreshToken → Prop} {rows rows' : List RefreshToken}
    (w : RefreshWrite issued rows rows') {t : RefreshToken} (mem : t ∈ rows') (orphan : t.parentHash = none) :
    (∃ r ∈ rows, r.tokenHash = t.tokenHash ∧ r.parentHash = none ∧ r.grant = t.grant) ∨
    (issued t ∧ ∀ r ∈ rows, r.tokenHash ≠ t.tokenHash) := by
  cases w with
  | keep => exact .inl ⟨t, mem, rfl, orphan, rfl⟩
  | root r granted fresh _ =>
    rw [List.mem_append, List.mem_singleton] at mem
    obtain mem | rfl := mem
    · exact .inl ⟨t, mem, rfl, orphan, rfl⟩
    · exact .inr ⟨granted, fresh⟩
  | revoke p now =>
    obtain ⟨r, memr, rfl⟩ := mem_revokeWhere.mp mem
    exact .inl ⟨r, memr, by simp, by simpa using orphan, by simp⟩
  | rotate stored child now mems _ parent _ _ =>
    rw [List.mem_append, List.mem_singleton] at mem
    obtain mem | rfl := mem
    · obtain ⟨r, memr, rfl⟩ := mem_revokeWhere.mp mem
      exact .inl ⟨r, memr, by simp, by simpa using orphan, by simp⟩
    · rw [parent] at orphan
      cases orphan
  | delete userId => exact .inl ⟨t, List.mem_of_mem_filter mem, rfl, orphan, rfl⟩

/-! ## The calls -/

/-- The calls that write refresh tokens. -/
inductive TokenCall where
  | exchange (tenantId : TenantId) (cmd : TokenCommand)
  | revoke (tenantId : TenantId) (token : String) (hint : Option String) (clientId : String)
    (basic : Option (String × String))
  | resetPassword (tenantId : TenantId) (target actor : Uuid)
  | resetPasswordByEmail (tenantId : TenantId) (email : String) (actor : Uuid)
  | setStatus (tenantId : TenantId) (target : Uuid) (status : UserStatus) (actor : Uuid)
  | deleteUser (tenantId : TenantId) (target actor : Uuid)

/-- The store after a call. -/
def TokenCall.run (D : Deploy) (c : TokenCall) (ins : Nat → Input) (s : Store) : Store :=
  match c with
  | exchange tenantId cmd => ((IdpMvp.exchange D tenantId cmd).run (exec D) ins s).2
  | revoke tenantId token hint clientId basic =>
    ((IdpMvp.revoke D tenantId token hint clientId basic).run.run (exec D) ins s).2
  | resetPassword tenantId target actor =>
    ((IdpMvp.resetPassword tenantId target actor).run.run (exec D) ins s).2
  | resetPasswordByEmail tenantId email actor =>
    ((IdpMvp.resetPasswordByEmail tenantId email actor).run.run (exec D) ins s).2
  | setStatus tenantId target status actor =>
    ((IdpMvp.setStatus tenantId target status actor).run.run (exec D) ins s).2
  | deleteUser tenantId target actor =>
    ((IdpMvp.deleteUser tenantId target actor).run.run (exec D) ins s).2

/-- The call is a code grant that answers with the token of `t`. -/
def TokenCall.Issues (D : Deploy) (c : TokenCall) (ins : Nat → Input) (s : Store)
    (t : RefreshToken) : Prop :=
  ∃ tenantId cmd tokens plain, c = exchange tenantId cmd ∧
    cmd.grantType = some "authorization_code" ∧
    ((IdpMvp.exchange D tenantId cmd).run (exec D) ins s).1 = .ok tokens ∧
    tokens.refreshToken = some plain ∧ t.tokenHash = D.sha256Hex plain

variable {D : Deploy}

lemma Revoked.write {issued : RefreshToken → Prop} {token : String} {s s' : Store}
    (r : Revoked D token s s') : RefreshWrite issued s.refreshTokens s'.refreshTokens := by
  cases r with
  | unchanged => exact .keep
  | refresh now => exact .revoke _ now
  | access jti exp now _ =>
    unfold Store.revokeJti
    split
    · exact .keep
    · exact .keep

lemma LifecycleWrite.write {issued : RefreshToken → Prop} {rows rows' : List RefreshToken}
    (w : LifecycleWrite rows rows') : RefreshWrite issued rows rows' := by
  cases w with
  | keep => exact .keep
  | revoke userId now => exact .revoke _ now
  | delete userId => exact .delete userId

lemma Unrotated.write {issued : RefreshToken → Prop} {tenantId : TenantId} {cmd : TokenCommand}
    {s s' : Store} (u : Unrotated D s tenantId cmd s') :
    RefreshWrite issued s.refreshTokens s'.refreshTokens := by
  obtain rfl | ⟨plain, stored, now, -, rfl⟩ := u
  · exact .keep
  · exact .revoke _ now

lemma Rotated.write {issued : RefreshToken → Prop} {tenantId : TenantId} {cmd : TokenCommand}
    {plain newPlain : String} {stored : RefreshToken} {user : User} {now : DateTime}
    {tokens : IssuedTokens} {s s' : Store}
    (r : Rotated D s tenantId cmd plain newPlain stored user now tokens s') :
    RefreshWrite issued s.refreshTokens s'.refreshTokens := by
  obtain ⟨hash, tenant⟩ : stored.tokenHash = D.sha256Hex plain ∧ stored.tenantId = tenantId := by
    simpa using List.find?_some r.row
  rw [r.store, ← hash]
  refine .rotate stored _ now (List.mem_of_find?_eq_some r.row) r.fresh (by rw [hash]; rfl) ?_ ?_
  · rw [hash]
    exact r.first
  · subst tenant
    rfl

lemma Ungranted.write {issued : RefreshToken → Prop} {tenantId : TenantId} {cmd : TokenCommand}
    {s s' : Store} (u : Ungranted D s tenantId cmd s') :
    RefreshWrite issued s.refreshTokens s'.refreshTokens := by
  obtain rfl | ⟨plain, now, -, rfl⟩ := u <;> exact .keep

lemma Granted.write {tenantId : TenantId} {cmd : TokenCommand}
    {plain verifier : String} {code : AuthorizationCode} {user : User} {now : DateTime}
    {tokens : IssuedTokens} {s s' : Store}
    (g : Granted D s tenantId cmd plain verifier code user now tokens s') :
    RefreshWrite (fun t => ∃ plain, tokens.refreshToken = some plain ∧
      t.tokenHash = D.sha256Hex plain) s.refreshTokens s'.refreshTokens := by
  obtain ⟨-, rfl⟩ | ⟨newPlain, issued, fresh, rfl⟩ := g.store
  · exact .keep
  · exact .root _ ⟨newPlain, issued, rfl⟩ fresh rfl

lemma RefreshWrite.imp {issued issued' : RefreshToken → Prop} {rows rows' : List RefreshToken}
    (w : RefreshWrite issued rows rows') (h : ∀ t, issued t → issued' t) :
    RefreshWrite issued' rows rows' := by
  cases w with
  | keep => exact .keep
  | root t granted fresh orphan => exact .root t (h t granted) fresh orphan
  | revoke p now => exact .revoke p now
  | rotate stored child now mem fresh parent first same =>
    exact .rotate stored child now mem fresh parent first same
  | delete userId => exact .delete userId

lemma TokenCall.exchange_writes (tenantId : TenantId) (cmd : TokenCommand) (ins : Nat → Input)
    (s : Store) :
    RefreshWrite (Issues D (exchange tenantId cmd) ins s) s.refreshTokens
      ((exchange tenantId cmd).run D ins s).refreshTokens := by
  by_cases code : cmd.grantType = some "authorization_code"
  · have unfolded : IdpMvp.exchange D tenantId cmd = (exchangeCode D tenantId cmd).run :=
      if_pos code
    simp only [TokenCall.run, unfolded]
    cases e : ((exchangeCode D tenantId cmd).run.run (exec D) ins s).1 with
    | ok tokens =>
      obtain ⟨plain, verifier, row, user, now, granted⟩ := exchangeCode_always.run_ok e
      refine granted.write.imp ?_
      rintro t ⟨newPlain, issued, hash⟩
      exact ⟨tenantId, cmd, tokens, newPlain, rfl, code, by rw [unfolded]; exact e, issued, hash⟩
    | error err => exact (exchangeCode_always.run_error e).write
  · by_cases refresh : cmd.grantType = some "refresh_token"
    · have unfolded : IdpMvp.exchange D tenantId cmd = (exchangeRefreshToken D tenantId cmd).run :=
        (if_neg code).trans (if_pos refresh)
      simp only [TokenCall.run, unfolded]
      cases e : ((exchangeRefreshToken D tenantId cmd).run.run (exec D) ins s).1 with
      | ok tokens =>
        obtain ⟨plain, newPlain, stored, user, now, rotated⟩ := exchangeRefreshToken_always.run_ok e
        exact rotated.write
      | error err => exact (exchangeRefreshToken_always.run_error e).write
    · simp only [TokenCall.run, IdpMvp.exchange, if_neg code, if_neg refresh]
      exact .keep

/-- Every call makes one of the writes, and only a code grant creates a root. -/
lemma TokenCall.writes (c : TokenCall) (ins : Nat → Input) (s : Store) :
    RefreshWrite (c.Issues D ins s) s.refreshTokens (c.run D ins s).refreshTokens := by
  cases c with
  | exchange tenantId cmd => exact TokenCall.exchange_writes tenantId cmd ins s
  | revoke tenantId token hint clientId basic =>
    have revoked : alwaysE (exec D) (IdpMvp.revoke D tenantId token hint clientId basic) s
        (fun _ s' => Revoked D token s s') (fun _ s' => Revoked D token s s') :=
      alwaysE_mono revoke_always (fun _ _ r => r) (fun _ _ e => e ▸ Revoked.unchanged)
    exact (revoked.run_state ins).write
  | resetPassword tenantId target actor => exact (resetPassword_always.run_state ins).write
  | resetPasswordByEmail tenantId email actor =>
    rw [TokenCall.run]
    exact (resetPasswordByEmail_always.run_state ins).write
  | setStatus tenantId target status actor => exact (setStatus_always.run_state ins).write
  | deleteUser tenantId target actor => exact (deleteUser_always.run_state ins).write

/-! ## Runs -/

/-- Sequential runs of the calls above from an empty refresh token table. In between, other services
may change every other table. -/
abbrev TokenRuns (D : Deploy) : List (Event TokenCall Input Store) → Store → Prop :=
  Runs (TokenCall.run D) (fun s => s.refreshTokens = [])
    (fun s s' => s'.refreshTokens = s.refreshTokens) (fun _ _ => True)

/-- The event is a code grant that created a token with the hash and the grant of `t`. -/
structure CreatedBy (D : Deploy) (e : Event TokenCall Input Store) (t : RefreshToken) : Prop where
  issues : e.call.Issues D e.ins e.pre t
  fresh : ∀ r ∈ e.pre.refreshTokens, r.tokenHash ≠ t.tokenHash
  created : ∃ r ∈ (e.post (TokenCall.run D)).refreshTokens,
    r.tokenHash = t.tokenHash ∧ r.grant = t.grant

/-- In every run the table consists of rotation chains, and every root was created by a code grant of
the run. -/
lemma TokenRuns.chains {es : List (Event TokenCall Input Store)} {s : Store}
    (run : TokenRuns D es s) :
    RefreshChains s.refreshTokens ∧
      ∀ r ∈ s.refreshTokens, r.parentHash = none → ∃ e ∈ es, CreatedBy D e r := by
  refine run.invariant (I := fun es s => RefreshChains s.refreshTokens ∧
    ∀ r ∈ s.refreshTokens, r.parentHash = none → ∃ e ∈ es, CreatedBy D e r) ?_ ?_ ?_
  · intro s empty
    rw [empty]
    exact ⟨Rotation.nil, by simp⟩
  · intro es s s' inv same
    rw [same]
    exact inv
  · rintro es s c ins ⟨chains, roots⟩ -
    have w := c.writes (D := D) ins s
    refine ⟨w.chains chains, fun t mem orphan => ?_⟩
    obtain ⟨r, memr, hash, orphan', same⟩ | ⟨issues, fresh⟩ := w.origin mem orphan
    · obtain ⟨e, meme, issues, fresh, created⟩ := roots r memr orphan'
      rw [hash] at fresh created
      rw [same] at created
      refine ⟨e, List.mem_append_left _ meme, ?_, fresh, created⟩
      rwa [TokenCall.Issues, ← hash]
    · exact ⟨_, List.mem_append_right _ (List.mem_singleton_self _), issues, fresh, t, mem, rfl, rfl⟩

/-- In every run, a refresh token that has a parent agrees with it, and with the root a code grant
created, on tenant, client, user, scope and expiry; parents are revoked and the parent relation has no
cycle; and the token of a chain that is not revoked is the only one and the last. -/
theorem refresh_tokens_form_chains {es : List (Event TokenCall Input Store)} {s : Store}
    (run : TokenRuns D es s) :
    (∀ t ∈ s.refreshTokens, ∀ hash, t.parentHash = some hash → ∃ p ∈ s.refreshTokens,
      p.tokenHash = hash ∧ p.grant = t.grant ∧ p.isRevoked) ∧
    (∀ t ∈ s.refreshTokens, ∃ r ∈ s.refreshTokens, r.parentHash = none ∧
      Relation.ReflTransGen (RefreshToken.Child s.refreshTokens) r t ∧ r.grant = t.grant ∧
      ∃ e ∈ es, CreatedBy D e r) ∧
    (∀ t, ¬ Relation.TransGen (RefreshToken.Child s.refreshTokens) t t) ∧
    (∀ t u, Relation.EqvGen (RefreshToken.Child s.refreshTokens) t u → t.isRevoked = false →
      Relation.ReflTransGen (RefreshToken.Child s.refreshTokens) u t ∧
      (u.isRevoked = false → u = t)) := by
  obtain ⟨chains, roots⟩ := TokenRuns.chains run
  refine ⟨?_, ?_, chains.acyclic, ?_⟩
  · intro t mem hash parent
    obtain ⟨p, memp, e, revoked, same⟩ := chains.parent_mem t mem hash parent
    exact ⟨p, memp, e, same, revoked⟩
  · intro t mem
    obtain ⟨r, memr, orphan, reach, same⟩ := chains.exists_root mem
    exact ⟨r, memr, orphan, reach, same, roots r memr orphan⟩
  · intro t u chain live
    have live' : ¬ t.isRevoked = true := by simp [live]
    refine ⟨chains.unretired_last (.symm _ _ chain) live', fun liveu => ?_⟩
    exact chains.unretired_unique (.symm _ _ chain) (by simp [liveu]) live'

namespace Sample

/-- Alice redeems her code, then rotates the refresh token once. -/
def afterCode : Store := (TokenCall.exchange tenantA codeRequest).run deploy (fun _ => input 2) store

def afterRotation : Store :=
  (TokenCall.exchange tenantA (refreshRequest 2)).run deploy (fun _ => input 3) afterCode

lemma code_run : ∃ es, TokenRuns deploy es afterCode := by
  have start : TokenRuns deploy [] store := .start rfl
  exact ⟨_, start.call (.exchange tenantA codeRequest) (fun _ => input 2) trivial⟩

lemma rotation_run : ∃ es, TokenRuns deploy es afterRotation := by
  obtain ⟨es, run⟩ := code_run
  exact ⟨_, run.call (.exchange tenantA (refreshRequest 2)) (fun _ => input 3) trivial⟩

end Sample

set_option maxRecDepth 4000 in
/-- After one rotation, the root is revoked and its child is the last token of the chain. -/
theorem refresh_tokens_form_chains_sample :
    Sample.afterRotation.refreshTokens.map (fun t => (t.parentHash.isSome, t.isRevoked)) =
      [(false, true), (true, false)] ∧
    ∀ t, ¬ Relation.TransGen (RefreshToken.Child Sample.afterRotation.refreshTokens) t t := by
  obtain ⟨es, run⟩ := Sample.rotation_run
  exact ⟨by decide +kernel, (refresh_tokens_form_chains run).2.2.1⟩

end IdpMvp
