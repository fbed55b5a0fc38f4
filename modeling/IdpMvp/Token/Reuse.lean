import IdpMvp.Token.Rotation

/-!
# Reuse of a rotated refresh token

The reuse detection of `exchange_refresh_token` (step 5) says it revokes the whole chain of a token
that was rotated already, and revokes the presented token, which rotation has revoked before. So the
chain ends up revoked exactly when its last token was revoked anyway.
-/

namespace IdpMvp

open Program Program.Prog Program.Flow Prog

variable {D : Deploy} {s : Store}

/-! ## The chain of a reused token -/

/-- In `s'`, every token of the chain of `r` in `rows` is revoked, and it is refused in every later
state in which its hash was not drawn again. -/
structure ChainRevoked (D : Deploy) (rows : List RefreshToken) (r : RefreshToken) (s' : Store) :
    Prop where
  revoked : ∀ t ∈ rows, Relation.EqvGen (RefreshToken.Child rows) r t → RevokedHash t.tokenHash s'
  refused : ∀ t ∈ rows, Relation.EqvGen (RefreshToken.Child rows) r t →
    ∀ s'', Reaches (exec D) (NotCreating t.tokenHash) s' s'' →
      ∀ tenantId cmd plain, cmd.grantType = some "refresh_token" →
        nonEmpty cmd.refreshToken = some plain → D.sha256Hex plain = t.tokenHash →
          ∀ ins tokens, ((exchange D tenantId cmd).run (exec D) ins s'').1 ≠ .ok tokens

lemma ChainRevoked.of_revoked {rows : List RefreshToken} {r : RefreshToken} {s' : Store}
    (revoked : ∀ t ∈ rows, Relation.EqvGen (RefreshToken.Child rows) r t →
      RevokedHash t.tokenHash s') : ChainRevoked D rows r s' where
  revoked := revoked
  refused := by
    intro t mem chain s'' later tenantId cmd plain grant presents hash
    have now := (revoked t mem chain).later later
    rw [← hash] at now
    exact now.refused grant presents

/-- Presenting a rotated token revokes no token that was not revoked before. -/
lemma reuse_keeps_revocation {tenantId : TenantId} {cmd : TokenCommand} {plain : String}
    {r c : RefreshToken} (chains : RefreshChains s.refreshTokens)
    (grant : cmd.grantType = some "refresh_token") (presented : Presented D s tenantId cmd plain r)
    (rotated : RefreshToken.Child s.refreshTokens r c) (ins : Nat → Input) {t : RefreshToken}
    (mem : t ∈ s.refreshTokens) :
    RevokedHash t.tokenHash ((exchange D tenantId cmd).run (exec D) ins s).2 ↔
      t.isRevoked = true := by
  obtain ⟨hashr, -⟩ : r.tokenHash = D.sha256Hex plain ∧ r.tenantId = tenantId := by
    simpa using List.find?_some presented.row
  have unique : ∀ u ∈ s.refreshTokens, u.tokenHash = t.tokenHash → u = t :=
    fun u memu e => chains.key_inj memu mem e
  have unrotated : Unrotated D s tenantId cmd ((exchange D tenantId cmd).run (exec D) ins s).2 := by
    rw [exchange_refresh grant]
    cases e : ((exchangeRefreshToken D tenantId cmd).run.run (exec D) ins s).1 with
    | error err => exact exchangeRefreshToken_always.run_error e
    | ok tokens =>
      obtain ⟨plain', newPlain, stored, user, now, done⟩ := exchangeRefreshToken_always.run_ok e
      obtain rfl : plain = plain' := by simpa [presented.token] using done.token
      exact absurd (hashr ▸ rotated.2.2) (done.first c rotated.2.1)
  obtain e | ⟨plain', stored, now, done, e⟩ := unrotated
  · rw [e]
    exact ⟨fun h => h t mem rfl, fun live u memu hash => unique u memu hash ▸ live⟩
  · -- The presented token is the only one the statement could change, and it was revoked before.
    obtain rfl : plain = plain' := by simpa [presented.token] using done.token
    have same : ∀ u ∈ s.refreshTokens,
        (u.revokeIf (·.tokenHash = D.sha256Hex plain) now).isRevoked = u.isRevoked := by
      intro u memu
      by_cases eu : u.tokenHash = D.sha256Hex plain
      · obtain rfl := chains.key_inj memu rotated.1 (eu.trans hashr.symm)
        simp [(chains.child_retired rotated).1]
      · simp [eu]
    rw [e]
    constructor
    · intro h
      rw [← same t mem]
      exact h _ (mem_revokeWhere.mpr ⟨t, mem, rfl⟩) (revokeIf_tokenHash _ _ t)
    · intro live v memv hash
      obtain ⟨u, memu, rfl⟩ := mem_revokeWhere.mp memv
      rw [revokeIf_tokenHash] at hash
      rw [same u memu, unique u memu hash, live]

/-- In every run: when a rotated token is presented by its own client, the chain is revoked
afterwards, for good, exactly when its last token was revoked before. -/
theorem reuse_revokes_chain_iff {es : List (Event TokenCall Input Store)}
    (run : TokenRuns D es s) {tenantId : TenantId} {cmd : TokenCommand} {plain : String}
    {r : RefreshToken} (grant : cmd.grantType = some "refresh_token")
    (presented : Presented D s tenantId cmd plain r)
    (rotated : ∃ c, RefreshToken.Child s.refreshTokens r c) (ins : Nat → Input) :
    ChainRevoked D s.refreshTokens r ((exchange D tenantId cmd).run (exec D) ins s).2 ↔
      ∀ t ∈ s.refreshTokens, Relation.EqvGen (RefreshToken.Child s.refreshTokens) r t →
        (∀ c, ¬ RefreshToken.Child s.refreshTokens t c) → t.isRevoked = true := by
  have chains := (TokenRuns.chains run).1
  obtain ⟨c, child⟩ := rotated
  have kept := fun {t} (mem : t ∈ s.refreshTokens) =>
    reuse_keeps_revocation chains grant presented child ins mem
  constructor
  · intro done t mem chain _
    exact (kept mem).mp (done.revoked t mem chain)
  · intro last
    refine .of_revoked fun t mem chain => (kept mem).mpr ?_
    by_cases leaf : ∀ c, ¬ RefreshToken.Child s.refreshTokens t c
    · exact last t mem chain leaf
    · obtain ⟨c, childt⟩ := not_forall_not.mp leaf
      exact (chains.child_retired childt).1

namespace Sample

/-- The two rows after a code grant and one rotation. -/
def rootToken : RefreshToken where
  tokenHash := deploy.sha256Hex (plainToken 2)
  parentHash := none
  tenantId := tenantA
  userId := aliceId
  clientId := "app"
  scope := ["openid", "offline_access"]
  expiresAt := now + deploy.refreshTokenTtl
  revokedAt := some now

def childToken : RefreshToken :=
  { rootToken with
    tokenHash := deploy.sha256Hex (plainToken 3)
    parentHash := some (deploy.sha256Hex (plainToken 2))
    revokedAt := none }

/-- The client then revokes the last token of the chain. -/
def afterRevocation : Store :=
  (TokenCall.revoke tenantA (plainToken 3) none "app" none).run deploy (fun _ => input 0) afterRotation

set_option maxRecDepth 4000 in
/-- The tables after the rotation, after the revocation, and after the root is presented again. -/
lemma chain_rows :
    (afterRotation.clients = store.clients ∧ afterRotation.refreshTokens = [rootToken, childToken]) ∧
      (afterRevocation.clients = store.clients ∧
        afterRevocation.refreshTokens = [rootToken, { childToken with revokedAt := some now }]) ∧
      childToken ∈ ((exchange deploy tenantA (refreshRequest 2)).run (exec deploy) (fun _ => input 4)
        afterRotation).2.refreshTokens := by
  decide +kernel

lemma presented_of_rows {s : Store} {rest : List RefreshToken} (clients : s.clients = store.clients)
    (rows : s.refreshTokens = rootToken :: rest) :
    Presented deploy s tenantA (refreshRequest 2) (plainToken 2) rootToken where
  client := {
    resolved := rfl
    client := ⟨publicClient tenantA "app", by rw [clients]; decide +kernel, rfl, rfl⟩ }
  token := by decide +kernel
  row := by
    rw [rows]
    exact List.find?_cons_of_pos (by decide +kernel)

end Sample

open Sample in
set_option maxRecDepth 4000 in
/-- The root of the sample chain is presented again: its child stays valid and is rotated next. -/
theorem reuse_leaves_chain_live :
    (∃ es, TokenRuns deploy es afterRotation) ∧
    Presented deploy afterRotation tenantA (refreshRequest 2) (plainToken 2) rootToken ∧
    RefreshToken.Child afterRotation.refreshTokens rootToken childToken ∧
    ¬ ChainRevoked deploy afterRotation.refreshTokens rootToken
      ((exchange deploy tenantA (refreshRequest 2)).run (exec deploy) (fun _ => input 4)
        afterRotation).2 := by
  obtain ⟨⟨clients, rows⟩, -, kept⟩ := chain_rows
  have child : RefreshToken.Child afterRotation.refreshTokens rootToken childToken := by
    rw [rows]
    exact ⟨by simp, by simp, rfl⟩
  refine ⟨rotation_run, presented_of_rows clients rows, child, ?_⟩
  intro h
  have live := h.revoked childToken child.2.1 (.rel _ _ child)
  exact absurd (live childToken kept rfl) (by decide)

open Sample in
set_option maxRecDepth 4000 in
/-- When the last token was revoked before, the chain is revoked. -/
theorem reuse_revokes_chain_iff_sample :
    ChainRevoked deploy afterRevocation.refreshTokens rootToken
      ((exchange deploy tenantA (refreshRequest 2)).run (exec deploy) (fun _ => input 4)
        afterRevocation).2 := by
  obtain ⟨-, ⟨clients, rows⟩, -⟩ := chain_rows
  obtain ⟨es, run⟩ := rotation_run
  have run' : TokenRuns deploy _ afterRevocation :=
    run.call (.revoke tenantA (plainToken 3) none "app" none) (fun _ => input 0) trivial
  refine (reuse_revokes_chain_iff run' rfl
    (presented_of_rows clients rows)
    ⟨{ childToken with revokedAt := some now }, ?_⟩ _).mpr ?_
  · rw [rows]
    exact ⟨by simp, by simp, rfl⟩
  · rw [rows]
    intro t mem _ _
    simp only [List.mem_cons, List.not_mem_nil, or_false] at mem
    obtain rfl | rfl := mem <;> rfl

end IdpMvp
