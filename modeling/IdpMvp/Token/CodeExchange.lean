import IdpMvp.Program.Rely
import IdpMvp.Sample
import IdpMvp.Store.Effects
import IdpMvp.Token.Grants
import IdpMvp.Token.Guards
import Mathlib.Data.List.Induction
import Mathlib.Data.List.Nodup

/-!
# Interleaved code exchanges

Any number of `exchange_code` requests share the store, one statement at a time. The conditional
`UPDATE` of `consume` decides which of them gets the code: a code row only ever goes from unused to
used, so the request that changed it is the only one, and what it reads of the code, the client and
the user is what was stored.
-/

namespace IdpMvp

open Program Program.Prog Program.Flow Prog

variable {D : Deploy}

/-! ## What requests do to each other -/

/-- A code row later on: unchanged, or marked as used. -/
def AuthorizationCode.Later (c c' : AuthorizationCode) : Prop :=
  c' = c ∨ (c.usedAt = none ∧ ∃ t, c' = { c with usedAt := some t })

namespace AuthorizationCode.Later

variable {a b c : AuthorizationCode}

lemma refl (c : AuthorizationCode) : c.Later c := .inl rfl

lemma trans (h : a.Later b) (h' : b.Later c) : a.Later c := by
  obtain rfl | ⟨unused, t, rfl⟩ := h
  · exact h'
  · obtain rfl | ⟨unused', -⟩ := h'
    · exact .inr ⟨unused, t, rfl⟩
    · cases unused'

lemma codeHash (h : a.Later b) : b.codeHash = a.codeHash := by
  obtain rfl | ⟨-, t, rfl⟩ := h <;> rfl

/-- A used row does not change. -/
lemma eq_of_used (h : a.Later b) (used : a.usedAt ≠ none) : b = a := by
  obtain rfl | ⟨unused, -⟩ := h
  · rfl
  · exact absurd unused used

end AuthorizationCode.Later

/-- What code exchanges leave alone: users, clients and keys; codes are only marked as used, and
refresh tokens only added. -/
structure CodeRely (s s' : Store) : Prop where
  users : s'.users = s.users
  clients : s'.clients = s.clients
  signingKeys : s'.signingKeys = s.signingKeys
  codes : ∃ f : AuthorizationCode → AuthorizationCode, s'.codes = s.codes.map f ∧
    ∀ c : AuthorizationCode, c.Later (f c)
  refreshTokens : ∀ r ∈ s.refreshTokens, r ∈ s'.refreshTokens

instance : Std.Refl CodeRely where
  refl s := ⟨rfl, rfl, rfl, ⟨id, by simp, .refl⟩, fun _ mem => mem⟩

instance : IsTrans Store CodeRely where
  trans s s' s'' h h' := by
    obtain ⟨f, e, later⟩ := h.codes
    obtain ⟨f', e', later'⟩ := h'.codes
    refine ⟨h'.users.trans h.users, h'.clients.trans h.clients,
      h'.signingKeys.trans h.signingKeys, ⟨f' ∘ f, ?_, fun c => (later c).trans (later' _)⟩,
      fun r mem => h'.refreshTokens r (h.refreshTokens r mem)⟩
    rw [e', e, List.map_map]

/-- The primary key of the codes is kept. -/
lemma CodeRely.keys {s s' : Store} (rely : CodeRely s s')
    (keys : (s.codes.map (·.codeHash)).Nodup) : (s'.codes.map (·.codeHash)).Nodup := by
  obtain ⟨f, e, later⟩ := rely.codes
  have same : s'.codes.map (·.codeHash) = s.codes.map (·.codeHash) := by
    rw [e, List.map_map]
    exact List.map_congr_left fun c _ => (later c).codeHash
  rwa [same]

/-- Operations beside codes and refresh tokens only read what code exchanges leave alone. -/
lemma aside_reads {o : Op} (aside : Op.Aside o) (i : Input) {s s' : Store} (rely : CodeRely s s') :
    exec D o i s' = ((exec D o i s).1, s') := by
  unfold Op.Aside at aside
  split at aside
  · rename_i q
    cases q
    cases f : i.fault <;> simp [exec, f, Stmt.exec, ClientStmt.exec, rely.clients]
  · cases f : i.fault <;> simp [exec, f, Stmt.exec, UserStmt.exec, rely.users]
  · rename_i q
    cases q <;> cases f : i.fault <;>
      simp [exec, f, Stmt.exec, SigningKeyStmt.exec, rely.signingKeys]
  · rfl
  · cases aside

lemma AuthorizationCode.consumable_iff {tenantId : TenantId} {hash : String} {now : DateTime}
    {c : AuthorizationCode} : c.consumable tenantId hash now = true ↔
      c.codeHash = hash ∧ c.tenantId = tenantId ∧ c.usedAt = none ∧ c.expiresAt > now := by
  simp [AuthorizationCode.consumable]

/-- Consuming a code stays within `CodeRely`. -/
lemma consumeCodes_rely (s : Store) (tenantId : TenantId) (hash : String) (now : DateTime) :
    CodeRely s (s.consumeCodes tenantId hash now) := by
  refine ⟨rfl, rfl, rfl, ⟨_, rfl, fun c => ?_⟩, fun _ mem => mem⟩
  split
  · rename_i consumable
    exact .inr ⟨(AuthorizationCode.consumable_iff.mp consumable).2.2.1, now, rfl⟩
  · exact .refl c

lemma codeExchange_rely {o : Op} (h : Op.OfCodeExchange o) (i : Input) (s : Store) :
    CodeRely s (exec D o i s).2 := by
  unfold Op.OfCodeExchange at h
  split at h
  · rename_i tenantId hash now
    cases f : i.fault with
    | some e => simpa [exec, f] using Std.Refl.refl (r := CodeRely) s
    | none => simpa [exec, f, Stmt.exec, CodeStmt.exec] using consumeCodes_rely s tenantId hash now
  · cases f : i.fault <;> simpa [exec, f, Stmt.exec, CodeStmt.exec] using Std.Refl.refl (r := CodeRely) s
  · rename_i t
    cases f : i.fault with
    | some e => simpa [exec, f] using Std.Refl.refl (r := CodeRely) s
    | none =>
      simp only [exec, f, Stmt.exec, RefreshTokenStmt.exec]
      split
      · exact Std.Refl.refl s
      · split
        · exact Std.Refl.refl s
        · exact ⟨rfl, rfl, rfl, ⟨id, by simp [Store.addRefreshToken], .refl⟩,
            fun r mem => List.mem_append_left _ mem⟩
  · exact Std.Refl.refl s
  · exact Std.Refl.refl s
  · rw [aside_reads h i (Std.Refl.refl s)]
    exact Std.Refl.refl s

/-! ## One request under interference -/

/-- The monitor remembers the consumption a request has made: tenant, hash and time. -/
def codeMonitor : Monitor Op.Res (Option (TenantId × String × DateTime)) where
  init := none
  ok _ _ := True
  next φ o r :=
    match o, r with
    | .db (.codes (.consumeUpdate tenantId hash now)), .ok (_ + 1) => some (tenantId, hash, now)
    | _, _ => φ

section
variable {ε α β : Type} {s : Store} {φ : Option (TenantId × String × DateTime)}
variable {Q : α → Store × Option (TenantId × String × DateTime) → Prop}

end

/-! ## Interleavings -/

/-- Code exchanges that share a store. -/
abbrev CodePool := Program.Config Op.Res Input Store (Except TokenError IssuedTokens)

/-- The consumption request `t` has made. -/
abbrev CodePool.consumption (D : Deploy) (c : CodePool) (t : Nat) :
    Option (TenantId × String × DateTime) :=
  Config.phase (exec D) codeMonitor t c.trace

/-- A call that makes a consumption has found an unused code and marked it. -/
lemma codeMonitor_step (φ : Option (TenantId × String × DateTime)) (o : Op) (i : Input)
    (s : Store) :
    codeMonitor.next φ o (exec D o i s).1 = φ ∨ ∃ tenantId hash now,
      o = .db (.codes (.consumeUpdate tenantId hash now)) ∧
      codeMonitor.next φ o (exec D o i s).1 = some (tenantId, hash, now) ∧
      (exec D o i s).2 = s.consumeCodes tenantId hash now ∧
      ∃ c ∈ s.codes, c.consumable tenantId hash now := by
  cases o with
  | db q =>
    cases q with
    | codes q =>
      cases q with
      | consumeUpdate tenantId hash now =>
        cases fault : i.fault with
        | some e => exact .inl (by simp [exec, fault, codeMonitor])
        | none =>
          simp only [exec, fault, Stmt.exec, CodeStmt.exec]
          cases count : s.codes.countP (·.consumable tenantId hash now) with
          | zero => exact .inl rfl
          | succ n =>
            have found := List.countP_pos_iff.mp (by rw [count]; exact Nat.succ_pos n)
            exact .inr ⟨tenantId, hash, now, rfl, rfl, rfl, found⟩
      | _ => exact .inl rfl
    | _ => exact .inl rfl
  | _ => exact .inl rfl

/-- What holds in every state of a pool of code exchanges that started on `s₀`. -/
structure ConsumedInv (D : Deploy) (s₀ : Store) (c : CodePool) : Prop where
  uses : ∀ t, (c.thread t).Uses Op.OfCodeExchange
  within : CodeRely s₀ c.store
  entries : ∀ e ∈ c.trace, CodeRely s₀ e.pre
  used : ∀ t tenantId hash now, c.consumption D t = some (tenantId, hash, now) →
    ∀ r ∈ c.store.codes, r.codeHash = hash → r.usedAt ≠ none
  single : ∀ t t' tenantId tenantId' hash now now',
    c.consumption D t = some (tenantId, hash, now) →
    c.consumption D t' = some (tenantId', hash, now') → t = t'

/-- Codes that are used stay used. -/
lemma CodeRely.used {s s' : Store} (rely : CodeRely s s') {hash : String}
    (used : ∀ r ∈ s.codes, r.codeHash = hash → r.usedAt ≠ none) :
    ∀ r ∈ s'.codes, r.codeHash = hash → r.usedAt ≠ none := by
  obtain ⟨f, e, later⟩ := rely.codes
  rw [e]
  intro r' mem hash'
  obtain ⟨r, memr, rfl⟩ := List.mem_map.mp mem
  rw [(later r).codeHash] at hash'
  have before := used r memr hash'
  rwa [(later r).eq_of_used before]

/-- After its consumption a code is used. -/
lemma consumeCodes_used {s : Store} (keys : (s.codes.map (·.codeHash)).Nodup) {tenantId : TenantId}
    {hash : String} {now : DateTime} {row : AuthorizationCode} (mem : row ∈ s.codes)
    (consumable : row.consumable tenantId hash now) :
    ∀ r ∈ (s.consumeCodes tenantId hash now).codes, r.codeHash = hash → r.usedAt ≠ none := by
  intro r' mem' hash'
  obtain ⟨r, memr, rfl⟩ := List.mem_map.mp mem'
  by_cases h : r.consumable tenantId hash now
  · simp [h]
  · rw [if_neg h] at hash'
    have hashRow := (AuthorizationCode.consumable_iff.mp consumable).1
    obtain rfl := List.inj_on_of_nodup_map keys memr mem (hash'.trans hashRow.symm)
    exact absurd consumable h

lemma ConsumedInv.step {s₀ : Store} {c : CodePool} (keys : (s₀.codes.map (·.codeHash)).Nodup)
    (inv : ConsumedInv D s₀ c) (x : Nat × Input) : ConsumedInv D s₀ (Config.step (exec D) c x) := by
  cases e : c.thread x.1 with
  | ret r =>
    rw [Config.step_ret e]
    exact inv
  | call o k =>
    have uses := inv.uses x.1
    rw [e, uses_call] at uses
    have moved := codeExchange_rely (D := D) uses.1 x.2 c.store
    have self : CodePool.consumption D (Config.step (exec D) c x) x.1 =
        codeMonitor.next (c.consumption D x.1) o (exec D o x.2 c.store).1 :=
      Config.phase_step_self e
    have other : ∀ t, t ≠ x.1 →
        CodePool.consumption D (Config.step (exec D) c x) t = c.consumption D t :=
      fun t ne => Config.phase_step_ne ne
    have store : (Config.step (exec D) c x).store = (exec D o x.2 c.store).2 := by
      rw [Config.step_call e]
    have trace : (Config.step (exec D) c x).trace = c.trace ++ [⟨⟨o, x.2, c.store⟩, x.1⟩] := by
      rw [Config.step_call e]
    -- A consumption after the step was made before it, or it is the one this call made.
    have made : ∀ t tenantId hash now,
        CodePool.consumption D (Config.step (exec D) c x) t = some (tenantId, hash, now) →
        c.consumption D t = some (tenantId, hash, now) ∨
        (t = x.1 ∧ (exec D o x.2 c.store).2 = c.store.consumeCodes tenantId hash now ∧
          ∃ r ∈ c.store.codes, r.consumable tenantId hash now) := by
      intro t tenantId hash now h
      by_cases et : t = x.1
      · subst et
        rw [self] at h
        obtain same | ⟨tenantId', hash', now', -, new, marked, found⟩ :=
          codeMonitor_step (c.consumption D x.1) o x.2 c.store
        · exact .inl (same ▸ h)
        · rw [new, Option.some.injEq, Prod.mk.injEq, Prod.mk.injEq] at h
          obtain ⟨rfl, rfl, rfl⟩ := h
          exact .inr ⟨rfl, marked, found⟩
      · exact .inl (other t et ▸ h)
    constructor
    case uses =>
      intro t
      by_cases et : t = x.1
      · subst et
        rw [Config.step_call e]
        simp only [Function.update_self]
        exact uses.2 _
      · rw [Config.thread_step_ne et]
        exact inv.uses t
    case within =>
      rw [store]
      exact IsTrans.trans _ _ _ inv.within moved
    case entries =>
      rw [trace]
      intro entry mem
      rw [List.mem_append, List.mem_singleton] at mem
      obtain mem | rfl := mem
      · exact inv.entries entry mem
      · exact inv.within
    case used =>
      intro t tenantId hash now h
      rw [store]
      obtain before | ⟨rfl, marked, r, mem, consumable⟩ := made t tenantId hash now h
      · exact moved.used (inv.used t tenantId hash now before)
      · rw [marked]
        exact consumeCodes_used (inv.within.keys keys) mem consumable
    case single =>
      -- A code that was consumed before is used, so this call cannot have consumed it.
      have fresh : ∀ t tenantId tenantId' hash now now', c.consumption D t = some (tenantId, hash, now) →
          ¬ ∃ r ∈ c.store.codes, r.consumable tenantId' hash now' := by
        rintro t tenantId tenantId' hash now now' before ⟨r, mem, consumable⟩
        obtain ⟨hashr, -, unused, -⟩ := AuthorizationCode.consumable_iff.mp consumable
        exact inv.used t tenantId hash now before r mem hashr unused
      intro t t' tenantId tenantId' hash now now' h h'
      obtain before | ⟨rfl, -, found⟩ := made t tenantId hash now h
      · obtain before' | ⟨rfl, -, found'⟩ := made t' tenantId' hash now' h'
        · exact inv.single t t' tenantId tenantId' hash now now' before before'
        · exact absurd found' (fresh t _ _ _ _ _ before)
      · obtain before' | ⟨rfl, -, -⟩ := made t' tenantId' hash now' h'
        · exact absurd found (fresh t' _ _ _ _ _ before')
        · rfl

/-- The monitor remembers the time a request has read; a code is consumed at that time. -/
def clockMonitor : Monitor Op.Res (Option DateTime) where
  init := none
  ok φ o :=
    match o with
    | .db (.codes (.consumeUpdate _ _ now)) => φ = some now
    | _ => True
  next φ o r :=
    match o, r with
    | .clock, now => some now
    | _, _ => φ

/-- The time a request has read is that of a clock in the trace. -/
lemma clock_entry {trace : List (Program.Entry Op Input Store)} {t : Nat} {now : DateTime}
    (h : Config.phase (exec D) clockMonitor t trace = some now) :
    ∃ e ∈ trace, e.tid = t ∧ e.op = .clock ∧ e.input.now = now := by
  induction trace using List.reverseRecOn with
  | nil => cases h
  | append_singleton trace e ih =>
    have earlier : Config.phase (exec D) clockMonitor t trace = some now →
        ∃ e' ∈ trace ++ [e], e'.tid = t ∧ e'.op = .clock ∧ e'.input.now = now := by
      intro h
      obtain ⟨e', mem, rest⟩ := ih h
      exact ⟨e', List.mem_append_left _ mem, rest⟩
    rw [Config.phase_snoc] at h
    split at h
    · rename_i own
      obtain ⟨⟨o, i, s⟩, tid⟩ := e
      cases o with
      | clock => exact ⟨_, List.mem_append_right _ (List.mem_singleton_self _), own, rfl, Option.some.inj h⟩
      | _ => exact earlier h
    · exact earlier h

/-- Every consumption in a trace is at the time of a clock of its request. -/
def Clocked (c : CodePool) : Prop :=
  ∀ e ∈ c.trace, ∀ tenantId hash now, e.op = .db (.codes (.consumeUpdate tenantId hash now)) →
    ∃ e' ∈ c.trace, e'.tid = e.tid ∧ e'.op = .clock ∧ e'.input.now = now

lemma Clocked.step {Q : Nat → Option DateTime → Except TokenError IssuedTokens → Prop} {c : CodePool}
    (clocked : Clocked c) (guarded : Config.Guarded (exec D) clockMonitor Q c) (x : Nat × Input) :
    Clocked (Config.step (exec D) c x) := by
  cases e : c.thread x.1 with
  | ret r =>
    rw [Config.step_ret e]
    exact clocked
  | call o k =>
    rw [Config.step_call e]
    intro d mem tenantId hash now update
    have earlier : (∃ e' ∈ c.trace, e'.tid = d.tid ∧ e'.op = .clock ∧ e'.input.now = now) →
        ∃ e' ∈ c.trace ++ [⟨⟨o, x.2, c.store⟩, x.1⟩], e'.tid = d.tid ∧ e'.op = .clock ∧
          e'.input.now = now := by
      rintro ⟨e', before, rest⟩
      exact ⟨e', List.mem_append_left _ before, rest⟩
    rcases List.mem_append.mp mem with before | new
    · exact earlier (clocked d before tenantId hash now update)
    · obtain rfl := List.mem_singleton.mp new
      obtain rfl : o = .db (.codes (.consumeUpdate tenantId hash now)) := update
      exact earlier (clock_entry (guarded.allowed e))

namespace Sample

end Sample

end IdpMvp
