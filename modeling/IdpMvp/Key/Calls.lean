import IdpMvp.Service.KeyService
import IdpMvp.Store.Effects

/-!
# What the calls of the key service do

One lemma for each call, about every execution at a moment: what it makes of the table of signing keys
when it succeeds, and that it leaves the table as it was when it fails, except for a rotation that fails
to retire the old key.
-/

namespace IdpMvp

open Program Program.Prog Program.Flow IdpMvp.Prog

/-! ## The table -/

/-- The store with one more signing key. -/
def Store.addKey (s : Store) (key : SigningKey) : Store :=
  { s with signingKeys := s.signingKeys ++ [key] }

/-- The store after a key was retired. -/
def Store.retire (D : Deploy) (s : Store) (kid : String) : Store :=
  { s with
    signingKeys := s.signingKeys.map fun k =>
      if D.coll k.kid = D.coll kid then { k with status := .retired } else k }

/-- The store after a key was deleted. -/
def Store.deleteKey (D : Deploy) (s : Store) (kid : String) : Store :=
  { s with signingKeys := s.signingKeys.filter fun k => D.coll k.kid ≠ D.coll kid }

/-- A key as `new_key_material` makes it. -/
structure NewKey (D : Deploy) (algorithm : SigningAlgorithm) (now : DateTime) (k : SigningKey) : Prop where
  algorithm : k.algorithm = algorithm.asStr
  active : k.status = .active
  notBefore : k.notBefore = now
  notAfter : k.notAfter = now + Duration.days keyValidityDays
  encrypted : ∃ (i : Input) (plain : String), D.encrypt (i.bytes gcmNonceLen) (asBytes plain) = .ok k.privateKeyEncrypted

/-- No key of the table has the `kid`. -/
def Store.freshKid (D : Deploy) (s : Store) (kid : String) : Prop :=
  ∀ k ∈ s.signingKeys, D.coll k.kid ≠ D.coll kid

section
variable {D : Deploy} {s : Store} {now : DateTime} {algorithm : SigningAlgorithm}

lemma NewKey.usable {k : SigningKey} (new : NewKey D algorithm now k) :
    k.isUsableForSigningAt now = true := by
  have later : now < now + Duration.days keyValidityDays := Int.lt_add_of_pos_right now (by decide)
  simp [SigningKey.isUsableForSigningAt, new.active, new.notBefore, new.notAfter, later]

/-! ## Reading and inserting -/

lemma findActiveKey_at {α : Type} {k : Option SigningKey → ServiceFlow String α} {Q : α → Store → Prop}
    {E : String → Store → Prop} (leave : ∀ e, E e s)
    (next : alwaysE (execAt D now) (k (s.activeKey now)) s Q E) :
    alwaysE (execAt D now) (findActiveKey >>= k) s Q E :=
  read_at rfl (fun _ => leave _) next

lemma newKeyMaterial_at :
    alwaysE (execAt D now) (newKeyMaterial D algorithm) s
      (fun k s' => s' = s ∧ NewKey D algorithm now k) (fun _ s' => s' = s) := by
  unfold newKeyMaterial
  rw [alwaysE_bind, alwaysE_orLeave]
  intro i
  refine ⟨fun pair _ => ?_, fun e _ => rfl⟩
  refine op_step fun _ => op_step fun _ => ?_
  rw [alwaysE_bind, alwaysE_orLeave]
  intro j
  exact ⟨fun c encrypted => ⟨rfl, rfl, rfl, rfl, rfl, j, _, encrypted⟩, fun e _ => rfl⟩

lemma insertKey_at {ε : Type} {key : SigningKey} {f : DomainError → ε} :
    alwaysE (execAt D now) (orLeave (db (.signingKeyAdmin (.insert key))) f) s
      (fun _ s' => s.freshKid D key.kid ∧ s' = s.addKey key) (fun _ s' => s' = s) := by
  refine db_at (fun _ => rfl) (fun e s' fails => ?_) fun v s' executes => ?_
  · simp only [Stmt.exec, SigningKeyAdminStmt.exec] at fails
    split_ifs at fails
    · cases fails
      rfl
    · cases fails
  · simp only [Stmt.exec, SigningKeyAdminStmt.exec] at executes
    split_ifs at executes with taken
    · cases executes
    · cases executes
      refine ⟨fun k mem same => taken ?_, rfl⟩
      exact List.any_eq_true.mpr ⟨k, mem, decide_eq_true same⟩

lemma updateStatus_at {ε : Type} {kid : String} {f : DomainError → ε} :
    alwaysE (execAt D now) (orLeave (db (.signingKeyAdmin (.updateStatus kid .retired))) f) s
      (fun _ s' => s' = s.retire D kid) (fun _ s' => s' = s) := by
  refine db_at (fun _ => rfl) (fun e s' fails => ?_) fun v s' executes => ?_
  · simp only [Stmt.exec, SigningKeyAdminStmt.exec] at fails
    split_ifs at fails
    · cases fails
    · cases fails
      rfl
  · simp only [Stmt.exec, SigningKeyAdminStmt.exec] at executes
    split_ifs at executes
    · cases executes
      rfl
    · cases executes

lemma generateKeyInternal_at :
    alwaysE (execAt D now) (generateKeyInternal D algorithm) s
      (fun k s' => NewKey D algorithm now k ∧ s.freshKid D k.kid ∧ s' = s.addKey k) (fun _ s' => s' = s) := by
  unfold generateKeyInternal
  refine alwaysE_bind_of newKeyMaterial_at (fun _ _ same => same) ?_
  rintro k _ ⟨rfl, new⟩
  refine alwaysE_bind_of insertKey_at (fun _ _ same => same) ?_
  rintro _ _ ⟨fresh, rfl⟩
  exact ⟨new, fresh, rfl⟩

/-! ## The calls -/

/-- What `ensure_active_key` can do when it succeeds. -/
inductive KeyEnsured (D : Deploy) (now : DateTime) (s : Store) : Store → Prop where
  | usable (active : (s.activeKey now).isSome = true) : KeyEnsured D now s s
  | blocked (none : s.activeKey now = none) (k : SigningKey) (mem : k ∈ s.signingKeys)
    (active : k.status = .active) : KeyEnsured D now s s
  | inserted (none : ∀ k ∈ s.signingKeys, k.status ≠ .active) (k : SigningKey)
    (new : NewKey D .rs256 now k) : KeyEnsured D now s (s.addKey k)

lemma insertIfNoActive_at {key : SigningKey} :
    alwaysE (execAt D now) (insertIfNoActive key) s
      (fun inserted s' =>
        (inserted = false ∧ s' = s ∧ ∃ k ∈ s.signingKeys, k.status = .active) ∨
        (inserted = true ∧ s' = s.addKey key ∧ ∀ k ∈ s.signingKeys, k.status ≠ .active))
      (fun _ s' => s' = s) := by
  unfold insertIfNoActive
  refine read_at rfl (fun _ => rfl) ?_
  refine read_at rfl (fun _ => rfl) ?_
  split_ifs with active
  · obtain ⟨k, mem, status⟩ := List.any_eq_true.mp active
    exact .inl ⟨rfl, rfl, k, mem, of_decide_eq_true status⟩
  · refine alwaysE_bind_of insertKey_at (fun _ _ same => same) ?_
    rintro _ _ ⟨-, rfl⟩
    refine .inr ⟨rfl, rfl, fun k mem status => active ?_⟩
    exact List.any_eq_true.mpr ⟨k, mem, decide_eq_true status⟩

lemma ensureActiveKey_at :
    alwaysE (execAt D now) (ensureActiveKey D) s (fun _ s' => KeyEnsured D now s s') (fun _ s' => s' = s) := by
  unfold ensureActiveKey
  refine findActiveKey_at (fun _ => rfl) ?_
  cases active : s.activeKey now with
  | some a => exact .usable (by simp [active])
  | none =>
    refine alwaysE_bind_of newKeyMaterial_at (fun _ _ same => same) ?_
    rintro k _ ⟨rfl, new⟩
    rw [alwaysE_bind, alwaysE_orLeave]
    refine always_mono insertIfNoActive_at ?_
    rintro (e | inserted) s' h
    · exact ⟨by simp, fun _ _ => h⟩
    · refine ⟨fun _ _ => ?_, by simp⟩
      rcases h with ⟨-, rfl, k', mem, status⟩ | ⟨-, rfl, none⟩
      · exact .blocked active k' mem status
      · exact .inserted none k new

/-- What `rotate_if_needed` can do when it succeeds. -/
inductive KeyRotated (D : Deploy) (leadDays : Nat) (now : DateTime) (s : Store) : Store → Prop where
  | idle (a : SigningKey) (active : s.activeKey now = some a)
    (long : a.notAfter - now > Duration.days leadDays) : KeyRotated D leadDays now s s
  | bootstrapped (none : s.activeKey now = none) (k : SigningKey) (new : NewKey D .rs256 now k)
    (fresh : s.freshKid D k.kid) : KeyRotated D leadDays now s (s.addKey k)
  | replaced (a : SigningKey) (active : s.activeKey now = some a)
    (short : ¬ a.notAfter - now > Duration.days leadDays) (algorithm : SigningAlgorithm) (k : SigningKey)
    (new : NewKey D algorithm now k) (fresh : s.freshKid D k.kid) :
    KeyRotated D leadDays now s ((s.addKey k).retire D a.kid)

lemma rotateIfNeeded_at {leadDays : Nat} :
    alwaysE (execAt D now) (rotateIfNeeded D leadDays) s (fun _ s' => KeyRotated D leadDays now s s')
      (fun _ s' => s' = s ∨ ∃ a algorithm k, s.activeKey now = some a ∧
        ¬ a.notAfter - now > Duration.days leadDays ∧ NewKey D algorithm now k ∧ s.freshKid D k.kid ∧
        s' = s.addKey k) := by
  unfold rotateIfNeeded
  refine clock_at ?_
  refine findActiveKey_at (fun _ => .inl rfl) ?_
  cases active : s.activeKey now with
  | none =>
    refine alwaysE_bind_of generateKeyInternal_at (fun _ _ same => .inl same) ?_
    rintro k _ ⟨new, fresh, rfl⟩
    exact .bootstrapped active k new fresh
  | some a =>
    simp only
    split_ifs with long
    · exact .idle a active long
    · refine orThrow_step (fun _ _ => .inl rfl) fun algorithm _ => ?_
      refine alwaysE_bind_of generateKeyInternal_at (fun _ _ same => .inl same) ?_
      rintro k _ ⟨new, fresh, rfl⟩
      refine alwaysE_mono updateStatus_at ?_ ?_
      · rintro _ _ rfl
        exact .replaced a active long algorithm k new fresh
      · rintro _ _ rfl
        exact .inr ⟨a, algorithm, k, rfl, long, new, fresh, rfl⟩

lemma generateKey_at :
    alwaysE (execAt D now) (generateKey D algorithm) s
      (fun k s' => NewKey D algorithm now k ∧ s.freshKid D k.kid ∧ s' = s.addKey k) (fun _ s' => s' = s) := by
  unfold generateKey
  rw [alwaysE_orLeave]
  refine always_mono generateKeyInternal_at ?_
  rintro (e | k) s' h
  · exact ⟨by simp, fun _ _ => h⟩
  · refine ⟨fun k' eq => ?_, by simp⟩
    cases eq
    exact h

/-- The key that an operation of the administrators has loaded. -/
lemma loadKey_at {kid : String} :
    alwaysE (execAt D now) (loadKey kid) s
      (fun k s' => s' = s ∧ k ∈ s.signingKeys ∧ D.coll k.kid = D.coll kid) (fun _ s' => s' = s) := by
  unfold loadKey
  refine read_at rfl (fun _ => rfl) ?_
  rw [alwaysE_found]
  refine ⟨fun k row => ⟨rfl, List.mem_of_find?_eq_some row, ?_⟩, fun _ => rfl⟩
  simpa using List.find?_some row

lemma retireKey_at {kid : String} :
    alwaysE (execAt D now) (retireKey kid) s (fun _ s' => s' = s.retire D kid) (fun _ s' => s' = s) := by
  unfold retireKey
  refine alwaysE_bind_of loadKey_at (fun _ _ same => same) ?_
  rintro k _ ⟨rfl, -, -⟩
  exact ensure_step (fun _ => rfl) fun _ => updateStatus_at

lemma deleteKey_at {kid : String} :
    alwaysE (execAt D now) (deleteKey kid) s (fun _ s' => s' = s.deleteKey D kid) (fun _ s' => s' = s) := by
  unfold deleteKey
  refine alwaysE_bind_of loadKey_at (fun _ _ same => same) ?_
  rintro k _ ⟨rfl, -, -⟩
  refine ensure_step (fun _ => rfl) fun _ => db_at (fun _ => rfl) (fun e s' fails => ?_) fun _ s' executes => ?_
  · cases fails
  · cases executes
    rfl

end

/-! ## One call after another -/

inductive KeyCall where
  | ensure
  | rotate (leadDays : Nat)
  | generate (algorithm : SigningAlgorithm)
  | retire (kid : String)
  | delete (kid : String)

inductive KeyAnswer where
  | done (r : Except String Unit)
  | generated (r : Except KeyManagementError SigningKey)
  | managed (r : Except KeyManagementError Unit)

def KeyCall.program (D : Deploy) : KeyCall → Service KeyAnswer
  | ensure => return .done (← (ensureActiveKey D).run)
  | rotate leadDays => return .done (← (rotateIfNeeded D leadDays).run)
  | generate algorithm => return .generated (← (generateKey D algorithm).run)
  | retire kid => return .managed (← (retireKey kid).run)
  | delete kid => return .managed (← (deleteKey kid).run)

/-- What any of the calls can make of the table. -/
inductive KeyEffect (D : Deploy) (now : DateTime) (s : Store) : Store → Prop where
  | same : KeyEffect D now s s
  | added (algorithm : SigningAlgorithm) (k : SigningKey) (new : NewKey D algorithm now k) :
    KeyEffect D now s (s.addKey k)
  | replaced (a : SigningKey) (algorithm : SigningAlgorithm) (k : SigningKey)
    (new : NewKey D algorithm now k) : KeyEffect D now s ((s.addKey k).retire D a.kid)
  | retired (kid : String) : KeyEffect D now s (s.retire D kid)
  | deleted (kid : String) : KeyEffect D now s (s.deleteKey D kid)

lemma keyCall_effect {D : Deploy} {s : Store} {now : DateTime} (call : KeyCall) (ins : Nat → Input) :
    KeyEffect D now s ((call.program D).run (execAt D now) ins s).2 := by
  have effect : (call.program D).always (execAt D now) s (fun _ s' => KeyEffect D now s s') := by
    cases call with
    | ensure =>
      refine (always_bind _ _).mpr (always_mono ensureActiveKey_at ?_)
      rintro (e | _) s' h
      · cases h
        exact .same
      · cases h with
        | usable | blocked => exact .same
        | inserted none k new => exact .added _ k new
    | rotate leadDays =>
      refine (always_bind _ _).mpr (always_mono rotateIfNeeded_at ?_)
      rintro (e | _) s' h
      · rcases h with rfl | ⟨-, algorithm, k, -, -, new, -, rfl⟩
        · exact .same
        · exact .added algorithm k new
      · cases h with
        | idle => exact .same
        | bootstrapped none k new => exact .added _ k new
        | replaced a active short algorithm k new => exact .replaced a algorithm k new
    | generate algorithm =>
      refine (always_bind _ _).mpr (always_mono generateKey_at ?_)
      rintro (e | k) s' h
      · cases h
        exact .same
      · obtain ⟨new, -, rfl⟩ := h
        exact .added algorithm k new
    | retire kid =>
      refine (always_bind _ _).mpr (always_mono retireKey_at ?_)
      rintro (e | _) s' rfl
      · exact .same
      · exact .retired kid
    | delete kid =>
      refine (always_bind _ _).mpr (always_mono deleteKey_at ?_)
      rintro (e | _) s' rfl
      · exact .same
      · exact .deleted kid
  exact effect.run ins

/-! ## Time passes between the calls -/

/-- The tables and the time. -/
structure KeyState where
  store : Store
  now : DateTime

/-- A call of the key service at the moment. -/
def KeyCall.step (D : Deploy) (call : KeyCall) (ins : Nat → Input) (x : KeyState) : KeyState :=
  { x with store := ((call.program D).run (execAt D x.now) ins x.store).2 }

/-- Between the calls the time goes on, and the other services leave the signing keys alone. -/
def KeyState.Passes (x x' : KeyState) : Prop :=
  x'.store.signingKeys = x.store.signingKeys ∧ x.now ≤ x'.now

/-- The table before the first boot. -/
def KeyState.NoKeys (x : KeyState) : Prop := x.store.signingKeys = []

lemma keyCall_step_effect {D : Deploy} (call : KeyCall) (ins : Nat → Input) (x : KeyState) :
    KeyEffect D x.now x.store (call.step D ins x).store :=
  keyCall_effect call ins

/-! ## That keys can be made -/

/-- The libraries make and encrypt a key of the algorithm, for some random bytes. -/
def CanGenerate (D : Deploy) (algorithm : SigningAlgorithm) : Prop :=
  ∃ (i j : Input) (pair : String × String) (c : String),
    D.generateKeypair algorithm (i.bytes 256) = .ok pair ∧ D.encrypt (j.bytes gcmNonceLen) (asBytes pair.1) = .ok c

section
variable {D : Deploy} {s : Store} {now : DateTime} {algorithm : SigningAlgorithm}

lemma db_may {ε α : Type} {q : Stmt} {f : DomainError → ε} {k : q.Val → ServiceFlow ε α} {v : q.Val} {s₁ : Store}
    {Q : α → Store → Prop} (executes : q.exec D now s = (.ok v, s₁)) (next : mayE (execAt D now) (k v) s₁ Q) :
    mayE (execAt D now) (orLeave (db q) f >>= k) s Q := by
  refine mayE_bind (mayE_orLeave ⟨⟨now, none, fun _ => 0, ⟨0⟩⟩, v, ?_⟩)
  have done : execAt D now (.db q) ⟨now, none, fun _ => 0, ⟨0⟩⟩ s = (.ok v, s₁) := executes
  rw [done]
  exact ⟨rfl, next⟩

lemma newKeyMaterial_may {α : Type} {k : SigningKey → ServiceFlow String α} {Q : α → Store → Prop}
    (generates : CanGenerate D algorithm)
    (next : ∀ key, NewKey D algorithm now key → mayE (execAt D now) (k key) s Q) :
    mayE (execAt D now) (newKeyMaterial D algorithm >>= k) s Q := by
  obtain ⟨i, j, pair, c, made, encrypted⟩ := generates
  refine mayE_bind ?_
  unfold newKeyMaterial
  refine mayE_bind (mayE_orLeave ⟨i, pair, made, ?_⟩)
  refine mayE_op i (mayE_op i ?_)
  refine mayE_bind (mayE_orLeave ⟨j, c, encrypted, ?_⟩)
  exact ⟨_, rfl, next _ ⟨rfl, rfl, rfl, rfl, j, _, encrypted⟩⟩

end

end IdpMvp
