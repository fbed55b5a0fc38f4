import IdpMvp.Key.Calls
import IdpMvp.Program.Pool
import IdpMvp.Sample
import IdpMvp.Store.Monitors

/-!
# Rotating once

A further call of `rotate_if_needed` changes nothing if the key that signs after the first one has more than
the lead time left (`rotates_once`). A fresh key is valid for 365 days, and a lead time of up to `2^32 - 1`
days can be configured. Nothing serialises the calls of several instances: one key is made at most as long as
no call inserts its key after another one has done so since its own reading (`one_key_at_most`).
-/

namespace IdpMvp

open Program Program.Prog Program.Flow IdpMvp.Prog

section
variable {D : Deploy} {leadDays : Nat} {s s' : Store} {now : DateTime}

/-! ## One call after another -/

/-- Once a call has succeeded, a further one at the same time changes nothing. -/
def KeyRotatesOnce (D : Deploy) (leadDays : Nat) (s : Store) (now : DateTime) : Prop :=
  ∀ ins ins' s₁, (rotateIfNeeded D leadDays).run.run (execAt D now) ins s = (.ok (), s₁) →
    ((rotateIfNeeded D leadDays).run.run (execAt D now) ins' s₁).2 = s₁

/-- Two calls in a row can succeed: the libraries make two keys and their identifiers are not taken. -/
def CanRotateTwice (D : Deploy) (leadDays : Nat) (s : Store) (now : DateTime) : Prop :=
  ∃ ins ins' s₁ s₂, (rotateIfNeeded D leadDays).run.run (execAt D now) ins s = (.ok (), s₁) ∧
    (rotateIfNeeded D leadDays).run.run (execAt D now) ins' s₁ = (.ok (), s₂)

/-- The usable key besides the active one whose validity began last. -/
def Store.nextKey (D : Deploy) (s : Store) (now : DateTime) : Option SigningKey :=
  match s.activeKey now with
  | none => none
  | some a => (s.retire D a.kid).activeKey now

/-- When the key that signs after a replacement of the active one expires: a fresh key takes over, unless
another usable one begins at this very moment. -/
def Store.successorEnd (D : Deploy) (s : Store) (now : DateTime) : DateTime :=
  match s.nextKey D now with
  | none => now + Duration.days keyValidityDays
  | some b => if b.notBefore < now then now + Duration.days keyValidityDays else b.notAfter

/-- The active key, or the one that takes over from it, has more than the lead time left. -/
def RotationSettles (D : Deploy) (leadDays : Nat) (s : Store) (now : DateTime) : Prop :=
  (∃ a, s.activeKey now = some a ∧ a.notAfter - now > Duration.days leadDays) ∨
    s.successorEnd D now - now > Duration.days leadDays

lemma activeKey_addKey {k : SigningKey} (usable : k.isUsableForSigningAt now = true) :
    (s.addKey k).activeKey now = SigningKey.newer (s.activeKey now) k := by
  simp [Store.activeKey, Store.addKey, List.filter_append, usable]

lemma retire_addKey {k : SigningKey} {kid : String} (ne : D.coll k.kid ≠ D.coll kid) :
    (s.addKey k).retire D kid = (s.retire D kid).addKey k := by
  simp [Store.retire, Store.addKey, ne]

/-- The key that signs after a key was added for the active one. -/
lemma newer_successor {algorithm : SigningAlgorithm} {k : SigningKey} (new : NewKey D algorithm now k)
    (others : Option SigningKey) :
    ∃ b, SigningKey.newer others k = some b ∧
      b.notAfter = match others with
        | none => now + Duration.days keyValidityDays
        | some b => if b.notBefore < now then now + Duration.days keyValidityDays else b.notAfter := by
  cases others with
  | none => exact ⟨k, rfl, new.notAfter⟩
  | some b =>
    simp only [SigningKey.newer, new.notBefore]
    split_ifs
    · exact ⟨k, rfl, new.notAfter⟩
    · exact ⟨b, rfl, rfl⟩

/-- After a successful call, the active key is the old one, with more than the lead time left, or the one
that takes over. -/
lemma KeyRotated.active (rotated : KeyRotated D leadDays now s s') :
    (s' = s ∧ ∃ a, s.activeKey now = some a ∧ a.notAfter - now > Duration.days leadDays) ∨
      ((∀ a, s.activeKey now = some a → ¬ a.notAfter - now > Duration.days leadDays) ∧
        ∃ b, s'.activeKey now = some b ∧ b.notAfter = s.successorEnd D now) := by
  cases rotated with
  | idle a active long => exact .inl ⟨rfl, a, active, long⟩
  | bootstrapped none k new fresh =>
    refine .inr ⟨fun a active => by simp [none] at active, ?_⟩
    rw [activeKey_addKey new.usable, none]
    obtain ⟨b, newest, ends⟩ := newer_successor new Option.none
    refine ⟨b, newest, ?_⟩
    rw [ends, Store.successorEnd, Store.nextKey, none]
  | replaced a active short algorithm k new fresh =>
    refine .inr ⟨fun a' active' => ?_, ?_⟩
    · cases active.symm.trans active'
      exact short
    · have other : D.coll k.kid ≠ D.coll a.kid := (fresh a (activeKey_mem active).1).symm
      rw [retire_addKey other, activeKey_addKey new.usable]
      obtain ⟨b, newest, ends⟩ := newer_successor new ((s.retire D a.kid).activeKey now)
      refine ⟨b, newest, ?_⟩
      rw [ends, Store.successorEnd, Store.nextKey, active]

/-- A call finds nothing to do while the active key has more than the lead time left. -/
lemma rotateIfNeeded_settled {b : SigningKey} (active : s.activeKey now = some b)
    (long : b.notAfter - now > Duration.days leadDays) (ins : Nat → Input) :
    ((rotateIfNeeded D leadDays).run.run (execAt D now) ins s).2 = s := by
  refine alwaysE.run_state (P := (· = s)) ?_ ins
  refine alwaysE_mono rotateIfNeeded_at (fun _ s' rotated => ?_) fun _ s' left => ?_
  · rcases rotated.active with ⟨same, -⟩ | ⟨short, -⟩
    · exact same
    · exact absurd long (short b active)
  · rcases left with same | ⟨a, -, -, active', short, -⟩
    · exact same
    · cases active.symm.trans active'
      exact absurd long short

/-- A call that succeeds although the active key is due changes the table. -/
lemma KeyRotated.changes (rotated : KeyRotated D leadDays now s s')
    (short : ∀ a, s.activeKey now = some a → ¬ a.notAfter - now > Duration.days leadDays) : s' ≠ s := by
  have longer : s'.signingKeys.length = s.signingKeys.length + 1 := by
    cases rotated with
    | idle a active long => exact absurd long (short a active)
    | bootstrapped => simp [Store.addKey]
    | replaced => simp [Store.addKey, Store.retire]
  rintro rfl
  omega

lemma rotation_result {ins : Nat → Input} {s₁ : Store}
    (returned : (rotateIfNeeded D leadDays).run.run (execAt D now) ins s = (.ok (), s₁)) :
    KeyRotated D leadDays now s s₁ := by
  have rotated : KeyRotated D leadDays now s ((rotateIfNeeded D leadDays).run.run (execAt D now) ins s).2 :=
    rotateIfNeeded_at.run_ok (congrArg Prod.fst returned)
  rwa [returned] at rotated

lemma keyRotatesOnce_of_settles (settles : RotationSettles D leadDays s now) : KeyRotatesOnce D leadDays s now := by
  intro ins ins' s₁ returned
  rcases (rotation_result returned).active with ⟨rfl, a, active, long⟩ | ⟨short, b, active, ends⟩
  · exact rotateIfNeeded_settled active long ins'
  · refine rotateIfNeeded_settled active ?_ ins'
    rw [ends]
    rcases settles with ⟨a, active', long⟩ | long
    · exact absurd long (short a active')
    · exact long

lemma settles_of_keyRotatesOnce (twice : CanRotateTwice D leadDays s now) (once : KeyRotatesOnce D leadDays s now) :
    RotationSettles D leadDays s now := by
  obtain ⟨ins, ins', s₁, s₂, first, second⟩ := twice
  by_contra unsettled
  rcases (rotation_result first).active with ⟨-, a, active, long⟩ | ⟨-, b, active, ends⟩
  · exact unsettled (.inl ⟨a, active, long⟩)
  · have same : s₂ = s₁ := by
      rw [← once ins ins' s₁ first, second]
    refine (rotation_result second).changes (fun a active' long => ?_) same
    cases active.symm.trans active'
    rw [ends] at long
    exact unsettled (.inr long)

end

/-! ## Several instances -/

abbrev KeyRotationPool := Program.Config Op.Res Input Store (Except String Unit)

/-- Any number of calls with the same lead time. -/
def keyRotationPool (D : Deploy) (leadDays : Nat) (s : Store) : KeyRotationPool :=
  Config.start s fun _ => (rotateIfNeeded D leadDays).run

/-- The call has inserted a key. -/
def InsertsKey (D : Deploy) (e : Program.Entry Op Input Store) : Prop :=
  ∃ key, e.op = .db (.signingKeyAdmin (.insert key)) ∧
    (e.post (exec D)).signingKeys = e.pre.signingKeys ++ [key]

/-- Time does not go back and stays in a window, and the next call does not insert a key if another one was
inserted since the same thread has read the active one. -/
structure InsertsAlone (D : Deploy) (first last : DateTime) (c : KeyRotationPool) (x : Nat × Input) : Prop where
  time : ∀ e ∈ c.trace, e.input.now ≤ x.2.now
  window : first ≤ x.2.now ∧ x.2.now ≤ last
  alone : ∀ key k, c.thread x.1 = .call (.db (.signingKeyAdmin (.insert key))) k →
    ∀ before e after, c.trace = before ++ e :: after → e.tid = x.1 →
      e.op = .db (.signingKeys .findActive) → ∀ d ∈ after, ¬ InsertsKey D d

/-- Every key whose validity begins in the window has more than the lead time left at its end. -/
def LongLived (leadDays : Nat) (first last : DateTime) (keys : List SigningKey) : Prop :=
  ∀ k ∈ keys, first ≤ k.notBefore → k.notBefore ≤ last → k.notAfter - last > Duration.days leadDays

/-! What a call does to the keys. -/

inductive KeysStep (D : Deploy) (o : Op) (keys : List SigningKey) : List SigningKey → Prop where
  | keep : KeysStep D o keys keys
  | insert (key : SigningKey) (eq : o = .db (.signingKeyAdmin (.insert key)))
    (fresh : ∀ k ∈ keys, D.coll k.kid ≠ D.coll key.kid) : KeysStep D o keys (keys ++ [key])
  | status (kid : String) (status : SigningKeyStatus)
    (eq : o = .db (.signingKeyAdmin (.updateStatus kid status))) :
    KeysStep D o keys (keys.map fun k => if D.coll k.kid = D.coll kid then { k with status := status } else k)
  | delete (kid : String) (eq : o = .db (.signingKeyAdmin (.delete kid))) :
    KeysStep D o keys (keys.filter fun k => D.coll k.kid ≠ D.coll kid)

lemma exec_keys {D : Deploy} (o : Op) (i : Input) (s : Store) :
    KeysStep D o s.signingKeys (exec D o i s).2.signingKeys := by
  have w := exec_written (D := D) o i s
  generalize (exec D o i s).2 = s' at w
  cases w with
  | signingKeys q eq rows h =>
    subst h
    cases q with
    | insert key =>
      simp only [SigningKeyAdminStmt.exec]
      split_ifs with taken
      · exact .keep
      · refine .insert key eq fun k mem same => taken ?_
        exact List.any_eq_true.mpr ⟨k, mem, decide_eq_true same⟩
    | updateStatus kid status =>
      simp only [SigningKeyAdminStmt.exec]
      split_ifs
      · exact .status kid status eq
      · exact .keep
    | delete kid => exact .delete kid eq
  | _ => exact .keep

/-! ## Where a call is -/

inductive KeyRotationPhase where
  | starting
  | timed (now : DateTime)
  | due (active : Option SigningKey)
  | stamped (active : Option SigningKey) (notBefore : DateTime)
  | inserted (active : Option SigningKey)
  | over

/-- Where the result of a call leads. -/
def KeyRotationPhase.next (leadDays : Nat) (φ : KeyRotationPhase) (o : Op) (r : o.Res) : KeyRotationPhase :=
  match φ, o, r with
  | .starting, .clock, now => .timed now
  | .timed _, .db (.signingKeys .findActive), .ok none => .due none
  | .timed now, .db (.signingKeys .findActive), .ok (some a) =>
    if a.notAfter - now > Duration.days leadDays then .over else .due (some a)
  | .due active, .clock, now => .stamped active now
  | .stamped active _, .db (.signingKeyAdmin (.insert _)), .ok _ => .inserted active
  | φ, _, _ => φ

/-- The calls of a phase: a key that is inserted begins when the clock was read for it, and the key that is
retired is the one that was found. -/
def KeyRotationPhase.Allows (φ : KeyRotationPhase) : Op → Prop
  | .db (.signingKeyAdmin (.insert key)) => ∃ active, φ = .stamped active key.notBefore ∧ key.status = .active ∧
      key.notAfter = key.notBefore + Duration.days keyValidityDays
  | .db (.signingKeyAdmin (.updateStatus kid _)) => ∃ a, φ = .inserted (some a) ∧ kid = a.kid
  | .db (.signingKeys .findActive) => True
  | .db _ => False
  | _ => True

def keyRotationMonitor (leadDays : Nat) : Monitor Op.Res KeyRotationPhase where
  init := .starting
  ok := KeyRotationPhase.Allows
  next := KeyRotationPhase.next leadDays

section
variable {D : Deploy} {leadDays : Nat} {active : Option SigningKey} {algorithm : SigningAlgorithm}

lemma newKeyMaterial_guarded :
    alwaysE (keyRotationMonitor leadDays).oracle (newKeyMaterial D algorithm) (some (.due active))
      (fun key ψ => ψ = some (.stamped active key.notBefore) ∧ key.status = .active ∧
        key.notAfter = key.notBefore + Duration.days keyValidityDays)
      (fun _ ψ => ψ.isSome = true) := by
  unfold newKeyMaterial
  refine aside_step (P := fun o => o = .generateKeypair algorithm) (uses_orLeave (uses_op rfl) _) ?_
    (fun _ => rfl) fun pair => ?_
  · rintro o rfl
    exact ⟨trivial, fun _ => rfl⟩
  refine guard_step trivial fun now => ?_
  refine guard_step trivial fun suffix => ?_
  refine aside_step (P := fun o => o = .encrypt (asBytes pair.1)) (uses_orLeave (uses_op rfl) _) ?_
    (fun _ => rfl) fun encrypted => ?_
  · rintro o rfl
    exact ⟨trivial, fun _ => rfl⟩
  exact ⟨rfl, rfl, rfl⟩

lemma generateKeyInternal_guarded :
    alwaysE (keyRotationMonitor leadDays).oracle (generateKeyInternal D algorithm) (some (.due active))
      (fun _ ψ => ψ = some (.inserted active)) (fun _ ψ => ψ.isSome = true) := by
  unfold generateKeyInternal
  refine alwaysE_bind_of newKeyMaterial_guarded (fun _ _ left => left) ?_
  rintro key _ ⟨rfl, status, ends⟩
  exact guard_db_step ⟨active, rfl, status, ends⟩ (fun _ => rfl) fun _ => rfl

lemma rotateIfNeeded_guarded :
    (rotateIfNeeded D leadDays).run.Guarded (keyRotationMonitor leadDays) .starting (fun _ _ => True) := by
  have kept : alwaysE (keyRotationMonitor leadDays).oracle (rotateIfNeeded D leadDays) (some .starting)
      (fun _ ψ => ψ.isSome = true) (fun _ ψ => ψ.isSome = true) := by
    unfold rotateIfNeeded findActiveKey
    refine guard_step trivial fun now => ?_
    refine guard_db_step trivial (fun _ => rfl) ?_
    rintro (_ | a)
    · refine alwaysE_bind_of generateKeyInternal_guarded (fun _ _ left => left) ?_
      rintro key _ rfl
      rfl
    · simp only
      split_ifs with long
      · rfl
      · refine orThrow_step (fun _ _ => rfl) fun algorithm _ => ?_
        have found : (keyRotationMonitor leadDays).next (.timed now) (.db (.signingKeys .findActive))
            (.ok (some a)) = .due (some a) := if_neg long
        refine alwaysE_bind_of (found ▸ generateKeyInternal_guarded) (fun _ _ left => left) ?_
        rintro key _ rfl
        have allowed : (keyRotationMonitor leadDays).ok (.inserted (some a))
            (.db (.signingKeyAdmin (.updateStatus a.kid .retired))) := ⟨a, rfl, rfl⟩
        rw [alwaysE_orLeave]
        intro answer
        rw [Monitor.oracle_some allowed]
        exact ⟨fun _ _ => rfl, fun _ _ => rfl⟩
  refine guarded_of_always (always_mono kept ?_)
  rintro (e | _) ψ h
  · obtain ⟨ψ, rfl⟩ := Option.isSome_iff_exists.mp h
    exact ⟨ψ, rfl, trivial⟩
  · obtain ⟨ψ, rfl⟩ := Option.isSome_iff_exists.mp h
    exact ⟨ψ, rfl, trivial⟩

end

/-! ## The invariant -/

section
variable {D : Deploy} {leadDays : Nat} {first last : DateTime} {s₀ : Store} {c : KeyRotationPool} {x : Nat × Input}

/-- Thread `t` has read the active key before any key was inserted. -/
def ReadFirst (D : Deploy) (trace : List (Program.Entry Op Input Store)) (t : Nat) : Prop :=
  ∃ before e after, trace = before ++ e :: after ∧ e.tid = t ∧ e.op = .db (.signingKeys .findActive) ∧
    ∀ d ∈ before, ¬ InsertsKey D d

/-- The key that was found is still in the table, whatever its status. -/
def StillThere (keys : List SigningKey) (active : Option SigningKey) : Prop :=
  ∀ a, active = some a → ∃ k ∈ keys, k.kid = a.kid

/-- What is known of a thread in a phase. -/
def KeyRotationPhase.Holds (D : Deploy) (first last : DateTime) (keys : List SigningKey)
    (trace : List (Program.Entry Op Input Store)) (t : Nat) : KeyRotationPhase → Prop
  | .timed now => now ≤ last
  | .due active => ReadFirst D trace t ∧ StillThere keys active
  | .stamped active notBefore =>
    (ReadFirst D trace t ∧ StillThere keys active) ∧ first ≤ notBefore ∧ ∃ e ∈ trace, notBefore ≤ e.input.now
  | _ => True

/-- The phase of a thread. -/
abbrev rotationPhase (D : Deploy) (leadDays : Nat) (c : KeyRotationPool) (t : Nat) : KeyRotationPhase :=
  Config.phase (exec D) (keyRotationMonitor leadDays) t c.trace

/-- No key was inserted. -/
structure NoneInserted (D : Deploy) (leadDays : Nat) (s₀ : Store) (c : KeyRotationPool) : Prop where
  unseen : ∀ d ∈ c.trace, ¬ InsertsKey D d
  length : c.store.signingKeys.length = s₀.signingKeys.length
  phases : ∀ t active, rotationPhase D leadDays c t ≠ .inserted active

/-- One key was inserted; it is active, and no thread is about to retire it. -/
structure OneInserted (D : Deploy) (leadDays : Nat) (first : DateTime) (s₀ : Store) (c : KeyRotationPool)
    (made : SigningKey) : Prop where
  seen : ∃ d ∈ c.trace, InsertsKey D d
  length : c.store.signingKeys.length = s₀.signingKeys.length + 1
  mem : made ∈ c.store.signingKeys
  active : made.status = .active
  begins : first ≤ made.notBefore ∧ ∃ e ∈ c.trace, made.notBefore ≤ e.input.now
  spared : ∀ t a, rotationPhase D leadDays c t = .inserted (some a) → D.coll made.kid ≠ D.coll a.kid

structure AtMostOne (D : Deploy) (leadDays : Nat) (first last : DateTime) (s₀ : Store) (c : KeyRotationPool) :
    Prop where
  guarded : Config.Guarded (exec D) (keyRotationMonitor leadDays) (fun _ _ _ => True) c
  long : LongLived leadDays first last c.store.signingKeys
  threads : ∀ t, (rotationPhase D leadDays c t).Holds D first last c.store.signingKeys c.trace t
  count : NoneInserted D leadDays s₀ c ∨ ∃ made, OneInserted D leadDays first s₀ c made

/-! Threads that do not move. -/

lemma ReadFirst.append {trace : List (Program.Entry Op Input Store)} {t : Nat} (r : ReadFirst D trace t)
    (e : Program.Entry Op Input Store) : ReadFirst D (trace ++ [e]) t := by
  obtain ⟨before, d, after, rfl, tid, reads, none⟩ := r
  exact ⟨before, d, after ++ [e], by simp, tid, reads, none⟩

lemma StillThere.mono {keys keys' : List SigningKey} {active : Option SigningKey} (there : StillThere keys active)
    (kids : ∀ k ∈ keys, ∃ k' ∈ keys', k'.kid = k.kid) : StillThere keys' active := by
  intro a eq
  obtain ⟨k, mem, same⟩ := there a eq
  obtain ⟨k', mem', same'⟩ := kids k mem
  exact ⟨k', mem', same'.trans same⟩

lemma KeyRotationPhase.Holds.mono {φ : KeyRotationPhase} {keys keys' : List SigningKey}
    {trace : List (Program.Entry Op Input Store)} {t : Nat} (h : φ.Holds D first last keys trace t)
    (kids : ∀ k ∈ keys, ∃ k' ∈ keys', k'.kid = k.kid) (e : Program.Entry Op Input Store) :
    φ.Holds D first last keys' (trace ++ [e]) t := by
  cases φ with
  | starting => trivial
  | timed now => exact h
  | due active => exact ⟨h.1.append e, h.2.mono kids⟩
  | stamped active notBefore =>
    obtain ⟨⟨reads, there⟩, begins, d, mem, le⟩ := h
    exact ⟨⟨reads.append e, there.mono kids⟩, begins, d, List.mem_append_left _ mem, le⟩
  | inserted active => trivial
  | «over» => trivial

/-- A thread that is about to insert has seen no insertion, if it inserts alone. -/
lemma ReadFirst.none {t : Nat} (r : ReadFirst D c.trace t)
    (alone : ∀ before e after, c.trace = before ++ e :: after → e.tid = t →
      e.op = .db (.signingKeys .findActive) → ∀ d ∈ after, ¬ InsertsKey D d) :
    ∀ d ∈ c.trace, ¬ InsertsKey D d := by
  obtain ⟨before, e, after, split, tid, reads, none⟩ := r
  intro d mem
  rw [split] at mem
  rcases List.mem_append.mp mem with mem | mem
  · exact none d mem
  · rcases List.mem_cons.mp mem with rfl | mem
    · rintro ⟨key, op, -⟩
      cases reads.symm.trans op
    · exact alone before e after split tid reads d mem

/-- Once a key was inserted, the active one has more than the lead time left. -/
lemma OneInserted.settled {made : SigningKey} (one : OneInserted D leadDays first s₀ c made)
    (long : LongLived leadDays first last c.store.signingKeys) (g : InsertsAlone D first last c x)
    {now : DateTime} (before : now ≤ last) :
    ∃ a, c.store.activeKey x.2.now = some a ∧ a.notAfter - now > Duration.days leadDays := by
  obtain ⟨begins, e, mem, le⟩ := one.begins
  have started : made.notBefore ≤ x.2.now := Int.le_trans le (g.time e mem)
  have lead : (0 : Int) ≤ Duration.days leadDays :=
    Int.mul_nonneg (Int.natCast_nonneg _) (by decide)
  have usable : made.isUsableForSigningAt x.2.now = true := by
    have ends := long made one.mem begins (Int.le_trans started g.window.2)
    have later : x.2.now < made.notAfter :=
      Int.lt_of_le_of_lt g.window.2 (Int.lt_of_sub_pos (Int.lt_of_le_of_lt lead ends))
    simp [SigningKey.isUsableForSigningAt, one.active, started, later]
  cases active : c.store.activeKey x.2.now with
  | none =>
    have unusable := activeKey_none_iff.mp active made one.mem
    rw [usable] at unusable
    cases unusable
  | some a =>
    refine ⟨a, rfl, ?_⟩
    obtain ⟨memA, usableA⟩ := activeKey_mem active
    have startedA : a.notBefore ≤ x.2.now := by
      simp only [SigningKey.isUsableForSigningAt, decide_eq_true_eq] at usableA
      exact usableA.2.1
    have ends := long a memA (Int.le_trans begins (activeKey_newest active one.mem usable))
      (Int.le_trans startedA g.window.2)
    exact Int.lt_of_lt_of_le ends (Int.sub_le_sub_left before _)

/-! A call that inserts no key. -/

/-- The call that thread `x.1` is about to make, as an entry. -/
abbrev nextEntry (c : KeyRotationPool) (x : Nat × Input) (o : Op) : Program.Entry Op Input Store := ⟨⟨o, x.2, c.store⟩, x.1⟩

lemma insertsKey_of_ok {key : SigningKey} {i : Input} {s : Store} {t : Nat} {u : Unit}
    (ok : (exec D (.db (.signingKeyAdmin (.insert key))) i s).1 = .ok u) :
    InsertsKey D ⟨⟨.db (.signingKeyAdmin (.insert key)), i, s⟩, t⟩ := by
  refine ⟨key, rfl, ?_⟩
  simp only [Call.post, exec] at ok ⊢
  cases f : i.fault with
  | some d => simp [f] at ok
  | none =>
    simp only [f, Stmt.exec, SigningKeyAdminStmt.exec] at ok ⊢
    split_ifs at ok ⊢
    rfl

variable {o : Op} {k : Op.Res o → Service (Except String Unit)}

/-- It keeps the keys, up to the status of the one that the thread has found due. -/
lemma AtMostOne.keys (h : AtMostOne D leadDays first last s₀ c) (e : c.thread x.1 = .call o k)
    (quiet : ¬ InsertsKey D (nextEntry c x o)) :
    (exec D o x.2 c.store).2.signingKeys.length = c.store.signingKeys.length ∧
      LongLived leadDays first last (exec D o x.2 c.store).2.signingKeys ∧
      (∀ k ∈ c.store.signingKeys, ∃ k' ∈ (exec D o x.2 c.store).2.signingKeys, k'.kid = k.kid) ∧
      ∀ made, OneInserted D leadDays first s₀ c made → made ∈ (exec D o x.2 c.store).2.signingKeys := by
  have allowed := h.guarded.allowed e
  have step := exec_keys (D := D) o x.2 c.store
  have post : ((nextEntry c x o).post (exec D)).signingKeys = (exec D o x.2 c.store).2.signingKeys := rfl
  generalize (exec D o x.2 c.store).2.signingKeys = keys' at step post
  cases step with
  | keep => exact ⟨rfl, h.long, fun k mem => ⟨k, mem, rfl⟩, fun _ one => one.mem⟩
  | insert key eq => exact absurd ⟨key, eq, post⟩ quiet
  | delete kid eq =>
    subst eq
    exact allowed.elim
  | status kid status eq =>
    subst eq
    obtain ⟨a, inserted, rfl⟩ := allowed
    refine ⟨List.length_map _, ?_, ?_, ?_⟩
    · intro k' mem
      obtain ⟨k, old, rfl⟩ := List.mem_map.mp mem
      have long := h.long k old
      split_ifs
      · exact long
      · exact long
    · intro k mem
      refine ⟨_, List.mem_map_of_mem mem, ?_⟩
      split_ifs <;> rfl
    · intro made one
      exact List.mem_map.mpr ⟨made, one.mem, if_neg (one.spared x.1 a inserted)⟩

/-- A thread that finds its key due reads before any key was inserted. -/
lemma AtMostOne.readFirst (h : AtMostOne D leadDays first last s₀ c) (g : InsertsAlone D first last c x)
    {now : DateTime} (before : now ≤ last)
    (due : ∀ a, c.store.activeKey x.2.now = some a → ¬ a.notAfter - now > Duration.days leadDays) :
    ReadFirst D (c.trace ++ [nextEntry c x (.db (.signingKeys .findActive))]) x.1 := by
  refine ⟨c.trace, _, [], rfl, rfl, rfl, ?_⟩
  rcases h.count with none | ⟨made, one⟩
  · exact none.unseen
  · obtain ⟨a, active, long⟩ := one.settled h.long g before
    exact absurd long (due a active)

/-- The result of `find_active`. -/
lemma findActive_result {i : Input} {s : Store} {row : Option SigningKey}
    (result : (exec D (.db (.signingKeys .findActive)) i s).1 = .ok row) : s.activeKey i.now = row := by
  simp only [exec] at result
  cases f : i.fault with
  | some d => simp [f] at result
  | none =>
    simp only [f, Stmt.exec, SigningKeyStmt.exec] at result
    exact Except.ok.inj result

/-- Where it leads. -/
lemma AtMostOne.moves (h : AtMostOne D leadDays first last s₀ c) (g : InsertsAlone D first last c x)
    (e : c.thread x.1 = .call o k) (quiet : ¬ InsertsKey D (nextEntry c x o)) :
    ((rotationPhase D leadDays c x.1).next leadDays o (exec D o x.2 c.store).1).Holds D first last
      (exec D o x.2 c.store).2.signingKeys (c.trace ++ [nextEntry c x o]) x.1 := by
  have kids := (h.keys e quiet).2.2.1
  have holds := h.threads x.1
  generalize rotationPhase D leadDays c x.1 = φ at holds
  generalize result : (exec D o x.2 c.store).1 = r
  unfold KeyRotationPhase.next
  split
  · have clock : x.2.now = _ := result
    exact clock ▸ g.window.2
  · have row := findActive_result result
    refine ⟨h.readFirst g holds fun a active => ?_, fun a never => by cases never⟩
    cases row.symm.trans active
  · rename_i a
    have row := findActive_result result
    split_ifs with long
    · trivial
    · refine ⟨h.readFirst g holds fun a' active => ?_, fun a' eq => ?_⟩
      · cases row.symm.trans active
        exact long
      · cases eq
        exact kids a (activeKey_mem row).1
  · have clock : x.2.now = _ := result
    refine ⟨(holds.mono kids _ : KeyRotationPhase.Holds D first last _ _ _ (.due _)), ?_, ?_⟩
    · exact clock ▸ g.window.1
    · exact ⟨_, List.mem_append_right _ (List.mem_singleton_self _), Int.le_of_eq clock.symm⟩
  · trivial
  · exact holds.mono kids _

/-- A thread has inserted a key only by a call that does so. -/
lemma next_inserted {φ : KeyRotationPhase} {active : Option SigningKey}
    (inserted : φ.next leadDays o (exec D o x.2 c.store).1 = .inserted active)
    (quiet : ¬ InsertsKey D (nextEntry c x o)) : φ = .inserted active := by
  generalize result : (exec D o x.2 c.store).1 = r at inserted
  unfold KeyRotationPhase.next at inserted
  split at inserted
  · cases inserted
  · cases inserted
  · split_ifs at inserted
  · cases inserted
  · exact absurd (insertsKey_of_ok result) quiet
  · exact inserted

lemma AtMostOne.quiet_step (h : AtMostOne D leadDays first last s₀ c) (g : InsertsAlone D first last c x)
    (e : c.thread x.1 = .call o k) (quiet : ¬ InsertsKey D (nextEntry c x o)) :
    AtMostOne D leadDays first last s₀ (Config.step (exec D) c x) := by
  obtain ⟨length, long, kids, keeps⟩ := h.keys e quiet
  have phases : ∀ t active, rotationPhase D leadDays (Config.step (exec D) c x) t = .inserted active →
      rotationPhase D leadDays c t = .inserted active := by
    intro t active inserted
    by_cases same : t = x.1
    · subst same
      rw [rotationPhase, Config.phase_step_self e] at inserted
      exact next_inserted inserted quiet
    · rwa [rotationPhase, Config.phase_step_ne same] at inserted
  have store : (Config.step (exec D) c x).store = (exec D o x.2 c.store).2 := by rw [Config.step_call e]
  have trace : (Config.step (exec D) c x).trace = c.trace ++ [nextEntry c x o] := by rw [Config.step_call e]
  refine ⟨h.guarded.step x, store ▸ long, fun t => ?_, ?_⟩
  · rw [store, trace]
    by_cases same : t = x.1
    · subst same
      rw [rotationPhase, Config.phase_step_self e]
      exact h.moves g e quiet
    · rw [rotationPhase, Config.phase_step_ne same]
      exact (h.threads t).mono kids _
  · rcases h.count with none | ⟨made, one⟩
    · refine .inl ⟨?_, by rw [store, length, none.length], fun t active inserted => ?_⟩
      · rw [trace]
        intro d mem
        rcases List.mem_append.mp mem with mem | mem
        · exact none.unseen d mem
        · exact List.mem_singleton.mp mem ▸ quiet
      · exact none.phases t active (phases t active inserted)
    · obtain ⟨d, mem, inserts⟩ := one.seen
      obtain ⟨begins, d', mem', le⟩ := one.begins
      refine .inr ⟨made, ⟨d, ?_, inserts⟩, ?_, store ▸ keeps made one, one.active, ⟨begins, d', ?_, le⟩, ?_⟩
      · rw [trace]
        exact List.mem_append_left _ mem
      · rw [store, length, one.length]
      · rw [trace]
        exact List.mem_append_left _ mem'
      · exact fun t a inserted => one.spared t a (phases t _ inserted)

/-! A call that inserts a key. -/

lemma InsertsKey.fresh {d : Program.Entry Op Input Store} {key : SigningKey}
    (op : d.op = .db (.signingKeyAdmin (.insert key)))
    (post : (d.post (exec D)).signingKeys = d.pre.signingKeys ++ [key]) :
    ∀ k ∈ d.pre.signingKeys, D.coll k.kid ≠ D.coll key.kid := by
  have step : KeysStep D d.op d.pre.signingKeys (d.post (exec D)).signingKeys := exec_keys d.op d.input d.pre
  have length : (d.post (exec D)).signingKeys.length = d.pre.signingKeys.length + 1 := by simp [post]
  generalize (d.post (exec D)).signingKeys = keys' at step length
  cases step with
  | keep => omega
  | insert key' eq fresh =>
    cases op.symm.trans eq
    exact fresh
  | status kid status eq => cases op.symm.trans eq
  | delete kid eq => cases op.symm.trans eq

/-- After the insertion the thread has inserted, for the key that it has found. -/
lemma next_stamped {key : SigningKey} {active active' : Option SigningKey} {notBefore : DateTime}
    {r : Op.Res (.db (.signingKeyAdmin (.insert key)))}
    (inserted : (KeyRotationPhase.stamped active notBefore).next leadDays
      (.db (.signingKeyAdmin (.insert key))) r = .inserted active') : active' = active := by
  cases r with
  | error d => cases inserted
  | ok u =>
    cases inserted
    rfl

lemma next_stamped_holds {key : SigningKey} {active : Option SigningKey} {notBefore : DateTime}
    {r : Op.Res (.db (.signingKeyAdmin (.insert key)))} {keys : List SigningKey}
    {trace : List (Program.Entry Op Input Store)} {t : Nat}
    (holds : (KeyRotationPhase.stamped active notBefore).Holds D first last keys trace t) :
    ((KeyRotationPhase.stamped active notBefore).next leadDays (.db (.signingKeyAdmin (.insert key))) r).Holds D
      first last keys trace t := by
  cases r with
  | error d => exact holds
  | ok u => trivial

lemma AtMostOne.insert_step (h : AtMostOne D leadDays first last s₀ c) (g : InsertsAlone D first last c x)
    (fresh : first + Duration.days keyValidityDays - last > Duration.days leadDays)
    (e : c.thread x.1 = .call o k) (inserts : InsertsKey D (nextEntry c x o)) :
    AtMostOne D leadDays first last s₀ (Config.step (exec D) c x) := by
  obtain ⟨key, rfl, post⟩ := id inserts
  obtain ⟨active, stamped, status, ends⟩ := h.guarded.allowed e
  have holds := h.threads x.1
  rw [rotationPhase, stamped] at holds
  obtain ⟨⟨reads, there⟩, begins, d, memD, le⟩ := id holds
  have unseen := reads.none (g.alone key k e)
  have none : NoneInserted D leadDays s₀ c := by
    rcases h.count with none | ⟨made, one⟩
    · exact none
    · obtain ⟨d, mem, inserts⟩ := one.seen
      exact absurd inserts (unseen d mem)
  have keys : (Config.step (exec D) c x).store.signingKeys = c.store.signingKeys ++ [key] := by
    rw [Config.step_call e]
    exact post
  have trace : (Config.step (exec D) c x).trace =
      c.trace ++ [nextEntry c x (.db (.signingKeyAdmin (.insert key)))] := by rw [Config.step_call e]
  have kids : ∀ k ∈ c.store.signingKeys, ∃ k' ∈ c.store.signingKeys ++ [key], k'.kid = k.kid :=
    fun k mem => ⟨k, List.mem_append_left _ mem, rfl⟩
  refine ⟨h.guarded.step x, ?_, fun t => ?_, .inr ⟨key, ?_, ?_, ?_, status, ⟨begins, d, ?_, le⟩, fun t a inserted => ?_⟩⟩
  · rw [keys]
    intro k mem
    rcases List.mem_append.mp mem with mem | mem
    · exact h.long k mem
    · obtain rfl := List.mem_singleton.mp mem
      intro _ _
      rw [ends]
      exact Int.lt_of_lt_of_le fresh (Int.sub_le_sub_right (Int.add_le_add_right begins _) _)
  · rw [keys, trace]
    by_cases same : t = x.1
    · subst same
      rw [rotationPhase, Config.phase_step_self e, stamped]
      exact next_stamped_holds (holds.mono kids _)
    · rw [rotationPhase, Config.phase_step_ne same]
      exact (h.threads t).mono kids _
  · rw [trace]
    exact ⟨_, List.mem_append_right _ (List.mem_singleton_self _), inserts⟩
  · rw [keys, List.length_append, none.length, List.length_singleton]
  · rw [keys]
    exact List.mem_append_right _ (List.mem_singleton_self _)
  · rw [trace]
    exact List.mem_append_left _ memD
  · by_cases same : t = x.1
    · subst same
      rw [rotationPhase, Config.phase_step_self e, stamped] at inserted
      obtain ⟨k', mem', same⟩ := there a (next_stamped inserted).symm
      have other := InsertsKey.fresh (d := nextEntry c x _) rfl post k' mem'
      rw [same] at other
      exact other.symm
    · rw [rotationPhase, Config.phase_step_ne same] at inserted
      exact absurd inserted (none.phases t _)

lemma AtMostOne.step (h : AtMostOne D leadDays first last s₀ c) (g : InsertsAlone D first last c x)
    (fresh : first + Duration.days keyValidityDays - last > Duration.days leadDays) :
    AtMostOne D leadDays first last s₀ (Config.step (exec D) c x) := by
  cases e : c.thread x.1 with
  | ret a => rwa [Config.step_ret e]
  | call o k =>
    by_cases inserts : InsertsKey D (nextEntry c x o)
    · exact h.insert_step g fresh e inserts
    · exact h.quiet_step g e inserts

/-- In every interleaving within a window in which every call inserts alone, at most one key is made, if the
keys that begin in the window and a fresh key have more than the lead time left at its end. -/
lemma one_key_at_most {sched : List (Nat × Input)}
    (fresh : first + Duration.days keyValidityDays - last > Duration.days leadDays)
    (long : LongLived leadDays first last s₀.signingKeys)
    (alone : Config.Admissible (exec D) (InsertsAlone D first last) (keyRotationPool D leadDays s₀) sched) :
    (Config.exec (exec D) (keyRotationPool D leadDays s₀) sched).store.signingKeys.length ≤
      s₀.signingKeys.length + 1 := by
  have atMost : AtMostOne D leadDays first last s₀ (Config.exec (exec D) (keyRotationPool D leadDays s₀) sched) := by
    refine Config.exec_invariant alone ⟨?_, long, fun _ => trivial, .inl ⟨?_, rfl, ?_⟩⟩ fun c x h g => h.step g fresh
    · exact fun _ => rotateIfNeeded_guarded
    · exact fun d mem => absurd mem List.not_mem_nil
    · exact fun t active inserted => by cases inserted
  rcases atMost.count with none | ⟨made, one⟩
  · rw [none.length]
    exact Nat.le_succ _
  · exact Nat.le_of_eq one.length

end

/-- `rotate_if_needed` is idempotent just where the active key, or the one that takes over from it, has more
than the lead time left; and in every interleaving within a window in which every call inserts alone, at most one
key is made, if the keys that begin in the window and a fresh key have more than the lead time left at its end. -/
theorem rotates_once (D : Deploy) (leadDays : Nat) (s : Store) :
    (∀ now, (RotationSettles D leadDays s now → KeyRotatesOnce D leadDays s now) ∧
      (CanRotateTwice D leadDays s now → KeyRotatesOnce D leadDays s now → RotationSettles D leadDays s now)) ∧
    ∀ first last sched, first + Duration.days keyValidityDays - last > Duration.days leadDays →
      LongLived leadDays first last s.signingKeys →
      Config.Admissible (exec D) (InsertsAlone D first last) (keyRotationPool D leadDays s) sched →
      (Config.exec (exec D) (keyRotationPool D leadDays s) sched).store.signingKeys.length ≤
        s.signingKeys.length + 1 := by
  refine ⟨fun now => ⟨keyRotatesOnce_of_settles, settles_of_keyRotatesOnce⟩, ?_⟩
  intro first last sched fresh long alone
  exact one_key_at_most fresh long alone

/-! ## A lead time of a year, and two instances -/

namespace Sample

/-- No key, and a key that expires in ten days. -/
def keylessStore : Store := { store with signingKeys := [] }

def dueStore : Store :=
  { store with
    signingKeys := [⟨"k1", "RS256", "rsa-public", stored 0 (asBytes "RSA"), .active, 0, now + Duration.days 10⟩] }

/-- One instance after the other. -/
def oneAfterTheOther : List (Nat × Input) :=
  List.replicate 8 (0, input 7) ++ List.replicate 2 (1, input 8)

/-- Both instances look for the active key before either inserts. -/
def bothFindItDue : List (Nat × Input) :=
  List.replicate 2 (0, input 7) ++ List.replicate 2 (1, input 8) ++ List.replicate 6 (0, input 7) ++
    List.replicate 6 (1, input 8)

/-- A sufficient test for a call that inserts alone, at `now`. -/
def insertsFirst (c : KeyRotationPool) (x : Nat × Input) : Bool :=
  c.trace.all (fun e => decide (e.input.now = now)) && decide (x.2.now = now) &&
    match c.thread x.1 with
    | .call (.db (.signingKeyAdmin (.insert _))) _ => c.trace.all fun e =>
      match e.op with
      | .db (.signingKeyAdmin (.insert _)) => false
      | _ => true
    | _ => true

lemma insertsFirst_sound (c : KeyRotationPool) (x : Nat × Input) (test : insertsFirst c x = true) :
    InsertsAlone deploy now now c x := by
  simp only [insertsFirst, Bool.and_eq_true, List.all_eq_true, decide_eq_true_eq] at test
  obtain ⟨⟨earlier, time⟩, first⟩ := test
  refine ⟨fun e mem => ?_, ?_, ?_⟩
  · exact Int.le_of_eq ((earlier e mem).trans time.symm)
  · rw [time]
    exact ⟨Int.le_refl _, Int.le_refl _⟩
  · rintro key k thread before e after split - - d mem ⟨key', op, -⟩
    rw [thread] at first
    have absent := List.all_eq_true.mp first d (by simp [split, mem])
    rw [op] at absent
    cases absent

end Sample

open Sample in
set_option maxRecDepth 8000 in
theorem rotates_once_sample :
    KeyRotatesOnce deploy 30 dueStore now ∧ CanRotateTwice deploy 30 dueStore now ∧
      RotationSettles deploy 30 dueStore now ∧
      (Config.exec (exec deploy) (keyRotationPool deploy 30 dueStore) oneAfterTheOther).store.signingKeys.length = 2 ∧
      (Config.exec (exec deploy) (keyRotationPool deploy 30 dueStore) oneAfterTheOther).store.signingKeys.length ≤
        2 := by
  obtain ⟨settled, interleaved⟩ := rotates_once deploy 30 dueStore
  have settles : RotationSettles deploy 30 dueStore now := .inr (by decide +kernel)
  have once := (settled now).1 settles
  have twice : CanRotateTwice deploy 30 dueStore now :=
    ⟨fun _ => input 7, fun _ => input 8, _, _, Prod.ext rfl rfl, Prod.ext rfl rfl⟩
  refine ⟨once, twice, (settled now).2 twice once, by decide +kernel, ?_⟩
  refine interleaved now now oneAfterTheOther (by decide) ?_ ?_
  · intro k mem begins
    obtain rfl := List.mem_singleton.mp mem
    exact absurd begins (by decide)
  · exact Config.admissible_of_passes insertsFirst_sound (by decide +kernel)

open Sample in
set_option maxRecDepth 8000 in
/-- With a lead time of a year the second call rotates again, and two instances that find the same key due make
two active keys. -/
theorem rotation_repeated :
    ¬ KeyRotatesOnce deploy 365 keylessStore now ∧
      ((Config.exec (exec deploy) (keyRotationPool deploy 30 dueStore) bothFindItDue).store.signingKeys.filter
        fun k => k.status = .active ∧ k ∉ dueStore.signingKeys).length = 2 := by
  refine ⟨fun once => ?_, by decide +kernel⟩
  have same := once (fun _ => input 7) (fun _ => input 8) _ (Prod.ext rfl rfl)
  have keys := congrArg (fun s => s.signingKeys.length) same
  revert keys
  decide +kernel

end IdpMvp
