import IdpMvp.Key.Calls
import IdpMvp.Program.History
import IdpMvp.Sample

/-!
# The bootstrap of the first key

`ensure_active_key` looks for a usable key, `insert_if_no_active` for any row with the status `ACTIVE`. The two
agree as long as a usable key or no such row at all is there.
-/

namespace IdpMvp

open Program Program.Prog Program.Flow IdpMvp.Prog

/-- Every private key of the table decrypts to a text. -/
def KeysDecrypt (D : Deploy) (keys : List SigningKey) : Prop :=
  ∀ k ∈ keys, ∃ bytes pem, D.decrypt k.privateKeyEncrypted = .ok bytes ∧ fromUtf8 bytes = some pem

/-- Whenever `ensure_active_key` succeeds, `active_signing_key` finds a key at the same moment. -/
def EnsuresSigning (D : Deploy) (s : Store) (now : DateTime) : Prop :=
  ∀ ins s', (ensureActiveKey D).run.run (execAt D now) ins s = (.ok (), s') →
    ∀ ins' : Nat → Input, (ins' 0).fault = none →
      ∃ active, ((activeSigningKey D).run (execAt D now) ins' s').1 = .ok active

section
variable {D : Deploy} {s : Store} {now : DateTime}

lemma fromUtf8_asBytes (text : String) : fromUtf8 (asBytes text) = some text := by
  unfold fromUtf8 asBytes String.fromUTF8?
  exact dif_pos text.isValidUTF8

/-! ## Every stored key decrypts -/

lemma NewKey.decrypts {algorithm : SigningAlgorithm} {k : SigningKey} (own : D.DecryptsOwn)
    (new : NewKey D algorithm now k) :
    ∃ bytes pem, D.decrypt k.privateKeyEncrypted = .ok bytes ∧ fromUtf8 bytes = some pem := by
  obtain ⟨i, plain, encrypted⟩ := new.encrypted
  exact ⟨asBytes plain, plain, own.decrypt (i.length_bytes _) encrypted, fromUtf8_asBytes plain⟩

lemma KeysDecrypt.addKey {k : SigningKey} (keys : KeysDecrypt D s.signingKeys)
    (decrypts : ∃ bytes pem, D.decrypt k.privateKeyEncrypted = .ok bytes ∧ fromUtf8 bytes = some pem) :
    KeysDecrypt D (s.addKey k).signingKeys := by
  intro k' mem
  rcases List.mem_append.mp mem with old | new
  · exact keys k' old
  · rw [List.mem_singleton.mp new]
    exact decrypts

lemma KeysDecrypt.retire {kid : String} (keys : KeysDecrypt D s.signingKeys) :
    KeysDecrypt D (s.retire D kid).signingKeys := by
  intro k' mem
  obtain ⟨k, old, rfl⟩ := List.mem_map.mp mem
  obtain ⟨bytes, pem, decrypted⟩ := keys k old
  refine ⟨bytes, pem, ?_⟩
  split_ifs
  · exact decrypted
  · exact decrypted

lemma KeysDecrypt.effect {s' : Store} (own : D.DecryptsOwn) (keys : KeysDecrypt D s.signingKeys)
    (effect : KeyEffect D now s s') : KeysDecrypt D s'.signingKeys := by
  cases effect with
  | same => exact keys
  | added algorithm k new => exact keys.addKey (new.decrypts own)
  | replaced a algorithm k new => exact (keys.addKey (new.decrypts own)).retire
  | retired kid => exact keys.retire
  | deleted kid => exact fun k mem => keys k (List.mem_of_mem_filter mem)

/-- Every reachable table decrypts. -/
lemma runs_keysDecrypt (own : D.DecryptsOwn) {es : List (Event KeyCall Input KeyState)} {x : KeyState}
    (run : Runs (KeyCall.step D) KeyState.NoKeys KeyState.Passes (fun _ _ => True) es x) :
    KeysDecrypt D x.store.signingKeys := by
  refine run.invariant (I := fun _ x => KeysDecrypt D x.store.signingKeys) (fun x none => ?_) (fun _ x x' keys passes => ?_) fun _ x call ins keys _ => ?_
  · rw [none]
    exact fun k mem => absurd mem List.not_mem_nil
  · rw [passes.1]
    exact keys
  · exact keys.effect own (keyCall_step_effect call ins x)

/-! ## Looking for the key that signs -/

/-- Without a failure of the database, `active_signing_key` succeeds on a table that decrypts just if a
usable key is there. -/
lemma activeSigningKey_finds {ins : Nat → Input} (keys : KeysDecrypt D s.signingKeys)
    (quiet : (ins 0).fault = none) :
    (∃ active, ((activeSigningKey D).run (execAt D now) ins s).1 = .ok active) ↔
      (s.activeKey now).isSome = true := by
  have row : execAt D now (.db (.signingKeys .findActive)) (ins 0) s = (.ok (s.activeKey now), s) := by
    simp only [execAt, exec, quiet]
    rfl
  have steps : (activeSigningKey D).run (execAt D now) ins s =
      Prog.run (execAt D now) (Prog.call (.db (.signingKeys .findActive)) _) ins s := rfl
  rw [steps, Prog.run, row]
  cases active : s.activeKey now with
  | none =>
    refine ⟨?_, fun never => by cases never⟩
    rintro ⟨_, never⟩
    cases never
  | some key =>
    obtain ⟨bytes, pem, decrypted, utf8⟩ := keys key (activeKey_mem active).1
    refine ⟨fun _ => rfl, fun _ => ?_⟩
    simp only [Prog.bind, decrypted, utf8]
    exact ⟨_, rfl⟩

/-! ## When the two tests agree -/

/-- With no usable key and a row with the status `ACTIVE`, `ensure_active_key` can succeed and leaves the
table as it is. -/
lemma ensureActiveKey_blocked (generates : CanGenerate D .rs256) (none : s.activeKey now = none)
    {k : SigningKey} (mem : k ∈ s.signingKeys) (active : k.status = .active) :
    mayE (execAt D now) (ensureActiveKey D) s (fun _ s' => s' = s) := by
  unfold ensureActiveKey findActiveKey
  refine db_may (v := s.activeKey now) rfl ?_
  simp only [none, Option.isSome_none, Bool.false_eq_true, if_false]
  refine newKeyMaterial_may generates fun key _ => mayE_bind (mayE_orLeave ?_)
  unfold insertIfNoActive
  refine db_may rfl (db_may rfl ?_)
  have any : s.signingKeys.any (fun k => k.status = .active) = true :=
    List.any_eq_true.mpr ⟨k, mem, decide_eq_true active⟩
  rw [any]
  exact ⟨_, rfl, _, rfl, rfl⟩

lemma ensuresSigning_iff (generates : CanGenerate D .rs256) (keys : KeysDecrypt D s.signingKeys)
    (own : D.DecryptsOwn) :
    EnsuresSigning D s now ↔
      (s.activeKey now).isSome = true ∨ ∀ k ∈ s.signingKeys, k.status ≠ .active := by
  constructor
  · intro ensures
    by_contra neither
    push Not at neither
    obtain ⟨unusable, k, mem, active⟩ := neither
    have none : s.activeKey now = none := by simpa using unusable
    obtain ⟨ins, _, done, same⟩ := (ensureActiveKey_blocked generates none mem active).run
    have found := ensures ins s (Prod.ext done same) (fun _ => ⟨now, Option.none, fun _ => 0, ⟨0⟩⟩) rfl
    exact unusable ((activeSigningKey_finds keys rfl).mp found)
  · rintro condition ins s' returned ins' quiet
    have ensured : KeyEnsured D now s ((ensureActiveKey D).run.run (execAt D now) ins s).2 :=
      ensureActiveKey_at.run_ok (congrArg Prod.fst returned)
    rw [returned] at ensured
    cases ensured with
    | usable active => exact (activeSigningKey_finds keys quiet).mpr active
    | blocked none k mem active =>
      rcases condition with usable | unmarked
      · rw [none] at usable
        cases usable
      · exact absurd active (unmarked k mem)
    | inserted _ k new =>
      refine (activeSigningKey_finds (keys.addKey (new.decrypts own)) quiet).mpr ?_
      rw [← Option.ne_none_iff_isSome]
      intro none
      have unusable := activeKey_none_iff.mp none k (List.mem_append_right _ (List.mem_singleton.mpr rfl))
      rw [new.usable] at unusable
      cases unusable

/-- On every table that the calls and the passage of time can lead to, a successful bootstrap leaves a key
that signs just if a usable key was there or no row had the status `ACTIVE`. -/
theorem bootstrap_signs_iff (own : D.DecryptsOwn) (generates : CanGenerate D .rs256)
    {es : List (Event KeyCall Input KeyState)} {x : KeyState}
    (run : Runs (KeyCall.step D) KeyState.NoKeys KeyState.Passes (fun _ _ => True) es x) :
    EnsuresSigning D x.store x.now ↔
      (x.store.activeKey x.now).isSome = true ∨ ∀ k ∈ x.store.signingKeys, k.status ≠ .active :=
  ensuresSigning_iff generates (runs_keysDecrypt own run) own

end

/-! ## A table whose only active key has expired -/

namespace Sample

/-- The instance before its first boot. -/
def firstBoot : KeyState := ⟨{ store with signingKeys := [] }, now⟩

/-- The table after an administrator has generated a key, 365 days later. -/
def expiredKey : KeyState :=
  { KeyCall.step deploy (.generate .rs256) (fun _ => input 7) firstBoot with
    now := now + Duration.days keyValidityDays }

lemma deploy_canGenerate : CanGenerate deploy .rs256 :=
  ⟨input 7, input 7, ("RSA", "rsa-public"), stored 7 (asBytes "RSA"), rfl, by decide +kernel⟩

lemma expiredKey_reached :
    Runs (KeyCall.step deploy) KeyState.NoKeys KeyState.Passes (fun _ _ => True)
      [⟨.generate .rs256, fun _ => input 7, firstBoot⟩] expiredKey := by
  have booted : KeyState.NoKeys firstBoot := rfl
  refine .env (s := KeyCall.step deploy (.generate .rs256) (fun _ => input 7) firstBoot) ?_ ?_
  · exact Runs.call (.start booted) (KeyCall.generate .rs256) (fun _ => input 7) trivial
  · exact ⟨rfl, Int.le_add_of_nonneg_right (by decide)⟩

end Sample

namespace Sample

/-- The administrator generates another one. -/
def replacedKey : KeyState := KeyCall.step deploy (.generate .rs256) (fun _ => input 8) expiredKey

end Sample

/-- With a usable key beside the expired one, a bootstrap leaves a key that signs. -/
theorem bootstrap_signs_iff_sample :
    EnsuresSigning Sample.deploy Sample.replacedKey.store Sample.replacedKey.now := by
  have run := Sample.expiredKey_reached.call (.generate .rs256) (fun _ => Sample.input 8) trivial
  have usable : (Sample.replacedKey.store.activeKey Sample.replacedKey.now).isSome = true := by decide +kernel
  exact (bootstrap_signs_iff Sample.deploy_decryptsOwn Sample.deploy_canGenerate run).mpr (.inl usable)

/-- Once the only key has expired, `ensure_active_key` succeeds and nothing can be signed. -/
theorem expired_key_blocks_bootstrap :
    ¬ ∀ (es : List (Event KeyCall Input KeyState)) (x : KeyState),
      Runs (KeyCall.step Sample.deploy) KeyState.NoKeys KeyState.Passes (fun _ _ => True) es x →
        EnsuresSigning Sample.deploy x.store x.now := by
  intro claim
  have ensures := claim _ _ Sample.expiredKey_reached
  have keys := runs_keysDecrypt Sample.deploy_decryptsOwn Sample.expiredKey_reached
  rw [ensuresSigning_iff Sample.deploy_canGenerate keys Sample.deploy_decryptsOwn] at ensures
  revert ensures
  decide +kernel

end IdpMvp
