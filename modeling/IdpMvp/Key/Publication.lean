import IdpMvp.Key.Calls
import IdpMvp.Program.History
import IdpMvp.Sample
import Mathlib.Tactic.Linarith

/-!
# Published keys and the tokens they signed

Which key signs depends on the beginning of the validity, what is published on its end. With a rotation every
hour, the key that signs has more than the lifetime of a token left, as long as the key that takes over from a
retired one has (`keys_outlive_tokens`): the rotation looks at no other active key than the newest.
-/

namespace IdpMvp

open Program Program.Prog Program.Flow IdpMvp.Prog

/-! ## The ledger -/

/-- When a token expires. -/
def JwtClaims.expiresAt : JwtClaims → DateTime
  | .idToken c => c.exp * 1000000
  | .accessToken c => c.exp * 1000000

/-- A token that was issued, and the key that signed it. -/
structure IssuedToken where
  token : String
  key : SigningKey
  expiresAt : DateTime

/-- The tables, the time, when a rotation has last succeeded, and the tokens that were issued. -/
structure KeyLedger where
  store : Store
  now : DateTime
  rotatedAt : DateTime
  issued : List IssuedToken

inductive LedgerCall where
  | ensure
  | rotate
  | generate (algorithm : SigningAlgorithm)
  | retire (kid : String)
  | issue (typ : String) (claims : JwtClaims)

/-- After a rotation. -/
def KeyLedger.afterRotation (x : KeyLedger) : Except String Unit × Store → KeyLedger
  | (.ok _, s) => { x with store := s, rotatedAt := x.now }
  | (.error _, s) => { x with store := s }

/-- After a token was signed, or not; `find_active` gives the key that signs. -/
def KeyLedger.afterSigning (x : KeyLedger) (claims : JwtClaims) : Except TokenError String × Store → KeyLedger
  | (.ok token, s) =>
    { x with
      store := s
      issued := x.issued ++ (x.store.activeKey x.now).toList.map fun key => ⟨token, key, claims.expiresAt⟩ }
  | (.error _, s) => { x with store := s }

/-- A call at the moment. -/
def LedgerCall.step (D : Deploy) (leadDays : Nat) (call : LedgerCall) (ins : Nat → Input) (x : KeyLedger) :
    KeyLedger :=
  match call with
  | .ensure => { x with store := ((ensureActiveKey D).run.run (execAt D x.now) ins x.store).2 }
  | .rotate => x.afterRotation ((rotateIfNeeded D leadDays).run.run (execAt D x.now) ins x.store)
  | .generate algorithm => { x with store := ((generateKey D algorithm).run.run (execAt D x.now) ins x.store).2 }
  | .retire kid => { x with store := ((retireKey kid).run.run (execAt D x.now) ins x.store).2 }
  | .issue typ claims => x.afterSigning claims ((signToken D typ claims).run.run (execAt D x.now) ins x.store)

/-- The interval of the background task. -/
def rotationInterval : Duration := Duration.minutes 60

/-- The first boot. -/
def KeyLedger.Boots (x : KeyLedger) : Prop :=
  x.store.signingKeys = [] ∧ x.issued = [] ∧ x.rotatedAt = x.now

/-- Between the calls the time goes on until a rotation is due. -/
structure KeyLedger.Passes (x x' : KeyLedger) : Prop where
  keys : x'.store.signingKeys = x.store.signingKeys
  time : x.now ≤ x'.now ∧ x'.now ≤ x.rotatedAt + rotationInterval
  rotatedAt : x'.rotatedAt = x.rotatedAt
  issued : x'.issued = x.issued

/-- Tokens live at most for `lifetime`. -/
def LedgerCall.IssuesFor (lifetime : Duration) : LedgerCall → KeyLedger → Prop
  | .issue _ claims, x => claims.expiresAt ≤ x.now + lifetime
  | _, _ => True

/-- Also, a key that takes over from a retired one outlives the tokens it may sign until the next rotation. -/
def LedgerCall.Outlives (D : Deploy) (lifetime : Duration) (call : LedgerCall) (x : KeyLedger) : Prop :=
  call.IssuesFor lifetime x ∧ ∀ kid, call = .retire kid → ∀ b, (x.store.retire D kid).activeKey x.now = some b →
    x.rotatedAt + rotationInterval + lifetime ≤ b.notAfter

/-- The rows that `jwks` publishes. -/
def Store.published (s : Store) (now : DateTime) : List SigningKey := s.signingKeys.filter (·.notAfter > now)

/-- The same key, whatever its status. -/
def SigningKey.SameAs (k k' : SigningKey) : Prop :=
  k.kid = k'.kid ∧ k.algorithm = k'.algorithm ∧ k.publicKey = k'.publicKey

/-- The key is among those that `jwks` publishes, and whenever `jwks` answers, its answer has it. -/
def KeyPublished (D : Deploy) (s : Store) (now : DateTime) (key : SigningKey) : Prop :=
  (∃ k ∈ s.published now, k.SameAs key) ∧
    ∀ ins keys, ((jwks D).run.run (execAt D now) ins s).1 = .ok keys →
      ∃ jwk ∈ keys, D.publicJwk key.kid key.algorithm key.publicKey = .ok jwk

/-- The token was signed under the key. -/
def IssuedToken.Signed (D : Deploy) (t : IssuedToken) : Prop :=
  ∃ pem typ claims, sign D pem t.key.kid typ t.key.algorithm claims = .ok t.token ∧ claims.expiresAt = t.expiresAt

/-! ## What is read at a moment -/

section
variable {D : Deploy} {s : Store} {now : DateTime}

lemma activeSigningKey_at :
    always (execAt D now) (activeSigningKey D) s (fun r s' => s' = s ∧ ∀ active, r = .ok active →
      ∃ key, s.activeKey now = some key ∧ active.kid = key.kid ∧ active.algorithm = key.algorithm) := by
  unfold activeSigningKey
  rw [always_bind]
  rintro ⟨time, _ | d, byte, uuid⟩
  · simp only [always_ret, execAt, exec, Stmt.exec, SigningKeyStmt.exec]
    split
    · exact ⟨rfl, fun _ never => by cases never⟩
    · exact ⟨rfl, fun _ never => by cases never⟩
    · rename_i key active
      have row : s.activeKey now = some key := Except.ok.inj active
      split
      · exact ⟨rfl, fun _ never => by cases never⟩
      · split
        · exact ⟨rfl, fun _ never => by cases never⟩
        · refine ⟨rfl, fun active eq => ?_⟩
          cases eq
          exact ⟨key, row, rfl, rfl⟩
  · exact ⟨rfl, fun _ never => by cases never⟩

lemma signToken_at {typ : String} {claims : JwtClaims} :
    alwaysE (execAt D now) (signToken D typ claims) s
      (fun token s' => s' = s ∧ ∃ key pem, s.activeKey now = some key ∧
        sign D pem key.kid typ key.algorithm claims = .ok token)
      (fun _ s' => s' = s) := by
  unfold signToken
  rw [alwaysE_bind, alwaysE_orLeave]
  refine always_mono activeSigningKey_at ?_
  rintro r s' ⟨rfl, loaded⟩
  refine ⟨fun active ok => ?_, fun _ _ => rfl⟩
  obtain ⟨key, row, kid, algorithm⟩ := loaded active ok
  rw [alwaysE_orThrow]
  refine ⟨fun token signed => ⟨rfl, key, active.privatePem, row, ?_⟩, fun _ _ => rfl⟩
  rwa [kid, algorithm] at signed

/-- A list that is mapped has the image of each element. -/
lemma mapM_mem {α β ε : Type} {f : α → Except ε β} {l : List α} {l' : List β} {a : α} (mapped : l.mapM f = .ok l')
    (mem : a ∈ l) : ∃ b ∈ l', f a = .ok b := by
  induction l generalizing l' with
  | nil => cases mem
  | cons x l ih =>
    rw [List.mapM_cons] at mapped
    cases first : f x with
    | error e =>
      rw [first] at mapped
      cases mapped
    | ok b =>
      cases rest : l.mapM f with
      | error e =>
        rw [first, rest] at mapped
        cases mapped
      | ok bs =>
        rw [first, rest] at mapped
        cases mapped
        rcases List.mem_cons.mp mem with rfl | mem
        · exact ⟨b, List.mem_cons_self, first⟩
        · obtain ⟨b', mem', eq⟩ := ih rest mem
          exact ⟨b', List.mem_cons_of_mem _ mem', eq⟩

lemma keyPublished_of_mem {k key : SigningKey} (mem : k ∈ s.published now) (same : k.SameAs key) :
    KeyPublished D s now key := by
  refine ⟨⟨k, mem, same⟩, fun ins keys returned => ?_⟩
  have listed : alwaysE (execAt D now) (jwks D) s
      (fun keys _ => (s.published now).mapM (fun key => D.publicJwk key.kid key.algorithm key.publicKey) = .ok keys)
      (fun _ _ => True) := by
    unfold jwks
    refine read_at rfl (fun _ => trivial) ?_
    rw [alwaysE_orThrow]
    exact ⟨fun _ mapped => mapped, fun _ _ => trivial⟩
  obtain ⟨jwk, mem, made⟩ := mapM_mem (listed.run_ok returned) mem
  rw [same.1, same.2.1, same.2.2] at made
  exact ⟨jwk, mem, made⟩

end

/-! ## Keys that the service has made -/

/-- Every key began in the past and is valid for 365 days. -/
def KeysMade (now : DateTime) (keys : List SigningKey) : Prop :=
  ∀ k ∈ keys, k.notBefore ≤ now ∧ k.notAfter = k.notBefore + Duration.days keyValidityDays

/-- Every key is still there, whatever its status. -/
def KeysKept (keys keys' : List SigningKey) : Prop :=
  ∀ k ∈ keys, ∃ k' ∈ keys', k'.SameAs k ∧ k'.notAfter = k.notAfter

section
variable {D : Deploy} {s : Store} {now now' : DateTime} {algorithm : SigningAlgorithm} {a k : SigningKey}

lemma usable_iff :
    k.isUsableForSigningAt now = true ↔ k.status = .active ∧ k.notBefore ≤ now ∧ now < k.notAfter := by
  simp [SigningKey.isUsableForSigningAt]

lemma KeysMade.addKey (made : KeysMade now s.signingKeys) (new : NewKey D algorithm now k) :
    KeysMade now (s.addKey k).signingKeys := by
  intro k' mem
  rcases List.mem_append.mp mem with mem | mem
  · exact made k' mem
  · rw [List.mem_singleton.mp mem, new.notBefore, new.notAfter]
    exact ⟨Int.le_refl _, rfl⟩

lemma KeysMade.retire {kid : String} (made : KeysMade now s.signingKeys) :
    KeysMade now (s.retire D kid).signingKeys := by
  intro k' mem
  obtain ⟨k, old, rfl⟩ := List.mem_map.mp mem
  have made := made k old
  split_ifs
  · exact made
  · exact made

lemma KeysKept.refl (keys : List SigningKey) : KeysKept keys keys :=
  fun k mem => ⟨k, mem, ⟨rfl, rfl, rfl⟩, rfl⟩

lemma keysKept_addKey : KeysKept s.signingKeys (s.addKey k).signingKeys :=
  fun k mem => ⟨k, List.mem_append_left _ mem, ⟨rfl, rfl, rfl⟩, rfl⟩

lemma keysKept_retire {kid : String} : KeysKept s.signingKeys (s.retire D kid).signingKeys := by
  intro k mem
  refine ⟨_, List.mem_map_of_mem mem, ?_⟩
  split_ifs
  · exact ⟨⟨rfl, rfl, rfl⟩, rfl⟩
  · exact ⟨⟨rfl, rfl, rfl⟩, rfl⟩

lemma KeysKept.trans {keys keys' keys'' : List SigningKey} (kept : KeysKept keys keys')
    (kept' : KeysKept keys' keys'') : KeysKept keys keys'' := by
  intro k mem
  obtain ⟨k', mem', same, ends⟩ := kept k mem
  obtain ⟨k'', mem'', same', ends'⟩ := kept' k' mem'
  exact ⟨k'', mem'', ⟨same'.1.trans same.1, same'.2.1.trans same.2.1, same'.2.2.trans same.2.2⟩,
    ends'.trans ends⟩

/-- A fresh key is the active one, up to keys that were made at the same moment. -/
lemma KeysMade.fresh (made : KeysMade now s.signingKeys) (new : NewKey D algorithm now k)
    (mem : k ∈ s.signingKeys) (active : s.activeKey now = some a) :
    a.notAfter = now + Duration.days keyValidityDays := by
  obtain ⟨past, ends⟩ := made a (activeKey_mem active).1
  have newest : k.notBefore ≤ a.notBefore := activeKey_newest active mem new.usable
  have notBefore := new.notBefore
  linarith

/-- The key that is active later is active now, up to keys that were made at the same moment. -/
lemma KeysMade.earlier (made : KeysMade now s.signingKeys) (le : now ≤ now')
    (active : s.activeKey now' = some a) : ∃ a', s.activeKey now = some a' ∧ a'.notAfter = a.notAfter := by
  obtain ⟨mem, usable⟩ := activeKey_mem active
  obtain ⟨status, -, ends⟩ := usable_iff.mp usable
  obtain ⟨past, validity⟩ := made a mem
  have usableNow : a.isUsableForSigningAt now = true := usable_iff.mpr ⟨status, past, Int.lt_of_le_of_lt le ends⟩
  cases active' : s.activeKey now with
  | none =>
    have unusable := activeKey_none_iff.mp active' a mem
    rw [usableNow] at unusable
    cases unusable
  | some a' =>
    refine ⟨a', rfl, ?_⟩
    obtain ⟨mem', usable'⟩ := activeKey_mem active'
    obtain ⟨status', past', -⟩ := usable_iff.mp usable'
    have validity' := (made a' mem').2
    have newest : a.notBefore ≤ a'.notBefore := activeKey_newest active' mem usableNow
    have usableLater : a'.isUsableForSigningAt now' = true := by
      refine usable_iff.mpr ⟨status', Int.le_trans past' le, ?_⟩
      linarith
    have newest' : a'.notBefore ≤ a.notBefore := activeKey_newest active mem' usableLater
    linarith

/-- The key that is active now stays so until it expires. -/
lemma KeysMade.later (made : KeysMade now s.signingKeys) (active : s.activeKey now = some a) (le : now ≤ now')
    (left : now' < a.notAfter) : ∃ a', s.activeKey now' = some a' ∧ a'.notAfter = a.notAfter := by
  obtain ⟨mem, usable⟩ := activeKey_mem active
  obtain ⟨status, past, -⟩ := usable_iff.mp usable
  have usableLater := usable_iff.mpr ⟨status, Int.le_trans past le, left⟩
  cases active' : s.activeKey now' with
  | none =>
    have unusable := activeKey_none_iff.mp active' a mem
    rw [usableLater] at unusable
    cases unusable
  | some a' =>
    obtain ⟨a'', active'', ends⟩ := made.earlier le active'
    cases active.symm.trans active''
    exact ⟨a', rfl, ends.symm⟩

end

/-! ## The invariant -/

structure KeysLast (D : Deploy) (lifetime : Duration) (x : KeyLedger) : Prop where
  made : KeysMade x.now x.store.signingKeys
  time : x.rotatedAt ≤ x.now ∧ x.now ≤ x.rotatedAt + rotationInterval
  active : ∀ a, x.store.activeKey x.now = some a → x.rotatedAt + rotationInterval + lifetime ≤ a.notAfter
  signed : ∀ t ∈ x.issued, t.Signed D
  issued : ∀ t ∈ x.issued, ∃ k ∈ x.store.signingKeys, k.SameAs t.key ∧ t.expiresAt ≤ k.notAfter

section
variable {D : Deploy} {leadDays : Nat} {lifetime : Duration} {x : KeyLedger} {s' : Store}

lemma KeysLast.keep (h : KeysLast D lifetime x) (made : KeysMade x.now s'.signingKeys)
    (kept : KeysKept x.store.signingKeys s'.signingKeys) {rotatedAt : DateTime}
    (time : rotatedAt ≤ x.now ∧ x.now ≤ rotatedAt + rotationInterval)
    (active : ∀ a, s'.activeKey x.now = some a → rotatedAt + rotationInterval + lifetime ≤ a.notAfter) :
    KeysLast D lifetime { x with store := s', rotatedAt := rotatedAt } := by
  refine ⟨made, time, active, h.signed, fun t mem => ?_⟩
  obtain ⟨k, row, same, ends⟩ := h.issued t mem
  obtain ⟨k', row', same', ends'⟩ := kept k row
  refine ⟨k', row', ⟨same'.1.trans same.1, same'.2.1.trans same.2.1, same'.2.2.trans same.2.2⟩, ?_⟩
  rwa [ends']

/-- A change after which a fresh key is in the table. -/
lemma KeysLast.renew (h : KeysLast D lifetime x) (year : lifetime + rotationInterval ≤ Duration.days keyValidityDays)
    {algorithm : SigningAlgorithm} {k : SigningKey} (new : NewKey D algorithm x.now k)
    (mem : k ∈ s'.signingKeys) (made : KeysMade x.now s'.signingKeys)
    (kept : KeysKept x.store.signingKeys s'.signingKeys) {rotatedAt : DateTime}
    (time : rotatedAt ≤ x.now ∧ x.now ≤ rotatedAt + rotationInterval) :
    KeysLast D lifetime { x with store := s', rotatedAt := rotatedAt } := by
  refine h.keep made kept time fun a active => ?_
  have ends := made.fresh new mem active
  have since := time.1
  linarith

lemma KeysLast.added (h : KeysLast D lifetime x) (year : lifetime + rotationInterval ≤ Duration.days keyValidityDays)
    {algorithm : SigningAlgorithm} {k : SigningKey} (new : NewKey D algorithm x.now k) {rotatedAt : DateTime}
    (time : rotatedAt ≤ x.now ∧ x.now ≤ rotatedAt + rotationInterval) :
    KeysLast D lifetime { x with store := x.store.addKey k, rotatedAt := rotatedAt } :=
  h.renew year new (List.mem_append_right _ (List.mem_singleton_self _)) (h.made.addKey new) keysKept_addKey time

/-! One lemma for each call. -/

lemma KeysLast.ensure (h : KeysLast D lifetime x) (year : lifetime + rotationInterval ≤ Duration.days keyValidityDays)
    (ins : Nat → Input) : KeysLast D lifetime (LedgerCall.ensure.step D leadDays ins x) := by
  refine alwaysE.run_state (P := fun s' => KeysLast D lifetime { x with store := s' }) ?_ ins
  refine alwaysE_mono ensureActiveKey_at (fun _ s' ensured => ?_) fun _ s' same => ?_
  · cases ensured with
    | usable | blocked => exact h
    | inserted _ k new => exact h.added year new h.time
  · subst same
    exact h

lemma KeysLast.generate (h : KeysLast D lifetime x)
    (year : lifetime + rotationInterval ≤ Duration.days keyValidityDays) (algorithm : SigningAlgorithm)
    (ins : Nat → Input) : KeysLast D lifetime ((LedgerCall.generate algorithm).step D leadDays ins x) := by
  refine alwaysE.run_state (P := fun s' => KeysLast D lifetime { x with store := s' }) ?_ ins
  refine alwaysE_mono generateKey_at (fun k s' generated => ?_) fun _ s' same => ?_
  · obtain ⟨new, -, rfl⟩ := generated
    exact h.added year new h.time
  · subst same
    exact h

lemma KeysLast.retire (h : KeysLast D lifetime x) {kid : String}
    (outlives : (LedgerCall.retire kid).Outlives D lifetime x) (ins : Nat → Input) :
    KeysLast D lifetime ((LedgerCall.retire kid).step D leadDays ins x) := by
  refine alwaysE.run_state (P := fun s' => KeysLast D lifetime { x with store := s' }) ?_ ins
  refine alwaysE_mono retireKey_at (fun _ s' retired => ?_) fun _ s' same => ?_
  · subst retired
    exact h.keep h.made.retire keysKept_retire h.time (outlives.2 kid rfl)
  · subst same
    exact h

lemma KeysLast.issue (h : KeysLast D lifetime x) {typ : String} {claims : JwtClaims}
    (short : claims.expiresAt ≤ x.now + lifetime) (ins : Nat → Input) :
    KeysLast D lifetime ((LedgerCall.issue typ claims).step D leadDays ins x) := by
  change KeysLast D lifetime (x.afterSigning claims _)
  rcases result : (signToken D typ claims).run.run (execAt D x.now) ins x.store with ⟨r, s'⟩
  cases r with
  | error e =>
    have same : _ = x.store := signToken_at.run_error (congrArg Prod.fst result)
    rw [result] at same
    subst same
    exact h
  | ok token =>
    have done := signToken_at.run_ok (congrArg Prod.fst result)
    rw [result] at done
    obtain ⟨rfl, key, pem, active, signed⟩ := done
    rw [KeyLedger.afterSigning, active]
    refine ⟨h.made, h.time, h.active, fun t mem => ?_, fun t mem => ?_⟩
    · rcases List.mem_append.mp mem with mem | mem
      · exact h.signed t mem
      · rw [List.mem_singleton.mp mem]
        exact ⟨pem, typ, claims, signed, rfl⟩
    · rcases List.mem_append.mp mem with mem | mem
      · exact h.issued t mem
      · rw [List.mem_singleton.mp mem]
        refine ⟨key, (activeKey_mem active).1, ⟨rfl, rfl, rfl⟩, ?_⟩
        have left := h.active key active
        have recent := h.time.2
        change claims.expiresAt ≤ key.notAfter
        linarith

lemma KeysLast.rotate (h : KeysLast D lifetime x) (year : lifetime + rotationInterval ≤ Duration.days keyValidityDays)
    (lead : lifetime ≤ Duration.days leadDays - rotationInterval) (ins : Nat → Input) :
    KeysLast D lifetime (LedgerCall.rotate.step D leadDays ins x) := by
  have justNow : x.now ≤ x.now ∧ x.now ≤ x.now + rotationInterval := ⟨Int.le_refl _, Int.le_add_of_nonneg_right (by decide)⟩
  change KeysLast D lifetime (x.afterRotation _)
  rcases result : (rotateIfNeeded D leadDays).run.run (execAt D x.now) ins x.store with ⟨r, s'⟩
  cases r with
  | error e =>
    have left := rotateIfNeeded_at.run_error (congrArg Prod.fst result)
    rw [result] at left
    rcases left with rfl | ⟨a, algorithm, k, -, -, new, -, rfl⟩
    · exact h
    · exact h.added year new h.time
  | ok u =>
    have rotated := rotateIfNeeded_at.run_ok (congrArg Prod.fst result)
    rw [result] at rotated
    cases rotated with
    | idle a active long =>
      refine h.keep h.made (.refl _) justNow fun a' active' => ?_
      cases active.symm.trans active'
      have long : Duration.days leadDays < a.notAfter - x.now := long
      linarith
    | bootstrapped none k new fresh => exact h.added year new justNow
    | replaced a active short algorithm k new fresh =>
      have other : ¬ D.coll k.kid = D.coll a.kid := (fresh a (activeKey_mem active).1).symm
      refine h.renew year new ?_ (h.made.addKey new).retire (keysKept_addKey.trans keysKept_retire) justNow
      refine List.mem_map.mpr ⟨k, List.mem_append_right _ (List.mem_singleton_self _), if_neg other⟩

lemma KeysLast.step (h : KeysLast D lifetime x) (year : lifetime + rotationInterval ≤ Duration.days keyValidityDays)
    (lead : lifetime ≤ Duration.days leadDays - rotationInterval) {call : LedgerCall}
    (outlives : call.Outlives D lifetime x) (ins : Nat → Input) :
    KeysLast D lifetime (call.step D leadDays ins x) := by
  cases call with
  | ensure => exact h.ensure year ins
  | rotate => exact h.rotate year lead ins
  | generate algorithm => exact h.generate year algorithm ins
  | retire kid => exact h.retire outlives ins
  | issue typ claims => exact h.issue outlives.1 ins

lemma KeysLast.passes {x' : KeyLedger} (h : KeysLast D lifetime x) (passes : x.Passes x') :
    KeysLast D lifetime x' := by
  obtain ⟨keys, time, rotatedAt, issued⟩ := passes
  refine ⟨?_, ?_, fun a active => ?_, ?_, ?_⟩
  · rw [keys]
    intro k mem
    obtain ⟨past, ends⟩ := h.made k mem
    exact ⟨Int.le_trans past time.1, ends⟩
  · rw [rotatedAt]
    exact ⟨Int.le_trans h.time.1 time.1, time.2⟩
  · have same : x.store.activeKey x'.now = some a := by
      rw [← active, Store.activeKey, Store.activeKey, keys]
    obtain ⟨a', active', ends⟩ := h.made.earlier time.1 same
    rw [rotatedAt, ← ends]
    exact h.active a' active'
  · rw [issued]
    exact h.signed
  · rw [issued, keys]
    exact h.issued

end

/-- In every run in which a rotation succeeds every hour and the key that takes over from a retired one outlives the
tokens it may sign until the next rotation, the key of every unexpired token is published. -/
theorem keys_outlive_tokens (D : Deploy) (leadDays : Nat) (lifetime : Duration)
    (lead : lifetime ≤ Duration.days leadDays - rotationInterval)
    (year : lifetime + rotationInterval ≤ Duration.days keyValidityDays)
    {es : List (Event LedgerCall Input KeyLedger)} {x : KeyLedger}
    (run : Runs (LedgerCall.step D leadDays) KeyLedger.Boots KeyLedger.Passes (LedgerCall.Outlives D lifetime) es x)
    {t : IssuedToken} (issued : t ∈ x.issued) (unexpired : x.now < t.expiresAt) :
    t.Signed D ∧ KeyPublished D x.store x.now t.key := by
  have last : KeysLast D lifetime x := by
    refine run.invariant (I := fun _ x => KeysLast D lifetime x) (fun x boots => ?_)
      (fun _ x x' h passes => h.passes passes) fun _ x call ins h outlives => h.step year lead outlives ins
    obtain ⟨keys, none, rotatedAt⟩ := boots
    refine ⟨?_, ?_, fun a active => ?_, ?_, ?_⟩
    · rw [keys]
      exact fun k mem => absurd mem List.not_mem_nil
    · rw [rotatedAt]
      exact ⟨Int.le_refl _, Int.le_add_of_nonneg_right (by decide)⟩
    · have mem := (activeKey_mem active).1
      rw [keys] at mem
      exact absurd mem List.not_mem_nil
    · rw [none]
      exact fun t mem => absurd mem List.not_mem_nil
    · rw [none]
      exact fun t mem => absurd mem List.not_mem_nil
  obtain ⟨k, row, same, ends⟩ := last.issued t issued
  refine ⟨last.signed t issued, keyPublished_of_mem (List.mem_filter.mpr ⟨row, ?_⟩) same⟩
  exact decide_eq_true (Int.lt_of_lt_of_le unexpired ends)

/-! ## An old key that takes over -/

/-- After some hours in which the rotation had nothing to do. -/
def KeyLedger.afterHours (x : KeyLedger) (hours : Nat) : KeyLedger :=
  { x with now := x.now + hours * rotationInterval, rotatedAt := x.now + hours * rotationInterval }

section
variable {D : Deploy} {leadDays : Nat}

lemma rotateIfNeeded_idle {s : Store} {now : DateTime} {a : SigningKey} (active : s.activeKey now = some a)
    (long : a.notAfter - now > Duration.days leadDays) :
    ∃ ins, (rotateIfNeeded D leadDays).run.run (execAt D now) ins s = (.ok (), s) := by
  have idle : mayE (execAt D now) (rotateIfNeeded D leadDays) s (fun _ s' => s' = s) := by
    unfold rotateIfNeeded findActiveKey
    refine mayE_op ⟨now, none, fun _ => 0, ⟨0⟩⟩ (db_may (v := s.activeKey now) rfl ?_)
    rw [active]
    have skip : ∀ p : ServiceFlow String Unit,
        (if a.notAfter - now > Duration.days leadDays then pure () else p) = pure () := fun _ => if_pos long
    exact (congrArg (mayE (execAt D now) · s fun _ s' => s' = s) (skip _)).mpr ⟨(), rfl, rfl⟩
  obtain ⟨ins, _, returned, same⟩ := idle.run
  exact ⟨ins, Prod.ext returned same⟩

/-- While the active key has more than the lead time left, hours can pass. -/
lemma runs_afterHours {lifetime : Duration} {es : List (Event LedgerCall Input KeyLedger)} {x : KeyLedger}
    (run : Runs (LedgerCall.step D leadDays) KeyLedger.Boots KeyLedger.Passes (LedgerCall.IssuesFor lifetime) es x)
    (made : KeysMade x.now x.store.signingKeys) (rotated : x.rotatedAt = x.now) (hours : Nat)
    (left : ∃ a ∈ x.store.activeKey x.now, a.notAfter - (x.now + hours * rotationInterval) > Duration.days leadDays) :
    ∃ es', Runs (LedgerCall.step D leadDays) KeyLedger.Boots KeyLedger.Passes (LedgerCall.IssuesFor lifetime) es'
      (x.afterHours hours) := by
  obtain ⟨a, active, left⟩ := left
  induction hours with
  | zero =>
    refine ⟨es, ?_⟩
    have same : x.afterHours 0 = x := by
      cases x
      cases rotated
      simp [KeyLedger.afterHours]
    rwa [same]
  | succ hours ih =>
    have hour : (0 : Int) ≤ rotationInterval := by decide
    have lead : (0 : Int) ≤ Duration.days leadDays := Int.mul_nonneg (Int.natCast_nonneg _) (by decide)
    have later : x.now + (hours + 1 : Nat) * rotationInterval = x.now + hours * rotationInterval + rotationInterval := by
      rw [Int.natCast_succ, Int.add_mul, Int.one_mul, Int.add_assoc]
    obtain ⟨es', earlier⟩ := ih (by linarith)
    have passed : Runs (LedgerCall.step D leadDays) KeyLedger.Boots KeyLedger.Passes (LedgerCall.IssuesFor lifetime) es'
        { x.afterHours hours with now := x.now + (hours + 1 : Nat) * rotationInterval } := by
      refine earlier.env ⟨rfl, ⟨?_, ?_⟩, rfl, rfl⟩
      · change x.now + hours * rotationInterval ≤ _
        linarith
      · exact Int.le_of_eq later
    obtain ⟨a', active', ends⟩ : ∃ a', x.store.activeKey (x.now + (hours + 1 : Nat) * rotationInterval) = some a' ∧
        a'.notAfter = a.notAfter := by
      refine made.later active ?_ ?_
      · exact Int.le_add_of_nonneg_right (Int.mul_nonneg (Int.natCast_nonneg _) hour)
      · linarith
    obtain ⟨ins, idle⟩ := rotateIfNeeded_idle (D := D) active' (by rwa [ends])
    have next := passed.call .rotate ins trivial
    have stepped : LedgerCall.rotate.step D leadDays ins
        { x.afterHours hours with now := x.now + (hours + 1 : Nat) * rotationInterval } = x.afterHours (hours + 1) :=
      congrArg (KeyLedger.afterRotation _) idle
    rw [stepped] at next
    exact ⟨_, next⟩

end

namespace Sample

/-- The deployment with a library that signs. -/
def signingDeploy : Deploy := { deploy with jwtEncode := fun _ _ _ => .ok rsaAccessToken }

def bootedLedger : KeyLedger := ⟨{ store with signingKeys := [] }, now, now, []⟩

/-- The first key, and two hours later a second one. -/
def firstKey : KeyLedger := LedgerCall.ensure.step signingDeploy 1 (fun _ => input 7) bootedLedger

def secondKey : KeyLedger :=
  (LedgerCall.generate .rs256).step signingDeploy 1 (fun _ => input 8) (firstKey.afterHours 2)

/-- A year later, 25 hours before the second key expires, it is retired. -/
def retiredKey : KeyLedger :=
  (LedgerCall.retire "20231114-rs-CAgICAgI").step signingDeploy 1 (fun _ => input 9) (secondKey.afterHours 8735)

/-- The claims of an access token that is issued half an hour later, for 23 hours. -/
def lateClaims : JwtClaims :=
  .accessToken { accessClaims with iat := 1731455000, exp := 1731537800 }

/-- The token is signed under the first key, which the next rotation replaces. -/
def lateToken : KeyLedger :=
  (LedgerCall.issue "at+jwt" lateClaims).step signingDeploy 1 (fun _ => input 9)
    { retiredKey with now := retiredKey.now + Duration.minutes 30 }

def lateRotation : KeyLedger :=
  LedgerCall.rotate.step signingDeploy 1 (fun _ => input 9)
    { lateToken with now := retiredKey.now + rotationInterval }

/-- The runs with a lead time of a day and tokens that live at most for 23 hours. -/
abbrev DayRuns := Runs (LedgerCall.step signingDeploy 1) KeyLedger.Boots KeyLedger.Passes
  (LedgerCall.IssuesFor (Duration.days 1 - rotationInterval))

lemma secondKey_reached : ∃ es, DayRuns es secondKey := by
  have booted : KeyLedger.Boots bootedLedger := ⟨rfl, rfl, rfl⟩
  have first : DayRuns _ firstKey := (Runs.start booted).call LedgerCall.ensure (fun _ => input 7) trivial
  obtain ⟨es, passed⟩ := runs_afterHours first (by unfold KeysMade; decide +kernel) rfl 2 (by decide +kernel)
  exact ⟨_, passed.call (.generate .rs256) (fun _ => input 8) trivial⟩

lemma lateRotation_reached : ∃ es, DayRuns es lateRotation := by
  obtain ⟨es, second⟩ := secondKey_reached
  obtain ⟨es, passed⟩ := runs_afterHours second (by unfold KeysMade; decide +kernel) rfl 8735 (by decide +kernel)
  have retired : DayRuns _ retiredKey := passed.call (.retire _) (fun _ => input 9) trivial
  have half : DayRuns _ { retiredKey with now := retiredKey.now + Duration.minutes 30 } :=
    retired.env ⟨rfl, ⟨by decide +kernel, by decide +kernel⟩, rfl, rfl⟩
  have issued : DayRuns _ lateToken :=
    half.call (.issue "at+jwt" lateClaims) (fun _ => input 9) (by unfold LedgerCall.IssuesFor; decide +kernel)
  have whole : DayRuns _ { lateToken with now := retiredKey.now + rotationInterval } :=
    issued.env ⟨rfl, ⟨by decide +kernel, by decide +kernel⟩, rfl, rfl⟩
  exact ⟨_, whole.call .rotate (fun _ => input 9) trivial⟩

end Sample

open Sample in
/-- A second key is retired shortly before it is due, and the first one, still active, signs a token that outlives
it. -/
theorem token_outlives_key :
    ¬ ∀ es x, DayRuns es x → ∀ t ∈ x.issued, x.now < t.expiresAt →
      t.Signed signingDeploy ∧ KeyPublished signingDeploy x.store x.now t.key := by
  intro claim
  obtain ⟨es, rotated⟩ := lateRotation_reached
  obtain ⟨es', passed⟩ := runs_afterHours rotated (by unfold KeysMade; decide +kernel) rfl 22 (by decide +kernel)
  have unpublished : ∀ t ∈ (lateRotation.afterHours 22).issued,
      ¬ ∃ k ∈ (lateRotation.afterHours 22).store.published (lateRotation.afterHours 22).now, k.kid = t.key.kid := by
    decide +kernel
  have unexpired : ∃ t ∈ (lateRotation.afterHours 22).issued, (lateRotation.afterHours 22).now < t.expiresAt := by
    decide +kernel
  obtain ⟨t, mem, unexpired⟩ := unexpired
  obtain ⟨k, row, same⟩ := (claim _ _ passed t mem unexpired).2.1
  exact unpublished t mem ⟨k, row, same.1⟩

namespace Sample

/-- A token is signed right after the boot. -/
def signedLedger : KeyLedger :=
  (LedgerCall.issue "at+jwt" (.accessToken accessClaims)).step signingDeploy 1 (fun _ => input 9) firstKey

/-- Five minutes later a rotation finds nothing to do, a second key is made and the first one is retired. -/
def renewedLedger : KeyLedger :=
  (LedgerCall.generate .rs256).step signingDeploy 1 (fun _ => input 8)
    (LedgerCall.rotate.step signingDeploy 1 (fun _ => input 9)
      { signedLedger with now := now + Duration.minutes 5 })

def replacedLedger : KeyLedger :=
  (LedgerCall.retire "20231114-rs-BwcHBwcH").step signingDeploy 1 (fun _ => input 9) renewedLedger

/-- The runs in which the key that takes over lasts. -/
abbrev LastingRuns := Runs (LedgerCall.step signingDeploy 1) KeyLedger.Boots KeyLedger.Passes
  (LedgerCall.Outlives signingDeploy (Duration.days 1 - rotationInterval))

/-- The second key has a year left when it takes over. -/
lemma secondKey_lasts :
    ∀ b ∈ (renewedLedger.store.retire signingDeploy "20231114-rs-BwcHBwcH").activeKey renewedLedger.now,
      renewedLedger.rotatedAt + rotationInterval + (Duration.days 1 - rotationInterval) ≤ b.notAfter := by
  decide +kernel

lemma replacedLedger_reached :
    ∃ es, LastingRuns es { replacedLedger with now := now + Duration.minutes 10 } := by
  have booted : KeyLedger.Boots bootedLedger := ⟨rfl, rfl, rfl⟩
  have first : LastingRuns _ firstKey := (Runs.start booted).call LedgerCall.ensure (fun _ => input 7)
    ⟨trivial, fun _ never => by cases never⟩
  have signed : LastingRuns _ signedLedger := first.call (.issue "at+jwt" (.accessToken accessClaims))
    (fun _ => input 9) ⟨by unfold LedgerCall.IssuesFor; decide +kernel, fun _ never => by cases never⟩
  have passed : LastingRuns _ { signedLedger with now := now + Duration.minutes 5 } :=
    signed.env ⟨rfl, ⟨by decide +kernel, by decide +kernel⟩, rfl, rfl⟩
  have rotated := passed.call .rotate (fun _ => input 9) ⟨trivial, fun _ never => by cases never⟩
  have renewed : LastingRuns _ renewedLedger := rotated.call (.generate .rs256) (fun _ => input 8)
    ⟨trivial, fun _ never => by cases never⟩
  have replaced := renewed.call (.retire "20231114-rs-BwcHBwcH") (fun _ => input 9)
    ⟨trivial, fun _ same => by cases same; exact secondKey_lasts⟩
  exact ⟨_, replaced.env ⟨rfl, ⟨by decide +kernel, by decide +kernel⟩, rfl, rfl⟩⟩

end Sample

open Sample in
/-- Ten minutes after the boot the token is unexpired, its key is retired, and it is published. -/
theorem keys_outlive_tokens_sample :
    ∃ t ∈ replacedLedger.issued, now + Duration.minutes 10 < t.expiresAt ∧
      (∃ k ∈ replacedLedger.store.signingKeys, k.kid = t.key.kid ∧ k.status = .retired) ∧
      t.Signed signingDeploy ∧
      KeyPublished signingDeploy replacedLedger.store (now + Duration.minutes 10) t.key := by
  have token : ∃ t ∈ replacedLedger.issued, now + Duration.minutes 10 < t.expiresAt ∧
      ∃ k ∈ replacedLedger.store.signingKeys, k.kid = t.key.kid ∧ k.status = .retired := by
    decide +kernel
  obtain ⟨es, run⟩ := replacedLedger_reached
  obtain ⟨t, issued, unexpired, retired⟩ := token
  exact ⟨t, issued, unexpired, retired,
    keys_outlive_tokens signingDeploy 1 _ (Int.le_refl _) (by decide) run issued unexpired⟩

end IdpMvp
