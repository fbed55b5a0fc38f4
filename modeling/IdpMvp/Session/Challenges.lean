import IdpMvp.Sample
import IdpMvp.Service.Enrolment
import IdpMvp.Service.Footprint
import IdpMvp.Session.Ends
import IdpMvp.Store.Monitors
import Mathlib.Data.List.Induction

/-!
# Using a challenge once

Two services complete a WebAuthn challenge. `complete` of the authentication finds the challenge and deletes
it in two statements before it verifies the assertion; `complete` of the registration verifies first and then
deletes, whatever comes of the deletion. At most one call gets to its verification as long as no call finds
the challenge while another one has taken it and not yet deleted it (`challenge_used_once`).
-/

namespace IdpMvp

open Program Program.Prog Program.Flow

/-! ## Calls -/

/-- A call that completes a challenge. -/
inductive ChallengeCall where
  | authenticate (tenantId : TenantId) (credentialValue : String) (ctx : RequestContext)
  | register (ssoSessionId name credentialValue : String)

inductive ChallengeAnswer where
  | authenticated (r : PasskeyAuthOutcome)
  | registered (r : Except PasskeyRegistrationError Uuid)

def ChallengeCall.program (D : Deploy) (id : Uuid) : ChallengeCall → Service ChallengeAnswer
  | authenticate tenantId credentialValue ctx => do
    return .authenticated (← passkeyComplete D tenantId id credentialValue ctx)
  | register ssoSessionId name credentialValue => do
    return .registered (← (PasskeyRegistration.complete D ssoSessionId id name credentialValue).run)

abbrev ChallengePool := Program.Config Op.Res Input Store ChallengeAnswer

/-- Calls that name the same challenge. -/
def challengePool (D : Deploy) (id : Uuid) (s : Store) (calls : Nat → ChallengeCall) : ChallengePool :=
  Config.start s fun t => (calls t).program D id

/-! ## Where a call is -/

inductive ChallengePhase where
  /-- Before the challenge, with the user of a registration and the last reading of the clock. -/
  | waiting (userId : Option Uuid) (now : Option DateTime)
  /-- An authentication has found it open, and is about to delete it. -/
  | taken
  /-- A registration has found it open. -/
  | verifying
  /-- It is deleted. -/
  | consumed
  | over
  deriving DecidableEq

namespace ChallengePhase

/-- What finding a challenge leads to: a registration also looks at whose it is. -/
def found (userId : Option Uuid) (now : DateTime) (challenge : PasskeyChallenge) : ChallengePhase :=
  match userId with
  | none => if challenge.expiresAt > now then .taken else .over
  | some u => if challenge.expiresAt ≤ now || challenge.userId ≠ some u then .over else .verifying

/-- Where the result of a call leads. -/
def next (φ : ChallengePhase) (o : Op) (r : o.Res) : ChallengePhase :=
  match φ, o, r with
  | .waiting _ now, .db (.ssoSessions (.findByHash _)), .ok (some session) => .waiting (some session.userId) now
  | .waiting userId _, .clock, now => .waiting userId (some now)
  | .waiting userId (some now), .db (.passkeys (.challengeFindById _)), .ok (some challenge) =>
    found userId now challenge
  | .taken, .db (.passkeys (.challengeDelete _)), .ok _ => .consumed
  | .taken, .db (.passkeys (.challengeDelete _)), .error _ => .over
  | .verifying, .db (.passkeys (.challengeDelete _)), .ok _ => .consumed
  | φ, _, _ => φ

/-- The call is past the challenge and verifies. -/
def Passed (φ : ChallengePhase) : Prop := φ = .verifying ∨ φ = .consumed

/-- The call has found the challenge open and not deleted it. -/
def Outstanding (φ : ChallengePhase) : Prop := φ = .taken ∨ φ = .verifying

/-- The calls of a phase: beside the clock, the session and the challenge itself, there are none before the
challenge is passed. -/
def Allows (id : Uuid) (φ : ChallengePhase) : Op → Prop
  | .db (.passkeys (.challengeCreate _)) => False
  | .db (.passkeys (.challengeFindById i)) => i = id ∧ ∃ userId now, φ = .waiting userId (some now)
  | .db (.passkeys (.challengeDelete i)) => i = id
  | .db (.ssoSessions (.findByHash _)) => True
  | .clock => True
  | _ => φ.Passed

instance (φ : ChallengePhase) : Decidable φ.Passed := inferInstanceAs (Decidable (_ ∨ _))

instance (φ : ChallengePhase) : Decidable φ.Outstanding := inferInstanceAs (Decidable (_ ∨ _))

end ChallengePhase

def challengeMonitor (id : Uuid) : Monitor Op.Res ChallengePhase where
  init := .waiting none none
  ok := ChallengePhase.Allows id
  next := ChallengePhase.next

/-- The phase of a call. -/
abbrev challengePhase (D : Deploy) (id : Uuid) (c : ChallengePool) (t : Nat) : ChallengePhase :=
  Config.phase (exec D) (challengeMonitor id) t c.trace

/-! ## What is promised -/

/-- The call stores an SSO session. -/
def StoresSession (e : Program.Entry Op Input Store) : Prop := ∃ x, e.op = .db (.ssoSessions (.create x))

/-- The call has let somebody in, or registered a passkey. -/
def ChallengeAnswer.isSuccess : ChallengeAnswer → Bool
  | authenticated r => !r.isRefusal
  | registered r => r.toOption.isSome

/-- At most one call is past the challenge. Only such a call stores an SSO session, so no two do; and only
such a call succeeds. -/
structure UsedOnce (D : Deploy) (id : Uuid) (c : ChallengePool) : Prop where
  one : ∀ t u, (challengePhase D id c t).Passed → (challengePhase D id c u).Passed → t = u
  sessions : ∀ d ∈ c.trace, ∀ e ∈ c.trace, StoresSession d → StoresSession e → d.tid = e.tid
  success : ∀ t u a b, c.thread t = .ret a → c.thread u = .ret b → a.isSuccess = true → b.isSuccess = true →
    t = u

/-- The next call does not find the challenge while another one is about to delete it. -/
def FindsAlone (D : Deploy) (id : Uuid) (c : ChallengePool) (x : Nat × Input) : Prop :=
  ∀ k, c.thread x.1 = .call (.db (.passkeys (.challengeFindById id))) k → x.2.fault = none →
    (∃ challenge ∈ c.store.passkeyChallenges, challenge.id = id) →
      ∀ t, ¬ (challengePhase D id c t).Outstanding

/-! ## The calls keep to their phases -/

/-- Operations beside the challenges. -/
def Op.BesideChallenges : Op → Prop
  | .db (.passkeys (.challengeCreate _)) => False
  | .db (.passkeys (.challengeFindById _)) => False
  | .db (.passkeys (.challengeDelete _)) => False
  | _ => True

/-- The call has not succeeded, or is past the challenge. -/
def Settled (success : Bool) (ψ : Option ChallengePhase) : Prop :=
  ∃ φ, ψ = some φ ∧ (success = true → φ.Passed)

section
variable {D : Deploy} {id : Uuid} {φ : ChallengePhase} {tenantId : TenantId} {credentialValue : String}

/-- Past the challenge, other operations change nothing. -/
lemma passed_ignores (passed : φ.Passed) (o : Op) (beside : o.BesideChallenges) :
    (challengeMonitor id).ok φ o ∧ ∀ r, (challengeMonitor id).next φ o r = φ := by
  constructor
  · change ChallengePhase.Allows id φ o
    unfold ChallengePhase.Allows
    split <;> trivial
  · intro r
    change φ.next o r = φ
    unfold ChallengePhase.next
    rcases passed with rfl | rfl
    all_goals split <;> first | rfl | contradiction

/-- An authentication that goes on after the assertion has consumed the challenge. -/
lemma verifyAssertion_guarded {now : DateTime} :
    alwaysE (challengeMonitor id).oracle (verifyAssertion D id credentialValue now)
      (some (.waiting none (some now))) (fun _ ψ => ψ = some .consumed) (fun e ψ => Settled (!e.isRefusal) ψ) := by
  have past : ∀ {success : Bool}, Settled success (some .consumed) := ⟨_, rfl, fun _ => .inr rfl⟩
  unfold verifyAssertion
  refine guard_db_step ⟨rfl, _, _, rfl⟩ (fun _ => ⟨_, rfl, fun bad => by cases bad⟩) ?_
  rintro (_ | challenge)
  · exact ⟨_, rfl, fun bad => by cases bad⟩
  refine found_step (fun missing => by cases missing) fun challenge' same => ?_
  obtain rfl := Option.some.inj same
  refine ensureOr_step (fun _ => ?_) fun unexpired => ?_
  · intro answer
    rw [Monitor.oracle_some (by rfl)]
    exact ⟨_, rfl, fun bad => by cases bad⟩
  have taken : (challengeMonitor id).next (.waiting none (some now)) (.db (.passkeys (.challengeFindById id)))
      (.ok (some challenge)) = .taken := if_pos (of_decide_eq_true unexpired)
  rw [taken]
  refine guard_db_step rfl (fun _ => ⟨_, rfl, fun bad => by cases bad⟩) fun _ => ?_
  refine orThrow_step (fun _ _ => past) fun authState _ => ?_
  refine orThrow_step (fun _ _ => past) fun credential _ => ?_
  refine guard_db_step (.inr rfl) (fun _ => past) fun row => ?_
  refine found_step (fun _ => past) fun stored _ => ?_
  refine orThrow_step (fun _ _ => past) fun passkey _ => ?_
  refine orThrow_step (fun _ _ => past) fun result _ => ?_
  split
  · rfl
  · refine orThrow_step (fun _ _ => past) fun json _ => ?_
    exact guard_db_step (.inr rfl) (fun _ => past) fun _ => rfl

lemma passkeyComplete_guarded {ctx : RequestContext} :
    always (challengeMonitor id).oracle (passkeyComplete D tenantId id credentialValue ctx)
      (some (.waiting none none)) (fun r ψ => Settled (!r.isRefusal) ψ) := by
  have past : ∀ {success : Bool}, Settled success (some .consumed) := ⟨_, rfl, fun _ => .inr rfl⟩
  have ignores : ∀ o : Op, o.BesideChallenges → (challengeMonitor id).ok .consumed o ∧
      ∀ r, (challengeMonitor id).next .consumed o r = .consumed := passed_ignores (.inr rfl)
  unfold passkeyComplete
  rw [always_outcome]
  refine guard_step trivial fun now => ?_
  refine alwaysE_bind_of verifyAssertion_guarded (fun _ _ left => left) ?_
  rintro ⟨challenge, stored⟩ _ rfl
  refine aside_step (ensureActiveMember_uses trivial trivial) ignores (fun _ => past) fun _ => ?_
  refine found_step (fun _ => past) fun authSessionId _ => ?_
  refine aside_step (loadAuthSession_uses trivial fun _ => trivial) ignores (fun _ => past) fun session => ?_
  refine guard_db_step (.inr rfl) (fun _ => past) fun _ => ?_
  have opens : (createSsoSession D stored.userId now ctx).Uses Op.BesideChallenges :=
    createSsoSession_uses trivial fun _ => trivial
  refine aside_step (uses_orLeave opens _) ignores (fun _ => past) fun ssoSessionId => ?_
  have ends : (finishFlow D tenantId session stored.userId now).Uses Op.BesideChallenges :=
    finishFlow_uses (fun _ => trivial) trivial trivial (fun _ => trivial) fun _ => trivial
  refine aside_step (uses_lift ends) ignores (fun _ => past) fun ended => ?_
  cases ended <;> exact past

/-- A registration that goes on after the challenge has found it open. -/
lemma loadChallenge_guarded {userId : Uuid} {now : DateTime} :
    alwaysE (challengeMonitor id).oracle (PasskeyRegistration.loadChallenge id userId now)
      (some (.waiting (some userId) (some now))) (fun _ ψ => ψ = some .verifying)
      (fun _ ψ => Settled false ψ) := by
  unfold PasskeyRegistration.loadChallenge
  refine guard_db_step ⟨rfl, _, _, rfl⟩ (fun _ => ⟨_, rfl, fun bad => by cases bad⟩) ?_
  rintro (_ | challenge)
  · exact ⟨_, rfl, fun bad => by cases bad⟩
  refine found_step (fun missing => by cases missing) fun challenge' same => ?_
  obtain rfl := Option.some.inj same
  refine ensureOr_step (fun _ => ?_) fun usable => ?_
  · intro answer
    rw [Monitor.oracle_some (by rfl)]
    exact ⟨_, rfl, fun bad => by cases bad⟩
  · rw [Bool.not_eq_true'] at usable
    have verifying : (challengeMonitor id).next (.waiting (some userId) (some now))
        (.db (.passkeys (.challengeFindById id))) (.ok (some challenge)) = .verifying :=
      if_neg (by rw [usable]; exact Bool.false_ne_true)
    rw [verifying]
    rfl

lemma registrant_guarded {ssoSessionId : String} :
    alwaysE (challengeMonitor id).oracle (PasskeyRegistration.resolveUser D ssoSessionId)
      (some (.waiting none none)) (fun userId ψ => ∃ now, ψ = some (.waiting (some userId) (some now)))
      (fun _ ψ => Settled false ψ) := by
  have nothing : ∀ {φ : ChallengePhase}, Settled false (some φ) := ⟨_, rfl, fun bad => by cases bad⟩
  unfold PasskeyRegistration.resolveUser resolveSsoUser
  refine guard_db_step trivial (fun _ => nothing) ?_
  rintro (_ | session)
  · exact nothing
  refine found_step (fun _ => nothing) fun session' same => ?_
  obtain rfl := Option.some.inj same
  refine guard_step trivial fun now => ?_
  refine ensure_step (fun _ => nothing) fun _ => ?_
  exact ⟨now, rfl⟩

lemma complete_guarded {ssoSessionId name : String} :
    alwaysE (challengeMonitor id).oracle (PasskeyRegistration.complete D ssoSessionId id name credentialValue)
      (some (.waiting none none)) (fun _ ψ => Settled true ψ) (fun _ ψ => Settled false ψ) := by
  have past : ∀ {success : Bool}, Settled success (some .verifying) := ⟨_, rfl, fun _ => .inl rfl⟩
  unfold PasskeyRegistration.complete
  refine alwaysE_bind_of registrant_guarded (fun _ _ left => left) ?_
  rintro userId _ ⟨earlier, rfl⟩
  refine guard_step trivial fun now => ?_
  refine alwaysE_bind_of loadChallenge_guarded (fun _ _ left => left) ?_
  rintro challenge _ rfl
  refine orThrow_step (fun _ _ => past) fun regState _ => ?_
  refine orThrow_step (fun _ _ => past) fun regCredential _ => ?_
  refine orThrow_step (fun _ _ => past) fun finished _ => ?_
  refine guard_step (.inl rfl) fun cred => ?_
  refine guard_step rfl fun deleted => ?_
  have passed : ((challengeMonitor id).next .verifying (.db (.passkeys (.challengeDelete id))) deleted).Passed := by
    cases deleted with
    | error e => exact .inl rfl
    | ok _ => exact .inr rfl
  have stored : ∀ o : Op, o.BesideChallenges → (challengeMonitor id).ok _ o ∧
      ∀ r, (challengeMonitor id).next _ o r = _ := passed_ignores passed
  refine aside_step (P := Op.BesideChallenges) (uses_orLeave (uses_op trivial) _) stored
    (fun _ => ⟨_, rfl, fun _ => passed⟩) fun _ => ?_
  exact ⟨_, rfl, fun _ => passed⟩

lemma ChallengeCall.guarded (call : ChallengeCall) :
    (call.program D id).Guarded (challengeMonitor id) (.waiting none none)
      (fun φ a => a.isSuccess = true → φ.Passed) := by
  refine guarded_of_always ?_
  cases call with
  | authenticate tenantId credentialValue ctx =>
    refine (always_bind _ _).mpr (always_mono passkeyComplete_guarded ?_)
    rintro r ψ ⟨φ, rfl, settled⟩
    exact ⟨φ, rfl, settled⟩
  | register ssoSessionId name credentialValue =>
    refine (always_bind _ _).mpr (always_mono complete_guarded ?_)
    rintro (e | cred) ψ ⟨φ, rfl, settled⟩
    · exact ⟨φ, rfl, settled⟩
    · exact ⟨φ, rfl, settled⟩

end

/-! ## What a call does -/

/-- How a call moves the phase of its thread. -/
inductive ChallengeMove (o : Op) (i : Input) (s : Store) (φ : ChallengePhase) : ChallengePhase → Prop where
  | stays : ChallengeMove o i s φ φ
  | waits (userId : Option Uuid) (now : Option DateTime) : ChallengeMove o i s φ (.waiting userId now)
  | finds (challenge : PasskeyChallenge) (mem : challenge ∈ s.passkeyChallenges)
    (eq : o = .db (.passkeys (.challengeFindById challenge.id))) (executed : i.fault = none)
    (φ' : ChallengePhase) (kept : φ' ≠ .consumed) : ChallengeMove o i s φ φ'
  | deletes (outstanding : φ.Outstanding) (id : Uuid) (eq : o = .db (.passkeys (.challengeDelete id)))
    (executed : i.fault = none) : ChallengeMove o i s φ .consumed
  | fails : ChallengeMove o i s φ .over

section
variable {D : Deploy} {id : Uuid}

lemma exec_executed {q : Stmt} {i : Input} {s : Store} {v : q.Val} (result : (exec D (.db q) i s).1 = .ok v) :
    i.fault = none ∧ (q.exec D i.now s).1 = .ok v := by
  cases fault : i.fault with
  | some e =>
    rw [exec, fault] at result
    cases result
  | none =>
    rw [exec, fault] at result
    exact ⟨rfl, result⟩

lemma phase_move (φ : ChallengePhase) (o : Op) (i : Input) (s : Store) :
    ChallengeMove o i s φ (φ.next o (exec D o i s).1) := by
  generalize result : (exec D o i s).1 = r
  unfold ChallengePhase.next
  split
  · exact .waits _ _
  · exact .waits _ _
  · rename_i userId now id challenge
    obtain ⟨executed, row⟩ := exec_executed result
    have row : s.passkeyChallenges.find? (·.id = id) = some challenge := Except.ok.inj row
    have named : challenge.id = id := by simpa using List.find?_some row
    refine .finds challenge (List.mem_of_find?_eq_some row) (by rw [named]) executed _ ?_
    unfold ChallengePhase.found
    split <;> split_ifs <;> exact fun same => by cases same
  · exact .deletes (.inl rfl) _ rfl (exec_executed result).1
  · exact .fails
  · exact .deletes (.inr rfl) _ rfl (exec_executed result).1
  · exact .stays

/-- Within a phase no challenge is added. -/
lemma exec_challenges {φ : ChallengePhase} {o : Op} (allowed : φ.Allows id o) (i : Input) (s : Store) :
    ∀ challenge ∈ (exec D o i s).2.passkeyChallenges, challenge ∈ s.passkeyChallenges := by
  have w := exec_written (D := D) o i s
  generalize (exec D o i s).2 = s' at w
  intro challenge mem
  cases w with
  | passkeys q eq challenges credentials h =>
    subst eq h
    cases q with
    | challengeCreate => exact False.elim allowed
    | challengeDelete => exact (List.mem_filter.mp mem).1
    | credentialCreate =>
      simp only [PasskeyStmt.exec] at mem
      split_ifs at mem <;> exact mem
    | _ => exact mem
  | _ => exact mem

/-- The challenge is gone. -/
def Store.lacksChallenge (s : Store) (id : Uuid) : Prop := ∀ challenge ∈ s.passkeyChallenges, challenge.id ≠ id

lemma exec_challengeDelete {i : Input} (s : Store) (executed : i.fault = none) :
    (exec D (.db (.passkeys (.challengeDelete id))) i s).2.lacksChallenge id := by
  rw [exec, executed]
  intro challenge mem
  exact of_decide_eq_true (List.mem_filter.mp mem).2

end

/-! ## The invariant -/

/-- The call has found the challenge open. -/
def ChallengePhase.Engaged (φ : ChallengePhase) : Prop := φ.Outstanding ∨ φ = .consumed

lemma ChallengePhase.Passed.engaged {φ : ChallengePhase} (passed : φ.Passed) : φ.Engaged := by
  rcases passed with rfl | rfl
  · exact .inl (.inr rfl)
  · exact .inr rfl

/-- At most one call has found the challenge open, and once one has deleted it, it is gone. -/
structure ChallengeHeld (D : Deploy) (id : Uuid) (c : ChallengePool) : Prop where
  guarded : Config.Guarded (exec D) (challengeMonitor id) (fun _ φ a => a.isSuccess = true → φ.Passed) c
  gone : ∀ t, challengePhase D id c t = .consumed → c.store.lacksChallenge id
  engaged : ∀ t u, (challengePhase D id c t).Engaged → (challengePhase D id c u).Engaged → t = u
  sessions : ∀ e ∈ c.trace, StoresSession e → (challengePhase D id c e.tid).Passed

section
variable {D : Deploy} {id : Uuid} {c : ChallengePool} {x : Nat × Input}

lemma ChallengeHeld.usedOnce (held : ChallengeHeld D id c) : UsedOnce D id c where
  one t u passed passed' := held.engaged t u passed.engaged passed'.engaged
  sessions d mem e mem' stores stores' :=
    held.engaged d.tid e.tid (held.sessions d mem stores).engaged (held.sessions e mem' stores').engaged
  success t u _ _ returned returned' success success' :=
    held.engaged t u (held.guarded.returned returned success).engaged
      (held.guarded.returned returned' success').engaged

/-- A call that is past the challenge stays there. -/
lemma ChallengePhase.Passed.next {o : Op} {φ : ChallengePhase} (passed : φ.Passed) (r : o.Res) : (φ.next o r).Passed := by
  rcases passed with rfl | rfl
  all_goals
    unfold ChallengePhase.next
    split <;> first | contradiction | exact .inl rfl | exact .inr rfl

lemma ChallengeHeld.step (held : ChallengeHeld D id c) (alone : FindsAlone D id c x) :
    ChallengeHeld D id (Config.step (exec D) c x) := by
  cases e : c.thread x.1 with
  | ret a =>
    rw [Config.step_ret e]
    exact held
  | call o k =>
    have allowed : (challengePhase D id c x.1).Allows id o := held.guarded.allowed e
    have store' : (Config.step (exec D) c x).store = (exec D o x.2 c.store).2 := by rw [Config.step_call e]
    have other : ∀ t, t ≠ x.1 → challengePhase D id (Config.step (exec D) c x) t = challengePhase D id c t :=
      fun t ne => Config.phase_step_ne ne
    have own : challengePhase D id (Config.step (exec D) c x) x.1 =
        (challengePhase D id c x.1).next o (exec D o x.2 c.store).1 := Config.phase_step_self e
    have move := phase_move (D := D) (challengePhase D id c x.1) o x.2 c.store
    rw [← own] at move
    have stillGone : c.store.lacksChallenge id → (Config.step (exec D) c x).store.lacksChallenge id := by
      intro gone challenge mem
      rw [store'] at mem
      exact gone challenge (exec_challenges allowed x.2 c.store challenge mem)
    -- Whoever finds the challenge open is the first to do so.
    have became : (challengePhase D id (Config.step (exec D) c x) x.1).Engaged →
        (challengePhase D id c x.1).Engaged ∨ ∀ t, ¬ (challengePhase D id c t).Engaged := by
      intro engaged
      generalize challengePhase D id (Config.step (exec D) c x) x.1 = φ' at move engaged
      cases move with
      | stays => exact .inl engaged
      | waits userId now => rcases engaged with (h | h) | h <;> cases h
      | finds challenge mem eq executed =>
        subst eq
        obtain rfl : challenge.id = id := allowed.1
        refine .inr fun t engaged => ?_
        rcases engaged with outstanding | deleted
        · exact alone k e executed ⟨challenge, mem, rfl⟩ t outstanding
        · exact held.gone t deleted challenge mem rfl
      | deletes outstanding => exact .inl (.inl outstanding)
      | fails => rcases engaged with (h | h) | h <;> cases h
    -- A call that is past the challenge stays there.
    have stays : ∀ t, (challengePhase D id c t).Passed →
        (challengePhase D id (Config.step (exec D) c x) t).Passed := by
      intro t passed
      by_cases mine : t = x.1
      · subst mine
        rw [own]
        exact passed.next _
      · rwa [other t mine]
    refine ⟨held.guarded.step x, fun t deleted => ?_, fun t u engaged engaged' => ?_, ?_⟩
    · by_cases mine : t = x.1
      · subst mine
        rw [deleted] at move
        generalize before : challengePhase D id c x.1 = φ at move allowed
        cases move with
        | stays => exact stillGone (held.gone x.1 before)
        | finds _ _ _ _ _ kept => exact absurd rfl kept
        | deletes outstanding i eq executed =>
          subst eq
          obtain rfl : i = id := allowed
          rw [store']
          exact exec_challengeDelete c.store executed
      · exact stillGone (held.gone t (other t mine ▸ deleted))
    · by_cases mine : t = x.1 <;> by_cases mine' : u = x.1
      · rw [mine, mine']
      · subst mine
        rw [other u mine'] at engaged'
        rcases became engaged with before | none
        · exact held.engaged _ u before engaged'
        · exact absurd engaged' (none u)
      · subst mine'
        rw [other t mine] at engaged
        rcases became engaged' with before | none
        · exact held.engaged t _ engaged before
        · exact absurd engaged (none t)
      · rw [other t mine] at engaged
        rw [other u mine'] at engaged'
        exact held.engaged t u engaged engaged'
    · rw [Config.step_call e]
      intro d mem stores
      refine Config.step_call e ▸ stays d.tid ?_
      rcases List.mem_append.mp mem with mem | mem
      · exact held.sessions d mem stores
      · obtain rfl := List.mem_singleton.mp mem
        obtain ⟨session, rfl⟩ := stores
        exact allowed

end

/-- In every interleaving of calls that complete a challenge, if none finds it while another one is about to
delete it, at most one gets past it. -/
theorem challenge_used_once {D : Deploy} {id : Uuid} {s : Store} {calls : Nat → ChallengeCall}
    {sched : List (Nat × Input)}
    (alone : Config.Admissible (exec D) (FindsAlone D id) (challengePool D id s calls) sched) :
    UsedOnce D id (Config.exec (exec D) (challengePool D id s calls) sched) := by
  refine ChallengeHeld.usedOnce (Config.exec_invariant (I := ChallengeHeld D id) alone ?_ ?_)
  · refine ⟨fun t => (calls t).guarded, fun t deleted => ?_, fun t u engaged => ?_, fun e mem => ?_⟩
    · cases deleted
    · rcases engaged with (h | h) | h <;> cases h
    · cases mem
  · intro c x held alone
    exact held.step alone

/-! ## A captured assertion -/

namespace Sample

def challengeId : Uuid := ⟨0x018bcfe56800700080000000000000c1⟩

/-- The deployment with one authenticator. -/
def passkeyDeploy : Deploy :=
  { deploy with
    parseCredential := fun value =>
      if value = "assertion" then .ok ⟨"credential-1", value⟩ else .error "missing field"
    finishAuthentication := fun credential state passkey =>
      if credential.raw = "assertion" ∧ state = "state-1" ∧ passkey = "passkey-1" then .ok "authenticated"
      else .error "signature" }

/-- Alice has a passkey, and a challenge waits for it. -/
def challengeStore : Store :=
  { store with
    memberships := [.newHome tenantA aliceId]
    authSessions := [authSession]
    passkeyChallenges := [⟨challengeId, none, .authenticate, "state-1", some (sessionId 7), Sample.now + 300000000⟩]
    webauthnCredentials := [⟨challengeId, aliceId, "credential-1", "passkey-1", "key", none⟩] }

/-- The same assertion, any number of times. -/
def replays : Nat → ChallengeCall := fun _ => .authenticate tenantA "assertion" browser

def replayStart : ChallengePool := challengePool passkeyDeploy challengeId challengeStore replays

/-- Two calls find the challenge before either deletes it. -/
def simultaneous : List (Nat × Input) :=
  List.replicate 2 (0, input 5) ++ List.replicate 2 (1, input 6) ++ List.replicate 9 (0, input 5) ++
    List.replicate 9 (1, input 6)

/-- The same calls one after the other. -/
def inTurn : List (Nat × Input) := List.replicate 11 (0, input 5) ++ List.replicate 2 (1, input 6)

def nextFinds : Service ChallengeAnswer → Bool
  | .call (.db (.passkeys (.challengeFindById _))) _ => true
  | _ => false

/-- A call that finds the challenge is the first one, or it is gone. -/
def findsFirst (c : ChallengePool) (x : Nat × Input) : Bool :=
  !nextFinds (c.thread x.1) || c.store.passkeyChallenges.isEmpty ||
    (¬ (challengePhase passkeyDeploy challengeId c 0).Outstanding ∧ ∀ e ∈ c.trace, e.tid = 0)

lemma phase_uncalled {t : Nat} {trace : List (Program.Entry Op Input Store)} (uncalled : ∀ e ∈ trace, e.tid ≠ t) :
    Config.phase (exec passkeyDeploy) (challengeMonitor challengeId) t trace = .waiting none none := by
  induction trace using List.reverseRecOn with
  | nil => rfl
  | append_singleton trace e ih =>
    rw [Config.phase_snoc, if_neg (uncalled e (List.mem_append_right _ (List.mem_singleton_self _)))]
    exact ih fun d mem => uncalled d (List.mem_append_left _ mem)

lemma findsFirst_alone (c : ChallengePool) (x : Nat × Input) (first : findsFirst c x = true) :
    FindsAlone passkeyDeploy challengeId c x := by
  rintro k e - ⟨challenge, mem, -⟩ t outstanding
  simp only [findsFirst, e, nextFinds, Bool.not_true, Bool.false_or, Bool.or_eq_true, decide_eq_true_eq] at first
  rcases first with empty | ⟨free, only⟩
  · rw [List.isEmpty_iff.mp empty] at mem
    cases mem
  · by_cases zero : t = 0
    · subst zero
      exact free outstanding
    · have fresh : challengePhase passkeyDeploy challengeId c t = .waiting none none :=
        phase_uncalled fun e mem own => zero (own.symm.trans (only e mem))
      rw [fresh] at outstanding
      rcases outstanding with h | h <;> cases h

end Sample

open Sample in
set_option maxRecDepth 4000 in
/-- One assertion gives two SSO sessions. -/
theorem simultaneous_calls_pass_twice :
    let c := Config.exec (exec passkeyDeploy) replayStart simultaneous
    c.thread 0 = .ret (.authenticated (.consentRequired (sessionId 7) (sessionId 5))) ∧
      c.thread 1 = .ret (.authenticated (.consentRequired (sessionId 7) (sessionId 6))) ∧
      c.store.ssoSessions.length = 2 ∧ ¬ UsedOnce passkeyDeploy challengeId c := by
  intro c
  have first : c.thread 0 = .ret (.authenticated (.consentRequired (sessionId 7) (sessionId 5))) := rfl
  have second : c.thread 1 = .ret (.authenticated (.consentRequired (sessionId 7) (sessionId 6))) := rfl
  refine ⟨first, second, by decide +kernel, fun once => ?_⟩
  have same := once.success 0 1 _ _ first second rfl rfl
  cases same

open Sample in
set_option maxRecDepth 4000 in
/-- The second call does not find the challenge. -/
theorem challenge_used_once_sample :
    let c := Config.exec (exec passkeyDeploy) replayStart inTurn
    c.thread 0 = .ret (.authenticated (.consentRequired (sessionId 7) (sessionId 5))) ∧
      c.thread 1 = .ret (.authenticated .challengeNotFound) ∧ UsedOnce passkeyDeploy challengeId c := by
  intro c
  exact ⟨rfl, rfl, challenge_used_once (Config.admissible_of_passes findsFirst_alone (by decide +kernel))⟩

end IdpMvp
