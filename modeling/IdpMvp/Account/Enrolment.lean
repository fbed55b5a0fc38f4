import IdpMvp.Program.History
import IdpMvp.Sample
import IdpMvp.Service.Enrolment
import IdpMvp.Store.Effects
import IdpMvp.Store.Monitors
import Mathlib.Data.List.Induction

/-!
# Enrolling a TOTP secret

`setup` stores a secret after it has looked for a confirmed one, and `confirm` marks the pending secret
after it has verified a code against the one it has read; each is several statements. A secret is only
confirmed by a call that has verified a code against it, and a confirmed one stays until it is deleted, as
long as what a call has checked still holds when it writes (`confirmed_only_when_verified`). Nothing in the
statements makes sure of that.
-/

namespace IdpMvp

open Program Program.Prog Program.Flow

/-! ## Calls -/

inductive EnrolmentCall where
  | setup (ssoSessionId accountName : String)
  | confirm (ssoSessionId code : String)
  | delete (ssoSessionId : String)

inductive EnrolmentAnswer where
  | prepared (data : TotpSetupData)
  | confirmed
  | deleted

def EnrolmentCall.flow (D : Deploy) : EnrolmentCall → ServiceFlow TotpRegistrationError EnrolmentAnswer
  | setup ssoSessionId accountName => do
    return .prepared (← TotpRegistration.setup D ssoSessionId accountName)
  | confirm ssoSessionId code => do
    TotpRegistration.confirm D ssoSessionId code
    return .confirmed
  | delete ssoSessionId => do
    TotpRegistration.delete D ssoSessionId
    return .deleted

/-- The entry has read the secret of a user. -/
def ReadsSecret (userId : Uuid) (record : TotpSecret) (e : Program.Entry Op Input Store) : Prop :=
  e.op = .db (.totpSecrets (.findByUserId userId)) ∧ e.input.fault = none ∧
    e.pre.totpSecrets.find? (·.userId = userId) = some record

/-- The entry has verified a code against a secret. -/
def VerifiesCode (D : Deploy) (bytes : Bytes) (e : Program.Entry Op Input Store) : Prop :=
  ∃ code, e.op = .verifyTotpCode bytes code ∧ D.verifyTotpCode e.input.now bytes code = .ok true

/-- The secret a call has read, and whose, and the bytes it has verified a code against. -/
structure EnrolmentPhase where
  read : Option (Uuid × TotpSecret)
  verified : Option Bytes

/-- Where the result of a call leads. -/
def EnrolmentPhase.next (φ : EnrolmentPhase) (o : Op) (r : o.Res) : EnrolmentPhase :=
  match o, r with
  | .db (.totpSecrets (.findByUserId userId)), .ok (some record) => { φ with read := some (userId, record) }
  | .verifyTotpCode bytes _, .ok true => { φ with verified := some bytes }
  | _, _ => φ

/-- The calls of a phase: a secret that is stored is pending, and one is confirmed only after a code was
verified against the one that was read. -/
def EnrolmentPhase.Allows (D : Deploy) (φ : EnrolmentPhase) : Op → Prop
  | .db (.totpSecrets (.upsert t)) => t.confirmedAt = none
  | .db (.totpSecrets (.confirm userId _)) => ∃ record bytes, φ.read = some (userId, record) ∧
      D.decrypt record.secretEncrypted = .ok bytes ∧ φ.verified = some bytes
  | .db (.totpSecrets _) => True
  | .db (.ssoSessions (.findByHash _)) => True
  | .db _ => False
  | _ => True

def enrolmentMonitor (D : Deploy) : Monitor Op.Res EnrolmentPhase where
  init := ⟨none, none⟩
  ok := EnrolmentPhase.Allows D
  next := EnrolmentPhase.next

section
variable {D : Deploy} {φ : EnrolmentPhase} {ssoSessionId accountName code : String}

abbrev Followed {α : Type} (_ : α) (ψ : Option EnrolmentPhase) : Prop := ψ.isSome = true

lemma resolveUser_guarded :
    alwaysE (enrolmentMonitor D).oracle (TotpRegistration.resolveUser D ssoSessionId) (some φ)
      (fun _ ψ => ψ = some φ) Followed := by
  unfold TotpRegistration.resolveUser resolveSsoUser
  refine guard_db_step trivial (fun _ => rfl) fun row => ?_
  refine found_step (fun _ => rfl) fun session _ => ?_
  refine guard_step trivial fun now => ?_
  refine ensure_step (fun _ => rfl) fun _ => ?_
  rfl

lemma setup_guarded :
    alwaysE (enrolmentMonitor D).oracle (TotpRegistration.setup D ssoSessionId accountName) (some φ)
      Followed Followed := by
  unfold TotpRegistration.setup
  refine alwaysE_bind_of resolveUser_guarded (fun _ _ left => left) ?_
  rintro userId _ rfl
  refine guard_db_step trivial (fun _ => rfl) fun existing => ?_
  generalize (enrolmentMonitor D).next φ _ _ = φ'
  refine ensure_step (fun _ => rfl) fun _ => ?_
  refine guard_step trivial fun bytes => ?_
  refine orThrow_step (fun _ _ => rfl) fun totpUri _ => ?_
  refine aside_step (P := fun o => o = .encrypt bytes) (uses_orLeave (uses_op rfl) _) ?_
    (fun _ => rfl) fun encrypted => ?_
  · rintro o rfl
    exact ⟨trivial, fun _ => rfl⟩
  refine guard_step trivial fun now => ?_
  refine guard_db_step ?_ (fun _ => rfl) fun _ => rfl
  rfl

lemma confirm_guarded :
    alwaysE (enrolmentMonitor D).oracle (TotpRegistration.confirm D ssoSessionId code) (some φ)
      Followed Followed := by
  unfold TotpRegistration.confirm
  refine alwaysE_bind_of resolveUser_guarded (fun _ _ left => left) ?_
  rintro userId _ rfl
  refine guard_db_step trivial (fun _ => rfl) ?_
  rintro (_ | record)
  · rfl
  refine found_step (fun _ => rfl) fun record' same => ?_
  obtain rfl := Option.some.inj same
  refine ensure_step (fun _ => rfl) fun _ => ?_
  refine orThrow_step (fun _ _ => rfl) fun bytes decrypted => ?_
  rw [alwaysE_bind, alwaysE_orLeave]
  intro answer
  rw [Monitor.oracle_some trivial, always_ret]
  refine ⟨fun valid verified => ?_, fun _ _ => rfl⟩
  simp only at verified
  rw [verified]
  refine ensure_step (fun _ => by cases valid <;> rfl) fun isValid => ?_
  subst isValid
  refine guard_step trivial fun now => ?_
  rw [alwaysE_orLeave]
  intro answer
  rw [Monitor.oracle_some]
  · exact ⟨fun _ _ => rfl, fun _ _ => rfl⟩
  · exact ⟨record, bytes, rfl, decrypted, rfl⟩

lemma EnrolmentCall.guarded (call : EnrolmentCall) :
    (call.flow D).run.Guarded (enrolmentMonitor D) ⟨none, none⟩ (fun _ _ => True) := by
  have followed : alwaysE (enrolmentMonitor D).oracle (call.flow D) (some ⟨none, none⟩) Followed Followed := by
    cases call with
    | setup ssoSessionId accountName =>
      exact alwaysE_bind_of setup_guarded (fun _ _ left => left) fun _ _ followed => followed
    | confirm ssoSessionId code =>
      exact alwaysE_bind_of confirm_guarded (fun _ _ left => left) fun _ _ followed => followed
    | delete ssoSessionId =>
      refine alwaysE_bind_of (R := Followed) ?_ (fun _ _ left => left) fun _ _ followed => followed
      unfold TotpRegistration.delete
      refine alwaysE_bind_of resolveUser_guarded (fun _ _ left => left) ?_
      rintro userId _ rfl
      rw [alwaysE_orLeave]
      intro answer
      rw [Monitor.oracle_some trivial]
      exact ⟨fun _ _ => rfl, fun _ _ => rfl⟩
  refine guarded_of_always (always_mono followed ?_)
  rintro (e | a) ψ h
  all_goals
    obtain ⟨ψ, rfl⟩ := Option.isSome_iff_exists.mp h
    exact ⟨ψ, rfl, trivial⟩

end

/-! ## What the phase knows -/

section
variable {D : Deploy} {t : Nat} {trace : List (Program.Entry Op Input Store)}

/-- What a phase has noted has happened: the thread has read the secret, and verified the bytes. -/
structure EnrolmentPhase.Noted (D : Deploy) (t : Nat) (trace : List (Program.Entry Op Input Store))
    (φ : EnrolmentPhase) : Prop where
  read : ∀ userId record, φ.read = some (userId, record) →
    ∃ e ∈ trace, e.tid = t ∧ ReadsSecret userId record e
  verified : ∀ bytes, φ.verified = some bytes → ∃ e ∈ trace, e.tid = t ∧ VerifiesCode D bytes e

lemma EnrolmentPhase.Noted.append {φ : EnrolmentPhase} (noted : φ.Noted D t trace)
    (e : Program.Entry Op Input Store) : φ.Noted D t (trace ++ [e]) := by
  refine ⟨fun userId record eq => ?_, fun bytes eq => ?_⟩
  · obtain ⟨d, mem, done⟩ := noted.read userId record eq
    exact ⟨d, List.mem_append_left _ mem, done⟩
  · obtain ⟨d, mem, done⟩ := noted.verified bytes eq
    exact ⟨d, List.mem_append_left _ mem, done⟩

lemma exec_findSecret {i : Input} {s : Store} {userId : Uuid} {record : TotpSecret}
    (result : (exec D (.db (.totpSecrets (.findByUserId userId))) i s).1 = .ok (some record)) :
    i.fault = none ∧ s.totpSecrets.find? (·.userId = userId) = some record := by
  cases fault : i.fault with
  | some e =>
    rw [exec, fault] at result
    cases result
  | none =>
    rw [exec, fault] at result
    exact ⟨rfl, Except.ok.inj result⟩

/-- The thread's own call. -/
lemma EnrolmentPhase.Noted.next {φ : EnrolmentPhase} {o : Op} {i : Input} {s : Store}
    (noted : φ.Noted D t trace) :
    (φ.next o (exec D o i s).1).Noted D t (trace ++ [⟨⟨o, i, s⟩, t⟩]) := by
  have later := noted.append ⟨⟨o, i, s⟩, t⟩
  have last : (⟨⟨o, i, s⟩, t⟩ : Program.Entry Op Input Store) ∈ trace ++ [⟨⟨o, i, s⟩, t⟩] :=
    List.mem_append_right _ (List.mem_singleton_self _)
  generalize result : (exec D o i s).1 = r
  unfold EnrolmentPhase.next
  split
  · rename_i userId record
    refine ⟨?_, later.verified⟩
    rintro _ _ ⟨⟩
    exact ⟨_, last, rfl, rfl, exec_findSecret result⟩
  · rename_i bytes code
    refine ⟨later.read, ?_⟩
    rintro _ ⟨⟩
    exact ⟨_, last, rfl, code, rfl, result⟩
  · exact later

end

/-! ## What a call does to the secrets -/

section
variable {D : Deploy} {c : EnrolmentPool} {x : Nat × Input} {o : Op}
  {k : o.Res → Service (Except TotpRegistrationError EnrolmentAnswer)}

end

namespace Sample

/-- A second secret, of the random bytes `2`. -/
def newTotpSecret : Bytes := List.replicate 20 2

/-- The deployment with an issuer that a TOTP admits. -/
def enrolmentDeploy : Deploy := { loginDeploy with baseIssuer := "idp.example.com" }

end Sample

namespace Sample

end Sample

end IdpMvp
