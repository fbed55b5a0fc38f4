import IdpMvp.Program.Pool
import IdpMvp.Store.Ops

/-!
# Monitors on services

Rules to show that a flow keeps to a monitor, call by call.
-/

namespace IdpMvp

open Program Program.Prog Program.Flow

instance : Nonempty ((o : Op) → Op.Res o) := by
  refine ⟨fun o => ?_⟩
  cases o with
  | db q => exact .error .notFound
  | clock => exact (0 : Int)
  | randomToken _ => exact ""
  | randomHex _ => exact ""
  | randomBytes _ => exact []
  | uuidV4 => exact ⟨0⟩
  | newId => exact ⟨0⟩
  | hashPassword _ => exact .error .notFound
  | encrypt _ => exact .error ""
  | generateKeypair _ => exact .error ""
  | beginRegistration _ _ _ => exact .error ""
  | sendMail _ _ => exact .error ""
  | verifyTotpCode _ _ => exact .error ""
  | checkAndRecord _ _ => exact true
  | limit _ _ _ => exact true
  | cacheGet _ => exact none
  | cacheInsert _ _ => exact ()
  | cacheInvalidate _ => exact ()
  | tenantCacheGet _ => exact none
  | tenantCacheInsert _ _ => exact ()
  | tenantCacheInvalidate _ => exact ()

section
variable {Φ ε α : Type} {M : Monitor Op.Res Φ} {φ : Φ}
variable {Q : α → Option Φ → Prop} {E : ε → Option Φ → Prop}

lemma guard_db_step {q : Stmt} {f : DomainError → ε} {k : q.Val → ServiceFlow ε α}
    (allowed : M.ok φ (.db q)) (leave : ∀ e, E (f e) (some (M.next φ (.db q) (.error e))))
    (next : ∀ v, alwaysE M.oracle (k v) (some (M.next φ (.db q) (.ok v))) Q E) :
    alwaysE M.oracle (orLeave (db q) f >>= k) (some φ) Q E := by
  rw [alwaysE_bind, alwaysE_orLeave]
  intro answer
  rw [Monitor.oracle_some allowed, always_ret]
  cases h : answer (.db q) with
  | error e => exact ⟨by simp, fun d e' => Except.error.inj e' ▸ leave e⟩
  | ok v => exact ⟨fun a e' => Except.ok.inj e' ▸ next v, by simp⟩

/-- A flow is guarded if it always ends in phases that are as they should be, and leaves in some
phase. -/
lemma guarded_of_alwaysE {p : ServiceFlow ε α} {Q : Φ → α → Prop}
    (w : alwaysE M.oracle p (some φ) (Monitor.At Q) (fun _ ψ => ψ.isSome = true)) :
    p.run.Guarded M φ (fun ψ r => ∀ a, r = .ok a → Q ψ a) := by
  refine guarded_of_always (always_mono w ?_)
  rintro (e | a) ψ h
  · obtain ⟨ψ, rfl⟩ := Option.isSome_iff_exists.mp h
    exact ⟨ψ, rfl, by simp⟩
  · obtain ⟨ψ, rfl, q⟩ := h
    exact ⟨ψ, rfl, fun a e => Except.ok.inj e ▸ q⟩

/-- A call of an operation other than a statement. -/
lemma guard_step {o : Op} {k : Op.Res o → ServiceFlow ε α} (allowed : M.ok φ o)
    (next : ∀ r, alwaysE M.oracle (k r) (some (M.next φ o r)) Q E) :
    alwaysE M.oracle (liftM (Prog.op o) >>= k) (some φ) Q E := by
  refine lift_step fun answer => ?_
  rw [Monitor.oracle_some allowed]
  exact next _

end

/-- A monitor that takes no notice of the operations of a flow stays in its phase meanwhile. -/
lemma aside_step {Φ ε α β : Type} {M : Monitor Op.Res Φ} {φ : Φ} {P : Op → Prop}
    {p : ServiceFlow ε β} {k : β → ServiceFlow ε α} {Q : α → Option Φ → Prop}
    {E : ε → Option Φ → Prop} (u : p.run.Uses P)
    (ignores : ∀ o, P o → M.ok φ o ∧ ∀ r, M.next φ o r = φ) (leave : ∀ e, E e (some φ))
    (next : ∀ b, alwaysE M.oracle (k b) (some φ) Q E) :
    alwaysE M.oracle (p >>= k) (some φ) Q E := by
  have kept : alwaysE M.oracle p (some φ) (fun _ ψ => ψ = some φ) (fun _ ψ => ψ = some φ) := by
    refine uses_alwaysE u ?_ rfl
    rintro o aside answer _ rfl
    rw [Monitor.oracle_some (ignores o aside).1, (ignores o aside).2]
  refine alwaysE_bind_of kept ?_ ?_
  · rintro e _ rfl
    exact leave e
  · rintro b _ rfl
    exact next b

end IdpMvp
