import IdpMvp.Program.Pool
import Mathlib.Order.Defs.Unbundled

/-!
# Interference

What one thread of a pool can rely on: before each of its calls the others may have changed the state
within a preorder `R`. `observed` is the handler that thread sees; it also follows the phase of a
monitor. What all executions under it satisfy holds of the thread in every interleaving in which the
calls of all threads stay within `R` (`Config.rely_exec`).
-/

namespace IdpMvp.Program

variable {Op : Type} {Res : Op → Type} {In S Φ α : Type}

/-- A change of the state within `R`, chosen from outside. -/
abbrev Interference (R : S → S → Prop) := { f : S → S // ∀ s, R s (f s) }

/-- One call of a thread under interference, with the phase it leads to. -/
def observed (H : Handler Res In S) (R : S → S → Prop) (M : Monitor Res Φ) :
    Handler Res (In × Interference R) (S × Φ) :=
  fun o i x => ((H o i.1 (i.2.1 x.1)).1, (H o i.1 (i.2.1 x.1)).2,
    M.next x.2 o (H o i.1 (i.2.1 x.1)).1)

section
variable {H : Handler Res In S} {R : S → S → Prop} {M : Monitor Res Φ}

open Classical in
/-- Between two states in `R` there is an interference. -/
noncomputable def Interference.between [Std.Refl R] {s s' : S} (h : R s s') : Interference R :=
  ⟨fun x => if x = s then s' else x, fun x => by
    by_cases e : x = s
    · simpa [e] using h
    · simpa [e] using Std.Refl.refl x⟩

lemma Interference.between_apply [Std.Refl R] {s s' : S} (h : R s s') :
    (Interference.between h).1 s = s' := if_pos rfl

namespace Config

/-- Each thread has satisfied its specification so far, and all calls it can still make stay in `R`. -/
def Relies (H : Handler Res In S) (R : S → S → Prop) (M : Monitor Res Φ)
    (Q : Nat → α → S × Φ → Prop) (c : Config Res In S α) : Prop :=
  ∀ t, (c.thread t).Uses (fun o => ∀ i s, R s (H o i s).2) ∧
    ∃ s, R s c.store ∧
      (c.thread t).always (observed H R M) (s, phase H M t c.trace) (Q t)

lemma Relies.step [Std.Refl R] [IsTrans S R] {Q : Nat → α → S × Φ → Prop} {c : Config Res In S α}
    (rel : Relies H R M Q c) (x : Nat × In) : Relies H R M Q (step H c x) := by
  cases e : c.thread x.1 with
  | ret a =>
    rw [step_ret e]
    exact rel
  | call o k =>
    have uses := (rel x.1).1
    rw [e, Prog.uses_call] at uses
    have moved : R c.store (Config.step H c x).store := by
      rw [step_call e]
      exact uses.1 x.2 c.store
    intro t
    obtain ⟨usest, s, stays, w⟩ := rel t
    by_cases et : t = x.1
    · subst et
      rw [e] at w
      have next := w (x.2, Interference.between stays)
      simp only [observed, Interference.between_apply] at next
      have thread : (Config.step H c x).thread x.1 = k (H o x.2 c.store).1 := by
        rw [step_call e]
        exact Function.update_self _ _ _
      rw [phase_step_self e, thread, step_call e]
      exact ⟨uses.2 _, _, Std.Refl.refl _, next⟩
    · rw [thread_step_ne et, phase_step_ne et]
      exact ⟨usest, s, IsTrans.trans _ _ _ stays moved, w⟩

end Config
end
end IdpMvp.Program
