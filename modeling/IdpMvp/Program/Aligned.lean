import IdpMvp.Program.Flow

/-!
# Two executions of one program

`Aligned H R p s s'` compares the executions of `p` from two states on the same inputs, call by call: the
calls may answer differently as long as the program goes on in the same way, and the states they end in
are related by `R`. Both executions then return the same result. This is the shape of non-interference:
whoever runs `p` cannot tell the two states apart.
-/

namespace IdpMvp.Program

variable {Op : Type} {Res : Op → Type} {In S ε α β : Type}

namespace Prog

/-- The executions of `p` from `s` and from `s'`, on the same inputs, go the same way and end in related
states. -/
def Aligned (H : Handler Res In S) (R : S → S → Prop) : Prog Res α → S → S → Prop
  | ret _, s, s' => R s s'
  | call o k, s, s' =>
    ∀ i, k (H o i s).1 = k (H o i s').1 ∧ Aligned H R (k (H o i s).1) (H o i s).2 (H o i s').2

section
variable {H : Handler Res In S} {R : S → S → Prop} {s s' : S}

/-- Aligned executions return the same result. -/
theorem Aligned.run {p : Prog Res α} (h : Aligned H R p s s') (ins : Nat → In) :
    (run H p ins s).1 = (run H p ins s').1 ∧ R (run H p ins s).2 (run H p ins s').2 := by
  induction p generalizing s s' ins with
  | ret a => exact ⟨rfl, h⟩
  | call o k ih =>
    obtain ⟨same, rest⟩ := h (ins 0)
    have next := ih _ rest (fun n => ins (n + 1))
    simp only [Prog.run]
    rw [← same]
    exact next

/-- The rule of composition, with what every execution of the first part returns. -/
lemma Aligned.bind_of {p : Prog Res α} {f : α → Prog Res β} {P : α → Prop} (h : Aligned H R p s s')
    (facts : always H p s (fun a _ => P a))
    (next : ∀ a, P a → ∀ s s', R s s' → Aligned H R (f a) s s') : Aligned H R (p >>= f) s s' := by
  induction p generalizing s s' with
  | ret a => exact next a facts s s' h
  | call o k ih =>
    intro i
    obtain ⟨same, rest⟩ := h i
    exact ⟨congrArg (fun p => p >>= f) same, ih _ rest (facts i)⟩

lemma Aligned.bind {p : Prog Res α} {f : α → Prog Res β} (h : Aligned H R p s s')
    (next : ∀ a s s', R s s' → Aligned H R (f a) s s') : Aligned H R (p >>= f) s s' :=
  h.bind_of (always_true p s) fun a _ => next a

/-- A program whose operations do not tell related states apart does not either. -/
lemma Uses.aligned {P : Op → Prop} {p : Prog Res α} (u : Uses P p)
    (step : ∀ o, P o → ∀ i s s', R s s' →
      (H o i s).1 = (H o i s').1 ∧ R (H o i s).2 (H o i s').2) (h : R s s') :
    Aligned H R p s s' := by
  induction p generalizing s s' with
  | ret a => exact h
  | call o k ih =>
    intro i
    obtain ⟨same, rest⟩ := step o u.1 i s s' h
    exact ⟨congrArg k same, ih _ (u.2 _) rest⟩

end
end Prog

namespace Flow

section
variable {H : Handler Res In S} {R : S → S → Prop} {s s' : S}

lemma aligned_bind_of {p : Flow Res ε β} {k : β → Flow Res ε α} {P : β → Prop}
    (h : p.run.Aligned H R s s') (facts : alwaysE H p s (fun b _ => P b) (fun _ _ => True))
    (next : ∀ b, P b → ∀ s s', R s s' → (k b).run.Aligned H R s s') :
    (p >>= k).run.Aligned H R s s' := by
  refine Prog.Aligned.bind_of (P := fun r => ∀ b, r = .ok b → P b) h ?_ ?_
  · refine Prog.always_mono facts ?_
    rintro (e | b) t p
    · exact nofun
    · rintro _ ⟨⟩
      exact p
  · rintro (e | b) p t t' rel
    · exact rel
    · exact next b (p b rfl) t t' rel

lemma aligned_bind {p : Flow Res ε β} {k : β → Flow Res ε α} (h : p.run.Aligned H R s s')
    (next : ∀ b s s', R s s' → (k b).run.Aligned H R s s') : (p >>= k).run.Aligned H R s s' := by
  refine Prog.Aligned.bind h ?_
  rintro (e | b) t t' rel
  · exact rel
  · exact next b t t' rel

lemma aligned_found {o : Option β} {e : ε} {k : β → Flow Res ε α} (h : R s s')
    (next : ∀ b, o = some b → (k b).run.Aligned H R s s') :
    (found o e >>= k).run.Aligned H R s s' := by
  cases o with
  | none => exact h
  | some b => exact next b rfl

lemma aligned_orThrow {δ : Type} {x : Except δ β} {f : δ → ε} {k : β → Flow Res ε α} (h : R s s')
    (next : ∀ b, x = .ok b → (k b).run.Aligned H R s s') :
    (orThrow x f >>= k).run.Aligned H R s s' := by
  cases x with
  | error d => exact h
  | ok b => exact next b rfl

lemma aligned_ensure {b : Bool} {e : ε} {k : Unit → Flow Res ε α} (h : R s s')
    (next : b = true → (k ()).run.Aligned H R s s') :
    (ensure b e >>= k).run.Aligned H R s s' := by
  cases b with
  | false => exact h
  | true => exact next rfl

lemma aligned_outcome {p : Flow Res ε ε} (h : p.run.Aligned H R s s') :
    (outcome p).Aligned H R s s' := by
  refine Prog.Aligned.bind h ?_
  rintro (e | a) t t' rel <;> exact rel

end
end Flow
end IdpMvp.Program
