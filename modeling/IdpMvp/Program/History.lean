import Mathlib.Tactic.Common

/-!
# Sequential histories

A system takes one call after another; between the calls its environment may change the state. The
calls and the environment are parameters, and so is a condition on the calls, for results that only
hold of runs that keep to it.
-/

namespace IdpMvp.Program

variable {C In S : Type}

/-- One call of a run: what was called, on which inputs, in which state. -/
structure Event (C In S : Type) where
  call : C
  ins : Nat → In
  pre : S

/-- The state after an event. -/
def Event.post (step : C → (Nat → In) → S → S) (e : Event C In S) : S := step e.call e.ins e.pre

/-- `Runs step init env ok es s`: from an initial state, with changes by `env` in between, the events
`es` happened, each call within `ok`, and the state is now `s`. -/
inductive Runs (step : C → (Nat → In) → S → S) (init : S → Prop) (env : S → S → Prop)
    (ok : C → S → Prop) : List (Event C In S) → S → Prop where
  | start {s : S} (h : init s) : Runs step init env ok [] s
  | env {es : List (Event C In S)} {s s' : S} (run : Runs step init env ok es s) (h : env s s') :
    Runs step init env ok es s'
  | call {es : List (Event C In S)} {s : S} (run : Runs step init env ok es s) (c : C)
    (ins : Nat → In) (h : ok c s) : Runs step init env ok (es ++ [⟨c, ins, s⟩]) (step c ins s)

variable {step : C → (Nat → In) → S → S} {init : S → Prop} {env : S → S → Prop}
variable {ok : C → S → Prop}

lemma Runs.post {es : List (Event C In S)} (e : Event C In S) (run : Runs step init env ok es e.pre)
    (h : ok e.call e.pre) : Runs step init env ok (es ++ [e]) (e.post step) :=
  run.call e.call e.ins h

/-- What holds initially and is kept by the environment and by every call holds throughout. -/
theorem Runs.invariant {I : List (Event C In S) → S → Prop} {es : List (Event C In S)} {s : S}
    (run : Runs step init env ok es s) (start : ∀ s, init s → I [] s)
    (byEnv : ∀ es s s', I es s → env s s' → I es s')
    (byCall : ∀ es s c ins, I es s → ok c s → I (es ++ [⟨c, ins, s⟩]) (step c ins s)) :
    I es s := by
  induction run with
  | start h => exact start _ h
  | env _ h ih => exact byEnv _ _ _ ih h
  | call _ c ins h ih => exact byCall _ _ c ins ih h

/-- A run under stronger conditions is a run under weaker ones. -/
theorem Runs.mono {init' : S → Prop} {env' : S → S → Prop} {ok' : C → S → Prop}
    {es : List (Event C In S)} {s : S} (run : Runs step init env ok es s) (start : ∀ s, init s → init' s)
    (byEnv : ∀ s s', env s s' → env' s s') (byCall : ∀ c s, ok c s → ok' c s) :
    Runs step init' env' ok' es s := by
  induction run with
  | start h => exact .start (start _ h)
  | env _ h ih => exact .env ih (byEnv _ _ h)
  | call _ c ins h ih => exact .call ih c ins (byCall c _ h)

/-- An element of a list with one more is the last one, or one of those before it. -/
lemma snoc_split {α : Type} {l before after : List α} {last a : α}
    (split : l ++ [last] = before ++ a :: after) :
    (l = before ∧ last = a) ∨ ∃ rest, after = rest ++ [last] ∧ l = before ++ a :: rest := by
  rcases List.eq_nil_or_concat after with rfl | ⟨rest, x, rfl⟩
  · obtain ⟨same, eq⟩ := List.append_inj' split rfl
    exact .inl ⟨same, (List.cons.inj eq).1⟩
  · rw [List.concat_eq_append, ← List.cons_append, ← List.append_assoc] at split
    obtain ⟨same, eq⟩ := List.append_inj' split rfl
    exact .inr ⟨rest, by rw [List.concat_eq_append, eq], same⟩

/-- Of two elements of a list, if the first is not among those after the second, the second is among those
after the first. -/
lemma later_split {α : Type} {P : α → Prop} {before after before' after' : List α} {a b : α}
    (split : before ++ a :: after = before' ++ b :: after') (first : P a) (second : ¬ P b)
    (rest : ∀ x ∈ after', ¬ P x) : b ∈ after := by
  rcases List.append_eq_append_iff.mp split with ⟨mid, -, tail⟩ | ⟨mid, -, tail⟩
  · cases mid with
    | nil => exact absurd ((List.cons.inj tail).1 ▸ first) second
    | cons x mid =>
      rw [(List.cons.inj tail).2]
      exact List.mem_append_right _ List.mem_cons_self
  · cases mid with
    | nil => exact absurd ((List.cons.inj tail).1 ▸ first) second
    | cons x mid =>
      refine absurd first (rest a ?_)
      rw [(List.cons.inj tail).2]
      exact List.mem_append_right _ List.mem_cons_self

/-- A run up to one of its events is a run, to the state the event starts in. -/
theorem Runs.upTo {es before after : List (Event C In S)} {s : S} {e : Event C In S}
    (run : Runs step init env ok es s) (split : es = before ++ e :: after) :
    Runs step init env ok before e.pre ∧ ok e.call e.pre := by
  induction run generalizing after with
  | start h => simp at split
  | env _ _ ih => exact ih split
  | call run c ins h ih =>
    obtain ⟨rfl, rfl⟩ | ⟨rest, -, earlier⟩ := snoc_split split
    · exact ⟨run, h⟩
    · exact ih earlier

end IdpMvp.Program
