import Mathlib.Tactic.Common
import Mathlib.Logic.Function.Basic

/-!
# Programs over atomic operations

A program is a tree of calls to atomic operations: it either returns, or calls one operation and
goes on with the result. The signature `Res` gives the result type of every operation. A handler
says what one operation does to a state; it also reads an input, the part of the outside world the
state does not determine (a clock reading, a random draw, a failure).

This module runs one program at a time: `run` executes it on a stream of inputs, one for each call,
and `trace` lists the calls it makes. Facts about one execution are stated with `wp`, facts about all
executions from a state with `always`; both follow the program call by call. Interleavings of several
programs are in `Program/Pool.lean`.
-/

namespace IdpMvp.Program

/-- Programs that call operations of a signature `Res` and return an `α`. -/
inductive Prog {Op : Type} (Res : Op → Type) (α : Type) : Type where
  | ret (a : α)
  | call (op : Op) (k : Res op → Prog Res α)

/-- What one atomic operation does, given an input from outside. -/
abbrev Handler {Op : Type} (Res : Op → Type) (In S : Type) :=
  (op : Op) → In → S → Res op × S

/-- One call that was made: the operation, its input and the state it was made in. -/
structure Call (Op In S : Type) where
  op : Op
  input : In
  pre : S

variable {Op : Type} {Res : Op → Type} {In S α β : Type}

/-- The result of a call. -/
def Call.res (H : Handler Res In S) (e : Call Op In S) : Res e.op := (H e.op e.input e.pre).1

/-- The state after a call. -/
def Call.post (H : Handler Res In S) (e : Call Op In S) : S := (H e.op e.input e.pre).2

/-- The states that operations within `ok` lead to from `s`, one after another, whoever calls them. -/
inductive Reaches (H : Handler Res In S) (ok : Op → Prop) (s : S) : S → Prop where
  | refl : Reaches H ok s s
  | step {s' : S} (r : Reaches H ok s s') (o : Op) (i : In) (h : ok o) :
    Reaches H ok s (H o i s').2

/-- What every operation preserves is kept. -/
theorem Reaches.invariant {H : Handler Res In S} {ok : Op → Prop} {I : S → Prop} {s s' : S}
    (r : Reaches H ok s s') (init : I s) (preserved : ∀ o, ok o → ∀ i s, I s → I (H o i s).2) :
    I s' := by
  induction r with
  | refl => exact init
  | step _ o i h ih => exact preserved o h i _ ih

namespace Prog

/-- Sequential composition. -/
def bind : Prog Res α → (α → Prog Res β) → Prog Res β
  | ret a, f => f a
  | call op k, f => call op (fun r => (k r).bind f)

instance : Monad (Prog Res) where
  pure := ret
  bind := bind

/-- The program that calls one operation and returns its result. -/
def op (o : Op) : Prog Res (Res o) := call o ret

@[simp] lemma pure_eq (a : α) : (pure a : Prog Res α) = ret a := rfl

@[simp] lemma ret_bind (a : α) (f : α → Prog Res β) : (ret a >>= f) = f a := rfl

@[simp] lemma call_bind (o : Op) (k : Res o → Prog Res α) (f : α → Prog Res β) :
    (call o k >>= f) = call o (fun r => k r >>= f) := rfl

@[simp] lemma op_bind (o : Op) (f : Res o → Prog Res β) :
    ((op o : Prog Res (Res o)) >>= f) = call o f := rfl

/-! ## Sequential execution -/

/-- Execution on a stream of inputs, one for each call. -/
def run (H : Handler Res In S) : Prog Res α → (Nat → In) → S → α × S
  | ret a, _, s => (a, s)
  | call o k, ins, s =>
    run H (k (H o (ins 0) s).1) (fun n => ins (n + 1)) (H o (ins 0) s).2

/-- The calls an execution makes, in order. -/
def trace (H : Handler Res In S) : Prog Res α → (Nat → In) → S → List (Call Op In S)
  | ret _, _, _ => []
  | call o k, ins, s =>
    ⟨o, ins 0, s⟩ :: trace H (k (H o (ins 0) s).1) (fun n => ins (n + 1)) (H o (ins 0) s).2

/-- The execution of `p` on `ins` from `s` ends with a result, a state and calls that satisfy `Q`. -/
def wp (H : Handler Res In S) :
    Prog Res α → (Nat → In) → S → (α → S → List (Call Op In S) → Prop) → Prop
  | ret a, _, s, Q => Q a s []
  | call o k, ins, s, Q =>
    wp H (k (H o (ins 0) s).1) (fun n => ins (n + 1)) (H o (ins 0) s).2
      (fun a s' tr => Q a s' (⟨o, ins 0, s⟩ :: tr))

/-- Every execution of `p` from `s`, whatever the inputs, ends with a result and a state that
satisfy `Q`. -/
def always (H : Handler Res In S) : Prog Res α → S → (α → S → Prop) → Prop
  | ret a, s, Q => Q a s
  | call o k, s, Q => ∀ i, always H (k (H o i s).1) (H o i s).2 Q

/-- Some execution of `p` from `s` ends with a result and a state that satisfy `Q`. -/
def may (H : Handler Res In S) : Prog Res α → S → (α → S → Prop) → Prop
  | ret a, s, Q => Q a s
  | call o k, s, Q => ∃ i, may H (k (H o i s).1) (H o i s).2 Q

section
variable {H : Handler Res In S} {ins : Nat → In} {s : S}
variable {Q Q' : α → S → List (Call Op In S) → Prop}

@[simp] lemma wp_ret (a : α) : wp H (ret a) ins s Q ↔ Q a s [] := Iff.rfl

lemma wp_call (o : Op) (k : Res o → Prog Res α) :
    wp H (call o k) ins s Q ↔
      wp H (k (H o (ins 0) s).1) (fun n => ins (n + 1)) (H o (ins 0) s).2
        (fun a s' tr => Q a s' (⟨o, ins 0, s⟩ :: tr)) := Iff.rfl

/-- `wp` speaks about the execution. -/
theorem wp_iff_run {p : Prog Res α} :
    wp H p ins s Q ↔ Q (run H p ins s).1 (run H p ins s).2 (trace H p ins s) := by
  induction p generalizing ins s Q with
  | ret a => rfl
  | call o k ih => exact ih _

lemma wp_mono {p : Prog Res α} (w : wp H p ins s Q) (le : ∀ a s' tr, Q a s' tr → Q' a s' tr) :
    wp H p ins s Q' := by
  rw [wp_iff_run] at w ⊢
  exact le _ _ _ w

/-- A composition continues on the inputs its first part has left. -/
@[simp] lemma wp_bind (p : Prog Res β) (f : β → Prog Res α) :
    wp H (p >>= f) ins s Q ↔
      wp H p ins s (fun b s' tr =>
        wp H (f b) (fun n => ins (n + tr.length)) s' (fun a s'' tr' => Q a s'' (tr ++ tr'))) := by
  induction p generalizing ins s Q with
  | ret a => rfl
  | call o k ih =>
    simp only [call_bind, wp_call, ih, List.length_cons, List.cons_append]
    rfl

/-- The execution of a composition. -/
lemma run_bind (p : Prog Res β) (f : β → Prog Res α) :
    run H (p >>= f) ins s =
      run H (f (run H p ins s).1) (fun n => ins (n + (trace H p ins s).length)) (run H p ins s).2 := by
  induction p generalizing ins s with
  | ret a => rfl
  | call o k ih => exact ih _

section
variable {P P' : α → S → Prop}

@[simp] lemma always_ret (a : α) : always H (ret a) s P ↔ P a s := Iff.rfl

lemma always_call (o : Op) (k : Res o → Prog Res α) :
    always H (call o k) s P ↔ ∀ i, always H (k (H o i s).1) (H o i s).2 P := Iff.rfl

@[simp] lemma always_bind (p : Prog Res β) (f : β → Prog Res α) :
    always H (p >>= f) s P ↔ always H p s (fun b s' => always H (f b) s' P) := by
  induction p generalizing s with
  | ret a => rfl
  | call o k ih =>
    simp only [call_bind, always_call]
    exact forall_congr' fun i => ih _

lemma always_true (p : Prog Res α) (s : S) : always H p s (fun _ _ => True) := by
  induction p generalizing s with
  | ret a => trivial
  | call o k ih => exact fun i => ih _ _

lemma always_mono {p : Prog Res α} (w : always H p s P) (le : ∀ a s', P a s' → P' a s') :
    always H p s P' := by
  induction p generalizing s with
  | ret a => exact le a s w
  | call o k ih => exact fun i => ih _ (w i)

lemma always_and {p : Prog Res α} :
    always H p s (fun a s' => P a s' ∧ P' a s') ↔ always H p s P ∧ always H p s P' := by
  induction p generalizing s with
  | ret a => rfl
  | call o k ih =>
    simp only [always_call, ih]
    exact forall_and

lemma always.wp {p : Prog Res α} (w : always H p s P) : wp H p ins s (fun a s' _ => P a s') := by
  induction p generalizing s ins with
  | ret a => exact w
  | call o k ih => exact ih _ (w (ins 0))

/-- What holds of each execution holds of all. -/
lemma always_of_wp [Nonempty In] {p : Prog Res α} (w : ∀ ins, wp H p ins s (fun a s' _ => P a s')) :
    always H p s P := by
  induction p generalizing s with
  | ret a =>
    obtain ⟨i⟩ := ‹Nonempty In›
    exact w fun _ => i
  | call o k ih =>
    intro i
    refine ih _ fun ins => ?_
    exact w fun n => n.casesOn i ins

/-- What holds of all executions holds of each. -/
lemma always.run {p : Prog Res α} (w : always H p s P) (ins : Nat → In) :
    P (run H p ins s).1 (run H p ins s).2 :=
  wp_iff_run.mp w.wp

lemma may_mono {p : Prog Res α} (m : may H p s P) (le : ∀ a s', P a s' → P' a s') : may H p s P' := by
  induction p generalizing s with
  | ret a => exact le a s m
  | call o k ih =>
    obtain ⟨i, m⟩ := m
    exact ⟨i, ih _ m⟩

lemma may_bind {p : Prog Res β} {f : β → Prog Res α} (m : may H p s fun b s' => may H (f b) s' P) :
    may H (p >>= f) s P := by
  induction p generalizing s with
  | ret a => exact m
  | call o k ih =>
    obtain ⟨i, m⟩ := m
    exact ⟨i, ih _ m⟩

/-- An execution that may happen happens on some inputs. -/
lemma may.run [Nonempty In] {p : Prog Res α} (m : may H p s P) :
    ∃ ins : Nat → In, P (run H p ins s).1 (run H p ins s).2 := by
  induction p generalizing s with
  | ret a => exact ⟨fun _ => Classical.ofNonempty, m⟩
  | call o k ih =>
    obtain ⟨i, m⟩ := m
    obtain ⟨ins, holds⟩ := ih _ m
    refine ⟨fun n => if n = 0 then i else ins (n - 1), ?_⟩
    exact holds

end

/-! ## Which operations a program calls -/

/-- Every operation `p` can call, on any results, satisfies `P`. -/
def Uses (P : Op → Prop) : Prog Res α → Prop
  | ret _ => True
  | call o k => P o ∧ ∀ r, Uses P (k r)

@[simp] lemma uses_ret {P : Op → Prop} (a : α) : Uses P (ret a : Prog Res α) := trivial

@[simp] lemma uses_call {P : Op → Prop} (o : Op) (k : Res o → Prog Res α) :
    Uses P (call o k) ↔ P o ∧ ∀ r, Uses P (k r) := Iff.rfl

lemma uses_op {P : Op → Prop} {o : Op} (h : P o) : Uses P (op o : Prog Res (Res o)) :=
  ⟨h, fun _ => trivial⟩

lemma Uses.bind {P : Op → Prop} {p : Prog Res α} {f : α → Prog Res β}
    (u : Uses P p) (uf : ∀ a, Uses P (f a)) : Uses P (p >>= f) := by
  induction p with
  | ret a => exact uf a
  | call o k ih => exact ⟨u.1, fun r => ih r (u.2 r)⟩

lemma Uses.mono {P P' : Op → Prop} {p : Prog Res α} (u : Uses P p) (le : ∀ o, P o → P' o) :
    Uses P' p := by
  induction p with
  | ret a => trivial
  | call o k ih => exact ⟨le o u.1, fun r => ih r (u.2 r)⟩

/-- What every operation of a program preserves, the program preserves. -/
lemma Uses.always {P : Op → Prop} {I : S → Prop} {p : Prog Res α} (u : Uses P p)
    (step : ∀ o, P o → ∀ i s, I s → I (H o i s).2) (inv : I s) :
    always H p s (fun _ s' => I s') := by
  induction p generalizing s with
  | ret a => exact inv
  | call o k ih => exact fun i => ih _ (u.2 _) (step o u.1 i s inv)

/-- The same for one execution, with the calls it has made. -/
lemma Uses.wp {P : Op → Prop} {I : S → Prop} {p : Prog Res α} (u : Uses P p)
    (step : ∀ o, P o → ∀ i s, I s → I (H o i s).2) (inv : I s) :
    wp H p ins s (fun _ s' tr => I s' ∧ ∀ e ∈ tr, P e.op) := by
  induction p generalizing s ins with
  | ret a => exact ⟨inv, by simp⟩
  | call o k ih =>
    rw [wp_call]
    refine wp_mono (ih _ (u.2 _) (step o u.1 _ s inv)) ?_
    rintro a s' tr ⟨inv, calls⟩
    exact ⟨inv, List.forall_mem_cons.mpr ⟨u.1, calls⟩⟩

/-- What every operation preserves, every program preserves. -/
lemma run_invariant {I : S → Prop} (step : ∀ o i s, I s → I (H o i s).2) (p : Prog Res α) (inv : I s) :
    I (run H p ins s).2 := by
  induction p generalizing s ins with
  | ret a => exact inv
  | call o k ih => exact ih _ (step o (ins 0) s inv)

end
end Prog
end IdpMvp.Program
