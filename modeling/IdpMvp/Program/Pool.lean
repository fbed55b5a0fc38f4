import IdpMvp.Program.Basic

/-!
# Interleavings and monitors

A configuration holds a state, a pool of programs that share it and the trace of the calls made so
far. One step lets one thread make its next call; a schedule is a list of such choices, so the runs
over all schedules are all the interleavings.

A monitor follows one thread through a phase: it says which calls a phase allows and how a call's
result moves it. A program that is `Guarded` by a monitor keeps to it on every path
(`Prog.Guarded`), and then it does so in every interleaving (`Config.guarded_exec`), so an invariant
of the pool can be stated on the phases of its threads instead of on their remaining programs.
-/

namespace IdpMvp.Program

variable {Op : Type} {Res : Op → Type} {In S Φ α : Type}

/-- One call in a trace, and who made it. -/
structure Entry (Op In S : Type) extends Call Op In S where
  tid : Nat

/-- A shared state, the programs that run on it and what they have done. -/
structure Config {Op : Type} (Res : Op → Type) (In S α : Type) where
  store : S
  thread : Nat → Prog Res α
  trace : List (Entry Op In S)

namespace Config

/-- The initial configuration of a pool. -/
def start (s : S) (thread : Nat → Prog Res α) : Config Res In S α := ⟨s, thread, []⟩

/-- Thread `x.1` makes its next call, on the input `x.2`. A thread that has returned does nothing. -/
def step (H : Handler Res In S) (c : Config Res In S α) (x : Nat × In) : Config Res In S α :=
  match c.thread x.1 with
  | .ret _ => c
  | .call o k =>
    { store := (H o x.2 c.store).2
      thread := Function.update c.thread x.1 (k (H o x.2 c.store).1)
      trace := c.trace ++ [⟨⟨o, x.2, c.store⟩, x.1⟩] }

/-- The run of a schedule. -/
def exec (H : Handler Res In S) (c : Config Res In S α) (sched : List (Nat × In)) :
    Config Res In S α :=
  sched.foldl (step H) c

/-- The schedule `sched` from `c` makes every choice under `G`. -/
def Admissible (H : Handler Res In S) (G : Config Res In S α → Nat × In → Prop) :
    Config Res In S α → List (Nat × In) → Prop
  | _, [] => True
  | c, x :: sched => G c x ∧ Admissible H G (step H c x) sched

/-- The same for a test of a choice, to be evaluated. -/
def passes (H : Handler Res In S) (test : Config Res In S α → Nat × In → Bool) :
    Config Res In S α → List (Nat × In) → Bool
  | _, [] => true
  | c, x :: sched => test c x && passes H test (step H c x) sched

variable {H : Handler Res In S}

lemma admissible_of_passes {G : Config Res In S α → Nat × In → Prop}
    {test : Config Res In S α → Nat × In → Bool} (sound : ∀ c x, test c x = true → G c x)
    {c : Config Res In S α} {sched : List (Nat × In)} (h : passes H test c sched = true) :
    Admissible H G c sched := by
  induction sched generalizing c with
  | nil => trivial
  | cons x sched ih =>
    rw [passes, Bool.and_eq_true] at h
    exact ⟨sound c x h.1, ih h.2⟩

lemma step_ret {c : Config Res In S α} {x : Nat × In} {a : α} (e : c.thread x.1 = .ret a) :
    step H c x = c := by
  simp only [step, e]

lemma step_call {c : Config Res In S α} {x : Nat × In} {o : Op} {k : Res o → Prog Res α}
    (e : c.thread x.1 = .call o k) :
    step H c x =
      { store := (H o x.2 c.store).2
        thread := Function.update c.thread x.1 (k (H o x.2 c.store).1)
        trace := c.trace ++ [⟨⟨o, x.2, c.store⟩, x.1⟩] } := by
  simp only [step, e]

/-- What every admissible step preserves holds at the end of every admissible schedule. -/
theorem exec_invariant {G : Config Res In S α → Nat × In → Prop}
    {I : Config Res In S α → Prop} {c : Config Res In S α} {sched : List (Nat × In)}
    (adm : Admissible H G c sched) (init : I c)
    (preserved : ∀ c x, I c → G c x → I (step H c x)) : I (exec H c sched) := by
  induction sched generalizing c with
  | nil => exact init
  | cons x sched ih => exact ih adm.2 (preserved c x init adm.1)

lemma exec_append (c : Config Res In S α) (sched sched' : List (Nat × In)) :
    exec H c (sched ++ sched') = exec H (exec H c sched) sched' :=
  List.foldl_append

lemma Admissible.append {G : Config Res In S α → Nat × In → Prop} {c : Config Res In S α}
    {sched sched' : List (Nat × In)} (adm : Admissible H G c sched)
    (adm' : Admissible H G (exec H c sched) sched') : Admissible H G c (sched ++ sched') := by
  induction sched generalizing c with
  | nil => exact adm'
  | cons x sched ih => exact ⟨adm.1, ih adm.2 adm'⟩

lemma Admissible.append_left {G : Config Res In S α → Nat × In → Prop} {c : Config Res In S α}
    {sched sched' : List (Nat × In)} (adm : Admissible H G c (sched ++ sched')) :
    Admissible H G c sched := by
  induction sched generalizing c with
  | nil => trivial
  | cons x sched ih => exact ⟨adm.1, ih adm.2⟩

lemma Admissible.and_all {G : Config Res In S α → Nat × In → Prop} {W : Nat × In → Prop}
    {c : Config Res In S α} {sched : List (Nat × In)} (adm : Admissible H G c sched)
    (all : ∀ x ∈ sched, W x) : Admissible H (fun c x => G c x ∧ W x) c sched := by
  induction sched generalizing c with
  | nil => trivial
  | cons x sched ih =>
    rw [List.forall_mem_cons] at all
    exact ⟨⟨adm.1, all.1⟩, ih adm.2 all.2⟩

lemma Admissible.append_right {G : Config Res In S α → Nat × In → Prop} {c : Config Res In S α}
    {sched sched' : List (Nat × In)} (adm : Admissible H G c (sched ++ sched')) :
    Admissible H G (exec H c sched) sched' := by
  induction sched generalizing c with
  | nil => exact adm
  | cons x sched ih => exact ih adm.2

lemma admissible_true (c : Config Res In S α) (sched : List (Nat × In)) :
    Admissible H (fun _ _ => True) c sched := by
  induction sched generalizing c with
  | nil => trivial
  | cons x sched ih => exact ⟨trivial, ih _⟩

end Config

/-! ## Monitors -/

/-- A phase machine for one thread: the calls a phase allows, and where their results lead. -/
structure Monitor {Op : Type} (Res : Op → Type) (Φ : Type) where
  init : Φ
  ok : Φ → Op → Prop
  next : Φ → (o : Op) → Res o → Φ

/-- From phase `φ`, `p` only makes calls its phase allows, and `Q` holds of the phase it returns in
and the value it returns. -/
def Prog.Guarded (M : Monitor Res Φ) : Prog Res α → Φ → (Φ → α → Prop) → Prop
  | .ret a, φ, Q => Q φ a
  | .call o k, φ, Q => M.ok φ o ∧ ∀ r, Guarded M (k r) (M.next φ o r) Q

namespace Prog

variable {M : Monitor Res Φ} {β : Type}

@[simp] lemma guarded_ret (a : α) (φ : Φ) (Q : Φ → α → Prop) :
    Guarded M (ret a : Prog Res α) φ Q ↔ Q φ a := Iff.rfl

@[simp] lemma guarded_call (o : Op) (k : Res o → Prog Res α) (φ : Φ) (Q : Φ → α → Prop) :
    Guarded M (call o k) φ Q ↔ M.ok φ o ∧ ∀ r, Guarded M (k r) (M.next φ o r) Q := Iff.rfl

@[simp] lemma guarded_bind (p : Prog Res α) (f : α → Prog Res β) (φ : Φ) (Q : Φ → β → Prop) :
    Guarded M (p >>= f) φ Q ↔ Guarded M p φ (fun ψ a => Guarded M (f a) ψ Q) := by
  induction p generalizing φ with
  | ret a => rfl
  | call o k ih =>
    simp only [call_bind, guarded_call]
    exact and_congr Iff.rfl (forall_congr' fun r => ih r _)

end Prog

/-! A program is guarded if all its executions are, on a handler that answers anything and follows the
phase. So the rules for `always`, and for flows, prove it. -/

section
open Classical

/-- The handler that answers a call by its input and moves the phase; a call that is not allowed
leaves none. -/
noncomputable def Monitor.oracle (M : Monitor Res Φ) : Handler Res ((o : Op) → Res o) (Option Φ) :=
  fun o answer φ => (answer o, φ.bind fun φ =>
    if M.ok φ o then some (M.next φ o (answer o)) else none)

/-- A postcondition on phases, for the oracle. -/
def Monitor.At (Q : Φ → α → Prop) (a : α) (φ : Option Φ) : Prop := ∃ ψ, φ = some ψ ∧ Q ψ a

variable {M : Monitor Res Φ}

lemma Monitor.oracle_some {φ : Φ} {o : Op} (ok : M.ok φ o) (answer : (o : Op) → Res o) :
    M.oracle o answer (some φ) = (answer o, some (M.next φ o (answer o))) := by
  simp [Monitor.oracle, ok]

/-- A violation is not forgotten. -/
lemma Monitor.not_always_none [Nonempty ((o : Op) → Res o)] {p : Prog Res α} {Q : Φ → α → Prop} :
    ¬ p.always M.oracle none (Monitor.At Q) := by
  obtain ⟨answer⟩ := ‹Nonempty ((o : Op) → Res o)›
  induction p with
  | ret a =>
    rintro ⟨ψ, e, -⟩
    cases e
  | call o k ih => exact fun w => ih _ (w answer)

theorem Prog.guarded_of_always [Nonempty ((o : Op) → Res o)] {p : Prog Res α} {φ : Φ}
    {Q : Φ → α → Prop} (w : p.always M.oracle (some φ) (Monitor.At Q)) : p.Guarded M φ Q := by
  induction p generalizing φ with
  | ret a =>
    obtain ⟨ψ, e, q⟩ := w
    obtain rfl := Option.some.inj e
    exact q
  | call o k ih =>
    obtain ⟨answer⟩ := ‹Nonempty ((o : Op) → Res o)›
    have allowed : M.ok φ o := by
      by_contra bad
      have w' := w answer
      simp only [Monitor.oracle, Option.bind_some, if_neg bad] at w'
      exact Monitor.not_always_none w'
    refine ⟨allowed, fun r => ih r ?_⟩
    have w' := w (Function.update answer o r)
    rwa [Monitor.oracle_some allowed, Function.update_self] at w'

end

namespace Config

/-- The phase thread `t` has reached in a trace. -/
def phase (H : Handler Res In S) (M : Monitor Res Φ) (t : Nat) (trace : List (Entry Op In S)) : Φ :=
  trace.foldl (fun φ e => if e.tid = t then M.next φ e.op (e.res H) else φ) M.init

variable {H : Handler Res In S} {M : Monitor Res Φ}

@[simp] lemma phase_nil (t : Nat) : phase H M t [] = M.init := rfl

lemma phase_snoc (t : Nat) (trace : List (Entry Op In S)) (e : Entry Op In S) :
    phase H M t (trace ++ [e]) =
      if e.tid = t then M.next (phase H M t trace) e.op (e.res H) else phase H M t trace := by
  simp only [phase, List.foldl_append, List.foldl_cons, List.foldl_nil]

lemma phase_step_self {c : Config Res In S α} {x : Nat × In} {o : Op} {k : Res o → Prog Res α}
    (e : c.thread x.1 = .call o k) :
    phase H M x.1 (step H c x).trace = M.next (phase H M x.1 c.trace) o (H o x.2 c.store).1 := by
  rw [step_call e, phase_snoc, if_pos rfl]
  rfl

lemma phase_step_ne {c : Config Res In S α} {x : Nat × In} {t : Nat} (ne : t ≠ x.1) :
    phase H M t (step H c x).trace = phase H M t c.trace := by
  cases e : c.thread x.1 with
  | ret a => rw [step_ret e]
  | call o k => rw [step_call e, phase_snoc, if_neg (Ne.symm ne)]

/-- The turn of another thread leaves the phase. -/
lemma phase_exec_ne {c : Config Res In S α} {t u : Nat} (ne : t ≠ u) (ins : List In) :
    phase H M t (exec H c (ins.map (u, ·))).trace = phase H M t c.trace := by
  induction ins generalizing c with
  | nil => rfl
  | cons i ins ih => exact ih.trans (phase_step_ne ne)

lemma thread_step_ne {c : Config Res In S α} {x : Nat × In} {t : Nat} (ne : t ≠ x.1) :
    (step H c x).thread t = c.thread t := by
  cases e : c.thread x.1 with
  | ret a => rw [step_ret e]
  | call o k =>
    rw [step_call e]
    exact Function.update_of_ne ne _ _

/-- A thread that has made no call is where it was. -/
lemma thread_of_uncalled {c : Config Res In S α} {sched : List (Nat × In)} {t : Nat}
    (uncalled : ∀ e ∈ (exec H c sched).trace, e.tid ≠ t) : (exec H c sched).thread t = c.thread t := by
  have inv := exec_invariant (I := fun c' => (∀ e ∈ c'.trace, e.tid ≠ t) → c'.thread t = c.thread t)
    (admissible_true (H := H) c sched) (fun _ => rfl) ?_
  · exact inv uncalled
  · intro c' x ih _ uncalled
    cases e : c'.thread x.1 with
    | ret a =>
      rw [step_ret e] at uncalled ⊢
      exact ih uncalled
    | call o k =>
      rw [step_call e] at uncalled
      have ne : t ≠ x.1 :=
        (uncalled _ (List.mem_append_right _ (List.mem_singleton_self _))).symm
      rw [thread_step_ne ne]
      exact ih fun e mem => uncalled e (List.mem_append_left _ mem)

/-- A thread that has returned makes no call. -/
lemma uncalled_of_ret {c : Config Res In S α} {t : Nat} {a : α} (returned : c.thread t = .ret a)
    (uncalled : ∀ e ∈ c.trace, e.tid ≠ t) (sched : List (Nat × In)) :
    (exec H c sched).thread t = .ret a ∧ ∀ e ∈ (exec H c sched).trace, e.tid ≠ t := by
  refine exec_invariant (I := fun c => c.thread t = .ret a ∧ ∀ e ∈ c.trace, e.tid ≠ t)
    (admissible_true (H := H) c sched) ⟨returned, uncalled⟩ ?_
  rintro c x ⟨returned, uncalled⟩ -
  cases e : c.thread x.1 with
  | ret b =>
    rw [step_ret e]
    exact ⟨returned, uncalled⟩
  | call o k =>
    have ne : t ≠ x.1 := by
      rintro rfl
      rw [e] at returned
      cases returned
    refine ⟨(thread_step_ne ne).trans returned, ?_⟩
    rw [step_call e]
    intro d mem
    rcases List.mem_append.mp mem with mem | mem
    · exact uncalled d mem
    · obtain rfl := List.mem_singleton.mp mem
      exact Ne.symm ne

/-- Every thread keeps to the monitor from the phase it is in. -/
def Guarded (H : Handler Res In S) (M : Monitor Res Φ) (Q : Nat → Φ → α → Prop)
    (c : Config Res In S α) : Prop :=
  ∀ t, (c.thread t).Guarded M (phase H M t c.trace) (Q t)

lemma Guarded.step {Q : Nat → Φ → α → Prop} {c : Config Res In S α}
    (g : Guarded H M Q c) (x : Nat × In) : Guarded H M Q (step H c x) := by
  cases e : c.thread x.1 with
  | ret a =>
    rw [step_ret e]
    exact g
  | call o k =>
    rw [step_call e]
    intro t
    have gt := g t
    by_cases et : x.1 = t
    · subst et
      rw [e, Prog.guarded_call] at gt
      simp only [Function.update_self, phase_snoc, if_true]
      exact gt.2 _
    · simp only [Function.update_of_ne (Ne.symm et), phase_snoc, if_neg et]
      exact gt

lemma Guarded.exec {Q : Nat → Φ → α → Prop} {c : Config Res In S α} (g : Guarded H M Q c)
    (sched : List (Nat × In)) : Guarded H M Q (exec H c sched) :=
  exec_invariant (admissible_true c sched) g fun _ x gc _ => gc.step x

/-- A pool whose threads start guarded stays guarded, whatever the schedule. -/
theorem guarded_exec {Q : Nat → Φ → α → Prop} {s : S} {thread : Nat → Prog Res α}
    (g : ∀ t, (thread t).Guarded M M.init (Q t)) (sched : List (Nat × In)) :
    Guarded H M Q (exec H (start s thread) sched) :=
  Guarded.exec (fun t => g t) sched

/-- In an interleaving, a thread that has returned did so in a phase its monitor admits. -/
lemma Guarded.returned {Q : Nat → Φ → α → Prop} {c : Config Res In S α} {t : Nat} {a : α}
    (g : Guarded H M Q c) (e : c.thread t = .ret a) : Q t (phase H M t c.trace) a := by
  have gt := g t
  rw [e] at gt
  exact gt

/-- The call a thread is about to make is one its phase allows. -/
lemma Guarded.allowed {Q : Nat → Φ → α → Prop} {c : Config Res In S α} {t : Nat} {o : Op}
    {k : Res o → Prog Res α} (g : Guarded H M Q c) (e : c.thread t = .call o k) :
    M.ok (phase H M t c.trace) o := by
  have gt := g t
  rw [e] at gt
  exact gt.1

end Config
end IdpMvp.Program
