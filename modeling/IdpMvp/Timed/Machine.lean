import Mathlib.Tactic.Common
import Mathlib.Order.Basic
import Mathlib.Logic.Function.Basic
import Mathlib.Data.List.Basic

/-!
# Machines that answer a sequence of inputs

A machine answers every input and moves to a next state. Its log on a sequence of inputs lists what
was asked with what was answered. Two machines have the same log on every sequence in the order of
time once a relation, indexed by the time up to which it is claimed, survives each step and the mere
passing of time.

A keyed machine has one state for each key, and an input only moves the state of its own key; what it
answers for one key is then what it answers when nothing else is asked.
-/

namespace IdpMvp.Timed

/-- Answers an input and moves on. -/
abbrev Machine (S I O : Type*) := S → I → O × S

namespace Machine

variable {S S' I O T : Type*}

/-- The state after a sequence of inputs. -/
def after (m : Machine S I O) (s : S) (inputs : List I) : S :=
  inputs.foldl (fun s i => (m s i).2) s

/-- The inputs of a sequence with their answers. -/
def log (m : Machine S I O) (s : S) : List I → List (I × O)
  | [] => []
  | i :: rest => (i, (m s i).1) :: log m (m s i).2 rest

@[simp] lemma after_nil (m : Machine S I O) (s : S) : m.after s [] = s := rfl

@[simp] lemma after_cons (m : Machine S I O) (s : S) (i : I) (rest : List I) :
    m.after s (i :: rest) = m.after (m s i).2 rest := rfl

@[simp] lemma log_nil (m : Machine S I O) (s : S) : m.log s [] = [] := rfl

@[simp] lemma log_cons (m : Machine S I O) (s : S) (i : I) (rest : List I) :
    m.log s (i :: rest) = (i, (m s i).1) :: m.log (m s i).2 rest := rfl

lemma after_append (m : Machine S I O) (s : S) (before later : List I) :
    m.after s (before ++ later) = m.after (m.after s before) later := by
  simp [after]

lemma log_append (m : Machine S I O) (s : S) (before later : List I) :
    m.log s (before ++ later) = m.log s before ++ m.log (m.after s before) later := by
  induction before generalizing s with
  | nil => rfl
  | cons i rest ih => simp [ih]

lemma log_length (m : Machine S I O) (s : S) (inputs : List I) :
    (m.log s inputs).length = inputs.length := by
  induction inputs generalizing s with
  | nil => rfl
  | cons i rest ih => simp [ih]

lemma log_fst (m : Machine S I O) (s : S) (inputs : List I) :
    (m.log s inputs).map Prod.fst = inputs := by
  induction inputs generalizing s with
  | nil => rfl
  | cons i rest ih => simp [ih]

/-- An entry of the log was answered in the state that the inputs before it lead to. -/
lemma log_split (m : Machine S I O) (s : S) (before later : List I) (i : I) :
    m.log s (before ++ i :: later) = m.log s before ++
      (i, (m (m.after s before) i).1) :: m.log (m (m.after s before) i).2 later := by
  rw [log_append, log_cons]

/-- Where two machines have the same log, each answer is the same. -/
lemma answer_of_log {m : Machine S I O} {m' : Machine S' I O} {s : S} {s' : S'} {before : List I}
    {i : I} (logs : m.log s (before ++ [i]) = m'.log s' (before ++ [i])) :
    (m (m.after s before) i).1 = (m' (m'.after s' before) i).1 := by
  rw [log_split, log_split] at logs
  have heads : (m.log s before).length = (m'.log s' before).length := by
    rw [log_length, log_length]
  have last := (List.append_inj logs heads).2
  simp only [log_nil, List.cons.injEq, Prod.mk.injEq, true_and, and_true] at last
  exact last

/-- An input that moves nothing can be left out: the other answers stay. -/
lemma log_eraseIdx (m : Machine S I O) (s : S) (before later : List I) (i : I)
    (idle : (m (m.after s before) i).2 = m.after s before) :
    m.log s (before ++ later) = (m.log s (before ++ i :: later)).eraseIdx before.length := by
  rw [log_split, log_append, idle, ← log_length m s before, List.eraseIdx_append_of_length_le (Nat.le_refl _)]
  simp

section Simulation

variable [Preorder T] (time : I → T) {m : Machine S I O} {m' : Machine S' I O}
  {R : T → S → S' → Prop}

/-- Machines related at every moment answer alike and stay related, input by input. -/
theorem simulation
    (later : ∀ t t' s s', t ≤ t' → R t s s' → R t' s s')
    (step : ∀ i s s', R (time i) s s' → (m s i).1 = (m' s' i).1 ∧ R (time i) (m s i).2 (m' s' i).2)
    {inputs : List I} (ordered : inputs.Pairwise (time · ≤ time ·)) {s : S} {s' : S'}
    (start : ∀ t, R t s s') :
    m.log s inputs = m'.log s' inputs ∧
      ∀ t, (∀ i ∈ inputs, time i ≤ t) → R t (m.after s inputs) (m'.after s' inputs) := by
  -- the induction runs from states related from the first input on
  suffices from_first : ∀ (s : S) (s' : S'), (∀ i ∈ inputs, R (time i) s s') →
      m.log s inputs = m'.log s' inputs ∧ ∀ t, R t s s' → (∀ i ∈ inputs, time i ≤ t) →
        R t (m.after s inputs) (m'.after s' inputs) by
    obtain ⟨logs, states⟩ := from_first s s' fun i _ => start (time i)
    exact ⟨logs, fun t bound => states t (start t) bound⟩
  clear start s s'
  induction inputs with
  | nil =>
    intro s s' _
    exact ⟨rfl, fun t related _ => related⟩
  | cons i rest ih =>
    intro s s' related
    obtain ⟨first, ordered⟩ := List.pairwise_cons.mp ordered
    obtain ⟨answer, moved⟩ := step i s s' (related i List.mem_cons_self)
    obtain ⟨logs, states⟩ := ih ordered (m s i).2 (m' s' i).2 fun j mem =>
      later _ _ _ _ (first j mem) moved
    constructor
    · rw [log_cons, log_cons, answer, logs]
    · intro t _ bound
      have reached : R t (m s i).2 (m' s' i).2 := later _ _ _ _ (bound i List.mem_cons_self) moved
      exact states t reached fun j mem => bound j (List.mem_cons_of_mem i mem)

/-- An invariant indexed by time that every step and the passing of time keep. -/
theorem invariant {P : T → S → Prop} (later : ∀ t t' s, t ≤ t' → P t s → P t' s)
    (step : ∀ i s, P (time i) s → P (time i) (m s i).2)
    {inputs : List I} (ordered : inputs.Pairwise (time · ≤ time ·)) {s : S} (start : ∀ t, P t s)
    {t : T} (bound : ∀ i ∈ inputs, time i ≤ t) :
    P t (m.after s inputs) := by
  -- the machine beside itself, with the invariant as the relation
  have kept : m.log s inputs = m.log s inputs ∧ ∀ t, (∀ i ∈ inputs, time i ≤ t) →
      m.after s inputs = m.after s inputs ∧ P t (m.after s inputs) :=
    simulation time (R := fun t s s' => s = s' ∧ P t s)
      (fun t t' s s' le r => ⟨r.1, later t t' s le r.2⟩)
      (fun i s s' r => ⟨by rw [r.1], by rw [r.1], step i s r.2⟩) ordered fun t => ⟨rfl, start t⟩
  exact (kept.2 t bound).2

end Simulation

section Keyed

variable {K X : Type*} [DecidableEq K] (key : I → K) (one : Machine X I O)

/-- The machine with one state for each key, whose inputs move the state of their own key. -/
def keyed : Machine (K → X) I O :=
  fun s i => ((one (s (key i)) i).1, Function.update s (key i) (one (s (key i)) i).2)

variable {key one}

lemma keyed_own (s : K → X) (i : I) : (keyed key one s i).2 (key i) = (one (s (key i)) i).2 :=
  Function.update_self ..

lemma keyed_other (s : K → X) {i : I} {k : K} (other : key i ≠ k) :
    (keyed key one s i).2 k = s k :=
  Function.update_of_ne other.symm ..

/-- The answers for one key are those of its own inputs alone. -/
lemma keyed_log (s : K → X) (k : K) (inputs : List I) :
    ((keyed key one).log s inputs).filter (fun e => key e.1 = k) =
      one.log (s k) (inputs.filter (key · = k)) := by
  induction inputs generalizing s with
  | nil => rfl
  | cons i rest ih =>
    rw [log_cons]
    by_cases own : key i = k
    · subst own
      rw [List.filter_cons_of_pos (by simp), List.filter_cons_of_pos (by simp), log_cons, ih,
        keyed_own]
      rfl
    · rw [List.filter_cons_of_neg (by simpa using own), List.filter_cons_of_neg (by simpa using own),
        ih, keyed_other s own]

/-- The answers for one key do not depend on the inputs for other keys. -/
theorem keyed_log_filter (s : K → X) (k : K) (inputs : List I) :
    ((keyed key one).log s inputs).filter (fun e => key e.1 = k) =
      (keyed key one).log s (inputs.filter (key · = k)) := by
  have own : ∀ i ∈ inputs.filter (key · = k), key i = k := fun i mem => by
    simpa using (List.mem_filter.mp mem).2
  have all : ((keyed key one).log s (inputs.filter (key · = k))).filter (fun e => key e.1 = k) =
      (keyed key one).log s (inputs.filter (key · = k)) := by
    rw [List.filter_eq_self]
    intro e mem
    have asked : e.1 ∈ ((keyed key one).log s (inputs.filter (key · = k))).map Prod.fst :=
      List.mem_map_of_mem mem
    rw [log_fst] at asked
    simpa using own e.1 asked
  rw [← all, keyed_log, keyed_log, List.filter_filter]
  simp

/-- An input that leaves its key's state as it is moves nothing. -/
lemma keyed_idle (s : K → X) (i : I) (idle : (one (s (key i)) i).2 = s (key i)) :
    (keyed key one s i).2 = s := by
  rw [keyed, idle, Function.update_eq_self]

end Keyed

end Machine

end IdpMvp.Timed
