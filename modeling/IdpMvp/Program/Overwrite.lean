import IdpMvp.Program.History
import IdpMvp.Program.Pool
import Mathlib.Data.List.Induction

/-!
# Reading a record and writing it back

A program that reads a record, changes a part of it and writes the whole back also writes the parts it does not
change. `Settled` says of one part of the state that only the entries that mean to set it have changed it. A
write of what was read keeps it settled as long as no entry has set it since the reading, and then the value is
that of the last entry that has set it (`Settled.last`).
-/

namespace IdpMvp.Program

variable {Op : Type} {Res : Op → Type} {In S Φ A V α : Type}

/-- Where a thread is that reads a record and writes it back. -/
inductive Rewrite (V : Type) where
  | idle
  | read (v : V)
  | written

/-- The last element of a list with a property. -/
lemma last_split {β : Type} {P : β → Prop} {l : List β} (some : ∃ a ∈ l, P a) :
    ∃ before a after, l = before ++ a :: after ∧ P a ∧ ∀ b ∈ after, ¬ P b := by
  induction l using List.reverseRecOn with
  | nil =>
    obtain ⟨a, mem, -⟩ := some
    cases mem
  | append_singleton l a ih =>
    by_cases here : P a
    · exact ⟨l, a, [], rfl, here, by simp⟩
    · obtain ⟨b, mem, holds⟩ := some
      have earlier : b ∈ l := by
        rcases List.mem_append.mp mem with mem | mem
        · exact mem
        · exact absurd (List.mem_singleton.mp mem ▸ holds) here
      obtain ⟨before, d, after, rfl, holds, rest⟩ := ih ⟨b, earlier, holds⟩
      refine ⟨before, d, after ++ [a], by simp, holds, fun b mem => ?_⟩
      rcases List.mem_append.mp mem with mem | mem
      · exact rest b mem
      · exact List.mem_singleton.mp mem ▸ here

namespace Config

variable {H : Handler Res In S} {c : Config Res In S α} {x : Nat × In}

/-! ## Monitors of their own -/

/-- Every thread keeps to a monitor of its own. -/
def GuardedBy (H : Handler Res In S) (M : Nat → Monitor Res Φ) (Q : Nat → Φ → α → Prop)
    (c : Config Res In S α) : Prop :=
  ∀ t, (c.thread t).Guarded (M t) (phase H (M t) t c.trace) (Q t)

lemma GuardedBy.step {M : Nat → Monitor Res Φ} {Q : Nat → Φ → α → Prop} (g : GuardedBy H M Q c)
    (x : Nat × In) : GuardedBy H M Q (step H c x) := by
  intro t
  cases e : c.thread x.1 with
  | ret a =>
    rw [step_ret e]
    exact g t
  | call o k =>
    by_cases own : t = x.1
    · subst own
      have here := g x.1
      rw [e, Prog.guarded_call] at here
      rw [phase_step_self e, step_call e]
      simp only [Function.update_self]
      exact here.2 _
    · rw [phase_step_ne own, thread_step_ne own]
      exact g t

lemma GuardedBy.allowed {M : Nat → Monitor Res Φ} {Q : Nat → Φ → α → Prop} (g : GuardedBy H M Q c)
    {t : Nat} {o : Op} {k : Res o → Prog Res α} (e : c.thread t = .call o k) :
    (M t).ok (phase H (M t) t c.trace) o := by
  have here := g t
  rw [e] at here
  exact here.1

lemma GuardedBy.returned {M : Nat → Monitor Res Φ} {Q : Nat → Φ → α → Prop} (g : GuardedBy H M Q c)
    {t : Nat} {a : α} (e : c.thread t = .ret a) : Q t (phase H (M t) t c.trace) a := by
  have here := g t
  rw [e] at here
  exact here

/-- A phase that is not the first one was entered by a call of the thread. -/
lemma phase_entered {M : Monitor Res Φ} {P : Φ → Prop} {t : Nat} {trace : List (Entry Op In S)}
    (before : ¬ P M.init) (now : P (phase H M t trace)) :
    ∃ earlier e after, trace = earlier ++ e :: after ∧ e.tid = t ∧ ¬ P (phase H M t earlier) ∧
      P (M.next (phase H M t earlier) e.op (e.res H)) := by
  induction trace using List.reverseRecOn with
  | nil => exact absurd now before
  | append_singleton trace e ih =>
    by_cases already : P (phase H M t trace)
    · obtain ⟨earlier, d, after, rfl, entered⟩ := ih already
      exact ⟨earlier, d, after ++ [e], by simp, entered⟩
    · rw [phase_snoc] at now
      split_ifs at now with own
      · exact ⟨trace, e, [], rfl, own, already, now⟩
      · exact absurd now already

/-! ## Settled values -/

/-- The value is as any entry has left it, unless a later one has set it. -/
def Settled (H : Handler Res In S) (value : S → A) (sets : Entry Op In S → Prop)
    (c : Config Res In S α) : Prop :=
  ∀ before e after, c.trace = before ++ e :: after → (∀ d ∈ after, ¬ sets d) →
    value c.store = value (e.post H)

variable {value : S → A} {sets : Entry Op In S → Prop}

lemma settled_start (s : S) (thread : Nat → Prog Res α) : Settled H value sets (start s thread) := by
  intro before e after split
  cases before <;> cases split

/-- A call that keeps the value, or means to set it. -/
lemma Settled.step (settled : Settled H value sets c)
    (kept : ∀ o k, c.thread x.1 = .call o k → ¬ sets ⟨⟨o, x.2, c.store⟩, x.1⟩ →
      value (H o x.2 c.store).2 = value c.store) : Settled H value sets (step H c x) := by
  cases call : c.thread x.1 with
  | ret a =>
    rw [step_ret call]
    exact settled
  | call o k =>
    rw [step_call call]
    intro before e after split unset
    obtain ⟨rfl, rfl⟩ | ⟨rest, rfl, earlier⟩ := snoc_split split
    · rfl
    · have last := unset _ (List.mem_append_right _ (List.mem_singleton_self _))
      refine (kept o k call last).trans (settled before e rest earlier fun d mem => ?_)
      exact unset d (List.mem_append_left _ mem)

/-- Once an entry has set the value, it is as the last one that did has left it. -/
lemma Settled.last (settled : Settled H value sets c) {before after : List (Entry Op In S)}
    {e : Entry Op In S} (split : c.trace = before ++ e :: after) (own : sets e) :
    ∃ before' d after', c.trace = before' ++ d :: after' ∧ before ++ [e] <+: before' ++ [d] ∧ sets d ∧
      value c.store = value (d.post H) := by
  by_cases later : ∃ d ∈ after, sets d
  · -- The last of those that follow.
    obtain ⟨earlier, d, rest, rfl, sets', unset⟩ := last_split later
    refine ⟨before ++ e :: earlier, d, rest, by simpa using split, ⟨earlier ++ [d], by simp⟩, sets', ?_⟩
    exact settled (before ++ e :: earlier) d rest (by simpa using split) unset
  · have unset : ∀ d ∈ after, ¬ sets d := fun d mem setsIt => later ⟨d, mem, setsIt⟩
    exact ⟨before, e, after, split, List.prefix_rfl, own, settled before e after split unset⟩

end Config
end IdpMvp.Program
