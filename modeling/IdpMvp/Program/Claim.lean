import IdpMvp.Program.Flow
import IdpMvp.Program.Pool

/-!
# Competing for one thing

Programs that compete for one thing: a call either changes nothing or takes the thing, and after it is
taken only the one that took it goes on. In every interleaving at most one does (`Config.race`), and it
runs as if it were alone.
-/

namespace IdpMvp.Program

variable {Op : Type} {Res : Op → Type} {In S α : Type}

/-! ## Unfinished executions -/

/-- From `s` the program `p` makes the calls of a trace and is then `p'`, in `s'`. -/
inductive Steps (H : Handler Res In S) (p : Prog Res α) (s : S) :
    List (Call Op In S) → Prog Res α → S → Prop where
  | refl : Steps H p s [] p s
  | call {tr : List (Call Op In S)} {o : Op} {k : Res o → Prog Res α} {s' : S}
    (steps : Steps H p s tr (.call o k) s') (i : In) :
    Steps H p s (tr ++ [⟨o, i, s'⟩]) (k (H o i s').1) (H o i s').2

variable {H : Handler Res In S} {p p' : Prog Res α} {s s' : S} {tr : List (Call Op In S)}

/-- However an unfinished execution goes on, the whole is one execution, on the inputs of its trace and
those that follow. -/
lemma Steps.run (steps : Steps H p s tr p' s') (rest : Nat → In) :
    ∃ ins, p.run H ins s = p'.run H rest s' ∧ p.trace H ins s = tr ++ p'.trace H rest s' ∧
      ∀ G : In → Prop, (∀ e ∈ tr, G e.input) → (∀ n, G (rest n)) → ∀ n, G (ins n) := by
  induction steps generalizing rest with
  | refl => exact ⟨rest, rfl, rfl, fun _ _ good => good⟩
  | call _ i ih =>
    obtain ⟨ins, run, trace, inputs⟩ := ih (fun n => if n = 0 then i else rest (n - 1))
    refine ⟨ins, run, ?_, fun G good goodRest => ?_⟩
    · rw [trace, List.append_assoc]
      rfl
    · have first : G i := good _ (List.mem_append_right _ (List.mem_singleton_self _))
      refine inputs G (fun e mem => good e (List.mem_append_left _ mem)) fun n => ?_
      split
      · exact first
      · exact goodRest _

/-- A finished one is an execution. -/
lemma Steps.finished {a : α} (steps : Steps H p s tr (.ret a) s') (i : In) :
    ∃ ins, p.run H ins s = (a, s') ∧ p.trace H ins s = tr ∧
      ∀ G : In → Prop, (∀ e ∈ tr, G e.input) → G i → ∀ n, G (ins n) := by
  obtain ⟨ins, run, trace, inputs⟩ := steps.run fun _ => i
  exact ⟨ins, run, trace.trans (List.append_nil tr), fun G good goodRest => inputs G good fun _ => goodRest⟩

/-! ## Claims -/

/-- In states within `K`, every call changes nothing or makes `P` true; without that the program returns
within `Q`. -/
def Prog.Claims (H : Handler Res In S) (K P : S → Prop) (Q : α → Prop) : Prog Res α → Prop
  | .ret a => Q a
  | .call o k => ∀ i s, K s →
    ((H o i s).2 = s ∧ Claims H K P Q (k (H o i s).1)) ∨ (¬ P s ∧ P (H o i s).2)

/-- The rule of composition. -/
lemma Prog.Claims.bind {β : Type} {K P : S → Prop} {R : β → Prop} {Q : α → Prop} {p : Prog Res β}
    {f : β → Prog Res α} (claims : p.Claims H K P R) (next : ∀ b, R b → (f b).Claims H K P Q) :
    (p >>= f).Claims H K P Q := by
  induction p with
  | ret b => exact next b claims
  | call o k ih =>
    intro i s keys
    rcases claims i s keys with ⟨same, rest⟩ | taken
    · exact .inl ⟨same, ih _ rest⟩
    · exact .inr taken

lemma Prog.Claims.mono {K P : S → Prop} {Q Q' : α → Prop} {p : Prog Res α} (claims : p.Claims H K P Q)
    (le : ∀ a, Q a → Q' a) : p.Claims H K P Q' := by
  induction p with
  | ret a => exact le a claims
  | call o k ih =>
    intro i s keys
    rcases claims i s keys with ⟨same, rest⟩ | taken
    · exact .inl ⟨same, ih _ rest⟩
    · exact .inr taken

/-- A call that never changes anything. -/
lemma Prog.claims_op {K P : S → Prop} {o : Op} (reads : ∀ i s, (H o i s).2 = s) :
    (Prog.op o : Prog Res (Res o)).Claims H K P (fun _ => True) :=
  fun i s _ => .inl ⟨reads i s, trivial⟩

namespace Flow

variable {ε β : Type} {K P : S → Prop} {Q : α → Prop} {E : ε → Prop}

/-- What a flow returns or leaves with. -/
def Within (Q : α → Prop) (E : ε → Prop) : Except ε α → Prop
  | .ok a => Q a
  | .error e => E e

lemma claims_bind {p : Flow Res ε β} {f : β → Flow Res ε α} {R : β → Prop}
    (claims : p.run.Claims H K P (Within R E)) (next : ∀ b, R b → (f b).run.Claims H K P (Within Q E)) :
    (p >>= f).run.Claims H K P (Within Q E) := by
  refine Prog.Claims.bind claims ?_
  rintro (e | b) within
  · exact within
  · exact next b within

lemma claims_outcome {p : Flow Res ε ε} (claims : p.run.Claims H K P (Within E E)) :
    (outcome p).Claims H K P E := by
  refine Prog.Claims.bind claims ?_
  rintro (e | a) within <;> exact within

lemma claims_lift {p : Prog Res α} (claims : p.Claims H K P Q) :
    (liftM p : Flow Res ε α).run.Claims H K P (Within Q E) :=
  Prog.Claims.bind claims fun _ within => within

lemma claims_orLeave {δ : Type} {p : Prog Res (Except δ α)} {f : δ → ε}
    (claims : p.Claims H K P (Within Q fun d => E (f d))) :
    (orLeave p f).run.Claims H K P (Within Q E) := by
  refine Prog.Claims.bind claims ?_
  rintro (d | a) within <;> exact within

/-- What the calls of the first part satisfy is added to what the others do. -/
lemma wpE_calls_step {G : Call Op In S → Prop} {ins : Nat → In} {p : Flow Res ε β}
    {k : β → Flow Res ε α} (first : p.run.wp H ins s fun _ _ tr => ∀ e ∈ tr, G e)
    (next : ∀ b s' m, wpE H (k b) (fun n => ins (n + m)) s' (fun a _ tr => Q a → ∀ e ∈ tr, G e)
      (fun d _ tr => E d → ∀ e ∈ tr, G e)) :
    wpE H (p >>= k) ins s (fun a _ tr => Q a → ∀ e ∈ tr, G e) (fun d _ tr => E d → ∀ e ∈ tr, G e) := by
  rw [wpE_bind]
  refine Prog.wp_mono first ?_
  rintro (d | b) s' tr calls
  · exact fun _ => calls
  · refine wpE_mono (next b s' tr.length) (fun _ _ _ rest within => ?_) fun _ _ _ rest within => ?_
    · exact List.forall_mem_append.mpr ⟨calls, rest within⟩
    · exact List.forall_mem_append.mpr ⟨calls, rest within⟩

end Flow

namespace Config

/-- The calls of one thread. -/
def callsOf (t : Nat) (trace : List (Entry Op In S)) : List (Call Op In S) :=
  (trace.filter (·.tid = t)).map (·.toCall)

lemma callsOf_snoc (t : Nat) (trace : List (Entry Op In S)) (e : Entry Op In S) :
    callsOf t (trace ++ [e]) = callsOf t trace ++ if e.tid = t then [e.toCall] else [] := by
  unfold callsOf
  by_cases own : e.tid = t <;> simp [List.filter_append, own]

variable {K P : S → Prop} {Q : Nat → α → Prop} {thread : Nat → Prog Res α}

/-- How a race stands: nobody has taken the thing and the state is as it was, or one thread has, and has
run alone from the start. -/
inductive Race (H : Handler Res In S) (K P : S → Prop) (Q : Nat → α → Prop) (thread : Nat → Prog Res α)
    (s : S) (c : Config Res In S α) : Prop where
  | running (store : c.store = s) (claims : ∀ t, (c.thread t).Claims H K P (Q t))
    (alone : ∀ t, Steps H (thread t) s (callsOf t c.trace) (c.thread t) s)
    (idle : ∀ e ∈ c.trace, e.post H = e.pre)
  | taken (w : Nat) (free : ¬ P s) (taken : P c.store)
    (alone : Steps H (thread w) s (callsOf w c.trace) (c.thread w) c.store)
    (others : ∀ t, t ≠ w → (c.thread t).Claims H K P (Q t))
    (idle : ∀ e ∈ c.trace, e.tid ≠ w → e.post H = e.pre)

section
variable {c : Config Res In S α} {x : Nat × In} {o : Op} {k : Res o → Prog Res α}

lemma thread_step_self (e : c.thread x.1 = .call o k) :
    (step H c x).thread x.1 = k (H o x.2 c.store).1 := by
  rw [step_call e]
  exact Function.update_self _ _ _

lemma callsOf_step_self (e : c.thread x.1 = .call o k) :
    callsOf x.1 (step H c x).trace = callsOf x.1 c.trace ++ [⟨o, x.2, c.store⟩] := by
  rw [step_call e, callsOf_snoc, if_pos rfl]

lemma callsOf_step_ne {t : Nat} (ne : t ≠ x.1) :
    callsOf t (step H c x).trace = callsOf t c.trace := by
  cases e : c.thread x.1 with
  | ret a => rw [step_ret e]
  | call o k => rw [step_call e, callsOf_snoc, if_neg (Ne.symm ne), List.append_nil]

/-- A thread goes on alone as long as the others change nothing. -/
lemma steps_step_self {t : Nat} {s : S} (own : x.1 = t) (e : c.thread x.1 = .call o k)
    (alone : Steps H (thread t) s (callsOf t c.trace) (c.thread t) c.store) :
    Steps H (thread t) s (callsOf t (step H c x).trace) ((step H c x).thread t) (step H c x).store := by
  subst own
  rw [e] at alone
  rw [callsOf_step_self e, thread_step_self e, step_call e]
  exact alone.call x.2

lemma steps_step_ne {t : Nat} {s : S} (other : t ≠ x.1) (same : (step H c x).store = c.store)
    (alone : Steps H (thread t) s (callsOf t c.trace) (c.thread t) c.store) :
    Steps H (thread t) s (callsOf t (step H c x).trace) ((step H c x).thread t) (step H c x).store := by
  rwa [callsOf_step_ne other, thread_step_ne other, same]

lemma idle_step {W : Nat → Prop} (e : c.thread x.1 = .call o k)
    (idle : ∀ d ∈ c.trace, W d.tid → d.post H = d.pre) (now : W x.1 → (H o x.2 c.store).2 = c.store) :
    ∀ d ∈ (step H c x).trace, W d.tid → d.post H = d.pre := by
  rw [step_call e]
  intro d mem
  rcases List.mem_append.mp mem with mem | mem
  · exact idle d mem
  · obtain rfl := List.mem_singleton.mp mem
    exact now

end

lemma Race.step {ok : Op → Prop} {c : Config Res In S α} (race : Race H K P Q thread s c)
    (keys : K c.store) (stays : ∀ o, ok o → ∀ i s, K s → P s → P (H o i s).2)
    (uses : ∀ t, (c.thread t).Uses ok) (x : Nat × In) : Race H K P Q thread s (step H c x) := by
  cases e : c.thread x.1 with
  | ret a =>
    rw [step_ret e]
    exact race
  | call o k =>
    have store' : (Config.step H c x).store = (H o x.2 c.store).2 := by rw [step_call e]
    -- Whoever still claims does so after a call that changes nothing.
    have claiming : ∀ t, (c.thread t).Claims H K P (Q t) →
        (x.1 = t → (k (H o x.2 c.store).1).Claims H K P (Q t)) →
        ((Config.step H c x).thread t).Claims H K P (Q t) := by
      intro t claims next
      by_cases own : x.1 = t
      · subst own
        rw [thread_step_self e]
        exact next rfl
      · rwa [thread_step_ne (Ne.symm own)]
    cases race with
    | running store claims alone idle =>
      have own := claims x.1
      rw [e] at own
      rcases own x.2 c.store keys with ⟨same, next⟩ | ⟨free, taken⟩
      · have unchanged : (Config.step H c x).store = c.store := store'.trans same
        refine .running (unchanged.trans store) (fun t => ?_) (fun t => ?_) fun d mem => ?_
        · exact claiming t (claims t) fun own => own ▸ next
        · have before := alone t
          rw [← store] at before
          by_cases own : x.1 = t
          · have after := steps_step_self own e before
            rwa [unchanged, store] at after
          · have after := steps_step_ne (Ne.symm own) unchanged before
            rwa [unchanged, store] at after
        · exact idle_step (W := fun _ => True) e (fun d mem _ => idle d mem) (fun _ => same) d mem trivial
      · refine .taken x.1 (store ▸ free) (store' ▸ taken) ?_ (fun t other => ?_) ?_
        · have before := alone x.1
          rw [← store] at before ⊢
          exact steps_step_self rfl e before
        · exact claiming t (claims t) fun own => absurd own (Ne.symm other)
        · exact idle_step (W := (· ≠ x.1)) e (fun d mem _ => idle d mem) fun other => absurd rfl other
    | taken w free taken alone others idle =>
      by_cases mine : x.1 = w
      · have used := uses x.1
        rw [e] at used
        refine .taken w free ?_ (steps_step_self mine e alone) (fun t other => ?_) ?_
        · rw [store']
          exact stays o used.1 x.2 c.store keys taken
        · exact claiming t (others t other) fun own => absurd (own.symm.trans mine) other
        · exact idle_step (W := (· ≠ w)) e idle fun other => absurd mine other
      · have own := others x.1 mine
        rw [e] at own
        rcases own x.2 c.store keys with ⟨same, next⟩ | ⟨free', -⟩
        · have unchanged : (Config.step H c x).store = c.store := store'.trans same
          refine .taken w free (unchanged.symm ▸ taken) (steps_step_ne (Ne.symm mine) unchanged alone)
            (fun t other => ?_) ?_
          · exact claiming t (others t other) fun own => own ▸ next
          · exact idle_step (W := (· ≠ w)) e idle fun _ => same
        · exact absurd taken free'

lemma uses_step {ok : Op → Prop} {c : Config Res In S α} (uses : ∀ t, (c.thread t).Uses ok)
    (x : Nat × In) (t : Nat) : ((step H c x).thread t).Uses ok := by
  by_cases own : t = x.1
  · subst own
    have used := uses x.1
    cases e : c.thread x.1 with
    | ret a => rwa [step_ret e]
    | call o k =>
      rw [e] at used
      rw [thread_step_self e]
      exact used.2 _
  · rw [thread_step_ne own]
    exact uses t

/-- In every interleaving of programs that compete for a thing, as long as nobody takes it the state stays
as it was; and one thread at most takes it. -/
theorem race {ok : Op → Prop} (keeps : ∀ o i s, K s → K (H o i s).2)
    (stays : ∀ o, ok o → ∀ i s, K s → P s → P (H o i s).2) (uses : ∀ t, (thread t).Uses ok)
    (claims : ∀ t, (thread t).Claims H K P (Q t)) (keys : K s) (sched : List (Nat × In)) :
    Race H K P Q thread s (exec H (start s thread) sched) := by
  have inv := exec_invariant (H := H) (admissible_true (start s thread) sched)
    (I := fun c => Race H K P Q thread s c ∧ K c.store ∧ ∀ t, (c.thread t).Uses ok) ⟨?_, keys, uses⟩ ?_
  · exact inv.1
  · exact .running rfl claims (fun _ => .refl) (by simp [start])
  · rintro c x ⟨race, keys, uses⟩ -
    refine ⟨race.step keys stays uses x, ?_, uses_step uses x⟩
    cases e : c.thread x.1 with
    | ret a => rwa [step_ret e]
    | call o k =>
      rw [step_call e]
      exact keeps o x.2 c.store keys

/-! How one that has returned fared. -/

section
variable {c : Config Res In S α} {t u : Nat} {a b : α}

/-- It has changed nothing and returned what a loser does, or it has run alone. -/
lemma Race.returned (race : Race H K P Q thread s c) (e : c.thread t = .ret a) :
    (Q t a ∧ ∀ d ∈ c.trace, d.tid = t → d.post H = d.pre) ∨
      Steps H (thread t) s (callsOf t c.trace) (.ret a) c.store := by
  cases race with
  | running store claims alone idle =>
    have lost := claims t
    rw [e] at lost
    exact .inl ⟨lost, fun d mem _ => idle d mem⟩
  | taken w free taken alone others idle =>
    by_cases won : t = w
    · subst won
      rw [e] at alone
      exact .inr alone
    · have lost := others t won
      rw [e] at lost
      exact .inl ⟨lost, fun d mem own => idle d mem (own.trans_ne won)⟩

/-- Of those that return something else than a loser there is one at most. -/
lemma Race.one (race : Race H K P Q thread s c) (e : c.thread t = .ret a) (won : ¬ Q t a)
    (e' : c.thread u = .ret b) (won' : ¬ Q u b) : t = u := by
  cases race with
  | running store claims =>
    have lost := claims t
    rw [e] at lost
    exact absurd lost won
  | taken w free taken alone others =>
    have winner : ∀ {t a}, c.thread t = .ret a → ¬ Q t a → t = w := by
      intro t a e won
      by_contra other
      have lost := others t other
      rw [e] at lost
      exact won lost
    exact (winner e won).trans (winner e' won').symm

lemma mem_callsOf {d : Entry Op In S} (mem : d ∈ c.trace) : d.toCall ∈ callsOf d.tid c.trace :=
  List.mem_map.mpr ⟨d, List.mem_filter.mpr ⟨mem, decide_eq_true rfl⟩, rfl⟩

lemma callsOf_mem {d : Call Op In S} (mem : d ∈ callsOf t c.trace) :
    ∃ e ∈ c.trace, e.tid = t ∧ e.toCall = d := by
  obtain ⟨e, row, same⟩ := List.mem_map.mp mem
  obtain ⟨made, own⟩ := List.mem_filter.mp row
  exact ⟨e, made, of_decide_eq_true own, same⟩

end

end Config
end IdpMvp.Program
