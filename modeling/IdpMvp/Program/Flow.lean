import IdpMvp.Program.Basic

/-!
# Programs with early return

A flow is a program that may leave early with an outcome, `ExceptT ε (Prog Res)`. Facts about its
executions have two postconditions, one for the end of the flow and one for leaving it (`wpE` for one
execution, `alwaysE` for all), so that a proof follows the flow and meets the early returns where they
stand.
-/

namespace IdpMvp.Program

variable {Op : Type} {Res : Op → Type} {In S ε α β : Type}

/-- A program that may leave early with an `ε`. -/
abbrev Flow (Res : Op → Type) (ε α : Type) := ExceptT ε (Prog Res) α

namespace Flow

/-- Leave with `e` unless `b` holds. -/
def ensure (b : Bool) (e : ε) : Flow Res ε Unit := if b then pure () else throw e

/-- Leave with the outcome of `p` unless `b` holds. -/
def ensureOr (b : Bool) (p : Prog Res ε) : Flow Res ε Unit :=
  if b then pure () else ExceptT.mk (do return .error (← p))

/-- The value of an option, or leave with `e`. -/
def found (o : Option α) (e : ε) : Flow Res ε α :=
  match o with
  | some a => pure a
  | none => throw e

/-- The result of a fallible computation, or leave with its error. -/
def orThrow {δ : Type} (x : Except δ α) (f : δ → ε) : Flow Res ε α :=
  match x with
  | .ok a => pure a
  | .error d => throw (f d)

/-- The result of a fallible program, or leave with its error. -/
def orLeave {δ : Type} (p : Prog Res (Except δ α)) (f : δ → ε) : Flow Res ε α :=
  ExceptT.mk (do
    match ← p with
    | .error d => return .error (f d)
    | .ok a => return .ok a)

/-- Run `p` only if `b` holds. -/
def onlyIf (b : Bool) (p : Flow Res ε Unit) : Flow Res ε Unit := if b then p else pure ()

/-- A flow that ends and leaves with the same type of outcome, as a program. -/
def outcome (p : Flow Res ε ε) : Prog Res ε := do
  match ← p.run with
  | .error e => return e
  | .ok a => return a

/-- The execution of a flow ends it in `Q` or leaves it in `E`. -/
def wpE (H : Handler Res In S) (p : Flow Res ε α) (ins : Nat → In) (s : S)
    (Q : α → S → List (Call Op In S) → Prop) (E : ε → S → List (Call Op In S) → Prop) : Prop :=
  p.run.wp H ins s (fun r s' tr =>
    match r with
    | .ok a => Q a s' tr
    | .error e => E e s' tr)

section
variable {H : Handler Res In S} {ins : Nat → In} {s : S}
variable {Q Q' : α → S → List (Call Op In S) → Prop} {E E' : ε → S → List (Call Op In S) → Prop}

@[simp] lemma wpE_pure (a : α) : wpE H (pure a : Flow Res ε α) ins s Q E ↔ Q a s [] := Iff.rfl

@[simp] lemma wpE_throw (e : ε) : wpE H (throw e : Flow Res ε α) ins s Q E ↔ E e s [] := Iff.rfl

@[simp] lemma wpE_bind (p : Flow Res ε β) (f : β → Flow Res ε α) :
    wpE H (p >>= f) ins s Q E ↔
      wpE H p ins s (fun b s' tr =>
        wpE H (f b) (fun n => ins (n + tr.length)) s' (fun a s'' tr' => Q a s'' (tr ++ tr'))
          (fun e s'' tr' => E e s'' (tr ++ tr'))) E := by
  have unfolded : (p >>= f).run = p.run >>= fun r =>
      match r with
      | .ok b => (f b).run
      | .error e => .ret (.error e) := by
    rfl
  simp only [wpE, unfolded, Prog.wp_bind]
  rw [Prog.wp_iff_run (p := p.run), Prog.wp_iff_run (p := p.run)]
  cases (p.run.run H ins s).1 with
  | ok b => rfl
  | error e => simp

@[simp] lemma wpE_lift (p : Prog Res α) :
    wpE H (liftM p : Flow Res ε α) ins s Q E ↔ p.wp H ins s Q := by
  have unfolded : (liftM p : Flow Res ε α).run = p >>= fun a => .ret (.ok a) := by
    rfl
  rw [wpE, unfolded, Prog.wp_bind]
  simp only [Prog.wp_ret, List.append_nil]

lemma wpE_op (o : Op) (k : Res o → Flow Res ε α) :
    wpE H (liftM (Prog.op o) >>= k) ins s Q E ↔
      wpE H (k (H o (ins 0) s).1) (fun n => ins (n + 1)) (H o (ins 0) s).2
        (fun a s' tr => Q a s' (⟨o, ins 0, s⟩ :: tr)) (fun e s' tr => E e s' (⟨o, ins 0, s⟩ :: tr)) :=
  Iff.rfl

@[simp] lemma wpE_ensure (b : Bool) (e : ε) {Q : Unit → S → List (Call Op In S) → Prop} :
    wpE H (ensure b e : Flow Res ε Unit) ins s Q E ↔
      (b = true → Q () s []) ∧ (b = false → E e s []) := by
  cases b <;> simp [ensure]

@[simp] lemma wpE_ensureOr (b : Bool) (p : Prog Res ε) {Q : Unit → S → List (Call Op In S) → Prop} :
    wpE H (ensureOr b p) ins s Q E ↔ (b = true → Q () s []) ∧ (b = false → p.wp H ins s E) := by
  have unfolded : (ExceptT.mk (do return .error (← p)) : Flow Res ε Unit).run =
      p >>= fun e => .ret (.error e) := by
    rfl
  cases b
  · simp only [ensureOr, wpE, unfolded, Prog.wp_bind, Prog.wp_ret, List.append_nil, reduceCtorEq,
      if_false, IsEmpty.forall_iff, true_and, forall_const]
  · simp [ensureOr]

@[simp] lemma wpE_found (o : Option α) (e : ε) :
    wpE H (found o e : Flow Res ε α) ins s Q E ↔
      (∀ a, o = some a → Q a s []) ∧ (o = none → E e s []) := by
  cases o <;> simp [found]

@[simp] lemma wpE_orThrow {δ : Type} (x : Except δ α) (f : δ → ε) :
    wpE H (orThrow x f : Flow Res ε α) ins s Q E ↔
      (∀ a, x = .ok a → Q a s []) ∧ (∀ d, x = .error d → E (f d) s []) := by
  cases x <;> simp [orThrow]

@[simp] lemma wpE_onlyIf (b : Bool) (p : Flow Res ε Unit)
    {Q : Unit → S → List (Call Op In S) → Prop} :
    wpE H (onlyIf b p) ins s Q E ↔
      (b = true → wpE H p ins s Q E) ∧ (b = false → Q () s []) := by
  cases b <;> simp [onlyIf]

@[simp] lemma wpE_orLeave {δ : Type} (p : Prog Res (Except δ α)) (f : δ → ε) :
    wpE H (orLeave p f) ins s Q E ↔
      p.wp H ins s (fun r s' tr =>
        match r with
        | .ok a => Q a s' tr
        | .error d => E (f d) s' tr) := by
  have unfolded : (orLeave p f).run = p >>= fun r =>
      match r with
      | .error d => .ret (.error (f d))
      | .ok a => .ret (.ok a) := by
    rfl
  simp only [wpE, unfolded, Prog.wp_bind]
  rw [Prog.wp_iff_run (p := p), Prog.wp_iff_run (p := p)]
  cases (p.run H ins s).1 <;> simp

@[simp] lemma wp_outcome (p : Flow Res ε ε) {Q : ε → S → List (Call Op In S) → Prop} :
    (outcome p).wp H ins s Q ↔ wpE H p ins s Q Q := by
  simp only [outcome, wpE, Prog.wp_bind]
  rw [Prog.wp_iff_run (p := p.run), Prog.wp_iff_run (p := p.run)]
  cases (p.run.run H ins s).1 <;> simp

lemma wpE_mono {p : Flow Res ε α} (w : wpE H p ins s Q E)
    (le : ∀ a s' tr, Q a s' tr → Q' a s' tr) (leE : ∀ e s' tr, E e s' tr → E' e s' tr) :
    wpE H p ins s Q' E' := by
  refine Prog.wp_mono w ?_
  rintro (e | a) s' tr q
  · exact leE e s' tr q
  · exact le a s' tr q

end

/-! ## All executions -/

/-- Every execution of a flow ends it in `Q` or leaves it in `E`. -/
def alwaysE (H : Handler Res In S) (p : Flow Res ε α) (s : S) (Q : α → S → Prop)
    (E : ε → S → Prop) : Prop :=
  p.run.always H s (fun r s' =>
    match r with
    | .ok a => Q a s'
    | .error e => E e s')

section
variable {H : Handler Res In S} {s : S} {Q Q' : α → S → Prop} {E E' : ε → S → Prop}

@[simp] lemma alwaysE_pure (a : α) : alwaysE H (pure a : Flow Res ε α) s Q E ↔ Q a s := Iff.rfl

@[simp] lemma alwaysE_throw (e : ε) : alwaysE H (throw e : Flow Res ε α) s Q E ↔ E e s := Iff.rfl

@[simp] lemma alwaysE_bind (p : Flow Res ε β) (f : β → Flow Res ε α) :
    alwaysE H (p >>= f) s Q E ↔ alwaysE H p s (fun b s' => alwaysE H (f b) s' Q E) E := by
  have unfolded : (p >>= f).run = p.run >>= fun r =>
      match r with
      | .ok b => (f b).run
      | .error e => .ret (.error e) := by
    rfl
  simp only [alwaysE, unfolded, Prog.always_bind]
  have branches : ∀ (r : Except ε β) (s' : S),
      (match r with
        | .ok b => (f b).run
        | .error e => .ret (.error e) : Prog Res (Except ε α)).always H s' (fun r s' =>
          match r with
          | .ok a => Q a s'
          | .error e => E e s') ↔
      match r with
      | .ok b => (f b).run.always H s' (fun r s' =>
          match r with
          | .ok a => Q a s'
          | .error e => E e s')
      | .error e => E e s' := by
    rintro (e | b) s' <;> rfl
  simp only [branches]

@[simp] lemma alwaysE_lift (p : Prog Res α) :
    alwaysE H (liftM p : Flow Res ε α) s Q E ↔ p.always H s Q := by
  have unfolded : (liftM p : Flow Res ε α).run = p >>= fun a => .ret (.ok a) := by
    rfl
  simp only [alwaysE, unfolded, Prog.always_bind, Prog.always_ret]

@[simp] lemma alwaysE_ensure (b : Bool) (e : ε) {Q : Unit → S → Prop} :
    alwaysE H (ensure b e : Flow Res ε Unit) s Q E ↔ (b = true → Q () s) ∧ (b = false → E e s) := by
  cases b <;> simp [ensure]

@[simp] lemma alwaysE_ensureOr (b : Bool) (p : Prog Res ε) {Q : Unit → S → Prop} :
    alwaysE H (ensureOr b p) s Q E ↔ (b = true → Q () s) ∧ (b = false → p.always H s E) := by
  have unfolded : (ExceptT.mk (do return .error (← p)) : Flow Res ε Unit).run =
      p >>= fun e => .ret (.error e) := by
    rfl
  cases b
  · simp only [ensureOr, alwaysE, unfolded, Prog.always_bind, Prog.always_ret, reduceCtorEq,
      if_false, IsEmpty.forall_iff, true_and, forall_const]
  · simp [ensureOr]

@[simp] lemma alwaysE_found (o : Option α) (e : ε) :
    alwaysE H (found o e : Flow Res ε α) s Q E ↔
      (∀ a, o = some a → Q a s) ∧ (o = none → E e s) := by
  cases o <;> simp [found]

@[simp] lemma alwaysE_orThrow {δ : Type} (x : Except δ α) (f : δ → ε) :
    alwaysE H (orThrow x f : Flow Res ε α) s Q E ↔
      (∀ a, x = .ok a → Q a s) ∧ (∀ d, x = .error d → E (f d) s) := by
  cases x <;> simp [orThrow]

@[simp] lemma alwaysE_onlyIf (b : Bool) (p : Flow Res ε Unit) {Q : Unit → S → Prop} :
    alwaysE H (onlyIf b p) s Q E ↔ (b = true → alwaysE H p s Q E) ∧ (b = false → Q () s) := by
  cases b <;> simp [onlyIf]

@[simp] lemma alwaysE_orLeave {δ : Type} (p : Prog Res (Except δ α)) (f : δ → ε) :
    alwaysE H (orLeave p f) s Q E ↔
      p.always H s (fun r s' =>
        (∀ a, r = .ok a → Q a s') ∧ (∀ d, r = .error d → E (f d) s')) := by
  have unfolded : (orLeave p f).run = p >>= fun r =>
      match r with
      | .error d => .ret (.error (f d))
      | .ok a => .ret (.ok a) := by
    rfl
  simp only [alwaysE, unfolded, Prog.always_bind]
  have branches : ∀ (r : Except δ α) (s' : S),
      (match r with
        | .error d => .ret (.error (f d))
        | .ok a => .ret (.ok a) : Prog Res (Except ε α)).always H s' (fun r s' =>
          match r with
          | .ok a => Q a s'
          | .error e => E e s') ↔
      (∀ a, r = .ok a → Q a s') ∧ (∀ d, r = .error d → E (f d) s') := by
    rintro (d | a) s' <;> simp
  simp only [branches]

@[simp] lemma always_outcome (p : Flow Res ε ε) {Q : ε → S → Prop} :
    (outcome p).always H s Q ↔ alwaysE H p s Q Q := by
  simp only [outcome, alwaysE, Prog.always_bind]
  constructor <;>
  · intro w
    refine Prog.always_mono w ?_
    rintro (e | a) s' q <;> exact q

lemma alwaysE_mono {p : Flow Res ε α} (w : alwaysE H p s Q E)
    (le : ∀ a s', Q a s' → Q' a s') (leE : ∀ e s', E e s' → E' e s') :
    alwaysE H p s Q' E' := by
  refine Prog.always_mono w ?_
  rintro (e | a) s' q
  · exact leE e s' q
  · exact le a s' q

/-! What holds of all executions holds of each. -/

lemma alwaysE.run_ok {p : Flow Res ε α} (w : alwaysE H p s Q E) {ins : Nat → In} {a : α}
    (e : (p.run.run H ins s).1 = .ok a) : Q a (p.run.run H ins s).2 := by
  have h := Prog.always.run w ins
  rw [e] at h
  exact h

lemma wpE.run_ok {ins : Nat → In} {Q : α → S → List (Call Op In S) → Prop}
    {E : ε → S → List (Call Op In S) → Prop} {p : Flow Res ε α} (w : wpE H p ins s Q E) {a : α}
    (e : (p.run.run H ins s).1 = .ok a) : Q a (p.run.run H ins s).2 (p.run.trace H ins s) := by
  have h := Prog.wp_iff_run.mp w
  rw [e] at h
  exact h

lemma alwaysE_of_wpE [Nonempty In] {p : Flow Res ε α}
    (w : ∀ ins, wpE H p ins s (fun a s' _ => Q a s') (fun d s' _ => E d s')) : alwaysE H p s Q E := by
  refine Prog.always_of_wp fun ins => Prog.wp_mono (w ins) ?_
  rintro (d | a) s' tr h
  · exact h
  · exact h

lemma alwaysE.run_error {p : Flow Res ε α} (w : alwaysE H p s Q E) {ins : Nat → In} {d : ε}
    (e : (p.run.run H ins s).1 = .error d) : E d (p.run.run H ins s).2 := by
  have h := Prog.always.run w ins
  rw [e] at h
  exact h

lemma alwaysE.run_state {p : Flow Res ε α} {P : S → Prop}
    (w : alwaysE H p s (fun _ s' => P s') (fun _ s' => P s')) (ins : Nat → In) :
    P (p.run.run H ins s).2 := by
  cases e : (p.run.run H ins s).1 with
  | ok a => exact w.run_ok e
  | error d => exact w.run_error e

/-! One rule for each way a flow starts, to follow it step by step. -/

lemma found_step {o : Option β} {e : ε} {k : β → Flow Res ε α} (leave : o = none → E e s)
    (next : ∀ b, o = some b → alwaysE H (k b) s Q E) : alwaysE H (found o e >>= k) s Q E := by
  rw [alwaysE_bind, alwaysE_found]
  exact ⟨next, leave⟩

lemma orThrow_step {δ : Type} {x : Except δ β} {f : δ → ε} {k : β → Flow Res ε α}
    (leave : ∀ d, x = .error d → E (f d) s) (next : ∀ b, x = .ok b → alwaysE H (k b) s Q E) :
    alwaysE H (orThrow x f >>= k) s Q E := by
  rw [alwaysE_bind, alwaysE_orThrow]
  exact ⟨next, leave⟩

lemma ensure_step {b : Bool} {e : ε} {k : Unit → Flow Res ε α} (leave : b = false → E e s)
    (next : b = true → alwaysE H (k ()) s Q E) : alwaysE H (ensure b e >>= k) s Q E := by
  rw [alwaysE_bind, alwaysE_ensure]
  exact ⟨next, leave⟩

lemma ensureOr_step {b : Bool} {p : Prog Res ε} {k : Unit → Flow Res ε α}
    (leave : b = false → p.always H s E) (next : b = true → alwaysE H (k ()) s Q E) :
    alwaysE H (ensureOr b p >>= k) s Q E := by
  rw [alwaysE_bind, alwaysE_ensureOr]
  exact ⟨next, leave⟩

lemma lift_step {p : Prog Res β} {k : β → Flow Res ε α}
    (next : p.always H s (fun b s' => alwaysE H (k b) s' Q E)) :
    alwaysE H (liftM p >>= k) s Q E := by
  rw [alwaysE_bind, alwaysE_lift]
  exact next

lemma op_step {o : Op} {k : Res o → Flow Res ε α}
    (next : ∀ i, alwaysE H (k (H o i s).1) (H o i s).2 Q E) :
    alwaysE H (liftM (Prog.op o) >>= k) s Q E :=
  lift_step next

/-- The rule of composition for all executions: what the first part ends in is what the second
starts from. -/
lemma alwaysE_bind_of {p : Flow Res ε β} {f : β → Flow Res ε α} {R : β → S → Prop}
    {E₀ : ε → S → Prop} (w : alwaysE H p s R E₀) (leave : ∀ e s', E₀ e s' → E e s')
    (next : ∀ b s', R b s' → alwaysE H (f b) s' Q E) : alwaysE H (p >>= f) s Q E := by
  rw [alwaysE_bind]
  exact alwaysE_mono w next leave

end

section
variable {H : Handler Res In S} {ins : Nat → In} {s : S}
variable {Q Q' : α → S → List (Call Op In S) → Prop} {E E' : ε → S → List (Call Op In S) → Prop}

/-- The rule of composition: what the first part ends in is what the second starts from. -/
lemma wpE_bind_of {p : Flow Res ε β} {f : β → Flow Res ε α}
    {R : β → S → List (Call Op In S) → Prop} (w : wpE H p ins s R E)
    (next : ∀ b s' tr, R b s' tr →
      wpE H (f b) (fun n => ins (n + tr.length)) s' (fun a s'' tr' => Q a s'' (tr ++ tr'))
        (fun e s'' tr' => E e s'' (tr ++ tr'))) :
    wpE H (p >>= f) ins s Q E := by
  rw [wpE_bind]
  exact wpE_mono w next (fun _ _ _ q => q)

/-- An execution that cannot leave early returns. -/
lemma wpE.returns {p : Flow Res ε α} (w : wpE H p ins s Q (fun _ _ _ => False)) :
    ∃ a, (p.run.run H ins s).1 = .ok a ∧ Q a (p.run.run H ins s).2 (p.run.trace H ins s) := by
  rw [wpE, Prog.wp_iff_run] at w
  cases e : (p.run.run H ins s).1 with
  | ok a =>
    rw [e] at w
    exact ⟨a, rfl, w⟩
  | error d =>
    rw [e] at w
    exact w.elim

/-! One rule for each way a flow goes on, to follow one execution whose calls do not matter. -/

section
variable {Q : α → S → Prop} {E : ε → S → Prop}

lemma wpE_found_step {o : Option β} {e : ε} {k : β → Flow Res ε α} {b : β} (h : o = some b)
    (next : wpE H (k b) ins s (fun a s' _ => Q a s') (fun d s' _ => E d s')) :
    wpE H (found o e >>= k) ins s (fun a s' _ => Q a s') (fun d s' _ => E d s') := by
  subst h
  exact next

lemma wpE_orThrow_step {δ : Type} {x : Except δ β} {f : δ → ε} {k : β → Flow Res ε α} {b : β}
    (h : x = .ok b) (next : wpE H (k b) ins s (fun a s' _ => Q a s') (fun d s' _ => E d s')) :
    wpE H (orThrow x f >>= k) ins s (fun a s' _ => Q a s') (fun d s' _ => E d s') := by
  subst h
  exact next

lemma wpE_ensure_step {b : Bool} {e : ε} {k : Unit → Flow Res ε α} (h : b = true)
    (next : wpE H (k ()) ins s (fun a s' _ => Q a s') (fun d s' _ => E d s')) :
    wpE H (ensure b e >>= k) ins s (fun a s' _ => Q a s') (fun d s' _ => E d s') := by
  subst h
  exact next

lemma wpE_ensureOr_step {b : Bool} {p : Prog Res ε} {k : Unit → Flow Res ε α} (h : b = true)
    (next : wpE H (k ()) ins s (fun a s' _ => Q a s') (fun d s' _ => E d s')) :
    wpE H (ensureOr b p >>= k) ins s (fun a s' _ => Q a s') (fun d s' _ => E d s') := by
  subst h
  exact next

/-! The same where the flow may also leave. -/

lemma wpE_found_split {o : Option β} {e : ε} {k : β → Flow Res ε α} (leave : o = none → E e s)
    (next : ∀ b, o = some b → wpE H (k b) ins s (fun a s' _ => Q a s') (fun d s' _ => E d s')) :
    wpE H (found o e >>= k) ins s (fun a s' _ => Q a s') (fun d s' _ => E d s') := by
  cases o with
  | none => exact leave rfl
  | some b => exact next b rfl

lemma wpE_orThrow_split {δ : Type} {x : Except δ β} {f : δ → ε} {k : β → Flow Res ε α}
    (leave : ∀ d, x = .error d → E (f d) s)
    (next : ∀ b, x = .ok b → wpE H (k b) ins s (fun a s' _ => Q a s') (fun d s' _ => E d s')) :
    wpE H (orThrow x f >>= k) ins s (fun a s' _ => Q a s') (fun d s' _ => E d s') := by
  cases x with
  | error d => exact leave d rfl
  | ok b => exact next b rfl

lemma wpE_ensure_split {b : Bool} {e : ε} {k : Unit → Flow Res ε α} (leave : b = false → E e s)
    (next : b = true → wpE H (k ()) ins s (fun a s' _ => Q a s') (fun d s' _ => E d s')) :
    wpE H (ensure b e >>= k) ins s (fun a s' _ => Q a s') (fun d s' _ => E d s') := by
  cases b with
  | false => exact leave rfl
  | true => exact next rfl

/-- What holds of all executions holds of one. -/
lemma alwaysE.wpE {p : Flow Res ε α} (w : alwaysE H p s Q E) :
    wpE H p ins s (fun a s' _ => Q a s') (fun d s' _ => E d s') := by
  refine Prog.wp_mono (Prog.always.wp w) ?_
  rintro (d | a) s' tr h <;> exact h

/-- What a part of a flow ends in whatever its inputs, before the rest of it on the inputs that are left. -/
lemma wpE_bind_always {p : Flow Res ε β} {f : β → Flow Res ε α} {R : β → S → Prop} {E₀ : ε → S → Prop}
    (w : alwaysE H p s R E₀) (leave : ∀ e s', E₀ e s' → E e s')
    (next : ∀ b s' (n : Nat), R b s' →
      wpE H (f b) (fun m => ins (m + n)) s' (fun a s'' _ => Q a s'') (fun e s'' _ => E e s'')) :
    wpE H (p >>= f) ins s (fun a s' _ => Q a s') (fun e s' _ => E e s') := by
  rw [wpE_bind]
  exact wpE_mono w.wpE (fun b s' tr r => next b s' tr.length r) fun e s' _ left => leave e s' left

end
end

/-! ## Some execution -/

/-- Some execution of a flow ends it in `Q`. -/
def mayE (H : Handler Res In S) (p : Flow Res ε α) (s : S) (Q : α → S → Prop) : Prop :=
  p.run.may H s (fun r s' => ∃ a, r = .ok a ∧ Q a s')

section
variable {H : Handler Res In S} {s : S} {Q : α → S → Prop}

lemma mayE_bind {p : Flow Res ε β} {f : β → Flow Res ε α}
    (m : mayE H p s fun b s' => mayE H (f b) s' Q) : mayE H (p >>= f) s Q := by
  refine Prog.may_bind (Prog.may_mono m ?_)
  rintro _ s' ⟨b, rfl, next⟩
  exact next

lemma mayE_orLeave {δ : Type} {p : Prog Res (Except δ α)} {f : δ → ε}
    (m : p.may H s fun r s' => ∃ a, r = .ok a ∧ Q a s') : mayE H (orLeave p f) s Q := by
  refine Prog.may_bind (Prog.may_mono m ?_)
  rintro _ s' ⟨a, rfl, q⟩
  exact ⟨a, rfl, q⟩

lemma mayE_op {o : Op} {k : Res o → Flow Res ε α} (i : In)
    (next : mayE H (k (H o i s).1) (H o i s).2 Q) : mayE H (liftM (Prog.op o) >>= k) s Q :=
  ⟨i, next⟩

/-- A flow that may end does so on some inputs. -/
lemma mayE.run [Nonempty In] {p : Flow Res ε α} (m : mayE H p s Q) :
    ∃ ins : Nat → In, ∃ a, (p.run.run H ins s).1 = .ok a ∧ Q a (p.run.run H ins s).2 :=
  Prog.may.run m

end

/-! ## Which operations a flow calls -/

section
variable {P : Op → Prop}

lemma uses_bind {p : Flow Res ε β} {f : β → Flow Res ε α} (u : p.run.Uses P)
    (uf : ∀ b, (f b).run.Uses P) : (p >>= f).run.Uses P := by
  refine Prog.Uses.bind u ?_
  rintro (e | b)
  · trivial
  · exact uf b

lemma uses_lift {p : Prog Res α} (u : p.Uses P) : (liftM p : Flow Res ε α).run.Uses P :=
  Prog.Uses.bind u fun _ => trivial

lemma uses_ensure (b : Bool) (e : ε) : (ensure b e : Flow Res ε Unit).run.Uses P := by
  cases b <;> trivial

lemma uses_ensureOr (b : Bool) {p : Prog Res ε} (u : p.Uses P) :
    (ensureOr b p : Flow Res ε Unit).run.Uses P := by
  cases b with
  | true => trivial
  | false => exact Prog.Uses.bind u fun _ => trivial

lemma uses_found (o : Option α) (e : ε) : (found o e : Flow Res ε α).run.Uses P := by
  cases o <;> trivial

lemma uses_orThrow {δ : Type} (x : Except δ α) (f : δ → ε) :
    (orThrow x f : Flow Res ε α).run.Uses P := by
  cases x <;> trivial

lemma uses_orLeave {δ : Type} {p : Prog Res (Except δ α)} (u : p.Uses P) (f : δ → ε) :
    (orLeave p f).run.Uses P := by
  refine Prog.Uses.bind u ?_
  rintro (d | a) <;> trivial

lemma uses_outcome {p : Flow Res ε ε} (u : p.run.Uses P) : (outcome p).Uses P := by
  refine Prog.Uses.bind u ?_
  rintro (e | a) <;> trivial

/-- What every operation of a flow preserves, the flow preserves. -/
lemma uses_alwaysE {H : Handler Res In S} {I : S → Prop} {s : S} {p : Flow Res ε α}
    (u : p.run.Uses P) (step : ∀ o, P o → ∀ i s, I s → I (H o i s).2) (inv : I s) :
    alwaysE H p s (fun _ s' => I s') (fun _ s' => I s') := by
  refine Prog.always_mono (u.always step inv) ?_
  rintro (e | a) s' h <;> exact h

end

/-- The same for one execution, with the calls it has made. -/
lemma uses_wpE {P : Op → Prop} {H : Handler Res In S} {I : S → Prop} {ins : Nat → In} {s : S}
    {p : Flow Res ε α} (u : p.run.Uses P) (step : ∀ o, P o → ∀ i s, I s → I (H o i s).2) (inv : I s) :
    wpE H p ins s (fun _ s' tr => I s' ∧ ∀ e ∈ tr, P e.op) (fun _ s' tr => I s' ∧ ∀ e ∈ tr, P e.op) := by
  refine Prog.wp_mono (u.wp step inv) ?_
  rintro (e | a) s' tr h <;> exact h

/-! Where a flow is known to go on or to stop. -/

lemma found_some_bind (a : β) (e : ε) (k : β → Flow Res ε α) : (found (some a) e >>= k) = k a := rfl

lemma ensure_true_bind {b : Bool} (h : b = true) (e : ε) (k : Unit → Flow Res ε α) :
    (ensure b e >>= k) = k () := by
  subst h
  rfl

lemma ensure_false_bind {b : Bool} (h : b = false) (e : ε) (k : Unit → Flow Res ε α) :
    (ensure b e >>= k) = throw e := by
  subst h
  rfl

end Flow
end IdpMvp.Program
