import IdpMvp.Store.Ops
import IdpMvp.Timed.Assoc
import IdpMvp.Timed.Window
import Mathlib.Algebra.Order.Group.Int

/-!
# The in-memory rate limiter

`infrastructure/rate_limit.rs`. Every call prunes the times of all keys, so what the map holds depends
on all calls; up to what is out of the window it is what the sliding-window limiter remembers, which
gives the limits of the one to the other.
-/

namespace IdpMvp

open Timed

/-- `InMemoryLoginRateLimiter`. -/
structure InMemoryLoginRateLimiter where
  maxAttempts : Nat
  window : Duration
  attempts : List (String × List DateTime)

namespace InMemoryLoginRateLimiter

/-- `InMemoryLoginRateLimiter::new`. -/
def new (maxAttempts : Nat) (window : Duration) : InMemoryLoginRateLimiter :=
  { maxAttempts, window, attempts := [] }

/-- `check_and_record`. The map has one entry for each key, and the one of the call is made where it
is missing. -/
def checkAndRecord (r : InMemoryLoginRateLimiter) (key : String) (now : DateTime) :
    Bool × InMemoryLoginRateLimiter :=
  let cutoff := now - r.window
  let map := (r.attempts.map fun (k, times) => (k, times.filter (· > cutoff))).filter
    fun (_, times) => !times.isEmpty
  let times := (map.lookup key).getD []
  let others := map.filter fun (k, _) => k ≠ key
  if times.length ≥ r.maxAttempts then
    (false, { r with attempts := others ++ [(key, times)] })
  else
    (true, { r with attempts := others ++ [(key, times ++ [now])] })

/-- The limiter as a machine that is asked one call after another. -/
def machine : Machine InMemoryLoginRateLimiter (Request String DateTime) Bool :=
  fun r call => r.checkAndRecord call.key call.time

/-- The times recorded for a key. -/
def times (r : InMemoryLoginRateLimiter) (key : String) : List DateTime :=
  (r.attempts.lookup key).getD []

/-- No key has two entries. -/
def OneEach (r : InMemoryLoginRateLimiter) : Prop := (r.attempts.map Prod.fst).Nodup

/-- The map once the times out of the window are gone. -/
def pruned (r : InMemoryLoginRateLimiter) (now : DateTime) : List (String × List DateTime) :=
  (r.attempts.map fun e => (e.1, recent r.window now e.2)).filter fun e => !e.2.isEmpty

lemma oneEach_pruned {r : InMemoryLoginRateLimiter} (once : r.OneEach) (now : DateTime) :
    ((r.pruned now).map Prod.fst).Nodup := by
  refine nodup_keys_filter ?_ _
  rw [List.map_map]
  exact once

/-- Pruning leaves each key what is recent. -/
lemma lookup_pruned {r : InMemoryLoginRateLimiter} (once : r.OneEach) (now : DateTime)
    (key : String) : ((r.pruned now).lookup key).getD [] = recent r.window now (r.times key) := by
  have found : (r.pruned now).lookup key = (r.attempts.lookup key).bind fun times =>
      if !(recent r.window now times).isEmpty then some (recent r.window now times) else none :=
    lookup_map_filter once (recent r.window now) (fun times => !times.isEmpty) key
  rw [found, times]
  cases r.attempts.lookup key with
  | none => rfl
  | some times =>
    by_cases empty : recent r.window now times = []
    · simp [empty]
    · simp [empty]

/-- A call prunes the map and then looks at the entry of its key. -/
lemma checkAndRecord_pruned (r : InMemoryLoginRateLimiter) (key : String) (now : DateTime) :
    r.checkAndRecord key now =
      if (((r.pruned now).lookup key).getD []).length ≥ r.maxAttempts then
        (false, { r with attempts := ((r.pruned now).filter fun e => e.1 ≠ key) ++
          [(key, ((r.pruned now).lookup key).getD [])] })
      else
        (true, { r with attempts := ((r.pruned now).filter fun e => e.1 ≠ key) ++
          [(key, ((r.pruned now).lookup key).getD [] ++ [now])] }) := rfl

/-- The map after a call, with what it sets at its key. -/
lemma checkAndRecord_eq (r : InMemoryLoginRateLimiter) (key : String) (now : DateTime) :
    ∃ times, (r.checkAndRecord key now).2 =
        { r with attempts := ((r.pruned now).filter fun e => e.1 ≠ key) ++ [(key, times)] } ∧
      times = ((r.pruned now).lookup key).getD [] ++
        if (r.checkAndRecord key now).1 then [now] else [] := by
  rw [checkAndRecord_pruned]
  split
  · exact ⟨_, rfl, (List.append_nil _).symm⟩
  · exact ⟨_, rfl, rfl⟩

/-- A call is answered by what is recent for its key. -/
lemma checkAndRecord_fst {r : InMemoryLoginRateLimiter} (once : r.OneEach) (key : String)
    (now : DateTime) :
    (r.checkAndRecord key now).1 = true ↔
      (recent r.window now (r.times key)).length < r.maxAttempts := by
  rw [← lookup_pruned once, ← not_le, checkAndRecord_pruned]
  split <;> simp_all

/-- A call keeps what is recent of its key and adds itself where it is allowed. -/
lemma times_own {r : InMemoryLoginRateLimiter} (once : r.OneEach) (key : String) (now : DateTime) :
    (r.checkAndRecord key now).2.times key =
      recent r.window now (r.times key) ++ if (r.checkAndRecord key now).1 then [now] else [] := by
  obtain ⟨times, after, eq⟩ := r.checkAndRecord_eq key now
  rw [InMemoryLoginRateLimiter.times, after, lookup_set_self, Option.getD_some, eq,
    lookup_pruned once]

/-- Of the other keys it keeps what is recent. -/
lemma times_other {r : InMemoryLoginRateLimiter} (once : r.OneEach) {key k : String}
    (other : k ≠ key) (now : DateTime) :
    (r.checkAndRecord key now).2.times k = recent r.window now (r.times k) := by
  obtain ⟨times, after, -⟩ := r.checkAndRecord_eq key now
  rw [InMemoryLoginRateLimiter.times, after, lookup_set_other _ _ other, lookup_pruned once]

lemma oneEach_checkAndRecord {r : InMemoryLoginRateLimiter} (once : r.OneEach) (key : String)
    (now : DateTime) : (r.checkAndRecord key now).2.OneEach := by
  obtain ⟨times, after, -⟩ := r.checkAndRecord_eq key now
  rw [OneEach, after]
  exact nodup_keys_set (oneEach_pruned once now) key times

/-- The limiter holds, for each key, what the sliding-window limiter remembers from the window that
ends at `now`. -/
structure Holds (max : Nat) (window : Duration) (now : DateTime) (r : InMemoryLoginRateLimiter)
    (s : String → List DateTime) : Prop where
  same_max : r.maxAttempts = max
  same_window : r.window = window
  once : r.OneEach
  alike : ∀ k, recent window now (r.times k) = recent window now (s k)

lemma holds_new (max : Nat) (window : Duration) (now : DateTime) :
    Holds max window now (new max window) fun _ => [] :=
  ⟨rfl, rfl, List.nodup_nil, fun _ => rfl⟩

lemma Holds.later {max : Nat} {window : Duration} {now now' : DateTime}
    {r : InMemoryLoginRateLimiter} {s : String → List DateTime} (le : now ≤ now')
    (h : Holds max window now r s) : Holds max window now' r s := by
  refine { h with alike := fun k => ?_ }
  rw [← recent_recent le, h.alike k, recent_recent le]

/-- One call: the same answer, and the limiter still holds what is remembered. -/
lemma Holds.step {max : Nat} {window : Duration} {call : Request String DateTime}
    {r : InMemoryLoginRateLimiter} {s : String → List DateTime}
    (h : Holds max window call.time r s) :
    (machine r call).1 = (limiter max window s call).1 ∧
      Holds max window call.time (machine r call).2 (limiter max window s call).2 := by
  have answer : (machine r call).1 = (limiter max window s call).1 := by
    rw [Bool.eq_iff_iff]
    refine (checkAndRecord_fst h.once call.key call.time).trans ?_
    rw [h.same_max, h.same_window, h.alike]
    exact (grant_fst max window (s call.key) call).symm
  obtain ⟨times, after, -⟩ := r.checkAndRecord_eq call.key call.time
  refine ⟨answer, ?_⟩
  constructor
  case same_max => exact (congrArg InMemoryLoginRateLimiter.maxAttempts after).trans h.same_max
  case same_window => exact (congrArg InMemoryLoginRateLimiter.window after).trans h.same_window
  case once => exact oneEach_checkAndRecord h.once call.key call.time
  case alike =>
    intro k
    by_cases own : k = call.key
    · subst own
      have mine : (machine r call).2.times call.key =
          recent window call.time (s call.key) ++
            if (limiter max window s call).1 then [call.time] else [] := by
        rw [← answer, ← h.alike, ← h.same_window]
        exact times_own h.once call.key call.time
      rw [mine, limiter, Machine.keyed_own, grant_snd, recent_append, recent_append,
        recent_recent le_rfl]
      rfl
    · have mine : (machine r call).2.times k = recent window call.time (s k) := by
        rw [← h.alike, ← h.same_window]
        exact times_other h.once own call.time
      rw [mine, limiter, Machine.keyed_other s (Ne.symm own), recent_recent le_rfl]

/-- In the order of time the limiter answers as the sliding-window limiter does. -/
theorem log_eq (max : Nat) (window : Duration) {calls : List (Request String DateTime)}
    (ordered : calls.Pairwise (·.time ≤ ·.time)) :
    machine.log (new max window) calls = (limiter max window).log (fun _ => []) calls :=
  (Machine.simulation Request.time (R := Holds max window) (fun _ _ _ _ le h => Holds.later le h)
    (fun _ _ _ h => Holds.step h) ordered (holds_new max window)).1

/-- It answers each call of the sequence alike. -/
lemma answer_eq (max : Nat) (window : Duration) {before : List (Request String DateTime)}
    {call : Request String DateTime} (ordered : (before ++ [call]).Pairwise (·.time ≤ ·.time)) :
    ((machine.after (new max window) before).checkAndRecord call.key call.time).1 =
      (limiter max window ((limiter max window).after (fun _ => []) before) call).1 :=
  Machine.answer_of_log (log_eq max window ordered)

end InMemoryLoginRateLimiter

section Slides

open InMemoryLoginRateLimiter

/-- In any sequence of calls in the order of time a call is refused exactly when `max` calls of its
key were allowed within the window that ends with it. No half-open window holds more than `max`
allowed calls of a key; without a refused call the others are answered the same; and so are the calls
of one key without those of the others. -/
theorem rate_limit_slides (max : Nat) (window : Duration) (calls : List (Request String DateTime))
    (ordered : calls.Pairwise (·.time ≤ ·.time)) :
    (∀ before call later, calls = before ++ call :: later →
      (((machine.after (new max window) before).checkAndRecord call.key call.time).1 = false ↔
        granted (machine.log (new max window) before) call.key
          (fun t => call.time - window < t ∧ t ≤ call.time) = max)) ∧
    (∀ k x, granted (machine.log (new max window) calls) k (fun t => x < t ∧ t ≤ x + window) ≤ max ∧
      granted (machine.log (new max window) calls) k (fun t => x ≤ t ∧ t < x + window) ≤ max) ∧
    (∀ before call later, calls = before ++ call :: later →
      ((machine.after (new max window) before).checkAndRecord call.key call.time).1 = false →
      machine.log (new max window) (before ++ later) =
        (machine.log (new max window) calls).eraseIdx before.length) ∧
    ∀ k, (machine.log (new max window) calls).filter (fun e => e.1.key = k) =
      machine.log (new max window) (calls.filter (·.key = k)) := by
  have upto : ∀ before call later, calls = before ++ call :: later →
      (before ++ [call]).Pairwise (·.time ≤ ·.time) := by
    rintro before call later rfl
    refine ordered.sublist (List.Sublist.append_left ?_ before)
    exact (List.nil_sublist later).cons_cons call
  refine ⟨?_, ?_, ?_, ?_⟩
  · intro before call later split
    have sorted := upto before call later split
    rw [answer_eq max window sorted, log_eq max window (List.pairwise_append.mp sorted).1]
    exact limiter_refuses sorted
  · intro k x
    rw [log_eq max window ordered]
    exact ⟨limiter_narrow calls k (narrow_left window x), limiter_narrow calls k (narrow_right window x)⟩
  · rintro before call later rfl refused
    rw [answer_eq max window (upto before call later rfl)] at refused
    have without : (before ++ later).Pairwise (·.time ≤ ·.time) :=
      ordered.sublist (List.Sublist.append_left (List.sublist_cons_self call later) before)
    rw [log_eq max window ordered, log_eq max window without]
    exact limiter_erase before later call refused
  · intro k
    rw [log_eq max window ordered, log_eq max window (ordered.sublist List.filter_sublist)]
    exact limiter_filter (fun _ => []) k calls

/-- The third call within the window is refused. -/
theorem rate_limit_slides_sample :
    ((machine.after (new 2 5) [⟨"a", 0⟩, ⟨"a", 1⟩]).checkAndRecord "a" 2).1 = false :=
  ((rate_limit_slides 2 5 [⟨"a", 0⟩, ⟨"a", 1⟩, ⟨"a", 2⟩, ⟨"b", 2⟩, ⟨"a", 6⟩] (by decide)).1
      [⟨"a", 0⟩, ⟨"a", 1⟩] ⟨"a", 2⟩ [⟨"b", 2⟩, ⟨"a", 6⟩] rfl).mpr (by decide)

end Slides

/-! ## The limiters of the services -/

/-- The limiter of the logins. -/
def Store.loginLimiter (D : Deploy) (s : Store) : InMemoryLoginRateLimiter :=
  { maxAttempts := D.loginMaxAttempts, window := D.loginWindow, attempts := s.loginAttempts }

/-- A service that asks the limiter of the logins makes one call of it. -/
lemma Store.checkAndRecord_eq (D : Deploy) (s : Store) (key : String) (now : DateTime) :
    s.checkAndRecord D key now =
      (((s.loginLimiter D).checkAndRecord key now).1,
        { s with loginAttempts := ((s.loginLimiter D).checkAndRecord key now).2.attempts }) := by
  unfold Store.checkAndRecord InMemoryLoginRateLimiter.checkAndRecord Store.loginLimiter
  dsimp only
  split <;> rfl

/-- The entries of one limiter in the memory of the others. -/
def Limiter.entries (limiter : Limiter) (l : List ((Limiter × String) × List DateTime)) :
    List (String × List DateTime) :=
  l.filterMap fun e => if e.1.1 = limiter then some (e.1.2, e.2) else none

/-- A limiter beside the one of the logins. -/
def Store.limiterOf (D : Deploy) (s : Store) (limiter : Limiter) : InMemoryLoginRateLimiter :=
  { maxAttempts := D.limiterMaxAttempts limiter, window := D.limiterWindow limiter,
    attempts := limiter.entries s.otherAttempts }

lemma Limiter.entries_append (limiter : Limiter) (l l' : List ((Limiter × String) × List DateTime)) :
    limiter.entries (l ++ l') = limiter.entries l ++ limiter.entries l' :=
  List.filterMap_append ..

lemma Limiter.lookup_entries (limiter : Limiter) (l : List ((Limiter × String) × List DateTime))
    (key : String) : (limiter.entries l).lookup key = l.lookup (limiter, key) := by
  induction l with
  | nil => rfl
  | cons e rest ih =>
    obtain ⟨⟨other, k⟩, times⟩ := e
    rw [List.lookup_cons, ← ih]
    by_cases own : other = limiter
    · subst own
      by_cases here : key = k
      · simp [Limiter.entries, here]
      · have apart : (other, key) ≠ (other, k) := fun same => here (congrArg Prod.snd same)
        simp [Limiter.entries, List.lookup_cons, beq_false_of_ne here, beq_false_of_ne apart]
    · have apart : (limiter, key) ≠ (other, k) := fun same => own (congrArg Prod.fst same).symm
      simp [Limiter.entries, own, beq_false_of_ne apart]

lemma Limiter.entries_without (limiter : Limiter) (l : List ((Limiter × String) × List DateTime))
    (key : String) :
    limiter.entries (l.filter fun e => e.1 ≠ (limiter, key)) =
      (limiter.entries l).filter fun e => e.1 ≠ key := by
  induction l with
  | nil => rfl
  | cons e rest ih =>
    obtain ⟨⟨other, k⟩, times⟩ := e
    simp only [Limiter.entries] at ih ⊢
    by_cases own : other = limiter
    · subst own
      by_cases here : k = key <;> simp_all
    · simp_all

lemma Limiter.entries_pruned (limiter : Limiter) (l : List ((Limiter × String) × List DateTime))
    (window : Duration) (now : DateTime) :
    limiter.entries ((l.map fun e =>
        (e.1, if e.1.1 = limiter then recent window now e.2 else e.2)).filter fun e => !e.2.isEmpty) =
      ((limiter.entries l).map fun e => (e.1, recent window now e.2)).filter
        fun e => !e.2.isEmpty := by
  induction l with
  | nil => rfl
  | cons e rest ih =>
    obtain ⟨⟨other, k⟩, times⟩ := e
    simp only [Limiter.entries] at ih ⊢
    by_cases own : other = limiter
    · subst own
      by_cases empty : recent window now times = [] <;> simp_all
    · by_cases empty : times = [] <;> simp_all

/-- A service that asks another limiter makes one call of that limiter. -/
lemma Store.limit_eq (D : Deploy) (s : Store) (limiter : Limiter) (key : String) (now : DateTime) :
    (s.limit D limiter key now).1 = ((s.limiterOf D limiter).checkAndRecord key now).1 ∧
      (s.limit D limiter key now).2.limiterOf D limiter =
        ((s.limiterOf D limiter).checkAndRecord key now).2 := by
  have own : ∀ times, limiter.entries [((limiter, key), times)] = [(key, times)] := fun times => by
    simp [Limiter.entries]
  -- the call's own view of the map, its entry and the entries of the others
  obtain ⟨map, eq⟩ : ∃ map, map = (s.otherAttempts.map fun e => (e.1,
      if e.1.1 = limiter then recent (D.limiterWindow limiter) now e.2 else e.2)).filter
        fun e => !e.2.isEmpty := ⟨_, rfl⟩
  have pruned : limiter.entries map = (s.limiterOf D limiter).pruned now := by
    rw [eq, limiter.entries_pruned]
    rfl
  have found := limiter.lookup_entries map key
  have others := limiter.entries_without map key
  rw [pruned] at found others
  have asked : s.limit D limiter key now =
      if ((map.lookup (limiter, key)).getD []).length ≥ D.limiterMaxAttempts limiter then
        (false, { s with otherAttempts := (map.filter fun e => e.1 ≠ (limiter, key)) ++
          [((limiter, key), (map.lookup (limiter, key)).getD [])] })
      else
        (true, { s with otherAttempts := (map.filter fun e => e.1 ≠ (limiter, key)) ++
          [((limiter, key), (map.lookup (limiter, key)).getD [] ++ [now])] }) := by
    rw [eq]
    rfl
  have max : (s.limiterOf D limiter).maxAttempts = D.limiterMaxAttempts limiter := rfl
  rw [asked, InMemoryLoginRateLimiter.checkAndRecord_pruned, found, max]
  split
  · refine ⟨rfl, ?_⟩
    rw [Store.limiterOf, limiter.entries_append, others, own]
    rfl
  · refine ⟨rfl, ?_⟩
    rw [Store.limiterOf, limiter.entries_append, others, own]
    rfl

end IdpMvp
