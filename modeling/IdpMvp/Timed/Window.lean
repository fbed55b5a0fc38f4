import IdpMvp.Timed.Machine
import Mathlib.Algebra.Order.Group.Basic
import Mathlib.Data.List.Induction

/-!
# Limits over a sliding window

A limiter grants a request for a key unless `max` requests for that key were already granted within
the last `window`. It remembers, for each key, when it granted.

In a log in the order of time no stretch shorter than the window holds more than `max` grants for one
key, a refusal leaves no trace, and keys do not see each other.
-/

namespace IdpMvp.Timed

/-- A request for a key. -/
structure Request (K T : Type*) where
  key : K
  time : T
deriving DecidableEq

section Window

variable {K T : Type*} [DecidableEq K]

/-- How many requests for a key a log grants at the times of a set. -/
def granted (log : List (Request K T × Bool)) (k : K) (W : T → Prop) [DecidablePred W] : ℕ :=
  log.countP fun e => e.2 ∧ e.1.key = k ∧ W e.1.time

lemma granted_append (log log' : List (Request K T × Bool)) (k : K) (W : T → Prop)
    [DecidablePred W] : granted (log ++ log') k W = granted log k W + granted log' k W :=
  List.countP_append ..

variable [AddCommGroup T] [LinearOrder T]

/-- The times within the window that ends at `now`. -/
def recent (window now : T) (times : List T) : List T := times.filter (now - window < ·)

/-- Grants while fewer than `max` grants are recent. -/
def grant (max : ℕ) (window : T) (times : List T) (r : Request K T) : Bool × List T :=
  if (recent window r.time times).length < max then (true, times ++ [r.time]) else (false, times)

/-- The limiter: for each key, when it granted. -/
def limiter (max : ℕ) (window : T) : Machine (K → List T) (Request K T) Bool :=
  Machine.keyed Request.key (grant max window)

/-- A stretch of time shorter than the window. -/
def Narrow (window : T) (W : T → Prop) : Prop := ∀ a b, W a → W b → b - window < a

lemma recent_append (window now : T) (times times' : List T) :
    recent window now (times ++ times') = recent window now times ++ recent window now times' :=
  List.filter_append ..

variable (max : ℕ) (window : T)

omit [DecidableEq K] in
lemma grant_fst (times : List T) (r : Request K T) :
    (grant max window times r).1 = true ↔ (recent window r.time times).length < max := by
  unfold grant
  split <;> simp_all

omit [DecidableEq K] in
lemma grant_snd (times : List T) (r : Request K T) :
    (grant max window times r).2 =
      times ++ if (grant max window times r).1 then [r.time] else [] := by
  unfold grant
  split <;> simp

/-- The limiter remembers exactly what it granted. -/
lemma limiter_after (s : K → List T) (k : K) (requests : List (Request K T)) (W : T → Prop)
    [DecidablePred W] :
    (((limiter max window).after s requests k).filter (fun t => W t)).length =
      ((s k).filter (fun t => W t)).length + granted ((limiter max window).log s requests) k W := by
  induction requests generalizing s with
  | nil => simp [granted]
  | cons r rest ih =>
    rw [Machine.after_cons, ih, Machine.log_cons, granted, granted, List.countP_cons, limiter]
    by_cases own : r.key = k
    · subst own
      rw [Machine.keyed_own, grant_snd]
      by_cases ok : (grant max window (s r.key) r).1 = true
      · by_cases inside : W r.time
        · simp [Machine.keyed, ok, inside]
          omega
        · simp [Machine.keyed, ok, inside]
      · simp [Machine.keyed, ok]
    · rw [Machine.keyed_other s own]
      simp [own]

variable {max window}

/-- A log in which nothing is later than `t` grants within the window up to `t` what is recent. -/
lemma granted_recent (log : List (Request K T × Bool)) (k : K) {t : T}
    (bound : ∀ e ∈ log, e.1.time ≤ t) :
    granted log k (fun x => t - window < x) = granted log k (fun x => t - window < x ∧ x ≤ t) := by
  refine List.countP_congr fun e mem => ?_
  simp [bound e mem]

/-- A refused request can be left out. -/
theorem limiter_erase (before later : List (Request K T)) (r : Request K T)
    (refused : ((limiter max window) ((limiter max window).after (fun _ => []) before) r).1 = false) :
    (limiter max window).log (fun _ => []) (before ++ later) =
      ((limiter max window).log (fun _ => []) (before ++ r :: later)).eraseIdx before.length := by
  refine Machine.log_eraseIdx _ _ _ _ _ (Machine.keyed_idle _ _ ?_)
  have stays := grant_snd max window ((limiter max window).after (fun _ => []) before r.key) r
  rw [stays]
  change (grant max window ((limiter max window).after (fun _ => []) before r.key) r).1 = false
    at refused
  simp [refused]

/-- What is answered for one key does not depend on the requests for others. -/
theorem limiter_filter (s : K → List T) (k : K) (requests : List (Request K T)) :
    ((limiter max window).log s requests).filter (fun e => e.1.key = k) =
      (limiter max window).log s (requests.filter (·.key = k)) :=
  Machine.keyed_log_filter s k requests

/-- A stretch of time shorter than the window holds at most `max` grants of a key. -/
theorem limiter_narrow (requests : List (Request K T)) (k : K) {W : T → Prop} [DecidablePred W]
    (narrow : Narrow window W) :
    granted ((limiter max window).log (fun _ => []) requests) k W ≤ max := by
  induction requests using List.reverseRecOn with
  | nil => simp [granted]
  | append_singleton before r ih =>
    rw [Machine.log_append, granted_append, Machine.log_cons, Machine.log_nil]
    by_cases counts : ((limiter max window) ((limiter max window).after (fun _ => []) before) r).1 =
        true ∧ r.key = k ∧ W r.time
    · -- the new grant is the last of the stretch, so that what was there is recent
      obtain ⟨ok, rfl, inside⟩ := counts
      have room : (recent window r.time
          ((limiter max window).after (fun _ => []) before r.key)).length < max :=
        (grant_fst max window _ r).mp ok
      have count := limiter_after max window (fun _ => []) r.key before
        (fun x => r.time - window < x)
      have within : granted ((limiter max window).log (fun _ => []) before) r.key W ≤
          granted ((limiter max window).log (fun _ => []) before) r.key
            (fun x => r.time - window < x) := by
        refine List.countP_mono_left fun e _ => ?_
        simp only [decide_eq_true_eq]
        rintro ⟨granted, own, at_e⟩
        exact ⟨granted, own, narrow _ _ at_e inside⟩
      rw [recent] at room
      simp only [List.filter_nil, List.length_nil, Nat.zero_add] at count
      simp only [granted, List.countP_singleton, ok, inside, and_self, decide_true, if_true]
      simp only [granted] at within count
      omega
    · have none : granted [(r, ((limiter max window)
          ((limiter max window).after (fun _ => []) before) r).1)] k W = 0 := by
        simp only [granted, List.countP_singleton, counts, decide_false]
        simp
      omega

section Ordered

variable [IsOrderedAddMonoid T]

/-- What is recent later was recent before. -/
lemma recent_recent {t t' : T} (le : t ≤ t') (times : List T) :
    recent window t' (recent window t times) = recent window t' times := by
  rw [recent, recent, recent, List.filter_filter]
  congr 1
  funext x
  have inner : t' - window < x → t - window < x := lt_of_le_of_lt (sub_le_sub_right le window)
  by_cases h : t' - window < x
  · simp [h, inner h]
  · simp [h]

lemma recent_length_le {t t' : T} (le : t ≤ t') (times : List T) :
    (recent window t' times).length ≤ (recent window t times).length := by
  rw [← recent_recent le]
  exact List.length_filter_le ..

lemma narrow_left (window x : T) : Narrow window fun t => x < t ∧ t ≤ x + window := by
  intro a b ha hb
  have : b - window ≤ x := sub_le_iff_le_add.mpr hb.2
  exact lt_of_le_of_lt this ha.1

lemma narrow_right (window x : T) : Narrow window fun t => x ≤ t ∧ t < x + window := by
  intro a b ha hb
  have : b - window < x := sub_lt_iff_lt_add.mpr hb.2
  exact lt_of_lt_of_le this ha.1

/-- At any moment at most `max` grants of a key are recent. -/
lemma limiter_recent {requests : List (Request K T)}
    (ordered : requests.Pairwise (·.time ≤ ·.time)) {t : T} (bound : ∀ r ∈ requests, r.time ≤ t)
    (k : K) : (recent window t ((limiter max window).after (fun _ => []) requests k)).length ≤ max := by
  refine Machine.invariant Request.time (m := limiter max window)
    (P := fun t s => ∀ k, (recent window t (s k)).length ≤ max) ?_ ?_ ordered ?_ bound k
  · intro t t' s le few k
    exact (recent_length_le le (s k)).trans (few k)
  · intro r s few k
    by_cases own : r.key = k
    · subst own
      rw [limiter, Machine.keyed_own, grant_snd, recent_append, List.length_append]
      by_cases ok : (grant max window (s r.key) r).1 = true
      · have room := (grant_fst max window (s r.key) r).mp ok
        have one : (recent window r.time [r.time]).length ≤ 1 := List.length_filter_le ..
        rw [if_pos ok]
        omega
      · rw [if_neg ok]
        simpa [recent] using few r.key
    · rw [limiter, Machine.keyed_other s own]
      exact few k
  · intro t k
    simp [recent]

/-- A request is refused exactly when `max` requests of its key were granted in the window that ends
with it. -/
theorem limiter_refuses {before : List (Request K T)} {r : Request K T}
    (ordered : (before ++ [r]).Pairwise (·.time ≤ ·.time)) :
    ((limiter max window) ((limiter max window).after (fun _ => []) before) r).1 = false ↔
      granted ((limiter max window).log (fun _ => []) before) r.key
        (fun x => r.time - window < x ∧ x ≤ r.time) = max := by
  obtain ⟨sorted, -, bound⟩ := List.pairwise_append.mp ordered
  have earlier : ∀ q ∈ before, q.time ≤ r.time := fun q mem => bound q mem r List.mem_cons_self
  have count := limiter_after max window (fun _ => []) r.key before
    (fun x => r.time - window < x)
  have few : (recent window r.time ((limiter max window).after (fun _ => []) before r.key)).length ≤
    max := limiter_recent sorted earlier r.key
  rw [granted_recent _ _ fun e mem => earlier e.1 ?_] at count
  · simp only [List.filter_nil, List.length_nil, Nat.zero_add] at count
    rw [← count, limiter, Machine.keyed, ← Bool.not_eq_true, grant_fst]
    rw [recent] at few
    rw [limiter] at few
    rw [recent]
    omega
  · rw [← Machine.log_fst (limiter max window) (fun _ => []) before]
    exact List.mem_map_of_mem mem

end Ordered

end Window

end IdpMvp.Timed
