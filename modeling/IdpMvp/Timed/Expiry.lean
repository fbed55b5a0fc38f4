import IdpMvp.Timed.Machine
import Mathlib.Algebra.Order.Group.Defs
import Mathlib.Data.List.Induction

/-!
# Values that expire

A map from keys to values, in which a value is found for a fixed time after it was put in. What it
answers is said by the log of its accesses: the last that wrote the key.
-/

namespace IdpMvp.Timed

/-- What is asked of a map. -/
inductive Access (K V : Type*) where
  | get (key : K)
  | insert (key : K) (value : V)
  | invalidate (key : K)
deriving DecidableEq

/-- The key of an access. -/
def Access.key {K V : Type*} : Access K V → K
  | get key | insert key _ | invalidate key => key

/-- Whether an access writes its key. -/
def Access.writes {K V : Type*} : Access K V → Bool
  | get _ => false
  | insert _ _ | invalidate _ => true

/-- An access and when it is made. -/
structure Visit (K V T : Type*) where
  access : Access K V
  time : T
deriving DecidableEq

/-- The key of the access. -/
def Visit.key {K V T : Type*} (a : Visit K V T) : K := a.access.key

variable {K V T : Type*} [DecidableEq K] [Add T] [LT T] [DecidableLT T]

/-- One key: the value it was given last and when. -/
def holding (ttl : T) (s : Option (V × T)) (a : Visit K V T) : Option V × Option (V × T) :=
  match a.access with
  | .get _ => (s.bind fun w => if a.time < w.2 + ttl then some w.1 else none, s)
  | .insert _ value => (none, some (value, a.time))
  | .invalidate _ => (none, none)

/-- The map: for each key, what it was given last and when. Only a `get` has an answer. -/
def expiring (ttl : T) : Machine (K → Option (V × T)) (Visit K V T) (Option V) :=
  Machine.keyed Visit.key (holding ttl)

/-- The last access of a sequence that writes a key. -/
def lastWrite (k : K) (accesses : List (Visit K V T)) : Option (Visit K V T) :=
  (accesses.filter fun a => a.access.writes ∧ a.key = k).getLast?

/-- A key holds what the last access that wrote it put in. -/
lemma expiring_after (ttl : T) (k : K) (accesses : List (Visit K V T)) (v : V) (t : T) :
    (expiring ttl).after (fun _ => none) accesses k = some (v, t) ↔
      lastWrite k accesses = some ⟨.insert k v, t⟩ := by
  induction accesses using List.reverseRecOn with
  | nil => simp [lastWrite]
  | append_singleton before a ih =>
    rw [Machine.after_append, Machine.after_cons, Machine.after_nil, expiring]
    rw [lastWrite, List.filter_append]
    by_cases own : a.key = k
    · subst own
      rw [Machine.keyed_own]
      obtain ⟨access, time⟩ := a
      cases access with
      | get key => simpa [holding, Access.writes, expiring, lastWrite] using ih
      | insert key value =>
        simp [holding, Access.writes, Visit.key, Access.key]
      | invalidate key => simp [holding, Access.writes, Visit.key, Access.key]
    · rw [Machine.keyed_other _ own]
      simpa [own, expiring, lastWrite] using ih

/-- A `get` finds the value the last write of its key put in, for as long as it lives. -/
theorem expiring_get (ttl : T) (before : List (Visit K V T)) (k : K) (t : T) (v : V) :
    ((expiring ttl) ((expiring ttl).after (fun _ => none) before) ⟨.get k, t⟩).1 = some v ↔
      ∃ t₀, lastWrite k before = some ⟨.insert k v, t₀⟩ ∧ t < t₀ + ttl := by
  have holds := expiring_after ttl k before v
  change (((expiring ttl).after (fun _ => none) before k).bind fun w =>
    if t < w.2 + ttl then some w.1 else none) = some v ↔ _
  constructor
  · intro found
    obtain ⟨⟨v', t₀⟩, held, alive⟩ := Option.bind_eq_some_iff.mp found
    split at alive
    case isTrue lives =>
      obtain rfl := Option.some.inj alive
      exact ⟨t₀, (holds t₀).mp held, lives⟩
    case isFalse => cases alive
  · rintro ⟨t₀, last, lives⟩
    rw [(holds t₀).mpr last]
    simp [lives]

/-- A `get` can be left out. -/
theorem expiring_erase (ttl : T) (before later : List (Visit K V T)) (k : K) (t : T) :
    (expiring ttl).log (fun _ => none) (before ++ later) =
      ((expiring ttl).log (fun _ => none) (before ++ ⟨.get k, t⟩ :: later)).eraseIdx before.length :=
  Machine.log_eraseIdx _ _ _ _ _ (Machine.keyed_idle _ _ rfl)

/-- What is answered for one key does not depend on the accesses to others. -/
theorem expiring_filter (ttl : T) (k : K) (accesses : List (Visit K V T)) :
    ((expiring ttl).log (fun _ => none) accesses).filter (fun e => e.1.key = k) =
      (expiring ttl).log (fun _ => none) (accesses.filter (·.key = k)) :=
  Machine.keyed_log_filter _ k accesses

end IdpMvp.Timed
