import IdpMvp.Store.Ops
import IdpMvp.Timed.Assoc
import IdpMvp.Timed.Expiry
import Mathlib.Algebra.Order.Group.Int

/-!
# The in-memory cache

`infrastructure/cache.rs`. A `get` takes out an entry that has expired, so the map is not what was
inserted last; but an entry that is gone or expired stays so until the next insert, and the cache
answers as the map of the values that expire does.
-/

namespace IdpMvp

open Timed

/-- `Entry`. -/
structure Entry (V : Type) where
  value : V
  expiresAt : DateTime
  deriving DecidableEq

/-- `InMemoryTtlCache`, its clock aside: each operation is given what the clock shows. -/
structure InMemoryTtlCache (K V : Type) where
  ttl : Duration
  entries : List (K × Entry V)

namespace InMemoryTtlCache

variable {K V : Type} [DecidableEq K]

omit [DecidableEq K] in
/-- `InMemoryTtlCache::new`. -/
def new (ttl : Duration) : InMemoryTtlCache K V :=
  { ttl, entries := [] }

/-- `get`: an entry that has expired is removed. -/
def get (c : InMemoryTtlCache K V) (key : K) (now : DateTime) : Option V × InMemoryTtlCache K V :=
  match c.entries.lookup key with
  | some entry =>
    if entry.expiresAt > now then (some entry.value, c)
    else (none, { c with entries := c.entries.filter fun e => e.1 ≠ key })
  | none => (none, c)

/-- `insert`. -/
def insert (c : InMemoryTtlCache K V) (key : K) (value : V) (now : DateTime) :
    InMemoryTtlCache K V :=
  let expiresAt := now + c.ttl
  { c with entries := (c.entries.filter fun e => e.1 ≠ key) ++ [(key, ⟨value, expiresAt⟩)] }

/-- `invalidate`. -/
def invalidate (c : InMemoryTtlCache K V) (key : K) : InMemoryTtlCache K V :=
  { c with entries := c.entries.filter fun e => e.1 ≠ key }

/-- The cache as a machine that is accessed time after time; only `get` answers. -/
def machine : Machine (InMemoryTtlCache K V) (Visit K V DateTime) (Option V) := fun c a =>
  match a.access with
  | .get key => c.get key a.time
  | .insert key value => (none, c.insert key value a.time)
  | .invalidate key => (none, c.invalidate key)

/-- What a cache holds of a value that was put in at a time. -/
def entry (ttl : Duration) (w : V × DateTime) : Entry V := ⟨w.1, w.2 + ttl⟩

/-- The cache holds the entry of each value that was put in, or holds nothing of one that has
expired. -/
structure Caches (ttl : Duration) (now : DateTime) (c : InMemoryTtlCache K V)
    (s : K → Option (V × DateTime)) : Prop where
  same_ttl : c.ttl = ttl
  alike : ∀ k, c.entries.lookup k = (s k).map (entry ttl) ∨
    c.entries.lookup k = none ∧ ∀ w ∈ s k, w.2 + ttl ≤ now

lemma caches_new (ttl : Duration) (now : DateTime) :
    Caches ttl now (new ttl : InMemoryTtlCache K V) fun _ => none :=
  ⟨rfl, fun _ => .inl rfl⟩

lemma Caches.later {ttl : Duration} {now now' : DateTime} {c : InMemoryTtlCache K V}
    {s : K → Option (V × DateTime)} (le : now ≤ now') (h : Caches ttl now c s) :
    Caches ttl now' c s := by
  refine ⟨h.same_ttl, fun k => ?_⟩
  obtain held | ⟨gone, expired⟩ := h.alike k
  · exact .inl held
  · exact .inr ⟨gone, fun w mem => (expired w mem).trans le⟩

/-- A `get` answers alike, whether or not it removes the entry. -/
lemma Caches.get {ttl : Duration} {now : DateTime} {c : InMemoryTtlCache K V}
    {s : K → Option (V × DateTime)} (h : Caches ttl now c s) (key : K) :
    (c.get key now).1 = (holding ttl (s key) ⟨.get key, now⟩).1 ∧
      Caches ttl now (c.get key now).2 s := by
  have answer : (holding ttl (s key) ⟨.get key, now⟩).1 =
      (s key).bind fun w => if now < w.2 + ttl then some w.1 else none := rfl
  rw [answer, InMemoryTtlCache.get]
  obtain held | ⟨gone, expired⟩ := h.alike key
  · rw [held]
    cases put : s key with
    | none => exact ⟨rfl, h⟩
    | some w =>
      simp only [Option.map_some, entry, Option.bind_some]
      by_cases lives : now < w.2 + ttl
      · rw [if_pos lives, if_pos lives]
        exact ⟨rfl, h⟩
      · rw [if_neg lives, if_neg lives]
        refine ⟨rfl, h.same_ttl, fun k => ?_⟩
        by_cases own : k = key
        · -- the entry is gone, and its value has expired
          subst own
          refine .inr ⟨lookup_filter_self _ k, fun w' mem => ?_⟩
          rw [put] at mem
          obtain rfl := Option.some.inj mem
          exact not_lt.mp lives
        · rw [lookup_filter_other _ own]
          exact h.alike k
  · rw [gone]
    refine ⟨?_, h⟩
    cases put : s key with
    | none => rfl
    | some w =>
      have late := expired w put
      simp [not_lt.mpr late]

/-- One access: the same answer, and the cache still holds what was put in. -/
lemma Caches.step {ttl : Duration} {a : Visit K V DateTime} {c : InMemoryTtlCache K V}
    {s : K → Option (V × DateTime)} (h : Caches ttl a.time c s) :
    (machine c a).1 = (expiring ttl s a).1 ∧
      Caches ttl a.time (machine c a).2 (expiring ttl s a).2 := by
  obtain ⟨access, now⟩ := a
  cases access with
  | get key =>
    obtain ⟨answer, holds⟩ := h.get key
    have idle : (expiring ttl s ⟨.get key, now⟩).2 = s := Machine.keyed_idle s _ rfl
    rw [idle]
    exact ⟨answer, holds⟩
  | insert key value =>
    refine ⟨rfl, h.same_ttl, fun k => ?_⟩
    by_cases own : k = key
    · subst own
      have given : (expiring ttl s ⟨.insert k value, now⟩).2 k = some (value, now) :=
        Machine.keyed_own s _
      rw [given, Option.map_some, entry, ← h.same_ttl]
      exact .inl (lookup_set_self c.entries k _)
    · rw [expiring, Machine.keyed_other s (Ne.symm own)]
      exact (lookup_set_other c.entries _ own).symm ▸ h.alike k
  | invalidate key =>
    refine ⟨rfl, h.same_ttl, fun k => ?_⟩
    by_cases own : k = key
    · subst own
      have taken : (expiring ttl s ⟨.invalidate k, now⟩).2 k = none := Machine.keyed_own s _
      rw [taken]
      exact .inl (lookup_filter_self c.entries k)
    · rw [expiring, Machine.keyed_other s (Ne.symm own)]
      exact (lookup_filter_other c.entries own).symm ▸ h.alike k

/-- In the order of time the cache answers as the map of the values that expire does. -/
theorem log_eq (ttl : Duration) {accesses : List (Visit K V DateTime)}
    (ordered : accesses.Pairwise (·.time ≤ ·.time)) :
    machine.log (new ttl) accesses = (expiring ttl).log (fun _ => none) accesses :=
  (Machine.simulation Visit.time (R := Caches ttl) (fun _ _ _ _ le h => Caches.later le h)
    (fun _ _ _ h => Caches.step h) ordered (caches_new ttl)).1

/-- It answers each access of the sequence alike. -/
lemma answer_eq (ttl : Duration) {before : List (Visit K V DateTime)} {a : Visit K V DateTime}
    (ordered : (before ++ [a]).Pairwise (·.time ≤ ·.time)) :
    (machine (machine.after (new ttl) before) a).1 =
      (expiring ttl ((expiring ttl).after (fun _ => none) before) a).1 :=
  Machine.answer_of_log (log_eq ttl ordered)

/-- In any sequence of accesses in the order of time a `get` finds a value exactly when the last
access that wrote its key put it in and it has not expired. Without a `get` the others are answered
the same, and so are the accesses of one key without those of the others. -/
theorem refines_log (ttl : Duration) (accesses : List (Visit K V DateTime))
    (ordered : accesses.Pairwise (·.time ≤ ·.time)) :
    (∀ before k t later, accesses = before ++ ⟨.get k, t⟩ :: later → ∀ v,
      ((machine.after (new ttl) before).get k t).1 = some v ↔
        ∃ t₀, lastWrite k before = some ⟨.insert k v, t₀⟩ ∧ t < t₀ + ttl) ∧
    (∀ before k t later, accesses = before ++ ⟨.get k, t⟩ :: later →
      machine.log (new ttl) (before ++ later) =
        (machine.log (new ttl) accesses).eraseIdx before.length) ∧
    ∀ k, (machine.log (new ttl) accesses).filter (fun e => e.1.key = k) =
      machine.log (new ttl) (accesses.filter (·.key = k)) := by
  refine ⟨?_, ?_, ?_⟩
  · rintro before k t later rfl v
    have upto : (before ++ [(⟨.get k, t⟩ : Visit K V DateTime)]).Pairwise (·.time ≤ ·.time) := by
      refine ordered.sublist (List.Sublist.append_left ?_ before)
      exact (List.nil_sublist later).cons_cons _
    rw [← expiring_get, ← answer_eq ttl upto]
    rfl
  · rintro before k t later rfl
    have without : (before ++ later).Pairwise (·.time ≤ ·.time) :=
      ordered.sublist (List.Sublist.append_left (List.sublist_cons_self _ later) before)
    rw [log_eq ttl ordered, log_eq ttl without]
    exact expiring_erase ttl before later k t
  · intro k
    rw [log_eq ttl ordered, log_eq ttl (ordered.sublist List.filter_sublist)]
    exact expiring_filter ttl k accesses

/-- A value is found within its minute. -/
theorem refines_log_sample :
    ((machine.after (new 60) [(⟨.insert "k" 42, 0⟩ : Visit String Nat DateTime)]).get "k" 59).1 =
      some 42 :=
  ((refines_log (K := String) (V := Nat) 60
    [⟨.insert "k" 42, 0⟩, ⟨.get "k", 59⟩, ⟨.insert "a" 1, 60⟩, ⟨.get "k", 61⟩] (by decide)).1
      [⟨.insert "k" 42, 0⟩] "k" 59 [⟨.insert "a" 1, 60⟩, ⟨.get "k", 61⟩] rfl 42).mpr
    ⟨0, rfl, by decide⟩

end InMemoryTtlCache

/-! ## The caches of the services -/

/-- The cache of the permissions. -/
def Store.permissionTtlCache (D : Deploy) (s : Store) : InMemoryTtlCache PermissionKey Bool :=
  { ttl := D.permissionCacheTtl
    entries := s.permissionCache.map fun e => (e.key, ⟨e.value, e.expiresAt⟩) }

/-- The cache of the tenant resolution. -/
def Store.tenantTtlCache (D : Deploy) (s : Store) : InMemoryTtlCache TenantId Tenant :=
  { ttl := D.tenantCacheTtl
    entries := s.tenantCache.map fun e => (e.key, ⟨e.value, e.expiresAt⟩) }

/-- The entry that a list of records holds for a key. -/
lemma lookup_find? {E K V : Type} [DecidableEq K] (key : E → K) (entry : E → Entry V) (l : List E)
    (k : K) : (l.map fun e => (key e, entry e)).lookup k = (l.find? (key · = k)).map entry := by
  induction l with
  | nil => rfl
  | cons e rest ih =>
    rw [List.map_cons, List.lookup_cons, List.find?_cons, ih]
    by_cases own : key e = k
    · simp [own]
    · simp [own, beq_false_of_ne (Ne.symm own)]

/-- The records of the other keys. -/
lemma filter_entries {E K V : Type} [DecidableEq K] (key : E → K) (entry : E → Entry V)
    (l : List E) (k : K) :
    (l.filter (key · ≠ k)).map (fun e => (key e, entry e)) =
      (l.map fun e => (key e, entry e)).filter fun e => e.1 ≠ k := by
  rw [List.filter_map]
  rfl

/-- What a service asks of the cache of the permissions, it asks of an `InMemoryTtlCache`. -/
lemma Store.permissionTtlCache_eq (D : Deploy) (s : Store) (key : PermissionKey) (value : Bool)
    (now : DateTime) :
    ((s.cacheGet key now).1, (s.cacheGet key now).2.permissionTtlCache D) =
        (s.permissionTtlCache D).get key now ∧
      (s.cacheInsert D key value now).permissionTtlCache D =
        (s.permissionTtlCache D).insert key value now ∧
      (s.uncache key).permissionTtlCache D = (s.permissionTtlCache D).invalidate key := by
  have rest := filter_entries PermissionEntry.key (fun e => ⟨e.value, e.expiresAt⟩)
    s.permissionCache key
  refine ⟨?_, ?_, ?_⟩
  · have held : (s.permissionTtlCache D).entries.lookup key = (s.cached key).map _ :=
      lookup_find? PermissionEntry.key (fun e => ⟨e.value, e.expiresAt⟩) s.permissionCache key
    rw [InMemoryTtlCache.get, Store.cacheGet, held]
    cases s.cached key with
    | none => rfl
    | some entry =>
      dsimp only [Option.map_some]
      split
      · rfl
      · simp only [Store.permissionTtlCache, Store.uncache, rest]
  · simp only [Store.permissionTtlCache, Store.cacheInsert, InMemoryTtlCache.insert,
      List.map_append, rest]
    rfl
  · simp only [Store.permissionTtlCache, Store.uncache, InMemoryTtlCache.invalidate, rest]

/-- The same of the cache of the tenant resolution. -/
lemma Store.tenantTtlCache_eq (D : Deploy) (s : Store) (key : TenantId) (value : Tenant)
    (now : DateTime) :
    ((s.tenantCacheGet key now).1, (s.tenantCacheGet key now).2.tenantTtlCache D) =
        (s.tenantTtlCache D).get key now ∧
      (s.tenantCacheInsert D key value now).tenantTtlCache D =
        (s.tenantTtlCache D).insert key value now ∧
      (s.uncacheTenant key).tenantTtlCache D = (s.tenantTtlCache D).invalidate key := by
  have rest := filter_entries TenantEntry.key (fun e => ⟨e.value, e.expiresAt⟩) s.tenantCache key
  refine ⟨?_, ?_, ?_⟩
  · have held : (s.tenantTtlCache D).entries.lookup key = (s.cachedTenant key).map _ :=
      lookup_find? TenantEntry.key (fun e => ⟨e.value, e.expiresAt⟩) s.tenantCache key
    rw [InMemoryTtlCache.get, Store.tenantCacheGet, held]
    cases s.cachedTenant key with
    | none => rfl
    | some entry =>
      dsimp only [Option.map_some]
      split
      · rfl
      · simp only [Store.tenantTtlCache, Store.uncacheTenant, rest]
  · simp only [Store.tenantTtlCache, Store.tenantCacheInsert, InMemoryTtlCache.insert,
      List.map_append, rest]
    rfl
  · simp only [Store.tenantTtlCache, Store.uncacheTenant, InMemoryTtlCache.invalidate, rest]

end IdpMvp
