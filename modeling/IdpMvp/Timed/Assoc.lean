import Mathlib.Tactic.Common
import Mathlib.Data.List.Nodup

/-!
# Maps as lists of entries

A map with one entry for each key, as a list of keys and values. An entry is set by taking out what
stands at its key and adding it at the end.
-/

namespace IdpMvp.Timed

variable {K V W : Type*} [DecidableEq K]

@[simp] lemma lookup_filter_self (l : List (K × V)) (key : K) :
    (l.filter fun e => e.1 ≠ key).lookup key = none := by
  rw [List.lookup_eq_none_iff]
  rintro ⟨k, v⟩ mem
  have other : k ≠ key := by simpa using (List.mem_filter.mp mem).2
  simpa using other.symm

lemma lookup_filter_other (l : List (K × V)) {key k : K} (other : k ≠ key) :
    (l.filter fun e => e.1 ≠ key).lookup k = l.lookup k := by
  induction l with
  | nil => rfl
  | cons e rest ih =>
    obtain ⟨k', v⟩ := e
    by_cases out : k' = key
    · subst out
      rw [List.filter_cons_of_neg (by simp), ih, List.lookup_cons, beq_false_of_ne other]
    · rw [List.filter_cons_of_pos (by simpa using out), List.lookup_cons, List.lookup_cons, ih]

/-- An entry that was set is found at its key. -/
lemma lookup_set_self (l : List (K × V)) (key : K) (v : V) :
    ((l.filter fun e => e.1 ≠ key) ++ [(key, v)]).lookup key = some v := by
  rw [List.lookup_append, lookup_filter_self]
  simp

/-- The other entries stay. -/
lemma lookup_set_other (l : List (K × V)) (v : V) {key k : K} (other : k ≠ key) :
    ((l.filter fun e => e.1 ≠ key) ++ [(key, v)]).lookup k = l.lookup k := by
  rw [List.lookup_append, lookup_filter_other l other]
  simp [List.lookup_cons, beq_false_of_ne other]

omit [DecidableEq K] in
lemma nodup_keys_filter {l : List (K × V)} (once : (l.map Prod.fst).Nodup) (p : K × V → Bool) :
    ((l.filter p).map Prod.fst).Nodup :=
  once.sublist (List.filter_sublist.map Prod.fst)

lemma nodup_keys_set {l : List (K × V)} (once : (l.map Prod.fst).Nodup) (key : K) (v : V) :
    (((l.filter fun e => e.1 ≠ key) ++ [(key, v)]).map Prod.fst).Nodup := by
  rw [List.map_append, List.nodup_append]
  refine ⟨nodup_keys_filter once _, by simp, ?_⟩
  rintro k mem _ here rfl
  obtain ⟨e, inside, rfl⟩ := List.mem_map.mp mem
  have other := (List.mem_filter.mp inside).2
  simp_all

/-- Where every key has one entry, entries are changed and dropped where they stand. -/
lemma lookup_map_filter {l : List (K × V)} (once : (l.map Prod.fst).Nodup) (f : V → W)
    (keep : W → Bool) (key : K) :
    ((l.map fun e => (e.1, f e.2)).filter fun e => keep e.2).lookup key =
      (l.lookup key).bind fun v => if keep (f v) then some (f v) else none := by
  induction l with
  | nil => rfl
  | cons e rest ih =>
    obtain ⟨k, v⟩ := e
    obtain ⟨fresh, others⟩ := List.nodup_cons.mp once
    have tail := ih others
    rw [List.map_cons, List.filter_cons, List.lookup_cons]
    by_cases here : key = k
    · subst here
      by_cases kept : keep (f v)
      · simp [kept]
      · -- the entry is dropped, and there is no other at this key
        have absent : rest.lookup key = none := by
          rw [List.lookup_eq_none_iff]
          intro e mem
          have differs : key ≠ e.1 := fun same => fresh (List.mem_map.mpr ⟨e, mem, same.symm⟩)
          simpa using differs
        simp [kept, tail, absent]
    · by_cases kept : keep (f v)
      · simp [kept, tail, List.lookup_cons, beq_false_of_ne here]
      · simp [kept, tail, beq_false_of_ne here]

end IdpMvp.Timed
