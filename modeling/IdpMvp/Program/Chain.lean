import Mathlib.Data.List.Nodup
import Mathlib.Logic.Relation
import Mathlib.Tactic.Common

/-!
# Rotation chains

A table of rows that form chains: a row has a key and may name the key of its parent. Rows are added
at the end, as a root or as the first child of a row that was retired before; a row carries the grant
of its root along. This is the shape of rotating credentials: whoever presents the last one of a chain
gets it replaced by a new one.

`Rotation` is the invariant such a table keeps, with one closure lemma for each way it changes. The
second half is what it means for the chains: no cycles, one root above every row, any two rows of a
chain comparable, and at most one row of a chain not retired, its last.
-/

namespace IdpMvp.Program

variable {α κ γ : Type}

/-- A table keeps its keys apart when a row with a new key is added. -/
lemma nodup_map_snoc {key : α → κ} {l : List α} {a : α} (nodup : (l.map key).Nodup)
    (fresh : ∀ b ∈ l, key b ≠ key a) : ((l ++ [a]).map key).Nodup := by
  rw [List.map_append, List.nodup_append]
  refine ⟨nodup, by simp, ?_⟩
  intro k memk k' memk' e
  obtain ⟨b, memb, rfl⟩ := List.mem_map.mp memk
  simp only [List.map_cons, List.map_nil, List.mem_singleton] at memk'
  exact fresh b memb (e.trans memk')

/-- In a table whose keys are apart, rows with one key are one row. -/
lemma eq_of_nodup_map {key : α → κ} {l : List α} (nodup : (l.map key).Nodup) {a b : α} (mem : a ∈ l)
    (mem' : b ∈ l) (e : key a = key b) : a = b :=
  List.inj_on_of_nodup_map nodup mem mem' e

/-- The rows after an update: they are as before, or updated. -/
lemma mem_map_ite {p : α → Prop} [DecidablePred p] {f : α → α} {l : List α} {b : α}
    (mem : b ∈ l.map fun a => if p a then f a else a) : b ∈ l ∨ ∃ a ∈ l, p a ∧ b = f a := by
  obtain ⟨a, row, rfl⟩ := List.mem_map.mp mem
  by_cases h : p a
  · exact .inr ⟨a, row, h, if_pos h⟩
  · exact .inl (by rwa [if_neg h])

section
variable (key : α → κ) (parent : α → Option κ) (grant : α → γ) (retired : α → Prop)

/-- `b` is a child of `a` within the table `l`. -/
def Child (l : List α) (a b : α) : Prop := a ∈ l ∧ b ∈ l ∧ parent b = some (key a)

/-- The invariant of a table of rotation chains. -/
structure Rotation (l : List α) : Prop where
  keys_nodup : (l.map key).Nodup
  parent_mem : ∀ a ∈ l, ∀ k, parent a = some k →
    ∃ p ∈ l, key p = k ∧ retired p ∧ grant p = grant a
  /-- No row names itself or a later row as its parent. -/
  ordered : l.Pairwise (fun a b => parent a ≠ some (key b))
  not_self : ∀ a ∈ l, parent a ≠ some (key a)
  single_child : ∀ a ∈ l, ∀ b ∈ l, ∀ k, parent a = some k → parent b = some k → a = b

end

namespace Rotation

variable {key : α → κ} {parent : α → Option κ} {grant : α → γ} {retired : α → Prop} {l : List α}

/-! ## How the table changes -/

lemma nil : Rotation key parent grant retired [] :=
  ⟨by simp, by simp, List.Pairwise.nil, by simp, by simp⟩

/-- A key that is not in the table is nobody's parent. -/
lemma parent_ne (rot : Rotation key parent grant retired l) {a : α} (mem : a ∈ l) {k : κ}
    (fresh : ∀ b ∈ l, key b ≠ k) : parent a ≠ some k := by
  intro e
  obtain ⟨p, memp, ek, -, -⟩ := rot.parent_mem a mem k e
  exact fresh p memp ek

/-- A new row with a new key; if it has a parent, it is the parent's first child. -/
lemma append (rot : Rotation key parent grant retired l) {a : α}
    (fresh : ∀ b ∈ l, key b ≠ key a)
    (child : ∀ k, parent a = some k → (∃ p ∈ l, key p = k ∧ retired p ∧ grant p = grant a) ∧
      ∀ b ∈ l, parent b ≠ some k) :
    Rotation key parent grant retired (l ++ [a]) where
  keys_nodup := nodup_map_snoc rot.keys_nodup fresh
  parent_mem := by
    intro b mem k e
    have found : ∃ p ∈ l, key p = k ∧ retired p ∧ grant p = grant b := by
      rw [List.mem_append, List.mem_singleton] at mem
      obtain mem | rfl := mem
      · exact rot.parent_mem b mem k e
      · exact (child k e).1
    obtain ⟨p, memp, rest⟩ := found
    exact ⟨p, List.mem_append_left _ memp, rest⟩
  ordered := by
    rw [List.pairwise_append]
    refine ⟨rot.ordered, List.pairwise_singleton _ _, ?_⟩
    intro b mem c memc
    rw [List.mem_singleton] at memc
    subst memc
    exact rot.parent_ne mem fresh
  not_self := by
    intro b mem e
    rw [List.mem_append, List.mem_singleton] at mem
    obtain mem | rfl := mem
    · exact rot.not_self b mem e
    · obtain ⟨p, memp, ek, -, -⟩ := (child _ e).1
      exact fresh p memp ek
  single_child := by
    intro b mem c memc k e e'
    rw [List.mem_append, List.mem_singleton] at mem memc
    obtain mem | rfl := mem
    · obtain memc | rfl := memc
      · exact rot.single_child b mem c memc k e e'
      · exact absurd e ((child k e').2 b mem)
    · obtain memc | rfl := memc
      · exact absurd e' ((child k e).2 c memc)
      · rfl

lemma append_root (rot : Rotation key parent grant retired l) {a : α}
    (fresh : ∀ b ∈ l, key b ≠ key a) (root : parent a = none) :
    Rotation key parent grant retired (l ++ [a]) :=
  rot.append fresh (by simp [root])

lemma append_child (rot : Rotation key parent grant retired l) {p a : α} (memp : p ∈ l)
    (fresh : ∀ b ∈ l, key b ≠ key a) (child : parent a = some (key p))
    (first : ∀ b ∈ l, parent b ≠ some (key p)) (done : retired p) (same : grant p = grant a) :
    Rotation key parent grant retired (l ++ [a]) := by
  refine rot.append fresh ?_
  intro k e
  rw [child, Option.some.injEq] at e
  subst e
  exact ⟨⟨p, memp, rfl, done, same⟩, first⟩

/-- An update that keeps keys, parents and grants and only retires rows. -/
lemma map (rot : Rotation key parent grant retired l) {f : α → α} (hkey : ∀ a, key (f a) = key a)
    (hparent : ∀ a, parent (f a) = parent a) (hgrant : ∀ a, grant (f a) = grant a)
    (hretired : ∀ a, retired a → retired (f a)) :
    Rotation key parent grant retired (l.map f) where
  keys_nodup := by
    have e : (l.map f).map key = l.map key := by
      simp [List.map_map, Function.comp_def, hkey]
    rw [e]
    exact rot.keys_nodup
  parent_mem := by
    intro b mem k e
    obtain ⟨a, mema, rfl⟩ := List.mem_map.mp mem
    rw [hparent] at e
    obtain ⟨p, memp, ek, done, same⟩ := rot.parent_mem a mema k e
    exact ⟨f p, List.mem_map_of_mem memp, (hkey p).trans ek, hretired p done, by
      rw [hgrant, hgrant, same]⟩
  ordered := by
    rw [List.pairwise_map]
    exact rot.ordered.imp fun {a b} ne => by rwa [hparent, hkey]
  not_self := by
    intro b mem
    obtain ⟨a, mema, rfl⟩ := List.mem_map.mp mem
    rw [hparent, hkey]
    exact rot.not_self a mema
  single_child := by
    intro b mem c memc k e e'
    obtain ⟨a, mema, rfl⟩ := List.mem_map.mp mem
    obtain ⟨a', mema', rfl⟩ := List.mem_map.mp memc
    rw [hparent] at e e'
    rw [rot.single_child a mema a' mema' k e e']

/-- A deletion that takes whole grants. -/
lemma filter (rot : Rotation key parent grant retired l) {p : α → Bool}
    (whole : ∀ a b, grant a = grant b → p a = p b) :
    Rotation key parent grant retired (l.filter p) where
  keys_nodup := rot.keys_nodup.sublist (List.filter_sublist.map key)
  parent_mem := by
    intro b mem k e
    obtain ⟨mem, kept⟩ := List.mem_filter.mp mem
    obtain ⟨q, memq, ek, done, same⟩ := rot.parent_mem b mem k e
    exact ⟨q, List.mem_filter.mpr ⟨memq, (whole q b same).trans kept⟩, ek, done, same⟩
  ordered := rot.ordered.sublist List.filter_sublist
  not_self := fun a mem => rot.not_self a (List.mem_of_mem_filter mem)
  single_child := fun a mem b mem' =>
    rot.single_child a (List.mem_of_mem_filter mem) b (List.mem_of_mem_filter mem')

/-! ## What it means for the chains -/

/-- Rows with the same key are the same row. -/
lemma key_inj (rot : Rotation key parent grant retired l) {a b : α} (mema : a ∈ l) (memb : b ∈ l)
    (e : key a = key b) : a = b :=
  List.inj_on_of_nodup_map rot.keys_nodup mema memb e

lemma leftUnique (rot : Rotation key parent grant retired l) {a a' b : α}
    (c : Child key parent l a b) (c' : Child key parent l a' b) : a = a' := by
  obtain ⟨mema, -, e⟩ := c
  obtain ⟨mema', -, e'⟩ := c'
  rw [e, Option.some.injEq] at e'
  exact rot.key_inj mema mema' e'

lemma rightUnique (rot : Rotation key parent grant retired l) :
    Relator.RightUnique (Child key parent l) :=
  fun _ b b' c c' => rot.single_child b c.2.1 b' c'.2.1 _ c.2.2 c'.2.2

lemma child_retired (rot : Rotation key parent grant retired l) {a b : α}
    (c : Child key parent l a b) : retired a ∧ grant a = grant b := by
  obtain ⟨mema, memb, e⟩ := c
  obtain ⟨p, memp, ek, done, same⟩ := rot.parent_mem b memb _ e
  obtain rfl := rot.key_inj memp mema ek
  exact ⟨done, same⟩

/-- A child stands after its parent. -/
lemma child_idxOf_lt [DecidableEq α] (rot : Rotation key parent grant retired l) {a b : α}
    (c : Child key parent l a b) : l.idxOf a < l.idxOf b := by
  obtain ⟨mema, memb, e⟩ := c
  by_contra le
  obtain lt | eq := Nat.lt_or_eq_of_le (Nat.not_lt.mp le)
  · have later := List.pairwise_iff_getElem.mp rot.ordered (l.idxOf b) (l.idxOf a)
      (List.idxOf_lt_length_of_mem memb) (List.idxOf_lt_length_of_mem mema) lt
    rw [List.getElem_idxOf, List.getElem_idxOf] at later
    exact later e
  · rw [List.idxOf_inj memb] at eq
    subst eq
    exact rot.not_self b memb e

/-- No row is its own ancestor. -/
theorem acyclic (rot : Rotation key parent grant retired l) (a : α) :
    ¬ Relation.TransGen (Child key parent l) a a := by
  classical
  have increasing : ∀ a b, Relation.TransGen (Child key parent l) a b → l.idxOf a < l.idxOf b := by
    intro a b t
    induction t with
    | single c => exact rot.child_idxOf_lt c
    | tail _ c ih => exact Nat.lt_trans ih (rot.child_idxOf_lt c)
  intro t
  exact Nat.lt_irrefl _ (increasing a a t)

/-- Every row has a root above it, of the same grant. -/
theorem exists_root (rot : Rotation key parent grant retired l) {a : α} (mem : a ∈ l) :
    ∃ r ∈ l, parent r = none ∧ Relation.ReflTransGen (Child key parent l) r a ∧
      grant r = grant a := by
  classical
  induction n : l.idxOf a using Nat.strongRecOn generalizing a with
  | _ n ih =>
    cases e : parent a with
    | none => exact ⟨a, mem, e, .refl, rfl⟩
    | some k =>
      obtain ⟨p, memp, rfl, -, same⟩ := rot.parent_mem a mem k e
      have c : Child key parent l p a := ⟨memp, mem, e⟩
      obtain ⟨r, memr, root, reach, same'⟩ := ih _ (n ▸ rot.child_idxOf_lt c) memp rfl
      exact ⟨r, memr, root, reach.tail c, same'.trans same⟩

/-- Two rows of one chain: one descends from the other. -/
theorem comparable (rot : Rotation key parent grant retired l) {a b : α}
    (chain : Relation.EqvGen (Child key parent l) a b) :
    Relation.ReflTransGen (Child key parent l) a b ∨
      Relation.ReflTransGen (Child key parent l) b a := by
  have left : Relator.RightUnique (Function.swap (Child key parent l)) :=
    fun _ _ _ c c' => rot.leftUnique c c'
  induction chain with
  | rel a b c => exact .inl (.single c)
  | refl a => exact .inl .refl
  | symm a b _ ih => exact ih.symm
  | trans a b c _ _ ih ih' =>
    -- Where the two paths meet in `b` or leave from it, uniqueness of parents or of children
    -- puts one of them on the other.
    obtain ab | ba := ih
    · obtain bc | cb := ih'
      · exact .inl (ab.trans bc)
      · obtain h | h := Relation.ReflTransGen.total_of_right_unique left
          (Relation.reflTransGen_swap.mpr ab) (Relation.reflTransGen_swap.mpr cb)
        · exact .inr (Relation.reflTransGen_swap.mp h)
        · exact .inl (Relation.reflTransGen_swap.mp h)
    · obtain bc | cb := ih'
      · exact Relation.ReflTransGen.total_of_right_unique rot.rightUnique ba bc
      · exact .inr (cb.trans ba)

/-- A row that has a descendant is retired. -/
lemma retired_of_descendant (rot : Rotation key parent grant retired l) {a b : α}
    (reach : Relation.ReflTransGen (Child key parent l) a b) (ne : a ≠ b) : retired a := by
  obtain rfl | ⟨c, first, -⟩ := Relation.ReflTransGen.cases_head reach
  · exact absurd rfl ne
  · exact (rot.child_retired first).1

/-- The row of a chain that is not retired descends from every other one. -/
theorem unretired_last (rot : Rotation key parent grant retired l) {a b : α}
    (chain : Relation.EqvGen (Child key parent l) b a) (live : ¬ retired a) :
    Relation.ReflTransGen (Child key parent l) b a := by
  obtain ba | ab := rot.comparable chain
  · exact ba
  · by_cases e : a = b
    · exact e ▸ .refl
    · exact absurd (rot.retired_of_descendant ab e) live

/-- A chain has at most one row that is not retired. -/
theorem unretired_unique (rot : Rotation key parent grant retired l) {a b : α}
    (chain : Relation.EqvGen (Child key parent l) a b) (livea : ¬ retired a)
    (liveb : ¬ retired b) : a = b := by
  by_contra ne
  exact livea (rot.retired_of_descendant (rot.unretired_last chain liveb) ne)

end Rotation
end IdpMvp.Program
