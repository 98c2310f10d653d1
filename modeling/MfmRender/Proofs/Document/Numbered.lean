/-
Numbers in a forest.

The invariant of a forest is that its numbers are given out once: no two nodes have
one number, and all numbers are below the next one (`Forest.Numbered`).  Trees are
what they are, so nothing else can go wrong: where a number names one node, each
node has one parent at most, stands once among its children, and is not below itself
(`Numbered.isForest`).

A number is looked up in the table of the forest and gives the row of its node, which
names the children.  So what is said here of children and parents is read off the
rows, and that no node is above itself off the trees, which become smaller on the way
from a node to its children.
-/
import Mathlib.Data.List.Nodup
import Mathlib.Data.List.Pairwise
import Mathlib.Logic.Relation
import MfmRender.Proofs.Document.Rows

namespace MfmRender

namespace Forest

/-- The row of a node. -/
def row? (f : Forest) (i : Nat) : Option Row :=
  (f.find? i).map Tree.row

/-- The numbers of the children of a node in order. -/
def childrenOf (f : Forest) (i : Nat) : List Nat :=
  ((f.row? i).map Row.children).getD []

/-- One node is a child of another. -/
def ChildOf (f : Forest) (c p : Nat) : Prop :=
  c ∈ f.childrenOf p

/-- **Each node is in one place.** -/
structure IsForest (f : Forest) : Prop where
  /-- No node is there twice. -/
  nodup : (Tree.ids f.trees).Nodup
  /-- Children are nodes of the forest. -/
  child_mem : ∀ c p, f.ChildOf c p → c ∈ Tree.ids f.trees
  /-- No node has two parents. -/
  parent_unique : ∀ c p q, f.ChildOf c p → f.ChildOf c q → p = q
  /-- A child stands once among the children of its parent. -/
  once : ∀ c p, f.ChildOf c p → (f.childrenOf p).count c = 1
  /-- The nodes without a parent are the roots. -/
  root_iff : ∀ i ∈ Tree.ids f.trees, i ∈ f.trees.map Tree.id ↔ ∀ p, ¬ f.ChildOf i p
  /-- No node is above itself. -/
  acyclic : ∀ i, ¬ Relation.TransGen f.ChildOf i i

/-- Numbers are given out once, and the next one is still free. -/
structure Numbered (f : Forest) : Prop where
  nodup : (Tree.ids f.trees).Nodup
  lt : ∀ i ∈ Tree.ids f.trees, i < f.next

variable {f f' : Forest} {i c p : Nat} {t : Tree} {r : Row}

/-! ### Looking a node up -/

theorem find?_eq_none_iff : f.find? i = none ↔ i ∉ Tree.ids f.trees := by
  rw [find?, Tree.findIn?_eq_find?, List.find?_eq_none, Tree.ids, List.mem_map]
  constructor
  · rintro h ⟨t, ht, rfl⟩
    exact h t ht (beq_self_eq_true t.id)
  · intro h t ht hid
    exact h ⟨t, ht, beq_iff_eq.mp hid⟩

theorem row?_eq_none_iff : f.row? i = none ↔ i ∉ Tree.ids f.trees := by
  rw [row?, Option.map_eq_none_iff, find?_eq_none_iff]

namespace Numbered

/-- Where numbers are given out once, a number finds the node that has it. -/
theorem find?_eq_some_iff (h : f.Numbered) :
    f.find? i = some t ↔ t ∈ Tree.preorderAll f.trees ∧ t.id = i := by
  have hsome : ∀ {u}, f.find? i = some u → u ∈ Tree.preorderAll f.trees ∧ u.id = i := by
    intro u hu
    rw [find?, Tree.findIn?_eq_find?] at hu
    have hid := List.find?_some hu
    exact ⟨List.mem_of_find?_eq_some hu, by simpa using hid⟩
  refine ⟨hsome, fun ⟨ht, hid⟩ => ?_⟩
  cases hu : f.find? i with
  | none => exact absurd (hid ▸ Tree.mem_ids_of_mem ht) (find?_eq_none_iff.mp hu)
  | some u =>
      obtain ⟨hmem, huid⟩ := hsome hu
      rw [List.inj_on_of_nodup_map h.nodup hmem ht (huid.trans hid.symm)]

theorem row?_eq_some_iff (h : f.Numbered) :
    f.row? i = some r ↔ r ∈ Tree.rows f.trees ∧ r.id = i := by
  rw [row?, Option.map_eq_some_iff, Tree.rows, List.mem_map]
  constructor
  · rintro ⟨t, ht, rfl⟩
    obtain ⟨hmem, hid⟩ := h.find?_eq_some_iff.mp ht
    exact ⟨⟨t, hmem, rfl⟩, hid⟩
  · rintro ⟨⟨t, hmem, rfl⟩, hid⟩
    exact ⟨t, h.find?_eq_some_iff.mpr ⟨hmem, hid⟩, rfl⟩

theorem childOf_iff (h : f.Numbered) :
    f.ChildOf c p ↔ ∃ r ∈ Tree.rows f.trees, r.id = p ∧ c ∈ r.children := by
  rw [ChildOf, childrenOf]
  constructor
  · intro hc
    cases hr : f.row? p with
    | none => simp [hr] at hc
    | some r =>
        obtain ⟨hmem, hid⟩ := h.row?_eq_some_iff.mp hr
        exact ⟨r, hmem, hid, by simpa [hr] using hc⟩
  · rintro ⟨r, hmem, hid, hc⟩
    rw [h.row?_eq_some_iff.mpr ⟨hmem, hid⟩]
    exact hc

theorem childrenOf_eq (h : f.Numbered) (hr : r ∈ Tree.rows f.trees) :
    f.childrenOf r.id = r.children := by
  rw [childrenOf, h.row?_eq_some_iff.mpr ⟨hr, rfl⟩]
  rfl

/-! ### Each node is in one place -/

/-- A child is a smaller tree. -/
theorem sizeOf_lt_of_childOf (h : f.Numbered) (hc : f.ChildOf c p) :
    sizeOf (f.find? c) < sizeOf (f.find? p) := by
  obtain ⟨r, hr, rfl, hmem⟩ := h.childOf_iff.mp hc
  obtain ⟨t, ht, rfl⟩ := List.mem_map.mp hr
  obtain ⟨u, hu, rfl⟩ := List.mem_map.mp hmem
  have hut := Tree.mem_preorderAll_of_child ht hu
  show sizeOf (f.find? u.id) < sizeOf (f.find? t.id)
  rw [h.find?_eq_some_iff.mpr ⟨hut, rfl⟩, h.find?_eq_some_iff.mpr ⟨ht, rfl⟩]
  cases t with
  | node i l cs =>
      have hlt : sizeOf u < sizeOf cs := List.sizeOf_lt_of_mem hu
      simp only [Option.some.sizeOf_spec, Tree.node.sizeOf_spec]
      omega

/-- **Where numbers are given out once, each node is in one place.** -/
theorem isForest (h : f.Numbered) : f.IsForest := by
  -- Roots and children make up the nodes, so no number is among them twice.
  have hall := (Tree.ids_perm f.trees).nodup_iff.mp h.nodup
  obtain ⟨-, hchildren, hroots⟩ := List.nodup_append.mp hall
  obtain ⟨hone, hpairwise⟩ := List.nodup_flatMap.mp hchildren
  refine ⟨h.nodup, ?_, ?_, ?_, ?_, ?_⟩
  · intro c p hc
    obtain ⟨r, hr, -, hmem⟩ := h.childOf_iff.mp hc
    exact Tree.children_subset_ids hr c hmem
  · intro c p q hp hq
    obtain ⟨r, hr, rfl, hcr⟩ := h.childOf_iff.mp hp
    obtain ⟨s, hs, rfl, hcs⟩ := h.childOf_iff.mp hq
    by_contra hne
    have hrs : r ≠ s := fun h => hne (congrArg Row.id h)
    have : Std.Symm (Function.onFun List.Disjoint Row.children) := ⟨fun _ _ h => h.symm⟩
    exact hpairwise.forall hr hs hrs hcr hcs
  · intro c p hc
    obtain ⟨r, hr, rfl, hmem⟩ := h.childOf_iff.mp hc
    rw [h.childrenOf_eq hr]
    exact List.count_eq_one_of_mem (hone r hr) hmem
  · intro i hi
    constructor
    · intro hroot p hc
      obtain ⟨r, hr, -, hmem⟩ := h.childOf_iff.mp hc
      exact hroots i hroot i (List.mem_flatMap.mpr ⟨r, hr, hmem⟩) rfl
    · intro hfree
      rcases List.mem_append.mp ((Tree.ids_perm f.trees).mem_iff.mp hi) with hroot | hchild
      · exact hroot
      · obtain ⟨r, hr, hmem⟩ := List.mem_flatMap.mp hchild
        exact absurd (h.childOf_iff.mpr ⟨r, hr, rfl, hmem⟩) (hfree r.id)
  · intro i hi
    have hlt : ∀ {c p}, Relation.TransGen f.ChildOf c p →
        sizeOf (f.find? c) < sizeOf (f.find? p) := by
      intro c p hcp
      induction hcp with
      | single hc => exact h.sizeOf_lt_of_childOf hc
      | tail _ hc ih => exact ih.trans (h.sizeOf_lt_of_childOf hc)
    exact Nat.lt_irrefl _ (hlt hi)

/-! ### What is below a node -/

/-- Each node of some trees of the forest leads up to the root of one of them. -/
theorem exists_root_above (h : f.Numbered) {ts : List Tree}
    (hts : ∀ s ∈ ts, s ∈ Tree.preorderAll f.trees) {u : Tree} (hu : u ∈ Tree.preorderAll ts) :
    ∃ s ∈ ts, Relation.ReflTransGen f.ChildOf u.id s.id := by
  induction ts using Tree.forest_induction with
  | nil => simp [Tree.preorderAll] at hu
  | node j l cs rest ihc ihr =>
      have hj : Tree.node j l cs ∈ Tree.preorderAll f.trees := hts _ List.mem_cons_self
      rw [Tree.preorderAll_cons, List.mem_cons, List.mem_append] at hu
      rcases hu with rfl | hu | hu
      · exact ⟨_, List.mem_cons_self, .refl⟩
      · obtain ⟨s, hs, hus⟩ := ihc (fun s hs => Tree.mem_preorderAll_of_child hj hs) hu
        have hchild : f.ChildOf s.id j :=
          h.childOf_iff.mpr ⟨_, List.mem_map_of_mem hj, rfl, List.mem_map_of_mem hs⟩
        exact ⟨_, List.mem_cons_self, hus.tail hchild⟩
      · obtain ⟨s, hs, hus⟩ := ihr (fun s hs => hts s (List.mem_cons_of_mem _ hs)) hu
        exact ⟨s, List.mem_cons_of_mem _ hs, hus⟩

/-- **The nodes of a tree of the forest are those that lead up to its root.** -/
theorem mem_ids_singleton_iff (h : f.Numbered) (ht : t ∈ Tree.preorderAll f.trees) :
    i ∈ Tree.ids [t] ↔ Relation.ReflTransGen f.ChildOf i t.id := by
  have hbelow : ∀ u ∈ Tree.preorderAll [t], u ∈ Tree.preorderAll f.trees := by
    intro u hu
    rw [Tree.preorderAll_singleton, List.mem_cons] at hu
    rcases hu with rfl | hu
    · exact ht
    · exact Tree.mem_preorderAll_trans ht hu
  constructor
  · intro hi
    obtain ⟨u, hu, rfl⟩ := List.mem_map.mp hi
    obtain ⟨s, hs, hus⟩ := h.exists_root_above (by simpa using ht) hu
    rw [List.mem_singleton.mp hs] at hus
    exact hus
  · intro hi
    induction hi using Relation.ReflTransGen.head_induction_on with
    | refl => exact Tree.mem_ids_of_mem (Tree.mem_preorderAll_of_mem List.mem_cons_self)
    | @head a b hab _ ih =>
        obtain ⟨u, hu, rfl⟩ := List.mem_map.mp ih
        have hrow : u.row ∈ Tree.rows [t] := List.mem_map_of_mem hu
        have ha : a ∈ u.row.children := by
          rw [← h.childrenOf_eq (List.mem_map_of_mem (hbelow u hu))]
          exact hab
        exact Tree.children_subset_ids hrow a ha

/-- A node looked for from another is found if it is that node or leads up to it. -/
theorem find?_below_isSome_iff (h : f.Numbered) (ht : t ∈ Tree.preorderAll f.trees) :
    (t.find? i).isSome ↔ Relation.ReflTransGen f.ChildOf i t.id := by
  have hfind : t.find? i = (Tree.preorderAll [t]).find? (·.id == i) := by
    rw [← Tree.findIn?_eq_find?, Tree.findIn?]
    cases t.find? i <;> rfl
  rw [← h.mem_ids_singleton_iff ht, hfind, List.find?_isSome, Tree.ids, List.mem_map]
  simp only [beq_iff_eq]

end Numbered

end Forest

end MfmRender
