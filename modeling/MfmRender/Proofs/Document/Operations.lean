/-
What edits do to a forest.

Each operation on forests is one line about the table of the forest (`Rewritten`):
each row is changed by some function that keeps its number, and rows with the next
numbers are added.  From that line follow that numbers are still given out once and
what the row of every node is afterwards, so what remains for each operation is to
find the function and the new rows, which the equations of tables give.

The operations are then described by what a user sees of them: a node is `Moved` to
the end of the children of another, the children of a node are `Replaced` by a text,
new nodes are `Grafted` behind them, and the rest of the forest is as it was.
-/
import MfmRender.Proofs.Document.Numbered

namespace MfmRender

namespace Forest

/-- The rows of a forest are those of another, each changed in some way, and new ones. -/
structure Rewritten (f f' : Forest) (g : Row → Row) (new : List Row) : Prop where
  rows : (Tree.rows f'.trees).Perm ((Tree.rows f.trees).map g ++ new)
  keeps : ∀ r, (g r).id = r.id
  fresh : new.map Row.id = List.Ico f.next f'.next
  le : f.next ≤ f'.next

variable {f f' : Forest} {g : Row → Row} {new : List Row} {i c p : Nat} {t : Tree} {r : Row}

namespace Rewritten

theorem ids (h : f.Rewritten f' g new) :
    (Tree.ids f'.trees).Perm (Tree.ids f.trees ++ new.map Row.id) := by
  have hmap := h.rows.map Row.id
  have hg : ((Tree.rows f.trees).map g).map Row.id = Tree.ids f.trees := by
    rw [List.map_map, ← Tree.map_id_rows]
    exact List.map_congr_left fun r _ => h.keeps r
  rw [Tree.map_id_rows, List.map_append, hg] at hmap
  exact hmap

/-- **Numbers are still given out once.** -/
theorem numbered (h : f.Rewritten f' g new) (hf : f.Numbered) : f'.Numbered := by
  refine ⟨?_, ?_⟩
  · rw [h.ids.nodup_iff, h.fresh, List.nodup_append]
    refine ⟨hf.nodup, List.Ico.nodup _ _, ?_⟩
    intro i hi j hj hij
    have hlt := hf.lt i hi
    have hle := (List.Ico.mem.mp hj).1
    omega
  · intro i hi
    rw [h.ids.mem_iff, h.fresh, List.mem_append, List.Ico.mem] at hi
    rcases hi with hi | ⟨-, hi⟩
    · exact (hf.lt i hi).trans_le h.le
    · exact hi

/-- The row of a node that is not new. -/
theorem row?_eq (h : f.Rewritten f' g new) (hf : f.Numbered) (hi : i ∉ new.map Row.id) :
    f'.row? i = (f.row? i).map g := by
  apply Option.ext
  intro r
  rw [(h.numbered hf).row?_eq_some_iff, h.rows.mem_iff, List.mem_append, List.mem_map,
    Option.map_eq_some_iff]
  constructor
  · rintro ⟨⟨s, hs, rfl⟩ | hr, hid⟩
    · exact ⟨s, hf.row?_eq_some_iff.mpr ⟨hs, (h.keeps s).symm.trans hid⟩, rfl⟩
    · exact absurd (hid ▸ List.mem_map_of_mem hr) hi
  · rintro ⟨s, hs, rfl⟩
    obtain ⟨hmem, hid⟩ := hf.row?_eq_some_iff.mp hs
    exact ⟨Or.inl ⟨s, hmem, rfl⟩, (h.keeps s).trans hid⟩

theorem notMem_new (h : f.Rewritten f' g new) (hf : f.Numbered) (hi : i ∈ Tree.ids f.trees) :
    i ∉ new.map Row.id := by
  rw [h.fresh, List.Ico.mem]
  have hlt := hf.lt i hi
  omega

/-- The row of the node that an operation is about. -/
theorem row?_changed {label : Label} {ks : List Nat}
    (h : f.Rewritten f' (fun r => (g r).changed p label ks) new) (hf : f.Numbered)
    (hp : p ∈ Tree.ids f.trees) : f'.row? p = some ⟨p, label, ks⟩ := by
  rw [h.row?_eq hf (h.notMem_new hf hp)]
  cases hr : f.row? p with
  | none => exact absurd hp (row?_eq_none_iff.mp hr)
  | some r =>
      have hkeep : (g r).id = r.id := (Row.id_changed p label ks (g r)).symm.trans (h.keeps r)
      have hid : (g r).id = p := hkeep.trans (hf.row?_eq_some_iff.mp hr).2
      rw [Option.map_some, Row.changed, if_pos hid]

/-- The row of any other node. -/
theorem row?_unchanged {label : Label} {ks : List Nat}
    (h : f.Rewritten f' (fun r => (g r).changed p label ks) new) (hf : f.Numbered)
    (hi : i ∉ new.map Row.id) (hne : i ≠ p) : f'.row? i = (f.row? i).map g := by
  rw [h.row?_eq hf hi]
  cases hr : f.row? i with
  | none => rfl
  | some r =>
      have hkeep : (g r).id = r.id := (Row.id_changed p label ks (g r)).symm.trans (h.keeps r)
      have hid : (g r).id = i := hkeep.trans (hf.row?_eq_some_iff.mp hr).2
      rw [Option.map_some, Row.changed_of_ne (hid ▸ hne), Option.map_some]

end Rewritten

/-! ### The operations as equations of tables -/

theorem create_rewritten (f : Forest) (label : Label) :
    f.Rewritten (f.create label) id [⟨f.next, label, []⟩] := by
  refine ⟨?_, fun r => rfl, ?_, Nat.le_succ f.next⟩
  · rw [create, Tree.rows_append, List.map_id]
    exact List.Perm.refl _
  · exact List.Ico.succ_singleton.symm

namespace Numbered

theorem relabel_rewritten (hf : f.Numbered) (ht : t ∈ Tree.preorderAll f.trees)
    (h : Label → Label) :
    f.Rewritten (f.relabel t.id h) (Row.changed t.id (h t.label) (t.children.map Tree.id)) [] := by
  refine ⟨?_, Row.id_changed _ _ _, List.Ico.self_empty.symm, Nat.le_refl _⟩
  have hperm := Tree.rows_changeIn_append (f := fun l cs => (h l, cs)) hf.nodup ht
    (List.append_nil _).symm
  rw [List.map_nil, List.append_nil] at hperm
  exact hperm

/-- The target of a move is not part of what is taken out, so it is still there when that is
gone, without the child. -/
theorem target_remains (hf : f.Numbered) (ht : t ∈ Tree.preorderAll f.trees) {c : Tree}
    (hc : c ∈ Tree.preorderAll f.trees) (hcycle : t.id ∉ Tree.ids [c]) :
    (Tree.ids (Tree.removeIn c.id f.trees)).Nodup ∧
      ∃ u ∈ Tree.preorderAll (Tree.removeIn c.id f.trees), u.row = t.row.without c.id := by
  have hmem : t.row.without c.id ∈ (Tree.rows f.trees).map (Row.without c.id) :=
    List.mem_map_of_mem (List.mem_map_of_mem ht)
  rw [← (Tree.rows_removeIn hf.nodup hc).mem_iff, List.mem_append] at hmem
  refine ⟨?_, ?_⟩
  · exact (List.nodup_append.mp ((Tree.ids_removeIn hf.nodup hc).nodup_iff.mpr hf.nodup)).1
  · rcases hmem with hrest | hgone
    · exact List.mem_map.mp hrest
    · have hid : t.id ∈ (Tree.rows [c]).map Row.id := List.mem_map_of_mem hgone
      exact absurd (Tree.map_id_rows [c] ▸ hid) hcycle

theorem move_rewritten (hf : f.Numbered) (ht : t ∈ Tree.preorderAll f.trees) {c : Tree}
    (hc : c ∈ Tree.preorderAll f.trees) (hcycle : t.id ∉ Tree.ids [c]) :
    f.Rewritten (f.move t.id c)
      (fun r => (r.without c.id).changed t.id t.label
        ((t.children.map Tree.id).filter (· ≠ c.id) ++ [c.id])) [] := by
  refine ⟨?_, fun r => Row.id_changed _ _ _ _, List.Ico.self_empty.symm, Nat.le_refl _⟩
  obtain ⟨hnodup, u, hu, hurow⟩ := hf.target_remains ht hc hcycle
  have hadded := Tree.rows_changeIn_append (f := fun l cs => (l, cs ++ [c])) hnodup hu rfl
  have hid : u.id = t.id := congrArg Row.id hurow
  have hlabel : u.label = t.label := congrArg Row.label hurow
  have hchildren : u.children.map Tree.id = (t.children.map Tree.id).filter (· ≠ c.id) :=
    congrArg Row.children hurow
  rw [hid, hlabel, hchildren] at hadded
  rw [List.append_nil]
  have hapart : ∀ ks, (Tree.rows (Tree.removeIn c.id f.trees) ++ Tree.rows [c]).map
      (Row.changed t.id t.label ks) =
      (Tree.rows (Tree.removeIn c.id f.trees)).map (Row.changed t.id t.label ks) ++
        Tree.rows [c] := by
    intro ks
    rw [List.map_append, Tree.map_changed_of_notMem hcycle]
  have hmoved := (Tree.rows_removeIn hf.nodup hc).map (Row.changed t.id t.label
    ((t.children.map Tree.id).filter (· ≠ c.id) ++ [c.id]))
  rw [hapart, List.map_map] at hmoved
  exact hadded.trans hmoved

theorem replaceChildren_rewritten (hf : f.Numbered) (ht : t ∈ Tree.preorderAll f.trees)
    (text : String) :
    f.Rewritten (f.replaceChildren t text) (Row.changed t.id t.label [f.next])
      [⟨f.next, .text text, []⟩] := by
  refine ⟨?_, Row.id_changed _ _ _, List.Ico.succ_singleton.symm, Nat.le_succ _⟩
  cases t with
  | node p l cs =>
      rw [replaceChildren, Tree.rows_append]
      exact Tree.rows_changeIn (f := fun l _ => (l, [.node f.next (.text text) []])) hf.nodup ht

theorem graft_rewritten (hf : f.Numbered) (ht : t ∈ Tree.preorderAll f.trees) (hs : List Html) :
    f.Rewritten (f.graft t.id hs)
      (Row.changed t.id t.label
        (t.children.map Tree.id ++ (Tree.ofHtmlAll f.next hs).1.map Tree.id))
      (Tree.rows (Tree.ofHtmlAll f.next hs).1) := by
  obtain ⟨hle, hids⟩ := Tree.ids_ofHtmlAll f.next hs
  refine ⟨?_, Row.id_changed _ _ _, ?_, hle⟩
  · exact Tree.rows_changeIn_append (f := fun l cs => (l, cs ++ (Tree.ofHtmlAll f.next hs).1))
      hf.nodup ht rfl
  · rw [Tree.map_id_rows]
    exact hids

end Numbered

/-! ### What is seen of an operation -/

/-- What a node is. -/
def label? (f : Forest) (i : Nat) : Option Label :=
  (f.row? i).map Row.label

theorem childrenOf_of_row? (h : f.row? i = some r) : f.childrenOf i = r.children := by
  rw [childrenOf, h]
  rfl

theorem label?_of_row? (h : f.row? i = some r) : f.label? i = some r.label := by
  rw [label?, h]
  rfl

/-- There is one more node, on its own. -/
structure Created (f f' : Forest) (k : Nat) (label : Label) : Prop where
  nodes : (Tree.ids f'.trees).Perm (Tree.ids f.trees ++ [k])
  created : f'.find? k = some (.node k label [])
  alone : ∀ q, ¬ f'.ChildOf k q
  others : ∀ q ∈ Tree.ids f.trees, f'.row? q = f.row? q

/-- A node has got another label. -/
structure Relabelled (f f' : Forest) (p : Nat) (h : Label → Label) : Prop where
  nodes : (Tree.ids f'.trees).Perm (Tree.ids f.trees)
  target : f'.label? p = (f.label? p).map h
  children : f'.childrenOf p = f.childrenOf p
  others : ∀ q, q ≠ p → f'.row? q = f.row? q

/-- A node has come to the end of the children of another. -/
structure Moved (f f' : Forest) (c p : Nat) : Prop where
  nodes : (Tree.ids f'.trees).Perm (Tree.ids f.trees)
  labels : ∀ q, f'.label? q = f.label? q
  target : f'.childrenOf p = (f.childrenOf p).filter (· ≠ c) ++ [c]
  /-- It is gone from where it was. -/
  others : ∀ q, q ≠ p → f'.childrenOf q = (f.childrenOf q).filter (· ≠ c)
  /-- What is below it has come with it. -/
  subtree : f'.find? c = f.find? c

/-- A new text stands in the place of the children of a node. -/
structure Replaced (f f' : Forest) (p : Nat) (text : String) : Prop where
  /-- The text is a new node and the only child. -/
  target : ∃ k, (Tree.ids f'.trees).Perm (Tree.ids f.trees ++ [k]) ∧
    f'.childrenOf p = [k] ∧ f'.find? k = some (.node k (.text text) [])
  label : f'.label? p = f.label? p
  /-- The former children are trees of their own, with all that is below them. -/
  freed : ∀ k ∈ f.childrenOf p, f'.find? k = f.find? k ∧ k ∈ f'.trees.map Tree.id ∧
    ∀ q, ¬ f'.ChildOf k q
  others : ∀ q ∈ Tree.ids f.trees, q ≠ p → f'.row? q = f.row? q

/-- New nodes stand behind the children of a node. -/
structure Grafted (f f' : Forest) (p : Nat) (fragment : List Html) : Prop where
  /-- They are the markup, node for node and in order. -/
  target : ∃ grafts : List Tree, Tree.toHtmlAll grafts = fragment ∧
    (Tree.ids f'.trees).Perm (Tree.ids f.trees ++ Tree.ids grafts) ∧
    f'.childrenOf p = f.childrenOf p ++ grafts.map Tree.id ∧
    ∀ t ∈ grafts, f'.find? t.id = some t
  label : f'.label? p = f.label? p
  others : ∀ q ∈ Tree.ids f.trees, q ≠ p → f'.row? q = f.row? q

namespace Numbered

theorem row?_of_mem (hf : f.Numbered) (ht : t ∈ Tree.preorderAll f.trees) :
    f.row? t.id = some t.row :=
  hf.row?_eq_some_iff.mpr ⟨List.mem_map_of_mem ht, rfl⟩

theorem find?_of_mem (hf : f.Numbered) (ht : t ∈ Tree.preorderAll f.trees) :
    f.find? t.id = some t :=
  hf.find?_eq_some_iff.mpr ⟨ht, rfl⟩

/-- A root has no parent. -/
theorem not_childOf_of_mem (hf : f.Numbered) (ht : t ∈ f.trees) (q : Nat) :
    ¬ f.ChildOf t.id q :=
  (hf.isForest.root_iff t.id (Tree.mem_ids_of_mem (Tree.mem_preorderAll_of_mem ht))).mp
    (List.mem_map_of_mem ht) q

theorem created (hf : f.Numbered) (label : Label) :
    f.Created (f.create label) f.next label := by
  have hrw := f.create_rewritten label
  have hf' := hrw.numbered hf
  have hroot : Tree.node f.next label [] ∈ (f.create label).trees :=
    List.mem_append_right _ List.mem_cons_self
  refine ⟨?_, hf'.find?_of_mem (Tree.mem_preorderAll_of_mem hroot),
    hf'.not_childOf_of_mem hroot, ?_⟩
  · exact hrw.ids
  · intro q hq
    rw [hrw.row?_eq hf (hrw.notMem_new hf hq), Option.map_id]
    rfl

theorem relabelled (hf : f.Numbered) (ht : t ∈ Tree.preorderAll f.trees) (h : Label → Label) :
    f.Relabelled (f.relabel t.id h) t.id h := by
  have hrw := hf.relabel_rewritten ht h
  have hold := hf.row?_of_mem ht
  have hnew := hrw.row?_changed hf (Tree.mem_ids_of_mem ht)
  refine ⟨?_, ?_, ?_, ?_⟩
  · exact List.append_nil (Tree.ids f.trees) ▸ hrw.ids
  · rw [label?_of_row? hnew, label?_of_row? hold]
    rfl
  · rw [childrenOf_of_row? hnew, childrenOf_of_row? hold]
    rfl
  · intro q hq
    rw [hrw.row?_unchanged hf List.not_mem_nil hq, Option.map_id']

theorem moved (hf : f.Numbered) (ht : t ∈ Tree.preorderAll f.trees) {c : Tree}
    (hc : c ∈ Tree.preorderAll f.trees) (hcycle : t.id ∉ Tree.ids [c]) :
    f.Moved (f.move t.id c) c.id t.id := by
  have hrw := hf.move_rewritten ht hc hcycle
  have hold := hf.row?_of_mem ht
  have hnew := hrw.row?_changed hf (Tree.mem_ids_of_mem ht)
  have hothers : ∀ q, q ≠ t.id →
      (f.move t.id c).row? q = (f.row? q).map (Row.without c.id) := by
    intro q hq
    exact hrw.row?_unchanged hf List.not_mem_nil hq
  refine ⟨?_, ?_, ?_, ?_, ?_⟩
  · exact List.append_nil (Tree.ids f.trees) ▸ hrw.ids
  · intro q
    by_cases hq : q = t.id
    · rw [hq, label?_of_row? hnew, label?_of_row? hold]
      rfl
    · rw [label?, hothers q hq, Option.map_map, label?]
      rfl
  · rw [childrenOf_of_row? hnew, childrenOf_of_row? hold]
    rfl
  · intro q hq
    rw [childrenOf, hothers q hq, childrenOf]
    cases f.row? q <;> rfl
  · obtain ⟨hnodup, u, hu, hurow⟩ := hf.target_remains ht hc hcycle
    have hid : u.id = t.id := congrArg Row.id hurow
    have hmem := Tree.mem_preorderAll_changeIn_of_mem (f := fun l cs => (l, cs ++ [c])) hnodup hu
      (List.mem_append_right _ List.mem_cons_self)
    rw [hid] at hmem
    rw [(hrw.numbered hf).find?_of_mem hmem, hf.find?_of_mem hc]

theorem replaced (hf : f.Numbered) (ht : t ∈ Tree.preorderAll f.trees) (text : String) :
    f.Replaced (f.replaceChildren t text) t.id text := by
  have hrw := hf.replaceChildren_rewritten ht text
  have hf' := hrw.numbered hf
  have hold := hf.row?_of_mem ht
  have hnew := hrw.row?_changed hf (Tree.mem_ids_of_mem ht)
  refine ⟨⟨f.next, ?_, childrenOf_of_row? hnew, ?_⟩, ?_, ?_, ?_⟩
  · exact hrw.ids
  · have hmem := Tree.mem_preorderAll_changeIn_of_mem
      (f := fun l _ => (l, [.node f.next (.text text) []])) hf.nodup ht List.mem_cons_self
    refine hf'.find?_eq_some_iff.mpr ⟨?_, rfl⟩
    rw [replaceChildren, Tree.preorderAll_append, List.mem_append]
    exact Or.inl hmem
  · rw [label?_of_row? hnew, label?_of_row? hold]
    rfl
  · intro k hk
    rw [childrenOf_of_row? hold] at hk
    obtain ⟨u, hu, rfl⟩ := List.mem_map.mp hk
    have hroot : u ∈ (f.replaceChildren t text).trees := List.mem_append_right _ hu
    refine ⟨?_, List.mem_map_of_mem hroot, hf'.not_childOf_of_mem hroot⟩
    rw [hf'.find?_of_mem (Tree.mem_preorderAll_of_mem hroot),
      hf.find?_of_mem (Tree.mem_preorderAll_of_child ht hu)]
  · intro q hq hne
    rw [hrw.row?_unchanged hf (hrw.notMem_new hf hq) hne, Option.map_id']

theorem grafted (hf : f.Numbered) (ht : t ∈ Tree.preorderAll f.trees) (hs : List Html) :
    f.Grafted (f.graft t.id hs) t.id hs := by
  have hrw := hf.graft_rewritten ht hs
  have hf' := hrw.numbered hf
  have hold := hf.row?_of_mem ht
  have hnew := hrw.row?_changed hf (Tree.mem_ids_of_mem ht)
  refine ⟨⟨(Tree.ofHtmlAll f.next hs).1, Tree.toHtmlAll_ofHtmlAll f.next hs, ?_, ?_, ?_⟩, ?_, ?_⟩
  · rw [← Tree.map_id_rows (Tree.ofHtmlAll f.next hs).1]
    exact hrw.ids
  · rw [childrenOf_of_row? hnew, childrenOf_of_row? hold]
    rfl
  · intro u hu
    exact hf'.find?_of_mem (Tree.mem_preorderAll_changeIn_of_mem
      (f := fun l cs => (l, cs ++ (Tree.ofHtmlAll f.next hs).1)) hf.nodup ht
      (List.mem_append_right _ hu))
  · rw [label?_of_row? hnew, label?_of_row? hold]
    rfl
  · intro q hq hne
    rw [hrw.row?_unchanged hf (hrw.notMem_new hf hq) hne, Option.map_id']

end Numbered

/-- Without new nodes the forest is as it was. -/
theorem grafted_nil (f : Forest) (p : Nat) : f.Grafted f p [] := by
  refine ⟨⟨[], rfl, ?_, ?_, by simp⟩, rfl, fun _ _ _ => rfl⟩
  · show (Tree.ids f.trees).Perm (Tree.ids f.trees ++ [])
    rw [List.append_nil]
  · rw [List.map_nil, List.append_nil]

end Forest

end MfmRender
