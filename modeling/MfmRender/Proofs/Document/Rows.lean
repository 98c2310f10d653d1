/-
Forests as tables.

A forest is kept as trees inside trees, which is what printing wants, but an edit
speaks of nodes by their numbers, and moving one node changes every tree that it
leaves or enters.  What an edit does to the nodes is easier to say of the table of
the forest: one row for each node, with its number, its label and the numbers of
its children.  An edit changes single rows and adds new ones.

Each way of changing trees has one lemma here, and each of them is an equation of
tables up to order: changing a node gives up the rows below it and brings in the
rows of what is put there (`rows_changeIn`), and taking a node out gives up its own
rows and strikes its number out of the row of its parent (`rows_removeIn`).  The
order is that of the trees and does not survive a move, which is why these are not
equations of lists.

All of it rests on numbers being given out once.  With a number in two places the
tree functions would change both, or only the outer one.
-/
import Mathlib.Data.List.Intervals
import Mathlib.Data.List.Nodup
import Mathlib.Data.List.Perm.Basic
import MfmRender.Document.Forest
import MfmRender.Proofs.Markup.Reading

namespace MfmRender

/-- A node without what is below it. -/
structure Row where
  id : Nat
  label : Label
  /-- The numbers of the children in order. -/
  children : List Nat
  deriving Repr, DecidableEq

namespace Row

/-- A row where the node with number `p` has got a new label and new children. -/
def changed (p : Nat) (label : Label) (children : List Nat) (r : Row) : Row :=
  if r.id = p then ⟨p, label, children⟩ else r

/-- A row without a node among the children. -/
def without (c : Nat) (r : Row) : Row :=
  { r with children := r.children.filter (· ≠ c) }

theorem id_changed (p : Nat) (label : Label) (children : List Nat) (r : Row) :
    (r.changed p label children).id = r.id := by
  by_cases h : r.id = p
  · rw [changed, if_pos h, h]
  · rw [changed, if_neg h]

theorem changed_of_ne {p : Nat} {r : Row} (h : r.id ≠ p) (label : Label) (children : List Nat) :
    r.changed p label children = r :=
  if_neg h

theorem without_of_notMem {c : Nat} {r : Row} (h : c ∉ r.children) : r.without c = r := by
  have hfilter : r.children.filter (· ≠ c) = r.children := by
    rw [List.filter_eq_self]
    intro k hk
    have hne : k ≠ c := by
      intro hkc
      exact h (hkc ▸ hk)
    simpa using hne
  rw [without, hfilter]

end Row

namespace Tree

/-! ### The nodes of some trees -/

/-- Induction on forests: the first tree is taken apart before the rest is looked at. -/
theorem forest_induction {motive : List Tree → Prop} (nil : motive [])
    (node : ∀ i l cs rest, motive cs → motive rest → motive (.node i l cs :: rest)) :
    ∀ ts : List Tree, motive ts
  | [] => nil
  | .node i l cs :: rest =>
      node i l cs rest (forest_induction nil node cs) (forest_induction nil node rest)
termination_by ts => sizeOf ts

mutual

/-- A node and all nodes below it, each before what is below it. -/
def preorder : Tree → List Tree
  | node i l cs => node i l cs :: preorderAll cs

def preorderAll : List Tree → List Tree
  | [] => []
  | t :: ts => preorder t ++ preorderAll ts

end

/-- The numbers of all nodes. -/
def ids (ts : List Tree) : List Nat :=
  (preorderAll ts).map Tree.id

/-- The node with the numbers of its children. -/
def row (t : Tree) : Row :=
  ⟨t.id, t.label, t.children.map Tree.id⟩

/-- The table of some trees. -/
def rows (ts : List Tree) : List Row :=
  (preorderAll ts).map row

theorem preorderAll_cons (i : Nat) (l : Label) (cs rest : List Tree) :
    preorderAll (node i l cs :: rest) = node i l cs :: (preorderAll cs ++ preorderAll rest) := by
  rw [preorderAll, preorder, List.cons_append]

theorem preorderAll_append (ts us : List Tree) :
    preorderAll (ts ++ us) = preorderAll ts ++ preorderAll us := by
  induction ts with
  | nil => rfl
  | cons t ts ih => rw [List.cons_append, preorderAll, ih, preorderAll, List.append_assoc]

theorem preorderAll_singleton (t : Tree) : preorderAll [t] = t :: preorderAll t.children := by
  cases t
  rw [preorderAll_cons, preorderAll, List.append_nil]
  rfl

theorem rows_cons (i : Nat) (l : Label) (cs rest : List Tree) :
    rows (node i l cs :: rest) = ⟨i, l, cs.map Tree.id⟩ :: (rows cs ++ rows rest) := by
  rw [rows, preorderAll_cons, List.map_cons, List.map_append]
  rfl

theorem rows_append (ts us : List Tree) : rows (ts ++ us) = rows ts ++ rows us := by
  rw [rows, preorderAll_append, List.map_append]
  rfl

theorem map_id_rows (ts : List Tree) : (rows ts).map Row.id = ids ts := by
  rw [rows, List.map_map]
  rfl

theorem ids_cons (i : Nat) (l : Label) (cs rest : List Tree) :
    ids (node i l cs :: rest) = i :: (ids cs ++ ids rest) := by
  rw [ids, preorderAll_cons, List.map_cons, List.map_append]
  rfl

theorem mem_ids_of_mem {ts : List Tree} {t : Tree} (h : t ∈ preorderAll ts) : t.id ∈ ids ts :=
  List.mem_map_of_mem h

theorem mem_preorderAll_of_mem {ts : List Tree} {t : Tree} (h : t ∈ ts) : t ∈ preorderAll ts := by
  induction ts with
  | nil => simp at h
  | cons u ts ih =>
      rw [preorderAll, List.mem_append]
      rcases List.mem_cons.mp h with rfl | hts
      · refine Or.inl ?_
        cases t
        simp [preorder]
      · exact Or.inr (ih hts)

theorem mem_ids_of_mem_map {ts : List Tree} {k : Nat} (h : k ∈ ts.map Tree.id) : k ∈ ids ts := by
  obtain ⟨t, ht, rfl⟩ := List.mem_map.mp h
  exact mem_ids_of_mem (mem_preorderAll_of_mem ht)

/-- What is below a node of some trees is in the trees. -/
theorem mem_preorderAll_trans {ts : List Tree} {t u : Tree} (ht : t ∈ preorderAll ts)
    (hu : u ∈ preorderAll t.children) : u ∈ preorderAll ts := by
  induction ts using forest_induction with
  | nil => simp [preorderAll] at ht
  | node i l cs rest ihc ihr =>
      rw [preorderAll_cons, List.mem_cons, List.mem_append] at ht ⊢
      rcases ht with rfl | ht | ht
      · exact Or.inr (Or.inl hu)
      · exact Or.inr (Or.inl (ihc ht))
      · exact Or.inr (Or.inr (ihr ht))

theorem mem_preorderAll_of_child {ts : List Tree} {t u : Tree} (ht : t ∈ preorderAll ts)
    (hu : u ∈ t.children) : u ∈ preorderAll ts :=
  mem_preorderAll_trans ht (mem_preorderAll_of_mem hu)

theorem children_subset_ids {ts : List Tree} {r : Row} (hr : r ∈ rows ts) :
    ∀ k ∈ r.children, k ∈ ids ts := by
  intro k hk
  obtain ⟨t, ht, rfl⟩ := List.mem_map.mp hr
  obtain ⟨u, hu, rfl⟩ := List.mem_map.mp hk
  exact mem_ids_of_mem (mem_preorderAll_of_child ht hu)

/-- A node is looked for in the order of the document. -/
theorem findIn?_eq_find? (i : Nat) (ts : List Tree) :
    findIn? i ts = (preorderAll ts).find? (·.id == i) := by
  induction ts using forest_induction with
  | nil => rfl
  | node j l cs rest ihc ihr =>
      rw [findIn?, find?, preorderAll_cons, List.find?_cons, List.find?_append, ← ihc, ← ihr]
      by_cases hj : j = i
      · have hbeq : ((node j l cs).id == i) = true := beq_iff_eq.mpr hj
        rw [if_pos hj, hbeq]
      · have hbeq : ((node j l cs).id == i) = false := beq_eq_false_iff_ne.mpr hj
        rw [if_neg hj, hbeq]
        cases findIn? i cs <;> rfl

/-- **The roots and the children of all nodes are all nodes.** -/
theorem ids_perm (ts : List Tree) :
    (ids ts).Perm (ts.map Tree.id ++ (rows ts).flatMap Row.children) := by
  induction ts using forest_induction with
  | nil => exact List.Perm.refl _
  | node i l cs rest ihc ihr =>
      rw [List.perm_iff_count] at ihc ihr ⊢
      intro k
      have hc := ihc k
      have hr := ihr k
      rw [List.count_append] at hc hr
      rw [ids_cons, rows_cons, List.map_cons, List.flatMap_cons, List.flatMap_append]
      simp only [List.cons_append, List.count_cons, List.count_append, Tree.id]
      omega

/-! ### Nodes that are not there -/

/-- The parts of a forest in which no number stands twice. -/
theorem nodup_cons {i : Nat} {l : Label} {cs rest : List Tree}
    (h : (ids (node i l cs :: rest)).Nodup) :
    i ∉ ids cs ∧ i ∉ ids rest ∧ (ids cs).Nodup ∧ (ids rest).Nodup ∧
      ∀ k ∈ ids cs, k ∉ ids rest := by
  rw [ids_cons, List.nodup_cons, List.mem_append, not_or, List.nodup_append] at h
  obtain ⟨⟨hcs, hrest⟩, hncs, hnrest, hdisjoint⟩ := h
  exact ⟨hcs, hrest, hncs, hnrest, fun k hk hk' => hdisjoint k hk k hk' rfl⟩

theorem changeIn_of_notMem {p : Nat} {f : Label → List Tree → Label × List Tree} {ts : List Tree}
    (h : p ∉ ids ts) : changeIn p f ts = ts := by
  induction ts using forest_induction with
  | nil => rfl
  | node i l cs rest ihc ihr =>
      rw [ids_cons, List.mem_cons, List.mem_append, not_or, not_or] at h
      obtain ⟨hi, hcs, hrest⟩ := h
      rw [changeIn, change, if_neg (fun h => hi h.symm), ihc hcs, ihr hrest]

theorem removeIn_of_notMem {c : Nat} {ts : List Tree} (h : c ∉ ids ts) : removeIn c ts = ts := by
  induction ts using forest_induction with
  | nil => rfl
  | node i l cs rest ihc ihr =>
      rw [ids_cons, List.mem_cons, List.mem_append, not_or, not_or] at h
      obtain ⟨hi, hcs, hrest⟩ := h
      have hne : (node i l cs).id ≠ c := fun h => hi h.symm
      rw [removeIn, if_neg hne, removeBelow, ihc hcs, ihr hrest]

/-! ### Changing a node -/

theorem map_changed_of_notMem {p : Nat} {ts : List Tree} (h : p ∉ ids ts) (label : Label)
    (children : List Nat) : (rows ts).map (Row.changed p label children) = rows ts := by
  refine (List.map_congr_left ?_).trans (List.map_id _)
  intro r hr
  refine Row.changed_of_ne ?_ label children
  intro hid
  exact h (hid ▸ map_id_rows ts ▸ List.mem_map_of_mem hr)

/-- Changing nodes leaves the numbers of the roots alone. -/
theorem map_id_changeIn (p : Nat) (f : Label → List Tree → Label × List Tree) (ts : List Tree) :
    (changeIn p f ts).map Tree.id = ts.map Tree.id := by
  induction ts with
  | nil => rfl
  | cons t ts ih =>
      have ht : (change p f t).id = t.id := by
        cases t with
        | node i l cs =>
            rw [change]
            split <;> rfl
      rw [changeIn, List.map_cons, ht, ih, List.map_cons]

/-- **Changing a node changes its row, gives up the rows below it and brings in the rows of what is
put below it.** -/
theorem rows_changeIn {p : Nat} {f : Label → List Tree → Label × List Tree} {l : Label}
    {cs ts : List Tree} (hnodup : (ids ts).Nodup) (hmem : node p l cs ∈ preorderAll ts) :
    (rows (changeIn p f ts) ++ rows cs).Perm
      ((rows ts).map (Row.changed p (f l cs).1 ((f l cs).2.map Tree.id)) ++ rows (f l cs).2) := by
  induction ts using forest_induction with
  | nil => simp [preorderAll] at hmem
  | node i label below rest ihc ihr =>
      obtain ⟨hibelow, hirest, hnbelow, hnrest, hdisjoint⟩ := nodup_cons hnodup
      rw [preorderAll_cons, List.mem_cons, List.mem_append] at hmem
      rw [changeIn, change, rows_cons, List.map_cons, List.map_append]
      rcases hmem with heq | hmem | hmem
      · -- The node itself: what was below it goes, what is put there comes.
        obtain ⟨rfl, rfl, rfl⟩ : p = i ∧ l = label ∧ cs = below := by simpa using heq
        rw [if_pos rfl, rows_cons, changeIn_of_notMem hirest, map_changed_of_notMem hibelow,
          map_changed_of_notMem hirest, Row.changed, if_pos rfl, List.perm_iff_count]
        intro r
        simp only [List.cons_append, List.count_cons, List.count_append]
        omega
      · have hp : p ∈ ids below := mem_ids_of_mem hmem
        have hne : i ≠ p := fun h => hibelow (h ▸ hp)
        have ih := ihc hnbelow hmem
        rw [if_neg hne, rows_cons, changeIn_of_notMem (hdisjoint p hp), map_id_changeIn,
          map_changed_of_notMem (hdisjoint p hp), Row.changed_of_ne hne, List.perm_iff_count]
        intro r
        have hcount := ih.count_eq r
        simp only [List.cons_append, List.count_cons, List.count_append] at hcount ⊢
        omega
      · have hp : p ∈ ids rest := mem_ids_of_mem hmem
        have hne : i ≠ p := fun h => hirest (h ▸ hp)
        have hbelow : p ∉ ids below := fun h => hdisjoint p h hp
        have ih := ihr hnrest hmem
        rw [if_neg hne, rows_cons, changeIn_of_notMem hbelow, map_changed_of_notMem hbelow,
          Row.changed_of_ne hne, List.perm_iff_count]
        intro r
        have hcount := ih.count_eq r
        simp only [List.cons_append, List.count_cons, List.count_append] at hcount ⊢
        omega

/-- A node that keeps its children and gets more behind them. -/
theorem rows_changeIn_append {f : Label → List Tree → Label × List Tree} {t : Tree}
    {extra ts : List Tree} (hnodup : (ids ts).Nodup) (ht : t ∈ preorderAll ts)
    (hf : (f t.label t.children).2 = t.children ++ extra) :
    (rows (changeIn t.id f ts)).Perm
      ((rows ts).map (Row.changed t.id (f t.label t.children).1
        (t.children.map Tree.id ++ extra.map Tree.id)) ++ rows extra) := by
  cases t with
  | node p l cs =>
      have hperm := rows_changeIn hnodup ht (f := f)
      rw [show (f l cs).2 = cs ++ extra from hf, rows_append, List.map_append] at hperm
      rw [List.perm_iff_count] at hperm ⊢
      intro r
      have hcount := hperm r
      simp only [List.count_append] at hcount ⊢
      simp only [Tree.id, Tree.label, Tree.children]
      omega

/-- A changed node is there as it was changed. -/
theorem mem_preorderAll_changeIn {f : Label → List Tree → Label × List Tree} {t : Tree}
    {ts : List Tree} (hnodup : (ids ts).Nodup) (ht : t ∈ preorderAll ts) :
    node t.id (f t.label t.children).1 (f t.label t.children).2 ∈
      preorderAll (changeIn t.id f ts) := by
  induction ts using forest_induction with
  | nil => simp [preorderAll] at ht
  | node i l below rest ihc ihr =>
      obtain ⟨hibelow, hirest, hnbelow, hnrest, -⟩ := nodup_cons hnodup
      rw [preorderAll_cons, List.mem_cons, List.mem_append] at ht
      rw [changeIn, change]
      rcases ht with rfl | ht | ht
      · have hid : (node i l below).id = i := rfl
        rw [hid, if_pos rfl, preorderAll_cons]
        exact List.mem_cons_self
      · have hne : i ≠ t.id := by
          intro h
          exact hibelow (h ▸ mem_ids_of_mem ht)
        rw [if_neg hne, preorderAll_cons, List.mem_cons, List.mem_append]
        exact Or.inr (Or.inl (ihc hnbelow ht))
      · have hne : i ≠ t.id := by
          intro h
          exact hirest (h ▸ mem_ids_of_mem ht)
        rw [if_neg hne, preorderAll_cons, List.mem_cons, List.mem_append]
        exact Or.inr (Or.inr (ihr hnrest ht))

/-- What is put below a node is there with all that is below it. -/
theorem mem_preorderAll_changeIn_of_mem {f : Label → List Tree → Label × List Tree} {t u : Tree}
    {ts : List Tree} (hnodup : (ids ts).Nodup) (ht : t ∈ preorderAll ts)
    (hu : u ∈ (f t.label t.children).2) : u ∈ preorderAll (changeIn t.id f ts) :=
  mem_preorderAll_of_child (mem_preorderAll_changeIn hnodup ht) hu

/-! ### Taking a node out -/

theorem map_without_of_notMem {c : Nat} {ts : List Tree} (h : c ∉ ids ts) :
    (rows ts).map (Row.without c) = rows ts := by
  refine (List.map_congr_left ?_).trans (List.map_id _)
  intro r hr
  exact Row.without_of_notMem fun hc => h (children_subset_ids hr c hc)

/-- Of the roots a node is taken out if it is one of them. -/
theorem map_id_removeIn (c : Nat) (ts : List Tree) :
    (removeIn c ts).map Tree.id = (ts.map Tree.id).filter (· ≠ c) := by
  induction ts with
  | nil => rfl
  | cons t ts ih =>
      rw [removeIn, List.map_cons, List.filter_cons]
      by_cases h : t.id = c
      · rw [if_pos h, ih, if_neg (by simpa using h)]
      · have ht : (removeBelow c t).id = t.id := by
          cases t
          rfl
        rw [if_neg h, if_pos (by simpa using h), List.map_cons, ht, ih]

/-- **Taking a node out gives up its row and those below it, and strikes its number out.** -/
theorem rows_removeIn {c : Tree} {ts : List Tree} (hnodup : (ids ts).Nodup)
    (hmem : c ∈ preorderAll ts) :
    (rows (removeIn c.id ts) ++ rows [c]).Perm ((rows ts).map (Row.without c.id)) := by
  induction ts using forest_induction with
  | nil => simp [preorderAll] at hmem
  | node i l below rest ihc ihr =>
      obtain ⟨hibelow, hirest, hnbelow, hnrest, hdisjoint⟩ := nodup_cons hnodup
      rw [preorderAll_cons, List.mem_cons, List.mem_append] at hmem
      rw [removeIn, rows_cons, List.map_cons, List.map_append]
      rcases hmem with rfl | hmem | hmem
      · -- A root: nothing below it and nothing beside it knows its number.
        have hnumbers : i ∉ below.map Tree.id := fun h => hibelow (mem_ids_of_mem_map h)
        have hid : (node i l below).id = i := rfl
        rw [if_pos rfl, hid, removeIn_of_notMem hirest, map_without_of_notMem hibelow,
          map_without_of_notMem hirest, Row.without_of_notMem hnumbers, rows_cons,
          List.perm_iff_count]
        intro r
        simp only [List.count_cons, List.count_append, rows, preorderAll, List.map_nil,
          List.count_nil]
        omega
      · have hc : c.id ∈ ids below := mem_ids_of_mem hmem
        have hne : (node i l below).id ≠ c.id := by
          intro h
          rw [← h] at hc
          exact hibelow hc
        have ih := ihc hnbelow hmem
        rw [if_neg hne, removeBelow, rows_cons, removeIn_of_notMem (hdisjoint c.id hc),
          map_id_removeIn, map_without_of_notMem (hdisjoint c.id hc), List.perm_iff_count]
        intro r
        have hcount := ih.count_eq r
        simp only [List.cons_append, List.count_cons, List.count_append, Row.without] at hcount ⊢
        omega
      · have hc : c.id ∈ ids rest := mem_ids_of_mem hmem
        have hne : (node i l below).id ≠ c.id := by
          intro h
          rw [← h] at hc
          exact hirest hc
        have hbelow : c.id ∉ ids below := fun h => hdisjoint c.id h hc
        have hnumbers : c.id ∉ below.map Tree.id := fun h => hbelow (mem_ids_of_mem_map h)
        have ih := ihr hnrest hmem
        rw [if_neg hne, removeBelow, rows_cons, removeIn_of_notMem hbelow,
          map_without_of_notMem hbelow, Row.without_of_notMem hnumbers, List.perm_iff_count]
        intro r
        have hcount := ih.count_eq r
        simp only [List.cons_append, List.count_cons, List.count_append] at hcount ⊢
        omega

/-- Taking a node out loses its number and those below it and no other. -/
theorem ids_removeIn {c : Tree} {ts : List Tree} (hnodup : (ids ts).Nodup)
    (hmem : c ∈ preorderAll ts) : (ids (removeIn c.id ts) ++ ids [c]).Perm (ids ts) := by
  have hids := (rows_removeIn hnodup hmem).map Row.id
  rw [List.map_append, map_id_rows, map_id_rows, List.map_map] at hids
  rw [← map_id_rows ts]
  exact hids

/-! ### New nodes -/

/-- Numbered markup is that markup. -/
theorem toHtmlAll_ofHtmlAll (n : Nat) (hs : List Html) : toHtmlAll (ofHtmlAll n hs).1 = hs := by
  induction hs using Html.forest_induction generalizing n with
  | nil => rfl
  | text s rest ih => simp only [ofHtmlAll, ofHtml, toHtmlAll, toHtml, ih]
  | aside kind s rest ih => simp only [ofHtmlAll, ofHtml, toHtmlAll, toHtml, ih]
  | element name attrs children rest ihc ihr =>
      simp only [ofHtmlAll, ofHtml, toHtmlAll, toHtml, ihc, ihr]

/-- New nodes have the next numbers, one after another. -/
theorem ids_ofHtmlAll (n : Nat) (hs : List Html) :
    n ≤ (ofHtmlAll n hs).2 ∧ ids (ofHtmlAll n hs).1 = List.Ico n (ofHtmlAll n hs).2 := by
  induction hs using Html.forest_induction generalizing n with
  | nil => exact ⟨Nat.le_refl n, List.Ico.self_empty.symm⟩
  | text s rest ih =>
      obtain ⟨hle, hids⟩ := ih (n + 1)
      simp only [ofHtmlAll, ofHtml, ids_cons, hids]
      exact ⟨Nat.le_of_lt hle, (List.Ico.eq_cons hle).symm⟩
  | aside kind s rest ih =>
      obtain ⟨hle, hids⟩ := ih (n + 1)
      simp only [ofHtmlAll, ofHtml, ids_cons, hids]
      exact ⟨Nat.le_of_lt hle, (List.Ico.eq_cons hle).symm⟩
  | element name attrs children rest ihc ihr =>
      obtain ⟨hbelow, hids⟩ := ihc (n + 1)
      obtain ⟨hle, hrest⟩ := ihr (ofHtmlAll (n + 1) children).2
      simp only [ofHtmlAll, ofHtml, ids_cons, hids, hrest]
      rw [List.Ico.append_consecutive hbelow hle]
      have hlt : n < (ofHtmlAll (ofHtmlAll (n + 1) children).2 rest).2 := hbelow.trans hle
      exact ⟨Nat.le_of_lt hlt, (List.Ico.eq_cons hlt).symm⟩

end Tree

end MfmRender
