/-
Edits keep a document a forest.

Whatever is done to a document, and whether or not it succeeds, each node stays in
one place: at most one parent, once among its children, never below itself.  An edit
is described by when it is possible and by what it then does
(`Edit.Possible`, `Edit.Effect`), in terms of the numbers of nodes and their
children; an edit that is not possible fails and changes nothing.

The invariant of documents is that of their forests, and that handles name nodes
that are there (`Document.Sound`).  It is kept by each edit (`Sound.of_edit`, one
case for each kind) and so holds of every document that edits can lead to.  Handles
may also be given to nodes that came in as markup or as the text of an element:
whoever has a node can look at its children and move those.
-/
import Mathlib.Logic.Relation
import MfmRender.Document.Edit
import MfmRender.Proofs.Document.Operations

namespace MfmRender

namespace Label

/-- A label with its attributes changed, if it has any. -/
def mapAttributes (g : Attributes → Attributes) : Label → Label
  | element name attrs => element name (g attrs)
  | other => other

end Label

/-- The root of the tree is an element. -/
def Tree.IsElement (t : Tree) : Prop :=
  ∃ name attrs, t.label = .element name attrs

/-- The node is an element. -/
def Forest.IsElement (f : Forest) (i : Nat) : Prop :=
  ∃ name attrs, f.label? i = some (.element name attrs)

namespace Document

/-- A handle names a node. -/
def Names (d : Document) (handle : String) (i : Nat) : Prop :=
  d.handles.lookup handle = some i

/-- The documents that edits lead to, where any node may be given a handle at any time. -/
inductive Reachable : Document → Prop
  | empty : Reachable .empty
  | step {d : Document} (target : String) (e : Edit) : Reachable d →
      Reachable (d.step target e).2
  | name {d : Document} (handle : String) (i : Nat) : Reachable d → i ∈ Tree.ids d.forest.trees →
      Reachable { d with handles := (handle, i) :: d.handles }

/-- Numbers are given out once, and handles name nodes of the document. -/
structure Sound (d : Document) : Prop where
  numbered : d.forest.Numbered
  named : ∀ handle i, d.Names handle i → i ∈ Tree.ids d.forest.trees

end Document

namespace Edit

/-- What an edit needs. -/
def Possible (d : Document) (target : String) : Edit → Prop
  | createElement _ => True
  | createText _ => True
  | appendChild child => ∃ p c, d.Names target p ∧ d.Names child c ∧ d.forest.IsElement p ∧
      ¬ Relation.ReflTransGen d.forest.ChildOf p c
  | setAttribute _ _ => ∃ p, d.Names target p ∧ d.forest.IsElement p
  | addClass _ => ∃ p, d.Names target p ∧ d.forest.IsElement p
  | setText _ => ∃ p, d.Names target p ∧ d.forest.IsElement p
  | injectMarkup markup => ∃ p fragment, d.Names target p ∧ Html.parse markup = .ok fragment ∧
      (fragment = [] ∨ d.forest.IsElement p)
  | serialize => ∃ p, d.Names target p

/-- What an edit does: the document before it and the one after it. -/
def Effect (d : Document) (target : String) (d' : Document) : Edit → Prop
  | createElement name => ∃ k, d'.handles = (target, k) :: d.handles ∧
      d.forest.Created d'.forest k (.element name [])
  | createText text => ∃ k, d'.handles = (target, k) :: d.handles ∧
      d.forest.Created d'.forest k (.text text)
  | appendChild child => d'.handles = d.handles ∧ ∃ p c, d.Names target p ∧ d.Names child c ∧
      d.forest.Moved d'.forest c p
  | setAttribute name value => d'.handles = d.handles ∧ ∃ p, d.Names target p ∧
      d.forest.Relabelled d'.forest p (Label.mapAttributes (Attributes.set name (.text value)))
  | addClass name => d'.handles = d.handles ∧ ∃ p, d.Names target p ∧
      d.forest.Relabelled d'.forest p (Label.mapAttributes (Attributes.addClass name))
  | setText text => d'.handles = d.handles ∧ ∃ p, d.Names target p ∧
      d.forest.Replaced d'.forest p text
  | injectMarkup markup => d'.handles = d.handles ∧ ∃ p fragment, d.Names target p ∧
      Html.parse markup = .ok fragment ∧ d.forest.Grafted d'.forest p fragment
  | serialize => d' = d

end Edit

namespace Document

variable {d d' : Document} {target handle child : String} {t c : Tree} {i : Nat}

/-! ### When edits succeed -/

theorem bind_eq_ok_iff {ε α β : Type} {x : Except ε α} {f : α → Except ε β} {b : β} :
    (x >>= f) = .ok b ↔ ∃ a, x = .ok a ∧ f a = .ok b := by
  cases x with
  | error err => simp [bind, Except.bind]
  | ok a => simp [bind, Except.bind]

/-- The part of an edit that only looks whether the node is an element. -/
theorem element_bind_eq_ok_iff {need : Need} {next : Except EditError Document} :
    (do
      let _ ← element t need
      next) = .ok d' ↔ t.IsElement ∧ next = .ok d' := by
  rw [bind_eq_ok_iff, element, Tree.IsElement]
  cases t.label <;> simp

/-- An edit of an element. -/
theorem onElement_eq_ok_iff {need : Need} {k : Tree → Document} :
    (do
      let t ← d.find target
      let _ ← element t need
      return k t) = Except.ok d' ↔ ∃ t, d.find target = .ok t ∧ t.IsElement ∧ k t = d' := by
  simp only [bind_eq_ok_iff (x := d.find target), element_bind_eq_ok_iff, pure, Except.pure,
    Except.ok.injEq]

theorem edit_appendChild_eq_ok_iff :
    d.edit target (.appendChild child) = .ok d' ↔
      ∃ t c, d.find target = .ok t ∧ d.find child = .ok c ∧ t.IsElement ∧
        ¬ (c.find? t.id).isSome ∧ ⟨d.forest.move t.id c, d.handles⟩ = d' := by
  constructor
  · intro h
    obtain ⟨t, ht, h⟩ := bind_eq_ok_iff.mp h
    obtain ⟨c, hc, h⟩ := bind_eq_ok_iff.mp h
    obtain ⟨helement, h⟩ := element_bind_eq_ok_iff.mp h
    by_cases hinside : (c.find? t.id).isSome
    · rw [if_pos hinside] at h
      cases h
    · rw [if_neg hinside] at h
      cases h
      exact ⟨t, c, ht, hc, helement, hinside, rfl⟩
  · rintro ⟨t, c, ht, hc, helement, hinside, rfl⟩
    refine bind_eq_ok_iff.mpr ⟨t, ht, bind_eq_ok_iff.mpr ⟨c, hc, ?_⟩⟩
    refine element_bind_eq_ok_iff.mpr ⟨helement, ?_⟩
    rw [if_neg hinside]
    rfl

theorem edit_injectMarkup_eq_ok_iff {markup : String} :
    d.edit target (.injectMarkup markup) = .ok d' ↔
      ∃ t fragment, d.find target = .ok t ∧ Html.parse markup = .ok fragment ∧
        (fragment = [] ∧ d = d' ∨ fragment ≠ [] ∧ t.IsElement ∧
          ⟨d.forest.graft t.id fragment, d.handles⟩ = d') := by
  rw [edit, bind_eq_ok_iff]
  refine exists_congr fun t => ?_
  cases hparse : Html.parse markup with
  | error err => simp [throw, throwThe, MonadExceptOf.throw]
  | ok fragment =>
      cases fragment with
      | nil => simp [pure, Except.pure]
      | cons h rest => simp [element_bind_eq_ok_iff, pure, Except.pure]

theorem edit_serialize_eq_ok_iff :
    d.edit target .serialize = .ok d' ↔ (∃ t, d.find target = .ok t) ∧ d = d' := by
  rw [edit, bind_eq_ok_iff]
  simp only [pure, Except.pure, Except.ok.injEq, exists_and_right]

theorem changeAttributes_eq (id : Nat) (g : Attributes → Attributes) (d : Document) :
    d.changeAttributes id g = ⟨d.forest.relabel id (Label.mapAttributes g), d.handles⟩ :=
  rfl

/-! ### Handles -/

namespace Sound

theorem empty : Document.empty.Sound :=
  ⟨⟨List.nodup_nil, by simp [Document.empty, Forest.empty, Tree.ids, Tree.preorderAll]⟩,
    by simp [Names, Document.empty]⟩

theorem find_eq_ok_iff (h : d.Sound) :
    d.find handle = .ok t ↔ d.Names handle t.id ∧ t ∈ Tree.preorderAll d.forest.trees := by
  rw [find, Names]
  cases hi : d.handles.lookup handle with
  | none => simp
  | some i =>
      cases hu : d.forest.find? i with
      | none => exact absurd (h.named handle i hi) (Forest.find?_eq_none_iff.mp hu)
      | some u =>
          obtain ⟨hmem, rfl⟩ := h.numbered.find?_eq_some_iff.mp hu
          simp only [hu, Except.ok.injEq, Option.some.injEq]
          constructor
          · rintro rfl
            exact ⟨rfl, hmem⟩
          · rintro ⟨hid, ht⟩
            rw [hid, h.numbered.find?_of_mem ht] at hu
            exact (Option.some.inj hu).symm

theorem exists_find (h : d.Sound) (hi : d.Names handle i) :
    ∃ t, t.id = i ∧ d.find handle = .ok t := by
  obtain ⟨t, ht, rfl⟩ := List.mem_map.mp (h.named handle i hi)
  exact ⟨t, rfl, h.find_eq_ok_iff.mpr ⟨hi, ht⟩⟩

/-- A node of the document gets a handle. -/
theorem bound (h : d.Sound) (handle : String) (hi : i ∈ Tree.ids d.forest.trees) :
    Sound { d with handles := (handle, i) :: d.handles } := by
  refine ⟨h.numbered, ?_⟩
  intro other j hj
  rw [Names, List.lookup_cons] at hj
  by_cases hother : other == handle
  · rw [hother] at hj
    exact Option.some.inj hj ▸ hi
  · rw [Bool.not_eq_true] at hother
    rw [hother] at hj
    exact h.named other j hj

/-- The forest changes, and no node is lost. -/
theorem rewritten {f : Forest} {g : Row → Row} {new : List Row} (h : d.Sound)
    (hf : d.forest.Rewritten f g new) : Sound ⟨f, d.handles⟩ := by
  refine ⟨hf.numbered h.numbered, ?_⟩
  intro handle i hi
  exact hf.ids.mem_iff.mpr (List.mem_append_left _ (h.named handle i hi))

theorem isElement_iff (h : d.Sound) (ht : t ∈ Tree.preorderAll d.forest.trees) :
    d.forest.IsElement t.id ↔ t.IsElement := by
  rw [Forest.IsElement, Forest.label?_of_row? (h.numbered.row?_of_mem ht), Tree.IsElement]
  simp only [Option.some.injEq, Tree.row]

theorem prints (h : d.Sound) (hi : d.Names handle i) : ∃ s, d.print handle = .ok s := by
  obtain ⟨t, -, ht⟩ := h.exists_find hi
  exact ⟨t.toHtml.printAlone, by rw [print, ht]; rfl⟩

/-! ### What edits do -/

theorem created (h : d.Sound) (handle : String) (label : Label) :
    (d.create handle label).Sound ∧ (d.create handle label).Names handle d.forest.next ∧
      d.forest.Created (d.create handle label).forest d.forest.next label := by
  have hrw := d.forest.create_rewritten label
  refine ⟨?_, ?_, h.numbered.created label⟩
  · refine (h.rewritten hrw).bound handle ?_
    exact hrw.ids.mem_iff.mpr (List.mem_append_right _ List.mem_cons_self)
  · rw [Names, create, List.lookup_cons, beq_self_eq_true]

/-- An element gets other attributes. -/
theorem attributes {need : Need} {g : Attributes → Attributes} (h : d.Sound)
    (he : (do
      let t ← d.find target
      let _ ← element t need
      return d.changeAttributes t.id g) = Except.ok d') :
    d'.Sound ∧ (∃ p, d.Names target p ∧ d.forest.IsElement p) ∧
      (d'.handles = d.handles ∧ ∃ p, d.Names target p ∧
        d.forest.Relabelled d'.forest p (Label.mapAttributes g)) ∧ ∃ i, d'.Names target i := by
  obtain ⟨t, ht, helement, rfl⟩ := onElement_eq_ok_iff.mp he
  obtain ⟨hnames, ht⟩ := h.find_eq_ok_iff.mp ht
  rw [changeAttributes_eq]
  exact ⟨h.rewritten (h.numbered.relabel_rewritten ht _),
    ⟨t.id, hnames, (h.isElement_iff ht).mpr helement⟩,
    ⟨rfl, t.id, hnames, h.numbered.relabelled ht _⟩, t.id, hnames⟩

/-- **An edit that succeeds was possible, does what it says and keeps the invariant.** -/
theorem of_edit {e : Edit} (h : d.Sound) (he : d.edit target e = .ok d') :
    d'.Sound ∧ e.Possible d target ∧ e.Effect d target d' ∧ ∃ i, d'.Names target i := by
  cases e with
  | createElement name =>
      obtain ⟨hsound, hnames, hcreated⟩ := h.created target (.element name [])
      cases he
      exact ⟨hsound, trivial, ⟨_, rfl, hcreated⟩, _, hnames⟩
  | createText text =>
      obtain ⟨hsound, hnames, hcreated⟩ := h.created target (.text text)
      cases he
      exact ⟨hsound, trivial, ⟨_, rfl, hcreated⟩, _, hnames⟩
  | appendChild child =>
      obtain ⟨t, c, ht, hc, helement, hinside, rfl⟩ := edit_appendChild_eq_ok_iff.mp he
      obtain ⟨hnames, ht⟩ := h.find_eq_ok_iff.mp ht
      obtain ⟨hchild, hc⟩ := h.find_eq_ok_iff.mp hc
      -- The target is looked for below the child, which is how a cycle is found out.
      rw [h.numbered.find?_below_isSome_iff hc] at hinside
      have hcycle : t.id ∉ Tree.ids [c] := mt (h.numbered.mem_ids_singleton_iff hc).mp hinside
      exact ⟨h.rewritten (h.numbered.move_rewritten ht hc hcycle),
        ⟨t.id, c.id, hnames, hchild, (h.isElement_iff ht).mpr helement, hinside⟩,
        ⟨rfl, t.id, c.id, hnames, hchild, h.numbered.moved ht hc hcycle⟩, t.id, hnames⟩
  | setAttribute name value => exact h.attributes he
  | addClass name => exact h.attributes he
  | setText text =>
      obtain ⟨t, ht, helement, rfl⟩ := onElement_eq_ok_iff.mp he
      obtain ⟨hnames, ht⟩ := h.find_eq_ok_iff.mp ht
      exact ⟨h.rewritten (h.numbered.replaceChildren_rewritten ht text),
        ⟨t.id, hnames, (h.isElement_iff ht).mpr helement⟩,
        ⟨rfl, t.id, hnames, h.numbered.replaced ht text⟩, t.id, hnames⟩
  | injectMarkup markup =>
      obtain ⟨t, fragment, ht, hparse, hcases⟩ := edit_injectMarkup_eq_ok_iff.mp he
      obtain ⟨hnames, ht⟩ := h.find_eq_ok_iff.mp ht
      rcases hcases with ⟨rfl, rfl⟩ | ⟨-, helement, rfl⟩
      · -- Nothing to add: the document is not touched, even where the target is a text.
        exact ⟨h, ⟨t.id, [], hnames, hparse, Or.inl rfl⟩,
          ⟨rfl, t.id, [], hnames, hparse, d.forest.grafted_nil t.id⟩, t.id, hnames⟩
      · exact ⟨h.rewritten (h.numbered.graft_rewritten ht fragment),
          ⟨t.id, fragment, hnames, hparse, Or.inr ((h.isElement_iff ht).mpr helement)⟩,
          ⟨rfl, t.id, fragment, hnames, hparse, h.numbered.grafted ht fragment⟩, t.id, hnames⟩
  | serialize =>
      obtain ⟨⟨t, ht⟩, rfl⟩ := edit_serialize_eq_ok_iff.mp he
      obtain ⟨hnames, -⟩ := h.find_eq_ok_iff.mp ht
      exact ⟨h, ⟨t.id, hnames⟩, rfl, t.id, hnames⟩

theorem exists_element (h : d.Sound) (hi : d.Names handle i) (helement : d.forest.IsElement i) :
    ∃ t, t.id = i ∧ d.find handle = .ok t ∧ t.IsElement := by
  obtain ⟨t, rfl, ht⟩ := h.exists_find hi
  exact ⟨t, rfl, ht, (h.isElement_iff (h.find_eq_ok_iff.mp ht).2).mp helement⟩

theorem exists_onElement (h : d.Sound) (helement : ∃ p, d.Names target p ∧ d.forest.IsElement p)
    (need : Need) (k : Tree → Document) :
    ∃ d', (do
      let t ← d.find target
      let _ ← element t need
      return k t) = Except.ok d' := by
  obtain ⟨p, hp, helement⟩ := helement
  obtain ⟨t, -, ht, helement⟩ := h.exists_element hp helement
  exact ⟨k t, onElement_eq_ok_iff.mpr ⟨t, ht, helement, rfl⟩⟩

/-- **What is possible succeeds.** -/
theorem edit_of_possible {e : Edit} (h : d.Sound) (hpossible : e.Possible d target) :
    ∃ d', d.edit target e = .ok d' := by
  cases e with
  | createElement name => exact ⟨_, rfl⟩
  | createText text => exact ⟨_, rfl⟩
  | appendChild child =>
      obtain ⟨p, c, hp, hc, helement, hinside⟩ := hpossible
      obtain ⟨t, rfl, ht, helement⟩ := h.exists_element hp helement
      obtain ⟨u, rfl, hu⟩ := h.exists_find hc
      rw [← h.numbered.find?_below_isSome_iff (h.find_eq_ok_iff.mp hu).2] at hinside
      exact ⟨_, edit_appendChild_eq_ok_iff.mpr ⟨t, u, ht, hu, helement, hinside, rfl⟩⟩
  | setAttribute name value => exact h.exists_onElement hpossible _ _
  | addClass name => exact h.exists_onElement hpossible _ _
  | setText text => exact h.exists_onElement hpossible _ _
  | injectMarkup markup =>
      obtain ⟨p, fragment, hp, hparse, helement⟩ := hpossible
      by_cases hnil : fragment = []
      · obtain ⟨t, -, ht⟩ := h.exists_find hp
        exact ⟨_, edit_injectMarkup_eq_ok_iff.mpr
          ⟨t, fragment, ht, hparse, Or.inl ⟨hnil, rfl⟩⟩⟩
      · obtain ⟨t, -, ht, helement⟩ := h.exists_element hp (helement.resolve_left hnil)
        exact ⟨_, edit_injectMarkup_eq_ok_iff.mpr
          ⟨t, fragment, ht, hparse, Or.inr ⟨hnil, helement, rfl⟩⟩⟩
  | serialize =>
      obtain ⟨p, hp⟩ := hpossible
      obtain ⟨t, -, ht⟩ := h.exists_find hp
      exact ⟨_, edit_serialize_eq_ok_iff.mpr ⟨⟨t, ht⟩, rfl⟩⟩

/-- The invariant is kept by each step, also by one that fails. -/
theorem step (h : d.Sound) (target : String) (e : Edit) : (d.step target e).2.Sound := by
  rw [Document.step]
  cases he : d.edit target e with
  | error err => exact h
  | ok d' => exact (h.of_edit he).1

end Sound

/-! ### Edits one after another -/

/-- The document after some edits. -/
def after (d : Document) : List (String × Edit) → Document
  | [] => d
  | (target, e) :: rest => after (d.step target e).2 rest

namespace Reachable

theorem after (h : d.Reachable) (edits : List (String × Edit)) : (d.after edits).Reachable := by
  induction edits generalizing d with
  | nil => exact h
  | cons edit rest ih => exact ih (h.step edit.1 edit.2)

/-- **The invariant holds of every document that edits lead to.** -/
theorem sound (h : d.Reachable) : d.Sound := by
  induction h with
  | empty => exact Sound.empty
  | step target e _ ih => exact ih.step target e
  | name handle i _ hi ih => exact ih.bound handle hi

end Reachable

end Document

open Document

/-- **A document stays a forest, and edits do what they say or nothing.**  In every document that
edits lead to, each node is in one place.  An edit that is possible succeeds and has its effect;
any other fails and leaves the document as it was.  The child of an append may be anywhere in the
document before, also among the children of the target. -/
theorem edits_keep_forest {d : Document} (h : d.Reachable) :
    d.forest.IsForest ∧ ∀ target e,
      (Edit.Possible d target e →
        (∃ s, (d.step target e).1 = .ok s) ∧ Edit.Effect d target (d.step target e).2 e) ∧
      (¬ Edit.Possible d target e →
        (∃ err, (d.step target e).1 = .error err) ∧ (d.step target e).2 = d) := by
  have hsound := h.sound
  refine ⟨hsound.numbered.isForest, ?_⟩
  intro target e
  constructor
  · intro hpossible
    obtain ⟨d', he⟩ := hsound.edit_of_possible hpossible
    obtain ⟨hsound', -, heffect, i, hnames⟩ := hsound.of_edit he
    rw [step, he]
    exact ⟨hsound'.prints hnames, heffect⟩
  · intro himpossible
    cases he : d.edit target e with
    | error err =>
        rw [step, he]
        exact ⟨⟨err, rfl⟩, rfl⟩
    | ok d' => exact absurd (hsound.of_edit he).2.1 himpossible

/-- A text that is a child of one element is appended to another. -/
theorem edits_keep_forest_moved :
    let d := Document.empty.after [("p", .createElement "p"), ("q", .createElement "div"),
      ("t", .createText "x"), ("p", .appendChild "t")]
    let d' := (d.step "q" (.appendChild "t")).2
    d.Reachable ∧ d.forest.childrenOf 0 = [2] ∧ Edit.Possible d "q" (.appendChild "t") ∧
      d.forest.Moved d'.forest 2 1 ∧ d'.forest.childrenOf 0 = [] ∧
      d'.forest.childrenOf 1 = [2] := by
  intro d d'
  have hreachable : d.Reachable := Reachable.empty.after _
  obtain ⟨hmade, hfailed⟩ := (edits_keep_forest hreachable).2 "q" (.appendChild "t")
  have hpossible : Edit.Possible d "q" (.appendChild "t") := by
    by_contra himpossible
    obtain ⟨⟨err, herr⟩, -⟩ := hfailed himpossible
    have hok : ∃ s, (d.step "q" (.appendChild "t")).1 = .ok s := ⟨_, rfl⟩
    obtain ⟨s, hs⟩ := hok
    rw [herr] at hs
    cases hs
  obtain ⟨-, -, p, c, hp, hc, hmoved⟩ := hmade hpossible
  obtain rfl : 1 = p := Option.some.inj hp
  obtain rfl : 2 = c := Option.some.inj hc
  have hparent : d.forest.childrenOf 0 = [2] := by decide
  have htarget : d.forest.childrenOf 1 = [] := by decide
  refine ⟨hreachable, hparent, hpossible, hmoved, ?_, ?_⟩
  · rw [hmoved.others 0 (by decide), hparent]
    rfl
  · rw [hmoved.target, htarget]
    rfl

end MfmRender
