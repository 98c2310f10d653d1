/-
Edits leave the attributes of other elements alone.

An edit may move a node, free it, put others beside it or give its handle away, and
what it is stays: each edit has one target, and the attributes of an element change
only if it is the target, and only as the edit says (`attributes_step`).  That an edit
fails is no exception.  It then does nothing, and an edit of the attributes of an
element does not fail.

All of it is read off what edits do (`Edit.Effect`), where each says what becomes of
the labels of the nodes.
-/
import MfmRender.Proofs.Document.Edits

namespace MfmRender

/-! ### Looking an attribute up -/

namespace Attributes

theorem get?_cons (name : String) (value : AttrValue) (rest : Attributes) (other : String) :
    Attributes.get? ((name, value) :: rest) other
      = if other = name then some value else rest.get? other := by
  rw [Attributes.get?, List.lookup_cons]
  by_cases hother : other = name
  · rw [if_pos hother, beq_iff_eq.mpr hother]
  · rw [if_neg hother, beq_eq_false_iff_ne.mpr hother]
    rfl

theorem get?_set (name : String) (value : AttrValue) (attrs : Attributes) (other : String) :
    (Attributes.set name value attrs).get? other
      = if other = name then some value else attrs.get? other := by
  induction attrs with
  | nil => exact get?_cons name value [] other
  | cons a rest ih =>
      obtain ⟨n, v⟩ := a
      rw [Attributes.set]
      by_cases hn : n = name
      · rw [if_pos hn, get?_cons, get?_cons, hn]
        by_cases hother : other = name
        · rw [if_pos hother, if_pos hother]
        · rw [if_neg hother, if_neg hother, if_neg hother]
      · rw [if_neg hn, get?_cons, ih, get?_cons]
        by_cases hother : other = n
        · have hne : other ≠ name := fun h => hn (hother.symm.trans h)
          rw [if_pos hother, if_pos hother, if_neg hne]
        · rw [if_neg hother, if_neg hother]

end Attributes

/-! ### Labels that stay -/

namespace Forest

variable {f f' : Forest} {i p : Nat}

theorem mem_ids_of_label? {label : Label} (h : f.label? p = some label) :
    p ∈ Tree.ids f.trees := by
  by_contra hmem
  rw [label?, row?_eq_none_iff.mpr hmem] at h
  cases h

theorem label?_of_row?_eq (h : f'.row? i = f.row? i) : f'.label? i = f.label? i := by
  rw [label?, h, label?]

theorem label?_of_others (hlabel : f'.label? p = f.label? p)
    (hothers : ∀ q ∈ Tree.ids f.trees, q ≠ p → f'.row? q = f.row? q)
    (hi : i ∈ Tree.ids f.trees) : f'.label? i = f.label? i := by
  by_cases hip : i = p
  · rw [hip, hlabel]
  · exact label?_of_row?_eq (hothers i hi hip)

end Forest

namespace Edit

/-- What an edit does to the attributes of its target. -/
def onAttributes : Edit → Attributes → Attributes
  | setAttribute name value => Attributes.set name (.text value)
  | addClass name => Attributes.addClass name
  | _ => id

end Edit

namespace Document

variable {d d' : Document} {target : String} {p : Nat} {tag : String} {attrs : Attributes}

instance (d : Document) (handle : String) (i : Nat) : Decidable (d.Names handle i) :=
  inferInstanceAs (Decidable (d.handles.lookup handle = some i))

theorem label?_of_relabelled {g : Attributes → Attributes} {q : Nat} (hq : d.Names target q)
    (h : d.forest.Relabelled d'.forest q (Label.mapAttributes g))
    (hp : d.forest.label? p = some (.element tag attrs)) :
    d'.forest.label? p
      = some (.element tag (if d.Names target p then g attrs else attrs)) := by
  by_cases hpq : p = q
  · rw [hpq] at hp ⊢
    rw [h.target, hp, if_pos hq]
    rfl
  · have hnames : ¬ d.Names target p := by
      intro hp'
      exact hpq (Option.some.inj (hp'.symm.trans hq))
    rw [Forest.label?, h.others p hpq, if_neg hnames]
    exact hp

/-- What an edit does leaves the attributes of every element but its target alone. -/
theorem label?_of_effect {e : Edit} (h : e.Effect d target d')
    (hp : d.forest.label? p = some (.element tag attrs)) :
    d'.forest.label? p
      = some (.element tag (if d.Names target p then e.onAttributes attrs else attrs)) := by
  have hmem : p ∈ Tree.ids d.forest.trees := Forest.mem_ids_of_label? hp
  have hkept : e.onAttributes attrs = attrs → d'.forest.label? p = d.forest.label? p →
      d'.forest.label? p
        = some (.element tag (if d.Names target p then e.onAttributes attrs else attrs)) := by
    intro hself hsame
    rw [hsame, hp, hself, ite_self]
  cases e with
  | setAttribute name value =>
      obtain ⟨-, q, hq, hrelabelled⟩ := h
      exact label?_of_relabelled hq hrelabelled hp
  | addClass name =>
      obtain ⟨-, q, hq, hrelabelled⟩ := h
      exact label?_of_relabelled hq hrelabelled hp
  | createElement name =>
      obtain ⟨k, -, hcreated⟩ := h
      exact hkept rfl (Forest.label?_of_row?_eq (hcreated.others p hmem))
  | createText text =>
      obtain ⟨k, -, hcreated⟩ := h
      exact hkept rfl (Forest.label?_of_row?_eq (hcreated.others p hmem))
  | appendChild child =>
      obtain ⟨-, q, c, -, -, hmoved⟩ := h
      exact hkept rfl (hmoved.labels p)
  | setText text =>
      obtain ⟨-, q, -, hreplaced⟩ := h
      exact hkept rfl (Forest.label?_of_others hreplaced.label hreplaced.others hmem)
  | injectMarkup markup =>
      obtain ⟨-, q, fragment, -, -, hgrafted⟩ := h
      exact hkept rfl (Forest.label?_of_others hgrafted.label hgrafted.others hmem)
  | serialize =>
      obtain rfl : d' = d := h
      exact hkept rfl rfl

namespace Sound

/-- An edit of the attributes of an element does not fail. -/
theorem onAttributes_eq_self_of_error {e : Edit} {err : EditError} (h : d.Sound)
    (hp : d.forest.label? p = some (.element tag attrs)) (hnames : d.Names target p)
    (he : d.edit target e = .error err) : e.onAttributes attrs = attrs := by
  have hpossible : (∃ q, d.Names target q ∧ d.forest.IsElement q) := ⟨p, hnames, tag, attrs, hp⟩
  have hfails : ¬ e.Possible d target := by
    intro hpossible
    obtain ⟨d', he'⟩ := h.edit_of_possible hpossible
    rw [he] at he'
    cases he'
  cases e with
  | setAttribute name value => exact absurd hpossible hfails
  | addClass name => exact absurd hpossible hfails
  | _ => rfl

/-- **A step changes the attributes of an element only if the element is its target, and then as
the edit says.** -/
theorem attributes_step (h : d.Sound) (target : String) (e : Edit)
    (hp : d.forest.label? p = some (.element tag attrs)) :
    (d.step target e).2.forest.label? p
      = some (.element tag (if d.Names target p then e.onAttributes attrs else attrs)) := by
  rw [Document.step]
  cases he : d.edit target e with
  | ok d' => exact label?_of_effect (h.of_edit he).2.2.1 hp
  | error err =>
      by_cases hnames : d.Names target p
      · rw [if_pos hnames, h.onAttributes_eq_self_of_error hp hnames he]
        exact hp
      · rw [if_neg hnames]
        exact hp

end Sound

end Document

end MfmRender
