/-
From values to markup.

A call is given items, and options that make a configuration or do not.  Items are
loaded one by one, if any raw object is among them, and rendered as they stand
otherwise.  Where they can all be loaded this makes no difference: a list without
raw objects then holds nodes that were loaded before (`eq_loaded_of_loadItems`), and
so in either case the call renders the nodes of its items as one document
(`renderItems_of_loadItems`).
-/
import MfmRender.Item
import MfmRender.Proofs.Checks
import MfmRender.Proofs.Rendering

namespace MfmRender

/-! ### Loading item by item -/

/-- Only objects are loaded. -/
theorem Node.load_eq_ok {levels : Nat} {governor : Option BranchKind} {v : Json} {n : Node}
    (h : Node.load levels governor v = .ok n) : ∃ ms, v = .object ms := by
  unfold Node.load at h
  split at h
  · exact ⟨_, rfl⟩
  · simp [Checked.fault] at h

/-- A document is loaded item by item. -/
theorem loadNodes_eq (vs : List Json) :
    loadNodes vs
      = match Checked.indexed (Node.load Node.maxDepth none) 0 vs with
        | .ok ns => .ok ns
        | .error ps => .error (RenderError.ofProblems ps) := by
  have hmap : ∀ (start : Nat) (vs : List Json),
      Checked.indexed Item.load start (vs.map .raw)
        = Checked.indexed (Node.load Node.maxDepth none) start vs := by
    intro start vs
    induction vs generalizing start with
    | nil => rfl
    | cons v rest ih =>
        rw [List.map_cons, Checked.indexed, Checked.indexed, ih]
        rfl
  have hload := hmap 0 vs
  unfold loadNodes loadItems
  cases hc : Checked.indexed (Node.load Node.maxDepth none) 0 vs with
  | ok ns => simp only [hload, hc]
  | error ps => simp only [hload, hc]

theorem loadNodes_eq_ok_iff {vs : List Json} {ns : List Node} :
    loadNodes vs = .ok ns ↔ Checked.indexed (Node.load Node.maxDepth none) 0 vs = .ok ns := by
  rw [loadNodes_eq]
  cases Checked.indexed (Node.load Node.maxDepth none) 0 vs <;> simp

/-- Nodes that were loaded before are rendered as they are. -/
theorem Render.items_loaded (config : Config) (ns : List Node) :
    ∀ before : Counters, Render.items config (ns.map .loaded) before
      = match Render.nodes config ns before with
        | (.ok hs, _) => .ok hs
        | (.error r, _) => .error (.rejectedMarkup r) := by
  induction ns with
  | nil => intro before; rfl
  | cons n rest ih =>
      intro before
      simp only [List.map_cons, Render.items, Item.node, Render.nodes]
      rcases Render.node config n before with ⟨r | h, between⟩
      · rfl
      · simp only [ih]
        rcases Render.nodes config rest between with ⟨r | hs, after⟩ <;> rfl

/-- An item that is loaded is a raw object or was loaded before. -/
theorem Item.load_eq_ok {i : Item} {n : Node} (h : i.load = .ok n) :
    i.isRawObject = true ∨ i = .loaded n := by
  cases i with
  | raw v =>
      obtain ⟨ms, rfl⟩ := Node.load_eq_ok h
      exact Or.inl rfl
  | loaded m => exact Or.inr (congrArg Item.loaded (Except.ok.inj h))
  | bag ms =>
      simp only [Item.load] at h
      cases hkind : Node.kindOf ms with
      | ok kind => simp [hkind, Checked.inside_eq_ok_iff] at h
      | error ps => simp [hkind] at h

/-- A list is loaded item by item. -/
theorem loadItems_eq_ok_iff {is : List Item} {ns : List Node} :
    loadItems is = .ok ns ↔ is.map Item.load = ns.map .ok := by
  rw [← @Checked.indexed_eq_ok_iff _ _ _ _ 0, loadItems]
  cases Checked.indexed Item.load 0 is <;> simp

/-- Items of which none is a raw object were all loaded before. -/
theorem eq_loaded_of_loadItems {is : List Item} {ns : List Node} (hload : loadItems is = .ok ns)
    (hobject : is.any Item.isRawObject = false) : is = ns.map .loaded := by
  have hitems : is.map Item.load = ns.map .ok := loadItems_eq_ok_iff.mp hload
  clear hload
  induction is generalizing ns with
  | nil =>
      cases ns with
      | nil => rfl
      | cons n rest => cases hitems
  | cons i is ih =>
      cases ns with
      | nil => cases hitems
      | cons n rest =>
          obtain ⟨hi, hrest⟩ := List.cons.inj hitems
          obtain ⟨hfirst, hothers⟩ : i.isRawObject = false ∧ is.any Item.isRawObject = false := by
            simpa using hobject
          have hloaded : i = .loaded n := by
            rcases Item.load_eq_ok hi with hraw | hloaded
            · rw [hfirst] at hraw
              cases hraw
            · exact hloaded
          rw [hloaded, List.map_cons, ih hothers hrest]

/-! ### How a call renders -/

/-- It does not matter to a call in which way its options were given. -/
theorem renderItems_of_resolve {is : List Item} {source : ConfigSource} {config : Config}
    (h : source.resolve = .ok (.ok config)) :
    renderItems is source = renderItems is (.ready config) := by
  unfold renderItems
  rw [h]
  rfl

/-- Items that can be loaded are rendered as their nodes, whatever way the items and the options
came. -/
theorem renderItems_of_loadItems {is : List Item} {ns : List Node} {source : ConfigSource}
    {config : Config} (his : is ≠ []) (hload : loadItems is = .ok ns)
    (hsource : source.resolve = .ok (.ok config)) :
    renderItems is source
      = match Render.document config ns with
        | .ok h => .ok h.print
        | .error r => .error (.rejectedMarkup r) := by
  have hempty : is.isEmpty ≠ true := by simpa using his
  unfold renderItems
  rw [if_neg hempty, hsource]
  simp only [bind, Except.bind]
  cases hobject : is.any Item.isRawObject with
  | true =>
      simp only [if_true, hload]
      cases Render.document config ns <;> rfl
  | false =>
      rw [eq_loaded_of_loadItems hload hobject, Render.items_loaded, Render.document]
      rcases Render.nodes config ns {} with ⟨r | hs, after⟩ <;> rfl

/-- Items that can be loaded are rendered exactly when no code in them is rejected, and then as the
prescribed tree of their nodes. -/
theorem renderItems_eq_ok_iff_of_loadItems {is : List Item} {ns : List Node}
    {source : ConfigSource} {config : Config} {markup : String} (his : is ≠ [])
    (hload : loadItems is = .ok ns) (hsource : source.resolve = .ok (.ok config)) :
    renderItems is source = .ok markup ↔
      Node.Accepted config ns ∧ markup = (documentRule config ns).print := by
  rw [renderItems_of_loadItems his hload hsource]
  by_cases haccepted : Node.Accepted config ns
  · rw [Render.document_eq_ok_iff.mpr ⟨haccepted, rfl⟩]
    simp [haccepted, eq_comm]
  · cases hdoc : Render.document config ns with
    | ok h => exact absurd (Render.document_eq_ok_iff.mp hdoc).1 haccepted
    | error r => simp [haccepted]

/-- A document that was loaded is rendered as its nodes, whatever way the options came. -/
theorem renderItems_raw {vs : List Json} {ns : List Node} {source : ConfigSource} {config : Config}
    (hvs : vs ≠ []) (hload : loadNodes vs = .ok ns) (hsource : source.resolve = .ok (.ok config)) :
    renderItems (vs.map .raw) source
      = match Render.document config ns with
        | .ok h => .ok h.print
        | .error r => .error (.rejectedMarkup r) :=
  renderItems_of_loadItems (by simpa using hvs) hload hsource

/-- A document that was loaded is rendered exactly when no code in it is rejected; no nodes make no
markup. -/
theorem renderItems_eq_ok_iff {vs : List Json} {ns : List Node} {source : ConfigSource}
    {config : Config} {markup : String} (hload : loadNodes vs = .ok ns)
    (hsource : source.resolve = .ok (.ok config)) :
    renderItems (vs.map .raw) source = .ok markup ↔
      Node.Accepted config ns ∧
        markup = if vs = [] then "" else (documentRule config ns).print := by
  by_cases hvs : vs = []
  · subst hvs
    obtain rfl : [] = ns := Except.ok.inj hload
    simp [renderItems, Node.accepted_nil, eq_comm]
  · rw [renderItems_eq_ok_iff_of_loadItems (by simpa using hvs) hload hsource, if_neg hvs]

end MfmRender
