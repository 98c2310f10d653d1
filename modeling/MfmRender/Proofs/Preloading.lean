/-
Nodes that are loaded beforehand.

A document may be handed over raw, as loaded nodes, or as a mixture of both, and
there are two ways through the renderer.  Where a raw object is among the items
the whole list is loaded, the nodes in it once more; where there is none the items
are rendered as they stand, and nothing is loaded at all.

Neither way can be told from the other.  Loading lets a loaded node pass, so a
value and the node that is loaded from it load alike, and a list loads alike
whichever of its values were loaded before (`loadItems_preloaded`).  Once two
lists load as the same nodes they are rendered alike, whatever the options are
and whether these are in order or not (`renderItems_congr`).  The two together are
`preloaded_interchangeable`.

The second half needs a list that can be loaded.  A list with a value in it that
is no node is refused on both ways, but not in the same words.
-/
import MfmRender.Proofs.Incremental

namespace MfmRender

/-! ### The same nodes are rendered alike -/

/-- No items load as no nodes, and nothing else does. -/
theorem eq_nil_iff_of_loadItems {is : List Item} {ns : List Node} (h : loadItems is = .ok ns) :
    is = [] ↔ ns = [] := by
  have hloaded : is.map Item.load = ns.map .ok := loadItems_eq_ok_iff.mp h
  have hlength : is.length = ns.length := by
    have hlengths := congrArg List.length hloaded
    rwa [List.length_map, List.length_map] at hlengths
  rw [← List.length_eq_zero_iff, ← List.length_eq_zero_iff, hlength]

/-- Where options are no configuration, items that can be loaded are not even looked at. -/
theorem renderItems_of_no_config {is : List Item} {ns : List Node} {source : ConfigSource}
    {f : Failure} (his : is ≠ []) (hload : loadItems is = .ok ns)
    (hsource : source.resolve = .error f ∨ source.resolve = .ok (.error f)) :
    renderItems is source = .error f := by
  have hempty : is.isEmpty ≠ true := by simpa using his
  unfold renderItems
  rw [if_neg hempty]
  rcases hsource with hsource | hsource
  · rw [hsource]
    rfl
  · rw [hsource]
    by_cases hraw : is.any Item.isRawObject = true
    · simp only [bind, Except.bind, hraw, if_true, hload]
    · simp only [bind, Except.bind, hraw, Bool.false_eq_true, if_false]

/-- **Items that load as the same nodes are rendered alike, whatever the options.** -/
theorem renderItems_congr {is js : List Item} {ns : List Node} (his : loadItems is = .ok ns)
    (hjs : loadItems js = .ok ns) (source : ConfigSource) :
    renderItems is source = renderItems js source := by
  by_cases hnil : is = []
  · have hns : ns = [] := (eq_nil_iff_of_loadItems his).mp hnil
    rw [hnil, (eq_nil_iff_of_loadItems hjs).mpr hns]
  · have hjnil : js ≠ [] := by
      intro hj
      exact hnil ((eq_nil_iff_of_loadItems his).mpr ((eq_nil_iff_of_loadItems hjs).mp hj))
    rcases hsource : source.resolve with f | f | config
    · rw [renderItems_of_no_config hnil his (Or.inl hsource),
        renderItems_of_no_config hjnil hjs (Or.inl hsource)]
    · rw [renderItems_of_no_config hnil his (Or.inr hsource),
        renderItems_of_no_config hjnil hjs (Or.inr hsource)]
    · rw [renderItems_of_loadItems hnil his hsource, renderItems_of_loadItems hjnil hjs hsource]

/-! ### A value and its node load alike -/

/-- The item that stands for a value: the node that is loaded from the value alone if it is to be
loaded beforehand, else the value itself. -/
def Item.ofValue (beforehand : Bool) (v : Json) : Item :=
  match beforehand, loadNodes [v] with
  | true, .ok [n] => .loaded n
  | _, _ => .raw v

/-- A document whose values are loaded beforehand at the chosen places. -/
def preloaded (chosen : Nat → Bool) (vs : List Json) : List Item :=
  vs.mapIdx fun i v => Item.ofValue (chosen i) v

theorem Item.ofValue_of_load {v : Json} {n : Node} (h : Node.load Node.maxDepth none v = .ok n)
    (beforehand : Bool) :
    Item.ofValue beforehand v = if beforehand then .loaded n else .raw v := by
  have hone : loadNodes [v] = .ok [n] := by
    rw [loadNodes_eq_ok_iff_map]
    simp [h]
  cases beforehand with
  | true => simp [Item.ofValue, hone]
  | false => rfl

/-- Loading lets the node pass that it would have made of the value. -/
theorem Item.load_ofValue (beforehand : Bool) (v : Json) :
    (Item.ofValue beforehand v).load = Node.load Node.maxDepth none v := by
  rcases hv : Node.load Node.maxDepth none v with ps | n
  · -- A value of which no node can be made stays as it is.
    have hnone : ∀ m, loadNodes [v] ≠ .ok [m] := by
      intro m hm
      rw [loadNodes_eq_ok_iff_map] at hm
      simp [hv] at hm
    have hraw : Item.ofValue beforehand v = .raw v := by
      unfold Item.ofValue
      split
      · rename_i hm
        exact absurd hm (hnone _)
      · rfl
    rw [hraw]
    exact hv
  · rw [Item.ofValue_of_load hv]
    cases beforehand with
    | true => rfl
    | false => exact hv

/-- **A list loads alike, whichever of its values were loaded before**, also where it cannot be
loaded. -/
theorem loadItems_preloaded (chosen : Nat → Bool) (vs : List Json) :
    loadItems (preloaded chosen vs) = loadNodes vs := by
  have hitems : ∀ (start : Nat) (chosen : Nat → Bool) (vs : List Json),
      Checked.indexed Item.load start (preloaded chosen vs)
        = Checked.indexed (Node.load Node.maxDepth none) start vs := by
    intro start chosen vs
    induction vs generalizing start chosen with
    | nil => rfl
    | cons v rest ih =>
        have hsplit : preloaded chosen (v :: rest)
            = Item.ofValue (chosen 0) v :: preloaded (fun i => chosen (i + 1)) rest :=
          List.mapIdx_cons
        rw [hsplit, Checked.indexed, Checked.indexed, Item.load_ofValue, ih]
  rw [loadItems, hitems]
  exact (loadNodes_eq vs).symm

/-- **Raw objects and loaded nodes are interchangeable.**  Wherever the values of a document that
can be loaded are replaced by the nodes that are loaded from them, at no place, at some or at all,
the list loads as the same nodes, and rendering it comes to the same end. -/
theorem preloaded_interchangeable {vs : List Json} {ns : List Node} (hload : loadNodes vs = .ok ns)
    (chosen : Nat → Bool) :
    (∀ i, (preloaded chosen vs)[i]?
      = if chosen i then ns[i]?.map .loaded else vs[i]?.map .raw) ∧
    loadItems (preloaded chosen vs) = .ok ns ∧
    ∀ source, renderItems (preloaded chosen vs) source = renderItems (vs.map .raw) source := by
  have hmixed : loadItems (preloaded chosen vs) = .ok ns := by
    rw [loadItems_preloaded, hload]
  refine ⟨?_, hmixed, fun source => renderItems_congr hmixed hload source⟩
  intro i
  rw [preloaded, List.getElem?_mapIdx]
  have hvalues : vs.map (Node.load Node.maxDepth none) = ns.map .ok :=
    loadNodes_eq_ok_iff_map.mp hload
  have hi : vs[i]?.map (Node.load Node.maxDepth none) = ns[i]?.map .ok := by
    rw [← List.getElem?_map, ← List.getElem?_map, hvalues]
  rcases hv : vs[i]? with _ | v
  · rw [hv] at hi
    have hn : ns[i]? = none := by simpa using hi.symm
    simp [hn]
  · rw [hv] at hi
    obtain ⟨n, hn, hloaded⟩ : ∃ n, ns[i]? = some n ∧ Node.load Node.maxDepth none v = .ok n := by
      rcases hn : ns[i]? with _ | n
      · rw [hn] at hi
        simp at hi
      · rw [hn] at hi
        exact ⟨n, rfl, by simpa using hi⟩
    rw [hn]
    simp only [Option.map_some, Item.ofValue_of_load hloaded]
    split <;> rfl

/-- The first of two nodes is loaded beforehand, and the code inside it is no markup. -/
theorem preloaded_interchangeable_first :
    loadNodes [.object [("type", .string "bold"), ("children", .array [
        .object [("type", .string "blockCode"),
          ("props", .object [("code", .string "<![bad[")])]])],
      .object [("type", .string "big")]]
      = .ok [.branch (.styled .bold) [.leaf (.blockCode "<![bad[" none)],
          .branch (.styled .big) []] ∧
    loadItems [.loaded (.branch (.styled .bold) [.leaf (.blockCode "<![bad[" none)]),
        .raw (.object [("type", .string "big")])]
      = .ok [.branch (.styled .bold) [.leaf (.blockCode "<![bad[" none)],
          .branch (.styled .big) []] ∧
    renderItems [.loaded (.branch (.styled .bold) [.leaf (.blockCode "<![bad[" none)]),
        .raw (.object [("type", .string "big")])] .default
      = renderItems [.raw (.object [("type", .string "bold"), ("children", .array [
          .object [("type", .string "blockCode"),
            ("props", .object [("code", .string "<![bad[")])]])]),
        .raw (.object [("type", .string "big")])] .default := by
  have hload : loadNodes [.object [("type", .string "bold"), ("children", .array [
        .object [("type", .string "blockCode"),
          ("props", .object [("code", .string "<![bad[")])]])],
      .object [("type", .string "big")]]
      = .ok [.branch (.styled .bold) [.leaf (.blockCode "<![bad[" none)],
          .branch (.styled .big) []] := rfl
  obtain ⟨-, hnodes, hrender⟩ := preloaded_interchangeable hload fun i => i == 0
  exact ⟨hload, hnodes, hrender .default⟩

end MfmRender
