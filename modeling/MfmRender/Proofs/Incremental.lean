/-
Rendering a document piece by piece.

A document can be rendered as a whole, or its nodes can be handed to one renderer
one after another.  Both give the same markup, and this file shows what that
rests on.  Rendering a list of nodes is rendering a first part and going on with
the rest from the counters that the part has left (`nodes_append`), and all that
one node leaves to the next is how many big and moving nodes are in it.  Printing
has no state at all: the markup of a row of trees is that of each in turn, and no
tree closes or joins another.

So the content of the root element is the concatenation of what the nodes give
alone (`render_incremental`).  A bare text is the one thing that looks different
alone, where it is just its characters, and inside the root, where it is escaped;
for this reason the root must not be an element whose text is written as it is.
Only the empty document is not the root around its content: it is no markup at
all.
-/
import MfmRender.Proofs.Failures
import MfmRender.Walk

namespace MfmRender

open Html

/-! ### Markup of nodes in a row -/

namespace Html

theorem charsAll_append (raw : Bool) (hs gs : List Html) :
    charsAll raw (hs ++ gs) = charsAll raw hs ++ charsAll raw gs := by
  induction hs with
  | nil => rfl
  | cons h hs ih => rw [List.cons_append, charsAll, ih, charsAll, List.append_assoc]

/-- An element is written alike wherever it stands. -/
theorem chars_element (raw : Bool) (name : String) (attrs : Attributes) (children : List Html) :
    chars raw (.element name attrs children) = chars false (.element name attrs children) := by
  rw [chars, chars]

/-- Where text is escaped the markup of a row is that of each node. -/
theorem ofList_charsAll (hs : List Html) :
    String.ofList (charsAll false hs) = String.join (hs.map Html.print) := by
  induction hs with
  | nil => rfl
  | cons h hs ih =>
    rw [charsAll, String.ofList_append, ih, List.map_cons, String.join_cons]
    rfl

end Html

/-- The root element as markup, around its content. -/
def rootMarkup (root content : String) : String :=
  "<" ++ root ++ " data-mfm=\"root\">" ++ content ++ "</" ++ root ++ ">"

/-- Whatever the root is called, it is written with both of its tags if anything is in it. -/
theorem print_root (root : String) {hs : List Html} (h : hs ≠ []) :
    (Render.element root "root" [] hs).print
      = rootMarkup root (String.ofList (charsAll (isRawText root) hs)) := by
  have hempty : hs.isEmpty = false := by simpa using h
  have hattrs : attrsChars [("data-mfm", .text "root")] = " data-mfm=\"root\"".toList := by
    rw [attrsChars, List.mergeSort_singleton]
    decide
  apply String.toList_inj.mp
  rw [Html.print, Render.element, chars, hempty, startTag, endTag, hattrs]
  simp [rootMarkup]

namespace Render

/-! ### Nodes in two parts -/

variable {config : Config}

/-- **Rendering goes on after a part of the nodes from the counters that the part has left.** -/
theorem nodes_append (config : Config) (xs ys : List Node) :
    ∀ before : Counters, nodes config (xs ++ ys) before
      = match nodes config xs before with
        | (.error r, after) => (.error r, after)
        | (.ok hs, between) =>
          match nodes config ys between with
          | (.ok gs, after) => (.ok (hs ++ gs), after)
          | (.error r, after) => (.error r, after) := by
  induction xs with
  | nil =>
      intro before
      simp only [List.nil_append, nodes]
      rcases nodes config ys before with ⟨r | gs, after⟩ <;> rfl
  | cons n rest ih =>
      intro before
      simp only [List.cons_append, nodes]
      rcases node config n before with ⟨r | h, between⟩
      · rfl
      · simp only [ih]
        rcases nodes config rest between with ⟨r | hs, last⟩
        · rfl
        · simp only
          rcases nodes config ys last with ⟨r | gs, after⟩ <;> rfl

/-- The content of the root element as markup. -/
def body (config : Config) (ns : List Node) : Rendering String := fun before =>
  match nodes config ns before with
  | (.ok hs, after) => (.ok (String.ofList (charsAll (isRawText config.rootTagName) hs)), after)
  | (.error r, after) => (.error r, after)

theorem body_append (config : Config) (xs ys : List Node) (before : Counters) :
    body config (xs ++ ys) before
      = match body config xs before with
        | (.error r, after) => (.error r, after)
        | (.ok s, between) =>
          match body config ys between with
          | (.ok t, after) => (.ok (s ++ t), after)
          | (.error r, after) => (.error r, after) := by
  simp only [body, nodes_append]
  rcases nodes config xs before with ⟨r | hs, between⟩
  · rfl
  · simp only
    rcases nodes config ys between with ⟨r | gs, after⟩
    · rfl
    · simp [charsAll_append]

theorem body_of_accepted {ns : List Node} (h : Node.Accepted config ns) (before : Counters) :
    body config ns before
      = (.ok (String.ofList (charsAll (isRawText config.rootTagName)
          (Node.prescribedAll config before ns))),
        before + Node.tally (Node.preorderAll ns)) := by
  rw [body, nodes_eq_ok_iff.mpr ⟨h, rfl, rfl⟩]

end Render

/-! ### Loading in parts -/

variable {config : Config} {vs us ws : List Json} {ns : List Node}

theorem loadNodes_eq_ok_iff_map :
    loadNodes vs = .ok ns ↔ vs.map (Node.load Node.maxDepth none) = ns.map .ok :=
  loadNodes_eq_ok_iff.trans Checked.indexed_eq_ok_iff

/-- A document in two parts is loaded part by part. -/
theorem loadNodes_append (h : loadNodes (us ++ ws) = .ok ns) :
    ∃ xs ys, loadNodes us = .ok xs ∧ loadNodes ws = .ok ys ∧ ns = xs ++ ys := by
  rw [loadNodes_eq_ok_iff_map, List.map_append] at h
  obtain ⟨xs, ys, rfl, hxs, hys⟩ := List.map_eq_append_iff.mp h.symm
  exact ⟨xs, ys, loadNodes_eq_ok_iff_map.mpr hxs.symm, loadNodes_eq_ok_iff_map.mpr hys.symm, rfl⟩

/-- The first node of a document is loaded from the first value, and the others from the rest. -/
theorem loadNodes_cons {n : Node} (h : loadNodes vs = .ok (n :: ns)) :
    ∃ v more, vs = v :: more ∧ loadNodes [v] = .ok [n] ∧ loadNodes more = .ok ns := by
  rw [loadNodes_eq_ok_iff_map] at h
  obtain ⟨v, more, rfl, hv, hmore⟩ := List.map_eq_cons_iff.mp h
  exact ⟨v, more, rfl, loadNodes_eq_ok_iff_map.mpr (by rw [List.map_singleton, hv]; rfl),
    loadNodes_eq_ok_iff_map.mpr hmore⟩

/-! ### One node at a time -/

theorem prescribedAll_ne_nil (config : Config) (before : Counters) (h : ns ≠ []) :
    Node.prescribedAll config before ns ≠ [] := by
  cases ns with
  | nil => exact absurd rfl h
  | cons n rest => simp [Node.prescribedAll]

/-- A tree that looks the same alone and inside the root element, or a bare text. -/
def LooksAlike (h : Html) : Prop :=
  (∃ s, h = .text s ∧ h.print = String.ofList (escape s.toList)) ∨ h.printAlone = h.print

theorem looksAlike_text (s : String) : LooksAlike (.text s) :=
  Or.inl ⟨s, rfl, rfl⟩

theorem looksAlike_element (name : String) (attrs : Attributes) (hs : List Html) :
    LooksAlike (.element name attrs hs) :=
  Or.inr rfl

/-- No node becomes an aside. -/
theorem looksAlike_prescribed (config : Config) (before : Counters) (n : Node) :
    LooksAlike (Node.prescribed config before n) := by
  cases n with
  | branch b children => cases b <;> exact looksAlike_element ..
  | leaf l =>
      cases l with
      | unicodeEmoji emoji => exact looksAlike_text emoji
      | emojiCode name =>
          rw [Node.prescribed, leafRule]
          split
          · exact looksAlike_text _
          · exact looksAlike_element ..
      | _ => exact looksAlike_element ..

theorem looksAlike_prescribedAll (config : Config) (ns : List Node) :
    ∀ before, ∀ h ∈ Node.prescribedAll config before ns, LooksAlike h := by
  induction ns with
  | nil => simp [Node.prescribedAll]
  | cons n rest ih =>
      intro before
      rw [Node.prescribedAll, List.forall_mem_cons]
      exact ⟨looksAlike_prescribed config before n, ih _⟩

namespace WalkStep

/-- A node that is loaded and not rejected gives its tree and moves the counters on by what is in
it. -/
theorem ofNode_eq {v : Json} {n : Node} (hload : loadNodes [v] = .ok [n])
    (haccepted : Node.Accepted config [n]) (before : Counters) :
    ofNode config v before
      = ⟨.ok (Node.prescribed config before n).printAlone, before + Node.tally n.preorder⟩ := by
  have hnodes := Render.nodes_eq_ok_iff.mpr
    ⟨haccepted, Eq.refl (Node.prescribedAll config before [n]), Eq.refl _⟩
  rw [Node.preorderAll_singleton] at hnodes
  simp [ofNode, hload, hnodes, Node.prescribedAll]

/-- **Nodes that are rendered one at a time give the trees of the whole document, each alone.** -/
theorem map_outcome_walk (haccepted : Node.Accepted config ns) :
    ∀ {vs : List Json} {before : Counters}, loadNodes vs = .ok ns →
      (walk config before vs).map WalkStep.outcome
        = (Node.prescribedAll config before ns).map fun h => .ok h.printAlone := by
  induction ns with
  | nil =>
      intro vs before hload
      rw [loadNodes_eq_ok_iff_map] at hload
      obtain rfl : vs = [] := by simpa using hload
      rfl
  | cons n rest ih =>
      intro vs before hload
      obtain ⟨v, more, rfl, hone, hothers⟩ := loadNodes_cons hload
      obtain ⟨hfirst, hrest⟩ := Node.accepted_append.mp
        (show Node.Accepted config ([n] ++ rest) from haccepted)
      simp only [walk, Node.prescribedAll, List.map_cons, ofNode_eq hone hfirst,
        ih hrest hothers]

end WalkStep

/-- **A document is rendered part by part, each part from the counters that those before it have
left, and its markup is that of its nodes rendered one at a time, inside the root element.**  Only
a bare text is not shown as it is alone but escaped.  No nodes make no root element. -/
theorem render_incremental {source : ConfigSource} {markup : String}
    (hload : loadNodes (us ++ ws) = .ok ns) (hsource : source.resolve = .ok (.ok config))
    (hscript : config.rootTagName ≠ "script") (hstyle : config.rootTagName ≠ "style")
    (hrender : renderItems ((us ++ ws).map .raw) source = .ok markup) :
    ∃ xs ys, loadNodes us = .ok xs ∧ loadNodes ws = .ok ys ∧ ns = xs ++ ys ∧
      (∀ before, ∃ s t,
        Render.body config ns before
          = (.ok (s ++ t), before + Node.tally (Node.preorderAll ns)) ∧
        Render.body config xs before = (.ok s, before + Node.tally (Node.preorderAll xs)) ∧
        Render.body config ys (before + Node.tally (Node.preorderAll xs))
          = (.ok t, before + Node.tally (Node.preorderAll ns))) ∧
      (us ++ ws ≠ [] → ∃ hs,
        Render.document config ns = .ok (Render.element config.rootTagName "root" [] hs) ∧
        (WalkStep.walk config {} (us ++ ws)).map WalkStep.outcome
          = hs.map (fun h => .ok h.printAlone) ∧
        (∀ h ∈ hs, LooksAlike h) ∧
        (Render.body config ns {}).1 = .ok (String.join (hs.map Html.print)) ∧
        markup = rootMarkup config.rootTagName (String.join (hs.map Html.print))) := by
  obtain ⟨xs, ys, hxs, hys, rfl⟩ := loadNodes_append hload
  obtain ⟨haccepted, hmarkup⟩ := (renderItems_eq_ok_iff hload hsource).mp hrender
  obtain ⟨hfirst, hsecond⟩ := Node.accepted_append.mp haccepted
  refine ⟨xs, ys, hxs, hys, rfl, ?_, ?_⟩
  · intro before
    have hends : before + Node.tally (Node.preorderAll xs) + Node.tally (Node.preorderAll ys)
        = before + Node.tally (Node.preorderAll (xs ++ ys)) := by
      rw [Node.preorderAll_append, Node.add_tally_append]
    have hx := Render.body_of_accepted hfirst before
    have hy := Render.body_of_accepted hsecond (before + Node.tally (Node.preorderAll xs))
    rw [hends] at hy
    refine ⟨_, _, ?_, hx, hy⟩
    rw [Render.body_append, hx]
    simp only [hy]
  · intro hne
    have hraw : isRawText config.rootTagName = false := by simp [isRawText, hscript, hstyle]
    have hbody := congrArg Prod.fst (Render.body_of_accepted haccepted {})
    rw [hraw, ofList_charsAll] at hbody
    have hns : xs ++ ys ≠ [] := by
      intro hnil
      rw [loadNodes_eq_ok_iff_map, hnil] at hload
      exact hne (by simpa using hload)
    rw [if_neg hne] at hmarkup
    refine ⟨_, ?_, WalkStep.map_outcome_walk haccepted hload, ?_, hbody, ?_⟩
    · exact Render.document_eq_ok_iff.mpr ⟨haccepted, rfl⟩
    · exact looksAlike_prescribedAll config (xs ++ ys) {}
    · rw [hmarkup, ← ofList_charsAll, ← hraw]
      exact print_root config.rootTagName (prescribedAll_ne_nil config {} hns)

/-- An emoji that is markup by itself, after a big node. -/
theorem render_incremental_emoji :
    ∃ hs,
      Render.document {} [.branch (.styled .big) [], .leaf (.unicodeEmoji "<b>")]
        = .ok (Render.element "p" "root" [] hs) ∧
      (WalkStep.walk {} {} [.object [("type", .string "big")],
          .object [("type", .string "unicodeEmoji"),
            ("props", .object [("emoji", .string "<b>")])]]).map WalkStep.outcome
        = hs.map (fun h => .ok h.printAlone) ∧
      (∀ h ∈ hs, LooksAlike h) ∧
      renderItems [.raw (.object [("type", .string "big")]),
          .raw (.object [("type", .string "unicodeEmoji"),
            ("props", .object [("emoji", .string "<b>")])])] (.ready {})
        = .ok (rootMarkup "p" (String.join (hs.map Html.print))) := by
  have hload : loadNodes ([.object [("type", .string "big")]] ++
      [.object [("type", .string "unicodeEmoji"), ("props", .object [("emoji", .string "<b>")])]])
      = .ok [.branch (.styled .big) [], .leaf (.unicodeEmoji "<b>")] := rfl
  have haccepted : Node.Accepted {} [.branch (.styled .big) [], .leaf (.unicodeEmoji "<b>")] := by
    rw [Node.accepted_iff]
    rfl
  have hrender := (@renderItems_eq_ok_iff _ _ (.ready {}) _ _ hload rfl).mpr ⟨haccepted, rfl⟩
  obtain ⟨-, -, -, -, -, -, hwhole⟩ :=
    render_incremental hload rfl (by decide) (by decide) hrender
  obtain ⟨hs, hdoc, hwalk, halike, -, hmarkup⟩ := hwhole (by simp)
  exact ⟨hs, hdoc, hwalk, halike, hrender.trans (congrArg Except.ok hmarkup)⟩

/-- The empty document is no markup, not an empty root element. -/
theorem empty_document_unwrapped :
    loadNodes ([] ++ []) = .ok [] ∧ renderItems [] (.ready {}) = .ok "" ∧
      WalkStep.walk {} {} [] = [] ∧ rootMarkup "p" (String.join []) ≠ "" := by
  refine ⟨rfl, rfl, rfl, by decide⟩

end MfmRender
