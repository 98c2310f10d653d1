/-
The first three big and the first three moving nodes are animated, and no others.

Which node is the fourth is said by the document alone: nodes are numbered in the
order in which they begin, big and moving ones apart, at whatever depth they
stand.  `Node.shownAll` pairs every node with the element it became, in that
order, and `animation_budget` reads the classes off the pairs.

Rendering decides on the classes of an element when its children are done, and
the counters have moved on by then.  The rules of `Proofs/Rendering.lean` have
settled that: the rank of a node is what was counted when it began.  What is left
is that ranks follow each other without a gap, so that the ranks of a forest are
a range of numbers, the ranks of the children of a branch following its own and
the ranks of its siblings following those.
-/
import MfmRender.Proofs.Calls

namespace MfmRender

namespace Html

/-- The content of an element. -/
def children : Html → List Html
  | .element _ _ hs => hs
  | _ => []

/-- The tag of an element with its attributes. -/
def opening? : Html → Option (String × Attributes)
  | .element tag attrs _ => some (tag, attrs)
  | _ => none

end Html

mutual

/-- A node and all nodes inside it, each with what it is shown as. -/
def Node.shown : Node → Html → List (Node × Html)
  | .branch b children, h => (.branch b children, h) :: Node.shownAll children h.children
  | .leaf l, h => [(.leaf l, h)]

def Node.shownAll : List Node → List Html → List (Node × Html)
  | n :: rest, h :: hs => n.shown h ++ Node.shownAll rest hs
  | _, _ => []

end

/-- The nodes of some style among those shown. -/
def shownWith (style : Style) (pairs : List (Node × Html)) : List (Node × Html) :=
  pairs.filter fun p => p.1.hasStyle style

/-- The name of the animation of a style, if it has one. -/
def animationOf : Style → Option String
  | .big => some "tada"
  | .motion => some "rubberBand"
  | _ => none

/-- How the element of the node of some rank among its style begins. -/
def openingAt (config : Config) (style : Style) (name : String) (rank : Nat) :
    Option (String × Attributes) :=
  some (tagRule style, ("data-mfm", .text style.name) ::
    if config.animate = true ∧ rank ≤ 3 then [("class", .names ["animated", name])] else [])

/-- How many nodes of a style were counted; only animated styles are. -/
def Counters.of (c : Counters) : Style → Nat
  | .big => c.big
  | .motion => c.motion
  | _ => 0

/-! ### Every node is shown once -/

theorem branchRule_children (config : Config) (rank : Counters) (b : Branch) (hs : List Html) :
    (branchRule config rank b hs).children = hs := by
  cases b <;> rfl

/-- The nodes that are shown are those of the document, in the same order. -/
theorem map_fst_shownAll (config : Config) (ns : List Node) :
    ∀ before : Counters,
      (Node.shownAll ns (Node.prescribedAll config before ns)).map Prod.fst
        = Node.preorderAll ns := by
  induction ns using Node.forest_induction with
  | nil => intro before; rfl
  | leaf l rest ih =>
      intro before
      rw [Node.prescribedAll, Node.shownAll, Node.preorderAll, List.map_append, ih]
      rfl
  | branch b children rest ihc ihr =>
      intro before
      rw [Node.prescribedAll, Node.prescribed, Node.shownAll, Node.shown, branchRule_children,
        Node.preorderAll, Node.preorder, List.map_append, List.map_cons, ihc, ihr]

/-- Whatever is shown is shown by the rule of its node, with some rank. -/
theorem exists_prescribed_of_shown {config : Config} {n : Node} {h : Html} (ns : List Node) :
    ∀ before : Counters, (n, h) ∈ Node.shownAll ns (Node.prescribedAll config before ns) →
      ∃ rank, h = Node.prescribed config rank n := by
  induction ns using Node.forest_induction with
  | nil =>
      intro before hmem
      simp [Node.shownAll] at hmem
  | leaf l rest ih =>
      intro before hmem
      rw [Node.prescribedAll, Node.shownAll] at hmem
      rcases List.mem_append.mp hmem with hself | hrest
      · cases List.mem_singleton.mp hself
        exact ⟨before, rfl⟩
      · exact ih _ hrest
  | branch b children rest ihc ihr =>
      intro before hmem
      rw [Node.prescribedAll, Node.prescribed, Node.shownAll, Node.shown,
        branchRule_children] at hmem
      rcases List.mem_append.mp hmem with hb | hrest
      · rcases List.mem_cons.mp hb with hself | hchild
        · cases hself
          exact ⟨before, by rw [Node.prescribed]⟩
        · exact ihc _ hchild
      · exact ihr _ hrest

/-! ### Ranks follow each other -/

theorem shownWith_append (style : Style) (ps qs : List (Node × Html)) :
    shownWith style (ps ++ qs) = shownWith style ps ++ shownWith style qs :=
  List.filter_append ..

theorem Counters.of_add_tally {style : Style} {name : String}
    (hname : animationOf style = some name) (c : Counters) (listed : List Node) :
    (c + Node.tally listed).of style = c.of style + listed.countP (Node.hasStyle style) := by
  cases style <;> first | rfl | cases hname

/-- The element of a big or moving node begins as its rank says. -/
theorem opening?_branchRule {style : Style} {name : String} (hname : animationOf style = some name)
    (config : Config) (rank : Counters) (hs : List Html) :
    (branchRule config rank (.styled style) hs).opening?
      = openingAt config style name (rank.of style) := by
  have hrule : ∀ rank : Nat, animationRule config name rank
      = if config.animate = true ∧ rank ≤ 3 then [("class", .names ["animated", name])]
        else [] := by
    intro rank
    have hdistinct : ["animated", name].eraseDups = ["animated", name] := by
      cases style <;> cases hname <;> rfl
    unfold animationRule classRule
    rw [hdistinct]
    rfl
  rw [openingAt, ← hrule]
  cases style with
  | big =>
      obtain rfl := Option.some.inj hname
      rfl
  | motion =>
      obtain rfl := Option.some.inj hname
      rfl
  | _ => cases hname

/-- A branch of an animated style takes the next rank, before those of its children; another
branch takes none. -/
theorem map_opening?_shownWith_cons {style : Style} {name : String}
    (hname : animationOf style = some name) {config : Config} {before : Counters} {b : Branch}
    {children : List Node} {pairs : List (Node × Html)} {count : Nat} (hs : List Html)
    (hpairs : (shownWith style pairs).map (fun p => p.2.opening?)
      = (List.range' ((before + Node.tally [.branch b children]).of style + 1) count).map
          (openingAt config style name)) :
    (shownWith style ((.branch b children,
        branchRule config (before + Node.tally [.branch b children]) b hs) :: pairs)).map
        (fun p => p.2.opening?)
      = (List.range' (before.of style + 1)
          ([Node.branch b children].countP (Node.hasStyle style) + count)).map
          (openingAt config style name) := by
  rw [Counters.of_add_tally hname] at hpairs
  cases hb : (Node.branch b children).hasStyle style with
  | false =>
      have hcount : [Node.branch b children].countP (Node.hasStyle style) = 0 := by simp [hb]
      rw [hcount, Nat.add_zero] at hpairs
      rw [hcount, Nat.zero_add]
      simpa [shownWith, hb] using hpairs
  | true =>
      obtain rfl : b = .styled style := by
        cases b <;> simp_all [Node.hasStyle, Node.kind, Branch.kind]
      have hcount : [Node.branch (.styled style) children].countP (Node.hasStyle style) = 1 := by
        simp [hb]
      have hrank : (before + Node.tally [.branch (.styled style) children]).of style
          = before.of style + 1 := by
        rw [Counters.of_add_tally hname, hcount]
      rw [hcount] at hpairs
      rw [hcount, Nat.add_comm 1, List.range'_succ, List.map_cons, ← hpairs, ← hrank,
        ← opening?_branchRule hname config _ hs]
      simp [shownWith, hb]

/-- The nodes of an animated style have the ranks that follow what was counted before. -/
theorem map_opening?_shownWith {style : Style} {name : String}
    (hname : animationOf style = some name) (config : Config) (ns : List Node) :
    ∀ before : Counters,
      (shownWith style (Node.shownAll ns (Node.prescribedAll config before ns))).map
          (fun p => p.2.opening?)
        = (List.range' (before.of style + 1)
            ((Node.preorderAll ns).countP (Node.hasStyle style))).map
            (openingAt config style name) := by
  induction ns using Node.forest_induction with
  | nil => intro before; rfl
  | leaf l rest ih =>
      intro before
      have hrest := ih before
      have hleaf : shownWith style [((Node.leaf l), leafRule config l)] = [] := rfl
      have hcount : (Node.preorderAll (.leaf l :: rest)).countP (Node.hasStyle style)
          = (Node.preorderAll rest).countP (Node.hasStyle style) := rfl
      rw [Node.prescribedAll, Node.shownAll, shownWith_append]
      show (shownWith style [((Node.leaf l), leafRule config l)] ++ shownWith style
        (Node.shownAll rest (Node.prescribedAll config before rest))).map _ = _
      rw [hleaf, List.nil_append, hrest, hcount]
  | branch b children rest ihc ihr =>
      intro before
      have hchildren := map_opening?_shownWith_cons hname
        (Node.prescribedAll config (before + Node.tally [.branch b children]) children)
        (ihc (before + Node.tally [.branch b children]))
      have hrest := ihr (before + Node.tally (Node.branch b children).preorder)
      have hcount : (Node.branch b children).preorder.countP (Node.hasStyle style)
          = [Node.branch b children].countP (Node.hasStyle style)
            + (Node.preorderAll children).countP (Node.hasStyle style) := by
        rw [Node.preorder, ← List.countP_append]
        rfl
      rw [Counters.of_add_tally hname, hcount, Nat.add_right_comm] at hrest
      rw [Node.prescribedAll, Node.prescribed, Node.shownAll, Node.shown, branchRule_children,
        Node.preorderAll, shownWith_append, List.map_append, hchildren, hrest, List.countP_append,
        hcount, ← List.map_append, List.range'_append_1]

/-! ### The budget of a document -/

/-- The element of the node that is `i`-th of its style in the document, the first being 0. -/
theorem opening?_of_shown {style : Style} {name : String} (hname : animationOf style = some name)
    {config : Config} {ns : List Node} {i : Nat} {n : Node} {h : Html}
    (hi : (shownWith style (Node.shownAll ns (Node.prescribedAll config {} ns)))[i]?
      = some (n, h)) :
    h.opening? = some (tagRule style, ("data-mfm", .text style.name) ::
      if config.animate = true ∧ i < 3 then [("class", .names ["animated", name])] else []) := by
  have hzero : ({} : Counters).of style = 0 := by
    cases style <;> rfl
  have hranks := congrArg (fun l => l[i]?) (map_opening?_shownWith hname config ns {})
  simp only [List.getElem?_map, hi, Option.map_some, hzero] at hranks
  obtain ⟨rank, hrank, hopening⟩ := Option.map_eq_some_iff.mp hranks.symm
  obtain ⟨hi', hrank⟩ := List.getElem?_eq_some_iff.mp hrank
  rw [List.getElem_range'] at hrank
  have hbudget : rank ≤ 3 ↔ i < 3 := by omega
  rw [← hopening, openingAt]
  simp only [hbudget]

/-- **Of the big nodes of a document the first three are animated if the options ask for it, and of
the moving nodes too; no other big or moving node has a class.**  Nodes are counted in the order in
which they begin, at any depth. -/
theorem animation_budget {vs : List Json} {ns : List Node} {source : ConfigSource} {config : Config}
    {markup : String} (hload : loadNodes vs = .ok ns) (hsource : source.resolve = .ok (.ok config))
    (hrender : renderItems (vs.map .raw) source = .ok markup) :
    ∃ hs, Render.document config ns = .ok (Render.element config.rootTagName "root" [] hs) ∧
      (vs ≠ [] → markup = (Render.element config.rootTagName "root" [] hs).print) ∧
      (Node.shownAll ns hs).map Prod.fst = Node.preorderAll ns ∧
      (∀ i n h, (shownWith .big (Node.shownAll ns hs))[i]? = some (n, h) →
        h.opening? = some ("strong", ("data-mfm", .text "big") ::
          if config.animate = true ∧ i < 3 then [("class", .names ["animated", "tada"])]
          else [])) ∧
      (∀ i n h, (shownWith .motion (Node.shownAll ns hs))[i]? = some (n, h) →
        h.opening? = some ("span", ("data-mfm", .text "motion") ::
          if config.animate = true ∧ i < 3 then [("class", .names ["animated", "rubberBand"])]
          else [])) := by
  have hdoc : Render.document config ns = .ok (documentRule config ns)
      ∧ (vs ≠ [] → markup = (documentRule config ns).print) := by
    cases vs with
    | nil =>
        obtain rfl : [] = ns := Except.ok.inj hload
        exact ⟨rfl, fun h => absurd rfl h⟩
    | cons v rest =>
        rw [renderItems_raw (by simp) hload hsource] at hrender
        cases hd : Render.document config ns with
        | error r => simp [hd] at hrender
        | ok h =>
            obtain ⟨-, rfl⟩ := Render.document_eq_ok_iff.mp hd
            rw [hd] at hrender
            exact ⟨rfl, fun _ => (Except.ok.inj hrender).symm⟩
  refine ⟨Node.prescribedAll config {} ns, hdoc.1, hdoc.2, map_fst_shownAll config ns {}, ?_, ?_⟩
  · intro i n h hi
    exact opening?_of_shown rfl hi
  · intro i n h hi
    exact opening?_of_shown rfl hi

/-- Four big nodes, the last inside the third: it is the fourth and has no class. -/
theorem animation_budget_fourth :
    ∃ hs n h, Render.document { animate := true }
        [.branch (.styled .big) [], .branch (.styled .big) [],
          .branch (.styled .big) [.branch (.styled .big) []]]
        = .ok (Render.element "p" "root" [] hs) ∧
      (shownWith .big (Node.shownAll
        [.branch (.styled .big) [], .branch (.styled .big) [],
          .branch (.styled .big) [.branch (.styled .big) []]] hs))[3]? = some (n, h) ∧
      h.opening? = some ("strong", [("data-mfm", .text "big")]) := by
  have hload : loadNodes
      [.object [("type", .string "big")], .object [("type", .string "big")],
        .object [("type", .string "big"), ("children", .array [.object [("type", .string "big")]])]]
      = .ok [.branch (.styled .big) [], .branch (.styled .big) [],
          .branch (.styled .big) [.branch (.styled .big) []]] := rfl
  have hsource : (ConfigSource.ready { animate := true }).resolve
      = .ok (.ok { animate := true }) := rfl
  have hrender := (renderItems_raw (by simp) hload hsource).trans rfl
  obtain ⟨hs, hdoc, -, -, hbig, -⟩ := animation_budget hload hsource hrender
  obtain ⟨-, -, rfl⟩ := Html.element.inj (Except.ok.inj hdoc)
  exact ⟨_, _, _, hdoc, rfl, hbig 3 _ _ rfl⟩

end MfmRender
