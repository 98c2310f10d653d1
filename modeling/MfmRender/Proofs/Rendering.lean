/-
Rendering makes the tree that a document prescribes.

Rendering threads two counters through a document and stops at the first code
that its markup reader rejects.  What it makes can be said without either: every
node stands for one tree by the rules of its kind, and all that these rules ask
about the rest of the document is how many big and how many moving nodes began
before.  `Node.prescribedAll` are those rules, and `nodes_eq_ok_iff` says that
rendering follows them: it succeeds exactly when no code is rejected, its result
is the prescribed one, and the counters have grown by what the document holds.

The counters are read when an element is finished, after its children have moved
them on.  They were copied when the node began, though, so the number an element
is judged by is its own rank, whatever its children did; that is the reason why
the rank can be taken from the listing of the document alone.
-/
import MfmRender.Render

namespace MfmRender

/-! ### Documents in the order in which nodes begin -/

/-- Induction on forests: the first node is taken apart before the rest is looked at. -/
theorem Node.forest_induction {motive : List Node → Prop} (nil : motive [])
    (leaf : ∀ l rest, motive rest → motive (.leaf l :: rest))
    (branch : ∀ b children rest, motive children → motive rest →
      motive (.branch b children :: rest)) :
    ∀ ns : List Node, motive ns
  | [] => nil
  | .leaf l :: rest => leaf l rest (forest_induction nil leaf branch rest)
  | .branch b children :: rest =>
      branch b children rest (forest_induction nil leaf branch children)
        (forest_induction nil leaf branch rest)
termination_by ns => sizeOf ns

mutual

/-- A node and all nodes inside it, each before what is inside it. -/
def Node.preorder : Node → List Node
  | .branch b children => .branch b children :: Node.preorderAll children
  | .leaf l => [.leaf l]

def Node.preorderAll : List Node → List Node
  | [] => []
  | n :: rest => n.preorder ++ Node.preorderAll rest

end

/-- The node is a branch of this style. -/
def Node.hasStyle (style : Style) (n : Node) : Bool :=
  n.kind == .branch (.styled style)

/-- How many of some nodes are big and how many are moving. -/
def Node.tally (listed : List Node) : Counters :=
  { big := listed.countP (Node.hasStyle .big), motion := listed.countP (Node.hasStyle .motion) }

instance : Add Counters :=
  ⟨fun a b => { big := a.big + b.big, motion := a.motion + b.motion }⟩

theorem Counters.add_assoc (a b c : Counters) : a + b + c = a + (b + c) := by
  show Counters.mk (a.big + b.big + c.big) (a.motion + b.motion + c.motion)
    = Counters.mk (a.big + (b.big + c.big)) (a.motion + (b.motion + c.motion))
  rw [Nat.add_assoc, Nat.add_assoc]

theorem Node.tally_append (ns ms : List Node) :
    Node.tally (ns ++ ms) = Node.tally ns + Node.tally ms := by
  simp only [Node.tally, List.countP_append]
  rfl

theorem Node.add_tally_nil (c : Counters) : c + Node.tally [] = c := rfl

theorem Node.add_tally_leaf (c : Counters) (l : Leaf) : c + Node.tally [.leaf l] = c := rfl

/-- What a listing counts moves the counters on, part after part. -/
theorem Node.add_tally_append (c : Counters) (ns ms : List Node) :
    c + Node.tally (ns ++ ms) = c + Node.tally ns + Node.tally ms := by
  rw [tally_append, Counters.add_assoc]

/-! ### The rules of the kinds -/

/-- The class of an element whose classes are these, if there are any. -/
def classRule (names : List String) : Attributes :=
  if names = [] then [] else [("class", .names names.eraseDups)]

/-- The attributes of a link.  To an address that leads away it opens a page of its own. -/
def linkRule (href : String) (relation : List String) : Attributes :=
  if Link.isExternal href then
    [("href", .text href), ("target", .text "_blank"),
     ("rel", .text (" ".intercalate ("noopener" :: "noreferrer" :: relation)))]
  else if relation = [] then [("href", .text href)]
  else [("href", .text href), ("rel", .text (" ".intercalate relation))]

theorem linkRule_names (href : String) (relation : List String) :
    ((linkRule href relation).map Prod.fst).Sublist ["href", "target", "rel"] := by
  unfold linkRule
  split
  · exact List.Sublist.refl _
  · split
    · simp
    · simp

/-- The text as it stands, with a break for every line end. -/
def textRule (text : String) : List Html :=
  ((Text.splitLines text.toList).map fun line => Html.text (String.ofList line)).intersperse
    (.element "br" [] [])

/-- The nodes that block code is shown as; code that is rejected has none. -/
def codeRule (config : Config) (code : String) (lang : Option String) : List Html :=
  match Html.parse (Render.codeMarkup config code lang) with
  | .ok hs => hs
  | .error _ => []

/-- The tree of a leaf. -/
def leafRule (config : Config) : Leaf → Html
  | .text text => .element "span" [("data-mfm", .text "text")] (textRule text)
  | .inlineCode code =>
    .element (if config.codeTagAsDiv then "span" else "code") [("data-mfm", .text "inlineCode")]
      [.text code]
  | .blockCode code lang =>
    .element (if config.codeTagAsDiv then "div" else "pre") [("data-mfm", .text "blockCode")]
      [.element (if config.codeTagAsDiv then "div" else "code")
        (("data-mfm", .text "blockCode-inner") ::
          classRule ((lang.filter (· ≠ "")).toList.map ("language-" ++ ·)))
        (codeRule config code lang)]
  | .mathInline formula => .element "code" [("data-mfm", .text "mathInline")] [.text formula]
  | .mathBlock formula => .element "code" [("data-mfm", .text "mathBlock")] [.text formula]
  | .url url _ => .element "a" (("data-mfm", .text "url") :: linkRule url []) [.text url]
  | .hashtag tag =>
    .element "a" (("data-mfm", .text "hashtag") :: linkRule (Link.hashtag tag config.url) ["tag"])
      [.text ("#" ++ tag)]
  | .mention m =>
    .element "a" (("data-mfm", .text "mention") :: linkRule (Link.mention m config.url) [])
      [.text m.acct]
  | .search query content =>
    .element "a" (("data-mfm", .text "search") :: linkRule (Link.search query) []) [.text content]
  | .unicodeEmoji emoji => .text emoji
  | .emojiCode name =>
    match Link.host? config.url with
    | none => .text (":" ++ name ++ ":")
    | some host =>
      .element "img" [("data-mfm", .text "emojiCode"), ("src", .text (Link.emoji name host)),
        ("alt", .text name)] []

/-- The class of the big or moving node of some rank: only the first three have one. -/
def animationRule (config : Config) (name : String) (rank : Nat) : Attributes :=
  if config.animate = true ∧ rank ≤ 3 then classRule ["animated", name] else []

/-- The tag of a styled branch. -/
def tagRule : Style → String
  | .bold => "b"
  | .italic => "i"
  | .strike => "del"
  | .small => "small"
  | .big => "strong"
  | .motion => "span"
  | .quote => "blockquote"
  | .center => "div"
  | .title => "h1"
  | .plain => "span"

/-- The classes of a styled branch, which is the `rank`-th of its kind. -/
def styleRule (config : Config) (rank : Counters) : Style → Attributes
  | .big => animationRule config "tada" rank.big
  | .motion => animationRule config "rubberBand" rank.motion
  | _ => []

/-- The tree of a branch around its children. -/
def branchRule (config : Config) (rank : Counters) : Branch → List Html → Html
  | .styled style, hs =>
    .element (tagRule style) (("data-mfm", .text style.name) :: styleRule config rank style) hs
  | .link url _, hs => .element "a" (("data-mfm", .text "link") :: linkRule url []) hs
  | .fn name args, hs =>
    .element "span" (("data-mfm", .text name) :: classRule (args.map Prod.fst)) hs

/-- A branch is an element around its children, and one whose text is escaped and that is written
with both of its tags. -/
theorem exists_branchRule (config : Config) (rank : Counters) (b : Branch) :
    ∃ name attrs, (∀ hs, branchRule config rank b hs = .element name attrs hs) ∧
      Html.isRawText name = false ∧ Html.isVoid name = false := by
  cases b with
  | styled style =>
      refine ⟨_, _, fun _ => rfl, ?_⟩
      cases style <;> decide
  | link url silent => exact ⟨_, _, fun _ => rfl, by decide, by decide⟩
  | fn name args => exact ⟨_, _, fun _ => rfl, by decide, by decide⟩

mutual

/-- The tree of a node before which so many big and moving nodes began. -/
def Node.prescribed (config : Config) (before : Counters) : Node → Html
  | .branch b children =>
    branchRule config (before + Node.tally [.branch b children]) b
      (Node.prescribedAll config (before + Node.tally [.branch b children]) children)
  | .leaf l => leafRule config l

/-- The trees of some nodes in a row. -/
def Node.prescribedAll (config : Config) (before : Counters) : List Node → List Html
  | [] => []
  | n :: rest =>
    Node.prescribed config before n ::
      Node.prescribedAll config (before + Node.tally n.preorder) rest

end

/-- The trees of nodes in a row in two parts: the second begins with what the first has counted. -/
theorem Node.prescribedAll_append (config : Config) (xs ys : List Node) :
    ∀ before : Counters, Node.prescribedAll config before (xs ++ ys)
      = Node.prescribedAll config before xs ++
        Node.prescribedAll config (before + Node.tally (Node.preorderAll xs)) ys := by
  induction xs with
  | nil => intro before; rfl
  | cons n rest ih =>
      intro before
      rw [List.cons_append, Node.prescribedAll, ih, Node.prescribedAll, Node.preorderAll,
        Node.add_tally_append, List.cons_append]

/-- The tree of a document. -/
def documentRule (config : Config) (ns : List Node) : Html :=
  .element config.rootTagName [("data-mfm", .text "root")] (Node.prescribedAll config {} ns)

/-- The markup that has to be read for a node alone. -/
def Node.injected (config : Config) : Node → List String
  | .leaf (.blockCode code lang) => [Render.codeMarkup config code lang]
  | _ => []

/-- No code in the nodes is rejected. -/
def Node.Accepted (config : Config) (ns : List Node) : Prop :=
  ∀ n ∈ Node.preorderAll ns, ∀ markup ∈ n.injected config, ∃ hs, Html.parse markup = .ok hs

theorem Node.accepted_nil (config : Config) : Node.Accepted config [] := by
  intro n hn
  simp [preorderAll] at hn

theorem Node.preorderAll_singleton (n : Node) : Node.preorderAll [n] = n.preorder :=
  List.append_nil n.preorder

theorem Node.preorderAll_append (ns ms : List Node) :
    Node.preorderAll (ns ++ ms) = Node.preorderAll ns ++ Node.preorderAll ms := by
  induction ns with
  | nil => rfl
  | cons n ns ih => rw [List.cons_append, preorderAll, ih, preorderAll, List.append_assoc]

theorem Node.accepted_append {config : Config} {ns ms : List Node} :
    Node.Accepted config (ns ++ ms) ↔ Node.Accepted config ns ∧ Node.Accepted config ms := by
  simp only [Node.Accepted, preorderAll_append, List.forall_mem_append]

theorem Node.accepted_leaf_cons {config : Config} {l : Leaf} {rest : List Node} :
    Node.Accepted config (.leaf l :: rest) ↔
      (∀ markup ∈ (Node.leaf l).injected config, ∃ hs, Html.parse markup = .ok hs) ∧
        Node.Accepted config rest := by
  simp [Node.Accepted, preorderAll, preorder]

theorem Node.accepted_branch_cons {config : Config} {b : Branch} {children rest : List Node} :
    Node.Accepted config (.branch b children :: rest) ↔
      Node.Accepted config children ∧ Node.Accepted config rest := by
  simp [Node.Accepted, preorderAll, preorder, injected, or_imp, forall_and]

/-- Nothing but block code can be rejected. -/
theorem Node.accepted_of_blockCode {config : Config} {ns : List Node}
    (h : ∀ code lang, .leaf (.blockCode code lang) ∈ Node.preorderAll ns →
      ∃ hs, Html.parse (Render.codeMarkup config code lang) = .ok hs) :
    Node.Accepted config ns := by
  intro n hn markup hmarkup
  rcases n with ⟨b, children⟩ | l
  · simp [injected] at hmarkup
  · cases l with
    | blockCode code lang =>
        obtain rfl : markup = Render.codeMarkup config code lang := by
          simpa [injected] using hmarkup
        exact h code lang hn
    | _ => simp [injected] at hmarkup

namespace Render

/-! ### One node follows the rules -/

theorem addClass_class (names : List String) (name : String) :
    Attributes.addClass name [("class", .names names)]
      = [("class", .names (if names.contains name then names else names ++ [name]))] := by
  have hclasses : Attributes.classes [("class", .names names)] = names := rfl
  unfold Attributes.addClass
  rw [hclasses]
  split
  · rfl
  · simp [Attributes.set]

theorem eraseDups_concat (names : List String) (name : String) :
    (names ++ [name]).eraseDups
      = if names.eraseDups.contains name then names.eraseDups else names.eraseDups ++ [name] := by
  rw [List.eraseDups_append]
  by_cases hmem : name ∈ names
  · simp [List.removeAll, hmem]
  · simp [List.removeAll, hmem, List.eraseDups_cons]

/-- Classes that are added one by one are the different ones among them. -/
theorem classAttributes_eq (names : List String) : classAttributes names = classRule names := by
  have general : ∀ (rest first : List String), first ≠ [] →
      rest.foldl (fun attrs name => Attributes.addClass name attrs)
          [("class", .names first.eraseDups)]
        = [("class", .names (first ++ rest).eraseDups)] := by
    intro rest
    induction rest with
    | nil => intro first _; simp
    | cons name rest ih =>
        intro first _
        rw [List.foldl_cons, addClass_class, ← eraseDups_concat, ih _ (by simp)]
        simp
  cases names with
  | nil => rfl
  | cons name rest => exact general rest [name] (by simp)

theorem anchorAttributes_eq (href : String) (relation : List String) :
    anchorAttributes href relation = linkRule href relation := by
  unfold anchorAttributes linkRule
  by_cases haway : Link.isExternal href = true
  · simp [haway]
  · by_cases hrel : relation = [] <;> simp [haway, hrel]

theorem languageAttributes_eq (lang : Option String) :
    languageAttributes lang
      = classRule ((lang.filter (· ≠ "")).toList.map ("language-" ++ ·)) := by
  cases lang with
  | none => rfl
  | some lang =>
      unfold languageAttributes
      by_cases hempty : lang = ""
      · simp [hempty, classRule]
      · simp [hempty, classAttributes_eq, Option.filter]

theorem leaf_eq_ok_iff {config : Config} {l : Leaf} {h : Html} :
    leaf config l = .ok h ↔
      (∀ markup ∈ (Node.leaf l).injected config, ∃ hs, Html.parse markup = .ok hs) ∧
        h = leafRule config l := by
  cases l with
  | blockCode code lang =>
      cases hparse : Html.parse (codeMarkup config code lang) with
      | error r => simp [leaf, Node.injected, hparse, Except.map]
      | ok hs =>
          simp [leaf, Node.injected, leafRule, codeRule, element, hparse, Except.map,
            languageAttributes_eq, @eq_comm _ _ h]
  | emojiCode name =>
      cases hhost : Link.host? config.url with
      | none => simp [leaf, Node.injected, leafRule, hhost, @eq_comm _ _ h]
      | some host => simp [leaf, Node.injected, leafRule, element, hhost, @eq_comm _ _ h]
  | _ =>
      simp [leaf, Node.injected, leafRule, element, anchor, anchorAttributes_eq, textRule,
        textChildren, @eq_comm _ _ h]

theorem count_eq (counters : Counters) (b : Branch) (children : List Node) :
    count counters b = counters + Node.tally [.branch b children] := by
  cases b with
  | styled style => cases style <;> rfl
  | link url silent => rfl
  | fn name args => rfl

theorem animation_eq (config : Config) (name : String) (rank : Nat) :
    animation config name rank = animationRule config name rank := by
  unfold animation animationRule animationBudget
  rw [classAttributes_eq]
  by_cases hanimate : config.animate = true <;> simp [hanimate]

theorem branch_eq (config : Config) (rank : Counters) (b : Branch) (hs : List Html) :
    branch config rank b hs = branchRule config rank b hs := by
  cases b with
  | styled style =>
      cases style with
      | big => simp [branch, branchRule, element, animation_eq, styleRule, tagRule, Style.name]
      | motion => simp [branch, branchRule, element, animation_eq, styleRule, tagRule, Style.name]
      | _ => rfl
  | link url silent => simp [branch, branchRule, anchor, element, anchorAttributes_eq]
  | fn name args => simp [branch, branchRule, element, classAttributes_eq]

/-! ### A whole document follows the rules -/

theorem nodes_cons_eq_ok_iff {config : Config} {n : Node} {rest : List Node}
    {before after : Counters} {hs : List Html} :
    nodes config (n :: rest) before = (.ok hs, after) ↔
      ∃ h between more, node config n before = (.ok h, between) ∧
        nodes config rest between = (.ok more, after) ∧ hs = h :: more := by
  simp only [nodes]
  rcases hn : node config n before with ⟨r | h, between⟩
  · simp
  · rcases hr : nodes config rest between with ⟨r | more, last⟩
    · simp [hr]
    · constructor
      · intro heq
        obtain ⟨rfl, rfl⟩ : h :: more = hs ∧ last = after := by simpa [hr] using heq
        exact ⟨h, between, more, rfl, hr, rfl⟩
      · rintro ⟨h', between', more', hn', hr', rfl⟩
        obtain ⟨rfl, rfl⟩ : h = h' ∧ between = between' := by simpa using hn'
        obtain ⟨rfl, rfl⟩ : more = more' ∧ last = after := by simpa [hr] using hr'
        simp only [hr]

/-- A branch keeps the counters that it began with, whatever its children count. -/
theorem node_branch_eq_ok_iff {config : Config} {b : Branch} {children : List Node}
    {before after : Counters} {h : Html} :
    node config (.branch b children) before = (.ok h, after) ↔
      ∃ hs, nodes config children (count before b) = (.ok hs, after) ∧
        h = branch config (count before b) b hs := by
  simp only [node]
  rcases nodes config children (count before b) with ⟨r | hs, last⟩
  · simp
  · simp only [Prod.mk.injEq, Except.ok.injEq]
    constructor
    · rintro ⟨rfl, rfl⟩
      exact ⟨hs, ⟨rfl, rfl⟩, rfl⟩
    · rintro ⟨hs', ⟨rfl, rfl⟩, rfl⟩
      exact ⟨rfl, rfl⟩

/-- **Rendering succeeds exactly when no code is rejected, and then it makes the prescribed trees
and counts every node once.** -/
theorem nodes_eq_ok_iff {config : Config} {ns : List Node} :
    ∀ {before after : Counters} {hs : List Html},
      nodes config ns before = (.ok hs, after) ↔
        Node.Accepted config ns ∧ hs = Node.prescribedAll config before ns ∧
          after = before + Node.tally (Node.preorderAll ns) := by
  induction ns using Node.forest_induction with
  | nil =>
      intro before after hs
      simp [nodes, Node.accepted_nil, Node.prescribedAll, Node.preorderAll, Node.add_tally_nil,
        eq_comm]
  | leaf l rest ih =>
      intro before after hs
      rw [nodes_cons_eq_ok_iff, Node.accepted_leaf_cons, Node.preorderAll, Node.preorder,
        Node.add_tally_append, Node.add_tally_leaf]
      constructor
      · rintro ⟨h, between, more, hn, hrest, rfl⟩
        obtain ⟨hl, rfl⟩ : leaf config l = .ok h ∧ before = between := by simpa [node] using hn
        obtain ⟨hinjected, rfl⟩ := leaf_eq_ok_iff.mp hl
        obtain ⟨haccepted, rfl, rfl⟩ := ih.mp hrest
        exact ⟨⟨hinjected, haccepted⟩, rfl, rfl⟩
      · rintro ⟨⟨hinjected, haccepted⟩, rfl, rfl⟩
        have hl : leaf config l = .ok (leafRule config l) := leaf_eq_ok_iff.mpr ⟨hinjected, rfl⟩
        exact ⟨leafRule config l, before, _, by simp only [node, hl],
          ih.mpr ⟨haccepted, rfl, rfl⟩, rfl⟩
  | branch b children rest ihc ihr =>
      intro before after hs
      rw [nodes_cons_eq_ok_iff, Node.accepted_branch_cons, Node.preorderAll, Node.add_tally_append]
      have hbegun : count before b = before + Node.tally [.branch b children] := count_eq ..
      have hend : before + Node.tally (Node.branch b children).preorder
          = count before b + Node.tally (Node.preorderAll children) := by
        rw [hbegun, ← Node.add_tally_append]
        rfl
      constructor
      · rintro ⟨h, between, more, hn, hrest, rfl⟩
        obtain ⟨inner, hchildren, rfl⟩ := node_branch_eq_ok_iff.mp hn
        obtain ⟨hinner, rfl, rfl⟩ := ihc.mp hchildren
        obtain ⟨hmore, rfl, rfl⟩ := ihr.mp hrest
        refine ⟨⟨hinner, hmore⟩, ?_, by rw [hend]⟩
        rw [Node.prescribedAll, Node.prescribed, branch_eq, hend, hbegun]
      · rintro ⟨⟨hinner, hmore⟩, rfl, rfl⟩
        refine ⟨_, _, _, node_branch_eq_ok_iff.mpr ⟨_, ihc.mpr ⟨hinner, rfl, rfl⟩, rfl⟩,
          ihr.mpr ⟨hmore, rfl, by rw [hend]⟩, ?_⟩
        rw [Node.prescribedAll, Node.prescribed, branch_eq, hend, hbegun]

/-- A node by itself is rendered as its tree. -/
theorem node_of_accepted {config : Config} {n : Node} (h : Node.Accepted config [n])
    (before : Counters) :
    (node config n before).1 = .ok (Node.prescribed config before n) := by
  have hone := nodes_eq_ok_iff.mpr ⟨h, Eq.refl (Node.prescribedAll config before [n]), Eq.refl _⟩
  obtain ⟨tree, between, more, hn, -, hcons⟩ := nodes_cons_eq_ok_iff.mp hone
  rw [hn]
  exact congrArg Except.ok (List.cons.inj hcons).1.symm

/-- **A document is rendered exactly when no code is rejected, and then as its prescribed tree.** -/
theorem document_eq_ok_iff {config : Config} {ns : List Node} {h : Html} :
    document config ns = .ok h ↔ Node.Accepted config ns ∧ h = documentRule config ns := by
  unfold document
  rcases hns : nodes config ns {} with ⟨r | hs, after⟩
  · constructor
    · intro h
      cases h
    · rintro ⟨haccepted, -⟩
      have hok := nodes_eq_ok_iff.mpr
        ⟨haccepted, Eq.refl (Node.prescribedAll config {} ns), Eq.refl _⟩
      rw [hns] at hok
      cases hok
  · obtain ⟨haccepted, rfl, -⟩ := nodes_eq_ok_iff.mp hns
    simp [haccepted, documentRule, element, eq_comm]

end Render

end MfmRender
