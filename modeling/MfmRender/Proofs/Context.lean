/-
A node changes no markup but its own.

A document with a hole in it is a `Context`.  Whatever node is put into the hole, the
markup before the hole is the same: a tree is printed without a look at the trees
behind it or inside it, and the tag of a branch is settled when the branch begins.
The markup behind the hole can tell the nodes apart in one way only, which is by how
many big and how many moving nodes they hold, since the counters run on through the
rest of the document.  For nodes that hold as many of either, the markup behind the
hole is the same, too (`exists_charsAll_fill`).  What stands between the two is the
tree of the node as it is made from the counters that are reached at the hole.

Block code that is taken as markup is no exception, although it may hold end tags,
comments and quotes that fit nothing around them.  It is read by itself, before it is
put anywhere, and what is put between the two tags of its element is the tree that
came of it.
-/
import MfmRender.Proofs.Highlight.Inert
import MfmRender.Proofs.Preloading

namespace MfmRender

open Html

/-- A document with a hole where a node can be put. -/
inductive Context where
  /-- The hole is one of the nodes. -/
  | among (before after : List Node)
  /-- The hole is somewhere inside one of the nodes. -/
  | inside (before : List Node) (b : Branch) (inner : Context) (after : List Node)

namespace Context

/-- The document with a node in the hole. -/
def fill : Context → Node → List Node
  | among before after, n => before ++ n :: after
  | inside before b inner after, n => before ++ .branch b (inner.fill n) :: after

/-- The counters at the hole: the nodes before it have been counted, and so have the branches that
it is inside of. -/
def reached (start : Counters) : Context → Counters
  | among before _ => start + Node.tally (Node.preorderAll before)
  | inside before b inner _ =>
    inner.reached (Render.count (start + Node.tally (Node.preorderAll before)) b)

/-- The hole is inside no branch. -/
def isOutermost : Context → Bool
  | among .. => true
  | inside .. => false

theorem fill_ne_nil (C : Context) (n : Node) : C.fill n ≠ [] := by
  cases C <;> simp [fill]

/-- A document whose code is all accepted has none in the hole that is not. -/
theorem accepted_of_fill {config : Config} {n : Node} {C : Context}
    (h : Node.Accepted config (C.fill n)) : Node.Accepted config [n] := by
  induction C with
  | among before after =>
      obtain ⟨-, hrest⟩ := Node.accepted_append.mp h
      exact (Node.accepted_append.mp (show Node.Accepted config ([n] ++ after) from hrest)).1
  | inside before b inner after ih =>
      obtain ⟨-, hrest⟩ := Node.accepted_append.mp h
      exact ih (Node.accepted_branch_cons.mp hrest).1

/-! ### What is counted -/

/-- How many big and moving nodes a branch holds: itself, and those inside it. -/
theorem add_tally_preorder_branch (c : Counters) (b : Branch) (children : List Node) :
    c + Node.tally (Node.branch b children).preorder
      = Render.count c b + Node.tally (Node.preorderAll children) := by
  rw [Render.count_eq c b children, ← Node.add_tally_append]
  rfl

/-- What is counted in the whole document depends on the node in the hole only by what is counted in
this node. -/
theorem exists_add_tally_fill (counted : Counters) (C : Context) :
    ∀ start : Counters, ∃ total, ∀ n : Node, Node.tally n.preorder = counted →
      start + Node.tally (Node.preorderAll (C.fill n)) = total := by
  induction C with
  | among before after =>
      intro start
      refine ⟨start + Node.tally (Node.preorderAll before) + counted +
        Node.tally (Node.preorderAll after), fun n hn => ?_⟩
      rw [fill, Node.preorderAll_append, Node.preorderAll, Node.add_tally_append,
        Node.add_tally_append, hn]
  | inside before b inner after ih =>
      intro start
      obtain ⟨total, hinner⟩ := ih (Render.count (start + Node.tally (Node.preorderAll before)) b)
      refine ⟨total + Node.tally (Node.preorderAll after), fun n hn => ?_⟩
      rw [fill, Node.preorderAll_append, Node.preorderAll, Node.add_tally_append,
        Node.add_tally_append, add_tally_preorder_branch, hinner n hn]

/-! ### What is written -/

/-- The content of a branch stands between two pieces of markup that do not depend on it. -/
theorem exists_chars_branchRule (config : Config) (rank : Counters) (b : Branch) :
    ∃ opening closing, ∀ raw hs, chars raw (branchRule config rank b hs)
      = opening ++ charsAll false hs ++ closing := by
  obtain ⟨name, attrs, hrule, hraw, hvoid⟩ := exists_branchRule config rank b
  refine ⟨startTag name attrs, endTag name, fun raw hs => ?_⟩
  rw [hrule, chars, hvoid, hraw, Bool.and_false]
  rfl

/-- **What is written before the hole does not depend on the node in it, and what is written behind
the hole only on how many big and moving nodes this node holds.**  In between stands the tree of the
node, made from the counters that are reached at the hole. -/
theorem exists_charsAll_fill (config : Config) (C : Context) :
    ∀ (raw : Bool) (start : Counters), ∃ first, ∀ counted, ∃ last, ∀ n : Node,
      Node.tally n.preorder = counted →
        charsAll raw (Node.prescribedAll config start (C.fill n))
          = first ++ chars (raw && C.isOutermost) (Node.prescribed config (C.reached start) n) ++
              last := by
  induction C with
  | among before after =>
      intro raw start
      refine ⟨charsAll raw (Node.prescribedAll config start before), fun counted => ?_⟩
      refine ⟨charsAll raw (Node.prescribedAll config
        (start + Node.tally (Node.preorderAll before) + counted) after), ?_⟩
      rintro n rfl
      rw [fill, Node.prescribedAll_append, charsAll_append, Node.prescribedAll, charsAll,
        isOutermost, Bool.and_true, reached, List.append_assoc]
  | inside before b inner after ih =>
      intro raw start
      -- The rank of the branch is settled when it begins, whatever is inside it.
      have hbegun : ∀ children, start + Node.tally (Node.preorderAll before) +
          Node.tally [.branch b children]
            = Render.count (start + Node.tally (Node.preorderAll before)) b :=
        fun children => (Render.count_eq _ b children).symm
      generalize hrank : Render.count (start + Node.tally (Node.preorderAll before)) b = rank
        at hbegun
      obtain ⟨opening, closing, hbranch⟩ := exists_chars_branchRule config rank b
      obtain ⟨first, hinner⟩ := ih false rank
      refine ⟨charsAll raw (Node.prescribedAll config start before) ++ opening ++ first,
        fun counted => ?_⟩
      obtain ⟨last, hlast⟩ := hinner counted
      obtain ⟨total, htotal⟩ := exists_add_tally_fill counted inner rank
      refine ⟨last ++ closing ++ charsAll raw (Node.prescribedAll config total after), ?_⟩
      intro n hn
      rw [fill, Node.prescribedAll_append, charsAll_append, Node.prescribedAll, charsAll,
        Node.prescribed, hbegun, hbranch, hlast n hn, add_tally_preorder_branch, hrank,
        htotal n hn, isOutermost, reached, hrank, Bool.and_false, Bool.false_and]
      simp only [List.append_assoc]

/-! ### Rendered documents -/

/-- A document with this node in the hole, given in any form that loads, is rendered as this
markup. -/
def RendersAs (C : Context) (source : ConfigSource) (n : Node) (markup : String) : Prop :=
  ∃ is, loadItems is = .ok (C.fill n) ∧ renderItems is source = .ok markup

/-- The node alone, rendered from the counters that are reached at the hole, gives this markup. -/
def Contributes (C : Context) (config : Config) (n : Node) (markup : String) : Prop :=
  ∃ h, (Render.node config n (C.reached {})).1 = .ok h ∧
    markup = String.ofList (chars (isRawText config.rootTagName && C.isOutermost) h)

variable {C : Context} {source : ConfigSource} {config : Config}

theorem RendersAs.accepted_and_eq {n : Node} {markup : String} (h : C.RendersAs source n markup)
    (hsource : source.resolve = .ok (.ok config)) :
    Node.Accepted config (C.fill n) ∧
      markup = rootMarkup config.rootTagName (String.ofList
        (charsAll (isRawText config.rootTagName) (Node.prescribedAll config {} (C.fill n)))) := by
  obtain ⟨is, hload, hrender⟩ := h
  have hfill := C.fill_ne_nil n
  have his : is ≠ [] := mt (eq_nil_iff_of_loadItems hload).mp hfill
  obtain ⟨haccepted, rfl⟩ := (renderItems_eq_ok_iff_of_loadItems his hload hsource).mp hrender
  exact ⟨haccepted, print_root _ (prescribedAll_ne_nil config {} hfill)⟩

/-- The markup of the whole document around that of the node in the hole. -/
theorem exists_markup_around (C : Context) (hsource : source.resolve = .ok (.ok config)) :
    ∃ first : String, ∀ counted, ∃ last : String, ∀ n markup, Node.tally n.preorder = counted →
      C.RendersAs source n markup →
        Node.Accepted config [n] ∧ markup = first ++ String.ofList (chars
          (isRawText config.rootTagName && C.isOutermost)
          (Node.prescribed config (C.reached {}) n)) ++ last := by
  obtain ⟨first, hfirst⟩ := exists_charsAll_fill config C (isRawText config.rootTagName) {}
  refine ⟨"<" ++ config.rootTagName ++ " data-mfm=\"root\">" ++ String.ofList first,
    fun counted => ?_⟩
  obtain ⟨last, hlast⟩ := hfirst counted
  refine ⟨String.ofList last ++ "</" ++ config.rootTagName ++ ">", fun n markup hn h => ?_⟩
  obtain ⟨haccepted, rfl⟩ := h.accepted_and_eq hsource
  refine ⟨accepted_of_fill haccepted, ?_⟩
  rw [hlast n hn, rootMarkup, String.ofList_append, String.ofList_append]
  simp only [String.append_assoc]

end Context

/-- Code that is taken as markup and accepted is shown as what is read of it. -/
theorem parse_of_accepted {config : Config} {code : String} {lang : Option String}
    (hraw : config.highlightCode = false)
    (h : Node.Accepted config [.leaf (.blockCode code lang)]) :
    Html.parse code = .ok (codeRule config code lang) := by
  have hinjected : code ∈ (Node.leaf (.blockCode code lang)).injected config := by
    simp [Node.injected, codeMarkup_of_raw hraw]
  obtain ⟨content, hcontent⟩ := (Node.accepted_leaf_cons.mp h).1 code hinjected
  rw [codeRule_of_parse hraw hcontent, hcontent]

/-- **The markup of a node is confined to its place.**  Whatever is put into the hole of a document,
the markup before the hole is the same, and for all nodes that hold as many big and as many moving
ones the markup behind it is the same; in between stands what the node alone contributes.  In
particular, block code that is taken as markup changes nothing but what is between the two tags of
its inner element, whatever tags, comments and quotes it holds. -/
theorem output_confined (C : Context) {source : ConfigSource} {config : Config}
    (hsource : source.resolve = .ok (.ok config)) :
    ∃ first : String,
      (∀ counted, ∃ last : String, ∀ n markup, Node.tally n.preorder = counted →
        C.RendersAs source n markup →
          ∃ own, C.Contributes config n own ∧ markup = first ++ own ++ last) ∧
      (config.highlightCode = false → ∀ lang, ∃ last : String, ∀ code markup,
        C.RendersAs source (.leaf (.blockCode code lang)) markup →
          ∃ content, Html.parse code = .ok content ∧
            markup = first ++
              String.ofList (startTag (outerTag config) [("data-mfm", .text "blockCode")]) ++
              String.ofList (startTag (innerTag config) (codeAttributes lang)) ++
              String.ofList (charsAll false content) ++
              String.ofList (endTag (innerTag config)) ++
              String.ofList (endTag (outerTag config)) ++ last) := by
  obtain ⟨first, haround⟩ := C.exists_markup_around hsource
  refine ⟨first, fun counted => ?_, fun hraw lang => ?_⟩
  · obtain ⟨last, hmarkup⟩ := haround counted
    refine ⟨last, fun n markup hn h => ?_⟩
    obtain ⟨haccepted, rfl⟩ := hmarkup n markup hn h
    exact ⟨_, ⟨_, Render.node_of_accepted haccepted _, rfl⟩, rfl⟩
  · -- No block code is counted, so all of them have the same markup behind them.
    obtain ⟨last, hmarkup⟩ := haround (Node.tally [])
    refine ⟨last, fun code markup h => ?_⟩
    obtain ⟨haccepted, rfl⟩ := hmarkup _ markup rfl h
    refine ⟨_, parse_of_accepted hraw haccepted, ?_⟩
    rw [Node.prescribed, leafRule_blockCode, chars_codeElement]
    simp only [String.ofList_append, String.append_assoc]

/-- End tags that nothing in the code has opened. -/
theorem Html.parse_unmatched : Html.parse "</code></pre>" = .ok [] := by
  obtain ⟨_, hcode⟩ := @Lexer.tag_endTag "code" rfl "</pre>".toList
  obtain ⟨_, hpre⟩ := @Lexer.tag_endTag "pre" rfl []
  have hnil : Lexer.tokensFrom false [] = .ok [] := by rw [Lexer.tokensFrom.eq_def]
  have htokens : Lexer.tokensFrom false "</code></pre>".toList
      = .ok [.endTag "code", .endTag "pre"] := by
    refine (Lexer.tokensFrom_tag false hcode rfl).trans ?_
    refine (congrArg _ (Lexer.tokensFrom_tag false hpre rfl)).trans ?_
    rw [hnil]
    rfl
  unfold Html.parse Token.ofMarkup
  rw [htokens]
  rfl

/-- Block code before a moving node, both inside a big one. -/
def codeInside (code : String) : Json :=
  .object [("type", .string "big"), ("children", .array [
    .object [("type", .string "blockCode"), ("props", .object [("code", .string code)])],
    .object [("type", .string "motion")]])]

/-- Code that would end its own elements, and plain code, inside a node and before another one that
are both animated. -/
theorem output_confined_unmatched :
    ∃ first last : String,
      renderItems [.raw (codeInside "</code></pre>")] (.ready { animate := true })
        = .ok (first ++ String.ofList (startTag "code" (codeAttributes none)) ++ "" ++
            String.ofList (endTag "code") ++ last) ∧
      renderItems [.raw (codeInside "code")] (.ready { animate := true })
        = .ok (first ++ String.ofList (startTag "code" (codeAttributes none)) ++ "code" ++
            String.ofList (endTag "code") ++ last) := by
  have hsource : (ConfigSource.ready { animate := true }).resolve = .ok (.ok { animate := true }) :=
    rfl
  obtain ⟨first, -, hcode⟩ := output_confined
    (.inside [] (.styled .big) (.among [] [.branch (.styled .motion) []]) []) hsource
  obtain ⟨last, hconfined⟩ := hcode rfl none
  have hload : ∀ code, loadItems [.raw (codeInside code)]
      = .ok [.branch (.styled .big) [.leaf (.blockCode code none), .branch (.styled .motion) []]] :=
    fun _ => rfl
  have hshown : ∀ code content, Html.parse code = .ok content →
      renderItems [.raw (codeInside code)] (.ready { animate := true })
        = .ok (first ++ String.ofList (startTag "pre" [("data-mfm", .text "blockCode")]) ++
            String.ofList (startTag "code" (codeAttributes none)) ++
            String.ofList (charsAll false content) ++ String.ofList (endTag "code") ++
            String.ofList (endTag "pre") ++ last) := by
    intro code content hparse
    have haccepted : Node.Accepted { animate := true }
        [.branch (.styled .big) [.leaf (.blockCode code none), .branch (.styled .motion) []]] := by
      simp [Node.accepted_branch_cons, Node.accepted_leaf_cons, Node.accepted_nil, Node.injected,
        Render.codeMarkup, hparse]
    have hrender :=
      (renderItems_eq_ok_iff_of_loadItems (by simp) (hload code) hsource).mpr ⟨haccepted, rfl⟩
    obtain ⟨content', hparse', hmarkup⟩ := hconfined code _ ⟨_, hload code, hrender⟩
    obtain rfl := Except.ok.inj (hparse.symm.trans hparse')
    exact hrender.trans (congrArg Except.ok hmarkup)
  have hplain : Html.parse "code" = .ok [.text "code"] :=
    @parse_charsAll [.text "code"] (by simp [AllPrintable])
  refine ⟨first ++ String.ofList (startTag "pre" [("data-mfm", .text "blockCode")]),
    String.ofList (endTag "pre") ++ last, ?_, ?_⟩
  · rw [hshown _ _ parse_unmatched]
    simp only [String.append_assoc]
    rfl
  · rw [hshown _ _ hplain]
    simp only [String.append_assoc]
    rfl

end MfmRender
