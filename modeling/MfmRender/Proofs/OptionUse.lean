/-
What the options reach.

Every node is rendered with all options in sight, so nothing in the shape of the
renderer keeps an option to the kinds of node it is meant for.  What does is that
a rule of a kind only looks at the options that concern it, and `Node.reads` says
which these are: a link to the instance reads its host, a node that can be animated
whether it is to be, code what element it gets, and block code how it is read.  A
mention that names a host of its own is none of these links, and most nodes read
nothing.

`nodes_congr` is the noninterference: under two configurations that agree on what
the nodes read the whole rendering is the same, markup, counters and failure.  The
counters are why this has to be said of a rendering and not of a node.  They run
through all nodes, and an option that changed what is counted at one place would
be seen at every later one; so agreement on the nodes that have begun must give
the same counters to those that come after.
-/
import MfmRender.Proofs.Calls

namespace MfmRender

/-- What can be configured, the name of the root element apart. -/
inductive Config.Setting where
  | url
  | animate
  | codeTagAsDiv
  | highlightCode
  deriving Repr, DecidableEq

/-- Two configurations have the same value here. -/
def Config.AgreeOn (c d : Config) : Config.Setting → Prop
  | .url => c.url = d.url
  | .animate => c.animate = d.animate
  | .codeTagAsDiv => c.codeTagAsDiv = d.codeTagAsDiv
  | .highlightCode => c.highlightCode = d.highlightCode

/-- What the rule of a leaf looks at. -/
def Leaf.reads : Leaf → List Config.Setting
  | .hashtag _ => [.url]
  | .emojiCode _ => [.url]
  | .mention m => if m.host = none ∨ m.host = some "" then [.url] else []
  | .inlineCode _ => [.codeTagAsDiv]
  | .blockCode .. => [.codeTagAsDiv, .highlightCode]
  | _ => []

/-- What the rule of a branch looks at. -/
def Branch.reads : Branch → List Config.Setting
  | .styled .big => [.animate]
  | .styled .motion => [.animate]
  | _ => []

/-- What the rule of a node looks at, the nodes inside it apart. -/
def Node.reads : Node → List Config.Setting
  | .branch b _ => b.reads
  | .leaf l => l.reads

namespace Render

variable {c d : Config}

/-! ### One node -/

/-- A mention that names a host leads there, whatever the instance is. -/
theorem mention_congr {m : Mention} (h : ∀ s ∈ (Leaf.mention m).reads, c.AgreeOn d s) :
    Link.mention m c.url = Link.mention m d.url := by
  by_cases hlocal : m.host = none ∨ m.host = some ""
  · have hurl : c.url = d.url := h .url (by simp [Leaf.reads, hlocal])
    rw [hurl]
  · obtain ⟨host, hhost⟩ : ∃ host, Link.host? m.host = some host := by
      rcases hm : m.host with _ | host
      · exact absurd (Or.inl hm) hlocal
      · have hne : host ≠ "" := by
          intro hempty
          exact hlocal (Or.inr (by rw [hm, hempty]))
        exact ⟨host, by simp [Link.host?, Option.filter, hne]⟩
    unfold Link.mention
    rw [hhost]

theorem leaf_congr {l : Leaf} (h : ∀ s ∈ l.reads, c.AgreeOn d s) : leaf c l = leaf d l := by
  cases l with
  | hashtag tag =>
      have hurl : c.url = d.url := h .url (by simp [Leaf.reads])
      simp only [leaf, hurl]
  | emojiCode name =>
      have hurl : c.url = d.url := h .url (by simp [Leaf.reads])
      simp only [leaf, hurl]
  | mention m =>
      simp only [leaf, mention_congr h]
  | inlineCode code =>
      have hdiv : c.codeTagAsDiv = d.codeTagAsDiv := h .codeTagAsDiv (by simp [Leaf.reads])
      simp only [leaf, hdiv]
  | blockCode code lang =>
      have hdiv : c.codeTagAsDiv = d.codeTagAsDiv := h .codeTagAsDiv (by simp [Leaf.reads])
      have hcolour : c.highlightCode = d.highlightCode := h .highlightCode (by simp [Leaf.reads])
      simp only [leaf, codeMarkup, hdiv, hcolour]
  | _ => rfl

theorem branch_congr {b : Branch} (h : ∀ s ∈ b.reads, c.AgreeOn d s) (rank : Counters)
    (hs : List Html) : branch c rank b hs = branch d rank b hs := by
  have hanimation : ∀ style, b = .styled style → style = .big ∨ style = .motion →
      ∀ name count, animation c name count = animation d name count := by
    intro style hb hstyle name count
    have hanimate : c.animate = d.animate := by
      refine h .animate ?_
      rcases hstyle with rfl | rfl <;> simp [hb, Branch.reads]
    rw [animation, animation, hanimate]
  cases b with
  | styled style =>
      cases style with
      | big => simp only [branch, hanimation .big rfl (Or.inl rfl)]
      | motion => simp only [branch, hanimation .motion rfl (Or.inr rfl)]
      | _ => rfl
  | link url silent => rfl
  | fn name args => rfl

/-! ### A whole document -/

/-- **Nodes are rendered alike under configurations that agree on what they read.** -/
theorem nodes_congr {ns : List Node}
    (h : ∀ n ∈ Node.preorderAll ns, ∀ s ∈ n.reads, c.AgreeOn d s) :
    ∀ before, nodes c ns before = nodes d ns before := by
  induction ns using Node.forest_induction with
  | nil => intro before; rfl
  | leaf l rest ih =>
      intro before
      rw [Node.preorderAll, List.forall_mem_append] at h
      obtain ⟨hleaf, hrest⟩ := h
      have hl : leaf c l = leaf d l := leaf_congr (hleaf (.leaf l) (by simp [Node.preorder]))
      simp only [nodes, node, hl, ih hrest]
  | branch b children rest ihc ihr =>
      intro before
      rw [Node.preorderAll, Node.preorder, List.forall_mem_append, List.forall_mem_cons] at h
      obtain ⟨⟨hbranch, hchildren⟩, hrest⟩ := h
      have hb : ∀ rank hs, branch c rank b hs = branch d rank b hs := branch_congr hbranch
      simp only [nodes, node, hb, ihc hchildren, ihr hrest]

theorem document_congr {ns : List Node} (hroot : c.rootTagName = d.rootTagName)
    (h : ∀ n ∈ Node.preorderAll ns, ∀ s ∈ n.reads, c.AgreeOn d s) :
    document c ns = document d ns := by
  rw [document, document, nodes_congr h, hroot]

end Render

/-- **An option reaches only the nodes that read it.**  Under two configurations with the same root
element that agree on all that is read anywhere in a document, rendering it gives the same markup or
fails alike. -/
theorem options_reach_readers {vs : List Json} {ns : List Node} {c d : Config}
    {sourceC sourceD : ConfigSource} (hload : loadNodes vs = .ok ns)
    (hc : sourceC.resolve = .ok (.ok c)) (hd : sourceD.resolve = .ok (.ok d))
    (hroot : c.rootTagName = d.rootTagName)
    (hagree : ∀ n ∈ Node.preorderAll ns, ∀ s ∈ n.reads, c.AgreeOn d s) :
    renderItems (vs.map .raw) sourceC = renderItems (vs.map .raw) sourceD := by
  by_cases hvs : vs = []
  · subst hvs
    rfl
  · rw [renderItems_raw hvs hload hc, renderItems_raw hvs hload hd,
      Render.document_congr hroot hagree]

/-- A hashtag inside a link. -/
def linkedHashtag : Json :=
  .object [("type", .string "link"), ("props", .object [("url", .string "/")]),
    ("children", .array [.object [("type", .string "hashtag"),
      ("props", .object [("hashtag", .string "tag")])]])]

/-- A user of another host. -/
def mentionElsewhere : Json :=
  .object [("type", .string "mention"), ("props", .object [("username", .string "ann"),
    ("host", .string "there.example"), ("acct", .string "@ann@there.example")])]

/-- Only the host of the instance is read in these two, and only by the hashtag. -/
theorem options_reach_readers_hashtag :
    loadNodes [linkedHashtag, mentionElsewhere]
      = .ok [.branch (.link "/" false) [.leaf (.hashtag "tag")],
          .leaf (.mention ⟨"ann", some "there.example", "@ann@there.example"⟩)] ∧
    renderItems [.raw linkedHashtag, .raw mentionElsewhere]
        (.ready { url := some "here.example" })
      = renderItems [.raw linkedHashtag, .raw mentionElsewhere]
        (.ready ⟨some "here.example", true, true, "p", true⟩) := by
  have hload : loadNodes [linkedHashtag, mentionElsewhere]
      = .ok [.branch (.link "/" false) [.leaf (.hashtag "tag")],
          .leaf (.mention ⟨"ann", some "there.example", "@ann@there.example"⟩)] := rfl
  have hagree : ∀ n ∈ Node.preorderAll [.branch (.link "/" false) [.leaf (.hashtag "tag")],
        .leaf (.mention ⟨"ann", some "there.example", "@ann@there.example"⟩)],
      ∀ s ∈ n.reads, Config.AgreeOn { url := some "here.example" }
        ⟨some "here.example", true, true, "p", true⟩ s := by
    simp [Node.preorderAll, Node.preorder, Node.reads, Branch.reads, Leaf.reads, Config.AgreeOn]
  exact ⟨hload, options_reach_readers hload rfl rfl rfl hagree⟩

end MfmRender
