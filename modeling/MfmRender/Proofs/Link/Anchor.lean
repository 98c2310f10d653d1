/-
Links that lead away are guarded, and no others.

Five kinds of node become links, and each works out its address by a rule of its
own.  The attributes that keep the page of a link from learning where it was
opened are not decided by the kind, though, but by the address, after it has been
put together.  `Guarded` says which attributes an address asks for, and
`links_guarded` that every link in a document has them, at any depth and whatever
is inside it.

The address of a mention shows why the address has to be asked.  A mention without
a host leads to the account on the site itself, behind a slash; but an account is
any text, and one that begins with a slash makes the address one that leads away
(`mention_leads_away`).
-/
import MfmRender.Proofs.Animation
import MfmRender.Proofs.Incremental
import MfmRender.Proofs.Link.Scheme

namespace MfmRender

/-- The address that a node leads to, if it is a link. -/
def Node.address? (config : Config) : Node → Option String
  | .leaf (.url url _) => some url
  | .leaf (.hashtag tag) => some (Link.hashtag tag config.url)
  | .leaf (.mention m) => some (Link.mention m config.url)
  | .leaf (.search query _) => some (Link.search query)
  | .branch (.link url _) _ => some url
  | _ => none

/-- What a link says about its page wherever that is. -/
def Node.relation : Node → List String
  | .leaf (.hashtag _) => ["tag"]
  | _ => []

/-- What a link to an address says about its page: that it must not learn where it was opened, if
it is elsewhere, and then what the link says of itself. -/
def relationTo (href : String) (own : List String) : List String :=
  (if Link.isExternal href = true then ["noopener", "noreferrer"] else []) ++ own

/-- The attributes lead to an address and guard it if it leads away. -/
structure Guarded (href : String) (own : List String) (attrs : Attributes) : Prop where
  distinct : (attrs.map Prod.fst).Nodup
  leads : attrs.get? "href" = some (.text href)
  target : attrs.get? "target"
    = if Link.isExternal href = true then some (.text "_blank") else none
  relation : Attributes.classesOf (attrs.get? "rel") = relationTo href own
  unrelated : attrs.get? "rel" = none ↔ relationTo href own = []

theorem relation_cases (n : Node) : n.relation = [] ∨ n.relation = ["tag"] := by
  unfold Node.relation
  split
  · exact Or.inr rfl
  · exact Or.inl rfl

/-- The rule of links writes what there is to say about a page with spaces between. -/
theorem get?_rel_linkRule (origin href : String) (own : List String) :
    Attributes.get? (("data-mfm", .text origin) :: linkRule href own) "rel"
      = if relationTo href own = [] then none
        else some (.text (" ".intercalate (relationTo href own))) := by
  unfold linkRule relationTo
  by_cases haway : Link.isExternal href = true
  · simp [haway, Attributes.get?, List.lookup_cons]
  · by_cases hown : own = [] <;> simp [haway, hown, Attributes.get?, List.lookup_cons]

/-- Nothing that is said about a page has a space in it, so all of it can be told apart again. -/
theorem classesOf_relation {href : String} {own : List String} (hown : own = [] ∨ own = ["tag"]) :
    Attributes.classesOf (some (.text (" ".intercalate (relationTo href own))))
      = relationTo href own := by
  unfold relationTo
  cases Link.isExternal href <;> rcases hown with rfl | rfl <;> decide

/-- **The rule of links guards the addresses that lead away.** -/
theorem guarded_linkRule (origin href : String) {own : List String}
    (hown : own = [] ∨ own = ["tag"]) :
    Guarded href own (("data-mfm", .text origin) :: linkRule href own) := by
  have hrel := get?_rel_linkRule origin href own
  refine ⟨?_, ?_, ?_, ?_, ?_⟩
  · exact ((linkRule_names href own).cons_cons "data-mfm").nodup (by decide)
  · unfold linkRule
    split_ifs <;> rfl
  · unfold linkRule
    split_ifs <;> rfl
  · rw [hrel]
    split_ifs with hnone
    · rw [hnone]
      rfl
    · exact classesOf_relation hown
  · rw [hrel]
    split_ifs with hnone <;> simp [hnone]

/-- A link is shown as an anchor by the rule of links. -/
theorem prescribed_of_address {config : Config} {n : Node} {href : String}
    (h : n.address? config = some href) (rank : Counters) :
    ∃ children, Node.prescribed config rank n
      = .element "a" (("data-mfm", .text n.kind.name) :: linkRule href n.relation) children := by
  cases n with
  | branch b children =>
      cases b with
      | link url silent =>
          cases h
          exact ⟨_, by rw [Node.prescribed]; rfl⟩
      | _ => cases h
  | leaf l =>
      cases l with
      | url | hashtag | mention | search =>
          cases h
          exact ⟨_, rfl⟩
      | _ => cases h

/-! ### What is shown stands in the markup -/

namespace Html

/-- The content of an element stands between its tags. -/
theorem charsAll_infix_element (raw : Bool) (name : String) (attrs : Attributes)
    (children : List Html) :
    charsAll (isRawText name) children <:+: chars raw (.element name attrs children) := by
  cases children with
  | nil => exact List.nil_infix
  | cons h hs =>
      rw [chars]
      exact ⟨startTag name attrs, endTag name, rfl⟩

end Html

/-- No branch is an element whose text would be written as it is. -/
theorem charsAll_infix_branchRule (config : Config) (rank : Counters) (b : Branch) (raw : Bool)
    (hs : List Html) :
    Html.charsAll false hs <:+: Html.chars raw (branchRule config rank b hs) := by
  obtain ⟨name, attrs, hrule, hraw, -⟩ := exists_branchRule config rank b
  have hinfix := Html.charsAll_infix_element raw name attrs hs
  rwa [hraw, ← hrule] at hinfix

/-- The markup of an element that is shown stands in the markup of all that is shown. -/
theorem chars_infix_of_shown {config : Config} {n : Node} {name : String} {attrs : Attributes}
    {children : List Html} (ns : List Node) :
    ∀ (before : Counters) (raw : Bool),
      (n, .element name attrs children) ∈ Node.shownAll ns (Node.prescribedAll config before ns) →
        Html.chars false (.element name attrs children)
          <:+: Html.charsAll raw (Node.prescribedAll config before ns) := by
  induction ns using Node.forest_induction with
  | nil =>
      intro before raw hmem
      simp [Node.shownAll] at hmem
  | leaf l rest ih =>
      intro before raw hmem
      rw [Node.prescribedAll, Node.shownAll] at hmem
      rw [Node.prescribedAll, Html.charsAll]
      rcases List.mem_append.mp hmem with hself | hrest
      · obtain ⟨-, hshown⟩ := Prod.mk.inj (List.mem_singleton.mp hself)
        rw [← hshown, Html.chars_element raw]
        exact (List.prefix_append _ _).isInfix
      · exact (ih _ raw hrest).trans (List.suffix_append _ _).isInfix
  | branch b inner rest ihc ihr =>
      intro before raw hmem
      rw [Node.prescribedAll, Node.prescribed, Node.shownAll, Node.shown,
        branchRule_children] at hmem
      rw [Node.prescribedAll, Node.prescribed, Html.charsAll]
      rcases List.mem_append.mp hmem with hb | hrest
      · refine List.IsInfix.trans ?_ (List.prefix_append _ _).isInfix
        rcases List.mem_cons.mp hb with hself | hinner
        · obtain ⟨-, hshown⟩ := Prod.mk.inj hself
          have hchars := Html.chars_element raw name attrs children
          rw [← hchars]
          exact hshown ▸ List.infix_rfl
        · exact (ihc _ false hinner).trans (charsAll_infix_branchRule ..)
      · exact (ihr _ raw hrest).trans (List.suffix_append _ _).isInfix

/-- **Every link of a document leads where its kind says, and its attributes guard it if and only if
that is elsewhere.**  It stands in the markup with these attributes, whatever is inside it and
whatever comes later. -/
theorem links_guarded {vs : List Json} {ns : List Node} {source : ConfigSource} {config : Config}
    {markup : String} (hload : loadNodes vs = .ok ns) (hsource : source.resolve = .ok (.ok config))
    (hrender : renderItems (vs.map .raw) source = .ok markup) :
    ∃ hs, Render.document config ns = .ok (Render.element config.rootTagName "root" [] hs) ∧
      (vs ≠ [] → markup = (Render.element config.rootTagName "root" [] hs).print) ∧
      (Node.shownAll ns hs).map Prod.fst = Node.preorderAll ns ∧
      ∀ n h href, (n, h) ∈ Node.shownAll ns hs → n.address? config = some href →
        h.print.toList <:+: markup.toList ∧
          ∃ attrs children, h = .element "a" attrs children ∧
            attrs.get? "data-mfm" = some (.text n.kind.name) ∧
            Guarded href n.relation attrs := by
  obtain ⟨haccepted, hmarkup⟩ := (renderItems_eq_ok_iff hload hsource).mp hrender
  refine ⟨Node.prescribedAll config {} ns, Render.document_eq_ok_iff.mpr ⟨haccepted, rfl⟩, ?_,
    map_fst_shownAll config ns {}, ?_⟩
  · intro hvs
    rw [hmarkup, if_neg hvs]
    rfl
  · intro n h href hshown haddress
    obtain ⟨rank, rfl⟩ := exists_prescribed_of_shown ns {} hshown
    obtain ⟨children, hrule⟩ := prescribed_of_address haddress rank
    refine ⟨?_, _, children, hrule, rfl, guarded_linkRule _ _ (relation_cases n)⟩
    have hvs : vs ≠ [] := by
      rintro rfl
      obtain rfl : [] = ns := Except.ok.inj hload
      simp [Node.shownAll] at hshown
    rw [hrule] at hshown ⊢
    rw [hmarkup, if_neg hvs, Html.print, Html.print, String.toList_ofList, String.toList_ofList]
    exact (chars_infix_of_shown ns {} _ hshown).trans (Html.charsAll_infix_element ..)

/-- A hashtag on the site itself, inside a link that leads away: of the two only the link is
guarded, and its own attributes are not touched by what is inside it. -/
theorem links_guarded_nested :
    ∃ hs attrs inner children, Render.document {}
        [.branch (.link "//there.example" false) [.leaf (.hashtag "tag")]]
        = .ok (Render.element "p" "root" [] hs) ∧
      hs = [.element "a" attrs [.element "a" inner children]] ∧
      Guarded "//there.example" [] attrs ∧ Guarded "/tags/tag" ["tag"] inner := by
  have hload : loadNodes
      [.object [("type", .string "link"), ("props", .object [("url", .string "//there.example")]),
        ("children", .array [.object [("type", .string "hashtag"),
          ("props", .object [("hashtag", .string "tag")])]])]]
      = .ok [.branch (.link "//there.example" false) [.leaf (.hashtag "tag")]] := rfl
  have hsource : (ConfigSource.ready {}).resolve = .ok (.ok {}) := rfl
  have hrender := (renderItems_raw (by simp) hload hsource).trans rfl
  obtain ⟨hs, hdoc, -, -, hlinks⟩ := links_guarded hload hsource hrender
  obtain ⟨-, -, rfl⟩ := Html.element.inj (Except.ok.inj hdoc)
  obtain ⟨-, attrs, _, houter, -, hattrs⟩ := hlinks _ _ _ (List.mem_cons_self ..) rfl
  obtain ⟨-, inner, children, hinner, -, hguarded⟩ :=
    hlinks _ _ _ (List.mem_cons_of_mem _ (List.mem_singleton.mpr rfl)) rfl
  obtain ⟨-, rfl, -⟩ := Html.element.inj houter
  obtain ⟨-, rfl, rfl⟩ := Html.element.inj hinner
  exact ⟨_, _, _, _, hdoc, rfl, hattrs, hguarded⟩

/-! ### Mentions -/

namespace Link

/-- **A mention leads away if it names a host or there is one to lead to, and else if the account
begins with a slash.** -/
theorem isExternal_mention_iff {m : Mention} {instanceHost : Option String} :
    isExternal (mention m instanceHost) = true ↔
      (IsGiven m.host ∨ IsGiven instanceHost) ∨ m.acct.toList.head? = some '/' := by
  unfold mention
  split
  · rename_i host hhost
    have haway : ∀ rest, isExternal ("https://" ++ host ++ "/" ++ rest) = true := by
      intro rest
      rw [String.append_assoc, String.append_assoc]
      exact isExternal_secure _
    split <;> simp [haway, isGiven_of_host? hhost]
  · rename_i hhost
    have hnone := host?_eq_none_iff.mp hhost
    split
    · rename_i host hinstance
      have haway : isExternal ("https://" ++ host ++ "/" ++ m.acct) = true := by
        rw [String.append_assoc, String.append_assoc]
        exact isExternal_secure _
      simp [haway, isGiven_of_host? hinstance]
    · rename_i hinstance
      simp [isExternal_slash_iff, hnone, host?_eq_none_iff.mp hinstance]

end Link

/-- **Whether a mention leads away, and so whether its link is guarded, is decided by the hosts that
are given, except that an account that begins with a slash always leads away.** -/
theorem mention_leads_away (config : Config) (m : Mention) :
    (∀ instanceHost, Link.isExternal (Link.mention m instanceHost) = true ↔
      (Link.IsGiven m.host ∨ Link.IsGiven instanceHost) ∨ m.acct.toList.head? = some '/') ∧
    ∃ attrs, Render.leaf config (.mention m) = .ok (.element "a" attrs [.text m.acct]) ∧
      attrs.get? "href" = some (.text (Link.mention m config.url)) ∧
      (attrs.get? "target" = none ∧ attrs.get? "rel" = none ↔
        ¬ (Link.IsGiven m.host ∨ Link.IsGiven config.url) ∧ m.acct.toList.head? ≠ some '/') := by
  have hguarded := guarded_linkRule "mention" (Link.mention m config.url) (Or.inl rfl)
  refine ⟨fun _ => Link.isExternal_mention_iff, _,
    Render.leaf_eq_ok_iff.mpr ⟨by simp [Node.injected], rfl⟩, hguarded.leads, ?_⟩
  rw [hguarded.target, hguarded.unrelated, relationTo, List.append_nil, ← not_or,
    ← Link.isExternal_mention_iff]
  cases Link.isExternal (Link.mention m config.url) <;> simp

/-- An account that begins with a slash, on no host: the link to it leaves the site. -/
theorem slashed_account_leaves :
    Link.mention ⟨"eve", none, "/there.example"⟩ none = "//there.example" ∧
      Link.isExternal "//there.example" = true ∧
      Render.leaf {} (.mention ⟨"eve", none, "/there.example"⟩)
        = .ok (.element "a" [("data-mfm", .text "mention"), ("href", .text "//there.example"),
            ("target", .text "_blank"), ("rel", .text "noopener noreferrer")]
            [.text "/there.example"]) := by
  refine ⟨rfl, rfl, rfl⟩

end MfmRender
