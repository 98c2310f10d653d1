/-
No text of a document becomes markup.

Documents hold texts from strangers, in ten places: texts, code, formulas,
addresses, tags, names of users, hosts, functions and their arguments.  Reading
the markup of a document gives back the tree that the document prescribes, so
whatever stands in those places, no element begins or ends there.

Three facts make this true.  Rendering makes the prescribed tree
(`Render.nodes_eq_ok_iff`).  Every element of that tree has one of a few tags
and its attributes are among a few names, all of them such as markup can carry.
And what markup can carry is read back as it was printed (`Html.parse_charsAll`).

Block code is left out: it is put in as markup, which is what it is for.  The
root element is named by the options, and a name whose content is not read as
markup, or that has no content, is left out too.
-/
import MfmRender.Proofs.Markup.Reading
import MfmRender.Proofs.Calls

namespace MfmRender

open Html Lexer

/-! ### Options that were checked name an element -/

theorem Config.isTagName_checkRootTagName {text name : String}
    (h : Config.checkRootTagName text = .ok name) : Config.isTagName name.toList = true := by
  unfold checkRootTagName at h
  split at h
  · obtain rfl : "p" = name := by simpa using h
    rfl
  · split at h
    · rename_i htag
      obtain rfl := Except.ok.inj h
      simpa using htag
    · simp at h

theorem Config.isTagName_loadRootTagName {v : Json} {name : String}
    (h : Config.loadRootTagName v = .ok name) : Config.isTagName name.toList = true := by
  unfold loadRootTagName at h
  split at h
  · exact isTagName_checkRootTagName h
  · obtain rfl : "p" = name := by simpa using h
    rfl
  · simp at h

/-- The name of the root element in checked options is one that a tag can have. -/
theorem Config.isTagName_rootTagName {v : Json} {config : Config} (h : Config.load v = .ok config) :
    Config.isTagName config.rootTagName.toList = true := by
  have hallow : ∀ {ms : Json.Members} {key name : String},
      ms.allow key "p" loadRootTagName = .ok name → Config.isTagName name.toList = true := by
    intro ms key name hname
    rcases Json.Members.allow_eq_ok_iff.mp hname with ⟨-, rfl⟩ | ⟨w, -, hw⟩
    · rfl
    · exact isTagName_loadRootTagName hw
  unfold load at h
  split at h
  · rename_i ms _
    obtain ⟨-, -, -, hname, -⟩ := ofMembers_eq_ok_iff.mp h
    unfold allowEither at hname
    split at hname <;> exact hallow hname
  · simp at h

namespace Html

/-! ### Elements of a document can be carried by markup -/

/-- The tags of the elements inside the root. -/
def documentTags : List String :=
  ["b", "i", "del", "small", "strong", "span", "blockquote", "div", "h1", "a", "pre", "code", "br",
   "img"]

/-- The names of the attributes in a document, in the order in which elements have them. -/
def documentAttributes : List String :=
  ["data-mfm", "href", "target", "rel", "class", "src", "alt"]

theorem attrName_documentAttributes : ∀ name ∈ documentAttributes, AttrName name := by
  have hall : ∀ name ∈ documentAttributes,
      name.toList ≠ [] ∧ (name.toList.all fun c => !endsName c) = true ∧
        lowerName name.toList = name := by
    decide
  intro name hname
  obtain ⟨hne, hends, hlow⟩ := hall name hname
  refine ⟨hne, ?_, hlow⟩
  intro c hc
  simpa using List.all_eq_true.mp hends c hc

theorem printable_element {name : String} {attrs : Attributes} {children : List Html}
    (hname : name ∈ documentTags) (hattrs : (attrs.map Prod.fst).Sublist documentAttributes)
    (hvoid : isVoid name = true → children = []) : Printable name attrs children := by
  have hall : ∀ t ∈ documentTags, Config.isTagName t.toList = true ∧
      lowerName t.toList = t ∧ isRawText t = false ∧ t ≠ "meta" := by
    decide
  obtain ⟨htag, hlow, hraw, hmeta⟩ := hall name hname
  refine ⟨htag, ?_, ?_, ?_, ?_, ?_⟩
  · rw [hlow, hraw]
  · rw [hlow]
    exact hmeta
  · intro h
    rw [hlow] at h
    exact ⟨h, hvoid h⟩
  · intro a ha
    exact attrName_documentAttributes a.1 (hattrs.subset (List.mem_map_of_mem ha))
  · exact hattrs.nodup (by decide)

theorem allPrintable_cons {h : Html} {rest : List Html} :
    AllPrintable (h :: rest) ↔ AllPrintable [h] ∧ AllPrintable rest := by
  cases h <;> simp [AllPrintable, and_assoc]

theorem allPrintable_element {name : String} {attrs : Attributes} {children : List Html}
    (hel : Printable name attrs children) (hchildren : AllPrintable children) :
    AllPrintable [.element name attrs children] := by
  simp [AllPrintable, hel, hchildren]

theorem allPrintable_text (s : String) : AllPrintable [.text s] := by
  simp [AllPrintable]

theorem allPrintable_nil : AllPrintable [] := by
  simp [AllPrintable]

/-- Lines with breaks between them. -/
theorem allPrintable_textRule (text : String) : AllPrintable (textRule text) := by
  have hbreak : AllPrintable [.element "br" [] []] :=
    allPrintable_element (printable_element (by decide) (by simp) (fun _ => rfl)) allPrintable_nil
  have general : ∀ lines : List (List Char),
      AllPrintable ((lines.map fun line => Html.text (String.ofList line)).intersperse
        (.element "br" [] [])) := by
    intro lines
    induction lines with
    | nil => exact allPrintable_nil
    | cons line lines ih =>
        cases lines with
        | nil => exact allPrintable_text _
        | cons next lines =>
            exact allPrintable_cons.mpr ⟨allPrintable_text _, allPrintable_cons.mpr ⟨hbreak, ih⟩⟩
  exact general _

theorem classRule_names (names : List String) :
    ((classRule names).map Prod.fst).Sublist ["class"] := by
  unfold classRule
  split
  · simp
  · exact List.Sublist.refl _

/-- A link of a document, which has the attributes of a link and no others. -/
theorem allPrintable_link (origin href : String) (relation : List String) {children : List Html}
    (hchildren : AllPrintable children) :
    AllPrintable
      [.element "a" (("data-mfm", .text origin) :: linkRule href relation) children] := by
  have hvoid : isVoid "a" = false := by decide
  refine allPrintable_element (printable_element (by decide) ?_ (by simp [hvoid])) hchildren
  exact ((linkRule_names href relation).trans (by decide)).cons_cons "data-mfm"

/-- An element of a document that has no attributes but its classes. -/
theorem allPrintable_classed {name : String} (hname : name ∈ documentTags)
    (hvoid : isVoid name = false) (origin : String) {attrs : Attributes}
    (hattrs : (attrs.map Prod.fst).Sublist ["class"]) {children : List Html}
    (hchildren : AllPrintable children) :
    AllPrintable [.element name (("data-mfm", .text origin) :: attrs) children] := by
  refine allPrintable_element (printable_element hname ?_ (by simp [hvoid])) hchildren
  exact (hattrs.trans (by decide)).cons_cons "data-mfm"

theorem allPrintable_leafRule (config : Config) {l : Leaf} (hcode : l.kind ≠ .blockCode) :
    AllPrintable [leafRule config l] := by
  cases l with
  | blockCode code lang => exact absurd rfl hcode
  | text s => exact allPrintable_classed (by decide) rfl "text" (by simp) (allPrintable_textRule s)
  | inlineCode code =>
      cases hdiv : config.codeTagAsDiv <;>
        simpa [leafRule, hdiv] using
          allPrintable_classed (by decide) rfl "inlineCode" (by simp) (allPrintable_text code)
  | mathInline formula =>
      exact allPrintable_classed (by decide) rfl "mathInline" (by simp) (allPrintable_text formula)
  | mathBlock formula =>
      exact allPrintable_classed (by decide) rfl "mathBlock" (by simp) (allPrintable_text formula)
  | url url brackets => exact allPrintable_link "url" _ _ (allPrintable_text _)
  | hashtag tag => exact allPrintable_link "hashtag" _ _ (allPrintable_text _)
  | mention m => exact allPrintable_link "mention" _ _ (allPrintable_text _)
  | search query content => exact allPrintable_link "search" _ _ (allPrintable_text _)
  | unicodeEmoji emoji => exact allPrintable_text emoji
  | emojiCode name =>
      cases hhost : Link.host? config.url with
      | none => simpa [leafRule, hhost] using allPrintable_text (":" ++ name ++ ":")
      | some host =>
          have himg : AllPrintable [.element "img" [("data-mfm", .text "emojiCode"),
              ("src", .text (Link.emoji name host)), ("alt", .text name)] []] := by
            refine allPrintable_element (printable_element (by decide) ?_ (fun _ => rfl))
              allPrintable_nil
            show ["data-mfm", "src", "alt"].Sublist documentAttributes
            decide
          simpa [leafRule, hhost] using himg

theorem allPrintable_branchRule (config : Config) (rank : Counters) (b : Branch)
    {children : List Html} (hchildren : AllPrintable children) :
    AllPrintable [branchRule config rank b children] := by
  have hanimation : ∀ name rank,
      ((animationRule config name rank).map Prod.fst).Sublist ["class"] := by
    intro name rank
    unfold animationRule
    split
    · exact classRule_names _
    · simp
  cases b with
  | styled style =>
      have htag : tagRule style ∈ documentTags ∧ isVoid (tagRule style) = false := by
        cases style <;> decide
      refine allPrintable_classed htag.1 htag.2 style.name ?_ hchildren
      cases style with
      | big => exact hanimation "tada" rank.big
      | motion => exact hanimation "rubberBand" rank.motion
      | _ => simp [styleRule]
  | link url silent => exact allPrintable_link "link" url [] hchildren
  | fn name args => exact allPrintable_classed (by decide) rfl name (classRule_names _) hchildren

/-- **The tree of a document without block code can be carried by markup.** -/
theorem allPrintable_prescribedAll (config : Config) (ns : List Node) :
    (∀ n ∈ Node.preorderAll ns, n.kind ≠ .leaf .blockCode) →
    ∀ before : Counters, AllPrintable (Node.prescribedAll config before ns) := by
  induction ns using Node.forest_induction with
  | nil => intro _ before; exact allPrintable_nil
  | leaf l rest ih =>
      intro hcode before
      have hl : l.kind ≠ .blockCode := by
        intro h
        exact hcode (.leaf l) (by simp [Node.preorderAll, Node.preorder]) (by simp [Node.kind, h])
      have hrest : ∀ n ∈ Node.preorderAll rest, n.kind ≠ .leaf .blockCode := by
        intro n hn
        exact hcode n (by simp [Node.preorderAll, hn])
      exact allPrintable_cons.mpr ⟨allPrintable_leafRule config hl, ih hrest _⟩
  | branch b children rest ihc ihr =>
      intro hcode before
      have hchildren : ∀ n ∈ Node.preorderAll children, n.kind ≠ .leaf .blockCode := by
        intro n hn
        exact hcode n (by simp [Node.preorderAll, Node.preorder, hn])
      have hrest : ∀ n ∈ Node.preorderAll rest, n.kind ≠ .leaf .blockCode := by
        intro n hn
        exact hcode n (by simp [Node.preorderAll, hn])
      exact allPrintable_cons.mpr
        ⟨allPrintable_branchRule config _ b (ihc hchildren _), ihr hrest _⟩

end Html

/-! ### Markup of a document -/

theorem accepted_of_noBlockCode (config : Config) {ns : List Node}
    (hcode : ∀ n ∈ Node.preorderAll ns, n.kind ≠ .leaf .blockCode) : Node.Accepted config ns := by
  intro n hn markup hmarkup
  cases n with
  | branch b children => simp [Node.injected] at hmarkup
  | leaf l =>
      cases l with
      | blockCode code lang => exact absurd rfl (hcode _ hn)
      | _ => simp [Node.injected] at hmarkup

/-- **A document without block code is rendered, and its markup is read as the one tree that it
prescribes, with nothing added, closed or changed by its texts.**  Only the empty document has no
root: it is rendered as no markup at all. -/
theorem parse_rendered {vs : List Json} {ns : List Node} {v : Json} {config : Config}
    {source : ConfigSource} (hload : loadNodes vs = .ok ns) (hconfig : Config.load v = .ok config)
    (hsource : source.resolve = .ok (.ok config))
    (hcode : ∀ n ∈ Node.preorderAll ns, n.kind ≠ .leaf .blockCode)
    (hraw : isRawText (lowerName config.rootTagName.toList) = false)
    (hvoid : isVoid (lowerName config.rootTagName.toList) = false) :
    ∃ markup, renderItems (vs.map .raw) source = .ok markup ∧
      Html.parse markup
        = .ok (if vs.isEmpty then [] else [settled false (joined (documentRule config ns))]) := by
  cases vs with
  | nil => exact ⟨"", rfl, parse_charsAll allPrintable_nil⟩
  | cons w rest =>
      have hdoc : Render.document config ns = .ok (documentRule config ns) :=
        Render.document_eq_ok_iff.mpr ⟨accepted_of_noBlockCode config hcode, rfl⟩
      have hroot : Printable config.rootTagName [("data-mfm", .text "root")]
          (Node.prescribedAll config {} ns) := by
        refine ⟨Config.isTagName_rootTagName hconfig, hraw, ?_, by simp [hvoid], ?_, by simp⟩
        · intro hmeta
          rw [hmeta] at hvoid
          exact absurd hvoid (by decide)
        · intro a ha
          obtain rfl : a = ("data-mfm", .text "root") := by simpa using ha
          exact attrName_documentAttributes "data-mfm" (by decide)
      have hprintable : AllPrintable [documentRule config ns] :=
        allPrintable_element hroot (allPrintable_prescribedAll config ns hcode {})
      refine ⟨(documentRule config ns).print, ?_, ?_⟩
      · rw [renderItems_raw (by simp) hload hsource, hdoc]
      · have hparse := parse_charsAll hprintable
        rw [charsAll, charsAll, List.append_nil] at hparse
        exact hparse

/-- A text that looks like an end tag, inside a root whose name has capitals. -/
theorem parse_rendered_endTag :
    ∃ markup, renderItems
        [.raw (.object [("type", .string "bold"), ("children", .array
          [.object [("type", .string "text"), ("props", .object [("text", .string "</b>")])]])])]
        (.members [("rootTagName", .string "DIV")]) = .ok markup ∧
      Html.parse markup = .ok [settled false (joined (documentRule { rootTagName := "DIV" }
        [.branch (.styled .bold) [.leaf (.text "</b>")]]))] :=
  @parse_rendered
    [.object [("type", .string "bold"), ("children", .array
      [.object [("type", .string "text"), ("props", .object [("text", .string "</b>")])]])]]
    [.branch (.styled .bold) [.leaf (.text "</b>")]] (.object [("rootTagName", .string "DIV")])
    { rootTagName := "DIV" } (.members [("rootTagName", .string "DIV")])
    rfl rfl rfl (by decide) (by decide) (by decide)

/-- The empty document has no root element. -/
theorem empty_document_rootless :
    loadNodes [] = .ok [] ∧ Config.load (.object []) = .ok {} ∧
      ∃ markup, renderItems [] (.ready {}) = .ok markup ∧ ∀ h, Html.parse markup ≠ .ok [h] := by
  refine ⟨rfl, rfl, "", rfl, ?_⟩
  intro h hparse
  have hnil : Html.parse "" = .ok [] := parse_charsAll allPrintable_nil
  rw [hnil] at hparse
  cases hparse

end MfmRender
