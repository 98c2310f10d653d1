/-
Coloured code is inert.

Block code that is taken as markup is trusted.  The way to show code that is not
trusted is to colour it, and what is proved here is that this is safe: whatever
the code holds and whatever its language is called, rendering it never fails, and
the element around it holds nothing but text and spans that name the class of a
token.  No code begins an element of its own, a comment or a declaration.

The content is known outright, since the markup of coloured code is read as its
runs (`parse_markup`); each of them is a text or a span around one.  That the
tree is inert would be of little use if printing it let something loose, so the
markup is read once more: the elements around the code are found again with the
same content (`parse_codeElement`).  The name of the language stands in a class
there, and no name breaks out of it.
-/
import MfmRender.Proofs.Animation
import MfmRender.Proofs.Highlight.Code

namespace MfmRender

open Html

namespace Highlight

/-- The classes that a style sheet may colour. -/
def spanClasses : List String :=
  ["w", "go", "gs", "gd", "gi", "gu", "gh", "p", "nt", "s2", "mi", "mf", "kc", "c1", "cm", "err"]

/-- Text, and spans that name a class and hold such nodes in turn. -/
inductive Inert : Html → Prop
  | text (s : String) : Inert (.text s)
  | span {name : String} {children : List Html} (known : name ∈ spanClasses)
      (inside : ∀ h ∈ children, Inert h) :
      Inert (.element "span" [("class", .names [name])] children)

theorem cssName_mem_spanClasses {cls : TokenClass} (h : cls ≠ .plain) :
    cls.cssName ∈ spanClasses := by
  cases cls <;> first | exact absurd rfl h | decide

theorem inert_runHtml (t : Token) : Inert (runHtml t) := by
  by_cases h : t.cls = .plain
  · rw [runHtml_plain h]
    exact Inert.text _
  · rw [runHtml_coloured h]
    refine Inert.span (cssName_mem_spanClasses h) ?_
    intro g hg
    rw [List.mem_singleton.mp hg]
    exact Inert.text _

end Highlight

/-! ### The elements around block code -/

/-- The tag of the outer one of the two elements of block code. -/
def outerTag (config : Config) : String :=
  if config.codeTagAsDiv then "div" else "pre"

/-- The tag of the element that holds the code. -/
def innerTag (config : Config) : String :=
  if config.codeTagAsDiv then "div" else "code"

/-- The attributes of the element that holds the code. -/
def codeAttributes (lang : Option String) : Attributes :=
  ("data-mfm", .text "blockCode-inner") ::
    classRule ((lang.filter (· ≠ "")).toList.map ("language-" ++ ·))

/-- The elements that block code is shown as, around its content. -/
def codeElement (config : Config) (attrs : Attributes) (content : List Html) : Html :=
  .element (outerTag config) [("data-mfm", .text "blockCode")]
    [.element (innerTag config) attrs content]

theorem leafRule_blockCode (config : Config) (code : String) (lang : Option String) :
    leafRule config (.blockCode code lang)
      = codeElement config (codeAttributes lang) (codeRule config code lang) :=
  rfl

theorem outerTag_mem (config : Config) : outerTag config ∈ ["div", "pre", "code"] := by
  unfold outerTag
  split <;> decide

theorem innerTag_mem (config : Config) : innerTag config ∈ ["div", "pre", "code"] := by
  unfold innerTag
  split <;> decide

/-- Block code as markup: the content of its inner element between the tags of the two. -/
theorem chars_codeElement (raw : Bool) (config : Config) (attrs : Attributes)
    (content : List Html) :
    chars raw (codeElement config attrs content)
      = startTag (outerTag config) [("data-mfm", .text "blockCode")] ++
          startTag (innerTag config) attrs ++ charsAll false content ++
          endTag (innerTag config) ++ endTag (outerTag config) := by
  have htags : ∀ name ∈ ["div", "pre", "code"], isVoid name = false ∧ isRawText name = false := by
    decide
  obtain ⟨-, houter⟩ := htags _ (outerTag_mem config)
  obtain ⟨hvoid, hinner⟩ := htags _ (innerTag_mem config)
  rw [codeElement, chars, houter, charsAll, charsAll, chars, hvoid, hinner]
  simp

/-- Where code is not coloured it is put in as it is. -/
theorem codeMarkup_of_raw {config : Config} {code : String} {lang : Option String}
    (h : config.highlightCode = false) : Render.codeMarkup config code lang = code := by
  simp [Render.codeMarkup, h]

/-- Where code is not coloured it is shown as what is read of it. -/
theorem codeRule_of_parse {config : Config} {code : String} {lang : Option String}
    {content : List Html} (h : config.highlightCode = false)
    (hparse : Html.parse code = .ok content) : codeRule config code lang = content := by
  rw [codeRule, codeMarkup_of_raw h, hparse]

theorem allPrintable_codeElement (config : Config) (lang : Option String) {content : List Html}
    (h : AllPrintable content) :
    AllPrintable [codeElement config (codeAttributes lang) content] := by
  have htags : ∀ name ∈ ["div", "pre", "code"], name ∈ documentTags ∧ isVoid name = false := by
    decide
  have houter := htags _ (outerTag_mem config)
  have hinner := htags _ (innerTag_mem config)
  exact allPrintable_classed houter.1 houter.2 "blockCode" (by simp)
    (allPrintable_classed hinner.1 hinner.2 "blockCode-inner" (classRule_names _) h)

/-- An element of block code keeps its tag when it is read. -/
theorem settled_codeTag {name : String} (h : name ∈ ["div", "pre", "code"]) (keep : Bool)
    (attrs : Attributes) (content : List Html) :
    settled keep (.element name attrs content)
      = .element name (settledAttributes name attrs)
          (settledAll (keep || keepsSpace name) content) := by
  have hlower : ∀ n ∈ ["div", "pre", "code"], Lexer.lowerName n.toList = n := by decide
  rw [settled, hlower name h]

theorem settledAttributes_origin {name : String} (h : name ∈ ["div", "pre", "code"])
    (origin : String) :
    settledAttributes name [("data-mfm", .text origin)] = [("data-mfm", .text origin)] := by
  have hplain : ∀ n ∈ ["div", "pre", "code"], holdsNames n "data-mfm" = false := by decide
  rw [settledAttributes, List.mergeSort_singleton]
  simp [settledValue, hplain name h, AttrValue.asText]

namespace Highlight

/-- Printed block code is read as the same elements around the same runs; only the classes of the
language are cut at blanks. -/
theorem parse_codeElement (config : Config) (lang : Option String) {ts : List Token}
    (h : Apart ts) :
    Html.parse (codeElement config (codeAttributes lang)
        ((ts.map (kept false)).map runHtml)).print
      = .ok [codeElement config (settledAttributes (innerTag config) (codeAttributes lang))
          ((ts.map (kept false)).map runHtml)] := by
  have hapart := h.map_kept false
  have hparse := parse_charsAll
    (allPrintable_codeElement config lang (allPrintable_runs (ts.map (kept false))))
  rw [charsAll, charsAll, List.append_nil] at hparse
  have hsame : ∀ keep, (ts.map (kept false)).map (kept keep) = ts.map (kept false) := by
    intro keep
    rw [List.map_map]
    exact List.map_congr_left fun t _ => kept_kept keep t
  rw [Html.print, hparse]
  simp only [codeElement, joinedAll, joined, joinTexts, joinedAll_runs hapart,
    joinTexts_runs hapart, settledAll, settled_codeTag (outerTag_mem config),
    settled_codeTag (innerTag_mem config), settledAttributes_origin (outerTag_mem config),
    settledAll_map_runHtml, hsame]

end Highlight

/-! ### Documents with coloured code -/

/-- When code is coloured no code is rejected. -/
theorem Node.accepted_of_highlightCode {config : Config} (h : config.highlightCode = true)
    (ns : List Node) : Node.Accepted config ns := by
  refine Node.accepted_of_blockCode fun code lang _ => ?_
  rw [Render.codeMarkup, if_pos h]
  exact ⟨_, Highlight.parse_markup code lang⟩

theorem codeRule_highlighted {config : Config} (h : config.highlightCode = true) (code : String)
    (lang : Option String) :
    codeRule config code lang
      = ((Highlight.codeRuns code lang).map (Highlight.kept false)).map Highlight.runHtml := by
  rw [codeRule, Render.codeMarkup, if_pos h, Highlight.parse_markup]

/-- Where code is coloured every document is rendered, and block code is shown as its runs. -/
theorem highlighted_shown {config : Config} (hcolour : config.highlightCode = true)
    (ns : List Node) :
    ∃ hs, Render.document config ns = .ok (Render.element config.rootTagName "root" [] hs) ∧
      (Node.shownAll ns hs).map Prod.fst = Node.preorderAll ns ∧
      ∀ code lang h, (.leaf (.blockCode code lang), h) ∈ Node.shownAll ns hs →
        h = codeElement config (codeAttributes lang)
          (((Highlight.codeRuns code lang).map (Highlight.kept false)).map Highlight.runHtml) := by
  refine ⟨Node.prescribedAll config {} ns, ?_, map_fst_shownAll config ns {}, ?_⟩
  · exact Render.document_eq_ok_iff.mpr ⟨Node.accepted_of_highlightCode hcolour ns, rfl⟩
  · intro code lang h hshown
    obtain ⟨rank, rfl⟩ := exists_prescribed_of_shown ns {} hshown
    rw [Node.prescribed, leafRule_blockCode, codeRule_highlighted hcolour]

/-- **Where code is coloured every document is rendered, and block code in it is shown as text and
as spans that name a class, and as nothing else, whatever the code and the name of its language
hold.**  Reading the printed element gives the same content again. -/
theorem highlighted_inert {config : Config} (hcolour : config.highlightCode = true)
    (ns : List Node) :
    ∃ hs, Render.document config ns = .ok (Render.element config.rootTagName "root" [] hs) ∧
      (Node.shownAll ns hs).map Prod.fst = Node.preorderAll ns ∧
      ∀ code lang h, (.leaf (.blockCode code lang), h) ∈ Node.shownAll ns hs →
        ∃ content, Html.parse (Highlight.markup code lang) = .ok content ∧
          h = codeElement config (codeAttributes lang) content ∧
          (∀ g ∈ content, Highlight.Inert g) ∧
          Html.parse h.print = .ok [codeElement config
            (settledAttributes (innerTag config) (codeAttributes lang)) content] := by
  obtain ⟨hs, hdoc, hlisted, hruns⟩ := highlighted_shown hcolour ns
  refine ⟨hs, hdoc, hlisted, ?_⟩
  intro code lang h hshown
  have hrule := hruns code lang h hshown
  refine ⟨_, Highlight.parse_markup code lang, hrule, ?_, ?_⟩
  · intro g hg
    obtain ⟨t, -, rfl⟩ := List.mem_map.mp hg
    exact Highlight.inert_runHtml t
  · rw [hrule]
    exact Highlight.parse_codeElement config lang (Highlight.apart_codeRuns code lang)

/-- Code that would be a script, in a language whose name would end its own tag. -/
theorem highlighted_inert_script :
    ∃ content, Html.parse (Highlight.markup "</code><script>x" (some "\"><script>")) = .ok content ∧
      Render.document { highlightCode := true }
          [.leaf (.blockCode "</code><script>x" (some "\"><script>"))]
        = .ok (Render.element "p" "root" []
            [codeElement { highlightCode := true } (codeAttributes (some "\"><script>")) content]) ∧
      ∀ g ∈ content, Highlight.Inert g := by
  obtain ⟨hs, hdoc, -, hinert⟩ := @highlighted_inert { highlightCode := true } rfl
    [.leaf (.blockCode "</code><script>x" (some "\"><script>"))]
  obtain ⟨-, hrule⟩ := Render.document_eq_ok_iff.mp hdoc
  obtain ⟨-, -, rfl⟩ := Html.element.inj hrule
  obtain ⟨content, hread, hshown, hcontent, -⟩ := hinert _ _ _ (List.mem_singleton.mpr rfl)
  refine ⟨content, hread, ?_, hcontent⟩
  rw [hdoc, ← hshown]
  rfl

end MfmRender
