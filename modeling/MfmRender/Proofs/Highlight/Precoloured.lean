/-
Code that was coloured beforehand is shown as it is.

Code that is taken as markup may have been coloured elsewhere already: it is text, in
which three characters are escaped, and spans with classes around more of it.
`Precoloured` is the grammar of such markup, and what is proved here is that it
survives, character for character, although it is read as trees and these are printed
again.

The trees are found along the grammar, and they print as the markup by construction
(`Precoloured.exists_trees`).  So there is nothing to be said of the reader but that it
finds the same ones, and that is known for all trees it would not change: texts that
are apart and do not shrink, and classes that are single words
(`parse_of_precoloured`).  The condition on the runs of text is there because of the
shrinking, and that the runs are maximal because neighbouring texts become one.
-/
import MfmRender.Proofs.Highlight.Content
import MfmRender.Proofs.Link.Anchor
import MfmRender.Proofs.RootName

namespace MfmRender

open Html Text

/-! ### Words with spaces between -/

namespace Text

theorem splitWhere_of_none {p : Char → Bool} {cs : List Char} (h : ∀ c ∈ cs, p c = false) :
    splitWhere p cs = [cs] := by
  induction cs with
  | nil => rfl
  | cons c cs ih =>
      obtain ⟨hc, hcs⟩ := List.forall_mem_cons.mp h
      rw [splitWhere, hc, if_neg Bool.false_ne_true, ih hcs]

theorem splitWhere_append {p : Char → Bool} {piece : List Char} {c : Char}
    (h : ∀ d ∈ piece, p d = false) (hc : p c = true) (more : List Char) :
    splitWhere p (piece ++ c :: more) = piece :: splitWhere p more := by
  induction piece with
  | nil => rw [List.nil_append, splitWhere, if_pos hc]
  | cons d piece ih =>
      obtain ⟨hd, hpiece⟩ := List.forall_mem_cons.mp h
      rw [List.cons_append, splitWhere, hd, if_neg Bool.false_ne_true, ih hpiece]

/-- Words with a space between each two are told apart again. -/
theorem words_intercalate {ws : List (List Char)}
    (h : ∀ w ∈ ws, w ≠ [] ∧ ∀ c ∈ w, isBlank c = false) : words ([' '].intercalate ws) = ws := by
  have hkept : ws.filter (!·.isEmpty) = ws := by
    rw [List.filter_eq_self]
    intro w hw
    simpa using (h w hw).1
  have hsplit : ws ≠ [] → splitWhere isBlank ([' '].intercalate ws) = ws := by
    clear hkept
    intro hne
    induction ws with
    | nil => exact absurd rfl hne
    | cons w ws ih =>
        obtain ⟨hw, hws⟩ := List.forall_mem_cons.mp h
        cases ws with
        | nil => rw [List.intercalate_singleton, splitWhere_of_none hw.2]
        | cons v ws =>
            rw [List.intercalate_cons_cons, List.append_assoc, List.singleton_append,
              splitWhere_append hw.2 (by decide), ih hws (List.cons_ne_nil v ws)]
  cases ws with
  | nil => rfl
  | cons w ws => rw [words, hsplit (List.cons_ne_nil w ws), hkept]

theorem forall_mem_intercalate {P : Char → Prop} {c : Char} {ws : List (List Char)} (hc : P c)
    (h : ∀ w ∈ ws, ∀ d ∈ w, P d) : ∀ d ∈ [c].intercalate ws, P d := by
  induction ws with
  | nil => simp
  | cons w ws ih =>
      obtain ⟨hw, hws⟩ := List.forall_mem_cons.mp h
      cases ws with
      | nil => simpa using hw
      | cons v ws =>
          rw [List.intercalate_cons_cons]
          simp only [List.mem_append, List.mem_singleton]
          rintro d ((hd | rfl) | hd)
          · exact hw d hd
          · exact hc
          · exact ih hws d hd

end Text

/-! ### Coloured markup -/

/-- A text as markup writes it. -/
inductive WrittenAs : List Char → List Char → Prop
  | nil : WrittenAs [] []
  | ampersand {cs ws : List Char} (rest : WrittenAs cs ws) :
      WrittenAs ('&' :: cs) ("&amp;".toList ++ ws)
  | less {cs ws : List Char} (rest : WrittenAs cs ws) :
      WrittenAs ('<' :: cs) ("&lt;".toList ++ ws)
  | greater {cs ws : List Char} (rest : WrittenAs cs ws) :
      WrittenAs ('>' :: cs) ("&gt;".toList ++ ws)
  | plain {c : Char} {cs ws : List Char} (unescaped : c ≠ '&' ∧ c ≠ '<' ∧ c ≠ '>')
      (rest : WrittenAs cs ws) : WrittenAs (c :: cs) (c :: ws)

/-- A character of the name of a class. -/
def IsClassChar (c : Char) : Prop :=
  ('a' ≤ c ∧ c ≤ 'z') ∨ ('0' ≤ c ∧ c ≤ '9') ∨ c = '_' ∨ c = '-'

/-- The name of a class. -/
def IsClassName (cs : List Char) : Prop :=
  cs ≠ [] ∧ ∀ c ∈ cs, IsClassChar c

/-- Code as it is when it has been coloured: runs of text and spans around such code.  A run goes on
to the next tag, and it is one that lasts. -/
inductive Precoloured : List Char → Prop
  | nil : Precoloured []
  | text {run written rest : List Char} (lasting : Highlight.Lasting run)
      (writes : WrittenAs run written) (ends : ∀ c ∈ rest.head?, c = '<')
      (more : Precoloured rest) : Precoloured (written ++ rest)
  | span {names : List (List Char)} {inside rest : List Char} (named : names ≠ [])
      (classes : ∀ name ∈ names, IsClassName name) (inner : Precoloured inside)
      (more : Precoloured rest) :
      Precoloured ("<span class=\"".toList ++ [' '].intercalate names ++ "\">".toList ++ inside ++
        "</span>".toList ++ rest)

theorem writtenAs_iff {cs ws : List Char} : WrittenAs cs ws ↔ ws = escape cs := by
  constructor
  · intro h
    induction h with
    | nil => rfl
    | ampersand _ ih | less _ ih | greater _ ih => rw [ih]; rfl
    | @plain c cs ws unescaped _ ih =>
        have hself : escapeChar c = [c] := by simp [escapeChar, unescaped]
        rw [ih, escape, escape, List.flatMap_cons, hself]
        rfl
  · rintro rfl
    induction cs with
    | nil => exact .nil
    | cons c cs ih =>
        have hcons : escape (c :: cs) = escapeChar c ++ escape cs := List.flatMap_cons
        rw [hcons]
        by_cases hspecial : c = '&' ∨ c = '<' ∨ c = '>'
        · rcases hspecial with rfl | rfl | rfl
          · exact .ampersand ih
          · exact .less ih
          · exact .greater ih
        · have hplain : c ≠ '&' ∧ c ≠ '<' ∧ c ≠ '>' := by simpa using hspecial
          have hself : escapeChar c = [c] := by simp [escapeChar, hplain]
          rw [hself]
          exact .plain hplain ih

/-- What is written for a text does not begin a tag. -/
theorem WrittenAs.exists_first {cs ws : List Char} (h : WrittenAs cs ws) (hne : cs ≠ [])
    (rest : List Char) : ∃ c ∈ (ws ++ rest).head?, c ≠ '<' := by
  cases h with
  | nil => exact absurd rfl hne
  | ampersand | less | greater => exact ⟨'&', rfl, by decide⟩
  | @plain c _ _ unescaped => exact ⟨c, rfl, unescaped.2.1⟩

theorem Highlight.Lasting.ne_nil {cs : List Char} (h : Highlight.Lasting cs) : cs ≠ [] := by
  rintro rfl
  revert h
  decide

theorem IsClassChar.toNat {c : Char} (h : IsClassChar c) :
    (97 ≤ c.toNat ∧ c.toNat ≤ 122) ∨ (48 ≤ c.toNat ∧ c.toNat ≤ 57) ∨ c.toNat = 95 ∨
      c.toNat = 45 := by
  rcases h with ⟨hlow, hhigh⟩ | ⟨hlow, hhigh⟩ | rfl | rfl
  · exact Or.inl ⟨hlow, hhigh⟩
  · exact Or.inr (Or.inl ⟨hlow, hhigh⟩)
  · exact Or.inr (Or.inr (Or.inl rfl))
  · exact Or.inr (Or.inr (Or.inr rfl))

theorem IsClassChar.not_blank {c : Char} (h : IsClassChar c) : isBlank c = false := by
  have := h.toNat
  simp [isBlank]
  omega

theorem IsClassChar.plain {c : Char} (h : IsClassChar c) :
    (c ≠ '&' ∧ c ≠ '<' ∧ c ≠ '>') ∧ c ≠ '"' := by
  have := h.toNat
  simp only [ne_eq, ← Char.toNat_inj]
  refine ⟨⟨?_, ?_, ?_⟩, ?_⟩ <;> simp <;> omega

/-! ### Trees that reading leaves as they are -/

/-- Trees that markup can carry and that are kept as they are when they are read. -/
structure Unchanged (hs : List Html) : Prop where
  printable : AllPrintable hs
  joined : joinTexts (joinedAll hs) = hs
  settled : settledAll false hs = hs

theorem parse_of_unchanged {hs : List Html} (h : Unchanged hs) :
    Html.parse (String.ofList (charsAll false hs)) = .ok hs := by
  rw [parse_charsAll h.printable, h.joined, h.settled]

theorem unchanged_nil : Unchanged [] :=
  ⟨allPrintable_nil, rfl, rfl⟩

/-- A text is kept if it is one that lasts and no other text follows it. -/
theorem Unchanged.text_cons {run : List Char} {more : List Html} (h : Unchanged more)
    (hrun : Highlight.Lasting run) (hfirst : ∀ s gs, more ≠ .text s :: gs) :
    Unchanged (.text (String.ofList run) :: more) := by
  have hne : String.ofList run ≠ "" := Highlight.ofList_ne_empty hrun.ne_nil
  have hshrink := (Highlight.shrink_eq_self_iff hrun.ne_nil).mpr hrun
  refine ⟨allPrintable_cons.mpr ⟨allPrintable_text _, h.printable⟩, ?_, ?_⟩
  · have hjoined := h.joined
    rw [joinedAll, Html.joined]
    cases more with
    | nil => simp [joinedAll, joinTexts, hne]
    | cons g gs =>
        have hg : ∀ t, Html.joined g ≠ .text t := by
          cases g with
          | text s => exact absurd rfl (hfirst s gs)
          | aside kind s => simp [Html.joined]
          | element name attrs children => simp [Html.joined]
        have hcons : joinTexts (Html.joined g :: joinedAll gs)
            = Html.joined g :: joinTexts (joinedAll gs) := by
          have hempty := joinTexts_text_cons "" hg (joinedAll gs)
          rwa [joinTexts_empty] at hempty
        rw [joinedAll, hcons] at hjoined
        rw [joinedAll, joinTexts_text_cons _ hg, if_neg hne, hjoined]
        rfl
  · rw [settledAll, h.settled, Html.settled, settledText, String.toList_ofList, hshrink]
    rfl

/-- The classes of a span, which stand in one attribute. -/
def spanAttributes (names : List (List Char)) : Attributes :=
  [("class", .names (names.map String.ofList))]

theorem toList_asText_names (names : List (List Char)) :
    (AttrValue.names (names.map String.ofList)).asText.toList = [' '].intercalate names := by
  have hnames : (names.map String.ofList).map String.toList = names := by
    simp [Function.comp_def]
  rw [AttrValue.asText, String.toList_intercalate, hnames]
  rfl

theorem settledAttributes_span {names : List (List Char)}
    (h : ∀ name ∈ names, IsClassName name) :
    settledAttributes "span" (spanAttributes names) = spanAttributes names := by
  have hwords : words ([' '].intercalate names) = names :=
    words_intercalate fun name hname =>
      ⟨(h name hname).1, fun c hc => ((h name hname).2 c hc).not_blank⟩
  have hholds : holdsNames "span" "class" = true := by decide
  rw [spanAttributes, settledAttributes, List.mergeSort_singleton, List.map_singleton, settledValue,
    if_pos hholds, toList_asText_names, hwords]

theorem Unchanged.span_cons {names : List (List Char)} {inner more : List Html}
    (hnames : ∀ name ∈ names, IsClassName name) (hinner : Unchanged inner)
    (hmore : Unchanged more) :
    Unchanged (.element "span" (spanAttributes names) inner :: more) := by
  have hvoid : isVoid "span" = false := by decide
  have hprintable : Printable "span" (spanAttributes names) inner := by
    refine printable_element (by decide) ?_ (by simp [hvoid])
    show ["class"].Sublist documentAttributes
    decide
  have hname : Lexer.lowerName "span".toList = "span" := by decide
  have hkeeps : (false || keepsSpace "span") = false := by decide
  refine ⟨?_, ?_, ?_⟩
  · exact allPrintable_cons.mpr
      ⟨allPrintable_element hprintable hinner.printable, hmore.printable⟩
  · rw [joinedAll, Html.joined, hinner.joined, joinTexts, hmore.joined]
    simp
  · rw [settledAll, Html.settled, hname, hkeeps, settledAttributes_span hnames, hinner.settled,
      hmore.settled]

/-! ### The trees of coloured markup -/

/-- The start tag of a span as it is printed. -/
theorem startTag_span {names : List (List Char)} (h : ∀ name ∈ names, IsClassName name) :
    startTag "span" (spanAttributes names)
      = "<span class=\"".toList ++ [' '].intercalate names ++ "\">".toList := by
  have hchars : ∀ c ∈ [' '].intercalate names, (c ≠ '&' ∧ c ≠ '<' ∧ c ≠ '>') ∧ c ≠ '"' :=
    forall_mem_intercalate (by decide) fun name hname c hc => ((h name hname).2 c hc).plain
  have hescape : escape ([' '].intercalate names) = [' '].intercalate names :=
    escape_eq_self_iff.mpr fun c hc => (hchars c hc).1
  have hquote : ([' '].intercalate names).contains '"' = false := by
    rw [← Bool.not_eq_true, List.contains_iff_mem]
    exact fun hmem => (hchars '"' hmem).2 rfl
  rw [startTag, spanAttributes, attrsChars, List.mergeSort_singleton, List.flatMap_singleton,
    attrChars, toList_asText_names, hescape, quoteValue, hquote]
  simp

/-- **Coloured markup is what some trees print as, and these are not changed by reading them.** -/
theorem Precoloured.exists_trees {cs : List Char} (h : Precoloured cs) :
    ∃ hs, charsAll false hs = cs ∧ Unchanged hs ∧
      ∀ s gs, hs = .text s :: gs → ∃ c ∈ cs.head?, c ≠ '<' := by
  induction h with
  | nil => exact ⟨[], rfl, unchanged_nil, by simp⟩
  | @text run written rest lasting writes ends _ ih =>
      obtain ⟨more, hprint, hmore, hfirst⟩ := ih
      -- The run ends at a tag, and no text is written as something that begins like a tag.
      have hnext : ∀ s gs, more ≠ .text s :: gs := by
        intro s gs hmore
        obtain ⟨c, hc, hne⟩ := hfirst s gs hmore
        exact hne (ends c hc)
      refine ⟨.text (String.ofList run) :: more, ?_, hmore.text_cons lasting hnext, ?_⟩
      · rw [charsAll, hprint, chars, String.toList_ofList, writtenAs_iff.mp writes]
        rfl
      · intro _ _ _
        exact writes.exists_first lasting.ne_nil rest
  | @span names inside rest _ classes _ _ ihi ihm =>
      obtain ⟨inner, hinside, hinner, -⟩ := ihi
      obtain ⟨more, hrest, hmore, -⟩ := ihm
      refine ⟨_, ?_, hinner.span_cons classes hmore, by simp⟩
      have htags : isVoid "span" = false ∧ isRawText "span" = false := by decide
      have hend : endTag "span" = "</span>".toList := rfl
      rw [charsAll, chars, htags.1, htags.2, Bool.and_false, if_neg Bool.false_ne_true,
        startTag_span classes, hend, hinside, hrest]

/-- Coloured markup is read as trees that print as it. -/
theorem parse_of_precoloured {code : String} (h : Precoloured code.toList) :
    ∃ content, Html.parse code = .ok content ∧ charsAll false content = code.toList := by
  obtain ⟨content, hprint, hkept, -⟩ := h.exists_trees
  refine ⟨content, ?_, hprint⟩
  have hparse := parse_of_unchanged hkept
  rwa [hprint, String.ofList_toList] at hparse

/-! ### Documents with code coloured beforehand -/

/-- **Code that was coloured beforehand is shown as it is.**  Where code is taken as markup, a
document whose block code is all coloured beforehand is rendered; and in every document that is
rendered, the code of each block that was coloured beforehand stands, character for character,
between the tags of its two elements, whatever its language and whichever elements these are. -/
theorem precoloured_kept {vs : List Json} {ns : List Node} {source : ConfigSource}
    {config : Config} (hload : loadNodes vs = .ok ns) (hsource : source.resolve = .ok (.ok config))
    (hraw : config.highlightCode = false) :
    ((∀ code lang, .leaf (.blockCode code lang) ∈ Node.preorderAll ns →
        Precoloured code.toList) → ∃ markup, renderItems (vs.map .raw) source = .ok markup) ∧
    ∀ markup, renderItems (vs.map .raw) source = .ok markup →
      ∃ hs, Render.document config ns = .ok (Render.element config.rootTagName "root" [] hs) ∧
        (Node.shownAll ns hs).map Prod.fst = Node.preorderAll ns ∧
        ∀ code lang h, (.leaf (.blockCode code lang), h) ∈ Node.shownAll ns hs →
          Precoloured code.toList →
            ∃ content, h = codeElement config (codeAttributes lang) content ∧
              charsAll false content = code.toList ∧
              startTag (outerTag config) [("data-mfm", .text "blockCode")] ++
                  startTag (innerTag config) (codeAttributes lang) ++ code.toList ++
                  endTag (innerTag config) ++ endTag (outerTag config) <:+: markup.toList := by
  refine ⟨fun hall => ?_, fun markup hrender => ?_⟩
  · have haccepted : Node.Accepted config ns := by
      refine Node.accepted_of_blockCode fun code lang hmem => ?_
      obtain ⟨content, hparse, -⟩ := parse_of_precoloured (hall code lang hmem)
      exact ⟨content, by rw [codeMarkup_of_raw hraw, hparse]⟩
    exact ⟨_, (renderItems_eq_ok_iff hload hsource).mpr ⟨haccepted, rfl⟩⟩
  · obtain ⟨haccepted, rfl⟩ := (renderItems_eq_ok_iff hload hsource).mp hrender
    refine ⟨Node.prescribedAll config {} ns, Render.document_eq_ok_iff.mpr ⟨haccepted, rfl⟩,
      map_fst_shownAll config ns {}, ?_⟩
    intro code lang h hshown hcode
    obtain ⟨content, hparse, hprint⟩ := parse_of_precoloured hcode
    have hself : h = codeElement config (codeAttributes lang) content := by
      obtain ⟨rank, rfl⟩ := exists_prescribed_of_shown ns {} hshown
      rw [Node.prescribed, leafRule_blockCode, codeRule_of_parse hraw hparse]
    refine ⟨content, hself, hprint, ?_⟩
    have hvs : vs ≠ [] := by
      rintro rfl
      obtain rfl : [] = ns := Except.ok.inj hload
      simp [Node.shownAll] at hshown
    rw [hself] at hshown
    rw [← hprint, ← chars_codeElement false, if_neg hvs, Html.print, String.toList_ofList]
    exact (chars_infix_of_shown ns {} _ hshown).trans (Html.charsAll_infix_element ..)

/-- A span with two classes around another one. -/
def nestedSpans : String :=
  "<span class=\"k f-1\">&lt;<span class=\"s\">\"</span>\n</span>"

theorem precoloured_nestedSpans : Precoloured nestedSpans.toList := by
  have hquote : Precoloured "\"".toList :=
    @Precoloured.text ['"'] ['"'] [] (by decide) (.plain (by decide) .nil) (by simp) .nil
  have hfeed : Precoloured "\n".toList :=
    @Precoloured.text ['\n'] ['\n'] [] (by decide) (.plain (by decide) .nil) (by simp) .nil
  have hclass : ∀ name ∈ ["s".toList], IsClassName name := by simp [IsClassName, IsClassChar]
  have hclasses : ∀ name ∈ ["k".toList, "f-1".toList], IsClassName name := by
    simp [IsClassName, IsClassChar]
  have hinner : Precoloured "<span class=\"s\">\"</span>\n".toList :=
    @Precoloured.span ["s".toList] ['"'] ['\n'] (by simp) hclass hquote hfeed
  have houter : Precoloured "&lt;<span class=\"s\">\"</span>\n".toList :=
    @Precoloured.text ['<'] "&lt;".toList "<span class=\"s\">\"</span>\n".toList (by decide)
      (@WrittenAs.less [] [] .nil) (by simp) hinner
  exact @Precoloured.span ["k".toList, "f-1".toList] "&lt;<span class=\"s\">\"</span>\n".toList []
    (by simp) hclasses houter .nil

/-- Nested spans in neutral elements, inside a quote and under a language with a quotation mark in
its name. -/
theorem precoloured_kept_nested :
    ∃ markup, renderItems [.raw (.object [("type", .string "quote"), ("children", .array [
        .object [("type", .string "blockCode"), ("props", .object
          [("code", .string nestedSpans), ("lang", .string "a\"b")])]])])]
        (.ready { codeTagAsDiv := true }) = .ok markup ∧
      startTag "div" [("data-mfm", .text "blockCode")] ++
        startTag "div" (codeAttributes (some "a\"b")) ++ nestedSpans.toList ++ endTag "div" ++
        endTag "div" <:+: markup.toList := by
  have hload : loadNodes [.object [("type", .string "quote"), ("children", .array [
        .object [("type", .string "blockCode"), ("props", .object
          [("code", .string nestedSpans), ("lang", .string "a\"b")])]])]]
      = .ok [.branch (.styled .quote) [.leaf (.blockCode nestedSpans (some "a\"b"))]] := rfl
  have hsource : (ConfigSource.ready { codeTagAsDiv := true }).resolve
      = .ok (.ok { codeTagAsDiv := true }) := rfl
  obtain ⟨hrenders, hkept⟩ := precoloured_kept hload hsource rfl
  have hall : ∀ code lang, .leaf (.blockCode code lang) ∈ Node.preorderAll
        [.branch (.styled .quote) [.leaf (.blockCode nestedSpans (some "a\"b"))]] →
      Precoloured code.toList := by
    intro code lang hmem
    obtain ⟨rfl, -⟩ : code = nestedSpans ∧ lang = some "a\"b" := by
      simpa [Node.preorderAll, Node.preorder] using hmem
    exact precoloured_nestedSpans
  obtain ⟨markup, hrender⟩ := hrenders hall
  obtain ⟨hs, hdoc, -, hshown⟩ := hkept markup hrender
  obtain ⟨-, hrule⟩ := Render.document_eq_ok_iff.mp hdoc
  obtain ⟨-, -, rfl⟩ := Html.element.inj hrule
  obtain ⟨-, -, -, hinfix⟩ := hshown _ _ _
    (List.mem_cons_of_mem _ (List.mem_singleton.mpr rfl)) precoloured_nestedSpans
  exact ⟨markup, hrender, hinfix⟩

end MfmRender
