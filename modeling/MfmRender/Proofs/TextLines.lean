/-
A text is shown line by line, and nothing of it is lost.

Line ends are what a text node does not show as they stand: each becomes a break,
whichever of the three spellings it has.  The spelling is the one thing that is
forgotten.  Everything else can be read back from the markup.  A break is the only
place where a less-than sign stands, since those of the text are escaped; so a line
feed for every break, and then a character for every escape, gives the text with
its line ends as line feeds (`readBack_lines`).  A text that spells out a break or
an escape is no exception: its own signs and ampersands are escaped.

`splitLines` is the cut itself.  It is compared with three things that are not made
from it: the text with line feeds, which it cuts as the library cuts a list at one
character; the number of its line ends, where a carriage return and a line feed in
this order count once; and the places of the breaks among the children.
-/
import MfmRender.Proofs.Markup.Lexing
import MfmRender.Proofs.Rendering

namespace MfmRender

namespace Text

/-! ### Cutting a text into lines -/

/-- A line end of one character stands at the front: a line feed, or a carriage return without one
after it. -/
def EndsLine (c : Char) (rest : List Char) : Prop :=
  c = '\n' ∨ c = '\r' ∧ rest.head? ≠ some '\n'

/-- Induction on a text by what stands at its front: a line end of two characters, one of a single
character, or a character inside a line. -/
theorem line_induction {motive : List Char → Prop} (nil : motive [])
    (pair : ∀ rest, motive rest → motive ('\r' :: '\n' :: rest))
    (single : ∀ c rest, EndsLine c rest → motive rest → motive (c :: rest))
    (inner : ∀ c rest, c ≠ '\r' → c ≠ '\n' → motive rest → motive (c :: rest)) :
    ∀ cs, motive cs
  | [] => nil
  | c :: rest => by
      have ih : motive rest := line_induction nil pair single inner rest
      by_cases hfeed : c = '\n'
      · exact single c rest (Or.inl hfeed) ih
      · by_cases hreturn : c = '\r'
        · cases rest with
          | nil => exact single c [] (Or.inr ⟨hreturn, by simp⟩) ih
          | cons d more =>
              by_cases hd : d = '\n'
              · rw [hreturn, hd]
                exact pair more (line_induction nil pair single inner more)
              · exact single c (d :: more) (Or.inr ⟨hreturn, by simpa using hd⟩) ih
        · exact inner c rest hreturn hfeed ih
termination_by cs => cs.length

theorem splitLines_ne_nil (cs : List Char) : splitLines cs ≠ [] := by
  fun_cases splitLines cs <;> simp

theorem splitLines_single {c : Char} {rest : List Char} (h : EndsLine c rest) :
    splitLines (c :: rest) = [] :: splitLines rest := by
  rcases h with rfl | ⟨rfl, hnext⟩
  · simp [splitLines]
  · cases rest with
    | nil => simp [splitLines]
    | cons d more =>
        have hd : d ≠ '\n' := by simpa using hnext
        simp [splitLines, hd]

theorem splitLines_inner {c : Char} (hreturn : c ≠ '\r') (hfeed : c ≠ '\n') (rest : List Char) :
    splitLines (c :: rest) = (splitLines rest).modifyHead (c :: ·) := by
  have hne : splitLines rest ≠ [] := splitLines_ne_nil rest
  rw [splitLines]
  · cases hrest : splitLines rest with
    | nil => exact absurd hrest hne
    | cons line lines => simp [hreturn, hfeed]
  · intro _ h
    exact absurd h hreturn

theorem lineFeeds_single {c : Char} {rest : List Char} (h : EndsLine c rest) :
    lineFeeds (c :: rest) = '\n' :: lineFeeds rest := by
  rcases h with rfl | ⟨rfl, hnext⟩
  · simp [lineFeeds]
  · cases rest with
    | nil => simp [lineFeeds]
    | cons d more =>
        have hd : d ≠ '\n' := by simpa using hnext
        simp [lineFeeds, hd]

theorem lineFeeds_inner {c : Char} (hreturn : c ≠ '\r') (rest : List Char) :
    lineFeeds (c :: rest) = c :: lineFeeds rest := by
  simp [lineFeeds, hreturn]

/-- **The lines of a text are those between its line ends, once these are line feeds.** -/
theorem splitLines_eq_splitOn (cs : List Char) : splitLines cs = (lineFeeds cs).splitOn '\n' := by
  induction cs using line_induction with
  | nil => rfl
  | pair rest ih =>
      rw [splitLines, lineFeeds, List.splitOn_cons_eq_if_modifyHead, if_pos (by simp), ih]
  | single c rest hc ih =>
      rw [splitLines_single hc, lineFeeds_single hc, List.splitOn_cons_eq_if_modifyHead,
        if_pos (by simp), ih]
  | inner c rest hreturn hfeed ih =>
      rw [splitLines_inner hreturn hfeed, lineFeeds_inner hreturn,
        List.splitOn_cons_eq_if_modifyHead, if_neg (by simpa using hfeed), ih]

/-- The lines with a line feed between each two are the text with its line ends as line feeds. -/
theorem intercalate_splitLines (cs : List Char) :
    ['\n'].intercalate (splitLines cs) = lineFeeds cs := by
  rw [splitLines_eq_splitOn, List.intercalate_splitOn]

theorem mem_modifyHead_cons {c : Char} {line : List Char} {lines : List (List Char)}
    (h : line ∈ lines.modifyHead (c :: ·)) : line ∈ lines ∨ ∃ l ∈ lines, line = c :: l := by
  cases lines with
  | nil => simp at h
  | cons l more =>
      rcases List.mem_cons.mp h with rfl | hmore
      · exact Or.inr ⟨l, by simp, rfl⟩
      · exact Or.inl (by simp [hmore])

/-- No line end is left in a line. -/
theorem notMem_of_mem_splitLines {cs : List Char} :
    ∀ line ∈ splitLines cs, '\r' ∉ line ∧ '\n' ∉ line := by
  induction cs using line_induction with
  | nil => simp [splitLines]
  | pair rest ih =>
      rw [splitLines, List.forall_mem_cons]
      exact ⟨by simp, ih⟩
  | single c rest hc ih =>
      rw [splitLines_single hc, List.forall_mem_cons]
      exact ⟨by simp, ih⟩
  | inner c rest hreturn hfeed ih =>
      intro line hline
      rw [splitLines_inner hreturn hfeed] at hline
      rcases mem_modifyHead_cons hline with hline | ⟨l, hl, rfl⟩
      · exact ih line hline
      · obtain ⟨hlr, hlf⟩ := ih l hl
        simp only [List.mem_cons, not_or]
        exact ⟨⟨fun h => hreturn h.symm, hlr⟩, fun h => hfeed h.symm, hlf⟩

/-- How often a carriage return stands right before a line feed. -/
def pairedEnds (cs : List Char) : Nat :=
  (cs.zip cs.tail).count ('\r', '\n')

theorem pairedEnds_cons (c : Char) (rest : List Char) :
    pairedEnds (c :: rest)
      = pairedEnds rest + if c = '\r' ∧ rest.head? = some '\n' then 1 else 0 := by
  cases rest with
  | nil => simp [pairedEnds]
  | cons d more => simp [pairedEnds, List.count_cons]

/-- **There is one more line than there are line ends.** -/
theorem length_splitLines (cs : List Char) :
    (splitLines cs).length + pairedEnds cs = cs.count '\r' + cs.count '\n' + 1 := by
  induction cs using line_induction with
  | nil => rfl
  | pair rest ih =>
      simp only [splitLines, pairedEnds_cons, List.length_cons, List.count_cons]
      simp
      omega
  | single c rest hc ih =>
      have hpaired : pairedEnds (c :: rest) = pairedEnds rest := by
        rw [pairedEnds_cons, if_neg]
        · rfl
        · rintro ⟨rfl, hnext⟩
          rcases hc with hc | ⟨-, hc⟩
          · simp at hc
          · exact hc hnext
      have hcount : (c :: rest).count '\r' + (c :: rest).count '\n'
          = rest.count '\r' + rest.count '\n' + 1 := by
        rcases hc with rfl | ⟨rfl, -⟩
        · simp
          omega
        · simp
          omega
      rw [splitLines_single hc, List.length_cons, hpaired]
      omega
  | inner c rest hreturn hfeed ih =>
      rw [splitLines_inner hreturn hfeed, List.length_modifyHead, pairedEnds_cons,
        if_neg (fun h => hreturn h.1), List.count_cons_of_ne (by simpa using hreturn),
        List.count_cons_of_ne (by simpa using hfeed)]
      exact ih

/-! ### Reading markup back -/

/-- Every occurrence of a pattern of the table as the character that it stands for, from the left;
the first `skip` characters belong to the occurrence before them. -/
def replaceFrom (table : List (List Char × Char)) (skip : Nat) : List Char → List Char
  | [] => []
  | c :: rest =>
    match skip with
    | n + 1 => replaceFrom table n rest
    | 0 =>
      match table.find? fun e => e.1.isPrefixOf (c :: rest) with
      | some e => e.2 :: replaceFrom table (e.1.length - 1) rest
      | none => c :: replaceFrom table 0 rest

/-- Every occurrence of a pattern of the table as the character that it stands for. -/
def replaceAll (table : List (List Char × Char)) (cs : List Char) : List Char :=
  replaceFrom table 0 cs

theorem replaceAll_cons {table : List (List Char × Char)} {c : Char}
    (h : ∀ e ∈ table, e.1.head? ≠ some c ∧ e.1 ≠ []) (rest : List Char) :
    replaceAll table (c :: rest) = c :: replaceAll table rest := by
  have hnone : (table.find? fun e => e.1.isPrefixOf (c :: rest)) = none := by
    rw [List.find?_eq_none]
    intro e he
    obtain ⟨hhead, hne⟩ := h e he
    rcases hpattern : e.1 with _ | ⟨d, more⟩
    · exact absurd hpattern hne
    · have hd : d ≠ c := by simpa [hpattern] using hhead
      simp [hd]
  rw [replaceAll, replaceFrom, hnone]
  rfl

/-- Breaks as they are written, and line feeds. -/
def breakMarks : List (List Char × Char) :=
  [(['<', 'b', 'r', '/', '>'], '\n')]

/-- Escapes as they are written, and the characters that they stand for. -/
def escapeMarks : List (List Char × Char) :=
  [(['&', 'l', 't', ';'], '<'), (['&', 'g', 't', ';'], '>'), (['&', 'a', 'm', 'p', ';'], '&')]

/-- Markup of a text as characters: breaks are replaced first, escapes after them. -/
def readBack (cs : List Char) : List Char :=
  replaceAll escapeMarks (replaceAll breakMarks cs)

theorem lt_notMem_escapeChar (c : Char) : '<' ∉ Html.escapeChar c := by
  rcases Html.Lexer.escapeChar_cases c with (rfl | rfl | rfl) | ⟨hself, -, hlt⟩
  · decide
  · decide
  · decide
  · rw [hself]
    simpa using hlt.symm

/-- Nothing in an escaped text is taken for a break. -/
theorem replaceAll_breakMarks_append {cs : List Char} (h : '<' ∉ cs) (rest : List Char) :
    replaceAll breakMarks (cs ++ rest) = cs ++ replaceAll breakMarks rest := by
  induction cs with
  | nil => rfl
  | cons c cs ih =>
      rw [List.mem_cons, not_or] at h
      obtain ⟨hc, hcs⟩ := h
      rw [List.cons_append, replaceAll_cons (by simpa [breakMarks] using hc), ih hcs]
      rfl

theorem replaceAll_escapeChar (c : Char) (rest : List Char) :
    replaceAll escapeMarks (Html.escapeChar c ++ rest) = c :: replaceAll escapeMarks rest := by
  rcases Html.Lexer.escapeChar_cases c with (rfl | rfl | rfl) | ⟨hself, hamp, -⟩
  · rfl
  · rfl
  · rfl
  · rw [hself]
    exact replaceAll_cons (by simpa [escapeMarks] using hamp.symm) rest

theorem replaceAll_escape (cs rest : List Char) :
    replaceAll escapeMarks (Html.escape cs ++ rest) = cs ++ replaceAll escapeMarks rest := by
  induction cs with
  | nil => rfl
  | cons c cs ih =>
      have hsplit : Html.escape (c :: cs) = Html.escapeChar c ++ Html.escape cs :=
        List.flatMap_cons
      rw [hsplit, List.append_assoc, replaceAll_escapeChar, ih]
      rfl

/-- An escaped text is read back as it was. -/
theorem readBack_escape (cs rest : List Char) :
    readBack (Html.escape cs ++ rest) = cs ++ readBack rest := by
  have hlt : '<' ∉ Html.escape cs := by
    intro h
    obtain ⟨c, -, hc⟩ := List.mem_flatMap.mp h
    exact lt_notMem_escapeChar c hc
  rw [readBack, replaceAll_breakMarks_append hlt, replaceAll_escape]
  rfl

theorem readBack_break (rest : List Char) :
    readBack ("<br/>".toList ++ rest) = '\n' :: readBack rest := by
  have hbreak : replaceAll breakMarks ("<br/>".toList ++ rest)
      = '\n' :: replaceAll breakMarks rest := rfl
  rw [readBack, hbreak, replaceAll_cons (by simp [escapeMarks])]
  rfl

/-- **Escaped lines with breaks between them are read back as the lines with line feeds between
them.** -/
theorem readBack_lines (lines : List (List Char)) :
    readBack ("<br/>".toList.intercalate (lines.map Html.escape)) = ['\n'].intercalate lines := by
  induction lines with
  | nil => rfl
  | cons line rest ih =>
      cases rest with
      | nil =>
          have hline : readBack (Html.escape line ++ []) = line ++ readBack [] :=
            readBack_escape line []
          rw [List.append_nil] at hline
          rw [List.map_singleton, List.intercalate_singleton, List.intercalate_singleton, hline]
          exact List.append_nil line
      | cons next more =>
          rw [List.map_cons] at ih
          rw [List.map_cons, List.map_cons, List.intercalate_cons_cons, List.append_assoc,
            readBack_escape, readBack_break, ih, List.intercalate_cons_cons, List.append_assoc]
          rfl

end Text

/-! ### The children of a text -/

/-- Texts and breaks in turn, a text first and a text last. -/
inductive Alternates : List String → List Html → Prop
  | last (line : String) : Alternates [line] [.text line]
  | more {lines : List String} {hs : List Html} (line : String) (h : Alternates lines hs) :
    Alternates (line :: lines) (.text line :: .element "br" [] [] :: hs)

/-- The node is a break. -/
def Html.isBreak : Html → Bool
  | .element name _ _ => name == "br"
  | _ => false

namespace Alternates

variable {lines : List String} {hs : List Html}

theorem of_intersperse (h : lines ≠ []) :
    Alternates lines ((lines.map Html.text).intersperse (.element "br" [] [])) := by
  induction lines with
  | nil => exact absurd rfl h
  | cons line rest ih =>
      cases rest with
      | nil => exact last line
      | cons next more => exact Alternates.more line (ih (by simp))

theorem countP_isBreak (h : Alternates lines hs) : hs.countP Html.isBreak + 1 = lines.length := by
  induction h with
  | last line => rfl
  | more line h ih =>
      have hbreak : Html.isBreak (.element "br" [] []) = true := rfl
      have htext : Html.isBreak (.text line) = false := rfl
      simp [hbreak, htext, ih]

theorem ne_nil (h : Alternates lines hs) : lines ≠ [] := by
  cases h <;> simp

/-- Every text is escaped, and a break is one tag. -/
theorem charsAll_eq (h : Alternates lines hs) :
    Html.charsAll false hs
      = "<br/>".toList.intercalate (lines.map fun line => Html.escape line.toList) := by
  induction h with
  | last line => simp [Html.charsAll, Html.chars]
  | @more lines hs line h ih =>
      obtain ⟨next, rest, rfl⟩ := List.exists_cons_of_ne_nil h.ne_nil
      have hbreak : Html.chars false (.element "br" [] []) = "<br/>".toList := by
        rw [Html.chars, Html.emptyTag, Html.attrsChars, List.mergeSort_nil]
        decide
      simp only [List.map_cons] at ih ⊢
      rw [Html.charsAll, Html.charsAll, hbreak, ih, List.intercalate_cons_cons, List.append_assoc]
      rfl

end Alternates

/-- An element as markup around its content, if it only says where it came from. -/
def elementMarkup (tag origin content : String) : String :=
  "<" ++ tag ++ " data-mfm=\"" ++ origin ++ "\">" ++ content ++ "</" ++ tag ++ ">"

theorem elementMarkup_inj {tag origin content content' : String}
    (h : elementMarkup tag origin content = elementMarkup tag origin content') :
    content = content' := by
  rw [elementMarkup, elementMarkup, String.append_left_inj, String.append_left_inj,
    String.append_left_inj, String.append_right_inj] at h
  exact h

theorem print_textElement (hs : List Html) :
    (Render.element "span" "text" [] hs).print
      = elementMarkup "span" "text" (String.ofList (Html.charsAll false hs)) := by
  have hattrs : Html.attrsChars [("data-mfm", .text "text")] = " data-mfm=\"text\"".toList := by
    rw [Html.attrsChars, List.mergeSort_singleton]
    decide
  have hvoid : (hs.isEmpty && Html.isVoid "span") = false := by
    rw [show Html.isVoid "span" = false by decide, Bool.and_false]
  have hraw : Html.isRawText "span" = false := by decide
  apply String.toList_inj.mp
  rw [Html.print, Render.element, Html.chars, hvoid, Html.startTag, Html.endTag, hattrs, hraw]
  simp [elementMarkup]

/-- The lines of a text, as texts. -/
def Text.lines (text : String) : List String :=
  (Text.splitLines text.toList).map String.ofList

theorem alternates_textChildren (text : String) :
    Alternates (Text.lines text) (Render.textChildren text) := by
  have hne : Text.lines text ≠ [] := by
    intro h
    exact Text.splitLines_ne_nil _ (List.map_eq_nil_iff.mp h)
  have halternates := Alternates.of_intersperse hne
  rwa [Text.lines, List.map_map] at halternates

/-- What is read back from the markup of a text is the text, its line ends as line feeds. -/
theorem readBack_textChildren (text : String) :
    Text.readBack (Html.charsAll false (Render.textChildren text))
      = Text.lineFeeds text.toList := by
  rw [(alternates_textChildren text).charsAll_eq, ← Text.intercalate_splitLines,
    ← Text.readBack_lines, Text.lines, List.map_map]
  congr 3
  funext line
  simp

/-- Texts with the same line feeds have the same children. -/
theorem textChildren_congr {text other : String}
    (h : Text.lineFeeds other.toList = Text.lineFeeds text.toList) :
    Render.textChildren other = Render.textChildren text := by
  rw [Render.textChildren, Text.splitLines_eq_splitOn, h, ← Text.splitLines_eq_splitOn]
  rfl

/-- **A text is cut at its line ends and nowhere else, and can be read back from its markup up to
their spelling.** -/
theorem text_segments (config : Config) (text : String) :
    ∃ (lines : List String) (children : List Html) (content : String),
      Render.leaf config (.text text)
        = .ok (.element "span" [("data-mfm", .text "text")] children) ∧
      Alternates lines children ∧
      (∀ line ∈ lines, '\r' ∉ line.toList ∧ '\n' ∉ line.toList) ∧
      children.countP Html.isBreak + Text.pairedEnds text.toList
        = text.toList.count '\r' + text.toList.count '\n' ∧
      "\n".intercalate lines = String.ofList (Text.lineFeeds text.toList) ∧
      (Html.element "span" [("data-mfm", .text "text")] children).print
        = elementMarkup "span" "text" content ∧
      Text.readBack content.toList = Text.lineFeeds text.toList ∧
      ∀ other, (Render.leaf config (.text other)).map Html.print
          = (Render.leaf config (.text text)).map Html.print ↔
        Text.lineFeeds other.toList = Text.lineFeeds text.toList := by
  have halternates : Alternates (Text.lines text) (Render.textChildren text) :=
    alternates_textChildren text
  refine ⟨Text.lines text, Render.textChildren text, _, rfl, halternates, ?_, ?_, ?_,
    print_textElement _, ?_, ?_⟩
  · intro line hline
    obtain ⟨l, hl, rfl⟩ := List.mem_map.mp hline
    rw [String.toList_ofList]
    exact Text.notMem_of_mem_splitLines l hl
  · have hbreaks := halternates.countP_isBreak
    have hlines := Text.length_splitLines text.toList
    rw [Text.lines, List.length_map] at hbreaks
    omega
  · apply String.toList_inj.mp
    rw [String.toList_intercalate, String.toList_ofList, ← Text.intercalate_splitLines, Text.lines,
      List.map_map]
    simp
  · rw [String.toList_ofList]
    exact readBack_textChildren text
  · intro other
    constructor
    · intro h
      have hprint : (Render.element "span" "text" [] (Render.textChildren other)).print
          = (Render.element "span" "text" [] (Render.textChildren text)).print := Except.ok.inj h
      rw [print_textElement, print_textElement] at hprint
      have hchars := String.ofList_inj.mp (elementMarkup_inj hprint)
      rw [← readBack_textChildren, ← readBack_textChildren, hchars]
    · intro h
      simp only [Render.leaf, textChildren_congr h]

end MfmRender
