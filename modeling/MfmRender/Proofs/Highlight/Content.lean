/-
How much of the code is left when it has been coloured.

Colouring writes every character of the code once and in its place: the runs of
code, put together, are the code in its common form (`flatMap_text_codeRuns`).
What changes it is that the markup is read again, for reading shrinks text that
is nothing but space.  The tree of an element in which every space counts is
built around the code only afterwards, so it is of no help, and the indentation
of a line is lost where it is a run of its own, and so are empty lines between
two runs.

So the question whether the code is kept is one about single runs.  Each can
become shorter but never longer, therefore no run makes up for what another has
lost, and the text of the element is the code exactly if every run lasts.  What
is lost is space in any case.
-/
import MfmRender.Proofs.Highlight.Inert

namespace MfmRender

open Html Text

/-! ### Text in trees -/

namespace Html

mutual

/-- The text in a node; asides have none. -/
def textContent : Html → List Char
  | .text s => s.toList
  | .aside .. => []
  | .element _ _ hs => textContentAll hs

/-- The text in some nodes in a row. -/
def textContentAll : List Html → List Char
  | [] => []
  | h :: rest => textContent h ++ textContentAll rest

end

end Html

namespace Highlight

theorem textContent_runHtml (t : Token) : textContent (runHtml t) = t.text := by
  by_cases h : t.cls = .plain
  · rw [runHtml_plain h, textContent, String.toList_ofList]
  · rw [runHtml_coloured h, textContent, textContentAll, textContentAll, textContent,
      String.toList_ofList, List.append_nil]

theorem textContentAll_runs (ts : List Token) :
    textContentAll (ts.map runHtml) = ts.flatMap Token.text := by
  induction ts with
  | nil => rfl
  | cons t ts ih => rw [List.map_cons, textContentAll, textContent_runHtml, ih, List.flatMap_cons]

/-! ### Text that lasts -/

/-- Text that is read as it stands: it holds more than space, or it is a single space or line
feed. -/
def Lasting (cs : List Char) : Prop :=
  (cs.any fun c => !isMarkupSpace c) = true ∨ cs = [' '] ∨ cs = ['\n']

instance (cs : List Char) : Decidable (Lasting cs) :=
  inferInstanceAs (Decidable (_ ∨ _))

theorem length_shrink_le {cs : List Char} (h : cs ≠ []) :
    (Fragment.shrink cs).length ≤ cs.length := by
  cases hspace : cs.all isMarkupSpace with
  | false => exact Nat.le_of_eq (congrArg List.length (shrink_of_not_space hspace))
  | true =>
      have hpos : 1 ≤ cs.length := List.length_pos_iff.mpr h
      rw [shrink_of_space hspace]
      split <;> exact hpos

theorem shrink_eq_self_iff {cs : List Char} (hne : cs ≠ []) :
    Fragment.shrink cs = cs ↔ Lasting cs := by
  unfold Lasting
  cases hspace : cs.all isMarkupSpace with
  | false =>
      have hmore : (cs.any fun c => !isMarkupSpace c) = true := by
        rw [List.any_eq_not_all_not]
        simpa using hspace
      simp [shrink_of_not_space hspace, hmore]
  | true =>
      have hno : (cs.any fun c => !isMarkupSpace c) = false := by
        rw [List.any_eq_not_all_not]
        simpa using hspace
      rw [shrink_of_space hspace, hno]
      by_cases hfeed : cs.contains '\n' = true
      · have hother : cs ≠ [' '] := by
          rintro rfl
          exact absurd hfeed (by decide)
        rw [if_pos hfeed]
        simp [hother, eq_comm]
      · have hother : cs ≠ ['\n'] := by
          rintro rfl
          exact absurd rfl hfeed
        rw [if_neg hfeed]
        simp [hother, eq_comm]

/-- Nothing but space is lost. -/
theorem filter_shrink (cs : List Char) :
    (Fragment.shrink cs).filter (fun c => !isMarkupSpace c)
      = cs.filter fun c => !isMarkupSpace c := by
  cases hspace : cs.all isMarkupSpace with
  | false => rw [shrink_of_not_space hspace]
  | true =>
      have hnone : cs.filter (fun c => !isMarkupSpace c) = [] := by
        simpa [List.filter_eq_nil_iff] using hspace
      rw [shrink_of_space hspace, hnone]
      split <;> decide

/-! ### Runs that last -/

/-- What is read of some runs. -/
def readText (ts : List Token) : List Char :=
  ts.flatMap fun t => Fragment.shrink t.text

theorem flatMap_text_kept (ts : List Token) :
    (ts.map (kept false)).flatMap Token.text = readText ts := by
  rw [List.flatMap_map]
  rfl

theorem filter_readText (ts : List Token) :
    (readText ts).filter (fun c => !isMarkupSpace c)
      = (ts.flatMap Token.text).filter fun c => !isMarkupSpace c := by
  induction ts with
  | nil => rfl
  | cons t ts ih =>
    have hcons : readText (t :: ts) = Fragment.shrink t.text ++ readText ts := rfl
    rw [hcons, List.flatMap_cons, List.filter_append, List.filter_append, filter_shrink, ih]

theorem length_readText_le {ts : List Token} (h : ∀ t ∈ ts, t.text ≠ []) :
    (readText ts).length ≤ (ts.flatMap Token.text).length := by
  induction ts with
  | nil => exact Nat.le_refl _
  | cons t ts ih =>
    have hcons : readText (t :: ts) = Fragment.shrink t.text ++ readText ts := rfl
    have hfirst := length_shrink_le (h t List.mem_cons_self)
    have hrest := ih fun u hu => h u (List.mem_cons_of_mem t hu)
    rw [hcons, List.flatMap_cons, List.length_append, List.length_append]
    omega

/-- No run makes up for what another loses, since none becomes longer. -/
theorem readText_eq_iff {ts : List Token} (h : ∀ t ∈ ts, t.text ≠ []) :
    readText ts = ts.flatMap Token.text ↔ ∀ t ∈ ts, Lasting t.text := by
  induction ts with
  | nil => simp [readText]
  | cons t ts ih =>
    have hfirst : t.text ≠ [] := h t List.mem_cons_self
    have hothers : ∀ u ∈ ts, u.text ≠ [] := fun u hu => h u (List.mem_cons_of_mem t hu)
    have hcons : readText (t :: ts) = Fragment.shrink t.text ++ readText ts := rfl
    rw [hcons, List.flatMap_cons, List.forall_mem_cons, ← shrink_eq_self_iff hfirst,
      ← ih hothers]
    constructor
    · intro heq
      -- Neither side of the cut can be longer than it was, so the cut is at the same place.
      have hlength := congrArg List.length heq
      rw [List.length_append, List.length_append] at hlength
      have hle := length_shrink_le hfirst
      have hrest := length_readText_le hothers
      exact List.append_inj heq (by omega)
    · rintro ⟨hfirst, hrest⟩
      rw [hfirst, hrest]

theorem Apart.text_ne_nil {ts : List Token} (h : Apart ts) : ∀ t ∈ ts, t.text ≠ [] := by
  induction h with
  | nil => simp
  | cons hne _ _ ih => exact List.forall_mem_cons.mpr ⟨hne, ih⟩

end Highlight

/-! ### Code in documents -/

/-- **Where code is coloured, the text of the element around it is the code in its common form
exactly if no run of the code is space that shrinks, and but for space it is the code in any
case.** -/
theorem highlighted_text {config : Config} (hcolour : config.highlightCode = true)
    (ns : List Node) :
    ∃ hs, Render.document config ns = .ok (Render.element config.rootTagName "root" [] hs) ∧
      (Node.shownAll ns hs).map Prod.fst = Node.preorderAll ns ∧
      ∀ code lang h, (.leaf (.blockCode code lang), h) ∈ Node.shownAll ns hs →
        ∃ content, h = codeElement config (codeAttributes lang) content ∧
          textContentAll content = Highlight.readText (Highlight.codeRuns code lang) ∧
          (Highlight.codeRuns code lang).flatMap Highlight.Token.text
            = Highlight.normalize code.toList ∧
          (textContentAll content = Highlight.normalize code.toList ↔
            ∀ t ∈ Highlight.codeRuns code lang, Highlight.Lasting t.text) ∧
          (textContentAll content).filter (fun c => !isMarkupSpace c)
            = (Highlight.normalize code.toList).filter fun c => !isMarkupSpace c := by
  obtain ⟨hs, hdoc, hlisted, hshowns⟩ := highlighted_shown hcolour ns
  refine ⟨hs, hdoc, hlisted, ?_⟩
  intro code lang h hshown
  have hruns := Highlight.flatMap_text_codeRuns code lang
  refine ⟨_, hshowns code lang h hshown, ?_, hruns, ?_, ?_⟩
  all_goals rw [Highlight.textContentAll_runs, Highlight.flatMap_text_kept]
  · rw [← hruns]
    exact Highlight.readText_eq_iff (Highlight.apart_codeRuns code lang).text_ne_nil
  · rw [Highlight.filter_readText, hruns]

/-- A line that begins with a single space is kept. -/
theorem highlighted_text_oneSpace :
    ∃ content,
      Render.document { highlightCode := true } [.leaf (.blockCode "[\n 1]" (some "json"))]
        = .ok (Render.element "p" "root" []
            [codeElement { highlightCode := true } (codeAttributes (some "json")) content]) ∧
      textContentAll content = Highlight.normalize "[\n 1]".toList := by
  obtain ⟨hs, hdoc, -, htext⟩ := @highlighted_text { highlightCode := true } rfl
    [.leaf (.blockCode "[\n 1]" (some "json"))]
  obtain ⟨-, hrule⟩ := Render.document_eq_ok_iff.mp hdoc
  obtain ⟨-, -, rfl⟩ := Html.element.inj hrule
  obtain ⟨content, hshown, -, -, hkept, -⟩ := htext _ _ _ (List.mem_singleton.mpr rfl)
  refine ⟨content, ?_, hkept.mpr (by decide +kernel)⟩
  rw [hdoc, ← hshown]
  rfl

/-- A line that begins with two spaces is left with one of them. -/
theorem indentation_lost :
    ∃ content,
      Render.document { highlightCode := true } [.leaf (.blockCode "[\n  1]" (some "json"))]
        = .ok (Render.element "p" "root" []
            [codeElement { highlightCode := true } (codeAttributes (some "json")) content]) ∧
      textContentAll content = "[\n 1]\n".toList ∧
      Highlight.normalize "[\n  1]".toList = "[\n  1]\n".toList := by
  refine ⟨codeRule { highlightCode := true } "[\n  1]" (some "json"), ?_, ?_, by decide⟩
  · exact Render.document_eq_ok_iff.mpr ⟨Node.accepted_of_highlightCode rfl _, rfl⟩
  · rw [codeRule_highlighted rfl, Highlight.textContentAll_runs, Highlight.flatMap_text_kept]
    decide +kernel

end MfmRender
