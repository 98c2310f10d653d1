/-
Coloured markup is a row of runs, and is read back as one.

The painter goes through the code character by character and remembers which
span is open.  What it writes is described here without that memory: neighbouring
characters of one class are one run, a line feed belongs to no class, and the
markup is that of the runs one after another (`paint_eq`).  The two meet in
`resume`, the markup of runs where one may be open already: a character either
joins the first run or is a run before it, and the painter decides in the same
way.

A run is text or a span around text, and the reader of markup takes it for that,
since the five escapes leave nothing in it that could begin anything else
(`tokensFrom_writeRun`).  That neighbours differ in class is what keeps the runs
apart when the tree is built: two bare texts side by side would become one.  All
that reading changes is text that is nothing but space, which is shrunk, each run
for itself (`settledAll_runs`).
-/
import MfmRender.Highlight.Markup
import MfmRender.Proofs.Containment

namespace MfmRender.Highlight

open Html Html.Lexer Text

/-! ### Runs -/

/-- The class that a character is written in: a line feed stands outside all spans. -/
def writtenClass (cls : TokenClass) (c : Char) : TokenClass :=
  if c = '\n' then .plain else cls

/-- Characters with the classes that they are written in. -/
def written (ps : List (TokenClass × Char)) : List (TokenClass × Char) :=
  ps.map fun p => (writtenClass p.1 p.2, p.2)

/-- A character put before some runs. -/
def extend (cls : TokenClass) (c : Char) : List Token → List Token
  | t :: more =>
    if t.cls = cls then ⟨cls, c :: t.text⟩ :: more else ⟨cls, [c]⟩ :: t :: more
  | [] => [⟨cls, [c]⟩]

/-- Neighbouring characters of one class as one run. -/
def runs : List (TokenClass × Char) → List Token
  | [] => []
  | (cls, c) :: rest => extend cls c (runs rest)

/-- A run as markup. -/
def writeRun (t : Token) : List Char :=
  openRun t.cls ++ t.text.flatMap escapeChar ++ closeRun t.cls

/-- Runs as markup where a run is open already. -/
def resume (run : Option TokenClass) : List Token → List Char
  | t :: more =>
    if run = some t.cls then t.text.flatMap escapeChar ++ closeRun t.cls ++ more.flatMap writeRun
    else closeOpen run ++ (t :: more).flatMap writeRun
  | [] => closeOpen run

/-- One more character in front goes into the open run or ends it. -/
theorem resume_extend (run : Option TokenClass) (cls : TokenClass) (c : Char) (ts : List Token) :
    resume run (extend cls c ts)
      = (if run = some cls then [] else closeOpen run ++ openRun cls)
        ++ escapeChar c ++ resume (some cls) ts := by
  by_cases hrun : run = some cls
  · cases ts with
    | nil => simp [extend, resume, hrun, closeOpen]
    | cons t more =>
      by_cases ht : t.cls = cls
      · simp [extend, resume, hrun, ht]
      · simp [extend, resume, hrun, ht, Ne.symm ht, closeOpen]
  · cases ts with
    | nil => simp [extend, resume, hrun, closeOpen, writeRun]
    | cons t more =>
      by_cases ht : t.cls = cls
      · simp [extend, resume, hrun, ht, writeRun]
      · simp [extend, resume, hrun, ht, Ne.symm ht, closeOpen, writeRun]

theorem resume_plain (ts : List Token) : resume (some .plain) ts = ts.flatMap writeRun := by
  cases ts with
  | nil => rfl
  | cons t more =>
    by_cases ht : t.cls = .plain
    · simp [resume, ht, writeRun, openRun]
    · simp [resume, Ne.symm ht, closeOpen, closeRun]

theorem resume_none (ts : List Token) : resume none ts = ts.flatMap writeRun := by
  cases ts <;> simp [resume, closeOpen]

/-- What `paint` writes for one character: the tags between it and the run before, then the
character. -/
theorem paint_cons (run : Option TokenClass) (cls : TokenClass) (c : Char)
    (rest : List (TokenClass × Char)) :
    paint run ((cls, c) :: rest)
      = (if run = some (writtenClass cls c) then []
          else closeOpen run ++ openRun (writtenClass cls c))
        ++ escapeChar c ++ paint (if c = '\n' then none else some cls) rest := by
  by_cases hc : c = '\n'
  · subst hc
    have hplain : writtenClass cls '\n' = .plain := rfl
    have hescape : escapeChar '\n' = ['\n'] := rfl
    have hpaint : paint run ((cls, '\n') :: rest) = closeOpen run ++ '\n' :: paint none rest := rfl
    rw [hpaint, hplain, hescape, if_pos rfl]
    by_cases hrun : run = some .plain
    · simp [hrun, closeOpen, closeRun]
    · simp [hrun, openRun]
  · have hclass : writtenClass cls c = cls := if_neg hc
    rw [hclass, if_neg hc, paint, if_neg (by simpa using hc)]
    by_cases hrun : run = some cls
    · simp [hrun]
    · simp [hrun]

/-- The painter goes on as the runs do, whatever run is open.  The last character is a line feed,
since only then is nothing left to close. -/
theorem paint_eq_resume (ps : List (TokenClass × Char)) (cls : TokenClass) :
    ∀ run : Option TokenClass,
      paint run (ps ++ [(cls, '\n')]) = resume run (runs (written (ps ++ [(cls, '\n')]))) := by
  induction ps with
  | nil =>
      intro run
      have hruns : runs (written [(cls, '\n')]) = extend .plain '\n' [] := rfl
      rw [List.nil_append, hruns, resume_extend, paint_cons, resume_plain]
      rfl
  | cons p ps ih =>
      intro run
      obtain ⟨k, c⟩ := p
      have hruns : runs (written ((k, c) :: ps ++ [(cls, '\n')]))
          = extend (writtenClass k c) c (runs (written (ps ++ [(cls, '\n')]))) := rfl
      rw [hruns, resume_extend, List.cons_append, paint_cons, ih]
      by_cases hc : c = '\n'
      · subst hc
        have hplain : writtenClass k '\n' = .plain := rfl
        rw [hplain, if_pos rfl, resume_plain, resume_none]
      · have hclass : writtenClass k c = k := if_neg hc
        rw [hclass, if_neg hc]

/-- Lines that are all ended are written run by run. -/
theorem paint_eq {ps : List (TokenClass × Char)} {cs : List Char}
    (h : ps.map Prod.snd = cs ++ ['\n']) :
    paint none ps = (runs (written ps)).flatMap writeRun := by
  obtain ⟨qs, last, rfl, -, hlast⟩ := List.map_eq_append_iff.mp h
  obtain ⟨⟨cls, c⟩, rfl, hc⟩ := List.map_eq_singleton_iff.mp hlast
  obtain rfl : c = '\n' := hc
  rw [paint_eq_resume, resume_none]

/-! ### Runs apart -/

/-- Runs as they are made: none is empty, and neighbours differ in class. -/
inductive Apart : List Token → Prop
  | nil : Apart []
  | cons {t : Token} {ts : List Token} (nonempty : t.text ≠ [])
      (differs : ∀ u ∈ ts.head?, t.cls ≠ u.cls) (rest : Apart ts) : Apart (t :: ts)

theorem Apart.extend {ts : List Token} (h : Apart ts) (cls : TokenClass) (c : Char) :
    Apart (extend cls c ts) := by
  cases h with
  | nil => exact Apart.cons (by simp) (by simp) Apart.nil
  | @cons t more hne hdiffers hrest =>
    by_cases ht : t.cls = cls
    · rw [Highlight.extend, if_pos ht, ← ht]
      exact Apart.cons (by simp) hdiffers hrest
    · rw [Highlight.extend, if_neg ht]
      refine Apart.cons (by simp) ?_ (Apart.cons hne hdiffers hrest)
      simpa using Ne.symm ht

theorem apart_runs (ps : List (TokenClass × Char)) : Apart (runs ps) := by
  induction ps with
  | nil => exact Apart.nil
  | cons p ps ih => exact ih.extend p.1 p.2

theorem flatMap_text_extend (cls : TokenClass) (c : Char) (ts : List Token) :
    (extend cls c ts).flatMap Token.text = c :: ts.flatMap Token.text := by
  cases ts with
  | nil => rfl
  | cons t more =>
    by_cases ht : t.cls = cls <;> simp [extend, ht]

/-- Runs hold the characters that they were made of. -/
theorem flatMap_text_runs (ps : List (TokenClass × Char)) :
    (runs ps).flatMap Token.text = ps.map Prod.snd := by
  induction ps with
  | nil => rfl
  | cons p ps ih => rw [runs, flatMap_text_extend, ih, List.map_cons]

/-! ### Runs are read back -/

/-- A run as the node that it is read as: a span that names the class, or bare text. -/
def runHtml (t : Token) : Html :=
  if t.cls = .plain then .text (String.ofList t.text)
  else .element "span" [("class", .names [t.cls.cssName])] [.text (String.ofList t.text)]

theorem runHtml_plain {t : Token} (h : t.cls = .plain) :
    runHtml t = .text (String.ofList t.text) :=
  if_pos h

theorem runHtml_coloured {t : Token} (h : t.cls ≠ .plain) :
    runHtml t
      = .element "span" [("class", .names [t.cls.cssName])] [.text (String.ofList t.text)] :=
  if_neg h

theorem printable_span (cls : TokenClass) (children : List Html) :
    Printable "span" [("class", .names [cls.cssName])] children := by
  have hvoid : isVoid "span" = false := by decide
  refine printable_element (by decide) ?_ (by simp [hvoid])
  show ["class"].Sublist documentAttributes
  decide

theorem allPrintable_runHtml (t : Token) : AllPrintable [runHtml t] := by
  by_cases h : t.cls = .plain
  · rw [runHtml_plain h]
    exact allPrintable_text _
  · rw [runHtml_coloured h]
    exact allPrintable_element (printable_span t.cls _) (allPrintable_text _)

theorem allPrintable_runs (ts : List Token) : AllPrintable (ts.map runHtml) := by
  induction ts with
  | nil => exact allPrintable_nil
  | cons t ts ih => exact allPrintable_cons.mpr ⟨allPrintable_runHtml t, ih⟩

/-- The five escapes stand for the characters they escape. -/
theorem faithful_escapeChar : Faithful escapeChar := by
  intro ended c rest
  by_cases hesc : c = '&' ∨ c = '<' ∨ c = '>' ∨ c = '"' ∨ c = '\''
  · rcases hesc with rfl | rfl | rfl | rfl | rfl
    · exact tokensFrom_reference ended (h := by simp; omega) rfl
    · exact tokensFrom_reference ended (h := by simp; omega) rfl
    · exact tokensFrom_reference ended (h := by simp; omega) rfl
    · exact tokensFrom_reference ended (h := by simp; omega) rfl
    · exact tokensFrom_reference ended (h := by simp; omega) rfl
  · have hself : escapeChar c = [c] := by
      simp only [not_or] at hesc
      simp [escapeChar, hesc]
    rw [hself]
    exact tokensFrom_char ended (fun h => hesc (by simp [h])) (fun h => hesc (by simp [h])) rest

/-- The tags of a run are those of its span. -/
theorem openRun_append {cls : TokenClass} (h : cls ≠ .plain) (rest : List Char) :
    openRun cls ++ rest = '<' :: ("span".toList ++ afterTagName
      (List.mergeSort [("class", .names [cls.cssName])] fun a b => decide (a.1 ≤ b.1))
      false rest) := by
  rw [List.mergeSort_singleton]
  cases cls <;> first | exact absurd rfl h | rfl

theorem closeRun_append {cls : TokenClass} (h : cls ≠ .plain) (rest : List Char) :
    closeRun cls ++ rest = '<' :: '/' :: ("span".toList ++ '>' :: rest) := by
  cases cls <;> first | exact absurd rfl h | rfl

/-- A run is cut into the tokens of its node. -/
theorem tokensFrom_writeRun (ended : Bool) (t : Token) (rest : List Char) :
    tokensFrom ended (writeRun t ++ rest)
      = (tokensFrom ended rest).map (Html.tokens (runHtml t) ++ ·) := by
  rw [writeRun, List.append_assoc, List.append_assoc]
  by_cases h : t.cls = .plain
  · rw [runHtml_plain h, h]
    show tokensFrom ended (t.text.flatMap escapeChar ++ rest) = _
    rw [tokensFrom_flatMap faithful_escapeChar]
    simp [Html.tokens]
  · have hel := printable_span t.cls [.text (String.ofList t.text)]
    obtain ⟨hlt, hend⟩ := tag_endTag hel.tagName rest
    rw [runHtml_coloured h, openRun_append h, closeRun_append h, tokensFrom_startTag hel,
      tokensFrom_flatMap faithful_escapeChar, tokensFrom_tag ended hend rfl, map_append_tokens,
      map_append_tokens]
    have hvoid : isVoid "span" = false := by decide
    simp [Html.tokens, tokensAll, hvoid]

theorem tokensFrom_writeRuns (ts : List Token) (rest : List Char) :
    tokensFrom false (ts.flatMap writeRun ++ rest)
      = (tokensFrom false rest).map (tokensAll (ts.map runHtml) ++ ·) := by
  induction ts with
  | nil => cases h : tokensFrom false rest <;> simp [tokensAll, h, Except.map]
  | cons t ts ih =>
    rw [List.flatMap_cons, List.append_assoc, tokensFrom_writeRun, ih, map_append_tokens]
    rfl

/-- A run as it is kept where every space counts or not. -/
def kept (keep : Bool) (t : Token) : Token :=
  ⟨t.cls, if keep then t.text else Fragment.shrink t.text⟩

theorem ofList_ne_empty {cs : List Char} (h : cs ≠ []) : String.ofList cs ≠ "" := by
  intro heq
  exact h (by simpa using congrArg String.toList heq)

theorem joined_runHtml {t : Token} (h : t.text ≠ []) : joined (runHtml t) = runHtml t := by
  by_cases hplain : t.cls = .plain
  · rw [runHtml_plain hplain]
    rfl
  · rw [runHtml_coloured hplain]
    simp [joined, joinedAll, joinTexts, ofList_ne_empty h]

theorem joinedAll_runs {ts : List Token} (h : Apart ts) :
    joinedAll (ts.map runHtml) = ts.map runHtml := by
  induction h with
  | nil => rfl
  | cons hne _ _ ih => rw [List.map_cons, joinedAll, joined_runHtml hne, ih]

/-- No two bare texts stand side by side, since neighbours differ in class. -/
theorem joinTexts_runs {ts : List Token} (h : Apart ts) :
    joinTexts (ts.map runHtml) = ts.map runHtml := by
  induction h with
  | nil => rfl
  | @cons t ts hne hdiffers _ ih =>
    by_cases hplain : t.cls = .plain
    · rw [List.map_cons, runHtml_plain hplain]
      cases ts with
      | nil => simp [joinTexts, ofList_ne_empty hne]
      | cons u more =>
        have hu : u.cls ≠ .plain := by
          intro h
          exact hdiffers u rfl (hplain.trans h.symm)
        have hnext : ∀ s, runHtml u ≠ .text s := by simp [runHtml_coloured hu]
        have hrest : joinTexts ((u :: more).map runHtml) = runHtml u :: joinTexts (more.map runHtml) := by
          rw [List.map_cons, runHtml_coloured hu]
          rfl
        rw [List.map_cons, joinTexts_text_cons _ hnext, if_neg (ofList_ne_empty hne), ← hrest, ih]
        rfl
    · rw [List.map_cons, runHtml_coloured hplain, joinTexts, ih]
      simp

/-- The name of a class is one word, so reading keeps it whole. -/
theorem settledAttributes_class {cls : TokenClass} (h : cls ≠ .plain) :
    settledAttributes "span" [("class", .names [cls.cssName])]
      = [("class", .names [cls.cssName])] := by
  rw [settledAttributes, List.mergeSort_singleton]
  cases cls <;> first | exact absurd rfl h | rfl

theorem settled_runHtml (keep : Bool) (t : Token) :
    settled keep (runHtml t) = runHtml (kept keep t) := by
  have htext : settledText keep (String.ofList t.text) = String.ofList (kept keep t).text := by
    cases keep <;> simp [settledText, kept]
  by_cases hplain : t.cls = .plain
  · rw [runHtml_plain hplain, runHtml_plain (t := kept keep t) hplain, settled, htext]
  · have hkeeps : keepsSpace (lowerName "span".toList) = false := by decide
    have hname : lowerName "span".toList = "span" := by decide
    rw [runHtml_coloured hplain, runHtml_coloured (t := kept keep t) hplain, settled, hkeeps,
      hname, settledAttributes_class hplain, Bool.or_false]
    simp only [settledAll, settled, htext]
    rfl

theorem settledAll_map_runHtml (keep : Bool) (ts : List Token) :
    settledAll keep (ts.map runHtml) = (ts.map (kept keep)).map runHtml := by
  induction ts with
  | nil => rfl
  | cons t ts ih => simp only [List.map_cons, settledAll, settled_runHtml, ih]

/-- Runs that are apart are kept one by one. -/
theorem settledAll_runs (keep : Bool) {ts : List Token} (h : Apart ts) :
    settledAll keep (joinTexts (joinedAll (ts.map runHtml)))
      = (ts.map (kept keep)).map runHtml := by
  rw [joinedAll_runs h, joinTexts_runs h, settledAll_map_runHtml]

/-! ### Runs that were read -/

theorem shrink_of_space {cs : List Char} (h : cs.all isMarkupSpace = true) :
    Fragment.shrink cs = if cs.contains '\n' then ['\n'] else [' '] :=
  if_pos h

theorem shrink_of_not_space {cs : List Char} (h : cs.all isMarkupSpace = false) :
    Fragment.shrink cs = cs :=
  if_neg (by simp [h])

theorem shrink_ne_nil {cs : List Char} (h : cs ≠ []) : Fragment.shrink cs ≠ [] := by
  cases hspace : cs.all isMarkupSpace with
  | false =>
      rw [shrink_of_not_space hspace]
      exact h
  | true =>
      rw [shrink_of_space hspace]
      split <;> simp

theorem shrink_shrink (cs : List Char) :
    Fragment.shrink (Fragment.shrink cs) = Fragment.shrink cs := by
  cases hspace : cs.all isMarkupSpace with
  | false => rw [shrink_of_not_space hspace, shrink_of_not_space hspace]
  | true =>
      rw [shrink_of_space hspace]
      split <;> decide

/-- What has been read once is not changed when it is read again, whether spaces count or not. -/
theorem kept_kept (keep : Bool) (t : Token) : kept keep (kept false t) = kept false t := by
  cases keep with
  | true => rfl
  | false => simp [kept, shrink_shrink]

theorem Apart.map_kept {ts : List Token} (h : Apart ts) (keep : Bool) :
    Apart (ts.map (kept keep)) := by
  induction h with
  | nil => exact Apart.nil
  | @cons t ts hne hdiffers _ ih =>
    refine Apart.cons ?_ ?_ ih
    · cases keep with
      | true => exact hne
      | false => exact shrink_ne_nil hne
    · intro u hu
      rw [List.head?_map] at hu
      obtain ⟨v, hv, rfl⟩ := Option.map_eq_some_iff.mp hu
      exact hdiffers v hv

end MfmRender.Highlight
