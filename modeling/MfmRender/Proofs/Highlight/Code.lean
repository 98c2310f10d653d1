/-
Highlighting writes all of the code, and what it writes can be read.

Each of the four languages cuts the code into tokens by rules of its own, and a
rule that dropped or doubled a character would show in no other place.  So for
each it is proved that the tokens, put together, are the code
(`flatMap_text_tokens`); this takes lines that are all ended, which the common
form of code sees to.  From there on the languages are alike: characters with
their classes make runs, and the runs of code hold the code.

The markup of any code is therefore that of its runs, and it is read as them.  It
is never rejected, whatever the code holds (`parse_markup`).
-/
import MfmRender.Proofs.Highlight.Runs

namespace MfmRender.Highlight

open Html

theorem normalize_eq (code : List Char) : ∃ cs, normalize code = cs ++ ['\n'] :=
  ⟨_, rfl⟩

/-! ### Tokens hold the code -/

theorem flatMap_lines_go (cs : List Char) :
    ∀ line : List Char, (lines.go line (cs ++ ['\n'])).flatMap (· ++ ['\n'])
      = line.reverse ++ cs ++ ['\n'] := by
  induction cs with
  | nil => intro line; simp [lines.go]
  | cons c cs ih =>
      intro line
      by_cases hc : c = '\n'
      · subst hc
        have hgo : lines.go line ('\n' :: cs ++ ['\n'])
            = line.reverse :: lines.go [] (cs ++ ['\n']) := rfl
        rw [hgo, List.flatMap_cons, ih]
        simp
      · have hgo : lines.go line (c :: cs ++ ['\n']) = lines.go (c :: line) (cs ++ ['\n']) := by
          rw [List.cons_append, lines.go.eq_3 _ _ _ hc]
        rw [hgo, ih]
        simp

theorem flatMap_text_lineTokens (line : List Char) :
    (lineTokens line).flatMap Token.text = line := by
  unfold lineTokens
  split <;> simp

theorem flatMap_text_diffTokens (cs : List Char) :
    (diffTokens (cs ++ ['\n'])).flatMap Token.text = cs ++ ['\n'] := by
  have hline : ∀ line, (lineTokens line ++ [(⟨.space, ['\n']⟩ : Token)]).flatMap Token.text
      = line ++ ['\n'] := by
    intro line
    rw [List.flatMap_append, flatMap_text_lineTokens]
    rfl
  rw [diffTokens, List.flatMap_assoc]
  simp only [hline]
  exact flatMap_lines_go cs []

namespace JsonLexeme

theorem flatMap_text_all (cs : List Char) : (all cs).flatMap Token.text = cs := by
  fun_induction all cs with
  | case1 => rfl
  | case2 c rest ih => rw [List.flatMap_cons, ih, append_first]

theorem map_text_nameKeys (ts : List Token) :
    (nameKeys ts).1.map Token.text = ts.map Token.text := by
  induction ts with
  | nil => rfl
  | cons t ts ih =>
    rcases hrest : nameKeys ts with ⟨named, colon⟩
    rw [hrest] at ih
    simp only [nameKeys, hrest]
    split
    · cases colon <;> simpa using ih
    all_goals simpa using ih

end JsonLexeme

theorem flatMap_text_jsonTokens (cs : List Char) : (jsonTokens cs).flatMap Token.text = cs := by
  rw [jsonTokens, List.flatMap_def, JsonLexeme.map_text_nameKeys, ← List.flatMap_def,
    JsonLexeme.flatMap_text_all]

/-- In every language the tokens of lines that are all ended hold these lines. -/
theorem flatMap_text_tokens (language : Language) (cs : List Char) :
    (language.tokens (cs ++ ['\n'])).flatMap Token.text = cs ++ ['\n'] := by
  cases language with
  | text => simp [Language.tokens]
  | output => simp [Language.tokens]
  | diff => exact flatMap_text_diffTokens cs
  | json => exact flatMap_text_jsonTokens _

theorem map_snd_classed (ts : List Token) : (classed ts).map Prod.snd = ts.flatMap Token.text := by
  simp [classed, List.map_flatMap, Function.comp_def]

/-! ### The runs of code -/

/-- The runs that code of some language is written as. -/
def codeRuns (code : String) (lang : Option String) : List Token :=
  runs (written (classed ((Language.ofName (lang.getD "")).tokens (normalize code.toList))))

theorem apart_codeRuns (code : String) (lang : Option String) : Apart (codeRuns code lang) :=
  apart_runs _

theorem map_snd_written (ps : List (TokenClass × Char)) :
    (written ps).map Prod.snd = ps.map Prod.snd := by
  simp [written]

/-- **The runs of code hold the code in its common form.** -/
theorem flatMap_text_codeRuns (code : String) (lang : Option String) :
    (codeRuns code lang).flatMap Token.text = normalize code.toList := by
  obtain ⟨cs, hcs⟩ := normalize_eq code.toList
  rw [codeRuns, flatMap_text_runs, map_snd_written, map_snd_classed, hcs, flatMap_text_tokens]

theorem markup_eq (code : String) (lang : Option String) :
    markup code lang = String.ofList ((codeRuns code lang).flatMap writeRun) := by
  obtain ⟨cs, hcs⟩ := normalize_eq code.toList
  have hended : (classed ((Language.ofName (lang.getD "")).tokens (normalize code.toList))).map
      Prod.snd = cs ++ ['\n'] := by
    rw [map_snd_classed, hcs, flatMap_text_tokens]
  rw [codeRuns, ← paint_eq hended]
  rfl

/-- **Coloured code is never rejected: it is read as its runs, those that are nothing but space
shrunk.** -/
theorem parse_markup (code : String) (lang : Option String) :
    Html.parse (markup code lang)
      = .ok (((codeRuns code lang).map (kept false)).map runHtml) := by
  have hnil : Lexer.tokensFrom false [] = .ok [] := by rw [Lexer.tokensFrom.eq_def]
  have htokens := tokensFrom_writeRuns (codeRuns code lang) []
  rw [List.append_nil, hnil] at htokens
  have hread := parse_of_tokens (allPrintable_runs (codeRuns code lang))
    (htokens.trans (congrArg Except.ok (List.append_nil _)))
  rw [markup_eq, hread, settledAll_runs false (apart_codeRuns code lang)]

end MfmRender.Highlight
