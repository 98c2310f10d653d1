/-
Coloured code as markup.

Every character of the code is written escaped.  On each line, neighbouring
characters of one class share a span that names the class; plain code stands
without one, and no span reaches over the end of a line.
-/
import MfmRender.Highlight.Diff
import MfmRender.Highlight.Json
import MfmRender.Text.Blank
import MfmRender.Text.Case

namespace MfmRender.Highlight

inductive Language where
  | text
  | output
  | diff
  | json
  deriving Repr, DecidableEq

/-- A name as languages are looked up by it: without the blanks around it, in small letters. -/
def Language.key (name : String) : String :=
  String.ofList (Text.lower (Text.trim name.toList))

/-- The language that a name stands for.  Plain text, output, the difference of two texts and JSON
are described here.  Any other name is taken for plain text, as one is that no highlighter knows;
where a highlighter knows a further language by it, nothing is said about that language. -/
def Language.ofName (name : String) : Language :=
  let key := Language.key name
  if key == "output" then .output
  else if key == "diff" || key == "udiff" then .diff
  else if key == "json" || key == "json-object" then .json
  else .text

/-- The names of the languages that are described. -/
def Language.names : List String :=
  ["text", "output", "diff", "udiff", "json", "json-object"]

/-- The tokens of code in its common form. -/
def Language.tokens (code : List Char) : Language → List Token
  | text => [⟨.plain, code⟩]
  | output => [⟨.output, code⟩]
  | diff => diffTokens code
  | json => jsonTokens code

/-- One character of code in markup. -/
def escapeChar (c : Char) : List Char :=
  if c == '&' then "&amp;".toList
  else if c == '<' then "&lt;".toList
  else if c == '>' then "&gt;".toList
  else if c == '"' then "&quot;".toList
  else if c == '\'' then "&#39;".toList
  else [c]

/-- The tag that begins a run of a class. -/
def openRun (cls : TokenClass) : List Char :=
  if cls == .plain then [] else "<span class=\"".toList ++ cls.cssName.toList ++ "\">".toList

/-- The tag that ends a run of a class. -/
def closeRun (cls : TokenClass) : List Char :=
  if cls == .plain then [] else "</span>".toList

/-- The tag that ends the open run, if there is one. -/
def closeOpen : Option TokenClass → List Char
  | none => []
  | some cls => closeRun cls

/-- Characters with their classes as markup, where `run` is the class of the run that is open. -/
def paint (run : Option TokenClass) : List (TokenClass × Char) → List Char
  | [] =>
    match run with
    | none => []
    | some cls => closeRun cls ++ ['\n']
  | (cls, c) :: rest =>
    if c == '\n' then closeOpen run ++ '\n' :: paint none rest
    else if run == some cls then escapeChar c ++ paint run rest
    else closeOpen run ++ openRun cls ++ escapeChar c ++ paint (some cls) rest

/-- The characters of some tokens, each with its class. -/
def classed (ts : List Token) : List (TokenClass × Char) :=
  ts.flatMap fun t => t.text.map fun c => (t.cls, c)

/-- Code of some language as coloured markup. -/
def markup (code : String) (lang : Option String) : String :=
  let language := Language.ofName (lang.getD "")
  String.ofList (paint none (classed (language.tokens (normalize code.toList))))

end MfmRender.Highlight
