/-
Coloured code.

Highlighting cuts code into tokens, each of a class that a style sheet may
colour.  The code is brought into a common form first: line ends are line
feeds, none stand at either end but the one that closes the last line.
-/
import MfmRender.Text.Blank

namespace MfmRender.Highlight

/-- The class of a token. -/
inductive TokenClass where
  | plain
  | space
  | output
  | strong
  | deleted
  | inserted
  | subheading
  | heading
  | punctuation
  | key
  | string
  | integer
  | float
  | constant
  | lineComment
  | blockComment
  | error
  deriving Repr, DecidableEq

/-- The name of the class in a style sheet; plain code has none. -/
def TokenClass.cssName : TokenClass → String
  | plain => ""
  | space => "w"
  | output => "go"
  | strong => "gs"
  | deleted => "gd"
  | inserted => "gi"
  | subheading => "gu"
  | heading => "gh"
  | punctuation => "p"
  | key => "nt"
  | string => "s2"
  | integer => "mi"
  | float => "mf"
  | constant => "kc"
  | lineComment => "c1"
  | blockComment => "cm"
  | error => "err"

/-- A piece of code and its class. -/
structure Token where
  cls : TokenClass
  text : List Char
  deriving Repr, DecidableEq

/-- Code in its common form: without a byte order mark, with line feeds only, without empty lines
at its ends, and with a line feed after its last line. -/
def normalize (code : List Char) : List Char :=
  let stripped := (Text.lineFeeds (Text.dropMark code)).dropWhile (· == '\n')
  Text.dropWhileEnd (· == '\n') stripped ++ ['\n']

end MfmRender.Highlight
