/-
Colouring of differences between files.

Each line has a class by how it begins: a line taken away or put in, a heading,
or one that is shown with a space before it because it stayed the same.
-/
import MfmRender.Highlight.Token
import MfmRender.Text.Digit

namespace MfmRender.Highlight

open Text (isDecimalDigit)

/-- Digits at the front, at least one, and what follows them. -/
def number? (cs : List Char) : Option (List Char) :=
  match cs.dropWhile isDecimalDigit with
  | rest => if rest.length < cs.length then some rest else none

/-- A comma and a number at the front may be passed over. -/
def rangeEnd (cs : List Char) : List Char :=
  match cs with
  | ',' :: rest => (number? rest).getD cs
  | _ => cs

/-- A line that is a command to change lines: a line number of one digit, a letter for what
happens, and another line number; both may be the begin of a range. -/
def isCommand (line : List Char) : Bool :=
  match line with
  | d :: rest =>
    isDecimalDigit d &&
      match rangeEnd rest with
      | c :: more =>
        (c == 'a' || c == 'c' || c == 'd') &&
          match number? more with
          | some after => (rangeEnd after).isEmpty
          | none => false
      | [] => false
  | [] => false

/-- The class of a line that does not begin with a space. -/
def lineClass (line : List Char) : TokenClass :=
  let begins (word : String) := word.toList.isPrefixOf line
  if begins "!" || line == "---".toList then .strong
  else if begins "< " || begins "-" then .deleted
  else if begins "> " || begins "+" then .inserted
  else if begins "@" || isCommand line then .subheading
  else if begins "index" || begins "Index" || begins "diff" || begins "=" then .heading
  else .plain

/-- The tokens of a line, without the line feed that ends it. -/
def lineTokens (line : List Char) : List Token :=
  match line with
  | ' ' :: rest => [⟨.space, [' ']⟩, ⟨.plain, rest⟩]
  | _ => [⟨lineClass line, line⟩]

/-- The lines of a text in which a line feed ends each; what follows the last is a line too, unless
it is empty. -/
def lines (cs : List Char) : List (List Char) :=
  let rec go (line : List Char) : List Char → List (List Char)
    | [] => if line.isEmpty then [] else [line.reverse]
    | '\n' :: rest => line.reverse :: go [] rest
    | c :: rest => go (c :: line) rest
  go [] cs

/-- The tokens of a difference between files. -/
def diffTokens (code : List Char) : List Token :=
  (lines code).flatMap fun line => lineTokens line ++ [⟨.space, ['\n']⟩]

end MfmRender.Highlight
