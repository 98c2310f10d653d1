/-
Cutting markup into tokens.

The text is gone through from the front.  Whatever does not begin a tag, an
aside or a reference is text.  A construct that the end of the markup cuts off
is noticed where it begins; from there on the lexer knows that the end has been
seen, and such a construct is text up to the next place where something new can
begin.

Inside an element of raw text only its own end tag counts, and if there is none
the rest is lost.
-/
import MfmRender.Html.Token.Declaration
import MfmRender.Html.Token.RawText
import MfmRender.Html.Token.Reference
import MfmRender.Html.Token.Tag

namespace MfmRender.Html.Lexer

open Text

/-- What an angle bracket begins; `tail` follows it. -/
def tag? (tail : List Char) : Except Rejection (Option (Found ('<' :: tail))) :=
  match tail with
  | [] => .ok none
  | '/' :: cs =>
    .ok ((endTag? cs).map fun (ts, ⟨rest, h⟩) => (ts, ⟨rest, by simp only [List.length_cons]; omega⟩))
  | '!' :: cs =>
    match declaration? ('<' :: '!' :: cs) cs with
    | .error e => .error e
    | .ok none => .ok none
    | .ok (some (ts, ⟨rest, h⟩)) =>
      .ok (some (ts, ⟨rest, by simp only [List.length_cons]; omega⟩))
  | '?' :: cs =>
    match hc : cutAt '>' cs with
    | none => .ok none
    | some (content, rest) =>
      .ok (some ([.aside .instruction content],
        ⟨rest, by have := length_cutAt hc; simp only [List.length_cons]; omega⟩))
  | c :: cs =>
    if c.isAlpha then startTag? ('<' :: c :: cs) (c :: cs) (by simp)
    else .ok (some ([.text ['<']], ⟨c :: cs, by simp⟩))

/-- What a cut-off construct is read as; `tail` follows its angle bracket.  It is text through the
next closing bracket, or up to the next opening one, or else the bracket alone is text. -/
def cutOff (tail : List Char) : Found ('<' :: tail) :=
  match hc : cutAt '>' tail with
  | some (before, rest) =>
    ([.text ('<' :: before ++ ['>'])], ⟨rest, Nat.lt_succ_of_lt (length_cutAt hc)⟩)
  | none =>
    match hd : tail.dropWhile (· != '<') with
    | [] => ([.text ['<']], ⟨tail, by simp⟩)
    | next => ([.text ('<' :: tail.takeWhile (· != '<'))],
        ⟨next, by have := length_dropWhile_le (· != '<') tail; rw [hd] at this; simp; omega⟩)

/-- The name of the raw text element that some tokens open. -/
def opensRaw? : List Token → Option String
  | [.startTag name _ false] => if isRawText name then some name else none
  | _ => none

/-- Text as a token, unless there is none. -/
def textToken : List Char → List Token
  | [] => []
  | cs => [.text cs]

/-- The tokens of markup; `ended` says that the end of the markup has been seen. -/
def tokensFrom (ended : Bool) (cs : List Char) : Except Rejection (List Token) :=
  match cs with
  | [] => .ok []
  | '<' :: tail =>
    match tag? tail with
    | .error e => .error e
    | .ok (some (ts, ⟨rest, _shorter⟩)) =>
      match opensRaw? ts with
      | none => (tokensFrom ended rest).map (ts ++ ·)
      | some name =>
        match hr : rawText name.toList rest with
        | (inside, none) => .ok (ts ++ textToken inside)
        | (inside, some after) =>
          (tokensFrom ended after).map (ts ++ textToken inside ++ .endTag name :: ·)
    | .ok none =>
      if ended then
        (tokensFrom true (cutOff tail).2.1).map ((cutOff tail).1 ++ ·)
      else tokensFrom true ('<' :: tail)
  | '&' :: tail =>
    match reference tail with
    | .error e => .error e
    | .ok (.text cs rest _) => (tokensFrom ended rest).map (.text cs :: ·)
    | .ok (.numberSign rest _) =>
      if ended then .ok (.text ['&', '#'] :: textToken rest)
      else (tokensFrom true rest).map (.text ['&', '#'] :: ·)
    | .ok .cutOff =>
      if ended then .ok (textToken (leftover ('&' :: tail))) else tokensFrom true ('&' :: tail)
  | c :: tail => (tokensFrom ended tail).map (.text [c] :: ·)
termination_by 2 * cs.length + (if ended then 0 else 1)
decreasing_by
  · simp only [List.length_cons] at _shorter ⊢
    omega
  · have : after.length < rest.length := length_rawText (congrArg Prod.snd hr)
    simp only [List.length_cons] at _shorter ⊢
    omega
  · have := (cutOff tail).2.2
    simp only [List.length_cons] at this ⊢
    split <;> omega
  · rename_i h
    simp [h]
  · simp only [List.length_cons]
    omega
  · rename_i h
    simp only [List.length_cons, h]
    simp
    omega
  · rename_i h
    simp [h]
  · simp only [List.length_cons]
    omega

end MfmRender.Html.Lexer

namespace MfmRender.Html

/-- The tokens of markup. -/
def Token.ofMarkup (cs : List Char) : Except Rejection (List Token) :=
  Lexer.tokensFrom false cs

end MfmRender.Html
