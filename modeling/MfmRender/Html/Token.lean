/-
The tokens of markup, and cutting it where something ends.

Markup is cut into text, tags and asides.  Reading fails only at a marked
section whose keyword is not known, and at a number with more digits than are
read.

Every reader of markup gives what it took from the front and the rest, and the
rest is shorter: this is what makes reading end.  The lemmas here say so of the
two ways of cutting.
-/
import MfmRender.Html.Basic
import MfmRender.Text.Blank
import MfmRender.Text.Case
import MfmRender.Text.Digit
import MfmRender.Text.Quoted

namespace MfmRender.Html

inductive Token where
  | text (cs : List Char)
  | startTag (name : String) (attrs : List (String × String)) (closed : Bool)
  | endTag (name : String)
  | aside (kind : AsideKind) (content : List Char)
  deriving Repr

/-- Why markup cannot be read. -/
inductive Rejection where
  /-- A marked section with an unknown keyword. -/
  | unknownSection (keyword : String)
  /-- A marked section without a keyword; the text shows where. -/
  | sectionWithoutName (near : String)
  /-- A character reference with more decimal digits than are read. -/
  | tooManyDigits (count : Nat)
  deriving Repr, DecidableEq

def Rejection.reason : Rejection → String
  | unknownSection keyword => "unknown status keyword " ++ Text.quoted keyword ++ " in marked section"
  | sectionWithoutName near => "expected name token at " ++ Text.quoted near
  | tooManyDigits n => tooManyDigitsMessage n

end MfmRender.Html

namespace MfmRender.Html.Lexer

open Text

/-- A name in lower case. -/
def lowerName (cs : List Char) : String :=
  String.ofList (lower cs)

/-- Tokens, and the rest of the markup after them. -/
abbrev Found (cs : List Char) := List Token × { rest : List Char // rest.length < cs.length }

/-- What stands before the first `stop`, and what follows it. -/
def cutAt (stop : Char) : List Char → Option (List Char × List Char)
  | [] => none
  | c :: rest =>
    if c == stop then some ([], rest)
    else (cutAt stop rest).map fun (before, after) => (c :: before, after)

/-- What stands before the first place where `match?` finds something, and what follows that. -/
def cutWhere (match? : List Char → Option (List Char)) : List Char →
    Option (List Char × List Char)
  | [] => none
  | c :: rest =>
    match match? (c :: rest) with
    | some after => some ([], after)
    | none => (cutWhere match? rest).map fun (before, after) => (c :: before, after)

theorem length_cutAt {stop : Char} {cs before after : List Char}
    (h : cutAt stop cs = some (before, after)) : after.length < cs.length := by
  induction cs generalizing before after with
  | nil => simp [cutAt] at h
  | cons c rest ih =>
    unfold cutAt at h
    split at h
    · simp only [Option.some.injEq, Prod.mk.injEq] at h
      simp [← h.2]
    · cases hr : cutAt stop rest with
      | none => simp [hr] at h
      | some r =>
        simp only [hr, Option.map_some, Option.some.injEq, Prod.mk.injEq] at h
        have shorter : r.2.length < rest.length := ih (by rw [hr])
        rw [← h.2, List.length_cons]
        omega

/-- What follows the end of a tag. -/
theorem length_cutAt_close {cs before after : List Char}
    (h : cutAt '>' cs = some (before, after)) : after.length < cs.length :=
  length_cutAt h

theorem length_cutWhere {match? : List Char → Option (List Char)}
    (hm : ∀ cs after, match? cs = some after → after.length < cs.length)
    {cs before after : List Char} (h : cutWhere match? cs = some (before, after)) :
    after.length < cs.length := by
  induction cs generalizing before after with
  | nil => simp [cutWhere] at h
  | cons c rest ih =>
    unfold cutWhere at h
    split at h
    · rename_i found
      simp only [Option.some.injEq, Prod.mk.injEq] at h
      have := hm _ _ found
      rw [← h.2]
      exact this
    · cases hr : cutWhere match? rest with
      | none => simp [hr] at h
      | some r =>
        simp only [hr, Option.map_some, Option.some.injEq, Prod.mk.injEq] at h
        have shorter : r.2.length < rest.length := ih (by rw [hr])
        rw [← h.2, List.length_cons]
        omega

end MfmRender.Html.Lexer
