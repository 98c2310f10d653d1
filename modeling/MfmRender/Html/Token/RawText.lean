/-
The text of an element in which markup counts for nothing.

Only the end tag of the element itself ends its text.
-/
import MfmRender.Html.Token
import MfmRender.Text.Case

namespace MfmRender.Html.Lexer

open Text

/-- The end tag of a raw text element at the front, with what follows it.  Letters outside ASCII
that fold to those of the name stop the text too, but do not end the element: the flag says
whether the name is spelled in ASCII. -/
def rawEnd? (name : List Char) : List Char → Option (Bool × List Char)
  | '<' :: '/' :: cs =>
    let start := cs.dropWhile isBlank
    match dropFolded? name start with
    | none => none
    | some more =>
      match more.dropWhile isBlank with
      | '>' :: rest => some ((start.take name.length).all (·.val < 0x80), rest)
      | _ => none
  | _ => none

/-- The text of a raw text element, and what follows its end tag.  Without an end tag the text
after the last thing that stopped it is lost. -/
def rawText (name : List Char) : List Char → List Char × Option (List Char)
  | [] => ([], none)
  | c :: tail =>
    match rawEnd? name (c :: tail) with
    | some (true, rest) => ([], some rest)
    | some (false, rest) =>
      match rawText name tail with
      | ([], none) => ((c :: tail).take ((c :: tail).length - rest.length), none)
      | (kept, after) => (c :: kept, after)
    | none =>
      match rawText name tail with
      | ([], none) => ([], none)
      | (kept, after) => (c :: kept, after)

theorem length_dropFolded {word cs rest : List Char} (h : dropFolded? word cs = some rest) :
    rest.length ≤ cs.length := by
  fun_induction dropFolded? word cs with
  | case1 => cases h; exact Nat.le_refl _
  | case2 => cases h
  | case3 _ _ _ _ _ ih => exact Nat.le_succ_of_le (ih h)
  | case4 => cases h

theorem length_rawEnd {name cs rest : List Char} {plain : Bool}
    (h : rawEnd? name cs = some (plain, rest)) : rest.length < cs.length := by
  unfold rawEnd? at h
  split at h
  · rename_i cs
    have h1 := length_dropWhile_le isBlank cs
    simp only at h
    split at h
    · cases h
    · rename_i more hm
      have h2 := length_dropFolded hm
      have h3 := length_dropWhile_le isBlank more
      split at h
      · rename_i rest' hr
        rw [hr, List.length_cons] at h3
        cases h
        simp only [List.length_cons]
        omega
      · cases h
  · cases h

theorem length_rawText {name cs rest : List Char} (h : (rawText name cs).2 = some rest) :
    rest.length < cs.length := by
  fun_induction rawText name cs generalizing rest with
  | case1 => cases h
  | case2 c tail after hc => cases h; exact length_rawEnd hc
  | case3 => cases h
  | case4 c tail after hc kept last hne hk ih =>
    exact Nat.lt_succ_of_lt (ih (by rw [hk]; exact h))
  | case5 => cases h
  | case6 c tail hc kept last hne hk ih =>
    exact Nat.lt_succ_of_lt (ih (by rw [hk]; exact h))

end MfmRender.Html.Lexer
