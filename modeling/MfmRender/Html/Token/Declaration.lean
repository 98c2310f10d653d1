/-
Comments, declarations and marked sections at the front of markup.

A marked section begins with a keyword, which says how it ends; a section with
another keyword, or with none, is refused.  What is cut off by the end of the
markup gives nothing.
-/
import MfmRender.Html.Token
import MfmRender.Html.Value
import MfmRender.Text.Case

namespace MfmRender.Html.Lexer

open Text

/-- Two hyphens, blanks and a bracket. -/
def commentEnd? : List Char → Option (List Char)
  | '-' :: '-' :: cs =>
    match cs.dropWhile isBlank with
    | '>' :: rest => some rest
    | _ => none
  | _ => none

/-- A square bracket, blanks and a bracket. -/
def shortSectionEnd? : List Char → Option (List Char)
  | ']' :: cs =>
    match cs.dropWhile isBlank with
    | '>' :: rest => some rest
    | _ => none
  | _ => none

/-- Two square brackets and a bracket, with blanks between. -/
def sectionEnd? : List Char → Option (List Char)
  | ']' :: cs => shortSectionEnd? (cs.dropWhile isBlank)
  | _ => none

theorem length_commentEnd (cs after : List Char) (h : commentEnd? cs = some after) :
    after.length < cs.length := by
  unfold commentEnd? at h
  split at h
  · rename_i cs
    have h1 := length_dropWhile_le isBlank cs
    split at h
    · rename_i rest hr
      rw [hr, List.length_cons] at h1
      cases h
      simp only [List.length_cons]
      omega
    · cases h
  · cases h

theorem length_shortSectionEnd (cs after : List Char) (h : shortSectionEnd? cs = some after) :
    after.length < cs.length := by
  unfold shortSectionEnd? at h
  split at h
  · rename_i cs
    have h1 := length_dropWhile_le isBlank cs
    split at h
    · rename_i rest hr
      rw [hr, List.length_cons] at h1
      cases h
      simp only [List.length_cons]
      omega
    · cases h
  · cases h

theorem length_sectionEnd (cs after : List Char) (h : sectionEnd? cs = some after) :
    after.length < cs.length := by
  unfold sectionEnd? at h
  split at h
  · rename_i cs
    have h1 := length_dropWhile_le isBlank cs
    have h2 := length_shortSectionEnd _ _ h
    simp only [List.length_cons]
    omega
  · cases h

/-- A character of the keyword of a marked section. -/
def isKeywordChar (c : Char) : Bool :=
  c.isAlphanum || c == '-' || c == '_' || c == '.'

/-- How a marked section with some keyword ends. -/
def sectionEndFor? (keyword : String) : Option (List Char → Option (List Char)) :=
  if ["temp", "cdata", "ignore", "include", "rcdata"].contains keyword then some sectionEnd?
  else if ["if", "else", "endif"].contains keyword then some shortSectionEnd?
  else none

theorem length_sectionEndFor {keyword : String} {close? : List Char → Option (List Char)}
    (h : sectionEndFor? keyword = some close?) (cs after : List Char)
    (ha : close? cs = some after) : after.length < cs.length := by
  unfold sectionEndFor? at h
  split at h
  · cases h
    exact length_sectionEnd cs after ha
  · split at h
    · cases h
      exact length_shortSectionEnd cs after ha
    · cases h

/-- The content of a marked section; one that is opened as character data is that. -/
def sectionToken (content : List Char) : Token :=
  match dropFolded? "cdata[".toList content with
  | some data => .aside .characterData data
  | none => .aside .declaration content

/-- A marked section; `cs` follows its square bracket, and `whole` begins at the angle bracket. -/
def markedSection? (whole cs : List Char) : Except Rejection (Option (Found cs)) :=
  match cs with
  | [] => .ok none
  | c :: tail =>
    if c.isAlpha then
      let word := c :: tail.takeWhile isKeywordChar
      let afterWord := tail.dropWhile isKeywordChar
      if (afterWord.dropWhile isBlank).isEmpty then .ok none
      else
        match hk : sectionEndFor? (lowerName word) with
        | none =>
          .error (.unknownSection (String.ofList (word ++ afterWord.takeWhile isBlank)))
        | some close? =>
          match hc : cutWhere close? (c :: tail) with
          | none => .ok none
          | some (content, rest) =>
            .ok (some ([sectionToken content],
              ⟨rest, length_cutWhere (length_sectionEndFor hk) hc⟩))
    else .error (.sectionWithoutName (String.ofList (whole.take 20)))

/-- A declaration; `cs` follows the exclamation mark, and `whole` begins at the angle bracket. -/
def declaration? (whole cs : List Char) : Except Rejection (Option (Found cs)) :=
  match cs with
  | '[' :: inner =>
    match markedSection? whole inner with
    | .error e => .error e
    | .ok none => .ok none
    | .ok (some (ts, ⟨rest, h⟩)) => .ok (some (ts, ⟨rest, Nat.lt_succ_of_lt h⟩))
  | '-' :: '-' :: inner =>
    match hc : cutWhere commentEnd? inner with
    | none => .ok none
    | some (content, rest) =>
      .ok (some ([.aside .comment content],
        ⟨rest, by have := length_cutWhere length_commentEnd hc; simp only [List.length_cons]; omega⟩))
  | cs =>
    match hc : cutAt '>' cs with
    | none => .ok none
    | some (content, rest) =>
      let token := if (dropFolded? "doctype".toList content).isSome then
          Token.aside .doctype (content.drop 8)
        else .aside .comment content
      .ok (some ([token], ⟨rest, length_cutAt_close hc⟩))

end MfmRender.Html.Lexer
