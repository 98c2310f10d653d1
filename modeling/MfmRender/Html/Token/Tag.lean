/-
Tags at the front of markup.

A start tag is a name, then attributes with gaps between them, then its end.  A
tag that the end of the markup cuts off, or whose last value is never closed,
gives nothing; one in which a stray character stands is text up to there.  An
end tag that begins with anything but a letter is a comment.
-/
import MfmRender.Html.Token
import MfmRender.Html.Value

namespace MfmRender.Html.Lexer

open Text

/-! ### Start tags -/

/-- A character that ends the name of a tag. -/
def endsTagName (c : Char) : Bool :=
  c == '\t' || c == '\n' || c == '\r' || c == '\x0c' || c == ' ' || c == '/' || c == '>' ||
    c == '\x00'

/-- A blank stands at the front, or a slash that does not close the tag. -/
def opensGap : List Char → Bool
  | [] => false
  | c :: rest => isBlank c || (c == '/' && rest.head? != some '>')

/-- Drop blanks and slashes, but not a slash that closes the tag. -/
def skipGap : List Char → List Char
  | [] => []
  | c :: rest => if opensGap (c :: rest) then skipGap rest else c :: rest

/-- An attribute can begin after `before`: a blank, a slash or a quote. -/
def opensAttribute (before : Char) : Bool :=
  isBlank before || before == '/' || before == '"' || before == '\''

/-- A character that cannot begin the name of an attribute. -/
def closesName (c : Char) : Bool :=
  isBlank c || c == '/' || c == '>'

/-- A character that ends the name of an attribute. -/
def endsName (c : Char) : Bool :=
  closesName c || c == '='

/-- A character that ends a value without quotes. -/
def endsBareValue (c : Char) : Bool :=
  c == '>' || isBlank c

/-- The last of some characters, if there are any. -/
def lastOr (before : Char) (cs : List Char) : Char :=
  cs.getLastD before

/-- A value and what follows it, with the last character before that. -/
structure Valued where
  value : List Char
  before : Char
  rest : List Char

/-- A value without quotes. -/
def bareValue (before : Char) (cs : List Char) : Valued :=
  let value := cs.takeWhile (!endsBareValue ·)
  ⟨value, lastOr before value, cs.dropWhile (!endsBareValue ·)⟩

/-- The value of an attribute after its name, if an equals sign follows and the value is whole.  A
quote that is never closed begins no value: with a blank before it the value is empty, and with
a second equals sign before it that sign begins a bare value. -/
def value? (cs : List Char) : Option Valued :=
  let afterBlanks := cs.dropWhile isBlank
  let signs := afterBlanks.takeWhile (· == '=')
  let afterSigns := afterBlanks.dropWhile (· == '=')
  let start := afterSigns.dropWhile isBlank
  if signs.isEmpty then none
  else
    match start with
    | q :: body =>
      if q == '"' || q == '\'' then
        match cutAt q body with
        | some (value, rest) => some ⟨value, q, rest⟩
        | none =>
          if (afterSigns.head?.map isBlank).getD false then some ⟨[], ' ', start⟩
          else if 1 < signs.length then some (bareValue '=' ('=' :: start))
          else none
      else some (bareValue '=' start)
    | [] => some ⟨[], '=', []⟩

theorem length_skipGap_le (cs : List Char) : (skipGap cs).length ≤ cs.length := by
  fun_induction skipGap cs with
  | case1 => exact Nat.le_refl _
  | case2 c rest _ ih => exact Nat.le_succ_of_le ih
  | case3 c rest _ => exact Nat.le_refl _

theorem length_value {cs : List Char} {v : Valued} (h : value? cs = some v) :
    v.rest.length ≤ cs.length := by
  unfold value? at h
  simp only at h
  have h1 := length_dropWhile_le isBlank cs
  have h2 := length_dropWhile_le (· == '=') (cs.dropWhile isBlank)
  have h3 := length_dropWhile_le isBlank ((cs.dropWhile isBlank).dropWhile (· == '='))
  split at h
  · cases h
  · split at h
    · rename_i q body hs
      rw [hs, List.length_cons] at h3
      split at h
      · split at h
        · rename_i hc
          have := length_cutAt hc
          cases h
          simp only
          omega
        · split at h
          · cases h
            simp only [hs, List.length_cons]
            omega
          · split at h
            · cases h
              simp only [bareValue]
              have := length_dropWhile_le (!endsBareValue ·) (q :: body)
              rw [hs, List.dropWhile_cons_of_pos (by decide)]
              simp only [List.length_cons] at this
              omega
            · cases h
      · cases h
        simp only [bareValue]
        have := length_dropWhile_le (!endsBareValue ·) (q :: body)
        rw [hs]
        simp only [List.length_cons] at this
        omega
    · cases h
      simp

/-- How a start tag goes on after its name: attributes, then the end of the tag. -/
inductive TagEnd where
  /-- The tag ends, closed by a slash or not. -/
  | complete (closed : Bool) (rest : List Char)
  /-- The markup ends first, or a value never does. -/
  | incomplete
  /-- A character that cannot stand in a tag; what follows begins with it. -/
  | stray (rest : List Char)

/-- The end of a tag where no further attribute begins. -/
def tagEnd : List Char → TagEnd
  | '>' :: rest => .complete false rest
  | '/' :: '>' :: rest => .complete true rest
  | [] => .incomplete
  | c :: rest => if c.isAlpha || c == '=' || c == '/' then .incomplete else .stray (c :: rest)

/-- The last character before what follows a gap that begins after `before`; all that counts of
the gap is that it separates. -/
def afterGap (before : Char) (cs : List Char) : Char :=
  if opensGap cs then ' ' else before

/-- The attributes after `before`, as they are written, and the end of the tag. -/
def attributes (before : Char) (cs : List Char) : List (List Char × List Char) × TagEnd :=
  match cs with
  | c :: tail =>
    if opensAttribute before && !closesName c then
      let name := c :: tail.takeWhile (!endsName ·)
      let afterName := tail.dropWhile (!endsName ·)
      match _hv : value? afterName with
      | some v =>
        let found := attributes (afterGap v.before v.rest) (skipGap v.rest)
        ((name, v.value) :: found.1, found.2)
      | none =>
        let found := attributes (afterGap (lastOr before name) afterName) (skipGap afterName)
        ((name, []) :: found.1, found.2)
    else ([], tagEnd cs)
  | [] => ([], .incomplete)
termination_by cs.length
decreasing_by
  · have h1 : afterName.length ≤ tail.length := length_dropWhile_le (!endsName ·) tail
    have h2 := length_value _hv
    have h3 := length_skipGap_le v.rest
    simp only [List.length_cons]
    omega
  · have h1 := length_dropWhile_le (!endsName ·) tail
    have h3 := length_skipGap_le (tail.dropWhile (!endsName ·))
    simp only [List.length_cons]
    omega

/-- The written attributes with names lowered and values decoded. -/
def decodeAttributes : List (List Char × List Char) → Except Rejection (List (String × String))
  | [] => .ok []
  | (name, value) :: more =>
    match Value.decode value with
    | .error e => .error e
    | .ok v => (decodeAttributes more).map fun as => (lowerName name, String.ofList v) :: as

/-- The end of a tag lies in what was to be read. -/
def TagEnd.Within (n : Nat) : TagEnd → Prop
  | .complete _ rest => rest.length ≤ n
  | .incomplete => True
  | .stray rest => rest.length ≤ n

theorem TagEnd.Within.mono {m n : Nat} (h : m ≤ n) {e : TagEnd} (he : e.Within m) : e.Within n := by
  cases e <;> simp_all [Within] <;> omega

theorem within_tagEnd (cs : List Char) : (tagEnd cs).Within cs.length := by
  unfold tagEnd
  split
  · simp [TagEnd.Within]
  · simp [TagEnd.Within]; omega
  · trivial
  · split <;> simp [TagEnd.Within]

theorem within_attributes (before : Char) (cs : List Char) :
    (attributes before cs).2.Within cs.length := by
  fun_induction attributes before cs with
  | case1 before c tail h name afterName v hv found ih =>
    have h1 : afterName.length ≤ tail.length := length_dropWhile_le (!endsName ·) tail
    have h2 := length_value hv
    have h3 := length_skipGap_le v.rest
    exact ih.mono (by simp only [List.length_cons]; omega)
  | case2 before c tail h name afterName hv found ih =>
    have h1 : afterName.length ≤ tail.length := length_dropWhile_le (!endsName ·) tail
    have h3 := length_skipGap_le afterName
    exact ih.mono (by simp only [List.length_cons]; omega)
  | case3 => exact within_tagEnd _
  | case4 => trivial

/-- A start tag; `cs` begins with the letter after the angle bracket, and `whole` with the
bracket. -/
def startTag? (whole cs : List Char) (h : cs.length < whole.length) :
    Except Rejection (Option (Found whole)) :=
  let name := cs.takeWhile (!endsTagName ·)
  let afterName := cs.dropWhile (!endsTagName ·)
  let found := attributes (afterGap (lastOr '<' name) afterName) (skipGap afterName)
  have hw : found.2.Within cs.length :=
    (within_attributes _ _).mono
      (Nat.le_trans (length_skipGap_le _) (length_dropWhile_le (!endsTagName ·) cs))
  match he : found.2 with
  | .incomplete => .ok none
  | .stray rest =>
    have hr : rest.length ≤ cs.length := by rw [he] at hw; exact hw
    .ok (some ([.text (whole.take (whole.length - rest.length))], ⟨rest, by omega⟩))
  | .complete closed rest =>
    have hr : rest.length ≤ cs.length := by rw [he] at hw; exact hw
    match decodeAttributes found.1 with
    | .error e => .error e
    | .ok attrs => .ok (some ([.startTag (lowerName name) attrs closed], ⟨rest, by omega⟩))

/-! ### End tags -/

/-- A character of the name in a plain end tag. -/
def isEndNameChar (c : Char) : Bool :=
  c.isAlphanum || c == '-' || c == '.' || c == ':' || c == '_'

/-- The name of a plain end tag up to its closing bracket: blanks may stand around it. -/
def plainEnd? (cs : List Char) : Option (List Char × List Char) :=
  match cs.dropWhile isBlank with
  | [] => none
  | c :: tail =>
    if c.isAlpha then
      match (tail.dropWhile isEndNameChar).dropWhile isBlank with
      | '>' :: rest => some (c :: tail.takeWhile isEndNameChar, rest)
      | _ => none
    else none

theorem length_plainEnd {cs name rest : List Char} (h : plainEnd? cs = some (name, rest)) :
    rest.length < cs.length := by
  unfold plainEnd? at h
  have h1 := length_dropWhile_le isBlank cs
  split at h
  · cases h
  · rename_i c tail hc
    rw [hc, List.length_cons] at h1
    split at h
    · have h2 := length_dropWhile_le isEndNameChar tail
      have h3 := length_dropWhile_le isBlank (tail.dropWhile isEndNameChar)
      split at h
      · rename_i rest' hr
        rw [hr, List.length_cons] at h3
        cases h
        omega
      · cases h
    · cases h

/-- An end tag; `cs` follows the slash. -/
def endTag? (cs : List Char) : Option (Found cs) :=
  match hp : plainEnd? cs with
  | some (name, rest) => some ([.endTag (lowerName name)], ⟨rest, length_plainEnd hp⟩)
  | none =>
    match hc : cutAt '>' cs with
    | none => none
    | some (inside, rest) =>
      let found := if (inside.head?.map Char.isAlpha).getD false then
          [.endTag (lowerName (inside.takeWhile (!endsTagName ·)))]
        else if inside.isEmpty then []
        else [.aside .comment inside]
      some (found, ⟨rest, length_cutAt_close hc⟩)

end MfmRender.Html.Lexer
