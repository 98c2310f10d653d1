/-
Colouring of JSON.

The code need not be JSON: runs of characters that could belong to a number, a
constant or punctuation are tokens as they stand, and anything else is an
error.  A text is a key if a colon follows it, where space, comments and
further texts are looked through; otherwise it is a value.
-/
import MfmRender.Highlight.Token
import MfmRender.Text.Digit

namespace MfmRender.Highlight

namespace JsonLexeme

def isSpace (c : Char) : Bool :=
  c == ' ' || c == '\n' || c == '\r' || c == '\t'

/-- A character of a constant: one of the letters of `true`, `false` and `null`. -/
def isConstantChar (c : Char) : Bool :=
  "truefalsn".toList.contains c

/-- A character of a whole number. -/
def isIntegerChar (c : Char) : Bool :=
  c == '-' || c.isDigit

/-- A character that only numbers that are not whole have. -/
def isFloatChar (c : Char) : Bool :=
  c == '.' || c == 'e' || c == 'E' || c == '+'

def isNumberChar (c : Char) : Bool :=
  isIntegerChar c || isFloatChar c

def isPunctuation (c : Char) : Bool :=
  c == '{' || c == '}' || c == '[' || c == ']' || c == ','

/-- What an escape still expects. -/
inductive Escape where
  | none
  | letter
  | digits (left : Nat)

/-- What the next character makes of an escape; `none` as a result of all is that the character
stands outside escapes. -/
def Escape.next (c : Char) : Escape → Escape
  | none => if c == '\\' then letter else none
  | letter => if c == 'u' then digits 4 else none
  | digits (n + 2) => if Text.isHexDigit c then digits (n + 1) else none
  | digits _ => none

/-- The rest of a text after its opening quote, its closing quote included, and what follows; there
is nothing if it is never closed. -/
def stringEnd? (e : Escape) : List Char → Option (List Char × List Char)
  | [] => none
  | c :: rest =>
    match e with
    | .none =>
      if c == '"' then some (['"'], rest)
      else (stringEnd? (e.next c) rest).map fun (s, after) => (c :: s, after)
    | _ => (stringEnd? (e.next c) rest).map fun (s, after) => (c :: s, after)

/-- The rest of a block comment after its opening, its closing included, and what follows. -/
def commentEnd? : List Char → Option (List Char × List Char)
  | [] => none
  | '*' :: '/' :: rest => some (['*', '/'], rest)
  | c :: rest => (commentEnd? rest).map fun (s, after) => (c :: s, after)

/-- The lexeme at the front of code, never empty, and what follows. -/
def first (c : Char) (rest : List Char) : Token × List Char :=
  let run (cls : TokenClass) (p : Char → Bool) : Token × List Char :=
    (⟨cls, c :: rest.takeWhile p⟩, rest.dropWhile p)
  if c == '"' then
    match stringEnd? .none rest with
    | some (s, after) => (⟨.string, c :: s⟩, after)
    | none => (⟨.error, c :: rest⟩, [])
  else if isSpace c then run .space isSpace
  else if c == 'f' || c == 'n' || c == 't' then run .constant isConstantChar
  else if isIntegerChar c then
    run (if (rest.takeWhile isNumberChar).any isFloatChar then .float else .integer) isNumberChar
  else if c == ':' || isPunctuation c then run .punctuation isPunctuation
  else if c == '/' then
    match rest with
    | '/' :: _ => run .lineComment (· != '\n')
    | '*' :: inside =>
      match commentEnd? inside with
      | some (s, after) => (⟨.blockComment, c :: '*' :: s⟩, after)
      | none => (⟨.error, c :: rest⟩, [])
    | _ => (⟨.error, [c]⟩, rest)
  else (⟨.error, [c]⟩, rest)

theorem append_stringEnd {e : Escape} {cs s after : List Char}
    (h : stringEnd? e cs = some (s, after)) : s ++ after = cs := by
  fun_induction stringEnd? e cs generalizing s after with
  | case1 => cases h
  | case2 rest _ => cases h; simp_all
  | case3 c rest _ ih =>
    obtain ⟨r, hr, he⟩ := Option.map_eq_some_iff.1 h
    cases he
    simp [ih hr]
  | case4 c rest _ _ ih =>
    obtain ⟨r, hr, he⟩ := Option.map_eq_some_iff.1 h
    cases he
    simp [ih hr]

theorem append_commentEnd {cs s after : List Char} (h : commentEnd? cs = some (s, after)) :
    s ++ after = cs := by
  fun_induction commentEnd? cs generalizing s after with
  | case1 => cases h
  | case2 => cases h; rfl
  | case3 c rest _ ih =>
    obtain ⟨r, hr, he⟩ := Option.map_eq_some_iff.1 h
    cases he
    simp [ih hr]

/-- A lexeme and what follows it are the code. -/
theorem append_first (c : Char) (rest : List Char) :
    (first c rest).1.text ++ (first c rest).2 = c :: rest := by
  unfold first
  simp only
  split
  · split
    · rename_i hs
      simp [append_stringEnd hs]
    · simp
  · split
    · simp
    · split
      · simp
      · split
        · simp
        · split
          · simp
          · split
            · split
              · simp
              · split
                · rename_i hs
                  simp [append_commentEnd hs]
                · simp
              · simp
            · simp

/-- A lexeme is never empty. -/
theorem first_text_ne_nil (c : Char) (rest : List Char) : (first c rest).1.text ≠ [] := by
  unfold first
  simp only
  repeat' split
  all_goals simp

theorem length_first (c : Char) (rest : List Char) :
    (first c rest).2.length < (c :: rest).length := by
  have h := congrArg List.length (append_first c rest)
  have hne := List.length_pos_iff.2 (first_text_ne_nil c rest)
  rw [List.length_append] at h
  omega

/-- The lexemes of code. -/
def all : List Char → List Token
  | [] => []
  | c :: rest => (first c rest).1 :: all (first c rest).2
termination_by cs => cs.length
decreasing_by exact length_first c rest

/-- The texts before a colon made keys; the flag says whether a colon comes next. -/
def nameKeys : List Token → List Token × Bool
  | [] => ([], false)
  | t :: rest =>
    let (named, colon) := nameKeys rest
    match t.cls with
    | .string => ((if colon then ⟨.key, t.text⟩ else t) :: named, colon)
    | .space | .lineComment | .blockComment => (t :: named, colon)
    | _ => (t :: named, t.cls == .punctuation && t.text.head? == some ':')

end JsonLexeme

/-- The tokens of JSON code. -/
def jsonTokens (code : List Char) : List Token :=
  (JsonLexeme.nameKeys (JsonLexeme.all code)).1

end MfmRender.Highlight
