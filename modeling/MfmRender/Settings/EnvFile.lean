/-
Variables, and files of them.

A variable is a named text, as an environment or a file gives it.  A list of
variables keeps the order in which the names first came, because a name asked for
without regard to case is answered by the last that fits.  A file can name a
variable without giving it a text; such a variable is there and has none.

A line gives a variable its text: `name = text`, with `export` before it if one
likes.  A text in quotes may hold anything, line ends too, and a text without
them ends at a comment or with its line, blanks around it dropped.  A comment
begins with a number sign that stands after a blank, be it only the blank after
the equals sign.  A line that cannot be read says nothing and hides no other.

In every text, `${name}` stands for the text of a variable, one given earlier in
the file or else one of the environment, and `${name:-default}` for the default
where there is no such variable.

A byte order mark at the front has been dropped, and line ends have been made
line feeds, before anything else is looked at.
-/
import MfmRender.Text.Blank
import MfmRender.Text.Case

namespace MfmRender

abbrev Variables := List (String × Option String)

namespace Variables

/-- Give a variable a text, or take its text away: a name that is there keeps its place. -/
def put (name : String) (value : Option String) : Variables → Variables
  | [] => [(name, value)]
  | (n, v) :: rest => if n = name then (n, value) :: rest else (n, v) :: put name value rest

/-- The text of the last variable whose name is `name` once it is lowered. -/
def find? (vars : Variables) (name : String) : Option String :=
  ((vars.reverse.find? fun v => Text.lower v.1.toList == name.toList).map Prod.snd).join

/-- Some name or text holds a null. -/
def holdsNull (vars : Variables) : Bool :=
  vars.any fun (name, value) => name.contains '\x00' || (value.getD "").contains '\x00'

end Variables

namespace EnvFile

open Text

/-- A blank that does not end the line. -/
def isGap (c : Char) : Bool :=
  isBlank c && c != '\n'

/-- What follows the line that the text begins in. -/
def skipLine (cs : List Char) : List Char :=
  (cs.dropWhile (· != '\n')).drop 1

/-- What follows the word that may stand before a name. -/
def dropExport : List Char → List Char
  | 'e' :: 'x' :: 'p' :: 'o' :: 'r' :: 't' :: c :: rest =>
    if isGap c then rest.dropWhile isGap
    else 'e' :: 'x' :: 'p' :: 'o' :: 'r' :: 't' :: c :: rest
  | cs => cs

/-- A character of a name without quotes. -/
def isNameChar (c : Char) : Bool :=
  !isBlank c && c != '=' && c != '#'

/-- The name at the front of a line, which may stand in single quotes. -/
def name? : List Char → Option (List Char × List Char)
  | [] => none
  | c :: tail =>
    if c == '\'' then
      match tail.takeWhile (· != '\''), tail.dropWhile (· != '\'') with
      | n :: name, _ :: rest => some (n :: name, rest)
      | _, _ => none
    else if isNameChar c then some (c :: tail.takeWhile isNameChar, tail.dropWhile isNameChar)
    else none

/-- What stands before the closing quote `q`, and what follows it.  A character after a backslash
closes nothing. -/
def quoted? (q : Char) : List Char → Option (List Char × List Char)
  | [] => none
  | '\\' :: c :: rest => (quoted? q rest).map fun (inside, after) => ('\\' :: c :: inside, after)
  | c :: rest =>
    if c == q then some ([], rest)
    else (quoted? q rest).map fun (inside, after) => (c :: inside, after)

/-- What a backslash makes of the character after it in single quotes. -/
def singleEscape? (c : Char) : Option Char :=
  if c == '\\' || c == '\'' then some c else none

/-- What a backslash makes of the character after it in double quotes. -/
def doubleEscape? : Char → Option Char
  | '\\' => some '\\'
  | '\'' => some '\''
  | '"' => some '"'
  | 'a' => some '\x07'
  | 'b' => some '\x08'
  | 'f' => some '\x0c'
  | 'n' => some '\n'
  | 'r' => some '\r'
  | 't' => some '\t'
  | 'v' => some '\x0b'
  | _ => none

/-- Read backslashes; one that makes nothing stands for itself. -/
def unescape (escape? : Char → Option Char) : List Char → List Char
  | '\\' :: c :: rest =>
    match escape? c with
    | some d => d :: unescape escape? rest
    | none => '\\' :: unescape escape? (c :: rest)
  | c :: rest => c :: unescape escape? rest
  | [] => []

/-- What stands before a comment, which begins with blanks and a number sign. -/
def beforeComment : List Char → List Char
  | [] => []
  | c :: rest =>
    if isBlank c && ((c :: rest).dropWhile isBlank).head? == some '#' then []
    else c :: beforeComment rest

/-- The text after an equals sign, if it is whole, and what follows it. -/
def value? (cs : List Char) : Option (List Char × List Char) :=
  match cs.dropWhile isGap with
  | '\'' :: tail =>
    (quoted? '\'' tail).map fun (inside, rest) => (unescape singleEscape? inside, rest)
  | '"' :: tail =>
    (quoted? '"' tail).map fun (inside, rest) => (unescape doubleEscape? inside, rest)
  | _ => some (trim (beforeComment (cs.takeWhile (· != '\n'))), cs.dropWhile (· != '\n'))

/-- What follows the line, if nothing but a comment is left of it. -/
def lineEnd? (cs : List Char) : Option (List Char) :=
  match cs.dropWhile isGap with
  | [] => some []
  | c :: rest => if c == '\n' then some rest else if c == '#' then some (skipLine rest) else none

/-- What is read of one line, and the text after it. -/
structure Line where
  binding : Option (String × Option String)
  rest : List Char

/-- A line that says nothing from `cs` on. -/
def Line.skip (cs : List Char) : Line := ⟨none, skipLine cs⟩

/-- What follows the name of a variable. -/
def afterName (name : List Char) (cs : List Char) : Line :=
  let finish (value : Option String) (rest : List Char) : Line :=
    match lineEnd? rest with
    | some next => ⟨some (String.ofList name, value), next⟩
    | none => .skip rest
  match cs.dropWhile isGap with
  | '=' :: tail =>
    match value? tail with
    | some (value, rest) => finish (some (String.ofList value)) rest
    | none => .skip tail
  | _ => finish none cs

/-- The line that begins with the character `first`, which is not blank. -/
def line (first : Char) (tail : List Char) : Line :=
  let start := dropExport (first :: tail)
  match name? start with
  | some (name, rest) => afterName name rest
  | none => .skip start

/-! ### Every line is shorter than the text it begins -/

theorem length_skipLine_le (cs : List Char) : (skipLine cs).length ≤ cs.length := by
  have := length_dropWhile_le (· != '\n') cs
  simp only [skipLine, List.length_drop]
  omega

theorem length_skipLine_cons (c : Char) (cs : List Char) :
    (skipLine (c :: cs)).length < (c :: cs).length := by
  unfold skipLine
  by_cases h : c = '\n'
  · subst h
    simp
  · have := length_dropWhile_le (· != '\n') cs
    rw [List.dropWhile_cons_of_pos (by simpa using h)]
    simp only [List.length_drop, List.length_cons]
    omega

theorem length_dropExport (c : Char) (cs : List Char) :
    dropExport (c :: cs) = c :: cs ∨ (dropExport (c :: cs)).length < (c :: cs).length := by
  unfold dropExport
  split
  · rename_i d rest heq
    split
    · right
      have := length_dropWhile_le isGap rest
      rw [heq]
      simp only [List.length_cons]
      omega
    · exact .inl heq.symm
  · exact .inl rfl

theorem length_name {cs name rest : List Char} (h : name? cs = some (name, rest)) :
    rest.length < cs.length := by
  unfold name? at h
  split at h
  · cases h
  · rename_i c tail
    split at h
    · have := length_dropWhile_le (· != '\'') tail
      split at h
      · rename_i n name' d rest' hn hd
        rw [hd, List.length_cons] at this
        cases h
        simp only [List.length_cons]
        omega
      · cases h
    · split at h
      · have := length_dropWhile_le isNameChar tail
        cases h
        simp only [List.length_cons]
        omega
      · cases h

theorem length_quoted {q : Char} {cs inside rest : List Char}
    (h : quoted? q cs = some (inside, rest)) : rest.length < cs.length := by
  fun_induction quoted? q cs generalizing inside with
  | case1 => cases h
  | case2 c tail ih =>
    obtain ⟨⟨inside', after⟩, hq, heq⟩ := Option.map_eq_some_iff.1 h
    cases heq
    have := ih hq
    simp only [List.length_cons]
    omega
  | case3 c tail hne hc =>
    cases h
    simp
  | case4 c tail hne hc ih =>
    obtain ⟨⟨inside', after⟩, hq, heq⟩ := Option.map_eq_some_iff.1 h
    cases heq
    exact Nat.lt_succ_of_lt (ih hq)

theorem length_value {cs value rest : List Char} (h : value? cs = some (value, rest)) :
    rest.length ≤ cs.length := by
  have hgap := length_dropWhile_le isGap cs
  unfold value? at h
  split at h
  · rename_i tail ht
    obtain ⟨⟨inside, after⟩, hq, heq⟩ := Option.map_eq_some_iff.1 h
    cases heq
    have := length_quoted hq
    rw [ht, List.length_cons] at hgap
    omega
  · rename_i tail ht
    obtain ⟨⟨inside, after⟩, hq, heq⟩ := Option.map_eq_some_iff.1 h
    cases heq
    have := length_quoted hq
    rw [ht, List.length_cons] at hgap
    omega
  · cases h
    exact length_dropWhile_le _ _

theorem length_lineEnd {cs rest : List Char} (h : lineEnd? cs = some rest) :
    rest.length ≤ cs.length := by
  unfold lineEnd? at h
  have := length_dropWhile_le isGap cs
  split at h
  · cases h
    exact Nat.zero_le _
  · rename_i c tail hc
    rw [hc, List.length_cons] at this
    split at h
    · cases h
      omega
    · split at h
      · cases h
        have := length_skipLine_le tail
        omega
      · cases h

theorem length_afterName (name cs : List Char) : (afterName name cs).rest.length ≤ cs.length := by
  have hfinish (value : Option String) (rest : List Char) (hr : rest.length ≤ cs.length) :
      (match lineEnd? rest with
        | some next => (⟨some (String.ofList name, value), next⟩ : Line)
        | none => .skip rest).rest.length ≤ cs.length := by
    split
    · rename_i next hn
      exact Nat.le_trans (length_lineEnd hn) hr
    · exact Nat.le_trans (length_skipLine_le rest) hr
  have h1 := length_dropWhile_le isGap cs
  unfold afterName
  split
  · rename_i tail ht
    rw [ht, List.length_cons] at h1
    split
    · rename_i value rest hv
      have := length_value hv
      exact hfinish _ _ (by omega)
    · have := length_skipLine_le tail
      simp only [Line.skip]
      omega
  · exact hfinish _ _ (Nat.le_refl _)

theorem length_line (c : Char) (cs : List Char) : (line c cs).rest.length < (c :: cs).length := by
  have h1 := length_dropExport c cs
  unfold line
  simp only
  split
  · rename_i name rest hn
    have h2 := length_name hn
    have h3 := length_afterName name rest
    rcases h1 with h1 | h1
    · rw [h1] at h2
      omega
    · omega
  · rcases h1 with h1 | h1
    · rw [h1]
      exact length_skipLine_cons c cs
    · exact Nat.lt_of_le_of_lt (length_skipLine_le _) h1

/-- The variables that the lines of a text name, in order, each with its text as written. -/
def bindings (cs : List Char) : Variables :=
  match _h : cs.dropWhile isBlank with
  | [] => []
  | c :: tail =>
    let found := line c tail
    (found.binding.map fun b => [b]).getD [] ++ bindings found.rest
termination_by cs.length
decreasing_by
  have h1 := length_dropWhile_le isBlank cs
  have h2 := length_line c tail
  rw [_h] at h1
  simp only [List.length_cons] at h1 h2
  omega

/-! ### Texts that mention variables -/

/-- A mention of a variable, after its dollar sign and brace: the name, the default if one is
given, and what follows the closing brace. -/
def mention? (cs : List Char) : Option (List Char × Option (List Char) × List Char) :=
  let isName (c : Char) : Bool := c != '\x7d' && c != ':'
  match cs.dropWhile isName with
  | ':' :: '-' :: tail =>
    match tail.dropWhile (· != '\x7d') with
    | _ :: rest => some (cs.takeWhile isName, some (tail.takeWhile (· != '\x7d')), rest)
    | [] => none
  | '\x7d' :: rest => some (cs.takeWhile isName, none, rest)
  | _ => none

theorem length_mention {cs name rest : List Char} {default : Option (List Char)}
    (h : mention? cs = some (name, default, rest)) : rest.length < cs.length := by
  unfold mention? at h
  simp only at h
  have h1 := length_dropWhile_le (fun c => c != '\x7d' && c != ':') cs
  split at h
  · rename_i tail ht
    have h2 := length_dropWhile_le (· != '\x7d') tail
    rw [ht] at h1
    simp only [List.length_cons] at h1
    split at h
    · rename_i c rest' hr
      rw [hr, List.length_cons] at h2
      cases h
      omega
    · cases h
  · rename_i rest' hr
    rw [hr, List.length_cons] at h1
    cases h
    omega
  · cases h

/-- The text with the variables it mentions replaced; `known` finds a variable, which may have no
text. -/
def expand (known : String → Option (Option String)) (cs : List Char) : List Char :=
  match cs with
  | '$' :: '\x7b' :: tail =>
    match _h : mention? tail with
    | some (name, default, rest) =>
      let found := match known (String.ofList name) with
        | some text => (text.getD "").toList
        | none => default.getD []
      found ++ expand known rest
    | none => '$' :: expand known ('\x7b' :: tail)
  | c :: rest => c :: expand known rest
  | [] => []
termination_by cs.length
decreasing_by
  · have := length_mention _h
    simp only [List.length_cons]
    omega
  · simp
  · simp

/-- The variables of a file, with those of the environment at hand. -/
def read (environment : Variables) (text : String) : Variables :=
  (bindings (lineFeeds (dropMark text.toList))).foldl (fun vars (name, value) =>
    let known (n : String) : Option (Option String) := vars.lookup n <|> environment.lookup n
    vars.put name (value.map fun t => String.ofList (expand known t.toList))) []

end EnvFile

end MfmRender
