/-
References at the front of markup: a name or a number that stands for characters.

A reference is whole when something follows it that cannot go on with it.  At
the end of the markup it is cut off, and what is left of it is text.
-/
import MfmRender.Html.Entity
import MfmRender.Html.Token
import MfmRender.Html.Value

namespace MfmRender.Html.Lexer

open Text

/-- A character of the name of a reference. -/
def isEntityChar (c : Char) : Bool :=
  c.isAlphanum || c == '-' || c == '.'

/-- What follows a reference: a semicolon belongs to it. -/
def dropSemicolon : List Char → List Char
  | ';' :: rest => rest
  | cs => cs

/-- The longest beginning of a name, not the whole, after which a hyphen or a point follows: what
the end of the markup leaves of a name. -/
def cutName (name : List Char) : List Char :=
  ((name.reverse.dropWhile Char.isAlphanum).drop 1).reverse

/-- The name of a reference that begins with the letter `first`, and what follows it.  Something
has to follow that is neither a letter nor a digit. -/
def entityName? (first : Char) (tail : List Char) : Option (List Char × List Char) :=
  let name := first :: tail.takeWhile isEntityChar
  match tail.dropWhile isEntityChar with
  | c :: rest => some (name, dropSemicolon (c :: rest))
  | [] =>
    let short := cutName name
    if short.isEmpty then none else some (short, name.drop short.length)

/-- The characters that a name stands for; a name that stands for none is text. -/
def entityText (name : List Char) : List Char :=
  (Entity.named? name).getD ('&' :: name)

/-- The number of a reference after its number sign, and what follows it.  Something has to follow
that is no hexadecimal digit. -/
def charNumber? (cs : List Char) : Except Rejection (Option (Nat × List Char)) :=
  match cs with
  | [] => .ok none
  | x :: tail =>
    if x == 'x' || x == 'X' then
      let ds := tail.takeWhile isHexDigit
      match tail.dropWhile isHexDigit with
      | [] => .ok none
      | rest => .ok (if ds.isEmpty then none else some (ofHexDigits ds, dropSemicolon rest))
    else
      let ds := (x :: tail).takeWhile Char.isDigit
      match (x :: tail).dropWhile Char.isDigit with
      | [] => .ok none
      | c :: rest =>
        if ds.isEmpty || isHexDigit c then .ok none
        else (Value.ofDigits ds).map fun n => some (n, dropSemicolon (c :: rest))

theorem length_dropSemicolon (cs : List Char) : (dropSemicolon cs).length ≤ cs.length := by
  unfold dropSemicolon
  split <;> simp

theorem length_entityName {first : Char} {tail name rest : List Char}
    (h : entityName? first tail = some (name, rest)) : rest.length ≤ tail.length := by
  unfold entityName? at h
  simp only at h
  have h1 := length_dropWhile_le isEntityChar tail
  split at h
  · rename_i c more hc
    have h2 := length_dropSemicolon (c :: more)
    rw [hc] at h1
    cases h
    omega
  · split at h
    · cases h
    · rename_i hs
      cases h
      have h3 : (tail.takeWhile isEntityChar).length ≤ tail.length :=
        (List.takeWhile_prefix isEntityChar).length_le
      have h4 : 0 < (cutName (first :: tail.takeWhile isEntityChar)).length := by
        cases hn : cutName (first :: tail.takeWhile isEntityChar) with
        | nil => simp [hn] at hs
        | cons => simp
      simp only [List.length_drop, List.length_cons]
      omega

theorem length_charNumber {cs rest : List Char} {n : Nat}
    (h : charNumber? cs = .ok (some (n, rest))) : rest.length ≤ cs.length := by
  unfold charNumber? at h
  split at h
  · cases h
  · rename_i x tail
    split at h
    · have h1 := length_dropWhile_le isHexDigit tail
      simp only at h
      split at h
      · cases h
      · split at h
        · cases h
        · have h2 := length_dropSemicolon (tail.dropWhile isHexDigit)
          cases h
          simp only [List.length_cons]
          omega
    · have h1 := length_dropWhile_le Char.isDigit (x :: tail)
      simp only at h
      split at h
      · cases h
      · rename_i c more hc
        split at h
        · cases h
        · have h2 := length_dropSemicolon (c :: more)
          rw [hc] at h1
          cases hd : Value.ofDigits (List.takeWhile Char.isDigit (x :: tail)) with
          | error e => simp [hd, Except.map] at h
          | ok m =>
            simp only [hd, Except.map, Except.ok.injEq, Option.some.injEq, Prod.mk.injEq] at h
            rw [← h.2]
            omega

/-- What an ampersand begins. -/
inductive Reference (tail : List Char) where
  | text (cs : List Char) (rest : List Char) (h : rest.length ≤ tail.length)
  /-- A number sign with nothing to read after it, though a semicolon follows somewhere: the rest
  of the markup is looked at anew. -/
  | numberSign (rest : List Char) (h : rest.length ≤ tail.length)
  /-- The end of the markup cuts a reference off. -/
  | cutOff

/-- What an ampersand begins; `tail` follows it. -/
def reference (tail : List Char) : Except Rejection (Reference tail) :=
  match tail with
  | [] => .ok .cutOff
  | '#' :: cs =>
    match hn : charNumber? cs with
    | .error e => .error e
    | .ok (some (n, rest)) =>
      .ok (.text [Entity.ofNumber n] rest (Nat.le_succ_of_le (length_charNumber hn)))
    | .ok none => .ok (if cs.contains ';' then .numberSign cs (by simp) else .cutOff)
  | c :: cs =>
    if c.isAlpha then
      match hn : entityName? c cs with
      | some (name, rest) =>
        .ok (.text (entityText name) rest (Nat.le_succ_of_le (length_entityName hn)))
      | none => .ok .cutOff
    else .ok (.text ['&'] (c :: cs) (Nat.le_refl _))

/-- What is left as text when a reference is cut off: an ampersand before a single letter goes. -/
def leftover : List Char → List Char
  | ['&', c] => if c.isAlpha then [c] else ['&', c]
  | cs => cs

end MfmRender.Html.Lexer
