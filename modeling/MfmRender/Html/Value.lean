/-
The value of an attribute.

References in a value are replaced wherever they can be recognised: a number
with or without a semicolon, and otherwise the longest name that begins there.
-/
import MfmRender.Html.Entity
import MfmRender.Html.Token
import MfmRender.Text.Digit

namespace MfmRender.Html.Value

open Text (isHexDigit ofHexDigits)

/-- The number that decimal digits write, unless there are too many of them. -/
def ofDigits (ds : List Char) : Except Rejection Nat :=
  if maxDigits < ds.length then .error (.tooManyDigits ds.length)
  else .ok (ds.foldl (fun n d => n * 10 + (d.toNat - 48)) 0)

/-- A character that can be part of a name after an ampersand. -/
def isNameChar (c : Char) : Bool :=
  !(c == '\t' || c == '\n' || c == '\x0c' || c == ' ' || c == '<' || c == '&' || c == '#' || c == ';')

/-- The longest name without a semicolon at the front, of at least two and at most `n` of the
characters, with what stays of them. -/
def longestName (name : List Char) : Nat → List Char
  | 0 | 1 => '&' :: name
  | n + 2 =>
    match Entity.unterminated? (name.take (n + 2)) with
    | some cs => cs ++ name.drop (n + 2)
    | none => longestName name (n + 1)

/-- What a name after an ampersand stands for, `ended` by a semicolon or not. -/
def named (name : List Char) (ended : Bool) : List Char :=
  let whole := if ended then Entity.named? name else Entity.unterminated? name
  match whole with
  | some cs => cs
  | none => longestName (if ended then name ++ [';'] else name) name.length

/-- The part of a value that a reference at the front takes up, and what it stands for. -/
inductive Piece where
  | plain
  | reference (stands : List Char) (length : Nat)

/-- A semicolon at the front. -/
def endsHere (cs : List Char) : Bool :=
  cs.head? == some ';'

/-- The reference after an ampersand at the front of a value. -/
def referenceAt (cs : List Char) : Except Rejection Piece :=
  let count (ds rest : List Char) := ds.length + (if endsHere rest then 1 else 0)
  match cs with
  | '#' :: x :: rest =>
    let hex := rest.takeWhile isHexDigit
    if (x == 'x' || x == 'X') && !hex.isEmpty then
      .ok (.reference (Entity.ofNumberInValue (ofHexDigits hex))
        (2 + count hex (rest.dropWhile isHexDigit)))
    else
      let ds := (x :: rest).takeWhile Char.isDigit
      if ds.isEmpty then .ok .plain
      else
        match ofDigits ds with
        | .error e => .error e
        | .ok n =>
          .ok (.reference (Entity.ofNumberInValue n)
            (1 + count ds ((x :: rest).dropWhile Char.isDigit)))
  | cs =>
    let name := (cs.take 32).takeWhile isNameChar
    if name.isEmpty then .ok .plain
    else
      let rest := cs.drop name.length
      .ok (.reference (named name (endsHere rest)) (count name rest))

/-- A value with its references replaced; the first `skip` characters belong to the reference
before them. -/
def decodeFrom (skip : Nat) : List Char → Except Rejection (List Char)
  | [] => .ok []
  | c :: rest =>
    match skip with
    | n + 1 => decodeFrom n rest
    | 0 =>
      if c == '&' then
        match referenceAt rest with
        | .error e => .error e
        | .ok .plain => (decodeFrom 0 rest).map ('&' :: ·)
        | .ok (.reference stands length) => (decodeFrom length rest).map (stands ++ ·)
      else (decodeFrom 0 rest).map (c :: ·)

/-- A value with its references replaced. -/
def decode (cs : List Char) : Except Rejection (List Char) :=
  decodeFrom 0 cs

end MfmRender.Html.Value
