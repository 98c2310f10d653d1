/-
Percent encoding.

A character that is not a letter or digit of ASCII or one of `_ . - ~` is
written as the bytes of its UTF-8 form, each as a percent sign and two
hexadecimal digits.  In a query a space may be written as a plus sign, which
is safe because a plus sign itself is never written plain.
-/
import MfmRender.Text.Digit

namespace MfmRender.Text.Percent

/-- A character that stands for itself. -/
def isUnreserved (c : Char) : Bool :=
  c.isAlphanum || c == '_' || c == '.' || c == '-' || c == '~'

/-- A hexadecimal digit, capital letters. -/
def digit (n : Nat) : Char :=
  if n < 10 then Char.ofNat (n + 48) else Char.ofNat (n + 55)

/-- A byte as a percent sign and two digits. -/
def encodeByte (b : UInt8) : List Char :=
  ['%', digit (b.toNat / 16), digit (b.toNat % 16)]

/-- A character as it stands in a path segment. -/
def encodeChar (c : Char) : List Char :=
  if isUnreserved c then [c] else (String.utf8EncodeChar c).flatMap encodeByte

/-- A text as one path segment. -/
def encode (cs : List Char) : List Char :=
  cs.flatMap encodeChar

/-- The bytes of a text, where a percent sign with two hexadecimal digits after it is the byte
that they write, and every other character its UTF-8 form. -/
def decode : List Char → List UInt8
  | '%' :: a :: b :: rest =>
    match hexValue? a, hexValue? b with
    | some high, some low => UInt8.ofNat (high * 16 + low) :: decode rest
    | _, _ => String.utf8EncodeChar '%' ++ decode (a :: b :: rest)
  | c :: rest => String.utf8EncodeChar c ++ decode rest
  | [] => []

/-- A text as the value of a query, with a plus sign for each space. -/
def encodeQuery (cs : List Char) : List Char :=
  cs.flatMap fun c => if c == ' ' then ['+'] else encodeChar c

end MfmRender.Text.Percent
