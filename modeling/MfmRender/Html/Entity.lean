/-
Character references.

A reference stands for one or two characters: by a name from the table, or by a
number.  In running text the tokens tell where a reference ends; in the value
of an attribute it is found by the longest name that fits.
-/
import MfmRender.Html.Entity.Table

namespace MfmRender.Html.Entity

/-- The characters that a name stands for, semicolon left out.  The names of the characters that
markup itself uses come first. -/
def named? (name : List Char) : Option (List Char) :=
  match name with
  | ['a', 'm', 'p'] => some ['&']
  | ['l', 't'] => some ['<']
  | ['g', 't'] => some ['>']
  | ['q', 'u', 'o', 't'] => some ['"']
  | first :: _ => ((namesFrom first).lookup (String.ofList name)).map fun codes => codes.map Char.ofNat
  | [] => none

/-- The characters that a name without a semicolon stands for. -/
def unterminated? (name : List Char) : Option (List Char) :=
  if unterminated.contains (String.ofList name) then named? name else none

/-- The characters for the numbers from 0x80 to 0x9f: those of an old code page, where it has
one. -/
def oldCodes : List Nat :=
  [0x20ac, 0x81, 0x201a, 0x192, 0x201e, 0x2026, 0x2020, 0x2021, 0x2c6, 0x2030, 0x160, 0x2039, 0x152,
   0x8d, 0x17d, 0x8f, 0x90, 0x2018, 0x2019, 0x201c, 0x201d, 0x2022, 0x2013, 0x2014, 0x2dc, 0x2122,
   0x161, 0x203a, 0x153, 0x9d, 0x17e, 0x178]

/-- The character that a number stands for. -/
def ofNumber (n : Nat) : Char :=
  if n = 0 ∨ (0xd800 ≤ n ∧ n ≤ 0xdfff) ∨ 0x10ffff < n then '\ufffd'
  else if 0x80 ≤ n ∧ n < 0xa0 then Char.ofNat (oldCodes.getD (n - 0x80) n)
  else Char.ofNat n

/-- A number that no character may have: most controls, and the code points set aside. -/
def isInvalid (n : Nat) : Bool :=
  (1 ≤ n && n ≤ 8) || n == 0xb || (0xe ≤ n && n ≤ 0x1f) || (0x7f ≤ n && n ≤ 0x9f) ||
    (0xfdd0 ≤ n && n ≤ 0xfdef) || (n % 0x10000 == 0xfffe) || (n % 0x10000 == 0xffff)

/-- What a number stands for in the value of an attribute: a number that no character may have
stands for nothing. -/
def ofNumberInValue (n : Nat) : List Char :=
  if n = 0 ∨ (0x80 ≤ n ∧ n < 0xa0) then [ofNumber n]
  else if (0xd800 ≤ n ∧ n ≤ 0xdfff) ∨ 0x10ffff < n then ['\ufffd']
  else if isInvalid n then []
  else [Char.ofNat n]

end MfmRender.Html.Entity
