/-
The case of letters.

Lowering goes letter by letter with three exceptions to the plain table: the
dotted capital I becomes two characters, and a capital sigma becomes the final
small sigma at the end of a word and the plain one elsewhere.  A word ends
where no cased character follows, characters such as accents looked through.

Where letters are compared without their case, a small letter of ASCII is
matched, besides its own capital, by the few letters outside ASCII that fold to
it: the long s, the dotless and the dotted i, and the sign of the unit kelvin.
-/
import MfmRender.Text.Case.Table

namespace MfmRender.Text

/-! ### Lower case -/

/-- The letter at the head of `cs`, with what is looked through dropped, is cased. -/
def nextIsCased (cs : List Char) : Bool :=
  match cs.dropWhile (covers caseIgnorable) with
  | [] => false
  | c :: _ => covers cased c

/-- The small letter of a letter that has exactly one. -/
def lowerChar (c : Char) : Char :=
  if c.val < 0x80 then c.toLower
  else match caseRuns.find? fun r =>
      r.first ≤ c.toNat && c.toNat ≤ r.last && (c.toNat - r.first) % r.step == 0 with
    | some r => Char.ofNat (c.toNat + r.shift).toNat
    | none => c

/-- Lower `cs`, which follows the characters `before`, nearest first. -/
def lowerAfter (before : List Char) : List Char → List Char
  | [] => []
  | c :: rest =>
    let small :=
      if c == 'Σ' then
        [if nextIsCased before && !nextIsCased rest then 'ς' else 'σ']
      else if c == 'İ' then ['i', '\u0307']
      else [lowerChar c]
    small ++ lowerAfter (c :: before) rest

/-- The text in lower case. -/
def lower (cs : List Char) : List Char :=
  lowerAfter [] cs

/-! ### Comparing without case -/

/-- `c` is the small letter `small` of ASCII, or folds to it. -/
def foldsTo (small c : Char) : Bool :=
  c.toLower == small || (small == 's' && c == 'ſ') ||
    (small == 'i' && (c == 'ı' || c == 'İ')) || (small == 'k' && c == '\u212a')

/-- What follows `word`, in any case, at the front of a text. -/
def dropFolded? : List Char → List Char → Option (List Char)
  | [], cs => some cs
  | _ :: _, [] => none
  | w :: word, c :: cs => if foldsTo w c then dropFolded? word cs else none

end MfmRender.Text
