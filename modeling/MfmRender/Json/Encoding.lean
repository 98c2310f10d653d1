/-
How the bytes of a JSON text write its characters.

A JSON text of more than one character begins with two ASCII characters, and
none of it is a null.  So the null bytes at its front tell how wide its units
are and which byte of them comes first.  A text without any is in UTF-8, where a
byte order mark may stand before it.
-/
import MfmRender.Text.Blank
import MfmRender.Text.Units

namespace MfmRender.Json

inductive Encoding where
  | utf8
  | utf16 (order : Text.ByteOrder)
  | utf32 (order : Text.ByteOrder)
  deriving Repr, DecidableEq

namespace Encoding

/-- The encoding of a JSON text of these bytes. -/
def ofBytes : List UInt8 → Encoding
  | [a, b] => if a = 0 then utf16 .big else if b = 0 then utf16 .little else utf8
  | a :: b :: c :: d :: _ =>
    if a = 0 then if b = 0 then utf32 .big else utf16 .big
    else if b = 0 then if c = 0 ∧ d = 0 then utf32 .little else utf16 .little
    else utf8
  | _ => utf8

/-- The characters of the JSON text whose bytes are those of `content` in UTF-8. -/
def characters? (content : String) : Option (List Char) :=
  let bytes := content.toUTF8.toList
  match ofBytes bytes with
  | utf8 => some (Text.dropMark content.toList)
  | utf16 order => Text.decodeUtf16? order bytes
  | utf32 order => Text.decodeUtf32? order bytes

end Encoding

end MfmRender.Json
