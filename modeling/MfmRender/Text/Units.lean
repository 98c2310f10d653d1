/-
Texts of two or four bytes a unit.

In UTF-32 a unit is the number of a character.  In UTF-16 it is so for the
characters up to U+FFFF, and a later one is written as two halves, a high one
and a low one.  A half without its fellow is no character; it is read as one
replacement character, so that what follows keeps its place.

A program that keeps its texts as units can carry such a half along.  A text is
made of characters here, so of texts that hold one nothing is said: what is proved
about texts that are read is proved where every half stands in its pair.
-/

namespace MfmRender.Text

/-- Which byte of a unit comes first. -/
inductive ByteOrder where
  /-- The one that counts most. -/
  | big
  /-- The one that counts least. -/
  | little
  deriving Repr, DecidableEq

/-- The number that the bytes of a unit write. -/
def ByteOrder.number (order : ByteOrder) (bytes : List UInt8) : Nat :=
  match order with
  | big => bytes.foldl (fun n b => n * 256 + b.toNat) 0
  | little => bytes.foldr (fun b n => n * 256 + b.toNat) 0

/-- The units of two bytes, if no byte is left over. -/
def pairs? (order : ByteOrder) : List UInt8 → Option (List Nat)
  | [] => some []
  | a :: b :: rest => (pairs? order rest).map (order.number [a, b] :: ·)
  | _ => none

/-- The units of four bytes, if no byte is left over. -/
def quads? (order : ByteOrder) : List UInt8 → Option (List Nat)
  | [] => some []
  | a :: b :: c :: d :: rest => (quads? order rest).map (order.number [a, b, c, d] :: ·)
  | _ => none

def isHighHalf (n : Nat) : Bool :=
  0xd800 ≤ n && n ≤ 0xdbff

def isLowHalf (n : Nat) : Bool :=
  0xdc00 ≤ n && n ≤ 0xdfff

/-- The number of the character that two halves write. -/
def joinHalves (high low : Nat) : Nat :=
  0x10000 + (high - 0xd800) * 0x400 + (low - 0xdc00)

/-- The character of a unit that stands alone. -/
def unitChar (n : Nat) : Char :=
  if isHighHalf n || isLowHalf n then '\ufffd' else Char.ofNat n

/-- The text that units of two bytes write. -/
def ofPairs : List Nat → List Char
  | [] => []
  | [n] => [unitChar n]
  | n :: m :: rest =>
    if isHighHalf n && isLowHalf m then Char.ofNat (joinHalves n m) :: ofPairs rest
    else unitChar n :: ofPairs (m :: rest)

/-- The text that units of four bytes write, if every one is the number of a character. -/
def ofQuads? (units : List Nat) : Option (List Char) :=
  if units.all (· < 0x110000) then some (units.map unitChar) else none

/-- The text that bytes write in UTF-16. -/
def decodeUtf16? (order : ByteOrder) (bytes : List UInt8) : Option (List Char) :=
  (pairs? order bytes).map ofPairs

/-- The text that bytes write in UTF-32. -/
def decodeUtf32? (order : ByteOrder) (bytes : List UInt8) : Option (List Char) :=
  (quads? order bytes).bind ofQuads?

end MfmRender.Text
