/-
Reading UTF-8.

A character is a first byte, which says how many bytes follow and what range
the next one lies in, and then those bytes.  The range of the second byte is
narrower than that of the others where it has to keep out overlong forms,
surrogates and numbers beyond the last character.  Reading stops at the first
byte that does not fit, and the report names all bytes of the character that did.
-/
import MfmRender.Text.Digit

namespace MfmRender.Text.Utf8

/-- Why bytes are no text. -/
inductive Fault where
  | start
  | continuation
  | cutOff
  deriving Repr, DecidableEq

def Fault.message : Fault → String
  | start => "invalid start byte"
  | continuation => "invalid continuation byte"
  | cutOff => "unexpected end of data"

/-- A character that has begun: what is known of it, and what its next byte has to be. -/
structure Begun where
  first : UInt8
  /-- The number of the first byte, counted from zero. -/
  position : Nat
  /-- The bytes read so far. -/
  taken : Nat
  value : Nat
  /-- The bytes to come after the next one. -/
  later : Nat
  low : UInt8
  high : UInt8
  deriving Repr, DecidableEq

structure Error where
  fault : Fault
  first : UInt8
  position : Nat
  /-- The bytes that are at fault. -/
  length : Nat
  deriving Repr, DecidableEq

/-- What a first byte above the ASCII range begins. -/
def begin? (b : UInt8) (position : Nat) : Option Begun :=
  let begun (value later : Nat) (low high : UInt8) : Begun :=
    ⟨b, position, 1, value, later, low, high⟩
  if b < 0xc2 then none
  else if b < 0xe0 then some (begun (b.toNat - 0xc0) 0 0x80 0xbf)
  else if b < 0xf0 then
    some (begun (b.toNat - 0xe0) 1 (if b = 0xe0 then 0xa0 else 0x80) (if b = 0xed then 0x9f else 0xbf))
  else if b < 0xf5 then
    some (begun (b.toNat - 0xf0) 2 (if b = 0xf0 then 0x90 else 0x80) (if b = 0xf4 then 0x8f else 0xbf))
  else none

/-- A character that breaks off after the bytes it has. -/
def Begun.broken (c : Begun) (fault : Fault) : Error :=
  ⟨fault, c.first, c.position, c.taken⟩

/-- The text that bytes write, where the first of them is at `position` and belongs to the
character that has begun, if one has. -/
def decodeFrom (position : Nat) : Option Begun → List UInt8 → Except Error (List Char)
  | none, [] => .ok []
  | some c, [] => .error (c.broken .cutOff)
  | none, b :: rest =>
    if b < 0x80 then (decodeFrom (position + 1) none rest).map (Char.ofNat b.toNat :: ·)
    else match begin? b position with
      | some c => decodeFrom (position + 1) (some c) rest
      | none => .error ⟨.start, b, position, 1⟩
  | some c, b :: rest =>
    if c.low ≤ b ∧ b ≤ c.high then
      let value := c.value * 0x40 + (b.toNat - 0x80)
      match c.later with
      | 0 => (decodeFrom (position + 1) none rest).map (Char.ofNat value :: ·)
      | later + 1 =>
        decodeFrom (position + 1)
          (some ⟨c.first, c.position, c.taken + 1, value, later, 0x80, 0xbf⟩) rest
    else .error (c.broken .continuation)

/-- The text that bytes write. -/
def decode (bytes : List UInt8) : Except Error (List Char) :=
  decodeFrom 0 none bytes

/-- What a message says about bytes that are no text. -/
def Error.message (e : Error) : String :=
  let bytes :=
    if e.length = 1 then
      "byte 0x" ++ String.ofList (hexDigits 2 e.first.toNat) ++ s!" in position {e.position}"
    else
      let last := e.position + e.length - 1
      s!"bytes in position {e.position}-{last}"
  "'utf-8' codec can't decode " ++ bytes ++ ": " ++ e.fault.message

end MfmRender.Text.Utf8
