/-
Reading JSON text.

The reader goes through the characters once.  Every step hands on the rest of
the text together with a proof that it is shorter, which is why reading ends.
A fault is reported with the number of characters that were left at the place
where it lies, and `Place.ofOffset` turns that into a line and a column.

Beyond the standard the reader takes `NaN`, `Infinity` and `-Infinity`, and of
members of one name it keeps the last.  Arrays and objects may lie within each
other only so deep as the caller allows: the reader goes down with them, and a
text from outside must not send it down without end.
-/
import MfmRender.Json.Basic
import MfmRender.Text.Blank
import MfmRender.Text.Digit
import MfmRender.Text.Units

namespace MfmRender.Json

inductive SyntaxFault where
  | expectingValue
  | expectingName
  | expectingColon
  | expectingComma
  | unterminatedString
  | controlCharacter
  | badEscape
  | badUnicodeEscape
  | extraData
  | byteOrderMark
  deriving Repr, DecidableEq

/-- A value that holds others. -/
inductive Container where
  | array
  | object
  deriving Repr, DecidableEq

def Container.name : Container → String
  | array => "array"
  | object => "object"

inductive ReadError where
  /-- The text breaks the grammar at the character with this number, counted from zero. -/
  | syntaxFault (fault : SyntaxFault) (offset : Nat)
  /-- A whole number has more digits than are read. -/
  | tooManyDigits (count : Nat)
  /-- A container lies within more others than are allowed. -/
  | tooDeep (c : Container)
  deriving Repr, DecidableEq

def SyntaxFault.message : SyntaxFault → String
  | expectingValue => "Expecting value"
  | expectingName => "Expecting property name enclosed in double quotes"
  | expectingColon => "Expecting ':' delimiter"
  | expectingComma => "Expecting ',' delimiter"
  | unterminatedString => "Unterminated string starting at"
  | controlCharacter => "Invalid control character at"
  | badEscape => "Invalid \\escape"
  | badUnicodeEscape => "Invalid \\uXXXX escape"
  | extraData => "Extra data"
  | byteOrderMark => "Unexpected UTF-8 BOM (decode using utf-8-sig)"

namespace Reader

open Text (hexValue? isHighHalf isLowHalf joinHalves length_dropWhile_le unitChar)

/-- A fault inside a text, with what was left of the text at its place. -/
inductive Stop where
  | fault (fault : SyntaxFault) (left : Nat)
  | tooManyDigits (count : Nat)
  | tooDeep (c : Container)

/-- What a step reads, and the shorter rest. -/
abbrev Step (α : Type) (cs : List Char) :=
  Except Stop (α × { rest : List Char // rest.length < cs.length })

def isSpace (c : Char) : Bool :=
  c == ' ' || c == '\t' || c == '\n' || c == '\r'

def skip (cs : List Char) : List Char :=
  cs.dropWhile isSpace

theorem length_skip_le (cs : List Char) : (skip cs).length ≤ cs.length :=
  length_dropWhile_le isSpace cs

/-- The number of four hexadecimal digits. -/
def hex4? (a b c d : Char) : Option Nat := do
  return ((← hexValue? a) * 16 + (← hexValue? b)) * 256 + (← hexValue? c) * 16 + (← hexValue? d)

/-- The character of a one-letter escape. -/
def simpleEscape? : Char → Option Char
  | '"' => some '"'
  | '\\' => some '\\'
  | '/' => some '/'
  | 'b' => some '\x08'
  | 'f' => some '\x0c'
  | 'n' => some '\n'
  | 'r' => some '\r'
  | 't' => some '\t'
  | _ => none

/-- The low half of a character beyond U+FFFF, if one is escaped at the front. -/
def lowHalf? (cs : List Char) :
    Except Stop (Option (Nat × { rest : List Char // rest.length < cs.length })) :=
  match cs with
  | '\\' :: 'u' :: a :: b :: c :: d :: e :: rest =>
    match hex4? a b c d with
    | none => .error (.fault .badUnicodeEscape (rest.length + 6))
    | some low =>
      if isLowHalf low then .ok (some (low, ⟨e :: rest, by simp⟩)) else .ok none
  | _ => .ok none

theorem length_rest_lt (c : Char) (rest : List Char) : rest.length < (c :: rest).length :=
  Nat.lt_succ_self rest.length

/-- One character of a text, plain or escaped.  `start` is what was left at the opening quote. -/
def character (start : Nat) (cs : List Char) : Step Char cs :=
  match cs with
  | [] => .error (.fault .unterminatedString start)
  | '\\' :: [] => .error (.fault .unterminatedString start)
  | '\\' :: 'u' :: a :: b :: c :: d :: e :: rest =>
    match hex4? a b c d with
    | none => .error (.fault .badUnicodeEscape (rest.length + 6))
    | some n =>
      if isHighHalf n then
        match lowHalf? (e :: rest) with
        | .error e => .error e
        | .ok (some (low, ⟨after, h⟩)) =>
          .ok (Char.ofNat (joinHalves n low), ⟨after, by simp only [List.length_cons] at h ⊢; omega⟩)
        | .ok none => .ok (unitChar n, ⟨e :: rest, by simp⟩)
      else .ok (unitChar n, ⟨e :: rest, by simp⟩)
  | '\\' :: 'u' :: rest => .error (.fault .badUnicodeEscape (rest.length + 1))
  | '\\' :: c :: rest =>
    match simpleEscape? c with
    | none => .error (.fault .badEscape (rest.length + 2))
    | some x => .ok (x, ⟨rest, by simp only [List.length_cons]; omega⟩)
  | c :: rest =>
    if c.val < 0x20 then .error (.fault .controlCharacter (rest.length + 1))
    else .ok (c, ⟨rest, length_rest_lt c rest⟩)

/-- A text up to its closing quote. -/
def string (start : Nat) (cs : List Char) : Step (List Char) cs :=
  match cs with
  | '"' :: rest => .ok ([], ⟨rest, by simp⟩)
  | cs =>
    match character start cs with
    | .error e => .error e
    | .ok (c, ⟨rest, hr⟩) =>
      match string start rest with
      | .error e => .error e
      | .ok (text, ⟨after, ha⟩) => .ok (c :: text, ⟨after, Nat.lt_trans ha hr⟩)
termination_by cs.length

/-- The digits at the front, and the rest. -/
def digits (cs : List Char) : List Char × List Char :=
  (cs.takeWhile Char.isDigit, cs.dropWhile Char.isDigit)

/-- The number that decimal digits write. -/
def natOfDigits (ds : List Char) : Nat :=
  ds.foldl (fun n d => n * 10 + (d.toNat - 48)) 0

/-- A point with digits after it, if the text goes on so. -/
def fraction (cs : List Char) : List Char × List Char :=
  match cs with
  | '.' :: d :: rest => if d.isDigit then digits (d :: rest) else ([], cs)
  | _ => ([], cs)

/-- A minus or plus sign, or none. -/
def sign : List Char → Bool × List Char
  | '-' :: rest => (true, rest)
  | '+' :: rest => (false, rest)
  | cs => (false, cs)

/-- An exponent, if the text goes on with one. -/
def exponent? : List Char → Option (Int × List Char)
  | [] => none
  | c :: rest =>
    if c == 'e' || c == 'E' then
      let ds := (digits (sign rest).2).1
      if ds.isEmpty then none
      else
        let n : Int := natOfDigits ds
        some (if (sign rest).1 then -n else n, (digits (sign rest).2).2)
    else none

/-- The whole part of a number: a zero alone, or digits that do not begin with one. -/
def wholePart (cs : List Char) : List Char × List Char :=
  match cs with
  | '0' :: rest => (['0'], rest)
  | cs => digits cs

/-- A number without its sign. -/
def unsigned (negative : Bool) (start : Nat) (cs : List Char) :
    Except Stop (Json × List Char) :=
  let (whole, rest) := wholePart cs
  if whole.isEmpty then .error (.fault .expectingValue start)
  else
    let (places, rest) := fraction rest
    match exponent? rest with
    | some (e, after) =>
      .ok (.float (.ofDecimal negative (natOfDigits (whole ++ places)) (e - places.length)), after)
    | none =>
      if places.isEmpty then
        if maxDigits < whole.length then .error (.tooManyDigits whole.length)
        else
          let n : Int := natOfDigits whole
          .ok (.int (if negative then -n else n), rest)
      else .ok (.float (.ofDecimal negative (natOfDigits (whole ++ places)) (-places.length)), rest)

theorem length_digits (cs : List Char) : (digits cs).2.length ≤ cs.length :=
  length_dropWhile_le _ cs

theorem length_fraction (cs : List Char) : (fraction cs).2.length ≤ cs.length := by
  unfold fraction
  split
  · split
    · exact Nat.le_succ_of_le (length_digits _)
    · exact Nat.le_refl _
  · exact Nat.le_refl _

theorem length_sign (cs : List Char) : (sign cs).2.length ≤ cs.length := by
  unfold sign
  split <;> simp

theorem length_exponent {cs rest : List Char} {e : Int} (h : exponent? cs = some (e, rest)) :
    rest.length ≤ cs.length := by
  cases cs with
  | nil => simp [exponent?] at h
  | cons c tail =>
    have h1 := length_sign tail
    have h2 := length_digits (sign tail).2
    simp only [exponent?] at h
    split at h
    · split at h
      · cases h
      · simp only [Option.some.injEq, Prod.mk.injEq] at h
        rw [← h.2, List.length_cons]
        omega
    · cases h

theorem length_digits_lt {cs : List Char} (h : (digits cs).1.isEmpty = false) :
    (digits cs).2.length < cs.length := by
  cases cs with
  | nil => simp [digits] at h
  | cons c rest =>
    by_cases hc : c.isDigit
    · have := length_dropWhile_le Char.isDigit rest
      simp [digits, List.dropWhile, hc]
      omega
    · simp [digits, List.takeWhile, hc] at h

theorem length_wholePart {cs : List Char} (h : (wholePart cs).1.isEmpty = false) :
    (wholePart cs).2.length < cs.length := by
  unfold wholePart at *
  split at h
  · simp
  · exact length_digits_lt h

theorem length_unsigned {negative : Bool} {start : Nat} {cs rest : List Char} {v : Json}
    (h : unsigned negative start cs = .ok (v, rest)) : rest.length < cs.length := by
  unfold unsigned at h
  simp only at h
  split at h
  · simp at h
  · rename_i hw
    have h1 := length_wholePart (Bool.eq_false_iff.2 hw)
    have h2 := length_fraction (wholePart cs).2
    split at h
    · rename_i he
      have h3 := length_exponent he
      simp only [Except.ok.injEq, Prod.mk.injEq] at h
      rw [← h.2]; omega
    · (repeat' split at h) <;> simp at h <;> rw [← h.2] <;> omega

/-- A number. -/
def number (cs : List Char) : Except Stop (Json × List Char) :=
  match cs with
  | '-' :: rest => unsigned true cs.length rest
  | cs => unsigned false cs.length cs

theorem length_number {cs rest : List Char} {v : Json} (h : number cs = .ok (v, rest)) :
    rest.length < cs.length := by
  unfold number at h
  split at h
  · exact Nat.lt_succ_of_lt (length_unsigned h)
  · exact length_unsigned h

/-- A word that stands for a value. -/
def word? : List Char → Option (Json × List Char)
  | 'n' :: 'u' :: 'l' :: 'l' :: rest => some (.null, rest)
  | 't' :: 'r' :: 'u' :: 'e' :: rest => some (.bool true, rest)
  | 'f' :: 'a' :: 'l' :: 's' :: 'e' :: rest => some (.bool false, rest)
  | 'N' :: 'a' :: 'N' :: rest => some (.float .notANumber, rest)
  | 'I' :: 'n' :: 'f' :: 'i' :: 'n' :: 'i' :: 't' :: 'y' :: rest =>
    some (.float (.infinite false), rest)
  | '-' :: 'I' :: 'n' :: 'f' :: 'i' :: 'n' :: 'i' :: 't' :: 'y' :: rest =>
    some (.float (.infinite true), rest)
  | _ => none

theorem length_word {cs rest : List Char} {v : Json} (h : word? cs = some (v, rest)) :
    rest.length < cs.length := by
  unfold word? at h
  split at h <;> simp at h <;> rw [← h.2] <;> simp <;> omega

/-- A value that has no parts: a word or a number. -/
def scalar (cs : List Char) : Step Json cs :=
  match h : word? cs with
  | some (v, rest) => .ok (v, ⟨rest, length_word h⟩)
  | none =>
    match h : number cs with
    | .error e => .error e
    | .ok (v, rest) => .ok (v, ⟨rest, length_number h⟩)

mutual

/-- A value at the front of the text, with at most `depth` containers within each other. -/
def value (depth : Nat) (cs : List Char) : Step Json cs :=
  match cs with
  | [] => .error (.fault .expectingValue 0)
  | '"' :: rest =>
    match string (rest.length + 1) rest with
    | .error e => .error e
    | .ok (text, ⟨after, ha⟩) =>
      .ok (.string (String.ofList text), ⟨after, Nat.lt_succ_of_lt ha⟩)
  | '[' :: rest =>
    match depth with
    | 0 => .error (.tooDeep .array)
    | depth + 1 =>
      match h : skip rest with
      | ']' :: after =>
        .ok (.array [], ⟨after, by have := length_skip_le rest; simp [h] at this ⊢; omega⟩)
      | inner =>
        match items depth inner with
        | .error e => .error e
        | .ok (vs, ⟨after, ha⟩) =>
          .ok (.array vs, ⟨after, by have := length_skip_le rest; simp [h] at this ⊢; omega⟩)
  | '{' :: rest =>
    match depth with
    | 0 => .error (.tooDeep .object)
    | depth + 1 =>
      match h : skip rest with
      | '}' :: after =>
        .ok (.object [], ⟨after, by have := length_skip_le rest; simp [h] at this ⊢; omega⟩)
      | inner =>
        match members depth [] inner with
        | .error e => .error e
        | .ok (ms, ⟨after, ha⟩) =>
          .ok (.object ms, ⟨after, by have := length_skip_le rest; simp [h] at this ⊢; omega⟩)
  | c :: rest => scalar (c :: rest)
termination_by (cs.length, 0)
decreasing_by all_goals
  simp_wf
  apply Prod.Lex.left
  have := length_skip_le rest
  simp [h] at this
  omega

/-- The items of an array up to its closing bracket. -/
def items (depth : Nat) (cs : List Char) : Step (List Json) cs :=
  match value depth cs with
  | .error e => .error e
  | .ok (v, ⟨rest, hr⟩) =>
    match h : skip rest with
    | ']' :: after =>
      .ok ([v], ⟨after, by have := length_skip_le rest; simp [h] at this; omega⟩)
    | ',' :: more =>
      match items depth (skip more) with
      | .error e => .error e
      | .ok (vs, ⟨after, ha⟩) =>
        .ok (v :: vs, ⟨after, by
          have := length_skip_le rest
          have := length_skip_le more
          simp [h] at *
          omega⟩)
    | other => .error (.fault .expectingComma other.length)
termination_by (cs.length, 1)
decreasing_by
  · apply Prod.Lex.right
    omega
  · apply Prod.Lex.left
    have := length_skip_le rest
    have := length_skip_le more
    simp [h] at *
    omega

/-- The members of an object up to its closing brace, put into those already read. -/
def members (depth : Nat) (read : Members) (cs : List Char) : Step Members cs :=
  match cs with
  | '"' :: rest =>
    match string (rest.length + 1) rest with
    | .error e => .error e
    | .ok (name, ⟨afterName, hn⟩) =>
      match hc : skip afterName with
      | ':' :: afterColon =>
        match value depth (skip afterColon) with
        | .error e => .error e
        | .ok (v, ⟨afterValue, hv⟩) =>
          let read := Members.put (String.ofList name) v read
          match h : skip afterValue with
          | '}' :: after =>
            .ok (read, ⟨after, by
              have := length_skip_le afterName
              have := length_skip_le afterColon
              have := length_skip_le afterValue
              simp [h, hc] at *
              omega⟩)
          | ',' :: more =>
            match members depth read (skip more) with
            | .error e => .error e
            | .ok (ms, ⟨after, ha⟩) =>
              .ok (ms, ⟨after, by
                have := length_skip_le afterName
                have := length_skip_le afterColon
                have := length_skip_le afterValue
                have := length_skip_le more
                simp [h, hc] at *
                omega⟩)
          | other => .error (.fault .expectingComma other.length)
      | other => .error (.fault .expectingColon other.length)
  | other => .error (.fault .expectingName other.length)
termination_by (cs.length, 0)
decreasing_by
  · apply Prod.Lex.left
    have := length_skip_le afterName
    have := length_skip_le afterColon
    simp [hc] at *
    omega
  · apply Prod.Lex.left
    have := length_skip_le afterName
    have := length_skip_le afterColon
    have := length_skip_le afterValue
    have := length_skip_le more
    simp [h, hc] at *
    omega

end

end Reader

/-- How many containers of a text from outside may lie within each other. -/
def maxDepth : Nat := 970

/-- The value that characters write, which may have spaces around it and nothing else. -/
def readChars (depth : Nat) (cs : List Char) : Except ReadError Json :=
  let stop : Reader.Stop → ReadError
    | .fault f left => .syntaxFault f (cs.length - left)
    | .tooManyDigits n => .tooManyDigits n
    | .tooDeep c => .tooDeep c
  match Reader.value depth (Reader.skip cs) with
  | .error e => .error (stop e)
  | .ok (v, ⟨rest, _⟩) =>
    match Reader.skip rest with
    | [] => .ok v
    | extra => .error (stop (.fault .extraData extra.length))

/-- The value that a text writes; there must be no byte order mark before it. -/
def readWithin (depth : Nat) (text : String) : Except ReadError Json :=
  if text.toList.head? = some '\ufeff' then .error (.syntaxFault .byteOrderMark 0)
  else readChars depth text.toList

/-- The value that a text from outside writes. -/
def read (text : String) : Except ReadError Json :=
  readWithin maxDepth text

/-- A place in a text by line and column, both counted from one, and by offset from zero. -/
structure Place where
  line : Nat
  column : Nat
  offset : Nat
  deriving Repr, DecidableEq

/-- The place of the character with the number `offset`. -/
def Place.ofOffset (text : String) (offset : Nat) : Place :=
  let before := text.toList.take offset
  let column := (before.reverse.takeWhile (· != '\n')).length + 1
  ⟨before.count '\n' + 1, column, offset⟩

/-- What a message says about a container that lies too deep. -/
def tooDeepMessage (c : Container) : String :=
  s!"maximum recursion depth exceeded while decoding a JSON {c.name} from a unicode string"

/-- What a message says about a text that could not be read. -/
def ReadError.message (text : String) : ReadError → String
  | syntaxFault f offset =>
    let p := Place.ofOffset text offset
    s!"{f.message}: line {p.line} column {p.column} (char {p.offset})"
  | tooManyDigits n => tooManyDigitsMessage n
  | tooDeep c => tooDeepMessage c

end MfmRender.Json
