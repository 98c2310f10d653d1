/-
What a JSON text may look like.

This is the grammar of the standard, apart from any way of reading it.  A value
has many texts: there may be gaps between its parts, a character may stand for
itself or be escaped, and a decimal may be written with an exponent or without.
`Json.Writes cs v` says that the characters `cs` are one of the texts of `v`, and
`Json.Written` that a text, which may have gaps around it, is.

The names in an object differ from each other, as they do in a value.

Whoever reads a text from outside reads it within limits.  `Json.fits` says of a
value that it lies within them, whatever text it is read from.

A text fixes the order of the members of an object, which means nothing: neither
what a name stands for nor the limits depend on it.
-/
import MfmRender.Json.Reader

namespace MfmRender.Json

open Text (isHexDigit isHighHalf isLowHalf joinHalves ofHexDigits)
open Reader (natOfDigits)

/-! ### Characters -/

/-- Space that may stand between the parts of a text. -/
def IsGap (cs : List Char) : Prop :=
  ∀ c ∈ cs, c = ' ' ∨ c = '\t' ∨ c = '\n' ∨ c = '\r'

/-- The letters that may stand after a backslash, each with the character that it stands for. -/
def letterEscapes : List (Char × Char) :=
  [('"', '"'), ('\\', '\\'), ('/', '/'), ('b', '\x08'), ('f', '\x0c'), ('n', '\n'), ('r', '\r'),
    ('t', '\t')]

/-- Four hexadecimal digits that write the number `n`. -/
def IsUnit (ds : List Char) (n : Nat) : Prop :=
  ds.length = 4 ∧ (∀ d ∈ ds, isHexDigit d) ∧ ofHexDigits ds = n

/-- The ways to write a character inside a text. -/
inductive CharWritten : List Char → Char → Prop
  | plain {c : Char} (control : 0x20 ≤ c.val) (quote : c ≠ '"') (backslash : c ≠ '\\') :
    CharWritten [c] c
  | letter {e c : Char} (escape : (e, c) ∈ letterEscapes) : CharWritten ['\\', e] c
  | unit {ds : List Char} {c : Char} (digits : IsUnit ds c.toNat) :
      CharWritten ('\\' :: 'u' :: ds) c
  | halves {ds es : List Char} {high low : Nat} {c : Char} (digits : IsUnit ds high)
    (digits' : IsUnit es low) (first : isHighHalf high) (second : isLowHalf low)
    (joined : joinHalves high low = c.toNat) :
    CharWritten ('\\' :: 'u' :: (ds ++ '\\' :: 'u' :: es)) c

/-- Characters one after another, as they stand between quotes. -/
inductive CharsWritten : List Char → List Char → Prop
  | nil : CharsWritten [] []
  | cons {cs rest : List Char} {c : Char} {text : List Char} (first : CharWritten cs c)
    (others : CharsWritten rest text) : CharsWritten (cs ++ rest) (c :: text)

/-- A text in its quotes. -/
def TextWritten (cs : List Char) (s : String) : Prop :=
  ∃ inner, CharsWritten inner s.toList ∧ cs = '"' :: (inner ++ ['"'])

/-! ### Numbers -/

/-- Decimal digits, at least one. -/
def IsDigits (ds : List Char) : Prop :=
  ds ≠ [] ∧ ∀ d ∈ ds, d.isDigit

/-- The whole part of a number: a zero alone, or digits that do not begin with one. -/
def IsWhole (ds : List Char) : Prop :=
  ds = ['0'] ∨ IsDigits ds ∧ ds.head? ≠ some '0'

/-- What is behind the sign of a number, and the sign if it is negative. -/
def signed (negative : Bool) (cs : List Char) : List Char :=
  if negative then '-' :: cs else cs

/-- A whole number with its sign. -/
def signedInt (negative : Bool) (n : Nat) : Int :=
  if negative then -n else n

/-- The point with the places after it, or none of this. -/
inductive FractionWritten : List Char → List Char → Prop
  | absent : FractionWritten [] []
  | places {ds : List Char} (digits : IsDigits ds) : FractionWritten ('.' :: ds) ds

/-- The sign of an exponent, which may be left out. -/
inductive SignWritten : List Char → Bool → Prop
  | absent : SignWritten [] false
  | plus : SignWritten ['+'] false
  | minus : SignWritten ['-'] true

/-- An exponent. -/
inductive ExponentWritten : List Char → Int → Prop
  | written {mark : Char} {cs ds : List Char} {negative : Bool} (letter : mark = 'e' ∨ mark = 'E')
    (sign : SignWritten cs negative) (digits : IsDigits ds) :
    ExponentWritten (mark :: (cs ++ ds)) (signedInt negative (natOfDigits ds))

/-- The ways to write a number.  With a point or an exponent it is the floating-point number
nearest to the decimal. -/
inductive NumberWritten : List Char → Json → Prop
  | whole (negative : Bool) {ds : List Char} (digits : IsWhole ds) :
    NumberWritten (signed negative ds) (.int (signedInt negative (natOfDigits ds)))
  | decimal (negative : Bool) {ds places : List Char} (digits : IsWhole ds)
    (fraction : IsDigits places) :
    NumberWritten (signed negative (ds ++ '.' :: places))
      (.float (.ofDecimal negative (natOfDigits (ds ++ places)) (-places.length)))
  | scientific (negative : Bool) {ds cs places es : List Char} {e : Int} (digits : IsWhole ds)
    (fraction : FractionWritten cs places) (exponent : ExponentWritten es e) :
    NumberWritten (signed negative (ds ++ (cs ++ es)))
      (.float (.ofDecimal negative (natOfDigits (ds ++ places)) (e - places.length)))

/-! ### Values -/

/-- What stands between brackets: pieces with commas between them and gaps around them, or a gap
if there are none. -/
inductive Row : List Char → List (List Char) → Prop
  | none {gap : List Char} (blank : IsGap gap) : Row gap []
  | last {before cs after : List Char} (blank : IsGap before) (blank' : IsGap after) :
    Row (before ++ (cs ++ after)) [cs]
  | more {before cs after rest : List Char} {next : List Char} {pieces : List (List Char)}
    (blank : IsGap before) (blank' : IsGap after) (others : Row rest (next :: pieces)) :
    Row (before ++ (cs ++ (after ++ ',' :: rest))) (cs :: next :: pieces)

/-- A member of an object: what is written, and in it the name and the text of the value. -/
structure MemberText where
  piece : List Char
  name : String
  inner : List Char
  value : Json

/-- The name stands before the colon and the text of the value after it. -/
def MemberText.Named (m : MemberText) : Prop :=
  ∃ quoted gap gap', TextWritten quoted m.name ∧ IsGap gap ∧ IsGap gap' ∧
    m.piece = quoted ++ (gap ++ ':' :: (gap' ++ m.inner))

/-- The member itself. -/
def MemberText.member (m : MemberText) : String × Json :=
  (m.name, m.value)

/-- The characters write the value, with nothing around it. -/
inductive Writes : List Char → Json → Prop
  | null : Writes ['n', 'u', 'l', 'l'] .null
  | true : Writes ['t', 'r', 'u', 'e'] (.bool true)
  | false : Writes ['f', 'a', 'l', 's', 'e'] (.bool false)
  | number {cs : List Char} {v : Json} (written : NumberWritten cs v) : Writes cs v
  | string {cs : List Char} {s : String} (written : TextWritten cs s) : Writes cs (.string s)
  | array {cs : List Char} {items : List (List Char × Json)} (row : Row cs (items.map Prod.fst))
    (values : ∀ i ∈ items, Writes i.1 i.2) :
    Writes ('[' :: (cs ++ [']'])) (.array (items.map Prod.snd))
  | object {cs : List Char} {members : List MemberText}
    (row : Row cs (members.map MemberText.piece)) (named : ∀ m ∈ members, m.Named)
    (distinct : (members.map MemberText.name).Nodup)
    (values : ∀ m ∈ members, Writes m.inner m.value) :
    Writes ('\x7b' :: (cs ++ ['\x7d'])) (.object (members.map MemberText.member))

/-- The text writes the value. -/
def Written (text : String) (v : Json) : Prop :=
  ∃ before cs after, IsGap before ∧ Writes cs v ∧ IsGap after ∧
    text.toList = before ++ (cs ++ after)

/-! ### Limits -/

mutual

/-- At most `depth` containers lie within each other, and no whole number has too many digits. -/
def fits : Nat → Json → Bool
  | _, int n => (Nat.toDigits 10 n.natAbs).length ≤ maxDigits
  | 0, array _ => Bool.false
  | 0, object _ => Bool.false
  | depth + 1, array vs => allFit depth vs
  | depth + 1, object ms => membersFit depth ms
  | _, _ => Bool.true

def allFit (depth : Nat) : List Json → Bool
  | [] => Bool.true
  | v :: rest => fits depth v && allFit depth rest

def membersFit (depth : Nat) : List (String × Json) → Bool
  | [] => Bool.true
  | (_, v) :: rest => fits depth v && membersFit depth rest

end

mutual

/-- What lies within the limits lies within wider ones. -/
theorem fits_succ : ∀ (v : Json) (depth : Nat), fits depth v → fits (depth + 1) v
  | .null, _, _ => rfl
  | .bool _, _, _ => rfl
  | .int _, _, h => h
  | .float _, _, _ => rfl
  | .string _, _, _ => rfl
  | .array _, 0, h => by cases h
  | .array vs, depth + 1, h => allFit_succ vs depth h
  | .object _, 0, h => by cases h
  | .object ms, depth + 1, h => membersFit_succ ms depth h

theorem allFit_succ : ∀ (vs : List Json) (depth : Nat), allFit depth vs → allFit (depth + 1) vs
  | [], _, _ => rfl
  | v :: rest, depth, h => by
      rw [allFit, Bool.and_eq_true] at h ⊢
      exact ⟨fits_succ v depth h.1, allFit_succ rest depth h.2⟩

theorem membersFit_succ :
    ∀ (ms : List (String × Json)) (depth : Nat), membersFit depth ms → membersFit (depth + 1) ms
  | [], _, _ => rfl
  | (_, v) :: rest, depth, h => by
      rw [membersFit, Bool.and_eq_true] at h ⊢
      exact ⟨fits_succ v depth h.1, membersFit_succ rest depth h.2⟩

end

/-! ### Objects with the same members -/

/-- With distinct names a name stands for what it stands beside. -/
theorem Members.get?_eq_some_iff {ms : Members} (distinct : (ms.map Prod.fst).Nodup)
    {name : String} {v : Json} : ms.get? name = some v ↔ (name, v) ∈ ms := by
  unfold Members.get?
  induction ms with
  | nil => simp
  | cons m rest ih =>
      obtain ⟨name', v'⟩ := m
      rw [List.map_cons, List.nodup_cons] at distinct
      rw [List.lookup_cons, List.mem_cons, Prod.mk.injEq]
      by_cases hname : name = name'
      · subst hname
        have habsent : (name, v) ∉ rest := fun hmem =>
          distinct.1 (List.mem_map.mpr ⟨_, hmem, rfl⟩)
        simp [habsent, eq_comm]
      · simp [hname, beq_false_of_ne hname, ih distinct.2]

/-- The order of the members does not matter to what a name stands for. -/
theorem Members.get?_of_perm {ms ms' : Members} (h : ms.Perm ms')
    (distinct : (ms'.map Prod.fst).Nodup) (name : String) : ms.get? name = ms'.get? name := by
  have hnodup : (ms.map Prod.fst).Nodup := (h.map Prod.fst).nodup_iff.mpr distinct
  refine Option.ext fun v => ?_
  rw [get?_eq_some_iff hnodup, get?_eq_some_iff distinct, h.mem_iff]

theorem membersFit_eq (depth : Nat) (ms : Members) :
    membersFit depth ms = ms.all fun m => fits depth m.2 := by
  induction ms with
  | nil => rfl
  | cons m rest ih => rw [membersFit, List.all_cons, ih]

/-- The order of the members does not matter to the limits. -/
theorem fits_of_perm {ms ms' : Members} (h : ms.Perm ms') (depth : Nat) :
    fits depth (.object ms) = fits depth (.object ms') := by
  cases depth with
  | zero => rfl
  | succ depth => rw [fits, fits, membersFit_eq, membersFit_eq, h.all_eq]

end MfmRender.Json
