/-
Texts and numbers are read.

A scalar is read without looking inside it again, so it is dealt with before the
reader of values comes into play: a text by its characters, each written plain, as
a short escape or by its units, and a number by its parts.  A text is always read.
A number is read if it has no more digits than may be read; otherwise the reader
stops at that limit, and never because it takes the number for faulty.

A number has no end of its own.  It is read to the last character that can
belong to it, so what comes after it matters: it has to be something that stops a
number (`Ends`), as everything does that the grammar lets follow.
-/
import Mathlib.Algebra.Group.Nat.Defs
import MfmRender.Proofs.Json.Grammar

namespace MfmRender.Json.Reader

open Text (isHexDigit hexValue? isHighHalf isLowHalf joinHalves ofHexDigits unitChar)

/-- What a step reads, and the rest. -/
def result {α : Type} {cs : List Char} (step : Step α cs) : Except Stop (α × List Char) :=
  step.map fun read => (read.1, read.2.val)

theorem result_ok {α : Type} {cs rest : List Char} {a : α} (h : rest.length < cs.length) :
    result (.ok (a, ⟨rest, h⟩) : Step α cs) = .ok (a, rest) :=
  rfl

/-- The reader stopped at a limit. -/
def Stop.AtLimit : Stop → Prop
  | .fault .. => False
  | _ => True

/-- A value is read, and this rest is left, if the value lies within the limits; otherwise the
reader stops at a limit. -/
def Settles {α : Type} (found : Except Stop (α × List Char)) (fit : Bool) (a : α)
    (rest : List Char) : Prop :=
  if fit then found = .ok (a, rest) else ∃ e, found = .error e ∧ e.AtLimit

namespace Settles

variable {α β : Type} {found : Except Stop (α × List Char)} {fit : Bool} {a : α} {rest : List Char}

theorem read (h : found = .ok (a, rest)) : Settles found true a rest := h

theorem map {f : α → β} (h : Settles found fit a rest) :
    Settles (found.map fun read => (f read.1, read.2)) fit (f a) rest := by
  cases fit with
  | true => exact congrArg (Except.map fun read => (f read.1, read.2)) h
  | false =>
      obtain ⟨e, rfl, he⟩ := h
      exact ⟨e, rfl, he⟩

/-- One value after another: the first that does not fit stops the reader. -/
theorem bind {next : α × List Char → Except Stop (β × List Char)} {fit' : Bool} {b : β}
    {rest' : List Char} (h : Settles found fit a rest)
    (hnext : Settles (next (a, rest)) fit' b rest') :
    Settles (found.bind next) (fit && fit') b rest' := by
  cases fit with
  | true =>
      obtain rfl : found = .ok (a, rest) := h
      exact hnext
  | false =>
      obtain ⟨e, rfl, he⟩ := h
      exact ⟨e, rfl, he⟩

end Settles

/-! ### Gaps -/

theorem isSpace_of_isGap {gap : List Char} (h : IsGap gap) : ∀ c ∈ gap, isSpace c = true := by
  intro c hc
  rcases h c hc with rfl | rfl | rfl | rfl <;> rfl

theorem skip_gap {gap : List Char} (h : IsGap gap) (rest : List Char) :
    skip (gap ++ rest) = skip rest :=
  List.dropWhile_append_of_pos (isSpace_of_isGap h)

theorem skip_cons {c : Char} (hc : isSpace c = false) (rest : List Char) :
    skip (c :: rest) = c :: rest :=
  List.dropWhile_cons_of_neg (by simp [hc])

/-! ### Characters -/

theorem isHighHalf_toNat (c : Char) : isHighHalf c.toNat = false := by
  have hvalid : c.toNat < 0xd800 ∨ 0xdfff < c.toNat ∧ c.toNat < 0x110000 := c.valid
  simp only [isHighHalf, Bool.and_eq_false_iff, decide_eq_false_iff_not]
  omega

theorem unitChar_toNat (c : Char) : unitChar c.toNat = c := by
  have hvalid : c.toNat < 0xd800 ∨ 0xdfff < c.toNat ∧ c.toNat < 0x110000 := c.valid
  have hlow : isLowHalf c.toNat = false := by
    simp only [isLowHalf, Bool.and_eq_false_iff, decide_eq_false_iff_not]
    omega
  simp [unitChar, isHighHalf_toNat, hlow]

/-- Four digits are read as the number they write. -/
theorem hex4?_of_isUnit {ds : List Char} {n : Nat} (h : IsUnit ds n) :
    ∃ a b c d, ds = [a, b, c, d] ∧ hex4? a b c d = some n := by
  obtain ⟨hlength, hdigits, rfl⟩ := h
  obtain ⟨a, b, c, d, rfl⟩ : ∃ a b c d, ds = [a, b, c, d] := by
    match ds, hlength with
    | [a, b, c, d], _ => exact ⟨a, b, c, d, rfl⟩
  obtain ⟨x, hx⟩ := Option.isSome_iff_exists.mp (hdigits a (by simp))
  obtain ⟨y, hy⟩ := Option.isSome_iff_exists.mp (hdigits b (by simp))
  obtain ⟨z, hz⟩ := Option.isSome_iff_exists.mp (hdigits c (by simp))
  obtain ⟨w, hw⟩ := Option.isSome_iff_exists.mp (hdigits d (by simp))
  refine ⟨a, b, c, d, rfl, ?_⟩
  simp only [hex4?, ofHexDigits, hx, hy, hz, hw, List.foldl_cons, List.foldl_nil,
    Option.bind_eq_bind, Option.bind_some, Option.getD_some, Option.pure_def, Option.some.injEq]
  omega

theorem simpleEscape?_of_mem {e c : Char} (h : (e, c) ∈ letterEscapes) :
    simpleEscape? e = some c ∧ e ≠ 'u' := by
  simp only [letterEscapes, List.mem_cons, Prod.mk.injEq, List.not_mem_nil, or_false] at h
  rcases h with ⟨rfl, rfl⟩ | ⟨rfl, rfl⟩ | ⟨rfl, rfl⟩ | ⟨rfl, rfl⟩ | ⟨rfl, rfl⟩ | ⟨rfl, rfl⟩ |
    ⟨rfl, rfl⟩ | ⟨rfl, rfl⟩ <;> exact ⟨rfl, by decide⟩

/-- A written character is read, if the text goes on. -/
theorem character_written {cs : List Char} {c : Char} (h : CharWritten cs c) (start : Nat)
    (e : Char) (rest : List Char) :
    result (character start (cs ++ e :: rest)) = .ok (c, e :: rest) := by
  cases h with
  | plain control quote backslash =>
      have hcontrol : ¬ c.val < 0x20 := by simpa using control
      simp [character, backslash, hcontrol, result, Except.map]
  | letter escape =>
      obtain ⟨hescape, hu⟩ := simpleEscape?_of_mem escape
      simp [character, hu, hescape, result, Except.map]
  | unit digits =>
      obtain ⟨a, b, d, d', rfl, hread⟩ := hex4?_of_isUnit digits
      simp [character, hread, isHighHalf_toNat, unitChar_toNat, result, Except.map]
  | halves digits digits' first second joined =>
      obtain ⟨a, b, d, d', rfl, hread⟩ := hex4?_of_isUnit digits
      obtain ⟨a', b', e', f', rfl, hread'⟩ := hex4?_of_isUnit digits'
      simp [character, lowHalf?, hread, hread', first, second, joined, result, Except.map]

/-- A written character does not begin with a quote. -/
theorem head_of_charWritten {cs : List Char} {c : Char} (h : CharWritten cs c) :
    ∃ d tail, cs = d :: tail ∧ d ≠ '"' := by
  cases h with
  | plain control quote backslash => exact ⟨_, _, rfl, quote⟩
  | letter escape => exact ⟨_, _, rfl, by decide⟩
  | unit digits => exact ⟨_, _, rfl, by decide⟩
  | halves digits digits' first second joined => exact ⟨_, _, rfl, by decide⟩

/-- A text is read character by character. -/
theorem result_string {start : Nat} {cs : List Char} (hcs : ∀ rest, cs ≠ '"' :: rest) :
    result (string start cs) = (result (character start cs)).bind fun read =>
      (result (string start read.2)).map fun more => (read.1 :: more.1, more.2) := by
  rw [string.eq_2 start cs hcs]
  rcases character start cs with e | ⟨c, rest, hr⟩
  · rfl
  · simp only [result, Except.map, Except.bind]
    rcases string start rest with e | ⟨text, after, ha⟩ <;> rfl

/-- Written characters are read up to the quote after them. -/
theorem string_written {cs text : List Char} (h : CharsWritten cs text) (start : Nat)
    (rest : List Char) : result (string start (cs ++ '"' :: rest)) = .ok (text, rest) := by
  induction h with
  | nil => rw [List.nil_append, string.eq_1]; rfl
  | @cons cs more c text first others ih =>
      obtain ⟨e, after, hafter⟩ : ∃ e after, more ++ '"' :: rest = e :: after := by
        cases more <;> simp
      have hchar := character_written first start e after
      obtain ⟨d, tail, rfl, hd⟩ := head_of_charWritten first
      rw [hafter] at ih
      rw [List.append_assoc, result_string (by simp [hd]), hafter, hchar]
      simp only [Except.bind, ih, Except.map]

/-! ### Numbers -/

/-- Nothing at the front of the text can belong to a number before it. -/
def Ends (rest : List Char) : Prop :=
  ∀ c ∈ rest.head?, c.isDigit = false ∧ c ≠ '.' ∧ c ≠ 'e' ∧ c ≠ 'E'

theorem digits_append {ds rest : List Char} (h : ∀ d ∈ ds, d.isDigit)
    (hrest : ∀ c ∈ rest.head?, c.isDigit = false) : digits (ds ++ rest) = (ds, rest) := by
  rw [digits, List.takeWhile_append_of_pos h, List.dropWhile_append_of_pos h]
  cases rest with
  | nil => simp
  | cons c tail =>
      have hc : c.isDigit = false := hrest c rfl
      simp [hc]

theorem wholePart_append {ds rest : List Char} (h : IsWhole ds)
    (hrest : ∀ c ∈ rest.head?, c.isDigit = false) : wholePart (ds ++ rest) = (ds, rest) := by
  rcases h with rfl | ⟨⟨hne, hdigits⟩, hzero⟩
  · rfl
  · rw [wholePart.eq_2, digits_append hdigits hrest]
    intro tail htail
    cases ds with
    | nil => exact hne rfl
    | cons d more =>
        obtain ⟨rfl, -⟩ := List.cons.inj htail
        exact hzero rfl

theorem fraction_written {cs places rest : List Char} (h : FractionWritten cs places)
    (hrest : ∀ c ∈ rest.head?, c.isDigit = false ∧ c ≠ '.') :
    fraction (cs ++ rest) = (places, rest) := by
  cases h with
  | absent =>
      rw [List.nil_append]
      unfold fraction
      split
      · exact absurd rfl (hrest _ rfl).2
      · rfl
  | places digits =>
      obtain ⟨hne, hdigits⟩ := digits
      obtain ⟨d, more, rfl⟩ := List.exists_cons_of_ne_nil hne
      have hd : d.isDigit = true := hdigits d (by simp)
      have hread := digits_append hdigits fun c hc => (hrest c hc).1
      rw [List.cons_append] at hread
      simp [fraction, hd, hread]

theorem sign_written {cs : List Char} {negative : Bool} (h : SignWritten cs negative) {d : Char}
    (hd : d.isDigit) (rest : List Char) : sign (cs ++ d :: rest) = (negative, d :: rest) := by
  cases h with
  | absent =>
      rw [List.nil_append]
      unfold sign
      split
      · simp_all
      · simp_all
      · rfl
  | plus => rfl
  | minus => rfl

theorem exponent?_written {cs rest : List Char} {e : Int} (h : ExponentWritten cs e)
    (hrest : ∀ c ∈ rest.head?, c.isDigit = false) : exponent? (cs ++ rest) = some (e, rest) := by
  obtain @⟨mark, cs, ds, negative, letter, sign, hne, hdigits⟩ := h
  obtain ⟨d, more, rfl⟩ := List.exists_cons_of_ne_nil hne
  have hmark : (mark == 'e' || mark == 'E') = true := by
    rcases letter with rfl | rfl <;> rfl
  have hsign := sign_written sign (hdigits d (by simp)) (more ++ rest)
  have hread := digits_append hdigits hrest
  rw [List.cons_append] at hread
  simp only [List.cons_append, List.append_assoc, exponent?, hmark, if_true, hsign, hread]
  rfl

theorem exponent?_absent {rest : List Char} (hrest : Ends rest) : exponent? rest = none := by
  cases rest with
  | nil => rfl
  | cons c tail =>
      obtain ⟨-, -, he, hE⟩ := hrest c rfl
      simp [exponent?, he, hE]

/-! #### How many digits a number has -/

theorem natOfDigits_eq (ds : List Char) : natOfDigits ds = Nat.ofDigitChars 10 ds 0 := by
  simp only [natOfDigits, Nat.ofDigitChars_eq_foldl, Nat.mul_comm 10]
  rfl

theorem natOfDigits_cons (d : Char) (rest : List Char) :
    natOfDigits (d :: rest) = (d.toNat - 48) * 10 ^ rest.length + natOfDigits rest := by
  rw [natOfDigits_eq, natOfDigits_eq, Nat.ofDigitChars_cons, Nat.ofDigitChars_eq_ofDigitChars_zero,
    Nat.mul_zero, Nat.zero_add, Nat.mul_comm]
  rfl

theorem toNat_of_isDigit {d : Char} (h : d.isDigit = true) : 48 ≤ d.toNat ∧ d.toNat ≤ 57 := by
  simpa [Char.isDigit, UInt32.le_iff_toNat_le] using h

theorem ne_of_isDigit {c d : Char} (hc : c.isDigit = true) (hd : d.isDigit = false) : c ≠ d := by
  intro heq
  rw [heq, hd] at hc
  cases hc

theorem natOfDigits_lt {ds : List Char} (h : ∀ d ∈ ds, d.isDigit) :
    natOfDigits ds < 10 ^ ds.length := by
  induction ds with
  | nil => decide
  | cons d rest ih =>
      have hd := toNat_of_isDigit (h d (by simp))
      have hrest := ih fun c hc => h c (by simp [hc])
      rw [natOfDigits_cons, List.length_cons, Nat.pow_succ]
      have := Nat.mul_le_mul_right (10 ^ rest.length) (show d.toNat - 48 ≤ 9 by omega)
      omega

/-- A number has as many digits as it is written with, as there is no zero before them. -/
theorem length_toDigits_natOfDigits {ds : List Char} (h : IsWhole ds) {count : Nat}
    (hcount : 0 < count) :
    (Nat.toDigits 10 (natOfDigits ds)).length ≤ count ↔ ds.length ≤ count := by
  rw [Nat.length_toDigits_le_iff (by decide) hcount]
  rcases h with rfl | ⟨⟨hne, hdigits⟩, hzero⟩
  · have hpos := Nat.pow_pos (n := count) (show 0 < 10 by decide)
    simp [natOfDigits]
    omega
  · constructor
    · intro hlt
      obtain ⟨d, rest, rfl⟩ := List.exists_cons_of_ne_nil hne
      have hd := toNat_of_isDigit (hdigits d (by simp))
      have hd0 : d.toNat ≠ 48 := by
        intro heq
        exact hzero (congrArg some (Char.toNat_inj.mp heq))
      by_cases hle : rest.length + 1 ≤ count
      · exact hle
      · -- the first digit alone makes the number too great
        have hpow := Nat.pow_le_pow_right (show 0 < 10 by decide)
          (show count ≤ rest.length by omega)
        have hfirst := Nat.mul_le_mul_right (10 ^ rest.length) (show 1 ≤ d.toNat - 48 by omega)
        rw [natOfDigits_cons] at hlt
        omega
    · intro hle
      exact Nat.lt_of_lt_of_le (natOfDigits_lt hdigits)
        (Nat.pow_le_pow_right (by decide) hle)

/-! #### Numbers as values -/

theorem head_of_isWhole {ds : List Char} (h : IsWhole ds) :
    ∃ d more, ds = d :: more ∧ d.isDigit = true := by
  rcases h with rfl | ⟨⟨hne, hdigits⟩, -⟩
  · exact ⟨_, _, rfl, rfl⟩
  · obtain ⟨d, more, rfl⟩ := List.exists_cons_of_ne_nil hne
    exact ⟨d, more, rfl, hdigits d (by simp)⟩

/-- A sign is read as what it says of the number behind it. -/
theorem number_signed {ds : List Char} (h : IsWhole ds) (negative : Bool) (more rest : List Char) :
    ∃ start, number (signed negative (ds ++ more) ++ rest)
      = unsigned negative start (ds ++ (more ++ rest)) := by
  cases negative with
  | true => exact ⟨_, by simp [signed, number]; rfl⟩
  | false =>
      obtain ⟨d, tail, rfl, hd⟩ := head_of_isWhole h
      refine ⟨(d :: tail ++ more ++ rest).length, ?_⟩
      rw [signed, if_neg (by simp), number.eq_2]
      · rw [List.append_assoc]
      · rintro more' hmore'
        obtain ⟨rfl, -⟩ := List.cons.inj hmore'
        cases hd

theorem unsigned_eq {ds cs places rest : List Char} {negative : Bool} {start : Nat} (h : IsWhole ds)
    (hfraction : FractionWritten cs places)
    (hrest : ∀ c ∈ rest.head?, c.isDigit = false ∧ c ≠ '.') :
    unsigned negative start (ds ++ (cs ++ rest)) =
      match exponent? rest with
      | some (e, after) =>
        .ok (.float (.ofDecimal negative (natOfDigits (ds ++ places)) (e - places.length)), after)
      | none =>
        if places.isEmpty then
          if maxDigits < ds.length then .error (.tooManyDigits ds.length)
          else .ok (.int (signedInt negative (natOfDigits ds)), rest)
        else
          .ok (.float (.ofDecimal negative (natOfDigits (ds ++ places)) (-places.length)), rest) := by
  have hstop : ∀ c ∈ (cs ++ rest).head?, c.isDigit = false := by
    cases hfraction with
    | absent => exact fun c hc => (hrest c hc).1
    | places digits =>
        intro c hc
        cases hc
        rfl
  have hds : ds.isEmpty = false := by
    obtain ⟨d, more, rfl, -⟩ := head_of_isWhole h
    rfl
  simp only [unsigned, wholePart_append h hstop, fraction_written hfraction hrest, hds,
    Bool.false_eq_true, if_false]
  rfl

/-- A written number is read, if it has not too many digits. -/
theorem number_written {cs rest : List Char} {v : Json} (h : NumberWritten cs v) (hrest : Ends rest)
    (depth : Nat) : Settles (number (cs ++ rest)) (fits depth v) v rest := by
  have hstop : ∀ c ∈ rest.head?, c.isDigit = false ∧ c ≠ '.' :=
    fun c hc => ⟨(hrest c hc).1, (hrest c hc).2.1⟩
  cases h with
  | @whole negative ds digits =>
      obtain ⟨start, hnumber⟩ := number_signed digits negative [] rest
      rw [List.append_nil] at hnumber
      have hfits : fits depth (.int (signedInt negative (natOfDigits ds)))
          = decide (ds.length ≤ maxDigits) := by
        have habs : (signedInt negative (natOfDigits ds)).natAbs = natOfDigits ds := by
          cases negative <;> simp [signedInt]
        rw [fits, habs]
        exact decide_eq_decide.mpr (length_toDigits_natOfDigits digits (by decide))
      rw [hnumber, unsigned_eq digits .absent hstop, exponent?_absent hrest, hfits]
      by_cases hlong : maxDigits < ds.length
      · simp [Settles, hlong, Nat.not_le.mpr hlong, Stop.AtLimit]
      · simp [Settles, hlong, Nat.not_lt.mp hlong]
  | @decimal negative ds places digits fraction =>
      obtain ⟨start, hnumber⟩ := number_signed digits negative ('.' :: places) rest
      have hplaces : places.isEmpty = false := by simp [fraction.1]
      rw [hnumber, unsigned_eq digits (.places fraction) hstop, exponent?_absent hrest]
      simp [hplaces, fits, Settles]
  | @scientific negative ds cs places es e digits fraction exponent =>
      obtain ⟨start, hnumber⟩ := number_signed digits negative (cs ++ es) rest
      have hmark : ∀ c ∈ (es ++ rest).head?, c.isDigit = false ∧ c ≠ '.' := by
        obtain @⟨mark, sign, ds', negative', letter, hsign, hdigits⟩ := exponent
        intro c hc
        obtain rfl : mark = c := Option.some.inj hc
        rcases letter with rfl | rfl <;> decide
      rw [hnumber, List.append_assoc, unsigned_eq digits fraction hmark,
        exponent?_written exponent fun c hc => (hrest c hc).1]
      simp [fits, Settles]

/-- A number begins with a digit, or with a sign and a digit. -/
theorem head_of_numberWritten {cs : List Char} {v : Json} (h : NumberWritten cs v) :
    ∃ c tail, cs = c :: tail ∧
      (c.isDigit = true ∨ c = '-' ∧ ∃ d more, tail = d :: more ∧ d.isDigit = true) := by
  have hsigned : ∀ (negative : Bool) {ds : List Char} (more : List Char), IsWhole ds →
      ∃ c tail, signed negative (ds ++ more) = c :: tail ∧
        (c.isDigit = true ∨ c = '-' ∧ ∃ d more, tail = d :: more ∧ d.isDigit = true) := by
    intro negative ds more hds
    obtain ⟨d, tail, rfl, hd⟩ := head_of_isWhole hds
    cases negative with
    | true => exact ⟨_, _, rfl, Or.inr ⟨rfl, _, _, rfl, hd⟩⟩
    | false => exact ⟨_, _, rfl, Or.inl hd⟩
  cases h with
  | whole negative digits => simpa using hsigned negative [] digits
  | decimal negative digits fraction => exact hsigned negative _ digits
  | scientific negative digits fraction exponent => exact hsigned negative _ digits

end MfmRender.Json.Reader
