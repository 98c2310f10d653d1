/-
UTF-8 is read back as it was written.

A character is written as one to four bytes, by its number alone.  Reading keeps
what the bytes so far say and what the next one has to be, and the ranges that it
allows are narrower than a trailing byte in four places: after the first bytes of
the overlong forms, of the surrogates and of the numbers beyond the last
character.  None of the three can come up here, the first because the number is
too large for a shorter form, the others because it is the number of a character.
-/
import Mathlib.Tactic.IntervalCases
import MfmRender.Text.Utf8

namespace MfmRender.Text.Utf8

/-- The number of a character is in one of two ranges, below the surrogates or above them. -/
theorem toNat_cases (c : Char) : c.toNat < 0xd800 ∨ 0xdfff < c.toNat ∧ c.toNat < 0x110000 :=
  c.valid

theorem toNat_ofNat_of_lt {n : Nat} (h : n < 256) : (UInt8.ofNat n).toNat = n := by
  rw [UInt8.toNat_ofNat']
  exact Nat.mod_eq_of_lt h

/-! ### Trailing bytes -/

/-- A trailing byte is in the range of those that are not narrowed. -/
theorem trailing_fits (n : Nat) :
    (0x80 : UInt8).toNat ≤ n % 64 + 128 ∧ n % 64 + 128 ≤ (0xbf : UInt8).toNat := by
  constructor
  · exact Nat.le_add_left 128 _
  · exact Nat.add_le_add_right (Nat.le_of_lt_succ (Nat.mod_lt n (by decide))) 128

section Trailing

variable {first low high : UInt8} {start position taken value n : Nat}

theorem trailing_between (h : low.toNat ≤ n % 64 + 128 ∧ n % 64 + 128 ≤ high.toNat) :
    (UInt8.ofNat (n % 64 + 128)).toNat = n % 64 + 128 ∧
      low ≤ UInt8.ofNat (n % 64 + 128) ∧ UInt8.ofNat (n % 64 + 128) ≤ high := by
  have hn : (UInt8.ofNat (n % 64 + 128)).toNat = n % 64 + 128 := toNat_ofNat_of_lt (by omega)
  rw [UInt8.le_iff_toNat_le, UInt8.le_iff_toNat_le, hn]
  exact ⟨rfl, h⟩

/-- A trailing byte that is not the last one is taken into the number. -/
theorem decodeFrom_trailing {later : Nat}
    (h : low.toNat ≤ n % 64 + 128 ∧ n % 64 + 128 ≤ high.toNat) (rest : List UInt8) :
    decodeFrom position (some ⟨first, start, taken, value, later + 1, low, high⟩)
        (UInt8.ofNat (n % 64 + 128) :: rest)
      = decodeFrom (position + 1)
        (some ⟨first, start, taken + 1, value * 64 + n % 64, later, 0x80, 0xbf⟩) rest := by
  obtain ⟨hn, hfits⟩ := trailing_between h
  simp only [decodeFrom, if_pos hfits, hn, Nat.add_sub_cancel]

/-- The last trailing byte makes the character. -/
theorem decodeFrom_last (h : low.toNat ≤ n % 64 + 128 ∧ n % 64 + 128 ≤ high.toNat)
    (rest : List UInt8) :
    decodeFrom position (some ⟨first, start, taken, value, 0, low, high⟩)
        (UInt8.ofNat (n % 64 + 128) :: rest)
      = (decodeFrom (position + 1) none rest).map (Char.ofNat (value * 64 + n % 64) :: ·) := by
  obtain ⟨hn, hfits⟩ := trailing_between h
  simp only [decodeFrom, if_pos hfits, hn, Nat.add_sub_cancel]

end Trailing

/-! ### First bytes -/

theorem decodeFrom_first {b : UInt8} {position : Nat} {begun : Begun} (hb : 0x80 ≤ b.toNat)
    (h : begin? b position = some begun) (rest : List UInt8) :
    decodeFrom position none (b :: rest) = decodeFrom (position + 1) (some begun) rest := by
  have hascii : ¬ b < 0x80 := by
    rw [UInt8.lt_iff_toNat_lt]
    exact Nat.not_lt.mpr hb
  simp only [decodeFrom, if_neg hascii, h]

theorem begin?_two {n : Nat} (hlow : 2 ≤ n) (hhigh : n < 32) (position : Nat) :
    begin? (UInt8.ofNat (n + 192)) position
      = some ⟨UInt8.ofNat (n + 192), position, 1, n, 0, 0x80, 0xbf⟩ := by
  have hn : (UInt8.ofNat (n + 192)).toNat = n + 192 := toNat_ofNat_of_lt (by omega)
  have h2 : ¬ UInt8.ofNat (n + 192) < 0xc2 := by
    rw [UInt8.lt_iff_toNat_lt, hn]
    exact Nat.not_lt.mpr (Nat.add_le_add_right hlow 192)
  have h3 : UInt8.ofNat (n + 192) < 0xe0 := by
    rw [UInt8.lt_iff_toNat_lt, hn]
    exact Nat.add_lt_add_right hhigh 192
  simp only [begin?, if_neg h2, if_pos h3, hn, Nat.add_sub_cancel]

theorem begin?_three {n : Nat} (h : n < 16) (position : Nat) :
    begin? (UInt8.ofNat (n + 224)) position
      = some ⟨UInt8.ofNat (n + 224), position, 1, n, 1, if n = 0 then 0xa0 else 0x80,
          if n = 13 then 0x9f else 0xbf⟩ := by
  interval_cases n <;> rfl

theorem begin?_four {n : Nat} (h : n < 5) (position : Nat) :
    begin? (UInt8.ofNat (n + 240)) position
      = some ⟨UInt8.ofNat (n + 240), position, 1, n, 2, if n = 0 then 0x90 else 0x80,
          if n = 4 then 0x8f else 0xbf⟩ := by
  interval_cases n <;> rfl

/-! ### Whole characters -/

/-- The second of three bytes is in its range: no shorter form would do, and the number is not a
surrogate's. -/
theorem second_of_three_fits {v : Nat} (hlow : 0x7ff < v) (hhigh : v ≤ 0xffff)
    (hvalid : v < 0xd800 ∨ 0xdfff < v) :
    (if v / 4096 % 16 = 0 then (0xa0 : UInt8) else 0x80).toNat ≤ v / 64 % 64 + 128 ∧
      v / 64 % 64 + 128 ≤ (if v / 4096 % 16 = 13 then (0x9f : UInt8) else 0xbf).toNat := by
  constructor
  · split
    · show 0xa0 ≤ v / 64 % 64 + 128
      omega
    · exact (trailing_fits _).1
  · split
    · show v / 64 % 64 + 128 ≤ 0x9f
      omega
    · exact (trailing_fits _).2

/-- The second of four bytes is in its range: no shorter form would do, and there is a character of
this number. -/
theorem second_of_four_fits {v : Nat} (hlow : 0xffff < v) (hhigh : v < 0x110000) :
    (if v / 262144 % 8 = 0 then (0x90 : UInt8) else 0x80).toNat ≤ v / 4096 % 64 + 128 ∧
      v / 4096 % 64 + 128 ≤ (if v / 262144 % 8 = 4 then (0x8f : UInt8) else 0xbf).toNat := by
  constructor
  · split
    · show 0x90 ≤ v / 4096 % 64 + 128
      omega
    · exact (trailing_fits _).1
  · split
    · show v / 4096 % 64 + 128 ≤ 0x8f
      omega
    · exact (trailing_fits _).2

/-- **The bytes of a character are read as the character.** -/
theorem decodeFrom_utf8EncodeChar (c : Char) (rest : List UInt8) (position : Nat) :
    decodeFrom position none (String.utf8EncodeChar c ++ rest)
      = (decodeFrom (position + (String.utf8EncodeChar c).length) none rest).map (c :: ·) := by
  have hvalid := toNat_cases c
  have hc : Char.ofNat c.toNat = c := Char.ofNat_toNat c
  have hval : c.val.toNat = c.toNat := rfl
  unfold String.utf8EncodeChar
  simp only [hval]
  generalize c.toNat = v at hvalid hc
  split_ifs with hone htwo hthree
  · have hb : (UInt8.ofNat v).toNat = v := toNat_ofNat_of_lt (by omega)
    have hascii : UInt8.ofNat v < 0x80 := by
      rw [UInt8.lt_iff_toNat_lt, hb]
      exact Nat.lt_succ_of_le hone
    simp only [List.cons_append, List.nil_append, decodeFrom, if_pos hascii, hb, hc]
    rfl
  · have hv : v / 64 % 32 * 64 + v % 64 = v := by omega
    have hfirst : (UInt8.ofNat (v / 64 % 32 + 192)).toNat = v / 64 % 32 + 192 :=
      toNat_ofNat_of_lt (by omega)
    simp only [List.cons_append, List.nil_append]
    rw [decodeFrom_first (by omega) (begin?_two (by omega) (by omega) position),
      decodeFrom_last (trailing_fits _), hv, hc]
    rfl
  · have hv : (v / 4096 % 16 * 64 + v / 64 % 64) * 64 + v % 64 = v := by omega
    have hfirst : (UInt8.ofNat (v / 4096 % 16 + 224)).toNat = v / 4096 % 16 + 224 :=
      toNat_ofNat_of_lt (by omega)
    simp only [List.cons_append, List.nil_append]
    rw [decodeFrom_first (by omega) (begin?_three (by omega) position),
      decodeFrom_trailing (second_of_three_fits (by omega) hthree (by omega)),
      decodeFrom_last (trailing_fits _), hv, hc]
    rfl
  · have hv : ((v / 262144 % 8 * 64 + v / 4096 % 64) * 64 + v / 64 % 64) * 64 + v % 64 = v := by
      omega
    have hfirst : (UInt8.ofNat (v / 262144 % 8 + 240)).toNat = v / 262144 % 8 + 240 :=
      toNat_ofNat_of_lt (by omega)
    simp only [List.cons_append, List.nil_append]
    rw [decodeFrom_first (by omega) (begin?_four (by omega) position),
      decodeFrom_trailing (second_of_four_fits (by omega) (by omega)),
      decodeFrom_trailing (trailing_fits _), decodeFrom_last (trailing_fits _), hv, hc]
    rfl

/-- **The bytes of a text are read as the text.** -/
theorem decode_flatMap_utf8EncodeChar (cs : List Char) :
    decode (cs.flatMap String.utf8EncodeChar) = .ok cs := by
  have general : ∀ position,
      decodeFrom position none (cs.flatMap String.utf8EncodeChar) = .ok cs := by
    induction cs with
    | nil => intro position; rfl
    | cons c cs ih =>
        intro position
        rw [List.flatMap_cons, decodeFrom_utf8EncodeChar, ih]
        rfl
  exact general 0

end MfmRender.Text.Utf8
