/-
The bytes of an object's text.

The encoding of a JSON text is guessed from its first bytes.  The text of an object
begins with two characters of ASCII, so it is taken for what it is, and its
characters are found again.
-/
import MfmRender.Json.Encoding
import MfmRender.Proofs.Json.Reading

namespace MfmRender.Json.Encoding

/-! ### Bytes -/

theorem toList_loop (bs : ByteArray) (i : Nat) (read : List UInt8) :
    ByteArray.toList.loop bs i read = read.reverse ++ bs.data.toList.drop i := by
  fun_induction ByteArray.toList.loop bs i read with
  | case1 i read hi ih =>
      have hi' : i < bs.data.toList.length := by simpa using hi
      have hget : bs.get! i = bs.data.toList[i] := by
        rw [Array.getElem_toList]
        exact getElem!_pos bs.data i hi
      rw [ih, hget, List.drop_eq_getElem_cons hi', List.reverse_cons, List.append_assoc]
      rfl
  | case2 i read hi =>
      rw [List.drop_eq_nil_of_le (by simpa using hi), List.append_nil]

/-- The bytes of a text are those of its characters. -/
theorem toList_toUTF8 (content : String) :
    content.toUTF8.toList = content.toList.flatMap String.utf8EncodeChar := by
  rw [String.toUTF8_eq_toByteArray, ← String.utf8Encode_toList, List.utf8Encode]
  rw [ByteArray.toList, toList_loop, List.toList_data_toByteArray]
  rfl

/-- A character of ASCII other than null. -/
def IsAscii (c : Char) : Prop :=
  0 < c.toNat ∧ c.toNat < 0x80

theorem utf8EncodeChar_of_isAscii {c : Char} (h : IsAscii c) :
    ∃ b, String.utf8EncodeChar c = [b] ∧ b ≠ 0 := by
  have hsize : c.utf8Size = 1 := Char.utf8Size_eq_one_iff.mpr (by
    rw [UInt32.le_iff_toNat_le]
    exact Nat.le_of_lt_succ h.2)
  refine ⟨_, String.utf8EncodeChar_eq_singleton hsize, ?_⟩
  intro hzero
  have hnat := congrArg UInt8.toNat hzero
  have hval : c.val.toNat = c.toNat := rfl
  simp only [UInt32.toNat_toUInt8, hval] at hnat
  obtain ⟨hpos, hlt⟩ := h
  have : (0 : UInt8).toNat = 0 := rfl
  omega

/-- A text that begins with two such characters is read as it stands. -/
theorem characters?_of_isAscii {content : String} {c d : Char} {rest : List Char}
    (h : content.toList = c :: d :: rest) (hc : IsAscii c) (hd : IsAscii d) :
    characters? content = some content.toList := by
  obtain ⟨a, ha, hne⟩ := utf8EncodeChar_of_isAscii hc
  obtain ⟨b, hb, hne'⟩ := utf8EncodeChar_of_isAscii hd
  have hbytes : content.toUTF8.toList = a :: b :: rest.flatMap String.utf8EncodeChar := by
    rw [toList_toUTF8, h, List.flatMap_cons, List.flatMap_cons, ha, hb]
    rfl
  have hutf8 : ofBytes content.toUTF8.toList = utf8 := by
    rw [hbytes]
    unfold ofBytes
    split <;> simp_all
  have hmark : Text.dropMark content.toList = content.toList := by
    rw [h]
    unfold Text.dropMark
    split
    · rename_i hcons
      obtain ⟨rfl, -⟩ := List.cons.inj hcons
      exact absurd hc.2 (by decide)
    · rfl
  rw [characters?, hutf8, hmark]

/-! ### The text of an object -/

theorem isAscii_of_isGap {gap : List Char} (h : IsGap gap) : ∀ c ∈ gap, IsAscii c := by
  intro c hc
  rcases h c hc with rfl | rfl | rfl | rfl <;> exact ⟨by decide, by decide⟩

theorem head_gap {gap : List Char} (h : IsGap gap) {c : Char} (hc : IsAscii c) (rest : List Char) :
    ∃ d more, gap ++ c :: rest = d :: more ∧ IsAscii d := by
  cases gap with
  | nil => exact ⟨c, rest, rfl, hc⟩
  | cons d tail => exact ⟨d, _, rfl, isAscii_of_isGap h d (by simp)⟩

/-- What follows the brace that opens an object is a gap, a quote or the brace that closes it. -/
theorem head_members {inner : List Char} {ms : List MemberText}
    (row : Row inner (ms.map MemberText.piece)) (named : ∀ m ∈ ms, m.Named) (rest : List Char) :
    ∃ d more, inner ++ '\x7d' :: rest = d :: more ∧ IsAscii d := by
  have hbrace : IsAscii '\x7d' := ⟨by decide, by decide⟩
  have hquote : IsAscii '"' := ⟨by decide, by decide⟩
  cases ms with
  | nil =>
      obtain ⟨blank⟩ := row
      exact head_gap blank hbrace rest
  | cons m ms =>
      obtain ⟨quoted, gap, gap', ⟨name, -, rfl⟩, -, -, hpiece⟩ := named m (by simp)
      rw [List.map_cons, hpiece] at row
      generalize ms.map MemberText.piece = others at row
      cases row with
      | last blank blank' =>
          rw [List.append_assoc]
          exact head_gap blank hquote _
      | more blank blank' others =>
          rw [List.append_assoc]
          exact head_gap blank hquote _

/-- **The bytes of an object's text are read as its characters.** -/
theorem characters?_written {text : String} {ms : Members} (h : Written text (.object ms)) :
    characters? text = some text.toList := by
  have hbrace : IsAscii '\x7b' := ⟨by decide, by decide⟩
  obtain ⟨before, cs, after, blank, hwrites, -, htext⟩ := h
  cases hwrites with
  | number written => cases written
  | @object inner ms row named distinct values =>
      cases before with
      | nil =>
          obtain ⟨d, more, hd, hascii⟩ := head_members row named after
          have hcons : text.toList = '\x7b' :: d :: more := by
            rw [htext, ← hd]
            simp
          exact characters?_of_isAscii hcons hbrace hascii
      | cons c gap =>
          have hgap : IsGap gap := fun d hd => blank d (by simp [hd])
          obtain ⟨d, more, hd, hascii⟩ := head_gap hgap hbrace (inner ++ ['\x7d'] ++ after)
          have hcons : text.toList = c :: d :: more := by
            rw [htext, ← hd]
            simp
          exact characters?_of_isAscii hcons (isAscii_of_isGap blank c (by simp)) hascii

end MfmRender.Json.Encoding
