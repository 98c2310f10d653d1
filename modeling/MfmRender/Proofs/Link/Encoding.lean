/-
Tags and queries in addresses.

A tag is put into an address as one segment of a path, and a query as one value.
Neither can leave its place, because what is written consists of characters that
mean nothing in an address and of escaped bytes (`Escaped`); and both can be read
back, the escapes first and then the bytes as UTF-8.  A space in a query is a plus
sign.  That cannot be mistaken for a plus sign of the query, which is escaped, so
plus signs are read as spaces before the escapes are looked at, and not after.
-/
import MfmRender.Proofs.Link.Scheme
import MfmRender.Proofs.Text.Utf8

namespace MfmRender

namespace Text.Percent

/-- The digits that bytes are escaped with. -/
def capitalDigits : List Char :=
  "0123456789ABCDEF".toList

/-- A text of letters and digits of ASCII, of certain marks, and of escaped bytes. -/
inductive Escaped (marks : List Char) : List Char → Prop
  | nil : Escaped marks []
  | plain {c : Char} {rest : List Char} (hc : c.isAlphanum = true ∨ c ∈ marks)
    (more : Escaped marks rest) : Escaped marks (c :: rest)
  | byte {high low : Char} {rest : List Char} (hhigh : high ∈ capitalDigits)
    (hlow : low ∈ capitalDigits) (more : Escaped marks rest) :
    Escaped marks ('%' :: high :: low :: rest)

/-- The marks that a segment of a path is written with. -/
def segmentMarks : List Char :=
  ['_', '.', '-', '~']

/-- A text with a space for every plus sign. -/
def plusSpaces (cs : List Char) : List Char :=
  cs.map fun c => if c = '+' then ' ' else c

/-! ### What is written -/

theorem Escaped.append {marks cs ds : List Char} (hc : Escaped marks cs) (hd : Escaped marks ds) :
    Escaped marks (cs ++ ds) := by
  induction hc with
  | nil => exact hd
  | plain hc _ ih => exact .plain hc ih
  | byte hhigh hlow _ ih => exact .byte hhigh hlow ih

theorem Escaped.mono {marks more cs : List Char} (h : Escaped marks cs) (hsub : marks ⊆ more) :
    Escaped more cs := by
  induction h with
  | nil => exact .nil
  | plain hc _ ih => exact .plain (hc.imp_right (hsub ·)) ih
  | byte hhigh hlow _ ih => exact .byte hhigh hlow ih

theorem Escaped.flatMap {α : Type} {marks : List Char} {f : α → List Char}
    (h : ∀ a, Escaped marks (f a)) (as : List α) : Escaped marks (as.flatMap f) := by
  induction as with
  | nil => exact .nil
  | cons a as ih =>
      rw [List.flatMap_cons]
      exact (h a).append ih

theorem digit_mem : ∀ n < 16, digit n ∈ capitalDigits := by
  decide

theorem hexValue?_digit : ∀ n < 16, hexValue? (digit n) = some n := by
  decide

/-- The two halves of a byte are digits. -/
theorem halves_lt (b : UInt8) : b.toNat / 16 < 16 ∧ b.toNat % 16 < 16 := by
  have hb := b.toNat_lt
  omega

theorem escaped_encodeByte (marks : List Char) (b : UInt8) : Escaped marks (encodeByte b) := by
  obtain ⟨hhigh, hlow⟩ := halves_lt b
  exact .byte (digit_mem _ hhigh) (digit_mem _ hlow) .nil

theorem isUnreserved_iff {c : Char} :
    isUnreserved c = true ↔ c.isAlphanum = true ∨ c ∈ segmentMarks := by
  simp [isUnreserved, segmentMarks, or_assoc]

theorem escaped_encodeChar (c : Char) : Escaped segmentMarks (encodeChar c) := by
  unfold encodeChar
  split
  · rename_i hc
    exact .plain (isUnreserved_iff.mp hc) .nil
  · exact Escaped.flatMap (escaped_encodeByte segmentMarks) _

/-- **A segment is written with nothing but letters, digits, four marks and escapes.** -/
theorem escaped_encode (cs : List Char) : Escaped segmentMarks (encode cs) :=
  Escaped.flatMap escaped_encodeChar cs

theorem escaped_encodeQuery (cs : List Char) : Escaped ('+' :: segmentMarks) (encodeQuery cs) := by
  refine Escaped.flatMap ?_ cs
  intro c
  split
  · exact .plain (Or.inr (List.mem_cons_self ..)) .nil
  · exact (escaped_encodeChar c).mono (List.subset_cons_self ..)

/-! ### What is read -/

theorem decode_cons_of_ne {c : Char} (h : c ≠ '%') (rest : List Char) :
    decode (c :: rest) = String.utf8EncodeChar c ++ decode rest := by
  rw [decode]
  intro a b more hc
  exact absurd hc h

theorem decode_encodeByte (b : UInt8) (rest : List Char) :
    decode (encodeByte b ++ rest) = b :: decode rest := by
  obtain ⟨hhigh, hlow⟩ := halves_lt b
  have hb : b.toNat / 16 * 16 + b.toNat % 16 = b.toNat := Nat.div_add_mod' ..
  simp only [encodeByte, List.cons_append, List.nil_append, decode, hexValue?_digit _ hhigh,
    hexValue?_digit _ hlow, hb, UInt8.ofNat_toNat]

theorem decode_encodeBytes (bs : List UInt8) (rest : List Char) :
    decode (bs.flatMap encodeByte ++ rest) = bs ++ decode rest := by
  induction bs with
  | nil => rfl
  | cons b bs ih =>
      rw [List.flatMap_cons, List.append_assoc, decode_encodeByte, ih, List.cons_append]

/-- A character is read back as its bytes, whether it stands for itself or is escaped. -/
theorem decode_encodeChar (c : Char) (rest : List Char) :
    decode (encodeChar c ++ rest) = String.utf8EncodeChar c ++ decode rest := by
  unfold encodeChar
  split
  · rename_i hc
    have hne : c ≠ '%' := by
      rintro rfl
      exact absurd hc (by decide)
    exact decode_cons_of_ne hne rest
  · exact decode_encodeBytes _ rest

theorem decode_flatMap {f : Char → List Char}
    (h : ∀ c rest, decode (f c ++ rest) = String.utf8EncodeChar c ++ decode rest)
    (cs : List Char) : decode (cs.flatMap f) = cs.flatMap String.utf8EncodeChar := by
  induction cs with
  | nil => rfl
  | cons c cs ih => rw [List.flatMap_cons, h, ih, List.flatMap_cons]

/-- **What is written as a segment is read back.** -/
theorem decode_encode (cs : List Char) :
    Utf8.decode (decode (encode cs)) = .ok cs := by
  rw [encode, decode_flatMap decode_encodeChar, Utf8.decode_flatMap_utf8EncodeChar]

/-- A plus sign that is no mark is not written. -/
theorem Escaped.plus_notMem {marks cs : List Char} (h : Escaped marks cs) (hmarks : '+' ∉ marks) :
    '+' ∉ cs := by
  induction h with
  | nil => simp
  | plain hc _ ih =>
      rw [List.mem_cons, not_or]
      refine ⟨?_, ih⟩
      rintro rfl
      exact hc.elim (by decide) hmarks
  | byte hhigh hlow _ ih =>
      have hdigits : '+' ∉ capitalDigits := by decide
      simp only [List.mem_cons, not_or]
      exact ⟨by decide, fun heq => hdigits (heq ▸ hhigh), fun heq => hdigits (heq ▸ hlow), ih⟩

theorem plusSpaces_of_notMem {cs : List Char} (h : '+' ∉ cs) : plusSpaces cs = cs := by
  have hsame : ∀ c ∈ cs, (if c = '+' then ' ' else c) = c := by
    intro c hc
    refine if_neg ?_
    rintro rfl
    exact h hc
  rw [plusSpaces, List.map_congr_left hsame, List.map_id']

/-- The plus signs in a query are those that stand for spaces. -/
theorem plusSpaces_encodeQuery (cs : List Char) :
    plusSpaces (encodeQuery cs) = cs.flatMap fun c => if c == ' ' then [' '] else encodeChar c := by
  rw [plusSpaces, encodeQuery, List.map_flatMap]
  congr 1
  funext c
  split
  · rfl
  · exact plusSpaces_of_notMem ((escaped_encodeChar c).plus_notMem (by decide))

/-- **What is written as a query is read back.** -/
theorem decode_encodeQuery (cs : List Char) :
    Utf8.decode (decode (plusSpaces (encodeQuery cs))) = .ok cs := by
  have hchar : ∀ c rest, decode ((if c == ' ' then [' '] else encodeChar c) ++ rest)
      = String.utf8EncodeChar c ++ decode rest := by
    intro c rest
    split
    · rename_i hspace
      obtain rfl : c = ' ' := by simpa using hspace
      exact decode_cons_of_ne (by decide) rest
    · exact decode_encodeChar c rest
  rw [plusSpaces_encodeQuery, decode_flatMap hchar, Utf8.decode_flatMap_utf8EncodeChar]

theorem encode_injective : Function.Injective encode := by
  intro cs ds h
  have hread := decode_encode cs
  rw [h, decode_encode] at hread
  exact (Except.ok.inj hread).symm

theorem encodeQuery_injective : Function.Injective encodeQuery := by
  intro cs ds h
  have hread := decode_encodeQuery cs
  rw [h, decode_encodeQuery] at hread
  exact (Except.ok.inj hread).symm

end Text.Percent

namespace Link

open Text

/-- What an address on some host, or on the site itself, begins with. -/
def siteStart (instanceHost : Option String) : String :=
  match instanceHost with
  | none => ""
  | some host => if host = "" then "" else "https://" ++ host

/-- The address of a tag is its segment behind a path that does not depend on it. -/
theorem hashtag_eq (tag : String) (instanceHost : Option String) :
    hashtag tag instanceHost
      = siteStart instanceHost ++ "/tags/" ++ String.ofList (Percent.encode tag.toList) := by
  rcases instanceHost with _ | host
  · rfl
  · by_cases hempty : host = ""
    · subst hempty
      rfl
    · have hhost : host? (some host) = some host := by simp [host?, Option.filter, hempty]
      rw [hashtag, hhost, siteStart, if_neg hempty]
      simp only [String.append_assoc]

theorem isExternal_hashtag_iff (tag : String) (instanceHost : Option String) :
    isExternal (hashtag tag instanceHost) = true ↔ IsGiven instanceHost := by
  unfold hashtag
  split
  · rename_i host hhost
    rw [String.append_assoc]
    simp [isExternal_secure, isGiven_of_host? hhost]
  · rename_i hhost
    have hlocal : ∀ segment : String, isExternal ("/tags/" ++ segment) = false := by
      intro segment
      have hsplit : "/tags/" ++ segment = "/" ++ ("tags/" ++ segment) := by
        rw [← String.append_assoc]
        rfl
      have hhead : ("tags/".toList ++ segment.toList).head? = some 't' := rfl
      rw [hsplit, Bool.eq_false_iff, Ne, isExternal_slash_iff, String.toList_append, hhead]
      decide
    simp [hlocal, host?_eq_none_iff.mp hhost]

end Link

/-- **A tag and a query stay in their places in an address, and can be read back from it.** -/
theorem encoded_addresses (text : String) :
    (∃ segment, Text.Percent.Escaped Text.Percent.segmentMarks segment ∧
      Text.Utf8.decode (Text.Percent.decode segment) = .ok text.toList ∧
      ∀ instanceHost, Link.hashtag text instanceHost
        = Link.siteStart instanceHost ++ "/tags/" ++ String.ofList segment) ∧
    (∃ value, Text.Percent.Escaped ('+' :: Text.Percent.segmentMarks) value ∧
      Text.Utf8.decode (Text.Percent.decode (Text.Percent.plusSpaces value)) = .ok text.toList ∧
      Link.search text = "https://www.google.com/search?q=" ++ String.ofList value) ∧
    (∀ instanceHost,
      Link.isExternal (Link.hashtag text instanceHost) = true ↔ Link.IsGiven instanceHost) ∧
    (∀ other instanceHost,
      Link.hashtag other instanceHost = Link.hashtag text instanceHost ↔ other = text) ∧
    ∀ other, Link.search other = Link.search text ↔ other = text := by
  refine ⟨⟨_, Text.Percent.escaped_encode _, Text.Percent.decode_encode _,
    Link.hashtag_eq text⟩, ⟨_, Text.Percent.escaped_encodeQuery _,
    Text.Percent.decode_encodeQuery _, rfl⟩, Link.isExternal_hashtag_iff text, ?_, ?_⟩
  · intro other instanceHost
    refine ⟨fun h => ?_, fun h => congrArg (Link.hashtag · instanceHost) h⟩
    rw [Link.hashtag_eq, Link.hashtag_eq, String.append_right_inj, String.ofList_inj] at h
    exact String.toList_inj.mp (Text.Percent.encode_injective h)
  · intro other
    refine ⟨fun h => ?_, congrArg Link.search⟩
    rw [Link.search, Link.search, String.append_right_inj, String.ofList_inj] at h
    exact String.toList_inj.mp (Text.Percent.encodeQuery_injective h)

end MfmRender
