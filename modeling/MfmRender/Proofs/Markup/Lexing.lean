/-
Printed markup is cut into the tokens it was printed from.

The printer and the lexer never met so far: one writes trees, the other cuts any
text at all into tokens.  This file shows that they agree on what the printer
writes.  A text comes out as the tokens of its characters, a start tag as one
token with the attributes in printed order and their values unescaped, an end
tag as one token; and whatever follows is read as if it stood alone.

What makes it true for every text is that the three characters that could begin
something are never written plain, and that a value never holds the quote it
stands in.  All statements carry the rest of the markup along, so that they
chain: no reader looks further than the piece it reads.
-/
import MfmRender.Config
import MfmRender.Html.Fragment
import MfmRender.Html.Printer

namespace MfmRender.Html.Lexer

open Text

/-! ### One step of the lexer -/

theorem tokensFrom_char (ended : Bool) {c : Char} (hlt : c ≠ '<') (hamp : c ≠ '&')
    (tail : List Char) :
    tokensFrom ended (c :: tail) = (tokensFrom ended tail).map (.text [c] :: ·) := by
  rw [tokensFrom.eq_def]
  split
  · simp_all
  · simp_all
  · simp_all
  · rename_i heq
    cases heq
    rfl

theorem tokensFrom_reference (ended : Bool) {tail cs rest : List Char}
    {h : rest.length ≤ tail.length} (hr : reference tail = .ok (.text cs rest h)) :
    tokensFrom ended ('&' :: tail) = (tokensFrom ended rest).map (.text cs :: ·) := by
  rw [tokensFrom.eq_def]
  simp only [hr]

theorem tokensFrom_number_rejected (ended : Bool) {tail : List Char} {r : Rejection}
    (hn : charNumber? tail = .error r) : tokensFrom ended ('&' :: '#' :: tail) = .error r := by
  have hr : reference ('#' :: tail) = .error r := by
    rw [reference]
    split
    · rename_i e he
      rw [Except.error.inj (he.symm.trans hn)]
    · rename_i hsome
      cases hn.symm.trans hsome
    · rename_i hnone
      cases hn.symm.trans hnone
  rw [tokensFrom.eq_def]
  simp only [hr]

theorem tokensFrom_tag (ended : Bool) {tail rest : List Char} {ts : List Token}
    {h : rest.length < ('<' :: tail).length} (ht : tag? tail = .ok (some (ts, ⟨rest, h⟩)))
    (hraw : opensRaw? ts = none) :
    tokensFrom ended ('<' :: tail) = (tokensFrom ended rest).map (ts ++ ·) := by
  rw [tokensFrom.eq_def]
  simp only [ht, hraw]

theorem tokensFrom_rejected (ended : Bool) {tail : List Char} {r : Rejection}
    (ht : tag? tail = .error r) : tokensFrom ended ('<' :: tail) = .error r := by
  rw [tokensFrom.eq_def]
  simp only [ht]

/-! ### Text

A way of writing characters is faithful if the lexer reads each written
character as that character and goes on right after it.  Texts written
character by character are then read back whole.
-/

/-- Each written character is read as one text token. -/
def Faithful (write : Char → List Char) : Prop :=
  ∀ (ended : Bool) (c : Char) (rest : List Char),
    tokensFrom ended (write c ++ rest) = (tokensFrom ended rest).map (.text [c] :: ·)

theorem map_append_tokens (r : Except Rejection (List Token)) (ts us : List Token) :
    (r.map (us ++ ·)).map (ts ++ ·) = r.map ((ts ++ us) ++ ·) := by
  cases r <;> simp [Except.map]

theorem tokensFrom_flatMap {write : Char → List Char} (hw : Faithful write) (ended : Bool)
    (cs rest : List Char) :
    tokensFrom ended (cs.flatMap write ++ rest)
      = (tokensFrom ended rest).map ((cs.map fun c => .text [c]) ++ ·) := by
  induction cs with
  | nil => cases h : tokensFrom ended rest <;> simp [h, Except.map]
  | cons c cs ih =>
      rw [List.flatMap_cons, List.append_assoc, hw, ih, List.map_cons]
      exact map_append_tokens _ [.text [c]] _

/-- Three characters are escaped, and the others stand for themselves. -/
theorem escapeChar_cases (c : Char) :
    (c = '&' ∨ c = '<' ∨ c = '>') ∨ (escapeChar c = [c] ∧ c ≠ '&' ∧ c ≠ '<') := by
  by_cases hesc : c = '&' ∨ c = '<' ∨ c = '>'
  · exact Or.inl hesc
  · obtain ⟨hamp, hlt, hgt⟩ : c ≠ '&' ∧ c ≠ '<' ∧ c ≠ '>' := by simpa using hesc
    exact Or.inr ⟨by simp [escapeChar, hamp, hlt, hgt], hamp, hlt⟩

/-- The escapes of the printer stand for the characters they escape. -/
theorem faithful_escapeChar : Faithful escapeChar := by
  intro ended c rest
  rcases escapeChar_cases c with (rfl | rfl | rfl) | ⟨hself, hamp, hlt⟩
  · exact tokensFrom_reference ended (h := by simp; omega) rfl
  · exact tokensFrom_reference ended (h := by simp; omega) rfl
  · exact tokensFrom_reference ended (h := by simp; omega) rfl
  · rw [hself]
    exact tokensFrom_char ended hlt hamp rest

/-! ### Values of attributes -/

/-- Each written character is decoded as that character. -/
theorem decode_flatMap {write : Char → List Char}
    (hw : ∀ (c : Char) (rest : List Char),
      Value.decodeFrom 0 (write c ++ rest) = (Value.decodeFrom 0 rest).map (c :: ·))
    (cs : List Char) : Value.decode (cs.flatMap write) = .ok cs := by
  unfold Value.decode
  induction cs with
  | nil => rfl
  | cons c cs ih => rw [List.flatMap_cons, hw, ih]; rfl

theorem decodeFrom_char {c : Char} (hamp : c ≠ '&') (rest : List Char) :
    Value.decodeFrom 0 (c :: rest) = (Value.decodeFrom 0 rest).map (c :: ·) := by
  simp [Value.decodeFrom, hamp]

theorem decodeFrom_escapeChar (c : Char) (rest : List Char) :
    Value.decodeFrom 0 (escapeChar c ++ rest) = (Value.decodeFrom 0 rest).map (c :: ·) := by
  rcases escapeChar_cases c with (rfl | rfl | rfl) | ⟨hself, hamp, -⟩
  · rfl
  · rfl
  · rfl
  · rw [hself]
    exact decodeFrom_char hamp rest

/-- A character of a value in which both quotes occur. -/
def escapeBoth (c : Char) : List Char :=
  (escapeChar c).flatMap escapeQuote

theorem escapeBoth_cases (c : Char) :
    (c = '"' ∨ c = '&' ∨ c = '<' ∨ c = '>') ∨ (escapeBoth c = [c] ∧ c ≠ '"' ∧ c ≠ '&') := by
  by_cases hquote : c = '"'
  · exact Or.inl (Or.inl hquote)
  · rcases escapeChar_cases c with hesc | ⟨hself, hamp, -⟩
    · exact Or.inl (Or.inr hesc)
    · exact Or.inr ⟨by simp [escapeBoth, hself, escapeQuote, hquote], hquote, hamp⟩

theorem decodeFrom_escapeBoth (c : Char) (rest : List Char) :
    Value.decodeFrom 0 (escapeBoth c ++ rest) = (Value.decodeFrom 0 rest).map (c :: ·) := by
  rcases escapeBoth_cases c with (rfl | rfl | rfl | rfl) | ⟨hself, -, hamp⟩
  · rfl
  · rfl
  · rfl
  · rfl
  · rw [hself]
    exact decodeFrom_char hamp rest

theorem quote_notMem_escapeBoth (c : Char) : '"' ∉ escapeBoth c := by
  rcases escapeBoth_cases c with (rfl | rfl | rfl | rfl) | ⟨hself, hquote, -⟩
  · decide
  · decide
  · decide
  · decide
  · rw [hself]
    simp [Ne.symm hquote]

theorem flatMap_escapeQuote (cs : List Char) :
    (escape cs).flatMap escapeQuote = cs.flatMap escapeBoth :=
  List.flatMap_assoc

/-- A printed value stands in quotes of one kind, does not hold that quote, and is decoded to what
it was. -/
theorem quoteValue_escape (cs : List Char) :
    ∃ (q : Char) (body : List Char), quoteValue (escape cs) = q :: (body ++ [q]) ∧
      (q = '"' ∨ q = '\'') ∧ q ∉ body ∧ Value.decode body = .ok cs := by
  unfold quoteValue
  by_cases hdouble : (escape cs).contains '"' = true
  · by_cases hsingle : (escape cs).contains '\'' = true
    · refine ⟨'"', (escape cs).flatMap escapeQuote, by rw [if_pos hdouble, if_pos hsingle]; rfl,
        Or.inl rfl, ?_, ?_⟩
      · rw [flatMap_escapeQuote]
        simp only [List.mem_flatMap, not_exists, not_and]
        exact fun c _ => quote_notMem_escapeBoth c
      · rw [flatMap_escapeQuote]
        exact decode_flatMap decodeFrom_escapeBoth cs
    · refine ⟨'\'', escape cs, by rw [if_pos hdouble, if_neg hsingle]; rfl, Or.inr rfl, ?_,
        decode_flatMap decodeFrom_escapeChar cs⟩
      simpa using hsingle
  · refine ⟨'"', escape cs, by rw [if_neg hdouble]; rfl, Or.inl rfl, ?_,
      decode_flatMap decodeFrom_escapeChar cs⟩
    simpa using hdouble

theorem cutAt_append {q : Char} {body : List Char} (h : q ∉ body) (rest : List Char) :
    cutAt q (body ++ q :: rest) = some (body, rest) := by
  induction body with
  | nil => simp [cutAt]
  | cons c body ih =>
      have hc : c ≠ q := fun heq => h (by simp [heq])
      have hbody : q ∉ body := fun hmem => h (by simp [hmem])
      simp [cutAt, hc, ih hbody]

/-- A value in quotes after an equals sign is read whole. -/
theorem value_quoted {q : Char} (hq : q = '"' ∨ q = '\'') {body : List Char} (h : q ∉ body)
    (rest : List Char) :
    value? ('=' :: q :: (body ++ q :: rest)) = some ⟨body, q, rest⟩ := by
  have hcut := cutAt_append h rest
  rcases hq with rfl | rfl
  · have hblank : isBlank '=' = false ∧ isBlank '"' = false := by decide
    simp [value?, hblank, hcut]
  · have hblank : isBlank '=' = false ∧ isBlank '\'' = false := by decide
    simp [value?, hblank, hcut]

/-! ### Start tags

The printer puts one space before each attribute and nothing before the end of
the tag, so every gap the lexer skips is that one space.
-/

/-- A name that is read as the name of an attribute, and unchanged. -/
structure AttrName (name : String) : Prop where
  nonempty : name.toList ≠ []
  plain : ∀ c ∈ name.toList, endsName c = false
  lowered : lowerName name.toList = name

/-- What ends a tag, closed by a slash or not. -/
def tagClose (closed : Bool) : List Char :=
  if closed then ['/', '>'] else ['>']

theorem skipGap_tagClose (closed : Bool) (rest : List Char) :
    skipGap (tagClose closed ++ rest) = tagClose closed ++ rest := by
  have hblank : isBlank '/' = false ∧ isBlank '>' = false := by decide
  cases closed <;> simp [tagClose, skipGap, opensGap, hblank]

theorem attributes_tagClose (before : Char) (closed : Bool) (rest : List Char) :
    attributes before (tagClose closed ++ rest) = ([], .complete closed rest) := by
  rw [attributes.eq_def]
  cases closed <;> simp [tagClose, closesName, tagEnd]

/-- What follows the name of a printed tag: attributes, the end of the tag, the rest. -/
def afterTagName (attrs : Attributes) (closed : Bool) (rest : List Char) : List Char :=
  attrs.flatMap attrChars ++ (tagClose closed ++ rest)

/-- Characters of a class, then one outside it: the class reaches up to there. -/
theorem takeWhile_stop {p : Char → Bool} {cs : List Char} (h : ∀ c ∈ cs, p c = true) {d : Char}
    (hd : p d = false) (rest : List Char) : (cs ++ d :: rest).takeWhile p = cs := by
  rw [List.takeWhile_append_of_pos h, List.takeWhile_cons_of_neg (by simp [hd]), List.append_nil]

theorem dropWhile_stop {p : Char → Bool} {cs : List Char} (h : ∀ c ∈ cs, p c = true) {d : Char}
    (hd : p d = false) (rest : List Char) : (cs ++ d :: rest).dropWhile p = d :: rest := by
  rw [List.dropWhile_append_of_pos h, List.dropWhile_cons_of_neg (by simp [hd])]

/-- An attribute that begins right here is read up to the gap after it. -/
theorem attributes_attr {name : String} (hname : AttrName name) {q : Char}
    (hq : q = '"' ∨ q = '\'') {body : List Char} (h : q ∉ body) (rest : List Char) :
    attributes ' ' (name.toList ++ '=' :: q :: (body ++ q :: rest))
      = ((name.toList, body) :: (attributes (afterGap q rest) (skipGap rest)).1,
          (attributes (afterGap q rest) (skipGap rest)).2) := by
  obtain ⟨hne, hplain, -⟩ := hname
  obtain ⟨c, tail, hct⟩ := List.exists_cons_of_ne_nil hne
  rw [hct] at hplain ⊢
  have hc : endsName c = false := hplain c (by simp)
  have hcloses : closesName c = false := by
    simp only [endsName, Bool.or_eq_false_iff] at hc
    exact hc.1
  have hopens : opensAttribute ' ' = true := by decide
  have hstop : (!endsName '=') = false := by decide
  have htail : ∀ x ∈ tail, (!endsName x) = true := fun x hx => by simp [hplain x (by simp [hx])]
  have htake := takeWhile_stop htail hstop (q :: (body ++ q :: rest))
  have hdrop := dropWhile_stop htail hstop (q :: (body ++ q :: rest))
  rw [List.cons_append, attributes.eq_def]
  simp only [hopens, hcloses, Bool.not_false, Bool.and_self, if_true, htake, hdrop]
  split
  · rename_i v hv
    rw [hdrop, value_quoted hq h rest] at hv
    cases hv
    rfl
  · rename_i hv
    rw [hdrop, value_quoted hq h rest] at hv
    cases hv

/-- All printed attributes are read, in printed order, with their values unescaped. -/
theorem attributes_afterTagName (closed : Bool) (rest : List Char) :
    ∀ (attrs : Attributes), (∀ a ∈ attrs, AttrName a.1) → ∀ before : Char,
      ∃ raws, attributes (afterGap before (afterTagName attrs closed rest))
          (skipGap (afterTagName attrs closed rest)) = (raws, .complete closed rest) ∧
        decodeAttributes raws = .ok (attrs.map fun a => (a.1, a.2.asText)) := by
  intro attrs
  induction attrs with
  | nil =>
      intro _ before
      refine ⟨[], ?_, rfl⟩
      show attributes (afterGap before (tagClose closed ++ rest))
        (skipGap (tagClose closed ++ rest)) = ([], .complete closed rest)
      rw [skipGap_tagClose, attributes_tagClose]
  | cons a attrs ih =>
      intro hnames before
      have hname : AttrName a.1 := hnames a (by simp)
      obtain ⟨q, body, hbody, hq, hfree, hdecode⟩ := quoteValue_escape a.2.asText.toList
      obtain ⟨raws, hraws, hdecoded⟩ := ih (fun b hb => hnames b (by simp [hb])) q
      have hshape : afterTagName (a :: attrs) closed rest
          = ' ' :: (a.1.toList ++ '=' :: q :: (body ++ q :: afterTagName attrs closed rest)) := by
        simp [afterTagName, attrChars, hbody]
      have hgap : opensGap (' ' :: (a.1.toList ++ '=' :: q ::
          (body ++ q :: afterTagName attrs closed rest))) = true := by
        have hblank : isBlank ' ' = true := by decide
        simp [opensGap, hblank]
      have hskip : skipGap (' ' :: (a.1.toList ++ '=' :: q ::
          (body ++ q :: afterTagName attrs closed rest)))
          = a.1.toList ++ '=' :: q :: (body ++ q :: afterTagName attrs closed rest) := by
        obtain ⟨c, tail, hct⟩ := List.exists_cons_of_ne_nil hname.nonempty
        have hc : endsName c = false := hname.plain c (by simp [hct])
        simp only [endsName, closesName, Bool.or_eq_false_iff] at hc
        rw [skipGap, if_pos hgap, hct, List.cons_append, skipGap,
          if_neg (by simp [opensGap, hc.1.1.1, hc.1.1.2])]
      refine ⟨(a.1.toList, body) :: raws, ?_, ?_⟩
      · rw [hshape, afterGap, if_pos hgap, hskip, attributes_attr hname hq hfree, hraws]
      · simp [decodeAttributes, hdecode, hdecoded, hname.lowered, Except.map]

/-- A character of the name of an element that a tag can carry. -/
def isNameChar (c : Char) : Bool :=
  c.isAlphanum || c == '-'

theorem toNat_of_isNameChar {c : Char} (h : isNameChar c = true) :
    c.toNat = 45 ∨ (48 ≤ c.toNat ∧ c.toNat ≤ 57) ∨ (65 ≤ c.toNat ∧ c.toNat ≤ 90) ∨
      (97 ≤ c.toNat ∧ c.toNat ≤ 122) := by
  replace h : (((decide (c.val ≥ 'A'.val ∧ c.val ≤ 'Z'.val) || c.val ≥ 'a'.val && c.val ≤ 'z'.val)
      || c.val ≥ '0'.val && c.val ≤ '9'.val) || c == '-') = true := h
  simp only [Bool.or_eq_true, Bool.and_eq_true, decide_eq_true_eq, beq_iff_eq, ge_iff_le,
    UInt32.le_iff_toNat_le] at h
  rcases h with ((h | h) | h) | h
  · exact Or.inr (Or.inr (Or.inl h))
  · exact Or.inr (Or.inr (Or.inr h))
  · exact Or.inr (Or.inl h)
  · subst h
    exact Or.inl rfl

theorem isBlank_of_isNameChar {c : Char} (h : isNameChar c = true) : isBlank c = false := by
  have := toNat_of_isNameChar h
  simp [isBlank]
  omega

theorem endsTagName_of_isNameChar {c : Char} (h : isNameChar c = true) : endsTagName c = false := by
  have := toNat_of_isNameChar h
  simp [endsTagName, ← Char.toNat_inj]
  omega

theorem isEndNameChar_of_isNameChar {c : Char} (h : isNameChar c = true) :
    isEndNameChar c = true := by
  simp only [isNameChar, Bool.or_eq_true] at h
  simp only [isEndNameChar, Bool.or_eq_true]
  exact Or.inl (Or.inl (Or.inl h))

theorem isNameChar_of_isAlpha {c : Char} (h : c.isAlpha = true) : isNameChar c = true := by
  simp [isNameChar, Char.isAlphanum, h]

/-- A letter begins neither an end tag nor a declaration. -/
theorem ne_mark_of_isAlpha {c : Char} (h : c.isAlpha = true) : c ≠ '/' ∧ c ≠ '!' ∧ c ≠ '?' := by
  have := toNat_of_isNameChar (isNameChar_of_isAlpha h)
  simp only [ne_eq, ← Char.toNat_inj]
  refine ⟨?_, ?_, ?_⟩ <;> simp <;> omega

theorem isNameChar_of_isTagName {cs : List Char} (h : Config.isTagName cs = true) :
    ∀ c ∈ cs, isNameChar c = true := by
  cases cs with
  | nil => simp [Config.isTagName] at h
  | cons c rest =>
      simp only [Config.isTagName, Bool.and_eq_true, List.all_eq_true] at h
      intro d hd
      rcases List.mem_cons.mp hd with rfl | hd
      · exact isNameChar_of_isAlpha h.1
      · exact h.2 d hd

/-- The first character of the name of an element, and what such a name may hold. -/
theorem tagName_cases {name : String} (h : Config.isTagName name.toList = true) :
    ∃ c tail, name.toList = c :: tail ∧ c.isAlpha = true ∧
      ∀ d ∈ c :: tail, isNameChar d = true := by
  obtain ⟨c, tail, hct⟩ : ∃ c tail, name.toList = c :: tail := by
    cases hl : name.toList with
    | nil => rw [hl] at h; simp [Config.isTagName] at h
    | cons c tail => exact ⟨c, tail, rfl⟩
  rw [hct] at h
  refine ⟨c, tail, hct, ?_, isNameChar_of_isTagName h⟩
  simp only [Config.isTagName, Bool.and_eq_true] at h
  exact h.1

/-- A tag whose name, attributes and end are read is one token. -/
theorem startTag_complete {whole cs name after : List Char} (hlt : cs.length < whole.length)
    (htake : cs.takeWhile (!endsTagName ·) = name) (hdrop : cs.dropWhile (!endsTagName ·) = after)
    {raws : List (List Char × List Char)} {as : List (String × String)} {closed : Bool}
    {rest : List Char}
    (hfound : attributes (afterGap (lastOr '<' name) after) (skipGap after)
      = (raws, .complete closed rest))
    (hdecoded : decodeAttributes raws = .ok as) :
    ∃ h, startTag? whole cs hlt
      = .ok (some ([.startTag (lowerName name) as closed], ⟨rest, h⟩)) := by
  subst htake hdrop
  have hattrs := congrArg (fun r => decodeAttributes r.1) hfound
  have hend := congrArg Prod.snd hfound
  simp only [hdecoded] at hattrs hend
  unfold startTag?
  simp only
  split
  · rename_i he
    rw [hend] at he
    cases he
  · rename_i he
    rw [hend] at he
    cases he
  · rename_i he
    have hsame := he
    rw [hend] at hsame
    cases hsame
    rw [hattrs]
    have hwithin := within_attributes
      (afterGap (lastOr '<' (cs.takeWhile (!endsTagName ·))) (cs.dropWhile (!endsTagName ·)))
      (skipGap (cs.dropWhile (!endsTagName ·)))
    rw [hend] at hwithin
    have hgap := length_skipGap_le (cs.dropWhile (!endsTagName ·))
    have hname := length_dropWhile_le (!endsTagName ·) cs
    exact ⟨Nat.lt_of_le_of_lt (Nat.le_trans hwithin (Nat.le_trans hgap hname)) hlt, rfl⟩

/-- A printed start tag is one token. -/
theorem tag_startTag {name : String} (hname : Config.isTagName name.toList = true)
    {attrs : Attributes} (hattrs : ∀ a ∈ attrs, AttrName a.1) (closed : Bool) (rest : List Char) :
    ∃ h, tag? (name.toList ++ afterTagName attrs closed rest)
      = .ok (some ([.startTag (lowerName name.toList)
          (attrs.map fun a => (a.1, a.2.asText)) closed], ⟨rest, h⟩)) := by
  obtain ⟨c, tail, hct, halpha, hchars⟩ := tagName_cases hname
  obtain ⟨hslash, hbang, hquestion⟩ := ne_mark_of_isAlpha halpha
  obtain ⟨d, more, hdm, hd⟩ : ∃ d more, afterTagName attrs closed rest = d :: more ∧
      (!endsTagName d) = false := by
    cases attrs with
    | nil => cases closed <;> exact ⟨_, _, rfl, by decide⟩
    | cons a attrs => exact ⟨_, _, rfl, by decide⟩
  have hin : ∀ x ∈ c :: tail, (!endsTagName x) = true := fun x hx => by
    simp [endsTagName_of_isNameChar (hchars x hx)]
  have htake := takeWhile_stop hin hd more
  have hdrop := dropWhile_stop hin hd more
  rw [← hdm] at htake hdrop
  obtain ⟨raws, hraws, hdecoded⟩ :=
    attributes_afterTagName closed rest attrs hattrs (lastOr '<' (c :: tail))
  rw [hct, List.cons_append, tag?.eq_5 _ _ hslash hbang hquestion, if_pos halpha]
  exact startTag_complete (by simp) htake hdrop hraws hdecoded

/-! ### End tags -/

/-- A printed end tag is one token. -/
theorem tag_endTag {name : String} (hname : Config.isTagName name.toList = true)
    (rest : List Char) :
    ∃ h, tag? ('/' :: (name.toList ++ '>' :: rest))
      = .ok (some ([.endTag (lowerName name.toList)], ⟨rest, h⟩)) := by
  obtain ⟨c, tail, hct, halpha, hchars⟩ := tagName_cases hname
  have hblank : isBlank c = false := isBlank_of_isNameChar (hchars c (by simp))
  have hin : ∀ x ∈ tail, isEndNameChar x = true := fun x hx =>
    isEndNameChar_of_isNameChar (hchars x (by simp [hx]))
  have hstop : isEndNameChar '>' = false ∧ isBlank '>' = false := by decide
  have hplain : plainEnd? (c :: (tail ++ '>' :: rest)) = some (c :: tail, rest) := by
    unfold plainEnd?
    simp only [List.dropWhile_cons_of_neg (a := c) (p := isBlank) (by simp [hblank]), halpha,
      if_true, dropWhile_stop hin hstop.1, takeWhile_stop hin hstop.1,
      List.dropWhile_cons_of_neg (a := '>') (p := isBlank) (by simp [hstop.2])]
  rw [hct, List.cons_append, tag?.eq_2]
  have hend : ∃ h, endTag? (c :: (tail ++ '>' :: rest))
      = some ([.endTag (lowerName (c :: tail))], ⟨rest, h⟩) := by
    unfold endTag?
    split
    · rename_i hsome
      rw [hplain] at hsome
      cases hsome
      exact ⟨by simp; omega, rfl⟩
    · rename_i hnone
      rw [hplain] at hnone
      cases hnone
  obtain ⟨h, hend⟩ := hend
  rw [hend]
  exact ⟨by simp; omega, rfl⟩

end MfmRender.Html.Lexer
