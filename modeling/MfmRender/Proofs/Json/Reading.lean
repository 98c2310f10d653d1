/-
The reader and the grammar.

What the grammar writes is read as the value it stands for, if the value lies
within the limits; otherwise the reader stops at a limit, and never because it
takes the text for faulty.  What the reader does with a value is said once for
each of its parts; the rest is an induction along the grammar, one case for each of
its rules, and ends with whole texts.
-/
import MfmRender.Proofs.Json.Scalars

namespace MfmRender.Json.Reader

/-! ### What the reader does with a value -/

theorem result_scalar (cs : List Char) :
    result (scalar cs) =
      match word? cs with
      | some read => .ok read
      | none => number cs := by
  unfold scalar
  split
  · rename_i v rest hword
    simp only [hword]
    rfl
  · rename_i hword
    simp only [hword]
    split
    · rename_i e hnumber
      simp only [hnumber]
      rfl
    · rename_i v rest hnumber
      simp only [hnumber]
      rfl

theorem result_value_text (depth : Nat) (rest : List Char) :
    result (value depth ('"' :: rest)) = (result (string (rest.length + 1) rest)).map fun read =>
      (.string (String.ofList read.1), read.2) := by
  rw [value.eq_2]
  rcases string (rest.length + 1) rest with e | ⟨text, after, ha⟩ <;> rfl

theorem result_value_array (depth : Nat) (rest : List Char) :
    result (value (depth + 1) ('[' :: rest)) =
      match skip rest with
      | ']' :: after => .ok (.array [], after)
      | inner => (result (items depth inner)).map fun read => (.array read.1, read.2) := by
  rw [value.eq_4]
  split
  · rename_i after hrest
    simp only [hrest]
    rfl
  · rename_i hrest
    simp only
    rcases items depth (skip rest) with e | ⟨vs, after, ha⟩ <;> rfl

theorem result_value_object (depth : Nat) (rest : List Char) :
    result (value (depth + 1) ('\x7b' :: rest)) =
      match skip rest with
      | '\x7d' :: after => .ok (.object [], after)
      | inner => (result (members depth [] inner)).map fun read => (.object read.1, read.2) := by
  rw [value.eq_6]
  split
  · rename_i after hrest
    simp only [hrest]
    rfl
  · rename_i hrest
    simp only
    rcases members depth [] (skip rest) with e | ⟨ms, after, ha⟩ <;> rfl

theorem result_items (depth : Nat) (cs : List Char) :
    result (items depth cs) = (result (value depth cs)).bind fun read =>
      match skip read.2 with
      | ']' :: after => .ok ([read.1], after)
      | ',' :: more => (result (items depth (skip more))).map fun others =>
          (read.1 :: others.1, others.2)
      | other => .error (.fault .expectingComma other.length) := by
  rw [items.eq_1]
  rcases value depth cs with e | ⟨v, rest, hr⟩
  · rfl
  · simp only [result_ok, Except.bind]
    split
    · rename_i after hrest
      simp only [hrest, result_ok]
    · rename_i more hrest
      simp only [hrest]
      rcases items depth (skip more) with e | ⟨vs, after, ha⟩ <;> rfl
    · simp only
      rfl

theorem result_members (depth : Nat) (read : Members) (rest : List Char) :
    result (members depth read ('"' :: rest)) =
      (result (string (rest.length + 1) rest)).bind fun name =>
        match skip name.2 with
        | ':' :: afterColon => (result (value depth (skip afterColon))).bind fun v =>
            match skip v.2 with
            | '\x7d' :: after => .ok (read.put (String.ofList name.1) v.1, after)
            | ',' :: more => result (members depth (read.put (String.ofList name.1) v.1) (skip more))
            | other => .error (.fault .expectingComma other.length)
        | other => .error (.fault .expectingColon other.length) := by
  rw [members.eq_1]
  rcases string (rest.length + 1) rest with e | ⟨name, afterName, hn⟩
  · rfl
  · simp only [result_ok, Except.bind]
    split
    · rename_i afterColon hcolon
      simp only [hcolon]
      rcases value depth (skip afterColon) with e | ⟨v, afterValue, hv⟩
      · rfl
      · simp only [result_ok]
        split
        · rename_i after hrest
          simp only [hrest, result_ok]
        · rename_i more hrest
          simp only [hrest]
          rcases members depth (read.put (String.ofList name) v) (skip more) with
            e | ⟨ms, after, ha⟩ <;> rfl
        · simp only
          rfl
    · simp only
      rfl

/-! ### Values -/

theorem Ends.gap {gap rest : List Char} (hrest : Ends rest) (h : IsGap gap) :
    Ends (gap ++ rest) := by
  cases gap with
  | nil => exact hrest
  | cons c tail =>
      intro d hd
      obtain rfl : c = d := Option.some.inj hd
      rcases h c (by simp) with rfl | rfl | rfl | rfl <;> decide

theorem ends_cons {c : Char} (hc : c = ',' ∨ c = ']' ∨ c = '\x7d') (rest : List Char) :
    Ends (c :: rest) := by
  intro d hd
  obtain rfl : c = d := Option.some.inj hd
  rcases hc with rfl | rfl | rfl <;> decide

/-- Whatever ends it, the text is read as the value. -/
def ReadAs (depth : Nat) (cs : List Char) (v : Json) : Prop :=
  ∀ rest, Ends rest → Settles (result (value depth (cs ++ rest))) (fits depth v) v rest

/-- The text begins as a value does: with no space, no bracket that closes and no mark. -/
def Opens (cs : List Char) : Prop :=
  ∃ c tail, cs = c :: tail ∧ isSpace c = false ∧ c ≠ ']' ∧ c ≠ '\ufeff'

theorem skip_opens {gap cs : List Char} (h : IsGap gap) (hcs : Opens cs) (rest : List Char) :
    skip (gap ++ (cs ++ rest)) = cs ++ rest := by
  obtain ⟨c, tail, rfl, hspace, -⟩ := hcs
  rw [skip_gap h, List.cons_append, skip_cons hspace]

/-- The items of a row are read one after another, up to the bracket after them. -/
theorem items_row {depth : Nat} {cs : List Char} {pieces : List (List Char)} (hrow : Row cs pieces)
    (rest : List Char) :
    ∀ {is : List (List Char × Json)}, is.map Prod.fst = pieces → is ≠ [] →
      (∀ i ∈ is, Opens i.1 ∧ ReadAs depth i.1 i.2) →
      Settles (result (items depth (skip (cs ++ ']' :: rest)))) (allFit depth (is.map Prod.snd))
        (is.map Prod.snd) rest := by
  induction hrow with
  | none blank =>
      intro is his hne
      exact absurd (List.map_eq_nil_iff.mp his) hne
  | @last before cs after blank blank' =>
      intro is his hne hall
      obtain ⟨i, is', rfl, rfl, hnil⟩ := List.map_eq_cons_iff.mp his
      obtain rfl := List.map_eq_nil_iff.mp hnil
      obtain ⟨hopens, hread⟩ := hall i (by simp)
      have hi := hread (after ++ ']' :: rest) ((ends_cons (by simp) rest).gap blank')
      rw [List.append_assoc, List.append_assoc, skip_opens blank hopens, result_items]
      refine hi.bind ?_
      rw [skip_gap blank', skip_cons rfl]
      exact .read rfl
  | @more before cs after cs' next pieces blank blank' others ih =>
      intro is his hne hall
      obtain ⟨i, is', rfl, rfl, hothers⟩ := List.map_eq_cons_iff.mp his
      obtain ⟨hopens, hread⟩ := hall i (by simp)
      have hi := hread (after ++ ',' :: (cs' ++ ']' :: rest))
        ((ends_cons (by simp) _).gap blank')
      have hmore := ih hothers (by rintro rfl; simp at hothers) fun j hj => hall j (by simp [hj])
      rw [List.append_assoc, List.append_assoc, List.append_assoc, List.cons_append,
        skip_opens blank hopens, result_items]
      refine hi.bind ?_
      rw [skip_gap blank', skip_cons rfl]
      exact hmore.map

theorem put_of_notMem {name : String} {v : Json} {ms : Members} (h : name ∉ ms.map Prod.fst) :
    ms.put name v = ms ++ [(name, v)] := by
  induction ms with
  | nil => rfl
  | cons m rest ih =>
      obtain ⟨n, w⟩ := m
      simp only [List.map_cons, List.mem_cons, not_or] at h
      rw [Members.put, if_neg fun heq => h.1 heq.symm, ih h.2]
      rfl

/-- A member is read up to its value, and then goes to those before it. -/
theorem result_member {depth : Nat} {before : Members} {m : MemberText} (h : m.Named)
    (hopens : Opens m.inner) {gap : List Char} (blank : IsGap gap) (rest : List Char) :
    result (members depth before (skip (gap ++ (m.piece ++ rest)))) =
      (result (value depth (m.inner ++ rest))).bind fun v =>
        match skip v.2 with
        | '\x7d' :: after => .ok (before.put m.name v.1, after)
        | ',' :: more => result (members depth (before.put m.name v.1) (skip more))
        | other => .error (.fault .expectingComma other.length) := by
  obtain ⟨quoted, gap', gap'', ⟨inner, hchars, rfl⟩, blank', blank'', hpiece⟩ := h
  have htext : m.piece ++ rest
      = '"' :: (inner ++ '"' :: (gap' ++ ':' :: (gap'' ++ (m.inner ++ rest)))) := by
    simp [hpiece]
  rw [htext, skip_gap blank, skip_cons rfl, result_members, string_written hchars]
  simp only [Except.bind]
  rw [skip_gap blank', skip_cons rfl]
  simp only [String.ofList_toList]
  rw [skip_opens blank'' hopens]

/-- The members of a row are read one after another, up to the brace after them. -/
theorem members_row {depth : Nat} {cs : List Char} {pieces : List (List Char)}
    (hrow : Row cs pieces) (rest : List Char) :
    ∀ {ms : List MemberText} {before : Members}, ms.map MemberText.piece = pieces → ms ≠ [] →
      (∀ m ∈ ms, m.Named ∧ Opens m.inner ∧ ReadAs depth m.inner m.value) →
      (ms.map MemberText.name).Nodup → (∀ m ∈ ms, m.name ∉ before.map Prod.fst) →
      Settles (result (members depth before (skip (cs ++ '\x7d' :: rest))))
        (membersFit depth (ms.map MemberText.member)) (before ++ ms.map MemberText.member)
        rest := by
  induction hrow with
  | none blank =>
      intro ms before hms hne
      exact absurd (List.map_eq_nil_iff.mp hms) hne
  | @last gap cs after blank blank' =>
      intro ms before hms hne hall hdistinct hnew
      obtain ⟨m, ms', rfl, rfl, hnil⟩ := List.map_eq_cons_iff.mp hms
      obtain rfl := List.map_eq_nil_iff.mp hnil
      obtain ⟨hnamed, hopens, hread⟩ := hall m (by simp)
      have hm := hread (after ++ '\x7d' :: rest) ((ends_cons (by simp) rest).gap blank')
      rw [List.append_assoc, List.append_assoc, result_member hnamed hopens blank]
      refine hm.bind ?_
      rw [skip_gap blank', skip_cons rfl, put_of_notMem (hnew m (by simp))]
      exact .read rfl
  | @more gap cs after cs' next pieces blank blank' others ih =>
      intro ms before hms hne hall hdistinct hnew
      obtain ⟨m, ms', rfl, rfl, hothers⟩ := List.map_eq_cons_iff.mp hms
      obtain ⟨hnamed, hopens, hread⟩ := hall m (by simp)
      have hm := hread (after ++ ',' :: (cs' ++ '\x7d' :: rest))
        ((ends_cons (by simp) _).gap blank')
      rw [List.map_cons, List.nodup_cons] at hdistinct
      have hmore := @ih ms' (before ++ [m.member]) hothers (by rintro rfl; simp at hothers)
        (fun n hn => hall n (by simp [hn])) hdistinct.2 (by
          intro n hn
          simp only [List.map_append, List.mem_append, not_or]
          refine ⟨hnew n (by simp [hn]), ?_⟩
          intro heq
          have hname : n.name = m.name := List.mem_singleton.mp heq
          exact hdistinct.1 (hname ▸ List.mem_map_of_mem hn))
      rw [List.append_assoc, List.append_assoc, List.append_assoc, List.cons_append,
        result_member hnamed hopens blank]
      refine hm.bind ?_
      rw [skip_gap blank', skip_cons rfl, put_of_notMem (hnew m (by simp))]
      rw [List.append_assoc] at hmore
      exact hmore

/-! ### The grammar is read -/

theorem opens_of_writes {cs : List Char} {v : Json} (h : Writes cs v) : Opens cs := by
  have hdigit : ∀ c : Char, c.isDigit = true → isSpace c = false ∧ c ≠ ']' ∧ c ≠ '\ufeff' := by
    intro c hc
    have hspace : isSpace c = false := by
      simp only [isSpace, Bool.or_eq_false_iff, beq_eq_false_iff_ne]
      exact ⟨⟨⟨ne_of_isDigit hc rfl, ne_of_isDigit hc rfl⟩, ne_of_isDigit hc rfl⟩,
        ne_of_isDigit hc rfl⟩
    exact ⟨hspace, ne_of_isDigit hc rfl, ne_of_isDigit hc rfl⟩
  cases h with
  | number written =>
      obtain ⟨c, tail, rfl, hc | ⟨rfl, -⟩⟩ := head_of_numberWritten written
      · exact ⟨c, tail, rfl, hdigit c hc⟩
      · exact ⟨_, _, rfl, rfl, by decide, by decide⟩
  | string written =>
      obtain ⟨inner, -, rfl⟩ := written
      exact ⟨_, _, rfl, rfl, by decide, by decide⟩
  | _ => exact ⟨_, _, rfl, rfl, by decide, by decide⟩

theorem result_value_scalar {c : Char} (quote : c ≠ '"') (bracket : c ≠ '[') (brace : c ≠ '\x7b')
    (depth : Nat) (rest : List Char) :
    result (value depth (c :: rest)) =
      match word? (c :: rest) with
      | some read => .ok read
      | none => number (c :: rest) := by
  rw [value.eq_7 depth c rest quote bracket brace, result_scalar]

/-- No number begins as a word does: behind its sign comes a digit. -/
theorem word?_number {cs : List Char} {v : Json} (h : NumberWritten cs v) (rest : List Char) :
    word? (cs ++ rest) = none := by
  obtain ⟨c, tail, rfl, hc | ⟨rfl, d, more, rfl, hd⟩⟩ := head_of_numberWritten h
  · rw [List.cons_append, word?.eq_7]
    all_goals
      intro word hword
      exact ne_of_isDigit hc rfl (List.cons.inj hword).1
  · have hinfinity : ∀ word, '-' :: d :: (more ++ rest) ≠ '-' :: 'I' :: word := by
      intro word hword
      exact ne_of_isDigit hd rfl (List.cons.inj (List.cons.inj hword).2).1
    rw [List.cons_append, List.cons_append]
    refine word?.eq_7 _ ?_ ?_ ?_ ?_ ?_ fun word => hinfinity _
    all_goals
      intro word hword
      exact absurd (List.cons.inj hword).1 (by decide)

theorem value_number {cs : List Char} {v : Json} (h : NumberWritten cs v) (depth : Nat)
    (rest : List Char) : result (value depth (cs ++ rest)) = number (cs ++ rest) := by
  have hword := word?_number h rest
  obtain ⟨c, tail, rfl, hc⟩ := head_of_numberWritten h
  have hother : ∀ d : Char, d.isDigit = false → d ≠ '-' → c ≠ d := by
    intro d hd hsign
    rcases hc with hc | ⟨rfl, -⟩
    · exact ne_of_isDigit hc hd
    · exact hsign.symm
  rw [List.cons_append] at hword ⊢
  rw [result_value_scalar (hother _ rfl (by decide)) (hother _ rfl (by decide))
    (hother _ rfl (by decide)), hword]

theorem skip_row {cs tail : List Char} {c : Char} {pieces : List (List Char)}
    (h : Row cs ((c :: tail) :: pieces)) (hc : isSpace c = false) (rest : List Char) :
    ∃ more, skip (cs ++ rest) = c :: more := by
  cases h with
  | last blank blank' =>
      rw [List.append_assoc, skip_gap blank]
      exact ⟨_, skip_cons hc _⟩
  | more blank blank' others =>
      rw [List.append_assoc, skip_gap blank]
      exact ⟨_, skip_cons hc _⟩

theorem value_array {depth : Nat} {cs : List Char} {is : List (List Char × Json)}
    (row : Row cs (is.map Prod.fst)) (hall : ∀ i ∈ is, Opens i.1 ∧ ReadAs depth i.1 i.2)
    (rest : List Char) :
    Settles (result (value (depth + 1) ('[' :: (cs ++ ']' :: rest))))
      (allFit depth (is.map Prod.snd)) (.array (is.map Prod.snd)) rest := by
  rw [result_value_array]
  cases is with
  | nil =>
      obtain ⟨blank⟩ := row
      rw [skip_gap blank, skip_cons rfl]
      exact .read rfl
  | cons i is =>
      obtain ⟨c, tail, hc, hspace, hclosed, -⟩ := (hall i (by simp)).1
      have hfirst := row
      rw [List.map_cons, hc] at hfirst
      obtain ⟨more, hmore⟩ := skip_row hfirst hspace (']' :: rest)
      have hrow := items_row row rest rfl (by simp) hall
      rw [hmore] at hrow ⊢
      split
      · rename_i after hafter
        exact absurd (List.cons.inj hafter).1 hclosed
      · exact hrow.map

theorem value_object {depth : Nat} {cs : List Char} {ms : List MemberText}
    (row : Row cs (ms.map MemberText.piece)) (distinct : (ms.map MemberText.name).Nodup)
    (hall : ∀ m ∈ ms, m.Named ∧ Opens m.inner ∧ ReadAs depth m.inner m.value) (rest : List Char) :
    Settles (result (value (depth + 1) ('\x7b' :: (cs ++ '\x7d' :: rest))))
      (membersFit depth (ms.map MemberText.member)) (.object (ms.map MemberText.member)) rest := by
  rw [result_value_object]
  cases ms with
  | nil =>
      obtain ⟨blank⟩ := row
      rw [skip_gap blank, skip_cons rfl]
      exact .read rfl
  | cons m ms =>
      obtain ⟨quoted, gap, gap', ⟨inner, -, rfl⟩, -, -, hpiece⟩ := (hall m (by simp)).1
      have hfirst := row
      rw [List.map_cons, hpiece, List.cons_append] at hfirst
      obtain ⟨more, hmore⟩ := skip_row hfirst rfl ('\x7d' :: rest)
      have hrow := @members_row depth cs _ row rest _ [] rfl (by simp) hall distinct (by simp)
      rw [hmore] at hrow ⊢
      exact hrow.map

/-- **What the grammar writes is read as what it stands for, within the limits.** -/
theorem readAs_of_writes {cs : List Char} {v : Json} (h : Writes cs v) :
    ∀ depth, ReadAs depth cs v := by
  induction h with
  | null =>
      exact fun depth rest _ => result_value_scalar (by decide) (by decide) (by decide) depth _
  | true =>
      exact fun depth rest _ => result_value_scalar (by decide) (by decide) (by decide) depth _
  | false =>
      exact fun depth rest _ => result_value_scalar (by decide) (by decide) (by decide) depth _
  | number written =>
      intro depth rest hrest
      rw [value_number written]
      exact number_written written hrest depth
  | @string cs s written =>
      intro depth rest hrest
      obtain ⟨inner, hchars, rfl⟩ := written
      have htext : '"' :: (inner ++ ['"']) ++ rest = '"' :: (inner ++ '"' :: rest) := by simp
      rw [htext, result_value_text, string_written hchars]
      simp [Settles, fits, Except.map]
  | @array cs is row values ih =>
      intro depth rest hrest
      have htext : '[' :: (cs ++ [']']) ++ rest = '[' :: (cs ++ ']' :: rest) := by simp
      rw [htext]
      cases depth with
      | zero => exact ⟨_, congrArg result (value.eq_3 _), trivial⟩
      | succ depth =>
          exact value_array row (fun i hi => ⟨opens_of_writes (values i hi), ih i hi depth⟩) rest
  | @object cs ms row named distinct values ih =>
      intro depth rest hrest
      have htext : '\x7b' :: (cs ++ ['\x7d']) ++ rest = '\x7b' :: (cs ++ '\x7d' :: rest) := by simp
      rw [htext]
      cases depth with
      | zero => exact ⟨_, congrArg result (value.eq_5 _), trivial⟩
      | succ depth =>
          exact value_object row distinct
            (fun m hm => ⟨named m hm, opens_of_writes (values m hm), ih m hm depth⟩) rest

end MfmRender.Json.Reader

namespace MfmRender.Json

open Reader

/-! ### Texts -/

/-- A text was not read to its end because of a limit. -/
def ReadError.AtLimit : ReadError → Prop
  | .syntaxFault .. => False
  | _ => True

/-- There is no byte order mark before what the grammar writes. -/
theorem head_of_written {text : String} {v : Json} (h : Written text v) :
    text.toList.head? ≠ some '\ufeff' := by
  obtain ⟨before, cs, after, blank, hwrites, -, htext⟩ := h
  rw [htext]
  cases before with
  | nil =>
      obtain ⟨c, tail, rfl, -, -, hmark⟩ := opens_of_writes hwrites
      simpa using hmark
  | cons c tail =>
      rcases blank c (by simp) with rfl | rfl | rfl | rfl <;> simp

/-- **A text is read as the value that it writes if this lies within the limits; otherwise reading
it ends at a limit.** -/
theorem readChars_written {text : String} {v : Json} (h : Written text v) (depth : Nat) :
    if fits depth v then readChars depth text.toList = .ok v
    else ∃ e, readChars depth text.toList = .error e ∧ e.AtLimit := by
  obtain ⟨before, cs, after, blank, hwrites, blank', htext⟩ := h
  have hends : Ends after := by
    have hnil : Ends [] := fun c hc => nomatch hc
    simpa using hnil.gap blank'
  have hvalue := readAs_of_writes hwrites depth after hends
  have hskip : skip text.toList = cs ++ after := by
    rw [htext, skip_opens blank (opens_of_writes hwrites)]
  have hafter : skip after = [] := by
    simpa [skip] using skip_gap blank' []
  rw [← hskip] at hvalue
  unfold readChars
  generalize Reader.value depth (skip text.toList) = found at hvalue ⊢
  cases hfits : fits depth v with
  | true =>
      rw [hfits] at hvalue
      rcases found with e | ⟨w, rest, hrest⟩
      · cases hvalue
      · cases hvalue
        simp [hafter]
  | false =>
      rw [hfits] at hvalue
      obtain ⟨e, he, hlimit⟩ := hvalue
      rcases found with e' | ⟨w, rest, hrest⟩
      · obtain rfl : e' = e := Except.error.inj he
        refine ⟨_, rfl, ?_⟩
        cases e' with
        | fault => exact hlimit
        | tooManyDigits => trivial
        | tooDeep => trivial
      · cases he

/-- The same for texts from outside. -/
theorem read_written {text : String} {v : Json} (h : Written text v) (hfits : fits maxDepth v) :
    read text = .ok v := by
  have hread := readChars_written h maxDepth
  rw [if_pos hfits] at hread
  rw [read, readWithin, if_neg (head_of_written h), hread]

end MfmRender.Json
