/-
What is printed can be read.

The printer writes a value in one of the ways that the grammar has for it
(`writes_print`), so the reader gives the value back (`read_print`).  Numbers
with a point or an exponent are left out: for them that is a matter of rounding,
and not of grammar.
-/
import MfmRender.Json.Printer
import MfmRender.Proofs.Json.Reading

namespace MfmRender.Json

open Text (hexDigit hexDigits hexValue? ofHexDigits isHighHalf isLowHalf joinHalves)
open Reader (natOfDigits)

/-! ### Characters -/

theorem hexValue?_hexDigit {n : Nat} (h : n < 16) : hexValue? (hexDigit n) = some n := by
  have hall : ∀ i : Fin 16, hexValue? (hexDigit i.val) = some i.val := by decide
  exact hall ⟨n, h⟩

theorem isUnit_hexDigits {n : Nat} (h : n < 0x10000) : IsUnit (hexDigits 4 n) n := by
  have hdigit : ∀ m : Nat, hexValue? (hexDigit (m % 16)) = some (m % 16) :=
    fun m => hexValue?_hexDigit (Nat.mod_lt m (by decide))
  refine ⟨rfl, ?_, ?_⟩
  · intro d hd
    simp only [hexDigits, List.nil_append, List.cons_append, List.mem_cons, List.not_mem_nil,
      or_false] at hd
    rcases hd with rfl | rfl | rfl | rfl <;> simp [Text.isHexDigit, hdigit]
  · simp only [hexDigits, ofHexDigits, List.nil_append, List.cons_append, List.foldl_cons,
      List.foldl_nil, hdigit, Option.getD_some]
    omega

/-- A character is printed in one of the ways to write it. -/
theorem charWritten_printChar (c : Char) : CharWritten (printChar c) c := by
  unfold printChar
  split
  · rename_i hc
    simp only [Bool.or_eq_true, beq_iff_eq] at hc
    rcases hc with rfl | rfl <;> exact .letter (by decide)
  rename_i hquote
  simp only [Bool.or_eq_true, beq_iff_eq, not_or] at hquote
  split
  · rename_i hc
    obtain rfl := eq_of_beq hc
    exact .letter (by decide)
  split
  · rename_i hc
    obtain rfl := eq_of_beq hc
    exact .letter (by decide)
  split
  · rename_i hc
    obtain rfl := eq_of_beq hc
    exact .letter (by decide)
  split
  · rename_i hc
    obtain rfl := eq_of_beq hc
    exact .letter (by decide)
  split
  · rename_i hc
    obtain rfl := eq_of_beq hc
    exact .letter (by decide)
  split
  · rename_i hc
    simp only [Bool.and_eq_true, decide_eq_true_eq] at hc
    exact .plain hc.1 hquote.1 hquote.2
  split
  · rename_i hc
    exact .unit (isUnit_hexDigits hc)
  · -- beyond U+FFFF the character is written as two halves
    rename_i hc
    have hvalid : c.toNat < 0xd800 ∨ 0xdfff < c.toNat ∧ c.toNat < 0x110000 := c.valid
    have hhigh := isUnit_hexDigits (show 0xd800 + (c.toNat - 0x10000) / 0x400 < 0x10000 by omega)
    have hlow := isUnit_hexDigits (show 0xdc00 + (c.toNat - 0x10000) % 0x400 < 0x10000 by omega)
    refine .halves hhigh hlow ?_ ?_ ?_
    · simp only [isHighHalf, Bool.and_eq_true, decide_eq_true_eq]
      omega
    · simp only [isLowHalf, Bool.and_eq_true, decide_eq_true_eq]
      omega
    · unfold joinHalves
      omega

theorem charsWritten_flatMap (cs : List Char) : CharsWritten (cs.flatMap printChar) cs := by
  induction cs with
  | nil => exact .nil
  | cons c rest ih => exact .cons (charWritten_printChar c) ih

theorem textWritten_printString (s : String) : TextWritten (printString s).toList s :=
  ⟨_, charsWritten_flatMap s.toList, by simp [printString]⟩

/-! ### Numbers -/

theorem head_toDigits {n : Nat} (h : 0 < n) : (Nat.toDigits 10 n).head? ≠ some '0' := by
  induction n using Nat.strongRecOn with
  | ind n ih =>
      rw [Nat.toDigits_eq_if (by decide)]
      split
      · rename_i hlt
        have hall : ∀ i : Fin 10, 0 < i.val → i.val.digitChar ≠ '0' := by decide
        simpa using hall ⟨n, hlt⟩ h
      · have hhead := ih (n / 10) (by omega) (by omega)
        obtain ⟨d, more, hd⟩ := List.exists_cons_of_ne_nil (@Nat.toDigits_ne_nil (n / 10) 10)
        rw [hd] at hhead ⊢
        exact hhead

theorem isWhole_toDigits (n : Nat) : IsWhole (Nat.toDigits 10 n) := by
  by_cases hn : n = 0
  · subst hn
    exact Or.inl rfl
  · exact Or.inr ⟨⟨Nat.toDigits_ne_nil,
      fun d hd => Nat.isDigit_of_mem_toDigits (by decide) (by decide) hd⟩,
      head_toDigits (Nat.pos_of_ne_zero hn)⟩

theorem numberWritten_toString (n : Int) : NumberWritten (toString n).toList (.int n) := by
  have hdigits : natOfDigits (Nat.toDigits 10 n.natAbs) = n.natAbs := by
    rw [Reader.natOfDigits_eq, Nat.ofDigitChars_toDigits (by decide) (by decide)]
  have htext : (toString n).toList = signed (decide (n < 0)) (Nat.toDigits 10 n.natAbs) := by
    rw [Int.toString_eq_repr, Int.repr_eq_if]
    by_cases hn : 0 ≤ n
    · have habs : n.toNat = n.natAbs := by omega
      have hsign : ¬ n < 0 := by omega
      simp [hn, hsign, signed, habs]
    · have habs : (-n).toNat = n.natAbs := by omega
      have hsign : n < 0 := by omega
      simp [hn, hsign, signed, habs]
  have hvalue : signedInt (decide (n < 0)) n.natAbs = n := by
    by_cases hn : n < 0
    · simp only [signedInt, hn, decide_true, if_true]
      omega
    · simp only [signedInt, hn, decide_false, Bool.false_eq_true, if_false]
      omega
  have hwritten := NumberWritten.whole (decide (n < 0)) (isWhole_toDigits n.natAbs)
  rwa [hdigits, hvalue, ← htext] at hwritten

/-! ### Values -/

mutual

/-- The value holds no floating-point number, and the names in each of its objects differ. -/
def isExact : Json → Bool
  | float _ => Bool.false
  | array vs => areExact vs
  | object ms => (ms.map Prod.fst).Nodup && membersExact ms
  | _ => Bool.true

def areExact : List Json → Bool
  | [] => Bool.true
  | v :: rest => isExact v && areExact rest

def membersExact : List (String × Json) → Bool
  | [] => Bool.true
  | (_, v) :: rest => isExact v && membersExact rest

end

/-- Texts with a comma and a space between them are a row. -/
theorem row_intercalate (pieces : List String) :
    Row (", ".intercalate pieces).toList (pieces.map String.toList) := by
  have hempty : IsGap [] := by simp [IsGap]
  have hspace : IsGap [' '] := by simp [IsGap]
  -- what comes after a comma begins with a gap of its own
  have hgap : ∀ {gap cs : List Char} {ps : List (List Char)}, IsGap gap → Row cs ps →
      Row (gap ++ cs) ps := by
    intro gap cs ps hblank hrow
    have happend : ∀ {before : List Char}, IsGap before → IsGap (gap ++ before) := by
      intro before hbefore c hc
      rcases List.mem_append.mp hc with hc | hc
      · exact hblank c hc
      · exact hbefore c hc
    cases hrow with
    | none blank => exact .none (happend blank)
    | last blank blank' =>
        rw [← List.append_assoc]
        exact .last (happend blank) blank'
    | more blank blank' others =>
        rw [← List.append_assoc]
        exact .more (happend blank) blank' others
  induction pieces with
  | nil => exact .none hempty
  | cons p rest ih =>
      cases rest with
      | nil =>
          have hlast := @Row.last [] p.toList [] hempty hempty
          simpa using hlast
      | cons q rest =>
          have hmore := @Row.more [] p.toList [] _ _ _ hempty hempty (hgap hspace ih)
          simpa using hmore

theorem printItems_eq (vs : List Json) : printItems vs = vs.map print := by
  induction vs with
  | nil => rfl
  | cons v rest ih => rw [printItems, ih, List.map_cons]

theorem printMembers_eq (ms : List (String × Json)) :
    printMembers ms = ms.map fun m => printString m.1 ++ ": " ++ print m.2 := by
  induction ms with
  | nil => rfl
  | cons m rest ih => rw [printMembers, ih, List.map_cons]

theorem writes_array {vs : List Json} (h : ∀ v ∈ vs, Writes (print v).toList v) :
    Writes (print (.array vs)).toList (.array vs) := by
  have hrow := row_intercalate (vs.map print)
  have hwrites := @Writes.array (", ".intercalate (vs.map print)).toList
    (vs.map fun v => ((print v).toList, v)) (by simpa [Function.comp_def] using hrow) (by
      intro i hi
      obtain ⟨v, hv, rfl⟩ := List.mem_map.mp hi
      exact h v hv)
  simpa [print, printItems_eq, Function.comp_def] using hwrites

/-- A member as it is printed. -/
def printedMember (m : String × Json) : MemberText :=
  { piece := (printString m.1 ++ ": " ++ print m.2).toList, name := m.1,
    inner := (print m.2).toList, value := m.2 }

theorem named_printedMember (m : String × Json) : (printedMember m).Named := by
  have hempty : IsGap [] := by simp [IsGap]
  have hspace : IsGap [' '] := by simp [IsGap]
  exact ⟨_, [], [' '], textWritten_printString m.1, hempty, hspace, by simp [printedMember]⟩

theorem writes_object {ms : List (String × Json)} (distinct : (ms.map Prod.fst).Nodup)
    (h : ∀ m ∈ ms, Writes (print m.2).toList m.2) :
    Writes (print (.object ms)).toList (.object ms) := by
  have hrow := row_intercalate (printMembers ms)
  have hmember : ∀ n ∈ ms.map printedMember, ∃ m ∈ ms, printedMember m = n :=
    fun n hn => List.mem_map.mp hn
  have hwrites := @Writes.object (", ".intercalate (printMembers ms)).toList (ms.map printedMember)
    (by simpa [printMembers_eq, printedMember, Function.comp_def] using hrow)
    (by
      intro n hn
      obtain ⟨m, -, rfl⟩ := hmember n hn
      exact named_printedMember m)
    (by simpa [printedMember, Function.comp_def] using distinct)
    (by
      intro n hn
      obtain ⟨m, hm, rfl⟩ := hmember n hn
      exact h m hm)
  simpa [print, printedMember, MemberText.member, Function.comp_def] using hwrites

mutual

/-- **What is printed is one of the texts of the value.** -/
theorem writes_print : ∀ (v : Json), isExact v → Writes (print v).toList v
  | .null, _ => .null
  | .bool true, _ => .true
  | .bool false, _ => .false
  | .int n, _ => .number (numberWritten_toString n)
  | .float _, h => by cases h
  | .string s, _ => .string (textWritten_printString s)
  | .array vs, h => writes_array (writes_printItems vs h)
  | .object ms, h => by
      rw [isExact, Bool.and_eq_true] at h
      exact writes_object (of_decide_eq_true h.1) (writes_printMembers ms h.2)

theorem writes_printItems : ∀ (vs : List Json), areExact vs →
    ∀ v ∈ vs, Writes (print v).toList v
  | [], _, v, hv => nomatch hv
  | v :: rest, h, w, hw => by
      rw [areExact, Bool.and_eq_true] at h
      rcases List.mem_cons.mp hw with hwv | hw
      · rw [hwv]
        exact writes_print v h.1
      · exact writes_printItems rest h.2 w hw

theorem writes_printMembers : ∀ (ms : List (String × Json)), membersExact ms →
    ∀ m ∈ ms, Writes (print m.2).toList m.2
  | [], _, m, hm => nomatch hm
  | (name, v) :: rest, h, m, hm => by
      rw [membersExact, Bool.and_eq_true] at h
      rcases List.mem_cons.mp hm with hmv | hm
      · rw [hmv]
        exact writes_print v h.1
      · exact writes_printMembers rest h.2 m hm

end

theorem written_print {v : Json} (h : isExact v) : Written (print v) v := by
  have hempty : IsGap [] := by simp [IsGap]
  exact ⟨[], _, [], hempty, writes_print v h, hempty, by simp⟩

/-- **What is printed is read back, if it lies within the limits.** -/
theorem read_print {v : Json} (h : isExact v) (hfits : fits maxDepth v) : read (print v) = .ok v :=
  read_written (written_print h) hfits

end MfmRender.Json
