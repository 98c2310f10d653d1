/-
How an address begins.

An address leads away if it begins with two slashes, with or without a web scheme
before them, and the letters of a scheme may stand in any case.  `isExternal_iff`
says so in terms of what stands at the front of the address; what a scheme looks
like is said by `IsScheme`, apart from how it is looked for.
-/
import Mathlib.Data.List.Forall2
import MfmRender.Link

namespace MfmRender

namespace Text

/-- A text spells a word of small letters, in any case. -/
def Spells (word cs : List Char) : Prop :=
  List.Forall₂ (fun small c => foldsTo small c = true) word cs

theorem dropFolded?_eq_some_iff {word cs rest : List Char} :
    dropFolded? word cs = some rest ↔ ∃ front, Spells word front ∧ cs = front ++ rest := by
  unfold Spells
  induction word generalizing cs with
  | nil => simp [dropFolded?]
  | cons w word ih =>
      cases cs with
      | nil => simp [dropFolded?, List.forall₂_cons_left_iff]
      | cons c cs =>
          by_cases hc : foldsTo w c = true
          · simp only [dropFolded?, if_pos hc, ih]
            constructor
            · rintro ⟨front, hfront, rfl⟩
              exact ⟨c :: front, .cons hc hfront, rfl⟩
            · rintro ⟨front, hfront, hcs⟩
              obtain ⟨d, tail, -, htail, rfl⟩ := List.forall₂_cons_left_iff.mp hfront
              exact ⟨tail, htail, (List.cons.inj hcs).2⟩
          · simp only [dropFolded?, if_neg hc, reduceCtorEq, false_iff]
            rintro ⟨front, hfront, hcs⟩
            obtain ⟨d, tail, hd, -, rfl⟩ := List.forall₂_cons_left_iff.mp hfront
            exact hc ((List.cons.inj hcs).1 ▸ hd)

theorem dropFolded?_append (word more cs : List Char) :
    dropFolded? (word ++ more) cs = (dropFolded? word cs).bind (dropFolded? more) := by
  induction word generalizing cs with
  | nil => rfl
  | cons w word ih =>
      cases cs with
      | nil => rfl
      | cons c cs =>
          simp only [List.cons_append, dropFolded?]
          split
          · exact ih cs
          · rfl

end Text

namespace Link

open Text

/-- A web scheme with its colon, in any case. -/
def IsScheme (cs : List Char) : Prop :=
  Spells "http:".toList cs ∨ Spells "https:".toList cs

/-- Text after which a plain scheme ends has no letter there that makes the scheme a secure one. -/
theorem dropFolded?_secure_of_colon {cs rest : List Char}
    (h : dropFolded? [':'] cs = some rest) : dropFolded? "s:".toList cs = none := by
  cases cs with
  | nil => rfl
  | cons c cs =>
      have hcolon : foldsTo ':' c = true := by
        by_contra hc
        simp [dropFolded?, hc] at h
      have hletter : foldsTo 's' c = false := by
        by_contra hc
        have hfolds : c.toLower = 's' ∨ c = 'ſ' := by
          simpa [foldsTo, or_iff_not_imp_left] using hc
        obtain hs | rfl := hfolds
        · simp [foldsTo, hs] at hcolon
        · exact absurd hcolon (by decide)
      exact if_neg (Bool.eq_false_iff.mp hletter)

/-- What follows a scheme is looked for after either of the two. -/
theorem dropScheme?_eq_some_iff {cs rest : List Char} :
    dropScheme? cs = some rest ↔ ∃ scheme, IsScheme scheme ∧ cs = scheme ++ rest := by
  have heither : (∃ scheme, IsScheme scheme ∧ cs = scheme ++ rest) ↔
      dropFolded? "http:".toList cs = some rest ∨ dropFolded? "https:".toList cs = some rest := by
    simp only [IsScheme, dropFolded?_eq_some_iff, or_and_right, exists_or]
  have hplain : "http:".toList = "http".toList ++ [':'] := rfl
  have hsecure : "https:".toList = "http".toList ++ "s:".toList := rfl
  rw [heither, hplain, hsecure, dropFolded?_append, dropFolded?_append, dropScheme?]
  cases dropFolded? "http".toList cs with
  | none => simp
  | some after =>
      simp only [Option.bind_some]
      cases hcolon : dropFolded? [':'] after with
      | none => simp
      | some r =>
          rw [dropFolded?_secure_of_colon hcolon]
          simp

theorem isPrefixOf_slashes {cs : List Char} :
    "//".toList.isPrefixOf cs = true ↔ ∃ rest, cs = '/' :: '/' :: rest := by
  rw [List.isPrefixOf_iff_prefix]
  constructor
  · rintro ⟨rest, rfl⟩
    exact ⟨rest, rfl⟩
  · rintro ⟨rest, rfl⟩
    exact ⟨rest, rfl⟩

/-- **An address leads away if it begins with two slashes, with or without a scheme before
them.** -/
theorem isExternal_iff {href : String} :
    isExternal href = true ↔
      ∃ scheme rest, (scheme = [] ∨ IsScheme scheme) ∧
        href.toList = scheme ++ '/' :: '/' :: rest := by
  rw [isExternal, isPrefixOf_slashes]
  constructor
  · rintro ⟨rest, hrest⟩
    cases hscheme : dropScheme? href.toList with
    | none =>
        rw [hscheme] at hrest
        exact ⟨[], rest, Or.inl rfl, hrest⟩
    | some after =>
        rw [hscheme] at hrest
        obtain rfl : after = '/' :: '/' :: rest := hrest
        obtain ⟨scheme, hs, hcs⟩ := dropScheme?_eq_some_iff.mp hscheme
        exact ⟨scheme, rest, Or.inr hs, hcs⟩
  · rintro ⟨scheme, rest, rfl | hs, hcs⟩
    · refine ⟨rest, ?_⟩
      rw [hcs]
      rfl
    · refine ⟨rest, ?_⟩
      rw [dropScheme?_eq_some_iff.mpr ⟨scheme, hs, hcs⟩]
      rfl

/-! ### Addresses that links are given -/

/-- There is a host, and it is not empty. -/
def IsGiven (host : Option String) : Prop :=
  ∃ name, host = some name ∧ name ≠ ""

theorem host?_eq_none_iff {host : Option String} : host? host = none ↔ ¬ IsGiven host := by
  simp [host?, IsGiven, Option.filter_eq_none_iff]

theorem isGiven_of_host? {host : Option String} {name : String} (h : host? host = some name) :
    IsGiven host := by
  obtain ⟨hname, hne⟩ := Option.filter_eq_some_iff.mp h
  exact ⟨name, hname, by simpa using hne⟩

/-- An address on some host leads away. -/
theorem isExternal_secure (rest : String) : isExternal ("https://" ++ rest) = true := by
  have hscheme : IsScheme "https:".toList := by
    right
    simp [Spells, foldsTo]
  refine isExternal_iff.mpr ⟨_, rest.toList, Or.inr hscheme, ?_⟩
  rw [String.toList_append]
  rfl

/-- An address that begins with a slash leads away if another one follows. -/
theorem isExternal_slash_iff {rest : String} :
    isExternal ("/" ++ rest) = true ↔ rest.toList.head? = some '/' := by
  have hcs : ("/" ++ rest).toList = '/' :: rest.toList := String.toList_append
  have hscheme : dropScheme? ('/' :: rest.toList) = none := rfl
  rw [isExternal, isPrefixOf_slashes, hcs, hscheme, Option.getD_none, List.head?_eq_some_iff]
  simp

end Link

end MfmRender
