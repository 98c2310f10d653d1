/-
The form in which a reader keeps trees.

A tree that was printed and read again is not quite the tree that it was.  Names
are in lower case, attributes in the order of their names, lists of names cut at
blanks, adjacent texts are one, there is no empty text, and texts of nothing but
space have shrunk.  `settledAll` is that form, and `AllPrintable` says which trees
markup can carry at all: no asides, names that a tag can have, no element whose text
is raw, no children in a void element.

What the lexer makes of the printed forest is settled here too: the tokens of its
trees, one after another (`tokensFrom_charsAll`).
-/
import MfmRender.Proofs.Markup.Lexing

namespace MfmRender.Html

open Lexer

/-- Induction on forests: the first tree is taken apart before the rest is looked at. -/
theorem forest_induction {motive : List Html → Prop} (nil : motive [])
    (text : ∀ s rest, motive rest → motive (.text s :: rest))
    (aside : ∀ kind s rest, motive rest → motive (.aside kind s :: rest))
    (element : ∀ name attrs children rest, motive children → motive rest →
      motive (.element name attrs children :: rest)) :
    ∀ hs : List Html, motive hs
  | [] => nil
  | .text s :: rest => text s rest (forest_induction nil text aside element rest)
  | .aside kind s :: rest => aside kind s rest (forest_induction nil text aside element rest)
  | .element name attrs children :: rest =>
      element name attrs children rest (forest_induction nil text aside element children)
        (forest_induction nil text aside element rest)
termination_by hs => sizeOf hs

/-! ### The form in which trees are kept -/

/-- Siblings with each run of texts as one text, and no text where the run is empty. -/
def joinTexts : List Html → List Html
  | [] => []
  | .text s :: rest =>
    match joinTexts rest with
    | .text t :: more => .text (s ++ t) :: more
    | more => if s = "" then more else .text s :: more
  | h :: rest => h :: joinTexts rest

mutual

/-- A tree with the texts of each element joined. -/
def joined : Html → Html
  | text s => text s
  | aside kind s => aside kind s
  | element name attrs children => element name attrs (joinTexts (joinedAll children))

def joinedAll : List Html → List Html
  | [] => []
  | h :: rest => joined h :: joinedAll rest

end

/-- A text as it is kept, where every space counts or not. -/
def settledText (keep : Bool) (s : String) : String :=
  if keep then s else String.ofList (Fragment.shrink s.toList)

/-- The value of an attribute as it is kept: of some attributes the names in it. -/
def settledValue (element name : String) (v : AttrValue) : AttrValue :=
  if holdsNames element name then
    .names ((Text.words v.asText.toList).map String.ofList)
  else .text v.asText

/-- The attributes of an element as they are kept, in the order of their names. -/
def settledAttributes (element : String) (attrs : Attributes) : Attributes :=
  (attrs.mergeSort fun a b => decide (a.1 ≤ b.1)).map fun a => (a.1, settledValue element a.1 a.2)

mutual

/-- A tree as it is kept when it stands where every space counts or not. -/
def settled (keep : Bool) : Html → Html
  | text s => text (settledText keep s)
  | aside kind s => aside kind (settledText keep s)
  | element name attrs children =>
    element (lowerName name.toList) (settledAttributes (lowerName name.toList) attrs)
      (settledAll (keep || keepsSpace (lowerName name.toList)) children)

def settledAll (keep : Bool) : List Html → List Html
  | [] => []
  | h :: rest => settled keep h :: settledAll keep rest

end

theorem joinTexts_empty (hs : List Html) : joinTexts (.text "" :: hs) = joinTexts hs := by
  cases h : joinTexts hs with
  | nil => simp [joinTexts, h]
  | cons g gs => cases g <;> simp [joinTexts, h]

theorem joinTexts_text_text (s t : String) (hs : List Html) :
    joinTexts (.text s :: .text t :: hs) = joinTexts (.text (s ++ t) :: hs) := by
  cases h : joinTexts hs with
  | nil => by_cases ht : t = "" <;> simp [joinTexts, h, ht]
  | cons g gs =>
      cases g with
      | text u => simp [joinTexts, h, String.append_assoc]
      | aside kind u => by_cases ht : t = "" <;> simp [joinTexts, h, ht]
      | element name attrs children => by_cases ht : t = "" <;> simp [joinTexts, h, ht]

/-- An element or an aside ends a run of texts. -/
theorem joinTexts_text_cons (s : String) {g : Html} (hg : ∀ t, g ≠ .text t) (hs : List Html) :
    joinTexts (.text s :: g :: hs) = (if s = "" then [] else [.text s]) ++ g :: joinTexts hs := by
  cases g with
  | text t => exact absurd rfl (hg t)
  | aside kind u => by_cases hs' : s = "" <;> simp [joinTexts, hs']
  | element name attrs children => by_cases hs' : s = "" <;> simp [joinTexts, hs']

theorem settledAll_append (keep : Bool) (hs gs : List Html) :
    settledAll keep (hs ++ gs) = settledAll keep hs ++ settledAll keep gs := by
  induction hs with
  | nil => rfl
  | cons h hs ih => simp [settledAll, ih]

/-! ### Trees that markup can carry -/

/-- An element that can be printed so that reading finds it again. -/
structure Printable (name : String) (attrs : Attributes) (children : List Html) : Prop where
  tagName : Config.isTagName name.toList = true
  notRaw : isRawText (lowerName name.toList) = false
  notMeta : lowerName name.toList ≠ "meta"
  void : isVoid (lowerName name.toList) = true → isVoid name = true ∧ children = []
  attrNames : ∀ a ∈ attrs, AttrName a.1
  distinct : (attrs.map Prod.fst).Nodup

/-- Trees without asides in which every element is printable. -/
def AllPrintable : List Html → Prop
  | [] => True
  | text _ :: rest => AllPrintable rest
  | aside .. :: _ => False
  | element name attrs children :: rest =>
    Printable name attrs children ∧ AllPrintable children ∧ AllPrintable rest
termination_by hs => sizeOf hs

theorem lowerName_of_isVoid {name : String} (h : isVoid name = true) :
    lowerName name.toList = name := by
  have hall : ∀ n ∈ voidNames, lowerName n.toList = n := by decide
  exact hall name (by simpa [isVoid] using h)

theorem lowerName_of_isRawText {name : String} (h : isRawText name = true) :
    lowerName name.toList = name := by
  simp only [isRawText, Bool.or_eq_true, beq_iff_eq] at h
  rcases h with rfl | rfl <;> decide

/-- An element that may not have children when it is read has none when it is printed. -/
theorem Printable.closes {name : String} {attrs : Attributes} {children : List Html}
    (h : Printable name attrs children) :
    (isVoid name = true ∧ children = []) ∨
      (isVoid name = false ∧ isVoid (lowerName name.toList) = false) := by
  by_cases hv : isVoid name = true
  · have hlow : isVoid (lowerName name.toList) = true := by rw [lowerName_of_isVoid hv, hv]
    exact Or.inl ⟨hv, (h.void hlow).2⟩
  · refine Or.inr ⟨by simpa using hv, ?_⟩
    cases hlow : isVoid (lowerName name.toList) with
    | false => rfl
    | true => exact absurd (h.void hlow).1 hv

theorem Printable.raw {name : String} {attrs : Attributes} {children : List Html}
    (h : Printable name attrs children) : isRawText name = false := by
  cases hraw : isRawText name with
  | false => rfl
  | true =>
      have hlow := h.notRaw
      rw [lowerName_of_isRawText hraw, hraw] at hlow
      exact hlow

/-! ### The tokens of a tree -/

/-- The attributes as a start tag writes them. -/
def writtenAttributes (attrs : Attributes) : List (String × String) :=
  (attrs.mergeSort fun a b => decide (a.1 ≤ b.1)).map fun a => (a.1, a.2.asText)

mutual

/-- The tokens that a printed tree is cut into. -/
def tokens : Html → List Token
  | text s => s.toList.map fun c => .text [c]
  | aside .. => []
  | element name attrs children =>
    if isVoid name then [.startTag (lowerName name.toList) (writtenAttributes attrs) true]
    else .startTag (lowerName name.toList) (writtenAttributes attrs) false ::
      (tokensAll children ++ [.endTag (lowerName name.toList)])

def tokensAll : List Html → List Token
  | [] => []
  | h :: rest => tokens h ++ tokensAll rest

end

theorem attrName_mergeSort {attrs : Attributes} (h : ∀ a ∈ attrs, AttrName a.1) :
    ∀ a ∈ attrs.mergeSort (fun a b => decide (a.1 ≤ b.1)), AttrName a.1 := by
  intro a ha
  exact h a (by simpa using ha)

/-- The start tag of an element is one token, and what follows it is read on. -/
theorem tokensFrom_startTag {name : String} {attrs : Attributes} {children : List Html}
    (hel : Printable name attrs children) (ended closed : Bool) (rest : List Char) :
    tokensFrom ended ('<' :: (name.toList ++
        afterTagName (attrs.mergeSort fun a b => decide (a.1 ≤ b.1)) closed rest))
      = (tokensFrom ended rest).map
          ([.startTag (lowerName name.toList) (writtenAttributes attrs) closed] ++ ·) := by
  have hraw : opensRaw?
      [.startTag (lowerName name.toList) (writtenAttributes attrs) closed] = none := by
    cases closed <;> simp [opensRaw?, hel.notRaw]
  obtain ⟨h, htag⟩ := tag_startTag hel.tagName (attrName_mergeSort hel.attrNames) closed rest
  exact tokensFrom_tag ended htag hraw

theorem tokensFrom_charsAll (ended : Bool) :
    ∀ (hs : List Html), AllPrintable hs → ∀ rest : List Char,
      tokensFrom ended (charsAll false hs ++ rest)
        = (tokensFrom ended rest).map (tokensAll hs ++ ·) := by
  intro hs
  induction hs using forest_induction with
  | nil =>
      intro _ rest
      cases h : tokensFrom ended rest <;> simp [charsAll, tokensAll, h, Except.map]
  | text s more ih =>
      intro hp rest
      simp only [AllPrintable] at hp
      rw [charsAll, List.append_assoc]
      show tokensFrom ended (s.toList.flatMap escapeChar ++ (charsAll false more ++ rest)) = _
      rw [tokensFrom_flatMap faithful_escapeChar, ih hp, map_append_tokens]
      rfl
  | aside kind s more ih =>
      intro hp
      simp only [AllPrintable] at hp
  | element name attrs children more ihc ihm =>
      intro hp rest
      simp only [AllPrintable] at hp
      obtain ⟨hel, hchildren, hmore⟩ := hp
      rcases hel.closes with ⟨hvoid, rfl⟩ | ⟨hvoid, -⟩
      · have hshape : charsAll false (element name attrs [] :: more) ++ rest
            = '<' :: (name.toList ++
                afterTagName (attrs.mergeSort fun a b => decide (a.1 ≤ b.1)) true
                  (charsAll false more ++ rest)) := by
          simp [charsAll, chars, hvoid, emptyTag, attrsChars, afterTagName, tagClose]
        rw [hshape, tokensFrom_startTag hel, ihm hmore, map_append_tokens]
        simp [tokensAll, tokens, hvoid, writtenAttributes]
      · have hshape : charsAll false (element name attrs children :: more) ++ rest
            = '<' :: (name.toList ++
                afterTagName (attrs.mergeSort fun a b => decide (a.1 ≤ b.1)) false
                  (charsAll false children ++
                    '<' :: '/' :: (name.toList ++ '>' :: (charsAll false more ++ rest)))) := by
          simp [charsAll, chars, hvoid, hel.raw, startTag, endTag, attrsChars, afterTagName,
            tagClose]
        obtain ⟨h, hend⟩ := tag_endTag hel.tagName (charsAll false more ++ rest)
        rw [hshape, tokensFrom_startTag hel, ihc hchildren, tokensFrom_tag ended hend rfl,
          ihm hmore, map_append_tokens, map_append_tokens, map_append_tokens]
        simp [tokensAll, tokens, hvoid, writtenAttributes]

end MfmRender.Html
