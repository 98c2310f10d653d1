/-
Printed trees are read back.

Printing a tree and reading the markup gives the tree again, in the form in
which a reader keeps trees: `parse_charsAll` is the statement, for all trees that
markup can carry.

The proof goes through the tokens.  Lexing has been settled; what is left is the
stack of open elements, and there one fact is enough.  Reading the tokens of a
forest changes nothing but the innermost open element: it gains children, and
some text may be left pending.  An element pushes one open element, reads its
children, and its end tag pops exactly that one.
-/
import MfmRender.Proofs.Markup.Settled

namespace MfmRender.Html

open Lexer

/-! ### Reading tokens

What a fragment does with tokens is said of its innermost open element alone:
`addAll` gives it children and `waiting` leaves text pending.
-/

theorem set_of_notMem {name : String} (v : AttrValue) {attrs : Attributes}
    (h : name ∉ attrs.map Prod.fst) : Attributes.set name v attrs = attrs ++ [(name, v)] := by
  induction attrs with
  | nil => rfl
  | cons a attrs ih =>
      simp only [List.map_cons, List.mem_cons, not_or] at h
      simp only [Attributes.set, if_neg (Ne.symm h.1), ih h.2, List.cons_append]

/-- Attributes of different names are all kept, in the order in which they are written. -/
theorem keepAttributes_of_nodup {el : String} {ws : List (String × String)}
    (h : (ws.map Prod.fst).Nodup) :
    keepAttributes el ws = ws.map fun w => (w.1, settledValue el w.1 (.text w.2)) := by
  have general : ∀ (ws : List (String × String)) (acc : Attributes),
      (acc.map Prod.fst ++ ws.map Prod.fst).Nodup →
      ws.foldl (fun attrs w => Attributes.set w.1 (settledValue el w.1 (.text w.2)) attrs) acc
        = acc ++ ws.map fun w => (w.1, settledValue el w.1 (.text w.2)) := by
    intro ws
    induction ws with
    | nil => intro acc _; simp
    | cons w ws ih =>
        intro acc hnd
        have hnew : w.1 ∉ acc.map Prod.fst := by
          intro hmem
          exact (List.nodup_append.mp hnd).2.2 _ hmem _ (by simp) rfl
        rw [List.foldl_cons, set_of_notMem _ hnew, ih _ (by simpa using hnd)]
        simp
  have hfold := general ws [] (by simpa using h)
  simpa [keepAttributes, settledValue, AttrValue.asText] using hfold

/-- What is kept of the attributes of a printable element is their settled form. -/
theorem Printable.elementAttributes {name : String} {attrs : Attributes} {children : List Html}
    (h : Printable name attrs children) :
    elementAttributes (lowerName name.toList) (writtenAttributes attrs)
      = settledAttributes (lowerName name.toList) attrs := by
  have hperm : (attrs.mergeSort fun a b => decide (a.1 ≤ b.1)).Perm attrs := List.mergeSort_perm ..
  have hnd : ((writtenAttributes attrs).map Prod.fst).Nodup := by
    have := (hperm.map Prod.fst).nodup_iff.mpr h.distinct
    simpa [writtenAttributes, Function.comp_def] using this
  simp only [Html.elementAttributes, h.notMeta, bne_iff_ne, ne_eq, not_false_eq_true, if_true,
    keepAttributes_of_nodup hnd]
  simp [writtenAttributes, settledAttributes, settledValue, AttrValue.asText]

namespace Fragment

/-- The fragment with text pending. -/
def waiting (f : Fragment) (cs : List Char) : Fragment :=
  { f with pending := cs.reverse }

/-- The fragment with nodes added to its innermost open element, one after another. -/
def addAll (f : Fragment) (hs : List Html) : Fragment :=
  hs.foldl (fun f h => f.add h) f

/-- The node that pending text becomes, if there is any. -/
def textNode (keep : Bool) (cs : List Char) : List Html :=
  if cs = [] then [] else [.text (settledText keep (String.ofList cs))]

/-- No text is pending and no end tag is expected. -/
structure Idle (f : Fragment) : Prop where
  pending : f.pending = []
  awaited : f.awaited = []

theorem Idle.add {f : Fragment} (hf : Idle f) (h : Html) : Idle (f.add h) := by
  unfold Fragment.add
  split <;> exact ⟨hf.pending, hf.awaited⟩

theorem Idle.addAll {f : Fragment} (hf : Idle f) (hs : List Html) : Idle (f.addAll hs) := by
  unfold Fragment.addAll
  induction hs generalizing f with
  | nil => exact hf
  | cons h hs ih => exact ih (hf.add h)

theorem Idle.waiting_nil {f : Fragment} (hf : Idle f) : f.waiting [] = f := by
  obtain ⟨hp, -⟩ := hf
  cases f
  simp only at hp
  subst hp
  rfl

theorem keepsSpace_add (f : Fragment) (h : Html) : (f.add h).keepsSpace = f.keepsSpace := by
  unfold Fragment.add
  split <;> rename_i hopen <;> simp [keepsSpace, hopen]

theorem keepsSpace_addAll (f : Fragment) (hs : List Html) :
    (f.addAll hs).keepsSpace = f.keepsSpace := by
  unfold addAll
  induction hs generalizing f with
  | nil => rfl
  | cons h hs ih => rw [List.foldl_cons, ih, keepsSpace_add]

theorem addAll_append (f : Fragment) (hs gs : List Html) :
    f.addAll (hs ++ gs) = (f.addAll hs).addAll gs :=
  List.foldl_append

theorem keep_eq (f : Fragment) (cs : List Char) :
    f.keep cs = settledText f.keepsSpace (String.ofList cs) := by
  unfold keep settledText
  split <;> simp

theorem flush_waiting {f : Fragment} (hf : Idle f) (cs : List Char) :
    (f.waiting cs).flush = f.addAll (textNode f.keepsSpace cs) := by
  cases cs with
  | nil =>
      rw [hf.waiting_nil]
      simp [flush, hf.pending, textNode, addAll]
  | cons c cs =>
      have hpending : (f.waiting (c :: cs)).pending ≠ [] := by simp [waiting]
      have hkeep : (f.waiting (c :: cs)).keep (c :: cs)
          = settledText f.keepsSpace (String.ofList (c :: cs)) := keep_eq _ _
      have hadd : { (f.waiting (c :: cs)).add (.text (settledText f.keepsSpace
          (String.ofList (c :: cs)))) with pending := [] }
          = f.add (.text (settledText f.keepsSpace (String.ofList (c :: cs)))) := by
        have := (hf.add (.text (settledText f.keepsSpace (String.ofList (c :: cs))))).pending
        unfold Fragment.add waiting at *
        cases hopen : f.opened <;> simp_all
      unfold flush
      split
      · rename_i hnil
        exact absurd hnil hpending
      · have hrev : (f.waiting (c :: cs)).pending.reverse = c :: cs := by simp [waiting]
        rw [hrev, hkeep, hadd]
        simp [textNode, addAll]

/-! ### The children that a forest adds -/

/-- The nodes that siblings add when `cs` is pending before them, and what is pending after. -/
def pieces (keep : Bool) (cs : List Char) : List Html → List Html × List Char
  | [] => ([], cs)
  | .text s :: rest => pieces keep (cs ++ s.toList) rest
  | h :: rest =>
    (textNode keep cs ++ settled keep (joined h) :: (pieces keep [] rest).1,
      (pieces keep [] rest).2)

/-- The nodes of some siblings, with what is pending at the end. -/
def allPieces (keep : Bool) (cs : List Char) (hs : List Html) : List Html :=
  (pieces keep cs hs).1 ++ textNode keep (pieces keep cs hs).2

theorem settledAll_text (keep : Bool) (cs : List Char) :
    settledAll keep (if String.ofList cs = "" then [] else [.text (String.ofList cs)])
      = textNode keep cs := by
  by_cases hcs : cs = []
  · simp [textNode, settledAll, hcs]
  · have hne : String.ofList cs ≠ "" := by
      intro h
      exact hcs (by simpa using congrArg String.toList h)
    simp [textNode, settledAll, settled, hcs, hne]

/-- The nodes of some siblings are the siblings with texts joined, in settled form. -/
theorem allPieces_eq (keep : Bool) (hs : List Html) :
    ∀ cs : List Char, allPieces keep cs hs
      = settledAll keep (joinTexts (.text (String.ofList cs) :: joinedAll hs)) := by
  induction hs with
  | nil => intro cs; exact (settledAll_text keep cs).symm
  | cons h rest ih =>
      intro cs
      -- what is no text ends the run before it
      have hother : (∀ t, joined h ≠ .text t) →
          allPieces keep cs (h :: rest)
            = textNode keep cs ++ settled keep (joined h) :: allPieces keep [] rest →
          allPieces keep cs (h :: rest)
            = settledAll keep (joinTexts (.text (String.ofList cs) :: joinedAll (h :: rest))) := by
        intro hj hstep
        rw [hstep, ih, joinedAll, joinTexts_text_cons _ hj, settledAll_append, settledAll_text,
          String.ofList_nil, joinTexts_empty]
        rfl
      cases h with
      | text s =>
          have hstep : allPieces keep cs (.text s :: rest)
              = allPieces keep (cs ++ s.toList) rest := rfl
          rw [hstep, ih, joinedAll, joined, joinTexts_text_text]
          simp
      | aside kind s => exact hother (by simp [joined]) (List.append_assoc ..)
      | element name attrs children => exact hother (by simp [joined]) (List.append_assoc ..)

theorem allPieces_nil (keep : Bool) (hs : List Html) :
    allPieces keep [] hs = settledAll keep (joinTexts (joinedAll hs)) := by
  rw [allPieces_eq, String.ofList_nil, joinTexts_empty]

/-! ### The tokens of a forest -/

theorem read_text (f : Fragment) (cs : List Char) (c : Char) :
    (f.waiting cs).read (.text [c]) = f.waiting (cs ++ [c]) := by
  simp [read, waiting]

theorem foldl_read_text (f : Fragment) (s : List Char) :
    ∀ cs : List Char, (s.map fun c => Token.text [c]).foldl read (f.waiting cs)
      = f.waiting (cs ++ s) := by
  induction s with
  | nil => intro cs; simp
  | cons c s ih =>
      intro cs
      rw [List.map_cons, List.foldl_cons, read_text, ih]
      simp

/-- An element opened inside the innermost one. -/
def opening (f : Fragment) (name : String) (attrs : Attributes) : Fragment :=
  { f with opened := ⟨name, attrs, []⟩ :: f.opened }

theorem keepsSpace_opening (f : Fragment) (name : String) (attrs : Attributes) :
    (f.opening name attrs).keepsSpace = (f.keepsSpace || Html.keepsSpace name) :=
  Bool.or_comm ..

theorem addAll_opening (f : Fragment) (name : String) (attrs : Attributes) (hs : List Html) :
    (f.opening name attrs).addAll hs
      = { f with opened := ⟨name, attrs, hs.reverse⟩ :: f.opened } := by
  have general : ∀ (hs done : List Html),
      hs.foldl (fun f h => f.add h) { f with opened := ⟨name, attrs, done⟩ :: f.opened }
        = { f with opened := ⟨name, attrs, hs.reverse ++ done⟩ :: f.opened } := by
    intro hs
    induction hs with
    | nil => intro done; rfl
    | cons h hs ih =>
        intro done
        rw [List.foldl_cons]
        show hs.foldl (fun f h => f.add h)
          { f with opened := ⟨name, attrs, h :: done⟩ :: f.opened } = _
        rw [ih]
        simp
  have := general hs []
  simpa [addAll, opening] using this

/-- Opening an element, giving it children and closing it adds the element with the children. -/
theorem closeNamed_opening (f : Fragment) (name : String) (attrs : Attributes) (hs : List Html) :
    ((f.opening name attrs).addAll hs).closeNamed name = f.add (.element name attrs hs) := by
  rw [addAll_opening]
  simp [closeNamed, List.findIdx?_cons, close, closeOne, OpenElement.finish]

theorem Idle.opening {f : Fragment} (hf : Idle f) (name : String) (attrs : Attributes) :
    Idle (f.opening name attrs) :=
  ⟨hf.pending, hf.awaited⟩

/-- What reading the tokens of a forest does: the innermost open element gets its nodes, and the
text at its end is pending. -/
def ReadsInto (hs : List Html) : Prop :=
  ∀ f : Fragment, Idle f → ∀ cs : List Char,
    (tokensAll hs).foldl read (f.waiting cs)
      = (f.addAll (pieces f.keepsSpace cs hs).1).waiting (pieces f.keepsSpace cs hs).2

/-- The end tag of an element whose children have been read adds the element. -/
theorem read_endTag {f : Fragment} (hf : Idle f) (name : String) (attrs : Attributes)
    (hs : List Html) (cs : List Char) :
    (((f.opening name attrs).addAll hs).waiting cs).read (.endTag name)
      = f.add (.element name attrs
          (hs ++ textNode (f.keepsSpace || Html.keepsSpace name) cs)) := by
  have hidle := (hf.opening name attrs).addAll hs
  have hawaited : (((f.opening name attrs).addAll hs).waiting cs).awaited = [] := hidle.awaited
  simp only [read, hawaited, List.contains_nil, Bool.false_eq_true, if_false, flush_waiting hidle,
    keepsSpace_addAll, keepsSpace_opening, ← addAll_append, closeNamed_opening]

/-- Reading a whole element adds it in settled form, whether it has an end tag or not. -/
theorem foldl_read_element {name : String} {attrs : Attributes} {children : List Html}
    (hel : Printable name attrs children) (hin : ReadsInto children) {f : Fragment} (hf : Idle f)
    (cs : List Char) :
    (tokens (element name attrs children)).foldl read (f.waiting cs)
      = (f.addAll (textNode f.keepsSpace cs)).add
          (settled f.keepsSpace (joined (element name attrs children))) := by
  have hflush := flush_waiting hf cs
  rcases hel.closes with ⟨hvoid, rfl⟩ | ⟨hvoid, hlow⟩
  · rw [tokens, if_pos hvoid, List.foldl_cons, List.foldl_nil]
    simp only [read, hflush, hel.elementAttributes, if_true]
    rfl
  · have hg : Idle (f.addAll (textNode f.keepsSpace cs)) := hf.addAll _
    have hkeep : (f.addAll (textNode f.keepsSpace cs)).keepsSpace = f.keepsSpace :=
      keepsSpace_addAll _ _
    have hstart : (f.waiting cs).read
        (.startTag (lowerName name.toList) (writtenAttributes attrs) false)
        = (f.addAll (textNode f.keepsSpace cs)).opening (lowerName name.toList)
            (settledAttributes (lowerName name.toList) attrs) := by
      simp only [read, hflush, hel.elementAttributes, hlow, Bool.false_eq_true, if_false]
      rfl
    have ho := hg.opening (lowerName name.toList) (settledAttributes (lowerName name.toList) attrs)
    have hokeep : ((f.addAll (textNode f.keepsSpace cs)).opening (lowerName name.toList)
        (settledAttributes (lowerName name.toList) attrs)).keepsSpace
        = (f.keepsSpace || Html.keepsSpace (lowerName name.toList)) := by
      rw [keepsSpace_opening, hkeep]
    have hchildren := hin _ ho []
    rw [ho.waiting_nil, hokeep] at hchildren
    rw [tokens, if_neg (by simp [hvoid]), List.foldl_cons, hstart, List.foldl_append, hchildren,
      List.foldl_cons, List.foldl_nil, read_endTag hg, hkeep]
    have hall := allPieces_nil (f.keepsSpace || Html.keepsSpace (lowerName name.toList)) children
    unfold allPieces at hall
    rw [hall]
    rfl

theorem readsInto : ∀ hs : List Html, AllPrintable hs → ReadsInto hs := by
  intro hs
  induction hs using forest_induction with
  | nil => intro _ f hf cs; rfl
  | text s rest ih =>
      intro hp f hf cs
      simp only [AllPrintable] at hp
      rw [tokensAll, tokens, List.foldl_append, foldl_read_text, ih hp f hf]
      rfl
  | aside kind s rest ih =>
      intro hp
      simp only [AllPrintable] at hp
  | element name attrs children rest ihc ihr =>
      intro hp f hf cs
      simp only [AllPrintable] at hp
      obtain ⟨hel, hchildren, hrest⟩ := hp
      have hidle := (hf.addAll (textNode f.keepsSpace cs)).add
        (settled f.keepsSpace (joined (element name attrs children)))
      have hlast := ihr hrest _ hidle []
      rw [hidle.waiting_nil, keepsSpace_add, keepsSpace_addAll] at hlast
      rw [tokensAll, List.foldl_append, foldl_read_element hel (ihc hchildren) hf, hlast]
      simp only [pieces, addAll_append]
      rfl

/-! ### Whole markup -/

theorem idle_empty : Idle Fragment.empty :=
  ⟨rfl, rfl⟩

theorem addAll_empty (hs : List Html) :
    Fragment.empty.addAll hs = { Fragment.empty with roots := hs.reverse } := by
  have general : ∀ hs done : List Html,
      hs.foldl (fun f h => f.add h) { Fragment.empty with roots := done }
        = { Fragment.empty with roots := hs.reverse ++ done } := by
    intro hs
    induction hs with
    | nil => intro done; rfl
    | cons h hs ih =>
        intro done
        rw [List.foldl_cons]
        show hs.foldl (fun f h => f.add h) { Fragment.empty with roots := h :: done } = _
        rw [ih]
        simp
  have hall := general hs []
  rwa [List.append_nil] at hall

theorem finish_waiting (hs : List Html) (cs : List Char) :
    ((Fragment.empty.addAll hs).waiting cs).finish = hs ++ textNode false cs := by
  have hkeep : Fragment.empty.keepsSpace = false := rfl
  unfold finish
  rw [flush_waiting (idle_empty.addAll hs), keepsSpace_addAll, hkeep, ← addAll_append, addAll_empty]
  simp [empty, close]

end Fragment

/-- Markup that is cut into the tokens of some trees is read as those trees, in the form in which
trees are kept. -/
theorem parse_of_tokens {cs : List Char} {hs : List Html} (hp : AllPrintable hs)
    (htokens : tokensFrom false cs = .ok (tokensAll hs)) :
    parse (String.ofList cs) = .ok (settledAll false (joinTexts (joinedAll hs))) := by
  have hread := Fragment.readsInto hs hp Fragment.empty Fragment.idle_empty []
  rw [Fragment.idle_empty.waiting_nil] at hread
  unfold parse Token.ofMarkup
  rw [String.toList_ofList, htokens]
  show Except.ok (((tokensAll hs).foldl Fragment.read Fragment.empty).finish) = _
  rw [hread, Fragment.finish_waiting]
  exact congrArg Except.ok (Fragment.allPieces_nil false hs)

/-- **Markup that was printed from trees is read as those trees, in the form in which trees are
kept.** -/
theorem parse_charsAll {hs : List Html} (hp : AllPrintable hs) :
    parse (String.ofList (charsAll false hs))
      = .ok (settledAll false (joinTexts (joinedAll hs))) := by
  have htokens := tokensFrom_charsAll false hs hp []
  have hnil : tokensFrom false [] = .ok [] := by rw [tokensFrom.eq_def]
  rw [List.append_nil, hnil] at htokens
  refine parse_of_tokens hp ?_
  rw [htokens]
  show Except.ok (tokensAll hs ++ []) = _
  rw [List.append_nil]

end MfmRender.Html
