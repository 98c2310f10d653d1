/-
How rendering fails.

A document can be refused, and whoever called is told why.  Beyond that only one
thing can go wrong: block code that is taken as markup need not be markup, and
the reader of markup rejects some of it.  This file says that there is no other
way to fail, and which failure comes about: the first code that is rejected, in
the order in which nodes begin, ends the rendering, and the counters stay where
that code was met (`nodes_eq_error`).

A failure of this kind is not a refusal.  `renderItems_outcome` tells the three ends
of a call apart: markup, a refusal, or the rejection of some code of the document.

All of this is about texts that are made of characters.  Half of a pair on its own
is none, and what becomes of one where an address is encoded is not looked into.  Nor
is colouring in languages beyond those described (`Node.LanguagesDescribed`).
-/
import MfmRender.Proofs.Highlight.Inert

namespace MfmRender

open Html

/-! ### Markup that is rejected -/

/-- A marked section has to begin with a keyword that is known. -/
theorem parse_unknownSection : Html.parse "<![bad[" = .error (.unknownSection "bad") := by
  have htokens : Lexer.tokensFrom false ('<' :: "![bad[".toList)
      = .error (.unknownSection "bad") :=
    Lexer.tokensFrom_rejected false rfl
  show (Lexer.tokensFrom false ('<' :: "![bad[".toList)).map Html.Fragment.ofTokens = _
  rw [htokens]
  rfl

/-- A reference to a character by a number of `n` digits. -/
def numberReference (n : Nat) : String :=
  String.ofList ('&' :: '#' :: (List.replicate n '7' ++ [';']))

/-- A number of more digits than are read is rejected. -/
theorem charNumber_tooManyDigits {n : Nat} (h : maxDigits < n) :
    Lexer.charNumber? (List.replicate n '7' ++ [';']) = .error (.tooManyDigits n) := by
  have hdigits : ∀ c ∈ List.replicate n '7', c.isDigit = true := by
    intro c hc
    rw [List.eq_of_mem_replicate hc]
    rfl
  have htake := Lexer.takeWhile_stop hdigits (show Char.isDigit ';' = false from rfl) []
  have hdrop := Lexer.dropWhile_stop hdigits (show Char.isDigit ';' = false from rfl) []
  have hvalue : Value.ofDigits (List.replicate n '7') = .error (.tooManyDigits n) := by
    rw [Value.ofDigits, List.length_replicate, if_pos h]
  obtain ⟨k, rfl⟩ : ∃ k, n = k + 1 := Nat.exists_eq_add_one.mpr (Nat.zero_lt_of_lt h)
  rw [List.replicate_succ, List.cons_append] at htake hdrop ⊢
  rw [List.replicate_succ] at hvalue
  rw [Lexer.charNumber?, if_neg (by decide)]
  simp only [htake, hdrop]
  rw [if_neg (by simp [Text.isHexDigit, Text.hexValue?]), hvalue]
  rfl

theorem parse_numberReference {n : Nat} (h : maxDigits < n) :
    Html.parse (numberReference n) = .error (.tooManyDigits n) := by
  have htokens : Lexer.tokensFrom false ('&' :: '#' :: (List.replicate n '7' ++ [';']))
      = .error (.tooManyDigits n) :=
    Lexer.tokensFrom_number_rejected false (charNumber_tooManyDigits h)
  rw [Html.parse, numberReference, String.toList_ofList, Token.ofMarkup, htokens]
  rfl

/-! ### The first rejection -/

/-- Why the code of a node is rejected, if it is. -/
def Node.rejection? (config : Config) (n : Node) : Option Rejection :=
  (n.injected config).findSome? fun markup =>
    match Html.parse markup with
    | .ok _ => none
    | .error r => some r

/-- The first rejection among some nodes and all nodes inside them. -/
def Node.firstRejection? (config : Config) (ns : List Node) : Option Rejection :=
  (Node.preorderAll ns).findSome? (Node.rejection? config)

/-- The nodes that begin before any code is rejected. -/
def Node.begun (config : Config) (ns : List Node) : List Node :=
  (Node.preorderAll ns).takeWhile fun n => (n.rejection? config).isNone

namespace Node

variable {config : Config}

/-- Only code that is taken as markup is rejected. -/
theorem rejection?_eq_some_iff {n : Node} {r : Rejection} :
    n.rejection? config = some r ↔
      config.highlightCode = false ∧
        ∃ code lang, n = .leaf (.blockCode code lang) ∧ Html.parse code = .error r := by
  rcases n with ⟨b, children⟩ | l
  · simp [rejection?, injected]
  · cases l with
    | blockCode code lang =>
        cases hcolour : config.highlightCode with
        | true =>
            simp [rejection?, injected, Render.codeMarkup, hcolour, Highlight.parse_markup]
        | false =>
            cases hparse : Html.parse code with
            | ok hs => simp [rejection?, injected, Render.codeMarkup, hcolour, hparse]
            | error e => simp [rejection?, injected, Render.codeMarkup, hcolour, hparse]
    | _ => simp [rejection?, injected]

theorem firstRejection?_leaf_cons (l : Leaf) (rest : List Node) :
    firstRejection? config (.leaf l :: rest)
      = ((Node.leaf l).rejection? config).or (firstRejection? config rest) := by
  rw [firstRejection?, preorderAll, preorder, List.singleton_append, List.findSome?_cons]
  cases (Node.leaf l).rejection? config <;> rfl

theorem firstRejection?_branch_cons (b : Branch) (children rest : List Node) :
    firstRejection? config (.branch b children :: rest)
      = (firstRejection? config children).or (firstRejection? config rest) := by
  rw [firstRejection?, preorderAll, preorder, List.cons_append, List.findSome?_cons]
  exact List.findSome?_append

theorem accepted_iff {ns : List Node} : Accepted config ns ↔ firstRejection? config ns = none := by
  unfold Accepted firstRejection? rejection?
  rw [List.findSome?_eq_none_iff]
  refine forall₂_congr fun n _ => ?_
  rw [List.findSome?_eq_none_iff]
  refine forall₂_congr fun markup _ => ?_
  cases Html.parse markup <;> simp

theorem begun_leaf_cons (l : Leaf) (rest : List Node) :
    begun config (.leaf l :: rest)
      = if ((Node.leaf l).rejection? config).isNone then .leaf l :: begun config rest else [] := by
  rw [begun, preorderAll, preorder, List.singleton_append, List.takeWhile_cons]
  rfl

/-- A listing is gone through up to the first rejection, in its first part if there is one. -/
theorem takeWhile_accepted_append (ns ms : List Node) :
    (ns ++ ms).takeWhile (fun n => (n.rejection? config).isNone)
      = if (ns.findSome? (Node.rejection? config)).isNone then
          ns ++ ms.takeWhile fun n => (n.rejection? config).isNone
        else ns.takeWhile fun n => (n.rejection? config).isNone := by
  induction ns with
  | nil => rfl
  | cons n ns ih =>
    rw [List.cons_append, List.takeWhile_cons, List.findSome?_cons, List.takeWhile_cons]
    cases n.rejection? config with
    | some r => rfl
    | none =>
        simp only [Option.isNone_none, if_true, ih]
        split <;> rfl

/-- After a branch nothing begins if code inside it is rejected. -/
theorem begun_branch_cons (b : Branch) (children rest : List Node) :
    begun config (.branch b children :: rest)
      = .branch b children ::
          if (firstRejection? config children).isNone then
            preorderAll children ++ begun config rest
          else begun config children := by
  have hbranch : ((Node.branch b children).rejection? config).isNone = true := rfl
  rw [begun, preorderAll, preorder, List.cons_append, List.takeWhile_cons, if_pos hbranch,
    takeWhile_accepted_append]
  rfl

end Node

namespace Render

variable {config : Config}

theorem leaf_eq_error {l : Leaf} {r : Rejection}
    (h : (Node.leaf l).rejection? config = some r) : leaf config l = .error r := by
  obtain ⟨hcolour, code, lang, hl, hparse⟩ := Node.rejection?_eq_some_iff.mp h
  obtain rfl : l = .blockCode code lang := Node.leaf.inj hl
  simp [leaf, codeMarkup, hcolour, hparse, Except.map]

/-- A leaf whose code is not rejected moves no counter. -/
theorem node_leaf_eq_ok {l : Leaf} (h : (Node.leaf l).rejection? config = none)
    (before : Counters) : node config (.leaf l) before = (.ok (leafRule config l), before) := by
  have haccepted : ∀ markup ∈ (Node.leaf l).injected config, ∃ hs, Html.parse markup = .ok hs := by
    have hl : Node.Accepted config [.leaf l] := by
      rw [Node.accepted_iff, Node.firstRejection?_leaf_cons, h]
      rfl
    exact (Node.accepted_leaf_cons.mp hl).1
  rw [node, leaf_eq_ok_iff.mpr ⟨haccepted, rfl⟩]

/-- **Rendering ends at the first code that is rejected, where it leaves the counters as they were
when that code was met.** -/
theorem nodes_eq_error {ns : List Node} {r : Rejection} :
    ∀ {before : Counters}, Node.firstRejection? config ns = some r →
      nodes config ns before = (.error r, before + Node.tally (Node.begun config ns)) := by
  induction ns using Node.forest_induction with
  | nil =>
      intro before h
      cases h
  | leaf l rest ih =>
      intro before h
      rw [Node.firstRejection?_leaf_cons] at h
      rw [Node.begun_leaf_cons]
      cases hl : (Node.leaf l).rejection? config with
      | some r' =>
          obtain rfl : r' = r := by simpa [hl] using h
          simp only [nodes, node, leaf_eq_error hl]
          rfl
      | none =>
          have hrest : Node.firstRejection? config rest = some r := by simpa [hl] using h
          simp only [nodes, node_leaf_eq_ok hl, ih hrest]
          rfl
  | branch b children rest ihc ihr =>
      intro before h
      rw [Node.firstRejection?_branch_cons] at h
      -- The branch itself has begun when its children are rendered, so it is counted in any case.
      have hcount : ∀ listed, before + Node.tally (.branch b children :: listed)
          = count before b + Node.tally listed := by
        intro listed
        rw [count_eq before b children]
        exact Node.add_tally_append before [.branch b children] listed
      rw [Node.begun_branch_cons, hcount]
      cases hc : Node.firstRejection? config children with
      | some r' =>
          obtain rfl : r' = r := by simpa [hc] using h
          simp only [nodes, node, ihc hc]
          rfl
      | none =>
          have hrest : Node.firstRejection? config rest = some r := by simpa [hc] using h
          have hchildren : nodes config children (count before b) = _ :=
            nodes_eq_ok_iff.mpr ⟨Node.accepted_iff.mpr hc, rfl, rfl⟩
          simp only [nodes, node, hchildren, ihr hrest, Option.isNone_none, if_true,
            Node.add_tally_append]

theorem document_eq_error {ns : List Node} {r : Rejection}
    (h : Node.firstRejection? config ns = some r) : document config ns = .error r := by
  rw [document, nodes_eq_error h]

end Render

/-! ### Languages that are described -/

/-- If a highlighter knows a language by the name, one of those whose names are `known`, it is
described here. -/
def Highlight.Language.Described (known : String → Prop) (name : String) : Prop :=
  known (key name) → key name ∈ names

/-- No code among the nodes, at whatever depth, is in a language that a highlighter knows and that
is not described here. -/
def Node.LanguagesDescribed (known : String → Prop) (ns : List Node) : Prop :=
  ∀ code lang, .leaf (.blockCode code lang) ∈ preorderAll ns →
    Highlight.Language.Described known (lang.getD "")

/-! ### How a call ends -/

/-- Some block code of the document is taken as markup and cannot be read as such. -/
def HoldsRejected (config : Config) (vs : List Json) : Prop :=
  config.highlightCode = false ∧
    ∃ ns, loadNodes vs = .ok ns ∧
      ∃ code lang r, .leaf (.blockCode code lang) ∈ Node.preorderAll ns ∧
        Html.parse code = .error r

variable {config : Config} {vs : List Json} {ns : List Node}

theorem holdsRejected_iff (hload : loadNodes vs = .ok ns) :
    HoldsRejected config vs ↔ ∃ r, Node.firstRejection? config ns = some r := by
  constructor
  · rintro ⟨hcolour, ns', hload', code, lang, r, hmem, hparse⟩
    obtain rfl : ns = ns' := Except.ok.inj (hload.symm.trans hload')
    refine Option.isSome_iff_exists.mp (List.findSome?_isSome_iff.mpr ⟨_, hmem, ?_⟩)
    exact Option.isSome_iff_exists.mpr
      ⟨r, Node.rejection?_eq_some_iff.mpr ⟨hcolour, code, lang, rfl, hparse⟩⟩
  · rintro ⟨r, hr⟩
    obtain ⟨n, hmem, hn⟩ := List.exists_of_findSome?_eq_some hr
    obtain ⟨hcolour, code, lang, rfl, hparse⟩ := Node.rejection?_eq_some_iff.mp hn
    exact ⟨hcolour, ns, hload, code, lang, r, hmem, hparse⟩

theorem not_holdsRejected_of_refused {e : RenderError} (hload : loadNodes vs = .error e) :
    ¬ HoldsRejected config vs := by
  rintro ⟨-, ns, hns, -⟩
  rw [hload] at hns
  cases hns

/-- A document that is not loaded is refused: for the fault that was found, or, if no item is an
object, because its first item is no node. -/
theorem renderItems_refused {e : RenderError} {source : ConfigSource}
    (hload : loadNodes vs = .error e) (hsource : source.resolve = .ok (.ok config)) :
    ∃ e', renderItems (vs.map .raw) source = .error (.refused e') := by
  cases vs with
  | nil => cases hload
  | cons v rest =>
      have hitems : loadItems ((v :: rest).map .raw) = .error e := hload
      unfold renderItems
      rw [if_neg (by simp), hsource]
      simp only [bind, Except.bind]
      cases hobject : ((v :: rest).map Item.raw).any Item.isRawObject with
      | true =>
          simp only [if_true, hitems]
          exact ⟨e, rfl⟩
      | false => exact ⟨.unsupportedKind .null, rfl⟩

/-- How a call ends that is given items which can be loaded. -/
theorem renderItems_loaded {is : List Item} {ns : List Node} {source : ConfigSource}
    {config : Config} (hload : loadItems is = .ok ns)
    (hsource : source.resolve = .ok (.ok config)) :
    (Node.firstRejection? config ns = none → ∃ markup, renderItems is source = .ok markup) ∧
      ∀ r, Node.firstRejection? config ns = some r →
        renderItems is source = .error (.rejectedMarkup r) := by
  by_cases his : is = []
  · subst his
    obtain rfl : [] = ns := Except.ok.inj hload
    exact ⟨fun _ => ⟨"", rfl⟩, by rintro r ⟨⟩⟩
  · rw [renderItems_of_loadItems his hload hsource]
    constructor
    · intro hnone
      rw [Render.document_eq_ok_iff.mpr ⟨Node.accepted_iff.mpr hnone, rfl⟩]
      exact ⟨_, rfl⟩
    · intro r hr
      rw [Render.document_eq_error hr]

/-- **A call gives markup or a refusal unless some code of the document is rejected, and then it
fails by that rejection.** -/
theorem renderItems_outcome {source : ConfigSource} (hsource : source.resolve = .ok (.ok config)) :
    (∃ markup, renderItems (vs.map .raw) source = .ok markup ∧ ¬ HoldsRejected config vs) ∨
      (∃ e, renderItems (vs.map .raw) source = .error (.refused e) ∧
        ¬ HoldsRejected config vs) ∨
      ∃ r, renderItems (vs.map .raw) source = .error (.rejectedMarkup r) ∧
        HoldsRejected config vs := by
  cases hload : loadNodes vs with
  | error e =>
      obtain ⟨e', he'⟩ := renderItems_refused hload hsource
      exact Or.inr (Or.inl ⟨e', he', not_holdsRejected_of_refused hload⟩)
  | ok ns =>
      obtain ⟨hok, herror⟩ := renderItems_loaded hload hsource
      rw [holdsRejected_iff hload]
      cases hr : Node.firstRejection? config ns with
      | none =>
          obtain ⟨markup, hmarkup⟩ := hok hr
          exact Or.inl ⟨markup, hmarkup, by simp⟩
      | some r => exact Or.inr (Or.inr ⟨r, herror r hr, r, rfl⟩)

/-! ### Code that stands alone -/

/-- A value that writes block code without a language. -/
def codeValue (code : String) : Json :=
  .object [("type", .string "blockCode"), ("props", .object [("code", .string code)])]

theorem loadNodes_codeValue (code : String) :
    loadNodes [codeValue code] = .ok [.leaf (.blockCode code none)] :=
  rfl

/-- Taken as markup, code that is rejected makes the call fail. -/
theorem renderItems_codeValue {code : String} {r : Rejection} {source : ConfigSource}
    (hparse : Html.parse code = .error r) (hsource : source.resolve = .ok (.ok config))
    (hplain : config.highlightCode = false) :
    renderItems [.raw (codeValue code)] source = .error (.rejectedMarkup r) := by
  have hload : loadItems [.raw (codeValue code)] = .ok [.leaf (.blockCode code none)] :=
    loadNodes_codeValue code
  refine (renderItems_loaded hload hsource).2 r ?_
  rw [Node.firstRejection?_leaf_cons,
    Node.rejection?_eq_some_iff.mpr ⟨hplain, code, none, rfl, hparse⟩]
  rfl

end MfmRender
