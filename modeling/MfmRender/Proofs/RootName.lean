/-
What the name of the root element decides.

The options admit every name that markup allows, and rendering the nodes does not
look at it (`Render.nodes_rootTagName`): documents fail alike under any two names,
and what they become is put into the root element as it is.

It is the printer that asks for the name.  Inside `script` and `style` text is
written as it stands, everywhere else it is escaped.  Most text has an element of
its own around it; the one that has not is an emoji that has no picture.  So where
such an emoji stands right inside the root, and holds a character that is escaped
elsewhere, the content of the root is not the same under all names.
`root_names_compared` says that this is the only difference there can be, and
`emoji_unescaped_in_script` that it is there.
-/
import MfmRender.Proofs.Incremental

namespace MfmRender

open Html

/-! ### Text that is written as it stands -/

namespace Html

/-- No character of the text is escaped. -/
def IsPlain (cs : List Char) : Prop :=
  ∀ c ∈ cs, c ≠ '&' ∧ c ≠ '<' ∧ c ≠ '>'

theorem one_le_length_escapeChar (c : Char) : 1 ≤ (escapeChar c).length := by
  rcases Lexer.escapeChar_cases c with (rfl | rfl | rfl) | ⟨hself, -⟩
  · decide
  · decide
  · decide
  · rw [hself]
    exact Nat.le_refl 1

theorem length_le_length_escape (cs : List Char) : cs.length ≤ (escape cs).length := by
  induction cs with
  | nil => exact Nat.le_refl 0
  | cons c rest ih =>
      have hc := one_le_length_escapeChar c
      have hrest : rest.length ≤ (rest.flatMap escapeChar).length := ih
      rw [escape, List.flatMap_cons, List.length_append, List.length_cons]
      omega

/-- Escaping leaves a text alone exactly if it has nothing to escape. -/
theorem escape_eq_self_iff {cs : List Char} : escape cs = cs ↔ IsPlain cs := by
  induction cs with
  | nil => simp [escape, IsPlain]
  | cons c rest ih =>
      have hsplit : escape (c :: rest) = escapeChar c ++ escape rest := List.flatMap_cons
      have hplain : IsPlain (c :: rest) ↔ (c ≠ '&' ∧ c ≠ '<' ∧ c ≠ '>') ∧ IsPlain rest :=
        List.forall_mem_cons
      rw [hsplit, hplain, ← ih]
      by_cases hspecial : c = '&' ∨ c = '<' ∨ c = '>'
      · -- What is escaped is longer than it was, and nothing behind it gets shorter.
        have hlonger : 1 < (escapeChar c).length := by
          rcases hspecial with rfl | rfl | rfl <;> decide
        have hrest := length_le_length_escape rest
        constructor
        · intro heq
          have hlength := congrArg List.length heq
          rw [List.length_append, List.length_cons] at hlength
          omega
        · rintro ⟨⟨hamp, hlt, hgt⟩, -⟩
          rcases hspecial with rfl | rfl | rfl <;> contradiction
      · obtain ⟨hamp, hlt, hgt⟩ : c ≠ '&' ∧ c ≠ '<' ∧ c ≠ '>' := by simpa using hspecial
        have hself : escapeChar c = [c] := by simp [escapeChar, hamp, hlt, hgt]
        simp [hself, hamp, hlt, hgt]

theorem length_chars_le (h : Html) : (chars true h).length ≤ (chars false h).length := by
  cases h with
  | text s => exact length_le_length_escape s.toList
  | aside kind content => exact Nat.le_refl _
  | element name attrs children => exact Nat.le_refl _

theorem length_charsAll_le (hs : List Html) :
    (charsAll true hs).length ≤ (charsAll false hs).length := by
  induction hs with
  | nil => exact Nat.le_refl 0
  | cons h rest ih =>
      have hh := length_chars_le h
      rw [charsAll, charsAll, List.length_append, List.length_append]
      omega

theorem chars_raw_eq_iff {h : Html} :
    chars true h = chars false h ↔ ∀ s, h = .text s → IsPlain s.toList := by
  cases h with
  | text s =>
      rw [show chars true (.text s) = s.toList from rfl,
        show chars false (.text s) = escape s.toList from rfl, eq_comm, escape_eq_self_iff]
      simp
  | aside kind content => simp [chars]
  | element name attrs children => simp [chars]

/-- A row of trees is written the same, with its text escaped or not, exactly if no text right in
the row has anything to escape. -/
theorem charsAll_raw_eq_iff {hs : List Html} :
    charsAll true hs = charsAll false hs ↔ ∀ s, .text s ∈ hs → IsPlain s.toList := by
  induction hs with
  | nil => simp [charsAll]
  | cons h rest ih =>
      have hparts : charsAll true (h :: rest) = charsAll false (h :: rest) ↔
          chars true h = chars false h ∧ charsAll true rest = charsAll false rest := by
        rw [charsAll, charsAll]
        constructor
        · intro heq
          -- Neither part is longer unescaped, so both are as long as they are escaped.
          have hlength := congrArg List.length heq
          rw [List.length_append, List.length_append] at hlength
          have hh := length_chars_le h
          have hrest := length_charsAll_le rest
          exact List.append_inj heq (by omega)
        · rintro ⟨hh, hrest⟩
          rw [hh, hrest]
      rw [hparts, chars_raw_eq_iff, ih]
      simp only [List.mem_cons]
      constructor
      · rintro ⟨hh, hrest⟩ s (hs | hs)
        · exact hh s hs.symm
        · exact hrest s hs
      · intro hall
        exact ⟨fun s hs => hall s (Or.inl hs.symm), fun s hs => hall s (Or.inr hs)⟩

end Html

/-! ### Nodes without an element -/

/-- The text of a node that has no element of its own. -/
def Node.bareText? (config : Config) : Node → Option String
  | .leaf (.unicodeEmoji emoji) => some emoji
  | .leaf (.emojiCode name) =>
    if (Link.host? config.url).isNone then some (":" ++ name ++ ":") else none
  | _ => none

theorem prescribed_eq_text_iff {config : Config} {before : Counters} {n : Node} {s : String} :
    Node.prescribed config before n = .text s ↔ n.bareText? config = some s := by
  cases n with
  | branch b children => cases b <;> simp [Node.prescribed, branchRule, Node.bareText?]
  | leaf l =>
      cases l with
      | emojiCode name =>
          cases hhost : Link.host? config.url <;>
            simp [Node.prescribed, leafRule, Node.bareText?, hhost]
      | _ => simp [Node.prescribed, leafRule, Node.bareText?]

theorem text_mem_prescribedAll_iff {config : Config} {ns : List Node} {s : String} :
    ∀ {before : Counters}, .text s ∈ Node.prescribedAll config before ns ↔
      ∃ n ∈ ns, n.bareText? config = some s := by
  induction ns with
  | nil => simp [Node.prescribedAll]
  | cons n rest ih =>
      intro before
      rw [Node.prescribedAll, List.mem_cons, ih, eq_comm, prescribed_eq_text_iff]
      simp

/-! ### Rendering under two names -/

namespace Render

variable (config : Config) (name : String)

theorem leaf_rootTagName (l : Leaf) :
    leaf { config with rootTagName := name } l = leaf config l := by
  cases l <;> rfl

theorem branch_rootTagName (rank : Counters) (b : Branch) (hs : List Html) :
    branch { config with rootTagName := name } rank b hs = branch config rank b hs := by
  cases b with
  | styled style => cases style <;> rfl
  | link url silent => rfl
  | fn name args => rfl

/-- **The nodes are rendered without a look at the name of the root element.** -/
theorem nodes_rootTagName (ns : List Node) :
    ∀ before, nodes { config with rootTagName := name } ns before = nodes config ns before := by
  induction ns using Node.forest_induction with
  | nil => intro before; rfl
  | leaf l rest ih =>
      intro before
      simp only [nodes, node, leaf_rootTagName, ih]
  | branch b children rest ihc ihr =>
      intro before
      simp only [nodes, node, branch_rootTagName, ihc, ihr]

/-- A document is its nodes, rendered without a look at the name, inside the root element. -/
theorem document_rootTagName (ns : List Node) :
    document { config with rootTagName := name } ns
      = match nodes config ns {} with
        | (.ok hs, _) => .ok (element name "root" [] hs)
        | (.error r, _) => .error r := by
  rcases hnodes : nodes config ns {} with ⟨r | hs, after⟩ <;>
    simp [document, nodes_rootTagName, hnodes]

end Render

/-- **Under two names of the root element a document fails alike, or it is written inside the root
under both; and what is written there is the same unless one name is that of an element whose text
is not escaped, the other is not, and a text right inside the root has something to escape.** -/
theorem root_names_compared {vs : List Json} {ns : List Node} {config : Config} {s t : String}
    {sourceS sourceT : ConfigSource} (hload : loadNodes vs = .ok ns)
    (hs : sourceS.resolve = .ok (.ok { config with rootTagName := s }))
    (ht : sourceT.resolve = .ok (.ok { config with rootTagName := t })) :
    (∀ f, renderItems (vs.map .raw) sourceS = .error f ↔
      renderItems (vs.map .raw) sourceT = .error f) ∧
    (vs ≠ [] → ∀ markup, renderItems (vs.map .raw) sourceS = .ok markup →
      ∃ contentS contentT, markup = rootMarkup s contentS ∧
        renderItems (vs.map .raw) sourceT = .ok (rootMarkup t contentT) ∧
        (contentS = contentT ↔ isRawText s = isRawText t ∨
          ∀ n ∈ ns, ∀ text, n.bareText? config = some text → IsPlain text.toList)) := by
  by_cases hvs : vs = []
  · subst hvs
    exact ⟨fun f => by simp [renderItems], fun h => absurd rfl h⟩
  · rw [renderItems_raw hvs hload hs, renderItems_raw hvs hload ht, Render.document_rootTagName,
      Render.document_rootTagName]
    rcases hnodes : Render.nodes config ns {} with ⟨r | hs, after⟩
    · exact ⟨fun f => Iff.rfl, by simp⟩
    · obtain ⟨-, rfl, -⟩ := Render.nodes_eq_ok_iff.mp hnodes
      have hns : ns ≠ [] := by
        intro hnil
        rw [loadNodes_eq_ok_iff_map, hnil] at hload
        exact hvs (by simpa using hload)
      have hne := prescribedAll_ne_nil config {} hns
      refine ⟨by simp, fun _ markup hmarkup => ?_⟩
      obtain rfl := Except.ok.inj hmarkup
      refine ⟨_, _, print_root s hne, congrArg Except.ok (print_root t hne), ?_⟩
      have hplain : (∀ n ∈ ns, ∀ text, n.bareText? config = some text → IsPlain text.toList) ↔
          charsAll true (Node.prescribedAll config {} ns)
            = charsAll false (Node.prescribedAll config {} ns) := by
        rw [charsAll_raw_eq_iff]
        simp only [text_mem_prescribedAll_iff]
        grind
      rw [String.ofList_inj, hplain]
      cases isRawText s <;> cases isRawText t <;> simp [eq_comm]

theorem rootMarkup_inj {root content content' : String}
    (h : rootMarkup root content = rootMarkup root content') : content = content' := by
  have hlists := congrArg String.toList h
  simp only [rootMarkup, String.toList_append, List.append_assoc] at hlists
  exact String.toList_inj.mp (by simpa using hlists)

/-- An emoji that would be markup, as a document writes it. -/
def markupEmoji : Json :=
  .object [("type", .string "unicodeEmoji"), ("props", .object [("emoji", .string "<b>")])]

/-- Inside an element of its own it is escaped under every name, even that of an element whose text
is not. -/
theorem root_names_compared_nested :
    ∃ content,
      renderItems [.raw (.object [("type", .string "bold"), ("children", .array [markupEmoji])])]
        (.ready { rootTagName := "style" }) = .ok (rootMarkup "style" content) ∧
      renderItems [.raw (.object [("type", .string "bold"), ("children", .array [markupEmoji])])]
        (.ready { rootTagName := "p" }) = .ok (rootMarkup "p" content) := by
  have hload : loadNodes [.object [("type", .string "bold"), ("children", .array [markupEmoji])]]
      = .ok [.branch (.styled .bold) [.leaf (.unicodeEmoji "<b>")]] := rfl
  have haccepted : Node.Accepted {} [.branch (.styled .bold) [.leaf (.unicodeEmoji "<b>")]] := by
    rw [Node.accepted_iff]
    rfl
  have hrender := (@renderItems_eq_ok_iff _ _ (.ready { rootTagName := "style" }) _ _ hload rfl).mpr
    ⟨haccepted, rfl⟩
  obtain ⟨-, hmarkup⟩ := @root_names_compared _ _ {} "style" "p"
    (.ready { rootTagName := "style" }) (.ready { rootTagName := "p" }) hload rfl rfl
  obtain ⟨content, content', hstyle, hplain, hsame⟩ := hmarkup (by simp) _ hrender
  have hbare : ∀ n ∈ [Node.branch (.styled .bold) [.leaf (.unicodeEmoji "<b>")]],
      ∀ text, n.bareText? {} = some text → IsPlain text.toList := by
    simp [Node.bareText?]
  obtain rfl := hsame.mpr (Or.inr hbare)
  exact ⟨content, hrender.trans (congrArg Except.ok hstyle), hplain⟩

/-- Right inside the root it is escaped under one name and markup under the other. -/
theorem emoji_unescaped_in_script :
    loadNodes [markupEmoji] = .ok [.leaf (.unicodeEmoji "<b>")] ∧
      Config.ofMembers [("rootTagName", .string "script")] = .ok { rootTagName := "script" } ∧
      renderItems [.raw markupEmoji] (.members [("rootTagName", .string "script")])
        = .ok (rootMarkup "script" "<b>") ∧
      renderItems [.raw markupEmoji] (.members []) = .ok (rootMarkup "p" "&lt;b&gt;") ∧
      ¬ ∃ content,
        renderItems [.raw markupEmoji] (.members [("rootTagName", .string "script")])
          = .ok (rootMarkup "script" content) ∧
        renderItems [.raw markupEmoji] (.members []) = .ok (rootMarkup "p" content) := by
  have hload : loadNodes [markupEmoji] = .ok [.leaf (.unicodeEmoji "<b>")] := rfl
  have hconfig : Config.ofMembers [("rootTagName", .string "script")]
      = .ok { rootTagName := "script" } := rfl
  have hscript : renderItems [.raw markupEmoji] (.members [("rootTagName", .string "script")])
      = .ok (rootMarkup "script" "<b>") := by
    have hraw := @renderItems_raw _ _ (.members [("rootTagName", .string "script")]) _
      (by simp) hload rfl
    exact hraw.trans (congrArg Except.ok (print_root "script" (by simp)))
  have hparagraph : renderItems [.raw markupEmoji] (.members [])
      = .ok (rootMarkup "p" "&lt;b&gt;") := by
    have hraw := @renderItems_raw _ _ (.members []) _ (by simp) hload rfl
    exact hraw.trans (congrArg Except.ok (print_root "p" (by simp)))
  refine ⟨hload, hconfig, hscript, hparagraph, ?_⟩
  rintro ⟨content, hs, hp⟩
  have hraw := rootMarkup_inj (Except.ok.inj (hscript.symm.trans hs))
  have hescaped := rootMarkup_inj (Except.ok.inj (hparagraph.symm.trans hp))
  exact absurd (hraw.trans hescaped.symm) (by decide)

end MfmRender
