/-
What has been loaded is rendered.

Rendering finds out what to do with an item only when it comes to it: a value
that is no node, a kind that is not known and a property that is not there are
all met on the way.  Loading has looked at all of this before.  So for items that
can be loaded, raw objects and loaded nodes in any mixture, one failure is left,
and it is not about the shape of the document: block code that is taken as markup
and is none.

`dispatch_safe` says when that happens and what comes of it, in both directions.
Where code is coloured, such items are rendered, whatever the code is.  Where it is
taken as markup, the call ends well unless some of it, at whatever depth, is
rejected; then it ends with the rejection of the code that begins first.

Rejected is more than what the parser of markup finds at fault.  It reads the
numbers of references too, and a number of too many digits ends the call in the
same way, although the markup is in good order: `long_reference_breaks_dispatch`.
-/
import MfmRender.Proofs.Failures

namespace MfmRender

open Html

namespace Node

/-- The node is block code that is no markup, for this reason. -/
def Rejects (r : Rejection) (n : Node) : Prop :=
  ∃ code lang, n = .leaf (.blockCode code lang) ∧ Html.parse code = .error r

variable {config : Config} {ns : List Node}

theorem firstRejection?_eq_none_iff :
    firstRejection? config ns = none ↔
      config.highlightCode = true ∨ ∀ n ∈ preorderAll ns, ∀ r, ¬ Rejects r n := by
  have hnone : ∀ n : Node, n.rejection? config = none ↔
      config.highlightCode = true ∨ ∀ r, ¬ Rejects r n := by
    intro n
    rw [Option.eq_none_iff_forall_ne_some]
    simp only [ne_eq, rejection?_eq_some_iff]
    cases config.highlightCode <;> simp [Rejects]
  rw [firstRejection?, List.findSome?_eq_none_iff]
  simp only [hnone]
  cases config.highlightCode <;> simp

/-- The first rejection is that of the code which no rejected code comes before. -/
theorem firstRejection?_eq_some_iff {r : Rejection} :
    firstRejection? config ns = some r ↔
      config.highlightCode = false ∧ ∃ before n after, preorderAll ns = before ++ n :: after ∧
        Rejects r n ∧ ∀ m ∈ before, ∀ r', ¬ Rejects r' m := by
  rw [firstRejection?, List.findSome?_eq_some_iff]
  constructor
  · rintro ⟨before, n, after, hlisted, hn, hbefore⟩
    obtain ⟨hcolour, hrejects⟩ := rejection?_eq_some_iff.mp hn
    refine ⟨hcolour, before, n, after, hlisted, hrejects, ?_⟩
    intro m hm r' hm'
    have hrejected := rejection?_eq_some_iff.mpr ⟨hcolour, hm'⟩
    rw [hbefore m hm] at hrejected
    cases hrejected
  · rintro ⟨hcolour, before, n, after, hlisted, hrejects, hbefore⟩
    refine ⟨before, n, after, hlisted, rejection?_eq_some_iff.mpr ⟨hcolour, hrejects⟩, ?_⟩
    intro m hm
    rw [Option.eq_none_iff_forall_ne_some]
    intro r' hr'
    exact hbefore m hm r' (rejection?_eq_some_iff.mp hr').2

end Node

/-- **Items that can be loaded are rendered where code is coloured, in languages that are described.
Where code is taken as markup they are rendered unless some of it is rejected, and then the call
fails, by the first of these rejections and in no other way.** -/
theorem dispatch_safe (known : String → Prop) {is : List Item} {ns : List Node}
    {source : ConfigSource} {config : Config} (hload : loadItems is = .ok ns)
    (hsource : source.resolve = .ok (.ok config)) :
    (config.highlightCode = true → Node.LanguagesDescribed known ns →
      ∃ markup, renderItems is source = .ok markup) ∧
    (config.highlightCode = false →
      ((∃ markup, renderItems is source = .ok markup) ↔
        ∀ n ∈ Node.preorderAll ns, ∀ r, ¬ Node.Rejects r n) ∧
      ∀ f, renderItems is source = .error f ↔
        ∃ r, f = .rejectedMarkup r ∧ ∃ before n after,
          Node.preorderAll ns = before ++ n :: after ∧ Node.Rejects r n ∧
            ∀ m ∈ before, ∀ r', ¬ Node.Rejects r' m) := by
  obtain ⟨hok, herror⟩ := renderItems_loaded hload hsource
  constructor
  · intro hcolour _
    exact hok (Node.firstRejection?_eq_none_iff.mpr (Or.inl hcolour))
  · intro hcolour
    have hnone : Node.firstRejection? config ns = none ↔
        ∀ n ∈ Node.preorderAll ns, ∀ r, ¬ Node.Rejects r n := by
      rw [Node.firstRejection?_eq_none_iff]
      simp [hcolour]
    have hsome : ∀ r, Node.firstRejection? config ns = some r ↔ ∃ before n after,
        Node.preorderAll ns = before ++ n :: after ∧ Node.Rejects r n ∧
          ∀ m ∈ before, ∀ r', ¬ Node.Rejects r' m := by
      intro r
      rw [Node.firstRejection?_eq_some_iff]
      simp [hcolour]
    simp only [← hnone, ← hsome]
    cases hfirst : Node.firstRejection? config ns with
    | none =>
        obtain ⟨markup, hmarkup⟩ := hok hfirst
        simp [hmarkup]
    | some r => simp [herror r hfirst, eq_comm]

/-- A loaded node that holds code which is no markup, and a raw object after it. -/
def mixedItems : List Item :=
  [.loaded (.branch (.styled .bold) [.leaf (.blockCode "<![bad[" (some " JSON"))]),
    .raw (.object [("type", .string "big")])]

/-- They are rendered where code is coloured, and otherwise the code makes the call fail. -/
theorem dispatch_safe_mixed :
    loadItems mixedItems
      = .ok [.branch (.styled .bold) [.leaf (.blockCode "<![bad[" (some " JSON"))],
          .branch (.styled .big) []] ∧
    (∃ markup, renderItems mixedItems (.ready { highlightCode := true }) = .ok markup) ∧
    renderItems mixedItems .default = .error (.rejectedMarkup (.unknownSection "bad")) := by
  have hload : loadItems mixedItems
      = .ok [.branch (.styled .bold) [.leaf (.blockCode "<![bad[" (some " JSON"))],
          .branch (.styled .big) []] := rfl
  refine ⟨hload, ?_, ?_⟩
  · refine (dispatch_safe (· ∈ "html" :: Highlight.Language.names) hload rfl).1 rfl ?_
    intro code lang hmem _
    obtain ⟨-, rfl⟩ : code = "<![bad[" ∧ lang = some " JSON" := by
      simpa [Node.preorderAll, Node.preorder] using hmem
    decide +kernel
  · obtain ⟨-, hfails⟩ := (@dispatch_safe (· ∈ "html" :: Highlight.Language.names) _ _ .default {}
      hload rfl).2 rfl
    refine (hfails _).mpr ⟨_, rfl, [_], _, [_], rfl, ?_, ?_⟩
    · exact ⟨"<![bad[", some " JSON", rfl, parse_unknownSection⟩
    · rintro m hm r ⟨code, lang, rfl, -⟩
      simp at hm

/-! ### A number that is not read -/

/-- The markup is rejected for what is wrong with it, and this is what the message of the failure
says (`Failure.message`).  A number of too many digits is in good order as markup. -/
def Html.Rejection.OfMarkup : Rejection → Prop
  | .unknownSection _ => True
  | .sectionWithoutName _ => True
  | .tooManyDigits _ => False

/-- Code that refers to a character by a number of one digit more than are read is in good order as
markup, and yet it cannot be rendered. -/
theorem long_reference_breaks_dispatch :
    ∃ ns, loadItems [.raw (codeValue (numberReference (maxDigits + 1)))] = .ok ns ∧
      (∀ n ∈ Node.preorderAll ns, ∀ r, Node.Rejects r n → ¬ r.OfMarkup) ∧
      renderItems [.raw (codeValue (numberReference (maxDigits + 1)))] .default
        = .error (.rejectedMarkup (.tooManyDigits (maxDigits + 1))) := by
  have hparse := parse_numberReference (Nat.lt_succ_self maxDigits)
  refine ⟨_, loadNodes_codeValue _, ?_, renderItems_codeValue hparse rfl rfl⟩
  rintro n hn r ⟨code, lang, rfl, hrejected⟩
  have hcode : code = numberReference (maxDigits + 1) := by
    have hleaf := Leaf.blockCode.inj (Node.leaf.inj (List.mem_singleton.mp hn))
    exact hleaf.1
  rw [hcode, hparse] at hrejected
  cases hrejected
  exact id

end MfmRender
