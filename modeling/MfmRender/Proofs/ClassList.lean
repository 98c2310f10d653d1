/-
Class lists are ordered sets.

A class is added to an element by reading its class attribute back, looking whether
the name is in it, and writing the longer list.  What is read is what was written
before, so the attribute has one of two forms and no other: as long as no class was
added there is none, and from then on it is the list of all names that were given,
each at the place where it came first (`classValue`).  This is what one call keeps
(`get?_addClass`).  The list is kept as a list and is never taken apart at blanks, so
an empty name and a name with blanks in it are names like any other.

In a document such calls stand between edits of all kinds.  Whatever an edit does to
the trees, it changes the attributes of its target and of no other node
(`attributes_step`), so the class list of an element is settled by the calls that
name it, as long as nothing sets its class attribute outright.

A function node gets its arguments as classes in the same way.  They are the members
of an object, in which each name stands once, so none of them is dropped.
-/
import MfmRender.Proofs.Animation
import MfmRender.Proofs.Document.Attributes
import MfmRender.Proofs.Node.Loading

namespace MfmRender

/-! ### One call -/

namespace Attributes

variable {attrs : Attributes} {names : List String}

/-- The class attribute of an element that was given these classes, one by one. -/
def classValue (names : List String) : Option AttrValue :=
  if names = [] then none else some (.names names.eraseDups)

theorem classes_eq (h : attrs.get? "class" = classValue names) :
    attrs.classes = names.eraseDups := by
  rw [classes, h, classValue]
  by_cases hnil : names = []
  · rw [if_pos hnil, hnil]
    rfl
  · rw [if_neg hnil]
    rfl

/-- **One more class comes to the end of the list, unless it is there.** -/
theorem get?_addClass (h : attrs.get? "class" = classValue names) (name : String) :
    (addClass name attrs).get? "class" = classValue (names ++ [name]) := by
  have hafter : classValue (names ++ [name]) = some (.names (names ++ [name]).eraseDups) :=
    if_neg (by simp)
  rw [hafter, Render.eraseDups_concat, addClass, classes_eq h]
  by_cases hmem : names.eraseDups.contains name = true
  · have hne : names ≠ [] := by
      rintro rfl
      simp at hmem
    rw [if_pos hmem, if_pos hmem, h, classValue, if_neg hne]
  · rw [if_neg hmem, if_neg hmem, get?_set, if_pos rfl]

end Attributes

/-! ### Calls among other edits -/

namespace Document

variable {d d' : Document} {target : String} {p : Nat} {tag : String} {attrs : Attributes}

/-- The edit gives the element a class or sets its class attribute. -/
def TouchesClass (d : Document) (target : String) (p : Nat) (e : Edit) : Prop :=
  d.Names target p ∧
    ((∃ name, e = .addClass name) ∨ ∃ value, e = .setAttribute "class" value)

/-- Edits lead from one document to another, and the names are those of the calls on the way that
give an element a class, in their order.  No other edit touches its class attribute; all else may
be done, also to this element, and may fail, and nodes may be given handles. -/
inductive GivesClasses (d : Document) (p : Nat) : List String → Document → Prop
  | start : GivesClasses d p [] d
  | call {names : List String} {d' : Document} (target name : String) :
      GivesClasses d p names d' → d'.Names target p →
      GivesClasses d p (names ++ [name]) (d'.step target (.addClass name)).2
  | other {names : List String} {d' : Document} (target : String) (e : Edit) :
      GivesClasses d p names d' → ¬ d'.TouchesClass target p e →
      GivesClasses d p names (d'.step target e).2
  | name {names : List String} {d' : Document} (handle : String) (i : Nat) :
      GivesClasses d p names d' → i ∈ Tree.ids d'.forest.trees →
      GivesClasses d p names { d' with handles := (handle, i) :: d'.handles }

/-- What is not a class keeps the class attribute. -/
theorem get?_onAttributes {e : Edit} (hnames : d.Names target p)
    (h : ¬ d.TouchesClass target p e) :
    (e.onAttributes attrs).get? "class" = attrs.get? "class" := by
  cases e with
  | setAttribute name value =>
      have hname : ¬ "class" = name := by
        rintro rfl
        exact h ⟨hnames, Or.inr ⟨value, rfl⟩⟩
      rw [Edit.onAttributes, Attributes.get?_set, if_neg hname]
  | addClass name => exact absurd ⟨hnames, Or.inl ⟨name, rfl⟩⟩ h
  | _ => rfl

/-- **The class attribute of an element is settled by the classes that it was given.** -/
theorem GivesClasses.label? {names : List String} (h : d.GivesClasses p names d')
    (hsound : d.Sound) (hp : d.forest.label? p = some (.element tag attrs))
    (hnone : attrs.get? "class" = none) :
    d'.Sound ∧ ∃ attrs', d'.forest.label? p = some (.element tag attrs') ∧
      attrs'.get? "class" = Attributes.classValue names := by
  induction h with
  | start => exact ⟨hsound, attrs, hp, hnone⟩
  | call target name _ hnames ih =>
      obtain ⟨hsound', attrs', hp', hclass⟩ := ih
      refine ⟨hsound'.step target _, _, hsound'.attributes_step target _ hp', ?_⟩
      rw [if_pos hnames]
      exact Attributes.get?_addClass hclass name
  | other target e _ hother ih =>
      obtain ⟨hsound', attrs', hp', hclass⟩ := ih
      refine ⟨hsound'.step target e, _, hsound'.attributes_step target e hp', ?_⟩
      split_ifs with hnames
      · rw [get?_onAttributes hnames hother, hclass]
      · exact hclass
  | name handle i _ hi ih =>
      obtain ⟨hsound', hp'⟩ := ih
      exact ⟨hsound'.bound handle hi, hp'⟩

end Document

/-! ### Arguments are members of an object -/

namespace Json

mutual

/-- In each object of the value the names differ. -/
def namesDiffer : Json → Bool
  | array vs => allNamesDiffer vs
  | object ms => (ms.map Prod.fst).Nodup && membersNamesDiffer ms
  | _ => Bool.true

def allNamesDiffer : List Json → Bool
  | [] => Bool.true
  | v :: rest => namesDiffer v && allNamesDiffer rest

def membersNamesDiffer : List (String × Json) → Bool
  | [] => Bool.true
  | (_, v) :: rest => namesDiffer v && membersNamesDiffer rest

end

theorem namesDiffer_object {ms : Members} (h : (object ms).namesDiffer) :
    (ms.map Prod.fst).Nodup ∧ ∀ name v, ms.get? name = some v → v.namesDiffer := by
  rw [namesDiffer, Bool.and_eq_true, decide_eq_true_eq] at h
  refine ⟨h.1, ?_⟩
  replace h := h.2
  induction ms with
  | nil =>
      intro name v hv
      cases hv
  | cons m rest ih =>
      intro name v hv
      rw [membersNamesDiffer, Bool.and_eq_true] at h
      rw [Members.get?, List.lookup_cons] at hv
      cases hname : name == m.1 with
      | true =>
          rw [hname] at hv
          exact Option.some.inj hv ▸ h.1
      | false =>
          rw [hname] at hv
          exact ih h.2 name v hv

end Json

theorem ArgValue.map_fst_of_allReadFrom {args : List (String × ArgValue)} :
    ∀ {ms : Json.Members}, ArgValue.AllReadFrom args ms →
      args.map Prod.fst = ms.map Prod.fst := by
  induction args with
  | nil =>
      rintro ms rfl
      rfl
  | cons arg rest ih =>
      rintro ms ⟨v, more, rfl, -, hmore⟩
      rw [List.map_cons, List.map_cons, ih hmore]

/-- The arguments of one function have different names. -/
theorem Branch.nodup_of_readFrom {ms : Json.Members} {name : String}
    {args : List (String × ArgValue)} (h : (Branch.fn name args).ReadFrom ms)
    (hdiffer : (Json.object ms).namesDiffer) : (args.map Prod.fst).Nodup := by
  obtain ⟨props, hprops, -, ⟨-, rfl⟩ | ⟨members, hmembers, hargs⟩⟩ := h
  · exact List.nodup_nil
  · have hinside := (Json.namesDiffer_object hdiffer).2 _ _ hprops
    have hobject := (Json.namesDiffer_object hinside).2 _ _ hmembers
    rw [ArgValue.map_fst_of_allReadFrom hargs]
    exact (Json.namesDiffer_object hobject).1

/-- So have those of every function of a document. -/
theorem Node.nodup_of_allReadFrom {name : String} {args : List (String × ArgValue)}
    {below : List Node} (ns : List Node) :
    ∀ {vs : List Json}, AllReadFrom vs ns → Json.allNamesDiffer vs →
      .branch (.fn name args) below ∈ preorderAll ns → (args.map Prod.fst).Nodup := by
  induction ns using Node.forest_induction with
  | nil =>
      intro vs _ _ hmem
      simp [preorderAll] at hmem
  | leaf l rest ih =>
      rintro vs ⟨v, more, rfl, -, hrest⟩ hdiffer hmem
      rw [Json.allNamesDiffer, Bool.and_eq_true] at hdiffer
      refine ih hrest hdiffer.2 ?_
      simpa [preorderAll, preorder] using hmem
  | branch b children rest ihc ihr =>
      rintro vs ⟨v, more, rfl, ⟨ms, rfl, -, hb, hchildren⟩, hrest⟩ hdiffer hmem
      rw [Json.allNamesDiffer, Bool.and_eq_true] at hdiffer
      rw [preorderAll, preorder, List.cons_append, List.mem_cons, List.mem_append] at hmem
      rcases hmem with hself | hchild | hother
      · obtain ⟨rfl, -⟩ := Node.branch.inj hself
        exact Branch.nodup_of_readFrom hb hdiffer.1
      · rcases hchildren with ⟨-, rfl⟩ | ⟨items, hitems, hread⟩
        · simp [preorderAll] at hchild
        · have harray := (Json.namesDiffer_object hdiffer.1).2 _ _ hitems
          exact ihc hread harray hchild
      · exact ihr hrest hdiffer.2 hother

/-! ### The classes of a function -/

theorem eraseDups_of_nodup {names : List String} (h : names.Nodup) : names.eraseDups = names := by
  induction names with
  | nil => rfl
  | cons name rest ih =>
      obtain ⟨hname, hrest⟩ := List.nodup_cons.mp h
      have hfilter : rest.filter (fun other => !other == name) = rest := by
        rw [List.filter_eq_self]
        intro other hother
        have hne : other ≠ name := fun h => hname (h ▸ hother)
        simpa using hne
      rw [List.eraseDups_cons, hfilter, ih hrest]

/-- A function is shown with its arguments as classes. -/
theorem opening?_of_shown_fn {config : Config} {ns below : List Node} {name : String}
    {args : List (String × ArgValue)} {h : Html} (hargs : (args.map Prod.fst).Nodup)
    (hshown : (.branch (.fn name args) below, h) ∈
      Node.shownAll ns (Node.prescribedAll config {} ns)) :
    h.opening? = some ("span", ("data-mfm", .text name) ::
      if args = [] then [] else [("class", .names (args.map Prod.fst))]) := by
  obtain ⟨rank, rfl⟩ := exists_prescribed_of_shown ns {} hshown
  have hrule : classRule (args.map Prod.fst)
      = if args = [] then [] else [("class", .names (args.map Prod.fst))] := by
    unfold classRule
    simp only [List.map_eq_nil_iff, eraseDups_of_nodup hargs]
  rw [Node.prescribed, branchRule, hrule]
  rfl

/-- **Class lists are ordered sets.**  The class list of an element that had none is the names that
it was given, in the order in which they came first and each once, whatever else was done in
between; there is a class attribute exactly if a name was given.  So each function of a document is
shown with the names of its arguments as classes, all of them and in their order, whatever their
values, and without a class attribute if it has no arguments. -/
theorem class_lists_ordered :
    (∀ {d d' : Document} {p : Nat} {tag : String} {attrs : Attributes} {names : List String},
      d.Reachable → d.forest.label? p = some (.element tag attrs) → attrs.get? "class" = none →
      d.GivesClasses p names d' →
      ∃ attrs', d'.forest.label? p = some (.element tag attrs') ∧
        attrs'.classes = names.eraseDups ∧
        attrs'.get? "class" = if names = [] then none else some (.names names.eraseDups)) ∧
    ∀ {vs : List Json} {ns : List Node} {config : Config} {root : Html},
      loadNodes vs = .ok ns → Json.allNamesDiffer vs → Render.document config ns = .ok root →
      (Node.shownAll ns root.children).map Prod.fst = Node.preorderAll ns ∧
      ∀ name args below h, (.branch (.fn name args) below, h) ∈ Node.shownAll ns root.children →
        h.opening? = some ("span", ("data-mfm", .text name) ::
          if args = [] then [] else [("class", .names (args.map Prod.fst))]) := by
  constructor
  · intro d d' p tag attrs names hreachable hp hnone hgiven
    obtain ⟨-, attrs', hp', hclass⟩ := hgiven.label? hreachable.sound hp hnone
    exact ⟨attrs', hp', Attributes.classes_eq hclass, hclass⟩
  · intro vs ns config root hload hdiffer hdoc
    obtain ⟨-, rfl⟩ := Render.document_eq_ok_iff.mp hdoc
    have hread := (loadNodes_eq_ok_iff_readFrom.mp hload).1
    have hlisted := map_fst_shownAll config ns {}
    refine ⟨hlisted, ?_⟩
    intro name args below h hshown
    have hmem : .branch (.fn name args) below ∈ Node.preorderAll ns :=
      hlisted ▸ List.mem_map_of_mem hshown
    exact opening?_of_shown_fn (Node.nodup_of_allReadFrom ns hread hdiffer hmem) hshown

/-- An empty class and one with a blank, each given twice, around a text; and a function with two
arguments in a link. -/
theorem class_lists_ordered_blanks :
    (∃ attrs, ((Document.empty.after [("e", .createElement "b"), ("e", .addClass ""),
        ("e", .addClass "x y"), ("e", .setText "t"), ("e", .addClass ""),
        ("e", .addClass "x y")]).forest.label? 0 = some (.element "b" attrs)) ∧
      attrs.get? "class" = some (.names ["", "x y"])) ∧
    ∃ root h, Render.document {} [.branch (.link "/" false)
        [.branch (.fn "spin" [("speed", .text "x y"), ("left", .flag false)]) []]] = .ok root ∧
      (.branch (.fn "spin" [("speed", .text "x y"), ("left", .flag false)]) [], h) ∈
        Node.shownAll [.branch (.link "/" false)
          [.branch (.fn "spin" [("speed", .text "x y"), ("left", .flag false)]) []]]
          root.children ∧
      h.opening? = some ("span", [("data-mfm", .text "spin"),
        ("class", .names ["speed", "left"])]) := by
  constructor
  · have htext : ¬ Document.TouchesClass (Document.empty.after [("e", .createElement "b"),
        ("e", .addClass ""), ("e", .addClass "x y")]) "e" 0 (.setText "t") := by
      rintro ⟨-, ⟨name, h⟩ | ⟨value, h⟩⟩ <;> cases h
    have hgiven : (Document.empty.after [("e", .createElement "b")]).GivesClasses 0
        ([] ++ [""] ++ ["x y"] ++ [""] ++ ["x y"]) (Document.empty.after
          [("e", .createElement "b"), ("e", .addClass ""), ("e", .addClass "x y"),
            ("e", .setText "t"), ("e", .addClass ""), ("e", .addClass "x y")]) :=
      .call "e" "x y" (.call "e" "" (.other "e" (.setText "t") (.call "e" "x y"
        (.call "e" "" .start rfl) rfl) htext) rfl) rfl
    obtain ⟨attrs, hlabel, -, hclass⟩ := class_lists_ordered.1
      (Document.Reachable.empty.after [("e", .createElement "b")]) rfl rfl hgiven
    exact ⟨attrs, hlabel, hclass.trans (by decide)⟩
  · have hload : loadNodes [.object [("type", .string "link"),
        ("props", .object [("url", .string "/")]),
        ("children", .array [.object [("type", .string "fn"), ("props", .object [
          ("name", .string "spin"),
          ("args", .object [("speed", .string "x y"), ("left", .bool false)])])]])]]
        = .ok [.branch (.link "/" false)
          [.branch (.fn "spin" [("speed", .text "x y"), ("left", .flag false)]) []]] := rfl
    obtain ⟨-, hclasses⟩ := class_lists_ordered.2 hload (by decide) rfl
    exact ⟨_, _, rfl, List.mem_cons_of_mem _ List.mem_cons_self,
      hclasses _ _ _ _ (List.mem_cons_of_mem _ List.mem_cons_self)⟩

end MfmRender
