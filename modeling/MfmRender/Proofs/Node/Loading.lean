/-
Loading accepts exactly the grammar of nodes, and loses nothing.

Loading is a function into the grammar and onto it, as far as the depth of the
document allows.  The levels that are left go down with every node that is
entered, so the induction is on them; the checks of a single node are settled
already.

There are twelve kinds of branch, so at most twelve branches on the way to a node
govern, and `depthAll_le_nesting` bounds the depth by the plain nesting of
branches.  Nesting alone does not settle it: see
`Node.text_in_descending_tooDeep`.
-/
import MfmRender.Proofs.Calls
import MfmRender.Proofs.Node.Grammar

namespace MfmRender

namespace Node

/-- Loading one value follows the grammar, as far as the levels go. -/
def Follows (levels : Nat) (governor : Option BranchKind) : Prop :=
  ∀ v n, load levels governor v = .ok n ↔ ReadFrom v n ∧ n.depth governor ≤ levels

theorem indexed_load_eq_ok_iff {levels : Nat} {governor : Option BranchKind}
    (hload : Follows levels governor) (vs : List Json) :
    ∀ (start : Nat) (ns : List Node),
      Checked.indexed (load levels governor) start vs = .ok ns ↔
        AllReadFrom vs ns ∧ depthAll governor ns ≤ levels := by
  induction vs with
  | nil =>
      intro start ns
      cases ns <;> simp [Checked.indexed, AllReadFrom, depthAll]
  | cons v rest ih =>
      intro start ns
      rw [Checked.indexed_cons_eq_ok_iff]
      simp only [hload v, ih]
      cases ns with
      | nil => simp [AllReadFrom]
      | cons n more =>
          simp only [AllReadFrom, depthAll, List.cons.injEq, Nat.max_le]
          constructor
          · rintro ⟨_, _, ⟨hv, hn⟩, ⟨hrest, hmore⟩, rfl, rfl⟩
            exact ⟨⟨v, rest, ⟨rfl, rfl⟩, hv, hrest⟩, hn, hmore⟩
          · rintro ⟨⟨_, _, ⟨rfl, rfl⟩, hv, hrest⟩, hn, hmore⟩
            exact ⟨n, more, ⟨hv, hn⟩, ⟨hrest, hmore⟩, rfl, rfl⟩

/-- The children that an object holds. -/
def ChildrenFrom (ms : Json.Members) (children : List Node) : Prop :=
  (ms.get? "children" = none ∧ children = []) ∨
    ∃ items : List Json, ms.get? "children" = some (.array items) ∧ AllReadFrom items children

theorem allow_children_eq_ok_iff {levels : Nat} {governor : Option BranchKind}
    (hload : Follows levels governor) {ms : Json.Members} {children : List Node} :
    ms.allow "children" [] (loadList (load levels governor)) = .ok children ↔
      ChildrenFrom ms children ∧ depthAll governor children ≤ levels := by
  have hlist : ∀ v : Json, loadList (load levels governor) v = .ok children ↔
      ∃ items, v = .array items ∧ AllReadFrom items children ∧
        depthAll governor children ≤ levels := by
    intro v
    cases v <;> simp [loadList, indexed_load_eq_ok_iff hload]
  rw [Json.Members.allow_eq_ok_iff]
  simp only [hlist]
  unfold ChildrenFrom
  constructor
  · rintro (⟨hnone, rfl⟩ | ⟨v, hv, items, rfl, hitems, hdepth⟩)
    · exact ⟨Or.inl ⟨hnone, rfl⟩, Nat.zero_le _⟩
    · exact ⟨Or.inr ⟨items, hv, hitems⟩, hdepth⟩
  · rintro ⟨⟨hnone, rfl⟩ | ⟨items, hv, hitems⟩, hdepth⟩
    · exact Or.inl ⟨hnone, rfl⟩
    · exact Or.inr ⟨_, hv, items, rfl, hitems, hdepth⟩

theorem names_unique {ms : Json.Members} {kind kind' : Kind} (h : ms.Names kind)
    (h' : ms.Names kind') : kind = kind' := by
  rw [← kindOf_eq_ok_iff] at h h'
  exact Except.ok.inj (h.symm.trans h')

/-- An object that names a kind of leaf writes a leaf of that kind. -/
theorem readFrom_leaf_iff {ms : Json.Members} {kind : LeafKind} (hnames : ms.Names (.leaf kind))
    {n : Node} :
    ReadFrom (.object ms) n ↔ ∃ l, loadLeaf kind ms = .ok l ∧ .leaf l = n := by
  simp only [loadLeaf_eq_ok_iff]
  cases n with
  | leaf l =>
      simp only [ReadFrom, Json.object.injEq]
      constructor
      · rintro ⟨_, props, rfl, hkind, hprops, hl⟩
        obtain rfl := Kind.leaf.inj (names_unique hnames hkind)
        exact ⟨l, ⟨rfl, props, hprops, hl⟩, rfl⟩
      · rintro ⟨_, ⟨rfl, props, hprops, hl⟩, ⟨⟩⟩
        exact ⟨ms, props, rfl, hnames, hprops, hl⟩
  | branch b children =>
      simp only [ReadFrom, Json.object.injEq]
      constructor
      · rintro ⟨_, rfl, hkind, -⟩
        cases names_unique hnames hkind
      · rintro ⟨_, -, ⟨⟩⟩

/-- An object that names a kind of branch writes a branch of that kind. -/
theorem readFrom_branch_iff {ms : Json.Members} {kind : BranchKind}
    (hnames : ms.Names (.branch kind)) {n : Node} :
    ReadFrom (.object ms) n ↔
      ∃ children b, ChildrenFrom ms children ∧ loadBranch kind ms = .ok b ∧
        .branch b children = n := by
  simp only [loadBranch_eq_ok_iff]
  cases n with
  | leaf l =>
      simp only [ReadFrom, Json.object.injEq]
      constructor
      · rintro ⟨_, _, rfl, hkind, -⟩
        cases names_unique hnames hkind
      · rintro ⟨_, _, -, -, ⟨⟩⟩
  | branch b children =>
      simp only [ReadFrom, Json.object.injEq]
      constructor
      · rintro ⟨_, rfl, hkind, hb, hchildren⟩
        obtain rfl := Kind.branch.inj (names_unique hnames hkind)
        exact ⟨children, b, hchildren, ⟨rfl, hb⟩, rfl⟩
      · rintro ⟨_, _, hchildren, ⟨rfl, hb⟩, ⟨⟩⟩
        exact ⟨ms, rfl, hnames, hb, hchildren⟩

theorem readFrom_object {v : Json} {n : Node} (h : ReadFrom v n) :
    ∃ ms : Json.Members, v = .object ms ∧ ms.Names n.kind := by
  cases n with
  | leaf l =>
      obtain ⟨ms, _, rfl, hnames, -⟩ := h
      exact ⟨ms, rfl, hnames⟩
  | branch b children =>
      obtain ⟨ms, rfl, hnames, -⟩ := h
      exact ⟨ms, rfl, hnames⟩

theorem cost_of_governs {governor : Option BranchKind} {kind : BranchKind}
    (h : governs governor kind = true) : cost governor (.branch kind) = 2 :=
  if_pos h

theorem cost_of_not_governs {governor : Option BranchKind} {kind : BranchKind}
    (h : ¬ governs governor kind = true) : cost governor (.branch kind) = 1 :=
  if_neg h

theorem inner_of_governs {governor : Option BranchKind} {kind : BranchKind}
    (h : governs governor kind = true) : inner governor kind = some kind :=
  if_pos h

theorem inner_of_not_governs {governor : Option BranchKind} {kind : BranchKind}
    (h : ¬ governs governor kind = true) : inner governor kind = governor :=
  if_neg h

theorem cost_pos (governor : Option BranchKind) (kind : Kind) : 0 < cost governor kind := by
  cases kind with
  | leaf k => exact Nat.one_pos
  | branch k =>
      simp only [cost]
      split <;> omega

theorem cost_le_depth (governor : Option BranchKind) (n : Node) :
    cost governor n.kind ≤ n.depth governor := by
  cases n with
  | leaf l => exact Nat.le_refl _
  | branch b children => exact Nat.le_add_right ..

/-! ### What loading does with an object

The levels are counted down one by one as the code goes; here they are taken all at once.
-/

theorem load_notAnObject {levels : Nat} {governor : Option BranchKind} {v : Json}
    (h : ∀ ms, v ≠ .object ms) : load levels governor v = Checked.fault .notAnObject := by
  unfold load
  split
  · rename_i ms
    exact absurd rfl (h ms)
  · rfl

theorem load_kindOf_error {levels : Nat} {governor : Option BranchKind} {ms : Json.Members}
    {ps : List Problem} (h : kindOf ms = .error ps) :
    load levels governor (.object ms) = .error ps := by
  unfold load
  simp only [h]

theorem load_tooDeep {levels : Nat} {governor : Option BranchKind} {ms : Json.Members} {kind : Kind}
    (hnames : ms.Names kind) (h : levels < cost governor kind) :
    load levels governor (.object ms)
      = Checked.inside (.member kind.name) (Checked.fault .tooDeep) := by
  unfold load
  simp only [kindOf_eq_ok_iff.mpr hnames]
  cases levels with
  | zero => rfl
  | succ levels =>
      cases kind with
      | leaf k =>
          simp only [cost] at h
          omega
      | branch k =>
          by_cases hgoverns : governs governor k = true
          · rw [cost_of_governs hgoverns] at h
            obtain rfl : levels = 0 := by omega
            simp only [hgoverns, if_true]
          · rw [cost_of_not_governs hgoverns] at h
            omega

theorem load_leaf {levels : Nat} {governor : Option BranchKind} {ms : Json.Members}
    {kind : LeafKind} (hnames : ms.Names (.leaf kind)) (h : cost governor (.leaf kind) ≤ levels) :
    load levels governor (.object ms)
      = Checked.inside (.member kind.name) ((loadLeaf kind ms).map .leaf) := by
  unfold load
  simp only [kindOf_eq_ok_iff.mpr hnames]
  cases levels with
  | zero => cases h
  | succ levels => rfl

theorem load_branch {levels : Nat} {governor : Option BranchKind} {ms : Json.Members}
    {kind : BranchKind} (hnames : ms.Names (.branch kind))
    (h : cost governor (.branch kind) ≤ levels) :
    load levels governor (.object ms)
      = Checked.inside (.member kind.name)
          (loadAround (load (levels - cost governor (.branch kind)) (inner governor kind))
            kind ms) := by
  rw [load]
  simp only [kindOf_eq_ok_iff.mpr hnames]
  by_cases hgoverns : governs governor kind = true
  · rw [cost_of_governs hgoverns] at h ⊢
    obtain ⟨less, rfl⟩ : ∃ less, levels = less + 2 := ⟨levels - 2, by omega⟩
    simp only [inner_of_governs hgoverns, hgoverns, if_true, Nat.add_sub_cancel]
    rfl
  · rw [cost_of_not_governs hgoverns] at h ⊢
    obtain ⟨less, rfl⟩ : ∃ less, levels = less + 1 := ⟨levels - 1, by omega⟩
    simp only [inner_of_not_governs hgoverns, if_neg hgoverns, Nat.add_sub_cancel]
    rfl

/-! ### Loading one value -/

theorem load_leaf_eq_ok_iff {levels : Nat} {governor : Option BranchKind} {ms : Json.Members}
    {kind : LeafKind} (hnames : ms.Names (.leaf kind)) (h : cost governor (.leaf kind) ≤ levels)
    {n : Node} :
    load levels governor (.object ms) = .ok n ↔
      ReadFrom (.object ms) n ∧ n.depth governor ≤ levels := by
  rw [load_leaf hnames h, Checked.inside_eq_ok_iff, Checked.map_eq_ok_iff, readFrom_leaf_iff hnames]
  constructor
  · rintro ⟨l, hl, rfl⟩
    exact ⟨⟨l, hl, rfl⟩, h⟩
  · rintro ⟨hl, -⟩
    exact hl

/-- A branch is loaded when its children are, at the levels that it leaves to them. -/
theorem load_branch_eq_ok_iff {levels : Nat} {governor : Option BranchKind} {ms : Json.Members}
    {kind : BranchKind} (hnames : ms.Names (.branch kind))
    (h : cost governor (.branch kind) ≤ levels)
    (hload : Follows (levels - cost governor (.branch kind)) (inner governor kind)) {n : Node} :
    load levels governor (.object ms) = .ok n ↔
      ReadFrom (.object ms) n ∧ n.depth governor ≤ levels := by
  rw [load_branch hnames h, Checked.inside_eq_ok_iff, loadAround, Checked.map2_eq_ok_iff,
    readFrom_branch_iff hnames]
  simp only [allow_children_eq_ok_iff hload]
  have hkind : ∀ {b}, loadBranch kind ms = .ok b → b.kind = kind := by
    intro b hb
    exact (loadBranch_eq_ok_iff.mp hb).1
  constructor
  · rintro ⟨children, b, ⟨hchildren, hle⟩, hb, rfl⟩
    refine ⟨⟨children, b, hchildren, hb, rfl⟩, ?_⟩
    rw [depth, hkind hb]
    omega
  · rintro ⟨⟨children, b, hchildren, hb, rfl⟩, hle⟩
    rw [depth, hkind hb] at hle
    exact ⟨children, b, ⟨hchildren, by omega⟩, hb, rfl⟩

/-- **Loading one value follows the grammar.** -/
theorem follows (levels : Nat) : ∀ governor, Follows levels governor := by
  induction levels using Nat.strongRecOn with
  | ind levels ih =>
      intro governor v n
      by_cases hnamed : ∃ (ms : Json.Members) (kind : Kind), v = .object ms ∧ ms.Names kind
      · obtain ⟨ms, kind, rfl, hnames⟩ := hnamed
        by_cases hfits : cost governor kind ≤ levels
        · have hpos := cost_pos governor kind
          cases kind with
          | leaf k => exact load_leaf_eq_ok_iff hnames hfits
          | branch k => exact load_branch_eq_ok_iff hnames hfits (ih _ (by omega) _)
        · rw [load_tooDeep hnames (by omega), Checked.inside_eq_ok_iff]
          simp only [Checked.fault_ne_ok, false_iff]
          rintro ⟨hn, hle⟩
          obtain ⟨_, ⟨⟩, hkind⟩ := readFrom_object hn
          have hcost := cost_le_depth governor n
          rw [names_unique hkind hnames] at hcost
          omega
      · -- the value names no kind, so it is not loaded and writes no node
        constructor
        · intro h
          by_cases hobject : ∃ ms, v = .object ms
          · obtain ⟨ms, rfl⟩ := hobject
            cases hk : kindOf ms with
            | error ps =>
                rw [load_kindOf_error hk] at h
                cases h
            | ok kind => exact absurd ⟨ms, kind, rfl, kindOf_eq_ok_iff.mp hk⟩ hnamed
          · rw [load_notAnObject fun ms hv => hobject ⟨ms, hv⟩] at h
            cases h
        · rintro ⟨hn, -⟩
          obtain ⟨ms, rfl, hnames⟩ := readFrom_object hn
          exact absurd ⟨ms, _, rfl, hnames⟩ hnamed

/-! ### How deep a document is -/

/-- How many branches can still come to govern. -/
def governorsLeft : Option BranchKind → Nat
  | none => 12
  | some g => g.rank

theorem rank_lt (kind : BranchKind) : kind.rank < 12 := by
  cases kind with
  | styled style => cases style <;> decide
  | link => decide
  | fn => decide

theorem governorsLeft_of_governs {governor : Option BranchKind} {kind : BranchKind}
    (h : governs governor kind = true) : kind.rank < governorsLeft governor := by
  cases governor with
  | none => exact rank_lt kind
  | some g => simpa [governs, governorsLeft] using h

/-- A document takes a level for each branch around a node, one for the node, and one for each
branch that governs. -/
theorem depthAll_le_nesting (ns : List Node) :
    ∀ governor, depthAll governor ns ≤ nestingAll ns + governorsLeft governor + 1 := by
  induction ns using Node.forest_induction with
  | nil => intro governor; simp [depthAll]
  | leaf l rest ih =>
      intro governor
      have := ih governor
      simp only [depthAll, depth, cost, nestingAll, nesting, Nat.max_le]
      omega
  | branch b children rest ihc ihr =>
      intro governor
      have hrest := ihr governor
      have hchildren := ihc (inner governor b.kind)
      have hgovernors : cost governor (.branch b.kind) + governorsLeft (inner governor b.kind)
          ≤ governorsLeft governor + 1 := by
        by_cases hgoverns : governs governor b.kind = true
        · have hrank := governorsLeft_of_governs hgoverns
          have hleft : governorsLeft (some b.kind) = b.kind.rank := rfl
          rw [cost_of_governs hgoverns, inner_of_governs hgoverns, hleft]
          omega
        · rw [cost_of_not_governs hgoverns, inner_of_not_governs hgoverns]
          omega
      simp only [depthAll, depth, nestingAll, nesting, Nat.max_le]
      omega

end Node

theorem loadNodes_eq_ok_iff_readFrom {vs : List Json} {ns : List Node} :
    loadNodes vs = .ok ns ↔ Node.AllReadFrom vs ns ∧ Node.depthAll none ns ≤ 255 := by
  rw [loadNodes_eq_ok_iff]
  exact Node.indexed_load_eq_ok_iff (Node.follows Node.maxDepth none) vs 0 ns

/-- **Loading accepts exactly what the grammar writes, to a depth of 255 levels, and gives the nodes
that are written.**  A document of at most 242 branches inside each other is never too deep. -/
theorem loadNodes_grammar (vs : List Json) (ns : List Node) :
    (loadNodes vs = .ok ns ↔ Node.AllReadFrom vs ns ∧ Node.depthAll none ns ≤ 255) ∧
      Node.depthAll none ns ≤ Node.nestingAll ns + 13 :=
  ⟨loadNodes_eq_ok_iff_readFrom, Node.depthAll_le_nesting ns none⟩

/-! ### Nesting alone does not say what is too deep -/

namespace Node

/-- A node inside styled branches, the outermost first. -/
def wrapped (styles : List Style) (n : Node) : Node :=
  styles.foldr (fun style n => .branch (.styled style) [n]) n

/-- A value inside the values of styled branches. -/
def wrappedValue (styles : List Style) (v : Json) : Json :=
  styles.foldr (fun style v => .object [("type", .string style.name), ("children", .array [v])]) v

theorem readFrom_wrapped (styles : List Style) {v : Json} {n : Node} (h : ReadFrom v n) :
    ReadFrom (wrappedValue styles v) (wrapped styles n) := by
  induction styles with
  | nil => exact h
  | cons style styles ih =>
      exact ⟨_, rfl, rfl, trivial, Or.inr ⟨[wrappedValue styles v], rfl, _, [], rfl, ih, rfl⟩⟩

theorem nesting_wrapped (styles : List Style) (n : Node) :
    (wrapped styles n).nesting = styles.length + n.nesting := by
  induction styles with
  | nil => simp [wrapped]
  | cons style styles ih =>
      show 1 + max (wrapped styles n).nesting 0 = _
      rw [ih, List.length_cons]
      omega

/-- All that is wrong with a value is that it is too deep. -/
def OnlyTooDeep (levels : Nat) (governor : Option BranchKind) (v : Json) : Prop :=
  ∃ place, load levels governor v = .error [⟨place, .tooDeep⟩]

theorem onlyTooDeep_wrapped {levels : Nat} {governor : Option BranchKind} {style : Style}
    {styles : List Style} {v : Json}
    (h : OnlyTooDeep levels (inner governor (.styled style)) (wrappedValue styles v)) :
    OnlyTooDeep (levels + cost governor (.branch (.styled style))) governor
      (wrappedValue (style :: styles) v) := by
  obtain ⟨place, h⟩ := h
  have hnames : Json.Members.Names [("type", .string style.name),
      ("children", .array [wrappedValue styles v])] (.branch (.styled style)) := rfl
  have hget : Json.Members.get? [("type", .string style.name),
      ("children", .array [wrappedValue styles v])] "children"
      = some (.array [wrappedValue styles v]) := rfl
  show ∃ place', load _ governor (.object [("type", .string style.name),
    ("children", .array [wrappedValue styles v])]) = .error [⟨place', .tooDeep⟩]
  rw [load_branch hnames (Nat.le_add_left ..), Nat.add_sub_cancel]
  simp only [loadAround, Json.Members.allow, hget, loadList, Checked.indexed, h, loadBranch,
    Checked.inside, Checked.map2, List.map_cons, List.map_nil]
  exact ⟨_, rfl⟩

/-- A branch that governs takes two levels. -/
theorem onlyTooDeep_of_governs {levels : Nat} {governor : Option BranchKind} {style : Style}
    {styles : List Style} {v : Json} (hgoverns : governs governor (.styled style) = true)
    (h : OnlyTooDeep levels (some (.styled style)) (wrappedValue styles v)) :
    OnlyTooDeep (levels + 2) governor (wrappedValue (style :: styles) v) := by
  rw [← inner_of_governs hgoverns] at h
  rw [← cost_of_governs hgoverns]
  exact onlyTooDeep_wrapped h

/-- A chain of one kind takes a level for each of its branches. -/
theorem onlyTooDeep_replicate (style : Style) (v : Json) (k : Nat) :
    OnlyTooDeep k (some (.styled style)) (wrappedValue (List.replicate (k + 1) style) v) := by
  have hgoverns : ¬ governs (some (.styled style)) (.styled style) = true := by simp [governs]
  have hcost := cost_of_not_governs hgoverns
  induction k with
  | zero =>
      have hnames : Json.Members.Names
          [("type", .string style.name), ("children", .array [v])] (.branch (.styled style)) := rfl
      refine ⟨[.member style.name], ?_⟩
      show load 0 _ (.object [("type", .string style.name), ("children", .array [v])]) = _
      rw [load_tooDeep hnames (by omega)]
      rfl
  | succ k ih =>
      rw [← inner_of_not_governs hgoverns] at ih
      have hwrapped := onlyTooDeep_wrapped ih
      rw [hcost] at hwrapped
      exact hwrapped

/-- The styles in the opposite of their order, the last of them over and over: 253 in all, of which
the first ten govern. -/
def descending : List Style :=
  .plain :: .title :: .center :: .quote :: .motion :: .big :: .small :: .strike :: .italic ::
    List.replicate 244 .bold

theorem length_descending : descending.length = 253 := by
  simp only [descending, List.length_cons, List.length_replicate]

theorem onlyTooDeep_descending (v : Json) :
    OnlyTooDeep maxDepth none (wrappedValue descending v) := by
  have hbold : List.replicate 244 Style.bold
      = .bold :: (List.replicate 236 .bold ++ List.replicate 7 .bold) := by
    rw [List.replicate_append_replicate, ← List.replicate_succ]
  have hinside : wrappedValue (List.replicate 236 .bold ++ List.replicate 7 .bold) v
      = wrappedValue (List.replicate 236 .bold) (wrappedValue (List.replicate 7 .bold) v) :=
    List.foldr_append
  have hchain := onlyTooDeep_replicate .bold (wrappedValue (List.replicate 7 .bold) v) 235
  rw [← hinside] at hchain
  unfold descending
  rw [hbold]
  refine onlyTooDeep_of_governs rfl (onlyTooDeep_of_governs ?_ (onlyTooDeep_of_governs ?_
    (onlyTooDeep_of_governs ?_ (onlyTooDeep_of_governs ?_ (onlyTooDeep_of_governs ?_
      (onlyTooDeep_of_governs ?_ (onlyTooDeep_of_governs ?_ (onlyTooDeep_of_governs ?_
        (onlyTooDeep_of_governs ?_ hchain))))))))) <;> decide

theorem loadNodes_descending (v : Json) :
    ∃ place, loadNodes [wrappedValue descending v]
      = .error (.malformedProps ⟨place, .tooDeep⟩) := by
  obtain ⟨place, h⟩ := onlyTooDeep_descending v
  refine ⟨.index 0 :: place, ?_⟩
  rw [loadNodes_eq, Checked.indexed, h]
  rfl

/-- A text inside 253 branches, which the grammar writes and loading refuses as too deep. -/
theorem text_in_descending_tooDeep :
    AllReadFrom
        [wrappedValue descending
          (.object [("type", .string "text"), ("props", .object [("text", .string "a")])])]
        [wrapped descending (.leaf (.text "a"))] ∧
      nestingAll [wrapped descending (.leaf (.text "a"))] = 253 ∧
      ∀ ns, loadNodes
        [wrappedValue descending
          (.object [("type", .string "text"), ("props", .object [("text", .string "a")])])]
        ≠ .ok ns := by
  have hleaf : ReadFrom
      (.object [("type", .string "text"), ("props", .object [("text", .string "a")])])
      (.leaf (.text "a")) := ⟨_, _, rfl, rfl, rfl, rfl⟩
  refine ⟨⟨_, [], rfl, readFrom_wrapped descending hleaf, rfl⟩, ?_, ?_⟩
  · simp only [nestingAll, nesting_wrapped, length_descending, nesting]
    omega
  · intro ns h
    obtain ⟨place, herror⟩ := loadNodes_descending
      (.object [("type", .string "text"), ("props", .object [("text", .string "a")])])
    rw [herror] at h
    cases h

end Node

end MfmRender
