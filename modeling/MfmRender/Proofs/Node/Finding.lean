/-
Loading finds the flaws of a document, in order.

A flaw of a value is one of the value itself or one of a child that is reached
from it.  A value that is not entered, because it is no object, names no kind that
there is, or is too deep, has one flaw, and loading says which.  A value that is
entered is checked part by part, and the parts are put together in the order of
their positions; the induction is on the levels that are left.
-/
import MfmRender.Proofs.Node.Flaw
import MfmRender.Proofs.Node.Loading

namespace MfmRender

/-! ### The flaws of a value and of its children -/

namespace Spot

/-- A flaw is one of the value itself or one of a child. -/
theorem flaw_iff {s : Spot} {pos : Position} {p : Problem} :
    s.Flaw pos p ↔ s.OwnProblem pos p ∨
      ∃ (ms : Json.Members) (kind : BranchKind) (items : List Json) (v : Json) (i : Nat)
        (rest : Position) (q : Problem), s.Enters ms (.branch kind) ∧
          ms.get? "children" = some (.array items) ∧ items[i]? = some v ∧
          (s.child kind v).Flaw rest q ∧ pos = 0 :: i :: rest ∧
          p = ((q.inside (.index i)).inside (.member "children")).inside (.member kind.name) := by
  constructor
  · rintro ⟨pos₁, place, t, pos₂, q, hreaches, hown, rfl, rfl⟩
    cases hreaches with
    | here => exact Or.inl hown
    | inside henters hchildren hv h =>
        exact Or.inr ⟨_, _, _, _, _, _, _, henters, hchildren, hv,
          ⟨_, _, _, _, _, h, hown, rfl, rfl⟩, rfl, rfl⟩
  · rintro (hown | ⟨ms, kind, items, v, i, rest, q, henters, hchildren, hv, hq, rfl, rfl⟩)
    · exact ⟨[], [], s, pos, p, .here s, hown, rfl, rfl⟩
    · obtain ⟨pos₁, place, t, pos₂, r, hreaches, hown, rfl, rfl⟩ := hq
      exact ⟨_, _, t, pos₂, r, .inside henters hchildren hv hreaches, hown, rfl, rfl⟩

theorem Enters.unique {s : Spot} {ms ms' : Json.Members} {kind kind' : Kind}
    (h : s.Enters ms kind) (hv : s.value = .object ms') (hnames : ms'.Names kind') :
    ms = ms' ∧ kind = kind' := by
  obtain rfl := Json.object.inj (h.value.symm.trans hv)
  exact ⟨rfl, Node.names_unique h.names hnames⟩

theorem not_namesUnknown {ms : Json.Members} {kind : Kind} (h : ms.Names kind) (shown : Json) :
    ¬ ms.NamesUnknown shown := by
  rintro (⟨name, hname, hno, -⟩ | ⟨v, hv, hno, -⟩)
  · rw [h] at hname
    exact hno kind (Json.string.inj (Option.some.inj hname)).symm
  · rw [h] at hv
    exact hno kind.name (Option.some.inj hv).symm

theorem kindOf_noKind {ms : Json.Members} (h : ms.get? "type" = none) :
    Node.kindOf ms = Checked.fault .noKind := by
  unfold Node.kindOf
  rw [h]

theorem kindOf_unknownKind {ms : Json.Members} {shown : Json} (h : ms.NamesUnknown shown) :
    Node.kindOf ms = Checked.fault (.unknownKind shown) := by
  unfold Node.kindOf
  rcases h with ⟨name, hname, hno, rfl⟩ | ⟨v, hv, hno, rfl⟩
  · have hnone : Kind.ofName? name = none := by
      cases hkind : Kind.ofName? name with
      | none => rfl
      | some kind => exact absurd (Kind.ofName?_eq_some_iff.mp hkind) (hno kind)
    simp only [hname, hnone]
  · rw [hv]
    cases v with
    | string name => exact absurd rfl (hno name)
    | _ => rfl

/-- An object names a kind, or none, or one that there is not. -/
theorem names_cases (ms : Json.Members) :
    (∃ kind, ms.Names kind) ∨ ms.get? "type" = none ∨ ∃ shown, ms.NamesUnknown shown := by
  cases ht : ms.get? "type" with
  | none => exact Or.inr (Or.inl rfl)
  | some t =>
      cases t with
      | string name =>
          by_cases hkind : ∃ kind : Kind, name = kind.name
          · obtain ⟨kind, rfl⟩ := hkind
            exact Or.inl ⟨kind, ht⟩
          · have hno : ∀ kind : Kind, name ≠ kind.name := fun kind h => hkind ⟨kind, h⟩
            exact Or.inr (Or.inr ⟨_, Or.inl ⟨name, ht, hno, rfl⟩⟩)
      | _ => exact Or.inr (Or.inr ⟨_, Or.inr ⟨_, ht, by simp, rfl⟩⟩)

/-- The flaws of a list of children. -/
def listProblems (P : Json → Problems) : Json → Problems
  | .array items => .InTurn (items.mapIdx fun i v => (P v).inside (.index (0 + i)))
  | _ => .only .notAList

/-- The children of a branch are to be a list, and then each of them has its own flaws. -/
theorem member_children_iff {ms : Json.Members} {P : Json → Problems} {pos : Position}
    {p : Problem} :
    Problems.Member ms "children" false (listProblems P) pos p ↔
      (∃ v, ms.get? "children" = some v ∧ (∀ items, v ≠ .array items) ∧ pos = [] ∧
        p = ⟨[.member "children"], .notAList⟩) ∨
      ∃ (items : List Json) (v : Json) (i : Nat) (rest : Position) (q : Problem),
        ms.get? "children" = some (.array items) ∧ items[i]? = some v ∧ P v rest q ∧
          pos = i :: rest ∧ p = (q.inside (.index i)).inside (.member "children") := by
  constructor
  · intro h
    cases h with
    | missing h hrequired => cases hrequired
    | @wrong v _ r hv hr =>
        cases v with
        | array items =>
            obtain ⟨i, v, rest, q, hi, hq, rfl, rfl⟩ := Problems.inTurn_mapIdx_iff.mp hr
            exact Or.inr ⟨items, v, i, rest, q, hv, hi, hq, rfl, by rw [Nat.zero_add]⟩
        | _ =>
            obtain ⟨rfl, rfl⟩ := hr
            exact Or.inl ⟨_, hv, by simp, rfl, rfl⟩
  · rintro (⟨v, hv, h, rfl, rfl⟩ | ⟨items, v, i, rest, q, hv, hi, hq, rfl, rfl⟩)
    · have honly : listProblems P v [] ⟨[], .notAList⟩ := by
        cases v with
        | array items => exact absurd rfl (h items)
        | _ => exact ⟨rfl, rfl⟩
      exact .wrong hv honly
    · refine .wrong hv (Problems.inTurn_mapIdx_iff.mpr ⟨i, v, rest, q, hi, hq, rfl, ?_⟩)
      rw [Nat.zero_add]

theorem own_of_enters {s : Spot} {ms : Json.Members} {kind : Kind} (henters : s.Enters ms kind)
    {pos : Position} {p : Problem} :
    s.OwnProblem pos p ↔
      (∃ k v, kind = .branch k ∧ ms.get? "children" = some v ∧ (∀ items, v ≠ .array items) ∧
        pos = [0] ∧ p = ⟨[.member k.name, .member "children"], .notAList⟩) ∨
      ∃ rest q, kind.propsProblems ms rest q ∧ pos = 1 :: rest ∧
        p = q.inside (.member kind.name) := by
  constructor
  · intro h
    cases h with
    | notAnObject h => exact absurd henters.value (h ms)
    | noKind hv h =>
        obtain rfl := Json.object.inj (henters.value.symm.trans hv)
        have hnames := henters.names
        rw [Json.Members.Names, h] at hnames
        cases hnames
    | unknownKind hv h =>
        obtain rfl := Json.object.inj (henters.value.symm.trans hv)
        exact absurd h (not_namesUnknown henters.names _)
    | tooDeep hv hnames h =>
        obtain ⟨rfl, rfl⟩ := henters.unique hv hnames
        have := henters.fits
        omega
    | children henters' hchildren h =>
        obtain ⟨rfl, rfl⟩ := henters.unique henters'.value henters'.names
        exact Or.inl ⟨_, _, rfl, hchildren, h, rfl, rfl⟩
    | props henters' h =>
        obtain ⟨rfl, rfl⟩ := henters.unique henters'.value henters'.names
        exact Or.inr ⟨_, _, h, rfl, rfl⟩
  · rintro (⟨k, v, rfl, hchildren, h, rfl, rfl⟩ | ⟨rest, q, h, rfl, rfl⟩)
    · exact .children henters hchildren h
    · exact .props henters h

theorem flaw_of_enters_leaf {s : Spot} {ms : Json.Members} {kind : LeafKind}
    (henters : s.Enters ms (.leaf kind)) (pos : Position) (p : Problem) :
    s.Flaw pos p ↔ ∃ rest q, (Kind.leaf kind).propsProblems ms rest q ∧ pos = 1 :: rest ∧
      p = q.inside (.member kind.name) := by
  rw [flaw_iff, own_of_enters henters]
  constructor
  · rintro ((⟨k, -, ⟨⟩, -⟩ | h) | ⟨_, k, -, -, -, -, -, henters', -⟩)
    · exact h
    · cases (henters.unique henters'.value henters'.names).2
  · intro h
    exact Or.inl (Or.inr h)

/-- The flaws of a branch: those of its children, then those of its properties. -/
theorem flaw_of_enters_branch {s : Spot} {ms : Json.Members} {kind : BranchKind}
    (henters : s.Enters ms (.branch kind)) (pos : Position) (p : Problem) :
    s.Flaw pos p ↔ Problems.inside (.member kind.name) (.InTurn
      [.Member ms "children" false (listProblems fun v => (s.child kind v).Flaw),
        (Kind.branch kind).propsProblems ms]) pos p := by
  rw [flaw_iff, own_of_enters henters]
  constructor
  · rintro ((⟨_, v, ⟨⟩, hchildren, h, rfl, rfl⟩ | ⟨rest, q, h, rfl, rfl⟩) |
      ⟨ms', k, items, v, i, rest, q, henters', hchildren, hv, hq, rfl, rfl⟩)
    · have hlist := (member_children_iff (P := fun v => (s.child kind v).Flaw)).mpr
        (Or.inl ⟨v, hchildren, h, rfl, rfl⟩)
      exact ⟨_, Problems.inTurn_pair_iff.mpr (Or.inl ⟨[], hlist, rfl⟩), rfl⟩
    · exact ⟨q, Problems.inTurn_pair_iff.mpr (Or.inr ⟨rest, h, rfl⟩), rfl⟩
    · obtain ⟨rfl, hkind⟩ := henters.unique henters'.value henters'.names
      obtain rfl := Kind.branch.inj hkind
      have hlist := (member_children_iff (P := fun v => (s.child kind v).Flaw)).mpr
        (Or.inr ⟨items, v, i, rest, q, hchildren, hv, hq, rfl, rfl⟩)
      exact ⟨_, Problems.inTurn_pair_iff.mpr (Or.inl ⟨i :: rest, hlist, rfl⟩), rfl⟩
  · rintro ⟨r, hr, rfl⟩
    rcases Problems.inTurn_pair_iff.mp hr with ⟨rest, hlist, rfl⟩ | ⟨rest, h, rfl⟩
    · rcases member_children_iff.mp hlist with
        ⟨v, hchildren, h, rfl, rfl⟩ | ⟨items, v, i, rest, q, hchildren, hv, hq, rfl, rfl⟩
      · exact Or.inl (Or.inl ⟨kind, v, rfl, hchildren, h, rfl, rfl⟩)
      · exact Or.inr ⟨ms, kind, items, v, i, rest, q, henters, hchildren, hv, hq, rfl, rfl⟩
    · exact Or.inl (Or.inr ⟨rest, r, h, rfl, rfl⟩)

/-! ### A value that is not entered has one flaw -/

/-- A value that is not entered has no flaws but its own. -/
theorem flaw_of_not_enters {s : Spot} (hno : ∀ ms kind, ¬ s.Enters ms kind) {pos : Position}
    {p : Problem} : s.Flaw pos p ↔ s.OwnProblem pos p := by
  rw [flaw_iff]
  constructor
  · rintro (h | ⟨ms, kind, -, -, -, -, -, henters, -⟩)
    · exact h
    · exact absurd henters (hno ms _)
  · exact Or.inl

/-- What loading says of a value that is not entered is its flaw, and so there is but one. -/
theorem load_of_ownProblem {s : Spot} (hno : ∀ ms kind, ¬ s.Enters ms kind) {pos : Position}
    {p : Problem} (h : s.OwnProblem pos p) :
    pos = [] ∧ Node.load s.levels s.governor s.value = .error [p] := by
  cases h with
  | notAnObject h => exact ⟨rfl, Node.load_notAnObject h⟩
  | noKind hv h =>
      rw [hv]
      exact ⟨rfl, Node.load_kindOf_error (kindOf_noKind h)⟩
  | unknownKind hv h =>
      rw [hv]
      exact ⟨rfl, Node.load_kindOf_error (kindOf_unknownKind h)⟩
  | tooDeep hv hnames h =>
      rw [hv]
      exact ⟨rfl, Node.load_tooDeep hnames h⟩
  | children henters => exact absurd henters (hno _ _)
  | props henters => exact absurd henters (hno _ _)

theorem exists_ownProblem {s : Spot} (hno : ∀ ms kind, ¬ s.Enters ms kind) :
    ∃ p, s.OwnProblem [] p := by
  by_cases hobject : ∃ ms, s.value = .object ms
  · obtain ⟨ms, hv⟩ := hobject
    rcases names_cases ms with ⟨kind, hnames⟩ | hnone | ⟨shown, hunknown⟩
    · have hlevels : s.levels < Node.cost s.governor kind :=
        Nat.lt_of_not_le fun hfits => hno ms kind ⟨hv, hnames, hfits⟩
      exact ⟨_, .tooDeep hv hnames hlevels⟩
    · exact ⟨_, .noKind hv hnone⟩
    · exact ⟨_, .unknownKind hv hunknown⟩
  · exact ⟨_, .notAnObject fun ms hv => hobject ⟨ms, hv⟩⟩

/-- Loading a value that is not entered finds its flaw. -/
theorem enumerates_load_of_not_enters {s : Spot} (hno : ∀ ms kind, ¬ s.Enters ms kind) :
    (Node.load s.levels s.governor s.value).Enumerates s.Flaw := by
  obtain ⟨p, hp⟩ := exists_ownProblem hno
  have hload := (load_of_ownProblem hno hp).2
  rw [hload]
  refine (Checked.enumerates_problem p).congr fun pos q => ?_
  rw [flaw_of_not_enters hno]
  constructor
  · rintro ⟨rfl, rfl⟩
    exact hp
  · intro hq
    obtain ⟨rfl, hload'⟩ := load_of_ownProblem hno hq
    obtain rfl : p = q := by simpa using hload.symm.trans hload'
    exact ⟨rfl, rfl⟩

end Spot

/-! ### Loading finds the flaws -/

namespace Node

open Checked

theorem enumerates_loadList {load : Json → Checked Node} {P : Json → Problems}
    (hload : ∀ v, (load v).Enumerates (P v)) (v : Json) :
    (loadList load v).Enumerates (Spot.listProblems P v) := by
  cases v with
  | array items => exact enumerates_indexed hload items 0
  | _ => exact enumerates_fault .notAList

/-- Loading a leaf finds the flaws of its properties. -/
theorem enumerates_load_leaf {s : Spot} {ms : Json.Members} {kind : LeafKind}
    (henters : s.Enters ms (.leaf kind)) :
    (load s.levels s.governor s.value).Enumerates s.Flaw := by
  have hleaf := (((enumerates_loadLeaf kind ms).map Node.leaf).relabel
    (Position.before_cons 1)).inside (.member (Kind.leaf kind).name)
  rw [henters.value, load_leaf henters.names henters.fits]
  refine hleaf.congr fun pos p => ?_
  rw [Spot.flaw_of_enters_leaf henters]
  constructor
  · rintro ⟨q, ⟨rest, hq, rfl⟩, rfl⟩
    exact ⟨rest, q, hq, rfl, rfl⟩
  · rintro ⟨rest, q, hq, rfl, rfl⟩
    exact ⟨q, ⟨rest, hq, rfl⟩, rfl⟩

/-- Loading a branch finds its flaws if loading its children finds theirs. -/
theorem enumerates_load_branch {s : Spot} {ms : Json.Members} {kind : BranchKind}
    (henters : s.Enters ms (.branch kind))
    (hchildren : ∀ v, (load (s.child kind v).levels (s.child kind v).governor v).Enumerates
      (s.child kind v).Flaw) :
    (load s.levels s.governor s.value).Enumerates s.Flaw := by
  have hlist := Json.Members.enumerates_allow (enumerates_loadList hchildren) ms "children" []
  rw [henters.value, load_branch henters.names henters.fits, loadAround]
  refine ((hlist.one.append (enumerates_loadBranch kind ms).one _).inside _).congr fun pos p => ?_
  exact (Spot.flaw_of_enters_branch henters pos p).symm

/-- **Loading one value finds its flaws, in order.** -/
theorem enumerates_load (levels : Nat) :
    ∀ governor v, (load levels governor v).Enumerates (Spot.mk levels governor v).Flaw := by
  induction levels using Nat.strongRecOn with
  | ind levels ih =>
      intro governor v
      by_cases hentered : ∃ ms kind, (Spot.mk levels governor v).Enters ms kind
      · obtain ⟨ms, kind, henters⟩ := hentered
        cases kind with
        | leaf k => exact enumerates_load_leaf henters
        | branch k =>
            have hpos := cost_pos governor (.branch k)
            have hfits := henters.fits
            refine enumerates_load_branch henters fun v => ?_
            exact ih (levels - cost governor (.branch k)) (by simp only at hfits; omega) _ v
      · exact Spot.enumerates_load_of_not_enters fun ms kind h => hentered ⟨ms, kind, h⟩

end Node

/-- Loading a document finds the flaws of the document, in order. -/
theorem enumerates_document (vs : List Json) :
    (Checked.indexed (Node.load Node.maxDepth none) 0 vs).Enumerates (FlawAt vs) := by
  refine (Checked.enumerates_indexed (Node.enumerates_load Node.maxDepth none) vs 0).congr ?_
  intro pos p
  rw [Problems.inTurn_mapIdx_iff]
  simp only [Nat.zero_add]
  exact Iff.rfl

end MfmRender
