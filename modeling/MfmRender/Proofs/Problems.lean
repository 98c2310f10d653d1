/-
Which problems a check finds, and in which order.

A check answers with a list of problems.  What there is to find is said apart
from it, by a relation: at this position there is this problem.  A position is a
row of numbers, from the outside inwards, and positions are in the order of their
numbers, what stands outside coming first.  `Enumerates` says that a check finds
exactly the problems of such a relation, each once and in the order of their
positions, and that it finds none only if it succeeds.

Every way of putting checks together puts the relations together: parts that are
checked one after another have their problems at positions that begin with their
number (`InTurn`), and a check of a part inside a whole has its problems placed
there.  The first problem of a check is then the one with the least position,
whatever the check did on the way.
-/
import MfmRender.Problem

namespace MfmRender

/-- Where in a value something is checked. -/
abbrev Position := List Nat

namespace Position

/-- Positions are in the order of their first different numbers, and what stands outside comes
before what is inside it. -/
def Before (pos pos' : Position) : Prop :=
  List.Lex (· < ·) pos pos'

theorem not_before_self (pos : Position) : ¬ pos.Before pos :=
  List.lex_irrefl Nat.lt_irrefl pos

theorem Before.asymm {pos pos' : Position} (h : pos.Before pos') : ¬ pos'.Before pos :=
  List.lex_asymm Nat.lt_asymm h

theorem not_before_nil (pos : Position) : ¬ pos.Before [] :=
  List.not_lex_nil

theorem nil_before_cons (i : Nat) (pos : Position) : Before [] (i :: pos) :=
  List.Lex.nil

theorem cons_before_cons_iff {i j : Nat} {pos pos' : Position} :
    Before (i :: pos) (j :: pos') ↔ i < j ∨ i = j ∧ pos.Before pos' :=
  List.cons_lex_cons_iff

/-- The same number in front leaves the order as it is. -/
theorem before_cons (i : Nat) {pos pos' : Position} (h : pos.Before pos') :
    Before (i :: pos) (i :: pos') :=
  cons_before_cons_iff.mpr (Or.inr ⟨rfl, h⟩)

end Position

/-- Which problems there are, and at which positions. -/
abbrev Problems := Position → Problem → Prop

namespace Problem

/-- The problem of a part, placed inside the whole. -/
def inside (step : Step) (p : Problem) : Problem :=
  ⟨step :: p.place, p.fault⟩

end Problem

namespace Problems

/-- No problem at all. -/
def none : Problems := fun _ _ => False

/-- One problem, right here. -/
def only (fault : Fault) : Problems := fun pos p => pos = [] ∧ p = ⟨[], fault⟩

/-- The problems of a part, placed inside the whole. -/
def inside (step : Step) (P : Problems) : Problems :=
  fun pos p => ∃ q, P pos q ∧ p = q.inside step

/-- The problems of parts that are checked one after another. -/
def InTurn (Ps : List Problems) : Problems :=
  fun pos p => ∃ (i : Nat) (P : Problems) (rest : Position),
    Ps[i]? = some P ∧ P rest p ∧ pos = i :: rest

theorem inTurn_pair_iff {P Q : Problems} {pos : Position} {p : Problem} :
    InTurn [P, Q] pos p ↔
      (∃ rest, P rest p ∧ pos = 0 :: rest) ∨ ∃ rest, Q rest p ∧ pos = 1 :: rest := by
  constructor
  · rintro ⟨i, R, rest, hR, hp, rfl⟩
    cases i with
    | zero =>
        obtain rfl := Option.some.inj hR
        exact Or.inl ⟨rest, hp, rfl⟩
    | succ i =>
        cases i with
        | zero =>
            obtain rfl := Option.some.inj hR
            exact Or.inr ⟨rest, hp, rfl⟩
        | succ i => cases hR
  · rintro (⟨rest, hp, rfl⟩ | ⟨rest, hp, rfl⟩)
    · exact ⟨0, P, rest, rfl, hp, rfl⟩
    · exact ⟨1, Q, rest, rfl, hp, rfl⟩

/-- The problems of the items of a list are placed at their numbers. -/
theorem inTurn_mapIdx_iff {α : Type} {P : α → Problems} {xs : List α} {start : Nat}
    {pos : Position} {p : Problem} :
    InTurn (xs.mapIdx fun i x => (P x).inside (.index (start + i))) pos p ↔
      ∃ (i : Nat) (x : α) (rest : Position) (q : Problem), xs[i]? = some x ∧ P x rest q ∧
        pos = i :: rest ∧ p = q.inside (.index (start + i)) := by
  constructor
  · rintro ⟨i, R, rest, hR, hp, rfl⟩
    rw [List.getElem?_mapIdx] at hR
    obtain ⟨x, hx, rfl⟩ := Option.map_eq_some_iff.mp hR
    obtain ⟨q, hq, rfl⟩ := hp
    exact ⟨i, x, rest, q, hx, hq, rfl, rfl⟩
  · rintro ⟨i, x, rest, q, hx, hq, rfl, rfl⟩
    refine ⟨i, (P x).inside (.index (start + i)), rest, ?_, ⟨q, hq, rfl⟩, rfl⟩
    rw [List.getElem?_mapIdx, hx]
    rfl

/-- Nothing that some relation has is before this. -/
def First {α : Type} (P : Position → α → Prop) (pos : Position) (a : α) : Prop :=
  P pos a ∧ ∀ pos' a', P pos' a' → ¬ pos'.Before pos

end Problems

namespace Checked

variable {α β γ : Type}

/-- The problems that a check found. -/
def problems : Checked α → List Problem
  | .ok _ => []
  | .error ps => ps

/-- A check that finds the problems there are, in order. -/
structure Enumerates (c : Checked α) (P : Problems) : Prop where
  /-- The problems found are those there are, each with its position, and the positions rise. -/
  listed : ∃ marked : List (Position × Problem), marked.map Prod.snd = c.problems ∧
    marked.Pairwise (fun a b => a.1.Before b.1) ∧ ∀ pos p, (pos, p) ∈ marked ↔ P pos p
  /-- A check that fails has found something. -/
  found : c ≠ .error []

/-! ### The first problem -/

theorem Enumerates.mem_problems_iff {c : Checked α} {P : Problems} (h : c.Enumerates P)
    {p : Problem} : p ∈ c.problems ↔ ∃ pos, P pos p := by
  obtain ⟨marked, hmap, -, hmem⟩ := h.listed
  rw [← hmap, List.mem_map]
  constructor
  · rintro ⟨⟨pos, q⟩, hq, rfl⟩
    exact ⟨pos, (hmem pos q).mp hq⟩
  · rintro ⟨pos, hp⟩
    exact ⟨(pos, p), (hmem pos p).mpr hp, rfl⟩

/-- What some function sees first in a list with rising marks has the least mark of all that it
sees. -/
theorem findSome?_marked {f : Problem → Option β} {b : β} {marked : List (Position × Problem)}
    (hrising : marked.Pairwise (fun a b => a.1.Before b.1)) :
    (marked.map Prod.snd).findSome? f = some b ↔
      ∃ pos, Problems.First (fun pos b => ∃ p, (pos, p) ∈ marked ∧ f p = some b) pos b := by
  induction marked with
  | nil => simp [Problems.First]
  | cons m rest ih =>
      obtain ⟨pos, p⟩ := m
      obtain ⟨hleast, hrest⟩ := List.pairwise_cons.mp hrising
      rw [List.map_cons, List.findSome?_cons]
      cases hp : f p with
      | some a =>
          simp only [Option.some.injEq]
          constructor
          · rintro rfl
            refine ⟨pos, ⟨p, by simp, hp⟩, ?_⟩
            rintro pos' a' ⟨p', hp', -⟩
            rcases List.mem_cons.mp hp' with heq | hmem
            · cases heq
              exact pos.not_before_self
            · exact (hleast _ hmem).asymm
          · rintro ⟨pos', ⟨p', hp', hb⟩, hfirst⟩
            rcases List.mem_cons.mp hp' with heq | hmem
            · cases heq
              exact Option.some.inj (hp.symm.trans hb)
            · exact absurd (hleast _ hmem) (hfirst pos a ⟨p, by simp, hp⟩)
      | none =>
          rw [ih hrest]
          have hsame : ∀ pos' b', (∃ p', (pos', p') ∈ (pos, p) :: rest ∧ f p' = some b') ↔
              ∃ p', (pos', p') ∈ rest ∧ f p' = some b' := by
            intro pos' b'
            constructor
            · rintro ⟨p', hp', hb⟩
              rcases List.mem_cons.mp hp' with heq | hmem
              · cases heq
                rw [hp] at hb
                cases hb
              · exact ⟨p', hmem, hb⟩
            · rintro ⟨p', hp', hb⟩
              exact ⟨p', List.mem_cons_of_mem _ hp', hb⟩
          simp only [Problems.First, hsame]

/-- What some function sees first among the problems found is what it sees at the first position. -/
theorem Enumerates.findSome?_eq_some_iff {c : Checked α} {P : Problems} (h : c.Enumerates P)
    {f : Problem → Option β} {b : β} :
    c.problems.findSome? f = some b ↔
      ∃ pos, Problems.First (fun pos b => ∃ p, P pos p ∧ f p = some b) pos b := by
  obtain ⟨marked, hmap, hrising, hmem⟩ := h.listed
  rw [← hmap, findSome?_marked hrising]
  simp only [hmem]

/-- A function that sees nothing in what was found sees none of the problems that there are. -/
theorem Enumerates.findSome?_eq_none_iff {c : Checked α} {P : Problems} (h : c.Enumerates P)
    {f : Problem → Option β} :
    c.problems.findSome? f = none ↔ ∀ pos p, P pos p → f p = none := by
  rw [List.findSome?_eq_none_iff]
  constructor
  · intro hnone pos p hp
    exact hnone p (h.mem_problems_iff.mpr ⟨pos, hp⟩)
  · intro hnone p hp
    obtain ⟨pos, hP⟩ := h.mem_problems_iff.mp hp
    exact hnone pos p hP

/-- The first problem found is the one at the first position. -/
theorem Enumerates.head?_eq_some_iff {c : Checked α} {P : Problems} (h : c.Enumerates P)
    {p : Problem} : c.problems.head? = some p ↔ ∃ pos, Problems.First P pos p := by
  have hhead : ∀ ps : List Problem, ps.head? = ps.findSome? some := by
    intro ps
    cases ps <;> rfl
  rw [hhead, h.findSome?_eq_some_iff]
  simp

/-! ### Putting checks together -/

theorem Enumerates.congr {c : Checked α} {P Q : Problems} (h : c.Enumerates P)
    (hPQ : ∀ pos p, P pos p ↔ Q pos p) : c.Enumerates Q := by
  obtain ⟨marked, hmap, hrising, hmem⟩ := h.listed
  exact ⟨⟨marked, hmap, hrising, fun pos p => (hmem pos p).trans (hPQ pos p)⟩, h.found⟩

theorem enumerates_ok (a : α) : Enumerates (.ok a : Checked α) Problems.none :=
  ⟨⟨[], rfl, List.Pairwise.nil, fun _ _ => by simp [Problems.none]⟩, by simp⟩

/-- One problem is found, right here. -/
theorem enumerates_problem (p : Problem) :
    Enumerates (.error [p] : Checked α) fun pos q => pos = [] ∧ q = p := by
  refine ⟨⟨[([], p)], rfl, List.pairwise_singleton .., ?_⟩, by simp⟩
  intro pos q
  simp

theorem enumerates_fault (fault : Fault) :
    Enumerates (Checked.fault fault : Checked α) (Problems.only fault) :=
  enumerates_problem ⟨[], fault⟩

/-- Positions may be written in another way, as long as their order stays. -/
theorem Enumerates.relabel {c : Checked α} {P : Problems} (h : c.Enumerates P)
    {label : Position → Position}
    (hlabel : ∀ {pos pos' : Position}, pos.Before pos' → (label pos).Before (label pos')) :
    c.Enumerates fun pos p => ∃ rest, P rest p ∧ pos = label rest := by
  obtain ⟨marked, hmap, hrising, hmem⟩ := h.listed
  refine ⟨⟨marked.map fun m => (label m.1, m.2), ?_, ?_, ?_⟩, h.found⟩
  · rw [← hmap, List.map_map]
    rfl
  · exact List.pairwise_map.mpr (hrising.imp hlabel)
  · intro pos p
    constructor
    · intro hp
      obtain ⟨⟨rest, q⟩, hq, heq⟩ := List.mem_map.mp hp
      cases heq
      exact ⟨rest, (hmem rest q).mp hq, rfl⟩
    · rintro ⟨rest, hp, rfl⟩
      exact List.mem_map.mpr ⟨(rest, p), (hmem rest p).mpr hp, rfl⟩

theorem Enumerates.inside {c : Checked α} {P : Problems} (h : c.Enumerates P) (step : Step) :
    (Checked.inside step c).Enumerates (P.inside step) := by
  obtain ⟨marked, hmap, hrising, hmem⟩ := h.listed
  refine ⟨⟨marked.map fun m => (m.1, m.2.inside step), ?_, ?_, ?_⟩, ?_⟩
  · have hproblems : (Checked.inside step c).problems = c.problems.map (Problem.inside step) := by
      cases c <;> rfl
    rw [hproblems, ← hmap, List.map_map, List.map_map]
    rfl
  · exact List.pairwise_map.mpr hrising
  · intro pos p
    constructor
    · intro hp
      obtain ⟨⟨_, q⟩, hq, heq⟩ := List.mem_map.mp hp
      cases heq
      exact ⟨q, (hmem _ q).mp hq, rfl⟩
    · rintro ⟨q, hq, rfl⟩
      exact List.mem_map.mpr ⟨(pos, q), (hmem pos q).mpr hq, rfl⟩
  · cases c with
    | ok a => simp [Checked.inside]
    | error ps =>
        intro hnil
        have hps : ps = [] := by simpa [Checked.inside] using hnil
        exact h.found (by rw [hps])

theorem Enumerates.map {c : Checked α} {P : Problems} (h : c.Enumerates P) (f : α → β) :
    Enumerates (Except.map f c) P := by
  cases c with
  | ok a => exact ⟨h.listed, by simp [Except.map]⟩
  | error ps => exact ⟨h.listed, fun hnil => h.found (by simpa [Except.map] using hnil)⟩

/-- Of two checks the problems of the first come first. -/
theorem Enumerates.map2 {x : Checked α} {y : Checked β} {P Q : Problems} (hx : x.Enumerates P)
    (hy : y.Enumerates Q) (f : α → β → γ)
    (hbefore : ∀ pos p pos' p', P pos p → Q pos' p' → pos.Before pos') :
    (Checked.map2 f x y).Enumerates fun pos p => P pos p ∨ Q pos p := by
  obtain ⟨marked, hmap, hrising, hmem⟩ := hx.listed
  obtain ⟨marked', hmap', hrising', hmem'⟩ := hy.listed
  refine ⟨⟨marked ++ marked', ?_, ?_, ?_⟩, ?_⟩
  · have hproblems : (Checked.map2 f x y).problems = x.problems ++ y.problems := by
      cases x <;> cases y <;> simp [Checked.map2, problems]
    rw [hproblems, List.map_append, hmap, hmap']
  · refine List.pairwise_append.mpr ⟨hrising, hrising', ?_⟩
    rintro ⟨pos, p⟩ hp ⟨pos', p'⟩ hp'
    exact hbefore pos p pos' p' ((hmem pos p).mp hp) ((hmem' pos' p').mp hp')
  · intro pos p
    rw [List.mem_append, hmem, hmem']
  · have := hx.found
    have := hy.found
    cases x <;> cases y <;> simp_all [Checked.map2]

/-- One part is checked. -/
theorem Enumerates.one {c : Checked α} {P : Problems} (h : c.Enumerates P) :
    c.Enumerates (Problems.InTurn [P]) := by
  refine (h.relabel (Position.before_cons 0)).congr ?_
  intro pos p
  constructor
  · rintro ⟨rest, hp, rfl⟩
    exact ⟨0, P, rest, rfl, hp, rfl⟩
  · rintro ⟨i, Q, rest, hQ, hp, rfl⟩
    obtain ⟨rfl, rfl⟩ : i = 0 ∧ P = Q := by simpa [List.getElem?_singleton] using hQ
    exact ⟨rest, hp, rfl⟩

/-- The position after so many parts. -/
def later (n : Nat) : Position → Position
  | [] => []
  | i :: rest => (n + i) :: rest

theorem later_before {n : Nat} {pos pos' : Position} (h : pos.Before pos') :
    (later n pos).Before (later n pos') := by
  cases pos with
  | nil =>
      cases pos' with
      | nil => exact h
      | cons j rest' => exact Position.nil_before_cons ..
  | cons i rest =>
      cases pos' with
      | nil => exact absurd h (Position.not_before_nil _)
      | cons j rest' =>
          rw [Position.cons_before_cons_iff] at h
          refine Position.cons_before_cons_iff.mpr ?_
          rcases h with hlt | ⟨rfl, hlt⟩
          · exact Or.inl (by omega)
          · exact Or.inr ⟨rfl, hlt⟩

/-- Parts are checked, and then some more. -/
theorem Enumerates.append {x : Checked α} {y : Checked β} {Ps Qs : List Problems}
    (hx : x.Enumerates (Problems.InTurn Ps)) (hy : y.Enumerates (Problems.InTurn Qs))
    (f : α → β → γ) : (Checked.map2 f x y).Enumerates (Problems.InTurn (Ps ++ Qs)) := by
  have hlater : y.Enumerates fun pos p =>
      ∃ rest, Problems.InTurn Qs rest p ∧ pos = later Ps.length rest := hy.relabel later_before
  refine (hx.map2 hlater f ?_).congr ?_
  · rintro pos p pos' p' ⟨i, P, rest, hP, -, rfl⟩ ⟨_, ⟨j, Q, rest', -, -, rfl⟩, rfl⟩
    have hi : i < Ps.length := (List.getElem?_eq_some_iff.mp hP).1
    exact Position.cons_before_cons_iff.mpr (Or.inl (by omega))
  · intro pos p
    constructor
    · rintro (⟨i, P, rest, hP, hp, rfl⟩ | ⟨_, ⟨j, Q, rest, hQ, hp, rfl⟩, rfl⟩)
      · have hi : i < Ps.length := (List.getElem?_eq_some_iff.mp hP).1
        exact ⟨i, P, rest, by rw [List.getElem?_append_left hi, hP], hp, rfl⟩
      · refine ⟨Ps.length + j, Q, rest, ?_, hp, rfl⟩
        rw [List.getElem?_append_right (by omega), Nat.add_sub_cancel_left, hQ]
    · rintro ⟨i, P, rest, hP, hp, rfl⟩
      by_cases hi : i < Ps.length
      · exact Or.inl ⟨i, P, rest, by rw [← List.getElem?_append_left hi, hP], hp, rfl⟩
      · refine Or.inr ⟨(i - Ps.length) :: rest, ⟨i - Ps.length, P, rest, ?_, hp, rfl⟩, ?_⟩
        · rw [← List.getElem?_append_right (by omega), hP]
        · simp only [later, List.cons.injEq, and_true]
          omega

theorem Enumerates.nil (a : α) : Enumerates (.ok a : Checked α) (Problems.InTurn []) := by
  refine (enumerates_ok a).congr ?_
  intro pos p
  simp [Problems.none, Problems.InTurn]

/-- The items of a list are checked one after another. -/
theorem enumerates_indexed {check : β → Checked α} {P : β → Problems}
    (hcheck : ∀ x, (check x).Enumerates (P x)) (xs : List β) :
    ∀ start : Nat, (indexed check start xs).Enumerates
      (Problems.InTurn (xs.mapIdx fun i x => (P x).inside (.index (start + i)))) := by
  induction xs with
  | nil => intro start; exact Enumerates.nil []
  | cons x rest ih =>
      intro start
      have hrest := ih (start + 1)
      have hshift : (fun (i : Nat) (x : β) => (P x).inside (.index (start + 1 + i)))
          = fun i x => (P x).inside (.index (start + (i + 1))) := by
        funext i x
        rw [Nat.add_assoc, Nat.add_comm 1]
      rw [hshift] at hrest
      rw [List.mapIdx_cons]
      exact ((hcheck x).inside _).one.append hrest List.cons

end Checked

/-! ### Members of an object -/

namespace Problems

/-- The problems of a member that has to be there, or need not be. -/
inductive Member (ms : Json.Members) (name : String) (required : Bool) (P : Json → Problems) :
    Problems
  | missing (h : ms.get? name = Option.none) (hrequired : required = true) :
      Member ms name required P [] ⟨[.member name], .missing⟩
  | wrong {v : Json} {pos : Position} {p : Problem} (h : ms.get? name = some v) (hp : P v pos p) :
      Member ms name required P pos (p.inside (.member name))

end Problems

namespace Json.Members

open Checked

variable {α : Type} {check : Json → Checked α} {P : Json → Problems}

/-- The check of a member that is there. -/
theorem enumerates_present {ms : Json.Members} {name : String} {v : Json} (required : Bool)
    (hv : ms.get? name = some v) (hcheck : (check v).Enumerates (P v)) :
    (Checked.inside (.member name) (check v)).Enumerates (Problems.Member ms name required P) := by
  refine (hcheck.inside (.member name)).congr ?_
  intro pos p
  constructor
  · rintro ⟨q, hq, rfl⟩
    exact Problems.Member.wrong hv hq
  · rintro (⟨hv', -⟩ | ⟨hv', hp⟩)
    · rw [hv] at hv'
      cases hv'
    · rw [hv] at hv'
      obtain rfl := Option.some.inj hv'
      exact ⟨_, hp, rfl⟩

theorem enumerates_require (hcheck : ∀ v, (check v).Enumerates (P v)) (ms : Json.Members)
    (name : String) :
    (ms.require name check).Enumerates (Problems.Member ms name true P) := by
  unfold require
  cases hv : ms.get? name with
  | some v => exact enumerates_present true hv (hcheck v)
  | none =>
      refine ((enumerates_fault .missing).inside (.member name)).congr ?_
      intro pos p
      constructor
      · rintro ⟨_, ⟨rfl, rfl⟩, rfl⟩
        exact Problems.Member.missing hv rfl
      · rintro (_ | ⟨hv', -⟩)
        · exact ⟨_, ⟨rfl, rfl⟩, rfl⟩
        · rw [hv] at hv'
          cases hv'

theorem enumerates_allow (hcheck : ∀ v, (check v).Enumerates (P v)) (ms : Json.Members)
    (name : String) (default : α) :
    (ms.allow name default check).Enumerates (Problems.Member ms name false P) := by
  unfold allow
  cases hv : ms.get? name with
  | some v => exact enumerates_present false hv (hcheck v)
  | none =>
      refine (enumerates_ok default).congr ?_
      intro pos p
      constructor
      · rintro ⟨⟩
      · rintro (⟨-, ⟨⟩⟩ | ⟨hv', -⟩)
        rw [hv] at hv'
        cases hv'

end Json.Members

end MfmRender
