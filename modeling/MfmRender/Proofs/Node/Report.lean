/-
What loading complains of.

Of all the flaws of a document loading reports one.  If an object that can be
reached names a kind that there is not, the first such object is reported,
whatever else is wrong before it.  Otherwise it is the first flaw.

All flaws have been found in order, so little is left to show: which of them are
about a kind that there is not, and that the first of these is looked for before
the first of all.
-/
import MfmRender.Proofs.Node.Finding

namespace MfmRender

/-! ### Kinds that there are not -/

/-- The kind that a problem complains of, if there is no such kind. -/
def Problem.unknown? (p : Problem) : Option Json :=
  match p.fault with
  | .unknownKind kind => some kind
  | _ => none

namespace Problems

theorem ordinary_none : Ordinary .none := by
  rintro pos p ⟨⟩

theorem ordinary_only {fault : Fault} (h : ∀ kind, fault ≠ .unknownKind kind) :
    Ordinary (.only fault) := by
  rintro pos p ⟨rfl, rfl⟩
  exact h

theorem Ordinary.inside {P : Problems} (h : P.Ordinary) (step : Step) :
    (P.inside step).Ordinary := by
  rintro pos p ⟨q, hq, rfl⟩
  exact h pos q hq

theorem ordinary_inTurn {Ps : List Problems} (h : ∀ P ∈ Ps, P.Ordinary) : (InTurn Ps).Ordinary := by
  rintro pos p ⟨i, P, rest, hP, hp, rfl⟩
  exact h P (List.mem_of_getElem? hP) rest p hp

theorem ordinary_member {ms : Json.Members} {name : String} {required : Bool} {P : Json → Problems}
    (h : ∀ v, (P v).Ordinary) : (Member ms name required P).Ordinary := by
  intro pos p hp
  cases hp with
  | missing => simp
  | @wrong v _ q hv hq => exact h v pos q hq

end Problems

theorem Json.ordinary_textProblems (v : Json) : v.textProblems.Ordinary := by
  rintro pos p ⟨-, rfl, rfl⟩
  simp

theorem Json.ordinary_flagProblems (v : Json) : v.flagProblems.Ordinary := by
  rintro pos p ⟨-, rfl, rfl⟩
  intro kind h
  unfold Json.notTruth at h
  grind

theorem Json.ordinary_argsProblems (v : Json) : v.argsProblems.Ordinary := by
  have harg : ∀ v : Json, v.argProblems.Ordinary := by
    intro v
    cases v with
    | string s => exact Problems.ordinary_none
    | _ => exact (Json.ordinary_flagProblems _).inside _
  cases v with
  | object ms =>
      refine Problems.ordinary_inTurn ?_
      intro P hP
      obtain ⟨m, -, rfl⟩ := List.mem_map.mp hP
      exact (harg m.2).inside _
  | _ => exact Problems.ordinary_only (by simp)

theorem Shape.ordinary_problems (shape : Shape) (v : Json) : (shape.problems v).Ordinary := by
  cases shape with
  | text => exact Json.ordinary_textProblems v
  | optionalText => exact fun pos p hp => Json.ordinary_textProblems v pos p hp.2
  | flag => exact Json.ordinary_flagProblems v
  | optionalFlag => exact fun pos p hp => Json.ordinary_flagProblems v pos p hp.2
  | arguments => exact Json.ordinary_argsProblems v

/-- Properties never have a kind that there is not. -/
theorem Kind.ordinary_propsProblems (kind : Kind) (ms : Json.Members) :
    (kind.propsProblems ms).Ordinary := by
  unfold propsProblems
  split
  · exact Problems.ordinary_none
  · rename_i model fields _
    refine Problems.ordinary_member ?_
    intro v
    cases v with
    | object props =>
        refine Problems.ordinary_inTurn ?_
        intro P hP
        obtain ⟨f, -, rfl⟩ := List.mem_map.mp hP
        exact Problems.ordinary_member f.shape.ordinary_problems
    | _ => exact Problems.ordinary_only (by simp)

theorem Problem.unknown?_eq_some_iff {p : Problem} {shown : Json} :
    p.unknown? = some shown ↔ p.fault = .unknownKind shown := by
  unfold unknown?
  cases p.fault <;> simp

/-- A kind that there is not is complained of at the objects that name it. -/
theorem flawAt_unknown_iff {vs : List Json} {pos : Position} {shown : Json} :
    (∃ p, FlawAt vs pos p ∧ p.unknown? = some shown) ↔ UnknownAt vs pos shown := by
  simp only [Problem.unknown?_eq_some_iff]
  constructor
  · rintro ⟨_, ⟨i, v, _, _, hv, ⟨pos₁, place, t, pos₂, q, hreaches, hown, rfl, rfl⟩, rfl, rfl⟩, hq⟩
    cases hown with
    | unknownKind hvalue h =>
        obtain rfl := Fault.unknownKind.inj hq
        exact ⟨i, v, pos₁, place, t, _, hv, hreaches, hvalue, h, by rw [List.append_nil]⟩
    | props henters h => exact absurd hq (Kind.ordinary_propsProblems _ _ _ _ h shown)
    | _ => cases hq
  · rintro ⟨i, v, rest, place, t, ms, hv, hreaches, hvalue, h, rfl⟩
    exact ⟨_, ⟨i, v, rest, _, hv,
      ⟨rest, place, t, [], _, hreaches, .unknownKind hvalue h, (List.append_nil _).symm, rfl⟩,
      rfl, rfl⟩, rfl⟩

/-! ### The problem that is reported -/

theorem ofProblems_of_unknown {ps : List Problem} {kind : Json}
    (h : ps.findSome? Problem.unknown? = some kind) :
    RenderError.ofProblems ps = .unsupportedKind kind := by
  unfold RenderError.ofProblems
  dsimp only
  split
  · rename_i hfound
    rw [Option.some.inj (h.symm.trans hfound)]
  · rename_i hnone
    cases h.symm.trans hnone
  · rename_i hnone
    cases h.symm.trans hnone

theorem ofProblems_of_not_unknown {p : Problem} {rest : List Problem}
    (h : (p :: rest).findSome? Problem.unknown? = none) :
    RenderError.ofProblems (p :: rest) = .malformedProps p := by
  unfold RenderError.ofProblems
  dsimp only
  split
  · rename_i hfound
    cases h.symm.trans hfound
  · rename_i heq
    rw [(List.cons.inj heq).1]
  · rename_i heq
    cases heq

theorem ofProblems_eq_iff {ps : List Problem} (hps : ps ≠ []) {e : RenderError} :
    RenderError.ofProblems ps = e ↔
      (∃ shown, ps.findSome? Problem.unknown? = some shown ∧ e = .unsupportedKind shown) ∨
        ps.findSome? Problem.unknown? = none ∧
          ∃ p, ps.head? = some p ∧ e = .malformedProps p := by
  cases ps with
  | nil => exact absurd rfl hps
  | cons q rest =>
      cases h : (q :: rest).findSome? Problem.unknown? with
      | some kind => simp [ofProblems_of_unknown h, eq_comm]
      | none => simp [ofProblems_of_not_unknown h, eq_comm]

/-- The problems that loading a document finds. -/
def foundIn (vs : List Json) : List Problem :=
  (Checked.indexed (Node.load Node.maxDepth none) 0 vs).problems

theorem loadNodes_eq_error_iff {vs : List Json} {e : RenderError} :
    loadNodes vs = .error e ↔
      (∃ shown, (foundIn vs).findSome? Problem.unknown? = some shown ∧
          e = .unsupportedKind shown) ∨
        (foundIn vs).findSome? Problem.unknown? = none ∧
          ∃ p, (foundIn vs).head? = some p ∧ e = .malformedProps p := by
  have hfound := (enumerates_document vs).found
  rw [loadNodes_eq]
  unfold foundIn
  cases h : Checked.indexed (Node.load Node.maxDepth none) 0 vs with
  | ok ns => simp [Checked.problems]
  | error ps =>
      have hps : ps ≠ [] := by
        rintro rfl
        exact hfound h
      simpa [Checked.problems] using ofProblems_eq_iff hps

/-- The first unknown kind that is found is that of the first object that names one. -/
theorem findSome?_foundIn_eq_some_iff {vs : List Json} {shown : Json} :
    (foundIn vs).findSome? Problem.unknown? = some shown ↔
      ∃ pos, Problems.First (UnknownAt vs) pos shown := by
  unfold foundIn
  rw [(enumerates_document vs).findSome?_eq_some_iff]
  simp only [flawAt_unknown_iff]

theorem findSome?_foundIn_eq_none_iff {vs : List Json} :
    (foundIn vs).findSome? Problem.unknown? = none ↔ ∀ pos shown, ¬ UnknownAt vs pos shown := by
  unfold foundIn
  rw [(enumerates_document vs).findSome?_eq_none_iff]
  simp only [← flawAt_unknown_iff]
  constructor
  · rintro h pos shown ⟨q, hq, hu⟩
    rw [h pos q hq] at hu
    cases hu
  · intro h pos q hq
    cases hu : q.unknown? with
    | none => rfl
    | some shown => exact absurd ⟨q, hq, hu⟩ (h pos shown)

theorem head?_foundIn_eq_some_iff {vs : List Json} {p : Problem} :
    (foundIn vs).head? = some p ↔ ∃ pos, Problems.First (FlawAt vs) pos p :=
  (enumerates_document vs).head?_eq_some_iff

/-- **What loading reports: the first reachable object of a kind that there is not, and if there is
none the first flaw.** -/
theorem loadNodes_reports (vs : List Json) (e : RenderError) :
    loadNodes vs = .error e ↔
      (∃ pos shown, Problems.First (UnknownAt vs) pos shown ∧ e = .unsupportedKind shown) ∨
        (∀ pos shown, ¬ UnknownAt vs pos shown) ∧
          ∃ pos p, Problems.First (FlawAt vs) pos p ∧ e = .malformedProps p := by
  rw [loadNodes_eq_error_iff, findSome?_foundIn_eq_none_iff]
  simp only [findSome?_foundIn_eq_some_iff, head?_foundIn_eq_some_iff]
  constructor
  · rintro (⟨shown, ⟨pos, hfirst⟩, he⟩ | ⟨hnone, p, ⟨pos, hfirst⟩, he⟩)
    · exact Or.inl ⟨pos, shown, hfirst, he⟩
    · exact Or.inr ⟨hnone, pos, p, hfirst, he⟩
  · rintro (⟨pos, shown, hfirst, he⟩ | ⟨hnone, pos, p, hfirst, he⟩)
    · exact Or.inl ⟨shown, ⟨pos, hfirst⟩, he⟩
    · exact Or.inr ⟨hnone, p, ⟨pos, hfirst⟩, he⟩

/-! ### Beyond the levels nothing is reported but the depth -/

namespace Node

theorem cost_le_two (governor : Option BranchKind) (kind : Kind) : cost governor kind ≤ 2 := by
  cases kind with
  | leaf k => exact Nat.le_succ 1
  | branch k =>
      simp only [cost]
      split <;> omega

/-- With two levels for every branch, what is inside styled branches is reached. -/
theorem reaches_wrapped (styles : List Style) (v : Json) :
    ∀ levels governor, 2 * styles.length ≤ levels → ∃ pos place t,
      (Spot.mk levels governor (wrappedValue styles v)).Reaches pos place t ∧ t.value = v := by
  induction styles with
  | nil => intro levels governor _; exact ⟨_, _, _, .here _, rfl⟩
  | cons style styles ih =>
      intro levels governor hlevels
      have hcost := cost_le_two governor (.branch (.styled style))
      rw [List.length_cons] at hlevels
      obtain ⟨pos, place, t, hreaches, hvalue⟩ :=
        ih (levels - cost governor (.branch (.styled style))) (inner governor (.styled style))
          (by omega)
      have hfits : cost governor (.branch (.styled style)) ≤ levels := by omega
      have henters : (Spot.mk levels governor (wrappedValue (style :: styles) v)).Enters
          [("type", .string style.name), ("children", .array [wrappedValue styles v])]
          (.branch (.styled style)) := ⟨rfl, rfl, hfits⟩
      exact ⟨_, _, t, .inside henters rfl (List.getElem?_cons_zero) hreaches, hvalue⟩

/-- An object of no known kind inside 253 branches would be reached if there were more levels, but
ten of the branches govern: what is reported is the depth. -/
theorem unknown_beyond_levels :
    (∃ (levels : Nat) (pos : Position) (place : List Step) (t : Spot) (ms : Json.Members),
      (Spot.mk levels none (wrappedValue descending (.object [("type", .string "lost")]))).Reaches
          pos place t ∧
        t.value = .object ms ∧ ms.NamesUnknown (.string "lost")) ∧
      ∃ place, loadNodes [wrappedValue descending (.object [("type", .string "lost")])]
        = .error (.malformedProps ⟨place, .tooDeep⟩) := by
  refine ⟨?_, loadNodes_descending _⟩
  have hlength := length_descending
  obtain ⟨pos, place, t, hreaches, hvalue⟩ :=
    reaches_wrapped descending (.object [("type", .string "lost")]) 506 none (by omega)
  have hno : ∀ kind : Kind, "lost" ≠ kind.name := by
    intro kind h
    have hnone : Kind.ofName? "lost" = none := by decide
    rw [Kind.ofName?_eq_some_iff.mpr h] at hnone
    cases hnone
  exact ⟨506, pos, place, t, [("type", .string "lost")], hreaches, hvalue,
    Or.inl ⟨"lost", rfl, hno, rfl⟩⟩

end Node

end MfmRender
