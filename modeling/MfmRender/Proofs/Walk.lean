/-
Counting goes on where a failure left it.

A renderer that is handed nodes one at a time keeps its two counters from one node
to the next, and a failure does not set them back.  What a step has counted can be
read off the listing of its node, in which each node stands before what is inside
it: all of the listing if the node was rendered, nothing if it was refused, and if
some code in it was rejected, what is listed before that code.  The branches around
the code are listed before it, so they have counted.  `WalkStep.Counts` says this
of a step, and `counts_ofNode` of every step.

The counters are all that one step leaves to the next.  So what comes after a
failure comes also after any other nodes that lead to the same counters, and there
are always nodes that lead there without a failure: as many empty big and moving
ones as were counted.  In this sense a renderer that has failed is as good as one
that has not (`counters_through_failures`).
-/
import MfmRender.Proofs.Dispatch
import MfmRender.Proofs.Incremental

namespace MfmRender

open Html

variable {config : Config}

/-! ### What has begun when code is rejected -/

namespace Node

variable {ns earlier later : List Node} {n : Node} {r : Rejection}

/-- When the first rejection is met, what is listed before the rejected code has begun. -/
theorem begun_eq (hcolour : config.highlightCode = false)
    (hlisted : preorderAll ns = earlier ++ n :: later) (hn : Rejects r n)
    (hearlier : ∀ m ∈ earlier, ∀ r', ¬ Rejects r' m) : begun config ns = earlier := by
  have hrejected : n.rejection? config = some r := rejection?_eq_some_iff.mpr ⟨hcolour, hn⟩
  have haccepted : ∀ m ∈ earlier, (m.rejection? config).isNone = true := by
    intro m hm
    rw [Option.isNone_iff_eq_none, Option.eq_none_iff_forall_ne_some]
    intro r' hr'
    exact hearlier m hm r' (rejection?_eq_some_iff.mp hr').2
  rw [begun, hlisted, List.takeWhile_append_of_pos haccepted, List.takeWhile_cons, hrejected]
  exact List.append_nil earlier

end Node

namespace WalkStep

variable {ns : List Node}

/-! ### One step -/

/-- What a node that was loaded and rendered, refused, or given up at rejected code leaves behind:
its outcome, and the counters moved on by what of it has begun. -/
inductive Counts (config : Config) (v : Json) (before : Counters) : WalkStep → Prop
  /-- Everything in it is counted, and it is shown by the ranks that follow those counted before. -/
  | rendered {n : Node} (hload : loadNodes [v] = .ok [n])
      (haccepted : Node.Accepted config [n]) :
      Counts config v before
        ⟨.ok (Node.prescribed config before n).printAlone, before + Node.tally n.preorder⟩
  /-- Nothing of it is counted. -/
  | refused {e : RenderError} (hload : loadNodes [v] = .error e) :
      Counts config v before ⟨.error (.refused e), before⟩
  /-- What is listed before the first code that is rejected is counted. -/
  | rejected {n code : Node} {earlier later : List Node} {r : Rejection}
      (hload : loadNodes [v] = .ok [n]) (hcolour : config.highlightCode = false)
      (hlisted : n.preorder = earlier ++ code :: later) (hcode : Node.Rejects r code)
      (hearlier : ∀ m ∈ earlier, ∀ r', ¬ Node.Rejects r' m) :
      Counts config v before ⟨.error (.rejectedMarkup r), before + Node.tally earlier⟩

/-- A raw node that is rejected has counted what is listed before the rejected code. -/
theorem ofNode_eq_rejected {v : Json} {n code : Node} {earlier later : List Node} {r : Rejection}
    (hload : loadNodes [v] = .ok [n]) (hcolour : config.highlightCode = false)
    (hlisted : n.preorder = earlier ++ code :: later) (hcode : Node.Rejects r code)
    (hearlier : ∀ m ∈ earlier, ∀ r', ¬ Node.Rejects r' m) (before : Counters) :
    ofNode config v before = ⟨.error (.rejectedMarkup r), before + Node.tally earlier⟩ := by
  have hall : Node.preorderAll [n] = earlier ++ code :: later := by
    rw [Node.preorderAll_singleton, hlisted]
  have hfirst : Node.firstRejection? config [n] = some r :=
    Node.firstRejection?_eq_some_iff.mpr ⟨hcolour, _, _, _, hall, hcode, hearlier⟩
  have hnodes : Render.nodes config [n] before
      = (.error r, before + Node.tally (Node.begun config [n])) := Render.nodes_eq_error hfirst
  rw [Node.begun_eq hcolour hall hcode hearlier] at hnodes
  simp only [ofNode, hload, hnodes]

/-- **A step counts what of its node has begun.** -/
theorem counts_ofNode (config : Config) (v : Json) (before : Counters) :
    Counts config v before (ofNode config v before) := by
  cases hload : loadNodes [v] with
  | error e =>
      have hstep : ofNode config v before = ⟨.error (.refused e), before⟩ := by
        simp only [ofNode, hload]
      rw [hstep]
      exact .refused hload
  | ok ns =>
      obtain ⟨n, rfl, -⟩ := List.map_eq_singleton_iff.mp (loadNodes_eq_ok_iff_map.mp hload).symm
      cases hfirst : Node.firstRejection? config [n] with
      | none =>
          have haccepted : Node.Accepted config [n] := Node.accepted_iff.mpr hfirst
          rw [ofNode_eq hload haccepted before]
          exact .rendered hload haccepted
      | some r =>
          obtain ⟨hcolour, earlier, code, later, hall, hcode, hearlier⟩ :=
            Node.firstRejection?_eq_some_iff.mp hfirst
          have hlisted : n.preorder = earlier ++ code :: later := by
            rw [← hall, Node.preorderAll_singleton]
          rw [ofNode_eq_rejected hload hcolour hlisted hcode hearlier before]
          exact .rejected hload hcolour hlisted hcode hearlier

/-! ### A whole walk -/

/-- The counters after some steps. -/
def reached (before : Counters) : List WalkStep → Counters
  | [] => before
  | step :: rest => reached step.counters rest

/-- No step failed. -/
def Unfailing (steps : List WalkStep) : Prop :=
  ∀ step ∈ steps, ∃ markup, step.outcome = .ok markup

/-- **A walk goes on after a first part with nothing but the counters that the part has left.** -/
theorem walk_append (config : Config) (us ws : List Json) :
    ∀ before : Counters, walk config before (us ++ ws)
      = walk config before us ++ walk config (reached before (walk config before us)) ws := by
  induction us with
  | nil => intro before; rfl
  | cons u rest ih =>
      intro before
      rw [List.cons_append, walk, ih, walk, reached, List.cons_append]

/-- Nodes of which none fails are all counted. -/
theorem reached_walk (haccepted : Node.Accepted config ns) :
    ∀ {vs : List Json} {before : Counters}, loadNodes vs = .ok ns →
      reached before (walk config before vs) = before + Node.tally (Node.preorderAll ns) := by
  induction ns with
  | nil =>
      intro vs before hload
      rw [loadNodes_eq_ok_iff_map] at hload
      obtain rfl : vs = [] := by simpa using hload
      rfl
  | cons n rest ih =>
      intro vs before hload
      obtain ⟨v, more, rfl, hone, hothers⟩ := loadNodes_cons hload
      obtain ⟨hfirst, hrest⟩ := Node.accepted_append.mp
        (show Node.Accepted config ([n] ++ rest) from haccepted)
      rw [walk, reached, ofNode_eq hone hfirst, ih hrest hothers, Node.preorderAll,
        Node.add_tally_append]

/-! ### The same counters without a failure -/

/-- Empty nodes, so many of them big and so many moving. -/
def bareNodes (c : Counters) : List Node :=
  List.replicate c.big (.branch (.styled .big) []) ++
    List.replicate c.motion (.branch (.styled .motion) [])

/-- The same as a document writes them. -/
def bareValues (c : Counters) : List Json :=
  List.replicate c.big (.object [("type", .string "big")]) ++
    List.replicate c.motion (.object [("type", .string "motion")])

theorem loadNodes_bareValues (c : Counters) : loadNodes (bareValues c) = .ok (bareNodes c) := by
  have hbig : Node.load Node.maxDepth none (.object [("type", .string "big")])
      = .ok (.branch (.styled .big) []) := rfl
  have hmotion : Node.load Node.maxDepth none (.object [("type", .string "motion")])
      = .ok (.branch (.styled .motion) []) := rfl
  rw [loadNodes_eq_ok_iff_map]
  simp only [bareValues, bareNodes, List.map_append, List.map_replicate, hbig, hmotion]

theorem preorderAll_bareNodes (c : Counters) : Node.preorderAll (bareNodes c) = bareNodes c := by
  have hreplicate : ∀ (b : Branch) (k : Nat),
      Node.preorderAll (List.replicate k (.branch b [])) = List.replicate k (.branch b []) := by
    intro b k
    induction k with
    | zero => rfl
    | succ k ih =>
        rw [List.replicate_succ, Node.preorderAll, ih]
        rfl
  rw [bareNodes, Node.preorderAll_append, hreplicate, hreplicate]

theorem accepted_bareNodes (config : Config) (c : Counters) :
    Node.Accepted config (bareNodes c) := by
  refine Node.accepted_of_blockCode ?_
  intro code lang hmem
  rw [preorderAll_bareNodes] at hmem
  simp [bareNodes, List.mem_replicate] at hmem

theorem tally_bareNodes (c : Counters) : Node.tally (bareNodes c) = c := by
  simp [Node.tally, bareNodes, List.countP_replicate, Node.hasStyle, Node.kind, Branch.kind]

/-- Whatever the counters are, there are nodes that lead to them without a failure. -/
theorem exists_unfailing (config : Config) (c : Counters) :
    ∃ calm : List Json, Unfailing (walk config {} calm) ∧
      reached {} (walk config {} calm) = c := by
  have hload := loadNodes_bareValues c
  have haccepted := accepted_bareNodes config c
  refine ⟨bareValues c, ?_, ?_⟩
  · intro step hstep
    have houtcome := List.mem_map_of_mem (f := WalkStep.outcome) hstep
    rw [map_outcome_walk haccepted hload] at houtcome
    obtain ⟨h, -, hmarkup⟩ := List.mem_map.mp houtcome
    exact ⟨_, hmarkup.symm⟩
  · rw [reached_walk haccepted hload, preorderAll_bareNodes, tally_bareNodes]
    show Counters.mk (0 + c.big) (0 + c.motion) = c
    rw [Nat.zero_add, Nat.zero_add]

end WalkStep

open WalkStep

/-- **Counters are exact, whatever fails.**  Nodes are handed to one renderer one at a time.  Each
step counts what of its node has begun, from what the steps before it have counted.  The steps
after it are those that would follow if the counters had been reached in any other way, and they
can be reached without a failure. -/
theorem counters_through_failures (config : Config) (us : List Json) (v : Json) (ws : List Json) :
    ∃ step : WalkStep,
      walk config {} (us ++ v :: ws)
        = walk config {} us ++ step :: walk config step.counters ws ∧
      Counts config v (reached {} (walk config {} us)) step ∧
      (∃ calm, Unfailing (walk config {} calm) ∧
        reached {} (walk config {} calm) = step.counters) ∧
      ∀ calm, reached {} (walk config {} calm) = step.counters →
        walk config {} (calm ++ ws) = walk config {} calm ++ walk config step.counters ws := by
  refine ⟨ofNode config v (reached {} (walk config {} us)), ?_, ?_, ?_, ?_⟩
  · rw [walk_append]
    rfl
  · exact counts_ofNode config v _
  · exact exists_unfailing config _
  · intro calm hcalm
    rw [walk_append, hcalm]

/-- Of three big nodes two begin before the code inside the first is rejected. -/
example : (walk {} {} [
      .object [("type", .string "big"), ("children", .array [
        .object [("type", .string "big")],
        .object [("type", .string "blockCode"),
          ("props", .object [("code", .string "<![bad[")])],
        .object [("type", .string "big")]])],
      .object [("type", .string "big")]]).map WalkStep.counters
    = [{ big := 2 }, { big := 3 }] := by
  cbv

end MfmRender
