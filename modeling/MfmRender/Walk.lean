/-
Rendering nodes one at a time.

One rendering goes on from node to node: each is loaded and rendered on its
own, with the counters that the nodes before it left.  A node that cannot be
loaded counts nothing; one that fails in the middle has counted what came
before the failure.
-/
import MfmRender.Item

namespace MfmRender

/-- What came of one node, and the counters after it. -/
structure WalkStep where
  outcome : Except Failure String
  counters : Counters

namespace WalkStep

/-- Load and render one raw node. -/
def ofNode (config : Config) (v : Json) (counters : Counters) : WalkStep :=
  match loadNodes [v] with
  | .error e => ⟨.error (.refused e), counters⟩
  | .ok ns =>
    match Render.nodes config ns counters with
    | (.ok hs, after) => ⟨.ok (String.join (hs.map Html.printAlone)), after⟩
    | (.error r, after) => ⟨.error (.rejectedMarkup r), after⟩

/-- Load and render raw nodes one after another. -/
def walk (config : Config) (counters : Counters) : List Json → List WalkStep
  | [] => []
  | v :: rest =>
    let step := ofNode config v counters
    step :: walk config step.counters rest

end WalkStep

end MfmRender
