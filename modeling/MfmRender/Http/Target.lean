/-
Where a request goes.

Of the target of a request the path counts, which is all before a question mark,
character by character: neither are percent signs decoded nor the steps `.` and
`..` taken.  A path that fits a route but for slashes at its end leads on to
the path without them.
-/
import MfmRender.Text.Blank

namespace MfmRender.Http

open Text

inductive Route where
  | health
  | render
  deriving Repr, DecidableEq

namespace Route

def path : Route → String
  | health => "/api/health"
  | render => "/api/v1/render"

/-- The one method that the route answers. -/
def method : Route → String
  | health => "GET"
  | render => "POST"

/-- The path is that of the route; a line end after it does no harm. -/
def fits (r : Route) (path : List Char) : Bool :=
  path == r.path.toList || path == r.path.toList ++ ['\n']

/-- The route of a path. -/
def ofPath? (path : List Char) : Option Route :=
  [health, render].find? fun r => r.fits path

end Route

/-- Where a target leads. -/
inductive Destination where
  | route (r : Route)
  /-- To the path without the slashes at its end. -/
  | shorter
  | nowhere
  deriving Repr, DecidableEq

/-- The path of a target. -/
def pathOf (target : String) : List Char :=
  target.toList.takeWhile (· != '?')

/-- The place that a target leads to. -/
def Destination.ofTarget (target : String) : Destination :=
  let path := pathOf target
  let short := dropWhileEnd (· == '/') path
  match Route.ofPath? path with
  | some r => route r
  | none => if short != path && (Route.ofPath? short).isSome then shorter else nowhere

end MfmRender.Http
