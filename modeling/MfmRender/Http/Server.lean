/-
Answering requests.

One route tells that the server is well, the other renders a document, with the
options of the request or else those of the server.  A document that is refused
is the fault of the request; every other failure is one of the server, which
says no more about it, not even who may read the response.
-/
import MfmRender.Http.Message
import MfmRender.Http.RenderRequest
import MfmRender.Http.Target
import MfmRender.Item
import MfmRender.Settings

namespace MfmRender.Http

/-- A response that only says what is the matter. -/
def Response.ofDetail (status : Nat) (detail : Json) : Response :=
  { status, body := some (.object [("detail", detail)]) }

/-- Why a request is not answered as it wishes. -/
inductive ServerError where
  /-- The document of the request is refused. -/
  | refused (e : RenderError)
  | badBody (f : BodyFault)
  /-- Something fails that is not up to the request. -/
  | broken

namespace ServerError

def response : ServerError → Response
  | refused e => .ofDetail 422 (.string e.message)
  | badBody .unreadable => .ofDetail 400 BodyFault.unreadable.details
  | badBody f =>
    if f.details.isFinite then .ofDetail 422 f.details
    else .ofDetail 500 (.string "Internal server error")
  | broken => .ofDetail 500 (.string "Internal server error")

end ServerError

namespace Server

/-- The options that a request is answered with. -/
def configFor (s : Settings) (request : RenderRequest) : Except ServerError Config :=
  match request.config with
  | some config => .ok config
  | none =>
    match s.renderConfig with
    | .ok config => .ok config
    | .error _ => .error .broken

/-- The markup that a request asks for. -/
def render (s : Settings) (r : Request) : Except ServerError String :=
  match RenderRequest.ofBody r with
  | .error f => .error (.badBody f)
  | .ok request =>
    match configFor s request with
    | .error e => .error e
    | .ok config =>
      match renderItems (request.nodes.map .raw) (.ready config) with
      | .ok html => .ok html
      | .error (.refused e) => .error (.refused e)
      | .error _ => .error .broken

/-- The answer of a route. -/
def respondAt (s : Settings) (r : Request) : Route → Response
  | .health =>
    { status := 200
      body := some (.object [("status", .string "ok"), ("version", .string s.appVersion),
        ("app", .string s.appName)]) }
  | .render =>
    match render s r with
    | .ok html => { status := 200, body := some (.object [("html", .string html)]) }
    | .error e => e.response

/-- The answer to a request, before it is said who may read it. -/
def answer (s : Settings) (r : Request) : Response :=
  match Destination.ofTarget r.target with
  | .nowhere => .ofDetail 404 (.string "Not found")
  | .shorter => { status := 307, body := none }
  | .route route =>
    if r.method = route.method then respondAt s r route
    else
      { Response.ofDetail 405 (.string "Method Not Allowed") with
        headers := [("allow", route.method)] }

/-- The response to a request. -/
def respond (s : Settings) (r : Request) : Response :=
  let found := answer s r
  if found.status = 500 then found else found.withOrigin s.corsOrigins r

end Server

end MfmRender.Http
