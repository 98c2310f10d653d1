/-
How requests to render are answered.

A request carries a value in its body, which is read if it lies within the limits
and cannot be read if it does not (`readBody_of_carries`).  So what is proved of
requests is proved of bodies as the grammar of JSON has them, not as the reader
happens to take them.

With nodes and options in it a request asks for a call to the rendering.  Once the
body has been understood the server does nothing with them but make this call, so
its answer is a matter of how the call ends (`answer_of_asks`): markup is sent back,
a refusal is the fault of the request, and every other failure is one of the server.
-/
import MfmRender.Http.Server
import MfmRender.Proofs.Checks
import MfmRender.Proofs.Json.Encoding

namespace MfmRender.Http

/-! ### Bodies that are JSON -/

/-- A request to render whose body is declared to be JSON and writes a value. -/
structure Carries (r : Request) (v : Json) : Prop where
  method : r.method = "POST"
  target : Destination.ofTarget r.target = .route .render
  declared : MediaType.isJson ((r.headers.find? "content-type").getD "") = true
  body : Json.Written r.body v

/-- A request to render, with a body that is declared to be JSON. -/
def Request.toRender (body : String) : Request :=
  { method := "POST", target := "/api/v1/render",
    headers := [("content-type", "application/json")], body }

theorem target_toRender (body : String) :
    Destination.ofTarget (Request.toRender body).target = .route .render := by
  change Destination.ofTarget "/api/v1/render" = .route .render
  decide

theorem declared_toRender (body : String) :
    MediaType.isJson (((Request.toRender body).headers.find? "content-type").getD "") = true := by
  change MediaType.isJson ((Headers.find? [("content-type", "application/json")]
    "content-type").getD "") = true
  decide +kernel

theorem carries_toRender {body : String} {v : Json} (h : Json.Written body v) :
    Carries (Request.toRender body) v :=
  ⟨rfl, target_toRender body, declared_toRender body, h⟩

variable {r : Request} {ms : Json.Members}

/-- **A body that writes an object brings it, if it lies within the limits.** -/
theorem readBody_of_carries (h : Carries r (.object ms)) :
    RenderRequest.readBody r =
      if Json.fits Json.maxDepth (.object ms) then .ok (.object ms) else .error .unreadable := by
  have hbody : r.body ≠ "" := by
    obtain ⟨before, cs, after, -, hwrites, -, htext⟩ := h.body
    obtain ⟨c, tail, rfl, -⟩ := Json.Reader.opens_of_writes hwrites
    intro hempty
    rw [hempty] at htext
    simp at htext
  have hread := Json.readChars_written h.body Json.maxDepth
  rw [RenderRequest.readBody, if_neg hbody, if_pos h.declared,
    Json.Encoding.characters?_written h.body]
  simp only
  split at hread
  · rw [hread]
    simp [*]
  · obtain ⟨e, he, hlimit⟩ := hread
    rw [he]
    cases e with
    | syntaxFault => exact hlimit.elim
    | tooManyDigits => simp [*]
    | tooDeep => simp [*]

/-- Such a request goes to the rendering. -/
theorem answer_of_carries {v : Json} (h : Carries r v) (s : Settings) :
    Server.answer s r = Server.respondAt s r .render := by
  have hmethod : r.method = Route.render.method := h.method
  rw [Server.answer, h.target]
  simp only [hmethod, if_true]

/-- A body beyond the limits is answered in the same way whatever else is in it. -/
theorem answer_of_unreadable {v : Json} (h : Carries r v)
    (hread : RenderRequest.readBody r = .error .unreadable) (s : Settings) :
    Server.answer s r = ServerError.response (.badBody .unreadable) := by
  rw [answer_of_carries h]
  simp only [Server.respondAt, Server.render, RenderRequest.ofBody, hread]

/-! ### What a request asks for -/

/-- The options that a body is answered with: its own, or those of the server if it leaves them
out. -/
inductive Options (s : Settings) (ms : Json.Members) (config : Config) : Prop
  | own {os : Json.Members} (given : ms.get? "config" = some (.object os))
      (accepted : Config.ofMembers os = .ok config)
  | standard (left : ms.get? "config" = none ∨ ms.get? "config" = some .null)
      (accepted : s.renderConfig = .ok config)

/-- A request to render these objects with these options, in a body within the limits. -/
structure Asks (s : Settings) (r : Request) (vs : List Json) (config : Config) : Prop where
  objects : ∀ v ∈ vs, ∃ os, v = .object os
  body : ∃ ms : Json.Members, Carries r (.object ms) ∧ Json.fits Json.maxDepth (.object ms) ∧
    ms.get? "nodes" = some (.array vs) ∧ Options s ms config

theorem checkList_checkNode {vs : List Json} (h : ∀ v ∈ vs, ∃ os, v = .object os) :
    Json.checkList RenderRequest.checkNode (.array vs) = .ok vs := by
  refine Checked.indexed_eq_ok_iff.mpr (List.map_congr_left fun v hv => ?_)
  obtain ⟨os, rfl⟩ := h v hv
  rfl

/-- A body with proper nodes and options is understood as asking for them. -/
theorem check_of_options {s : Settings} {ms : Json.Members} {vs : List Json} {config : Config}
    (hobjects : ∀ v ∈ vs, ∃ os, v = .object os) (hnodes : ms.get? "nodes" = some (.array vs))
    (hoptions : Options s ms config) :
    ∃ request, RenderRequest.check (.object ms) = .ok request ∧ request.nodes = vs ∧
      Server.configFor s request = .ok config := by
  have hvs : Json.Members.allow ms "nodes" [] (Json.checkList RenderRequest.checkNode) = .ok vs :=
    Json.Members.allow_eq_ok_iff.mpr (Or.inr ⟨_, hnodes, checkList_checkNode hobjects⟩)
  have hcheck : ∀ given, Json.Members.allow ms "config" none
      (Json.checkOption RenderRequest.checkConfig) = .ok given →
      RenderRequest.check (.object ms) = .ok ⟨vs, given⟩ := by
    intro given hgiven
    rw [RenderRequest.check]
    exact Checked.feed_eq_ok_iff.mpr
      ⟨_, _, Checked.feed_eq_ok_iff.mpr ⟨_, _, rfl, hvs, rfl⟩, hgiven, rfl⟩
  cases hoptions with
  | own given accepted =>
      refine ⟨⟨vs, some config⟩, hcheck _ ?_, rfl, rfl⟩
      refine Json.Members.allow_eq_ok_iff.mpr (Or.inr ⟨_, given, ?_⟩)
      exact Checked.map_eq_ok_iff.mpr ⟨config, accepted, rfl⟩
  | standard left accepted =>
      refine ⟨⟨vs, none⟩, hcheck _ ?_, rfl, by rw [Server.configFor, accepted]⟩
      rcases left with hnone | hnull
      · exact Json.Members.allow_eq_ok_iff.mpr (Or.inl ⟨hnone, rfl⟩)
      · exact Json.Members.allow_eq_ok_iff.mpr (Or.inr ⟨_, hnull, rfl⟩)

/-! ### What it is answered -/

/-- The answer to a call that ended in this way. -/
def answerTo : Except Failure String → Response
  | .ok html => { status := 200, body := some (.object [("html", .string html)]) }
  | .error (.refused e) => .ofDetail 422 (.string e.message)
  | .error _ => .ofDetail 500 (.string "Internal server error")

/-- **The answer to a request tells how the call ended that it asks for.** -/
theorem answer_of_asks {s : Settings} {r : Request} {vs : List Json} {config : Config}
    (h : Asks s r vs config) :
    Server.answer s r = answerTo (renderItems (vs.map .raw) (.ready config)) := by
  obtain ⟨ms, hcarries, hfits, hnodes, hoptions⟩ := h.body
  obtain ⟨request, hcheck, rfl, hconfig⟩ := check_of_options h.objects hnodes hoptions
  have hrequest : RenderRequest.ofBody r = .ok request := by
    rw [RenderRequest.ofBody, readBody_of_carries hcarries, if_pos hfits]
    simp only [hcheck]
  rw [answer_of_carries hcarries]
  simp only [Server.respondAt, Server.render, hrequest, hconfig]
  cases renderItems (request.nodes.map .raw) (.ready config) with
  | ok html => rfl
  | error f => cases f <;> rfl

/-- Who may read a response does not change what it says. -/
theorem content_respond (s : Settings) (r : Request) :
    (Server.respond s r).status = (Server.answer s r).status ∧
      (Server.respond s r).body = (Server.answer s r).body := by
  have horigin : ∀ response : Response,
      (response.withOrigin s.corsOrigins r).status = response.status ∧
        (response.withOrigin s.corsOrigins r).body = response.body := by
    intro response
    unfold Response.withOrigin
    split <;> exact ⟨rfl, rfl⟩
  simp only [Server.respond]
  split
  · exact ⟨rfl, rfl⟩
  · exact horigin _

theorem status_of_asks {s : Settings} {r : Request} {vs : List Json} {config : Config}
    (h : Asks s r vs config) :
    (Server.respond s r).status
      = (answerTo (renderItems (vs.map .raw) (.ready config))).status := by
  rw [(content_respond s r).1, answer_of_asks h]

end MfmRender.Http
