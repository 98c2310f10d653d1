/-
One rendering, three entrances.

A document can be rendered by a call, by a command and by a request.  Each of
them comes to its nodes and its options in its own way: the call is given both,
the command reads a text and goes through its arguments, the request has a body
that holds both.  With the same nodes and the same options all three end alike,
and each says how it ended in its own words.

The nodes may be any objects; that they are refused is one of the ends.  The
texts may be any that the grammar allows for these nodes.
-/
import MfmRender.Proofs.CommandLine.Arguments
import MfmRender.Proofs.Failures
import MfmRender.Proofs.Http.Answers
import MfmRender.Proofs.Json.Printing

namespace MfmRender

namespace CommandLine

/-- A command line that asks for these nodes with a choice of options. -/
structure Asks (args : List String) (around : Surroundings) (c : Choice) (vs : List Json) :
    Prop where
  reads : ∃ input text, NamesInput input ∧ args.Perm (input :: c.arguments) ∧
    readInput around input = .ok (.ok text) ∧ Json.Written text (.array vs)

/-- How a command ends, told from how its rendering ends. -/
def ending : Except Failure String → Except Crash Outcome
  | .ok html => .ok { exit := 0, stdout := html ++ "\n" }
  | .error (.refused e) => .ok (.fail e.message)
  | .error f => .error (.failure f)

/-- A command succeeds and prints markup exactly if its rendering gives it. -/
theorem ending_markup_iff {result : Except Failure String} {html : String} :
    result = .ok html ↔ ∃ o, ending result = .ok o ∧ o.exit = 0 ∧ o.stdout = html ++ "\n" := by
  rcases result with f | html'
  · cases f <;> simp [ending, Outcome.fail]
  · simp [ending, eq_comm]

/-- A command fails with a message exactly if its rendering is refused with it. -/
theorem ending_refused_iff {result : Except Failure String} {message : String} :
    (∃ e, result = .error (.refused e) ∧ e.message = message) ↔
      ending result = .ok { exit := 1, stderr := "Error: " ++ message ++ "\n" } := by
  rcases result with f | html'
  · cases f <;> simp [ending, Outcome.fail]
  · simp [ending]

/-- **A command ends as the call does that it makes.** -/
theorem run_of_asks {args : List String} {around : Surroundings} {c : Choice} {vs : List Json}
    {config : Config} (h : Asks args around c vs)
    (haccepted : Config.ofMembers c.members = .ok config) (hurl : c.url ≠ some "--")
    (hfits : Json.fits Json.maxDepth (.array vs)) :
    run args around = ending (renderItems (vs.map .raw) (.ready config)) := by
  obtain ⟨input, text, hinput, hargs, hread, htext⟩ := h.reads
  have hconfig : (c.options input).config = .ok config := by
    rw [Choice.config_options hurl (Choice.rootTag_ne_of_accepted haccepted), haccepted]
  rw [run, Choice.ofArguments_of_perm hinput hargs]
  simp only [hread, renderText, Json.read_written htext hfits, renderDocument, hconfig]
  have hsilent : announcement (c.options input).verbose (vs.map .raw) = "" := rfl
  rw [hsilent]
  cases renderItems (vs.map .raw) (.ready config) with
  | ok html => rfl
  | error f => cases f <;> simp [ending, Outcome.fail]

end CommandLine

namespace Http

/-- A request that brings these nodes with these options, and nothing else. -/
structure Brings (r : Request) (vs : List Json) (os : Json.Members) : Prop where
  carries : ∃ ms : Json.Members, Carries r (.object ms) ∧
    ms.Perm [("nodes", .array vs), ("config", .object os)]

/-- A request is answered with markup exactly if its rendering gives it. -/
theorem answerTo_markup_iff {result : Except Failure String} {html : String} :
    result = .ok html ↔ (answerTo result).status = 200 ∧
      (answerTo result).body = some (.object [("html", .string html)]) := by
  rcases result with f | html'
  · cases f <;> simp [answerTo, Response.ofDetail]
  · simp [answerTo]

/-- A request is answered with a message exactly if its rendering is refused with it. -/
theorem answerTo_refused_iff {result : Except Failure String} {message : String} :
    (∃ e, result = .error (.refused e) ∧ e.message = message) ↔ (answerTo result).status = 422 ∧
      (answerTo result).body = some (.object [("detail", .string message)]) := by
  rcases result with f | html'
  · cases f <;> simp [answerTo, Response.ofDetail]
  · simp [answerTo]

theorem asks_of_brings {s : Settings} {r : Request} {vs : List Json} {os : Json.Members}
    {config : Config} (h : Brings r vs os) (hobjects : ∀ v ∈ vs, ∃ os, v = .object os)
    (haccepted : Config.ofMembers os = .ok config)
    (hfits : Json.fits (Json.maxDepth - 1) (.array vs))
    (hfits' : Json.fits (Json.maxDepth - 1) (.object os)) : Asks s r vs config := by
  obtain ⟨ms, hcarries, hms⟩ := h.carries
  have hget := Json.Members.get?_of_perm hms (by simp)
  have hbody : Json.fits Json.maxDepth (.object ms) := by
    have hmembers : Json.membersFit (Json.maxDepth - 1)
        [("nodes", .array vs), ("config", .object os)] = true := by
      simp [Json.membersFit, hfits, hfits']
    rw [Json.fits_of_perm hms]
    exact hmembers
  exact ⟨hobjects, ms, hcarries, hbody, hget "nodes", .own (hget "config") haccepted⟩

end Http

open CommandLine Http

/-- **With the same nodes and options a call, a command and a request end alike.**  If the call
gives markup, the command prints it and the request is answered with it; if the call is refused,
both say so in its words. -/
theorem entrances_agree {vs : List Json} {config : Config} {source : ConfigSource} {c : Choice}
    {args : List String} {around : Surroundings} {os : Json.Members} {r : Request} (s : Settings)
    (hobjects : ∀ v ∈ vs, ∃ os, v = .object os)
    (hfits : Json.fits (Json.maxDepth - 1) (.array vs))
    (hsource : source.resolve = .ok (.ok config))
    (hchoice : Config.ofMembers c.members = .ok config) (hurl : c.url ≠ some "--")
    (hcommand : CommandLine.Asks args around c vs)
    (hos : Config.ofMembers os = .ok config) (hfits' : Json.fits (Json.maxDepth - 1) (.object os))
    (hrequest : Brings r vs os) :
    (∀ html,
      (renderItems (vs.map .raw) source = .ok html ↔
        ∃ o, run args around = .ok o ∧ o.exit = 0 ∧ o.stdout = html ++ "\n") ∧
      (renderItems (vs.map .raw) source = .ok html ↔
        (Server.respond s r).status = 200 ∧
          (Server.respond s r).body = some (.object [("html", .string html)]))) ∧
    ∀ message,
      ((∃ e, renderItems (vs.map .raw) source = .error (.refused e) ∧ e.message = message) ↔
        run args around = .ok { exit := 1, stderr := "Error: " ++ message ++ "\n" }) ∧
      ((∃ e, renderItems (vs.map .raw) source = .error (.refused e) ∧ e.message = message) ↔
        (Server.respond s r).status = 422 ∧
          (Server.respond s r).body = some (.object [("detail", .string message)])) := by
  have hrun := run_of_asks hcommand hchoice hurl (Json.fits_succ _ _ hfits)
  have hasks : Http.Asks s r vs config := asks_of_brings hrequest hobjects hos hfits hfits'
  obtain ⟨hstatus, hbody⟩ := content_respond s r
  rw [answer_of_asks hasks] at hstatus hbody
  rw [renderItems_of_resolve hsource, hrun, hstatus, hbody]
  exact ⟨fun html => ⟨ending_markup_iff, answerTo_markup_iff⟩,
    fun message => ⟨ending_refused_iff, answerTo_refused_iff⟩⟩

/-- A node to render. -/
def boldNode : Json :=
  .object [("type", .string "bold")]

/-- A command whose standard input is a text. -/
def CommandLine.Surroundings.ofInput (text : String) : Surroundings :=
  { directory := "/", standardInput := text, home? := fun _ => none, entry := fun _ => .missing }

/-- No options can keep it from being rendered. -/
theorem renderItems_boldNode (config : Config) :
    ∃ html, renderItems [.raw boldNode] (.ready config) = .ok html := by
  have hload : loadNodes [boldNode] = .ok [.branch (.styled .bold) []] := rfl
  have haccepted : Node.Accepted config [.branch (.styled .bold) []] := by
    rw [Node.accepted_iff]
    rfl
  exact ⟨_, (@renderItems_eq_ok_iff [boldNode] _ (.ready config) _ _ hload rfl).mpr
    ⟨haccepted, rfl⟩⟩

/-- A request to render it, with an address and animations. -/
def boldRequest : Request :=
  .toRender (Json.print (.object [("nodes", .array [boldNode]),
    ("config", .object [("url", .string "misskey.io/"), ("animate", .int 1)])]))

/-- One node, and the operand between the options. -/
theorem entrances_agree_bold :
    ∃ html,
      renderItems [.raw boldNode] (.ready { url := some "misskey.io", animate := true })
        = .ok html ∧
      (∃ o, run ["--animate", "-", "--url=https://misskey.io"]
        (.ofInput (Json.print (.array [boldNode]))) = .ok o ∧
          o.exit = 0 ∧ o.stdout = html ++ "\n") ∧
      ((Server.respond {} boldRequest).status = 200 ∧
        (Server.respond {} boldRequest).body = some (.object [("html", .string html)])) := by
  obtain ⟨html, hrender⟩ := renderItems_boldNode { url := some "misskey.io", animate := true }
  have hcommand : CommandLine.Asks ["--animate", "-", "--url=https://misskey.io"]
      (.ofInput (Json.print (.array [boldNode])))
      { url := some "https://misskey.io", animate := true } [boldNode] := by
    have harguments : Choice.arguments { url := some "https://misskey.io", animate := true }
        = ["--url=https://misskey.io", "--animate"] := by decide
    refine ⟨"-", _, Or.inl rfl, ?_, rfl, Json.written_print rfl⟩
    rw [harguments]
    decide
  have hrequest : Brings boldRequest [boldNode]
      [("url", .string "misskey.io/"), ("animate", .int 1)] :=
    ⟨_, carries_toRender (Json.written_print rfl), .refl _⟩
  obtain ⟨hmarkup, -⟩ := @entrances_agree [boldNode] _
    (.ready { url := some "misskey.io", animate := true }) _ _ _ _ _ {} (by simp [boldNode]) rfl rfl
    rfl (by decide) hcommand rfl rfl hrequest
  obtain ⟨hprinted, hanswered⟩ := hmarkup html
  exact ⟨html, hrender, hprinted.mp hrender, hanswered.mp hrender⟩

/-- Two hyphens are an address to a call and none to a command. -/
theorem separator_is_no_address :
    Config.ofMembers (Choice.members { url := some "--" }) = .ok { url := some "--" } ∧
      CommandLine.Asks ["-", "--url=--"] (.ofInput (Json.print (.array [boldNode])))
        { url := some "--" } [boldNode] ∧
      (∃ html, renderItems [.raw boldNode] (.ready { url := some "--" }) = .ok html) ∧
      run ["-", "--url=--"] (.ofInput (Json.print (.array [boldNode])))
        = .ok (.fail "invalid options: Input should be a valid string") := by
  have harguments : Choice.arguments { url := some "--" } = ["--url=--"] := by decide
  have hcommand : CommandLine.Asks ["-", "--url=--"] (.ofInput (Json.print (.array [boldNode])))
      { url := some "--" } [boldNode] := by
    refine ⟨"-", _, Or.inl rfl, ?_, rfl, Json.written_print rfl⟩
    rw [harguments]
  have hoptions : Options.ofArguments ["-", "--url=--"]
      = .ok (Choice.options { url := some "--" } "-", "-") :=
    Choice.ofArguments_of_perm (Or.inl rfl) (by rw [harguments])
  refine ⟨rfl, hcommand, renderItems_boldNode _, ?_⟩
  have hread : Json.read (Json.print (.array [boldNode])) = .ok (.array [boldNode]) :=
    Json.read_print rfl rfl
  rw [run, hoptions]
  simp only [readInput, if_true, Surroundings.ofInput, renderText, hread]
  rfl

end MfmRender
