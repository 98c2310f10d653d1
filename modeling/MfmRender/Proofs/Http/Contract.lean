/-
The contract of a call, seen from both sides.

Whoever calls the rendering with options that are accepted is to get markup or a
refusal, and whoever asks for the call by a request is to be told which, with 200
or 422.  A document that cannot be loaded is refused, so the contract is kept for
it.  For one that can be loaded it comes down to its code.

Code that is coloured is escaped and does no harm.  Code that is taken as markup
and rejected breaks the contract, on both sides: the call fails otherwise, and the
request is answered with 500, as if the server were broken.  `render_contract` says
that nothing else does, and `unknownSection_breaks_contract` shows a document that does.

All texts here are made of characters, which the grammar of a body provides for, and
code that is coloured is in a language that is described.
-/
import MfmRender.Proofs.Failures
import MfmRender.Proofs.Http.Answers
import MfmRender.Proofs.Json.Printing

namespace MfmRender

/-- The call gives markup or a refusal, and a request for it is answered accordingly. -/
def ContractKept (vs : List Json) (source : ConfigSource) (config : Config) : Prop :=
  ((∃ markup, renderItems (vs.map .raw) source = .ok markup) ∨
      ∃ e, renderItems (vs.map .raw) source = .error (.refused e)) ∧
    ∀ s r, Http.Asks s r vs config →
      (Http.Server.respond s r).status = 200 ∨ (Http.Server.respond s r).status = 422

/-- The call fails by the rejection of some code, and a request for it by a fault of the server. -/
def ContractBroken (vs : List Json) (source : ConfigSource) (config : Config) : Prop :=
  (∃ r, renderItems (vs.map .raw) source = .error (.rejectedMarkup r)) ∧
    ∀ s r, Http.Asks s r vs config → (Http.Server.respond s r).status = 500

variable {vs : List Json} {source : ConfigSource} {config : Config}

/-- A request is answered as the call ends that it asks for, in whatever way options come to that
call. -/
theorem status_of_call (hsource : source.resolve = .ok (.ok config))
    {ended : Except Failure String} (hends : renderItems (vs.map .raw) source = ended)
    {s : Settings} {r : Http.Request} (h : Http.Asks s r vs config) :
    (Http.Server.respond s r).status = (Http.answerTo ended).status := by
  rw [Http.status_of_asks h, ← renderItems_of_resolve hsource, hends]

/-- Whether the contract is kept depends on the code of the document alone. -/
theorem contract_iff (hsource : source.resolve = .ok (.ok config)) :
    (ContractKept vs source config ↔ ¬ HoldsRejected config vs) ∧
      (ContractBroken vs source config ↔ HoldsRejected config vs) := by
  unfold ContractKept ContractBroken
  rcases @renderItems_outcome _ vs _ hsource with
    ⟨markup, hends, hnot⟩ | ⟨e, hends, hnot⟩ | ⟨r, hends, hholds⟩
  · have hkept : ∀ s r, Http.Asks s r vs config → (Http.Server.respond s r).status = 200 :=
      fun s r hasks => status_of_call hsource hends hasks
    exact ⟨⟨fun _ => hnot, fun _ => ⟨Or.inl ⟨markup, hends⟩, fun s r h => Or.inl (hkept s r h)⟩⟩,
      by simp [hends, hnot]⟩
  · have hkept : ∀ s r, Http.Asks s r vs config → (Http.Server.respond s r).status = 422 :=
      fun s r hasks => status_of_call hsource hends hasks
    exact ⟨⟨fun _ => hnot, fun _ => ⟨Or.inr ⟨e, hends⟩, fun s r h => Or.inr (hkept s r h)⟩⟩,
      by simp [hends, hnot]⟩
  · have hbroken : ∀ s r, Http.Asks s r vs config → (Http.Server.respond s r).status = 500 :=
      fun s r hasks => status_of_call hsource hends hasks
    exact ⟨by simp [hends, hholds], ⟨fun _ => hholds, fun _ => ⟨⟨r, hends⟩, hbroken⟩⟩⟩

/-- **The contract is kept where code is coloured, in languages that are described.  Where code is
taken as markup it is kept exactly if none of it is rejected, and broken otherwise.** -/
theorem render_contract (known : String → Prop) (hsource : source.resolve = .ok (.ok config)) :
    (config.highlightCode = true →
      (∀ ns, loadNodes vs = .ok ns → Node.LanguagesDescribed known ns) →
      ContractKept vs source config) ∧
    (config.highlightCode = false →
      (ContractKept vs source config ↔ ¬ HoldsRejected config vs) ∧
      (ContractBroken vs source config ↔ HoldsRejected config vs)) := by
  obtain ⟨hkept, hbroken⟩ := @contract_iff vs source config hsource
  constructor
  · intro hcolour _
    rw [hkept]
    rintro ⟨hplain, -⟩
    cases hcolour.symm.trans hplain
  · intro _
    exact ⟨hkept, hbroken⟩

/-! ### Code that is no markup -/

/-- A request to render code that holds a marked section with an unknown keyword. -/
def unknownSectionRequest (options : Json.Members) : Http.Request :=
  .toRender (Json.print (.object
    [("nodes", .array [codeValue "<![bad["]), ("config", .object options)]))

/-- Code that is no markup does no harm to a request that wants it coloured. -/
theorem render_contract_coloured :
    (ConfigSource.ready { highlightCode := true }).resolve
        = .ok (.ok { highlightCode := true }) ∧
      (Http.Server.respond {}
        (unknownSectionRequest [("highlightCode", .bool true)])).status ∈ [200, 422] := by
  have hasks : Http.Asks {} (unknownSectionRequest [("highlightCode", .bool true)])
      [codeValue "<![bad["] { highlightCode := true } :=
    ⟨by simp [codeValue], _, Http.carries_toRender (Json.written_print rfl), rfl, rfl,
      .own rfl rfl⟩
  obtain ⟨hcoloured, -⟩ := @render_contract [codeValue "<![bad["]
    (.ready { highlightCode := true }) { highlightCode := true }
    (· ∈ Highlight.Language.names) rfl
  obtain ⟨-, hstatus⟩ := hcoloured rfl fun _ _ _ _ _ h => h
  exact ⟨rfl, by simpa using hstatus _ _ hasks⟩

/-- Taken as markup it makes the call fail without a refusal, and the request is answered as if
the server were broken. -/
theorem unknownSection_breaks_contract :
    renderItems [.raw (codeValue "<![bad[")] (.ready {})
        = .error (.rejectedMarkup (.unknownSection "bad")) ∧
      Http.Asks {} (unknownSectionRequest []) [codeValue "<![bad["] {} ∧
      (Http.Server.respond {} (unknownSectionRequest [])).status = 500 := by
  have hcall : renderItems [.raw (codeValue "<![bad[")] (.ready {})
      = .error (.rejectedMarkup (.unknownSection "bad")) :=
    renderItems_codeValue parse_unknownSection rfl rfl
  have hasks : Http.Asks {} (unknownSectionRequest []) [codeValue "<![bad["] {} :=
    ⟨by simp [codeValue], _, Http.carries_toRender (Json.written_print rfl), rfl, rfl,
      .own rfl rfl⟩
  refine ⟨hcall, hasks, ?_⟩
  rw [Http.status_of_asks hasks]
  exact congrArg (fun ended => (Http.answerTo ended).status) hcall

end MfmRender
