/-
Whose options a request is answered with.

A request that brings options is answered with these alone: the settings of the
server, whatever they are, have no part in status and content of the answer.  A
request that brings none is answered as if it had brought those of the server, as
texts, in the way in which the environment has them.

Both hold for every body that can be written, the ones beyond the limits of the
reader included.
-/
import MfmRender.Proofs.Http.Answers
import MfmRender.Proofs.Json.Printing
import MfmRender.Proofs.Settings

namespace MfmRender

namespace Http

/-- Two responses say the same: what they differ in is who may read them. -/
def Response.Alike (a b : Response) : Prop :=
  a.status = b.status ∧ a.body = b.body

theorem alike_of_answer {s s' : Settings} {r r' : Request}
    (h : Server.answer s r = Server.answer s' r') :
    (Server.respond s r).Alike (Server.respond s' r') := by
  obtain ⟨hstatus, hbody⟩ := content_respond s r
  obtain ⟨hstatus', hbody'⟩ := content_respond s' r'
  exact ⟨by rw [hstatus, hstatus', h], by rw [hbody, hbody', h]⟩

/-! ### Options of the request -/

/-- A body with options of its own asks for these. -/
theorem config_of_check {ms : Json.Members} {request : RenderRequest} {c : Json}
    (h : RenderRequest.check (.object ms) = .ok request) (hgiven : ms.get? "config" = some c)
    (hnull : c ≠ .null) : ∃ config, request.config = some config := by
  rw [RenderRequest.check, Checked.feed_eq_ok_iff] at h
  obtain ⟨make, options, hmake, hoptions, rfl⟩ := h
  obtain ⟨make', nodes, hmk, -, rfl⟩ := Checked.feed_eq_ok_iff.mp hmake
  cases hmk
  rw [Json.Members.allow_eq_ok_iff, hgiven] at hoptions
  obtain ⟨config, -, rfl⟩ :
      ∃ config, RenderRequest.checkConfig c = .ok config ∧ some config = options := by
    cases c <;> simp_all [Json.checkOption, Checked.map_eq_ok_iff]
  exact ⟨config, rfl⟩

/-- What such a request is answered does not depend on the settings. -/
theorem answer_of_own {r : Request} {ms : Json.Members} {c : Json} (h : Carries r (.object ms))
    (hgiven : ms.get? "config" = some c) (hnull : c ≠ .null) (s s' : Settings) :
    Server.answer s r = Server.answer s' r := by
  have hrender : Server.render s r = Server.render s' r := by
    unfold Server.render
    cases hbody : RenderRequest.ofBody r with
    | error f => rfl
    | ok request =>
        have hcheck : RenderRequest.check (.object ms) = .ok request := by
          rw [RenderRequest.ofBody, readBody_of_carries h] at hbody
          split at hbody
          · cases hbody
          · rename_i v hv
            split at hv
            · obtain rfl := Except.ok.inj hv
              split at hbody
              · rename_i request' hrequest
                rw [hrequest, Except.ok.inj hbody]
              · cases hbody
            · cases hv
        obtain ⟨config, hconfig⟩ := config_of_check hcheck hgiven hnull
        simp only [Server.configFor, hconfig]
  rw [answer_of_carries h, answer_of_carries h, Server.respondAt, Server.respondAt, hrender]

/-! ### Options of the server -/

/-- A body that brings nodes and leaves the options out. -/
def LeavesOptions (ms : Json.Members) (vs : List Json) : Prop :=
  ms.Perm [("nodes", .array vs)] ∨ ms.Perm [("nodes", .array vs), ("config", .null)]

/-- A body that brings nodes and the options as texts. -/
def BringsTexts (ms : Json.Members) (vs : List Json) (o : OptionTexts) : Prop :=
  ∃ os : Json.Members, os.Perm o.members ∧
    ms.Perm [("nodes", .array vs), ("config", .object os)]

theorem nodup_members (o : OptionTexts) : (o.members.map Prod.fst).Nodup := by
  simp [OptionTexts.members]

/-- The order of the members does not matter to what the options make. -/
theorem ofMembers_of_perm {os os' : Json.Members} (h : os.Perm os')
    (distinct : (os'.map Prod.fst).Nodup) : Config.ofMembers os = Config.ofMembers os' := by
  have hget := Json.Members.get?_of_perm h distinct
  simp only [Config.ofMembers, Config.allowEither, Json.Members.allow, hget]

/-- Options that are texts take nothing from the limits: both bodies are read or neither is. -/
theorem fits_alike {ms ms' : Json.Members} {vs : List Json} {o : OptionTexts}
    (h : LeavesOptions ms vs) (h' : BringsTexts ms' vs o) {depth : Nat} (hdepth : 2 ≤ depth) :
    Json.fits depth (.object ms) = Json.fits depth (.object ms') := by
  obtain ⟨depth, rfl⟩ := Nat.exists_eq_add_of_le' hdepth
  obtain ⟨os, hos, hms'⟩ := h'
  have hoptions : Json.membersFit depth os = true := by
    rw [Json.membersFit_eq, hos.all_eq]
    rfl
  rcases h with hms | hms <;>
    rw [Json.fits_of_perm hms, Json.fits_of_perm hms'] <;>
    simp [Json.fits, Json.membersFit, hoptions]

theorem options_of_leaves {s : Settings} {ms : Json.Members} {vs : List Json} {config : Config}
    (h : LeavesOptions ms vs) (haccepted : s.renderConfig = .ok config) :
    ms.get? "nodes" = some (.array vs) ∧ Options s ms config := by
  rcases h with hms | hms
  · have hget := Json.Members.get?_of_perm hms (by simp)
    exact ⟨hget "nodes", .standard (Or.inl (hget "config")) haccepted⟩
  · have hget := Json.Members.get?_of_perm hms (by simp)
    exact ⟨hget "nodes", .standard (Or.inr (hget "config")) haccepted⟩

theorem options_of_brings {s : Settings} {ms : Json.Members} {vs : List Json} {o : OptionTexts}
    {config : Config} (h : BringsTexts ms vs o)
    (haccepted : Config.ofMembers o.members = .ok config) :
    ms.get? "nodes" = some (.array vs) ∧ Options s ms config := by
  obtain ⟨os, hos, hms⟩ := h
  have hget := Json.Members.get?_of_perm hms (by simp)
  rw [← ofMembers_of_perm hos (nodup_members o)] at haccepted
  exact ⟨hget "nodes", .own (hget "config") haccepted⟩

/-- Without options a request is answered as with those of the server, given as texts. -/
theorem answer_of_standard {environment : Variables} {file : Option String} {s : Settings}
    {o : OptionTexts} {config : Config} (hload : Settings.load environment file = .ok s)
    (ho : o.InEnvironment environment) (haccepted : Config.ofMembers o.members = .ok config)
    {vs : List Json} {ms ms' : Json.Members} {r r' : Request}
    (hobjects : ∀ v ∈ vs, ∃ os, v = .object os) (h : LeavesOptions ms vs)
    (h' : BringsTexts ms' vs o) (hr : Carries r (.object ms)) (hr' : Carries r' (.object ms')) :
    Server.answer s r = Server.answer s r' := by
  have hfits : Json.fits Json.maxDepth (.object ms) = Json.fits Json.maxDepth (.object ms') :=
    fits_alike h h' (by decide)
  cases hread : Json.fits Json.maxDepth (.object ms) with
  | true =>
      obtain ⟨hnodes, hoptions⟩ :=
        options_of_leaves h (Settings.renderConfig_of_texts hload ho haccepted)
      obtain ⟨hnodes', hoptions'⟩ := @options_of_brings s _ _ _ _ h' haccepted
      have hasks : Asks s r vs config := ⟨hobjects, ms, hr, hread, hnodes, hoptions⟩
      have hasks' : Asks s r' vs config :=
        ⟨hobjects, ms', hr', hfits ▸ hread, hnodes', hoptions'⟩
      rw [answer_of_asks hasks, answer_of_asks hasks']
  | false =>
      have hunread := readBody_of_carries hr
      have hunread' := readBody_of_carries hr'
      rw [hread, if_neg Bool.false_ne_true] at hunread
      rw [← hfits, hread, if_neg Bool.false_ne_true] at hunread'
      rw [answer_of_unreadable hr hunread, answer_of_unreadable hr' hunread']

end Http

open Http

/-- **A request that brings options is answered alike under all settings.  One that brings none is
answered as if it brought, as texts, the options that the environment has for the server.** -/
theorem config_overrides_settings :
    (∀ (r : Request) (ms : Json.Members) (c : Json), Carries r (.object ms) →
      ms.get? "config" = some c → c ≠ .null →
      ∀ s s' : Settings, (Server.respond s r).Alike (Server.respond s' r)) ∧
    ∀ (environment : Variables) (file : Option String) (s : Settings) (o : OptionTexts)
      (config : Config), Settings.load environment file = .ok s → o.InEnvironment environment →
      Config.ofMembers o.members = .ok config →
      ∀ (vs : List Json) (ms ms' : Json.Members) (r r' : Request),
        (∀ v ∈ vs, ∃ os, v = .object os) → LeavesOptions ms vs → BringsTexts ms' vs o →
        Carries r (.object ms) → Carries r' (.object ms') →
        (Server.respond s r).Alike (Server.respond s r') := by
  constructor
  · intro r ms c hr hgiven hnull s s'
    exact alike_of_answer (answer_of_own hr hgiven hnull s s')
  · intro environment file s o config hload ho haccepted vs ms ms' r r' hobjects h h' hr hr'
    exact alike_of_answer (answer_of_standard hload ho haccepted hobjects h h' hr hr')

/-- Options that are accepted in more than one spelling. -/
def spelledOptions : OptionTexts :=
  { url := " https://misskey.io/", animate := "Yes", codeTagAsDiv := "0", rootTagName := "div ",
    highlightCode := "off" }

/-- An environment that has these options for the server. -/
def spelledEnvironment : Variables :=
  [("MFM_INSTANCE_URL", some " https://misskey.io/"), ("MFM_ANIMATE", some "Yes"),
    ("mfm_code_tag_as_div", some "0"), ("Mfm_Root_Tag_Name", some "div "),
    ("MFM_HIGHLIGHT_CODE", some "off")]

/-- A node for them to render. -/
def spelledNode : Json :=
  .object [("type", .string "big")]

/-- A request with these options of its own. -/
def spelledRequest : Request :=
  .toRender (Json.print (.object
    [("nodes", .array [spelledNode]), ("config", .object spelledOptions.members)]))

/-- The same request without options. -/
def plainRequest : Request :=
  .toRender (Json.print (.object [("nodes", .array [spelledNode])]))

/-- Spelled in this way they make one configuration in both places. -/
theorem config_overrides_settings_spelled :
    ∃ s : Settings, Settings.load spelledEnvironment none = .ok s ∧
      spelledOptions.InEnvironment spelledEnvironment ∧
      Config.ofMembers spelledOptions.members
        = .ok { url := some "misskey.io", animate := true, rootTagName := "div" } ∧
      (Server.respond s plainRequest).Alike (Server.respond s spelledRequest) ∧
      (Server.respond s spelledRequest).Alike (Server.respond {} spelledRequest) := by
  have hok : ∀ {ε α : Type} {found : Except ε α} {a : α},
      found.toOption = some a → found = .ok a := by
    intro ε α found a h
    cases found with
    | error e => cases h
    | ok b => exact congrArg Except.ok (Option.some.inj h)
  have hnull : spelledEnvironment.holdsNull = false := by
    simp only [Variables.holdsNull, String.contains_char_eq]
    decide +kernel
  have hload : Settings.load spelledEnvironment none = .ok
      { instanceUrl := some " https://misskey.io/", animate := true, rootTagName := "div " } := by
    rw [Settings.load, hnull, if_neg Bool.false_ne_true]
    exact hok (by decide +kernel)
  have ho : spelledOptions.InEnvironment spelledEnvironment := by
    constructor <;> decide +kernel
  have haccepted : Config.ofMembers spelledOptions.members
      = .ok { url := some "misskey.io", animate := true, rootTagName := "div" } :=
    hok (by decide +kernel)
  have hspelled : Carries spelledRequest
      (.object [("nodes", .array [spelledNode]), ("config", .object spelledOptions.members)]) :=
    carries_toRender (Json.written_print rfl)
  have hplain : Carries plainRequest (.object [("nodes", .array [spelledNode])]) :=
    carries_toRender (Json.written_print rfl)
  obtain ⟨hown, hstandard⟩ := config_overrides_settings
  refine ⟨_, hload, ho, haccepted, ?_, ?_⟩
  · exact hstandard _ _ _ _ _ hload ho haccepted [spelledNode] _ _ _ _ (by simp [spelledNode])
      (Or.inl (.refl _)) ⟨_, .refl _, .refl _⟩ hplain hspelled
  · exact hown _ _ _ hspelled rfl (by simp) _ _

end MfmRender
