/-
The configured host.

The host is cut out of the text that is configured: blanks at both ends go, then a
web scheme at the front, then the slashes at the end, each of them once and in this
order.  Every text comes apart in this way (`exists_hostParts`).  What is left is
not always a bare host, though.  Cutting off the scheme can bring a blank or a
second scheme to the front, and cutting off the slashes can bring a blank to the
end; neither is looked for again.  `HostParts.isBareHost_iff` says that there is no
other way to miss, and `bareHost_eq_self_iff` that a bare host is what the cutting
leaves alone.
-/
import MfmRender.Proofs.Link.Scheme
import MfmRender.Proofs.Settings
import MfmRender.Proofs.Text.Trim

namespace MfmRender

open Text

namespace Link

/-- A web scheme with the slashes behind it. -/
def IsStart (cs : List Char) : Prop :=
  ∃ scheme, IsScheme scheme ∧ cs = scheme ++ ['/', '/']

/-- A web scheme with its slashes stands in front. -/
def HasStart (cs : List Char) : Prop :=
  ∃ start rest, IsStart start ∧ cs = start ++ rest

theorem IsStart.ne_nil {cs : List Char} (h : IsStart cs) : cs ≠ [] := by
  obtain ⟨scheme, -, rfl⟩ := h
  simp

theorem HasStart.append {cs : List Char} (h : HasStart cs) (more : List Char) :
    HasStart (cs ++ more) := by
  obtain ⟨start, rest, hstart, rfl⟩ := h
  exact ⟨start, rest ++ more, hstart, List.append_assoc ..⟩

theorem hasStart_iff {cs : List Char} :
    HasStart cs ↔ ∃ rest, dropScheme? cs = some ('/' :: '/' :: rest) := by
  simp only [dropScheme?_eq_some_iff]
  constructor
  · rintro ⟨-, rest, ⟨scheme, hscheme, rfl⟩, rfl⟩
    exact ⟨rest, scheme, hscheme, by simp⟩
  · rintro ⟨rest, scheme, hscheme, rfl⟩
    exact ⟨scheme ++ ['/', '/'], rest, ⟨scheme, hscheme, rfl⟩, by simp⟩

end Link

open Link

/-- What a text has behind the scheme in front of it, the whole text if there is none. -/
def behindStart (cs : List Char) : List Char :=
  match dropScheme? cs with
  | some ('/' :: '/' :: rest) => rest
  | _ => cs

theorem behindStart_eq_self_of_not_hasStart {cs : List Char} (h : ¬ HasStart cs) :
    behindStart cs = cs := by
  unfold behindStart
  split
  · rename_i rest hrest
    exact absurd (hasStart_iff.mpr ⟨rest, hrest⟩) h
  · rfl

/-- A scheme is taken off the front, if one is there. -/
theorem exists_behindStart (cs : List Char) :
    ∃ start, cs = start ++ behindStart cs ∧
      (start = [] ∧ ¬ HasStart (behindStart cs) ∨ IsStart start) := by
  by_cases h : HasStart cs
  · obtain ⟨rest, hrest⟩ := hasStart_iff.mp h
    obtain ⟨scheme, hscheme, hcs⟩ := dropScheme?_eq_some_iff.mp hrest
    have hbehind : behindStart cs = rest := by
      rw [behindStart, hrest]
      rfl
    refine ⟨scheme ++ ['/', '/'], ?_, Or.inr ⟨scheme, hscheme, rfl⟩⟩
    rw [hbehind, hcs, List.append_assoc]
    rfl
  · have hself := behindStart_eq_self_of_not_hasStart h
    exact ⟨[], by rw [hself]; rfl, Or.inl ⟨rfl, by rwa [hself]⟩⟩

/-! ### A text comes apart around its host -/

/-- A text taken apart: blanks, the scheme if there is one, the host, slashes, blanks. -/
structure HostParts (text : List Char) where
  before : List Char
  start : List Char
  host : List Char
  slashes : List Char
  after : List Char
  text_eq : text = before ++ (start ++ (host ++ slashes)) ++ after
  blank_before : ∀ c ∈ before, isBlank c = true
  blank_after : ∀ c ∈ after, isBlank c = true
  first : NotFirst isBlank (start ++ (host ++ slashes))
  last : NotLast isBlank (start ++ (host ++ slashes))
  /-- A scheme that the text has is not left to the host. -/
  isStart : start = [] ∧ ¬ HasStart (host ++ slashes) ∨ IsStart start
  slashes_only : ∀ c ∈ slashes, (c == '/') = true
  host_last : NotLast (· == '/') host

namespace HostParts

variable {text : List Char}

/-- The host, if it is not empty. -/
def host? (parts : HostParts text) : Option String :=
  if parts.host = [] then none else some (String.ofList parts.host)

/-- Nothing that was taken off uncovered a blank or a scheme. -/
structure Settled (parts : HostParts text) : Prop where
  behind : parts.start ≠ [] → NotFirst isBlank parts.host ∧ ¬ HasStart parts.host
  before : parts.slashes ≠ [] → NotLast isBlank parts.host

end HostParts

theorem bareHost_eq (url : String) :
    Config.bareHost url
      = match dropWhileEnd (· == '/') (behindStart (trim url.toList)) with
        | [] => none
        | host => some (String.ofList host) := rfl

/-- **The configured host is what is left of the text when its other parts are taken off.** -/
theorem exists_hostParts (url : String) :
    ∃ parts : HostParts url.toList, Config.bareHost url = parts.host? := by
  obtain ⟨hfirst, hlast, before, after, hbefore, hafter, htext⟩ := exists_trim url.toList
  obtain ⟨start, hcore, hstart⟩ := exists_behindStart (trim url.toList)
  obtain ⟨hhost, slashes, hslashes, hrest⟩ :=
    exists_dropWhileEnd (· == '/') (behindStart (trim url.toList))
  rw [bareHost_eq]
  generalize dropWhileEnd (· == '/') (behindStart (trim url.toList)) = host at hhost hrest
  rw [hrest] at hcore hstart
  rw [hcore] at hfirst hlast htext
  refine ⟨⟨before, start, host, slashes, after, htext, hbefore, hafter, hfirst, hlast, hstart,
    hslashes, hhost⟩, ?_⟩
  cases host <;> rfl

/-! ### Bare hosts -/

/-- A host with nothing around it. -/
structure IsBareHost (host : List Char) : Prop where
  ne_nil : host ≠ []
  first : NotFirst isBlank host
  last : NotLast isBlank host
  no_start : ¬ HasStart host
  no_slash : NotLast (· == '/') host

/-- A bare host is left alone. -/
theorem bareHost_of_isBareHost {host : String} (h : IsBareHost host.toList) :
    Config.bareHost host = some host := by
  have htrim : trim host.toList = host.toList := by
    rw [trim, dropWhile_eq_self_of_notFirst h.first, dropWhileEnd_eq_self_of_notLast h.last]
  rw [bareHost_eq, htrim, behindStart_eq_self_of_not_hasStart h.no_start,
    dropWhileEnd_eq_self_of_notLast h.no_slash]
  cases hcs : host.toList with
  | nil => exact absurd hcs h.ne_nil
  | cons c cs => exact congrArg some (by rw [← hcs, String.ofList_toList])

namespace HostParts

variable {text : List Char}

/-- **What is left is a bare host if and only if nothing that was taken off uncovered anything.** -/
theorem isBareHost_iff (parts : HostParts text) (hne : parts.host ≠ []) :
    IsBareHost parts.host ↔ parts.Settled := by
  constructor
  · intro h
    exact ⟨fun _ => ⟨h.first, h.no_start⟩, fun _ => h.last⟩
  · intro h
    have hfront : NotFirst isBlank parts.host ∧ ¬ HasStart parts.host := by
      rcases parts.isStart with ⟨hnil, hnone⟩ | hstart
      · have hfirst := parts.first
        rw [hnil, List.nil_append] at hfirst
        exact ⟨hfirst.of_append, fun hhas => hnone (hhas.append _)⟩
      · exact h.behind hstart.ne_nil
    have hback : NotLast isBlank parts.host := by
      by_cases hnil : parts.slashes = []
      · have hlast := parts.last
        rw [hnil, List.append_nil] at hlast
        exact hlast.of_append
      · exact h.before hnil
    exact ⟨hne, hfront.1, hback, hfront.2, parts.host_last⟩

/-- A text that is all host has nothing to take off. -/
theorem settled_of_host_eq (parts : HostParts text) (h : parts.host = text) : parts.Settled := by
  have hlength := congrArg List.length parts.text_eq
  simp only [List.length_append, h] at hlength
  have hstart : parts.start = [] := List.eq_nil_of_length_eq_zero (by omega)
  have hslashes : parts.slashes = [] := List.eq_nil_of_length_eq_zero (by omega)
  exact ⟨fun hne => absurd hstart hne, fun hne => absurd hslashes hne⟩

end HostParts

/-- **The bare hosts are the texts that stay as they are.** -/
theorem bareHost_eq_self_iff {host : String} :
    Config.bareHost host = some host ↔ IsBareHost host.toList := by
  constructor
  · intro h
    obtain ⟨parts, hparts⟩ := exists_hostParts host
    rw [h, HostParts.host?] at hparts
    split at hparts
    · cases hparts
    · rename_i hne
      have hhost : parts.host = host.toList := by
        rw [← String.toList_ofList (l := parts.host), ← Option.some.inj hparts]
      have hbare := (parts.isBareHost_iff hne).mpr (parts.settled_of_host_eq hhost)
      rwa [hhost] at hbare
  · exact bareHost_of_isBareHost

/-! ### The host of a configuration -/

/-- A configuration whose host is asked for by a text: among the options, or in the settings of a
server. -/
inductive Config.TakesHost (config : Config) (text : String) : Prop
  | options {ms : Json.Members} (made : Config.ofMembers ms = .ok config)
    (given : ms.get? "url" = some (.string text))
  | settings {environment : Variables} {file : Option String} {s : Settings}
    (loaded : Settings.load environment file = .ok s)
    (given : Settings.textOf environment file "instance_url" = some text)
    (made : s.renderConfig = .ok config)

/-- Either way the host is cut out of the text once. -/
theorem Config.TakesHost.url_eq {config : Config} {text : String} (h : config.TakesHost text) :
    config.url = Config.bareHost text := by
  cases h with
  | options made given =>
      obtain ⟨hurl, -⟩ := Config.ofMembers_eq_ok_iff.mp made
      rw [Json.Members.allow_eq_ok_iff, given] at hurl
      have hbare : Config.loadUrl (.string text) = .ok config.url := by simpa using hurl
      exact (Except.ok.inj hbare).symm
  | @settings environment file s loaded given made =>
      obtain ⟨ms, hms, hget⟩ := Settings.load_eq_ok loaded
      obtain ⟨hurl, -⟩ := Settings.ofMembers_eq_ok hms
      rw [Json.Members.allow_eq_ok_iff, hget "instance_url" (by decide), given] at hurl
      have htext : Json.checkOption Json.checkString (.string text) = .ok s.instanceUrl := by
        simpa using hurl
      have htext : some text = s.instanceUrl := Except.ok.inj htext
      obtain ⟨name, -, rfl⟩ := Checked.map_eq_ok_iff.mp made
      rw [← htext]
      rfl

/-- **The configured host is a bare host, or there is none, if and only if taking off a scheme has
not uncovered a blank or a second scheme, and taking off slashes no blank.**  In any case it is not
empty and does not end in a slash, and it is bare exactly if checking it again would leave it
alone. -/
theorem configured_host {config : Config} {text : String} (h : config.TakesHost text) :
    config.url = Config.bareHost text ∧
      (∀ host, config.url = some host →
        host ≠ "" ∧ NotLast (· == '/') host.toList ∧
          (Config.bareHost host = some host ↔ IsBareHost host.toList)) ∧
      ∃ parts : HostParts text.toList, config.url = parts.host? ∧
        ((∀ host, config.url = some host → Config.bareHost host = some host) ↔
          parts.host = [] ∨ parts.Settled) := by
  obtain ⟨parts, hparts⟩ := exists_hostParts text
  have hurl : config.url = parts.host? := h.url_eq.trans hparts
  have hhost : ∀ host, config.url = some host → host.toList = parts.host ∧ parts.host ≠ [] := by
    intro host hsome
    rw [hurl, HostParts.host?] at hsome
    split at hsome
    · cases hsome
    · rename_i hne
      exact ⟨by rw [← Option.some.inj hsome, String.toList_ofList], hne⟩
  refine ⟨h.url_eq, ?_, parts, hurl, ?_⟩
  · intro host hsome
    obtain ⟨hcs, hne⟩ := hhost host hsome
    rw [← hcs, Ne, String.toList_eq_nil_iff] at hne
    refine ⟨hne, ?_, bareHost_eq_self_iff⟩
    rw [hcs]
    exact parts.host_last
  · constructor
    · intro hstays
      rw [or_iff_not_imp_left]
      intro hne
      have hsome : config.url = some (String.ofList parts.host) := by
        rw [hurl, HostParts.host?, if_neg hne]
      have hbare := bareHost_eq_self_iff.mp (hstays _ hsome)
      rw [String.toList_ofList] at hbare
      exact (parts.isBareHost_iff hne).mp hbare
    · intro hsettled host hsome
      obtain ⟨hcs, hne⟩ := hhost host hsome
      rw [bareHost_eq_self_iff, hcs, parts.isBareHost_iff hne]
      exact hsettled.resolve_left hne

/-- A scheme in capitals, blanks and two slashes are all taken off, and uncover nothing. -/
theorem configured_host_shouted :
    Config.ofMembers [("url", .string " HTTPS://misskey.io// ")]
        = .ok { url := some "misskey.io" } ∧
      ∃ parts : HostParts " HTTPS://misskey.io// ".toList,
        some "misskey.io" = parts.host? ∧ parts.Settled := by
  have hmade : Config.ofMembers [("url", .string " HTTPS://misskey.io// ")]
      = .ok { url := some "misskey.io" } := rfl
  obtain ⟨-, -, parts, hurl, hsettled⟩ := configured_host (.options hmade rfl)
  refine ⟨hmade, parts, hurl, (hsettled.mp ?_).resolve_left ?_⟩
  · intro host hhost
    obtain rfl : "misskey.io" = host := Option.some.inj hhost
    rfl
  · intro hnil
    simp [HostParts.host?, hnil] at hurl

/-- A blank between a scheme and a slash is taken for a host, though by itself it is none. -/
theorem blank_host_configured :
    ∃ config : Config, config.TakesHost "http:// /" ∧ config.url = some " " ∧
      Config.bareHost " " = none ∧ ¬ IsBareHost " ".toList := by
  have hmade : Config.ofMembers [("url", .string "http:// /")] = .ok { url := some " " } := rfl
  refine ⟨_, .options hmade rfl, rfl, rfl, ?_⟩
  intro hbare
  exact absurd (hbare.first ' ' rfl) (by decide)

end MfmRender
