/-
Options that come from the environment.

The settings take the five options of a rendering from variables, as the texts
they are, and only some of them are checked then; the configuration is made from
them when a request needs it.  Options in an object are checked all at once.
Both ways lead to the same configuration (`renderConfig_of_texts`): what the
settings have checked stays as it is, and what they let through unchecked is
checked and brought into normal form once, in the end.
-/
import MfmRender.Proofs.Checks
import MfmRender.Settings

namespace MfmRender

/-- The five options of a rendering, each as a text. -/
structure OptionTexts where
  url : String
  animate : String
  codeTagAsDiv : String
  rootTagName : String
  highlightCode : String

namespace OptionTexts

/-- The options as the members of an object. -/
def members (o : OptionTexts) : Json.Members :=
  [("url", .string o.url), ("animate", .string o.animate), ("codeTagAsDiv", .string o.codeTagAsDiv),
    ("rootTagName", .string o.rootTagName), ("highlightCode", .string o.highlightCode)]

/-- The options as the texts of variables. -/
structure InEnvironment (o : OptionTexts) (environment : Variables) : Prop where
  url : environment.find? (Settings.variableStart ++ "instance_url") = some o.url
  animate : environment.find? (Settings.variableStart ++ "animate") = some o.animate
  codeTagAsDiv :
    environment.find? (Settings.variableStart ++ "code_tag_as_div") = some o.codeTagAsDiv
  rootTagName : environment.find? (Settings.variableStart ++ "root_tag_name") = some o.rootTagName
  highlightCode :
    environment.find? (Settings.variableStart ++ "highlight_code") = some o.highlightCode

end OptionTexts

namespace Settings

/-- A list of some names with their values finds the values again. -/
theorem lookup_filterMap {α : Type} (value : String → Option α) (names : List String)
    (name : String) :
    (names.filterMap fun n => (value n).map fun a => (n, a)).lookup name
      = if name ∈ names then value name else none := by
  induction names with
  | nil => rfl
  | cons n rest ih =>
      by_cases hn : name = n
      · subst hn
        cases hvalue : value name with
        | none => simp [hvalue, ih]
        | some a => simp [hvalue]
      · have hne : (name == n) = false := beq_false_of_ne hn
        cases hvalue : value n with
        | none => simp [hvalue, ih, hn]
        | some a => simp [hvalue, ih, hn, hne, List.lookup_cons]

/-- The text of a variable is the value of its setting, and a setting without one has no value. -/
theorem get?_valuesFrom {source : SettingsSource} {vars : Variables} {ms : Json.Members}
    (h : valuesFrom source vars = .ok ms) {name : String} (hname : name ∈ textNames) :
    ms.get? name = (vars.find? (variableStart ++ name)).map Json.string := by
  have htexts : Json.Members.get? (textNames.filterMap fun name =>
      (vars.find? (variableStart ++ name)).map fun text => (name, Json.string text)) name
      = (vars.find? (variableStart ++ name)).map Json.string := by
    have hlookup := lookup_filterMap
      (fun n => (vars.find? (variableStart ++ n)).map Json.string) textNames name
    rw [if_pos hname] at hlookup
    simpa [Json.Members.get?, Function.comp_def] using hlookup
  have horigins : ∀ v : Json, Json.Members.get? ((textNames.filterMap fun name =>
      (vars.find? (variableStart ++ name)).map fun text => (name, Json.string text))
        ++ [("cors_origins", v)]) name
      = (vars.find? (variableStart ++ name)).map Json.string := by
    intro v
    have hne : (name == "cors_origins") = false := by
      refine beq_false_of_ne ?_
      rintro rfl
      exact absurd hname (by decide)
    unfold Json.Members.get? at htexts ⊢
    rw [List.lookup_append, htexts, List.lookup_cons, hne]
    exact Option.or_none
  unfold valuesFrom at h
  simp only at h
  split at h
  · cases h
    exact htexts
  · split at h
    · cases h
    · cases h
    · cases h
      exact htexts
    · cases h
      exact horigins _

/-- The text that a setting is given: that of its variable in the environment, else in the file. -/
def textOf (environment : Variables) (file : Option String) (name : String) : Option String :=
  (environment.find? (variableStart ++ name)).or
    (((file.map (EnvFile.read environment)).getD []).find? (variableStart ++ name))

/-- Settings that load are made of the texts that they are given. -/
theorem load_eq_ok {environment : Variables} {file : Option String} {s : Settings}
    (h : load environment file = .ok s) :
    ∃ ms : Json.Members, ofMembers ms = .ok s ∧
      ∀ name ∈ textNames, ms.get? name = (textOf environment file name).map Json.string := by
  unfold load at h
  split at h
  · cases h
  · split at h
    · cases h
    · rename_i first hfirst
      split at h
      · cases h
      · rename_i second hsecond
        split at h
        · rename_i s' hs
          cases h
          refine ⟨_, hs, ?_⟩
          intro name hname
          have hget := get?_valuesFrom hfirst hname
          have hget' := get?_valuesFrom hsecond hname
          unfold Json.Members.get? at hget hget' ⊢
          rw [List.lookup_append, hget, hget', textOf, Option.map_or]
        · cases h

/-- The options are among what the settings are made of. -/
theorem ofMembers_eq_ok {ms : Json.Members} {s : Settings} (h : ofMembers ms = .ok s) :
    ms.allow "instance_url" none (Json.checkOption Json.checkString) = .ok s.instanceUrl ∧
      ms.allow "animate" false Json.checkBool = .ok s.animate ∧
      ms.allow "code_tag_as_div" false Json.checkBool = .ok s.codeTagAsDiv ∧
      ms.allow "root_tag_name" "p" Json.checkString = .ok s.rootTagName ∧
      ms.allow "highlight_code" false Json.checkBool = .ok s.highlightCode := by
  simp only [ofMembers, Checked.feed_eq_ok_iff] at h
  -- the fields are taken in order, so the last of the ten stands outermost
  obtain ⟨_, _, hfirst, -, rfl⟩ := h
  obtain ⟨_, highlight, hfirst, hhighlight, rfl⟩ := hfirst
  obtain ⟨_, root, hfirst, hroot, rfl⟩ := hfirst
  obtain ⟨_, code, hfirst, hcode, rfl⟩ := hfirst
  obtain ⟨_, animate, hfirst, hanimate, rfl⟩ := hfirst
  obtain ⟨_, url, hfirst, hurl, rfl⟩ := hfirst
  obtain ⟨_, _, ⟨_, _, ⟨_, _, ⟨_, _, hmk, -, rfl⟩, -, rfl⟩, -, rfl⟩, -, rfl⟩ := hfirst
  cases hmk
  exact ⟨hurl, hanimate, hcode, hroot, hhighlight⟩

end Settings

/-- What is made of texts as the members of an object. -/
theorem Config.ofMembers_texts {o : OptionTexts} {config : Config}
    (h : Config.ofMembers o.members = .ok config) :
    config.url = bareHost o.url ∧ Json.checkBool (.string o.animate) = .ok config.animate ∧
      Json.checkBool (.string o.codeTagAsDiv) = .ok config.codeTagAsDiv ∧
      checkRootTagName o.rootTagName = .ok config.rootTagName ∧
      Json.checkBool (.string o.highlightCode) = .ok config.highlightCode := by
  obtain ⟨hurl, hanimate, hcode, hroot, hhighlight⟩ := Config.ofMembers_eq_ok_iff.mp h
  refine ⟨?_, ?_, ?_, ?_, ?_⟩
  · exact (Except.ok.inj hurl).symm
  · exact Checked.inside_eq_ok_iff.mp hanimate
  · exact Checked.inside_eq_ok_iff.mp hcode
  · exact Checked.inside_eq_ok_iff.mp hroot
  · exact Checked.inside_eq_ok_iff.mp hhighlight

/-- **Options that come from the environment make the configuration that they make as the members
of an object.** -/
theorem Settings.renderConfig_of_texts {environment : Variables} {file : Option String}
    {s : Settings} {o : OptionTexts} {config : Config}
    (hload : Settings.load environment file = .ok s) (ho : o.InEnvironment environment)
    (haccepted : Config.ofMembers o.members = .ok config) :
    s.renderConfig = .ok config := by
  obtain ⟨ms, hms, hget⟩ := Settings.load_eq_ok hload
  obtain ⟨hurl, hanimate, hcode, hroot, hhighlight⟩ := Settings.ofMembers_eq_ok hms
  obtain ⟨hurl', hanimate', hcode', hroot', hhighlight'⟩ := Config.ofMembers_texts haccepted
  have hgiven : ∀ {α : Type} {name text : String} {default a : α} {check : Json → Checked α},
      name ∈ Settings.textNames → environment.find? (Settings.variableStart ++ name) = some text →
      ms.allow name default check = .ok a → check (.string text) = .ok a := by
    intro α name text default a check hname hfound hallow
    have htext : Settings.textOf environment file name = some text := by
      rw [Settings.textOf, hfound, Option.some_or]
    rw [Json.Members.allow_eq_ok_iff, hget name hname, htext] at hallow
    simpa using hallow
  have hurl : some o.url = s.instanceUrl := Except.ok.inj (hgiven (by decide) ho.url hurl)
  have hroot : o.rootTagName = s.rootTagName :=
    Except.ok.inj (hgiven (by decide) ho.rootTagName hroot)
  have hanimate := Except.ok.inj ((hgiven (by decide) ho.animate hanimate).symm.trans hanimate')
  have hcode := Except.ok.inj ((hgiven (by decide) ho.codeTagAsDiv hcode).symm.trans hcode')
  have hhighlight :=
    Except.ok.inj ((hgiven (by decide) ho.highlightCode hhighlight).symm.trans hhighlight')
  rw [Settings.renderConfig, Config.ofOptions, ← hurl, ← hroot, hroot', hanimate, hcode, hhighlight,
    Option.bind_some, ← hurl']
  rfl

end MfmRender
