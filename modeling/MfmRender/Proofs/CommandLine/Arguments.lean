/-
Choosing options on a command line.

A choice of options is made by one argument for each option that is chosen, and
the arguments may stand in any order, the operand among them.  What the command
line then asks for is what an object with these options asks for, except for one
address: two hyphens are a separator even behind an equals sign, and no address.

The arguments are gone through from left to right, so the order is dealt with by
showing that no two of them get in each other's way.
-/
import MfmRender.CommandLine.Run
import MfmRender.Proofs.Checks

namespace MfmRender.CommandLine

/-- A choice of options. -/
structure Choice where
  url : Option String := none
  rootTag : Option String := none
  animate : Bool := false
  codeTagAsDiv : Bool := false
  highlight : Bool := false

namespace Choice

/-- The arguments that make the choice. -/
def arguments (c : Choice) : List String :=
  (c.url.map fun value => "--url" ++ "=" ++ value).toList ++
    (c.rootTag.map fun value => "--root-tag" ++ "=" ++ value).toList ++
    (if c.animate then ["--animate"] else []) ++
    (if c.codeTagAsDiv then ["--code-tag-as-div"] else []) ++
    (if c.highlight then ["--highlight"] else [])

/-- The members of an object that makes the choice. -/
def members (c : Choice) : Json.Members :=
  (c.url.map fun value => ("url", Json.string value)).toList ++
    (c.rootTag.map fun value => ("root_tag_name", Json.string value)).toList ++
    [("animate", .bool c.animate), ("code_tag_as_div", .bool c.codeTagAsDiv),
      ("highlight_code", .bool c.highlight)]

/-- What the arguments are. -/
def switches (c : Choice) : List Argument :=
  (c.url.map fun value => Argument.switch .url false (some value)).toList ++
    (c.rootTag.map fun value => Argument.switch .rootTag false (some value)).toList ++
    (if c.animate then [.switch .animate false none] else []) ++
    (if c.codeTagAsDiv then [.switch .codeTagAsDiv false none] else []) ++
    (if c.highlight then [.switch .highlight false none] else [])

/-- What a command line with these arguments asks for. -/
def options (c : Choice) (input : String) : Options :=
  { input := some input, url := c.url.map .written, animate := c.animate,
    codeTagAsDiv := c.codeTagAsDiv, rootTag := (c.rootTag.map .written).getD (.text "p"),
    highlight := c.highlight }

end Choice

/-! ### What the arguments are -/

/-- A text that names an input: one hyphen, or a text that begins with none. -/
def NamesInput (text : String) : Prop :=
  text = "-" ∨ text.toList.head? ≠ some '-'

namespace Argument

/-- The argument that a text is. -/
def meant (text : String) : Argument :=
  (ofText text).toOption.getD (.operand text)

/-- The text is this argument by itself, wherever it stands. -/
def IsMeant (text : String) (a : Argument) : Prop :=
  text ≠ "--" ∧ ofText text = .ok a

theorem IsMeant.meant_eq {text : String} {a : Argument} (h : IsMeant text a) : meant text = a := by
  rw [meant, h.2]
  rfl

theorem isMeant_of_namesInput {text : String} (h : NamesInput text) :
    IsMeant text (.operand text) := by
  rcases h with rfl | h
  · exact ⟨by decide, rfl⟩
  · refine ⟨?_, ?_⟩
    · rintro rfl
      exact h rfl
    · unfold ofText
      split
      · rename_i hcons
        rw [hcons] at h
        exact absurd rfl h
      · rfl

/-- No name of a switch holds an equals sign. -/
theorem ofName?_of_mem {text : String} (h : '=' ∈ text.toList) : Switch.ofName? text = none := by
  have hnames : ∀ n ∈ Switch.named, '=' ∉ n.1.toList := by decide
  refine List.lookup_eq_none_iff.mpr fun n hn => ?_
  rw [bne_iff_ne]
  rintro rfl
  exact hnames n hn h

/-- A long name with a value behind an equals sign is the switch with this value. -/
theorem isMeant_valued {s : Switch} {name : String} {tail : List Char}
    (hname : Switch.ofName? name = some s) (hlong : name.toList = '-' :: '-' :: tail)
    (value : String) :
    IsMeant (name ++ "=" ++ value) (.switch s false (some value)) := by
  have hplain : '=' ∉ name.toList := by
    intro h
    rw [ofName?_of_mem h] at hname
    cases hname
  have htext : (name ++ "=" ++ value).toList = name.toList ++ '=' :: value.toList := by simp
  have hkept : ∀ c ∈ name.toList, (c != '=') = true := by
    intro c hc
    rw [bne_iff_ne]
    rintro rfl
    exact hplain hc
  have hcut : cutValue (name ++ "=" ++ value) = (name, some value) := by
    rw [cutValue, htext, List.takeWhile_append_of_pos hkept, List.dropWhile_append_of_pos hkept]
    simp
  have hunspelled : Switch.ofName? (name ++ "=" ++ value) = none :=
    ofName?_of_mem (by rw [htext]; simp)
  constructor
  · intro heq
    rw [heq] at htext
    have hmem : '=' ∈ "--".toList := by
      rw [htext]
      simp
    exact absurd hmem (by decide)
  · rw [hlong] at htext
    have hlongName : isShort name = false := by simp only [isShort, hlong]
    unfold ofText
    split
    · rw [hunspelled, hcut]
      simp only [hname, hlongName]
    · rename_i hshort
      exact absurd htext (hshort _ _)

/-- Where there is no separator every text is an argument by itself. -/
theorem ofTexts_eq_ok {texts : List String} (h : ∀ t ∈ texts, IsMeant t (meant t)) :
    ofTexts texts = .ok (texts.map meant) := by
  induction texts with
  | nil => rfl
  | cons t rest ih =>
      obtain ⟨hseparator, ht⟩ := h t (by simp)
      rw [ofTexts, if_neg hseparator, ht, ih fun u hu => h u (by simp [hu])]
      rfl

theorem isMeant_url (value : String) :
    IsMeant ("--url" ++ "=" ++ value) (.switch .url false (some value)) :=
  isMeant_valued (by decide) rfl value

theorem isMeant_rootTag (value : String) :
    IsMeant ("--root-tag" ++ "=" ++ value) (.switch .rootTag false (some value)) :=
  isMeant_valued (by decide) rfl value

theorem isMeant_animate : IsMeant "--animate" (.switch .animate false none) :=
  ⟨by decide, rfl⟩

theorem isMeant_codeTagAsDiv : IsMeant "--code-tag-as-div" (.switch .codeTagAsDiv false none) :=
  ⟨by decide, rfl⟩

theorem isMeant_highlight : IsMeant "--highlight" (.switch .highlight false none) :=
  ⟨by decide, rfl⟩

end Argument

namespace Choice

open Argument

/-- Every argument of a choice is one of its switches. -/
theorem isMeant_of_mem {c : Choice} {t : String} (h : t ∈ c.arguments) : IsMeant t (meant t) := by
  have hself : ∀ {text : String} {a : Argument}, IsMeant text a → IsMeant text (meant text) :=
    fun ha => ha.meant_eq ▸ ha
  simp only [arguments, List.mem_append, Option.mem_toList, Option.map_eq_some_iff, or_assoc] at h
  rcases h with ⟨v, -, rfl⟩ | ⟨v, -, rfl⟩ | h | h | h
  · exact hself (isMeant_url v)
  · exact hself (isMeant_rootTag v)
  · split at h
    · obtain rfl := List.mem_singleton.mp h
      exact hself isMeant_animate
    · cases h
  · split at h
    · obtain rfl := List.mem_singleton.mp h
      exact hself isMeant_codeTagAsDiv
    · cases h
  · split at h
    · obtain rfl := List.mem_singleton.mp h
      exact hself isMeant_highlight
    · cases h

theorem map_meant_arguments (c : Choice) : c.arguments.map meant = c.switches := by
  have hflag : ∀ {text : String} {a : Argument} (b : Bool), IsMeant text a →
      (if b then [text] else []).map meant = if b then [a] else [] := by
    intro text a b ha
    cases b with
    | false => rfl
    | true => simp [ha.meant_eq]
  have hvalued : ∀ {name : String} {s : Switch} (value : Option String),
      (∀ v, IsMeant (name ++ "=" ++ v) (.switch s false (some v))) →
      (value.map fun v => name ++ "=" ++ v).toList.map meant
        = (value.map fun v => Argument.switch s false (some v)).toList := by
    intro name s value hv
    cases value with
    | none => rfl
    | some v => simp [(hv v).meant_eq]
  simp only [arguments, switches, List.map_append, hvalued _ isMeant_url, hvalued _ isMeant_rootTag,
    hflag _ isMeant_animate, hflag _ isMeant_codeTagAsDiv, hflag _ isMeant_highlight]

end Choice

/-! ### What they ask for -/

/-- What a switch of a choice does to the options. -/
def Options.turned (o : Options) : Argument → Options
  | .switch s _ (some text) => o.assign s (.written text)
  | .switch .animate _ none => { o with animate := true }
  | .switch .codeTagAsDiv _ none => { o with codeTagAsDiv := true }
  | .switch .highlight _ none => { o with highlight := true }
  | _ => o

/-- A switch leaves the operand alone. -/
theorem Options.turned_input (o : Options) (input : Option String) (a : Argument) :
    { o with input := input }.turned a = { o.turned a with input := input } := by
  cases a with
  | switch s short value =>
      cases value <;> cases s <;> rfl
  | _ => rfl

namespace Choice

open Argument

theorem mem_switches {c : Choice} {a : Argument} (h : a ∈ c.switches) :
    (∃ v, c.url = some v ∧ a = .switch .url false (some v)) ∨
      (∃ v, c.rootTag = some v ∧ a = .switch .rootTag false (some v)) ∨
      a = .switch .animate false none ∨ a = .switch .codeTagAsDiv false none ∨
      a = .switch .highlight false none := by
  simp only [switches, List.mem_append, Option.mem_toList, Option.map_eq_some_iff, or_assoc] at h
  rcases h with ⟨v, hv, rfl⟩ | ⟨v, hv, rfl⟩ | h | h | h
  · exact Or.inl ⟨v, hv, rfl⟩
  · exact Or.inr (Or.inl ⟨v, hv, rfl⟩)
  all_goals
    split at h
    · simp_all
    · cases h

/-- The switches of a choice do not get in each other's way. -/
theorem turned_comm {c : Choice} {a b : Argument} (ha : a ∈ c.switches) (hb : b ∈ c.switches)
    (o : Options) : (o.turned a).turned b = (o.turned b).turned a := by
  rcases mem_switches ha with ⟨v, hv, rfl⟩ | ⟨v, hv, rfl⟩ | rfl | rfl | rfl <;>
    rcases mem_switches hb with ⟨w, hw, rfl⟩ | ⟨w, hw, rfl⟩ | rfl | rfl | rfl
  any_goals rfl
  · obtain rfl := Option.some.inj (hv.symm.trans hw)
    rfl
  · obtain rfl := Option.some.inj (hv.symm.trans hw)
    rfl

/-- The switches of a choice are turned one after another. -/
theorem collect_switches {c : Choice} {as : List Argument} (h : ∀ a ∈ as, a ∈ c.switches)
    (o : Options) (rest : List Argument) :
    Options.collect o (as ++ rest) = Options.collect (as.foldl Options.turned o) rest := by
  induction as generalizing o with
  | nil => rfl
  | cons a more ih =>
      have hmore := ih fun b hb => h b (by simp [hb])
      rw [List.cons_append, List.foldl_cons, ← hmore]
      rcases mem_switches (h a (by simp)) with ⟨v, -, rfl⟩ | ⟨v, -, rfl⟩ | rfl | rfl | rfl <;>
        rw [Options.collect.eq_def] <;> rfl

theorem foldl_input (as : List Argument) (o : Options) (input : Option String) :
    as.foldl Options.turned { o with input := input }
      = { as.foldl Options.turned o with input := input } := by
  induction as generalizing o with
  | nil => rfl
  | cons a rest ih => rw [List.foldl_cons, List.foldl_cons, Options.turned_input, ih]

theorem foldl_switches (c : Choice) (input : String) :
    { c.switches.foldl Options.turned {} with input := some input } = c.options input := by
  obtain ⟨url, rootTag, animate, codeTagAsDiv, highlight⟩ := c
  cases url <;> cases rootTag <;> cases animate <;> cases codeTagAsDiv <;> cases highlight <;> rfl

/-- **An operand and the switches of a choice ask for the choice, in whatever order they stand.** -/
theorem collect_of_perm {c : Choice} {input : String} {found : List Argument}
    (h : found.Perm (.operand input :: c.switches)) :
    Options.collect {} found = .ok (c.options input) := by
  obtain ⟨before, after, rfl⟩ := List.append_of_mem (h.mem_iff.mpr (List.mem_cons_self ..))
  have hswitches : (before ++ after).Perm c.switches :=
    (List.perm_middle.symm.trans h).cons_inv
  have hbefore : ∀ a ∈ before, a ∈ c.switches := fun a ha => hswitches.mem_iff.mp (by simp [ha])
  have hafter : ∀ a ∈ after, a ∈ c.switches := fun a ha => hswitches.mem_iff.mp (by simp [ha])
  have hinput : (before.foldl Options.turned {}).input = none :=
    congrArg Options.input (foldl_input before {} none)
  -- no separator comes after the operand
  have hoperand : ∀ o : Options, o.input = none →
      Options.collect o (.operand input :: after)
        = Options.collect { o with input := some input } after := by
    intro o ho
    cases after with
    | nil => simp [Options.collect, ho]
    | cons a more =>
        rcases mem_switches (hafter a (by simp)) with ⟨v, -, rfl⟩ | ⟨v, -, rfl⟩ | rfl | rfl | rfl <;>
          rw [Options.collect] <;> simp [ho]
  have hall := collect_switches hafter
    { before.foldl Options.turned {} with input := some input } []
  have hperm := hswitches.foldl_eq' (f := Options.turned)
    (fun a ha b hb o => turned_comm (hswitches.mem_iff.mp ha) (hswitches.mem_iff.mp hb) o) {}
  rw [List.append_nil] at hall
  rw [collect_switches hbefore, hoperand _ hinput, hall, foldl_input, ← List.foldl_append, hperm,
    foldl_switches]
  rfl

/-- The same for the texts of the arguments. -/
theorem ofArguments_of_perm {c : Choice} {input : String} {args : List String}
    (hinput : NamesInput input) (h : args.Perm (input :: c.arguments)) :
    Options.ofArguments args = .ok (c.options input, input) := by
  have hoperand := isMeant_of_namesInput hinput
  have hmeant : ∀ t ∈ args, IsMeant t (meant t) := by
    intro t ht
    rcases List.mem_cons.mp (h.mem_iff.mp ht) with rfl | ht
    · rw [hoperand.meant_eq]
      exact hoperand
    · exact isMeant_of_mem ht
  have hfound : (args.map meant).Perm (.operand input :: c.switches) := by
    have hmap := h.map meant
    rwa [List.map_cons, hoperand.meant_eq, map_meant_arguments] at hmap
  rw [Options.ofArguments, ofTexts_eq_ok hmeant]
  simp only [collect_of_perm hfound]
  rfl

theorem written_of_ne {value : String} (h : value ≠ "--") :
    SwitchValue.written value = .text value :=
  if_neg h

/-- Values that are no separator are taken as they are. -/
theorem config_options {c : Choice} (hurl : c.url ≠ some "--") (hroot : c.rootTag ≠ some "--")
    (input : String) : (c.options input).config = Config.ofMembers c.members := by
  obtain ⟨url, rootTag, animate, codeTagAsDiv, highlight⟩ := c
  cases url with
  | none =>
      cases rootTag with
      | none => rfl
      | some r =>
          simp only [options, Option.map_some, written_of_ne fun h => hroot (congrArg some h)]
          rfl
  | some u =>
      cases rootTag with
      | none =>
          simp only [options, Option.map_some, written_of_ne fun h => hurl (congrArg some h)]
          rfl
      | some r =>
          simp only [options, Option.map_some, written_of_ne fun h => hurl (congrArg some h),
            written_of_ne fun h => hroot (congrArg some h)]
          rfl

/-- Two hyphens are no name of a root element. -/
theorem rootTag_ne_of_accepted {c : Choice} {config : Config}
    (h : Config.ofMembers c.members = .ok config) : c.rootTag ≠ some "--" := by
  intro hroot
  have hget : c.members.get? "rootTagName" = none ∧
      c.members.get? "root_tag_name" = some (.string "--") := by
    obtain ⟨url, rootTag, animate, codeTagAsDiv, highlight⟩ := c
    obtain rfl := hroot
    cases url <;> exact ⟨rfl, rfl⟩
  simp only [Config.ofMembers, Checked.feed_eq_ok_iff] at h
  obtain ⟨_, _, ⟨_, root, -, hchecked, rfl⟩, -, rfl⟩ := h
  rw [Config.allowEither, hget.1, if_neg (by simp), Json.Members.allow_eq_ok_iff,
    hget.2] at hchecked
  obtain ⟨v, hv, hload⟩ :
      ∃ v, some (Json.string "--") = some v ∧ Config.loadRootTagName v = .ok root := by
    simpa using hchecked
  obtain rfl := Option.some.inj hv
  cases hload

end Choice

end MfmRender.CommandLine
