/-
The root element around a document.

The name of the root element comes out of the options, where it may be anything, and
it is written into both tags as it is.  `AsksForRoot` says which values name an
element at all: null and blank texts ask for a paragraph, and a text that is a name
with blanks around it asks for that.  No other value is taken, and trimming is the
only liberty there is; a line end after the name is a blank like any other, and one
inside it is a character that no name has.

What is written is the name in the two tags and the content between them, whichever
way the document goes through the renderer.  A void element without content would be
written as a single tag.  The root of a document is never without content, though:
every node puts a tree into it, even the empty text of an emoji, and a document
without nodes has no root at all.
-/
import MfmRender.Proofs.Preloading
import MfmRender.Proofs.Text.Trim

namespace MfmRender

open Text

/-! ### Names of elements -/

/-- A letter of ASCII. -/
def IsLetter (c : Char) : Prop :=
  ('a' ≤ c ∧ c ≤ 'z') ∨ ('A' ≤ c ∧ c ≤ 'Z')

/-- A letter, and behind it letters, digits and hyphens. -/
def IsElementName (cs : List Char) : Prop :=
  ∃ c rest, cs = c :: rest ∧ IsLetter c ∧
    ∀ d ∈ rest, IsLetter d ∨ ('0' ≤ d ∧ d ≤ '9') ∨ d = '-'

theorem isAlpha_iff {c : Char} : c.isAlpha = true ↔ IsLetter c := by
  show (decide (c.val ≥ 'A'.val ∧ c.val ≤ 'Z'.val) || c.val ≥ 'a'.val && c.val ≤ 'z'.val) = true ↔ _
  simp only [IsLetter, Char.le_def, ge_iff_le, Bool.or_eq_true, Bool.and_eq_true, decide_eq_true_eq]
  exact or_comm

theorem isAlphanum_iff {c : Char} :
    c.isAlphanum = true ↔ IsLetter c ∨ ('0' ≤ c ∧ c ≤ '9') := by
  show (c.isAlpha || c.val ≥ '0'.val && c.val ≤ '9'.val) = true ↔ _
  simp only [Char.le_def, ge_iff_le, Bool.or_eq_true, Bool.and_eq_true, decide_eq_true_eq,
    isAlpha_iff]

theorem Config.isTagName_iff {cs : List Char} : isTagName cs = true ↔ IsElementName cs := by
  cases cs with
  | nil => simp [isTagName, IsElementName]
  | cons c rest =>
      simp only [isTagName, IsElementName, Bool.and_eq_true, List.all_eq_true, Bool.or_eq_true,
        isAlpha_iff, isAlphanum_iff, beq_iff_eq, or_assoc, List.cons.injEq]
      constructor
      · rintro ⟨hc, hrest⟩
        exact ⟨c, rest, ⟨rfl, rfl⟩, hc, hrest⟩
      · rintro ⟨c', rest', ⟨rfl, rfl⟩, hc, hrest⟩
        exact ⟨hc, hrest⟩

/-- No character of a name is blank. -/
theorem IsElementName.not_blank {cs : List Char} (h : IsElementName cs) :
    ∀ c ∈ cs, isBlank c = false := by
  intro c hc
  have hname := Html.Lexer.isNameChar_of_isTagName (Config.isTagName_iff.mpr h) c hc
  exact Html.Lexer.isBlank_of_isNameChar hname

theorem IsElementName.ne_nil {cs : List Char} (h : IsElementName cs) : cs ≠ [] := by
  obtain ⟨c, rest, rfl, -⟩ := h
  exact List.cons_ne_nil c rest

/-! ### Values that ask for a root element -/

/-- A value that asks for a root element of this name. -/
inductive Config.AsksForRoot : Json → String → Prop
  | null : AsksForRoot .null "p"
  | blank {text : String} (only : ∀ c ∈ text.toList, isBlank c = true) :
      AsksForRoot (.string text) "p"
  | named {text name : String} {before after : List Char}
      (blank_before : ∀ c ∈ before, isBlank c = true)
      (blank_after : ∀ c ∈ after, isBlank c = true)
      (written : text.toList = before ++ name.toList ++ after)
      (element : IsElementName name.toList) : AsksForRoot (.string text) name

namespace Config

theorem checkRootTagName_eq_ok_iff {text name : String} :
    checkRootTagName text = .ok name ↔ AsksForRoot (.string text) name := by
  unfold checkRootTagName
  constructor
  · intro h
    split at h
    · rename_i hblank
      obtain rfl := Except.ok.inj h
      exact .blank (trim_eq_nil_iff.mp hblank)
    · split at h
      · rename_i hname
        obtain rfl := Except.ok.inj h
        obtain ⟨-, -, before, after, hbefore, hafter, htext⟩ := exists_trim text.toList
        refine .named hbefore hafter ?_ ?_
        · rw [String.toList_ofList]
          exact htext
        · rw [String.toList_ofList]
          exact isTagName_iff.mp hname
      · simp at h
  · intro h
    cases h with
    | blank only => rw [trim_eq_nil_iff.mpr only]
    | named blank_before blank_after written element =>
        have htrim : trim text.toList = name.toList := by
          rw [written]
          refine trim_of_blanks_around blank_before blank_after element.ne_nil ?_ ?_
          · intro c hc
            exact element.not_blank c (List.mem_of_mem_head? hc)
          · intro c hc
            exact element.not_blank c (List.mem_of_mem_getLast? hc)
        rw [htrim]
        split
        · rename_i hnil
          exact absurd hnil element.ne_nil
        · rw [if_pos (isTagName_iff.mpr element), String.ofList_toList]

/-- **A value is taken as the name of the root element exactly if it asks for one.** -/
theorem loadRootTagName_eq_ok_iff {v : Json} {name : String} :
    loadRootTagName v = .ok name ↔ AsksForRoot v name := by
  cases v with
  | string text => exact checkRootTagName_eq_ok_iff
  | null =>
      constructor
      · intro h
        obtain rfl := Except.ok.inj h
        exact .null
      · rintro ⟨⟩
        rfl
  | _ =>
      constructor
      · intro h
        simp [loadRootTagName] at h
      · rintro ⟨⟩

/-! ### The root element among the options -/

/-- The value that options give for the root element, under the preferred name or the other. -/
def rootOption? (ms : Json.Members) : Option Json :=
  (ms.get? "rootTagName").or (ms.get? "root_tag_name")

/-- A name under which the root element is given. -/
def namesRoot (name : String) : Bool :=
  name == "rootTagName" || name == "root_tag_name"

/-- All options except those that are about the root element. -/
def otherOptions (ms : Json.Members) : Json.Members :=
  ms.filter (!namesRoot ·.1)

theorem get?_otherOptions (ms : Json.Members) (name : String) :
    (otherOptions ms).get? name = if namesRoot name then none else ms.get? name := by
  unfold otherOptions Json.Members.get?
  induction ms with
  | nil => simp
  | cons m rest ih =>
      obtain ⟨key, v⟩ := m
      rw [List.lookup_cons]
      by_cases hkey : name = key
      · subst hkey
        cases hroot : namesRoot name with
        | true => simpa [hroot] using ih
        | false => simp [hroot]
      · have hother : (name == key) = false := by simpa using hkey
        cases hroot : namesRoot key with
        | true => simpa [hroot, hother] using ih
        | false => simpa [hroot, hother, List.lookup_cons] using ih

variable {ms : Json.Members}

theorem allow_otherOptions {α : Type} {name : String} (default : α) (check : Json → Checked α)
    (h : namesRoot name = false) :
    (otherOptions ms).allow name default check = ms.allow name default check := by
  simp [Json.Members.allow, get?_otherOptions, h]

theorem allowEither_otherOptions {α : Type} {name other : String} (default : α)
    (check : Json → Checked α) (hname : namesRoot name = false) (hother : namesRoot other = false) :
    allowEither (otherOptions ms) name other default check
      = allowEither ms name other default check := by
  simp [allowEither, get?_otherOptions, hname, allow_otherOptions, hother]

/-- Options that say nothing of the root element get a paragraph. -/
theorem allowEither_otherOptions_root :
    allowEither (otherOptions ms) "rootTagName" "root_tag_name" "p" loadRootTagName = .ok "p" := by
  simp [allowEither, Json.Members.allow, get?_otherOptions, namesRoot]

theorem allowEither_root_eq_ok_iff {v : Json} {name : String} (hv : rootOption? ms = some v) :
    allowEither ms "rootTagName" "root_tag_name" "p" loadRootTagName = .ok name ↔
      AsksForRoot v name := by
  rw [← loadRootTagName_eq_ok_iff]
  unfold rootOption? at hv
  unfold allowEither Json.Members.allow
  cases hpreferred : ms.get? "rootTagName" with
  | some w =>
      obtain rfl : w = v := by simpa [hpreferred] using hv
      simp [Checked.inside_eq_ok_iff]
  | none =>
      have hother : ms.get? "root_tag_name" = some v := by simpa [hpreferred] using hv
      simp [hother, Checked.inside_eq_ok_iff]

/-- **Options that give a value for the root element are taken exactly if that value asks for an
element and the others are taken without it; it decides the name and nothing else.** -/
theorem load_eq_ok_iff_of_rootOption {v : Json} {config : Config} (hv : rootOption? ms = some v) :
    Config.load (.object ms) = .ok config ↔
      ∃ base name, Config.load (.object (otherOptions ms)) = .ok base ∧ AsksForRoot v name ∧
        config = { base with rootTagName := name } := by
  have hload : ∀ (ms : Json.Members), Config.load (.object ms) = Config.ofMembers ms := fun _ => rfl
  simp only [hload, ofMembers_eq_ok_iff, allowEither_root_eq_ok_iff hv,
    allowEither_otherOptions_root]
  rw [allow_otherOptions _ _ rfl, allow_otherOptions _ _ rfl, allowEither_otherOptions _ _ rfl rfl,
    allowEither_otherOptions _ _ rfl rfl]
  constructor
  · rintro ⟨hurl, hanimate, hcode, hname, hhighlight⟩
    exact ⟨{ config with rootTagName := "p" }, config.rootTagName,
      ⟨hurl, hanimate, hcode, rfl, hhighlight⟩, hname, rfl⟩
  · rintro ⟨base, name, ⟨hurl, hanimate, hcode, -, hhighlight⟩, hname, rfl⟩
    exact ⟨hurl, hanimate, hcode, hname, hhighlight⟩

end Config

/-! ### The root element in the markup -/

theorem Render.items_ne_nil {config : Config} {is : List Item} {counters : Counters}
    {hs : List Html} (his : is ≠ []) (h : Render.items config is counters = .ok hs) : hs ≠ [] := by
  cases is with
  | nil => exact absurd rfl his
  | cons i rest =>
      rw [Render.items] at h
      split at h
      · cases h
      · split at h
        · cases h
        · rename_i after _
          cases hrest : Render.items config rest after with
          | error e => simp [hrest, Except.map] at h
          | ok more =>
              obtain rfl : _ :: more = hs := by simpa [hrest, Except.map] using h
              exact List.cons_ne_nil _ _

/-- Whatever the items are, their markup is the root element around at least one tree. -/
theorem exists_root_of_renderItems {is : List Item} {source : ConfigSource} {config : Config}
    {markup : String} (his : is ≠ []) (hsource : source.resolve = .ok (.ok config))
    (hrender : renderItems is source = .ok markup) :
    ∃ hs, hs ≠ [] ∧ markup = (Render.element config.rootTagName "root" [] hs).print := by
  -- Where a raw object is among the items they are loaded first, else they are taken as they stand.
  cases hobject : is.any Item.isRawObject with
  | true =>
      cases hload : loadItems is with
      | error e =>
          have hempty : is.isEmpty ≠ true := by simpa using his
          rw [renderItems, if_neg hempty, hsource] at hrender
          simp [bind, Except.bind, hobject, hload, throw, throwThe, MonadExceptOf.throw] at hrender
      | ok ns =>
          have hns : ns ≠ [] := mt (eq_nil_iff_of_loadItems hload).mpr his
          obtain ⟨-, rfl⟩ := (renderItems_eq_ok_iff_of_loadItems his hload hsource).mp hrender
          exact ⟨_, prescribedAll_ne_nil config {} hns, rfl⟩
  | false =>
      have hempty : is.isEmpty ≠ true := by simpa using his
      rw [renderItems, if_neg hempty, hsource] at hrender
      cases hitems : Render.items config is {} with
      | error f => simp [bind, Except.bind, hobject, hitems] at hrender
      | ok hs =>
          refine ⟨hs, Render.items_ne_nil his hitems, ?_⟩
          simpa [bind, Except.bind, hobject, hitems, pure, Except.pure, eq_comm] using hrender

/-- **The root element is well formed.**  Options with a value for the root element are taken
exactly if the value is null, blank, or the name of an element with blanks around it, and the others
are taken without it; the name is then that of a paragraph or the one that is there.  And every
document with anything in it that is rendered with such options begins with the start tag of that
name and ends with its end tag. -/
theorem root_wraps_document {ms : Json.Members} {v : Json}
    (hv : Config.rootOption? ms = some v) :
    (∀ config, Config.load (.object ms) = .ok config ↔
      ∃ base name, Config.load (.object (Config.otherOptions ms)) = .ok base ∧
        Config.AsksForRoot v name ∧ config = { base with rootTagName := name }) ∧
    ∀ config, Config.load (.object ms) = .ok config →
      ∀ (source : ConfigSource), source.resolve = .ok (.ok config) →
        ∀ (is : List Item) (markup : String), is ≠ [] → renderItems is source = .ok markup →
          ∃ content, markup = "<" ++ config.rootTagName ++ " data-mfm=\"root\">" ++ content ++
            "</" ++ config.rootTagName ++ ">" := by
  refine ⟨fun config => Config.load_eq_ok_iff_of_rootOption hv, ?_⟩
  intro config _ source hsource is markup his hrender
  obtain ⟨hs, hne, rfl⟩ := exists_root_of_renderItems his hsource hrender
  exact ⟨_, print_root config.rootTagName hne⟩

/-- An emoji without characters, as a document writes it. -/
def emptyEmoji : Json :=
  .object [("type", .string "unicodeEmoji"), ("props", .object [("emoji", .string "")])]

/-- A void element with a line end behind its name, around an empty text. -/
theorem root_wraps_document_void :
    Config.rootOption? [("animate", .int 1), ("root_tag_name", .string " br\n")]
      = some (.string " br\n") ∧
    Config.load (.object [("animate", .int 1), ("root_tag_name", .string " br\n")])
      = .ok { animate := true, rootTagName := "br" } ∧
    ∃ content,
      renderItems [.raw emptyEmoji]
          (.members [("animate", .int 1), ("root_tag_name", .string " br\n")])
        = .ok ("<" ++ "br" ++ " data-mfm=\"root\">" ++ content ++ "</" ++ "br" ++ ">") := by
  have hv : Config.rootOption? [("animate", .int 1), ("root_tag_name", .string " br\n")]
      = some (.string " br\n") := rfl
  obtain ⟨htaken, hwrapped⟩ := root_wraps_document hv
  have hname : IsElementName "br".toList := Config.isTagName_iff.mp rfl
  have hasks : Config.AsksForRoot (.string " br\n") "br" :=
    @Config.AsksForRoot.named " br\n" "br" [' '] ['\n'] (by simp [isBlank]) (by simp [isBlank]) rfl
      hname
  have hconfig := (htaken { animate := true, rootTagName := "br" }).mpr
    ⟨{ animate := true }, "br", rfl, hasks, rfl⟩
  have hsource : ConfigSource.resolve
      (.members [("animate", .int 1), ("root_tag_name", .string " br\n")])
      = .ok (.ok { animate := true, rootTagName := "br" }) := rfl
  have hload : loadNodes [emptyEmoji] = .ok [.leaf (.unicodeEmoji "")] := rfl
  have haccepted : Node.Accepted { animate := true, rootTagName := "br" }
      [.leaf (.unicodeEmoji "")] := by
    rw [Node.accepted_iff]
    rfl
  have hrender := (renderItems_eq_ok_iff hload hsource).mpr ⟨haccepted, rfl⟩
  obtain ⟨content, hmarkup⟩ := hwrapped _ hconfig _ hsource _ _ (by simp) hrender
  exact ⟨hv, hconfig, content, hrender.trans (congrArg Except.ok hmarkup)⟩

end MfmRender
