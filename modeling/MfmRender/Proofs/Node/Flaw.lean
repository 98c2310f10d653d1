/-
What is wrong with a document.

A document that is not what the grammar writes has flaws, each at a position.
They are said here of the document alone: an object is reached when it is an item
of the document, or a child of a branch that is reached and for which there are
levels left.  What is beneath a leaf, or beneath an object of no known kind, or
beyond the levels, is never looked at.

Positions put flaws in the order in which a reader would come upon them: the items
of a list one after another, the children of a branch before its properties, and
properties in the order in which their kind lists them.

The checks of values and properties find the flaws that are said of them, in this
order (`Checked.Enumerates`).
-/
import MfmRender.Proofs.Node.Grammar
import MfmRender.Proofs.Problems

namespace MfmRender

/-! ### Flaws of a single value -/

namespace Problems

/-- A problem right here where a condition does not hold. -/
def lacking (condition : Prop) (fault : Fault) : Problems :=
  fun pos p => ¬ condition ∧ Problems.only fault pos p

/-- None of the problems is a kind that there is not. -/
def Ordinary (P : Problems) : Prop :=
  ∀ pos p, P pos p → ∀ kind, p.fault ≠ .unknownKind kind

end Problems

namespace Json

/-- How a value fails to stand for a boolean.  Texts and whole numbers of 64 bits are taken for an
attempt at one. -/
def notTruth : Json → Fault
  | .string _ => .notATruthValue
  | .int n => if -wordLimit ≤ n ∧ n < wordLimit then .notATruthValue else .notABoolean
  | .float x =>
    match x.toInt? with
    | some n => if -wordLimit < n ∧ n < wordLimit then .notATruthValue else .notABoolean
    | none => .notABoolean
  | _ => .notABoolean

/-- The value is to be a text. -/
def textProblems (v : Json) : Problems :=
  .lacking (∃ s, v = .string s) .notAString

/-- The value is to stand for a boolean. -/
def flagProblems (v : Json) : Problems :=
  .lacking (∃ b, v.StandsFor b) v.notTruth

/-- The value may be null. -/
def optionProblems (P : Json → Problems) (v : Json) : Problems :=
  fun pos p => v ≠ .null ∧ P v pos p

/-- The value of an argument is a text or stands for a boolean. -/
def argProblems : Json → Problems
  | .string _ => .none
  | v => v.flagProblems.inside (.member "bool")

/-- The value holds arguments, one after another. -/
def argsProblems : Json → Problems
  | .object ms => .InTurn (ms.map fun m => m.2.argProblems.inside (.member m.1))
  | _ => .only .notADictionary

end Json

/-! ### Flaws of properties -/

/-- What the value of a property is to be. -/
inductive Shape where
  | text
  | optionalText
  | flag
  | optionalFlag
  | arguments

def Shape.problems : Shape → Json → Problems
  | .text => Json.textProblems
  | .optionalText => Json.optionProblems Json.textProblems
  | .flag => Json.flagProblems
  | .optionalFlag => Json.optionProblems Json.flagProblems
  | .arguments => Json.argsProblems

/-- A property: its name, whether it has to be there, and what its value is to be. -/
structure Field where
  name : String
  required : Bool
  shape : Shape

def Field.problems (ms : Json.Members) (f : Field) : Problems :=
  .Member ms f.name f.required f.shape.problems

/-- The properties of a kind of leaf, in the order in which they are listed. -/
def LeafKind.fields : LeafKind → List Field
  | .text => [⟨"text", true, .text⟩]
  | .inlineCode => [⟨"code", true, .text⟩]
  | .blockCode => [⟨"code", true, .text⟩, ⟨"lang", false, .optionalText⟩]
  | .mathInline => [⟨"formula", true, .text⟩]
  | .mathBlock => [⟨"formula", true, .text⟩]
  | .url => [⟨"url", true, .text⟩, ⟨"brackets", false, .optionalFlag⟩]
  | .hashtag => [⟨"hashtag", true, .text⟩]
  | .mention =>
    [⟨"username", true, .text⟩, ⟨"host", false, .optionalText⟩, ⟨"acct", true, .text⟩]
  | .search => [⟨"query", true, .text⟩, ⟨"content", true, .text⟩]
  | .emojiCode => [⟨"name", true, .text⟩]
  | .unicodeEmoji => [⟨"emoji", true, .text⟩]

/-- What the properties of a kind are called, and which they are; a styled branch has none. -/
def Kind.props : Kind → Option (String × List Field)
  | .branch (.styled _) => none
  | .branch .link => some ("LinkProps", [⟨"url", true, .text⟩, ⟨"silent", false, .flag⟩])
  | .branch .fn => some ("FnProps", [⟨"name", true, .text⟩, ⟨"args", false, .arguments⟩])
  | .leaf k => some (Leaf.propsModel k, k.fields)

/-- The value holds properties, checked one after another. -/
def Field.modelProblems (model : String) (fields : List Field) : Json → Problems
  | .object ms => .InTurn (fields.map (Field.problems ms))
  | _ => .only (.notModel model)

/-- The flaws in the properties of an object of some kind. -/
def Kind.propsProblems (kind : Kind) (ms : Json.Members) : Problems :=
  match kind.props with
  | none => .none
  | some (model, fields) => .Member ms "props" true (Field.modelProblems model fields)

/-! ### Flaws of nodes -/

/-- A value in a document, with the levels that are left for it and the branch that governs it. -/
structure Spot where
  levels : Nat
  governor : Option BranchKind
  value : Json

/-- The object names a kind that there is not, which messages show as `shown`. -/
def Json.Members.NamesUnknown (ms : Json.Members) (shown : Json) : Prop :=
  (∃ name, ms.get? "type" = some (.string name) ∧ (∀ kind : Kind, name ≠ kind.name) ∧
      shown = .string name) ∨
    ∃ v, ms.get? "type" = some v ∧ (∀ name, v ≠ .string name) ∧ shown = .string v.shown

namespace Spot

/-- A child of a branch, with the levels that the branch leaves to it. -/
def child (s : Spot) (kind : BranchKind) (v : Json) : Spot where
  levels := s.levels - Node.cost s.governor (.branch kind)
  governor := Node.inner s.governor kind
  value := v

/-- The value at a spot is an object of this kind, and there are levels left for it. -/
structure Enters (s : Spot) (ms : Json.Members) (kind : Kind) : Prop where
  value : s.value = .object ms
  names : ms.Names kind
  fits : Node.cost s.governor kind ≤ s.levels

/-- What is reached from a spot: itself, and what is reached from the children of its branch.  The
position counts children from zero, each number of a child after a zero for being one. -/
inductive Reaches : Spot → Position → List Step → Spot → Prop
  | here (s : Spot) : Reaches s [] [] s
  | inside {s t : Spot} {ms : Json.Members} {kind : BranchKind} {items : List Json} {v : Json}
      {i : Nat} {pos : Position} {place : List Step} (henters : s.Enters ms (.branch kind))
      (hchildren : ms.get? "children" = some (.array items)) (hv : items[i]? = some v)
      (h : Reaches (s.child kind v) pos place t) :
      Reaches s (0 :: i :: pos)
        (.member kind.name :: .member "children" :: .index i :: place) t

/-- The flaws of a value itself, its children left aside. -/
inductive OwnProblem (s : Spot) : Problems
  | notAnObject (h : ∀ ms, s.value ≠ .object ms) : OwnProblem s [] ⟨[], .notAnObject⟩
  | noKind {ms : Json.Members} (hv : s.value = .object ms) (h : ms.get? "type" = none) :
      OwnProblem s [] ⟨[], .noKind⟩
  | unknownKind {ms : Json.Members} {shown : Json} (hv : s.value = .object ms)
      (h : ms.NamesUnknown shown) : OwnProblem s [] ⟨[], .unknownKind shown⟩
  | tooDeep {ms : Json.Members} {kind : Kind} (hv : s.value = .object ms) (hnames : ms.Names kind)
      (h : s.levels < Node.cost s.governor kind) : OwnProblem s [] ⟨[.member kind.name], .tooDeep⟩
  | children {ms : Json.Members} {kind : BranchKind} {v : Json}
      (henters : s.Enters ms (.branch kind)) (hchildren : ms.get? "children" = some v)
      (h : ∀ items, v ≠ .array items) :
      OwnProblem s [0] ⟨[.member kind.name, .member "children"], .notAList⟩
  | props {ms : Json.Members} {kind : Kind} {pos : Position} {p : Problem}
      (henters : s.Enters ms kind) (h : kind.propsProblems ms pos p) :
      OwnProblem s (1 :: pos) (p.inside (.member kind.name))

/-- A flaw of what is reached from a spot. -/
def Flaw (s : Spot) : Problems :=
  fun pos p => ∃ pos₁ place t pos₂ q, s.Reaches pos₁ place t ∧ t.OwnProblem pos₂ q ∧
    pos = pos₁ ++ pos₂ ∧ p = ⟨place ++ q.place, q.fault⟩

end Spot

/-- An item of a document, with all levels left for it. -/
def Spot.item (v : Json) : Spot where
  levels := Node.maxDepth
  governor := none
  value := v

/-- A flaw of a document. -/
def FlawAt (vs : List Json) : Problems :=
  fun pos p => ∃ (i : Nat) (v : Json) (rest : Position) (q : Problem),
    vs[i]? = some v ∧ (Spot.item v).Flaw rest q ∧ pos = i :: rest ∧ p = q.inside (.index i)

/-- A reachable object that names a kind that there is not. -/
def UnknownAt (vs : List Json) (pos : Position) (shown : Json) : Prop :=
  ∃ (i : Nat) (v : Json) (rest : Position) (place : List Step) (t : Spot) (ms : Json.Members),
    vs[i]? = some v ∧ (Spot.item v).Reaches rest place t ∧ t.value = .object ms ∧
      ms.NamesUnknown shown ∧ pos = i :: rest

/-! ### Checks of values find their flaws -/

namespace Checked

variable {α : Type}

theorem enumerates_lacking {c : Checked α} {condition : Prop} {fault : Fault}
    (hok : condition → ∃ a, c = .ok a) (hfault : ¬ condition → c = Checked.fault fault) :
    c.Enumerates (.lacking condition fault) := by
  by_cases h : condition
  · obtain ⟨a, rfl⟩ := hok h
    refine (enumerates_ok a).congr ?_
    intro pos p
    simp [Problems.none, Problems.lacking, h]
  · rw [hfault h]
    refine (enumerates_fault fault).congr ?_
    intro pos p
    simp [Problems.lacking, h]

end Checked

namespace Json

open Checked

theorem enumerates_checkString (v : Json) : (checkString v).Enumerates v.textProblems := by
  refine enumerates_lacking ?_ ?_
  · rintro ⟨s, rfl⟩
    exact ⟨s, rfl⟩
  · intro h
    cases v with
    | string s => exact absurd ⟨s, rfl⟩ h
    | _ => rfl

theorem enumerates_checkBool (v : Json) : (checkBool v).Enumerates v.flagProblems := by
  refine enumerates_lacking ?_ ?_
  · rintro ⟨b, hb⟩
    exact ⟨b, checkBool_eq_ok_iff.mpr hb⟩
  · intro h
    have hno : ∀ b, checkBool v ≠ .ok b := by
      intro b hb
      exact h ⟨b, checkBool_eq_ok_iff.mp hb⟩
    cases v with
    | bool b => exact absurd rfl (hno b)
    | string s =>
        cases hs : truthWord? s with
        | none => simp [checkBool, hs, notTruth]
        | some b => exact absurd (by simp [checkBool, hs]) (hno b)
    | int n =>
        cases hn : truthNumber? n with
        | none => simp [checkBool, hn, notTruth]
        | some b => exact absurd (by simp [checkBool, hn]) (hno b)
    | float x =>
        cases hx : x.toInt? with
        | none => simp [checkBool, hx, notTruth]
        | some n =>
            cases hn : truthNumber? n with
            | none => simp [checkBool, hx, hn, notTruth]
            | some b => exact absurd (by simp [checkBool, hx, hn]) (hno b)
    | _ => rfl

theorem enumerates_checkOption {α : Type} {check : Json → Checked α} {P : Json → Problems}
    (hcheck : ∀ v, (check v).Enumerates (P v)) (v : Json) :
    (checkOption check v).Enumerates (optionProblems P v) := by
  cases v with
  | null =>
      refine (enumerates_ok none).congr ?_
      intro pos p
      simp [Problems.none, optionProblems]
  | _ =>
      refine ((hcheck _).map some).congr ?_
      intro pos p
      simp [optionProblems]

end Json

namespace ArgValue

open Checked

theorem enumerates_load (v : Json) : (ArgValue.load v).Enumerates v.argProblems := by
  have hflag : ∀ v : Json,
      Enumerates (Checked.inside (.member "bool") ((Json.checkBool v).map ArgValue.flag))
        (v.flagProblems.inside (.member "bool")) := by
    intro v
    exact ((Json.enumerates_checkBool v).map ArgValue.flag).inside (.member "bool")
  cases v with
  | string s => exact enumerates_ok _
  | null => exact hflag .null
  | bool b => exact hflag (.bool b)
  | int n => exact hflag (.int n)
  | float x => exact hflag (.float x)
  | array items => exact hflag (.array items)
  | object members => exact hflag (.object members)

theorem enumerates_loadAll (ms : Json.Members) :
    (ArgValue.loadAll ms).Enumerates
      (.InTurn (ms.map fun m => m.2.argProblems.inside (.member m.1))) := by
  induction ms with
  | nil => exact Enumerates.nil []
  | cons m rest ih => exact ((enumerates_load m.2).inside (.member m.1)).one.append ih _

theorem enumerates_loadArgs (v : Json) : (ArgValue.loadArgs v).Enumerates v.argsProblems := by
  cases v with
  | object ms => exact enumerates_loadAll ms
  | _ => exact enumerates_fault _

end ArgValue

/-! ### Checks of properties find their flaws -/

section Fields

open Checked

theorem enumerates_requiredText (ms : Json.Members) (name : String) :
    (ms.require name Json.checkString).Enumerates (Field.problems ms ⟨name, true, .text⟩) :=
  Json.Members.enumerates_require Json.enumerates_checkString ms name

theorem enumerates_optionalText (ms : Json.Members) (name : String) :
    (ms.allow name none (Json.checkOption Json.checkString)).Enumerates
      (Field.problems ms ⟨name, false, .optionalText⟩) :=
  Json.Members.enumerates_allow (Json.enumerates_checkOption Json.enumerates_checkString) ms name
    none

theorem enumerates_optionalFlag (ms : Json.Members) (name : String) :
    (ms.allow name none (Json.checkOption Json.checkBool)).Enumerates
      (Field.problems ms ⟨name, false, .optionalFlag⟩) :=
  Json.Members.enumerates_allow (Json.enumerates_checkOption Json.enumerates_checkBool) ms name
    none

theorem Leaf.enumerates_ofMembers (kind : LeafKind) (ms : Json.Members) :
    (Leaf.ofMembers kind ms).Enumerates (.InTurn (kind.fields.map (Field.problems ms))) := by
  have htext := enumerates_requiredText ms
  cases kind with
  | blockCode => exact (htext "code").one.append (enumerates_optionalText ms "lang").one _
  | url => exact (htext "url").one.append (enumerates_optionalFlag ms "brackets").one _
  | search => exact (htext "query").one.append (htext "content").one _
  | mention =>
      have hmake := Enumerates.nil Mention.mk
      have husername := hmake.append (htext "username").one (fun f a => f a)
      have hhost := husername.append (enumerates_optionalText ms "host").one (fun f a => f a)
      have hacct := hhost.append (htext "acct").one (fun f a => f a)
      exact hacct.map Leaf.mention
  | _ => exact (htext _).one.map _

/-- Properties are looked for in the object and then checked. -/
theorem Node.enumerates_checkProps {α : Type} {check : Json.Members → Checked α}
    {fields : List Field}
    (hcheck : ∀ ms, (check ms).Enumerates (.InTurn (fields.map (Field.problems ms))))
    (ms : Json.Members) (model : String) :
    (Node.checkProps ms model check).Enumerates
      (.Member ms "props" true (Field.modelProblems model fields)) := by
  refine Json.Members.enumerates_require ?_ ms "props"
  intro v
  cases v with
  | object props => exact hcheck props
  | _ => exact enumerates_fault (.notModel model)

theorem Node.enumerates_loadLeaf (kind : LeafKind) (ms : Json.Members) :
    (Node.loadLeaf kind ms).Enumerates ((Kind.leaf kind).propsProblems ms) :=
  Node.enumerates_checkProps (Leaf.enumerates_ofMembers kind) ms _

theorem Node.enumerates_loadBranch (kind : BranchKind) (ms : Json.Members) :
    (Node.loadBranch kind ms).Enumerates ((Kind.branch kind).propsProblems ms) := by
  cases kind with
  | styled style => exact enumerates_ok _
  | link =>
      refine Node.enumerates_checkProps ?_ ms _
      intro props
      have hsilent := Json.Members.enumerates_allow Json.enumerates_checkBool props "silent" false
      exact (enumerates_requiredText props "url").one.append hsilent.one _
  | fn =>
      refine Node.enumerates_checkProps ?_ ms _
      intro props
      have hargs := Json.Members.enumerates_allow ArgValue.enumerates_loadArgs props "args" []
      exact (enumerates_requiredText props "name").one.append hargs.one _

end Fields

end MfmRender
