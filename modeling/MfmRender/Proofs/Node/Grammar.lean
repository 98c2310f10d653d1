/-
The grammar of nodes.

`Node.ReadFrom` is the grammar: it says of a node and a value that the value
writes the node.  It is followed along the node, so it speaks of the members that
the node has need of and of no others; everything else in the value is free.

How deep a document is depends on the order of the kinds.  A node costs one level,
and a branch that governs what is inside it one more; the outermost branch
governs, and inside of it a branch of a kind that is listed before the kind of its
governor (`Node.cost`, `Node.inner`).

Kinds, arguments, properties and branches are checked one by one before nodes come
into it, and each of these checks is settled here: it succeeds with what the grammar
says, and only then.
-/
import MfmRender.Node.Load
import MfmRender.Proofs.Checks

namespace MfmRender

/-! ### Values that stand for a boolean or a text -/

namespace Json

/-- The texts that stand for true, in small letters. -/
def trueWords : List String := ["1", "on", "t", "true", "y", "yes"]

/-- The texts that stand for false, in small letters. -/
def falseWords : List String := ["0", "off", "f", "false", "n", "no"]

def smallLetters (s : String) : String :=
  String.ofList (s.toList.map Char.toLower)

/-- The value is a boolean, a number equal to one or zero, or a word for one of the two. -/
inductive StandsFor : Json → Bool → Prop
  | bool (b : Bool) : StandsFor (.bool b) b
  | one : StandsFor (.int 1) true
  | zero : StandsFor (.int 0) false
  | floatOne {x : Binary64} (h : x.toInt? = some 1) : StandsFor (.float x) true
  | floatZero {x : Binary64} (h : x.toInt? = some 0) : StandsFor (.float x) false
  | trueWord {s : String} (h : smallLetters s ∈ trueWords) : StandsFor (.string s) true
  | falseWord {s : String} (h : smallLetters s ∈ falseWords) : StandsFor (.string s) false

theorem truthNumber?_eq_some_iff {n : Int} {b : Bool} :
    truthNumber? n = some b ↔ (n = 1 ∧ b = true) ∨ (n = 0 ∧ b = false) := by
  unfold truthNumber?
  split
  · rename_i h
    subst h
    cases b <;> simp
  · rename_i h
    cases b <;> simp [h]

theorem truthWord?_eq_some_iff {s : String} {b : Bool} :
    truthWord? s = some b ↔
      (smallLetters s ∈ trueWords ∧ b = true) ∨ (smallLetters s ∈ falseWords ∧ b = false) := by
  have hdisjoint : ∀ w ∈ trueWords, w ∉ falseWords := by decide
  show (if trueWords.contains (smallLetters s) then some true
    else if falseWords.contains (smallLetters s) then some false else none) = some b ↔ _
  by_cases htrue : smallLetters s ∈ trueWords
  · cases b <;> simp [htrue, hdisjoint _ htrue]
  · by_cases hfalse : smallLetters s ∈ falseWords <;> cases b <;> simp [htrue, hfalse]

theorem checkString_eq_ok_iff {v : Json} {s : String} : checkString v = .ok s ↔ v = .string s := by
  cases v <;> simp [checkString]

theorem standsFor_int_iff {n : Int} {b : Bool} :
    StandsFor (.int n) b ↔ truthNumber? n = some b := by
  rw [truthNumber?_eq_some_iff]
  constructor
  · intro h
    cases h <;> simp
  · rintro (⟨rfl, rfl⟩ | ⟨rfl, rfl⟩)
    · exact StandsFor.one
    · exact StandsFor.zero

theorem standsFor_float_iff {x : Binary64} {b : Bool} :
    StandsFor (.float x) b ↔ x.toInt?.bind truthNumber? = some b := by
  rw [Option.bind_eq_some_iff]
  constructor
  · rintro (_ | _ | _ | h | h)
    · exact ⟨1, h, rfl⟩
    · exact ⟨0, h, rfl⟩
  · rintro ⟨n, hn, h⟩
    rcases truthNumber?_eq_some_iff.mp h with ⟨rfl, rfl⟩ | ⟨rfl, rfl⟩
    · exact StandsFor.floatOne hn
    · exact StandsFor.floatZero hn

theorem standsFor_string_iff {s : String} {b : Bool} :
    StandsFor (.string s) b ↔ truthWord? s = some b := by
  rw [truthWord?_eq_some_iff]
  constructor
  · rintro (_ | _ | _ | _ | _ | h | h)
    · exact Or.inl ⟨h, rfl⟩
    · exact Or.inr ⟨h, rfl⟩
  · rintro (⟨h, rfl⟩ | ⟨h, rfl⟩)
    · exact StandsFor.trueWord h
    · exact StandsFor.falseWord h

theorem checkBool_eq_ok_iff {v : Json} {b : Bool} : checkBool v = .ok b ↔ StandsFor v b := by
  cases v with
  | bool c =>
      constructor
      · rintro ⟨⟩
        exact StandsFor.bool b
      · rintro ⟨⟩
        rfl
  | int n =>
      rw [standsFor_int_iff]
      cases h : truthNumber? n <;> simp [checkBool, h]
  | float x =>
      rw [standsFor_float_iff]
      cases hx : x.toInt? with
      | none => simp [checkBool, hx]
      | some n => cases h : truthNumber? n <;> simp [checkBool, hx, h]
  | string s =>
      rw [standsFor_string_iff]
      cases h : truthWord? s <;> simp [checkBool, h]
  | _ =>
      simp only [checkBool, Checked.fault_ne_ok, false_iff]
      intro h
      cases h

namespace Members

/-- A member that has to be there and is a text. -/
def HoldsText (ms : Members) (name s : String) : Prop :=
  ms.get? name = some (.string s)

/-- A member that may be left out or null. -/
def HoldsOption {α : Type} (reads : Json → α → Prop) (ms : Members) (name : String) :
    Option α → Prop
  | none => ms.get? name = none ∨ ms.get? name = some .null
  | some a => ∃ v, ms.get? name = some v ∧ reads v a

theorem require_string_eq_ok_iff {ms : Members} {name s : String} :
    ms.require name checkString = .ok s ↔ ms.HoldsText name s := by
  simp [require_eq_ok_iff, checkString_eq_ok_iff, HoldsText]

/-- A member that may be left out or null is read as its check reads it. -/
theorem allow_option_eq_ok_iff {α : Type} {reads : Json → α → Prop} {check : Json → Checked α}
    (hcheck : ∀ {v a}, check v = .ok a ↔ reads v a) (hnull : ∀ a, ¬ reads .null a) {ms : Members}
    {name : String} {o : Option α} :
    ms.allow name none (checkOption check) = .ok o ↔ HoldsOption reads ms name o := by
  rw [allow_eq_ok_iff]
  cases o with
  | none =>
      have hnone : ∀ v, checkOption check v = .ok none ↔ v = .null := by
        intro v
        cases v <;> simp [checkOption, Checked.map_eq_ok_iff]
      simp [HoldsOption, hnone]
  | some a =>
      have hsome : ∀ v, checkOption check v = .ok (some a) ↔ reads v a := by
        intro v
        cases v with
        | null => simp [checkOption, hnull]
        | _ => simp [checkOption, Checked.map_eq_ok_iff, hcheck]
      simp [HoldsOption, hsome]

theorem allow_optionalText_eq_ok_iff {ms : Members} {name : String} {o : Option String} :
    ms.allow name none (checkOption checkString) = .ok o ↔
      HoldsOption (fun v s => v = .string s) ms name o := by
  refine allow_option_eq_ok_iff checkString_eq_ok_iff ?_
  intro s h
  cases h

theorem allow_optionalFlag_eq_ok_iff {ms : Members} {name : String} {o : Option Bool} :
    ms.allow name none (checkOption checkBool) = .ok o ↔ HoldsOption StandsFor ms name o := by
  refine allow_option_eq_ok_iff checkBool_eq_ok_iff ?_
  intro b h
  cases h

end Members

end Json

/-! ### The grammar -/

/-- The value of an argument: a text is the text itself, even one that stands for a boolean. -/
def ArgValue.ReadFrom (v : Json) : ArgValue → Prop
  | .text s => v = .string s
  | .flag b => v.StandsFor b ∧ ∀ s, v ≠ .string s

/-- The arguments of a function are the members of an object, in its order. -/
def ArgValue.AllReadFrom : List (String × ArgValue) → Json.Members → Prop
  | [], ms => ms = []
  | (name, a) :: rest, ms =>
    ∃ v more, ms = (name, v) :: more ∧ a.ReadFrom v ∧ ArgValue.AllReadFrom rest more

/-- What a leaf shows is read from its properties. -/
def Leaf.ReadFrom (props : Json.Members) : Leaf → Prop
  | .text s => props.HoldsText "text" s
  | .inlineCode code => props.HoldsText "code" code
  | .blockCode code lang =>
    props.HoldsText "code" code ∧ props.HoldsOption (fun v s => v = .string s) "lang" lang
  | .mathInline formula => props.HoldsText "formula" formula
  | .mathBlock formula => props.HoldsText "formula" formula
  | .url href brackets =>
    props.HoldsText "url" href ∧ props.HoldsOption Json.StandsFor "brackets" brackets
  | .hashtag tag => props.HoldsText "hashtag" tag
  | .mention m =>
    props.HoldsText "username" m.username ∧
      props.HoldsOption (fun v s => v = .string s) "host" m.host ∧ props.HoldsText "acct" m.acct
  | .search query content => props.HoldsText "query" query ∧ props.HoldsText "content" content
  | .emojiCode name => props.HoldsText "name" name
  | .unicodeEmoji emoji => props.HoldsText "emoji" emoji

/-- What a branch does is read from its object. -/
def Branch.ReadFrom (ms : Json.Members) : Branch → Prop
  | .styled _ => True
  | .link url silent =>
    ∃ props : Json.Members, ms.get? "props" = some (.object props) ∧ props.HoldsText "url" url ∧
      ((props.get? "silent" = none ∧ silent = false) ∨
        ∃ v : Json, props.get? "silent" = some v ∧ v.StandsFor silent)
  | .fn name args =>
    ∃ props : Json.Members, ms.get? "props" = some (.object props) ∧ props.HoldsText "name" name ∧
      ((props.get? "args" = none ∧ args = []) ∨
        ∃ members : Json.Members, props.get? "args" = some (.object members) ∧
          ArgValue.AllReadFrom args members)

/-- The object says that it is a node of this kind. -/
def Json.Members.Names (ms : Json.Members) (kind : Kind) : Prop :=
  ms.get? "type" = some (.string kind.name)

mutual

/-- **The grammar of nodes: what value writes a node.** -/
def Node.ReadFrom (v : Json) : Node → Prop
  | .leaf l =>
    ∃ ms props : Json.Members, v = .object ms ∧ ms.Names (.leaf l.kind) ∧
      ms.get? "props" = some (.object props) ∧ l.ReadFrom props
  | .branch b children =>
    ∃ ms : Json.Members, v = .object ms ∧ ms.Names (.branch b.kind) ∧ b.ReadFrom ms ∧
      ((ms.get? "children" = none ∧ children = []) ∨
        ∃ items : List Json, ms.get? "children" = some (.array items) ∧
          Node.AllReadFrom items children)

/-- Each node is written by the value in its place. -/
def Node.AllReadFrom (vs : List Json) : List Node → Prop
  | [] => vs = []
  | n :: rest => ∃ v more, vs = v :: more ∧ Node.ReadFrom v n ∧ Node.AllReadFrom more rest

end

/-- How many levels a node of some kind takes for itself inside a stretch with this governor. -/
def Node.cost (governor : Option BranchKind) : Kind → Nat
  | .leaf _ => 1
  | .branch k => if Node.governs governor k then 2 else 1

/-- The governor of what is inside a branch. -/
def Node.inner (governor : Option BranchKind) (kind : BranchKind) : Option BranchKind :=
  if Node.governs governor kind then some kind else governor

mutual

/-- How many levels a node takes with all that is inside it. -/
def Node.depth (governor : Option BranchKind) : Node → Nat
  | .leaf l => Node.cost governor (.leaf l.kind)
  | .branch b children =>
    Node.cost governor (.branch b.kind) + Node.depthAll (Node.inner governor b.kind) children

def Node.depthAll (governor : Option BranchKind) : List Node → Nat
  | [] => 0
  | n :: rest => max (n.depth governor) (Node.depthAll governor rest)

end

mutual

/-- How many branches are inside each other. -/
def Node.nesting : Node → Nat
  | .leaf _ => 0
  | .branch _ children => 1 + Node.nestingAll children

def Node.nestingAll : List Node → Nat
  | [] => 0
  | n :: rest => max n.nesting (Node.nestingAll rest)

end

/-! ### Checks follow the grammar -/

theorem Kind.mem_all (kind : Kind) : kind ∈ Kind.all := by
  cases kind with
  | branch k =>
      cases k with
      | styled style => cases style <;> decide
      | link => decide
      | fn => decide
  | leaf k => cases k <;> decide

theorem Kind.ofName?_eq_some_iff {name : String} {kind : Kind} :
    Kind.ofName? name = some kind ↔ name = kind.name := by
  have hall : ∀ k ∈ Kind.all, Kind.ofName? k.name = some k := by decide
  constructor
  · intro h
    have hname := List.find?_some h
    exact (beq_iff_eq.mp hname).symm
  · rintro rfl
    exact hall kind kind.mem_all

theorem Node.kindOf_eq_ok_iff {ms : Json.Members} {kind : Kind} :
    Node.kindOf ms = .ok kind ↔ ms.Names kind := by
  unfold kindOf Json.Members.Names
  cases ht : ms.get? "type" with
  | none => simp
  | some t =>
      cases t with
      | string name =>
          rw [Option.some.injEq, Json.string.injEq, ← Kind.ofName?_eq_some_iff]
          cases hname : Kind.ofName? name <;> simp [hname]
      | _ => simp

theorem ArgValue.load_eq_ok_iff {v : Json} {a : ArgValue} :
    ArgValue.load v = .ok a ↔ a.ReadFrom v := by
  have hother : (∀ s, v ≠ .string s) →
      (Checked.inside (.member "bool") ((Json.checkBool v).map .flag) = .ok a ↔ a.ReadFrom v) := by
    intro hv
    rw [Checked.inside_eq_ok_iff, Checked.map_eq_ok_iff]
    cases a with
    | flag b => simp [ReadFrom, Json.checkBool_eq_ok_iff, hv]
    | text s => simp [ReadFrom, hv]
  cases v with
  | string s => cases a <;> simp [load, ReadFrom]
  | _ => exact hother (by simp)

theorem ArgValue.loadAll_eq_ok_iff {ms : Json.Members} :
    ∀ {args : List (String × ArgValue)},
      ArgValue.loadAll ms = .ok args ↔ ArgValue.AllReadFrom args ms := by
  induction ms with
  | nil =>
      intro args
      cases args <;> simp [loadAll, AllReadFrom]
  | cons m rest ih =>
      intro args
      obtain ⟨name, v⟩ := m
      simp only [loadAll, Checked.map2_eq_ok_iff, Checked.inside_eq_ok_iff, load_eq_ok_iff, ih]
      cases args with
      | nil => simp [AllReadFrom]
      | cons arg more =>
          obtain ⟨key, a⟩ := arg
          simp only [AllReadFrom, List.cons.injEq, Prod.mk.injEq]
          constructor
          · rintro ⟨a, more, ha, hmore, ⟨rfl, rfl⟩, rfl⟩
            exact ⟨v, rest, ⟨⟨rfl, rfl⟩, rfl⟩, ha, hmore⟩
          · rintro ⟨v', rest', ⟨⟨rfl, rfl⟩, rfl⟩, ha, hmore⟩
            exact ⟨a, more, ha, hmore, ⟨rfl, rfl⟩, rfl⟩

theorem ArgValue.loadArgs_eq_ok_iff {v : Json} {args : List (String × ArgValue)} :
    ArgValue.loadArgs v = .ok args ↔
      ∃ members : Json.Members, v = .object members ∧ ArgValue.AllReadFrom args members := by
  cases v <;> simp [loadArgs, loadAll_eq_ok_iff]

theorem Mention.ofMembers_eq_ok_iff {props : Json.Members} {m : Mention} :
    Mention.ofMembers props = .ok m ↔ (Leaf.mention m).ReadFrom props := by
  unfold ofMembers
  simp only [Checked.feed_eq_ok_iff, Json.Members.require_string_eq_ok_iff,
    Json.Members.allow_optionalText_eq_ok_iff, Leaf.ReadFrom]
  constructor
  · rintro ⟨_, acct, ⟨_, host, ⟨_, username, hmake, husername, rfl⟩, hhost, rfl⟩, hacct, rfl⟩
    obtain rfl := Except.ok.inj hmake
    exact ⟨husername, hhost, hacct⟩
  · rintro ⟨husername, hhost, hacct⟩
    exact ⟨_, _, ⟨_, _, ⟨_, _, rfl, husername, rfl⟩, hhost, rfl⟩, hacct, rfl⟩

theorem Leaf.ofMembers_eq_ok_iff {kind : LeafKind} {props : Json.Members} {l : Leaf} :
    Leaf.ofMembers kind props = .ok l ↔ l.kind = kind ∧ l.ReadFrom props := by
  cases kind <;> cases l <;>
    simp [ofMembers, ReadFrom, Leaf.kind, Checked.map_eq_ok_iff, Checked.map2_eq_ok_iff,
      Json.Members.require_string_eq_ok_iff, Json.Members.allow_optionalText_eq_ok_iff,
      Json.Members.allow_optionalFlag_eq_ok_iff, Mention.ofMembers_eq_ok_iff]

theorem Node.checkProps_eq_ok_iff {α : Type} {ms : Json.Members} {model : String}
    {check : Json.Members → Checked α} {a : α} :
    Node.checkProps ms model check = .ok a ↔
      ∃ props : Json.Members, ms.get? "props" = some (.object props) ∧ check props = .ok a := by
  unfold checkProps
  rw [Json.Members.require_eq_ok_iff]
  constructor
  · rintro ⟨v, hv, h⟩
    cases hmodel : Json.checkModel model v with
    | error ps => simp [hmodel] at h
    | ok props =>
        rw [hmodel] at h
        rw [Json.checkModel_eq_ok_iff.mp hmodel] at hv
        exact ⟨props, hv, h⟩
  · rintro ⟨props, hprops, h⟩
    exact ⟨_, hprops, h⟩

theorem Node.loadLeaf_eq_ok_iff {kind : LeafKind} {ms : Json.Members} {l : Leaf} :
    Node.loadLeaf kind ms = .ok l ↔
      l.kind = kind ∧ ∃ props : Json.Members,
        ms.get? "props" = some (.object props) ∧ l.ReadFrom props := by
  unfold loadLeaf
  rw [checkProps_eq_ok_iff]
  simp only [Leaf.ofMembers_eq_ok_iff]
  constructor
  · rintro ⟨props, hprops, hkind, hl⟩
    exact ⟨hkind, props, hprops, hl⟩
  · rintro ⟨hkind, props, hprops, hl⟩
    exact ⟨props, hprops, hkind, hl⟩

theorem Node.loadBranch_eq_ok_iff {kind : BranchKind} {ms : Json.Members} {b : Branch} :
    Node.loadBranch kind ms = .ok b ↔ b.kind = kind ∧ b.ReadFrom ms := by
  cases kind with
  | styled style => cases b <;> simp [loadBranch, Branch.kind, Branch.ReadFrom, eq_comm]
  | link =>
      simp only [loadBranch, checkProps_eq_ok_iff, Checked.map2_eq_ok_iff,
        Json.Members.require_string_eq_ok_iff, Json.Members.allow_eq_ok_iff,
        Json.checkBool_eq_ok_iff]
      cases b with
      | link url silent =>
          simp [Branch.kind, Branch.ReadFrom]
      | _ => simp [Branch.kind]
  | fn =>
      have hargs : ∀ (props : Json.Members) (args : List (String × ArgValue)),
          (∃ v, props.get? "args" = some v ∧
              ∃ members, v = .object members ∧ ArgValue.AllReadFrom args members) ↔
            ∃ members, props.get? "args" = some (.object members) ∧
              ArgValue.AllReadFrom args members := by
        intro props args
        constructor
        · rintro ⟨_, hv, members, rfl, h⟩
          exact ⟨members, hv, h⟩
        · rintro ⟨members, hv, h⟩
          exact ⟨_, hv, members, rfl, h⟩
      simp only [loadBranch, checkProps_eq_ok_iff, Checked.map2_eq_ok_iff,
        Json.Members.require_string_eq_ok_iff, Json.Members.allow_eq_ok_iff,
        ArgValue.loadArgs_eq_ok_iff, hargs]
      cases b with
      | fn name args => simp [Branch.kind, Branch.ReadFrom]
      | _ => simp [Branch.kind]

end MfmRender
