/-
What is loaded can be written back.

A document is checked when it is loaded, and much of it changes: words and numbers
become booleans, what was left out or null gets its default, and members that nothing
asks for are gone.  Once is enough, though.  The nodes, written back with every
property that their kind declares, are a document again (`WrittenInFull`), and loading
it gives these very nodes, so whatever loading did to the first document it does not
do to this one.

Each value that is written is one that the grammar reads as the node it was written
for (`allReadFrom_saveAll`): a boolean stands for itself, a text stays a text even where
a boolean may stand, null is read as nothing, and arguments keep their order.  The
depth is no obstacle, since it is counted along the nodes and not along the values.
-/
import MfmRender.Node.Save
import MfmRender.Proofs.Node.Flaw
import MfmRender.Proofs.Node.Loading
import MfmRender.Proofs.Preloading

namespace MfmRender

/-! ### Values that say everything -/

/-- The object has the properties of a kind, all of them and no more; a kind that has none needs
nothing. -/
def Json.Members.HoldsProps (ms : Json.Members) (kind : Kind) : Prop :=
  ∀ model fields, kind.props = some (model, fields) →
    ∃ props : Json.Members, ms.get? "props" = some (.object props) ∧
      props.map Prod.fst = fields.map Field.name

/-- The name of the member for properties, if the kind has any. -/
def Kind.propsNames (kind : Kind) : List String :=
  if kind.props.isSome then ["props"] else []

/-- An object that names its kind and has what the kind declares, all of it and no more: the
properties with none left out, and the children, each of them again such an object. -/
inductive Json.WrittenInFull : Json → Prop
  | leaf {ms : Json.Members} {kind : LeafKind} (names : ms.Names (.leaf kind))
      (members : ms.map Prod.fst = ["type"] ++ Kind.propsNames (.leaf kind))
      (props : ms.HoldsProps (.leaf kind)) : WrittenInFull (.object ms)
  | branch {ms : Json.Members} {kind : BranchKind} {items : List Json}
      (names : ms.Names (.branch kind))
      (members : ms.map Prod.fst = ["type"] ++ Kind.propsNames (.branch kind) ++ ["children"])
      (props : ms.HoldsProps (.branch kind)) (children : ms.get? "children" = some (.array items))
      (inside : ∀ v ∈ items, WrittenInFull v) : WrittenInFull (.object ms)

namespace Node

variable {saveArgs : List (String × ArgValue) → Json}

theorem writtenInFull_leaf (l : Leaf) : (Node.save saveArgs (.leaf l)).WrittenInFull := by
  refine @Json.WrittenInFull.leaf _ l.kind rfl rfl ?_
  rintro _ _ ⟨⟩
  refine ⟨l.props, rfl, ?_⟩
  cases l <;> rfl

theorem writtenInFull_branch (b : Branch) {children : List Node}
    (h : ∀ v ∈ Node.saveAll saveArgs children, v.WrittenInFull) :
    (Node.save saveArgs (.branch b children)).WrittenInFull := by
  refine @Json.WrittenInFull.branch _ b.kind (Node.saveAll saveArgs children) rfl ?_ ?_ ?_ h
  · cases b <;> rfl
  · cases b with
    | styled style => rintro _ _ ⟨⟩
    | link url silent =>
        rintro _ _ ⟨⟩
        exact ⟨_, rfl, rfl⟩
    | fn name args =>
        rintro _ _ ⟨⟩
        exact ⟨_, rfl, rfl⟩
  · cases b <;> rfl

theorem writtenInFull_saveAll (ns : List Node) :
    ∀ v ∈ Node.saveAll saveArgs ns, v.WrittenInFull := by
  induction ns using Node.forest_induction with
  | nil => simp [saveAll]
  | leaf l rest ih =>
      rw [saveAll, List.forall_mem_cons]
      exact ⟨writtenInFull_leaf l, ih⟩
  | branch b children rest ihc ihr =>
      rw [saveAll, List.forall_mem_cons]
      exact ⟨writtenInFull_branch b ihc, ihr⟩

end Node

/-! ### What is written is read as it was -/

theorem ArgValue.readFrom_toJson (a : ArgValue) : a.ReadFrom a.toJson := by
  cases a with
  | flag b => exact ⟨.bool b, by simp [toJson]⟩
  | text s => rfl

theorem ArgValue.allReadFrom_toJson (args : List (String × ArgValue)) :
    ArgValue.AllReadFrom args (args.map fun arg => (arg.1, arg.2.toJson)) := by
  induction args with
  | nil => rfl
  | cons arg rest ih => exact ⟨_, _, rfl, arg.2.readFrom_toJson, ih⟩

/-- Null is read as nothing, and what is written for something as that. -/
theorem Json.Members.holdsOption_ofOption {α : Type} {reads : Json → α → Prop} (f : α → Json)
    (h : ∀ a, reads (f a) a) {ms : Json.Members} {name : String} (o : Option α)
    (hms : ms.get? name = some (Json.ofOption f o)) : ms.HoldsOption reads name o := by
  cases o with
  | none => exact Or.inr hms
  | some a => exact ⟨f a, hms, h a⟩

theorem Leaf.readFrom_props (l : Leaf) : l.ReadFrom l.props := by
  cases l with
  | blockCode code lang =>
      exact ⟨rfl, Json.Members.holdsOption_ofOption .string (fun _ => rfl) lang rfl⟩
  | url href brackets =>
      exact ⟨rfl, Json.Members.holdsOption_ofOption .bool .bool brackets rfl⟩
  | mention m =>
      exact ⟨rfl, Json.Members.holdsOption_ofOption .string (fun _ => rfl) m.host rfl, rfl⟩
  | search query content => exact ⟨rfl, rfl⟩
  | _ => rfl

namespace Node

theorem readFrom_toJson_leaf (l : Leaf) : ReadFrom (toJson (.leaf l)) (.leaf l) :=
  ⟨_, l.props, rfl, rfl, rfl, l.readFrom_props⟩

theorem readFrom_toJson_branch (b : Branch) {children : List Node}
    (h : AllReadFrom (saveAll ArgValue.argsObject children) children) :
    ReadFrom (toJson (.branch b children)) (.branch b children) := by
  refine ⟨_, rfl, rfl, ?_, Or.inr ⟨saveAll ArgValue.argsObject children, ?_, h⟩⟩
  · cases b with
    | styled style => trivial
    | link url silent => exact ⟨_, rfl, rfl, Or.inr ⟨.bool silent, rfl, .bool silent⟩⟩
    | fn name args =>
        exact ⟨_, rfl, rfl, Or.inr ⟨_, rfl, ArgValue.allReadFrom_toJson args⟩⟩
  · cases b <;> rfl

/-- **The grammar reads every node out of the value that is written for it.** -/
theorem allReadFrom_saveAll (ns : List Node) :
    AllReadFrom (saveAll ArgValue.argsObject ns) ns := by
  induction ns using Node.forest_induction with
  | nil => rfl
  | leaf l rest ih => exact ⟨_, _, rfl, readFrom_toJson_leaf l, ih⟩
  | branch b children rest ihc ihr => exact ⟨_, _, rfl, readFrom_toJson_branch b ihc, ihr⟩

theorem map_toJson (ns : List Node) : ns.map toJson = saveAll ArgValue.argsObject ns := by
  induction ns with
  | nil => rfl
  | cons n rest ih => rw [List.map_cons, ih, saveAll, toJson]

end Node

/-- **Loaded documents are canonical.**  The nodes that a document is loaded as, written back with
all that their kinds declare, are a document that loads as the same nodes, and it is rendered to
the same end as the first, whatever the options. -/
theorem saved_document_canonical {vs : List Json} {ns : List Node} (hload : loadNodes vs = .ok ns) :
    (∀ v ∈ ns.map Node.toJson, v.WrittenInFull) ∧
    loadNodes (ns.map Node.toJson) = .ok ns ∧
    ∀ source, renderItems ((ns.map Node.toJson).map .raw) source
      = renderItems (vs.map .raw) source := by
  obtain ⟨-, hdepth⟩ := loadNodes_eq_ok_iff_readFrom.mp hload
  have hsaved : loadNodes (ns.map Node.toJson) = .ok ns := by
    rw [Node.map_toJson]
    exact loadNodes_eq_ok_iff_readFrom.mpr ⟨Node.allReadFrom_saveAll ns, hdepth⟩
  refine ⟨?_, hsaved, fun source => renderItems_congr hsaved hload source⟩
  rw [Node.map_toJson]
  exact Node.writtenInFull_saveAll ns

/-- A function and an address as a document may write them: with numbers and words for booleans, a
text that looks like one, a member that nothing asks for, and nothing that may be left out. -/
def looselyWritten : List Json :=
  [.object [("id", .int 7), ("type", .string "fn"), ("props", .object [("name", .string "spin"),
      ("args", .object [("speed", .string "true"), ("left", .int 1)])])],
    .object [("type", .string "url"), ("props", .object [("url", .string "/"),
      ("brackets", .string "YES")])],
    .object [("type", .string "link"), ("props", .object [("url", .string "/")])]]

/-- The same in full. -/
def fullyWritten : List Json :=
  [.object [("type", .string "fn"), ("props", .object [("name", .string "spin"),
      ("args", .object [("speed", .string "true"), ("left", .bool true)])]),
      ("children", .array [])],
    .object [("type", .string "url"), ("props", .object [("url", .string "/"),
      ("brackets", .bool true)])],
    .object [("type", .string "link"), ("props", .object [("url", .string "/"),
      ("silent", .bool false)]), ("children", .array [])]]

/-- Written in full the document loads alike and is rendered alike. -/
theorem saved_document_canonical_coerced :
    loadNodes looselyWritten
      = .ok [.branch (.fn "spin" [("speed", .text "true"), ("left", .flag true)]) [],
          .leaf (.url "/" (some true)), .branch (.link "/" false) []] ∧
    loadNodes fullyWritten
      = .ok [.branch (.fn "spin" [("speed", .text "true"), ("left", .flag true)]) [],
          .leaf (.url "/" (some true)), .branch (.link "/" false) []] ∧
    renderItems (fullyWritten.map .raw) .default
      = renderItems (looselyWritten.map .raw) .default := by
  have hload : loadNodes looselyWritten
      = .ok [.branch (.fn "spin" [("speed", .text "true"), ("left", .flag true)]) [],
          .leaf (.url "/" (some true)), .branch (.link "/" false) []] := rfl
  obtain ⟨-, hsaved, hrender⟩ := saved_document_canonical hload
  exact ⟨hload, hsaved, hrender .default⟩

end MfmRender
