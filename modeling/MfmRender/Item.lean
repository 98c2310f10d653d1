/-
What a document is rendered from, and all that can go wrong.

The items of a document are raw values, nodes that were loaded before, or bare
bags of attributes.  If any raw object is among them the whole list is loaded,
where loaded nodes pass as they are; otherwise each item is rendered as it
stands, and a value that is no node is refused.
-/
import MfmRender.Json.Basic
import MfmRender.Node.Load
import MfmRender.Render

namespace MfmRender

inductive Item where
  | raw (v : Json)
  | loaded (n : Node)
  /-- Something that has attributes without being a node. -/
  | bag (attributes : Json.Members)

/-- Why a document is refused. -/
inductive RenderError where
  /-- An item is of no kind that can be rendered. -/
  | unsupportedKind (kind : Json)
  /-- A node of a known kind is not shaped as its kind demands. -/
  | malformedProps (problem : Problem)
  deriving Repr

def RenderError.message : RenderError → String
  | unsupportedKind kind => "unsupported node kind: " ++ kind.shown
  | malformedProps p => "malformed props: " ++ p.placeText ++ ": " ++ p.fault.message

/-- Why a call to render fails. -/
inductive Failure where
  | refused (e : RenderError)
  | invalidConfig (problems : List Problem)
  | rejectedMarkup (r : Html.Rejection)
  | notIterable (e : Json.NotIterable)
  /-- A thing of the kind `owner` was asked for an attribute that it does not have. -/
  | noAttribute (owner wanted : String)
  /-- A list or an object where the name of a kind was expected. -/
  | unhashable (v : Json)
  deriving Repr

namespace Failure

def message : Failure → String
  | refused e => e.message
  | invalidConfig ps => Problem.report ps
  | rejectedMarkup r =>
    match r with
    | .tooManyDigits _ => r.reason
    | _ =>
      "The markup you provided was rejected by the parser. Trying a different parser or a different " ++
        "encoding may help.\n\nOriginal exception(s) from parser:\n AssertionError: " ++ r.reason
  | notIterable e => e.message
  | noAttribute owner wanted => "'" ++ owner ++ "' object has no attribute '" ++ wanted ++ "'"
  | unhashable v => "unhashable type: '" ++ v.kindName ++ "'"

end Failure

/-- The first unknown kind wins over all other problems, and then the first problem. -/
def RenderError.ofProblems (ps : List Problem) : RenderError :=
  let unknown := ps.findSome? fun p =>
    match p.fault with
    | .unknownKind kind => some kind
    | _ => none
  match unknown, ps with
  | some kind, _ => .unsupportedKind kind
  | none, p :: _ => .malformedProps p
  | none, [] => .unsupportedKind .null

namespace Item

/-- The item is a raw object. -/
def isRawObject : Item → Bool
  | raw (.object _) => true
  | _ => false

/-- The name of the model of a kind of node. -/
def modelName (kind : Kind) : String :=
  kind.name.capitalize ++ "Node"

/-- A node from an item of a list that is loaded. -/
def load : Item → Checked Node
  | raw v => Node.load Node.maxDepth none v
  | loaded n => .ok n
  | bag ms =>
    match Node.kindOf ms with
    | .ok kind => Checked.inside (.member kind.name) (Checked.fault (.notModel (modelName kind)))
    | .error ps => .error ps

/-- The property that rendering a leaf asks for first. -/
def firstProperty : LeafKind → String
  | .text => "text"
  | .inlineCode => "code"
  | .blockCode => "lang"
  | .mathInline => "formula"
  | .mathBlock => "formula"
  | .url => "url"
  | .hashtag => "hashtag"
  | .mention => "host"
  | .search => "query"
  | .emojiCode => "name"
  | .unicodeEmoji => "emoji"

/-- What a bag of attributes is called. -/
def bagName : String := "types.SimpleNamespace"

/-- A bag whose properties are asked for one of theirs: no value has such properties. -/
def missingProperty (ms : Json.Members) (property : String) : Failure :=
  match ms.get? "props" with
  | none => .noAttribute bagName "props"
  | some props => .noAttribute props.kindName property

/-- A bag of attributes as a node, which succeeds only for an empty styled branch. -/
def bagNode (ms : Json.Members) : Except Failure Node :=
  match (ms.get? "type").getD .null with
  | .array vs => .error (.unhashable (.array vs))
  | .object vs => .error (.unhashable (.object vs))
  | .string name =>
    match Kind.ofName? name with
    | none => .error (.refused (.unsupportedKind (.string name)))
    | some (.leaf k) => .error (missingProperty ms (firstProperty k))
    | some (.branch .link) => .error (missingProperty ms "url")
    | some (.branch .fn) => .error (missingProperty ms "name")
    | some (.branch (.styled s)) =>
      match ms.get? "children" with
      | none => .error (.noAttribute bagName "children")
      | some v =>
        match v.parts with
        | .error e => .error (.notIterable e)
        | .ok [] => .ok (.branch (.styled s) [])
        | .ok _ => .error (.refused (.unsupportedKind .null))
  | v => .error (.refused (.unsupportedKind v))

/-- The node that an item is when it is rendered as it stands. -/
def node : Item → Except Failure Node
  | loaded n => .ok n
  | raw _ => .error (.refused (.unsupportedKind .null))
  | bag ms => bagNode ms

end Item

/-- Load the items of a list. -/
def loadItems (items : List Item) : Except RenderError (List Node) :=
  match Checked.indexed Item.load 0 items with
  | .ok ns => .ok ns
  | .error ps => .error (RenderError.ofProblems ps)

/-- Load the nodes of a document. -/
def loadNodes (vs : List Json) : Except RenderError (List Node) :=
  loadItems (vs.map .raw)

/-- Options as they are given to a call: left out, to be checked, checked already, or something
else. -/
inductive ConfigSource where
  | default
  | members (ms : Json.Members)
  | ready (config : Config)
  | other (v : Json)

/-- Options from a value; null means that they are left out. -/
def ConfigSource.ofJson : Json → ConfigSource
  | .null => .default
  | .object ms => .members ms
  | v => .other v

/-- The configuration that options make.  What is no configuration is found out only when it is
used. -/
def ConfigSource.resolve : ConfigSource → Except Failure (Except Failure Config)
  | default => .ok (.ok {})
  | ready config => .ok (.ok config)
  | other v => .ok (.error (.noAttribute v.kindName "root_tag_name"))
  | members ms =>
    match Config.ofMembers ms with
    | .ok config => .ok (.ok config)
    | .error ps => .error (.invalidConfig ps)

namespace Render

/-- Items as they stand as markup, up to the first that cannot be rendered. -/
def items (config : Config) : List Item → Counters → Except Failure (List Html)
  | [], _ => .ok []
  | i :: rest, counters =>
    match i.node with
    | .error e => .error e
    | .ok n =>
      match node config n counters with
      | (.error r, _) => .error (.rejectedMarkup r)
      | (.ok h, after) => (items config rest after).map (h :: ·)

end Render

/-- Render items as one document.  No items make no markup, whatever the options.  Options are
checked before items. -/
def renderItems (is : List Item) (source : ConfigSource) : Except Failure String :=
  if is.isEmpty then .ok ""
  else do
    let config ← source.resolve
    if is.any Item.isRawObject then
      match loadItems is with
      | .error e => throw (.refused e)
      | .ok ns =>
        match Render.document (← config) ns with
        | .ok h => return h.print
        | .error r => throw (.rejectedMarkup r)
    else
      let config ← config
      let hs ← Render.items config is {}
      return (Render.element config.rootTagName "root" [] hs).print

/-- Render the parts of a value as one document. -/
def renderJson (nodes : Json) (source : ConfigSource) : Except Failure String :=
  match nodes.parts with
  | .error e => .error (.notIterable e)
  | .ok vs => renderItems (vs.map .raw) source

end MfmRender
