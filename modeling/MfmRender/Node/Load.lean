/-
Loading nodes: from the values of a document to checked nodes.

A node is an object that names its kind; its properties are members of `props`
and the nodes inside a branch are in `children`.  What else an object holds is
dropped.  Children are checked before properties, and properties in the order
in which the kind lists them.

Nodes are followed to a limited depth.  A stretch of the document is governed
by the branch at which it was entered.  Entering a node costs one level of
depth.  A branch of a kind that is listed before the kind of the governing
branch costs one level more and governs what is inside it; the outermost branch
always does.
-/
import MfmRender.Node.Basic
import MfmRender.Problem

namespace MfmRender

namespace Leaf

/-- The name that messages give to the properties of a kind of leaf. -/
def propsModel : LeafKind → String
  | .text => "TextProps"
  | .inlineCode => "InlineCodeProps"
  | .blockCode => "BlockCodeProps"
  | .mathInline => "MathProps"
  | .mathBlock => "MathProps"
  | .url => "UrlProps"
  | .hashtag => "HashtagProps"
  | .mention => "MentionProps"
  | .search => "SearchProps"
  | .emojiCode => "EmojiCodeProps"
  | .unicodeEmoji => "UnicodeEmojiProps"

end Leaf

/-- A mention from its properties. -/
def Mention.ofMembers (ms : Json.Members) : Checked Mention :=
  .ok Mention.mk
  |> Checked.feed (ms.require "username" Json.checkString)
  |> Checked.feed (ms.allow "host" none (Json.checkOption Json.checkString))
  |> Checked.feed (ms.require "acct" Json.checkString)

/-- A mention from a value that holds its properties. -/
def Mention.load (v : Json) : Checked Mention :=
  match Json.checkModel "MentionProps" v with
  | .ok ms => Mention.ofMembers ms
  | .error ps => .error ps

/-- A leaf from its properties. -/
def Leaf.ofMembers (kind : LeafKind) (ms : Json.Members) : Checked Leaf :=
  let text name := ms.require name Json.checkString
  match kind with
  | .text => (text "text").map .text
  | .inlineCode => (text "code").map .inlineCode
  | .blockCode =>
    Checked.map2 .blockCode (text "code") (ms.allow "lang" none (Json.checkOption Json.checkString))
  | .mathInline => (text "formula").map .mathInline
  | .mathBlock => (text "formula").map .mathBlock
  | .url =>
    Checked.map2 .url (text "url") (ms.allow "brackets" none (Json.checkOption Json.checkBool))
  | .hashtag => (text "hashtag").map .hashtag
  | .mention => (Mention.ofMembers ms).map .mention
  | .search => Checked.map2 .search (text "query") (text "content")
  | .emojiCode => (text "name").map .emojiCode
  | .unicodeEmoji => (text "emoji").map .unicodeEmoji

/-- The value of an argument: a text as it is, all else as a boolean. -/
def ArgValue.load : Json → Checked ArgValue
  | .string s => .ok (.text s)
  | v => Checked.inside (.member "bool") ((Json.checkBool v).map .flag)

/-- The arguments of a function, in the order of the document. -/
def ArgValue.loadAll : Json.Members → Checked (List (String × ArgValue))
  | [] => .ok []
  | (name, v) :: rest =>
    Checked.map2 (fun a as => (name, a) :: as) (Checked.inside (.member name) (ArgValue.load v))
      (ArgValue.loadAll rest)

/-- The arguments of a function from a value. -/
def ArgValue.loadArgs : Json → Checked (List (String × ArgValue))
  | .object ms => ArgValue.loadAll ms
  | _ => Checked.fault .notADictionary

namespace Node

/-- The value of `props` that becomes a `model`. -/
def checkProps {α : Type} (ms : Json.Members) (model : String) (check : Json.Members → Checked α) :
    Checked α :=
  ms.require "props" fun v =>
    match Json.checkModel model v with
    | .ok props => check props
    | .error ps => .error ps

/-- What a branch of some kind does, from its object. -/
def loadBranch (kind : BranchKind) (ms : Json.Members) : Checked Branch :=
  match kind with
  | .styled s => .ok (.styled s)
  | .link =>
    checkProps ms "LinkProps" fun props =>
      Checked.map2 .link (props.require "url" Json.checkString)
        (props.allow "silent" false Json.checkBool)
  | .fn =>
    checkProps ms "FnProps" fun props =>
      Checked.map2 .fn (props.require "name" Json.checkString)
        (props.allow "args" [] ArgValue.loadArgs)

/-- A leaf of some kind, from its object. -/
def loadLeaf (kind : LeafKind) (ms : Json.Members) : Checked Leaf :=
  checkProps ms (Leaf.propsModel kind) (Leaf.ofMembers kind)

/-- How deep nodes are followed. -/
def maxDepth : Nat := 255

/-- A branch of this kind costs a level of its own inside a stretch governed by `governor`, and
governs from there on. -/
def governs (governor : Option BranchKind) (kind : BranchKind) : Bool :=
  match governor with
  | none => true
  | some g => kind.rank < g.rank

/-- The kind that an object names. -/
def kindOf (ms : Json.Members) : Checked Kind :=
  match ms.get? "type" with
  | none => Checked.fault .noKind
  | some (.string name) =>
    match Kind.ofName? name with
    | some kind => .ok kind
    | none => Checked.fault (.unknownKind (.string name))
  | some v => Checked.fault (.unknownKind (.string v.shown))

/-- The nodes of a list, each placed at its index. -/
def loadList (load : Json → Checked Node) : Json → Checked (List Node)
  | .array items => Checked.indexed load 0 items
  | _ => Checked.fault .notAList

/-- A branch of some kind from its object, where `load` loads the nodes inside it. -/
def loadAround (load : Json → Checked Node) (kind : BranchKind) (ms : Json.Members) :
    Checked Node :=
  Checked.map2 (fun children branch => .branch branch children)
    (ms.allow "children" [] (loadList load)) (loadBranch kind ms)

/-- A node from a value, with `levels` of depth left. -/
def load (levels : Nat) (governor : Option BranchKind) (v : Json) : Checked Node :=
  match v with
  | .object ms =>
    match kindOf ms with
    | .error ps => .error ps
    | .ok kind =>
      Checked.inside (.member kind.name) <|
        match levels, kind with
        | 0, _ => Checked.fault .tooDeep
        | _ + 1, .leaf k => (loadLeaf k ms).map .leaf
        | levels + 1, .branch k =>
          if governs governor k then
            match levels with
            | 0 => Checked.fault .tooDeep
            | levels + 1 => loadAround (load levels (some k)) k ms
          else loadAround (load levels governor) k ms
  | _ => Checked.fault .notAnObject

end Node

end MfmRender
