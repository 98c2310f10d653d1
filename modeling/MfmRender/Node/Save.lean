/-
Nodes as values: the other direction of loading.

Every property is written, those that were left out in the document with their
defaults.  `toJson` writes the arguments of a function as an object; `listing`
is the form in which they are a list of pairs, which shows their order to every
reader.
-/
import MfmRender.Node.Basic

namespace MfmRender

def ArgValue.toJson : ArgValue → Json
  | flag b => .bool b
  | text s => .string s

/-- A value, or null where there is none. -/
def Json.ofOption {α : Type} (f : α → Json) : Option α → Json
  | none => .null
  | some a => f a

/-- The arguments as an object. -/
def ArgValue.argsObject (args : List (String × ArgValue)) : Json :=
  .object (args.map fun (name, a) => (name, a.toJson))

/-- The arguments as a list of pairs. -/
def ArgValue.argsListing (args : List (String × ArgValue)) : Json :=
  .array (args.map fun (name, a) => .array [.string name, a.toJson])

/-- The properties of a leaf. -/
def Leaf.props : Leaf → Json.Members
  | text s => [("text", .string s)]
  | inlineCode code => [("code", .string code)]
  | blockCode code lang => [("code", .string code), ("lang", Json.ofOption .string lang)]
  | mathInline formula => [("formula", .string formula)]
  | mathBlock formula => [("formula", .string formula)]
  | url address brackets => [("url", .string address), ("brackets", Json.ofOption .bool brackets)]
  | hashtag tag => [("hashtag", .string tag)]
  | mention m =>
    [("username", .string m.username), ("host", Json.ofOption .string m.host),
     ("acct", .string m.acct)]
  | search query content => [("query", .string query), ("content", .string content)]
  | emojiCode name => [("name", .string name)]
  | unicodeEmoji emoji => [("emoji", .string emoji)]

/-- The properties of a branch, if its kind has any. -/
def Branch.props? (saveArgs : List (String × ArgValue) → Json) : Branch → Option Json.Members
  | styled _ => none
  | link address silent => some [("url", .string address), ("silent", .bool silent)]
  | fn name args => some [("name", .string name), ("args", saveArgs args)]

namespace Node

mutual

/-- A node as a value, the arguments of functions written in some way. -/
def save (saveArgs : List (String × ArgValue) → Json) : Node → Json
  | .leaf l => .object [("type", .string l.kind.name), ("props", .object l.props)]
  | .branch b children =>
    let props := match b.props? saveArgs with
      | none => []
      | some ms => [("props", Json.object ms)]
    .object ([("type", .string b.kind.name)] ++ props ++
      [("children", .array (saveAll saveArgs children))])

def saveAll (saveArgs : List (String × ArgValue) → Json) : List Node → List Json
  | [] => []
  | n :: rest => save saveArgs n :: saveAll saveArgs rest

end

/-- A node as the value it could have been loaded from. -/
def toJson (n : Node) : Json :=
  save ArgValue.argsObject n

/-- A node with all that it holds, the arguments of functions in order. -/
def listing (n : Node) : Json :=
  save ArgValue.argsListing n

end Node

end MfmRender
