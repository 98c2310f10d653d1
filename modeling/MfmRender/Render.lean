/-
Rendering nodes as markup trees.

Every node becomes one element, or one piece of text for an emoji that has no
picture, and every element says in `data-mfm` what it came from.  Two counters
run through the document in the order in which nodes begin: of the big nodes
and of the moving ones only the first few are animated.  They keep what they
counted when a node cannot be rendered.
-/
import MfmRender.Config
import MfmRender.Highlight.Markup
import MfmRender.Html.Basic
import MfmRender.Html.Fragment
import MfmRender.Html.Printer
import MfmRender.Node.Basic
import MfmRender.Text.Blank

namespace MfmRender

/-- How many big and moving nodes have begun. -/
structure Counters where
  big : Nat := 0
  motion : Nat := 0
  deriving Repr, DecidableEq

/-- How many nodes of each of the two kinds are animated. -/
def animationBudget : Nat := 3

/-- What rendering gives, and the counters after it. -/
abbrev Rendering (α : Type) := Counters → Except Html.Rejection α × Counters

namespace Render

/-- An element that says what it came from. -/
def element (tag origin : String) (attrs : Attributes) (children : List Html) : Html :=
  .element tag (("data-mfm", .text origin) :: attrs) children

/-- The classes of an element, added one by one. -/
def classAttributes (names : List String) : Attributes :=
  names.foldl (fun attrs name => Attributes.addClass name attrs) []

/-- The classes of the big or moving node that is the `count`-th of its kind. -/
def animation (config : Config) (name : String) (count : Nat) : Attributes :=
  if config.animate && count ≤ animationBudget then classAttributes ["animated", name] else []

/-- The element of a styled node, and the name of its animation if it has one. -/
def styleTag : Style → String
  | .bold => "b"
  | .italic => "i"
  | .strike => "del"
  | .small => "small"
  | .big => "strong"
  | .motion => "span"
  | .quote => "blockquote"
  | .center => "div"
  | .title => "h1"
  | .plain => "span"

/-- The attributes of a link to some address.  A link that leads away opens a page of its own,
which learns nothing of this one. -/
def anchorAttributes (href : String) (relation : List String) : Attributes :=
  let away := Link.isExternal href
  let relation := (if away then ["noopener", "noreferrer"] else []) ++ relation
  ("href", .text href) ::
    (if away then [("target", .text "_blank")] else []) ++
    (if relation.isEmpty then [] else [("rel", .text (" ".intercalate relation))])

/-- A link to some address. -/
def anchor (href origin : String) (relation : List String) (children : List Html) : Html :=
  element "a" origin (anchorAttributes href relation) children

/-- The lines of a text as text nodes with a break between each two. -/
def textChildren (text : String) : List Html :=
  ((Text.splitLines text.toList).map fun line => Html.text (String.ofList line)).intersperse
    (.element "br" [] [])

/-- The class that names the language of block code. -/
def languageAttributes : Option String → Attributes
  | none => []
  | some lang => if lang = "" then [] else classAttributes ["language-" ++ lang]

/-- The markup that block code is put in as. -/
def codeMarkup (config : Config) (code : String) (lang : Option String) : String :=
  if config.highlightCode then Highlight.markup code lang else code

/-- A leaf as markup. -/
def leaf (config : Config) : Leaf → Except Html.Rejection Html
  | .text text => .ok (element "span" "text" [] (textChildren text))
  | .inlineCode code =>
    .ok (element (if config.codeTagAsDiv then "span" else "code") "inlineCode" [] [.text code])
  | .blockCode code lang =>
    (Html.parse (codeMarkup config code lang)).map fun nodes =>
      let inner := element (if config.codeTagAsDiv then "div" else "code") "blockCode-inner"
        (languageAttributes lang) nodes
      element (if config.codeTagAsDiv then "div" else "pre") "blockCode" [] [inner]
  | .mathInline formula => .ok (element "code" "mathInline" [] [.text formula])
  | .mathBlock formula => .ok (element "code" "mathBlock" [] [.text formula])
  | .url url _ => .ok (anchor url "url" [] [.text url])
  | .hashtag tag => .ok (anchor (Link.hashtag tag config.url) "hashtag" ["tag"] [.text ("#" ++ tag)])
  | .mention m => .ok (anchor (Link.mention m config.url) "mention" [] [.text m.acct])
  | .search query content => .ok (anchor (Link.search query) "search" [] [.text content])
  | .unicodeEmoji emoji => .ok (.text emoji)
  | .emojiCode name =>
    match Link.host? config.url with
    | none => .ok (.text (":" ++ name ++ ":"))
    | some host =>
      .ok (element "img" "emojiCode" [("src", .text (Link.emoji name host)), ("alt", .text name)] [])

/-- The counters after a branch has begun. -/
def count (counters : Counters) : Branch → Counters
  | .styled .big => { counters with big := counters.big + 1 }
  | .styled .motion => { counters with motion := counters.motion + 1 }
  | _ => counters

/-- The element of a branch that has begun, around its children. -/
def branch (config : Config) (counters : Counters) (b : Branch) (children : List Html) : Html :=
  match b with
  | .styled .big => element "strong" "big" (animation config "tada" counters.big) children
  | .styled .motion =>
    element "span" "motion" (animation config "rubberBand" counters.motion) children
  | .styled style => element (styleTag style) style.name [] children
  | .link url _ => anchor url "link" [] children
  | .fn name args => element "span" name (classAttributes (args.map Prod.fst)) children

mutual

/-- A node as markup. -/
def node (config : Config) : Node → Rendering Html
  | .leaf l => fun counters => (leaf config l, counters)
  | .branch b children => fun counters =>
    let begun := count counters b
    match nodes config children begun with
    | (.ok hs, after) => (.ok (branch config begun b hs), after)
    | (.error e, after) => (.error e, after)

/-- Nodes as markup, in order, up to the first that cannot be rendered. -/
def nodes (config : Config) : List Node → Rendering (List Html)
  | [] => fun counters => (.ok [], counters)
  | n :: rest => fun counters =>
    match node config n counters with
    | (.error e, after) => (.error e, after)
    | (.ok h, after) =>
      match nodes config rest after with
      | (.ok hs, last) => (.ok (h :: hs), last)
      | (.error e, last) => (.error e, last)

end

/-- A whole document: its nodes inside the root element. -/
def document (config : Config) (ns : List Node) : Except Html.Rejection Html :=
  match nodes config ns {} with
  | (.ok hs, _) => .ok (element config.rootTagName "root" [] hs)
  | (.error e, _) => .error e

end Render

end MfmRender
