/-
Nodes of a parsed document.

A node is a branch or a leaf.  A branch has children and says what they have in
common: a style, a link around them, or a function applied to them.  A leaf
holds what it shows.  Each node is of one of 23 kinds, and the name of its kind
is what a document calls it.
-/
import MfmRender.Json.Basic

namespace MfmRender

/-- What a branch without properties of its own does to its children. -/
inductive Style where
  | bold
  | italic
  | strike
  | small
  | big
  | motion
  | quote
  | center
  | title
  | plain
  deriving Repr, DecidableEq

inductive BranchKind where
  | styled (style : Style)
  | link
  | fn
  deriving Repr, DecidableEq

inductive LeafKind where
  | text
  | inlineCode
  | blockCode
  | mathInline
  | mathBlock
  | url
  | hashtag
  | mention
  | search
  | emojiCode
  | unicodeEmoji
  deriving Repr, DecidableEq

inductive Kind where
  | branch (kind : BranchKind)
  | leaf (kind : LeafKind)
  deriving Repr, DecidableEq

def Style.name : Style → String
  | bold => "bold"
  | italic => "italic"
  | strike => "strike"
  | small => "small"
  | big => "big"
  | motion => "motion"
  | quote => "quote"
  | center => "center"
  | title => "title"
  | plain => "plain"

def BranchKind.name : BranchKind → String
  | styled s => s.name
  | link => "link"
  | fn => "fn"

def LeafKind.name : LeafKind → String
  | text => "text"
  | inlineCode => "inlineCode"
  | blockCode => "blockCode"
  | mathInline => "mathInline"
  | mathBlock => "mathBlock"
  | url => "url"
  | hashtag => "hashtag"
  | mention => "mention"
  | search => "search"
  | emojiCode => "emojiCode"
  | unicodeEmoji => "unicodeEmoji"

def Kind.name : Kind → String
  | branch k => k.name
  | leaf k => k.name

/-- All styles, in the order in which the kinds are listed. -/
def Style.all : List Style :=
  [.bold, .italic, .strike, .small, .big, .motion, .quote, .center, .title, .plain]

/-- All kinds of branch, in the order in which the kinds are listed. -/
def BranchKind.all : List BranchKind :=
  Style.all.map .styled ++ [.link, .fn]

/-- All kinds of leaf, in the order in which the kinds are listed. -/
def LeafKind.all : List LeafKind :=
  [.text, .inlineCode, .blockCode, .mathInline, .mathBlock, .url, .hashtag, .mention, .search,
   .emojiCode, .unicodeEmoji]

/-- All kinds, in the order in which they are listed. -/
def Kind.all : List Kind :=
  BranchKind.all.map .branch ++ LeafKind.all.map .leaf

/-- The kind with a given name. -/
def Kind.ofName? (name : String) : Option Kind :=
  Kind.all.find? fun k => k.name == name

/-- The place of a kind of branch in the list of kinds. -/
def BranchKind.rank (k : BranchKind) : Nat :=
  BranchKind.all.idxOf k

/-- The value of an argument of a function. -/
inductive ArgValue where
  | flag (b : Bool)
  | text (s : String)
  deriving Repr, DecidableEq

/-- Whom a mention means: a user, the host the user belongs to if it is another one, and the
full form in which both are written. -/
structure Mention where
  username : String
  host : Option String
  acct : String
  deriving Repr, DecidableEq

inductive Branch where
  | styled (style : Style)
  | link (url : String) (silent : Bool)
  | fn (name : String) (args : List (String × ArgValue))
  deriving Repr, DecidableEq

inductive Leaf where
  | text (text : String)
  | inlineCode (code : String)
  | blockCode (code : String) (lang : Option String)
  | mathInline (formula : String)
  | mathBlock (formula : String)
  | url (url : String) (brackets : Option Bool)
  | hashtag (hashtag : String)
  | mention (mention : Mention)
  | search (query content : String)
  | emojiCode (name : String)
  | unicodeEmoji (emoji : String)
  deriving Repr, DecidableEq

inductive Node where
  | branch (branch : Branch) (children : List Node)
  | leaf (leaf : Leaf)
  deriving Repr

def Branch.kind : Branch → BranchKind
  | styled s => .styled s
  | link .. => .link
  | fn .. => .fn

def Leaf.kind : Leaf → LeafKind
  | text _ => .text
  | inlineCode _ => .inlineCode
  | blockCode .. => .blockCode
  | mathInline _ => .mathInline
  | mathBlock _ => .mathBlock
  | url .. => .url
  | hashtag _ => .hashtag
  | mention _ => .mention
  | search .. => .search
  | emojiCode _ => .emojiCode
  | unicodeEmoji _ => .unicodeEmoji

def Node.kind : Node → Kind
  | branch b _ => .branch b.kind
  | leaf l => .leaf l.kind

end MfmRender
