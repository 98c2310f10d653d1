/-
Markup as trees.

A node is a piece of text, an element with attributes and children, or an
aside: a comment or declaration, whose content is never looked into.  Trees are
the only way markup comes about, so that text cannot turn into an element by
accident; `Html.print` is the one place where trees become text.

The class list of an element is an ordered set: a class is added at the end
unless it is there.  Where the attribute holds a plain text so far, its words are
the classes.
-/
import MfmRender.Text.Blank

namespace MfmRender

/-- What stands in markup without being text or an element. -/
inductive AsideKind where
  | comment
  | doctype
  | declaration
  | instruction
  | characterData
  deriving Repr, DecidableEq

/-- The value of an attribute: a text, or a list of names that is written with spaces between. -/
inductive AttrValue where
  | text (s : String)
  | names (ns : List String)
  deriving Repr, DecidableEq

/-- The attributes of an element, each name once. -/
abbrev Attributes := List (String × AttrValue)

inductive Html where
  | text (s : String)
  | aside (kind : AsideKind) (content : String)
  | element (name : String) (attrs : Attributes) (children : List Html)
  deriving Repr

namespace AttrValue

/-- The value as one text. -/
def asText : AttrValue → String
  | text s => s
  | names ns => " ".intercalate ns

end AttrValue

namespace Attributes

/-- The value of an attribute. -/
def get? (attrs : Attributes) (name : String) : Option AttrValue :=
  attrs.lookup name

/-- Give an attribute a value, a new one if it has one already. -/
def set (name : String) (value : AttrValue) : Attributes → Attributes
  | [] => [(name, value)]
  | (n, v) :: rest => if n = name then (n, value) :: rest else (n, v) :: set name value rest

/-- The classes that a value of the class attribute stands for. -/
def classesOf : Option AttrValue → List String
  | none => []
  | some (.names ns) => ns
  | some (.text s) => (Text.words s.toList).map String.ofList

/-- The classes of an element. -/
def classes (attrs : Attributes) : List String :=
  classesOf (attrs.get? "class")

/-- Add a class at the end, unless it is there. -/
def addClass (name : String) (attrs : Attributes) : Attributes :=
  if attrs.classes.contains name then attrs
  else Attributes.set "class" (.names (attrs.classes ++ [name])) attrs

end Attributes

namespace Html

/-- Elements that never have an end tag of their own. -/
def voidNames : List String :=
  ["area", "base", "br", "col", "embed", "hr", "img", "input", "keygen", "link", "menuitem", "meta",
   "param", "source", "track", "wbr", "basefont", "bgsound", "command", "frame", "image", "isindex",
   "nextid", "spacer"]

/-- An element that is written as one tag when it has no children. -/
def isVoid (name : String) : Bool :=
  voidNames.contains name

/-- An element whose text is written as it is. -/
def isRawText (name : String) : Bool :=
  name == "script" || name == "style"

/-- An element in which every space counts. -/
def keepsSpace (name : String) : Bool :=
  name == "pre" || name == "textarea"

end Html

end MfmRender
