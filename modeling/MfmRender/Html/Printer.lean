/-
Writing trees as markup.

In text and in values the three characters that could begin or end markup are
written as references.  Attributes stand in the order of their names.  A value
stands in double quotes, or in single ones if it holds a double quote and no
single one.
-/
import MfmRender.Html.Basic

namespace MfmRender.Html

/-- One character of text. -/
def escapeChar (c : Char) : List Char :=
  if c == '&' then "&amp;".toList
  else if c == '<' then "&lt;".toList
  else if c == '>' then "&gt;".toList
  else [c]

/-- Text in which no character can begin or end markup. -/
def escape (cs : List Char) : List Char :=
  cs.flatMap escapeChar

/-- One character of an escaped value between double quotes. -/
def escapeQuote (c : Char) : List Char :=
  if c == '"' then "&quot;".toList else [c]

/-- An escaped value in the quotes that suit it. -/
def quoteValue (cs : List Char) : List Char :=
  if cs.contains '"' then
    if cs.contains '\'' then '"' :: cs.flatMap escapeQuote ++ ['"'] else '\'' :: cs ++ ['\'']
  else '"' :: cs ++ ['"']

/-- An attribute with the space before it. -/
def attrChars (attr : String × AttrValue) : List Char :=
  ' ' :: attr.1.toList ++ '=' :: quoteValue (escape attr.2.asText.toList)

/-- The attributes in the order of their names. -/
def attrsChars (attrs : Attributes) : List Char :=
  (attrs.mergeSort fun a b => decide (a.1 ≤ b.1)).flatMap attrChars

/-- What stands before and after the content of an aside. -/
def asideMarks : AsideKind → String × String
  | .comment => ("<!--", "-->")
  | .doctype => ("<!DOCTYPE ", ">\n")
  | .declaration => ("<?", "?>")
  | .instruction => ("<?", ">")
  | .characterData => ("<![CDATA[", "]]>")

/-- A start tag. -/
def startTag (name : String) (attrs : Attributes) : List Char :=
  '<' :: name.toList ++ attrsChars attrs ++ ['>']

/-- A tag that is an element all by itself. -/
def emptyTag (name : String) (attrs : Attributes) : List Char :=
  '<' :: name.toList ++ attrsChars attrs ++ ['/', '>']

/-- An end tag. -/
def endTag (name : String) : List Char :=
  '<' :: '/' :: name.toList ++ ['>']

mutual

/-- A node as markup; `raw` says that it stands where text is written as it is. -/
def chars (raw : Bool) : Html → List Char
  | text s => if raw then s.toList else escape s.toList
  | aside kind content => (asideMarks kind).1.toList ++ content.toList ++ (asideMarks kind).2.toList
  | element name attrs children =>
    if children.isEmpty && isVoid name then emptyTag name attrs
    else startTag name attrs ++ charsAll (isRawText name) children ++ endTag name

/-- Nodes in a row as markup. -/
def charsAll (raw : Bool) : List Html → List Char
  | [] => []
  | h :: rest => chars raw h ++ charsAll raw rest

end

/-- A node as markup. -/
def print (h : Html) : String :=
  String.ofList (chars false h)

/-- A node as it is shown when it stands alone, where a text is just its characters. -/
def printAlone : Html → String
  | text s => s
  | aside _ content => content
  | h => print h

end MfmRender.Html
