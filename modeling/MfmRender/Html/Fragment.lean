/-
From tokens to trees.

No tag closes another by what it means: a start tag opens an element inside the
innermost open one, and an end tag closes the innermost open element of its
name with all that is open inside it, or does nothing.  Void elements close at
once; an end tag that one of them has coming is swallowed.  A tag that is written
closed closes its element at once too, and takes no end tag from those to come.
What is still open at the end is closed there.

Adjacent text is one node.  Text and asides that are nothing but space shrink
to a line feed if they hold one, else to a single space, except where every
space counts.
-/
import MfmRender.Html.Token.Lexer

namespace MfmRender.Html

open Text

/-! ### Attributes -/

/-- Attributes that hold a list of names, by element; `*` is any element. -/
def listAttributes : List (String × List String) :=
  [("*", ["class", "accesskey", "dropzone"]), ("a", ["rel", "rev"]), ("link", ["rel", "rev"]),
   ("td", ["headers"]), ("th", ["headers"]), ("form", ["accept-charset"]), ("object", ["archive"]),
   ("area", ["rel"]), ("icon", ["sizes"]), ("iframe", ["sandbox"]), ("output", ["for"])]

/-- The attribute of the element holds a list of names. -/
def holdsNames (element attr : String) : Bool :=
  listAttributes.any fun (e, attrs) => (e == "*" || e == element) && attrs.contains attr

/-- The encoding that declared encodings are replaced by. -/
def encoding : String := "utf-8"

/-- The declared encodings in a content type replaced.  Each stands at the start of a line or after a
semicolon, where blanks may come first, and reaches to the next semicolon.  `opens` says that one
may begin right here, and `skip` that one is being passed over. -/
def replaceEncoding (opens skip : Bool) : List Char → List Char
  | [] => []
  | c :: rest =>
    if skip && c != ';' then replaceEncoding false true rest
    else if opens && "charset=".toList.isPrefixOf (c :: rest) then
      "charset=".toList ++ encoding.toList ++ replaceEncoding false true (rest.drop 7)
    else c :: replaceEncoding (c == ';' || c == '\n' || (opens && isBlank c)) false rest
termination_by cs => cs.length
decreasing_by
  · exact Nat.lt_succ_self _
  · simp only [List.length_drop, List.length_cons]
    omega
  · exact Nat.lt_succ_self _

/-- The attributes as they are kept: of one name the last value counts, and lists of names are
cut into names. -/
def keepAttributes (element : String) (written : List (String × String)) : Attributes :=
  written.foldl (fun attrs (name, value) =>
    let kept := if holdsNames element name then
        AttrValue.names ((words value.toList).map String.ofList)
      else .text value
    Attributes.set name kept attrs) []

/-- The attributes of an element; one that declares an encoding names the one in use. -/
def elementAttributes (element : String) (written : List (String × String)) : Attributes :=
  let attrs := keepAttributes element written
  if element != "meta" then attrs
  else if (attrs.get? "charset").isSome then Attributes.set "charset" (.text encoding) attrs
  else
    match attrs.get? "content", attrs.get? "http-equiv" with
    | some content, some equiv =>
      if lower equiv.asText.toList == "content-type".toList then
        let replaced := replaceEncoding true false content.asText.toList
        Attributes.set "content" (.text (String.ofList replaced)) attrs
      else attrs
    | _, _ => attrs

/-! ### Elements under construction -/

/-- An element whose end has not been read, with its children so far, the last first. -/
structure OpenElement where
  name : String
  attrs : Attributes
  done : List Html

/-- An element with its children in order. -/
def OpenElement.finish (e : OpenElement) : Html :=
  .element e.name e.attrs e.done.reverse

/-- What has been read of a fragment. -/
structure Fragment where
  /-- The open elements, the innermost first. -/
  opened : List OpenElement
  /-- The finished nodes outside all open elements, the last first. -/
  roots : List Html
  /-- Text that has not become a node yet, the last character first. -/
  pending : List Char
  /-- Names of void elements whose end tag may still come. -/
  awaited : List String

namespace Fragment

def empty : Fragment := ⟨[], [], [], []⟩

/-- Some open element counts every space. -/
def keepsSpace (f : Fragment) : Bool :=
  f.opened.any fun e => Html.keepsSpace e.name

/-- Add a finished node to the innermost open element. -/
def add (h : Html) (f : Fragment) : Fragment :=
  match f.opened with
  | [] => { f with roots := h :: f.roots }
  | e :: outer => { f with opened := { e with done := h :: e.done } :: outer }

/-- Shrink text that is nothing but space. -/
def shrink (cs : List Char) : List Char :=
  if cs.all isMarkupSpace then (if cs.contains '\n' then ['\n'] else [' ']) else cs

/-- Content as it is kept at this place. -/
def keep (f : Fragment) (cs : List Char) : String :=
  String.ofList (if f.keepsSpace then cs else shrink cs)

/-- Make a node of the pending text. -/
def flush (f : Fragment) : Fragment :=
  match f.pending with
  | [] => f
  | cs => { f.add (.text (f.keep cs.reverse)) with pending := [] }

/-- Close the innermost open element. -/
def closeOne (f : Fragment) : Fragment :=
  match f.opened with
  | [] => f
  | e :: outer => add e.finish { f with opened := outer }

/-- Close so many open elements. -/
def close : Nat → Fragment → Fragment
  | 0, f => f
  | n + 1, f => close n f.closeOne

/-- Close the innermost open element of this name and all that is open inside it. -/
def closeNamed (name : String) (f : Fragment) : Fragment :=
  match f.opened.findIdx? fun e => e.name == name with
  | some i => f.close (i + 1)
  | none => f

/-- Take in one token. -/
def read (f : Fragment) : Token → Fragment
  | .text cs => { f with pending := cs.reverse ++ f.pending }
  | .aside kind content =>
    let f := f.flush
    f.add (.aside kind (f.keep content))
  | .startTag name written closed =>
    let f := f.flush
    let attrs := elementAttributes name written
    if closed then f.add (.element name attrs [])
    else if isVoid name then
      { f.add (.element name attrs []) with awaited := name :: f.awaited }
    else { f with opened := ⟨name, attrs, []⟩ :: f.opened }
  | .endTag name =>
    if f.awaited.contains name then { f with awaited := f.awaited.erase name }
    else f.flush.closeNamed name

/-- The nodes of a fragment whose end has been reached. -/
def finish (f : Fragment) : List Html :=
  let f := f.flush
  (f.close f.opened.length).roots.reverse

/-- The nodes that some tokens make. -/
def ofTokens (ts : List Token) : List Html :=
  (ts.foldl read empty).finish

end Fragment

/-- The nodes that markup writes. -/
def parse (markup : String) : Except Rejection (List Html) :=
  (Token.ofMarkup markup.toList).map Fragment.ofTokens

end MfmRender.Html
