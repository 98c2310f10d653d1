/-
Editing a document by handles.

A handle is a name for a node; making a node binds the handle anew.  Each edit
has a target.  An edit that fails leaves the document as it was.
-/
import MfmRender.Document.Forest
import MfmRender.Html.Basic
import MfmRender.Html.Fragment
import MfmRender.Html.Printer

namespace MfmRender

inductive Edit where
  | createElement (name : String)
  | createText (text : String)
  | appendChild (child : String)
  | setAttribute (name value : String)
  | addClass (name : String)
  | setText (text : String)
  | injectMarkup (markup : String)
  | serialize
  deriving Repr

/-- What an edit wants of a node that only elements have. -/
inductive Need where
  | children
  | attributes
  | attributeValues
  | clearing
  deriving Repr, DecidableEq

inductive EditError where
  | unknownHandle (name : String)
  /-- The target is a text where the edit needs an element. -/
  | notAnElement (need : Need)
  /-- A node would be put into itself or into what is below it. -/
  | insideItself
  | rejected (reason : Html.Rejection)
  deriving Repr

def EditError.message : EditError → String
  | unknownHandle name => Text.quoted name
  | notAnElement .children => "'NavigableString' object has no attribute 'append'"
  | notAnElement .attributes => "'NavigableString' object does not support item assignment"
  | notAnElement .attributeValues => "'NavigableString' object has no attribute 'get'"
  | notAnElement .clearing => "'NavigableString' object has no attribute 'clear'"
  | insideItself => "Cannot insert a tag into itself."
  | rejected reason => reason.reason

/-- A document with the handles of its nodes. -/
structure Document where
  forest : Forest
  handles : List (String × Nat)

namespace Document

def empty : Document := ⟨.empty, []⟩

/-- The node that a handle names. -/
def find (d : Document) (handle : String) : Except EditError Tree :=
  match d.handles.lookup handle with
  | none => .error (.unknownHandle handle)
  | some id =>
    match d.forest.find? id with
    | none => .error (.unknownHandle handle)
    | some t => .ok t

/-- A new node under a handle. -/
def create (handle : String) (label : Label) (d : Document) : Document :=
  ⟨d.forest.create label, (handle, d.forest.next) :: d.handles⟩

/-- The node is an element. -/
def element (t : Tree) (need : Need) : Except EditError (String × Attributes) :=
  match t.label with
  | .element name attrs => .ok (name, attrs)
  | _ => .error (.notAnElement need)

/-- Change the attributes of a node. -/
def changeAttributes (id : Nat) (g : Attributes → Attributes) (d : Document) : Document :=
  { d with forest := d.forest.relabel id fun
    | .element name attrs => .element name (g attrs)
    | other => other }

/-- The document after an edit of the node with handle `target`. -/
def edit (target : String) (e : Edit) (d : Document) : Except EditError Document :=
  match e with
  | .createElement name => .ok (d.create target (.element name []))
  | .createText text => .ok (d.create target (.text text))
  | .appendChild child => do
    let parent ← d.find target
    let child ← d.find child
    let _ ← element parent .children
    if (child.find? parent.id).isSome then throw .insideItself
    return { d with forest := d.forest.move parent.id child }
  | .setAttribute name value => do
    let t ← d.find target
    let _ ← element t .attributes
    return d.changeAttributes t.id (Attributes.set name (.text value))
  | .addClass name => do
    let t ← d.find target
    let _ ← element t .attributeValues
    return d.changeAttributes t.id (Attributes.addClass name)
  | .setText text => do
    let t ← d.find target
    let _ ← element t .clearing
    return { d with forest := d.forest.replaceChildren t text }
  | .injectMarkup markup => do
    let t ← d.find target
    match Html.parse markup with
    | .error r => throw (.rejected r)
    | .ok new =>
      if new.isEmpty then return d
      let _ ← element t .children
      return { d with forest := d.forest.graft t.id new }
  | .serialize => do
    let _ ← d.find target
    return d

/-- The node that a handle names, as markup. -/
def print (target : String) (d : Document) : Except EditError String :=
  (d.find target).map fun t => t.toHtml.printAlone

/-- One edit: the document after it, which is the one before it if the edit fails, and the target
as it then is. -/
def step (d : Document) (target : String) (e : Edit) : Except EditError String × Document :=
  match d.edit target e with
  | .error err => (.error err, d)
  | .ok d => (d.print target, d)

/-- Edits one after another, each with what it shows. -/
def run (d : Document) : List (String × Edit) → List (Except EditError String)
  | [] => []
  | (target, e) :: rest => (d.step target e).1 :: run (d.step target e).2 rest

end Document

end MfmRender
