/-
Documents under construction.

A document is a forest: trees of nodes with a number each, by which a node is
found wherever it is.  Numbers are given out once, so a node is in one place
only; moving it takes it away from where it was.
-/
import MfmRender.Html.Basic

namespace MfmRender

/-- What a node is, children apart. -/
inductive Label where
  | text (s : String)
  | aside (kind : AsideKind) (content : String)
  | element (name : String) (attrs : Attributes)
  deriving Repr, DecidableEq

/-- A node with its number and its children in order. -/
inductive Tree where
  | node (id : Nat) (label : Label) (children : List Tree)
  deriving Repr

namespace Tree

def id : Tree → Nat
  | node i _ _ => i

def label : Tree → Label
  | node _ l _ => l

def children : Tree → List Tree
  | node _ _ cs => cs

mutual

/-- The node with a number, with all that is below it. -/
def find? (wanted : Nat) : Tree → Option Tree
  | node i l cs => if i = wanted then some (node i l cs) else findIn? wanted cs

def findIn? (wanted : Nat) : List Tree → Option Tree
  | [] => none
  | t :: ts =>
    match find? wanted t with
    | some found => some found
    | none => findIn? wanted ts

end

mutual

/-- The trees without the node with a number and what is below it. -/
def removeIn (gone : Nat) : List Tree → List Tree
  | [] => []
  | t :: ts => if t.id = gone then removeIn gone ts else removeBelow gone t :: removeIn gone ts

/-- The tree without the node with a number below its root. -/
def removeBelow (gone : Nat) : Tree → Tree
  | node i l cs => node i l (removeIn gone cs)

end

mutual

/-- The tree with the node with a number changed. -/
def change (changed : Nat) (f : Label → List Tree → Label × List Tree) : Tree → Tree
  | node i l cs =>
    if i = changed then node i (f l cs).1 (f l cs).2 else node i l (changeIn changed f cs)

def changeIn (changed : Nat) (f : Label → List Tree → Label × List Tree) : List Tree → List Tree
  | [] => []
  | t :: ts => change changed f t :: changeIn changed f ts

end

mutual

/-- The node and all below it as markup. -/
def toHtml : Tree → Html
  | node _ (.text s) _ => .text s
  | node _ (.aside kind content) _ => .aside kind content
  | node _ (.element name attrs) cs => .element name attrs (toHtmlAll cs)

def toHtmlAll : List Tree → List Html
  | [] => []
  | t :: ts => toHtml t :: toHtmlAll ts

end

mutual

/-- A markup tree with its nodes numbered from `next` on, and the next number after them. -/
def ofHtml (next : Nat) : Html → Tree × Nat
  | .text s => (node next (.text s) [], next + 1)
  | .aside kind content => (node next (.aside kind content) [], next + 1)
  | .element name attrs hs =>
    let (cs, after) := ofHtmlAll (next + 1) hs
    (node next (.element name attrs) cs, after)

def ofHtmlAll (next : Nat) : List Html → List Tree × Nat
  | [] => ([], next)
  | h :: hs =>
    let (t, after) := ofHtml next h
    let (ts, last) := ofHtmlAll after hs
    (t :: ts, last)

end

end Tree

/-- The trees of a document, and the number of the next node. -/
structure Forest where
  trees : List Tree
  next : Nat

namespace Forest

def empty : Forest := ⟨[], 0⟩

/-- The node with a number. -/
def find? (f : Forest) (id : Nat) : Option Tree :=
  Tree.findIn? id f.trees

/-- Add a node on its own; its number is the next one. -/
def create (label : Label) (f : Forest) : Forest :=
  ⟨f.trees ++ [.node f.next label []], f.next + 1⟩

/-- Change the label of a node. -/
def relabel (id : Nat) (g : Label → Label) (f : Forest) : Forest :=
  { f with trees := Tree.changeIn id (fun l cs => (g l, cs)) f.trees }

/-- Take a node away from where it is and make it the last child of another, which is not below
it. -/
def move (parent : Nat) (child : Tree) (f : Forest) : Forest :=
  let without := Tree.removeIn child.id f.trees
  { f with trees := Tree.changeIn parent (fun l cs => (l, cs ++ [child])) without }

/-- Put a new text in the place of all children of a node, which stay as trees of their own. -/
def replaceChildren (parent : Tree) (text : String) (f : Forest) : Forest :=
  let trees := Tree.changeIn parent.id (fun l _ => (l, [.node f.next (.text text) []])) f.trees
  ⟨trees ++ parent.children, f.next + 1⟩

/-- Add new nodes behind the children of a node. -/
def graft (parent : Nat) (new : List Html) (f : Forest) : Forest :=
  let (grafts, next) := Tree.ofHtmlAll f.next new
  ⟨Tree.changeIn parent (fun l cs => (l, cs ++ grafts)) f.trees, next⟩

end Forest

end MfmRender
