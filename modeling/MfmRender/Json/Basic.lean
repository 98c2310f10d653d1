/-
JSON values.

The members of an object keep the order in which they were written, because a
document gives them a meaning: the arguments of a function node become classes
in that order.  Whole numbers have no bound and are kept apart from numbers
written with a point or an exponent.

Some values count as sequences: a text as that of its characters, an object as
that of its names.
-/
import MfmRender.Number.Binary64

namespace MfmRender

inductive Json where
  | null
  | bool (b : Bool)
  | int (n : Int)
  | float (x : Binary64)
  | string (s : String)
  | array (items : List Json)
  | object (members : List (String × Json))
  deriving Repr

namespace Json

/-- The members of an object in written order, each name once. -/
abbrev Members := List (String × Json)

/-- Put a member into an object: a name that is there already keeps its place and takes the
new value. -/
def Members.put (name : String) (value : Json) : Members → Members
  | [] => [(name, value)]
  | (n, v) :: rest => if n = name then (n, value) :: rest else (n, v) :: Members.put name value rest

/-- The value of the member of an object. -/
def Members.get? (members : Members) (name : String) : Option Json :=
  members.lookup name

/-- The member of a value, where only objects have members. -/
def member? (v : Json) (name : String) : Option Json :=
  match v with
  | object members => Members.get? members name
  | _ => none

/-- The parts of a value, one by one: the items of an array, the characters of a text, the names
of an object's members.  Other values have no parts. -/
def parts? : Json → Option (List Json)
  | array items => some items
  | string s => some (s.toList.map fun c => string (String.ofList [c]))
  | object members => some (members.map fun m => string m.1)
  | _ => none

/-- The name of the kind of value, as messages give it. -/
def kindName : Json → String
  | null => "NoneType"
  | bool _ => "bool"
  | int _ => "int"
  | float _ => "float"
  | string _ => "str"
  | array _ => "list"
  | object _ => "dict"

mutual

/-- No number in the value is infinite or missing. -/
def isFinite : Json → Bool
  | float x => x.isFinite
  | array items => areFinite items
  | object members => membersFinite members
  | _ => true

def areFinite : List Json → Bool
  | [] => true
  | v :: rest => isFinite v && areFinite rest

def membersFinite : List (String × Json) → Bool
  | [] => true
  | (_, v) :: rest => isFinite v && membersFinite rest

end

/-! ### Sequences -/

/-- A value that was to be gone through and has no parts. -/
structure NotIterable where
  value : Json
  deriving Repr

def NotIterable.message (e : NotIterable) : String :=
  "'" ++ e.value.kindName ++ "' object is not iterable"

/-- The parts of a value that has to have parts. -/
def parts (v : Json) : Except NotIterable (List Json) :=
  match v.parts? with
  | some items => .ok items
  | none => .error ⟨v⟩

/-- The parts of all parts in a row: one level of nesting is flattened. -/
def concat (vss : Json) : Except NotIterable (List Json) := do
  return (← (← vss.parts).mapM parts).flatten

/-- The parts of a value with `sep` between each two. -/
def intersperse (sep vs : Json) : Except NotIterable (List Json) := do
  return (← vs.parts).intersperse sep

end Json

end MfmRender
