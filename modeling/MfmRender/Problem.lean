/-
What can be wrong with a value that is checked against a shape.

A check either gives what it was to give or the list of its problems, each with
the place where it lies.  The parts of a value are checked on their own and
their problems are joined, so one fault never hides another; `Checked.map2` and
its kin keep the order in which the parts were given.
-/
import MfmRender.Json.Printer

namespace MfmRender

/-- One step from a value to a part of it. -/
inductive Step where
  | index (i : Nat)
  | member (name : String)
  deriving Repr, DecidableEq

def Step.text : Step → String
  | index i => toString i
  | member name => name

inductive Fault where
  /-- Neither an object nor something with attributes. -/
  | notAnObject
  /-- An object that does not say what kind of node it is. -/
  | noKind
  /-- An object whose kind is none of the known ones. -/
  | unknownKind (kind : Json)
  /-- Node inside node beyond what is followed. -/
  | tooDeep
  | missing
  | notAString
  | notABoolean
  /-- A text or whole number that is none of those that stand for true or false. -/
  | notATruthValue
  | notAList
  | notADictionary
  /-- Neither an object nor a ready-made `model`. -/
  | notModel (model : String)
  /-- None of the texts allowed. -/
  | notOneOf (allowed : List String)
  | badRootTag (name : String)
  deriving Repr

namespace Fault

/-- The texts in a row, each in quotes, the last after "or". -/
def choices : List String → String
  | [] => ""
  | [last] => Text.quoted last
  | [a, b] => Text.quoted a ++ " or " ++ Text.quoted b
  | a :: rest => Text.quoted a ++ ", " ++ choices rest

def message : Fault → String
  | notAnObject => "Input should be a valid dictionary or object to extract fields from"
  | noKind => "Unable to extract tag using discriminator 'type'"
  | unknownKind kind => "Input tag " ++ kind.shown ++ " found using 'type' does not match any kind"
  | tooDeep => "Recursion error - maximum validation depth exceeded"
  | missing => "Field required"
  | notAString => "Input should be a valid string"
  | notABoolean => "Input should be a valid boolean"
  | notATruthValue => "Input should be a valid boolean, unable to interpret input"
  | notAList => "Input should be a valid list"
  | notADictionary => "Input should be a valid dictionary"
  | notModel model => "Input should be a valid dictionary or instance of " ++ model
  | notOneOf allowed => "Input should be " ++ choices allowed
  | badRootTag name => "Value error, Invalid root tag name '" ++ name ++ "'"

/-- The short name of the fault. -/
def code : Fault → String
  | notAnObject => "model_attributes_type"
  | noKind => "union_tag_not_found"
  | unknownKind _ => "union_tag_invalid"
  | tooDeep => "recursion_loop"
  | missing => "missing"
  | notAString => "string_type"
  | notABoolean => "bool_type"
  | notATruthValue => "bool_parsing"
  | notAList => "list_type"
  | notADictionary => "dict_type"
  | notModel _ => "model_type"
  | notOneOf _ => "literal_error"
  | badRootTag _ => "value_error"

end Fault

/-- A fault and the way to it from the value that was checked. -/
structure Problem where
  place : List Step
  fault : Fault
  deriving Repr

namespace Problem

/-- The way to the fault, with a point between two steps. -/
def placeText (p : Problem) : String :=
  ".".intercalate (p.place.map Step.text)

/-- Place, message and short name of a problem. -/
def text (p : Problem) : String :=
  p.placeText ++ ": " ++ p.fault.message ++ " [" ++ p.fault.code ++ "]"

/-- All problems of a check. -/
def report (ps : List Problem) : String :=
  "; ".intercalate (ps.map text)

end Problem

/-- What a check gives, or its problems in order. -/
abbrev Checked (α : Type) := Except (List Problem) α

namespace Checked

variable {α β γ : Type}

/-- A check that fails right here. -/
def fault (f : Fault) : Checked α := .error [⟨[], f⟩]

/-- A check of one part, its problems placed inside the whole. -/
def inside (step : Step) : Checked α → Checked α
  | .ok a => .ok a
  | .error ps => .error (ps.map fun p => ⟨step :: p.place, p.fault⟩)

def map2 (f : α → β → γ) : Checked α → Checked β → Checked γ
  | .ok a, .ok b => .ok (f a b)
  | .ok _, .error qs => .error qs
  | .error ps, .ok _ => .error ps
  | .error ps, .error qs => .error (ps ++ qs)

/-- Hand one more part to what is being put together; the problems of the parts handed before
come first. -/
def feed (part : Checked α) (make : Checked (α → β)) : Checked β :=
  map2 (fun f a => f a) make part

/-- All checks of a list. -/
def all : List (Checked α) → Checked (List α)
  | [] => .ok []
  | c :: rest => map2 List.cons c (all rest)

/-- The checks of the items of a list, each placed at its index, the first at `start`. -/
def indexed (check : β → Checked α) (start : Nat) : List β → Checked (List α)
  | [] => .ok []
  | x :: rest => map2 List.cons (inside (.index start) (check x)) (indexed check (start + 1) rest)

end Checked

namespace Json

/-- A text. -/
def checkString : Json → Checked String
  | string s => .ok s
  | _ => Checked.fault .notAString

/-- The texts that stand for true and false, whatever the case of their letters. -/
def truthWord? (s : String) : Option Bool :=
  let word := String.ofList (s.toList.map Char.toLower)
  if ["1", "on", "t", "true", "y", "yes"].contains word then some true
  else if ["0", "off", "f", "false", "n", "no"].contains word then some false
  else none

/-- One and zero stand for true and false. -/
def truthNumber? (n : Int) : Option Bool :=
  if n = 1 then some true else if n = 0 then some false else none

/-- 2 to the 63rd: whole numbers of 64 bits lie between its negative and it. -/
def wordLimit : Int := 0x8000000000000000

/-- A boolean, or a text or number that stands for one. -/
def checkBool : Json → Checked Bool
  | bool b => .ok b
  | string s =>
    match truthWord? s with
    | some b => .ok b
    | none => Checked.fault .notATruthValue
  | int n =>
    match truthNumber? n with
    | some b => .ok b
    | none =>
      Checked.fault (if -wordLimit ≤ n ∧ n < wordLimit then .notATruthValue else .notABoolean)
  | float x =>
    match x.toInt? with
    | none => Checked.fault .notABoolean
    | some n =>
      match truthNumber? n with
      | some b => .ok b
      | none =>
        Checked.fault (if -wordLimit < n ∧ n < wordLimit then .notATruthValue else .notABoolean)
  | _ => Checked.fault .notABoolean

/-- What `check` takes, or nothing. -/
def checkOption {α : Type} (check : Json → Checked α) : Json → Checked (Option α)
  | null => .ok none
  | v => (check v).map some

namespace Members

/-- A member that has to be there. -/
def require {α : Type} (members : Members) (name : String) (check : Json → Checked α) : Checked α :=
  Checked.inside (.member name) <|
    match members.get? name with
    | some v => check v
    | none => Checked.fault .missing

/-- A member that may be left out. -/
def allow {α : Type} (members : Members) (name : String) (default : α) (check : Json → Checked α) :
    Checked α :=
  match members.get? name with
  | some v => Checked.inside (.member name) (check v)
  | none => .ok default

end Members

/-- One of some texts, each of which stands for something. -/
def checkOneOf {α : Type} (choices : List (String × α)) (v : Json) : Checked α :=
  let named? := match v with
    | string s => choices.lookup s
    | _ => none
  match named? with
  | some a => .ok a
  | none => Checked.fault (.notOneOf (choices.map Prod.fst))

/-- A list of which every item passes a check. -/
def checkList {α : Type} (check : Json → Checked α) : Json → Checked (List α)
  | array items => Checked.indexed check 0 items
  | _ => Checked.fault .notAList

/-- The members of an object that is to become a `model`. -/
def checkModel (model : String) : Json → Checked Members
  | object members => .ok members
  | _ => Checked.fault (.notModel model)

end Json

end MfmRender
