/-
The switches of the command line.

A switch has a long name and perhaps a short one, and some take a value.  A
long name may be cut short as long as it fits one switch only.
-/
import MfmRender.Text.Digit
import MfmRender.Text.Quoted

namespace MfmRender.CommandLine

inductive Switch where
  | help
  | url
  | animate
  | codeTagAsDiv
  | rootTag
  | highlight
  | verbose
  deriving Repr, DecidableEq

namespace Switch

def all : List Switch :=
  [help, url, animate, codeTagAsDiv, rootTag, highlight, verbose]

/-- The names of a switch, the short one first. -/
def names : Switch → List String
  | help => ["-h", "--help"]
  | url => ["--url"]
  | animate => ["--animate"]
  | codeTagAsDiv => ["--code-tag-as-div"]
  | rootTag => ["--root-tag"]
  | highlight => ["--highlight"]
  | verbose => ["-v", "--verbose"]

/-- The switch is followed by a value. -/
def takesValue : Switch → Bool
  | url => true
  | rootTag => true
  | _ => false

/-- What messages call a switch. -/
def title (s : Switch) : String :=
  "/".intercalate s.names

/-- All names with their switches. -/
def named : List (String × Switch) :=
  all.flatMap fun s => s.names.map fun name => (name, s)

/-- The switch with exactly this name. -/
def ofName? (name : String) : Option Switch :=
  named.lookup name

end Switch

/-- What one argument is. -/
inductive Argument where
  | operand (text : String)
  /-- Two hyphens: only operands follow. -/
  | separator
  /-- A switch, by its short name or its long one, and the value written into the argument. -/
  | switch (s : Switch) (short : Bool) (value : Option String)
  /-- It looks like a switch and is none. -/
  | unknown (text : String)
  deriving Repr, DecidableEq

namespace Argument

/-- The text before the first equals sign, and the text after it if there is one. -/
def cutValue (text : String) : String × Option String :=
  let cs := text.toList
  let value := match cs.dropWhile (· != '=') with
    | [] => none
    | _ :: rest => some (String.ofList rest)
  (String.ofList (cs.takeWhile (· != '=')), value)

/-- A short name: one hyphen only. -/
def isShort (name : String) : Bool :=
  match name.toList with
  | '-' :: '-' :: _ => false
  | _ => true

/-- Digits, perhaps with a point among them and one line feed after them: what follows the sign of
a number. -/
def isNumber (cs : List Char) : Bool :=
  let body := if cs.getLast? = some '\n' then cs.dropLast else cs
  let after := body.dropWhile Text.isDecimalDigit
  match after with
  | [] => !body.isEmpty
  | '.' :: places => !places.isEmpty && places.all Text.isDecimalDigit
  | _ => false

/-- The switches that an argument may mean without spelling a name in full, under their names. -/
def candidates (text : String) : List (String × Switch × Option String) :=
  if isShort text then
    let name := String.ofList (text.toList.take 2)
    match Switch.ofName? name with
    | some s => [(name, s, some (String.ofList (text.toList.drop 2)))]
    | none => []
  else
    let (beginning, value) := cutValue text
    (Switch.named.filter fun n => beginning.toList.isPrefixOf n.1.toList).map fun (name, s) =>
      (name, s, value)

/-- An argument that begins with a hyphen and is longer, and that spells no name in full. -/
def ofUnspelled (text : String) : Except String Argument :=
  match candidates text with
  | [(name, s, value)] => .ok (switch s (isShort name) value)
  | [] =>
    let operand? := isNumber (text.toList.drop 1) || text.toList.contains ' '
    .ok (if operand? then operand text else unknown text)
  | several =>
    .error ("ambiguous option: " ++ text ++ " could match " ++ ", ".intercalate (several.map (·.1)))

/-- What an argument is, before any separator; an ambiguous one is reported. -/
def ofText (text : String) : Except String Argument :=
  match text.toList with
  | '-' :: _ :: _ =>
    match Switch.ofName? text with
    | some s => .ok (switch s (isShort text) none)
    | none =>
      match cutValue text with
      | (name, some value) =>
        match Switch.ofName? name with
        | some s => .ok (switch s (isShort name) (some value))
        | none => ofUnspelled text
      | (_, none) => ofUnspelled text
  | _ => .ok (operand text)

/-- What the arguments of a command line are. -/
def ofTexts : List String → Except String (List Argument)
  | [] => .ok []
  | text :: rest =>
    if text = "--" then .ok (separator :: rest.map operand)
    else
      match ofText text with
      | .error e => .error e
      | .ok a => (ofTexts rest).map (a :: ·)

end Argument

end MfmRender.CommandLine
