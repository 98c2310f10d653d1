/-
The options of a rendering.

Checking an option also brings it into normal form: the host of the instance is
bare, without scheme, blanks around it or slashes at its end, and the name of
the root element is one that markup allows.
-/
import MfmRender.Link
import MfmRender.Problem
import MfmRender.Text.Blank

namespace MfmRender

structure Config where
  /-- The host of the instance, bare and not empty. -/
  url : Option String := none
  /-- Animate the first few big and moving nodes. -/
  animate : Bool := false
  /-- Put code into neutral elements. -/
  codeTagAsDiv : Bool := false
  /-- The name of the outermost element. -/
  rootTagName : String := "p"
  /-- Colour block code instead of taking it as markup. -/
  highlightCode : Bool := false
  deriving Repr, DecidableEq

namespace Config

open Text

/-- The bare host in an address, if there is any: blanks around it go, then a web scheme, then
the slashes at its end. -/
def bareHost (url : String) : Option String :=
  let trimmed := trim url.toList
  let unschemed := match Link.dropScheme? trimmed with
    | some ('/' :: '/' :: rest) => rest
    | _ => trimmed
  match dropWhileEnd (· == '/') unschemed with
  | [] => none
  | host => some (String.ofList host)

/-- A name that an element may have: a letter, then letters, digits and hyphens. -/
def isTagName : List Char → Bool
  | [] => false
  | c :: rest => c.isAlpha && rest.all fun d => d.isAlphanum || d == '-'

/-- The name of the root element that a text asks for; a blank text asks for none. -/
def checkRootTagName (text : String) : Checked String :=
  match trim text.toList with
  | [] => .ok "p"
  | name =>
    if isTagName name then .ok (String.ofList name)
    else Checked.fault (.badRootTag (String.ofList name))

/-- A host from a value. -/
def loadUrl : Json → Checked (Option String)
  | .string s => .ok (bareHost s)
  | .null => .ok none
  | _ => Checked.fault .notAString

/-- The name of the root element from a value. -/
def loadRootTagName : Json → Checked String
  | .string s => checkRootTagName s
  | .null => .ok "p"
  | _ => Checked.fault .notAString

/-- A member that has two names, the first of which is preferred. -/
def allowEither {α : Type} (ms : Json.Members) (name other : String) (default : α)
    (check : Json → Checked α) : Checked α :=
  if (ms.get? name).isSome then ms.allow name default check else ms.allow other default check

/-- A configuration from the members of an object. -/
def ofMembers (ms : Json.Members) : Checked Config :=
  .ok Config.mk
  |> Checked.feed (ms.allow "url" none loadUrl)
  |> Checked.feed (ms.allow "animate" false Json.checkBool)
  |> Checked.feed (allowEither ms "codeTagAsDiv" "code_tag_as_div" false Json.checkBool)
  |> Checked.feed (allowEither ms "rootTagName" "root_tag_name" "p" loadRootTagName)
  |> Checked.feed (allowEither ms "highlightCode" "highlight_code" false Json.checkBool)

/-- A configuration from a value. -/
def load (v : Json) : Checked Config :=
  match Json.checkModel "RenderConfig" v with
  | .ok ms => ofMembers ms
  | .error ps => .error ps

/-- A configuration from options of which only the host and the root element need checking. -/
def ofOptions (url : Option String) (animate codeTagAsDiv : Bool) (rootTagName : String)
    (highlightCode : Bool) : Checked Config :=
  (Checked.inside (.member "root_tag_name") (checkRootTagName rootTagName)).map fun name =>
    { url := url.bind bareHost, animate, codeTagAsDiv, rootTagName := name, highlightCode }

end Config

end MfmRender
