/-
Carrying out a command line.

The command reads a document from a file or from its standard input and writes
it as markup.  What it reads and where it stands is given to it; what it writes
and how it ends is its outcome.  A file that cannot be asked for or is no text,
and markup that cannot be read, end it without an outcome.
-/
import MfmRender.CommandLine.Help
import MfmRender.CommandLine.Options
import MfmRender.Item
import MfmRender.Json.Reader
import MfmRender.Text.Blank
import MfmRender.Text.Utf8

namespace MfmRender.CommandLine

/-! ### Paths of files -/

namespace Path

open Text

/-- The steps of a path that lead somewhere: neither empty ones nor single points. -/
def steps (path : String) : List (List Char) :=
  (splitWhere (· == '/') path.toList).filter fun s => !s.isEmpty && s != ['.']

/-- Take a step; two points lead back. -/
def take (taken : List (List Char)) (step : List Char) : List (List Char) :=
  if step == ['.', '.'] then taken.dropLast else taken ++ [step]

/-- The path from the root that these steps lead to. -/
def ofSteps (steps : List (List Char)) : String :=
  String.ofList ('/' :: ['/'].intercalate (steps.foldl take []))

/-- The path from the root that `path` means in a directory, every step taken.  A tilde at the
front of a path that does not begin at the root is the home of the user that is named after it;
there has to be one. -/
def absolute? (home? : String → Option String) (directory path : String) : Option String :=
  if path.toList.head? = some '/' then some (ofSteps (steps path))
  else match steps path with
    | ('~' :: user) :: rest =>
      (home? (String.ofList user)).map fun home => ofSteps (steps home ++ rest)
    | own => some (ofSteps (steps directory ++ own))

end Path

/-! ### What a command finds and leaves -/

/-- What lies at a path. -/
inductive Entry where
  | missing
  | directory
  | file (bytes : List UInt8)
  deriving Repr, DecidableEq

/-- What a command finds around it. -/
structure Surroundings where
  /-- The directory that paths start from. -/
  directory : String
  standardInput : String
  /-- The home of a user; the one whose command it is has no name. -/
  home? : String → Option String
  /-- What lies at a path from the root. -/
  entry : String → Entry

/-- How a command ends, and what it has written. -/
structure Outcome where
  exit : Nat
  stdout : String := ""
  stderr : String := ""
  deriving Repr, DecidableEq

/-- What ends a command without an outcome. -/
inductive Crash where
  | nullInPath
  | unknownHome
  | isDirectory (path : String)
  | notText (e : Text.Utf8.Error)
  | tooManyDigits (count : Nat)
  | tooDeep (c : Json.Container)
  | failure (f : Failure)
  deriving Repr

def Crash.message : Crash → String
  | nullInPath => "embedded null byte"
  | unknownHome => "Could not determine home directory."
  | isDirectory path => "[Errno 21] Is a directory: " ++ Text.quoted path
  | notText e => e.message
  | tooManyDigits n => tooManyDigitsMessage n
  | tooDeep c => Json.tooDeepMessage c
  | failure f => f.message

namespace Outcome

/-- The command cannot do what it is asked to. -/
def fail (message : String) : Outcome :=
  { exit := 1, stderr := "Error: " ++ message ++ "\n" }

/-- The command is not carried out. -/
def ofHalt : Halt → Outcome
  | .help => { exit := 0, stdout := help }
  | .misuse message =>
    { exit := 2, stderr := usage ++ commandName ++ ": error: " ++ message ++ "\n" }

end Outcome

/-- The text of the file at a path; a file that is not there is an outcome. -/
def readFile (path : String) : Entry → Except Crash (Except Outcome String)
  | .missing => .ok (.error (.fail ("file not found: " ++ path)))
  | .directory => .error (.isDirectory path)
  | .file bytes =>
    match Text.Utf8.decode bytes with
    | .ok cs => .ok (.ok (String.ofList (Text.lineFeeds cs)))
    | .error e => .error (.notText e)

/-- The text that a command reads. -/
def readInput (around : Surroundings) (input : String) : Except Crash (Except Outcome String) :=
  if input = "-" then .ok (.ok around.standardInput)
  else if input.contains '\x00' then .error .nullInPath
  else
    match Path.absolute? around.home? around.directory input with
    | some path => readFile path (around.entry path)
    | none => .error .unknownHome

/-- The value of a switch as an option. -/
def SwitchValue.toJson : SwitchValue → Json
  | text s => .string s
  | nothing => .array []

/-- The configuration that options make. -/
def Options.config (o : Options) : Checked Config :=
  Config.ofMembers
    [("url", (o.url.map SwitchValue.toJson).getD .null), ("animate", .bool o.animate),
      ("code_tag_as_div", .bool o.codeTagAsDiv), ("root_tag_name", o.rootTag.toJson),
      ("highlight_code", .bool o.highlight)]

/-- The items of a document are ready to be rendered: there are some, and those that have to be
loaded can be. -/
def isReady (items : List Item) : Bool :=
  !items.isEmpty && (!items.any Item.isRawObject || (loadItems items).toBool)

/-- What a talkative command says about a document before it is rendered. -/
def announcement (verbose : Bool) (items : List Item) : String :=
  if verbose && isReady items then
    s!"DEBUG:mfmhtml.services.renderer:Rendering {items.length} root node(s)\n"
  else ""

/-- Render the items of a document. -/
def renderDocument (o : Options) (items : List Item) : Except Crash Outcome :=
  match o.config with
  | .error ps =>
    .ok (.fail ("invalid options: " ++ ((ps.head?.map (·.fault.message)).getD "")))
  | .ok config =>
    let said := announcement o.verbose items
    match renderItems items (.ready config) with
    | .ok html => .ok { exit := 0, stdout := html ++ "\n", stderr := said }
    | .error (.refused e) =>
      let failed := Outcome.fail e.message
      .ok { failed with stderr := said ++ failed.stderr }
    | .error f => .error (.failure f)

/-- Render the document that a text holds. -/
def renderText (o : Options) (text : String) : Except Crash Outcome :=
  match Json.read text with
  | .error (.tooManyDigits n) => .error (.tooManyDigits n)
  | .error (.tooDeep c) => .error (.tooDeep c)
  | .error e => .ok (.fail ("invalid JSON: " ++ e.message text))
  | .ok (.array vs) => renderDocument o (vs.map .raw)
  | .ok _ => .ok (.fail "expected a JSON array of nodes")

/-- Carry out a command line. -/
def run (args : List String) (around : Surroundings) : Except Crash Outcome :=
  match Options.ofArguments args with
  | .error h => .ok (.ofHalt h)
  | .ok (o, input) =>
    match readInput around input with
    | .error c => .error c
    | .ok (.error outcome) => .ok outcome
    | .ok (.ok text) => renderText o text

end MfmRender.CommandLine
