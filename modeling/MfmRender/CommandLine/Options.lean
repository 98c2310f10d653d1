/-
What a command line asks for.

The arguments are gone through in order.  The first operand names the input.
Whatever cannot be used is kept, and named in the end; a switch that is used
wrongly is reported at once, and a cry for help is answered at once.
-/
import MfmRender.CommandLine.Switch

namespace MfmRender.CommandLine

/-- The value of a switch. -/
inductive SwitchValue where
  | text (s : String)
  /-- Two hyphens after an equals sign, which are taken for a separator. -/
  | nothing
  deriving Repr, DecidableEq

/-- The value written into an argument. -/
def SwitchValue.written (text : String) : SwitchValue :=
  if text = "--" then nothing else .text text

/-- Why a command line is not carried out. -/
inductive Halt where
  | help
  | misuse (message : String)
  deriving Repr, DecidableEq

structure Options where
  /-- The operand that names the input. -/
  input : Option String := none
  url : Option SwitchValue := none
  animate : Bool := false
  codeTagAsDiv : Bool := false
  rootTag : SwitchValue := .text "p"
  highlight : Bool := false
  verbose : Bool := false
  /-- The arguments that could not be used. -/
  unused : List String := []
  deriving Repr, DecidableEq

namespace Options

/-- Keep an argument that cannot be used. -/
def keep (o : Options) (text : String) : Options :=
  { o with unused := o.unused ++ [text] }

/-- Give a switch its value. -/
def assign (o : Options) (s : Switch) (value : SwitchValue) : Options :=
  match s with
  | .url => { o with url := some value }
  | .rootTag => { o with rootTag := value }
  | _ => o

/-- Turn switches on, one after another. -/
def turnOn (o : Options) : List Switch → Except Halt Options
  | [] => .ok o
  | .help :: _ => .error .help
  | .animate :: rest => turnOn { o with animate := true } rest
  | .codeTagAsDiv :: rest => turnOn { o with codeTagAsDiv := true } rest
  | .highlight :: rest => turnOn { o with highlight := true } rest
  | .verbose :: rest => turnOn { o with verbose := true } rest
  | _ :: rest => turnOn o rest

/-- A switch is given a value and takes none. -/
def unwanted (s : Switch) (value : String) : Halt :=
  .misuse ("argument " ++ s.title ++ ": ignored explicit argument " ++ Text.quoted value)

/-- The switches that letters after the short name of a switch add to it. -/
def cluster (s : Switch) : List Char → Except Halt (List Switch)
  | [] => .ok [s]
  | c :: rest =>
    match Switch.ofName? (String.ofList ['-', c]) with
    | some next => (cluster next rest).map (s :: ·)
    | none => .error (unwanted s (String.ofList (c :: rest)))

/-- Turn on a switch that takes no value. -/
def flag (o : Options) (s : Switch) (short : Bool) : Option String → Except Halt Options
  | none => o.turnOn [s]
  | some value =>
    if short && value ≠ "" then
      match cluster s value.toList with
      | .ok ss => o.turnOn ss
      | .error e => .error e
    else .error (unwanted s value)

/-- Go through the arguments. -/
def collect (o : Options) : List Argument → Except Halt Options
  | [] => .ok o
  | .unknown text :: rest => collect (o.keep text) rest
  | .operand text :: .separator :: rest =>
    if o.input.isNone then collect { o with input := some text } rest
    else collect ((o.keep text).keep "--") rest
  | .operand text :: rest =>
    if o.input.isNone then collect { o with input := some text } rest
    else collect (o.keep text) rest
  | .separator :: .operand text :: rest =>
    if o.input.isNone then collect { o with input := some text } rest
    else collect ((o.keep "--").keep text) rest
  | .separator :: rest => collect (o.keep "--") rest
  | .switch s short value :: rest =>
    if s.takesValue then
      match value, rest with
      | some text, rest => collect (o.assign s (.written text)) rest
      | none, .operand text :: rest => collect (o.assign s (.text text)) rest
      | none, _ => .error (.misuse ("argument " ++ s.title ++ ": expected one argument"))
    else
      match o.flag s short value with
      | .ok o => collect o rest
      | .error e => .error e

/-- What a command line asks for, if it is used as it should. -/
def ofArguments (args : List String) : Except Halt (Options × String) :=
  match Argument.ofTexts args with
  | .error message => .error (.misuse message)
  | .ok found =>
    match collect {} found with
    | .error e => .error e
    | .ok o =>
      match o.input with
      | none => .error (.misuse "the following arguments are required: json_file")
      | some input =>
        if o.unused.isEmpty then .ok (o, input)
        else .error (.misuse ("unrecognized arguments: " ++ " ".intercalate o.unused))

end Options

end MfmRender.CommandLine
