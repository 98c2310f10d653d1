/-
Requests to render: what a body asks for, and what is wrong with it.

A body is a JSON object that may have nodes and may have options.  Its nodes
have to be objects, and what is in them is left to the rendering.  A body that
is not declared to be JSON is text, which asks for nothing.
-/
import MfmRender.Config
import MfmRender.Http.Message
import MfmRender.Json.Encoding
import MfmRender.Json.Reader

namespace MfmRender.Http

structure RenderRequest where
  nodes : List Json
  /-- The options, if the request brings its own. -/
  config : Option Config

/-- Why a body asks for nothing that can be answered. -/
inductive BodyFault where
  /-- There is no body. -/
  | absent
  | badSyntax (fault : Json.SyntaxFault) (offset : Nat)
  /-- The body is no text, or holds more than is read. -/
  | unreadable
  /-- The body is not shaped as a request. -/
  | invalid (body : Json) (problems : List Problem)

namespace RenderRequest

/-- An object, which is not looked into. -/
def checkNode : Json → Checked Json
  | .object ms => .ok (.object ms)
  | _ => Checked.fault .notADictionary

/-- Options from the members of an object. -/
def checkConfig : Json → Checked Config
  | .object ms => Config.ofMembers ms
  | _ => Checked.fault .notAnObject

/-- A request from the value of a body. -/
def check : Json → Checked RenderRequest
  | .object ms =>
    .ok RenderRequest.mk
    |> Checked.feed (Json.Members.allow ms "nodes" [] (Json.checkList checkNode))
    |> Checked.feed (Json.Members.allow ms "config" none (Json.checkOption checkConfig))
  | _ => Checked.fault .notAnObject

/-- The value of a body. -/
def readBody (r : Request) : Except BodyFault Json :=
  if r.body = "" then .error .absent
  else if MediaType.isJson ((r.headers.find? "content-type").getD "") then
    match Json.Encoding.characters? r.body with
    | none => .error .unreadable
    | some cs =>
      match Json.readChars Json.maxDepth cs with
      | .ok v => .ok v
      | .error (.syntaxFault f offset) => .error (.badSyntax f offset)
      | .error _ => .error .unreadable
  else .ok (.string r.body)

/-- The request that a body makes. -/
def ofBody (r : Request) : Except BodyFault RenderRequest :=
  match readBody r with
  | .error f => .error f
  | .ok v =>
    match check v with
    | .ok request => .ok request
    | .error ps => .error (.invalid v ps)

end RenderRequest

/-! ### What a response says about a faulty body -/

mutual

/-- A value as a response shows it: members whose names begin with `_sa` are kept private. -/
def shownInput : Json → Json
  | .array vs => .array (shownInputs vs)
  | .object ms => .object (shownMembers ms)
  | v => v

def shownInputs : List Json → List Json
  | [] => []
  | v :: rest => shownInput v :: shownInputs rest

def shownMembers : List (String × Json) → List (String × Json)
  | [] => []
  | (name, v) :: rest =>
    if "_sa".toList.isPrefixOf name.toList then shownMembers rest
    else (name, shownInput v) :: shownMembers rest

end

/-- A step to a part of a value, as a value. -/
def stepJson : Step → Json
  | .index i => .int i
  | .member name => .string name

/-- The part of a value at some place. -/
def partAt (v : Json) : List Step → Json
  | [] => v
  | .index i :: rest =>
    match v with
    | .array vs =>
      match vs[i]? with
      | some part => partAt part rest
      | none => .null
    | _ => .null
  | .member name :: rest =>
    match v.member? name with
    | some part => partAt part rest
    | none => .null

/-- A fault in a body: its short name, the place, the message and the value there. -/
def detail (code : String) (place : List Json) (message : String) (input : Json)
    (context : Json.Members) : Json :=
  .object ([("type", .string code), ("loc", .array (.string "body" :: place)),
    ("msg", .string message), ("input", shownInput input)] ++
    if context.isEmpty then [] else [("ctx", .object context)])

/-- A problem of a body. -/
def problemDetail (body : Json) (p : Problem) : Json :=
  let context := match p.fault with
    | .badRootTag _ => [("error", Json.object [])]
    | _ => []
  detail p.fault.code (p.place.map stepJson) p.fault.message (partAt body p.place) context

/-- What a response says about the faults of a body. -/
def BodyFault.details : BodyFault → Json
  | absent => .array [detail "missing" [] Fault.missing.message .null []]
  | badSyntax f offset =>
    .array [detail "json_invalid" [.int offset] "JSON decode error" (.object [])
      [("error", .string f.message)]]
  | unreadable => .string "There was an error parsing the body"
  | invalid body ps => .array (ps.map (problemDetail body))

end MfmRender.Http
