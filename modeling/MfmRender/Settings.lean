/-
The settings of a server.

Every setting has a name, and an environment variable of that name in capitals
behind a fixed beginning gives it a value.  A file of variables does so too
where the environment does not.  All settings but the list of origins are taken
from the text of the variable as it stands; the origins are written in JSON.
-/
import MfmRender.Config
import MfmRender.Json.Reader
import MfmRender.Settings.EnvFile

namespace MfmRender

inductive LogLevel where
  | debug
  | info
  | warning
  | error
  deriving Repr, DecidableEq

namespace LogLevel

def name : LogLevel → String
  | debug => "DEBUG"
  | info => "INFO"
  | warning => "WARNING"
  | error => "ERROR"

/-- The levels under their names, the most talkative first. -/
def named : List (String × LogLevel) :=
  [debug, info, warning, error].map fun level => (level.name, level)

end LogLevel

structure Settings where
  appName : String := "mfm-html"
  appVersion : String := "1.0.0"
  debug : Bool := false
  logLevel : LogLevel := .info
  /-- The address of the instance that links lead to. -/
  instanceUrl : Option String := none
  animate : Bool := false
  codeTagAsDiv : Bool := false
  rootTagName : String := "p"
  highlightCode : Bool := false
  /-- The sites that may read the answers. -/
  corsOrigins : List String := ["http://localhost:8000", "http://localhost:3000"]
  deriving Repr, DecidableEq

/-- Where a setting can come from. -/
inductive SettingsSource where
  | environment
  | file
  deriving Repr, DecidableEq

def SettingsSource.name : SettingsSource → String
  | environment => "EnvSettingsSource"
  | file => "DotEnvSettingsSource"

inductive SettingsError where
  /-- The environment holds a null, which no environment can. -/
  | nullInEnvironment
  /-- The origins are not written in JSON. -/
  | undecodable (source : SettingsSource)
  /-- The origins lie too deep. -/
  | tooDeep (c : Json.Container)
  | invalid (problems : List Problem)
  deriving Repr

def SettingsError.message : SettingsError → String
  | nullInEnvironment => "embedded null byte"
  | undecodable source =>
    "error parsing value for field \"cors_origins\" from source \"" ++ source.name ++ "\""
  | tooDeep c => Json.tooDeepMessage c
  | invalid problems => Problem.report problems

namespace Settings

/-- What the name of a setting stands behind in the name of its variable. -/
def variableStart : String := "mfm_"

/-- The settings whose variables hold plain text. -/
def textNames : List String :=
  ["app_name", "app_version", "debug", "log_level", "instance_url", "animate", "code_tag_as_div",
    "root_tag_name", "highlight_code"]

/-- The values that some variables give to settings. -/
def valuesFrom (source : SettingsSource) (vars : Variables) : Except SettingsError Json.Members :=
  let texts := textNames.filterMap fun name =>
    (vars.find? (variableStart ++ name)).map fun text => (name, Json.string text)
  match vars.find? (variableStart ++ "cors_origins") with
  | none => .ok texts
  | some text =>
    match Json.read text with
    | .error (.tooDeep c) => .error (.tooDeep c)
    | .error _ => .error (.undecodable source)
    | .ok .null => .ok texts
    | .ok v => .ok (texts ++ [("cors_origins", v)])

/-- Settings from their values; those without one have their defaults. -/
def ofMembers (ms : Json.Members) : Checked Settings :=
  let standard : Settings := {}
  .ok Settings.mk
  |> Checked.feed (ms.allow "app_name" standard.appName Json.checkString)
  |> Checked.feed (ms.allow "app_version" standard.appVersion Json.checkString)
  |> Checked.feed (ms.allow "debug" standard.debug Json.checkBool)
  |> Checked.feed (ms.allow "log_level" standard.logLevel (Json.checkOneOf LogLevel.named))
  |> Checked.feed (ms.allow "instance_url" standard.instanceUrl (Json.checkOption Json.checkString))
  |> Checked.feed (ms.allow "animate" standard.animate Json.checkBool)
  |> Checked.feed (ms.allow "code_tag_as_div" standard.codeTagAsDiv Json.checkBool)
  |> Checked.feed (ms.allow "root_tag_name" standard.rootTagName Json.checkString)
  |> Checked.feed (ms.allow "highlight_code" standard.highlightCode Json.checkBool)
  |> Checked.feed (ms.allow "cors_origins" standard.corsOrigins (Json.checkList Json.checkString))

/-- The settings that an environment and a file of variables give.  A value of the environment
hides that of the file, but both have to be written well. -/
def load (environment : Variables) (file : Option String) : Except SettingsError Settings :=
  if environment.holdsNull then .error .nullInEnvironment
  else
    match valuesFrom .environment environment with
    | .error e => .error e
    | .ok first =>
      match valuesFrom .file ((file.map (EnvFile.read environment)).getD []) with
      | .error e => .error e
      | .ok second =>
        match ofMembers (first ++ second) with
        | .ok s => .ok s
        | .error ps => .error (.invalid ps)

/-- The options of a rendering that asks for none of its own. -/
def renderConfig (s : Settings) : Checked Config :=
  Config.ofOptions s.instanceUrl s.animate s.codeTagAsDiv s.rootTagName s.highlightCode

end Settings

end MfmRender
