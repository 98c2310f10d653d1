/-
The command.

Everything that is decided is decided by `CommandLine.run`; here its
surroundings are looked up and its outcome is written.
-/
import MfmRender.CommandLine.Run

namespace MfmRender.CommandLine

/-- What lies at a path; what cannot be read counts as missing. -/
def lookAt (path : String) : IO Entry := do
  try
    return .file (← IO.FS.readBinFile path).toList
  catch
    | .inappropriateType .. => return .directory
    | _ => return .missing

/-- The surroundings of a command with these arguments: the one file that it may ask for is read
before. -/
def lookAround (args : List String) : IO Surroundings := do
  let directory ← IO.currentDir
  let home ← IO.getEnv "HOME"
  let around : Surroundings :=
    { directory := directory.toString
      standardInput := ""
      home? := fun user => if user = "" then home else none
      entry := fun _ => .missing }
  match Options.ofArguments args with
  | .error _ => return around
  | .ok (_, "-") => return { around with standardInput := ← (← IO.getStdin).readToEnd }
  | .ok (_, input) =>
    match Path.absolute? around.home? around.directory input with
    | none => return around
    | some path =>
      let found ← lookAt path
      return { around with entry := fun asked => if asked = path then found else .missing }

end MfmRender.CommandLine

open MfmRender.CommandLine in
/-- The outcome of a command line, written. -/
def main (args : List String) : IO UInt32 := do
  match run args (← lookAround args) with
  | .ok outcome =>
    (← IO.getStdout).putStr outcome.stdout
    (← IO.getStderr).putStr outcome.stderr
    return UInt32.ofNat outcome.exit
  | .error crash =>
    (← IO.getStderr).putStrLn crash.message
    return 1
