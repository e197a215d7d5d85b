/-
# Quadrature.Main -- the program

The outer layer: it looks up the settings of the environment, opens the file of a request, and
prints what a run says. A session is held line by line: the run is taken again with one more answer
after every question, and only what follows the questions already asked is printed. The clock is
not read, so log lines carry the word TIME in place of one.
-/
import Quadrature.CommandLine.Transcript

namespace Quadrature.Program

set_option autoImplicit false

/-- What stands in a log line for the time. -/
def stamp : String := "TIME"

/-- Print events. -/
def print (events : List Event) : IO Unit := do
  let out ← IO.getStdout
  let err ← IO.getStderr
  for e in events do
    match e with
    | .output line => out.putStrLn line
    | .notice line => err.putStrLn line
    | .log record => err.putStrLn (Transcript.logLine stamp record)
    | .question => out.flush

/-- The events after the first `count` questions: those up to the next question, and what follows
it if there is one. -/
def afterQuestions : Nat → List Event → List Event × Option (List Event)
  | 0, events =>
    let before := events.takeWhile (· ≠ .question)
    match events.dropWhile (· ≠ .question) with
    | [] => (before, none)
    | _ :: rest => (before ++ [.question], some rest)
  | count + 1, events => afterQuestions count ((events.dropWhile (· ≠ .question)).drop 1)

/-- Run and print what follows the first `asked` questions. Each further question takes a line of
the input until that ends. -/
partial def hold (world : Surroundings) (words : List String) (asked : Nat) : IO Ending := do
  let r := CommandLine.run world words
  let (events, more) := afterQuestions asked r.events
  print events
  match more with
  | none => return r.value
  | some rest =>
    if asked < world.input.length then hold world words (asked + 1)
    else
      let line ← (← IO.getStdin).getLine
      if line.isEmpty then
        print rest
        return r.value
      else
        hold { world with input := world.input ++ Transcript.splitLines line } words (asked + 1)

/-- The content of the file at a path. -/
def openFile (path : String) : IO (Except OpenError Bytes) := do
  try
    return .ok (← IO.FS.readBinFile path).toList
  catch
    | .inappropriateType (some _) .. => return .error (.underFile path)
    | .inappropriateType none .. => return .error (.isFolder path)
    | .invalidArgument .. => return .error (.nameTooLong path)
    | .permissionDenied .. => return .error (.denied path)
    | _ => return .error (.missing path)

/-- The settings and the file that a command line needs. -/
def surroundings (words : List String) : IO Surroundings := do
  let names := [Config.variableSetting, Config.incrementSetting, Config.levelSetting]
  let settings ← names.mapM fun name => return (name, ← IO.getEnv name)
  let path := (Arguments.parse words).toOption.bind (·.request)
  let file ← match path with
    | some path => openFile (Folder.normalPath path)
    | none => pure (.error (.missing ""))
  return ⟨fun name => (settings.lookup name).join, fun _ => file, []⟩

end Quadrature.Program

open Quadrature in
/-- Run the program with the words of its command line. -/
def main (words : List String) : IO UInt32 := do
  let ending ← Program.hold (← Program.surroundings words) words 0
  return ending.code.toUInt32
