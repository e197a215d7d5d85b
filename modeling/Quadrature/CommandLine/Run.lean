/-
# Quadrature.CommandLine.Run -- one run of the program

A run reads its command line and its settings, then integrates what a file or the command line asks
for, or holds a session if neither does. Everything it needs from outside is in `Surroundings`, so
that a run is a function of that and of the command line. It prints either a result or an error;
`Ending` tells how it ended.
-/
import Quadrature.CommandLine.Arguments
import Quadrature.Contract.Document
import Quadrature.Folder
import Quadrature.Json.Reader
import Quadrature.Json.Writer
import Quadrature.Session
import Quadrature.Text.Utf8

namespace Quadrature

set_option autoImplicit false

open Quadrature.Text

/-- What a run finds around it. -/
structure Surroundings where
  /-- The settings of the environment. -/
  environment : String → Option String
  /-- The files by their paths. -/
  file : String → Except OpenError Bytes
  /-- The lines of the input. -/
  input : List String

/-- How a run ended. -/
inductive Ending where
  /-- The command line asked for help or was not understood. -/
  | stopped (code : Nat)
  | finished (code : Code)
  /-- The request of a session was refused. -/
  | refused (report : Report)
  /-- The result does not keep its contract. -/
  | broken (violation : Violation)

/-- Why there is no request. -/
inductive RequestError where
  | unopened (e : OpenError)
  | undecoded (e : Utf8Error)
  | malformed (e : Json.ReadError)
  | violated (violation : Violation)
  | rejected (report : Report)
  | bounds (e : BoundsError)
  | method (e : MethodError)

/-- The wording of an error. -/
def RequestError.message : RequestError → String
  | .unopened .nulCharacter => "Invalid input: " ++ OpenError.nulCharacter.message
  | .unopened e => "Cannot read request: " ++ e.message
  | .undecoded e => "Invalid input: " ++ e.message
  | .malformed (.number e) => "Invalid input: " ++ e.message
  | .malformed e => "Cannot read request: " ++ e.message
  | .violated violation => "Invalid request: " ++ violation.message
  | .rejected report => "Invalid input: " ++ report.message
  | .bounds e => "Invalid input: " ++ e.message
  | .method e => "Invalid input: " ++ e.message

namespace CommandLine

/-- The part of the program that its log records name. -/
def source : String := "src.orchestrator.cli"

/-- The request in a file. It has to keep the contract of requests. -/
def loadRequest (world : Surroundings) (path : String) : Except RequestError Request := do
  let bytes ← (world.file (Folder.normalPath path)).mapError .unopened
  let text ← (Utf8.decode bytes).mapError .undecoded
  let value ← (Json.read (unifyNewlines text)).mapError .malformed
  if let some violation := Contract.request.shape.firstViolation? value then
    throw (.violated violation)
  (Request.ofValue value).mapError .rejected

/-- The options that have to go with an expression and are missing. -/
def missingNames (a : Arguments) : List String :=
  (if a.partitions.isNone then ["--partitions"] else []) ++
  (if a.bounds.isNone then ["--bounds"] else []) ++
  (if a.method.isNone then ["--method"] else [])

/-- The request that the parts on a command line make. -/
def requestOf (expression : String) (partitions : Int) (bounds method : String) :
    Except RequestError Request := do
  let bounds ← (Bounds.parse bounds).mapError .bounds
  let method ← (Method.parse method).mapError .method
  (Request.ofParts expression (.int partitions) bounds method.name).mapError .rejected

/-- The line about a result: a sentence, or its record as JSON. The record has to keep the contract
of results. -/
def resultLine (json : Bool) (result : Result) : Except Violation String :=
  if json then
    match Contract.result.shape.firstViolation? result.toPayload with
    | some violation => .error violation
    | none => .ok (Json.writeString result.toPayload)
  else .ok result.summary

/-- Compile and integrate a request and print the result. -/
def integrateRequest (config : Config) (json : Bool) (request : Request) : Recorded Ending := do
  match ← (Pipeline.compile config request.expression).run with
  | .error e =>
    Recorded.notice ("Error compiling the equation: " ++ e.message)
    return .finished .failure
  | .ok function =>
    if Session.raisesPartitions config request then Recorded.notice Session.incrementNotice
    match ← (Pipeline.run config request (some function)).run with
    | .error e =>
      Recorded.log .debug source "Integration failed"
      Recorded.notice ("Error during integration: " ++ e.message)
      return .finished .failure
    | .ok result =>
      match resultLine json result with
      | .error violation => return .broken violation
      | .ok line =>
        Recorded.output line
        return .finished .success

/-- Integrate a request, or say why there is none. -/
def proceed (config : Config) (json : Bool) (request : Except RequestError Request) :
    Recorded Ending :=
  match request with
  | .error e => do
    Recorded.notice e.message
    return .finished .usage
  | .ok request => integrateRequest config json request

/-- Say what is wrong with the command line and stop. -/
def stopWith (e : UsageError) : Recorded Ending := do
  e.lines.forM Recorded.notice
  return .stopped 2

/-- Hold a session. -/
def converse (config : Config) (world : Surroundings) : Recorded Ending := do
  match ← Session.run config world.input with
  | .ok code => return .finished code
  | .error report => return .refused report

/-- A run whose command line and settings are read. -/
def perform (world : Surroundings) (config : Config) (a : Arguments) : Recorded Ending :=
  match a.request, a.expression with
  | some path, _ => proceed config a.json (loadRequest world path)
  | none, none => converse config world
  | none, some expression =>
    match a.partitions, a.bounds, a.method with
    | some partitions, some bounds, some method =>
      proceed config a.json (requestOf expression partitions bounds method)
    | _, _, _ => stopWith (.incomplete (missingNames a))

/-- The settings of a run: those of the environment, unless the command line has others. -/
def configOf (world : Surroundings) (a : Arguments) : Except ConfigError Config := do
  (← Config.ofEnvironment world.environment).override a.variableName a.levelName

/-- A run with a given command line. Log records below the level of the settings are left out. -/
def run (world : Surroundings) (words : List String) : Recorded Ending :=
  match Arguments.parse words with
  | .error .help => do
    helpLines.forM Recorded.output
    return .stopped 0
  | .error (.usage e) => stopWith e
  | .ok a =>
    match configOf world a with
    | .error e => do
      Recorded.notice ("Invalid configuration: " ++ e.message)
      return .finished .usage
    | .ok config => (perform world config a).atLevel config.level

end CommandLine

end Quadrature
