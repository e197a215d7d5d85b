/-
# Quadrature.CommandLine.Transcript -- what a run leaves behind

The exit code of a run and the text on its two output channels. Lines for the reader go to the
first; notices and log records go to the second in the order in which they came. A log record is
written after a time stamp, which is the same for all of them.
-/
import Quadrature.CommandLine.Run

namespace Quadrature

set_option autoImplicit false

open Quadrature.Text

/-- The exit code of an ending. A result or a request that should not have been is a failure. -/
def Ending.code : Ending → Nat
  | .stopped code => code
  | .finished code => code.toNat
  | .refused _ | .broken _ => Code.failure.toNat

/-- The exit code and the output of a run. -/
structure Transcript where
  code : Nat
  output : String
  errors : String
deriving DecidableEq, Repr

namespace Transcript

/-- The line of a log record. -/
def logLine (stamp : String) (r : LogRecord) : String :=
  stamp ++ " " ++ r.level.name ++ " " ++ r.source ++ ": " ++ r.text

/-- The lines on the second channel. -/
def errorLines (stamp : String) (events : List Event) : List String :=
  events.filterMap fun
    | .output _ | .question => none
    | .notice line => some line
    | .log record => some (logLine stamp record)

/-- The lines with their ends. -/
def joinLines (lines : List String) : String := String.join (lines.map (· ++ "\n"))

/-- The transcript of a run. -/
def ofRun (stamp : String) (r : Recorded Ending) : Transcript where
  code := r.value.code
  output := joinLines (Recorded.outputs r.events)
  errors := joinLines (errorLines stamp r.events)

/-- The lines of an input. Each ends with a line feed, except that the last one need not. -/
def splitLines (text : String) : List String :=
  let rec go : List Char → List (List Char)
    | [] => []
    | c :: cs =>
      if c = '\n' then [] :: go cs
      else match go cs with
        | line :: lines => (c :: line) :: lines
        | [] => [[c]]
  (go (unifyNewlines text.toList)).map String.ofList

end Transcript

end Quadrature
