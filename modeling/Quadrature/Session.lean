/-
# Quadrature.Session -- a dialogue about one integral

A session asks for an expression, a number of partitions, a domain and a rule, in this order. It
stops at the first answer that is not understood and compiles the expression only when all are.
Answers that are missing count as empty, except that a missing choice of the rule is no choice.
-/
import Quadrature.Pipeline

namespace Quadrature

set_option autoImplicit false

open Quadrature.Text
open Quadrature.Number

/-- How a run ended. -/
inductive Code where
  | success
  /-- The expression could not be compiled or integrated. -/
  | failure
  /-- The input was not understood. -/
  | usage
deriving DecidableEq, Repr

/-- The exit code. -/
def Code.toNat : Code → Nat
  | .success => 0
  | .failure => 1
  | .usage => 2

namespace Session

/-- The part of the program that its log records name. -/
def source : String := "src.orchestrator.session"

/-- The lines of the menu. -/
def menu : List String :=
  ["1. Left Endpoint", "2. Right Endpoint", "3. Midpoint", "4. Trapezoidal", "5. Simpson's Rule"]

/-- What is said when the number of partitions is raised. -/
def incrementNotice : String :=
  "Simpson's rule requires an even number of partitions. Incrementing partitions by 1."

/-- The number of partitions is raised. -/
def raisesPartitions (config : Config) (request : Request) : Bool :=
  config.simpsonAutoIncrement && request.effectivePartitions != request.partitions

/-- The number of partitions that an answer gives: a whole number above zero. -/
def readPartitions (answer : String) : Option Int :=
  match Whole.read (trim answer.toList) with
  | .ok n => if 0 < n then some n else none
  | .error _ => none

/-- The rule that an answer chooses by its number. -/
def readMethod (answer : String) : Option Method :=
  match Whole.read (trim answer.toList) with
  | .ok n => (Method.ofChoice (.int n)).toOption
  | .error _ => none

/-- The part of a session after all answers were understood. -/
def conclude (config : Config) (expression : String) (partitions : Int) (bounds : Bounds)
    (method : Method) : Recorded (Except Report Code) := do
  match ← (Pipeline.compile config expression).run with
  | .error e =>
    Recorded.output ("Error compiling the equation: " ++ e.message)
    return .ok .failure
  | .ok function =>
    match Request.ofParts expression (.int partitions) bounds method.name with
    | .error report => return .error report
    | .ok request =>
      if raisesPartitions config request then Recorded.output incrementNotice
      match ← (Pipeline.run config request (some function)).run with
      | .error e =>
        Recorded.log .debug source "Integration failed"
        Recorded.output ("Error during integration: " ++ e.message)
        return .ok .failure
      | .ok result =>
        Recorded.output result.summary
        return .ok .success

/-- Say a line and stop. -/
def refuse (line : String) : Recorded (Except Report Code) := do
  Recorded.output line
  return .ok .usage

/-- A session with the given answers. It fails with a report only if the request that the answers
make is refused. -/
def run (config : Config) (answers : List String) : Recorded (Except Report Code) := do
  Recorded.ask ["Enter an equation in terms of x"]
  let expression := answers[0]?.getD ""
  Recorded.ask ["How many partitions would you like?"]
  match readPartitions (answers[1]?.getD "") with
  | none => refuse "Invalid partitions value. Must be a positive integer."
  | some partitions =>
    Recorded.ask ["Enter domain bounds [x0,x1]: "]
    match Bounds.parse (answers[2]?.getD "") with
    | .error _ => refuse "Invalid input format. Please enter values as [x0,x1]."
    | .ok bounds =>
      Recorded.ask ("Select an integration method:" :: menu)
      match answers[3]?.bind readMethod with
      | none => refuse "Invalid method selection."
      | some method => conclude config expression partitions bounds method

end Session

end Quadrature
