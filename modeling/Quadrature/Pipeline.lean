/-
# Quadrature.Pipeline -- from a request to a result

`compile` writes the powers of an expression as calls and compiles it. `run` puts the domain of a
request in order, chooses the number of partitions, integrates, and collects the result. Both leave
log records behind: what was expanded, swapped or raised, and a warning if the domain has no
width.
-/
import Quadrature.Config
import Quadrature.Expr.Caret
import Quadrature.Expr.Compile
import Quadrature.Result
import Quadrature.Rule.Integrate

namespace Quadrature

set_option autoImplicit false

open Quadrature.Text
open Quadrature.Number

/-- Why a request gets no result. -/
inductive RunError where
  | compile (e : CompileError)
  | evaluate (e : Failure)

/-- The wording of an error. -/
def RunError.message : RunError → String
  | .compile e => e.message
  | .evaluate e => e.message

/-- The value of a compiled function at a number or a numeral. -/
def Compiled.apply (f : Compiled) (v : Value) : Except Failure Float := do
  f.evaluate (← v.toFloat)

namespace Pipeline

/-- The part of the program that its log records name. -/
def source : String := "src.orchestrator.pipeline"

/-- A log record of this part. -/
def say {ε : Type} (level : Level) (text : String) : Attempt ε Unit :=
  (Recorded.log level source text : Recorded Unit)

/-- The function that an expression denotes. -/
def compile (config : Config) (expression : String) : Attempt CompileError Compiled := do
  let normalized := Caret.normalizeString expression
  if normalized ≠ expression then
    say .debug ("Normalized expression " ++ quoted expression ++ " -> " ++ quoted normalized)
  let function ← Attempt.ofExcept id (Compiled.ofText normalized config.variableName)
  say .debug ("Compiled expression " ++ quoted normalized ++ " in variable " ++
    quoted config.variableName)
  return function

/-- The number of partitions that a request is run with. -/
def partitionsFor (config : Config) (request : Request) : Nat :=
  if config.simpsonAutoIncrement then request.effectivePartitions else request.partitions

/-- A number of partitions in decimal. -/
def countText (n : Nat) : Attempt RunError String :=
  match Whole.write? n with
  | some s => pure s
  | none => throw (.evaluate .integerTooLong)

/-- Two ends of a domain in brackets. -/
def domainText (b : Bounds) : String :=
  "[" ++ floatText b.x0 ++ ", " ++ floatText b.x1 ++ "]"

/-- The log records before an integration. -/
def announce (config : Config) (request : Request) (function : Compiled) :
    Attempt RunError Unit := do
  let bounds := request.bounds.normalized
  if request.bounds.isReversed then
    say .debug ("Swapped reversed bounds " ++ domainText request.bounds)
  if Safeguard.closeWithin bounds.width 0 Safeguard.relativeTolerance
      Safeguard.absoluteTolerance then
    say .warning ("Degenerate domain " ++ domainText bounds ++ ": the integral is zero")
  let partitions := partitionsFor config request
  if partitions ≠ request.partitions then
    say .info ("Simpson's rule requires an even number of partitions: " ++
      (← countText request.partitions) ++ " -> " ++ (← countText partitions))
  say .debug ("Integrating " ++ quoted function.source ++ " over " ++ domainText bounds ++
    " with " ++ request.method.name ++ " (partitions=" ++ (← countText partitions) ++ ")")

/-- The area under a function as a request asks for it. -/
def area (config : Config) (request : Request) (function : Compiled) : Except Failure Float :=
  let bounds := request.bounds.normalized
  integrate function.apply bounds.x0 bounds.x1 (.int (partitionsFor config request))
    (.text request.method.name)

/-- A number of partitions stays above zero. -/
theorem partitionsFor_pos (config : Config) (request : Request) :
    0 < partitionsFor config request := by
  have h := request.partitions_pos
  unfold partitionsFor Request.effectivePartitions Method.effectivePartitions
  split
  · split <;> omega
  · exact h

/-- The result for a request whose area is known. -/
def resultOf (config : Config) (request : Request) (function : Compiled) (area : Float) :
    Result where
  area := area
  expression := request.expression
  normalizedExpression := function.source
  method := request.method
  partitionsRequested := request.partitions
  partitionsUsed := partitionsFor config request
  bounds := request.bounds.normalized
  boundsSwapped := request.bounds.isReversed
  partitionsRequested_pos := request.partitions_pos
  partitionsUsed_pos := partitionsFor_pos config request

/-- The result for a request. The expression is compiled unless its function is given. -/
def run (config : Config) (request : Request) (given : Option Compiled) :
    Attempt RunError Result := do
  let function ← match given with
    | some function => pure function
    | none => Attempt.mapFailure .compile (compile config request.expression)
  announce config request function
  let area ← Attempt.ofExcept .evaluate (area config request function)
  return resultOf config request function area

end Pipeline

end Quadrature
