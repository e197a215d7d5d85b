/-
# Quadrature.Safeguard -- checks on numbers that come from outside

`Value.toFloat` converts a value to a double, reading texts; `Value.toReal` takes numbers only.
On them stand the checks of the domain: `isFinite`, the comparison up to rounding `isClose`, and
`requireFinite`, which turns a value into a finite double or says what is wrong with it.
-/
import Quadrature.Failure

namespace Quadrature

set_option autoImplicit false

open Quadrature.Text
open Quadrature.Number

/-- The nearest double of a whole number. -/
def floatOfInt (n : Int) : Except Failure Float :=
  match Double.ofInt? n with
  | some x => .ok x
  | none => .error .integerTooLarge

namespace Value

/-- The double that a number or a numeral denotes. -/
def toFloat : Value → Except Failure Float
  | .float x => .ok x
  | .int n => floatOfInt n
  | .bool b => .ok (if b then 1 else 0)
  | .text (.string s) =>
    match Numeral.read? s.toList with
    | some x => .ok x
    | none => .error (.unreadable s)
  | .text t => .error (.unreadable t)
  | v => .error (.notConvertible v)

/-- The double that a number denotes. -/
def toReal : Value → Except Failure Float
  | .float x => .ok x
  | .int n => floatOfInt n
  | .bool b => .ok (if b then 1 else 0)
  | v => .error (.notReal v)

/-- The value is neither infinite nor not-a-number. -/
def isFinite (v : Value) : Except Failure Bool := return (← v.toReal).isFinite

end Value

namespace Safeguard

/-- The relative tolerance of comparisons. -/
def relativeTolerance : Float := 1e-9

/-- The absolute tolerance of comparisons, which matters near zero. -/
def absoluteTolerance : Float := 1e-12

/-- The numbers are equal up to the tolerances: their distance is at most the relative part of one
of them, or the absolute tolerance. Equal numbers are close, an infinity is close to itself only. -/
def closeWithin (a b relative absolute : Float) : Bool :=
  let distance := (b - a).abs
  a == b ||
    (!a.isInf && !b.isInf &&
      (distance ≤ (relative * b).abs || distance ≤ (relative * a).abs || distance ≤ absolute))

/-- `closeWithin` with tolerances that may not be negative. -/
def isCloseWith (a b relative absolute : Float) : Except Failure Bool :=
  if relative < 0 || absolute < 0 then .error .negativeTolerance
  else .ok (closeWithin a b relative absolute)

/-- The comparison of values. -/
def isClose (a b : Value) (relative absolute : Value) : Except Failure Bool := do
  isCloseWith (← a.toReal) (← b.toReal) (← relative.toReal) (← absolute.toReal)

/-- The finite double that a named value denotes. A whole number beyond the range of doubles keeps
its own failure. -/
def requireFinite (v : Value) (name : String) : Except Failure Float :=
  match v.toFloat with
  | .ok x => if x.isFinite then .ok x else .error (.notFinite name v)
  | .error .integerTooLarge => .error .integerTooLarge
  | .error _ => .error (.notNumber name v)

end Safeguard

end Quadrature
