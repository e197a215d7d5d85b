/-
# Quadrature.Rule.Integrate -- a definite integral, approximately

`integrate` checks its arguments, lays the grid and takes the sum of the rule. The checks come
before the integrand is called: the rule has to be one of the five, the number of partitions a
positive whole number, the bounds finite, and the number even where the rule needs that. Bounds are
not put in order, so reversed bounds give the signed sum. The failures of the integrand are the
failures of the integral.
-/
import Quadrature.Rule.Sum
import Quadrature.Safeguard

namespace Quadrature

set_option autoImplicit false

open Quadrature.Number

namespace Method

/-- The rule that a value denotes: a name of one of the five. -/
def ofValue (method : Value) : Except Failure Method :=
  match method with
  | .list _ | .record _ => .error (.unhashable method)
  | .text (.string s) => match ofName? s with
    | some m => .ok m
    | none => .error (.argument (.unknownMethod method))
  | _ => .error (.argument (.unknownMethod method))

end Method

namespace Grid

/-- The number of partitions: a positive whole number. -/
def partitions (n : Value) : Except Failure Nat :=
  match n with
  | .int n => if n < 1 then .error (.argument (.partitionsBelowOne n)) else .ok n.toNat
  | _ => .error (.argument (.partitionsNotInteger n))

/-- The whole number that a value is; truth values count as 0 and 1. -/
def whole? : Value → Option Int
  | .int n => some n
  | .bool b => some (if b then 1 else 0)
  | _ => none

/-- The step from `x0` to `x1` in `n` partitions. Between whole numbers the difference is exact
and the quotient is rounded once. -/
def stepBetween (x0 x1 : Value) (n : Nat) : Except Failure Float :=
  match whole? x0, whole? x1 with
  | some a, some b =>
    match Double.quotient? (b - a) n with
    | some x => .ok x
    | none => .error .quotientTooLarge
  | _, _ => do
    let width := (← x1.toReal) - (← x0.toReal)
    return width / (← floatOfInt n)

/-- The grid for a rule on the domain from `x0` to `x1`. -/
def lay (method : Method) (x0 x1 n : Value) : Except Failure (Grid Float Value) := do
  let count ← partitions n
  let finite ← x0.isFinite
  let finite ← if finite then x1.isFinite else pure false
  if !finite then
    throw (.argument (.boundsNotFinite x0 x1))
  if method.requiresEven && count % 2 ≠ 0 then
    throw (.argument (.oddPartitions count))
  return ⟨x0, x1, ← x0.toReal, ← stepBetween x0 x1 count, count⟩

end Grid

/-- The rule and the grid for an integral. -/
def plan (x0 x1 n method : Value) : Except Failure (Method × Grid Float Value) := do
  let method ← Method.ofValue method
  return (method, ← Grid.lay method x0 x1 n)

/-- The approximate integral of `f` from `x0` to `x1` with `n` partitions. -/
def integrate {m : Type → Type} [Monad m] [MonadExceptOf Failure m] (f : Value → m Float)
    (x0 x1 n method : Value) : m Float :=
  match plan x0 x1 n method with
  | .ok (method, grid) => method.sum f .float grid
  | .error e => throw e

end Quadrature
