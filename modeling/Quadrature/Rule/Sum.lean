/-
# Quadrature.Rule.Sum -- the sums of the five rules

A rule samples the integrand on a uniform grid and adds the samples up from left to right. The
sums are written once over an `Arithmetic`, so that they run on doubles and can be reasoned about
over exact numbers, and over any monad, so that the integrand may fail or keep a record.

    left         sum of f (x i)                   for i = 0 … n - 1   times dx
    right        sum of f (x i)                   for i = 1 … n       times dx
    midpoint     sum of f (x (i + 1/2))           for i = 0 … n - 1   times dx
    trapezoidal  sum of (f (x i) + f (x (i+1)))/2 for i = 0 … n - 1   times dx
    simpson      f first + f last + sum of w f (x i), w = 4 for odd and 2 for even i,
                                                  for i = 1 … n - 1   times dx / 3

where `x t = x 0 + t dx`.
-/
import Quadrature.Rule.Method

namespace Quadrature

set_option autoImplicit false

/-- Numbers that the rules calculate with. -/
class Arithmetic (α : Type) extends Add α, Sub α, Mul α, Div α where
  ofNat : Nat → α
  /-- One half. -/
  half : α

instance : Arithmetic Float where
  ofNat n := Number.Double.ofDecimal n 0
  half := 0.5

/-- A uniform grid: its ends as they were given, its origin and step as numbers, and how many steps
it has. -/
structure Grid (α β : Type) where
  first : β
  last : β
  origin : α
  step : α
  count : Nat

namespace Grid

variable {α β : Type} [Arithmetic α]

/-- The grid point with a given index. -/
def node (g : Grid α β) (i : Nat) : α := g.origin + Arithmetic.ofNat i * g.step

/-- The middle between a grid point and the next. -/
def middle (g : Grid α β) (i : Nat) : α :=
  g.origin + (Arithmetic.ofNat i + Arithmetic.half) * g.step

end Grid

namespace Method

section

variable {m : Type → Type} [Monad m] {α β : Type} [Arithmetic α]

/-- Add `count` terms to a total, the first of them with index `i`. -/
def accumulate (term : Nat → m α) : (count i : Nat) → α → m α
  | 0, _, total => pure total
  | count + 1, i, total => do
    let y ← term i
    accumulate term count (i + 1) (total + y)

/-- The weight of an inner grid point in Simpson's rule. -/
def simpsonWeight (i : Nat) : α := Arithmetic.ofNat (if i % 2 = 0 then 2 else 4)

/-- The sum of a rule over a grid; `at'` makes a number an argument of the integrand. -/
def sum (f : β → m α) (at' : α → β) (g : Grid α β) : Method → m α
  | .left => do
    let total ← accumulate (fun i => f (at' (g.node i))) g.count 0 (Arithmetic.ofNat 0)
    return total * g.step
  | .right => do
    let total ← accumulate (fun i => f (at' (g.node i))) g.count 1 (Arithmetic.ofNat 0)
    return total * g.step
  | .midpoint => do
    let total ← accumulate (fun i => f (at' (g.middle i))) g.count 0 (Arithmetic.ofNat 0)
    return total * g.step
  | .trapezoidal => do
    let term (i : Nat) : m α := do
      let a ← f (at' (g.node i))
      let b ← f (at' (g.node (i + 1)))
      return (a + b) / Arithmetic.ofNat 2
    let total ← accumulate term g.count 0 (Arithmetic.ofNat 0)
    return total * g.step
  | .simpson => do
    let a ← f g.first
    let b ← f g.last
    let term (i : Nat) : m α := do
      let y ← f (at' (g.node i))
      return simpsonWeight i * y
    let total ← accumulate term (g.count - 1) 1 (a + b)
    return total * g.step / Arithmetic.ofNat 3

end

end Method

end Quadrature
