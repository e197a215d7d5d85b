/-
# Quadrature.Text.Ranges -- sets of code points

A character class is a list of closed ranges of code points.
-/
namespace Quadrature.Text

set_option autoImplicit false

/-- Closed ranges of code points. -/
abbrev Ranges := List (Nat × Nat)

/-- The code point lies in one of the ranges. -/
def Ranges.contains (ranges : Ranges) (n : Nat) : Bool :=
  ranges.any fun r => r.1 ≤ n && n ≤ r.2

end Quadrature.Text
