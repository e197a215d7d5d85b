/-
# Quadrature.Number.Double -- exact values and nearest doubles

A finite double is a sign, a mantissa and a power of two. `ofDecimal`, `ofInt?` and `quotient?` give
the double nearest to a decimal, a whole number and a quotient of whole numbers, ties to even; the
last two have no value where the nearest double would be infinite.
-/
namespace Quadrature.Number.Double

set_option autoImplicit false

open Float.Model (UnpackedFloat)

/-- The double nearest to `digits · 10 ^ exponent`. -/
def ofDecimal (digits : Nat) : Int → Float
  | .ofNat e => Float.ofScientific digits false e
  | .negSucc e => Float.ofScientific digits true (e + 1)

/-- The double nearest to a whole number. -/
def ofInt? (n : Int) : Option Float :=
  let x := ofDecimal n.natAbs 0
  if x.isFinite then some (if n < 0 then -x else x) else none

/-- The double nearest to `num / den`. -/
def ofRatio (num den : Nat) : Float :=
  if h : 0 < num ∧ 0 < den then
    .ofModel (.pack (UnpackedFloat.div .binary64
      (.finite .positive num 0 h.1) (.finite .positive den 0 h.2)))
  else 0

/-- The double nearest to the quotient of two whole numbers, the second of them positive. -/
def quotient? (num : Int) (den : Nat) : Option Float :=
  let x := ofRatio num.natAbs den
  if x.isFinite then some (if num < 0 then -x else x) else none

/-- The mantissa and exponent of a finite double other than zero: its magnitude is
`mantissa · 2 ^ exponent`. -/
def magnitude? (x : Float) : Option (Nat × Int) :=
  match x.toModel.unpack with
  | .finite _ m e _ => some (m, e)
  | _ => none

/-- The sign bit is set. -/
def isNegative (x : Float) : Bool := x.toBits >>> 63 == 1

/-- The whole number that a double is; `none` if it has a fraction or is not finite. -/
def toInt? (x : Float) : Option Int :=
  let signed (n : Nat) : Int := if isNegative x then -n else n
  if !x.isFinite then none
  else match magnitude? x with
    | none => some 0
    | some (m, .ofNat e) => some (signed (m * Nat.pow 2 e))
    | some (m, .negSucc e) =>
      let unit := Nat.pow 2 (e + 1)
      if m % unit = 0 then some (signed (m / unit)) else none

/-- The same double, bit for bit. -/
def same (x y : Float) : Bool := x.toBits == y.toBits

end Quadrature.Number.Double
