/-
# Quadrature.Request -- what is to be integrated

A request names an expression, a number of partitions, a domain and a rule. Its checks leave only
the expression itself to be compiled: it is not blank, the number is positive, the bounds are
finite. The number is kept as it was asked for; `effectivePartitions` is the least number that suits
the rule.
-/
import Quadrature.Bounds

namespace Quadrature

set_option autoImplicit false

open Quadrature.Text

/-- A text with a character that is not blank. -/
def isInked (s : String) : Bool := !(s.toList.all isBlank)

/-- A definite integral to be approximated. -/
structure Request where
  expression : String
  partitions : Nat
  bounds : Bounds
  method : Method
  expression_inked : isInked expression = true
  partitions_pos : 0 < partitions

namespace Coercion

/-- An expression: a text that is not blank. -/
def expression (v : Value) : Except Issue { s : String // isInked s } := do
  let s ← string v
  if s.isEmpty then throw .emptyText
  if h : isInked s then return ⟨s, h⟩ else throw .blankExpression

end Coercion

/-- The number of partitions of a rule when `n` were asked for: one more if the rule needs an even
number and `n` is odd. -/
def Method.effectivePartitions (m : Method) (n : Nat) : Nat :=
  if m.requiresEven && n % 2 ≠ 0 then n + 1 else n

namespace Request

/-- The number of partitions that suits the rule. -/
def effectivePartitions (r : Request) : Nat := r.method.effectivePartitions r.partitions

/-- The name of this kind of record. -/
def title : String := "IntegrationRequest"

/-- The request with checked parts. -/
def build (expression : Checked { s : String // isInked s })
    (partitions : Checked Coercion.Count) (bounds : Checked Bounds)
    (method : Checked Method) : Checked Request :=
  (expression.both (partitions.both (bounds.both method))).map
    fun (e, n, b, m) => ⟨e.1, n.value, b, m, e.2, n.pos⟩

/-- The request that a record gives. -/
def check : Value → Checked Request :=
  Checked.record title fun fields =>
    build (Checked.field fields "expression" (Checked.value Coercion.expression))
      (Checked.field fields "partitions" (Checked.value Coercion.positive))
      (Checked.field fields "bounds" Bounds.check)
      (Checked.field fields "method" (Checked.value Coercion.method))

/-- The request that a value gives. -/
def ofValue (v : Value) : Except Report Request := Checked.report title (check v)

/-- The request with the given parts, of which the bounds are known to be good. -/
def ofParts (expression partitions : Value) (bounds : Bounds) (method : Value) :
    Except Report Request :=
  let part {α : Type} (name : String) (read : Value → Except Issue α) (v : Value) : Checked α :=
    Checked.within name (Checked.value read v)
  Checked.report title
    (build (part "expression" Coercion.expression expression)
      (part "partitions" Coercion.positive partitions) (.ok bounds)
      (part "method" Coercion.method method))

end Request

end Quadrature
