/-
# Quadrature.Result -- an approximate integral and how it was obtained

Besides the area a result holds the expression as it was given and as it was compiled, the numbers
of partitions asked for and used, and the domain in order. `toPayload` writes a result as a record
in which an area that is no finite number is null; `check` reads such a record.
-/
import Quadrature.Request

namespace Quadrature

set_option autoImplicit false

open Quadrature.Text
open Quadrature.Number

/-- An approximate integral. -/
structure Result where
  area : Float
  expression : Points
  normalizedExpression : Points
  method : Method
  partitionsRequested : Nat
  partitionsUsed : Nat
  bounds : Bounds
  boundsSwapped : Bool
  partitionsRequested_pos : 0 < partitionsRequested
  partitionsUsed_pos : 0 < partitionsUsed

namespace Result

/-- Another number of partitions was used than was asked for. -/
def partitionsAdjusted (r : Result) : Bool := r.partitionsUsed != r.partitionsRequested

/-- The result in one sentence. -/
def summary (r : Result) : String :=
  "The approximate area under the curve using " ++ r.method.displayName ++ " method is: " ++
    floatText r.area

/-- The area, or null if it is no finite number. -/
def areaValue (x : Float) : Value := if x.isFinite then .float x else .null

/-- The result as a record. -/
def toPayload (r : Result) : Value :=
  .record [("area", areaValue r.area),
    ("expression", .text r.expression),
    ("normalized_expression", .text r.normalizedExpression),
    ("method", .text r.method.name),
    ("partitions_requested", .int r.partitionsRequested),
    ("partitions_used", .int r.partitionsUsed),
    ("bounds", r.bounds.toValue),
    ("bounds_swapped", .bool r.boundsSwapped)]

/-- The name of this kind of record. -/
def title : String := "IntegrationResult"

/-- The result that a record gives. -/
def check : Value → Checked Result :=
  Checked.record title fun fields =>
    let field {α : Type} (name : String) (read : Value → Except Issue α) : Checked α :=
      Checked.field fields name (Checked.value read)
    ((field "area" Coercion.number).both <|
      (field "expression" Coercion.text).both <|
      (field "normalized_expression" Coercion.text).both <|
      (field "method" Coercion.method).both <|
      (field "partitions_requested" Coercion.positive).both <|
      (field "partitions_used" Coercion.positive).both <|
      (Checked.field fields "bounds" Bounds.check).both <|
      Checked.fieldOr fields "bounds_swapped" false (Checked.value Coercion.truth)).map
      fun (area, expression, normalized, method, requested, used, bounds, swapped) =>
        ⟨area, expression, normalized, method, requested.value, used.value, bounds, swapped,
          requested.pos, used.pos⟩

/-- The result that a value gives. -/
def ofValue (v : Value) : Except Report Result := Checked.report title (check v)

end Result

end Quadrature
