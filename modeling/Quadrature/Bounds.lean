/-
# Quadrature.Bounds -- the domain of an integral

A domain has two finite ends in the order they were given; `normalized` puts them in order. Bounds
are read from a text such as `[0, 1]`, whose brackets may be missing, or from a record with the
fields `x0` and `x1`.
-/
import Quadrature.Coercion.Scalar

namespace Quadrature

set_option autoImplicit false

open Quadrature.Text
open Quadrature.Number

/-- Two finite doubles. -/
structure Bounds where
  x0 : Float
  x1 : Float
  x0_finite : x0.isFinite = true
  x1_finite : x1.isFinite = true

/-- Why a text gives no bounds. -/
inductive BoundsError where
  /-- The text is no pair of numbers. -/
  | malformed (text : String)
  /-- One of the numbers is not finite. -/
  | unusable (cause : Failure)

/-- The wording of an error. -/
def BoundsError.message : BoundsError → String
  | .malformed text =>
    "Invalid bounds format " ++ quoted text ++ ". Please enter values as [x0,x1]."
  | .unusable cause => cause.message

namespace Bounds

/-- The ends are the wrong way round. -/
def isReversed (b : Bounds) : Bool := b.x0 > b.x1

/-- The distance from the first end to the second; it is negative if they are the wrong way
round. -/
def width (b : Bounds) : Float := b.x1 - b.x0

/-- The same ends, exchanged. -/
def reverse (b : Bounds) : Bounds := ⟨b.x1, b.x0, b.x1_finite, b.x0_finite⟩

/-- The same ends in order. -/
def normalized (b : Bounds) : Bounds := if b.isReversed then b.reverse else b

/-! ## Reading -/

/-- The parts of a text between its commas. -/
def splitCommas : List Char → List (List Char)
  | [] => [[]]
  | c :: cs =>
    if c = ',' then [] :: splitCommas cs
    else match splitCommas cs with
      | part :: parts => (c :: part) :: parts
      | [] => [[c]]

/-- The character is a square bracket. -/
def isBracket (c : Char) : Bool := c == '[' || c == ']'

/-- The texts of the two ends. -/
def ends? (text : List Char) : Option (List Char × List Char) :=
  match (splitCommas (trimBy isBracket (trim text))).map trim with
  | [a, b] => if a.isEmpty || b.isEmpty then none else some (a, b)
  | _ => none

/-- The end of the domain that is called `name`. -/
def finiteEnd (name : String) (x : Float) : Except BoundsError { x : Float // x.isFinite } :=
  if h : x.isFinite then .ok ⟨x, h⟩ else .error (.unusable (.notFinite name (.float x)))

/-- The bounds that a text gives: two numbers with a comma between them, in brackets or not. -/
def parse (text : String) : Except BoundsError Bounds := do
  let some (a, b) := ends? text.toList | throw (.malformed text)
  let (some x0, some x1) := (Numeral.read? a, Numeral.read? b) | throw (.malformed text)
  let ⟨x0, h0⟩ ← finiteEnd "x0" x0
  let ⟨x1, h1⟩ ← finiteEnd "x1" x1
  return ⟨x0, x1, h0, h1⟩

/-- The name of this kind of record. -/
def title : String := "IntegrationBounds"

/-- The bounds that a record of two finite numbers gives. -/
def check : Value → Checked Bounds :=
  Checked.record title fun fields =>
    ((Checked.field fields "x0" (Checked.value (Coercion.finite "x0"))).both
      (Checked.field fields "x1" (Checked.value (Coercion.finite "x1")))).map
      fun (x0, x1) => ⟨x0.1, x1.1, x0.2, x1.2⟩

/-- The bounds with the given ends. -/
def ofValues (x0 x1 : Value) : Except Report Bounds :=
  Checked.report title (check (.record [("x0", x0), ("x1", x1)]))

/-- The record that gives these bounds. -/
def toValue (b : Bounds) : Value := .record [("x0", .float b.x0), ("x1", .float b.x1)]

end Bounds

end Quadrature
