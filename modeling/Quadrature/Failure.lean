/-
# Quadrature.Failure -- why a number cannot be had

`Failure` holds the causes for which a conversion, an evaluation or an integration ends without a
value; `Failure.message` is the only place with their wording.
-/
import Quadrature.Value

namespace Quadrature

set_option autoImplicit false

open Quadrature.Text
open Quadrature.Number

/-- Why a rule does not take its arguments. -/
inductive ArgumentError where
  | unknownMethod (method : Value)
  | partitionsNotInteger (partitions : Value)
  | partitionsBelowOne (partitions : Int)
  | boundsNotFinite (x0 x1 : Value)
  | oddPartitions (partitions : Int)

/-- Why there is no number. -/
inductive Failure where
  /-- A function was applied outside its domain. -/
  | domain
  /-- A function of finite arguments exceeded the range of doubles. -/
  | range
  | zeroDivision
  /-- A whole number is beyond the range of doubles. -/
  | integerTooLarge
  /-- A quotient of whole numbers is beyond the range of doubles. -/
  | quotientTooLarge
  /-- A whole number has too many digits to be written. -/
  | integerTooLong
  /-- A text is no numeral. -/
  | unreadable (text : Points)
  /-- A value of this type is converted to no number. -/
  | notConvertible (value : Value)
  /-- A value of this type is no number. -/
  | notReal (value : Value)
  /-- A value of this type cannot be looked up in a table. -/
  | unhashable (value : Value)
  /-- A named value is no number. -/
  | notNumber (name : String) (value : Value)
  /-- A named number is infinite or not-a-number. -/
  | notFinite (name : String) (value : Value)
  | negativeTolerance
  | argument (e : ArgumentError)

/-- The wording of an argument error. -/
def ArgumentError.message : ArgumentError → String
  | .unknownMethod m => "Unsupported integration method: " ++ m.render
  | .partitionsNotInteger p => "partitions must be an integer, got " ++ p.render
  | .partitionsBelowOne p => "partitions must be >= 1, got " ++ Whole.write p
  | .boundsNotFinite x0 x1 =>
    "Domain bounds must be finite, got [" ++ x0.display ++ ", " ++ x1.display ++ "]"
  | .oddPartitions p =>
    "Simpson's rule requires an even number of partitions, got " ++ Whole.write p

/-- The wording of a failure. -/
def Failure.message : Failure → String
  | .domain => "math domain error"
  | .range => "math range error"
  | .zeroDivision => "float division by zero"
  | .integerTooLarge => "int too large to convert to float"
  | .quotientTooLarge => "integer division result too large for a float"
  | .integerTooLong => Whole.tooLongToWrite
  | .unreadable t => "could not convert string to float: " ++ t.quoted
  | .notConvertible v =>
    "float() argument must be a string or a real number, not '" ++ v.typeName ++ "'"
  | .notReal v => "must be real number, not " ++ v.typeName
  | .unhashable v => "unhashable type: '" ++ v.typeName ++ "'"
  | .notNumber name v => name ++ " must be a number, got " ++ v.render
  | .notFinite name v => name ++ " must be a finite float (not NaN/Inf), got " ++ v.display
  | .negativeTolerance => "tolerances must be non-negative"
  | .argument e => e.message

end Quadrature
