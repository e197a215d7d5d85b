/-
# Quadrature.Rule.Method -- the five rules by name and by number

A rule is chosen by its name or by its number in the menu, which counts the rules in order.
-/
import Quadrature.Text.UpperCase
import Quadrature.Value

namespace Quadrature

set_option autoImplicit false

open Quadrature.Text
open Quadrature.Number

/-- A quadrature rule. -/
inductive Method where
  | left
  | right
  | midpoint
  | trapezoidal
  | simpson
deriving DecidableEq, Repr, Inhabited

/-- Why a choice of rule is not understood. -/
inductive MethodError where
  /-- No number of the menu. -/
  | badChoice (choice : Value)
  /-- The text looks like a number and is none. -/
  | badNumber (e : Whole.ReadError)
  | unknownName (text : String)

namespace Method

/-- The rules in the order of the menu. -/
def all : List Method := [.left, .right, .midpoint, .trapezoidal, .simpson]

/-- The name of a rule. -/
def name : Method → String
  | .left => "LEFT"
  | .right => "RIGHT"
  | .midpoint => "MIDPOINT"
  | .trapezoidal => "TRAPEZOIDAL"
  | .simpson => "SIMPSON"

/-- The name of a rule as a reader sees it. -/
def displayName : Method → String
  | .left => "Left"
  | .right => "Right"
  | .midpoint => "Midpoint"
  | .trapezoidal => "Trapezoidal"
  | .simpson => "Simpson"

/-- The name of a rule in lower case. -/
def plainName : Method → String
  | .left => "left"
  | .right => "right"
  | .midpoint => "midpoint"
  | .trapezoidal => "trapezoidal"
  | .simpson => "simpson"

/-- The rule needs an even number of partitions. -/
def requiresEven : Method → Bool
  | .simpson => true
  | _ => false

/-- The rule of a given name. -/
def ofName? (s : String) : Option Method := all.find? (·.name = s)

@[simp] theorem ofName?_name (m : Method) : ofName? m.name = some m := by
  cases m <;> decide

/-- The rule of a given number. -/
def ofNumber? (n : Int) : Option Method := if 1 ≤ n then all[(n - 1).toNat]? else none

/-- The rule that a choice from the menu denotes; only a whole number is one. -/
def ofChoice (choice : Value) : Except MethodError Method :=
  match choice with
  | .int n => match ofNumber? n with
    | some m => .ok m
    | none => .error (.badChoice choice)
  | _ => .error (.badChoice choice)

/-- The rule that a text denotes: a number of the menu or a name in any case. -/
def parse (text : String) : Except MethodError Method :=
  let chosen := trim text.toList
  if !chosen.isEmpty && chosen.all isDigitLike then
    match Whole.read chosen with
    | .ok n => ofChoice (.int n)
    | .error e => .error (.badNumber e)
  else match ofName? (String.ofList (upper chosen)) with
    | some m => .ok m
    | none => .error (.unknownName text)

end Method

/-- The wording of an error. -/
def MethodError.message : MethodError → String
  | .badChoice v =>
    "Method choice must be an integer 1-" ++ Nat.repr Method.all.length ++ ", got " ++ v.render
  | .badNumber e => e.message
  | .unknownName text =>
    "Unknown integration method " ++ quoted text ++ " (expected 1-5 or one of: " ++
      ", ".intercalate (Method.all.map Method.plainName) ++ ")"

end Quadrature
