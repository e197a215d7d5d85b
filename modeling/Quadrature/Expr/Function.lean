/-
# Quadrature.Expr.Function -- the functions, constants and operators of expressions

All arithmetic is in doubles. A function fails outside its domain, and, where it can exceed the
range of doubles, when a finite argument makes it do so; a result that is too small is rounded and
is no failure. Division by zero fails whatever the dividend. Not-a-number passes through, except
that its zeroth power and every power of one are one.
-/
import Quadrature.Expr.Basic
import Quadrature.Failure

namespace Quadrature

set_option autoImplicit false

/-- A function of one variable: its value at a double, or why it has none. -/
abbrev Evaluator := Float → Except Failure Float

namespace Function

/-- The result of a function at `x`: not-a-number from a number is a domain failure, an infinity
from a finite number a range failure if the function can overflow and a domain failure if not. -/
def checked (overflows : Bool) (f : Float → Float) : Evaluator := fun x =>
  let r := f x
  if r.isNaN && !x.isNaN then .error .domain
  else if r.isInf && x.isFinite then .error (if overflows then .range else .domain)
  else .ok r

/-- The number is an odd whole number. -/
def isOdd (y : Float) : Bool :=
  let half := y.abs / 2
  y.isFinite && half.floor * 2 == y.abs - 1 && half.floor != half

/-- The power of an infinity. -/
def infinitePower (x y : Float) : Float :=
  if y > 0 then (if isOdd y then x else x.abs)
  else if y == 0 then 1
  else if isOdd y && x < 0 then -0.0 else 0

/-- The power to an infinity. -/
def powerToInfinity (x y : Float) : Float :=
  if x.abs == 1 then 1
  else if (y > 0) == (x.abs > 1) then y.abs
  else 0

/-- `x` to the power `y`. -/
def power (x y : Float) : Except Failure Float :=
  if x.isNaN then .ok (if y == 0 then 1 else x)
  else if y.isNaN then .ok (if x == 1 then 1 else y)
  else if x.isInf then .ok (infinitePower x y)
  else if y.isInf then .ok (powerToInfinity x y)
  else
    let r := Float.pow x y
    if r.isNaN then .error .domain
    else if r.isInf then .error (if x == 0 then .domain else .range)
    else .ok r

/-- The quotient. -/
def divide (a b : Float) : Except Failure Float :=
  if b == 0 then .error .zeroDivision else .ok (a / b)

end Function

/-- A function that expressions can call. -/
inductive Builtin where
  | unary (f : Evaluator)
  | binary (f : Float → Float → Except Failure Float)

namespace Builtin

/-- How many arguments the function takes. -/
def arity : Builtin → Nat
  | .unary _ => 1
  | .binary _ => 2

/-- A function of one variable that stays within the range of doubles. -/
def bounded (f : Float → Float) : Builtin := .unary (Function.checked false f)

/-- A function of one variable that can exceed the range of doubles. -/
def unbounded (f : Float → Float) : Builtin := .unary (Function.checked true f)

/-- The functions by name. -/
def table : List (String × Builtin) := [
  ("pow", .binary Function.power),
  ("sqrt", bounded Float.sqrt),
  ("exp", unbounded Float.exp),
  ("log", bounded Float.log),
  ("ln", bounded Float.log),
  ("log10", bounded Float.log10),
  ("sin", bounded Float.sin),
  ("cos", bounded Float.cos),
  ("tan", bounded Float.tan),
  ("asin", bounded Float.asin),
  ("acos", bounded Float.acos),
  ("atan", bounded Float.atan),
  ("sinh", unbounded Float.sinh),
  ("cosh", unbounded Float.cosh),
  ("tanh", bounded Float.tanh),
  ("abs", bounded Float.abs)]

/-- The function of a given name. -/
def named? (name : String) : Option Builtin := (table.find? (·.1 = name)).map (·.2)

end Builtin

namespace Constant

/-- The constants by name. -/
def table : List (String × Float) := [("pi", 3.141592653589793), ("e", 2.718281828459045)]

/-- The constant of a given name. -/
def named? (name : String) : Option Float := (table.find? (·.1 = name)).map (·.2)

end Constant

/-- The operators of chains `a + b * c …` on doubles; `^` is none of them. -/
def Op.chained? : Op → Option (Float → Float → Except Failure Float)
  | .add => some fun a b => .ok (a + b)
  | .sub => some fun a b => .ok (a - b)
  | .mul => some fun a b => .ok (a * b)
  | .div => some Function.divide
  | .pow | .other _ => none

end Quadrature
