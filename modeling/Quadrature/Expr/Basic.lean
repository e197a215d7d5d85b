/-
# Quadrature.Expr.Basic -- arithmetic expressions

An expression is a tree of literals, names, unary and binary operators and calls. The parser builds
trees with known operators only; a tree made by hand may also hold an operator without a meaning or
a node that is no expression, and the compiler reports either.
-/
namespace Quadrature

set_option autoImplicit false

/-- An operator symbol. -/
inductive Op where
  | add
  | sub
  | mul
  | div
  | pow
  /-- A symbol that is none of the five operators. -/
  | other (symbol : String)
deriving DecidableEq, Repr

namespace Op

/-- How the operator is written. -/
def symbol : Op → String
  | .add => "+"
  | .sub => "-"
  | .mul => "*"
  | .div => "/"
  | .pow => "^"
  | .other s => s

/-- The operator with a given symbol. -/
def ofSymbol : String → Op
  | "+" => .add
  | "-" => .sub
  | "*" => .mul
  | "/" => .div
  | "^" => .pow
  | s => .other s

end Op

/-- An arithmetic expression. Positions are offsets in the text it was read from. -/
inductive Expr where
  | const (value : Float)
  | var (name : String) (position : Int)
  | unary (op : Op) (operand : Expr)
  | binary (op : Op) (left right : Expr)
  | call (name : String) (args : List Expr) (position : Int)
  /-- A value of the named type where an expression should be. -/
  | foreign (typeName : String)
deriving Inhabited

end Quadrature
