/-
# Quadrature.Expr.Error -- why a text is compiled to no function

`CompileError` holds the causes, from a character outside the language to a call with the wrong
number of arguments. Each has a diagnostic and, mostly, a position; `message` joins the two.
-/
import Quadrature.Text.Quoted

namespace Quadrature

set_option autoImplicit false

open Quadrature.Text

/-- What stands where something else should: a piece of text or the end, and its position. -/
structure Found where
  text? : Option String
  position : Nat
deriving DecidableEq, Repr

/-- The piece of text in quotes, or the words for the end. -/
def Found.describe (f : Found) : String :=
  match f.text? with
  | some s => quoted s
  | none => "end of expression"

/-- Why a text is compiled to no function. -/
inductive CompileError where
  | invalidVariable (name : String)
  | unexpectedChar (c : Char) (position : Nat)
  | emptyText
  | expectedOperand (found : Found)
  | callWithoutArguments (name : String) (found : Found)
  | unclosedCall (name : String) (found : Found)
  | unclosedGroup (found : Found)
  | unopenedGroup (found : Found)
  | trailingInput (found : Found)
  | nestedTooDeeply
  | unknownName (name free : String) (position : Int)
  | functionWithoutArguments (name : String) (position : Int)
  | unknownFunction (name : String) (position : Int)
  | wrongArity (name : String) (expected got : Nat) (position : Int)
  | unsupportedUnary (symbol : String)
  | unsupportedOperator (symbol : String)
  | unsupportedNode (typeName : String)
deriving DecidableEq, Repr

namespace CompileError

/-- The cause in words. -/
def diagnostic : CompileError → String
  | .invalidVariable name => "Invalid variable name " ++ quoted name
  | .unexpectedChar c _ => "Unexpected character " ++ quoted (String.singleton c)
  | .emptyText => "Empty expression"
  | .expectedOperand f => "Expected a number, identifier or '(', found " ++ f.describe
  | .callWithoutArguments name f =>
    "Function '" ++ name ++ "' called without arguments, found " ++ f.describe
  | .unclosedCall name f =>
    "Unbalanced parentheses in call to '" ++ name ++ "': expected ')', found " ++ f.describe
  | .unclosedGroup f => "Unbalanced parentheses: expected ')', found " ++ f.describe
  | .unopenedGroup f => "Unbalanced parentheses, found " ++ f.describe
  | .trailingInput f => "Unexpected trailing input, found " ++ f.describe
  | .nestedTooDeeply => "Expression is nested too deeply"
  | .unknownName name free _ =>
    "Unknown identifier '" ++ name ++ "' (free variable is '" ++ free ++ "')"
  | .functionWithoutArguments name _ => "Function '" ++ name ++ "' used without arguments"
  | .unknownFunction name _ => "Unknown function '" ++ name ++ "'"
  | .wrongArity name expected got _ =>
    "Function '" ++ name ++ "' expects " ++ Nat.repr expected ++ " argument(s), got " ++
      Nat.repr got
  | .unsupportedUnary symbol => "Unsupported unary operator '" ++ symbol ++ "'"
  | .unsupportedOperator symbol => "Unsupported operator '" ++ symbol ++ "'"
  | .unsupportedNode typeName => "Unsupported node " ++ typeName

/-- Where the fault lies, if it lies at one place. -/
def position? : CompileError → Option Int
  | .unexpectedChar _ p => some p
  | .emptyText => some 0
  | .expectedOperand f | .callWithoutArguments _ f | .unclosedCall _ f | .unclosedGroup f
  | .unopenedGroup f | .trailingInput f => some f.position
  | .unknownName _ _ p | .functionWithoutArguments _ p | .unknownFunction _ p
  | .wrongArity _ _ _ p => some p
  | .invalidVariable _ | .nestedTooDeeply | .unsupportedUnary _ | .unsupportedOperator _
  | .unsupportedNode _ => none

/-- The decimal text of a position. -/
def positionText (p : Int) : String :=
  if p < 0 then "-" ++ Nat.repr p.natAbs else Nat.repr p.natAbs

/-- The diagnostic, with the position where there is one. -/
def message (e : CompileError) : String :=
  match e.position? with
  | some p => e.diagnostic ++ " (at position " ++ positionText p ++ ")"
  | none => e.diagnostic

end CompileError

end Quadrature
