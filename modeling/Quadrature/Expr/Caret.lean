/-
# Quadrature.Expr.Caret -- writing powers as calls

`normalize` expands `base^exponent` into `pow(base, exponent)` in the text itself. It takes the
rightmost caret whose operands it can find, expands it and looks again, so that a chain of powers
groups to the right. The base is a number, a name, a parenthesised text or a call, the exponent the
same with a sign if there is one. A caret without such operands stays where it is: expansion
refuses no text.

Operands are spans `(start, stop)` of offsets. `matchingClose` and `matchingOpen` find the partner
of a parenthesis by counting, forwards and backwards.
-/
import Quadrature.Expr.Token
import Quadrature.Text.Word

namespace Quadrature.Caret

set_option autoImplicit false

open Quadrature.Text
open Quadrature.Lexeme (numberLength nameLength)

/-! ## Partners of parentheses -/

/-- How many characters on the count of parentheses first falls back to zero, if characters equal
to `up` raise it and characters equal to `down` lower it. Below zero it goes on. -/
def balanceAt (up down : Char) (depth : Int) : List Char → Option Nat
  | [] => none
  | c :: cs =>
    if c = up then (balanceAt up down (depth + 1) cs).map (· + 1)
    else if c = down then
      if depth = 1 then some 0 else (balanceAt up down (depth - 1) cs).map (· + 1)
    else (balanceAt up down depth cs).map (· + 1)

/-- The offset of the parenthesis that closes the one at `opening`. -/
def matchingClose (text : List Char) (opening : Nat) : Option Nat :=
  (balanceAt '(' ')' 0 (text.drop opening)).map (opening + ·)

/-- The offset of the parenthesis that opens the one at `closing`. -/
def matchingOpen (text : List Char) (closing : Nat) : Option Nat :=
  (balanceAt ')' '(' 0 (text.take (closing + 1)).reverse).map (closing - ·)

/-! ## Operands -/

/-- The text is a number as a whole. -/
def isNumber (s : List Char) : Bool :=
  numberLength s != 0 && (s.drop (numberLength s)).isEmpty

/-- The text is a name as a whole; here a name may go on with word characters of any script. -/
def isName (s : List Char) : Bool :=
  nameLength isWordChar s != 0 && (s.drop (nameLength isWordChar s)).isEmpty

/-- The start of the longest end of the text that `p` holds of, counted from `offset`. -/
def suffixStart (p : List Char → Bool) (offset : Nat) : List Char → Option Nat
  | [] => none
  | c :: cs => if p (c :: cs) then some offset else suffixStart p (offset + 1) cs

/-- The length of the text without the blanks at its end. -/
def lengthToLastInk (s : List Char) : Nat := (s.reverse.dropWhile isBlank).length

/-- The offset of the first character at `position` or later that is no blank. -/
def skipBlanks (text : List Char) (position : Nat) : Nat :=
  position + ((text.drop position).takeWhile isBlank).length

/-- The span of the base of the power whose caret is at `caret`. -/
def findBase (text : List Char) (caret : Nat) : Option (Nat × Nat) := do
  let stop := lengthToLastInk (text.take caret)
  if text[stop - 1]? = some ')' && 0 < stop then
    let opening ← matchingOpen text (stop - 1)
    let nameStop := lengthToLastInk (text.take opening)
    let start := (suffixStart isName 0 (text.take nameStop)).getD opening
    return (start, stop)
  else
    let start ← suffixStart (fun s => isNumber s || isName s) 0 (text.take stop)
    return (start, stop)

/-- Where the operand that starts at `start` stops: a number, a name, a parenthesised text or a
call. -/
def operandStop (text : List Char) (start : Nat) : Option Nat :=
  let rest := text.drop start
  match rest.head?, numberLength rest, nameLength isWordChar rest with
  | some '(', _, _ => (matchingClose text start).map (· + 1)
  | _, 0, 0 => none
  | _, 0, n =>
    let opening := skipBlanks text (start + n)
    if text[opening]? = some '(' then (matchingClose text opening).map (· + 1)
    else some (start + n)
  | _, n, _ => some (start + n)

/-- The span of the exponent of the power whose caret is at `caret`. -/
def findExponent (text : List Char) (caret : Nat) : Option (Nat × Nat) :=
  let start := skipBlanks text (caret + 1)
  let position :=
    if text[start]? = some '+' || text[start]? = some '-' then skipBlanks text (start + 1)
    else start
  (operandStop text position).map fun stop => (start, stop)

/-! ## Expansion -/

/-- The part of the text in a span. -/
def slice (text : List Char) (span : Nat × Nat) : List Char :=
  (text.drop span.1).take (span.2 - span.1)

/-- The power with the given operands, written as a call. -/
def powerCall (base exponent : List Char) : List Char :=
  "pow(".toList ++ base ++ ", ".toList ++ exponent ++ [')']

/-- The text with the power at `caret` written as a call, if its operands can be found. The
operands are trimmed, though the search leaves no blank at the end of one. -/
def expandAt (text : List Char) (caret : Nat) : Option (List Char) := do
  let base ← findBase text caret
  let exponent ← findExponent text caret
  return text.take base.1 ++ powerCall (trim (slice text base)) (trim (slice text exponent))
    ++ text.drop exponent.2

/-- The offsets of the carets of a text, counted from `offset`. -/
def carets (offset : Nat) : List Char → List Nat
  | [] => []
  | c :: cs => if c = '^' then offset :: carets (offset + 1) cs else carets (offset + 1) cs

/-- The text with the rightmost power that can be written as a call so written. -/
def expandRightmost (text : List Char) : Option (List Char) :=
  (carets 0 text).reverse.findSome? (expandAt text)

/-- Expand up to a number of powers, as long as one can be expanded. -/
def expandTimes : Nat → List Char → List Char
  | 0, text => text
  | n + 1, text =>
    match expandRightmost text with
    | some text => expandTimes n text
    | none => text

/-- The text with every power written as a call that can be. Each expansion removes a caret, so
their number bounds the expansions. -/
def normalize (text : List Char) : List Char := expandTimes (text.count '^') text

/-- `normalize` on strings. -/
def normalizeString (text : String) : String := String.ofList (normalize text.toList)

end Quadrature.Caret
