/-
# Quadrature.Text.Quoted -- text as messages quote it

A quoted text stands between single quotes, or between double quotes if it holds a single quote and
no double one. The backslash and the enclosing quote are escaped by a backslash, line feed,
carriage return and tab by their letters, and every other hidden code point by its lower-case
hexadecimal number in two, four or eight digits.
-/
import Quadrature.Text.Points
import Quadrature.Text.Printable

namespace Quadrature.Text

set_option autoImplicit false

/-- The hexadecimal digits of `n`, the last `width` of them. -/
def hexDigits (n : Nat) : Nat → List Char
  | 0 => []
  | width + 1 => hexDigits (n / 16) width ++ [Nat.digitChar (n % 16)]

/-- The quotation mark that encloses a text. -/
def enclosingMark (points : List Nat) : Char :=
  if points.contains '\''.toNat && !points.contains '"'.toNat then '"' else '\''

/-- One code point between quotation marks `mark`. -/
def quotedPoint (mark : Char) (n : Nat) : List Char :=
  if n == mark.toNat || n == '\\'.toNat then ['\\', Char.ofNat n]
  else if n == '\n'.toNat then ['\\', 'n']
  else if n == '\r'.toNat then ['\\', 'r']
  else if n == '\t'.toNat then ['\\', 't']
  else if isPrintable n then [Char.ofNat n]
  else if n < 0x100 then '\\' :: 'x' :: hexDigits n 2
  else if n < 0x10000 then '\\' :: 'u' :: hexDigits n 4
  else '\\' :: 'U' :: hexDigits n 8

/-- The quoted form of a text given by its code points. -/
def quotedPoints (points : List Nat) : String :=
  let mark := enclosingMark points
  String.ofList (mark :: points.flatMap (quotedPoint mark) ++ [mark])

/-- The quoted form of a text. -/
def Points.quoted (t : Points) : String := quotedPoints t.toPoints

/-- The quoted form of a string. -/
def quoted (s : String) : String := (Points.string s).quoted

end Quadrature.Text
