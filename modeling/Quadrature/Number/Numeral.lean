/-
# Quadrature.Number.Numeral -- reading doubles

A numeral is a decimal with an optional sign, fraction and exponent, or a spelling of infinity or
not-a-number in either case. `read` accepts white space around it, the decimal digits of every
script, and underscores between two digits.
-/
import Quadrature.Number.Shortest
import Quadrature.Number.Whole

namespace Quadrature.Number.Numeral

set_option autoImplicit false

open Quadrature.Text
open Quadrature.Number.Whole (splitSign ofDigits)

/-- The text with the digits of every script replaced by ASCII digits. -/
def asciiDigits (s : List Char) : List Char :=
  s.map fun c => match digitValue? c with
    | some d => Nat.digitChar d
    | none => c

/-- The text without its underscores, if each of them stands between two digits. -/
def dropUnderscores? (s : List Char) : Option (List Char) :=
  let rec go : Bool → List Char → Option (List Char)
    | _, [] => some []
    | afterDigit, '_' :: rest =>
      match rest with
      | [] => none
      | c :: _ => if afterDigit && c.isDigit then go false rest else none
    | _, c :: rest => (go c.isDigit rest).map (c :: ·)
  go false s

/-- An exponent mark with its digits; no exponent at all is the exponent zero. -/
def exponent? : List Char → Option Int
  | [] => some 0
  | mark :: rest =>
    let (negative, digits) := splitSign rest
    if (mark == 'e' || mark == 'E') && !digits.isEmpty && digits.all Char.isDigit then
      let n : Int := ofDigits (digits.map fun c => c.toNat - '0'.toNat)
      some (if negative then -n else n)
    else none

/-- The decimal that an unsigned numeral in ASCII digits denotes. -/
def decimal? (s : List Char) : Option Decimal :=
  let whole := s.takeWhile Char.isDigit
  let (fraction, rest) := match s.dropWhile Char.isDigit with
    | '.' :: rest => (rest.takeWhile Char.isDigit, rest.dropWhile Char.isDigit)
    | rest => ([], rest)
  let digits := whole ++ fraction
  if digits.isEmpty then none
  else (exponent? rest).map fun e =>
    ⟨ofDigits (digits.map fun c => c.toNat - '0'.toNat), e - fraction.length⟩

/-- The double that an unsigned numeral denotes. -/
def unsigned? (s : List Char) : Option Float :=
  let word := String.ofList (s.map Char.toLower)
  if word = "inf" || word = "infinity" then some (1 / 0)
  else if word = "nan" then some (0 / 0)
  else (decimal? s).map Decimal.toFloat

/-- The double that a numeral in ASCII digits and without underscores denotes. -/
def plain? (s : List Char) : Option Float :=
  let (negative, s) := splitSign s
  (unsigned? s).map fun x => if negative then -x else x

/-- The double that a text denotes. -/
def read? (text : List Char) : Option Float :=
  (dropUnderscores? (asciiDigits (trimBy isWhiteSpace text))).bind plain?

end Quadrature.Number.Numeral
