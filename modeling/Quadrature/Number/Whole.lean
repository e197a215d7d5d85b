/-
# Quadrature.Number.Whole -- whole numbers as text

A whole number is written in decimal, with a hyphen if it is negative. `read` accepts white space
around it, either sign, the decimal digits of every script, and single underscores between digits.
Neither direction handles more than `maxDigits` digits.
-/
import Quadrature.Text.Blank
import Quadrature.Text.Digit
import Quadrature.Text.Quoted

namespace Quadrature.Number.Whole

set_option autoImplicit false

open Quadrature.Text

/-- The most digits that are converted to a number or from one. -/
def maxDigits : Nat := 4300

/-- Why a text is not read as a whole number. -/
inductive ReadError where
  /-- The text is no numeral. -/
  | malformed (text : String)
  /-- The numeral has more than `maxDigits` digits. -/
  | tooLong (digits : Nat)
deriving DecidableEq, Repr

/-- The advice that ends a message about a numeral that is too long. -/
def limitAdvice : String :=
  "use sys.set_int_max_str_digits() to increase the limit"

/-- What is said about a number with too many digits to be written. -/
def tooLongToWrite : String :=
  "Exceeds the limit (" ++ Nat.repr maxDigits ++ " digits) for integer string conversion; " ++
    limitAdvice

/-- The wording of an error; a malformed text is quoted up to two hundred characters. -/
def ReadError.message : ReadError → String
  | .malformed text =>
    "invalid literal for int() with base 10: " ++ String.ofList ((quoted text).toList.take 200)
  | .tooLong digits =>
    "Exceeds the limit (" ++ Nat.repr maxDigits ++ " digits) for integer string conversion: value has "
      ++ Nat.repr digits ++ " digits; " ++ limitAdvice

/-- A sign, if the text starts with one, and what follows it. -/
def splitSign : List Char → Bool × List Char
  | '-' :: rest => (true, rest)
  | '+' :: rest => (false, rest)
  | s => (false, s)

/-- Underscores stand only between digits, one at a time. -/
def underscoresSeparate : List Char → Bool
  | [] => true
  | '_' :: _ => false
  | _ :: '_' :: rest =>
    match rest with
    | [] => false
    | c :: _ => c != '_' && underscoresSeparate rest
  | _ :: rest => underscoresSeparate rest

/-- The number whose digits have the given values. -/
def ofDigits (digits : List Nat) : Nat := digits.foldl (fun n d => 10 * n + d) 0

/-- The whole number that a text denotes. The digit limit is tested before what follows the
digits. -/
def read (text : List Char) : Except ReadError Int :=
  let (negative, s) := splitSign (trimBy isWhiteSpace text)
  let inNumeral (c : Char) : Bool := isDigit c || c == '_'
  let body := s.takeWhile inNumeral
  let digits := body.filterMap digitValue?
  if body.isEmpty || !underscoresSeparate body then .error (.malformed (String.ofList text))
  else if maxDigits < digits.length then .error (.tooLong digits.length)
  else if !(s.dropWhile inNumeral).isEmpty then .error (.malformed (String.ofList text))
  else
    let n : Int := ofDigits digits
    .ok (if negative then -n else n)

/-- `read` on strings. -/
def readString (text : String) : Except ReadError Int := read text.toList

/-- The decimal text of a whole number, of any length. -/
def write (n : Int) : String :=
  if n < 0 then "-" ++ Nat.repr n.natAbs else Nat.repr n.natAbs

/-- The decimal text of a whole number with at most `maxDigits` digits. -/
def write? (n : Int) : Option String :=
  if n.natAbs < Nat.pow 10 maxDigits then some (write n) else none

end Quadrature.Number.Whole
