/-
# Quadrature.Json.Error -- why a text is no JSON

A fault is reported with its line, its column and its offset. A whole number with too many digits
is no fault of the JSON text and is reported apart.
-/
import Quadrature.Number.Whole

namespace Quadrature.Json

set_option autoImplicit false

open Quadrature.Number

/-- What is wrong at a place of a JSON text. -/
inductive Fault where
  | byteOrderMark
  | expectedValue
  | expectedName
  | expectedColon
  | expectedComma
  | unterminatedString
  | controlCharacter
  | invalidEscape
  | invalidUnicodeEscape
  | extraData
deriving DecidableEq, Repr

/-- The wording of a fault. -/
def Fault.text : Fault → String
  | .byteOrderMark => "Unexpected UTF-8 BOM (decode using utf-8-sig)"
  | .expectedValue => "Expecting value"
  | .expectedName => "Expecting property name enclosed in double quotes"
  | .expectedColon => "Expecting ':' delimiter"
  | .expectedComma => "Expecting ',' delimiter"
  | .unterminatedString => "Unterminated string starting at"
  | .controlCharacter => "Invalid control character at"
  | .invalidEscape => "Invalid \\escape"
  | .invalidUnicodeEscape => "Invalid \\uXXXX escape"
  | .extraData => "Extra data"

/-- Why a text is not read. -/
inductive ReadError where
  | fault (fault : Fault) (line column offset : Nat)
  | number (e : Whole.ReadError)
deriving DecidableEq, Repr

/-- The wording of an error. -/
def ReadError.message : ReadError → String
  | .fault f line column offset =>
    f.text ++ ": line " ++ Nat.repr line ++ " column " ++ Nat.repr column ++ " (char " ++
      Nat.repr offset ++ ")"
  | .number e => e.message

/-- The error for a fault at an offset: lines are counted by line feeds. -/
def ReadError.at (text : List Char) (f : Fault) (offset : Nat) : ReadError :=
  let before := text.take offset
  let column := (before.reverse.takeWhile (· ≠ '\n')).length + 1
  .fault f (before.count '\n' + 1) column offset

end Quadrature.Json
