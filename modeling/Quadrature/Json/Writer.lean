/-
# Quadrature.Json.Writer -- writing JSON

JSON is written on one line in ASCII, with a blank after each comma and colon. Characters beyond
ASCII and control characters are escaped by their UTF-16 units in lower-case hexadecimal, those
with a letter of their own by that letter. Numbers are written as in messages.
-/
import Quadrature.Value

namespace Quadrature.Json

set_option autoImplicit false

open Quadrature.Text
open Quadrature.Number

/-- The escape of a UTF-16 unit. -/
def unitEscape (n : Nat) : List Char := '\\' :: 'u' :: hexDigits n 4

/-- A code point in a string. -/
def writePoint (n : Nat) : List Char :=
  if n = '"'.toNat then ['\\', '"']
  else if n = '\\'.toNat then ['\\', '\\']
  else if n = '\n'.toNat then ['\\', 'n']
  else if n = '\r'.toNat then ['\\', 'r']
  else if n = '\t'.toNat then ['\\', 't']
  else if n = 8 then ['\\', 'b']
  else if n = 12 then ['\\', 'f']
  else if 0x20 ≤ n ∧ n < 0x7F then [Char.ofNat n]
  else if n < 0x10000 then unitEscape n
  else unitEscape (0xD800 + (n - 0x10000) / 0x400) ++ unitEscape (0xDC00 + (n - 0x10000) % 0x400)

/-- A string between its quotes. -/
def writeText (t : Points) : List Char := '"' :: t.toPoints.flatMap writePoint ++ ['"']

/-- A double; those that are no decimal numbers have names. -/
def writeFloat (x : Float) : List Char :=
  if x.isNaN then "NaN".toList
  else if x.isInf then (if x < 0 then "-Infinity".toList else "Infinity".toList)
  else floatChars x

mutual

/-- The JSON text of a value. -/
def write : Value → List Char
  | .null => "null".toList
  | .bool true => "true".toList
  | .bool false => "false".toList
  | .int n => (Whole.write n).toList
  | .float x => writeFloat x
  | .text t => writeText t
  | .list vs => '[' :: writeItems vs ++ [']']
  | .record fs => '\x7b' :: writeFields fs ++ ['\x7d']

/-- The items of a list. -/
def writeItems : List Value → List Char
  | [] => []
  | [v] => write v
  | v :: vs => write v ++ ',' :: ' ' :: writeItems vs

/-- The fields of a record. -/
def writeFields : Fields → List Char
  | [] => []
  | [(k, v)] => writeText k ++ ':' :: ' ' :: write v
  | (k, v) :: fs => writeText k ++ ':' :: ' ' :: (write v ++ ',' :: ' ' :: writeFields fs)

end

/-- The JSON text of a value as a string. -/
def writeString (v : Value) : String := String.ofList (write v)

end Quadrature.Json
