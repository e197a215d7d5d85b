/-
# Quadrature.Json.Reader -- reading JSON

The reader takes JSON with three more numbers, `NaN`, `Infinity` and `-Infinity`. Of fields with
the same name the last counts. Whole numbers are read exactly, others as the nearest double, and an
escape may spell half of a surrogate pair. A text with a byte order mark is refused.

Every part of the reader returns what it read together with the offset and the rest of the text.
Each level of nesting takes a character and two calls, so `read` supplies twice the length of the
text as fuel.
-/
import Quadrature.Json.Error
import Quadrature.Value

namespace Quadrature.Json

set_option autoImplicit false

open Quadrature.Text
open Quadrature.Number

/-- What a part of the reader returns: a result, the offset after it and the rest of the text, or
a fault and its offset. -/
abbrev Part (α : Type) := Except (Fault × Nat ⊕ Whole.ReadError) (α × Nat × List Char)

/-- A fault at an offset. -/
def stop {α : Type} (fault : Fault) (offset : Nat) : Part α := .error (.inl (fault, offset))

/-- The characters that may stand between the words of a JSON text. -/
def isGap (c : Char) : Bool := c == ' ' || c == '\t' || c == '\n' || c == '\r'

/-- The offset and the rest of the text after a gap. -/
def skipGap (offset : Nat) : List Char → Nat × List Char
  | [] => (offset, [])
  | c :: cs => if isGap c then skipGap (offset + 1) cs else (offset, c :: cs)

/-! ## Strings -/

/-- The value of a hexadecimal digit. -/
def hexValue? (c : Char) : Option Nat :=
  if c.isDigit then some (c.toNat - '0'.toNat)
  else if 'a' ≤ c ∧ c ≤ 'f' then some (c.toNat - 'a'.toNat + 10)
  else if 'A' ≤ c ∧ c ≤ 'F' then some (c.toNat - 'A'.toNat + 10)
  else none

/-- The number that four hexadecimal digits denote. -/
def hex4? (a b c d : Char) : Option Nat := do
  return ((← hexValue? a) * 16 + (← hexValue? b)) * 256 + (← hexValue? c) * 16 + (← hexValue? d)

/-- The character that a letter after a backslash denotes. -/
def escapeValue? : Char → Option Char
  | '"' => some '"'
  | '\\' => some '\\'
  | '/' => some '/'
  | 'b' => some '\x08'
  | 'f' => some '\x0c'
  | 'n' => some '\n'
  | 'r' => some '\r'
  | 't' => some '\t'
  | _ => none

/-- Put one more unit in front of what was read. -/
def Part.push (unit : Nat) (p : Part (List Nat)) : Part (List Nat) :=
  p.map fun (units, rest) => (unit :: units, rest)

/-- The units of a string after its opening quote, which stands at `start`. -/
def stringUnits (start offset : Nat) : List Char → Part (List Nat)
  | [] => stop .unterminatedString start
  | '"' :: rest => .ok ([], offset + 1, rest)
  | '\\' :: 'u' :: a :: b :: c :: d :: e :: rest =>
    match hex4? a b c d with
    | some n => (stringUnits start (offset + 6) (e :: rest)).push n
    | none => stop .invalidUnicodeEscape (offset + 1)
  | '\\' :: 'u' :: _ => stop .invalidUnicodeEscape (offset + 1)
  | '\\' :: c :: rest =>
    match escapeValue? c with
    | some c => (stringUnits start (offset + 2) rest).push c.toNat
    | none => stop .invalidEscape offset
  | '\\' :: [] => stop .unterminatedString start
  | c :: rest =>
    if c.toNat < 0x20 then stop .controlCharacter offset
    else (stringUnits start (offset + 1) rest).push c.toNat

/-- Pairs of a high and a low surrogate become the character they denote. -/
def joinSurrogates : List Nat → List Nat
  | high :: low :: rest =>
    if 0xD800 ≤ high ∧ high < 0xDC00 ∧ 0xDC00 ≤ low ∧ low < 0xE000 then
      (0x10000 + (high - 0xD800) * 0x400 + (low - 0xDC00)) :: joinSurrogates rest
    else high :: joinSurrogates (low :: rest)
  | units => units

/-- The string after an opening quote at `start`. -/
def string (start : Nat) (s : List Char) : Part Points :=
  (stringUnits start (start + 1) s).map fun (units, rest) =>
    (.ofPoints (joinSurrogates units), rest)

/-! ## Numbers -/

/-- The length of the digits a whole part has: one if it starts with zero. -/
def wholeLength : List Char → Nat
  | '0' :: _ => 1
  | s => (s.takeWhile Char.isDigit).length

/-- The length of a fraction with its point; 0 if there is none. -/
def fractionLength : List Char → Nat
  | '.' :: rest =>
    match (rest.takeWhile Char.isDigit).length with
    | 0 => 0
    | n => n + 1
  | _ => 0

/-- The length of an exponent with its mark; 0 if there is none. -/
def exponentLength : List Char → Nat
  | mark :: rest =>
    let digits (sign : Nat) (s : List Char) : Nat :=
      match (s.takeWhile Char.isDigit).length with
      | 0 => 0
      | n => 1 + sign + n
    if mark = 'e' ∨ mark = 'E' then
      match rest with
      | '+' :: ds | '-' :: ds => digits 1 ds
      | ds => digits 0 ds
    else 0
  | [] => 0

/-- The number at the start of a text. -/
def number (offset : Nat) (s : List Char) : Part Value :=
  let sign := if s.head? = some '-' then 1 else 0
  let whole := wholeLength (s.drop sign)
  if whole = 0 then stop .expectedValue offset
  else
    let fraction := fractionLength (s.drop (sign + whole))
    let exponent := exponentLength (s.drop (sign + whole + fraction))
    let length := sign + whole + fraction + exponent
    let text := s.take length
    let rest := (offset + length, s.drop length)
    if fraction + exponent = 0 then
      match Whole.read text with
      | .ok n => .ok (.int n, rest)
      | .error e => .error (.inr e)
    else .ok (.float ((Numeral.read? text).getD 0), rest)

/-- The word that the text starts with, or a number. -/
def wordOrNumber (offset : Nat) (s : List Char) : Part Value :=
  let words : List (String × Value) := [
    ("null", .null), ("true", .bool true), ("false", .bool false), ("NaN", .float (0 / 0)),
    ("Infinity", .float (1 / 0)), ("-Infinity", .float (-1 / 0))]
  match words.find? fun w => w.1.toList.isPrefixOf s with
  | some (word, v) => .ok (v, offset + word.length, s.drop word.length)
  | none => number offset s

/-! ## Values -/

/-- The name of a field with its colon, and the gaps around that. -/
def fieldName (offset : Nat) : List Char → Part Points
  | '"' :: rest =>
    match string offset rest with
    | .error e => .error e
    | .ok (key, offset, s) =>
      match skipGap offset s with
      | (offset, ':' :: rest) => .ok (key, skipGap (offset + 1) rest)
      | (offset, _) => stop .expectedColon offset
  | _ => stop .expectedName offset

mutual

/-- The value that starts at an offset. -/
def value (fuel : Nat) (offset : Nat) (s : List Char) : Part Value :=
  match fuel, s with
  | 0, _ | _, [] => stop .expectedValue offset
  | _, '"' :: rest => (string offset rest).map fun (t, rest) => (.text t, rest)
  | fuel + 1, '[' :: rest =>
    match skipGap (offset + 1) rest with
    | (offset, ']' :: rest) => .ok (.list [], offset + 1, rest)
    | (offset, rest) => (items fuel offset rest).map fun (vs, rest) => (.list vs, rest)
  | fuel + 1, '\x7b' :: rest =>
    match skipGap (offset + 1) rest with
    | (offset, '\x7d' :: rest) => .ok (.record [], offset + 1, rest)
    | (offset, rest) =>
      (fields fuel offset rest []).map fun (fs, rest) => (.record fs, rest)
  | _, s => wordOrNumber offset s

/-- The items of a list, up to its closing bracket. -/
def items (fuel : Nat) (offset : Nat) (s : List Char) : Part (List Value) :=
  match fuel with
  | 0 => stop .expectedValue offset
  | fuel + 1 =>
    match value fuel offset s with
    | .error e => .error e
    | .ok (v, offset, s) =>
      match skipGap offset s with
      | (offset, ']' :: rest) => .ok ([v], offset + 1, rest)
      | (offset, ',' :: rest) =>
        let (offset, rest) := skipGap (offset + 1) rest
        (items fuel offset rest).map fun (vs, rest) => (v :: vs, rest)
      | (offset, _) => stop .expectedComma offset

/-- The fields of a record, up to its closing brace, put behind those already read. -/
def fields (fuel : Nat) (offset : Nat) (s : List Char) (done : Fields) :
    Part (Fields) :=
  match fuel with
  | 0 => stop .expectedValue offset
  | fuel + 1 =>
    match fieldName offset s with
    | .error e => .error e
    | .ok (key, offset, s) =>
      match value fuel offset s with
      | .error e => .error e
      | .ok (v, offset, s) =>
        let done := Value.put done key v
        match skipGap offset s with
        | (offset, '\x7d' :: rest) => .ok (done, offset + 1, rest)
        | (offset, ',' :: rest) =>
          let (offset, rest) := skipGap (offset + 1) rest
          fields fuel offset rest done
        | (offset, _) => stop .expectedComma offset

end

/-- The value of a whole text, or a fault with its offset. -/
def readPart (text : List Char) : Except (Fault × Nat ⊕ Whole.ReadError) Value := do
  if text.head? = some '\ufeff' then .error (.inl (.byteOrderMark, 0))
  let (offset, s) := skipGap 0 text
  let (v, offset, s) ← value (2 * text.length + 1) offset s
  match skipGap offset s with
  | (_, []) => return v
  | (offset, _) => .error (.inl (.extraData, offset))

/-- The value that a JSON text denotes. -/
def read (text : List Char) : Except ReadError Value :=
  match readPart text with
  | .ok v => .ok v
  | .error (.inl (fault, offset)) => .error (.at text fault offset)
  | .error (.inr e) => .error (.number e)

end Quadrature.Json
