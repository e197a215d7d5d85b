/-
# Quadrature.Coercion.Scalar -- the values that a field takes

Each reader takes the values of its own kind and those that plainly denote one: a whole number can
come as a double without fraction or as a numeral, a number as a numeral, a truth value as a word
or as 0 and 1. The numerals here are those of ASCII digits.
-/
import Quadrature.Coercion.Checked
import Quadrature.Rule.Method
import Quadrature.Safeguard

namespace Quadrature.Coercion

set_option autoImplicit false

open Quadrature.Text
open Quadrature.Number

/-! ## Texts -/

/-- Any text. -/
def text : Value → Except Issue Points
  | .text t => .ok t
  | _ => .error .notText

/-- A text of characters. -/
def string : Value → Except Issue String
  | .text (.string s) => .ok s
  | .text (.broken _) => .error .brokenText
  | _ => .error .notText

/-! ## Whole numbers -/

/-- The whole number that a hyphen, if any, and ASCII digits without superfluous zeros denote;
`none` of any other text. -/
def plainWhole (s : List Char) : Except Issue (Option Int) :=
  let (negative, s) := match s with
    | '-' :: rest => (true, rest)
    | _ => (false, s)
  let digits := s.takeWhile Char.isDigit
  if digits.head? = some '0' && digits.length ≠ 1 then .ok none
  else if Whole.maxDigits < digits.length then .error .wholeTooLarge
  else if digits.isEmpty || digits.length ≠ s.length then .ok none
  else
    let n : Int := Whole.ofDigits (digits.map fun c => c.toNat - '0'.toNat)
    .ok (some (if negative then -n else n))

/-- The text without its single underscores; `none` if it has none, or one at an end or beside
another. -/
def dropSeparators (s : List Char) : Option (List Char) :=
  let rec apart : List Char → Bool
    | '_' :: '_' :: _ => false
    | _ :: rest => apart rest
    | [] => true
  if s.contains '_' && s.head? ≠ some '_' && s.getLast? ≠ some '_' && apart s then
    some (s.filter (· ≠ '_'))
  else none

/-- The text without the zeros before its first other digit; the last zero of a text of zeros
stays, and so does a zero before a point. -/
def dropZeros : List Char → Option (List Char)
  | '0' :: rest => go '0' rest
  | c :: rest => if c.isDigit || c = '-' then some (c :: rest) else none
  | [] => none
where
  /-- The rest of a text after a zero and what `dropZeros` skipped; `last` is the character
  before. -/
  go (last : Char) : List Char → Option (List Char)
    | [] => some [last]
    | '.' :: rest => some (last :: '.' :: rest)
    | c :: rest =>
      if c = '0' || c = '_' then go c rest
      else if c.isDigit then some (c :: rest)
      else none

/-- The text without a point that is followed by zeros only. -/
def dropZeroFraction (s : List Char) : List Char :=
  let whole := s.takeWhile (· ≠ '.')
  match s.dropWhile (· ≠ '.') with
  | _ :: fraction => if fraction.all (· = '0') then whole else s
  | [] => s

/-- A numeral without white space around it, a plus sign, superfluous zeros and separators. -/
def tidyWhole (s : List Char) : Option (List Char) := do
  let s ← match trimBy isWhiteSpace s with
    | '+' :: '-' :: _ => none
    | '+' :: rest => some rest
    | s => some s
  let s := dropZeroFraction (← dropZeros s)
  return (dropSeparators s).getD s

/-- The whole number that a numeral denotes. -/
def wholeOfText (s : List Char) : Except Issue Int := do
  if let some n ← plainWhole s then return n
  match tidyWhole s with
  | none => throw .unreadableWhole
  | some s =>
    match ← plainWhole s with
    | some n => return n
    | none => throw .unreadableWhole

/-- The magnitude below which a whole number is in the range of machine words. -/
def wordLimit : Nat := 0x8000000000000000

/-- The whole number that a double is. Its magnitude has to be below 2 ^ 63. -/
def wholeOfFloat (x : Float) : Except Issue Int :=
  if !x.isFinite then .error .infinite
  else match Double.toInt? x with
    | none => .error .fractional
    | some n => if n.natAbs < wordLimit then .ok n else .error .wholeTooLarge

/-- A whole number. -/
def whole : Value → Except Issue Int
  | .int n => .ok n
  | .bool b => .ok (if b then 1 else 0)
  | .float x => wholeOfFloat x
  | .text (.string s) => wholeOfText s.toList
  | .text (.broken _) => .error .brokenText
  | _ => .error .notWhole

/-- A number of things, at least one. -/
structure Count where
  value : Nat
  pos : 0 < value

/-- A whole number above zero. -/
def positive (v : Value) : Except Issue Count := do
  let n ← whole v
  if h : 0 < n then return ⟨n.toNat, by omega⟩ else throw .notPositive

/-! ## Numbers -/

/-- The double that a numeral denotes. -/
def numberOfText (s : List Char) : Except Issue Float :=
  match Numeral.plain? (trimBy isWhiteSpace s) with
  | some x => .ok x
  | none =>
    match (dropSeparators s).bind Numeral.plain? with
    | some x => .ok x
    | none => .error .unreadableNumber

/-- A number. -/
def number : Value → Except Issue Float
  | .float x => .ok x
  | .bool b => .ok (if b then 1 else 0)
  | .int n => match Double.ofInt? n with
    | some x => .ok x
    | none => .error .notNumber
  | .text (.string s) => numberOfText s.toList
  | .text (.broken _) => .error .brokenText
  | _ => .error .notNumber

/-- A finite number. -/
def finite (name : String) (v : Value) : Except Issue { x : Float // x.isFinite } := do
  let x ← number v
  if h : x.isFinite then return ⟨x, h⟩ else throw (.refused (.notFinite name (.float x)))

/-! ## Truth values and rules -/

/-- The words for false. -/
def falseWords : List String := ["0", "f", "n", "no", "off", "false"]

/-- The words for true. -/
def trueWords : List String := ["1", "t", "y", "yes", "on", "true"]

/-- The truth value that a whole number denotes. -/
def truthOfWhole (n : Int) : Except Issue Bool :=
  if n = 0 then .ok false else if n = 1 then .ok true else .error .unreadableTruth

/-- A truth value. -/
def truth : Value → Except Issue Bool
  | .bool b => .ok b
  | .int n =>
    if -wordLimit ≤ n ∧ n < wordLimit then truthOfWhole n else .error .notTruth
  | .float x => match wholeOfFloat x with
    | .ok n => truthOfWhole n
    | .error _ => .error .notTruth
  | .text (.string s) =>
    let word := String.ofList (s.toList.map Char.toLower)
    if falseWords.contains word then .ok false
    else if trueWords.contains word then .ok true
    else .error .unreadableTruth
  | .text (.broken _) => .error .brokenText
  | _ => .error .notTruth

/-- A rule by its name. -/
def method : Value → Except Issue Method
  | .text (.string s) => match Method.ofName? s with
    | some m => .ok m
    | none => .error .notMethod
  | .text (.broken _) => .error .brokenText
  | _ => .error .notMethod

end Quadrature.Coercion
