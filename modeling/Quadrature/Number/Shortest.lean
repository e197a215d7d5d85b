/-
# Quadrature.Number.Shortest -- the shortest decimal that reads back

A double is written with the fewest significant digits whose nearest double is the double itself,
and of those decimals with the nearest one, an even last digit settling a tie. For each number of
digits only the two neighbours of the value on that decimal grid are tried: if any decimal of that
length reads back, one of these two does. The exact expansion stands behind the search, so that it
has an answer for every double.

`Layout` holds the decisions of the written form: where positional notation ends and how wide the
exponent is at least.
-/
import Quadrature.Number.Double

namespace Quadrature.Number

set_option autoImplicit false

/-- The decimal `digits · 10 ^ exponent`. -/
structure Decimal where
  digits : Nat
  exponent : Int
deriving DecidableEq, Repr

namespace Decimal

/-- The double nearest to a decimal. -/
def toFloat (d : Decimal) : Float := Double.ofDecimal d.digits d.exponent

/-- The number of decimal digits of `n`. -/
def digitCount (n : Nat) : Nat := (Nat.toDigits 10 n).length

/-- The place of the leading digit of `num / den`: `10 ^ (place - 1) ≤ num / den < 10 ^ place`. -/
def leadingPlace (num den : Nat) : Int :=
  if den ≤ num then digitCount (num / den) else 1 - (digitCount ((den - 1) / num) : Int)

/-- The two neighbours of `num / den` with `count` digits, the nearer first. -/
def neighbours (num den count : Nat) : List Decimal :=
  let shift := count - leadingPlace num den
  let num := num * Nat.pow 10 shift.toNat
  let den := den * Nat.pow 10 (-shift).toNat
  let below : Decimal := ⟨num / den, -shift⟩
  let above : Decimal := ⟨num / den + 1, -shift⟩
  match compare (2 * (num % den)) den with
  | .lt => [below, above]
  | .gt => [above, below]
  | .eq => if below.digits % 2 == 0 then [below, above] else [above, below]

/-- The exact decimal expansion of `mantissa · 2 ^ exponent`. -/
def exact (mantissa : Nat) : Int → Decimal
  | .ofNat e => ⟨mantissa * Nat.pow 2 e, 0⟩
  | .negSucc e => ⟨mantissa * Nat.pow 5 (e + 1), .negSucc e⟩

/-- The shortest decimal whose nearest double is `x`, which is positive and has the given mantissa
and exponent. -/
def shortest (x : Float) (mantissa : Nat) (exponent : Int) : Decimal :=
  let num := mantissa * Nat.pow 2 exponent.toNat
  let den := Nat.pow 2 (-exponent).toNat
  let found := (List.range 17).findSome? fun i =>
    (neighbours num den (i + 1)).find? fun d => Double.same d.toFloat x
  found.getD (exact mantissa exponent)

/-- The shortest decimal for the magnitude of a finite double. -/
def ofFloat (x : Float) : Decimal :=
  match Double.magnitude? x with
  | some (mantissa, exponent) => shortest x.abs mantissa exponent
  | none => ⟨0, 0⟩

end Decimal

/-- How a decimal is laid out. -/
structure Layout where
  /-- The least exponent of the leading digit that is written positionally. -/
  lowest : Int
  /-- The least exponent of the leading digit above the positional ones. -/
  below : Int
  /-- The least number of exponent digits. -/
  exponentWidth : Nat

/-- Positional from 10 ^ -4 up to 10 ^ 16, elsewhere with an exponent of two digits or more. -/
def Layout.standard : Layout := ⟨-4, 16, 2⟩

namespace Layout

/-- Digits without the zeros at their end. -/
def dropTrailingZeros (digits : List Char) : List Char :=
  (digits.reverse.dropWhile (· == '0')).reverse

/-- The exponent with its sign, padded by zeros to the least width. -/
def exponentText (layout : Layout) (e : Int) : List Char :=
  let digits := Nat.toDigits 10 e.natAbs
  (if e < 0 then '-' else '+') ::
    (List.replicate (layout.exponentWidth - digits.length) '0' ++ digits)

/-- The text of the decimal that is `0.digits · 10 ^ place`. -/
def render (layout : Layout) (digits : List Char) (place : Int) : List Char :=
  let leading := place - 1
  if layout.lowest ≤ leading && leading < layout.below then
    if place ≤ 0 then '0' :: '.' :: (List.replicate (-place).toNat '0' ++ digits)
    else
      let before := place.toNat
      if digits.length ≤ before then
        digits ++ List.replicate (before - digits.length) '0' ++ ['.', '0']
      else digits.take before ++ '.' :: digits.drop before
  else
    match digits with
    | [d] => d :: 'e' :: layout.exponentText leading
    | d :: ds => d :: '.' :: (ds ++ 'e' :: layout.exponentText leading)
    | [] => []

/-- The text of a decimal. -/
def text (layout : Layout) (d : Decimal) : List Char :=
  if d.digits = 0 then ['0', '.', '0']
  else
    let digits := Nat.toDigits 10 d.digits
    layout.render (dropTrailingZeros digits) (digits.length + d.exponent)

end Layout

/-- The text of a double: the shortest decimal that reads back, or `nan`, `inf`, `-inf`. -/
def floatChars (x : Float) : List Char :=
  if x.isNaN then ['n', 'a', 'n']
  else
    let magnitude := if x.isInf then ['i', 'n', 'f'] else Layout.standard.text (Decimal.ofFloat x)
    if Double.isNegative x then '-' :: magnitude else magnitude

/-- `floatChars` as a string. -/
def floatText (x : Float) : String := String.ofList (floatChars x)

end Quadrature.Number
