/-
# Quadrature.Text.Blank -- which characters count as blank

Two sets are in use. `isWhiteSpace` is the Unicode property White_Space: it is what the readers of
numbers skip around a literal. `isBlank` adds the four information separators U+001C to U+001F; it
is what separates tokens, and what is trimmed from an answer, a bound or a setting.
-/
import Quadrature.Text.Ranges

namespace Quadrature.Text

set_option autoImplicit false

/-- The Unicode property White_Space. -/
def whiteSpaceRanges : Ranges :=
  [(0x9, 0xD), (0x20, 0x20), (0x85, 0x85), (0xA0, 0xA0), (0x1680, 0x1680), (0x2000, 0x200A),
   (0x2028, 0x2029), (0x202F, 0x202F), (0x205F, 0x205F), (0x3000, 0x3000)]

/-- The character has the Unicode property White_Space. -/
def isWhiteSpace (c : Char) : Bool := whiteSpaceRanges.contains c.toNat

/-- White space, or one of the information separators U+001C to U+001F. -/
def isBlank (c : Char) : Bool := isWhiteSpace c || (0x1C ≤ c.toNat && c.toNat ≤ 0x1F)

/-- The text without the leading characters that `p` holds of, and without the trailing ones. -/
def trimBy (p : Char → Bool) (s : List Char) : List Char :=
  ((s.dropWhile p).reverse.dropWhile p).reverse

/-- The text without the blanks around it. -/
def trim (s : List Char) : List Char := trimBy isBlank s

/-- `trim` on strings. -/
def trimString (s : String) : String := String.ofList (trim s.toList)

end Quadrature.Text
