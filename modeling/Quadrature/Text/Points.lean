/-
# Quadrature.Text.Points -- text that may hold lone surrogates

A JSON text can spell half of a surrogate pair by an escape. Such a value is no Unicode string, yet
it has to be carried and quoted. `Points` is either a string, or the code points of a text that is
none; `ofPoints` chooses the string whenever there is one.
-/
namespace Quadrature.Text

set_option autoImplicit false

/-- A text as a sequence of code points. -/
inductive Points where
  /-- An ordinary string. -/
  | string (s : String)
  /-- A text with a lone surrogate among its code points. -/
  | broken (points : List Nat)
deriving DecidableEq, Repr, Inhabited

namespace Points

instance : Coe String Points := ⟨.string⟩

/-- The code points of a text. -/
def toPoints : Points → List Nat
  | .string s => s.toList.map Char.toNat
  | .broken points => points

/-- The code points as characters, if every one of them is a character. -/
def chars? : List Nat → Option (List Char)
  | [] => some []
  | n :: ns => if n.isValidChar then (chars? ns).map (Char.ofNat n :: ·) else none

/-- The text with the given code points. -/
def ofPoints (points : List Nat) : Points :=
  match chars? points with
  | some s => .string (String.ofList s)
  | none => .broken points

/-- The number of code points. -/
def length (t : Points) : Nat := t.toPoints.length

/-- The lexicographic order of lists of numbers. -/
def pointsLe : List Nat → List Nat → Bool
  | [], _ => true
  | _ :: _, [] => false
  | m :: ms, n :: ns => m < n || (m == n && pointsLe ms ns)

/-- Texts are ordered by their code points. -/
def le (a b : Points) : Bool := pointsLe a.toPoints b.toPoints

end Points

end Quadrature.Text
