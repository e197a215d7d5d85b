/-
# Quadrature.Proofs.Bounds.RoundTrip -- bounds are read back from their text

Bounds are written as their two ends in brackets, with blanks wherever they may stand. Each end is read
back from its text, and a text of this kind is one pair of brackets around two numerals; so the bounds
are read back, and no blank is lost to a number or left beside one.

* `spelled`: the texts of bounds;
* `framed_spelled`: they are framed pairs;
* `parse_spelled`: they are read back.
-/
import Quadrature.Proofs.Bounds
import Quadrature.Proofs.Number.Shortest

namespace Quadrature.Bounds

set_option autoImplicit false

open Quadrature.Number

/-- The bounds in brackets, with the given blanks around the brackets and the ends. -/
def spelled (b : Bounds) (w1 w2 w3 w4 w5 w6 : List Char) : String :=
  String.ofList (w1 ++ '[' :: (w2 ++ floatChars b.x0 ++ w3) ++ ',' :: (w4 ++ floatChars b.x1 ++ w5) ++
    ']' :: w6)

variable {w1 w2 w3 w4 w5 w6 : List Char}

/-- A finite double with blanks around its text. -/
theorem spaced_floatChars {x : Float} (finite : x.isFinite = true) (before : Blanks w1)
    (after : Blanks w2) : Spaced x (w1 ++ floatChars x ++ w2) := by
  rw [List.append_assoc]
  exact .intro before (read?_floatChars finite) after

/-- The bounds are the two ends of their text. -/
theorem framed_spelled (b : Bounds) (blank1 : Blanks w1) (blank2 : Blanks w2) (blank3 : Blanks w3)
    (blank4 : Blanks w4) (blank5 : Blanks w5) (blank6 : Blanks w6) :
    Framed ['['] [']'] b.x0 b.x1 (b.spelled w1 w2 w3 w4 w5 w6).toList := by
  have frame : Framed ['['] [']'] b.x0 b.x1 _ := .intro blank1
    (spaced_floatChars b.x0_finite blank2 blank3) (spaced_floatChars b.x1_finite blank4 blank5) blank6
  rw [spelled, String.toList_ofList]
  simpa using frame

/-- **Bounds are read back from their text**, each end bit for bit, whatever blanks stand in it. -/
theorem parse_spelled (b : Bounds) (blank1 : Blanks w1) (blank2 : Blanks w2) (blank3 : Blanks w3)
    (blank4 : Blanks w4) (blank5 : Blanks w5) (blank6 : Blanks w6) :
    parse (b.spelled w1 w2 w3 w4 w5 w6) = .ok b :=
  parse_eq_ok_iff.2 ⟨['['], [']'], brackets_pair.1, brackets_pair.2,
    framed_spelled b blank1 blank2 blank3 blank4 blank5 blank6⟩

/-- The theorem at a zero below zero and the least double, with blanks of several kinds. -/
theorem parse_spelled_zero :
    parse "\u2003[-0.0 ,\t5e-324\u001C]\n" = .ok ⟨.ofBits 0x8000000000000000, .ofBits 1, rfl, rfl⟩ := by
  have text : spelled ⟨.ofBits 0x8000000000000000, .ofBits 1, rfl, rfl⟩ ['\u2003'] [] [' '] ['\t']
      ['\u001C'] ['\n'] = "\u2003[-0.0 ,\t5e-324\u001C]\n" := by
    decide +kernel
  have blanks {s : List Char} (all : s.all Text.isBlank = true) : Blanks s := List.all_eq_true.1 all
  rw [← text]
  exact parse_spelled _ (blanks (by decide)) (blanks rfl) (blanks (by decide)) (blanks (by decide))
    (blanks (by decide)) (blanks (by decide))

end Quadrature.Bounds
