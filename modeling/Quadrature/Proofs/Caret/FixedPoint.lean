/-
# Quadrature.Proofs.Caret.FixedPoint -- an expanded text has nothing left to expand

The operands of a power go into its call unchanged, and what is dropped between them is the caret
and blanks. So each expansion takes exactly one caret away, in any text, and as many expansions as
there are carets reach a text in which none can be expanded.

* `count_of_expandRightmost`: an expansion takes one caret away;
* `expandRightmost_expandTimes`: with one expansion for each caret none is left to be made;
* `normalizeString_normalizeString`: expanding a text again changes nothing.
-/
import Quadrature.Proofs.Caret.Miscall

namespace Quadrature.Caret

set_option autoImplicit false

open Quadrature.Text

theorem count_caret_of_blanks {g : List Char} (blank : ∀ c ∈ g, isBlank c = true) :
    g.count '^' = 0 :=
  List.count_eq_zero.2 fun member => absurd (blank '^' member) (by decide)

/-- A call has no caret but those of the operands. -/
theorem count_powerCall (base exponent : List Char) :
    (powerCall base exponent).count '^' = base.count '^' + exponent.count '^' := by
  rw [powerCall_eq]
  simp

/-- Each expansion takes exactly one caret away. -/
theorem count_of_expandRightmost {text text' : List Char}
    (expanded : expandRightmost text = some text') : text'.count '^' + 1 = text.count '^' := by
  obtain ⟨x, y, rfl, here, -⟩ := exists_rightmost expanded
  obtain ⟨a, b, g, g', e, c, rfl, rfl, rfl, blank, blank', -⟩ := expandAt_split here
  simp only [List.count_append, List.count_cons_self, count_powerCall,
    count_caret_of_blanks blank, count_caret_of_blanks blank']
  omega

/-- As many expansions as there are carets are enough. -/
theorem expandRightmost_expandTimes {n : Nat} {text : List Char} (enough : text.count '^' ≤ n) :
    expandRightmost (expandTimes n text) = none := by
  -- Each expansion made takes one caret from the count.
  induction n generalizing text with
  | zero =>
      cases expanded : expandRightmost text with
      | none => rwa [expandTimes]
      | some text' =>
          have fewer := count_of_expandRightmost expanded
          omega
  | succ n ih =>
      rw [expandTimes]
      cases expanded : expandRightmost text with
      | none => exact expanded
      | some text' =>
          have fewer := count_of_expandRightmost expanded
          exact ih (by omega)

theorem expandTimes_of_none {text : List Char} (none : expandRightmost text = none) (n : Nat) :
    expandTimes n text = text := by
  cases n with
  | zero => rfl
  | succ n => rw [expandTimes, none]

/-- Expanding a text again changes nothing. -/
theorem normalize_normalize (text : List Char) : normalize (normalize text) = normalize text :=
  expandTimes_of_none (expandRightmost_expandTimes le_rfl) _

theorem normalizeString_normalizeString (text : String) :
    normalizeString (normalizeString text) = normalizeString text := by
  simp only [normalizeString, String.toList_ofList, normalize_normalize]

end Quadrature.Caret
