/-
# Quadrature.Proofs.Safeguard -- which values become finite doubles

A value that has to be a finite double is converted first; then the double has to be finite. A refusal
of either kind names the value. One refusal of the conversion is passed on as it came: a whole number
that is as large as the end of the doubles is no finite double, and is not named either.

* `Value.toFloat_eq_integerTooLarge_iff`: the whole numbers that are too large to be converted;
* `Settled`: a finite double, or a refusal that names the value;
* `requireFinite_settles`: every value is settled but for these whole numbers.
-/
import Quadrature.Proofs.Number.Range
import Quadrature.Safeguard

namespace Quadrature

set_option autoImplicit false

open Quadrature.Number

namespace Value

/-- The value is a whole number with no finite double near it. -/
def IsBeyond : Value → Prop
  | .int n => 2 ^ 1024 - 2 ^ 970 ≤ n.natAbs
  | _ => False

/-- Only whole numbers are too large to be converted. -/
theorem toFloat_eq_integerTooLarge_iff {v : Value} :
    v.toFloat = .error .integerTooLarge ↔ v.IsBeyond := by
  cases v with
  | int n =>
      show floatOfInt n = _ ↔ 2 ^ 1024 - 2 ^ 970 ≤ n.natAbs
      rw [← Double.ofInt?_eq_none_iff, floatOfInt]
      cases Double.ofInt? n <;> simp
  | text t =>
      cases t with
      | string s =>
          rw [toFloat]
          cases Numeral.read? s.toList <;> simp [IsBeyond]
      | broken points => simp [toFloat, IsBeyond]
  | null | bool | float | list | record => simp [toFloat, IsBeyond]

end Value

namespace Safeguard

variable {v : Value} {name : String}

/-- The double of the value, which is finite, or a refusal that names the value. -/
inductive Settled (v : Value) (name : String) : Except Failure Float → Prop where
  | number {x : Float} (converted : v.toFloat = .ok x) (finite : x.isFinite = true) :
      Settled v name (.ok x)
  | notFinite {x : Float} (converted : v.toFloat = .ok x) (infinite : x.isFinite = false) :
      Settled v name (.error (.notFinite name v))
  | notNumber {e : Failure} (refused : v.toFloat = .error e) :
      Settled v name (.error (.notNumber name v))

theorem settled_of_not_beyond (near : ¬ v.IsBeyond) : Settled v name (requireFinite v name) := by
  unfold requireFinite
  split
  · next x converted =>
    split
    case isTrue finite => exact .number converted finite
    case isFalse infinite => exact .notFinite converted (Bool.eq_false_iff.2 infinite)
  · next tooLarge => exact absurd (Value.toFloat_eq_integerTooLarge_iff.1 tooLarge) near
  · next e _ refused => exact .notNumber refused

theorem requireFinite_of_beyond (beyond : v.IsBeyond) :
    requireFinite v name = .error .integerTooLarge := by
  rw [requireFinite, Value.toFloat_eq_integerTooLarge_iff.2 beyond]

theorem Settled.not_tooLarge : ¬ Settled v name (.error .integerTooLarge) := nofun

/-- **A value is turned into its double, if that is finite, or refused by name**, exactly if it is no
whole number beyond the doubles; such a number is refused for its size alone. -/
theorem requireFinite_settles (v : Value) (name : String) :
    (Settled v name (requireFinite v name) ↔ ¬ v.IsBeyond) ∧
      (requireFinite v name = .error .integerTooLarge ↔ v.IsBeyond) := by
  by_cases beyond : v.IsBeyond
  · have refused : requireFinite v name = .error .integerTooLarge := requireFinite_of_beyond beyond
    rw [refused]
    exact ⟨iff_of_false Settled.not_tooLarge (not_not.2 beyond), iff_of_true rfl beyond⟩
  · have settled : Settled v name (requireFinite v name) := settled_of_not_beyond beyond
    refine ⟨iff_of_true settled beyond, iff_of_false (fun refused => ?_) beyond⟩
    rw [refused] at settled
    exact Settled.not_tooLarge settled

/-- A whole number of 310 digits is neither turned into a double nor named. -/
theorem requireFinite_unsettled : ¬ Settled (.int (10 ^ 309)) "x0"
    (requireFinite (.int (10 ^ 309)) "x0") := by
  have beyond : Value.IsBeyond (.int (10 ^ 309)) := by
    show 2 ^ 1024 - 2 ^ 970 ≤ ((10 : Int) ^ 309).natAbs
    decide +kernel
  rw [requireFinite_of_beyond beyond]
  exact Settled.not_tooLarge

end Safeguard

end Quadrature
