/-
# Quadrature.Proofs.Number.Order -- which of two doubles is less

Doubles are compared by their signs, then by their exponents and mantissas. A comparison the other
way round has the opposite outcome, and two finite doubles have an outcome, so that one of them is
less than the other or they are equal; the two zeros are equal.

* `lt_asymm`, `lt_or_lt_of_bne`: of two finite doubles that differ exactly one is less;
* `le_of_not_lt`: where the second is not less, the first is at most the second.
-/
import Quadrature.Number.Double

namespace Quadrature.Number

set_option autoImplicit false

open Float.Model (UnpackedFloat)

namespace Double

/-- A comparison the other way round has the opposite outcome. -/
theorem compare_swap (u v : UnpackedFloat) : v.compare u = (u.compare v).map Ordering.swap := by
  have magnitudes (m n : Nat) (d e : Int) :
      (compare e d).then (compare n m) = ((compare d e).then (compare m n)).swap := by
    rw [Ordering.swap_then, Int.compare_swap, Nat.compare_swap]
  cases u with
  | notANumber => cases v with
    | infinity t => cases t <;> rfl
    | _ => rfl
  | infinity s => cases v with
    | infinity t => cases s <;> cases t <;> rfl
    | _ => cases s <;> rfl
  | zero s => cases v with
    | infinity t => cases t <;> rfl
    | finite t n e pos => cases t <;> rfl
    | _ => rfl
  | finite s m d pos => cases v with
    | notANumber => cases s <;> rfl
    | infinity t => cases s <;> cases t <;> rfl
    | zero t => cases s <;> rfl
    | finite t n e pos' =>
        -- Of two numbers of one sign the magnitudes decide.
        cases s <;> cases t
        · exact congrArg (some ∘ Ordering.swap) (magnitudes m n d e)
        · rfl
        · rfl
        · exact congrArg some (magnitudes m n d e)

/-- Finite numbers can be compared. -/
theorem exists_compare {u v : UnpackedFloat} (finite : u.isFinite = true)
    (finite' : v.isFinite = true) : ∃ outcome, u.compare v = some outcome := by
  cases u with
  | notANumber => cases finite
  | infinity s => cases finite
  | zero s => cases v with
    | notANumber => cases finite'
    | infinity t => cases finite'
    | zero t => exact ⟨_, rfl⟩
    | finite t n e pos => cases t <;> exact ⟨_, rfl⟩
  | finite s m d pos => cases v with
    | notANumber => cases finite'
    | infinity t => cases finite'
    | zero t => cases s <;> exact ⟨_, rfl⟩
    | finite t n e pos' => cases s <;> cases t <;> exact ⟨_, rfl⟩

end Double

open Double (compare_swap exists_compare)

variable {x y : Float}

theorem lt_iff_compare :
    x < y ↔ x.toModel.unpack.compare y.toModel.unpack = some .lt := by
  show decide (x.toModel < y.toModel) = true ↔ _
  rw [decide_eq_true_iff]
  show (_ == some Ordering.lt) = true ↔ _
  rw [beq_iff_eq]

theorem le_iff_compare :
    x ≤ y ↔ (x.toModel.unpack.compare y.toModel.unpack).any (·.isLE) = true := by
  show decide (x.toModel ≤ y.toModel) = true ↔ _
  rw [decide_eq_true_iff]
  rfl

theorem beq_iff_compare :
    (x == y) = true ↔ x.toModel.unpack.compare y.toModel.unpack = some .eq := by
  show (_ == some Ordering.eq) = true ↔ _
  rw [beq_iff_eq]

/-- A double that is less than another is not greater as well. -/
theorem lt_asymm (less : x < y) : ¬ y < x := by
  rw [lt_iff_compare] at less ⊢
  rw [compare_swap, less]
  decide

/-- Of two finite doubles, the first is at most the second unless the second is less. -/
theorem le_of_not_lt (finite : x.isFinite = true) (finite' : y.isFinite = true)
    (greater : ¬ y < x) : x ≤ y := by
  obtain ⟨outcome, compared⟩ :=
    exists_compare (u := x.toModel.unpack) (v := y.toModel.unpack) finite finite'
  rw [lt_iff_compare, compare_swap, compared] at greater
  rw [le_iff_compare, compared]
  cases outcome with
  | gt => exact absurd rfl greater
  | _ => rfl

/-- Of two finite doubles that differ one is less. -/
theorem lt_or_lt_of_bne (finite : x.isFinite = true) (finite' : y.isFinite = true)
    (distinct : (x != y) = true) : x < y ∨ y < x := by
  obtain ⟨outcome, compared⟩ :=
    exists_compare (u := x.toModel.unpack) (v := y.toModel.unpack) finite finite'
  have different : ¬ (x == y) = true := by simpa [bne] using distinct
  rw [beq_iff_compare, compared] at different
  rw [lt_iff_compare, lt_iff_compare, compare_swap x.toModel.unpack, compared]
  cases outcome with
  | lt => exact .inl rfl
  | eq => exact absurd rfl different
  | gt => exact .inr rfl

end Quadrature.Number
