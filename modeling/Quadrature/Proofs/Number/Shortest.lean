/-
# Quadrature.Proofs.Number.Shortest -- doubles are read back from their texts

The decimal of a double is found by a search that reads every candidate back, or it is the exact
expansion. Either way the double is the nearest one, and the text shows that decimal. Only a zero is
not determined by what its decimal is worth; its text is one and the same up to the sign.

* `Decimal.toFloat_of_value_ofFloat`: the decimal of a double;
* `exists_numberText_floatChars`: the text of a double;
* `read?_floatChars`: it is read back.
-/
import Mathlib
import Quadrature.Proofs.Number.Layout

namespace Quadrature.Number

set_option autoImplicit false

open Float.Model (UnpackedFloat)

namespace Double

variable {x y : Float}

theorem eq_of_same (equal : same x y = true) : x = y := by
  obtain ⟨⟨bits, valid⟩⟩ := x
  obtain ⟨⟨bits', valid'⟩⟩ := y
  obtain rfl : bits = bits' := beq_iff_eq.1 equal
  rfl

end Double

namespace Decimal

variable {x : Float}

/-- The exact expansion has the exact value. -/
theorem value_exact (m : ℕ) (e : ℤ) : (exact m e).value = m * 2 ^ e := by
  cases e with
  | ofNat k =>
      show ((m * 2 ^ k : ℕ) : ℚ) * 10 ^ (0 : ℤ) = m * 2 ^ (k : ℤ)
      rw [zpow_zero, mul_one, zpow_natCast]
      push_cast
      rfl
  | negSucc k =>
      show ((m * 5 ^ (k + 1) : ℕ) : ℚ) * 10 ^ (-((k + 1 : ℕ) : ℤ)) = m * 2 ^ (-((k + 1 : ℕ) : ℤ))
      rw [zpow_neg, zpow_neg, zpow_natCast, zpow_natCast, show (10 : ℚ) = 5 * 2 by norm_num, mul_pow]
      push_cast
      field_simp

/-- What the search finds reads back, and so does the exact expansion. -/
theorem nearest_shortest {m : ℕ} {e : ℤ} (finite : x.isFinite = true)
    (value : Double.value x = m * 2 ^ e) :
    nearest (shortest x m e).value = Double.value x := by
  unfold shortest
  dsimp only
  cases found : (List.range 17).findSome? fun i => (neighbours (m * Nat.pow 2 e.toNat)
      (Nat.pow 2 (-e).toNat) (i + 1)).find? fun d => Double.same d.toFloat x with
  | none =>
      rw [Option.getD_none, value_exact, ← value]
      exact Double.nearest_value finite
  | some d =>
      obtain ⟨i, -, known⟩ := List.exists_of_findSome?_eq_some found
      have same : d.toFloat = x := Double.eq_of_same (List.find?_some
        (p := fun d : Decimal => Double.same d.toFloat x) known)
      rw [Option.getD_some, ← same]
      exact (d.rounds_toFloat.value_eq (same ▸ finite)).symm

/-- A decimal of the same value as that of a finite double is read as its magnitude. -/
theorem toFloat_of_value_ofFloat {d : Decimal} (finite : x.isFinite = true)
    (shown : d.value = (ofFloat x).value) : d.toFloat = x.abs := by
  have magnitude := Double.unpack_abs finite
  have canonical := Double.canonical_unpack finite
  unfold ofFloat Double.magnitude? at shown
  cases unpacked : x.toModel.unpack with
  | notANumber => rw [unpacked] at canonical; exact canonical.elim
  | infinity s => rw [unpacked] at canonical; exact canonical.elim
  | zero s =>
      rw [unpacked] at shown magnitude
      have none : d.value = 0 := by
        rw [shown, value, Nat.cast_zero, zero_mul]
      rw [toFloat_of_value_zero none]
      show _ = Float.ofModel (.pack x.toModel.unpack.abs)
      rw [unpacked]
      rfl
  | finite s m e pos =>
      rw [unpacked] at shown magnitude
      have finite' : x.abs.isFinite = true := congrArg UnpackedFloat.isFinite magnitude
      have value : Double.value x.abs = m * 2 ^ e := Double.value_finite magnitude
      have positive : (0 : ℚ) < m * 2 ^ e := mul_pos (Nat.cast_pos.2 pos) (unit_pos e)
      exact toFloat_eq finite' (shown ▸ nearest_shortest finite' value) (value ▸ positive.ne')

end Decimal

/-- Every finite double is written with a fraction or an exponent, and its text shows its decimal. -/
theorem exists_numberText_floatChars {x : Float} (finite : x.isFinite = true) :
    ∃ t : NumberText, ¬ t.IsWhole ∧ t.text = floatChars x ∧ t.negative = Double.isNegative x ∧
      t.decimal.value = (Decimal.ofFloat x).value := by
  obtain ⟨t, plain, pointed, written, value⟩ := Layout.standard.exists_text (Decimal.ofFloat x)
  refine ⟨t.signed (Double.isNegative x), pointed, ?_, rfl, value⟩
  have magnitude : floatChars x =
      if Double.isNegative x then '-' :: t.text else t.text := by
    rw [floatChars, isNaN_of_isFinite finite, isInf_of_isFinite finite, written]
    rfl
  have unsigned : t.text = t.whole ++ (t.fractionText ++ t.exponentText) := by
    simp [NumberText.text, NumberText.signText, plain]
  rw [magnitude, unsigned]
  cases Double.isNegative x <;> rfl

/-- **A finite double is read back from its text**, bit for bit. -/
theorem read?_floatChars {x : Float} (finite : x.isFinite = true) :
    Numeral.read? (floatChars x) = some x := by
  obtain ⟨t, -, written, sign, shown⟩ := exists_numberText_floatChars finite
  rw [← written, Numeral.read?_text, sign, Decimal.toFloat_of_value_ofFloat finite shown,
    Double.neg_abs_eq finite]

end Quadrature.Number
