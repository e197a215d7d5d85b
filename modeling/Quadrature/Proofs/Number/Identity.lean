/-
# Quadrature.Proofs.Number.Identity -- a double is its sign and its value

A double is its three parts: sign, exponent and mantissa. What is unpacked from it holds all of them,
so doubles that are unpacked to the same number are the same. A value other than zero has one mantissa
of 53 digits, or one at the least exponent; so finite doubles of one such value are the same, and only
the two zeros are not.

* `eq_of_parts`, `eq_of_unpack_eq`: doubles with the same parts;
* `Canonical.unique`, `eq_of_value_eq`: doubles with the same value;
* `neg_abs_eq`: a double is its magnitude with its sign.
-/
import Mathlib
import Quadrature.Proofs.Number.Operations

namespace Quadrature.Number

set_option autoImplicit false

open Float.Model (Format UnpackedFloat)
open Float.Model.UnpackedFloat

namespace Double

/-! ## Parts -/

section

variable {b : BitVec Format.binary64.numBits}

theorem toBitVec_ofBitVec (s : BitVec 1) : (Sign.ofBitVec s).toBitVec = s := by
  revert s
  decide

/-- Sign, exponent and mantissa are all of a double. -/
theorem packComponents_parts (b : BitVec Format.binary64.numBits) :
    packComponents .binary64 (Sign.ofBitVec (unpackSign b)) (unpackExponent b) (unpackMantissa b) =
      b := by
  simp only [packComponents, toBitVec_ofBitVec, unpackSign, unpackExponent, unpackMantissa,
    BitVec.extractLsb]
  ext i small
  grind

theorem pack_unpack (valid : Format.binary64.Valid b) :
    UnpackedFloat.pack .binary64 (UnpackedFloat.unpack .binary64 b) = b := by
  have short : (unpackMantissa b).toNat < 2 ^ 52 := BitVec.isLt _
  have wide : (unpackExponent b).toNat < 2 ^ 11 := BitVec.isLt _
  have offset : ((Format.binary64.exponentBias : ℤ) +
      Format.binary64.mantissaBitsWithoutImplicit) = 1075 := rfl
  have parts := packComponents_parts b
  unfold UnpackedFloat.unpack
  dsimp only
  rw [offset]
  split
  case isTrue ones =>
    rw [ones] at parts
    split
    case isTrue none =>
      rw [none] at parts
      exact parts
    case isFalse some => exact (valid.eq_packedNaN ones some).symm
  case isFalse below =>
    split
    case isTrue least =>
      rw [least] at parts
      split
      case isTrue none =>
        rw [none] at parts
        exact parts
      case isFalse some =>
        have exponent : ((unpackExponent b).toNat : ℤ) - 1075 + 1 = -1074 := by
          rw [least]
          rfl
        rw [exponent, pack_subnormal short, BitVec.ofNat_toNat, BitVec.setWidth_eq]
        exact parts
    case isFalse above =>
      have other : (unpackExponent b).toNat ≠ 2047 :=
        fun equal => below (BitVec.eq_of_toNat_eq equal)
      have leading : (1#1 ++ unpackMantissa b).toNat = 2 ^ 52 + (unpackMantissa b).toNat := by
        rw [BitVec.toNat_append, ← Nat.shiftLeft_add_eq_or_of_lt short]
        rfl
      have exponent : BitVec.ofNat 11 ((unpackExponent b).toNat - 1075 + 1075 : ℤ).toNat =
          unpackExponent b := by
        rw [sub_add_cancel, Int.toNat_natCast, BitVec.ofNat_toNat, BitVec.setWidth_eq]
      have mantissa : BitVec.ofNat 52 (1#1 ++ unpackMantissa b).toNat = unpackMantissa b := by
        apply BitVec.eq_of_toNat_eq
        rw [BitVec.toNat_ofNat, leading]
        omega
      rw [pack_normal (by omega) (by omega) (by omega), exponent, mantissa]
      exact parts

end

variable {x y : Float} {u v : UnpackedFloat}

/-- A double is packed from what is unpacked from it. -/
theorem ofModel_pack_unpack (x : Float) : .ofModel (.pack x.toModel.unpack) = x := by
  obtain ⟨⟨bits, valid⟩⟩ := x
  have same : UnpackedFloat.pack .binary64 (UnpackedFloat.unpack .binary64 bits.toBitVec) =
      bits.toBitVec := pack_unpack valid
  simp only [Float.Model.pack, Float.Model.unpack, same]

theorem eq_of_unpack_eq (same : x.toModel.unpack = y.toModel.unpack) : x = y := by
  rw [← ofModel_pack_unpack x, same, ofModel_pack_unpack]

/-! ## Values -/

theorem signed_inj {s t : Sign} {p q : ℚ} (positive : 0 < p) (positive' : 0 < q)
    (same : signed s p = signed t q) : s = t ∧ p = q := by
  cases s <;> cases t <;> simp only [signed] at same
  · exact ⟨rfl, neg_inj.1 same⟩
  · linarith
  · linarith
  · exact ⟨rfl, same⟩

/-- A value other than zero has one canonical number. -/
theorem Canonical.unique (canonical : Canonical u) (canonical' : Canonical v)
    (same : exactValue u = exactValue v) (some : exactValue u ≠ 0) : u = v := by
  cases u with
  | finite s m e pos => cases v with
    | finite t n d pos' =>
        obtain ⟨short, least, normal⟩ := canonical
        obtain ⟨short', least', normal'⟩ := canonical'
        have positive : (0 : ℚ) < m * 2 ^ e := mul_pos (Nat.cast_pos.2 pos) (unit_pos e)
        have positive' : (0 : ℚ) < n * 2 ^ d := mul_pos (Nat.cast_pos.2 pos') (unit_pos d)
        obtain ⟨rfl, magnitudes⟩ := signed_inj positive positive' same
        have units := congrArg unitExponent magnitudes
        rw [unitExponent_of_multiple pos short least normal,
          unitExponent_of_multiple pos' short' least' normal'] at units
        subst units
        obtain rfl : m = n := Nat.cast_inj.1 (mul_right_cancel₀ (unit_pos e).ne' magnitudes)
        rfl
    | _ => exact absurd same some
  | _ => exact absurd rfl some

/-- Finite doubles of one value other than zero are the same. -/
theorem eq_of_value_eq (finite : x.isFinite = true) (finite' : y.isFinite = true)
    (same : value x = value y) (some : value x ≠ 0) : x = y :=
  eq_of_unpack_eq ((canonical_unpack finite).unique (canonical_unpack finite') same some)

/-! ## Magnitudes -/

/-- A finite number is what is unpacked from its double. -/
theorem unpack_abs (finite : x.isFinite = true) : x.abs.toModel.unpack = x.toModel.unpack.abs := by
  have canonical := canonical_unpack finite
  show (Float.Model.pack x.toModel.unpack.abs).unpack = _
  cases unpacked : x.toModel.unpack with
  | notANumber => rw [unpacked] at canonical; exact canonical.elim
  | infinity s => rw [unpacked] at canonical; exact canonical.elim
  | zero s => exact unpack_packedZero
  | finite s m e pos =>
      rw [unpacked] at canonical
      exact unpack_pack_finite canonical (unpack_bounds unpacked).2.2.2

/-- A number is its magnitude with its sign. -/
theorem neg_abs_of_signOf (u : UnpackedFloat) :
    (signOf u = .negative → u.abs.neg = u) ∧ (signOf u = .positive → u.abs = u) := by
  cases u with
  | notANumber => exact ⟨fun _ => rfl, fun _ => rfl⟩
  | _ => exact ⟨by rintro ⟨⟩; rfl, by rintro ⟨⟩; rfl⟩

/-- A double is its magnitude with its sign. -/
theorem neg_abs_eq (finite : x.isFinite = true) :
    (if isNegative x then -x.abs else x.abs) = x := by
  obtain ⟨negative, positive⟩ := neg_abs_of_signOf x.toModel.unpack
  split
  case isTrue minus =>
    show Float.ofModel (.pack x.abs.toModel.unpack.neg) = x
    rw [unpack_abs finite, negative ((isNegative_iff finite).1 minus), ofModel_pack_unpack]
  case isFalse plus =>
    rw [isNegative_iff finite] at plus
    have sign : signOf x.toModel.unpack = .positive := by
      cases sign : signOf x.toModel.unpack with
      | negative => exact absurd sign plus
      | positive => rfl
    show Float.ofModel (.pack x.toModel.unpack.abs) = x
    rw [positive sign, ofModel_pack_unpack]

end Double

end Quadrature.Number
