/-
# Quadrature.Proofs.Number.Operations -- the operations on doubles are exact but for one rounding

A finite double has an exact value. The sum, the difference, the product and the quotient of finite
doubles have the value of the exact result, rounded once, unless that is beyond the greatest double;
then they are not finite.

* `Rounds`: a double is what an exact number is rounded to, or that overflows;
* `rounds_add`, `rounds_sub`, `rounds_mul`, `rounds_div`: the operations;
* `finite_of_add`, `finite_of_mul`, `finite_of_div`: what is not finite stays so.
-/
import Mathlib
import Quadrature.Proofs.Number.Mantissa
import Quadrature.Proofs.Number.Order

namespace Quadrature.Number

set_option autoImplicit false

open Float.Model (Format UnpackedFloat totalExponent)
open Float.Model.UnpackedFloat

namespace Double

variable {u v : UnpackedFloat}

/-- The exact value of a finite double. -/
def value (x : Float) : ℚ := exactValue x.toModel.unpack

/-! ## Packed numbers -/

/-- The bits of a number of 53 digits. -/
theorem pack_normal {s : Sign} {m : ℕ} {e : ℤ} {pos : 0 < m} (short : m < 2 ^ 53)
    (leading : 2 ^ 52 ≤ m) (range : e ≤ 971) : UnpackedFloat.pack .binary64 (.finite s m e pos) =
      packComponents .binary64 s (BitVec.ofNat 11 (e + 1075).toNat) (BitVec.ofNat 52 m) := by
  have biased : (e + Format.binary64.exponentBias +
      Format.binary64.mantissaBitsWithoutImplicit).toNat = (e + 1075).toNat := by
    show (e + (2 ^ (11 - 1) - 1 : Nat) + (52 : Nat)).toNat = (e + 1075).toNat
    omega
  have log : m.log2 + 1 = Format.binary64.mantissaBits :=
    congrArg (· + 1) ((Nat.log2_eq_iff pos.ne').2 ⟨leading, short⟩)
  unfold UnpackedFloat.pack
  dsimp only
  rw [biased, if_neg (by show ¬ 2 ^ 11 ≤ (e + 1075).toNat + 1; omega), if_pos log]

/-- The bits of a number of fewer digits, which is at the least exponent. -/
theorem pack_subnormal {s : Sign} {m : ℕ} {pos : 0 < m} (short : m < 2 ^ 52) :
    UnpackedFloat.pack .binary64 (.finite s m (-1074) pos) =
      packComponents .binary64 s 0#11 (BitVec.ofNat 52 m) := by
  have log : ¬ m.log2 + 1 = Format.binary64.mantissaBits := by
    have := (Nat.log2_lt pos.ne').2 short
    show ¬ m.log2 + 1 = 53
    omega
  unfold UnpackedFloat.pack
  dsimp only
  rw [if_neg (by decide), if_neg log]

/-- A canonical number whose exponent is in the range of doubles is not changed by packing. -/
theorem unpack_pack_finite {s : Sign} {m : ℕ} {e : ℤ} {pos : 0 < m}
    (canonical : Canonical (.finite s m e pos)) (range : e ≤ 971) :
    (Float.Model.pack (.finite s m e pos)).unpack = .finite s m e pos := by
  obtain ⟨short, least, normal⟩ := canonical
  have offset : ((Format.binary64.exponentBias : ℤ) +
      Format.binary64.mantissaBitsWithoutImplicit) = 1075 := rfl
  show UnpackedFloat.unpack .binary64 (UnpackedFloat.pack .binary64 (.finite s m e pos)) = _
  by_cases leading : 2 ^ 52 ≤ m
  · have exponent : (BitVec.ofNat 11 (e + 1075).toNat).toNat = (e + 1075).toNat := by
      rw [BitVec.toNat_ofNat]
      omega
    have below : BitVec.ofNat 11 (e + 1075).toNat ≠ -1#11 := by
      intro same
      have value := congrArg BitVec.toNat same
      rw [exponent] at value
      simp only [BitVec.reduceNeg, BitVec.toNat_ofNat, Nat.reducePow, Nat.reduceMod] at value
      omega
    have above : BitVec.ofNat 11 (e + 1075).toNat ≠ 0#11 := by
      intro same
      have value := congrArg BitVec.toNat same
      rw [exponent] at value
      simp only [BitVec.toNat_ofNat, Nat.zero_mod] at value
      omega
    have mantissa : (1#1 ++ BitVec.ofNat 52 m).toNat = m := by
      rw [BitVec.toNat_append, ← Nat.shiftLeft_add_eq_or_of_lt (BitVec.isLt _), BitVec.toNat_ofNat]
      show 1 <<< 52 + m % 2 ^ 52 = m
      omega
    rw [pack_normal short leading range]
    unfold UnpackedFloat.unpack
    simp only [unpackMantissa_packComponents, unpackExponent_packComponents,
      unpackSign_packComponents, Sign.ofBitVec_toBitVec, below, above, if_false, exponent, mantissa,
      offset]
    congr 1
    omega
  · obtain rfl : e = -1074 := normal.resolve_left leading
    have mantissa : (BitVec.ofNat 52 m).toNat = m := by
      rw [BitVec.toNat_ofNat]
      omega
    have some : BitVec.ofNat 52 m ≠ 0#52 := by
      intro same
      have value := congrArg BitVec.toNat same
      rw [mantissa] at value
      exact pos.ne' value
    have ones : (0#11 : BitVec 11) ≠ -1#11 := by decide
    rw [pack_subnormal (Nat.lt_of_not_le leading)]
    unfold UnpackedFloat.unpack
    simp only [unpackMantissa_packComponents, unpackExponent_packComponents,
      unpackSign_packComponents, Sign.ofBitVec_toBitVec, ones, some, if_false, if_true, mantissa,
      offset]
    rfl

/-- The double is what the number is rounded to, unless that overflows. -/
structure Rounds (x : Float) (q : ℚ) : Prop where
  isFinite_iff : x.isFinite = true ↔ |nearest q| < 2 ^ (1024 : ℤ)
  value_eq : x.isFinite = true → value x = nearest q

/-- A canonical number is below the end of the doubles exactly if its exponent is. -/
theorem abs_exactValue_lt_iff {s : Sign} {m : ℕ} {e : ℤ} {pos : 0 < m}
    (canonical : Canonical (.finite s m e pos)) :
    |exactValue (.finite s m e pos)| < 2 ^ (1024 : ℤ) ↔ e ≤ 971 := by
  obtain ⟨short, least, normal⟩ := canonical
  have magnitude : |exactValue (.finite s m e pos)| = m * 2 ^ e := by
    show |signed s _| = _
    rw [abs_signed, abs_of_nonneg (mul_nonneg m.cast_nonneg (unit_pos e).le)]
  rw [magnitude]
  constructor
  · intro below
    by_contra large
    have leading : (2 : ℚ) ^ (52 : ℤ) ≤ m := by exact_mod_cast normal.resolve_right (by omega)
    have : (2 : ℚ) ^ (1024 : ℤ) ≤ m * 2 ^ e :=
      calc (2 : ℚ) ^ (1024 : ℤ) ≤ 2 ^ (52 + e) := zpow_le_zpow_right₀ one_le_two (by omega)
        _ = 2 ^ (52 : ℤ) * 2 ^ e := zpow_add₀ two_ne_zero _ _
        _ ≤ m * 2 ^ e := mul_le_mul_of_nonneg_right leading (unit_pos e).le
    linarith
  · intro small
    have digits : (m : ℚ) < 2 ^ (53 : ℤ) := by exact_mod_cast short
    calc (m : ℚ) * 2 ^ e < 2 ^ (53 : ℤ) * 2 ^ e := mul_lt_mul_of_pos_right digits (unit_pos e)
      _ = 2 ^ (53 + e) := (zpow_add₀ two_ne_zero _ _).symm
      _ ≤ 2 ^ (1024 : ℤ) := zpow_le_zpow_right₀ one_le_two (by omega)

/-- A canonical number is packed to the double that it is, or overflows. -/
theorem rounds_pack {q : ℚ} (canonical : Canonical u) (rounded : exactValue u = nearest q) :
    Rounds (.ofModel (.pack u)) q := by
  cases u with
  | notANumber => exact canonical.elim
  | infinity s => exact canonical.elim
  | zero s =>
      have packed : (Float.Model.pack (.zero s)).unpack = .zero s := unpack_packedZero
      refine ⟨?_, fun _ => ?_⟩
      · rw [← rounded]
        refine iff_of_true (congrArg UnpackedFloat.isFinite packed) ?_
        show |(0 : ℚ)| < _
        rw [abs_zero]
        exact unit_pos _
      · rw [← rounded]
        exact congrArg exactValue packed
  | finite s m e pos =>
      refine ⟨?_, fun finite => ?_⟩
      · rw [isFinite_pack pos, ← rounded, abs_exactValue_lt_iff canonical]
      · rw [← rounded]
        exact congrArg exactValue (unpack_pack_finite canonical ((isFinite_pack pos).1 finite))

/-! ## Operations -/

variable {x y : Float}

/-- What is unpacked from a finite double. -/
theorem canonical_unpack (finite : x.isFinite = true) : Canonical x.toModel.unpack := by
  unfold Float.isFinite Float.Model.isFinite at finite
  cases unpacked : x.toModel.unpack with
  | notANumber => rw [unpacked] at finite; cases finite
  | infinity s => rw [unpacked] at finite; cases finite
  | zero s => trivial
  | finite s m e pos =>
      obtain ⟨short, least, normal, -⟩ := unpack_bounds unpacked
      exact ⟨short, least, normal⟩

/-- A finite double has a value that is not rounded. -/
theorem nearest_value (finite : x.isFinite = true) : nearest (value x) = value x :=
  (canonical_unpack finite).nearest_eq

/-- The doubles that are equal to zero are the two zeros. -/
theorem beq_zero_iff : (x == 0) = true ↔ x.isFinite = true ∧ value x = 0 := by
  have zero : (0 : Float).toModel.unpack = .zero .positive := rfl
  rw [beq_iff_compare, zero]
  show _ ↔ x.toModel.unpack.isFinite = true ∧ exactValue x.toModel.unpack = 0
  cases x.toModel.unpack with
  | notANumber => exact iff_of_false nofun nofun
  | infinity s => cases s <;> exact iff_of_false nofun nofun
  | zero s => exact iff_of_true rfl ⟨rfl, rfl⟩
  | finite s m e pos =>
      have positive : (0 : ℚ) < m * 2 ^ e := mul_pos (Nat.cast_pos.2 pos) (unit_pos e)
      cases s with
      | negative => exact iff_of_false nofun fun known => positive.ne' (neg_eq_zero.1 known.2)
      | positive => exact iff_of_false nofun fun known => positive.ne' known.2

theorem add_value (canonical : Canonical u) (canonical' : Canonical v) :
    Canonical (UnpackedFloat.add .binary64 u v) ∧
      exactValue (UnpackedFloat.add .binary64 u v) = nearest (exactValue u + exactValue v) := by
  cases u with
  | notANumber => exact canonical.elim
  | infinity s => exact canonical.elim
  | zero s => cases v with
    | notANumber => exact canonical'.elim
    | infinity t => exact canonical'.elim
    | zero t =>
        have none : exactValue (.zero s) + exactValue (.zero t) = 0 := add_zero 0
        rw [none, nearest_zero, UnpackedFloat.add]
        split <;> exact ⟨trivial, rfl⟩
    | finite t n d pos =>
        refine ⟨canonical', ?_⟩
        rw [show exactValue (.zero s) = 0 from rfl, zero_add, canonical'.nearest_eq]
        rfl
  | finite s m e pos => cases v with
    | notANumber => exact canonical'.elim
    | infinity t => exact canonical'.elim
    | zero t =>
        refine ⟨canonical, ?_⟩
        rw [show exactValue (.zero t) = 0 from rfl, add_zero, canonical.nearest_eq]
        rfl
    | finite t n d pos' =>
        obtain ⟨rounds, rounded⟩ := normalize_value
          (s.apply (decreaseExponent m e (min e d)).1 + t.apply (decreaseExponent n d (min e d)).1)
          (min e d) .positive
        refine ⟨rounds, rounded.trans (congrArg nearest ?_)⟩
        rw [Int.cast_add, signed_apply, signed_apply, add_mul, signed_mul_right, signed_mul_right,
          Int.cast_natCast, Int.cast_natCast, decreaseExponent_value (min_le_left e d),
          decreaseExponent_value (min_le_right e d)]
        rfl

/-- To subtract is to add the negative. -/
theorem sub_eq_add (u v : UnpackedFloat) :
    UnpackedFloat.sub .binary64 u v = UnpackedFloat.add .binary64 u v.neg := by
  cases u with
  | finite s m e pos => cases v with
    | finite t n d pos' =>
        have apply_neg (k : ℤ) : (-t).apply k = -t.apply k := by
          cases t with
          | negative => exact (neg_neg k).symm
          | positive => rfl
        simp only [UnpackedFloat.sub, UnpackedFloat.add, UnpackedFloat.neg, apply_neg, Int.sub_eq_add_neg]
    | _ => rfl
  | _ => cases v <;> rfl

theorem Canonical.neg (canonical : Canonical v) :
    Canonical v.neg ∧ exactValue v.neg = -exactValue v := by
  cases v with
  | notANumber => exact canonical.elim
  | infinity s => exact canonical.elim
  | zero s => exact ⟨trivial, neg_zero.symm⟩
  | finite s m e pos => exact ⟨canonical, signed_neg s _⟩

theorem mul_value (canonical : Canonical u) (canonical' : Canonical v) :
    Canonical (UnpackedFloat.mul .binary64 u v) ∧
      exactValue (UnpackedFloat.mul .binary64 u v) = nearest (exactValue u * exactValue v) := by
  cases u with
  | notANumber => exact canonical.elim
  | infinity s => exact canonical.elim
  | zero s =>
      rw [show exactValue (.zero s) = 0 from rfl, zero_mul, nearest_zero]
      cases v with
      | notANumber => exact canonical'.elim
      | infinity t => exact canonical'.elim
      | _ => exact ⟨trivial, rfl⟩
  | finite s m e pos => cases v with
    | notANumber => exact canonical'.elim
    | infinity t => exact canonical'.elim
    | zero t =>
        rw [show exactValue (.zero t) = 0 from rfl, mul_zero, nearest_zero]
        exact ⟨trivial, rfl⟩
    | finite t n d pos' =>
        obtain ⟨-, least, normal⟩ := canonical
        obtain ⟨-, least', normal'⟩ := canonical'
        have product : 0 < m * n := Nat.mul_pos pos pos'
        have digits : 52 ≤ (m * n).log2 ∨ e = -1074 ∧ d = -1074 := by
          rcases normal with leading | rfl
          · exact .inl ((Nat.le_log2 product.ne').2 (leading.trans (Nat.le_mul_of_pos_right m pos')))
          · refine normal'.imp (fun leading => ?_) fun same => ⟨rfl, same⟩
            exact (Nat.le_log2 product.ne').2 (leading.trans (Nat.le_mul_of_pos_left n pos))
        have low : e + d ≤ roundingExponent (m * n) (e + d) := by
          unfold roundingExponent
          omega
        obtain ⟨rounds, rounded⟩ := round_value (s * t) .exact (Nat.cast_pos.2 product)
          (cut_exact _) low (.inl product)
        refine ⟨rounds, rounded.trans ?_⟩
        have exact : ((m * n : ℕ) : ℚ) * 2 ^ (e + d) = m * 2 ^ e * (n * 2 ^ d) := by
          rw [zpow_add₀ two_ne_zero]
          push_cast
          ring
        rw [exact, ← nearest_signed, signed_mul]
        rfl

/-- The quotient has digits enough for its unit. -/
theorem div_value {s t : Sign} {m n : ℕ} {e d : ℤ} {pos : 0 < m} {pos' : 0 < n} :
    Canonical (UnpackedFloat.div .binary64 (.finite s m e pos) (.finite t n d pos')) ∧
      exactValue (UnpackedFloat.div .binary64 (.finite s m e pos) (.finite t n d pos')) =
        nearest (exactValue (.finite s m e pos) / exactValue (.finite t n d pos')) := by
  have target : Format.binary64.targetExponent (totalExponent m e - totalExponent n d) =
      max (m.log2 + e - (n.log2 + d) - 53) (-1074) := by
    simp only [Format.targetExponent, totalExponent, Format.mantissaBits, Format.minExponent]
    omega
  unfold UnpackedFloat.div divCore
  dsimp only
  rw [target, Nat.shiftLeft_eq]
  generalize exponent : min (e - d) (max ((m.log2 : ℤ) + e - (n.log2 + d) - 53) (-1074)) = c
  generalize shift : (e - d - c).toNat = k
  have shifted : 0 < m * 2 ^ k := Nat.mul_pos pos (Nat.two_pow_pos k)
  have digits : 2 ^ 52 ≤ m * 2 ^ k / n ∨ c ≤ -1074 := by
    by_cases subnormal : c ≤ -1074
    · exact .inr subnormal
    · have longer : n.log2 + 1 + 52 ≤ (m * 2 ^ k).log2 := by
        rw [log2_mul_two_pow pos]
        omega
      left
      rw [Nat.le_div_iff_mul_le pos']
      calc 2 ^ 52 * n ≤ 2 ^ 52 * 2 ^ (n.log2 + 1) := Nat.mul_le_mul_left _ Nat.lt_log2_self.le
        _ = 2 ^ (n.log2 + 1 + 52) := (Nat.mul_comm _ _).trans (Nat.pow_add 2 _ 52).symm
        _ ≤ m * 2 ^ k := (Nat.le_log2 shifted.ne').1 longer
  have low : c ≤ roundingExponent (m * 2 ^ k / n) c := by
    have := digits.imp_left fun leading => (Nat.le_log2 (by omega)).2 leading
    unfold roundingExponent
    omega
  have positive : (0 : ℚ) < (m * 2 ^ k : ℕ) / n :=
    div_pos (Nat.cast_pos.2 shifted) (Nat.cast_pos.2 pos')
  have quotient : ((m * 2 ^ k : ℕ) : ℚ) / n * 2 ^ c = m * 2 ^ e / (n * 2 ^ d) := by
    have denominator : (n : ℚ) ≠ 0 := Nat.cast_ne_zero.2 pos'.ne'
    have power : (2 : ℚ) ^ e = 2 ^ k * 2 ^ c * 2 ^ d := by
      rw [← zpow_natCast, ← zpow_add₀ two_ne_zero, ← zpow_add₀ two_ne_zero]
      congr 1
      omega
    rw [power]
    push_cast
    field_simp
  obtain ⟨rounds, rounded⟩ := round_value (s / t) _ positive (cut_div (m * 2 ^ k) pos') low
    (digits.imp_left fun leading => by omega)
  refine ⟨rounds, rounded.trans ?_⟩
  rw [quotient, ← nearest_signed, signed_div]
  rfl

theorem rounds_add (finite : x.isFinite = true) (finite' : y.isFinite = true) :
    Rounds (x + y) (value x + value y) :=
  have sum := add_value (canonical_unpack finite) (canonical_unpack finite')
  rounds_pack sum.1 sum.2

theorem rounds_sub (finite : x.isFinite = true) (finite' : y.isFinite = true) :
    Rounds (x - y) (value x - value y) := by
  obtain ⟨canonical, negative⟩ := (canonical_unpack finite').neg
  obtain ⟨rounds, rounded⟩ := add_value (canonical_unpack finite) canonical
  rw [← sub_eq_add] at rounds rounded
  rw [negative, ← sub_eq_add_neg] at rounded
  exact rounds_pack rounds rounded

theorem rounds_mul (finite : x.isFinite = true) (finite' : y.isFinite = true) :
    Rounds (x * y) (value x * value y) :=
  have product := mul_value (canonical_unpack finite) (canonical_unpack finite')
  rounds_pack product.1 product.2

theorem rounds_div (finite : x.isFinite = true) (finite' : y.isFinite = true)
    (nonzero : value y ≠ 0) : Rounds (x / y) (value x / value y) := by
  have canonical := canonical_unpack finite
  have canonical' := canonical_unpack finite'
  suffices divided : Canonical (UnpackedFloat.div .binary64 x.toModel.unpack y.toModel.unpack) ∧
      exactValue (UnpackedFloat.div .binary64 x.toModel.unpack y.toModel.unpack) =
        nearest (value x / value y) from rounds_pack divided.1 divided.2
  unfold value at nonzero ⊢
  generalize x.toModel.unpack = u at *
  generalize y.toModel.unpack = v at *
  cases v with
  | finite t n d pos' => cases u with
    | notANumber => exact canonical.elim
    | infinity s => exact canonical.elim
    | zero s =>
        rw [show exactValue (.zero s) = 0 from rfl, zero_div, nearest_zero]
        exact ⟨trivial, rfl⟩
    | finite s m e pos => exact div_value
  | _ => exact absurd rfl nonzero

/-! ## Infinite operands -/

/-- What is packed to a finite double is finite. -/
theorem isFinite_of_pack (finite : (Float.ofModel (.pack u)).isFinite = true) :
    u.isFinite = true := by
  cases u with
  | notANumber => exact absurd finite (by decide)
  | infinity s => cases s <;> exact absurd finite (by decide)
  | _ => rfl

/-- A finite sum has finite parts. -/
theorem finite_of_add (finite : (x + y).isFinite = true) :
    x.isFinite = true ∧ y.isFinite = true := by
  have sum : (UnpackedFloat.add .binary64 x.toModel.unpack y.toModel.unpack).isFinite = true :=
    isFinite_of_pack finite
  show x.toModel.unpack.isFinite = true ∧ y.toModel.unpack.isFinite = true
  generalize x.toModel.unpack = u at *
  generalize y.toModel.unpack = v at *
  cases u with
  | notANumber => cases sum
  | infinity s => cases v with
    | infinity t =>
        rw [UnpackedFloat.add] at sum
        split at sum <;> cases sum
    | _ => cases sum
  | _ => cases v with
    | notANumber => cases sum
    | infinity t => cases sum
    | _ => exact ⟨rfl, rfl⟩

/-- A finite product has finite parts. -/
theorem finite_of_mul (finite : (x * y).isFinite = true) :
    x.isFinite = true ∧ y.isFinite = true := by
  have product : (UnpackedFloat.mul .binary64 x.toModel.unpack y.toModel.unpack).isFinite = true :=
    isFinite_of_pack finite
  show x.toModel.unpack.isFinite = true ∧ y.toModel.unpack.isFinite = true
  generalize x.toModel.unpack = u at *
  generalize y.toModel.unpack = v at *
  cases u with
  | notANumber => cases product
  | infinity s => cases v <;> cases product
  | _ => cases v with
    | notANumber => cases product
    | infinity t => cases product
    | _ => exact ⟨rfl, rfl⟩

/-- A quotient is finite only if the numerator is. -/
theorem finite_of_div (finite : (x / y).isFinite = true) : x.isFinite = true := by
  have quotient : (UnpackedFloat.div .binary64 x.toModel.unpack y.toModel.unpack).isFinite = true :=
    isFinite_of_pack finite
  show x.toModel.unpack.isFinite = true
  generalize x.toModel.unpack = u at *
  generalize y.toModel.unpack = v at *
  cases u with
  | notANumber => cases quotient
  | infinity s => cases v <;> cases quotient
  | _ => rfl

/-! ## Constants -/

theorem value_finite {s : Sign} {m : ℕ} {e : ℤ} {pos : 0 < m}
    (unpacked : x.toModel.unpack = .finite s m e pos) : value x = signed s (m * 2 ^ e) := by
  rw [value, unpacked]
  rfl

theorem value_one : value (Float.ofBits 0x3FF0000000000000) = 1 := by
  have one : (Float.ofBits 0x3FF0000000000000).toModel.unpack =
      .finite .positive (2 ^ 52) (-52) (by decide) := rfl
  rw [value_finite one]
  show ((2 ^ 52 : ℕ) : ℚ) * 2 ^ (-52 : ℤ) = 1
  norm_num

theorem value_half : value 0.5 = 1 / 2 := by
  have half : (0.5 : Float).toModel.unpack = .finite .positive (2 ^ 52) (-53) (by decide) := rfl
  rw [value_finite half]
  show ((2 ^ 52 : ℕ) : ℚ) * 2 ^ (-53 : ℤ) = 1 / 2
  norm_num

end Double

end Quadrature.Number
