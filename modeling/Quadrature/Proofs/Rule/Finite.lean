/-
# Quadrature.Proofs.Rule.Finite -- when a rule stays among the finite doubles

Finite ends are not enough for finite points. Their distance can overflow, and then there is no point
at all: the step is infinite, and no multiple of it is a number. Where it does not, rounding can still
carry the last points past the greatest double. The points of a grid come in order, so the last one
decides.

* `getLast?_samples`: the last point of a rule;
* `sum_zero`: an integrand that is zero at the points of a rule has the sum zero, on finite steps;
* `integrate_finite`: the arguments of an integrand are finite exactly if the last one is, and then
  zero has the integral zero;
* `not_integrate_finite`: ends from which no rule gets to a number.
-/
import Quadrature.Proofs.Number.Decimal
import Quadrature.Proofs.Rule.Sampling

namespace Quadrature

set_option autoImplicit false

open Quadrature.Number
open Quadrature.Number.Double
open Sampling (Sampled call record)

variable {α β γ δ κ : Type}

/-! ## The points of a rule by their offsets -/

namespace Method

section

variable [Arithmetic α] {at' : α → β} {g : Grid α β} {m : Method}

/-- How many steps a rule goes from the origin to the point with a given index. -/
def offset (i : ℕ) : Method → α
  | .midpoint => Arithmetic.ofNat i + Arithmetic.half
  | _ => Arithmetic.ofNat i

/-- The index of the last point on a grid of `n` steps. -/
def lastIndex (n : ℕ) : Method → ℕ
  | .right | .trapezoidal => n
  | .left | .midpoint | .simpson => n - 1

theorem lastIndex_le (n : ℕ) : m.lastIndex n ≤ n := by
  cases m with
  | right | trapezoidal => exact le_rfl
  | left | midpoint | simpson => exact n.sub_le 1

/-- A point of a rule is an end of the grid, or some steps away from its origin. -/
theorem mem_samples {v : β} (member : v ∈ g.samples at' m) : v = g.first ∨ v = g.last ∨
    ∃ i ≤ m.lastIndex g.count, v = at' (g.origin + m.offset i * g.step) := by
  cases m with
  | left | midpoint =>
      obtain ⟨i, range, rfl⟩ := List.mem_map.1 member
      rw [List.mem_range'_1] at range
      exact .inr (.inr ⟨i, by dsimp only [lastIndex]; omega, rfl⟩)
  | right =>
      obtain ⟨i, range, rfl⟩ := List.mem_map.1 member
      rw [List.mem_range'_1] at range
      exact .inr (.inr ⟨i, by dsimp only [lastIndex]; omega, rfl⟩)
  | trapezoidal =>
      obtain ⟨i, range, near⟩ := List.mem_flatMap.1 member
      rw [List.mem_range'_1] at range
      rcases List.mem_pair.1 near with rfl | rfl
      · exact .inr (.inr ⟨i, by dsimp only [lastIndex]; omega, rfl⟩)
      · exact .inr (.inr ⟨i + 1, by dsimp only [lastIndex]; omega, rfl⟩)
  | simpson =>
      rcases List.mem_cons.1 member with rfl | member
      · exact .inl rfl
      rcases List.mem_cons.1 member with rfl | member
      · exact .inr (.inl rfl)
      obtain ⟨i, range, rfl⟩ := List.mem_map.1 member
      rw [List.mem_range'_1] at range
      exact .inr (.inr ⟨i, by dsimp only [lastIndex]; omega, rfl⟩)

/-- The last point of a rule is the one with the last index. -/
theorem getLast?_samples (at' : α → β) {g : Grid α β} (positive : 0 < g.count)
    (even : m.requiresEven = true → g.count % 2 = 0) : (g.samples at' m).getLast? =
      some (at' (g.origin + m.offset (m.lastIndex g.count) * g.step)) := by
  have last (i : ℕ) {k : ℕ} (some : 0 < k) : (List.range' i k).getLast? = .some (i + (k - 1)) := by
    obtain ⟨k, rfl⟩ := Nat.exists_eq_succ_of_ne_zero some.ne'
    rw [List.range'_1_concat, List.getLast?_concat]
    rfl
  cases m with
  | left | midpoint =>
      rw [Grid.samples, List.getLast?_map, last 0 positive, Nat.zero_add]
      rfl
  | right =>
      rw [Grid.samples, List.getLast?_map, last 1 positive, Nat.add_sub_cancel' positive]
      rfl
  | trapezoidal =>
      obtain ⟨k, same⟩ := Nat.exists_eq_succ_of_ne_zero positive.ne'
      rw [Grid.samples, same, List.range'_1_concat, List.flatMap_append, List.flatMap_singleton,
        List.getLast?_append_of_ne_nil _ (by simp), Nat.zero_add]
      rfl
  | simpson =>
      have two : 0 < g.count - 1 := by
        have := even rfl
        omega
      rw [Grid.samples, List.getLast?_cons, List.getLast?_cons, List.getLast?_map, last 1 two,
        Nat.add_sub_cancel' two]
      rfl

end

end Method

/-! ## Offsets as doubles -/

section

variable {i n : ℕ}

theorem finite_ofNat (small : n < 2 ^ 1024 - 2 ^ 970) :
    (Arithmetic.ofNat n : Float).isFinite = true :=
  (isFinite_ofDecimal n).2 small

theorem value_ofNat (small : n < 2 ^ 1024 - 2 ^ 970) :
    value (Arithmetic.ofNat n : Float) = nearest n :=
  (rounds_ofDecimal n).value_eq (finite_ofNat small)

theorem one_le_nearest (positive : 0 < n) : 1 ≤ nearest n := by
  have one : nearest 1 = 1 := value_one ▸ nearest_value rfl
  rw [← one]
  exact nearest_mono (by exact_mod_cast positive)

/-- A number that is not too small is rounded by less than its `2 ^ 52`nd part. -/
theorem abs_nearest_sub_le_of_half_le {q : ℚ} (half : 1 / 2 ≤ q) :
    |nearest q - q| ≤ q / 2 ^ 52 := by
  have error := abs_nearest_sub_le q
  have least : (2 : ℚ) ^ (-1075 : ℤ) ≤ 2 ^ (-54 : ℤ) := zpow_le_zpow_right₀ one_le_two (by decide)
  have small : (2 : ℚ) ^ (-54 : ℤ) = 1 / 2 / 2 ^ 53 := by norm_num
  rw [small] at least
  rw [abs_of_nonneg (le_trans (by norm_num) half)] at error
  generalize (2 : ℚ) ^ (-1075 : ℤ) = ε at *
  linarith

namespace Method

/-- The exact value of an offset. -/
def offsetValue (i : ℕ) : Method → ℚ
  | .midpoint => nearest (nearest i + 1 / 2)
  | _ => nearest i

theorem offsetValue_nonneg (i : ℕ) (m : Method) : 0 ≤ m.offsetValue i := by
  have whole : 0 ≤ nearest i := nearest_nonneg i.cast_nonneg
  cases m with
  | midpoint => exact nearest_nonneg (add_nonneg whole (by norm_num))
  | _ => exact whole

theorem offsetValue_mono {j : ℕ} (ordered : i ≤ j) (m : Method) :
    m.offsetValue i ≤ m.offsetValue j := by
  have whole : nearest i ≤ nearest j := nearest_mono (Nat.cast_le.2 ordered)
  cases m with
  | midpoint => exact nearest_mono ((add_le_add_iff_right _).2 whole)
  | _ => exact whole

/-- An offset is at most the number of steps, but for the roundings. -/
theorem offsetValue_le (positive : 0 < n) {m : Method} (inside : i ≤ m.lastIndex n) :
    m.offsetValue i ≤ (1 + 1 / 2 ^ 50) * nearest n := by
  have some := one_le_nearest positive
  have plain (most : i ≤ n) : nearest i ≤ (1 + 1 / 2 ^ 50) * nearest n := by
    have ordered : nearest i ≤ nearest n := nearest_mono (Nat.cast_le.2 most)
    linarith
  cases m with
  | midpoint =>
      have room : (i : ℚ) + 1 ≤ n := by
        have : i + 1 ≤ n := by
          have := inside
          dsimp only [lastIndex] at this
          omega
        exact_mod_cast this
      have whole : nearest i ≤ i + i / 2 ^ 52 := by
        rcases Nat.eq_zero_or_pos i with rfl | some
        · simp
        · have least : (1 : ℚ) ≤ i := Nat.one_le_cast.2 some
          have := (abs_le.1 (abs_nearest_sub_le_of_half_le (q := i) (by linarith))).2
          linarith
      have count := (abs_le.1 (abs_nearest_sub_le_of_half_le (q := n) (by
        have : (1 : ℚ) ≤ n := Nat.one_le_cast.2 positive
        linarith))).1
      have middle := (abs_le.1 (abs_nearest_sub_le_of_half_le (q := nearest i + 1 / 2) (by
        have := nearest_nonneg (i.cast_nonneg (α := ℚ))
        linarith))).2
      show nearest (nearest i + 1 / 2) ≤ _
      linarith
  | right | trapezoidal => exact plain inside
  | left | simpson => exact plain (inside.trans (n.sub_le 1))

/-- The offsets are finite doubles. -/
theorem finite_offset (small : n < 2 ^ 1024 - 2 ^ 970) {m : Method}
    (inside : i ≤ m.lastIndex n) :
    (m.offset i : Float).isFinite = true ∧ value (m.offset i : Float) = m.offsetValue i := by
  have small' : i < 2 ^ 1024 - 2 ^ 970 := (inside.trans (lastIndex_le n)).trans_lt small
  have finite := finite_ofNat small'
  have whole := value_ofNat small'
  cases m with
  | midpoint =>
      have finite' := isFinite_add_half finite
      have rounds := rounds_add finite (y := 0.5) rfl
      rw [value_half, whole] at rounds
      exact ⟨finite', rounds.value_eq finite'⟩
  | _ => exact ⟨finite, whole⟩

end Method

end

/-! ## Sums of zeros -/

namespace Sampling

variable {f : β → Except (Failure ⊕ κ) α} {P : γ → Prop} {Q : δ → Prop}

/-- Only the points are called. -/
theorem Sampled.mem_points {points : List β} {r : Except (Failure ⊕ κ) γ × List β} {v : β}
    (sampled : Sampled f points r) (member : v ∈ r.2) : v ∈ points := by
  cases sampled with
  | whole y known => exact member
  | upTo after known failed =>
      rcases List.mem_append.1 member with early | last
      · exact List.mem_append_left _ early
      · obtain rfl := List.mem_singleton.1 last
        exact List.mem_append_right _ List.mem_cons_self

/-- All points are called if there is no failure. -/
theorem Sampled.calls_eq {points : List β} {r : Except (Failure ⊕ κ) γ × List β}
    (sampled : Sampled f points r) (total : ∀ v, ∃ y, f v = .ok y) : r.2 = points := by
  cases sampled with
  | whole y known => rfl
  | @upTo before v e after known failed =>
      obtain ⟨y, known'⟩ := total v
      rw [failed] at known'
      cases known'

/-- The computation does not fail, and its value has the property. -/
def Gives (P : γ → Prop) (c : Sampling κ β γ) : Prop :=
  ∀ former, ∃ y, (record former c).1 = .ok y ∧ P y

namespace Gives

theorem pure {y : γ} (holds : P y) : Gives P (Pure.pure y : Sampling κ β γ) := by
  intro former
  exact ⟨y, rfl, holds⟩

theorem call {P : α → Prop} {v : β} (known : ∃ y, f v = .ok y ∧ P y) :
    Gives P (Sampling.call f v) := by
  intro former
  exact known

theorem bind {c : Sampling κ β γ} {k : γ → Sampling κ β δ} (first : Gives P c)
    (rest : ∀ y, P y → Gives Q (k y)) : Gives Q (c >>= k) := by
  intro former
  obtain ⟨y, ran, holds⟩ := first former
  rw [record_bind]
  rcases outcome : record former c with ⟨r, points⟩
  rw [outcome] at ran
  cases ran
  exact rest y holds points

/-- By induction on the number of terms. -/
theorem accumulate [Arithmetic α] {P : α → Prop} (add : ∀ x y, P x → P y → P (x + y))
    {term : ℕ → Sampling κ β α} {count i : ℕ} (terms : ∀ j ∈ List.range' i count, Gives P (term j))
    {total : α} (start : P total) : Gives P (Method.accumulate term count i total) := by
  induction count generalizing i total with
  | zero => exact pure start
  | succ count ih =>
      rw [List.range'_succ] at terms
      refine (terms i List.mem_cons_self).bind fun y holds => ?_
      exact ih (fun j member => terms j (List.mem_cons_of_mem i member)) (add _ _ start holds)

end Gives

end Sampling

section

variable {x y : Float}

/-- One of the two zeros. -/
def IsZero (x : Float) : Prop := (x == 0) = true

instance (x : Float) : Decidable (IsZero x) :=
  inferInstanceAs (Decidable ((x == 0) = true))

theorem IsZero.of_rounds (rounds : Rounds x 0) : IsZero x := by
  have finite : x.isFinite = true := by
    rw [rounds.isFinite_iff, nearest_zero, abs_zero]
    exact unit_pos 1024
  exact beq_zero_iff.2 ⟨finite, (rounds.value_eq finite).trans nearest_zero⟩

theorem IsZero.add (zero : IsZero x) (zero' : IsZero y) : IsZero (x + y) := by
  obtain ⟨finite, value⟩ := beq_zero_iff.1 zero
  obtain ⟨finite', value'⟩ := beq_zero_iff.1 zero'
  have rounds := rounds_add finite finite'
  rw [value, value', add_zero] at rounds
  exact .of_rounds rounds

theorem IsZero.mul (zero : IsZero x) (finite' : y.isFinite = true) : IsZero (x * y) := by
  obtain ⟨finite, value⟩ := beq_zero_iff.1 zero
  have rounds := rounds_mul finite finite'
  rw [value, zero_mul] at rounds
  exact .of_rounds rounds

theorem IsZero.weigh (finite : x.isFinite = true) (zero : IsZero y) : IsZero (x * y) := by
  obtain ⟨finite', value⟩ := beq_zero_iff.1 zero
  have rounds := rounds_mul finite finite'
  rw [value, mul_zero] at rounds
  exact .of_rounds rounds

theorem IsZero.div {n : ℕ} (zero : IsZero x) (positive : 0 < n) (small : n < 2 ^ 1024 - 2 ^ 970) :
    IsZero (x / Arithmetic.ofNat n) := by
  obtain ⟨finite, value⟩ := beq_zero_iff.1 zero
  have nonzero : Double.value (Arithmetic.ofNat n) ≠ 0 := by
    rw [value_ofNat small]
    exact (zero_lt_one.trans_le (one_le_nearest positive)).ne'
  have rounds := rounds_div finite (finite_ofNat small) nonzero
  rw [value, zero_div] at rounds
  exact .of_rounds rounds

end

namespace Method

open Sampling (Gives)

/-- **An integrand that is zero at the points of a rule has the sum zero**, if the step is finite. -/
theorem sum_zero {g : Grid Float Value} (m : Method) {f : Value → Except (Failure ⊕ κ) Float}
    (step : g.step.isFinite = true)
    (zero : ∀ v ∈ g.samples Value.float m, ∃ y, f v = .ok y ∧ IsZero y) :
    Gives IsZero (m.sum (call f) Value.float g) := by
  have add (x y : Float) : IsZero x → IsZero y → IsZero (x + y) := .add
  cases m with
  | left | right | midpoint =>
      refine .bind (.accumulate add (fun i member => .call (zero _ ?_)) rfl) fun y holds =>
        .pure (holds.mul step)
      exact List.mem_map.2 ⟨i, member, rfl⟩
  | trapezoidal =>
      have terms (v : Value) {i : ℕ} (member : i ∈ List.range' 0 g.count)
          (near : v ∈ [Value.float (g.node i), Value.float (g.node (i + 1))]) :=
        zero v (List.mem_flatMap.2 ⟨i, member, near⟩)
      refine .bind (.accumulate add (fun i member => ?_) rfl) fun y holds => .pure (holds.mul step)
      refine .bind (.call (terms _ member (by simp))) fun a left => ?_
      refine .bind (.call (terms _ member (by simp))) fun b right => ?_
      exact .pure ((left.add right).div (by decide) (by omega))
  | simpson =>
      refine .bind (.call (zero _ List.mem_cons_self)) fun a first => ?_
      refine .bind (.call (zero _ (List.mem_cons_of_mem _ List.mem_cons_self))) fun b last => ?_
      refine .bind (.accumulate add (fun i member => ?_) (first.add last)) fun y holds =>
        .pure ((holds.mul step).div (by decide) (by omega))
      have point : Value.float (g.node i) ∈ g.samples Value.float .simpson :=
        List.mem_cons_of_mem _ (List.mem_cons_of_mem _ (List.mem_map.2 ⟨i, member, rfl⟩))
      refine .bind (.call (zero _ point)) fun z known => .pure (.weigh ?_ known)
      exact finite_ofNat (by split <;> omega)

end Method

/-! ## Integrals -/

/-- What comes of an integral between doubles, and the arguments at which it calls its integrand. -/
def evaluation (f : Value → Except (Failure ⊕ κ) Float) (x0 x1 : Float) (n : ℕ) (m : Method) :
    Except (Failure ⊕ κ) Float × List Value :=
  record [] (integrate (call f) (.float x0) (.float x1) (.int n) (.text m.name))

/-- The last point of a rule. -/
def lastPoint (x0 x1 : Float) (n : ℕ) (m : Method) : Float :=
  x0 + m.offset (m.lastIndex n) * ((x1 - x0) / Arithmetic.ofNat n)

/-- The value is a double other than an infinity and not-a-number. -/
def IsFiniteDouble (v : Value) : Prop :=
  ∃ x, v = .float x ∧ x.isFinite = true

instance (v : Value) : Decidable (IsFiniteDouble v) :=
  match v with
  | .float x => decidable_of_iff (x.isFinite = true) ⟨fun finite => ⟨x, rfl, finite⟩,
      fun ⟨_, same, finite⟩ => Value.float.inj same ▸ finite⟩
  | .null | .bool _ | .int _ | .text _ | .list _ | .record _ => .isFalse nofun

section

variable {x0 x1 : Float} {n : ℕ} (m : Method)

/-- The points of a rule are finite if the last one is. -/
theorem finite_samples (finite0 : x0.isFinite = true) (finite1 : x1.isFinite = true)
    (small : n < 2 ^ 1024 - 2 ^ 970) (last : (lastPoint x0 x1 n m).isFinite = true) {v : Value}
    (member : v ∈ (Grid.between Value.float x0 x1 n).samples Value.float m) : IsFiniteDouble v := by
  rcases Method.mem_samples member with rfl | rfl | ⟨i, inside, rfl⟩
  · exact ⟨x0, rfl, finite0⟩
  · exact ⟨x1, rfl, finite1⟩
  · obtain ⟨finite, value⟩ := Method.finite_offset small inside
    obtain ⟨-, value'⟩ := Method.finite_offset small (le_refl (m.lastIndex n))
    refine ⟨_, rfl, isFinite_between finite ?_ ?_ last⟩
    · rw [value]
      exact Method.offsetValue_nonneg i m
    · rw [value, value']
      exact Method.offsetValue_mono inside m

/-- The last point is finite where there is room for the roundings. -/
theorem finite_lastPoint (roomy : Roomy x0 x1) (finite0 : x0.isFinite = true)
    (finite1 : x1.isFinite = true) (positive : 0 < n) (small : n < 2 ^ 1024 - 2 ^ 970) :
    (lastPoint x0 x1 n m).isFinite = true := by
  obtain ⟨finite, value⟩ := Method.finite_offset small (le_refl (m.lastIndex n))
  refine isFinite_of_roomy roomy finite0 finite1 (finite_ofNat small) ?_ finite ?_ ?_
  · rw [value_ofNat small]
    exact one_le_nearest positive
  · rw [value]
    exact Method.offsetValue_nonneg _ m
  · rw [value, value_ofNat small]
    exact Method.offsetValue_le positive le_rfl

/-- The last point is finite only if the distance of the ends is. -/
theorem finite_width (last : (lastPoint x0 x1 n m).isFinite = true) :
    ((x1 - x0) / Arithmetic.ofNat n : Float).isFinite = true ∧ (x1 - x0).isFinite = true := by
  have step := (finite_of_mul (finite_of_add last).2).2
  exact ⟨step, finite_of_div step⟩

/-- With good arguments it is the sum of the rule that is run. -/
theorem evaluation_eq (f : Value → Except (Failure ⊕ κ) Float) (finite0 : x0.isFinite = true)
    (finite1 : x1.isFinite = true) (positive : 0 < n) (small : n < 2 ^ 1024 - 2 ^ 970)
    (even : m.requiresEven = true → n % 2 = 0) : evaluation f x0 x1 n m =
      record [] (m.sum (call f) .float (Grid.between Value.float x0 x1 n)) := by
  unfold evaluation integrate
  rw [plan_between m finite0 finite1 positive small even]

/-- **The arguments of an integrand are finite doubles exactly if the last point is.** Then the
distance of the ends is finite as well, and an integrand that is zero on finite doubles has the
integral zero. It is so where the ends and their distance keep clear of the greatest double. -/
theorem integrate_finite (finite0 : x0.isFinite = true) (finite1 : x1.isFinite = true)
    (positive : 0 < n) (small : n < 2 ^ 1024 - 2 ^ 970)
    (even : m.requiresEven = true → n % 2 = 0) :
    ((∀ f : Value → Except (Failure ⊕ κ) Float, ∀ v ∈ (evaluation f x0 x1 n m).2,
        IsFiniteDouble v) ↔ (lastPoint x0 x1 n m).isFinite = true) ∧
      ((lastPoint x0 x1 n m).isFinite = true → (x1 - x0).isFinite = true ∧
        ∀ f : Value → Except (Failure ⊕ κ) Float,
          (∀ v, IsFiniteDouble v → ∃ y, f v = .ok y ∧ IsZero y) →
            ∃ y, (evaluation f x0 x1 n m).1 = .ok y ∧ IsZero y) ∧
      (Roomy x0 x1 → (lastPoint x0 x1 n m).isFinite = true) := by
  have ran (f : Value → Except (Failure ⊕ κ) Float) :=
    evaluation_eq m f finite0 finite1 positive small even
  have sampled (f : Value → Except (Failure ⊕ κ) Float) :
      Sampled f ((Grid.between Value.float x0 x1 n).samples Value.float m)
        (evaluation f x0 x1 n m) := by
    obtain ⟨r, sampled, recorded⟩ := m.samples_sum Value.float (.between Value.float x0 x1 n) []
    rw [ran, recorded, List.nil_append]
    exact sampled
  refine ⟨⟨fun all => ?_, fun last f v member => ?_⟩, fun last => ?_, fun roomy => ?_⟩
  · -- An integrand that never fails is called at the last point too.
    let f : Value → Except (Failure ⊕ κ) Float := fun _ => .ok 0
    have calls := (sampled f).calls_eq fun v => ⟨0, rfl⟩
    have last : ((Grid.between Value.float x0 x1 n).samples Value.float m).getLast? =
        some (.float (lastPoint x0 x1 n m)) :=
      Method.getLast?_samples Value.float positive even
    have called : .float (lastPoint x0 x1 n m) ∈ (evaluation f x0 x1 n m).2 := by
      rw [calls]
      exact List.mem_of_getLast? last
    obtain ⟨x, same, finite⟩ := all f _ called
    rw [Value.float.inj same]
    exact finite
  · exact finite_samples m finite0 finite1 small last ((sampled f).mem_points member)
  · obtain ⟨step, width⟩ := finite_width m last
    refine ⟨width, fun f zero => ?_⟩
    have known (v : Value) (member : v ∈ (Grid.between Value.float x0 x1 n).samples Value.float m) :
        ∃ y, f v = .ok y ∧ IsZero y :=
      zero v (finite_samples m finite0 finite1 small last member)
    rw [ran]
    exact m.sum_zero (g := .between Value.float x0 x1 n) step known []
  · exact finite_lastPoint m roomy finite0 finite1 positive small

/-- The theorem at the greatest power of two. -/
theorem integrate_finite_wide :
    (0 : Float).isFinite = true ∧ (Float.ofBits 0x7FE0000000000000).isFinite = true ∧ 0 < 4 ∧
      4 < 2 ^ 1024 - 2 ^ 970 ∧ (Method.simpson.requiresEven = true → 4 % 2 = 0) ∧
      Roomy 0 (Float.ofBits 0x7FE0000000000000) ∧
      (∀ f : Value → Except (Failure ⊕ Empty) Float,
        ∀ v ∈ (evaluation f 0 (Float.ofBits 0x7FE0000000000000) 4 .simpson).2, IsFiniteDouble v) ∧
      ∃ y, (evaluation (fun _ => .ok 0 : Value → Except (Failure ⊕ Empty) Float)
        0 (Float.ofBits 0x7FE0000000000000) 4 .simpson).1 = .ok y ∧ IsZero y := by
  have finite0 : (0 : Float).isFinite = true := by rfl
  have finite1 : (Float.ofBits 0x7FE0000000000000).isFinite = true := by rfl
  have value0 : value 0 = 0 := (beq_zero_iff.1 (by rfl)).2
  have value1 : value (Float.ofBits 0x7FE0000000000000) = 2 ^ (1023 : ℤ) := by
    have unpacked : (Float.ofBits 0x7FE0000000000000).toModel.unpack =
        .finite .positive (2 ^ 52) 971 (by decide) := by rfl
    rw [value_finite unpacked, Nat.cast_pow]
    exact (lastUnit_mul 52).symm
  have positive : (0 : ℚ) < 2 ^ (1023 : ℤ) := unit_pos 1023
  have room {q : ℚ} (most : q ≤ 2 ^ (1023 : ℤ)) : q ≤ 2 ^ (1024 : ℤ) - 2 ^ (977 : ℤ) := by
    have unit := lastUnit_pos
    rw [show (2 : ℚ) ^ (1023 : ℤ) = 2 ^ 52 * lastUnit from lastUnit_mul 52] at most
    rw [top_eq, show (2 : ℚ) ^ (977 : ℤ) = 2 ^ 6 * lastUnit from lastUnit_mul 6]
    linarith
  have roomy : Roomy 0 (Float.ofBits 0x7FE0000000000000) :=
    ⟨room (by rw [value0, abs_zero]; exact positive.le),
      room (by rw [value1, abs_of_pos positive]),
      room (by rw [value0, value1, sub_zero, abs_of_pos positive])⟩
  obtain ⟨finite, zero, last⟩ := integrate_finite (κ := Empty) .simpson finite0 finite1 (n := 4)
    (by decide) (by omega) (by decide)
  exact ⟨finite0, finite1, by decide, by omega, by decide, roomy, finite.2 (last roomy),
    (zero (last roomy)).2 _ fun v known => ⟨0, rfl, rfl⟩⟩

/-- From `-1e308` to `1e308` no rule gets to a number, though the integrand is zero everywhere. -/
theorem not_integrate_finite :
    let f : Value → Except (Failure ⊕ Empty) Float
      | .float x => .ok (0 * x)
      | v => .error (.inl (.notReal v))
    (-1e308 : Float).isFinite = true ∧ (1e308 : Float).isFinite = true ∧
      ∀ m : Method, (¬ ∀ v ∈ (evaluation f (-1e308) 1e308 2 m).2, IsFiniteDouble v) ∧
        ∃ y, (evaluation f (-1e308) 1e308 2 m).1 = .ok y ∧ ¬ IsZero y := by
  intro f
  refine ⟨by decide +kernel, by decide +kernel, fun m => ⟨by cases m <;> decide +kernel, ?_⟩⟩
  have other : (evaluation f (-1e308) 1e308 2 m).1.toOption.all (¬ IsZero ·) = true ∧
      (evaluation f (-1e308) 1e308 2 m).1.toOption.isSome = true := by
    cases m <;> decide +kernel
  cases ran : (evaluation f (-1e308) 1e308 2 m).1 with
  | error e =>
      rw [ran] at other
      cases other.2
  | ok y =>
      rw [ran] at other
      exact ⟨y, rfl, of_decide_eq_true other.1⟩

end

end Quadrature
