/-
# Quadrature.Proofs.Rule.Refusal -- when an integral is refused

An integral can fail in two ways: its arguments are refused before the integrand is called, or the
integrand fails at some point and that failure is the outcome. Where the rule is one of the five, the
number of partitions is above zero and the ends are finite doubles, one check is left that can refuse
them, the one for an even number; a number beyond the range of doubles fails, but is not refused.

* `fails_sum`: a rule adds no failure of its own to those of its integrand;
* `plan_odd`, `plan_eq`: what is left of the checks;
* `integrate_eq_argument_iff`: all together, for an integrand that refuses nothing itself.
-/
import Quadrature.Proofs.Failure
import Quadrature.Rule.Integrate

namespace Quadrature

set_option autoImplicit false

variable {α β γ : Type}

/-! ## Failures of a sum -/

/-- Every failure of the computation is one that the function has at some point. -/
def FailsAs (f : β → Except Failure α) : Except Failure γ → Prop :=
  FailsOnly fun e => ∃ v, f v = .error e

namespace Method

section

variable [Arithmetic α] {f : β → Except Failure α}

/-- By induction on the number of terms. -/
theorem fails_accumulate {term : Nat → Except Failure α} (terms : ∀ i, FailsAs f (term i))
    (count i : Nat) (total : α) : FailsAs f (accumulate term count i total) := by
  induction count generalizing i total with
  | zero => exact .ok total
  | succ count ih => exact .bind (terms i) fun y => ih (i + 1) (total + y)

/-- A rule fails only as its integrand does. -/
theorem fails_sum (at' : α → β) (g : Grid α β) (m : Method) : FailsAs f (m.sum f at' g) := by
  have point (v : β) : FailsAs f (f v) := fun _ failed => ⟨v, failed⟩
  cases m with
  | left | right | midpoint =>
      exact .bind (fails_accumulate (fun i => point _) _ _ _) fun _ => .ok _
  | trapezoidal =>
      refine .bind (fails_accumulate (fun i => ?_) _ _ _) fun _ => .ok _
      exact .bind (point _) fun a => .bind (point _) fun b => .ok _
  | simpson =>
      refine .bind (point _) fun a => .bind (point _) fun b => ?_
      refine .bind (fails_accumulate (fun i => ?_) _ _ _) fun _ => .ok _
      exact .bind (point _) fun y => .ok _

end

theorem ofValue_name (m : Method) : ofValue (.text m.name) = .ok m := by
  simp only [ofValue, ofName?_name]

end Method

/-! ## What the checks leave -/

theorem Value.isFinite_of_toReal {v : Value} {x : Float} (number : v.toReal = .ok x) :
    v.isFinite = .ok x.isFinite := by
  rw [isFinite, number]
  rfl

theorem Grid.partitions_of_pos {n : Nat} (positive : 0 < n) : partitions (.int n) = .ok n := by
  rw [partitions, if_neg (by omega), Int.toNat_natCast]

/-- Between numbers, the checks of a grid are those for finite ends and for an even number. -/
theorem Grid.lay_eq {x0 x1 : Value} {x y : Float} {n : Nat} (m : Method)
    (number : x0.toReal = .ok x) (number' : x1.toReal = .ok y) (positive : 0 < n) :
    lay m x0 x1 (.int n) =
      if (x.isFinite && y.isFinite) = false then .error (.argument (.boundsNotFinite x0 x1))
      else if m.requiresEven = true ∧ n % 2 = 1 then .error (.argument (.oddPartitions n))
      else (stepBetween x0 x1 n).map fun step => ⟨x0, x1, x, step, n⟩ := by
  have odd : (m.requiresEven && decide (n % 2 ≠ 0)) = true ↔ m.requiresEven = true ∧ n % 2 = 1 := by
    rw [Bool.and_eq_true, decide_eq_true_iff, Nat.mod_two_ne_zero]
  simp only [lay, partitions_of_pos positive, Value.isFinite_of_toReal number,
    Value.isFinite_of_toReal number', number, odd, bind, Except.bind, pure, Except.pure]
  cases x.isFinite <;> cases y.isFinite <;> rfl

theorem plan_name (x0 x1 n : Value) (m : Method) :
    plan x0 x1 n (.text m.name) = (Grid.lay m x0 x1 n).map fun g => (m, g) := by
  rw [plan, Method.ofValue_name]
  simp only [bind, Except.bind]
  cases Grid.lay m x0 x1 n <;> rfl

section

variable {x0 x1 : Float} {n : Nat} (m : Method)

/-- An odd number is refused by a rule that needs an even one. -/
theorem plan_odd (finite0 : x0.isFinite = true) (finite1 : x1.isFinite = true)
    (even : m.requiresEven = true) (odd : n % 2 = 1) :
    plan (.float x0) (.float x1) (.int n) (.text m.name) =
      .error (.argument (.oddPartitions n)) := by
  have laid : Grid.lay m (.float x0) (.float x1) (.int n) = _ :=
    Grid.lay_eq m rfl rfl (by omega)
  rw [finite0, finite1, if_neg (by decide), if_pos ⟨even, odd⟩] at laid
  rw [plan_name, laid]
  rfl

/-- Otherwise the step of the grid is what is left. -/
theorem plan_eq (finite0 : x0.isFinite = true) (finite1 : x1.isFinite = true) (positive : 0 < n)
    (even : m.requiresEven = true → n % 2 = 0) :
    plan (.float x0) (.float x1) (.int n) (.text m.name) =
      (Grid.stepBetween (.float x0) (.float x1) n).map fun step =>
        (m, ⟨.float x0, .float x1, x0, step, n⟩) := by
  have passed : ¬ (m.requiresEven = true ∧ n % 2 = 1) := by
    rintro ⟨needs, odd⟩
    have := even needs
    omega
  have laid : Grid.lay m (.float x0) (.float x1) (.int n) = _ := Grid.lay_eq m rfl rfl positive
  rw [finite0, finite1, if_neg (by decide), if_neg passed] at laid
  rw [plan_name, laid]
  cases Grid.stepBetween (.float x0) (.float x1) n <;> rfl

/-- There is a grid unless the number is beyond the range of doubles. -/
theorem plan_even (finite0 : x0.isFinite = true) (finite1 : x1.isFinite = true) (positive : 0 < n)
    (even : m.requiresEven = true → n % 2 = 0) :
    plan (.float x0) (.float x1) (.int n) (.text m.name) = .error .integerTooLarge ∨
      ∃ g, plan (.float x0) (.float x1) (.int n) (.text m.name) = .ok (m, g) := by
  rw [plan_eq m finite0 finite1 positive even]
  cases converted : floatOfInt n with
  | ok y =>
      refine .inr ⟨⟨.float x0, .float x1, x0, (x1 - x0) / y, n⟩, ?_⟩
      simp [Grid.stepBetween, Grid.whole?, Value.toReal, converted, bind, Except.bind, pure,
        Except.pure, Except.map]
  | error e =>
      obtain rfl : e = .integerTooLarge := by
        unfold floatOfInt at converted
        split at converted
        · cases converted
        · exact (Except.error.inj converted).symm
      left
      simp [Grid.stepBetween, Grid.whole?, Value.toReal, converted, bind, Except.bind, Except.map]

/-- An integrand that refuses nothing is refused only an odd number of partitions by a rule that
needs an even one. -/
theorem integrate_eq_argument_iff {f : Value → Except Failure Float}
    (plain : ∀ v e, f v ≠ .error (.argument e)) (finite0 : x0.isFinite = true)
    (finite1 : x1.isFinite = true) (positive : 0 < n) (e : ArgumentError) :
    integrate f (.float x0) (.float x1) (.int n) (.text m.name) = .error (.argument e) ↔
      e = .oddPartitions n ∧ m.requiresEven = true ∧ n % 2 = 1 := by
  unfold integrate
  by_cases refused : m.requiresEven = true ∧ n % 2 = 1
  · rw [plan_odd m finite0 finite1 refused.1 refused.2]
    constructor
    · intro same
      cases same
      exact ⟨rfl, refused⟩
    · rintro ⟨rfl, -⟩
      rfl
  · have even : m.requiresEven = true → n % 2 = 0 := by
      intro needs
      have := not_and.1 refused needs
      omega
    refine iff_of_false ?_ fun h => refused h.2
    rcases plan_even m finite0 finite1 positive even with large | ⟨g, laid⟩
    · rw [large]
      intro same
      cases same
    · rw [laid]
      intro failed
      obtain ⟨v, here⟩ := Method.fails_sum .float g m _ failed
      exact plain v e here

end

end Quadrature
