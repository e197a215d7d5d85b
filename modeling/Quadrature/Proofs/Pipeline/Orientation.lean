/-
# Quadrature.Proofs.Pipeline.Orientation -- which end of the domain is named first

A run puts the ends of the domain in order before it looks at them. Of two different ends one is
less, so the other order gives the same domain: the same number of partitions, the same failure or
the same area, the same result. All that is kept of the order is the flag that says whether the ends
were exchanged, and one of the two orders exchanges them.

* `Bounds.isReversed_reverse`, `Bounds.normalized_reverse`: one of two orders is the wrong way
  round;
* `Bounds.normalized_normalized`, `Bounds.normalized_le`: what was put in order stays in order;
* `run_reversed`: the two orders end a run alike but for the flag.
-/
import Quadrature.Proofs.Number.Order
import Quadrature.Proofs.Pipeline.Outcome

namespace Quadrature

set_option autoImplicit false

open Quadrature.Number

namespace Bounds

variable {b : Bounds}

theorem isReversed_iff : b.isReversed = true ↔ b.x1 < b.x0 := by
  unfold isReversed
  rw [decide_eq_true_iff]

/-- Of two different ends exactly one is less. -/
theorem isReversed_reverse (distinct : (b.x0 != b.x1) = true) :
    b.reverse.isReversed = !b.isReversed := by
  have other : b.reverse.isReversed = true ↔ b.x0 < b.x1 := isReversed_iff
  cases swapped : b.isReversed with
  | true => simpa [← other] using lt_asymm (isReversed_iff.1 swapped)
  | false =>
      refine other.2 ((lt_or_lt_of_bne b.x0_finite b.x1_finite distinct).resolve_right ?_)
      rw [← isReversed_iff, swapped]
      decide

/-- The order in which two different ends are named does not matter to the domain. -/
theorem normalized_reverse (distinct : (b.x0 != b.x1) = true) :
    b.reverse.normalized = b.normalized := by
  unfold normalized
  rw [isReversed_reverse distinct]
  cases b.isReversed <;> rfl

/-- What was put in order is in order. -/
theorem isReversed_normalized (b : Bounds) : b.normalized.isReversed = false := by
  by_cases reversed : b.x1 < b.x0
  · have ends : b.normalized = b.reverse := if_pos (isReversed_iff.2 reversed)
    rw [ends]
    exact Bool.eq_false_iff.2 (mt isReversed_iff.1 (lt_asymm reversed))
  · have ends : b.normalized = b := if_neg (mt isReversed_iff.1 reversed)
    rw [ends]
    exact Bool.eq_false_iff.2 (mt isReversed_iff.1 reversed)

theorem normalized_normalized (b : Bounds) : b.normalized.normalized = b.normalized :=
  if_neg (by rw [isReversed_normalized]; decide)

theorem normalized_le (b : Bounds) : b.normalized.x0 ≤ b.normalized.x1 := by
  refine le_of_not_lt b.normalized.x0_finite b.normalized.x1_finite fun greater => ?_
  have reversed := isReversed_iff.2 greater
  rw [isReversed_normalized] at reversed
  cases reversed

end Bounds

/-- The same request with the ends of its domain exchanged. -/
def Request.reversed (r : Request) : Request := { r with bounds := r.bounds.reverse }

namespace Pipeline

variable {config : Config} {request : Request} {f : Compiled}

theorem functionOf_reversed (given : Option Compiled) :
    functionOf config request.reversed given = functionOf config request given := rfl

theorem partitionsFor_reversed :
    partitionsFor config request.reversed = partitionsFor config request := rfl

/-- Whether an integration is announced depends on its number of partitions alone. -/
theorem announce_reversed : (announce config request.reversed f).run.value =
    (announce config request f).run.value := by
  by_cases short : partitionsFor config request < Nat.pow 10 Whole.maxDigits
  · rw [announce_short config request f short, announce_short config request.reversed f short]
  · rw [announce_long config request f short, announce_long config request.reversed f short]

theorem area_reversed (distinct : (request.bounds.x0 != request.bounds.x1) = true) :
    area config request.reversed f = area config request f := by
  have ends : request.reversed.bounds.normalized = request.bounds.normalized :=
    Bounds.normalized_reverse distinct
  unfold area
  rw [ends, partitionsFor_reversed]
  rfl

theorem resultOf_reversed (distinct : (request.bounds.x0 != request.bounds.x1) = true) (x : Float) :
    resultOf config request.reversed f x =
      { resultOf config request f x with
        boundsSwapped := !(resultOf config request f x).boundsSwapped } := by
  have ends : request.reversed.bounds.normalized = request.bounds.normalized :=
    Bounds.normalized_reverse distinct
  have flag : request.reversed.bounds.isReversed = !request.bounds.isReversed :=
    Bounds.isReversed_reverse distinct
  unfold resultOf
  simp only [ends, flag]
  rfl

/-- **The order in which two different ends are named does not matter to a run**: it fails with the
same error, or has the same result but for the flag, which is set for exactly one of the orders. -/
theorem run_reversed (config : Config) (request : Request) (given : Option Compiled)
    (distinct : (request.bounds.x0 != request.bounds.x1) = true) :
    (∃ e, (run config request given).run.value = .error e ∧
        (run config request.reversed given).run.value = .error e) ∨
      ∃ result, (run config request given).run.value = .ok result ∧
        (run config request.reversed given).run.value =
          .ok { result with boundsSwapped := !result.boundsSwapped } := by
  rw [run_value, run_value, functionOf_reversed]
  cases functionOf config request given with
  | error e => exact .inl ⟨e, rfl, rfl⟩
  | ok f =>
      simp only [bind, Except.bind, announce_reversed]
      cases (announce config request f).run.value with
      | error e => exact .inl ⟨e, rfl, rfl⟩
      | ok u =>
          simp only [area_reversed distinct]
          cases area config request f with
          | error e => exact .inl ⟨.evaluate e, rfl, rfl⟩
          | ok x =>
              refine .inr ⟨resultOf config request f x, rfl, ?_⟩
              exact congrArg Except.ok (resultOf_reversed distinct x)

/-- The theorem at one partition from 0 to 1. -/
theorem run_reversed_single :
    (singleRequest.bounds.x0 != singleRequest.bounds.x1) = true ∧ ∃ result,
      (run .standard singleRequest (some unbounded)).run.value = .ok result ∧
        result.boundsSwapped = false ∧
        (run .standard singleRequest.reversed (some unbounded)).run.value =
          .ok { result with boundsSwapped := true } := by
  have distinct : (singleRequest.bounds.x0 != singleRequest.bounds.x1) = true := by decide
  have found : (run .standard singleRequest (some unbounded)).run.value =
      .ok (resultOf .standard singleRequest unbounded (1 / 0)) := by
    have reaches : Reaches .standard singleRequest (some unbounded) unbounded :=
      ⟨rfl, announce_short .standard singleRequest unbounded (by decide +kernel)⟩
    rw [reaches.value]
    rfl
  refine ⟨distinct, ?_⟩
  rcases run_reversed .standard singleRequest (some unbounded) distinct with
    ⟨e, failed, -⟩ | ⟨result, ran, swapped⟩
  · rw [found] at failed
    cases failed
  · obtain rfl := Except.ok.inj (found.symm.trans ran)
    have unswapped :
        (resultOf .standard singleRequest unbounded (1 / 0)).boundsSwapped = false := by decide
    rw [unswapped] at swapped
    exact ⟨_, ran, unswapped, swapped⟩

end Pipeline

end Quadrature
