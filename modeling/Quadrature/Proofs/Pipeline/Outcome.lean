/-
# Quadrature.Proofs.Pipeline.Outcome -- how a run ends

A run has a function to integrate, announces the integration and carries it out (`Reaches`), or it
ends before that: the expression is not compiled, or the number of partitions is too long to be
written. What a request and a configuration promise is all that the rules ask for, except that a rule
may need an even number, and all that the contract of results asks for.

* `run_eq_argument_iff`: the rule refuses its arguments only where the number of partitions was left
  odd against its need;
* `run_keeps_contract`: a result keeps its contract, and its area is null where it is no number.
-/
import Quadrature.Proofs.Contract
import Quadrature.Proofs.Expr.Arithmetic
import Quadrature.Proofs.Pipeline
import Quadrature.Proofs.Rule.Refusal

namespace Quadrature

set_option autoImplicit false

open Quadrature.Number

namespace Pipeline

variable {config : Config} {request : Request} {given : Option Compiled} {f : Compiled}

/-! ## Arguments that are refused -/

/-- A number and a numeral are evaluated as the function evaluates them; nothing else is. -/
theorem apply_ne_argument (plain : ∀ x e, f.evaluate x ≠ .error (.argument e)) (v : Value)
    (e : ArgumentError) : f.apply v ≠ .error (.argument e) := by
  unfold Compiled.apply
  intro failed
  cases converted : v.toFloat with
  | ok x =>
      rw [converted] at failed
      exact plain x e failed
  | error fault =>
      rw [converted] at failed
      obtain rfl : fault = .argument e := Except.error.inj failed
      unfold Value.toFloat floatOfInt at converted
      repeat' split at converted
      all_goals cases converted

/-- Only a rule that needs an even number can be left with an odd one, and only where numbers are
not raised. -/
theorem odd_partitionsFor_iff : request.method.requiresEven = true ∧
      partitionsFor config request % 2 = 1 ↔
    config.simpsonAutoIncrement = false ∧ request.method = .simpson ∧
      request.partitions % 2 = 1 := by
  have needs : request.method.requiresEven = true ↔ request.method = .simpson := by
    cases request.method <;> decide
  unfold partitionsFor Request.effectivePartitions Method.effectivePartitions
  rw [needs]
  cases config.simpsonAutoIncrement with
  | false => simp
  | true =>
      refine iff_of_false ?_ (by simp)
      rintro ⟨simpson, odd⟩
      rw [simpson] at odd
      simp only [Method.requiresEven, if_true, Bool.true_and, decide_eq_true_eq] at odd
      split at odd <;> omega

variable (config request) in
theorem area_eq_argument_iff (plain : ∀ x e, f.evaluate x ≠ .error (.argument e))
    (e : ArgumentError) : area config request f = .error (.argument e) ↔
      e = .oddPartitions request.partitions ∧ config.simpsonAutoIncrement = false ∧
        request.method = .simpson ∧ request.partitions % 2 = 1 := by
  unfold area
  rw [integrate_eq_argument_iff _ (apply_ne_argument plain) request.bounds.normalized.x0_finite
    request.bounds.normalized.x1_finite (partitionsFor_pos config request), odd_partitionsFor_iff]
  refine and_congr_left fun unraised => ?_
  have kept : partitionsFor config request = request.partitions := by simp [partitionsFor, unraised.1]
  rw [kept]

/-- What a function that is given promises holds of every function that is integrated. -/
theorem Reaches.plain (reaches : Reaches config request given f)
    (plain : ∀ g, given = some g → ∀ x e, g.evaluate x ≠ .error (.argument e)) (x : Float)
    (e : ArgumentError) : f.evaluate x ≠ .error (.argument e) := by
  cases given with
  | some g =>
      obtain rfl : g = f := Except.ok.inj reaches.function
      exact plain g rfl x e
  | none =>
      have found := reaches.function
      unfold functionOf at found
      cases compiled : (compile config request.expression).run.value with
      | error fault => rw [compiled] at found; cases found
      | ok g =>
          rw [compiled] at found
          obtain rfl : g = f := Except.ok.inj found
          rw [compile_value] at compiled
          intro failed
          cases Compiled.arithmetic_evaluate compiled x _ failed

/-- **A run discharges what the rules ask for**, for every function that refuses nothing itself: they
refuse their arguments exactly where the run gets to the integration with an odd number of partitions
for Simpson's rule that was not to be raised. -/
theorem run_eq_argument_iff (config : Config) (request : Request) (given : Option Compiled)
    (plain : ∀ f, given = some f → ∀ x e, f.evaluate x ≠ .error (.argument e))
    (e : ArgumentError) :
    (run config request given).run.value = .error (.evaluate (.argument e)) ↔
      e = .oddPartitions request.partitions ∧ (∃ f, Reaches config request given f) ∧
        config.simpsonAutoIncrement = false ∧ request.method = .simpson ∧
        request.partitions % 2 = 1 := by
  by_cases reached : ∃ f, Reaches config request given f
  · obtain ⟨f, reaches⟩ := reached
    have refused := area_eq_argument_iff config request (reaches.plain plain) e
    rw [reaches.value]
    constructor
    · intro failed
      have here : area config request f = .error (.argument e) := by
        cases found : area config request f with
        | ok x => rw [found] at failed; cases failed
        | error fault =>
            rw [found] at failed
            cases failed
            rfl
      obtain ⟨same, rest⟩ := refused.1 here
      exact ⟨same, ⟨f, reaches⟩, rest⟩
    · rintro ⟨same, -, rest⟩
      rw [refused.2 ⟨same, rest⟩]
      rfl
  · refine iff_of_false ?_ fun h => reached h.2.1
    rcases run_of_not_reaches (not_exists.1 reached) with ⟨fault, ended⟩ | ended
    · rw [ended]
      intro same
      cases same
    · rw [ended]
      intro same
      cases same

/-- A request for three partitions by Simpson's rule. -/
def oddRequest : Request := ⟨"x", 3, ⟨0, 1, by decide, by decide⟩, .simpson, by decide, by decide⟩

/-- Settings under which the number of partitions is not raised. -/
def unraised : Config := { Config.standard with simpsonAutoIncrement := false }

/-- The theorem at an odd number of partitions for Simpson's rule. -/
theorem run_eq_argument_odd : (∀ x e, (⟨"x", "x", .var "x" 0, .ok⟩ : Compiled).evaluate x ≠
      .error (.argument e)) ∧
    (run unraised oddRequest (some ⟨"x", "x", .var "x" 0, .ok⟩)).run.value =
      .error (.evaluate (.argument (.oddPartitions 3))) := by
  have plain : ∀ x e, (⟨"x", "x", .var "x" 0, .ok⟩ : Compiled).evaluate x ≠
      .error (.argument e) := by
    intro x e failed
    cases failed
  refine ⟨plain, ?_⟩
  refine (run_eq_argument_iff unraised oddRequest _ ?_ _).2 ⟨rfl, ⟨_, rfl, ?_⟩, rfl, rfl, rfl⟩
  · rintro f ⟨⟩
    exact plain
  · exact announce_short unraised oddRequest _ (by decide +kernel)

/-! ## The contract of results -/

theorem areaValue_eq_null_iff {x : Float} :
    Result.areaValue x = .null ↔ x.isNaN = true ∨ x.isInf = true := by
  unfold Result.areaValue
  cases finite : x.isFinite with
  | true =>
      rw [isNaN_of_isFinite finite, isInf_of_isFinite finite, if_pos rfl]
      exact iff_of_false (by simp) (by decide)
  | false =>
      rw [if_neg (by decide)]
      refine iff_of_true rfl ?_
      rcases isNaN_or_isInf finite with nan | ⟨-, infinite⟩
      · exact .inl nan
      · exact .inr infinite

/-- **Every result keeps its contract**, whatever was integrated, and its area is null exactly where
the area that was found is not-a-number or infinite. -/
theorem run_keeps_contract (config : Config) (request : Request) (given : Option Compiled)
    {result : Result} (ran : (run config request given).run.value = .ok result) :
    Contract.result.violations result.toPayload = [] ∧
      ∃ f x, Reaches config request given f ∧ area config request f = .ok x ∧
        (result.toPayload.field? "area" = some .null ↔ x.isNaN = true ∨ x.isInf = true) ∧
        (x.isFinite = true → result.toPayload.field? "area" = some (.float x)) := by
  obtain ⟨f, x, reaches, found, rfl⟩ := exists_reaches_of_run ran
  refine ⟨?_, f, x, reaches, found, ?_, ?_⟩
  · exact Shape.accepts_iff.1 (Result.accepts_toPayload _)
  · rw [Result.area_toPayload, Option.some_inj]
    exact areaValue_eq_null_iff
  · intro finite
    rw [Result.area_toPayload]
    simp [resultOf, Result.areaValue, finite]

/-- A request for one partition by the left rule. -/
def singleRequest : Request := ⟨"x", 1, ⟨0, 1, by decide, by decide⟩, .left, by decide, by decide⟩

/-- A function that is infinite everywhere. -/
def unbounded : Compiled := ⟨"x", "x", .var "x" 0, fun _ => .ok (1 / 0)⟩

/-- The theorem at a function that is infinite everywhere. -/
theorem run_keeps_contract_unbounded : ∃ result,
    (run .standard singleRequest (some unbounded)).run.value = .ok result ∧
      Contract.result.violations result.toPayload = [] ∧
      result.toPayload.field? "area" = some .null := by
  have reaches : Reaches .standard singleRequest (some unbounded) unbounded :=
    ⟨rfl, announce_short .standard singleRequest unbounded (by decide +kernel)⟩
  have found : area .standard singleRequest unbounded = .ok (1 / 0) := rfl
  have ran : (run .standard singleRequest (some unbounded)).run.value =
      .ok (resultOf .standard singleRequest unbounded (1 / 0)) := by
    rw [reaches.value, found]
    rfl
  obtain ⟨kept, f, x, reached, area, null, -⟩ := run_keeps_contract .standard singleRequest _ ran
  obtain rfl : unbounded = f := Except.ok.inj reached.function
  obtain rfl : 1 / 0 = x := Except.ok.inj (found.symm.trans area)
  exact ⟨_, ran, kept, null.2 (.inr rfl)⟩

end Pipeline

end Quadrature
