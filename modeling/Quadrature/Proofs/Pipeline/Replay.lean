/-
# Quadrature.Proofs.Pipeline.Replay -- a result says how to find it again

A result records what was integrated: the expanded expression, the number of partitions after it was
raised, the ends in order. Each of these is a fixed point of the step that made it, so a request for
them is valid, and its run has nothing left to expand, to raise or to exchange and integrates the
same function on the same grid.

* `Method.admits_iff_plan`, `Method.isLeast_effectivePartitions`: which numbers of partitions a rule
  admits, and that the least of them is chosen;
* `admits_of_area`: an area is found only with a number that the rule admits;
* `run_replays`: the request that a result describes has the same result.
-/
import Mathlib.Order.Bounds.Defs
import Quadrature.Proofs.Caret.FixedPoint
import Quadrature.Proofs.Pipeline.Orientation
import Quadrature.Proofs.Request

namespace Quadrature

set_option autoImplicit false

open Quadrature.Text
open Quadrature.Number

/-! ## Numbers of partitions that a rule admits -/

namespace Method

/-- The rule can be applied with `n` partitions. -/
def Admits (m : Method) (n : Nat) : Prop := 0 < n ∧ (m.requiresEven = true → n % 2 = 0)

variable {m : Method} {n : Nat}

theorem effectivePartitions_of_admits (admits : m.Admits n) : m.effectivePartitions n = n := by
  unfold effectivePartitions
  cases needs : m.requiresEven with
  | false => rfl
  | true => simp [admits.2 needs]

/-- What is chosen for `n` partitions is the least number from `n` on that the rule admits. -/
theorem isLeast_effectivePartitions (positive : 0 < n) :
    IsLeast {k | n ≤ k ∧ m.Admits k} (m.effectivePartitions n) := by
  unfold effectivePartitions
  cases needs : m.requiresEven with
  | false => exact ⟨⟨le_rfl, positive, by simp [needs]⟩, fun k least => least.1⟩
  | true =>
      simp only [Bool.true_and, decide_eq_true_eq]
      split
      case isTrue odd =>
        refine ⟨⟨by omega, by omega, fun _ => by omega⟩, ?_⟩
        rintro k ⟨least, -, even⟩
        have := even needs
        omega
      case isFalse even => exact ⟨⟨le_rfl, positive, fun _ => by omega⟩, fun k least => least.1⟩

/-- The numbers that a rule admits are those that its checks let pass. -/
theorem admits_iff_plan {x0 x1 : Float} (finite0 : x0.isFinite = true)
    (finite1 : x1.isFinite = true) : m.Admits n ↔
      ∀ e, plan (.float x0) (.float x1) (.int n) (.text m.name) ≠ .error (.argument e) := by
  constructor
  · rintro ⟨positive, even⟩ e refused
    rcases plan_even m finite0 finite1 positive even with large | ⟨g, laid⟩
    · rw [large] at refused
      cases refused
    · rw [laid] at refused
      cases refused
  · intro passes
    refine ⟨Nat.pos_of_ne_zero ?_, fun needs => ?_⟩
    · rintro rfl
      refine passes (.partitionsBelowOne 0) ?_
      simp [plan, ofValue_name, Grid.lay, Grid.partitions, bind, Except.bind]
    · by_contra odd
      exact passes _ (plan_odd m finite0 finite1 needs (Nat.mod_two_ne_zero.1 odd))

end Method

/-- The text of a compiled function is the text that was compiled. -/
theorem Compiled.source_eq {limit : Option Nat} {source free : String} {f : Compiled}
    (compiled : ofTextWithin limit source free = .ok f) : f.source = source := by
  have identifier := (of_compiled compiled).1
  cases read : Parse.parseWithin limit source.toList with
  | error fault => simp [ofTextWithin, identifier, read, bind, Except.bind] at compiled
  | ok t =>
      rw [ofTextWithin_eq identifier read] at compiled
      cases built : t.build limit free with
      | error fault => simp [built, Except.map] at compiled
      | ok evaluate =>
          rw [built] at compiled
          obtain rfl := Except.ok.inj compiled
          rfl

namespace Pipeline

variable {config : Config} {request : Request} {f : Compiled} {x : Float}

theorem partitionsFor_of_admits (admits : request.method.Admits request.partitions) :
    partitionsFor config request = request.partitions := by
  unfold partitionsFor
  split
  · exact Method.effectivePartitions_of_admits admits
  · rfl

/-- An area is found only with a number of partitions that the rule admits. -/
theorem admits_of_area (found : area config request f = .ok x) :
    request.method.Admits (partitionsFor config request) := by
  refine (Method.admits_iff_plan request.bounds.normalized.x0_finite
    request.bounds.normalized.x1_finite).2 fun e refused => ?_
  unfold area integrate at found
  dsimp only at found
  rw [refused] at found
  cases found

/-- If the rule admits the number of partitions, it is the least that it admits. -/
theorem isLeast_partitionsFor (admits : request.method.Admits (partitionsFor config request)) :
    IsLeast {n | request.partitions ≤ n ∧ request.method.Admits n}
      (partitionsFor config request) := by
  have least : IsLeast {n | request.partitions ≤ n ∧ request.method.Admits n}
      (request.method.effectivePartitions request.partitions) :=
    Method.isLeast_effectivePartitions request.partitions_pos
  cases raised : config.simpsonAutoIncrement with
  | true =>
      have chosen : partitionsFor config request = request.effectivePartitions := if_pos raised
      rw [chosen]
      exact least
  | false =>
      have kept : partitionsFor config request = request.partitions := if_neg (by simp [raised])
      rw [kept] at admits ⊢
      rwa [Method.effectivePartitions_of_admits admits] at least

/-- A text that is compiled is expanded already, so the text of its function is compiled to the same
function. -/
theorem compile_source {expression : String}
    (compiled : (compile config expression).run.value = .ok f) :
    (compile config f.source).run.value = .ok f := by
  rw [compile_value] at compiled ⊢
  rw [Compiled.source_eq compiled, Caret.normalizeString_normalizeString]
  exact compiled

theorem compile_of_functionOf (known : functionOf config request none = .ok f) :
    (compile config request.expression).run.value = .ok f := by
  unfold functionOf at known
  cases compiled : (compile config request.expression).run.value with
  | error fault => rw [compiled] at known; cases known
  | ok g =>
      rw [compiled] at known
      exact congrArg Except.ok (Except.ok.inj known)

/-! ## Replaying -/

/-- A request for what was integrated. -/
structure Replays (config : Config) (request replay : Request) (f : Compiled) : Prop where
  expression : replay.expression = f.source
  partitions : replay.partitions = partitionsFor config request
  bounds : replay.bounds = request.bounds.normalized
  method : replay.method = request.method

section

variable {replay : Request} (replays : Replays config request replay f)
include replays

theorem Replays.partitionsFor_eq (found : area config request f = .ok x) :
    partitionsFor config replay = partitionsFor config request := by
  have admits : replay.method.Admits replay.partitions := by
    rw [replays.method, replays.partitions]
    exact admits_of_area found
  rw [partitionsFor_of_admits admits, replays.partitions]

/-- The replay gets as far as the integration of the same function. -/
theorem Replays.reaches (reaches : Reaches config request none f)
    (found : area config request f = .ok x) : Reaches config replay none f := by
  constructor
  case function =>
    unfold functionOf
    rw [replays.expression, compile_source (compile_of_functionOf reaches.function)]
    rfl
  case announced =>
    refine announce_short config replay f ?_
    rw [replays.partitionsFor_eq found]
    exact lt_of_announce config request reaches.announced

/-- The replay integrates on the same grid. -/
theorem Replays.area_eq (found : area config request f = .ok x) : area config replay f = .ok x := by
  unfold area at found ⊢
  rw [replays.bounds, replays.method, replays.partitionsFor_eq found,
    Bounds.normalized_normalized]
  exact found

end

/-- The second result is that of the first with nothing exchanged and nothing raised. -/
structure Confirms (first second : Result) : Prop where
  area : second.area = first.area
  normalizedExpression : second.normalizedExpression = first.normalizedExpression
  partitionsUsed : second.partitionsUsed = first.partitionsUsed
  bounds : second.bounds = first.bounds
  boundsSwapped : second.boundsSwapped = false
  partitionsAdjusted : second.partitionsAdjusted = false

/-- **A result can be replayed**: the request for its expanded expression, its number of partitions,
its bounds and its rule is valid and has the same result. The bounds are in order, and the number of
partitions is the least one from the number asked for on that the rule admits. -/
theorem run_replays (config : Config) (request : Request) {result : Result}
    (ran : (run config request none).run.value = .ok result) :
    (∃ replay again, Request.ofParts (.text result.normalizedExpression)
          (.int result.partitionsUsed) result.bounds (.text result.method.name) = .ok replay ∧
        (run config replay none).run.value = .ok again ∧ Confirms result again) ∧
      result.bounds.x0 ≤ result.bounds.x1 ∧
      IsLeast {n | result.partitionsRequested ≤ n ∧ result.method.Admits n}
        result.partitionsUsed := by
  obtain ⟨f, x, reaches, found, rfl⟩ := exists_reaches_of_run ran
  have inked : isInked f.source = true :=
    inked_of_compiled config (compile_source (compile_of_functionOf reaches.function))
  refine ⟨?_, request.bounds.normalized_le, isLeast_partitionsFor (admits_of_area found)⟩
  have positive : (0 : Int) < partitionsFor config request :=
    Int.natCast_pos.2 (partitionsFor_pos config request)
  obtain ⟨replay, accepted⟩ :=
    Request.exists_ofParts request.bounds.normalized request.method inked positive
  obtain ⟨expression, partitions, bounds, method⟩ := Request.ofParts_eq_ok_iff.1 accepted
  have replays : Replays config request replay f :=
    ⟨expression, (Int.natCast_inj.1 partitions).symm, bounds, method⟩
  have again : (run config replay none).run.value = .ok (resultOf config replay f x) := by
    rw [(replays.reaches reaches found).value, replays.area_eq found]
    rfl
  refine ⟨replay, resultOf config replay f x, accepted, again, ?_⟩
  constructor
  case area => rfl
  case normalizedExpression => rfl
  case partitionsUsed => exact replays.partitionsFor_eq found
  case bounds =>
    show replay.bounds.normalized = request.bounds.normalized
    rw [replays.bounds, Bounds.normalized_normalized]
  case boundsSwapped =>
    show replay.bounds.isReversed = false
    rw [replays.bounds, Bounds.isReversed_normalized]
  case partitionsAdjusted =>
    show (partitionsFor config replay != replay.partitions) = false
    rw [replays.partitionsFor_eq found, replays.partitions]
    simp

/-- A request with a power to be expanded, ends to be exchanged and a number to be raised. -/
def unsettledRequest : Request :=
  { oddRequest.reversed with expression := "x^1e999", expression_inked := by decide }

/-- The theorem at a request that is changed in each way. -/
theorem run_replays_unsettled : ∃ result,
    (run .standard unsettledRequest none).run.value = .ok result ∧
      result.normalizedExpression = "pow(x, 1e999)" ∧ result.partitionsUsed = 4 ∧
      ∃ replay again, Request.ofParts (.text result.normalizedExpression)
          (.int result.partitionsUsed) result.bounds (.text result.method.name) = .ok replay ∧
        (run .standard replay none).run.value = .ok again ∧ Confirms result again := by
  have recorded : (run .standard unsettledRequest none).run.value.toOption.map
      (fun r => (r.normalizedExpression, r.partitionsUsed)) =
        some (.string "pow(x, 1e999)", 4) := by decide +kernel
  cases ran : (run .standard unsettledRequest none).run.value with
  | error e => rw [ran] at recorded; cases recorded
  | ok result =>
      rw [ran] at recorded
      obtain ⟨text, count⟩ := Prod.mk.inj (Option.some.inj recorded)
      exact ⟨result, rfl, text, count, (run_replays .standard unsettledRequest ran).1⟩

end Pipeline

end Quadrature
