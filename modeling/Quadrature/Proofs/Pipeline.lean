/-
# Quadrature.Proofs.Pipeline -- what a compilation and an integration leave behind

Both parts of the pipeline are quiet: besides their outcome there are only log records.

* `compile_value`: the outcome of compiling is that of compiling the expanded text;
* `inked_of_compiled`: a text of blanks is not compiled;
* `Reaches.value`, `run_of_not_reaches`: a run integrates a function, or it ends before that;
* `exists_area_of_run`: a result holds what its request asked for and the area that was found, and
  its numbers of partitions can be written.
-/
import Quadrature.Pipeline
import Quadrature.Proofs.Caret.Preservation
import Quadrature.Proofs.Recorded

namespace Quadrature

set_option autoImplicit false

open Quadrature.Text
open Quadrature.Number
open Quadrature.Recorded (Quiet)

namespace Pipeline

variable {ε : Type} (config : Config) (request : Request)

theorem quiet_say (level : Level) (text : String) :
    Quiet (say level text : Attempt ε Unit).run.events := by
  intro e member
  obtain rfl := List.mem_singleton.1 (show e ∈ [.log ⟨level, source, text⟩] from member)
  exact ⟨_, rfl⟩

@[simp] theorem value_say (level : Level) (text : String) :
    (say level text : Attempt ε Unit).run.value = .ok () := rfl

/-! ## Compiling -/

theorem compile_value (expression : String) : (compile config expression).run.value =
    Compiled.ofText (Caret.normalizeString expression) config.variableName := by
  unfold compile
  dsimp only
  split <;>
    simp only [Attempt.value_bind, value_say, Attempt.value_ofExcept, Attempt.value_pure] <;>
    cases Compiled.ofText (Caret.normalizeString expression) config.variableName <;> rfl

theorem quiet_compile (expression : String) : Quiet (compile config expression).run.events := by
  unfold compile
  dsimp only
  split <;>
    repeat' first
      | exact quiet_say _ _
      | exact Attempt.quiet_ofExcept _ _
      | exact Attempt.quiet_pure _
      | refine Attempt.quiet_bind ?_ fun _ => ?_

/-- A text of blanks is not compiled: it has no caret to expand and no word to read. -/
theorem inked_of_compiled {expression : String} {f : Compiled}
    (compiled : (compile config expression).run.value = .ok f) : isInked expression = true := by
  rw [compile_value] at compiled
  obtain ⟨-, t, read, -⟩ := Compiled.of_compiled compiled
  by_contra other
  have blank : ∀ c ∈ expression.toList, isBlank c = true := by
    simpa [isInked] using other
  have uncaret : expression.toList.count '^' = 0 := by
    apply List.count_eq_zero.2
    intro member
    exact absurd (blank _ member) (by decide)
  have scanned : Token.scan 0 expression.toList = .ok [] := by
    have skipped := Token.scan_blanks 0 (r := []) blank (by simp)
    rwa [List.append_nil, Token.scan_nil] at skipped
  have refused : Parse.parseWithin none (Caret.normalizeString expression).toList =
      .error .emptyText := by
    simp only [Caret.normalizeString, Caret.normalize, uncaret, Caret.expandTimes,
      String.toList_ofList, Parse.parseWithin, Token.tokenize, scanned]
    rfl
  rw [refused] at read
  cases read

/-! ## Running -/

/-- The number of partitions is never lowered. -/
theorem le_partitionsFor : request.partitions ≤ partitionsFor config request := by
  unfold partitionsFor Request.effectivePartitions Method.effectivePartitions
  split
  · split <;> omega
  · exact le_rfl

theorem quiet_countText (n : Nat) : Quiet (countText n).run.events := by
  unfold countText
  split
  · exact Attempt.quiet_pure _
  · exact Attempt.quiet_throw _

theorem quiet_announce (function : Compiled) :
    Quiet (announce config request function).run.events := by
  unfold announce
  dsimp only
  repeat' split
  all_goals
    with_reducible repeat' first
      | exact quiet_say _ _
      | exact quiet_countText _
      | refine Attempt.quiet_bind ?_ fun _ => ?_

theorem countText_short {n : Nat} (short : n < Nat.pow 10 Whole.maxDigits) :
    (countText n).run.value = .ok (Whole.write n) := by
  unfold countText Whole.write?
  rw [Int.natAbs_natCast, if_pos short]
  rfl

theorem countText_long {n : Nat} (long : ¬ n < Nat.pow 10 Whole.maxDigits) :
    (countText n).run.value = .error (.evaluate .integerTooLong) := by
  unfold countText Whole.write?
  rw [Int.natAbs_natCast, if_neg long]
  rfl

/-- An integration is announced if its number of partitions can be written. -/
theorem announce_short (function : Compiled)
    (short : partitionsFor config request < Nat.pow 10 Whole.maxDigits) :
    (announce config request function).run.value = .ok () := by
  have least := lt_of_le_of_lt (le_partitionsFor config request) short
  unfold announce
  dsimp only
  repeat' split
  all_goals
    simp only [Attempt.value_bind, value_say, countText_short least, countText_short short]
    rfl

theorem announce_long (function : Compiled)
    (long : ¬ partitionsFor config request < Nat.pow 10 Whole.maxDigits) :
    (announce config request function).run.value = .error (.evaluate .integerTooLong) := by
  unfold announce
  dsimp only
  by_cases short : request.partitions < Nat.pow 10 Whole.maxDigits
  · repeat' split
    all_goals
      simp only [Attempt.value_bind, value_say, countText_short short, countText_long long]
      rfl
  · repeat' split
    all_goals
      simp only [Attempt.value_bind, value_say, countText_long short, countText_long long]
      rfl

/-- An integration is announced only if its number of partitions can be written. -/
theorem lt_of_announce {function : Compiled} {u : Unit}
    (announced : (announce config request function).run.value = .ok u) :
    partitionsFor config request < Nat.pow 10 Whole.maxDigits := by
  by_contra long
  rw [announce_long config request function long] at announced
  cases announced

theorem quiet_run (function : Compiled) :
    Quiet (run config request (some function)).run.events := by
  unfold run
  refine Attempt.quiet_bind (Attempt.quiet_pure _) fun _ => ?_
  refine Attempt.quiet_bind (quiet_announce config request _) fun _ => ?_
  refine Attempt.quiet_bind (Attempt.quiet_ofExcept _ _) fun _ => ?_
  exact Attempt.quiet_pure _

/-- The function that is integrated: the given one, or that of the expression. -/
def functionOf : Option Compiled → Except RunError Compiled
  | some f => .ok f
  | none => (compile config request.expression).run.value.mapError .compile

/-- The run gets as far as the integration of `f`. -/
structure Reaches (given : Option Compiled) (f : Compiled) : Prop where
  function : functionOf config request given = .ok f
  announced : (announce config request f).run.value = .ok ()

theorem run_value (given : Option Compiled) : (run config request given).run.value = (do
    let f ← functionOf config request given
    (announce config request f).run.value
    let x ← (area config request f).mapError .evaluate
    return resultOf config request f x) := by
  unfold run
  cases given <;> simp only [Attempt.value_bind] <;> rfl

section

variable {config request} {given : Option Compiled} {f : Compiled}

theorem Reaches.value (reaches : Reaches config request given f) :
    (run config request given).run.value =
      ((area config request f).mapError .evaluate).map (resultOf config request f) := by
  rw [run_value, reaches.function]
  simp only [bind, Except.bind, reaches.announced]
  cases (area config request f).mapError RunError.evaluate <;> rfl

/-- A run that does not get to the integration says why. -/
theorem run_of_not_reaches (stopped : ∀ f, ¬ Reaches config request given f) :
    (∃ e, (run config request given).run.value = .error (.compile e)) ∨
      (run config request given).run.value = .error (.evaluate .integerTooLong) := by
  cases known : functionOf config request given with
  | error e =>
      left
      cases given with
      | some f => cases known
      | none =>
          unfold functionOf at known
          cases compiled : (compile config request.expression).run.value with
          | ok f => rw [compiled] at known; cases known
          | error fault =>
              refine ⟨fault, ?_⟩
              rw [run_value, functionOf, compiled]
              rfl
  | ok f =>
      right
      by_cases short : partitionsFor config request < Nat.pow 10 Whole.maxDigits
      · exact absurd ⟨known, announce_short config request f short⟩ (stopped f)
      · rw [run_value, known]
        simp only [bind, Except.bind, announce_long config request f short]

/-- A result comes from the function that the run got to and the area that was found. -/
theorem exists_reaches_of_run {result : Result}
    (ran : (run config request given).run.value = .ok result) :
    ∃ f x, Reaches config request given f ∧ area config request f = .ok x ∧
      result = resultOf config request f x := by
  by_cases reached : ∃ f, Reaches config request given f
  · obtain ⟨f, reaches⟩ := reached
    rw [reaches.value] at ran
    cases found : area config request f with
    | error e => rw [found] at ran; cases ran
    | ok x =>
        rw [found] at ran
        exact ⟨f, x, reaches, found, (Except.ok.inj ran).symm⟩
  · rcases run_of_not_reaches (not_exists.1 reached) with ⟨fault, ended⟩ | ended
    · rw [ended] at ran
      cases ran
    · rw [ended] at ran
      cases ran

end

/-- What a result holds is what its run was asked for and found. -/
theorem exists_area_of_run {function : Compiled} {result : Result}
    (ran : (run config request (some function)).run.value = .ok result) :
    partitionsFor config request < Nat.pow 10 Whole.maxDigits ∧
      ∃ x, result = resultOf config request function x := by
  obtain ⟨f, x, reaches, -, same⟩ := exists_reaches_of_run ran
  obtain rfl : function = f := Except.ok.inj reaches.function
  exact ⟨lt_of_announce config request reaches.announced, x, same⟩

end Pipeline

end Quadrature
