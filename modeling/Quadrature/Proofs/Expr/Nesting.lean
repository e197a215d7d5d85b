/-
# Quadrature.Proofs.Expr.Nesting -- how deep compilation goes

A tree counts its levels as compilation does: an operand is one level down, but a chain of
`+ - * /` is one level as a whole. A tree that is nested within the depth limit is compiled as
without one, so the limit shows only where a tree is nested deeper.

* `Rope.step`: what a chain goes on with adds no level;
* `evaluator_within`, `build_within`: within the limit there is none;
* `levels_of_build`: a tree that is compiled is within it.
-/
import Quadrature.Proofs.Expr.Unrolling

namespace Quadrature

set_option autoImplicit false

open Quadrature.Parse (within)

namespace Expr

/-! ## Levels -/

mutual

/-- How many levels a tree is nested: a chain is one level, however long it is. -/
def levels : Expr → Nat
  | .const _ | .var _ _ | .foreign _ => 0
  | .unary _ operand => levels operand + 1
  | .binary op left right =>
    max (if op.chained?.isSome && left.isChained then levels left else levels left + 1)
      (levels right + 1)
  | .call _ args _ => levelsAll args

/-- How many levels the arguments of a call add. -/
def levelsAll : List Expr → Nat
  | [] => 0
  | arg :: args => max (levels arg + 1) (levelsAll args)

end

theorem levels_chained {op : Op} {left : Expr} (chained : op.chained?.isSome = true)
    (right : Expr) : levels (.binary op left right) =
      max (if left.isChained then levels left else levels left + 1) (levels right + 1) := by
  rw [levels, chained, Bool.true_and]

/-- The tree can go on as a chain within `n` levels: it is one, or has fewer levels. -/
def Rope (n : Nat) (e : Expr) : Prop := e.levels ≤ n ∧ (e.isChained = false → e.levels < n)

theorem rope_of_levels_lt {n : Nat} {e : Expr} (below : e.levels < n) : Rope n e :=
  ⟨Nat.le_of_lt below, fun _ => below⟩

/-- One more step of a chain adds no level. -/
theorem Rope.step {n : Nat} {op : Op} {left right : Expr} (rope : Rope n left)
    (chained : op.chained?.isSome = true) (below : right.levels < n) :
    Rope n (.binary op left right) := by
  obtain ⟨most, loose⟩ := rope
  refine ⟨?_, fun single => ?_⟩
  · rw [levels_chained chained]
    by_cases goesOn : left.isChained = true
    · rw [if_pos goesOn]
      omega
    · have := loose (Bool.eq_false_iff.2 goesOn)
      rw [if_neg goesOn]
      omega
  · simp [isChained, chained] at single

/-! ## Within the limit -/

theorem within_mono {limit : Option Nat} {m n : Nat} (h : within limit n = true) (less : m ≤ n) :
    within limit m = true := by
  cases limit with
  | none => rfl
  | some most =>
      simp only [within, decide_eq_true_eq] at h ⊢
      omega

theorem enter_of_within {limit : Option Nat} {depth : Nat} (h : within limit (depth + 2) = true) :
    enter limit depth = .ok () := if_pos h

theorem enter_none (depth : Nat) : enter none depth = .ok () := rfl

mutual

/-- A tree that is nested within the limit is compiled as without one. -/
theorem evaluator_within (limit : Option Nat) (free : String) : ∀ (depth : Nat) (e : Expr),
    within limit (depth + 2 * e.levels) = true →
      evaluator limit free depth e = evaluator none free depth e
  | depth, .const value, _ => by rw [evaluator_const, evaluator_const]
  | depth, .var name position, _ => by rw [evaluator_var, evaluator_var]
  | depth, .unary op operand, h => by
      rw [levels] at h
      have inner := evaluator_within limit free (depth + 2) operand (within_mono h (by omega))
      rw [evaluator_unary, evaluator_unary, enter_of_within (within_mono h (by omega)), inner]
      rfl
  | depth, .binary op left right, h => by
      rw [levels] at h
      have second := evaluator_within limit free (depth + 2) right (within_mono h (by omega))
      have shallow : within limit (depth + 2) = true := within_mono h (by omega)
      cases chained : op.chained? with
      | some apply =>
          rw [chained, Option.isSome_some, Bool.true_and] at h
          rw [evaluator_chained chained, evaluator_chained chained, enter_of_within shallow,
            enter_none, second]
          by_cases goesOn : left.isChained = true
          · rw [if_pos goesOn] at h ⊢
            rw [evaluator_within limit free depth left (within_mono h (by omega))]
          · rw [if_neg goesOn] at h ⊢
            rw [evaluator_within limit free (depth + 2) left (within_mono h (by omega))]
      | none =>
          rw [chained, Option.isSome_none, Bool.false_and] at h
          have first :=
            evaluator_within limit free (depth + 2) left (within_mono h (by simp; omega))
          cases op with
          | pow =>
              rw [evaluator_pow, evaluator_pow, enter_of_within shallow, first, second]
              rfl
          | add | sub | mul | div => simp [Op.chained?] at chained
          | other symbol => rw [evaluator_other, evaluator_other]
  | depth, .call name args position, h => by
      rw [levels] at h
      rw [evaluator_call, evaluator_call, arguments_within limit free depth args h]
  | depth, .foreign typeName, _ => by rw [evaluator_foreign, evaluator_foreign]

theorem arguments_within (limit : Option Nat) (free : String) :
    ∀ (depth : Nat) (args : List Expr), within limit (depth + 2 * levelsAll args) = true →
      arguments limit free depth args = arguments none free depth args
  | depth, [], _ => by rw [arguments, arguments]
  | depth, arg :: args, h => by
      rw [levelsAll] at h
      have first := evaluator_within limit free (depth + 2) arg (within_mono h (by omega))
      have rest := arguments_within limit free depth args (within_mono h (by omega))
      rw [arguments, arguments, enter_of_within (within_mono h (by omega)), first, rest]
      rfl

end

theorem build_within {limit : Option Nat} (free : String) {e : Expr}
    (shallow : within limit (2 * e.levels + 2) = true) : build limit free e = build none free e := by
  have inner := evaluator_within limit free 2 e (within_mono shallow (by omega))
  rw [build, build, enter_of_within (within_mono shallow (by omega)), inner]
  rfl

/-! ## Beyond the limit -/

/-- What goes on from an outcome has a result only where the outcome has one. -/
theorem exists_of_bind {α β : Type} {x : Except CompileError α} {f : α → Except CompileError β}
    {b : β} (done : (x >>= f) = .ok b) : ∃ a, x = .ok a ∧ f a = .ok b := by
  cases x with
  | error fault => simp [bind, Except.bind] at done
  | ok a => exact ⟨a, rfl, done⟩

theorem enter_eq_ok_iff {most depth : Nat} {u : Unit} :
    enter (some most) depth = .ok u ↔ depth + 2 ≤ most := by
  simp [enter, within]

mutual

/-- A tree that is compiled at a depth is nested within what the limit leaves there. -/
theorem levels_of_evaluator {most : Nat} (free : String) : ∀ (depth : Nat) (e : Expr)
    {f : Evaluator}, depth ≤ most → evaluator (some most) free depth e = .ok f →
      depth + 2 * e.levels ≤ most
  | depth, .const value, f, here, compiled => here
  | depth, .var name position, f, here, compiled => here
  | depth, .unary op operand, f, here, compiled => by
      rw [evaluator_unary] at compiled
      obtain ⟨u, entered, compiled⟩ := exists_of_bind compiled
      obtain ⟨g, inner, -⟩ := exists_of_bind compiled
      have deeper := levels_of_evaluator free (depth + 2) operand (enter_eq_ok_iff.1 entered) inner
      rw [levels]
      omega
  | depth, .binary op left right, f, here, compiled => by
      cases chained : op.chained? with
      | some apply =>
          rw [evaluator_chained chained] at compiled
          obtain ⟨u, entered, compiled⟩ := exists_of_bind compiled
          obtain ⟨f₁, first, compiled⟩ := exists_of_bind compiled
          obtain ⟨f₂, second, -⟩ := exists_of_bind compiled
          have entered := enter_eq_ok_iff.1 entered
          have right_deep := levels_of_evaluator free (depth + 2) right entered second
          rw [levels_chained (by rw [chained]; rfl)]
          by_cases goesOn : left.isChained = true
          · rw [if_pos goesOn] at first ⊢
            have left_deep := levels_of_evaluator free depth left here first
            omega
          · rw [if_neg goesOn] at first ⊢
            have left_deep := levels_of_evaluator free (depth + 2) left entered first
            omega
      | none =>
          cases op with
          | pow =>
              rw [evaluator_pow] at compiled
              obtain ⟨u, entered, compiled⟩ := exists_of_bind compiled
              obtain ⟨f₁, first, compiled⟩ := exists_of_bind compiled
              obtain ⟨f₂, second, -⟩ := exists_of_bind compiled
              have entered := enter_eq_ok_iff.1 entered
              have left_deep := levels_of_evaluator free (depth + 2) left entered first
              have right_deep := levels_of_evaluator free (depth + 2) right entered second
              rw [levels, chained, Option.isSome_none, Bool.false_and, if_neg Bool.false_ne_true]
              omega
          | add | sub | mul | div => simp [Op.chained?] at chained
          | other symbol => simp [evaluator_other] at compiled
  | depth, .call name args position, f, here, compiled => by
      rw [evaluator_call] at compiled
      split at compiled
      · simp at compiled
      split at compiled
      · simp at compiled
      obtain ⟨fs, inner, -⟩ := exists_of_bind compiled
      rw [levels]
      exact levels_of_arguments free depth args here inner
  | depth, .foreign typeName, f, here, compiled => here

theorem levels_of_arguments {most : Nat} (free : String) : ∀ (depth : Nat) (args : List Expr)
    {fs : List Evaluator}, depth ≤ most → arguments (some most) free depth args = .ok fs →
      depth + 2 * levelsAll args ≤ most
  | depth, [], fs, here, compiled => here
  | depth, arg :: args, fs, here, compiled => by
      rw [arguments] at compiled
      obtain ⟨u, entered, compiled⟩ := exists_of_bind compiled
      obtain ⟨f, first, compiled⟩ := exists_of_bind compiled
      obtain ⟨fs, rest, -⟩ := exists_of_bind compiled
      have deeper := levels_of_evaluator free (depth + 2) arg (enter_eq_ok_iff.1 entered) first
      have others := levels_of_arguments free depth args here rest
      rw [levelsAll]
      omega

end

/-- A tree that is compiled is nested within the limit. -/
theorem levels_of_build {most : Nat} {free : String} {e : Expr} {f : Evaluator}
    (built : build (some most) free e = .ok f) : 2 * e.levels + 2 ≤ most := by
  obtain ⟨u, entered, compiled⟩ := exists_of_bind built
  have deep := levels_of_evaluator free 2 e (enter_eq_ok_iff.1 entered) compiled
  omega

end Expr

end Quadrature
