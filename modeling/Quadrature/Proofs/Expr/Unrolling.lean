/-
# Quadrature.Proofs.Expr.Unrolling -- a chain is built as if by recursion

Building takes a chain apart and goes through its operands in a loop. One operand more is one step
more at the end of the loop: a chain whose left operand is a chain itself is built as the left
operand and then the right one, and computes what the left operand computes, then the right one,
then the operator. So the loop is never seen: `evaluator_chained` is an equation about the two
operands of one node, and whoever builds trees on it needs no chain.

* `Chain.unroll_spine`: where the walk stops, and what it has collected then;
* `operands_append`, `Chain.evaluate_append`: the two loops, one step longer;
* `evaluator_chained`: a node of a chain is built from its two operands.
-/
import Mathlib.Data.List.Induction
import Quadrature.Expr.Compile

namespace Quadrature

set_option autoImplicit false

/-! ## Taking apart -/

/-- A head with operators and right operands that follow it, nested to the left. -/
def Expr.spine (head : Expr) (steps : List (Op × Expr)) : Expr :=
  steps.foldl (fun left step => .binary step.1 left step.2) head

namespace Chain

variable {apply : Float → Float → Except Failure Float}

theorem unroll_chained {op : Op} (chained : op.chained? = some apply) (left right : Expr) :
    unroll (.binary op left right) =
      ⟨(unroll left).head, (apply, right) :: (unroll left).collected⟩ := by
  rw [unroll, chained]

theorem unroll_of_not_chained {e : Expr} (single : e.isChained = false) : unroll e = ⟨e, []⟩ := by
  cases e with
  | binary op left right =>
      have none : op.chained? = none := by simpa [Expr.isChained] using single
      rw [unroll, none]
  | const | var | unary | call | foreign => rfl

/-- The walk goes down to the first operand that is no chain, and has collected the operators with
the operands behind it from the last to the first. -/
theorem unroll_spine {head : Expr} {steps : List (Op × Expr)} (single : head.isChained = false)
    (chained : ∀ step ∈ steps, step.1.chained?.isSome = true) :
    (unroll (.spine head steps)).head = head ∧
      (unroll (.spine head steps)).collected.map (fun step => (some step.1, step.2)) =
        (steps.map fun step => (step.1.chained?, step.2)).reverse := by
  -- By induction from the last step, which the walk meets first.
  induction steps using List.reverseRecOn with
  | nil =>
      rw [Expr.spine, List.foldl_nil, unroll_of_not_chained single]
      exact ⟨rfl, rfl⟩
  | append_singleton steps step ih =>
      obtain ⟨apply, known⟩ := Option.isSome_iff_exists.1 (chained step (by simp))
      obtain ⟨stop, before⟩ := ih fun step member => chained step (by simp [member])
      unfold Expr.spine at stop before ⊢
      rw [List.foldl_append, List.foldl_cons, List.foldl_nil, unroll_chained known]
      exact ⟨stop, by simp [before, known]⟩

/-! ## The loops -/

theorem follow_one (x : Float) (operand : Evaluator) (value : Float) :
    follow x [(apply, operand)] value = (do apply value (← operand x)) := by
  rw [follow]
  exact congrArg (operand x >>= ·) (funext fun b => bind_pure (apply value b))

theorem follow_append (x : Float) (steps more : List (Step Evaluator)) (value : Float) :
    follow x (steps ++ more) value = (do follow x more (← follow x steps value)) := by
  induction steps generalizing value with
  | nil => rfl
  | cons step steps ih =>
      obtain ⟨apply, operand⟩ := step
      rw [List.cons_append, follow, follow]
      simp only [ih, bind_assoc]

theorem evaluate_nil (first : Evaluator) : evaluate first [] = first := by
  funext x
  exact bind_pure (first x)

/-- One step more at the end is one operator more, applied last. -/
theorem evaluate_append (first : Evaluator) (steps : List (Step Evaluator)) (operand : Evaluator) :
    evaluate first (steps ++ [(apply, operand)]) = (fun x => do
      let a ← evaluate first steps x
      let b ← operand x
      apply a b) := by
  funext x
  simp only [evaluate, follow_append, follow_one, bind_assoc]

end Chain

namespace Expr

open Chain (unroll Step)

variable {limit : Option Nat} {free : String} {depth : Nat}

theorem operands_nil : operands limit free depth [] = pure [] := by
  rw [operands]
  rfl

theorem operands_append (steps more : List (Step Expr)) :
    operands limit free depth (steps ++ more) = (do
      let fs ← operands limit free depth steps
      return fs ++ (← operands limit free depth more)) := by
  induction steps with
  | nil =>
      rw [operands_nil, List.nil_append, pure_bind]
      exact (bind_pure _).symm
  | cons step steps ih =>
      obtain ⟨apply, right⟩ := step
      rw [List.cons_append, operands, operands, ih]
      simp only [bind_assoc, pure_bind, List.cons_append]

/-! ## One node -/

theorem evaluator_const (value : Float) :
    evaluator limit free depth (.const value) = .ok fun _ => .ok value := by
  rw [evaluator]

theorem evaluator_var (name : String) (position : Int) :
    evaluator limit free depth (.var name position) = resolve free name position := by
  rw [evaluator]

theorem evaluator_unary (op : Op) (operand : Expr) :
    evaluator limit free depth (.unary op operand) = (do
      enter limit depth
      signed op (← evaluator limit free (depth + 2) operand)) := by
  rw [evaluator]

theorem evaluator_pow (left right : Expr) :
    evaluator limit free depth (.binary .pow left right) = (do
      enter limit depth
      let base ← evaluator limit free (depth + 2) left
      let exponent ← evaluator limit free (depth + 2) right
      return fun x => do
        let u ← base x
        let v ← exponent x
        Function.power u v) := by
  rw [evaluator]

theorem evaluator_other (symbol : String) (left right : Expr) :
    evaluator limit free depth (.binary (.other symbol) left right) =
      .error (.unsupportedOperator symbol) := by
  rw [evaluator]
  · rfl
  · simp

theorem evaluator_call (name : String) (args : List Expr) (position : Int) :
    evaluator limit free depth (.call name args position) =
      match Builtin.named? name with
      | none => .error (.unknownFunction name position)
      | some f =>
        if args.length ≠ f.arity then .error (.wrongArity name f.arity args.length position)
        else do return applied f (← arguments limit free depth args) :=
  (evaluator.eq_def limit free depth _).trans rfl

theorem evaluator_foreign (typeName : String) :
    evaluator limit free depth (.foreign typeName) = .error (.unsupportedNode typeName) := by
  rw [evaluator]

/-- A chain is built from its head, and then from its right operands in the order of the text. -/
theorem evaluator_unroll {e : Expr} (chained : e.isChained = true) :
    evaluator limit free depth e = (do
      enter limit depth
      let first ← evaluator limit free (depth + 2) (unroll e).head
      return Chain.evaluate first
        (← operands limit free (depth + 2) (unroll e).collected.reverse)) := by
  cases e with
  | binary op left right =>
      obtain ⟨apply, known⟩ := Option.isSome_iff_exists.1 chained
      rw [evaluator]
      · split
        next head unrolled => simp [Chain.unroll_chained known] at unrolled
        next head step steps unrolled => rw [unrolled]
      · rintro rfl
        simp [Op.chained?] at known
  | const | var | unary | call | foreign => simp [isChained] at chained

/-- A level that was entered can be entered again. -/
theorem enter_twice {α : Type} (go : Except CompileError α) :
    (do enter limit depth; enter limit depth; go) = (do enter limit depth; go) := by
  cases enter limit depth <;> rfl

/-- **A node of a chain is built from its two operands**, the left one first, as a chain that goes
on if it is one. -/
theorem evaluator_chained {op : Op} {apply : Float → Float → Except Failure Float}
    (chained : op.chained? = some apply) (left right : Expr) :
    evaluator limit free depth (.binary op left right) = (do
      enter limit depth
      let f ← evaluator limit free (if left.isChained then depth else depth + 2) left
      let g ← evaluator limit free (depth + 2) right
      return fun x => do
        let a ← f x
        let b ← g x
        apply a b) := by
  have whole : (Expr.binary op left right).isChained = true := by rw [isChained, chained]; rfl
  have last : operands limit free (depth + 2) [(apply, right)] = (do
      return [(apply, ← evaluator limit free (depth + 2) right)]) := by
    rw [operands, operands_nil]
    rfl
  rw [evaluator_unroll whole, Chain.unroll_chained chained, List.reverse_cons, operands_append, last]
  by_cases goesOn : left.isChained = true
  · -- The loop of the left operand, one step longer.
    rw [if_pos goesOn, evaluator_unroll goesOn]
    simp only [bind_assoc, pure_bind, enter_twice, Chain.evaluate_append]
  · -- A loop of one step.
    rw [if_neg goesOn, Chain.unroll_of_not_chained (Bool.eq_false_iff.2 goesOn), List.reverse_nil,
      operands_nil]
    simp only [bind_assoc, pure_bind, Chain.evaluate_append, Chain.evaluate_nil]

end Expr

end Quadrature
