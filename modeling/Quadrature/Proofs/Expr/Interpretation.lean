/-
# Quadrature.Proofs.Expr.Interpretation -- compiled functions against plain evaluation

`check` looks a tree over one node at a time and reports the first fault; `interpret` evaluates a
tree at a point by recursion: left operand, right operand, operator. Neither knows of chains, which
compilation takes apart and builds in a loop.

* `evaluator_refines`: a tree is refused with the fault that `check` reports, unless the depth limit
  stops it first, and is otherwise compiled to what `interpret` computes;
* `check_spine`, `interpret_spine`, `levels_spine_le`: on a left-nested tree of any length the
  recursion is a loop from the left, and the length adds no level;
* `build_refines_interpret`: all together, for the function that a tree is compiled to.
-/
import Mathlib.Data.List.Basic
import Quadrature.Proofs.Expr.Nesting

namespace Quadrature

set_option autoImplicit false

/-- What an operator makes of its operands; a symbol without a meaning makes not-a-number. -/
def Op.apply : Op → Float → Float → Except Failure Float
  | .add, a, b => .ok (a + b)
  | .sub, a, b => .ok (a - b)
  | .mul, a, b => .ok (a * b)
  | .div, a, b => Function.divide a b
  | .pow, a, b => Function.power a b
  | .other _, _, _ => .ok (0 / 0)

/-- What a sign makes of its operand. -/
def Op.sign : Op → Float → Float
  | .sub, a => -a
  | _, a => a

/-- The value of a function at arguments as many as it takes. -/
def Builtin.apply : Builtin → List Float → Except Failure Float
  | .unary f, [a] => f a
  | .binary f, [a, b] => f a b
  | _, _ => .ok (0 / 0)

open Quadrature.Parse (within)

namespace Expr

/-! ## One node at a time -/

mutual

/-- The first fault of a tree, operands before a sign and from left to right, but an operator or a
function that is unknown before its operands. -/
def check (free : String) : Expr → Except CompileError Unit
  | .const _ => .ok ()
  | .var name position =>
    if name = free ∨ (Constant.named? name).isSome then .ok ()
    else if (Builtin.named? name).isSome then .error (.functionWithoutArguments name position)
    else .error (.unknownName name free position)
  | .unary op operand => do
    check free operand
    if op = .add ∨ op = .sub then .ok () else .error (.unsupportedUnary op.symbol)
  | .binary (.other symbol) _ _ => .error (.unsupportedOperator symbol)
  | .binary _ left right => do
    check free left
    check free right
  | .call name args position =>
    match Builtin.named? name with
    | none => .error (.unknownFunction name position)
    | some f =>
      if args.length = f.arity then checkAll free args
      else .error (.wrongArity name f.arity args.length position)
  | .foreign typeName => .error (.unsupportedNode typeName)

/-- The first fault of a list of trees. -/
def checkAll (free : String) : List Expr → Except CompileError Unit
  | [] => .ok ()
  | arg :: args => do
    check free arg
    checkAll free args

end

theorem check_binary {free : String} {op : Op} (known : ∀ symbol, op ≠ .other symbol)
    (left right : Expr) :
    check free (.binary op left right) = (check free left >>= fun _ => check free right) := by
  rw [check]
  exact known

/-- Of two faults the left one is reported. -/
example : check "x" (.binary .add (.foreign "List") (.foreign "Dict")) =
    .error (.unsupportedNode "List") := by
  cbv

mutual

/-- The value of a tree where the free variable is `x`. The free variable hides a constant of its
name; a node that `check` refuses is not-a-number. -/
def interpret (free : String) (x : Float) : Expr → Except Failure Float
  | .const value => .ok value
  | .var name _ => .ok (if name = free then x else (Constant.named? name).getD (0 / 0))
  | .unary op operand => do
    let a ← interpret free x operand
    return op.sign a
  | .binary op left right => do
    let a ← interpret free x left
    let b ← interpret free x right
    op.apply a b
  | .call name args _ => do
    let values ← interpretAll free x args
    match Builtin.named? name with
    | some f => f.apply values
    | none => .ok (0 / 0)
  | .foreign _ => .ok (0 / 0)

/-- The values of a list of trees, from left to right. -/
def interpretAll (free : String) (x : Float) : List Expr → Except Failure (List Float)
  | [] => .ok []
  | arg :: args => do
    let a ← interpret free x arg
    let values ← interpretAll free x args
    return a :: values

end

/-- The first fault of a chain is that of its head, or else of the first faulty operand. -/
theorem check_spine (free : String) {head : Expr} {steps : List (Op × Expr)}
    (known : ∀ step ∈ steps, ∀ symbol, step.1 ≠ .other symbol) :
    check free (spine head steps) = (do
      check free head
      steps.forM fun step => check free step.2) := by
  induction steps generalizing head with
  | nil =>
      rw [spine, List.foldl_nil]
      exact (bind_pure _).symm
  | cons step steps ih =>
      have next := @ih (.binary step.1 head step.2)
        fun step' member => known step' (List.mem_cons_of_mem _ member)
      simp only [spine, List.foldl_cons] at next ⊢
      rw [next, check_binary (known step (by simp))]
      exact bind_assoc ..

/-- The recursion on a left-nested tree of any length is a loop from the left. -/
theorem interpret_spine (free : String) (x : Float) (head : Expr) (steps : List (Op × Expr)) :
    interpret free x (spine head steps) = (do
      let value ← interpret free x head
      steps.foldlM (fun a step => do step.1.apply a (← interpret free x step.2)) value) := by
  induction steps generalizing head with
  | nil =>
      simp only [spine, List.foldl_nil, List.foldlM_nil]
      cases interpret free x head <;> rfl
  | cons step steps ih =>
      have next := ih (.binary step.1 head step.2)
      simp only [spine, List.foldl_cons] at next ⊢
      rw [next, interpret]
      cases interpret free x head with
      | error fault => rfl
      | ok a =>
          simp only [List.foldlM_cons]
          cases h : interpret free x step.2 with
          | error fault => simp [bind, Except.bind]
          | ok b => simp [bind, Except.bind]

/-- The length of a chain adds no level: it has one more than its operands, and no more than a head
that is a chain itself. -/
theorem levels_spine_le {n : Nat} {head : Expr} {steps : List (Op × Expr)}
    (most : head.levels ≤ n) (loose : head.isChained = false → head.levels < n)
    (chained : ∀ step ∈ steps, step.1.chained?.isSome = true ∧ step.2.levels < n) :
    (spine head steps).levels ≤ n := by
  have rope : Rope n head := ⟨most, loose⟩
  clear most loose
  induction steps generalizing head with
  | nil => exact rope.1
  | cons step steps ih =>
      obtain ⟨known, below⟩ := chained step (by simp)
      exact ih (fun step' member => chained step' (by simp [member])) (rope.step known below)

end Expr

/-! ## Refinement -/

theorem Op.chained?_apply {op : Op} {apply : Float → Float → Except Failure Float}
    (h : op.chained? = some apply) (a b : Float) : op.apply a b = apply a b := by
  cases op <;> simp only [Op.chained?, Option.some.injEq, reduceCtorEq] at h <;> subst h <;> rfl

namespace Expr

/-- The outcome of compiling a tree agrees with `check` and `interpret`: the same first fault, or
the same value or failure at every point. Only a depth limit may add a fault of its own. -/
def Refines (limit : Option Nat) (free : String) (e : Expr) :
    Except CompileError Evaluator → Prop
  | .ok f => check free e = .ok () ∧ ∀ x, f x = interpret free x e
  | .error fault => check free e = .error fault ∨ limit.isSome ∧ fault = .nestedTooDeeply

/-- `Refines` for the arguments of a call. -/
def RefinesAll (limit : Option Nat) (free : String) (args : List Expr) :
    Except CompileError (List Evaluator) → Prop
  | .ok fs => checkAll free args = .ok () ∧ fs.length = args.length ∧
      ∀ x, fs.mapM (fun f => f x) = interpretAll free x args
  | .error fault => checkAll free args = .error fault ∨ limit.isSome ∧ fault = .nestedTooDeeply

theorem enter_cases (limit : Option Nat) (depth : Nat) :
    enter limit depth = .ok () ∨ limit.isSome ∧ enter limit depth = .error .nestedTooDeeply := by
  unfold enter
  cases limit with
  | none => exact .inl rfl
  | some most =>
      by_cases h : within (some most) (depth + 2) = true
      · exact .inl (if_pos h)
      · exact .inr ⟨rfl, if_neg h⟩

theorem resolve_refines (limit : Option Nat) (free name : String) (position : Int) :
    Refines limit free (.var name position) (resolve free name position) := by
  unfold resolve
  by_cases same : name = free
  · simp [same, Refines, check, interpret]
  · cases constant : Constant.named? name with
    | some value => simp [same, constant, Refines, check, interpret]
    | none =>
        by_cases function : (Builtin.named? name).isSome = true <;>
          simp [same, constant, function, Refines, check]

theorem signed_refines (limit : Option Nat) (free : String) (op : Op) {operand : Expr}
    {f : Evaluator} (checked : check free operand = .ok ())
    (computes : ∀ x, f x = interpret free x operand) :
    Refines limit free (.unary op operand) (signed op f) := by
  cases op with
  | sub =>
      refine ⟨by simp [check, checked, bind, Except.bind], fun x => ?_⟩
      simp only [interpret, ← computes x]
      cases f x <;> rfl
  | add =>
      refine ⟨by simp [check, checked, bind, Except.bind], fun x => ?_⟩
      simp only [interpret, ← computes x]
      cases f x <;> rfl
  | mul | div | pow | other =>
      exact .inl (by simp [check, checked, bind, Except.bind])

theorem applied_eq {f : Builtin} {fs : List Evaluator} (enough : fs.length = f.arity) (x : Float) :
    applied f fs x = (do f.apply (← fs.mapM (fun g => g x))) := by
  cases f with
  | unary f =>
      obtain ⟨a, rfl⟩ := List.length_eq_one_iff.1 enough
      simp only [applied, List.mapM_cons, List.mapM_nil]
      cases a x <;> rfl
  | binary f =>
      obtain ⟨a, b, rfl⟩ := List.length_eq_two.1 enough
      simp only [applied, List.mapM_cons, List.mapM_nil]
      cases a x with
      | error fault => rfl
      | ok u => cases b x <;> rfl

/-- Operands from left to right, then the operator: what a node above two good ones computes. -/
theorem binary_refines (limit : Option Nat) (free : String) {op : Op} {left right : Expr}
    {apply : Float → Float → Except Failure Float} (known : ∀ symbol, op ≠ .other symbol)
    (applies : ∀ a b, op.apply a b = apply a b) {f g : Evaluator}
    (left_ok : Refines limit free left (.ok f)) (right_ok : Refines limit free right (.ok g)) :
    Refines limit free (.binary op left right) (.ok fun x => do
      let a ← f x
      let b ← g x
      apply a b) := by
  refine ⟨?_, fun x => ?_⟩
  · rw [check_binary known, left_ok.1, right_ok.1]
    rfl
  · simp only [interpret, ← left_ok.2 x, ← right_ok.2 x, applies]

theorem binary_left_fault {limit : Option Nat} {free : String} {op : Op} {left right : Expr}
    {fault : CompileError} (known : ∀ symbol, op ≠ .other symbol)
    (left_fault : Refines limit free left (.error fault)) :
    Refines limit free (.binary op left right) (.error fault) := by
  rcases left_fault with same | stopped
  · refine .inl ?_
    rw [check_binary known, same]
    rfl
  · exact .inr stopped

theorem binary_right_fault {limit : Option Nat} {free : String} {op : Op} {left right : Expr}
    {f : Evaluator} {fault : CompileError} (known : ∀ symbol, op ≠ .other symbol)
    (left_ok : Refines limit free left (.ok f))
    (right_fault : Refines limit free right (.error fault)) :
    Refines limit free (.binary op left right) (.error fault) := by
  rcases right_fault with same | stopped
  · refine .inl ?_
    rw [check_binary known, left_ok.1, same]
    rfl
  · exact .inr stopped

section

variable {limit : Option Nat} {free : String} {depth : Nat}

theorem unary_refines (op : Op) {operand : Expr}
    (inner : Refines limit free operand (evaluator limit free (depth + 2) operand)) :
    Refines limit free (.unary op operand) (evaluator limit free depth (.unary op operand)) := by
  rw [evaluator_unary]
  rcases enter_cases limit depth with entered | ⟨limited, stopped⟩
  · rw [entered]
    cases h : evaluator limit free (depth + 2) operand with
    | error fault =>
        rw [h] at inner
        rcases inner with same | stopped
        · exact .inl (by rw [check, same]; rfl)
        · exact .inr stopped
    | ok f =>
        rw [h] at inner
        exact signed_refines limit free op inner.1 inner.2
  · rw [stopped]
    exact .inr ⟨limited, rfl⟩

/-- What is built from the left operand, then the right one, and then applies the operator, refines
a node with a known operator. -/
theorem operated_refines {op : Op} {left right : Expr}
    {apply : Float → Float → Except Failure Float} {f g : Except CompileError Evaluator}
    (known : ∀ symbol, op ≠ .other symbol) (applies : ∀ a b, op.apply a b = apply a b)
    (first : Refines limit free left f) (second : Refines limit free right g) :
    Refines limit free (.binary op left right) (do
      enter limit depth
      let f ← f
      let g ← g
      return fun x => do
        let a ← f x
        let b ← g x
        apply a b) := by
  rcases enter_cases limit depth with entered | ⟨limited, stopped⟩
  · rw [entered]
    cases f with
    | error fault => exact binary_left_fault known first
    | ok f =>
        cases g with
        | error fault => exact binary_right_fault known first second
        | ok g => exact binary_refines limit free known applies first second
  · rw [stopped]
    exact .inr ⟨limited, rfl⟩

/-- A node of a chain is built from its two operands, though in a loop. -/
theorem chained_refines {op : Op} {left right : Expr}
    {apply : Float → Float → Except Failure Float} (chained : op.chained? = some apply)
    (first : Refines limit free left
      (evaluator limit free (if left.isChained then depth else depth + 2) left))
    (second : Refines limit free right (evaluator limit free (depth + 2) right)) :
    Refines limit free (.binary op left right)
      (evaluator limit free depth (.binary op left right)) := by
  have known : ∀ symbol, op ≠ .other symbol := by
    rintro symbol rfl
    simp [Op.chained?] at chained
  rw [evaluator_chained chained]
  exact operated_refines known (Op.chained?_apply chained) first second

/-- A power is no part of a chain: its operands are built apart. -/
theorem power_refines {left right : Expr}
    (first : Refines limit free left (evaluator limit free (depth + 2) left))
    (second : Refines limit free right (evaluator limit free (depth + 2) right)) :
    Refines limit free (.binary .pow left right)
      (evaluator limit free depth (.binary .pow left right)) := by
  have known : ∀ symbol, Op.pow ≠ .other symbol := by
    intro symbol same
    cases same
  have applies : ∀ a b, Op.pow.apply a b = Function.power a b := fun a b => rfl
  rw [evaluator_pow]
  exact operated_refines known applies first second

/-- A call of a known function with as many arguments as it takes is what its arguments are. -/
theorem call_refines (name : String) (position : Int) {args : List Expr}
    (inner : RefinesAll limit free args (arguments limit free depth args)) :
    Refines limit free (.call name args position)
      (evaluator limit free depth (.call name args position)) := by
  rw [evaluator_call]
  cases known : Builtin.named? name with
  | none => exact .inl (by rw [check, known])
  | some f =>
      by_cases enough : args.length = f.arity
      · simp only [enough, ne_eq, not_true_eq_false, if_false]
        cases h : arguments limit free depth args with
        | error fault =>
            rw [h] at inner
            rcases inner with same | stopped
            · exact .inl (by rw [check, known]; simp only [enough, if_true, same])
            · exact .inr stopped
        | ok fs =>
            rw [h] at inner
            obtain ⟨checked, length, values⟩ := inner
            refine ⟨by rw [check, known]; simp only [enough, if_true, checked], fun x => ?_⟩
            rw [applied_eq (length.trans enough), values, interpret, known]
      · simp only [enough, ne_eq, not_false_eq_true, if_true]
        exact .inl (by rw [check, known]; simp only [enough, if_false])

/-- The functions of some arguments, the first of them before the others. -/
theorem argument_refines {arg : Expr} {args : List Expr}
    (first : Refines limit free arg (evaluator limit free (depth + 2) arg))
    (rest : RefinesAll limit free args (arguments limit free depth args)) :
    RefinesAll limit free (arg :: args) (arguments limit free depth (arg :: args)) := by
  rw [arguments]
  rcases enter_cases limit depth with entered | ⟨limited, stopped⟩
  · rw [entered]
    cases hf : evaluator limit free (depth + 2) arg with
    | error fault =>
        rw [hf] at first
        rcases first with same | stopped
        · exact .inl (by rw [checkAll, same]; rfl)
        · exact .inr stopped
    | ok f =>
        rw [hf] at first
        cases hr : arguments limit free depth args with
        | error fault =>
            rw [hr] at rest
            rcases rest with same | stopped
            · exact .inl (by rw [checkAll, first.1, same]; rfl)
            · exact .inr stopped
        | ok fs =>
            rw [hr] at rest
            obtain ⟨checked, length, values⟩ := rest
            refine ⟨by rw [checkAll, first.1, checked]; rfl, by simp [length], fun x => ?_⟩
            rw [List.mapM_cons, values, first.2 x, interpretAll]
  · rw [stopped]
    exact .inr ⟨limited, rfl⟩

end

mutual

/-- The function of a tree refines the tree, by recursion on the tree. -/
theorem evaluator_refines (limit : Option Nat) (free : String) : ∀ (depth : Nat) (e : Expr),
    Refines limit free e (evaluator limit free depth e)
  | depth, .const value => by
      rw [evaluator_const]
      exact ⟨rfl, fun x => by rw [interpret]⟩
  | depth, .var name position => by
      rw [evaluator_var]
      exact resolve_refines limit free name position
  | depth, .unary op operand => unary_refines op (evaluator_refines limit free _ operand)
  | depth, .binary .pow left right =>
      power_refines (evaluator_refines limit free _ left) (evaluator_refines limit free _ right)
  | depth, .binary .add left right | depth, .binary .sub left right
  | depth, .binary .mul left right | depth, .binary .div left right =>
      chained_refines rfl (evaluator_refines limit free _ left)
        (evaluator_refines limit free _ right)
  | depth, .binary (.other symbol) left right => by
      rw [evaluator_other]
      exact .inl (by rw [check])
  | depth, .call name args position =>
      call_refines name position (arguments_refine limit free depth args)
  | depth, .foreign typeName => by
      rw [evaluator_foreign]
      exact .inl (by rw [check])

/-- The functions of the arguments of a call refine the arguments. -/
theorem arguments_refine (limit : Option Nat) (free : String) :
    ∀ (depth : Nat) (args : List Expr),
      RefinesAll limit free args (arguments limit free depth args)
  | depth, [] => by
      rw [arguments]
      exact ⟨rfl, rfl, fun x => rfl⟩
  | depth, arg :: args =>
      argument_refines (evaluator_refines limit free _ arg) (arguments_refine limit free depth args)

end

/-- The function that a tree is compiled to refines it. -/
theorem build_refines (limit : Option Nat) (free : String) (e : Expr) :
    Refines limit free e (build limit free e) := by
  unfold build
  rcases enter_cases limit 0 with entered | ⟨limited, stopped⟩
  · rw [entered]
    exact evaluator_refines limit free 2 e
  · rw [stopped]
    exact .inr ⟨limited, rfl⟩

/-- A tree within the limit in which no node is faulty is built. -/
theorem exists_build {limit : Option Nat} {free : String} {e : Expr}
    (sound : check free e = .ok ()) (shallow : within limit (2 * e.levels + 2) = true) :
    ∃ f, build limit free e = .ok f := by
  rw [build_within free shallow]
  have refined := build_refines none free e
  cases built : build none free e with
  | ok f => exact ⟨f, rfl⟩
  | error fault =>
      rw [built] at refined
      rcases refined with refused | ⟨limited, -⟩
      · exact absurd (refused.symm.trans sound) (by simp)
      · simp at limited

/-- A tree within the limit with a faulty node is refused for its first fault. -/
theorem build_of_fault {limit : Option Nat} {free : String} {e : Expr} {fault : CompileError}
    (faulty : check free e = .error fault) (shallow : within limit (2 * e.levels + 2) = true) :
    build limit free e = .error fault := by
  rw [build_within free shallow]
  have refined := build_refines none free e
  cases built : build none free e with
  | ok f =>
      rw [built] at refined
      exact absurd (refined.1.symm.trans faulty) (by simp)
  | error fault' =>
      rw [built] at refined
      rcases refined with refused | ⟨limited, -⟩
      · rw [Except.error.inj (refused.symm.trans faulty)]
      · simp at limited

/-- **Compilation refines interpretation**: a tree is refused with the fault that looking at one
node at a time finds first, and is otherwise compiled to its recursive reading. Only a tree that is
nested deeper than the limit may be refused for that. A chain, however long and mixed, is taken
apart down to its head; its first fault is that of the head or else of the first faulty operand, its
recursive reading is a loop from the left, and its length adds no level. -/
theorem build_refines_interpret (limit : Option Nat) (free : String) (e : Expr) :
    Refines limit free e (build limit free e) ∧
      (within limit (2 * e.levels + 2) = true → Refines none free e (build limit free e)) ∧
      ∀ (head : Expr) (steps : List (Op × Expr)),
        (head.isChained = false → (∀ step ∈ steps, step.1.chained?.isSome = true) →
          (Chain.unroll (spine head steps)).head = head ∧
            (Chain.unroll (spine head steps)).collected.map (fun step => (some step.1, step.2)) =
              (steps.map fun step => (step.1.chained?, step.2)).reverse) ∧
        ((∀ step ∈ steps, ∀ symbol, step.1 ≠ .other symbol) →
          check free (spine head steps) = (do
            check free head
            steps.forM fun step => check free step.2)) ∧
        (∀ x, interpret free x (spine head steps) = (do
          let value ← interpret free x head
          steps.foldlM (fun a step => do step.1.apply a (← interpret free x step.2)) value)) ∧
        ∀ n, head.levels < n →
          (∀ step ∈ steps, step.1.chained?.isSome = true ∧ step.2.levels < n) →
          (spine head steps).levels ≤ n := by
  refine ⟨build_refines limit free e, ?shallow, fun head steps =>
    ⟨Chain.unroll_spine, check_spine free, ?value, ?levels⟩⟩
  case shallow =>
    intro shallow
    rw [build_within free shallow]
    exact build_refines none free e
  case value =>
    intro x
    exact interpret_spine free x head steps
  case levels =>
    intro n first chained
    exact levels_spine_le (Nat.le_of_lt first) (fun _ => first) chained

/-- A chain of all four operators. -/
def mixedChain : Expr :=
  spine (.var "x" 0) [(.add, .const 1), (.mul, .var "pi" 0), (.sub, .var "x" 0), (.div, .const 2)]

/-- The theorem at a chain of four operators, within a limit that allows one level. -/
theorem build_refines_mixedChain : within (some 4) (2 * mixedChain.levels + 2) = true ∧
    Refines none "x" mixedChain (build (some 4) "x" mixedChain) := by
  obtain ⟨-, -, -, most⟩ := (build_refines_interpret none "x" mixedChain).2.2 (.var "x" 0)
    [(.add, .const 1), (.mul, .var "pi" 0), (.sub, .var "x" 0), (.div, .const 2)]
  have single : mixedChain.levels ≤ 1 := most 1 (by simp [levels]) (by simp [levels, Op.chained?])
  have shallow : within (some 4) (2 * mixedChain.levels + 2) = true :=
    within_mono (n := 4) rfl (by omega)
  exact ⟨shallow, (build_refines_interpret (some 4) "x" mixedChain).2.1 shallow⟩

end Expr

end Quadrature
