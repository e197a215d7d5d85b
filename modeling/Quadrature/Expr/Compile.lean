/-
# Quadrature.Expr.Compile -- from trees to functions of one variable

Names are resolved once: the free variable first, then the constants. A left-nested chain of
`+ - * /` is taken apart into a head and its right operands, which a walk down the left operands
collects from the last to the first. The head is built first and then the operands in the order of
the text, so that building and evaluating a long sum or product are loops and take no depth. All
other nodes evaluate their operands from left to right and then apply their operator, and the first
failure is the result.

Each level of the tree counts two towards the depth limit, a whole chain being one level; its head
and its operands are one level down.
-/
import Quadrature.Expr.Function
import Quadrature.Expr.Parse
import Quadrature.Text.Identifier

namespace Quadrature

set_option autoImplicit false

open Quadrature.Text
open Quadrature.Parse (within depthLimit)

/-- An operator of a chain, with what stands to its right. -/
abbrev Chain.Step (α : Type) : Type := (Float → Float → Except Failure Float) × α

/-- A chain taken apart. -/
structure Chain where
  head : Expr
  /-- The operators with their right operands as the walk meets them, the last first. -/
  collected : List (Chain.Step Expr)

namespace Chain

/-- Walk down the left operands while the operators are those of chains. -/
def unroll : Expr → Chain
  | .binary op left right =>
    match op.chained? with
    | some apply =>
      let inner := unroll left
      ⟨inner.head, (apply, right) :: inner.collected⟩
    | none => ⟨.binary op left right, []⟩
  | e => ⟨e, []⟩

/-- Carry a value through steps in order. -/
def follow (x : Float) : List (Step Evaluator) → Evaluator
  | [], value => .ok value
  | (apply, operand) :: steps, value => do
    follow x steps (← apply value (← operand x))

/-- The function that a head and the steps behind it compute. -/
def evaluate (first : Evaluator) (steps : List (Step Evaluator)) : Evaluator := fun x => do
  follow x steps (← first x)

/-! ### Building ends: what is taken out of a chain is smaller -/

theorem sizeOf_unroll (e : Expr) :
    sizeOf (unroll e).head + sizeOf (unroll e).collected ≤ sizeOf e + 1 := by
  cases e with
  | binary op left right =>
      have inner := sizeOf_unroll left
      rw [unroll]
      cases op.chained? with
      | none => simp
      | some apply =>
          have some : 1 ≤ sizeOf op := by cases op <;> simp
          simp only [List.cons.sizeOf_spec, Prod.mk.sizeOf_spec, Expr.binary.sizeOf_spec]
          simp only [sizeOf_default]
          omega
  | const | var | unary | call | foreign => simp [unroll]

theorem sizeOf_of_unroll {e head : Expr} {step : Step Expr} {steps : List (Step Expr)}
    (unrolled : unroll e = ⟨head, step :: steps⟩) :
    sizeOf head < sizeOf e ∧ sizeOf (step :: steps).reverse ≤ sizeOf e := by
  have sizes := sizeOf_unroll e
  have some : 1 ≤ sizeOf head := by cases head <;> simp <;> omega
  obtain ⟨apply, right⟩ := step
  rw [unrolled] at sizes
  rw [(List.reverse_perm _).sizeOf_eq_sizeOf]
  simp only [List.cons.sizeOf_spec, Prod.mk.sizeOf_spec] at sizes ⊢
  omega

end Chain

namespace Expr

/-- The node continues a chain on its left. -/
def isChained : Expr → Bool
  | .binary op _ _ => op.chained?.isSome
  | _ => false

/-- What a name means. -/
def resolve (free : String) (name : String) (position : Int) :
    Except CompileError Evaluator :=
  if name = free then .ok fun x => .ok x
  else match Constant.named? name with
    | some value => .ok fun _ => .ok value
    | none =>
      if (Builtin.named? name).isSome then .error (.functionWithoutArguments name position)
      else .error (.unknownName name free position)

/-- The meaning of a sign before an operand. -/
def signed (op : Op) (operand : Evaluator) : Except CompileError Evaluator :=
  match op with
  | .sub => .ok fun x => return -(← operand x)
  | .add => .ok operand
  | op => .error (.unsupportedUnary op.symbol)

/-- The meaning of a call of a function with as many arguments as it takes. -/
def applied : Builtin → List Evaluator → Evaluator
  | .unary f, [a] => fun x => do f (← a x)
  | .binary f, [a, b] => fun x => do
    let u ← a x
    let v ← b x
    f u v
  | _, _ => fun x => .ok x

/-- One level down, if the limit allows it. -/
def enter (limit : Option Nat) (depth : Nat) : Except CompileError Unit :=
  if within limit (depth + 2) then .ok () else .error .nestedTooDeeply

mutual

/-- The function of a tree at a depth that was already entered. -/
def evaluator (limit : Option Nat) (free : String) (depth : Nat) (e : Expr) :
    Except CompileError Evaluator :=
  match e with
  | .const value => .ok fun _ => .ok value
  | .var name position => resolve free name position
  | .unary op operand => do
    enter limit depth
    signed op (← evaluator limit free (depth + 2) operand)
  | .binary .pow left right => do
    enter limit depth
    let base ← evaluator limit free (depth + 2) left
    let exponent ← evaluator limit free (depth + 2) right
    return fun x => do
      let u ← base x
      let v ← exponent x
      Function.power u v
  | .binary op left right =>
    match unrolled : Chain.unroll (.binary op left right) with
    | ⟨_, []⟩ => .error (.unsupportedOperator op.symbol)
    | ⟨head, step :: steps⟩ => do
      enter limit depth
      let first ← evaluator limit free (depth + 2) head
      return Chain.evaluate first (← operands limit free (depth + 2) (step :: steps).reverse)
  | .call name args position =>
    match Builtin.named? name with
    | none => .error (.unknownFunction name position)
    | some f =>
      if args.length ≠ f.arity then .error (.wrongArity name f.arity args.length position)
      else do return applied f (← arguments limit free depth args)
  | .foreign typeName => .error (.unsupportedNode typeName)
termination_by 2 * sizeOf e + 1
decreasing_by
  · rw [Expr.unary.sizeOf_spec]; omega
  · rw [Expr.binary.sizeOf_spec]; omega
  · rw [Expr.binary.sizeOf_spec]; omega
  · have smaller := (Chain.sizeOf_of_unroll unrolled).1
    omega
  · have smaller := (Chain.sizeOf_of_unroll unrolled).2
    omega
  · rw [Expr.call.sizeOf_spec]; omega

/-- The functions of the right operands of a chain, in the order of the text. -/
def operands (limit : Option Nat) (free : String) (depth : Nat) (steps : List (Chain.Step Expr)) :
    Except CompileError (List (Chain.Step Evaluator)) :=
  match steps with
  | [] => .ok []
  | (apply, right) :: steps => do
    let operand ← evaluator limit free depth right
    return (apply, operand) :: (← operands limit free depth steps)
termination_by 2 * sizeOf steps

/-- The functions of the arguments of a call at a depth. -/
def arguments (limit : Option Nat) (free : String) (depth : Nat) (args : List Expr) :
    Except CompileError (List Evaluator) :=
  match args with
  | [] => .ok []
  | arg :: args => do
    enter limit depth
    let f ← evaluator limit free (depth + 2) arg
    return f :: (← arguments limit free depth args)
termination_by 2 * sizeOf args

end

/-- The function that a tree denotes. -/
def build (limit : Option Nat) (free : String) (e : Expr) : Except CompileError Evaluator := do
  enter limit 0
  evaluator limit free 2 e

end Expr

/-- A function of one variable with the text it was compiled from. -/
structure Compiled where
  source : String
  variableName : String
  tree : Expr
  evaluate : Evaluator

namespace Compiled

/-- The name of the free variable unless another is chosen. -/
def defaultVariable : String := "x"

/-- Compile a text within a depth limit. -/
def ofTextWithin (limit : Option Nat) (source : String) (free : String) :
    Except CompileError Compiled :=
  if !isIdentifier free.toList then .error (.invalidVariable free)
  else do
    let tree ← Parse.parseWithin limit source.toList
    return ⟨source, free, tree, ← tree.build limit free⟩

/-- Compile a text. -/
def ofText (source : String) (free : String) : Except CompileError Compiled :=
  ofTextWithin (some depthLimit) source free

end Compiled

end Quadrature
