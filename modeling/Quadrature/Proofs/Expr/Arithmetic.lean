/-
# Quadrature.Proofs.Expr.Arithmetic -- what the value of an expression can fail with

An expression has no value where a function leaves its domain or its range, or where something is
divided by zero (`Failure.Arithmetic`). Nothing else can go wrong while it is evaluated: names and
numbers of arguments are settled when it is compiled.

* `Expr.arithmetic_interpret`: by recursion on the tree;
* `Compiled.arithmetic_evaluate`: for the function that a text is compiled to.
-/
import Quadrature.Proofs.Caret.Preservation
import Quadrature.Proofs.Failure

namespace Quadrature

set_option autoImplicit false

variable {α : Type}

/-- The failure is one of arithmetic. -/
inductive Failure.Arithmetic : Failure → Prop where
  | domain : Arithmetic .domain
  | range : Arithmetic .range
  | zeroDivision : Arithmetic .zeroDivision

/-- The computation can fail only in its arithmetic. -/
def Arithmetical : Except Failure α → Prop := FailsOnly Failure.Arithmetic

/-! ## Functions and operators -/

namespace Function

theorem arithmetical_checked (overflows : Bool) (f : Float → Float) (x : Float) :
    Arithmetical (checked overflows f x) := by
  unfold checked
  dsimp only
  split
  · exact .error .domain
  · split
    · cases overflows
      · exact .error .domain
      · exact .error .range
    · exact .ok _

theorem arithmetical_power (x y : Float) : Arithmetical (power x y) := by
  unfold power
  dsimp only
  repeat' split
  all_goals first
    | exact .ok _
    | exact .error .domain
    | exact .error .range

theorem arithmetical_divide (a b : Float) : Arithmetical (divide a b) := by
  unfold divide
  split
  · exact .error .zeroDivision
  · exact .ok _

end Function

theorem Op.arithmetical_apply (op : Op) (a b : Float) : Arithmetical (op.apply a b) := by
  cases op with
  | div => exact Function.arithmetical_divide a b
  | pow => exact Function.arithmetical_power a b
  | add | sub | mul | other => exact .ok _

namespace Builtin

/-- The function reports when it leaves its domain or its range. -/
def IsChecked : Builtin → Prop
  | .unary f => ∃ overflows g, f = Function.checked overflows g
  | .binary f => f = Function.power

theorem isChecked_table : ∀ entry ∈ table, entry.2.IsChecked := by
  have unary (overflows : Bool) (g : Float → Float) :
      (Builtin.unary (Function.checked overflows g)).IsChecked := ⟨overflows, g, rfl⟩
  have power : (Builtin.binary Function.power).IsChecked := rfl
  simp [table, bounded, unbounded, unary, power]

theorem arithmetical_apply {name : String} {f : Builtin} (known : named? name = some f)
    (values : List Float) : Arithmetical (f.apply values) := by
  obtain ⟨entry, found, rfl⟩ := Option.map_eq_some_iff.1 known
  have checked := isChecked_table entry (List.mem_of_find?_eq_some found)
  cases function : entry.2 with
  | unary g =>
      rw [function] at checked
      obtain ⟨overflows, h, rfl⟩ := checked
      match values with
      | [a] => exact Function.arithmetical_checked overflows h a
      | [] | _ :: _ :: _ => exact .ok _
  | binary g =>
      rw [function] at checked
      obtain rfl : g = Function.power := checked
      match values with
      | [a, b] => exact Function.arithmetical_power a b
      | [] | [_] | _ :: _ :: _ :: _ => exact .ok _

end Builtin

/-! ## Trees -/

namespace Expr

mutual

theorem arithmetic_interpret (free : String) (x : Float) :
    ∀ e : Expr, Arithmetical (interpret free x e)
  | .const value => by
      rw [interpret]
      exact .ok value
  | .var name position => by
      rw [interpret]
      exact .ok _
  | .unary op operand => by
      rw [interpret]
      exact .bind (arithmetic_interpret free x operand) fun a => .ok _
  | .binary op left right => by
      rw [interpret]
      refine .bind (arithmetic_interpret free x left) fun a => ?_
      exact .bind (arithmetic_interpret free x right) fun b => op.arithmetical_apply a b
  | .call name args position => by
      rw [interpret]
      refine .bind (arithmetic_interpretAll free x args) fun values => ?_
      cases known : Builtin.named? name with
      | some f => exact Builtin.arithmetical_apply known values
      | none => exact .ok _
  | .foreign typeName => by
      rw [interpret]
      exact .ok _

theorem arithmetic_interpretAll (free : String) (x : Float) :
    ∀ args : List Expr, Arithmetical (interpretAll free x args)
  | [] => by
      rw [interpretAll]
      exact .ok _
  | arg :: args => by
      rw [interpretAll]
      refine .bind (arithmetic_interpret free x arg) fun a => ?_
      exact .bind (arithmetic_interpretAll free x args) fun values => .ok _

end

end Expr

/-- A compiled function fails only in its arithmetic. -/
theorem Compiled.arithmetic_evaluate {source free : String} {f : Compiled}
    (compiled : ofText source free = .ok f) (x : Float) : Arithmetical (f.evaluate x) := by
  obtain ⟨-, t, -, -, values⟩ := of_compiled compiled
  rw [values]
  exact t.arithmetic_interpret free x

end Quadrature
