/-
# Quadrature.Proofs.Expr.Uses -- the names that an expression uses

A tree is refused for a name that is not known, or a function that does not take as many arguments.
The names and calls of a derivation are the same in its tree and in the tree that expansion of
powers groups otherwise, so either is refused if and only if the other is.

* `Expression.accepted_tree`, `Expression.accepted_regrouped`: both trees are accepted where all
  names are known;
* `interpret_desugared`: writing powers as calls changes no value.
-/
import Quadrature.Proofs.Expr.Interpretation
import Quadrature.Proofs.Expr.Focus

namespace Quadrature

set_option autoImplicit false

/-- A name that stands for a value, or is called with so many arguments. -/
inductive Use where
  | name (text : String)
  | call (text : String) (arguments : Nat)

/-- What the name stands for is known. -/
def Use.Known (free : String) : Use → Prop
  | .name text => text = free ∨ (Constant.named? text).isSome
  | .call text arguments => ∃ f, Builtin.named? text = some f ∧ arguments = f.arity

namespace Grammar

mutual

/-- The names of a derivation, in order. -/
def Expression.uses : Expression → List Use
  | .last t => t.uses
  | .more t _ _ rest => t.uses ++ rest.uses

def Term.uses : Term → List Use
  | .last u => u.uses
  | .more u _ _ rest => u.uses ++ rest.uses

def Unary.uses : Unary → List Use
  | .signed _ _ operand => operand.uses
  | .power p => p.uses

def Power.uses : Power → List Use
  | .plain base => base.uses
  | .raised base _ exponent => base.uses ++ exponent.uses

def Primary.uses : Primary → List Use
  | .number _ _ => []
  | .name text _ => [.name text]
  | .call text _ _ args _ => .call text args.count :: args.uses
  | .group _ inner _ => inner.uses

def Args.uses : Args → List Use
  | .last e => e.uses
  | .more e _ rest => e.uses ++ rest.uses

/-- How many arguments there are. -/
def Args.count : Args → Nat
  | .last _ => 1
  | .more _ _ rest => rest.count + 1

end

end Grammar

/-! ## Trees that are accepted -/

namespace Expr

open Grammar (Sign Factor)

variable {free : String}

/-- The tree is not refused. -/
def Accepted (free : String) (e : Expr) : Prop := check free e = .ok ()

theorem accepted_const (value : Float) : Accepted free (.const value) := by
  rw [Accepted, check]

theorem accepted_var (name : String) (position : Int) :
    Accepted free (.var name position) ↔ (Use.name name).Known free := by
  rw [Accepted, check, Use.Known]
  by_cases known : name = free ∨ (Constant.named? name).isSome
  · simp [known]
  · rw [if_neg known]
    split <;> simp [known]

theorem accepted_unary (op : Sign) (e : Expr) :
    Accepted free (.unary op.op e) ↔ Accepted free e := by
  rw [Accepted, Accepted, check]
  cases op <;> cases check free e <;> simp [Sign.op, bind, Except.bind]

theorem accepted_binary {op : Op} (known : ∀ symbol, op ≠ .other symbol) (left right : Expr) :
    Accepted free (.binary op left right) ↔ Accepted free left ∧ Accepted free right := by
  rw [Accepted, Accepted, Accepted, check]
  · cases check free left <;> simp [bind, Except.bind]
  · exact known

theorem accepted_sum (op : Sign) (left right : Expr) :
    Accepted free (.binary op.op left right) ↔ Accepted free left ∧ Accepted free right :=
  accepted_binary (by cases op <;> simp [Sign.op]) left right

theorem accepted_product (op : Factor) (left right : Expr) :
    Accepted free (.binary op.op left right) ↔ Accepted free left ∧ Accepted free right :=
  accepted_binary (by cases op <;> simp [Factor.op]) left right

theorem accepted_power (left right : Expr) :
    Accepted free (.binary .pow left right) ↔ Accepted free left ∧ Accepted free right :=
  accepted_binary (by simp) left right

theorem checkAll_eq_ok_iff (args : List Expr) :
    checkAll free args = .ok () ↔ ∀ arg ∈ args, Accepted free arg := by
  induction args with
  | nil => simp [checkAll]
  | cons arg args ih =>
      rw [checkAll, List.forall_mem_cons, ← ih, Accepted]
      cases check free arg <;> simp [bind, Except.bind]

theorem accepted_call (name : String) (args : List Expr) (position : Int) :
    Accepted free (.call name args position) ↔
      (Use.call name args.length).Known free ∧ ∀ arg ∈ args, Accepted free arg := by
  rw [Accepted, check, Use.Known]
  cases named : Builtin.named? name with
  | none => simp
  | some f =>
      by_cases fits : args.length = f.arity
      · simp [fits, checkAll_eq_ok_iff]
      · simp [fits]

theorem accepted_powerCall (base exponent : Expr) :
    Accepted free (powerCall base exponent) ↔ Accepted free base ∧ Accepted free exponent := by
  have known : (Use.call "pow" 2).Known free := ⟨.binary Function.power, rfl, rfl⟩
  rw [powerCall, accepted_call]
  simp [known]

end Expr

/-! ## Trees of derivations -/

namespace Grammar

open Quadrature.Expr

variable {free : String}

/-- All names are known. -/
def Known (free : String) (uses : List Use) : Prop := ∀ u ∈ uses, u.Known free

@[simp] theorem known_append (us vs : List Use) :
    Known free (us ++ vs) ↔ Known free us ∧ Known free vs := by
  simp only [Known, List.mem_append, or_imp, forall_and]

@[simp] theorem known_cons (u : Use) (us : List Use) :
    Known free (u :: us) ↔ u.Known free ∧ Known free us := by
  simp only [Known, List.forall_mem_cons]

/-- What waits for an operand is accepted with it, if `P` holds. -/
def Takes (free : String) (f : Expr → Expr) (P : Prop) : Prop :=
  ∀ e, Accepted free (f e) ↔ P ∧ Accepted free e

theorem takes_id : Takes free id True := by
  intro e
  simp

theorem Takes.sum {f : Expr → Expr} {P Q : Prop} {e : Expr} (takes : Takes free f P)
    (accepted : Accepted free e ↔ Q) (op : Sign) :
    Takes free (.binary op.op (f e)) (P ∧ Q) := by
  intro right
  rw [accepted_sum, takes, accepted]

theorem Takes.product {f : Expr → Expr} {P Q : Prop} {e : Expr} (takes : Takes free f P)
    (accepted : Accepted free e ↔ Q) (op : Factor) :
    Takes free (.binary op.op (f e)) (P ∧ Q) := by
  intro right
  rw [accepted_product, takes, accepted]

mutual

theorem Expression.accepted_under {sum product : Expr → Expr} {P Q : Prop}
    (sums : Takes free sum P) (products : Takes free product Q) :
    ∀ e : Expression, Accepted free (e.under sum product) ↔ P ∧ Q ∧ Known free e.uses
  | .last t => by
      rw [Expression.under, sums, t.accepted_under products, Expression.uses]
  | .more t op pos rest => by
      rw [Expression.under, rest.accepted_under (sums.sum (t.accepted_under products) op) takes_id,
        Expression.uses, known_append]
      simp only [true_and, and_assoc]

theorem Term.accepted_under {product : Expr → Expr} {Q : Prop} (products : Takes free product Q) :
    ∀ t : Term, Accepted free (t.under product) ↔ Q ∧ Known free t.uses
  | .last u => by rw [Term.under, products, u.accepted_tree, Term.uses]
  | .more u op pos rest => by
      rw [Term.under, rest.accepted_under (products.product u.accepted_tree op), Term.uses,
        known_append, and_assoc]

theorem Unary.accepted_tree : ∀ u : Unary, Accepted free u.tree ↔ Known free u.uses
  | .signed op pos operand => by
      rw [Unary.tree, accepted_unary, operand.accepted_tree, Unary.uses]
  | .power p => by rw [Unary.tree, p.accepted_tree, Unary.uses]

theorem Power.accepted_tree : ∀ p : Power, Accepted free p.tree ↔ Known free p.uses
  | .plain base => by rw [Power.tree, base.accepted_tree, Power.uses]
  | .raised base pos exponent => by
      rw [Power.tree, accepted_power, base.accepted_tree, exponent.accepted_tree, Power.uses,
        known_append]

theorem Primary.accepted_tree : ∀ b : Primary, Accepted free b.tree ↔ Known free b.uses
  | .number text pos => by simp [Primary.tree, accepted_const, Primary.uses, Known]
  | .name text pos => by simp [Primary.tree, accepted_var, Primary.uses, Known]
  | .call text pos opening args closing => by
      rw [Primary.tree, accepted_call, args.length_trees, args.accepted_trees, Primary.uses,
        known_cons]
  | .group opening inner closing => by
      rw [Primary.tree, inner.accepted_under takes_id takes_id, Primary.uses]
      simp only [true_and]

theorem Args.accepted_trees : ∀ a : Args,
    (∀ e ∈ a.trees, Accepted free e) ↔ Known free a.uses
  | .last e => by
      rw [Args.trees, List.forall_mem_singleton, e.accepted_under takes_id takes_id, Args.uses]
      simp only [true_and]
  | .more e comma rest => by
      rw [Args.trees, List.forall_mem_cons, e.accepted_under takes_id takes_id, rest.accepted_trees,
        Args.uses, known_append]
      simp only [true_and]

theorem Args.length_trees : ∀ a : Args, a.trees.length = a.count
  | .last e => rfl
  | .more e comma rest => by rw [Args.trees, List.length_cons, rest.length_trees, Args.count]

end

/-- The tree of a derivation is accepted where all its names are known. -/
theorem Expression.accepted_tree (e : Expression) : Accepted free e.tree ↔ Known free e.uses := by
  rw [Expression.tree, e.accepted_under takes_id takes_id]
  simp only [true_and]

/-! ## Regrouped trees -/

/-- Both parts of a chain are accepted. -/
def Grouping.Accepted (free : String) (g : Grouping) : Prop :=
  Expr.Accepted free g.head ∧ ∀ exponent ∈ g.rest, Expr.Accepted free exponent

theorem Grouping.accepted_value (g : Grouping) :
    Expr.Accepted free g.value ↔ g.Accepted free := by
  obtain ⟨head, rest⟩ := g
  cases rest with
  | none => simp [Grouping.value, Grouping.Accepted]
  | some exponent => simp [Grouping.value, Grouping.Accepted, accepted_powerCall]

theorem Grouping.accepted_signed (g : Grouping) (op : Sign) :
    (g.signed op.op).Accepted free ↔ g.Accepted free := by
  rw [Grouping.Accepted, Grouping.signed, accepted_unary, Grouping.Accepted]

theorem Grouping.accepted_raise (g : Grouping) (base : Expr) :
    (g.raise base).Accepted free ↔ Expr.Accepted free base ∧ g.Accepted free := by
  rw [Grouping.Accepted, Grouping.raise, accepted_powerCall, Grouping.Accepted, and_assoc]

mutual

theorem Expression.accepted_regroupedUnder {sum product : Expr → Expr} {P Q : Prop}
    (sums : Takes free sum P) (products : Takes free product Q) : ∀ e : Expression,
      Accepted free (e.regroupedUnder sum product) ↔ P ∧ Q ∧ Known free e.uses
  | .last t => by
      rw [Expression.regroupedUnder, sums, t.accepted_regroupedUnder products, Expression.uses]
  | .more t op pos rest => by
      rw [Expression.regroupedUnder, rest.accepted_regroupedUnder
        (sums.sum (t.accepted_regroupedUnder products) op) takes_id, Expression.uses, known_append]
      simp only [true_and, and_assoc]

theorem Term.accepted_regroupedUnder {product : Expr → Expr} {Q : Prop}
    (products : Takes free product Q) :
    ∀ t : Term, Accepted free (t.regroupedUnder product) ↔ Q ∧ Known free t.uses
  | .last u => by rw [Term.regroupedUnder, products, u.accepted_regrouped.1, Term.uses]
  | .more u op pos rest => by
      rw [Term.regroupedUnder,
        rest.accepted_regroupedUnder (products.product u.accepted_regrouped.1 op), Term.uses,
        known_append, and_assoc]

theorem Unary.accepted_regrouped : ∀ u : Unary,
    (Accepted free u.regrouped ↔ Known free u.uses) ∧
      (∀ g ∈ u.unsigned, g.Accepted free ↔ Known free u.uses) ∧
      ∀ g ∈ u.grouping, g.Accepted free ↔ Known free u.uses
  | .signed op pos operand => by
      obtain ⟨whole, unsigned, -⟩ := operand.accepted_regrouped
      refine ⟨?_, by simp [Unary.unsigned], fun g chain => ?_⟩
      · rw [Unary.regrouped, accepted_unary, whole, Unary.uses]
      · rw [Unary.grouping] at chain
        obtain ⟨g, inner, rfl⟩ := Option.map_eq_some_iff.1 chain
        rw [g.accepted_signed, unsigned g inner, Unary.uses]
  | .power p => by
      refine ⟨?_, fun g chain => ?_, fun g chain => ?_⟩
      · rw [Unary.regrouped, p.grouping.accepted_value, p.accepted_grouping, Unary.uses]
      · obtain rfl : p.grouping = g := by simpa [Unary.unsigned] using chain
        rw [p.accepted_grouping, Unary.uses]
      · obtain rfl : p.grouping = g := by simpa [Unary.grouping] using chain
        rw [p.accepted_grouping, Unary.uses]

theorem Power.accepted_grouping : ∀ p : Power,
    p.grouping.Accepted free ↔ Known free p.uses
  | .plain base => by
      simp [Power.grouping, Grouping.Accepted, base.accepted_regrouped, Power.uses]
  | .raised base pos exponent => by
      obtain ⟨whole, -, chains⟩ := exponent.accepted_regrouped
      rw [Power.grouping, Power.uses, known_append, ← base.accepted_regrouped]
      cases chain : exponent.grouping with
      | none => simp [Grouping.join, Grouping.Accepted, whole]
      | some g => rw [Grouping.join, g.accepted_raise, chains g chain]

theorem Primary.accepted_regrouped : ∀ b : Primary,
    Accepted free b.regrouped ↔ Known free b.uses
  | .number text pos => by simp [Primary.regrouped, accepted_const, Primary.uses, Known]
  | .name text pos => by simp [Primary.regrouped, accepted_var, Primary.uses, Known]
  | .call text pos opening args closing => by
      rw [Primary.regrouped, accepted_call, args.length_regrouped, args.accepted_regrouped,
        Primary.uses, known_cons]
  | .group opening inner closing => by
      rw [Primary.regrouped, inner.accepted_regroupedUnder takes_id takes_id, Primary.uses]
      simp only [true_and]

theorem Args.accepted_regrouped : ∀ a : Args,
    (∀ e ∈ a.regrouped, Accepted free e) ↔ Known free a.uses
  | .last e => by
      rw [Args.regrouped, List.forall_mem_singleton, e.accepted_regroupedUnder takes_id takes_id,
        Args.uses]
      simp only [true_and]
  | .more e comma rest => by
      rw [Args.regrouped, List.forall_mem_cons, e.accepted_regroupedUnder takes_id takes_id,
        rest.accepted_regrouped, Args.uses, known_append]
      simp only [true_and]

theorem Args.length_regrouped : ∀ a : Args, a.regrouped.length = a.count
  | .last e => rfl
  | .more e comma rest => by
      rw [Args.regrouped, List.length_cons, rest.length_regrouped, Args.count]

end

/-- However powers are grouped, the same names are asked for. -/
theorem Expression.accepted_regrouped (e : Expression) :
    Accepted free e.regrouped ↔ Accepted free e.tree := by
  rw [Expression.regrouped, e.accepted_regroupedUnder takes_id takes_id, e.accepted_tree]
  simp only [true_and]

end Grammar

/-! ## Values of other trees -/

namespace Expr

variable (free : String) (x : Float)

/-- A call of `pow` is a power. -/
theorem interpret_powerCall (base exponent : Expr) :
    interpret free x (powerCall base exponent) = interpret free x (.binary .pow base exponent) := by
  have named : Builtin.named? "pow" = some (.binary Function.power) := rfl
  rw [powerCall, interpret, interpret, named]
  simp only [interpretAll]
  cases interpret free x base with
  | error failure => rfl
  | ok a =>
      cases interpret free x exponent with
      | error failure => rfl
      | ok b => rfl

mutual

/-- Powers written as calls have their values. -/
theorem interpret_desugared : ∀ e : Expr, interpret free x e.desugared = interpret free x e
  | .const value => by rw [desugared]
  | .var name position => by rw [desugared]
  | .unary op operand => by
      rw [desugared, interpret, interpret, interpret_desugared operand]
  | .binary op left right => by
      cases op with
      | pow =>
          rw [desugared, interpret_powerCall, interpret, interpret, interpret_desugared left,
            interpret_desugared right]
      | _ =>
          rw [desugared, interpret, interpret, interpret_desugared left, interpret_desugared right]
          simp
  | .call name args position => by
      rw [desugared, interpret, interpret, interpretAll_desugared args]
  | .foreign typeName => by rw [desugared]

theorem interpretAll_desugared : ∀ args : List Expr,
    interpretAll free x (desugaredAll args) = interpretAll free x args
  | [] => by rw [desugaredAll]
  | arg :: args => by
      rw [desugaredAll, interpretAll, interpretAll, interpret_desugared arg,
        interpretAll_desugared args]

end

mutual

/-- No value depends on a position. -/
theorem interpret_unplaced : ∀ e : Expr, interpret free x e.unplaced = interpret free x e
  | .const value => by rw [unplaced]
  | .var name position => by rw [unplaced, interpret, interpret]
  | .unary op operand => by rw [unplaced, interpret, interpret, interpret_unplaced operand]
  | .binary op left right => by
      rw [unplaced, interpret, interpret, interpret_unplaced left, interpret_unplaced right]
  | .call name args position => by
      rw [unplaced, interpret, interpret, interpretAll_unplaced args]
  | .foreign typeName => by rw [unplaced]

theorem interpretAll_unplaced : ∀ args : List Expr,
    interpretAll free x (unplacedAll args) = interpretAll free x args
  | [] => by rw [unplacedAll]
  | arg :: args => by
      rw [unplacedAll, interpretAll, interpretAll, interpret_unplaced arg,
        interpretAll_unplaced args]

end

end Expr

end Quadrature
