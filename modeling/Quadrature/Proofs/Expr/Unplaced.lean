/-
# Quadrature.Proofs.Expr.Unplaced -- derivations without positions

Where its words stand does not matter to a derivation. Without positions, derivations of the same
words are the same; and taking the positions away changes neither the depth of a derivation nor, but
for its own positions, the tree.

* `Expression.depth_eq`, `Expression.levels_eq`: derivations of the same words, wherever these
  stand, are equally deep, and so are their trees.
-/
import Quadrature.Proofs.Expr.Nesting
import Quadrature.Proofs.Expr.Reading
import Quadrature.Proofs.Expr.Regrouping

namespace Quadrature

set_option autoImplicit false

/-! ## Trees -/

namespace Expr

theorem isChained_unplaced (e : Expr) : e.unplaced.isChained = e.isChained := by
  cases e <;> rfl

mutual

theorem levels_unplaced : ∀ e : Expr, e.unplaced.levels = e.levels
  | .const value => rfl
  | .var name position => rfl
  | .unary op operand => by rw [unplaced, levels, levels, levels_unplaced operand]
  | .binary op left right => by
      rw [unplaced, levels, levels, isChained_unplaced, levels_unplaced left, levels_unplaced right]
  | .call name args position => by rw [unplaced, levels, levels, levelsAll_unplaced args]
  | .foreign typeName => rfl

theorem levelsAll_unplaced : ∀ args : List Expr, levelsAll (unplacedAll args) = levelsAll args
  | [] => rfl
  | arg :: args => by
      rw [unplacedAll, levelsAll, levelsAll, levels_unplaced arg, levelsAll_unplaced args]

end

end Expr

/-! ## Derivations -/

namespace Grammar

mutual

/-- The derivation with all its words at the start of the text. -/
def Expression.unplaced : Expression → Expression
  | .last t => .last t.unplaced
  | .more t op _ rest => .more t.unplaced op 0 rest.unplaced

def Term.unplaced : Term → Term
  | .last u => .last u.unplaced
  | .more u op _ rest => .more u.unplaced op 0 rest.unplaced

def Unary.unplaced : Unary → Unary
  | .signed op _ operand => .signed op 0 operand.unplaced
  | .power p => .power p.unplaced

def Power.unplaced : Power → Power
  | .plain base => .plain base.unplaced
  | .raised base _ exponent => .raised base.unplaced 0 exponent.unplaced

def Primary.unplaced : Primary → Primary
  | .number text _ => .number text 0
  | .name text _ => .name text 0
  | .call text _ _ args _ => .call text 0 0 args.unplaced 0
  | .group _ inner _ => .group 0 inner.unplaced 0

def Args.unplaced : Args → Args
  | .last e => .last e.unplaced
  | .more e _ rest => .more e.unplaced 0 rest.unplaced

end

mutual

theorem Expression.words_unplaced : ∀ e : Expression,
    e.unplaced.words = e.lexemes.map (Token.mk · 0)
  | .last t => t.words_unplaced
  | .more t op pos rest => by
      simp [Expression.unplaced, Expression.words, t.words_unplaced, rest.words_unplaced]

theorem Term.words_unplaced : ∀ t : Term, t.unplaced.words = t.lexemes.map (Token.mk · 0)
  | .last u => u.words_unplaced
  | .more u op pos rest => by
      simp [Term.unplaced, Term.words, u.words_unplaced, rest.words_unplaced]

theorem Unary.words_unplaced : ∀ u : Unary, u.unplaced.words = u.lexemes.map (Token.mk · 0)
  | .signed op pos operand => by
      simp [Unary.unplaced, Unary.words, operand.words_unplaced]
  | .power p => p.words_unplaced

theorem Power.words_unplaced : ∀ p : Power, p.unplaced.words = p.lexemes.map (Token.mk · 0)
  | .plain base => base.words_unplaced
  | .raised base pos exponent => by
      simp [Power.unplaced, Power.words, base.words_unplaced, exponent.words_unplaced]

theorem Primary.words_unplaced : ∀ b : Primary, b.unplaced.words = b.lexemes.map (Token.mk · 0)
  | .number text pos => rfl
  | .name text pos => rfl
  | .call text pos opening args closing => by
      simp [Primary.unplaced, Primary.words, args.words_unplaced]
  | .group opening inner closing => by
      simp [Primary.unplaced, Primary.words, inner.words_unplaced]

theorem Args.words_unplaced : ∀ a : Args, a.unplaced.words = a.lexemes.map (Token.mk · 0)
  | .last e => e.words_unplaced
  | .more e comma rest => by
      simp [Args.unplaced, Args.words, e.words_unplaced, rest.words_unplaced]

end

mutual

theorem Expression.depth_unplaced : ∀ e : Expression, e.unplaced.depth = e.depth
  | .last t => t.depth_unplaced
  | .more t op pos rest => by
      rw [Expression.unplaced, Expression.depth, Expression.depth, t.depth_unplaced,
        rest.depth_unplaced]

theorem Term.depth_unplaced : ∀ t : Term, t.unplaced.depth = t.depth
  | .last u => u.depth_unplaced
  | .more u op pos rest => by
      rw [Term.unplaced, Term.depth, Term.depth, u.depth_unplaced, rest.depth_unplaced]

theorem Unary.depth_unplaced : ∀ u : Unary, u.unplaced.depth = u.depth
  | .signed op pos operand => by
      rw [Unary.unplaced, Unary.depth, Unary.depth, operand.depth_unplaced]
  | .power p => p.depth_unplaced

theorem Power.depth_unplaced : ∀ p : Power, p.unplaced.depth = p.depth
  | .plain base => base.depth_unplaced
  | .raised base pos exponent => by
      rw [Power.unplaced, Power.depth, Power.depth, base.depth_unplaced, exponent.depth_unplaced]
      rfl

theorem Primary.depth_unplaced : ∀ b : Primary, b.unplaced.depth = b.depth
  | .number text pos => rfl
  | .name text pos => rfl
  | .call text pos opening args closing => by
      rw [Primary.unplaced, Primary.depth, Primary.depth, args.depth_unplaced]
      rfl
  | .group opening inner closing => by
      rw [Primary.unplaced, Primary.depth, Primary.depth, inner.depth_unplaced]

theorem Args.depth_unplaced : ∀ a : Args, a.unplaced.depth = a.depth
  | .last e => e.depth_unplaced
  | .more e comma rest => by
      rw [Args.unplaced, Args.depth, Args.depth, e.depth_unplaced, rest.depth_unplaced]

end

/-- What waits for an operand without positions is what waits for it, without them. -/
def Drops (f g : Expr → Expr) : Prop := ∀ e : Expr, f e.unplaced = (g e).unplaced

theorem drops_id : Drops id id := fun _ => rfl

theorem drops_binary (op : Op) {left left' : Expr} (same : left = left'.unplaced) :
    Drops (.binary op left) (.binary op left') := by
  intro right
  rw [same, Expr.unplaced]

mutual

theorem Expression.under_unplaced {sum sum' product product' : Expr → Expr}
    (sums : Drops sum sum') (products : Drops product product') :
    ∀ e : Expression, e.unplaced.under sum product = (e.under sum' product').unplaced
  | .last t => by
      rw [Expression.unplaced, Expression.under, Expression.under, t.under_unplaced products, sums]
  | .more t op pos rest => by
      have left : sum (t.unplaced.under product) = (sum' (t.under product')).unplaced := by
        rw [t.under_unplaced products, sums]
      rw [Expression.unplaced, Expression.under, Expression.under,
        rest.under_unplaced (drops_binary op.op left) drops_id]

theorem Term.under_unplaced {product product' : Expr → Expr} (products : Drops product product') :
    ∀ t : Term, t.unplaced.under product = (t.under product').unplaced
  | .last u => by
      rw [Term.unplaced, Term.under, Term.under, u.tree_unplaced, products]
  | .more u op pos rest => by
      have left : product u.unplaced.tree = (product' u.tree).unplaced := by
        rw [u.tree_unplaced, products]
      rw [Term.unplaced, Term.under, Term.under, rest.under_unplaced (drops_binary op.op left)]

theorem Unary.tree_unplaced : ∀ u : Unary, u.unplaced.tree = u.tree.unplaced
  | .signed op pos operand => by
      rw [Unary.unplaced, Unary.tree, Unary.tree, operand.tree_unplaced, Expr.unplaced]
  | .power p => p.tree_unplaced

theorem Power.tree_unplaced : ∀ p : Power, p.unplaced.tree = p.tree.unplaced
  | .plain base => base.tree_unplaced
  | .raised base pos exponent => by
      rw [Power.unplaced, Power.tree, Power.tree, base.tree_unplaced, exponent.tree_unplaced,
        Expr.unplaced]

theorem Primary.tree_unplaced : ∀ b : Primary, b.unplaced.tree = b.tree.unplaced
  | .number text pos => rfl
  | .name text pos => rfl
  | .call text pos opening args closing => by
      rw [Primary.unplaced, Primary.tree, Primary.tree, args.trees_unplaced, Expr.unplaced]
      rfl
  | .group opening inner closing => inner.under_unplaced drops_id drops_id

theorem Args.trees_unplaced : ∀ a : Args, a.unplaced.trees = Expr.unplacedAll a.trees
  | .last e => by
      rw [Args.unplaced, Args.trees, Args.trees, e.under_unplaced drops_id drops_id,
        Expr.unplacedAll, Expr.unplacedAll]
  | .more e comma rest => by
      rw [Args.unplaced, Args.trees, Args.trees, e.under_unplaced drops_id drops_id,
        rest.trees_unplaced, Expr.unplacedAll]

end

/-! ## The same words -/

variable {e e' : Expression}

theorem Expression.unplaced_eq (same : e.lexemes = e'.lexemes) : e.unplaced = e'.unplaced :=
  Expression.unambiguous (by rw [e.words_unplaced, e'.words_unplaced, same])

theorem Expression.depth_eq (same : e.lexemes = e'.lexemes) : e.depth = e'.depth := by
  rw [← e.depth_unplaced, Expression.unplaced_eq same, e'.depth_unplaced]

theorem Expression.levels_eq (same : e.lexemes = e'.lexemes) :
    e.tree.levels = e'.tree.levels := by
  have tree (e : Expression) : e.unplaced.tree = e.tree.unplaced :=
    e.under_unplaced drops_id drops_id
  rw [← Expr.levels_unplaced e.tree, ← tree, Expression.unplaced_eq same, tree,
    Expr.levels_unplaced]

end Grammar

end Quadrature
