/-
# Quadrature.Proofs.Expr.Regrouping -- how expansion groups powers

Powers are written as calls from the right. A caret before two or more signs has no exponent that
could be cut out, so it stays, and the powers to its left take what stands between the carets as
their exponent: `a^b^--c` becomes `(a^b)^--c`.

`regrouped` is what a derivation denotes when it is read like that, with calls for powers and
without positions. `Grouping` holds the two parts of a chain of powers: what becomes one operand,
and the exponent behind a caret that stays.

* `Expression.regrouped_eq`: where no such caret ends a longer chain, this is the tree of the
  derivation with every power written as a call;
* `Expression.exists_words`: the words of a derivation may be moved to other positions.
-/
import Quadrature.Proofs.Expr.Grammar

namespace Quadrature

set_option autoImplicit false

namespace Expr

/-- The power of two operands, written as a call. -/
def powerCall (base exponent : Expr) : Expr := .call "pow" [base, exponent] 0

mutual

/-- The tree with every power, at every depth, replaced by a call. -/
def desugared : Expr → Expr
  | .const value => .const value
  | .var name position => .var name position
  | .unary op operand => .unary op operand.desugared
  | .binary .pow left right => powerCall left.desugared right.desugared
  | .binary op left right => .binary op left.desugared right.desugared
  | .call name args position => .call name (desugaredAll args) position
  | .foreign typeName => .foreign typeName

def desugaredAll : List Expr → List Expr
  | [] => []
  | arg :: args => arg.desugared :: desugaredAll args

end

mutual

/-- The tree without its positions. -/
def unplaced : Expr → Expr
  | .const value => .const value
  | .var name _ => .var name 0
  | .unary op operand => .unary op operand.unplaced
  | .binary op left right => .binary op left.unplaced right.unplaced
  | .call name args _ => .call name (unplacedAll args) 0
  | .foreign typeName => .foreign typeName

def unplacedAll : List Expr → List Expr
  | [] => []
  | arg :: args => arg.unplaced :: unplacedAll args

end

end Expr

namespace Grammar

open Quadrature.Number
open Quadrature.Expr (powerCall)

/-- A chain of powers as expansion groups it. -/
structure Grouping where
  /-- What becomes one operand. -/
  head : Expr
  /-- The exponent behind a caret that stays. -/
  rest : Option Expr

def Grouping.value : Grouping → Expr
  | ⟨head, none⟩ => head
  | ⟨head, some exponent⟩ => powerCall head exponent

/-- The chain whose first operand has a sign. -/
def Grouping.signed (op : Op) (g : Grouping) : Grouping := ⟨.unary op g.head, g.rest⟩

/-- The chain behind one more base. -/
def Grouping.raise (base : Expr) (g : Grouping) : Grouping := ⟨powerCall base g.head, g.rest⟩

/-- The chain of a base and an exponent, which may make a chain itself. -/
def Grouping.join (base exponent : Expr) : Option Grouping → Grouping
  | some g => g.raise base
  | none => ⟨base, some exponent⟩

mutual

def Expression.regroupedUnder (sum product : Expr → Expr) : Expression → Expr
  | .last t => sum (t.regroupedUnder product)
  | .more t op _ rest => rest.regroupedUnder (.binary op.op (sum (t.regroupedUnder product))) id

def Term.regroupedUnder (product : Expr → Expr) : Term → Expr
  | .last u => product u.regrouped
  | .more u op _ rest => rest.regroupedUnder (.binary op.op (product u.regrouped))

def Unary.regrouped : Unary → Expr
  | .signed op _ operand => .unary op.op operand.regrouped
  | .power p => p.grouping.value

/-- The chain of a unary without a sign. -/
def Unary.unsigned : Unary → Option Grouping
  | .signed _ _ _ => none
  | .power p => some p.grouping

/-- The chain that a unary makes as an exponent; none behind two signs. -/
def Unary.grouping : Unary → Option Grouping
  | .signed op _ operand => operand.unsigned.map (Grouping.signed op.op)
  | .power p => some p.grouping

def Power.grouping : Power → Grouping
  | .plain base => ⟨base.regrouped, none⟩
  | .raised base _ exponent => .join base.regrouped exponent.regrouped exponent.grouping

def Primary.regrouped : Primary → Expr
  | .number text _ => .const ((Numeral.read? text.toList).getD 0)
  | .name text _ => .var text 0
  | .call text _ _ args _ => .call text args.regrouped 0
  | .group _ inner _ => inner.regroupedUnder id id

def Args.regrouped : Args → List Expr
  | .last e => [e.regroupedUnder id id]
  | .more e _ rest => e.regroupedUnder id id :: rest.regrouped

end

/-- What an expression denotes as expansion groups it. -/
def Expression.regrouped (e : Expression) : Expr := e.regroupedUnder id id

/-! ## Exponents -/

mutual

/-- The exponents of the powers of a derivation, at every depth. -/
def Expression.exponents : Expression → List Unary
  | .last t => t.exponents
  | .more t _ _ rest => t.exponents ++ rest.exponents

def Term.exponents : Term → List Unary
  | .last u => u.exponents
  | .more u _ _ rest => u.exponents ++ rest.exponents

def Unary.exponents : Unary → List Unary
  | .signed _ _ operand => operand.exponents
  | .power p => p.exponents

def Power.exponents : Power → List Unary
  | .plain base => base.exponents
  | .raised base _ exponent => base.exponents ++ exponent :: exponent.exponents

def Primary.exponents : Primary → List Unary
  | .number _ _ | .name _ _ => []
  | .call _ _ _ args _ => args.exponents
  | .group _ inner _ => inner.exponents

def Args.exponents : Args → List Unary
  | .last e => e.exponents
  | .more e _ rest => e.exponents ++ rest.exponents

end

/-- A chain of powers that ends at the unary, or is cut right before it. -/
def Unary.Whole (u : Unary) : Prop := ∀ g ∈ u.grouping, g.rest = none

/-- The map forgets positions, and keeps every node but powers. -/
structure Forgets (f : Expr → Expr) : Prop where
  const : ∀ value, f (.const value) = .const value
  var : ∀ name position, f (.var name position) = .var name 0
  unary : ∀ (op : Sign) e, f (.unary op.op e) = .unary op.op (f e)
  sum : ∀ (op : Sign) left right, f (.binary op.op left right) = .binary op.op (f left) (f right)
  product : ∀ (op : Factor) left right,
    f (.binary op.op left right) = .binary op.op (f left) (f right)
  call : ∀ name args position, f (.call name args position) = .call name (args.map f) 0

/-- The map writes powers as calls. -/
def CallsPowers (f : Expr → Expr) : Prop :=
  ∀ base exponent, f (.binary .pow base exponent) = powerCall (f base) (f exponent)

theorem unplacedAll_eq_map (args : List Expr) : Expr.unplacedAll args = args.map Expr.unplaced := by
  induction args with
  | nil => rw [Expr.unplacedAll, List.map_nil]
  | cons arg args ih => rw [Expr.unplacedAll, List.map_cons, ih]

theorem desugaredAll_eq_map (args : List Expr) :
    Expr.desugaredAll args = args.map Expr.desugared := by
  induction args with
  | nil => rw [Expr.desugaredAll, List.map_nil]
  | cons arg args ih => rw [Expr.desugaredAll, List.map_cons, ih]

theorem forgets_unplaced : Forgets Expr.unplaced where
  const value := by rw [Expr.unplaced]
  var name position := by rw [Expr.unplaced]
  unary op e := by rw [Expr.unplaced]
  sum op left right := by rw [Expr.unplaced]
  product op left right := by rw [Expr.unplaced]
  call name args position := by rw [Expr.unplaced, unplacedAll_eq_map]

/-- The tree with calls for powers, without positions. -/
def plain (e : Expr) : Expr := e.desugared.unplaced

theorem forgets_plain : Forgets plain where
  const value := by rw [plain, Expr.desugared, Expr.unplaced]
  var name position := by rw [plain, Expr.desugared, Expr.unplaced]
  unary op e := by rw [plain, plain, Expr.desugared, Expr.unplaced]
  sum op left right := by cases op <;> simp [plain, Sign.op, Expr.desugared, Expr.unplaced]
  product op left right := by cases op <;> simp [plain, Factor.op, Expr.desugared, Expr.unplaced]
  call name args position := by
    rw [plain, Expr.desugared, Expr.unplaced, unplacedAll_eq_map, desugaredAll_eq_map, List.map_map]
    rfl

theorem callsPowers_plain : CallsPowers plain := by
  intro base exponent
  simp only [plain, Expr.desugared, powerCall, Expr.unplaced, Expr.unplacedAll]

theorem Grouping.value_signed {g : Grouping} (op : Op) (whole : g.rest = none) :
    (g.signed op).value = .unary op g.value := by
  obtain ⟨head, rest⟩ := g
  subst whole
  rfl

theorem Grouping.value_raise {g : Grouping} (base : Expr) (whole : g.rest = none) :
    (g.raise base).value = powerCall base g.value := by
  obtain ⟨head, rest⟩ := g
  subst whole
  rfl

/-- What an exponent denotes is its chain, if that is whole. -/
theorem Unary.regrouped_eq_value {u : Unary} {g : Grouping} (some : u.grouping = some g)
    (whole : g.rest = none) : u.regrouped = g.value := by
  match u with
  | .power p =>
      obtain rfl : p.grouping = g := by simpa [Unary.grouping] using some
      rw [Unary.regrouped]
  | .signed op pos (.power p) =>
      obtain rfl : p.grouping.signed op.op = g := by
        simpa [Unary.grouping, Unary.unsigned] using some
      have ends : p.grouping.rest = none := whole
      rw [Unary.regrouped, Unary.regrouped, Grouping.value_signed _ ends]
  | .signed op pos (.signed op' pos' u) => simp [Unary.grouping, Unary.unsigned] at some

mutual

/-- A chain of powers whose exponents all make chains is whole. -/
theorem Power.rest_grouping : ∀ p : Power, (∀ u ∈ p.exponents, u.grouping ≠ none) →
    p.grouping.rest = none
  | .plain base, chains => by rw [Power.grouping]
  | .raised base pos exponent, chains => by
      simp only [Power.exponents, List.mem_append, List.mem_cons] at chains
      obtain ⟨g, chain⟩ := Option.ne_none_iff_exists'.1 (chains exponent (.inr (.inl rfl)))
      rw [Power.grouping, chain]
      exact exponent.whole (fun u member => chains u (.inr (.inr member))) g chain

theorem Unary.whole : ∀ u : Unary, (∀ v ∈ u.exponents, v.grouping ≠ none) → u.Whole
  | .power p, chains => by
      intro g some
      obtain rfl : p.grouping = g := by simpa [Unary.grouping] using some
      exact p.rest_grouping chains
  | .signed op pos (.power p), chains => by
      intro g some
      obtain rfl : p.grouping.signed op.op = g := by
        simpa [Unary.grouping, Unary.unsigned] using some
      exact p.rest_grouping chains
  | .signed op pos (.signed op' pos' u), chains => by
      intro g some
      simp [Unary.grouping, Unary.unsigned] at some

end

section Readings

variable {f : Expr → Expr}

/-- The exponent ends its chain, and the map writes its power as a call. -/
def Readable (f : Expr → Expr) (u : Unary) : Prop := u.Whole ∧ CallsPowers f

theorem apply_id (f : Expr → Expr) (e : Expr) : f (id e) = id (f e) := rfl

mutual

theorem Expression.regroupedUnder_eq (forgets : Forgets f) {sum product sum' product' : Expr → Expr}
    (sums : ∀ e, f (sum e) = sum' (f e)) (products : ∀ e, f (product e) = product' (f e)) :
    ∀ e : Expression, (∀ u ∈ e.exponents, Readable f u) →
      e.regroupedUnder sum' product' = f (e.under sum product)
  | .last t, readable => by
      rw [Expression.regroupedUnder, Expression.under, sums,
        t.regroupedUnder_eq forgets products fun u member => readable u member]
  | .more t op pos rest, readable => by
      simp only [Expression.exponents, List.mem_append] at readable
      rw [Expression.regroupedUnder, Expression.under]
      refine rest.regroupedUnder_eq forgets (fun e => ?_) (apply_id f)
        fun u member => readable u (.inr member)
      rw [forgets.sum, sums,
        t.regroupedUnder_eq forgets products fun u member => readable u (.inl member)]

theorem Term.regroupedUnder_eq (forgets : Forgets f) {product product' : Expr → Expr}
    (products : ∀ e, f (product e) = product' (f e)) :
    ∀ t : Term, (∀ u ∈ t.exponents, Readable f u) →
      t.regroupedUnder product' = f (t.under product)
  | .last u, readable => by
      rw [Term.regroupedUnder, Term.under, products, u.regrouped_eq forgets readable]
  | .more u op pos rest, readable => by
      simp only [Term.exponents, List.mem_append] at readable
      rw [Term.regroupedUnder, Term.under]
      refine rest.regroupedUnder_eq forgets (fun e => ?_) fun u member => readable u (.inr member)
      rw [forgets.product, products,
        u.regrouped_eq forgets fun u member => readable u (.inl member)]

theorem Unary.regrouped_eq (forgets : Forgets f) : ∀ u : Unary, (∀ v ∈ u.exponents, Readable f v) →
    u.regrouped = f u.tree
  | .signed op pos operand, readable => by
      rw [Unary.regrouped, Unary.tree, forgets.unary, operand.regrouped_eq forgets readable]
  | .power p, readable => by rw [Unary.regrouped, Unary.tree, p.value_grouping forgets readable]

theorem Power.value_grouping (forgets : Forgets f) : ∀ p : Power,
    (∀ u ∈ p.exponents, Readable f u) → p.grouping.value = f p.tree
  | .plain base, readable => by
      rw [Power.grouping, Power.tree, Grouping.value, base.regrouped_eq forgets readable]
  | .raised base pos exponent, readable => by
      simp only [Power.exponents, List.mem_append, List.mem_cons] at readable
      have left := base.regrouped_eq forgets fun u member => readable u (.inl member)
      have right := exponent.regrouped_eq forgets fun u member => readable u (.inr (.inr member))
      obtain ⟨whole, calls⟩ := readable exponent (.inr (.inl rfl))
      rw [Power.grouping, Power.tree, calls, ← left, ← right]
      cases chain : exponent.grouping with
      | none => rfl
      | some g =>
          rw [Unary.regrouped_eq_value chain (whole g chain)]
          exact Grouping.value_raise _ (whole g chain)

theorem Primary.regrouped_eq (forgets : Forgets f) : ∀ b : Primary,
    (∀ u ∈ b.exponents, Readable f u) → b.regrouped = f b.tree
  | .number text pos, readable => by rw [Primary.regrouped, Primary.tree, forgets.const]
  | .name text pos, readable => by rw [Primary.regrouped, Primary.tree, forgets.var]
  | .call text pos opening args closing, readable => by
      rw [Primary.regrouped, Primary.tree, forgets.call, args.regrouped_eq forgets readable]
  | .group opening inner closing, readable => by
      rw [Primary.regrouped, Primary.tree]
      exact inner.regroupedUnder_eq forgets (apply_id f) (apply_id f) readable

theorem Args.regrouped_eq (forgets : Forgets f) : ∀ a : Args, (∀ u ∈ a.exponents, Readable f u) →
    a.regrouped = a.trees.map f
  | .last e, readable => by
      have same := e.regroupedUnder_eq forgets (apply_id f) (apply_id f) readable
      rw [Args.regrouped, Args.trees, same, List.map_singleton]
  | .more e comma rest, readable => by
      simp only [Args.exponents, List.mem_append] at readable
      rw [Args.regrouped, Args.trees, List.map_cons,
        rest.regrouped_eq forgets fun u member => readable u (.inr member),
        e.regroupedUnder_eq forgets (apply_id f) (apply_id f) fun u member =>
          readable u (.inl member)]

end

end Readings

/-- Where no chain of powers is cut, regrouping is writing every power as a call. -/
theorem Expression.regrouped_eq {e : Expression} (whole : ∀ u ∈ e.exponents, u.Whole) :
    e.regrouped = e.tree.desugared.unplaced :=
  e.regroupedUnder_eq forgets_plain (apply_id plain) (apply_id plain) fun u member =>
    ⟨whole u member, callsPowers_plain⟩

/-- Without powers, regrouping forgets positions. -/
theorem Expression.regrouped_eq_unplaced {e : Expression} (none : e.exponents = []) :
    e.regrouped = e.tree.unplaced :=
  e.regroupedUnder_eq forgets_unplaced (apply_id Expr.unplaced) (apply_id Expr.unplaced)
    (by simp [none])

/-! ## Words without their positions -/

def Expression.lexemes (e : Expression) : List Lexeme := e.words.map Token.lexeme
def Term.lexemes (t : Term) : List Lexeme := t.words.map Token.lexeme
def Unary.lexemes (u : Unary) : List Lexeme := u.words.map Token.lexeme
def Power.lexemes (p : Power) : List Lexeme := p.words.map Token.lexeme
def Primary.lexemes (b : Primary) : List Lexeme := b.words.map Token.lexeme
def Args.lexemes (a : Args) : List Lexeme := a.words.map Token.lexeme

section Lexemes

@[simp] theorem Expression.lexemes_last (t : Term) : (Expression.last t).lexemes = t.lexemes := rfl

@[simp] theorem Expression.lexemes_more (t : Term) (op : Sign) (pos : Nat) (rest : Expression) :
    (Expression.more t op pos rest).lexemes = t.lexemes ++ op.lexeme :: rest.lexemes := by
  simp [Expression.lexemes, Expression.words, Term.lexemes]

@[simp] theorem Term.lexemes_last (u : Unary) : (Term.last u).lexemes = u.lexemes := rfl

@[simp] theorem Term.lexemes_more (u : Unary) (op : Factor) (pos : Nat) (rest : Term) :
    (Term.more u op pos rest).lexemes = u.lexemes ++ op.lexeme :: rest.lexemes := by
  simp [Term.lexemes, Term.words, Unary.lexemes]

@[simp] theorem Unary.lexemes_signed (op : Sign) (pos : Nat) (u : Unary) :
    (Unary.signed op pos u).lexemes = op.lexeme :: u.lexemes := rfl

@[simp] theorem Unary.lexemes_power (p : Power) : (Unary.power p).lexemes = p.lexemes := rfl

@[simp] theorem Power.lexemes_plain (b : Primary) : (Power.plain b).lexemes = b.lexemes := rfl

@[simp] theorem Power.lexemes_raised (b : Primary) (pos : Nat) (u : Unary) :
    (Power.raised b pos u).lexemes = b.lexemes ++ .caret :: u.lexemes := by
  simp [Power.lexemes, Power.words, Primary.lexemes, Unary.lexemes]

@[simp] theorem Primary.lexemes_number (text : String) (pos : Nat) :
    (Primary.number text pos).lexemes = [.number text] := rfl

@[simp] theorem Primary.lexemes_name (text : String) (pos : Nat) :
    (Primary.name text pos).lexemes = [.name text] := rfl

@[simp] theorem Primary.lexemes_call (text : String) (pos opening : Nat) (args : Args)
    (closing : Nat) : (Primary.call text pos opening args closing).lexemes =
      .name text :: .opening :: (args.lexemes ++ [.closing]) := by
  simp [Primary.lexemes, Primary.words, Args.lexemes]

@[simp] theorem Primary.lexemes_group (opening : Nat) (inner : Expression) (closing : Nat) :
    (Primary.group opening inner closing).lexemes =
      .opening :: (inner.lexemes ++ [.closing]) := by
  simp [Primary.lexemes, Primary.words, Expression.lexemes]

@[simp] theorem Args.lexemes_last (e : Expression) : (Args.last e).lexemes = e.lexemes := rfl

@[simp] theorem Args.lexemes_more (e : Expression) (comma : Nat) (rest : Args) :
    (Args.more e comma rest).lexemes = e.lexemes ++ .comma :: rest.lexemes := by
  simp [Args.lexemes, Args.words, Expression.lexemes]

end Lexemes

/-- The words hold the unary behind a caret. -/
def Raises (u : Unary) (words : List Lexeme) : Prop :=
  ∃ a b, words = a ++ .caret :: (u.lexemes ++ b)

theorem Raises.left {u : Unary} {words : List Lexeme} (raises : Raises u words)
    (more : List Lexeme) : Raises u (words ++ more) := by
  obtain ⟨a, b, rfl⟩ := raises
  exact ⟨a, b ++ more, by simp⟩

theorem Raises.right {u : Unary} {words : List Lexeme} (raises : Raises u words)
    (more : List Lexeme) : Raises u (more ++ words) := by
  obtain ⟨a, b, rfl⟩ := raises
  exact ⟨more ++ a, b, by simp⟩

theorem Raises.cons {u : Unary} {words : List Lexeme} (raises : Raises u words) (w : Lexeme) :
    Raises u (w :: words) := raises.right [w]

theorem Raises.trans {u v : Unary} {words : List Lexeme} (inner : Raises v u.lexemes)
    (outer : Raises u words) : Raises v words := by
  obtain ⟨a, b, rfl⟩ := outer
  exact ((inner.left b).cons .caret).right a

mutual

/-- Every exponent stands behind a caret. -/
theorem Expression.raises : ∀ (e : Expression), ∀ u ∈ e.exponents, Raises u e.lexemes
  | .last t, u, member => t.raises u member
  | .more t op pos rest, u, member => by
      rw [Expression.lexemes_more]
      rcases List.mem_append.1 member with first | after
      · exact (t.raises u first).left _
      · exact ((rest.raises u after).cons _).right _

theorem Term.raises : ∀ (t : Term), ∀ u ∈ t.exponents, Raises u t.lexemes
  | .last v, u, member => v.raises u member
  | .more v op pos rest, u, member => by
      rw [Term.lexemes_more]
      rcases List.mem_append.1 member with first | after
      · exact (v.raises u first).left _
      · exact ((rest.raises u after).cons _).right _

theorem Unary.raises : ∀ (v : Unary), ∀ u ∈ v.exponents, Raises u v.lexemes
  | .signed op pos operand, u, member => (operand.raises u member).cons _
  | .power p, u, member => p.raises u member

theorem Power.raises : ∀ (p : Power), ∀ u ∈ p.exponents, Raises u p.lexemes
  | .plain base, u, member => base.raises u member
  | .raised base pos exponent, u, member => by
      rw [Power.lexemes_raised]
      rcases List.mem_append.1 member with first | after
      · exact (base.raises u first).left _
      · rcases List.mem_cons.1 after with rfl | inside
        · exact ⟨base.lexemes, [], by simp⟩
        · exact ((exponent.raises u inside).cons _).right _

theorem Primary.raises : ∀ (b : Primary), ∀ u ∈ b.exponents, Raises u b.lexemes
  | .number text pos, u, member => by simp [Primary.exponents] at member
  | .name text pos, u, member => by simp [Primary.exponents] at member
  | .call text pos opening args closing, u, member => by
      rw [Primary.lexemes_call]
      exact (((args.raises u member).left _).cons _).cons _
  | .group opening inner closing, u, member => by
      rw [Primary.lexemes_group]
      exact ((inner.raises u member).left _).cons _

theorem Args.raises : ∀ (a : Args), ∀ u ∈ a.exponents, Raises u a.lexemes
  | .last e, u, member => e.raises u member
  | .more e comma rest, u, member => by
      rw [Args.lexemes_more]
      rcases List.mem_append.1 member with first | after
      · exact (e.raises u first).left _
      · exact ((rest.raises u after).cons _).right _

end

/-! ## Other positions -/

/-- Words that split without their positions split with them. -/
theorem map_lexeme_eq_append_cons {ts : List Token} {a b : List Lexeme} {w : Lexeme}
    (same : ts.map Token.lexeme = a ++ w :: b) : ∃ (ts₁ ts₂ : List Token) (pos : Nat),
      ts = ts₁ ++ ⟨w, pos⟩ :: ts₂ ∧ ts₁.map Token.lexeme = a ∧ ts₂.map Token.lexeme = b := by
  obtain ⟨ts₁, rest, rfl, first, after⟩ := List.map_eq_append_iff.1 same
  obtain ⟨⟨_, pos⟩, ts₂, rfl, rfl, last⟩ := List.map_eq_cons_iff.1 after
  exact ⟨ts₁, ts₂, pos, rfl, first, last⟩

mutual

/-- The words of a derivation may stand at other positions. -/
theorem Expression.exists_words : ∀ (e : Expression) {ts : List Token},
    ts.map Token.lexeme = e.lexemes →
      ∃ e' : Expression, e'.words = ts ∧
        ∀ sum product, e'.regroupedUnder sum product = e.regroupedUnder sum product
  | .last t, ts, same => by
      obtain ⟨t', rfl, regrouped⟩ := t.exists_words same
      refine ⟨.last t', rfl, fun sum product => ?_⟩
      rw [Expression.regroupedUnder, Expression.regroupedUnder, regrouped]
  | .more t op pos rest, ts, same => by
      obtain ⟨ts₁, ts₂, pos', rfl, first, after⟩ :=
        map_lexeme_eq_append_cons (same.trans (Expression.lexemes_more ..))
      obtain ⟨t', rfl, regrouped⟩ := t.exists_words first
      obtain ⟨rest', rfl, regrouped'⟩ := rest.exists_words after
      refine ⟨.more t' op pos' rest', rfl, fun sum product => ?_⟩
      rw [Expression.regroupedUnder, Expression.regroupedUnder, regrouped, regrouped']

theorem Term.exists_words : ∀ (t : Term) {ts : List Token}, ts.map Token.lexeme = t.lexemes →
    ∃ t' : Term, t'.words = ts ∧ ∀ product, t'.regroupedUnder product = t.regroupedUnder product
  | .last u, ts, same => by
      obtain ⟨u', rfl, regrouped, -⟩ := u.exists_words same
      refine ⟨.last u', rfl, fun product => ?_⟩
      rw [Term.regroupedUnder, Term.regroupedUnder, regrouped]
  | .more u op pos rest, ts, same => by
      obtain ⟨ts₁, ts₂, pos', rfl, first, after⟩ :=
        map_lexeme_eq_append_cons (same.trans (Term.lexemes_more ..))
      obtain ⟨u', rfl, regrouped, -⟩ := u.exists_words first
      obtain ⟨rest', rfl, regrouped'⟩ := rest.exists_words after
      refine ⟨.more u' op pos' rest', rfl, fun product => ?_⟩
      rw [Term.regroupedUnder, Term.regroupedUnder, regrouped, regrouped']

theorem Unary.exists_words : ∀ (u : Unary) {ts : List Token}, ts.map Token.lexeme = u.lexemes →
    ∃ u' : Unary, u'.words = ts ∧ u'.regrouped = u.regrouped ∧ u'.unsigned = u.unsigned ∧
      u'.grouping = u.grouping
  | .signed op pos operand, ts, same => by
      obtain ⟨⟨_, pos'⟩, ts, rfl, rfl, after⟩ := List.map_eq_cons_iff.1 same
      obtain ⟨operand', rfl, regrouped, unsigned, -⟩ := operand.exists_words after
      refine ⟨.signed op pos' operand', rfl, ?_, ?_, ?_⟩
      · rw [Unary.regrouped, Unary.regrouped, regrouped]
      · rw [Unary.unsigned, Unary.unsigned]
      · rw [Unary.grouping, Unary.grouping, unsigned]
  | .power p, ts, same => by
      obtain ⟨p', rfl, grouping⟩ := p.exists_words same
      refine ⟨.power p', rfl, ?_, ?_, ?_⟩
      · rw [Unary.regrouped, Unary.regrouped, grouping]
      · rw [Unary.unsigned, Unary.unsigned, grouping]
      · rw [Unary.grouping, Unary.grouping, grouping]

theorem Power.exists_words : ∀ (p : Power) {ts : List Token}, ts.map Token.lexeme = p.lexemes →
    ∃ p' : Power, p'.words = ts ∧ p'.grouping = p.grouping
  | .plain base, ts, same => by
      obtain ⟨base', rfl, regrouped⟩ := base.exists_words same
      exact ⟨.plain base', rfl, by rw [Power.grouping, Power.grouping, regrouped]⟩
  | .raised base pos exponent, ts, same => by
      obtain ⟨ts₁, ts₂, pos', rfl, first, after⟩ :=
        map_lexeme_eq_append_cons (same.trans (Power.lexemes_raised ..))
      obtain ⟨base', rfl, regrouped⟩ := base.exists_words first
      obtain ⟨exponent', rfl, regrouped', -, grouping⟩ := exponent.exists_words after
      refine ⟨.raised base' pos' exponent', rfl, ?_⟩
      rw [Power.grouping, Power.grouping, regrouped, regrouped', grouping]

theorem Primary.exists_words : ∀ (b : Primary) {ts : List Token},
    ts.map Token.lexeme = b.lexemes → ∃ b' : Primary, b'.words = ts ∧ b'.regrouped = b.regrouped
  | .number text pos, ts, same => by
      obtain ⟨⟨_, pos'⟩, ts, rfl, rfl, after⟩ := List.map_eq_cons_iff.1 same
      obtain rfl := List.map_eq_nil_iff.1 after
      exact ⟨.number text pos', rfl, by rw [Primary.regrouped, Primary.regrouped]⟩
  | .name text pos, ts, same => by
      obtain ⟨⟨_, pos'⟩, ts, rfl, rfl, after⟩ := List.map_eq_cons_iff.1 same
      obtain rfl := List.map_eq_nil_iff.1 after
      exact ⟨.name text pos', rfl, by rw [Primary.regrouped, Primary.regrouped]⟩
  | .call text pos opening args closing, ts, same => by
      rw [Primary.lexemes_call] at same
      obtain ⟨⟨_, pos'⟩, ts, rfl, rfl, after⟩ := List.map_eq_cons_iff.1 same
      obtain ⟨⟨_, opening'⟩, ts, rfl, rfl, inside⟩ := List.map_eq_cons_iff.1 after
      obtain ⟨ts₁, ts₂, closing', rfl, first, last⟩ := map_lexeme_eq_append_cons inside
      obtain rfl := List.map_eq_nil_iff.1 last
      obtain ⟨args', rfl, regrouped⟩ := args.exists_words first
      refine ⟨.call text pos' opening' args' closing', rfl, ?_⟩
      rw [Primary.regrouped, Primary.regrouped, regrouped]
  | .group opening inner closing, ts, same => by
      rw [Primary.lexemes_group] at same
      obtain ⟨⟨_, opening'⟩, ts, rfl, rfl, inside⟩ := List.map_eq_cons_iff.1 same
      obtain ⟨ts₁, ts₂, closing', rfl, first, last⟩ := map_lexeme_eq_append_cons inside
      obtain rfl := List.map_eq_nil_iff.1 last
      obtain ⟨inner', rfl, regrouped⟩ := inner.exists_words first
      refine ⟨.group opening' inner' closing', rfl, ?_⟩
      rw [Primary.regrouped, Primary.regrouped, regrouped]

theorem Args.exists_words : ∀ (a : Args) {ts : List Token}, ts.map Token.lexeme = a.lexemes →
    ∃ a' : Args, a'.words = ts ∧ a'.regrouped = a.regrouped
  | .last e, ts, same => by
      obtain ⟨e', rfl, regrouped⟩ := e.exists_words same
      exact ⟨.last e', rfl, by rw [Args.regrouped, Args.regrouped, regrouped]⟩
  | .more e comma rest, ts, same => by
      obtain ⟨ts₁, ts₂, comma', rfl, first, after⟩ :=
        map_lexeme_eq_append_cons (same.trans (Args.lexemes_more ..))
      obtain ⟨e', rfl, regrouped⟩ := e.exists_words first
      obtain ⟨rest', rfl, regrouped'⟩ := rest.exists_words after
      refine ⟨.more e' comma' rest', rfl, ?_⟩
      rw [Args.regrouped, Args.regrouped, regrouped, regrouped']

end

end Grammar

end Quadrature
