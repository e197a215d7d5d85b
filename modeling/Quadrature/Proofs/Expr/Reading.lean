/-
# Quadrature.Proofs.Expr.Reading -- the reader against the grammar

Without a depth limit the reader accepts exactly what the grammar derives. A derivation goes to a
depth, and a limit refuses exactly the derivations that go deeper.

* `Expression.reads` and its companions: the words of a derivation lead the reader from an operand
  it waits for to the completed tree, if the limit allows the depth;
* `parseWithin_eq`: what a text with a derivation is read as within a limit;
* `operandSound_and_argumentsSound`: from a state that waits for an operand, an accepted rest begins
  with an expression, and what follows that is what the open brackets wait for (`Closes`).
-/
import Mathlib.Control.Monad.Basic
import Quadrature.Proofs.Expr.DepthLimit
import Quadrature.Proofs.Expr.Grammar
import Quadrature.Proofs.Expr.Scanning

namespace Quadrature.Grammar

set_option autoImplicit false

open Quadrature.Parse
open Quadrature.Number

/-! ## What waits at a bracket level -/

/-- What waits for the next term of a bracket level. -/
def waitSum (p : Pending) (e : Expr) : Expr :=
  match p.sum with
  | some (op, left) => .binary op left e
  | none => e

theorem closeSum_eq (p : Pending) (e : Expr) : p.closeSum e = waitSum p (p.closeProduct e) := by
  unfold Pending.closeSum waitSum
  cases p.sum <;> rfl

@[simp] theorem waitSum_none : waitSum .none = id := rfl

@[simp] theorem closeProduct_none : Pending.none.closeProduct = id := rfl

@[simp] theorem waitSum_withSum (p : Pending) (op : Op) (e : Expr) :
    waitSum (p.withSum op e) = Expr.binary op (p.closeSum e) := rfl

@[simp] theorem closeProduct_withProduct (p : Pending) (op : Op) (left : Expr) :
    (p.withProduct op left).closeProduct = Expr.binary op (p.closeProduct left) := rfl

@[simp] theorem closeProduct_withSum (p : Pending) (op : Op) (left : Expr) :
    (p.withSum op left).closeProduct = id := rfl

/-! ## Depth -/

mutual

/-- How much deeper than its own place an expression goes: the most that the signs, carets and
brackets around an operand add. -/
def Expression.depth : Expression → Nat
  | .last t => t.depth
  | .more t _ _ rest => max t.depth rest.depth

def Term.depth : Term → Nat
  | .last u => u.depth
  | .more u _ _ rest => max u.depth rest.depth

def Unary.depth : Unary → Nat
  | .signed op _ operand => (Tight.sign op.op).cost + operand.depth
  | .power p => p.depth

def Power.depth : Power → Nat
  | .plain base => base.depth
  | .raised base _ exponent => max base.depth ((Tight.power base.tree).cost + exponent.depth)

def Primary.depth : Primary → Nat
  | .number _ _ | .name _ _ => 0
  | .call text pos _ args _ => (Bracket.call text pos []).cost + args.depth
  | .group _ inner _ => Bracket.group.cost + inner.depth

def Args.depth : Args → Nat
  | .last e => e.depth
  | .more e _ rest => max e.depth rest.depth

end

theorem depth_withSign (p : Pending) (op : Op) (outer : Outer) :
    Parse.depth (p.withSign op) outer = Parse.depth p outer + (Tight.sign op).cost := by
  simp only [Parse.depth, Pending.withSign, Pending.cost, List.foldr_cons]
  omega

theorem depth_withPower (p : Pending) (base : Expr) (outer : Outer) :
    Parse.depth (p.withPower base) outer = Parse.depth p outer + (Tight.power base).cost := by
  simp only [Parse.depth, Pending.withPower, Pending.cost, List.foldr_cons]
  omega

/-- Products and sums that wait add no depth. -/
theorem depth_loose {p q : Pending} (loose : p.tight = []) (loose' : q.tight = [])
    (outer : Outer) : Parse.depth p outer = Parse.depth q outer := by
  simp only [Parse.depth, Pending.cost, loose, loose']

theorem depth_inside (bracket : Bracket) {p : Pending} (loose : p.tight = []) (q : Pending)
    (outer : Outer) :
    Parse.depth p ((bracket, q) :: outer) = Parse.depth q outer + bracket.cost := by
  simp only [Parse.depth, Pending.cost, loose, List.foldr_cons, List.foldr_nil]
  omega

/-! ## The reader within a limit -/

variable {limit : Option Nat} {finish : Nat}

/-- The outcome if the limit allows a depth. -/
def allowed (limit : Option Nat) (depth : Nat) (outcome : Except CompileError Expr) :
    Except CompileError Expr :=
  if within limit depth then outcome else .error .nestedTooDeeply

/-- Of two depths the larger one decides. -/
theorem allowed_allowed (m n : Nat) (outcome : Except CompileError Expr) :
    allowed limit m (allowed limit n outcome) = allowed limit (max m n) outcome := by
  cases limit with
  | none => rfl
  | some most =>
      simp only [allowed, within, decide_eq_true_eq, Nat.max_le]
      by_cases first : m ≤ most
      · simp only [first, if_true, true_and]
      · simp only [first, if_false, false_and]

/-- Reading from an operand on, if the limit allows its depth. Without a limit it is `run`. -/
def readOn (limit : Option Nat) (finish : Nat) (p : Pending) (outer : Outer) (ts : List Token) :
    Except CompileError Expr :=
  allowed limit (Parse.depth p outer) (run limit finish (.operand p outer) ts)

theorem descend_eq_readOn (p : Pending) (outer : Outer) (ts : List Token) :
    (do run limit finish (← descend limit p outer) ts) = readOn limit finish p outer ts := by
  unfold readOn allowed descend
  split <;> rfl

/-- A completed operand takes one word. -/
theorem run_complete_cons (e : Expr) (p : Pending) (outer : Outer) (t : Token) (ts : List Token) :
    run limit finish (.complete e p outer) (t :: ts) =
      (do run limit finish (← afterOperand limit e p outer t) ts) := by
  rw [run]

theorem run_complete_caret (e : Expr) (p : Pending) (outer : Outer) (pos : Nat) (ts : List Token) :
    run limit finish (.complete e p outer) (⟨.caret, pos⟩ :: ts) =
      readOn limit finish (p.withPower e) outer ts := by
  rw [run_complete_cons, ← descend_eq_readOn]; rfl

theorem run_complete_factor (e : Expr) (p : Pending) (outer : Outer) (op : Factor) (pos : Nat)
    (ts : List Token) :
    run limit finish (.complete e p outer) (⟨op.lexeme, pos⟩ :: ts) =
      readOn limit finish (p.withProduct op.op e) outer ts := by
  rw [run_complete_cons, ← descend_eq_readOn]; cases op <;> rfl

theorem run_complete_sign (e : Expr) (p : Pending) (outer : Outer) (op : Sign) (pos : Nat)
    (ts : List Token) :
    run limit finish (.complete e p outer) (⟨op.lexeme, pos⟩ :: ts) =
      readOn limit finish (p.withSum op.op e) outer ts := by
  rw [run_complete_cons, ← descend_eq_readOn]; cases op <;> rfl

theorem run_operand_sign (p : Pending) (outer : Outer) (op : Sign) (pos : Nat) (ts : List Token) :
    run limit finish (.operand p outer) (⟨op.lexeme, pos⟩ :: ts) =
      readOn limit finish (p.withSign op.op) outer ts := by
  rw [← descend_eq_readOn]
  cases op <;> (rw [Sign.lexeme, run]; rfl)

theorem run_operand_group (p : Pending) (outer : Outer) (pos : Nat) (ts : List Token) :
    run limit finish (.operand p outer) (⟨.opening, pos⟩ :: ts) =
      readOn limit finish .none ((.group, p) :: outer) ts := by
  rw [← descend_eq_readOn, run]

theorem run_operand_number (p : Pending) (outer : Outer) (text : String) (pos : Nat)
    (ts : List Token) :
    run limit finish (.operand p outer) (⟨.number text, pos⟩ :: ts) =
      run limit finish (.complete (.const ((Numeral.read? text.toList).getD 0)) p outer) ts := by
  rw [run]
  rfl

/-- A name before anything but a parenthesis is a variable. -/
theorem run_operand_name (p : Pending) (outer : Outer) (text : String) (pos : Nat)
    {ts : List Token} (clear : Clear [.opening] ts) :
    run limit finish (.operand p outer) (⟨.name text, pos⟩ :: ts) =
      run limit finish (.complete (.var text pos) p outer) ts := by
  cases ts with
  | nil => rw [run]
  | cons t ts =>
      obtain ⟨lexeme, at'⟩ := t
      have other : lexeme ≠ .opening := by simpa using clear
      rw [run]
      simp_all

/-- A name before a parenthesis begins a call, unless the call has no arguments. -/
theorem run_operand_call_within (p : Pending) (outer : Outer) (text : String) (pos opening : Nat)
    {ts : List Token} (clear : Clear [.closing] ts) :
    run limit finish (.operand p outer) (⟨.name text, pos⟩ :: ⟨.opening, opening⟩ :: ts) = (do
      run limit finish (← descend limit .none ((.call text pos [], p) :: outer)) ts) := by
  conv => lhs; rw [run]
  cases ts with
  | nil => rfl
  | cons t ts =>
      obtain ⟨lexeme, at'⟩ := t
      have other : lexeme ≠ .closing := by simpa using clear
      cases lexeme with
      | closing => exact absurd rfl other
      | _ => rfl

theorem run_operand_call (p : Pending) (outer : Outer) (text : String) (pos opening : Nat)
    {ts : List Token} (clear : Clear [.closing] ts) :
    run limit finish (.operand p outer) (⟨.name text, pos⟩ :: ⟨.opening, opening⟩ :: ts) =
      readOn limit finish .none ((.call text pos [], p) :: outer) ts := by
  rw [run_operand_call_within p outer text pos opening clear, descend_eq_readOn]

theorem run_close_group (e : Expr) (p q : Pending) (outer : Outer) (pos : Nat) (ts : List Token) :
    run limit finish (.complete e p ((.group, q) :: outer)) (⟨.closing, pos⟩ :: ts) =
      run limit finish (.complete (p.closeSum e) q outer) ts := by
  rw [run_complete_cons]; rfl

theorem run_close_call (e : Expr) (p q : Pending) (outer : Outer) (text : String) (at' : Nat)
    (args : List Expr) (pos : Nat) (ts : List Token) :
    run limit finish (.complete e p ((.call text at' args, q) :: outer)) (⟨.closing, pos⟩ :: ts) =
      run limit finish
        (.complete (.call text (args.reverse ++ [p.closeSum e]) at') q outer) ts := by
  rw [run_complete_cons]; rfl

theorem run_next_argument (e : Expr) (p q : Pending) (outer : Outer) (text : String) (at' : Nat)
    (args : List Expr) (pos : Nat) (ts : List Token) :
    run limit finish (.complete e p ((.call text at' args, q) :: outer)) (⟨.comma, pos⟩ :: ts) =
      readOn limit finish .none ((.call text at' (p.closeSum e :: args), q) :: outer) ts := by
  rw [run_complete_cons, ← descend_eq_readOn]; rfl

/-! ## Words lead to trees -/

/-- At the end of the text a completed operand is a tree if no bracket is open. -/
theorem run_complete_nil (e : Expr) (p : Pending) (outer : Outer) :
    run limit finish (.complete e p outer) [] =
      if outer.isEmpty then .ok (p.closeSum e)
      else .error (misplaced outer ⟨none, finish⟩ false) := by
  cases outer with
  | nil => rw [run]; rfl
  | cons level outer =>
      rw [run]
      · rfl
      · simp

/-- Two completed operands are the same to what follows if they make the same sum, no power goes
on, and they make the same product or no product goes on. -/
theorem run_complete_congr {e e' : Expr} {p p' : Pending} {outer : Outer} {ts : List Token}
    (sum : p.closeSum e = p'.closeSum e') (clear : Clear [.caret] ts)
    (product : Clear [.times, .over] ts ∨ ∀ op, p.withProduct op e = p'.withProduct op e') :
    run limit finish (.complete e p outer) ts = run limit finish (.complete e' p' outer) ts := by
  cases ts with
  | nil => rw [run_complete_nil, run_complete_nil, sum]
  | cons w ts =>
      obtain ⟨lexeme, at'⟩ := w
      rw [run_complete_cons, run_complete_cons]
      cases lexeme with
      | caret => simp at clear
      | times | «over» =>
          rcases product with none | same
          · simp at none
          · simp only [afterOperand, same]
      | _ => simp only [afterOperand, Pending.withSum, sum]

/-- A sign or a power that waits is completed where no power goes on. -/
theorem run_settle_tight {e : Expr} {p : Pending} {outer : Outer} {t : Tight} {ts : List Token}
    (clear : Clear afterUnary ts) :
    run limit finish (.complete e { p with tight := t :: p.tight } outer) ts =
      run limit finish (.complete (t.apply e) p outer) ts :=
  run_complete_congr rfl (clear.mono (by simp [afterUnary])) (.inr fun _ => rfl)

/-- A product that waits is completed where no product goes on. -/
theorem run_settle {e : Expr} {p : Pending} {outer : Outer} {ts : List Token}
    (clear : Clear afterTerm ts) :
    run limit finish (.complete e p outer) ts =
      run limit finish (.complete (p.closeProduct e) ⟨p.sum, none, []⟩ outer) ts :=
  run_complete_congr rfl (clear.mono (by simp [afterTerm]))
    (.inl (clear.mono (by simp [afterTerm])))

/-- A sum that waits is completed where no product goes on. -/
theorem run_settle_sum {e : Expr} {p : Pending} {outer : Outer} {ts : List Token}
    (clear : Clear afterTerm ts) :
    run limit finish (.complete e p outer) ts =
      run limit finish (.complete (p.closeSum e) .none outer) ts :=
  run_complete_congr rfl (clear.mono (by simp [afterTerm]))
    (.inl (clear.mono (by simp [afterTerm])))

theorem clear_sign {excluded : List Lexeme} (op : Sign) (pos : Nat) (rest : List Token)
    (plus : Lexeme.plus ∉ excluded) (minus : Lexeme.minus ∉ excluded) :
    Clear excluded (⟨op.lexeme, pos⟩ :: rest) := by
  cases op <;> simpa [Sign.lexeme]

theorem clear_factor {excluded : List Lexeme} (op : Factor) (pos : Nat) (rest : List Token)
    (times : Lexeme.times ∉ excluded) (slash : Lexeme.over ∉ excluded) :
    Clear excluded (⟨op.lexeme, pos⟩ :: rest) := by
  cases op <;> simpa [Factor.lexeme]

theorem Args.clear_closing (a : Args) (rest : List Token) :
    Clear [.closing] (a.words ++ rest) := by
  obtain ⟨t, ts, first, starts⟩ := a.words_head
  rw [first, List.cons_append, clear_cons]
  intro closing
  simp only [List.mem_singleton] at closing
  simp [closing, startsExpression, startsPrimary] at starts

mutual

/-- The words of a primary lead to its tree, if the limit allows the depth that it goes to. -/
theorem Primary.reads : ∀ (b : Primary) (p : Pending) (outer : Outer) (rest : List Token),
    Clear [.opening] rest →
    readOn limit finish p outer (b.words ++ rest) = allowed limit (Parse.depth p outer + b.depth)
      (run limit finish (.complete b.tree p outer) rest)
  | .number text pos, p, outer, rest, clear => by
      rw [Primary.words, List.singleton_append, readOn, run_operand_number, Primary.tree,
        Primary.depth, Nat.add_zero]
  | .name text pos, p, outer, rest, clear => by
      rw [Primary.words, List.singleton_append, readOn, run_operand_name _ _ _ _ clear,
        Primary.tree, Primary.depth, Nat.add_zero]
  | .call text pos opening args closing, p, outer, rest, clear => by
      have deeper : max (Parse.depth p outer)
          (Parse.depth p outer + (Bracket.call text pos []).cost + args.depth) =
            Parse.depth p outer + ((Bracket.call text pos []).cost + args.depth) := by omega
      rw [Primary.words, List.cons_append, List.cons_append, List.append_assoc, readOn,
        run_operand_call _ _ _ _ _ (args.clear_closing _), List.singleton_append,
        args.reads text pos [] p outer closing rest, allowed_allowed, Primary.depth, Primary.tree]
      exact congrArg (fun d => allowed limit d _) deeper
  | .group opening inner closing, p, outer, rest, clear => by
      have deeper : max (Parse.depth p outer)
          (Parse.depth p outer + Bracket.group.cost + inner.depth) =
            Parse.depth p outer + (Bracket.group.cost + inner.depth) := by omega
      rw [Primary.words, List.cons_append, List.append_assoc, readOn, run_operand_group,
        List.singleton_append,
        inner.reads .none _ _ rfl ((clear_closing closing rest).mono (by simp)), run_close_group,
        allowed_allowed, depth_inside .group rfl, Primary.depth, Primary.tree, deeper]
      rfl

theorem Power.reads : ∀ (b : Power) (p : Pending) (outer : Outer) (rest : List Token),
    Clear afterUnary rest →
    readOn limit finish p outer (b.words ++ rest) = allowed limit (Parse.depth p outer + b.depth)
      (run limit finish (.complete b.tree p outer) rest)
  | .plain base, p, outer, rest, clear => by
      rw [Power.words, base.reads p outer rest (clear.mono (by simp [afterUnary])), Power.tree,
        Power.depth]
  | .raised base pos exponent, p, outer, rest, clear => by
      have deeper : max (Parse.depth p outer + base.depth)
          (Parse.depth p outer + (Tight.power base.tree).cost + exponent.depth) =
            Parse.depth p outer +
              max base.depth ((Tight.power base.tree).cost + exponent.depth) := by omega
      rw [Power.words, List.append_assoc, List.cons_append, base.reads p outer _ (by simp),
        run_complete_caret, exponent.reads _ outer rest clear, allowed_allowed, depth_withPower,
        deeper, Pending.withPower, run_settle_tight clear, Power.depth, Power.tree]
      rfl

theorem Unary.reads : ∀ (u : Unary) (p : Pending) (outer : Outer) (rest : List Token),
    Clear afterUnary rest →
    readOn limit finish p outer (u.words ++ rest) = allowed limit (Parse.depth p outer + u.depth)
      (run limit finish (.complete u.tree p outer) rest)
  | .signed op pos operand, p, outer, rest, clear => by
      have deeper : max (Parse.depth p outer)
          (Parse.depth p outer + (Tight.sign op.op).cost + operand.depth) =
            Parse.depth p outer + ((Tight.sign op.op).cost + operand.depth) := by omega
      rw [Unary.words, List.cons_append, readOn, run_operand_sign,
        operand.reads _ outer rest clear, allowed_allowed, depth_withSign, deeper,
        Pending.withSign, run_settle_tight clear, Unary.depth, Unary.tree]
      rfl
  | .power b, p, outer, rest, clear => by
      rw [Unary.words, b.reads p outer rest clear, Unary.tree, Unary.depth]

theorem Term.reads : ∀ (t : Term) (p : Pending) (outer : Outer) (rest : List Token),
    p.tight = [] → Clear afterTerm rest →
    readOn limit finish p outer (t.words ++ rest) = allowed limit (Parse.depth p outer + t.depth)
      (run limit finish (.complete (t.under p.closeProduct) ⟨p.sum, none, []⟩ outer) rest)
  | .last u, p, outer, rest, loose, clear => by
      rw [Term.words, u.reads p outer rest (clear.mono (by simp [afterUnary, afterTerm])),
        run_settle clear, Term.under, Term.depth]
  | .more u op pos more, p, outer, rest, loose, clear => by
      have same : Parse.depth (p.withProduct op.op u.tree) outer = Parse.depth p outer :=
        depth_loose rfl loose outer
      rw [Term.words, List.append_assoc, List.cons_append,
        u.reads p outer _ (clear_factor op pos _ (by simp [afterUnary]) (by simp [afterUnary])),
        run_complete_factor, more.reads _ outer rest rfl clear, allowed_allowed, same,
        Nat.add_max_add_left, Term.under, Term.depth, closeProduct_withProduct]
      rfl

theorem Expression.reads : ∀ (e : Expression) (p : Pending) (outer : Outer) (rest : List Token),
    p.tight = [] → Clear afterExpression rest →
    readOn limit finish p outer (e.words ++ rest) = allowed limit (Parse.depth p outer + e.depth)
      (run limit finish (.complete (e.under (waitSum p) p.closeProduct) .none outer) rest)
  | .last t, p, outer, rest, loose, clear => by
      rw [Expression.words,
        t.reads p outer rest loose (clear.mono (by simp [afterTerm, afterExpression])),
        run_settle_sum (clear.mono (by simp [afterTerm, afterExpression])), Expression.under,
        Expression.depth, closeSum_eq]
      rfl
  | .more t op pos more, p, outer, rest, loose, clear => by
      have same (q : Pending) (left : Expr) :
          Parse.depth (q.withSum op.op left) outer = Parse.depth p outer :=
        depth_loose rfl loose outer
      rw [Expression.words, List.append_assoc, List.cons_append,
        t.reads p outer _ loose (clear_sign op pos _ (by simp [afterTerm]) (by simp [afterTerm])),
        run_complete_sign, more.reads _ outer rest rfl clear, allowed_allowed, same,
        Nat.add_max_add_left, Expression.under, Expression.depth, waitSum_withSum,
        closeProduct_withSum, closeSum_eq]
      rfl

theorem Args.reads : ∀ (a : Args) (text : String) (pos : Nat) (args : List Expr) (q : Pending)
    (outer : Outer) (closing : Nat) (rest : List Token),
    readOn limit finish .none ((.call text pos args, q) :: outer)
        (a.words ++ ⟨.closing, closing⟩ :: rest) =
      allowed limit (Parse.depth q outer + (Bracket.call text pos args).cost + a.depth)
        (run limit finish (.complete (.call text (args.reverse ++ a.trees) pos) q outer) rest)
  | .last e, text, pos, args, q, outer, closing, rest => by
      rw [Args.words, e.reads .none _ _ rfl ((clear_closing closing rest).mono (by simp)),
        run_close_call, Args.trees, Args.depth, depth_inside _ rfl]
      rfl
  | .more e comma more, text, pos, args, q, outer, closing, rest => by
      have deeper (value : Expr) : max (Parse.depth q outer + (Bracket.call text pos args).cost +
            e.depth) (Parse.depth q outer + (Bracket.call text pos (value :: args)).cost +
              more.depth) =
          Parse.depth q outer + (Bracket.call text pos args).cost + max e.depth more.depth :=
        Nat.add_max_add_left _ _ _
      rw [Args.words, List.append_assoc, List.cons_append,
        e.reads .none _ _ rfl (by simp [afterExpression]), run_next_argument,
        more.reads text pos _ q outer closing rest, allowed_allowed, depth_inside _ rfl, deeper,
        Args.trees, Args.depth]
      simp [closeSum_eq]

end

/-! ## Accepted words are derived -/

/-- The term with its first operand changed. -/
def Term.onFirst (f : Unary → Unary) : Term → Term
  | .last u => .last (f u)
  | .more u op pos rest => .more (f u) op pos rest

/-- The expression with its first term changed. -/
def Expression.onFirst (f : Term → Term) : Expression → Expression
  | .last t => .last (f t)
  | .more t op pos rest => .more (f t) op pos rest

theorem Term.onFirst_words {f : Unary → Unary} {before : List Token}
    (adds : ∀ u, (f u).words = before ++ u.words) (t : Term) :
    (t.onFirst f).words = before ++ t.words := by
  cases t <;> simp [Term.onFirst, Term.words, adds]

theorem Expression.onFirst_words {f : Term → Term} {before : List Token}
    (adds : ∀ t, (f t).words = before ++ t.words) (e : Expression) :
    (e.onFirst f).words = before ++ e.words := by
  cases e <;> simp [Expression.onFirst, Expression.words, adds]

theorem Term.onFirst_under {f : Unary → Unary} {g : Expr → Expr}
    (adds : ∀ u, (f u).tree = g u.tree) (product : Expr → Expr) (t : Term) :
    (t.onFirst f).under product = t.under (product ∘ g) := by
  cases t <;> simp [Term.onFirst, Term.under, adds]

theorem Expression.onFirst_under {f : Term → Term} {product product' : Expr → Expr}
    (adds : ∀ t, (f t).under product = t.under product') (sum : Expr → Expr) (e : Expression) :
    (e.onFirst f).under sum product = e.under sum product' := by
  cases e <;> simp [Expression.onFirst, Expression.under, adds]

/-- What the open brackets ask of the words that follow a completed expression: the end of the
text, a parenthesis that closes the innermost bracket, or a comma in a call. -/
def Closes (finish : Nat) : Outer → Expr → List Token → Expr → Prop
  | [], v, [], r => r = v
  | (.group, q) :: outer, v, ⟨.closing, _⟩ :: ts, r =>
      run none finish (.complete v q outer) ts = .ok r
  | (.call text pos args, q) :: outer, v, ⟨.closing, _⟩ :: ts, r =>
      run none finish (.complete (.call text (args.reverse ++ [v]) pos) q outer) ts = .ok r
  | (.call text pos args, q) :: outer, v, ⟨.comma, _⟩ :: ts, r =>
      run none finish (.operand .none ((.call text pos (v :: args), q) :: outer)) ts = .ok r
  | _, _, _, _ => False

/-- Words accepted where an operand has to follow begin with an expression. -/
def OperandSound (finish : Nat) (ts : List Token) : Prop :=
  ∀ (p : Pending) (outer : Outer) (r : Expr), run none finish (.operand p outer) ts = .ok r →
    ∃ (e : Expression) (rest : List Token), ts = e.words ++ rest ∧
      Closes finish outer (e.under (waitSum p) p.closeProduct) rest r

/-- Words accepted after a primary go on with the expression that it begins. -/
def CompleteSound (finish : Nat) (ts : List Token) : Prop :=
  ∀ (b : Primary) (p : Pending) (outer : Outer) (r : Expr),
    run none finish (.complete b.tree p outer) ts = .ok r →
    ∃ (e : Expression) (rest : List Token), b.words ++ ts = e.words ++ rest ∧
      Closes finish outer (e.under (waitSum p) p.closeProduct) rest r

/-- Words accepted where an argument has to follow begin with arguments and a parenthesis. -/
def ArgumentsSound (finish : Nat) (ts : List Token) : Prop :=
  ∀ (text : String) (pos : Nat) (args : List Expr) (q : Pending) (outer : Outer) (r : Expr),
    run none finish (.operand .none ((.call text pos args, q) :: outer)) ts = .ok r →
    ∃ (a : Args) (closing : Nat) (rest : List Token), ts = a.words ++ ⟨.closing, closing⟩ :: rest ∧
      run none finish (.complete (.call text (args.reverse ++ a.trees) pos) q outer) rest = .ok r

theorem argumentsSound_of_operandSound {ts : List Token} (operand : OperandSound finish ts)
    (shorter : ∀ ts' : List Token, ts'.length < ts.length → ArgumentsSound finish ts') :
    ArgumentsSound finish ts := by
  intro text pos args q outer r accepted
  obtain ⟨e, rest, rfl, closes⟩ := operand _ _ _ accepted
  cases rest with
  | nil => simp [Closes] at closes
  | cons w rest =>
      obtain ⟨lexeme, at'⟩ := w
      cases lexeme with
      | closing => exact ⟨.last e, at', rest, rfl, closes⟩
      | comma =>
          obtain ⟨a, closing, rest', rfl, done⟩ :=
            shorter rest (by simp; omega) text pos _ q outer r closes
          exact ⟨.more e at' a, closing, rest', by simp [Args.words], by
            simpa [Args.trees] using done⟩
      | _ => simp [Closes] at closes

/-- A primary before a caret is the base of the power that goes on with the first operand. -/
theorem exists_raised (b : Primary) (pos : Nat) (e : Expression) :
    ∃ e' : Expression, e'.words = b.words ++ ⟨.caret, pos⟩ :: e.words ∧
      ∀ sum product : Expr → Expr,
        e'.under sum product = e.under sum (product ∘ Expr.binary .pow b.tree) := by
  refine ⟨e.onFirst (Term.onFirst fun u => .power (.raised b pos u)), ?_, fun sum product => ?_⟩
  · have added (t : Term) : (t.onFirst fun u => .power (.raised b pos u)).words =
        (b.words ++ [⟨.caret, pos⟩]) ++ t.words :=
      Term.onFirst_words (fun u => by simp [Unary.words, Power.words]) t
    rw [Expression.onFirst_words added]
    simp
  · exact Expression.onFirst_under (fun t => Term.onFirst_under (fun u => rfl) product t) sum e

/-- A primary before the operator of a product is an operand of the first term. -/
theorem exists_multiplied (b : Primary) (op : Factor) (pos : Nat) (e : Expression) :
    ∃ e' : Expression, e'.words = b.words ++ ⟨op.lexeme, pos⟩ :: e.words ∧
      ∀ sum product : Expr → Expr,
        e'.under sum product = e.under sum (.binary op.op (product b.tree)) := by
  refine ⟨e.onFirst fun t => .more (.power (.plain b)) op pos t, ?_, fun sum product => ?_⟩
  · have added (t : Term) : (Term.more (.power (.plain b)) op pos t).words =
        (b.words ++ [⟨op.lexeme, pos⟩]) ++ t.words := by simp [Term.words, Unary.words, Power.words]
    rw [Expression.onFirst_words added]
    simp
  · exact Expression.onFirst_under (fun t => by simp [Term.under, Unary.tree, Power.tree]) sum e

/-- A sign before an expression is a sign of its first operand. -/
theorem exists_signed (op : Sign) (pos : Nat) (e : Expression) :
    ∃ e' : Expression, e'.words = ⟨op.lexeme, pos⟩ :: e.words ∧
      ∀ sum product : Expr → Expr,
        e'.under sum product = e.under sum (product ∘ Expr.unary op.op) := by
  refine ⟨e.onFirst (Term.onFirst fun u => .signed op pos u), ?_, fun sum product => ?_⟩
  · have added (t : Term) : (t.onFirst fun u => .signed op pos u).words =
        [⟨op.lexeme, pos⟩] ++ t.words := Term.onFirst_words (fun u => rfl) t
    rw [Expression.onFirst_words added]
    simp
  · exact Expression.onFirst_under (fun t => Term.onFirst_under (fun u => rfl) product t) sum e

theorem complete_factor_sound {ts : List Token} (operand : OperandSound finish ts) (op : Factor)
    (pos : Nat) {b : Primary} {p : Pending} {outer : Outer} {r : Expr}
    (accepted : run none finish (.complete b.tree p outer) (⟨op.lexeme, pos⟩ :: ts) = .ok r) :
    ∃ (e : Expression) (rest : List Token),
      b.words ++ ⟨op.lexeme, pos⟩ :: ts = e.words ++ rest ∧
        Closes finish outer (e.under (waitSum p) p.closeProduct) rest r := by
  rw [run_complete_factor] at accepted
  obtain ⟨e, rest, rfl, closes⟩ := operand _ _ _ accepted
  obtain ⟨e', words, under⟩ := exists_multiplied b op pos e
  exact ⟨e', rest, by simp [words], by rw [under]; exact closes⟩

theorem complete_sign_sound {ts : List Token} (operand : OperandSound finish ts) (op : Sign)
    (pos : Nat) {b : Primary} {p : Pending} {outer : Outer} {r : Expr}
    (accepted : run none finish (.complete b.tree p outer) (⟨op.lexeme, pos⟩ :: ts) = .ok r) :
    ∃ (e : Expression) (rest : List Token),
      b.words ++ ⟨op.lexeme, pos⟩ :: ts = e.words ++ rest ∧
        Closes finish outer (e.under (waitSum p) p.closeProduct) rest r := by
  rw [run_complete_sign] at accepted
  obtain ⟨e, rest, rfl, closes⟩ := operand _ _ _ accepted
  refine ⟨.more (.last (.power (.plain b))) op pos e, rest, ?_, ?_⟩
  · simp [Expression.words, Term.words, Unary.words, Power.words]
  · rw [waitSum_withSum, closeProduct_withSum, closeSum_eq] at closes
    exact closes

theorem completeSound_of_operandSound {ts : List Token}
    (shorter : ∀ ts' : List Token, ts'.length < ts.length → OperandSound finish ts') :
    CompleteSound finish ts := by
  intro b p outer r accepted
  -- Where a bracket closes, the primary is all of the expression.
  have whole : Closes finish outer (p.closeSum b.tree) ts r →
      ∃ (e : Expression) (rest : List Token), b.words ++ ts = e.words ++ rest ∧
        Closes finish outer (e.under (waitSum p) p.closeProduct) rest r := fun closes =>
    ⟨.last (.last (.power (.plain b))), ts, rfl, by rwa [closeSum_eq] at closes⟩
  cases ts with
  | nil =>
      rw [run_complete_nil] at accepted
      cases outer with
      | nil =>
          refine whole ?_
          simpa [Closes, eq_comm] using accepted
      | cons level outer => simp at accepted
  | cons w ts =>
      obtain ⟨lexeme, pos⟩ := w
      have operand : OperandSound finish ts := shorter ts (by simp)
      cases lexeme with
      | caret =>
          rw [run_complete_caret] at accepted
          obtain ⟨e, rest, rfl, closes⟩ := operand _ _ _ accepted
          obtain ⟨e', words, under⟩ := exists_raised b pos e
          exact ⟨e', rest, by simp [words], by rw [under]; exact closes⟩
      | times => exact complete_factor_sound operand .times pos accepted
      | «over» => exact complete_factor_sound operand .over pos accepted
      | plus => exact complete_sign_sound operand .plus pos accepted
      | minus => exact complete_sign_sound operand .minus pos accepted
      | closing =>
          match outer with
          | [] => simp [run_complete_cons, afterOperand, bind, Except.bind] at accepted
          | (.group, q) :: outer =>
              rw [run_close_group] at accepted
              exact whole accepted
          | (.call text at' args, q) :: outer =>
              rw [run_close_call] at accepted
              exact whole accepted
      | comma =>
          match outer with
          | [] => simp [run_complete_cons, afterOperand, bind, Except.bind] at accepted
          | (.group, q) :: outer =>
              simp [run_complete_cons, afterOperand, bind, Except.bind] at accepted
          | (.call text at' args, q) :: outer =>
              rw [run_next_argument] at accepted
              exact whole accepted
      | number text => simp [run_complete_cons, afterOperand, bind, Except.bind] at accepted
      | name text => simp [run_complete_cons, afterOperand, bind, Except.bind] at accepted
      | opening => simp [run_complete_cons, afterOperand, bind, Except.bind] at accepted

theorem operand_sign_sound {ts : List Token} (operand : OperandSound finish ts) (op : Sign)
    (pos : Nat) {p : Pending} {outer : Outer} {r : Expr}
    (accepted : run none finish (.operand p outer) (⟨op.lexeme, pos⟩ :: ts) = .ok r) :
    ∃ (e : Expression) (rest : List Token), ⟨op.lexeme, pos⟩ :: ts = e.words ++ rest ∧
      Closes finish outer (e.under (waitSum p) p.closeProduct) rest r := by
  rw [run_operand_sign] at accepted
  obtain ⟨e, rest, rfl, closes⟩ := operand _ _ _ accepted
  obtain ⟨e', words, under⟩ := exists_signed op pos e
  exact ⟨e', rest, by simp [words], by rw [under]; exact closes⟩

theorem operandSound_of_shorter {ts : List Token}
    (operands : ∀ ts' : List Token, ts'.length < ts.length → OperandSound finish ts')
    (arguments : ∀ ts' : List Token, ts'.length < ts.length → ArgumentsSound finish ts') :
    OperandSound finish ts := by
  intro p outer r accepted
  -- What follows a primary is no longer than what followed the word before it.
  have complete : ∀ ts' : List Token, ts'.length < ts.length → CompleteSound finish ts' :=
    fun ts' shorter => completeSound_of_operandSound fun ts'' h => operands ts'' (by omega)
  cases ts with
  | nil => simp [run] at accepted
  | cons w ts =>
      obtain ⟨lexeme, pos⟩ := w
      cases lexeme with
      | number text =>
          rw [run_operand_number] at accepted
          exact complete ts (by simp) (.number text pos) p outer r accepted
      | name text =>
          by_cases call : Clear [.opening] ts
          · rw [run_operand_name _ _ _ _ call] at accepted
            exact complete ts (by simp) (.name text pos) p outer r accepted
          · cases ts with
            | nil => simp at call
            | cons w ts =>
                obtain ⟨lexeme, opening⟩ := w
                obtain rfl : lexeme = .opening := by simpa using call
                by_cases empty : Clear [.closing] ts
                · rw [run_operand_call _ _ _ _ _ empty] at accepted
                  obtain ⟨a, closing, rest, rfl, done⟩ :=
                    arguments ts (by simp only [List.length_cons]; omega) text pos [] p outer r
                      accepted
                  obtain ⟨e, rest', words, closes⟩ := complete rest (by simp; omega)
                    (.call text pos opening a closing) p outer r done
                  exact ⟨e, rest', by rw [← words]; simp [Primary.words], closes⟩
                · cases ts with
                  | nil => simp at empty
                  | cons w ts =>
                      obtain ⟨lexeme, closing⟩ := w
                      obtain rfl : lexeme = .closing := by simpa using empty
                      simp [run] at accepted
      | plus => exact operand_sign_sound (operands ts (by simp)) .plus pos accepted
      | minus => exact operand_sign_sound (operands ts (by simp)) .minus pos accepted
      | opening =>
          rw [run_operand_group] at accepted
          obtain ⟨e, rest, rfl, closes⟩ := operands ts (by simp) _ _ _ accepted
          cases rest with
          | nil => simp [Closes] at closes
          | cons w rest =>
              obtain ⟨lexeme, closing⟩ := w
              cases lexeme with
              | closing =>
                  obtain ⟨e', rest', words, closes⟩ := complete rest (by simp; omega)
                    (.group pos e closing) p outer r closes
                  exact ⟨e', rest', by rw [← words]; simp [Primary.words], closes⟩
              | _ => simp [Closes] at closes
      | _ => simp [run] at accepted

/-- Soundness of the reader, by induction on the number of words. -/
theorem operandSound_and_argumentsSound : ∀ (n : Nat) (ts : List Token), ts.length = n →
    OperandSound finish ts ∧ ArgumentsSound finish ts := by
  intro n
  induction n using Nat.strongRecOn with
  | ind n ih =>
      intro ts length
      have operand : OperandSound finish ts :=
        operandSound_of_shorter (fun ts' shorter => (ih _ (by omega) ts' rfl).1)
          (fun ts' shorter => (ih _ (by omega) ts' rfl).2)
      exact ⟨operand, argumentsSound_of_operandSound operand
        fun ts' shorter => (ih _ (by omega) ts' rfl).2⟩

/-- The words of a derivation are read as what it denotes, if the limit allows its depth. -/
theorem tree_eq (e : Expression) :
    tree limit ⟨e.words, finish⟩ = allowed limit e.depth (.ok e.tree) := by
  have reads : readOn limit finish .none [] (e.words ++ []) = _ := e.reads .none [] [] rfl (by simp)
  have shallow : within limit (Parse.depth .none []) = true := by
    cases limit with
    | none => rfl
    | some most => exact decide_eq_true (Nat.zero_le most)
  rw [List.append_nil, readOn, allowed, if_pos shallow, run_complete_nil] at reads
  obtain ⟨w, ws, first, -⟩ := e.words_head
  have words : tree limit ⟨e.words, finish⟩ = run limit finish (.operand .none []) e.words := by
    simp only [tree, first]
  rw [words, reads, show Parse.depth .none [] = 0 from rfl, Nat.zero_add]
  rfl

/-- Without a limit, the words that are read as a tree are those of its derivation. -/
theorem tree_none_eq_ok_iff {words : List Token} {r : Expr} :
    tree none ⟨words, finish⟩ = .ok r ↔ ∃ e : Expression, e.words = words ∧ e.tree = r := by
  constructor
  · intro accepted
    cases words with
    | nil => simp [tree] at accepted
    | cons w words =>
        obtain ⟨e, rest, words_eq, closes⟩ :=
          (operandSound_and_argumentsSound _ _ rfl).1 .none [] r accepted
        cases rest with
        | nil => exact ⟨e, by simpa using words_eq.symm, Eq.symm closes⟩
        | cons t rest => simp [Closes] at closes
  · rintro ⟨e, rfl, rfl⟩
    exact tree_eq e

/-- **Depth is what the limit limits**: words that have a derivation are read as what it denotes, if
the limit allows its depth, and are refused otherwise. -/
theorem parseWithin_eq {text : List Char} {tokens : Tokens} {e : Expression}
    (tokenized : Token.tokenize text = .ok tokens) (words : e.words = tokens.words) :
    parseWithin limit text = allowed limit e.depth (.ok e.tree) := by
  have read : parseWithin limit text = tree limit ⟨tokens.words, tokens.finish⟩ := by
    rw [parseWithin, tokenized]; rfl
  rw [read, ← words, tree_eq]

/-- Without a limit, a text is read as what a derivation of its words denotes. -/
theorem parseWithin_none_eq_ok_iff {text : List Char} {tokens : Tokens} {r : Expr}
    (tokenized : Token.tokenize text = .ok tokens) :
    parseWithin none text = .ok r ↔ ∃ e : Expression, e.words = tokens.words ∧ e.tree = r := by
  have read : parseWithin none text = tree none ⟨tokens.words, tokens.finish⟩ := by
    rw [parseWithin, tokenized]; rfl
  rw [read, tree_none_eq_ok_iff]

/-- **The reader accepts exactly the grammar**: a text that is made of words is read if and only if
its words have a derivation, which is then the only one, and it is read as what that derivation
denotes. Sums and products group to the left, and each number of the text has a value. A depth limit
may only refuse the text. -/
theorem parseWithin_iff_derives {text : List Char} {tokens : Tokens}
    (tokenized : Token.tokenize text = .ok tokens) :
    (∀ r, parseWithin none text = .ok r ↔
      ∃ e : Expression, e.words = tokens.words ∧ e.tree = r) ∧
    (∀ e e' : Expression, e.words = tokens.words → e'.words = tokens.words → e = e') ∧
    (∀ limit, parseWithin limit text = parseWithin none text ∨
      parseWithin limit text = .error .nestedTooDeeply) ∧
    (∀ e : Expression, e.tree = e.others.foldl
      (fun left step => .binary step.1.op left (step.2.under id)) (e.first.under id)) ∧
    (∀ t : Term, t.under id = t.others.foldl
      (fun left step => .binary step.1.op left step.2.tree) t.first.tree) ∧
    ∀ s pos, ⟨.number s, pos⟩ ∈ tokens.words → ∃ value, Numeral.read? s.toList = some value := by
  refine ⟨fun r => parseWithin_none_eq_ok_iff tokenized, fun e e' words words' => ?_, fun limit =>
    parseWithin_limited limit text, Expression.under_eq_foldl id id, Term.under_eq_foldl id,
    fun s pos member => ?_⟩
  · exact Expression.unambiguous (words.trans words'.symm)
  · have read := (Token.laid_of_tokenize tokenized).read_number member rfl
    exact Option.isSome_iff_exists.1 read

/-- The theorem at a power with a signed exponent under a sign. -/
theorem parseWithin_signed_power :
    (∃ ts, Token.tokenize "-2^-x".toList = .ok ts) ∧ Numeral.read? "2".toList = some 2 ∧
      parseWithin none "-2^-x".toList =
        .ok (.unary .sub (.binary .pow (.const 2) (.unary .sub (.var "x" 4)))) := by
  have tokenized : Token.tokenize "-2^-x".toList = .ok ⟨[⟨.minus, 0⟩, ⟨.number "2", 1⟩,
      ⟨.caret, 2⟩, ⟨.minus, 3⟩, ⟨.name "x", 4⟩], 5⟩ := by decide +kernel
  have two : Numeral.read? "2".toList = some 2 := by decide +kernel
  let e : Expression := .last (.last (.signed .minus 0 (.power (.raised (.number "2" 1) 2
    (.signed .minus 3 (.power (.plain (.name "x" 4))))))))
  have denotes : e.tree = .unary .sub (.binary .pow (.const 2) (.unary .sub (.var "x" 4))) := by
    simp only [e, Expression.tree, Expression.under, Term.under, Unary.tree, Power.tree,
      Primary.tree, Sign.op, two, Option.getD_some, id]
    rfl
  exact ⟨⟨_, tokenized⟩, two, ((parseWithin_iff_derives tokenized).1 _).2 ⟨e, rfl, denotes⟩⟩

end Quadrature.Grammar
