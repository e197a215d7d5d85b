/-
# Quadrature.Proofs.Expr.Grammar -- derivations of the language of expressions

A derivation records every rule and every word with its position:

    expression = term { ("+" | "-") term }
    term       = unary { ("*" | "/") unary }
    unary      = ("+" | "-") unary | power
    power      = primary [ "^" unary ]
    primary    = number | name | name "(" args ")" | "(" expression ")"
    args       = expression { "," expression }

A repetition is kept as a list from the left. `words` are the words derived. `tree` is what the
derivation denotes: `under` carries along what waits on the left for the next operand, so that sums
and products group to the left; a parenthesised expression denotes what it holds, and a number the
double that its text is read as. The numbers of a text are all read, so none denotes zero for want
of a value.

`Expression.unambiguous`: the words determine the derivation.
-/
import Quadrature.Expr.Parse

namespace Quadrature.Grammar

set_option autoImplicit false

open Quadrature.Number

/-- The signs, which are also the operators of sums. -/
inductive Sign where
  | plus
  | minus
deriving DecidableEq

/-- The operators of products. -/
inductive Factor where
  | times
  | over
deriving DecidableEq

def Sign.lexeme : Sign → Lexeme
  | .plus => .plus
  | .minus => .minus

def Sign.op : Sign → Op
  | .plus => .add
  | .minus => .sub

def Factor.lexeme : Factor → Lexeme
  | .times => .times
  | .over => .over

def Factor.op : Factor → Op
  | .times => .mul
  | .over => .div

mutual

/-- One term, or a term, an operator and more terms. -/
inductive Expression where
  | last (t : Term)
  | more (t : Term) (op : Sign) (pos : Nat) (rest : Expression)

/-- One operand, or an operand, an operator and more operands. -/
inductive Term where
  | last (u : Unary)
  | more (u : Unary) (op : Factor) (pos : Nat) (rest : Term)

inductive Unary where
  | signed (op : Sign) (pos : Nat) (operand : Unary)
  | power (p : Power)

inductive Power where
  | plain (base : Primary)
  | raised (base : Primary) (pos : Nat) (exponent : Unary)

inductive Primary where
  | number (text : String) (pos : Nat)
  | name (text : String) (pos : Nat)
  | call (text : String) (pos opening : Nat) (args : Args) (closing : Nat)
  | group (opening : Nat) (inner : Expression) (closing : Nat)

/-- One argument, or an argument, a comma and more arguments. -/
inductive Args where
  | last (e : Expression)
  | more (e : Expression) (comma : Nat) (rest : Args)

end

/-! ## The words of a derivation -/

mutual

def Expression.words : Expression → List Token
  | .last t => t.words
  | .more t op pos rest => t.words ++ ⟨op.lexeme, pos⟩ :: rest.words

def Term.words : Term → List Token
  | .last u => u.words
  | .more u op pos rest => u.words ++ ⟨op.lexeme, pos⟩ :: rest.words

def Unary.words : Unary → List Token
  | .signed op pos operand => ⟨op.lexeme, pos⟩ :: operand.words
  | .power p => p.words

def Power.words : Power → List Token
  | .plain base => base.words
  | .raised base pos exponent => base.words ++ ⟨.caret, pos⟩ :: exponent.words

def Primary.words : Primary → List Token
  | .number text pos => [⟨.number text, pos⟩]
  | .name text pos => [⟨.name text, pos⟩]
  | .call text pos opening args closing =>
    ⟨.name text, pos⟩ :: ⟨.opening, opening⟩ :: (args.words ++ [⟨.closing, closing⟩])
  | .group opening inner closing =>
    ⟨.opening, opening⟩ :: (inner.words ++ [⟨.closing, closing⟩])

def Args.words : Args → List Token
  | .last e => e.words
  | .more e comma rest => e.words ++ ⟨.comma, comma⟩ :: rest.words

end

/-! ## The tree of a derivation -/

mutual

/-- The tree of a sum: `sum` is what waits for its first term, `product` for the first operand of
that term. -/
def Expression.under (sum product : Expr → Expr) : Expression → Expr
  | .last t => sum (t.under product)
  | .more t op _ rest => rest.under (.binary op.op (sum (t.under product))) id

/-- The tree of a product: `product` is what waits for its first operand. -/
def Term.under (product : Expr → Expr) : Term → Expr
  | .last u => product u.tree
  | .more u op _ rest => rest.under (.binary op.op (product u.tree))

def Unary.tree : Unary → Expr
  | .signed op _ operand => .unary op.op operand.tree
  | .power p => p.tree

def Power.tree : Power → Expr
  | .plain base => base.tree
  | .raised base _ exponent => .binary .pow base.tree exponent.tree

def Primary.tree : Primary → Expr
  | .number text _ => .const ((Numeral.read? text.toList).getD 0)
  | .name text pos => .var text pos
  | .call text pos _ args _ => .call text args.trees pos
  | .group _ inner _ => inner.under id id

def Args.trees : Args → List Expr
  | .last e => [e.under id id]
  | .more e _ rest => e.under id id :: rest.trees

end

/-- What an expression denotes. -/
def Expression.tree (e : Expression) : Expr := e.under id id

/-- The operands of a term after the first, each with the operator before it. -/
def Term.others : Term → List (Factor × Unary)
  | .last _ => []
  | .more _ op _ (.last u) => [(op, u)]
  | .more _ op _ (.more u op' pos rest) => (op, u) :: (Term.more u op' pos rest).others

/-- The terms of an expression after the first, each with the operator before it. -/
def Expression.others : Expression → List (Sign × Term)
  | .last _ => []
  | .more _ op _ (.last t) => [(op, t)]
  | .more _ op _ (.more t op' pos rest) => (op, t) :: (Expression.more t op' pos rest).others

def Term.first : Term → Unary
  | .last u | .more u _ _ _ => u

def Expression.first : Expression → Term
  | .last t | .more t _ _ _ => t

/-- Products group to the left. -/
theorem Term.under_eq_foldl (product : Expr → Expr) (t : Term) :
    t.under product =
      t.others.foldl (fun left step => .binary step.1.op left step.2.tree)
        (product t.first.tree) := by
  fun_induction Term.others t generalizing product with
  | case1 u => rfl
  | case2 u op pos u' => rfl
  | case3 u op pos u' op' pos' rest ih => rw [Term.under, ih]; rfl

/-- Sums group to the left. -/
theorem Expression.under_eq_foldl (sum product : Expr → Expr) (e : Expression) :
    e.under sum product =
      e.others.foldl (fun left step => .binary step.1.op left (step.2.under id))
        (sum (e.first.under product)) := by
  fun_induction Expression.others e generalizing sum product with
  | case1 t => rfl
  | case2 t op pos t' => rfl
  | case3 t op pos t' op' pos' rest ih => rw [Expression.under, ih]; rfl

/-! ## First words -/

/-- A primary can begin with the word. -/
def startsPrimary : Lexeme → Bool
  | .number _ | .name _ | .opening => true
  | _ => false

/-- An expression can begin with the word. -/
def startsExpression : Lexeme → Bool
  | .plus | .minus => true
  | w => startsPrimary w

theorem Primary.words_head (p : Primary) :
    ∃ t ts, p.words = t :: ts ∧ startsPrimary t.lexeme = true := by
  cases p <;> exact ⟨_, _, rfl, rfl⟩

theorem Power.words_head (p : Power) :
    ∃ t ts, p.words = t :: ts ∧ startsPrimary t.lexeme = true := by
  cases p with
  | plain base => exact base.words_head
  | raised base pos exponent =>
      obtain ⟨t, ts, h, starts⟩ := base.words_head
      exact ⟨t, _, by rw [Power.words, h]; rfl, starts⟩

theorem startsExpression_of_startsPrimary {w : Lexeme} (h : startsPrimary w = true) :
    startsExpression w = true := by
  cases w <;> simp_all [startsPrimary, startsExpression]

theorem Unary.words_head (u : Unary) :
    ∃ t ts, u.words = t :: ts ∧ startsExpression t.lexeme = true := by
  cases u with
  | signed op pos operand => exact ⟨_, _, rfl, by cases op <;> rfl⟩
  | power p =>
      obtain ⟨t, ts, h, starts⟩ := p.words_head
      exact ⟨t, ts, h, startsExpression_of_startsPrimary starts⟩

theorem Term.words_head (t : Term) :
    ∃ w ws, t.words = w :: ws ∧ startsExpression w.lexeme = true := by
  cases t with
  | last u => exact u.words_head
  | more u op pos rest =>
      obtain ⟨w, ws, h, starts⟩ := u.words_head
      exact ⟨w, _, by rw [Term.words, h]; rfl, starts⟩

theorem Expression.words_head (e : Expression) :
    ∃ w ws, e.words = w :: ws ∧ startsExpression w.lexeme = true := by
  cases e with
  | last t => exact t.words_head
  | more t op pos rest =>
      obtain ⟨w, ws, h, starts⟩ := t.words_head
      exact ⟨w, _, by rw [Expression.words, h]; rfl, starts⟩

theorem Args.words_head (a : Args) :
    ∃ w ws, a.words = w :: ws ∧ startsExpression w.lexeme = true := by
  cases a with
  | last e => exact e.words_head
  | more e comma rest =>
      obtain ⟨w, ws, h, starts⟩ := e.words_head
      exact ⟨w, _, by rw [Args.words, h]; rfl, starts⟩

/-! ## Unambiguity -/

/-- None of the excluded words comes next. -/
def Clear (excluded : List Lexeme) (rest : List Token) : Prop :=
  ∀ t ∈ rest.head?, t.lexeme ∉ excluded

theorem Clear.mono {some more : List Lexeme} {rest : List Token} (subset : some ⊆ more)
    (clear : Clear more rest) : Clear some rest :=
  fun t first excluded => clear t first (subset excluded)

@[simp] theorem clear_nil (excluded : List Lexeme) : Clear excluded [] := by
  intro t first
  simp at first

@[simp] theorem clear_cons (excluded : List Lexeme) (t : Token) (rest : List Token) :
    Clear excluded (t :: rest) ↔ t.lexeme ∉ excluded := by
  simp [Clear]

/-- What cannot follow a unary, a term and an expression. -/
def afterUnary : List Lexeme := [.opening, .caret]
def afterTerm : List Lexeme := [.opening, .caret, .times, .over]
def afterExpression : List Lexeme := [.opening, .caret, .times, .over, .plus, .minus]

theorem clear_closing (pos : Nat) (rest : List Token) :
    Clear (.comma :: afterExpression) (⟨.closing, pos⟩ :: rest) := by
  simp [afterExpression]

theorem Factor.lexeme_injective {op op' : Factor} (h : op.lexeme = op'.lexeme) : op = op' := by
  cases op <;> cases op' <;> simp_all [Factor.lexeme]

theorem Sign.lexeme_injective {op op' : Sign} (h : op.lexeme = op'.lexeme) : op = op' := by
  cases op <;> cases op' <;> simp_all [Sign.lexeme]

mutual

/-- The words of a primary determine it and where it ends. -/
theorem Primary.eq_of_words : ∀ (p p' : Primary) {r r' : List Token},
    p.words ++ r = p'.words ++ r' → Clear [.opening] r → Clear [.opening] r' → p = p' ∧ r = r'
  | .number text pos, p', r, r', h, clear, clear' => by
      cases p' <;> simp_all [Primary.words]
  | .name text pos, p', r, r', h, clear, clear' => by
      cases p' with
      | call text' pos' opening args closing =>
          simp only [Primary.words, List.cons_append, List.nil_append, List.cons.injEq] at h
          simp [h.2] at clear
      | _ => simp_all [Primary.words]
  | .call text pos opening args closing, p', r, r', h, clear, clear' => by
      cases p' with
      | call text' pos' opening' args' closing' =>
          simp only [Primary.words, List.cons_append, List.append_assoc, List.nil_append,
            List.cons.injEq, Token.mk.injEq, Lexeme.name.injEq, true_and] at h
          obtain ⟨⟨rfl, rfl⟩, rfl, inner⟩ := h
          obtain ⟨rfl, rest⟩ := args.eq_of_words args' inner (clear_closing _ _) (clear_closing _ _)
          simp_all
      | name text' pos' =>
          simp only [Primary.words, List.cons_append, List.nil_append, List.cons.injEq] at h
          simp [← h.2] at clear'
      | _ => simp_all [Primary.words]
  | .group opening inner closing, p', r, r', h, clear, clear' => by
      cases p' with
      | group opening' inner' closing' =>
          simp only [Primary.words, List.cons_append, List.append_assoc, List.nil_append,
            List.cons.injEq, Token.mk.injEq, true_and] at h
          obtain ⟨rfl, inside⟩ := h
          obtain ⟨rfl, rest⟩ := inner.eq_of_words inner' inside
            ((clear_closing _ _).mono (by simp)) ((clear_closing _ _).mono (by simp))
          simp_all
      | _ => simp_all [Primary.words]

theorem Power.eq_of_words : ∀ (p p' : Power) {r r' : List Token},
    p.words ++ r = p'.words ++ r' → Clear afterUnary r → Clear afterUnary r' → p = p' ∧ r = r'
  | .plain base, .plain base', r, r', h, clear, clear' => by
      obtain ⟨rfl, rest⟩ := base.eq_of_words base' h (clear.mono (by simp [afterUnary]))
        (clear'.mono (by simp [afterUnary]))
      exact ⟨rfl, rest⟩
  | .plain base, .raised base' pos' exponent', r, r', h, clear, clear' => by
      simp only [Power.words, List.append_assoc, List.cons_append] at h
      obtain ⟨-, rest⟩ := base.eq_of_words base' h (clear.mono (by simp [afterUnary])) (by simp)
      simp [rest, afterUnary] at clear
  | .raised base pos exponent, .plain base', r, r', h, clear, clear' => by
      simp only [Power.words, List.append_assoc, List.cons_append] at h
      obtain ⟨-, rest⟩ := base.eq_of_words base' h (by simp) (clear'.mono (by simp [afterUnary]))
      simp [← rest, afterUnary] at clear'
  | .raised base pos exponent, .raised base' pos' exponent', r, r', h, clear, clear' => by
      simp only [Power.words, List.append_assoc, List.cons_append] at h
      obtain ⟨rfl, rest⟩ := base.eq_of_words base' h (by simp) (by simp)
      simp only [List.cons.injEq, Token.mk.injEq, true_and] at rest
      obtain ⟨rfl, inner⟩ := rest
      obtain ⟨rfl, rest⟩ := exponent.eq_of_words exponent' inner clear clear'
      exact ⟨rfl, rest⟩

theorem Unary.eq_of_words : ∀ (u u' : Unary) {r r' : List Token},
    u.words ++ r = u'.words ++ r' → Clear afterUnary r → Clear afterUnary r' → u = u' ∧ r = r'
  | .signed op pos operand, .signed op' pos' operand', r, r', h, clear, clear' => by
      simp only [Unary.words, List.cons_append, List.cons.injEq, Token.mk.injEq] at h
      obtain ⟨⟨same, rfl⟩, inner⟩ := h
      obtain rfl := Sign.lexeme_injective same
      obtain ⟨rfl, rest⟩ := operand.eq_of_words operand' inner clear clear'
      exact ⟨rfl, rest⟩
  | .signed op pos operand, .power p', r, r', h, clear, clear' => by
      obtain ⟨t, ts, first, starts⟩ := p'.words_head
      simp only [Unary.words, first, List.cons_append, List.cons.injEq] at h
      cases op <;> simp [← h.1, Sign.lexeme, startsPrimary] at starts
  | .power p, .signed op' pos' operand', r, r', h, clear, clear' => by
      obtain ⟨t, ts, first, starts⟩ := p.words_head
      simp only [Unary.words, first, List.cons_append, List.cons.injEq] at h
      cases op' <;> simp [h.1, Sign.lexeme, startsPrimary] at starts
  | .power p, .power p', r, r', h, clear, clear' => by
      obtain ⟨rfl, rest⟩ := p.eq_of_words p' h clear clear'
      exact ⟨rfl, rest⟩

theorem Term.eq_of_words : ∀ (t t' : Term) {r r' : List Token},
    t.words ++ r = t'.words ++ r' → Clear afterTerm r → Clear afterTerm r' → t = t' ∧ r = r'
  | .last u, .last u', r, r', h, clear, clear' => by
      obtain ⟨rfl, rest⟩ := u.eq_of_words u' h (clear.mono (by simp [afterUnary, afterTerm]))
        (clear'.mono (by simp [afterUnary, afterTerm]))
      exact ⟨rfl, rest⟩
  | .last u, .more u' op' pos' rest', r, r', h, clear, clear' => by
      simp only [Term.words, List.append_assoc, List.cons_append] at h
      obtain ⟨-, rest⟩ := u.eq_of_words u' h (clear.mono (by simp [afterUnary, afterTerm]))
        (by cases op' <;> simp [afterUnary, Factor.lexeme])
      cases op' <;> simp [rest, afterTerm, Factor.lexeme] at clear
  | .more u op pos rest, .last u', r, r', h, clear, clear' => by
      simp only [Term.words, List.append_assoc, List.cons_append] at h
      obtain ⟨-, rest⟩ := u.eq_of_words u' h (by cases op <;> simp [afterUnary, Factor.lexeme])
        (clear'.mono (by simp [afterUnary, afterTerm]))
      cases op <;> simp [← rest, afterTerm, Factor.lexeme] at clear'
  | .more u op pos rest, .more u' op' pos' rest', r, r', h, clear, clear' => by
      simp only [Term.words, List.append_assoc, List.cons_append] at h
      obtain ⟨rfl, after⟩ := u.eq_of_words u' h (by cases op <;> simp [afterUnary, Factor.lexeme])
        (by cases op' <;> simp [afterUnary, Factor.lexeme])
      simp only [List.cons.injEq, Token.mk.injEq] at after
      obtain ⟨⟨same, rfl⟩, inner⟩ := after
      obtain rfl := Factor.lexeme_injective same
      obtain ⟨rfl, rest⟩ := rest.eq_of_words rest' inner clear clear'
      exact ⟨rfl, rest⟩

theorem Expression.eq_of_words : ∀ (e e' : Expression) {r r' : List Token},
    e.words ++ r = e'.words ++ r' → Clear afterExpression r → Clear afterExpression r' →
      e = e' ∧ r = r'
  | .last t, .last t', r, r', h, clear, clear' => by
      obtain ⟨rfl, rest⟩ := t.eq_of_words t' h
        (clear.mono (by simp [afterTerm, afterExpression]))
        (clear'.mono (by simp [afterTerm, afterExpression]))
      exact ⟨rfl, rest⟩
  | .last t, .more t' op' pos' rest', r, r', h, clear, clear' => by
      simp only [Expression.words, List.append_assoc, List.cons_append] at h
      obtain ⟨-, rest⟩ := t.eq_of_words t' h (clear.mono (by simp [afterTerm, afterExpression]))
        (by cases op' <;> simp [afterTerm, Sign.lexeme])
      cases op' <;> simp [rest, afterExpression, Sign.lexeme] at clear
  | .more t op pos rest, .last t', r, r', h, clear, clear' => by
      simp only [Expression.words, List.append_assoc, List.cons_append] at h
      obtain ⟨-, rest⟩ := t.eq_of_words t' h (by cases op <;> simp [afterTerm, Sign.lexeme])
        (clear'.mono (by simp [afterTerm, afterExpression]))
      cases op <;> simp [← rest, afterExpression, Sign.lexeme] at clear'
  | .more t op pos rest, .more t' op' pos' rest', r, r', h, clear, clear' => by
      simp only [Expression.words, List.append_assoc, List.cons_append] at h
      obtain ⟨rfl, after⟩ := t.eq_of_words t' h (by cases op <;> simp [afterTerm, Sign.lexeme])
        (by cases op' <;> simp [afterTerm, Sign.lexeme])
      simp only [List.cons.injEq, Token.mk.injEq] at after
      obtain ⟨⟨same, rfl⟩, inner⟩ := after
      obtain rfl := Sign.lexeme_injective same
      obtain ⟨rfl, rest⟩ := rest.eq_of_words rest' inner clear clear'
      exact ⟨rfl, rest⟩

theorem Args.eq_of_words : ∀ (a a' : Args) {r r' : List Token},
    a.words ++ r = a'.words ++ r' → Clear (.comma :: afterExpression) r →
      Clear (.comma :: afterExpression) r' → a = a' ∧ r = r'
  | .last e, .last e', r, r', h, clear, clear' => by
      obtain ⟨rfl, rest⟩ := e.eq_of_words e' h (clear.mono (by simp)) (clear'.mono (by simp))
      exact ⟨rfl, rest⟩
  | .last e, .more e' comma' rest', r, r', h, clear, clear' => by
      simp only [Args.words, List.append_assoc, List.cons_append] at h
      obtain ⟨-, rest⟩ := e.eq_of_words e' h (clear.mono (by simp)) (by simp [afterExpression])
      simp [rest] at clear
  | .more e comma rest, .last e', r, r', h, clear, clear' => by
      simp only [Args.words, List.append_assoc, List.cons_append] at h
      obtain ⟨-, rest⟩ := e.eq_of_words e' h (by simp [afterExpression]) (clear'.mono (by simp))
      simp [← rest] at clear'
  | .more e comma rest, .more e' comma' rest', r, r', h, clear, clear' => by
      simp only [Args.words, List.append_assoc, List.cons_append] at h
      obtain ⟨rfl, after⟩ := e.eq_of_words e' h (by simp [afterExpression])
        (by simp [afterExpression])
      simp only [List.cons.injEq, Token.mk.injEq, true_and] at after
      obtain ⟨rfl, inner⟩ := after
      obtain ⟨rfl, rest⟩ := rest.eq_of_words rest' inner clear clear'
      exact ⟨rfl, rest⟩

end

/-- **Unambiguity**: an expression is determined by its words. -/
theorem Expression.unambiguous {e e' : Expression} (same : e.words = e'.words) : e = e' :=
  (e.eq_of_words e' (congrArg (fun words => words ++ []) same) (by simp) (by simp)).1

end Quadrature.Grammar
