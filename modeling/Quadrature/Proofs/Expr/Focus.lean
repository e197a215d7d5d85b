/-
# Quadrature.Proofs.Expr.Focus -- the power at a caret

Every caret among the words of a derivation is that of a power: a primary ends before it and a
unary begins after it. Another power may be put in its place. What that denotes, as expansion
groups powers, depends on nothing but the chain of the power put there.

* `Expression.focus`: the power at a caret, and the derivation around it;
* `Expression.apart`: of two neighbours among the words of a derivation one is a symbol.
-/
import Mathlib.Data.List.Chain
import Quadrature.Proofs.Expr.Regrouping
import Quadrature.Proofs.Expr.Spelling

namespace Quadrature.Grammar

set_option autoImplicit false

/-! ## Places in lists -/

/-- Of two places in a list, one is before the other, or they are the same. -/
theorem append_cons_cases {α : Type} {a b c d : List α} {x y : α}
    (same : a ++ x :: b = c ++ y :: d) : (∃ t, a = c ++ y :: t ∧ d = t ++ x :: b) ∨
      (a = c ∧ x = y ∧ b = d) ∨ ∃ t, c = a ++ x :: t ∧ b = t ++ y :: d := by
  rcases List.append_eq_append_iff.1 same with ⟨t, rfl, rest⟩ | ⟨t, rfl, rest⟩
  · cases t with
    | nil =>
        obtain ⟨rfl, rfl⟩ := List.cons.inj rest
        exact .inr (.inl ⟨by simp, rfl, rfl⟩)
    | cons z t =>
        obtain ⟨rfl, rfl⟩ := List.cons.inj rest
        exact .inr (.inr ⟨t, rfl, rfl⟩)
  · cases t with
    | nil =>
        obtain ⟨rfl, rfl⟩ := List.cons.inj rest
        exact .inr (.inl ⟨by simp, rfl, rfl⟩)
    | cons z t =>
        obtain ⟨rfl, rfl⟩ := List.cons.inj rest
        exact .inl ⟨t, rfl, rfl⟩

/-- What does not hold a divider is on one side of it. -/
theorem divided_cases {α : Type} {xs win vs a b : List α} {w : α} (some : win ≠ [])
    (outside : w ∉ win) (same : xs ++ (win ++ vs) = a ++ w :: b) :
    (∃ vs', a = xs ++ (win ++ vs') ∧ vs = vs' ++ w :: b) ∨
      ∃ xs', xs = a ++ w :: xs' ∧ b = xs' ++ (win ++ vs) := by
  rcases List.append_eq_append_iff.1 same with ⟨t, rfl, rest⟩ | ⟨t, rfl, rest⟩
  · rcases List.append_eq_append_iff.1 rest with ⟨t', rfl, rest'⟩ | ⟨t', rfl, rest'⟩
    · exact .inl ⟨t', by simp, rest'⟩
    · cases t' with
      | nil => exact .inl ⟨[], by simp, by simpa using rest'.symm⟩
      | cons x t' =>
          obtain ⟨rfl, -⟩ := List.cons.inj rest'
          exact absurd (by simp) outside
  · cases t with
    | nil =>
        obtain ⟨x, win, rfl⟩ := List.exists_cons_of_ne_nil some
        obtain ⟨rfl, -⟩ := List.cons.inj rest
        exact absurd (by simp) outside
    | cons x t =>
        obtain ⟨rfl, after⟩ := List.cons.inj rest
        exact .inr ⟨t, rfl, after⟩

/-! ## Neighbours -/

/-- An operand can follow the word. -/
def leads : Lexeme → Bool
  | .number _ | .name _ | .closing => false
  | _ => true

/-- The word can follow an operand that is not a base. -/
def trails : Lexeme → Bool
  | .number _ | .name _ | .opening | .caret => false
  | _ => true

/-- An operand can follow the words, or begins with what follows. -/
def Leads (before : List Lexeme) : Prop := ∀ w ∈ before.getLast?, leads w = true

/-- The words can follow an operand that is not a base. -/
def Trails (after : List Lexeme) : Prop := ∀ w ∈ after.head?, trails w = true

theorem leads_nil : Leads [] := by simp [Leads]

theorem trails_nil : Trails [] := by simp [Trails]

theorem leads_concat (words : List Lexeme) {w : Lexeme} (last : leads w = true) :
    Leads (words ++ [w]) := by
  simpa [Leads] using last

theorem trails_cons {w : Lexeme} (first : trails w = true) (words : List Lexeme) :
    Trails (w :: words) := by
  simpa [Trails] using first

theorem Leads.append {words more : List Lexeme} (first : Leads words) (second : Leads more) :
    Leads (words ++ more) := by
  intro w last
  rw [List.getLast?_append] at last
  rcases Option.or_eq_some_iff.1 last with inside | ⟨-, before⟩
  · exact second w inside
  · exact first w before

theorem Trails.append {words more : List Lexeme} (first : Trails words) (second : Trails more) :
    Trails (words ++ more) := by
  intro w head
  rw [List.head?_append] at head
  rcases Option.or_eq_some_iff.1 head with inside | ⟨-, after⟩
  · exact first w inside
  · exact second w after

theorem leads_sign (op : Sign) : leads op.lexeme = true := by cases op <;> rfl

theorem leads_factor (op : Factor) : leads op.lexeme = true := by cases op <;> rfl

theorem trails_sign (op : Sign) : trails op.lexeme = true := by cases op <;> rfl

theorem trails_factor (op : Factor) : trails op.lexeme = true := by cases op <;> rfl

/-! ## Focus -/

/-- The power at the caret between the words `u` and `v`, in a derivation `a` with the given
words and meaning. -/
inductive Focus {α σ : Type} (lexemes : α → List Lexeme) (sense : α → σ) (a : α)
    (u v : List Lexeme) : Prop where
  | mk (plug : Power → α) (base : Primary) (pos : Nat) (exponent : Unary)
      (before after : List Lexeme) (whole : plug (.raised base pos exponent) = a)
      (left : u = before ++ base.lexemes) (right : v = exponent.lexemes ++ after)
      (words : ∀ p, lexemes (plug p) = before ++ (p.lexemes ++ after))
      (same : ∀ p q, p.grouping = q.grouping → sense (plug p) = sense (plug q))
      (leading : Leads before) (trailing : Trails after)

/-- The same power in a larger derivation. -/
theorem Focus.lift {α β σ τ : Type} {lexemes : α → List Lexeme} {lexemes' : β → List Lexeme}
    {sense : α → σ} {sense' : β → τ} {a : α} {u v u' v' : List Lexeme} (wrap : α → β)
    (pre post : List Lexeme) (focus : Focus lexemes sense a u v)
    (words : ∀ x, lexemes' (wrap x) = pre ++ (lexemes x ++ post))
    (same : ∀ x y, sense x = sense y → sense' (wrap x) = sense' (wrap y))
    (leading : Leads pre) (trailing : Trails post) (left : u' = pre ++ u) (right : v' = v ++ post) :
    Focus lexemes' sense' (wrap a) u' v' := by
  obtain ⟨plug, base, pos, exponent, before, after, rfl, rfl, rfl, words', same', leading',
    trailing'⟩ := focus
  refine ⟨fun p => wrap (plug p), base, pos, exponent, pre ++ before, after ++ post, rfl,
    by simp [left], by simp [right], fun p => ?_, fun p q grouping => same _ _ (same' p q grouping),
    leading.append leading', trailing'.append trailing⟩
  rw [words, words']
  simp

theorem caret_after {b u v : List Lexeme} {w : Lexeme} (other : w ≠ .caret)
    (same : w :: b = u ++ .caret :: v) : ∃ u', u = w :: u' ∧ b = u' ++ .caret :: v := by
  rcases append_cons_cases (a := []) same with ⟨v', inside, -⟩ | ⟨-, caret, -⟩ | ⟨u', rfl, inside⟩
  · simp at inside
  · exact absurd caret other
  · exact ⟨u', rfl, inside⟩

theorem caret_before {a u v : List Lexeme} {w : Lexeme} (other : w ≠ .caret)
    (same : a ++ [w] = u ++ .caret :: v) : ∃ v', a = u ++ .caret :: v' ∧ v = v' ++ [w] := by
  rcases append_cons_cases same with ⟨v', inside, rfl⟩ | ⟨-, caret, -⟩ | ⟨u', -, inside⟩
  · exact ⟨v', inside, rfl⟩
  · exact absurd caret other
  · simp at inside

/-- What an expression denotes to what waits for it. -/
def Expression.sense (e : Expression) (waits : (Expr → Expr) × (Expr → Expr)) : Expr :=
  e.regroupedUnder waits.1 waits.2

def Term.sense (t : Term) (product : Expr → Expr) : Expr := t.regroupedUnder product

/-- What a unary denotes as an operand, and as an exponent behind a sign and without one. -/
def Unary.sense (u : Unary) : Expr × Option Grouping × Option Grouping :=
  (u.regrouped, u.unsigned, u.grouping)

mutual

theorem Expression.focus : ∀ (e : Expression) {u v : List Lexeme},
    e.lexemes = u ++ .caret :: v → Focus Expression.lexemes Expression.sense e u v
  | .last t, u, v, same =>
      (t.focus same).lift Expression.last [] [] (by simp)
        (fun x y alike => funext fun waits => congrArg waits.1 (congrFun alike waits.2))
        leads_nil trails_nil rfl (by simp)
  | .more t op pos rest, u, v, same => by
      rw [Expression.lexemes_more] at same
      rcases append_cons_cases same with ⟨v', inside, rfl⟩ | ⟨-, caret, -⟩ | ⟨u', rfl, inside⟩
      · exact (t.focus inside).lift (Expression.more · op pos rest) [] (op.lexeme :: rest.lexemes)
          (by simp)
          (fun x y alike => funext fun waits =>
            congrArg (fun e => rest.regroupedUnder (.binary op.op (waits.1 e)) id)
              (congrFun alike waits.2))
          leads_nil (trails_cons (trails_sign op) _) rfl rfl
      · cases op <;> simp [Sign.lexeme] at caret
      · exact (rest.focus inside).lift (Expression.more t op pos) (t.lexemes ++ [op.lexeme]) []
          (by simp)
          (fun x y alike => funext fun waits =>
            congrFun alike (.binary op.op (waits.1 (t.regroupedUnder waits.2)), id))
          (leads_concat _ (leads_sign op)) trails_nil (by simp) (by simp)

theorem Term.focus : ∀ (t : Term) {u v : List Lexeme},
    t.lexemes = u ++ .caret :: v → Focus Term.lexemes Term.sense t u v
  | .last w, u, v, same =>
      (w.focus same).lift Term.last [] [] (by simp)
        (fun x y alike => funext fun product => congrArg product (congrArg Prod.fst alike))
        leads_nil trails_nil rfl (by simp)
  | .more w op pos rest, u, v, same => by
      rw [Term.lexemes_more] at same
      rcases append_cons_cases same with ⟨v', inside, rfl⟩ | ⟨-, caret, -⟩ | ⟨u', rfl, inside⟩
      · exact (w.focus inside).lift (Term.more · op pos rest) [] (op.lexeme :: rest.lexemes)
          (by simp)
          (fun x y alike => funext fun product =>
            congrArg (fun e => rest.regroupedUnder (.binary op.op (product e)))
              (congrArg Prod.fst alike))
          leads_nil (trails_cons (trails_factor op) _) rfl rfl
      · cases op <;> simp [Factor.lexeme] at caret
      · exact (rest.focus inside).lift (Term.more w op pos) (w.lexemes ++ [op.lexeme]) []
          (by simp)
          (fun x y alike => funext fun product =>
            congrFun alike (.binary op.op (product w.regrouped)))
          (leads_concat _ (leads_factor op)) trails_nil (by simp) (by simp)

theorem Unary.focus : ∀ (w : Unary) {u v : List Lexeme},
    w.lexemes = u ++ .caret :: v → Focus Unary.lexemes Unary.sense w u v
  | .signed op pos operand, u, v, same => by
      rw [Unary.lexemes_signed] at same
      obtain ⟨u', rfl, inside⟩ := caret_after (by cases op <;> simp [Sign.lexeme]) same
      exact (operand.focus inside).lift (Unary.signed op pos) [op.lexeme] [] (by simp)
        (fun x y alike => congrArg (fun sense : Expr × Option Grouping × Option Grouping =>
          (Expr.unary op.op sense.1, none, sense.2.1.map (Grouping.signed op.op))) alike)
        (leads_concat [] (leads_sign op)) trails_nil rfl (by simp)
  | .power p, u, v, same =>
      (p.focus same).lift Unary.power [] [] (by simp)
        (fun x y alike => congrArg (fun g : Grouping => (g.value, some g, some g)) alike)
        leads_nil trails_nil rfl (by simp)

theorem Power.focus : ∀ (p : Power) {u v : List Lexeme},
    p.lexemes = u ++ .caret :: v → Focus Power.lexemes Power.grouping p u v
  | .plain base, u, v, same =>
      base.focus Power.plain [] [] same (by simp)
        (fun x y alike => congrArg (fun e => Grouping.mk e none) alike) leads_nil rfl (by simp)
  | .raised base pos exponent, u, v, same => by
      rw [Power.lexemes_raised] at same
      rcases append_cons_cases same with ⟨v', inside, rfl⟩ | ⟨rfl, -, rfl⟩ | ⟨u', rfl, inside⟩
      · exact base.focus (Power.raised · pos exponent) [] (.caret :: exponent.lexemes) inside
          (by simp)
          (fun x y alike => congrArg (Grouping.join · exponent.regrouped exponent.grouping) alike)
          leads_nil rfl rfl
      · exact ⟨id, base, pos, exponent, [], [], rfl, rfl, by simp, by simp, fun p q alike => alike,
          leads_nil, trails_nil⟩
      · exact (exponent.focus inside).lift (Power.raised base pos) (base.lexemes ++ [.caret]) []
          (by simp)
          (fun x y alike => congrArg (fun sense : Expr × Option Grouping × Option Grouping =>
            Grouping.join base.regrouped sense.1 sense.2.2) alike)
          (leads_concat _ rfl) trails_nil (by simp) (by simp)

/-- A caret among the words of a primary is inside a bracket, so anything may follow these. -/
theorem Primary.focus {β τ : Type} {lexemes : β → List Lexeme} {sense : β → τ} :
    ∀ (b : Primary) (wrap : Primary → β) (pre post : List Lexeme) {u v u' v' : List Lexeme},
    b.lexemes = u ++ .caret :: v → (∀ x, lexemes (wrap x) = pre ++ (x.lexemes ++ post)) →
    (∀ x y : Primary, x.regrouped = y.regrouped → sense (wrap x) = sense (wrap y)) →
    Leads pre → u' = pre ++ u → v' = v ++ post → Focus lexemes sense (wrap b) u' v'
  | .number text pos, wrap, pre, post, u, v, u', v', same, words, alike, leading, left, right => by
      cases u <;> simp at same
  | .name text pos, wrap, pre, post, u, v, u', v', same, words, alike, leading, left, right => by
      cases u <;> simp at same
  | .call text pos opening args closing, wrap, pre, post, u, v, u', v', same, words, alike,
      leading, left, right => by
      rw [Primary.lexemes_call] at same
      obtain ⟨u, rfl, after⟩ := caret_after (by simp) same
      obtain ⟨u, rfl, within⟩ := caret_after (by simp) after
      obtain ⟨v, inside, rfl⟩ := caret_before (by simp) within
      exact (args.focus inside).lift (fun args => wrap (.call text pos opening args closing))
        (pre ++ [.name text, .opening]) (.closing :: post) (by simp [words])
        (fun x y same => alike _ _ (congrArg (fun es => Expr.call text es 0) same))
        (leading.append (leads_concat [.name text] rfl)) (trails_cons rfl _)
        (by simp [left]) (by simp [right])
  | .group opening inner closing, wrap, pre, post, u, v, u', v', same, words, alike, leading,
      left, right => by
      rw [Primary.lexemes_group] at same
      obtain ⟨u, rfl, within⟩ := caret_after (by simp) same
      obtain ⟨v, inside, rfl⟩ := caret_before (by simp) within
      exact (inner.focus inside).lift (fun inner => wrap (.group opening inner closing))
        (pre ++ [.opening]) (.closing :: post) (by simp [words])
        (fun x y same => alike _ _ (congrFun same (id, id))) (leads_concat _ rfl)
        (trails_cons rfl _) (by simp [left]) (by simp [right])

theorem Args.focus : ∀ (a : Args) {u v : List Lexeme},
    a.lexemes = u ++ .caret :: v → Focus Args.lexemes Args.regrouped a u v
  | .last e, u, v, same =>
      (e.focus same).lift Args.last [] [] (by simp)
        (fun x y alike => congrArg (fun e => [e]) (congrFun alike (id, id)))
        leads_nil trails_nil rfl (by simp)
  | .more e comma rest, u, v, same => by
      rw [Args.lexemes_more] at same
      rcases append_cons_cases same with ⟨v', inside, rfl⟩ | ⟨-, caret, -⟩ | ⟨u', rfl, inside⟩
      · exact (e.focus inside).lift (Args.more · comma rest) [] (.comma :: rest.lexemes)
          (by simp)
          (fun x y alike => congrArg (· :: rest.regrouped) (congrFun alike (id, id)))
          leads_nil (trails_cons rfl _) rfl rfl
      · simp at caret
      · exact (rest.focus inside).lift (Args.more e comma) (e.lexemes ++ [.comma]) []
          (by simp)
          (fun x y alike => congrArg (e.regroupedUnder id id :: ·) alike)
          (leads_concat _ rfl) trails_nil (by simp) (by simp)

end

/-! ## Symbols between operands -/

theorem isSymbol_sign (op : Sign) : op.lexeme.IsSymbol := by
  cases op
  · exact ⟨'+', rfl⟩
  · exact ⟨'-', rfl⟩

theorem isSymbol_factor (op : Factor) : op.lexeme.IsSymbol := by
  cases op
  · exact ⟨'*', rfl⟩
  · exact ⟨'/', rfl⟩

theorem isSymbol_caret : Lexeme.caret.IsSymbol := ⟨'^', rfl⟩

theorem isSymbol_opening : Lexeme.opening.IsSymbol := ⟨'(', rfl⟩

theorem isSymbol_closing : Lexeme.closing.IsSymbol := ⟨')', rfl⟩

theorem isSymbol_comma : Lexeme.comma.IsSymbol := ⟨',', rfl⟩

/-- A symbol may stand between words. -/
theorem isChain_apart_append_cons {a b : List Lexeme} {w : Lexeme} (symbol : w.IsSymbol)
    (first : a.IsChain Lexeme.Apart) (second : b.IsChain Lexeme.Apart) :
    (a ++ w :: b).IsChain Lexeme.Apart := by
  refine List.isChain_append.2 ⟨first, List.isChain_cons.2 ⟨fun w' _ => .inl symbol, second⟩, ?_⟩
  intro w' _ w'' head
  obtain rfl : w = w'' := by simpa using head
  exact .inr symbol

mutual

/-- Of two neighbours in an expression one is a symbol. -/
theorem Expression.apart : ∀ e : Expression, e.lexemes.IsChain Lexeme.Apart
  | .last t => t.apart
  | .more t op pos rest => by
      rw [Expression.lexemes_more]
      exact isChain_apart_append_cons (isSymbol_sign op) t.apart rest.apart

theorem Term.apart : ∀ t : Term, t.lexemes.IsChain Lexeme.Apart
  | .last u => u.apart
  | .more u op pos rest => by
      rw [Term.lexemes_more]
      exact isChain_apart_append_cons (isSymbol_factor op) u.apart rest.apart

theorem Unary.apart : ∀ u : Unary, u.lexemes.IsChain Lexeme.Apart
  | .signed op _ operand =>
      isChain_apart_append_cons (a := []) (isSymbol_sign op) .nil operand.apart
  | .power p => p.apart

theorem Power.apart : ∀ p : Power, p.lexemes.IsChain Lexeme.Apart
  | .plain base => base.apart
  | .raised base pos exponent => by
      rw [Power.lexemes_raised]
      exact isChain_apart_append_cons isSymbol_caret base.apart exponent.apart

theorem Primary.apart : ∀ b : Primary, b.lexemes.IsChain Lexeme.Apart
  | .number _ _ | .name _ _ => .singleton _
  | .call text pos opening args closing => by
      rw [Primary.lexemes_call]
      exact isChain_apart_append_cons (a := [.name text]) isSymbol_opening (.singleton _)
        (isChain_apart_append_cons isSymbol_closing args.apart .nil)
  | .group opening inner closing => by
      rw [Primary.lexemes_group]
      exact isChain_apart_append_cons (a := []) isSymbol_opening .nil
        (isChain_apart_append_cons isSymbol_closing inner.apart .nil)

theorem Args.apart : ∀ a : Args, a.lexemes.IsChain Lexeme.Apart
  | .last e => e.apart
  | .more e comma rest => by
      rw [Args.lexemes_more]
      exact isChain_apart_append_cons isSymbol_comma e.apart rest.apart

end

end Quadrature.Grammar
