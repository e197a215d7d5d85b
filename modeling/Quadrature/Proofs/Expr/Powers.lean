/-
# Quadrature.Proofs.Expr.Powers -- the powers of a derivation

A derivation has a power for each caret among its words: the primary before the caret is the base,
the unary after it the exponent. The words of a power stand one behind another in those of the
derivation, and only a word that an operand can follow stands before them, only a word that ends an
operand behind them.

* `Expression.carets`: the carets are those of the powers, in order;
* `Expression.holds`: where the words of a power stand;
* `Unary.taken?`: what an exponent begins with.
-/
import Quadrature.Proofs.Caret.Step

namespace Quadrature.Grammar

set_option autoImplicit false

/-- A base, the offset of a caret and an exponent. -/
structure Raising where
  base : Primary
  caret : Nat
  exponent : Unary

def Raising.words (r : Raising) : List Token :=
  r.base.words ++ ⟨.caret, r.caret⟩ :: r.exponent.words

mutual

/-- The powers of a derivation, in the order of their carets. -/
def Expression.powers : Expression → List Raising
  | .last t => t.powers
  | .more t _ _ rest => t.powers ++ rest.powers

def Term.powers : Term → List Raising
  | .last u => u.powers
  | .more u _ _ rest => u.powers ++ rest.powers

def Unary.powers : Unary → List Raising
  | .signed _ _ operand => operand.powers
  | .power p => p.powers

def Power.powers : Power → List Raising
  | .plain base => base.powers
  | .raised base pos exponent => base.powers ++ ⟨base, pos, exponent⟩ :: exponent.powers

def Primary.powers : Primary → List Raising
  | .number _ _ | .name _ _ => []
  | .call _ _ _ args _ => args.powers
  | .group _ inner _ => inner.powers

def Args.powers : Args → List Raising
  | .last e => e.powers
  | .more e _ rest => e.powers ++ rest.powers

end

/-! ## Carets -/

/-- The offsets of the carets among some words. -/
def caretsOf (ts : List Token) : List Nat :=
  (ts.filter (·.lexeme == .caret)).map Token.position

theorem caretsOf_append (ts us : List Token) :
    caretsOf (ts ++ us) = caretsOf ts ++ caretsOf us := by
  simp [caretsOf]

theorem caretsOf_caret (pos : Nat) (ts : List Token) :
    caretsOf (⟨.caret, pos⟩ :: ts) = pos :: caretsOf ts := by
  simp [caretsOf]

theorem caretsOf_cons {t : Token} (other : t.lexeme ≠ .caret) (ts : List Token) :
    caretsOf (t :: ts) = caretsOf ts := by
  simp [caretsOf, other]

theorem mem_caretsOf {ts : List Token} {i : Nat} : i ∈ caretsOf ts ↔ ⟨.caret, i⟩ ∈ ts := by
  simp only [caretsOf, List.mem_map, List.mem_filter, beq_iff_eq]
  constructor
  · rintro ⟨⟨w, i⟩, ⟨member, rfl⟩, rfl⟩
    exact member
  · intro member
    exact ⟨_, ⟨member, rfl⟩, rfl⟩

mutual

/-- The carets are those of the powers, in order. -/
theorem Expression.carets : ∀ e : Expression, caretsOf e.words = e.powers.map Raising.caret
  | .last t => t.carets
  | .more t op pos rest => by
      have other : op.lexeme ≠ .caret := by cases op <;> simp [Sign.lexeme]
      rw [Expression.words, Expression.powers, caretsOf_append, caretsOf_cons other, t.carets,
        rest.carets, List.map_append]

theorem Term.carets : ∀ t : Term, caretsOf t.words = t.powers.map Raising.caret
  | .last u => u.carets
  | .more u op pos rest => by
      have other : op.lexeme ≠ .caret := by cases op <;> simp [Factor.lexeme]
      rw [Term.words, Term.powers, caretsOf_append, caretsOf_cons other, u.carets, rest.carets,
        List.map_append]

theorem Unary.carets : ∀ u : Unary, caretsOf u.words = u.powers.map Raising.caret
  | .signed op pos operand => by
      have other : op.lexeme ≠ .caret := by cases op <;> simp [Sign.lexeme]
      rw [Unary.words, Unary.powers, caretsOf_cons other, operand.carets]
  | .power p => p.carets

theorem Power.carets : ∀ p : Power, caretsOf p.words = p.powers.map Raising.caret
  | .plain base => base.carets
  | .raised base pos exponent => by
      rw [Power.words, Power.powers, caretsOf_append, caretsOf_caret, base.carets, exponent.carets,
        List.map_append, List.map_cons]

theorem Primary.carets : ∀ b : Primary, caretsOf b.words = b.powers.map Raising.caret
  | .number text pos => rfl
  | .name text pos => rfl
  | .call text pos opening args closing => by
      rw [Primary.words, Primary.powers, caretsOf_cons (by simp), caretsOf_cons (by simp),
        caretsOf_append, args.carets, caretsOf_cons (by simp)]
      exact List.append_nil _
  | .group opening inner closing => by
      rw [Primary.words, Primary.powers, caretsOf_cons (by simp), caretsOf_append, inner.carets,
        caretsOf_cons (by simp)]
      exact List.append_nil _

theorem Args.carets : ∀ a : Args, caretsOf a.words = a.powers.map Raising.caret
  | .last e => e.carets
  | .more e comma rest => by
      rw [Args.words, Args.powers, caretsOf_append, caretsOf_cons (by simp), e.carets, rest.carets,
        List.map_append]

end

/-! ## Words -/

/-- The words of a power stand among some words. -/
def Holds (words : List Token) (r : Raising) : Prop :=
  ∃ before after, words = before ++ (r.words ++ after) ∧ Leads (before.map Token.lexeme) ∧
    Trails (after.map Token.lexeme)

theorem Raising.base_subset (r : Raising) : r.base.words ⊆ r.words :=
  List.subset_append_left _ _

theorem Raising.exponent_subset (r : Raising) : r.exponent.words ⊆ r.words :=
  List.subset_append_of_subset_right _ (List.subset_cons_self _ _)

theorem Holds.subset {words : List Token} {r : Raising} (holds : Holds words r) :
    r.words ⊆ words := by
  obtain ⟨before, after, rfl, -⟩ := holds
  exact List.subset_append_of_subset_right _ (List.subset_append_left _ _)

theorem Holds.within {words : List Token} {r : Raising} (holds : Holds words r)
    (pre post : List Token) (leading : Leads (pre.map Token.lexeme))
    (trailing : Trails (post.map Token.lexeme)) : Holds (pre ++ (words ++ post)) r := by
  obtain ⟨before, after, rfl, leading', trailing'⟩ := holds
  refine ⟨pre ++ before, after ++ post, by simp, ?_, ?_⟩
  · rw [List.map_append]
    exact leading.append leading'
  · rw [List.map_append]
    exact trailing'.append trailing

theorem Holds.before {words : List Token} {r : Raising} (holds : Holds words r) {t : Token}
    (trails : trails t.lexeme = true) (post : List Token) : Holds (words ++ t :: post) r :=
  holds.within [] (t :: post) leads_nil (trails_cons trails _)

theorem Holds.behind {words : List Token} {r : Raising} (holds : Holds words r) {t : Token}
    (leads : leads t.lexeme = true) (pre : List Token) : Holds (pre ++ t :: words) r := by
  have leading : Leads ((pre ++ [t]).map Token.lexeme) := by
    rw [List.map_append]
    exact leads_concat _ leads
  simpa using holds.within (pre ++ [t]) [] leading trails_nil

mutual

/-- The words of each power stand among those of the derivation. -/
theorem Expression.holds : ∀ (e : Expression), ∀ r ∈ e.powers, Holds e.words r
  | .last t, r, member => t.holds r member
  | .more t op pos rest, r, member => by
      rcases List.mem_append.1 member with first | after
      · exact (t.holds r first).before (trails_sign op) _
      · exact (rest.holds r after).behind (leads_sign op) _

theorem Term.holds : ∀ (t : Term), ∀ r ∈ t.powers, Holds t.words r
  | .last u, r, member => u.holds r member
  | .more u op pos rest, r, member => by
      rcases List.mem_append.1 member with first | after
      · exact (u.holds r first).before (trails_factor op) _
      · exact (rest.holds r after).behind (leads_factor op) _

theorem Unary.holds : ∀ (u : Unary), ∀ r ∈ u.powers, Holds u.words r
  | .signed op _ operand, r, member => (operand.holds r member).behind (leads_sign op) []
  | .power p, r, member => p.holds r member

theorem Power.holds : ∀ (p : Power), ∀ r ∈ p.powers, Holds p.words r
  | .plain base, r, member => by
      simpa [Power.words] using base.holds r member []
  | .raised base pos exponent, r, member => by
      rcases List.mem_append.1 member with first | after
      · exact base.holds r first _
      rcases List.mem_cons.1 after with rfl | inside
      · exact ⟨[], [], by simp [Power.words, Raising.words], leads_nil, trails_nil⟩
      · exact (exponent.holds r inside).behind rfl _

/-- The powers of a primary stand inside a bracket, so anything may follow it. -/
theorem Primary.holds : ∀ (b : Primary), ∀ r ∈ b.powers, ∀ post, Holds (b.words ++ post) r
  | .number text pos, r, member, post => by simp [Primary.powers] at member
  | .name text pos, r, member, post => by simp [Primary.powers] at member
  | .call text pos opening args closing, r, member, post => by
      have inside := (args.holds r member).before (t := ⟨.closing, closing⟩) rfl post
      simpa [Primary.words] using inside.behind (t := ⟨.opening, opening⟩) rfl [⟨.name text, pos⟩]
  | .group opening inner closing, r, member, post => by
      have inside := (inner.holds r member).before (t := ⟨.closing, closing⟩) rfl post
      simpa [Primary.words] using inside.behind (t := ⟨.opening, opening⟩) rfl []

theorem Args.holds : ∀ (a : Args), ∀ r ∈ a.powers, Holds a.words r
  | .last e, r, member => e.holds r member
  | .more e comma rest, r, member => by
      rcases List.mem_append.1 member with first | after
      · exact (e.holds r first).before rfl _
      · exact (rest.holds r after).behind rfl _

end

/-! ## What an exponent begins with -/

def Power.base : Power → Primary
  | .plain base | .raised base _ _ => base

/-- The words of the primary that a unary with at most one sign begins with, and of its sign. -/
def Unary.taken? : Unary → Option (List Token)
  | .signed op pos (.power p) => some (⟨op.lexeme, pos⟩ :: p.base.words)
  | .signed _ _ (.signed _ _ _) => none
  | .power p => some p.base.words

theorem Power.words_base (p : Power) :
    ∃ more, p.words = p.base.words ++ more ∧ ∀ t ∈ more.head?, t.lexeme = .caret := by
  cases p with
  | plain base => exact ⟨[], by simp [words, Power.base], by simp⟩
  | raised base pos exponent => exact ⟨⟨.caret, pos⟩ :: exponent.words, rfl, by simp⟩

/-- A unary has two signs, or what it begins with is taken and at most a caret follows. -/
theorem Unary.taken?_cases (u : Unary) :
    (u.taken? = none ∧ ∃ op pos op' pos' v, u = .signed op pos (.signed op' pos' v)) ∨
      ∃ ts base sign more, u.taken? = some ts ∧ u.words = ts ++ more ∧
        ts.map Token.lexeme = Unary.signs sign ++ Primary.lexemes base ∧
        ∀ t ∈ more.head?, t.lexeme = .caret := by
  match u with
  | .signed op pos (.signed op' pos' v) => exact .inl ⟨rfl, op, pos, op', pos', v, rfl⟩
  | .signed op pos (.power p) =>
      obtain ⟨more, split, caret⟩ := p.words_base
      exact .inr ⟨_, p.base, some (op, pos), more, rfl, by simp [words, split], rfl, caret⟩
  | .power p =>
      obtain ⟨more, split, caret⟩ := p.words_base
      exact .inr ⟨_, p.base, none, more, rfl, split, rfl, caret⟩

theorem Unary.taken?_subset {u : Unary} {ts : List Token} (taken : u.taken? = some ts) :
    ts ⊆ u.words := by
  rcases u.taken?_cases with ⟨none, -⟩ | ⟨ts', base, sign, more, taken', split, -⟩
  · simp [none] at taken
  · obtain rfl := Option.some.inj (taken.symm.trans taken')
    rw [split]
    exact List.subset_append_left ts more

end Quadrature.Grammar
