/-
# Quadrature.Proofs.Caret.Rejection -- expansion repairs no text

Expansion works on any text, also on one that is no expression or uses an unknown name. It puts a
name, a comma and parentheses into the text, and cuts it where operands begin and end. If the result
is compiled, the text was an expression before: the name is no part of a longer one, so it is called
with what stands between its parentheses. Of these arguments the first begins with the base that was
cut out and the second with the exponent, and each search that found one of them also tells where
the derivation ends it. So there are two arguments, and the power of both can take the place of
the call.

* `exists_arguments`: the arguments that were written;
* `Readable.of_expandAt`, `Readable.of_normalize`: the text before expansion is read and accepted;
* `normalize_refused`: no fault but the nesting limit goes away.
-/
import Quadrature.Proofs.Caret.Preservation

namespace Quadrature

set_option autoImplicit false

open Quadrature.Text
open Quadrature.Piece (spell lead ink)

/-! ## The first operand of arguments -/

namespace Grammar

/-- The expression of one unary. -/
def Expression.single (u : Unary) : Expression := .last (.last u)

@[simp] theorem Expression.lexemes_single (u : Unary) : (single u).lexemes = u.lexemes := by
  simp [single]

@[simp] theorem Expression.uses_single (u : Unary) : (single u).uses = u.uses := by
  simp [single, Expression.uses, Term.uses]

/-- The word is an operator between two operands. -/
def IsOperator (w : Lexeme) : Prop := (∃ op : Sign, w = op.lexeme) ∨ ∃ op : Factor, w = op.lexeme

theorem IsOperator.other {w : Lexeme} (operator : IsOperator w) :
    w ≠ .opening ∧ w ≠ .comma ∧ w ≠ .closing := by
  rcases operator with ⟨op, rfl⟩ | ⟨op, rfl⟩
  · cases op <;> simp [Sign.lexeme]
  · cases op <;> simp [Factor.lexeme]

/-- An expression is one unary, or an operator follows the first. -/
theorem Expression.exists_first (e : Expression) : ∃ (u : Unary) (rest : List Lexeme),
    e.lexemes = u.lexemes ++ rest ∧
      ((rest = [] ∧ e = .single u) ∨ ∃ w more, rest = w :: more ∧ IsOperator w) := by
  match e with
  | .last (.last u) => exact ⟨u, [], by simp, .inl ⟨rfl, rfl⟩⟩
  | .last (.more u op pos rest) =>
      exact ⟨u, op.lexeme :: rest.lexemes, by simp, .inr ⟨_, _, rfl, .inr ⟨op, rfl⟩⟩⟩
  | .more (.last u) op pos rest =>
      exact ⟨u, op.lexeme :: rest.lexemes, by simp, .inr ⟨_, _, rfl, .inl ⟨op, rfl⟩⟩⟩
  | .more (.more u op' pos' rest') op pos rest =>
      exact ⟨u, op'.lexeme :: (rest'.lexemes ++ op.lexeme :: rest.lexemes), by simp,
        .inr ⟨_, _, rfl, .inr ⟨op', rfl⟩⟩⟩

/-- The first argument is one unary, or an operator follows the first. -/
theorem Args.exists_first (a : Args) : ∃ (u : Unary) (rest : List Lexeme),
    a.lexemes = u.lexemes ++ rest ∧
      ((rest = [] ∧ a = .last (.single u)) ∨
        (∃ comma more, rest = .comma :: more.lexemes ∧ a = .more (.single u) comma more) ∨
        ∃ w more, rest = w :: more ∧ IsOperator w) := by
  cases a with
  | last e =>
      obtain ⟨u, rest, words, ⟨rfl, rfl⟩ | operator⟩ := e.exists_first
      · exact ⟨u, [], by simp, .inl ⟨rfl, rfl⟩⟩
      · exact ⟨u, rest, by simpa using words, .inr (.inr operator)⟩
  | more e comma more =>
      obtain ⟨u, rest, words, ⟨rfl, rfl⟩ | ⟨w, rest', rfl, operator⟩⟩ := e.exists_first
      · exact ⟨u, .comma :: more.lexemes, by simp, .inr (.inl ⟨comma, more, rfl, rfl⟩)⟩
      · exact ⟨u, w :: (rest' ++ .comma :: more.lexemes), by simp [words],
          .inr (.inr ⟨w, _, rfl, operator⟩)⟩

end Grammar

/-! ## Operands in the text of a derivation -/

namespace Caret

open Quadrature.Grammar (Expression Unary Power Primary Args Sign Known IsOperator append_cons_cases)
open Quadrature.Lexeme (Apart IsSign ofChar?)

section Operands

variable {ps : List Piece} {tail g r : List Char}

/-- Blanks before ink are the blanks before the first piece. -/
theorem exists_first_piece {c : Char} (blank : ∀ c ∈ tail, isBlank c = true)
    (blank' : ∀ c ∈ g, isBlank c = true) (ink : isBlank c = false)
    (text : spell ps ++ tail = g ++ c :: r) :
    ∃ p qs, ps = p :: qs ∧ p.gap = g ∧ p.word.text.toList ++ (spell qs ++ tail) = c :: r := by
  cases ps with
  | nil =>
      have member : c ∈ tail := by
        rw [show tail = g ++ c :: r from text]
        simp
      simp [blank c member] at ink
  | cons p qs =>
      obtain ⟨d, s, head, ink'⟩ := p.fits.head
      rw [spell, List.append_assoc, List.append_assoc, head, List.cons_append] at text
      rcases append_cons_cases text with ⟨t, gap, -⟩ | ⟨gap, rfl, rest⟩ | ⟨t, gap, -⟩
      · simp [p.blank c (by simp [gap])] at ink
      · exact ⟨p, qs, rfl, gap, by rw [head, List.cons_append, rest]⟩
      · simp [blank' d (by simp [gap])] at ink'

/-- A symbol before which there are no blanks is that of the first piece. -/
theorem exists_symbol_first {c : Char} {w : Lexeme} (symbol : ofChar? c = some w)
    (unsigned : ¬ IsSign c) (blank : ∀ c ∈ tail, isBlank c = true)
    (text : spell ps ++ tail = c :: r) :
    ∃ q qs, ps = q :: qs ∧ q.word = w ∧ r = spell qs ++ tail := by
  obtain ⟨us, q, qs, rfl, word, empty, behind⟩ :=
    exists_symbol_piece (x := []) symbol unsigned blank text
  cases us with
  | nil => exact ⟨q, qs, rfl, word, behind⟩
  | cons p us =>
      obtain ⟨c, s, head, -⟩ := p.fits.head
      simp [spell, head] at empty

/-- A primary and an operand that begin at the same place are the same text: the search that goes
forwards stops at the end of either. -/
theorem ink_eq_operand (b : Primary) {bs ms : List Piece} {o : List Char} {d : Char}
    (words : bs.map Piece.word = b.lexemes) (apart : ((bs ++ ms).map Piece.word).IsChain Apart)
    (blank : ∀ c ∈ tail, isBlank c = true) (other : ∀ q ∈ ms.head?, q.word ≠ .opening)
    (operand : Operand o) (ends : d = ',' ∨ d = ')')
    (text : ink bs ++ (spell ms ++ tail) = o ++ d :: r) :
    ink bs = o ∧ spell ms ++ tail = d :: r := by
  have stop := operandStop_primary b (a := []) words apart blank other
  have stop' := operand.operandStop_eq (a := []) (r := r) ends
  rw [List.nil_append] at stop stop'
  rw [text, stop'] at stop
  exact List.append_inj text (by simpa using stop.symm)

/-- Where a text of words goes on with an operand and a comma or a parenthesis, the derivation goes
on with that operand alone. -/
theorem exists_plain {u : Unary} {rest : List Lexeme} {o : List Char} {d : Char} {k : Lexeme}
    (words : ps.map Piece.word = u.lexemes ++ rest) (apart : (ps.map Piece.word).IsChain Apart)
    (blank : ∀ c ∈ tail, isBlank c = true) (other : ∀ w ∈ rest.head?, w ≠ .opening)
    (operand : Operand o) (blank' : ∀ c ∈ g, isBlank c = true) (symbol : ofChar? d = some k)
    (ends : d = ',' ∨ d = ')') (text : spell ps ++ tail = g ++ (o ++ d :: r)) :
    ∃ (b : Primary) (bs : List Piece) (q : Piece) (cs : List Piece),
      u = .power (.plain b) ∧ ps = bs ++ q :: cs ∧ bs.map Piece.word = b.lexemes ∧ lead bs = g ∧
        ink bs = o ∧ rest = k :: cs.map Piece.word ∧ r = spell cs ++ tail := by
  obtain ⟨c, s, head, inked, unsigned⟩ := operand.ink
  obtain ⟨p, qs, rfl, gap, begins⟩ := exists_first_piece blank blank' inked
    (text.trans (by rw [head, List.cons_append]))
  cases u with
  | signed op pos u =>
      -- The operand begins with no sign.
      obtain ⟨d, first, sign⟩ := text_sign op
      obtain ⟨word, -⟩ := List.cons.inj words
      rw [word, first] at begins
      obtain rfl : d = c := (List.cons.inj begins).1
      exact absurd sign unsigned
  | power power =>
      obtain ⟨b, goesOn, rfl⟩ := power.exists_join
      rw [Grammar.Unary.lexemes_power, Power.lexemes_join, List.append_assoc] at words
      obtain ⟨bs, ms, split, base, behind⟩ := List.map_eq_append_iff.1 words
      have leading : lead bs = g := by
        cases bs with
        | nil => exact absurd base.symm (lexemes_ne_nil b)
        | cons p' bs => rw [← gap, (List.cons.inj split).1, lead]
      rw [split, Piece.spell_append, List.append_assoc, Piece.spell_eq_lead_append_ink bs, leading,
        List.append_assoc] at text
      have other' : ∀ q ∈ ms.head?, q.word ≠ .opening := by
        intro q first
        obtain ⟨ms, rfl⟩ := List.head?_eq_some_iff.1 first
        cases goesOn with
        | none => exact other _ (by simp [← show _ = rest from behind])
        | some t => simp [show q.word = .caret from (List.cons.inj behind).1]
      obtain ⟨same, after⟩ := ink_eq_operand b base (split ▸ apart) blank other' operand ends
        (List.append_cancel_left text)
      obtain ⟨q, cs, rfl, word, behind'⟩ := exists_symbol_first symbol
        (by rcases ends with rfl | rfl <;> decide) blank after
      -- What follows is no caret, so the power does not go on.
      obtain rfl : goesOn = none := by
        cases goesOn with
        | none => rfl
        | some t =>
            have caret : q.word = .caret := (List.cons.inj behind).1
            rw [word] at caret
            rcases ends with rfl | rfl <;> simp [ofChar?, caret] at symbol
      refine ⟨b, bs, q, cs, rfl, split, base, leading, same, ?_, behind'⟩
      rw [← word]
      exact behind.symm

/-- The same with an operand that may have a sign. -/
theorem exists_signed_plain {u : Unary} {rest : List Lexeme} {o : List Char} {d : Char} {k : Lexeme}
    (words : ps.map Piece.word = u.lexemes ++ rest) (apart : (ps.map Piece.word).IsChain Apart)
    (blank : ∀ c ∈ tail, isBlank c = true) (other : ∀ w ∈ rest.head?, w ≠ .opening)
    (operand : SignedOperand o) (blank' : ∀ c ∈ g, isBlank c = true) (symbol : ofChar? d = some k)
    (ends : d = ',' ∨ d = ')') (text : spell ps ++ tail = g ++ (o ++ d :: r)) :
    ∃ (b : Primary) (sign : Option (Sign × Nat)) (es : List Piece) (q : Piece) (cs : List Piece),
      u = Unary.join (.plain b) sign ∧ ps = es ++ q :: cs ∧
        es.map Piece.word = Unary.signs sign ++ b.lexemes ∧ ink es = o ∧
        rest = k :: cs.map Piece.word ∧ r = spell cs ++ tail := by
  cases operand with
  | plain operand =>
      obtain ⟨b, es, q, cs, rfl, split, base, -, same, behind, after⟩ :=
        exists_plain words apart blank other operand blank' symbol ends text
      exact ⟨b, none, es, q, cs, rfl, split, base, same, behind, after⟩
  | @signed c g' o sign blank'' operand =>
      have inked : isBlank c = false := by rcases sign with rfl | rfl <;> decide
      rw [List.cons_append, List.append_assoc] at text
      obtain ⟨p, qs, rfl, -, begins⟩ := exists_first_piece blank blank' inked text
      cases u with
      | power power =>
          -- No primary begins with a sign.
          obtain ⟨b, goesOn, rfl⟩ := power.exists_join
          rw [Grammar.Unary.lexemes_power, Power.lexemes_join, List.append_assoc] at words
          obtain ⟨bs, ms, split, base, -⟩ := List.map_eq_append_iff.1 words
          obtain ⟨c', s, first, -, unsigned⟩ := ink_primary b base
          cases bs with
          | nil => simp [ink] at first
          | cons p' bs =>
              rw [List.cons_append] at split
              obtain ⟨rfl, rfl⟩ := List.cons.inj split
              rw [Piece.spell_append, List.append_assoc, ← List.append_assoc,
                show p.word.text.toList ++ spell bs = c' :: s from first] at begins
              obtain rfl : c' = c := (List.cons.inj begins).1
              exact absurd sign unsigned
      | signed op pos u =>
          obtain ⟨d, first, -⟩ := text_sign op
          obtain ⟨word, words⟩ := List.cons.inj words
          rw [word, first] at begins
          obtain ⟨rfl, later⟩ := List.cons.inj begins
          obtain ⟨b, es, q, cs, rfl, rfl, base, leading, same, behind, after⟩ :=
            exists_plain words apart.tail blank other operand blank'' symbol ends later
          refine ⟨b, some (op, pos), p :: es, q, cs, rfl, rfl, ?_, ?_, behind, after⟩
          · rw [List.map_cons, word, base]
            rfl
          · rw [ink, word, first, Piece.spell_eq_lead_append_ink, leading, same]
            rfl

/-- No parenthesis opens behind the first operand of arguments. -/
theorem ne_opening_of_next {P : Prop} {Q : Nat → Args → Prop} {rest : List Lexeme}
    (after : List Lexeme) (next : (rest = [] ∧ P) ∨
      (∃ comma more, rest = .comma :: Args.lexemes more ∧ Q comma more) ∨
      ∃ w more, rest = w :: more ∧ IsOperator w) :
    ∀ w ∈ (rest ++ .closing :: after).head?, w ≠ .opening := by
  intro w head
  rcases next with ⟨rfl, -⟩ | ⟨comma, more, rfl, -⟩ | ⟨w', more, rfl, operator⟩
  · obtain rfl : Lexeme.closing = w := by simpa using head
    simp
  · obtain rfl : Lexeme.comma = w := by simpa using head
    simp
  · obtain rfl : w' = w := by simpa using head
    exact operator.other.1

/-- Where operands, a comma and a parenthesis were written behind the name of a call, these are the
arguments of the call. -/
theorem exists_arguments {vs : List Piece} {args : Args} {after : List Lexeme} {b e : List Char}
    (words : vs.map Piece.word = args.lexemes ++ .closing :: after)
    (apart : (vs.map Piece.word).IsChain Apart) (blank : ∀ c ∈ tail, isBlank c = true)
    (base : Operand b) (exponent : SignedOperand e)
    (text : spell vs ++ tail = b ++ ',' :: ' ' :: (e ++ ')' :: r)) :
    ∃ (base exponent : Primary) (sign : Option (Sign × Nat)) (comma : Nat) (bs : List Piece)
      (q : Piece) (es : List Piece) (q' : Piece) (cs : List Piece),
      args = .more (.single (.power (.plain base))) comma
          (.last (.single (Unary.join (.plain exponent) sign))) ∧
        bs.map Piece.word = base.lexemes ∧ ink bs = b ∧
        es.map Piece.word = Unary.signs sign ++ exponent.lexemes ∧ ink es = e ∧
        vs = bs ++ q :: (es ++ q' :: cs) ∧ after = cs.map Piece.word ∧ r = spell cs ++ tail := by
  -- The first argument ends where the base does.
  obtain ⟨u, rest, first, next⟩ := args.exists_first
  rw [first, List.append_assoc] at words
  obtain ⟨base, bs, q, vs, rfl, rfl, base_words, -, base_text, behind, text⟩ :=
    exists_plain (g := []) words apart blank (ne_opening_of_next after next) base (by simp) rfl
      (.inl rfl) text
  obtain ⟨comma, more, rfl, rfl⟩ : ∃ comma more, rest = .comma :: Args.lexemes more ∧
      args = .more (.single (.power (.plain base))) comma more := by
    rcases next with ⟨rfl, -⟩ | ⟨comma, more, rfl, same⟩ | ⟨w, more, rfl, operator⟩
    · cases (List.cons.inj behind).1
    · exact ⟨comma, more, rfl, same⟩
    · exact absurd (List.cons.inj behind).1 operator.other.2.1
  -- The second ends where the exponent does, and the parenthesis behind it closes the call.
  have words : vs.map Piece.word = more.lexemes ++ .closing :: after :=
    (List.cons.inj behind).2.symm
  have apart : (vs.map Piece.word).IsChain Apart := by
    rw [List.map_append, List.map_cons] at apart
    exact (List.isChain_append.1 apart).2.1.tail
  obtain ⟨u, rest, first, next⟩ := more.exists_first
  rw [first, List.append_assoc] at words
  obtain ⟨exponent, sign, es, q', cs, rfl, rfl, exponent_words, exponent_text, closes, text⟩ :=
    exists_signed_plain words apart blank (ne_opening_of_next after next) exponent isBlank_space rfl
      (.inr rfl) text.symm
  obtain ⟨rfl, rfl⟩ : rest = [] ∧ more = .last (.single (Unary.join (.plain exponent) sign)) := by
    rcases next with ends | ⟨comma, more, rfl, -⟩ | ⟨w, more, rfl, operator⟩
    · exact ends
    · cases (List.cons.inj closes).1
    · exact absurd (List.cons.inj closes).1 operator.other.2.2
  exact ⟨base, exponent, sign, comma, bs, q, es, q', cs, rfl, base_words, base_text, exponent_words,
    exponent_text, rfl, (List.cons.inj closes).2, text⟩

end Operands

end Caret

/-! ## Texts that are read -/

namespace Compiled

open Caret
open Quadrature.Grammar (Expression Unary Power Known CallAt)
open Quadrature.Parse (parseWithin)

variable {free : String} {text : List Char}

/-- The text is read, without a limit of depth, as a tree that is accepted. -/
def Readable (free : String) (text : List Char) : Prop :=
  ∃ t, parseWithin none text = .ok t ∧ Expr.Accepted free t

/-- A text that is read and accepted spells a derivation all of whose names are known. -/
theorem Readable.exists_spelling (readable : Readable free text) :
    ∃ (e : Expression) (ps : List Piece) (tail : List Char), text = spell ps ++ tail ∧
      (∀ c ∈ tail, isBlank c = true) ∧
      Token.tokenize text = .ok ⟨Piece.place 0 ps, text.length⟩ ∧
      ps.map Piece.word = e.lexemes ∧ Known free e.uses := by
  obtain ⟨t, read, accepted⟩ := readable
  obtain ⟨e, ps, tail, same, blank, tokenized, words, rfl⟩ := Grammar.exists_spelling read
  refine ⟨e, ps, tail, same, blank, tokenized, ?_, e.accepted_tree.1 accepted⟩
  rw [Expression.lexemes, words, Piece.place_lexeme]

theorem readable_of_spelling {e : Expression} {ps : List Piece} {tail : List Char}
    (words : ps.map Piece.word = e.lexemes) (blank : ∀ c ∈ tail, isBlank c = true)
    (known : Known free e.uses) : Readable free (spell ps ++ tail) := by
  obtain ⟨e', -, regrouped, read⟩ := Grammar.parse_spelling words blank
  refine ⟨e'.tree, read, ?_⟩
  rw [← e'.accepted_regrouped, regrouped, e.accepted_regrouped]
  exact e.accepted_tree.2 known

/-- A name that ends with `pow` and is that of a function is `pow` itself. -/
theorem stem_eq_nil {name : String} {f : Builtin} {stem : List Char}
    (known : Builtin.named? name = some f) (ends : name.toList = stem ++ ['p', 'o', 'w']) :
    stem = [] := by
  rcases List.eq_nil_or_concat stem with rfl | ⟨stem, c, rfl⟩
  · rfl
  · have unknown : Builtin.named? name = none := builtin_longer (by simpa using ends)
    rw [unknown] at known
    cases known

/-- **One expansion repairs no text**: if the text with a power written as a call is read and
accepted, so is the text with the power. -/
theorem Readable.of_expandAt {x y : List Char} (readable : Readable free text)
    (expanded : expandAt (x ++ '^' :: y) x.length = some text) : Readable free (x ++ '^' :: y) := by
  obtain ⟨a, b, g, g', e, c, rfl, rfl, rfl, blank, blank', operand, operand', -, -⟩ :=
    expandAt_split expanded
  obtain ⟨d, ps, tail, same, ends, -, words, known⟩ := readable.exists_spelling
  have apart : (ps.map Piece.word).IsChain Lexeme.Apart := words ▸ d.apart
  have split : spell ps ++ tail =
      a ++ ['p', 'o', 'w'] ++ '(' :: (b ++ ',' :: ' ' :: (e ++ ')' :: c)) := by
    rw [← same, powerCall_eq]
    simp
  -- The name that was written is called, so it did not become the end of a longer name.
  obtain ⟨qs, q, o, vs, name, stem, rfl, word, opens, letters, rfl, behind⟩ :=
    exists_called apart ends (List.all_eq_true.1 rfl) (by simp) split
  have call : CallAt free Expression.lexemes Expression.uses d name (qs.map Piece.word)
      (vs.map Piece.word) := d.callAt (by rw [← words]; simp [word, opens])
  obtain ⟨f, named⟩ := call.called_known known
  obtain rfl := stem_eq_nil named letters
  -- Its arguments are the operands that were cut out.
  obtain ⟨plug, pos, opening, args, closing, goesOn, after, others, rfl, right, plug_words,
    plug_known⟩ := call
  have apart' : (vs.map Piece.word).IsChain Lexeme.Apart := by
    rw [List.map_append, List.map_cons, List.map_cons] at apart
    exact (List.isChain_append.1 apart).2.1.tail.tail
  obtain ⟨base, exponent, sign, comma, bs, k, es, k', cs, rfl, base_words, rfl, exponent_words,
    rfl, rfl, rest, rfl⟩ := exists_arguments right apart' ends operand operand' behind.symm
  -- The power takes the place of the call.
  let power : Power := .raised base 0 (Unary.join (Power.join exponent goesOn) sign)
  let caret : Piece := ⟨g, .caret, blank, Lexeme.fits_symbol (c := '^') rfl []⟩
  let pieces := qs ++ (Piece.regap q.gap q.blank bs ++ caret :: (Piece.regap g' blank' es ++ cs))
  have spelled : pieces.map Piece.word = (plug power).lexemes := by
    rw [plug_words]
    simp [pieces, power, caret, base_words, exponent_words, ← rest]
  have text : spell pieces ++ tail =
      spell qs ++ q.gap ++ [] ++ ink bs ++ g ++ '^' :: (g' ++ (ink es ++ (spell cs ++ tail))) := by
    have some : bs ≠ [] := ne_nil_of_words (lexemes_ne_nil base) base_words
    have some' : es ≠ [] := ne_nil_of_words (by simp [lexemes_ne_nil]) exponent_words
    simp [pieces, caret, spell, Piece.spell_regap _ some, Piece.spell_regap _ some', Lexeme.text]
  rw [← text]
  refine readable_of_spelling spelled ends ((plug_known power).2 ?_)
  obtain ⟨elsewhere, inside⟩ := (plug_known _).1 known
  refine ⟨elsewhere, ?_⟩
  simp only [Power.uses_join, Grammar.Primary.uses, Grammar.Args.uses, Expression.uses_single,
    Unary.uses, Power.uses, Unary.uses_join, Grammar.known_append, Grammar.known_cons, power] at inside ⊢
  tauto

/-- No expansions repair a text. -/
theorem Readable.of_expandTimes (n : Nat) (readable : Readable free (expandTimes n text)) :
    Readable free text := by
  induction n generalizing text with
  | zero => exact readable
  | succ n ih =>
      rw [expandTimes] at readable
      split at readable
      · next expanded =>
          obtain ⟨x, y, rfl, found, -⟩ := exists_rightmost expanded
          exact (ih readable).of_expandAt found
      · exact readable

theorem Readable.of_normalize (readable : Readable free (normalize text)) : Readable free text :=
  readable.of_expandTimes _

/-- **Expansion repairs no text**: a text that is refused for anything but its depth is refused
after expansion too. -/
theorem normalize_refused {source free : String} {fault : CompileError}
    (refused : ofText source free = .error fault) (other : fault ≠ .nestedTooDeeply) :
    ∃ fault', ofText (normalizeString source) free = .error fault' := by
  cases compiled : ofText (normalizeString source) free with
  | error fault' => exact ⟨fault', rfl⟩
  | ok g =>
      obtain ⟨identifier, t, read, accepted, -⟩ := of_compiled compiled
      rw [normalizeString, String.toList_ofList] at read
      obtain ⟨t, read, accepted⟩ := Readable.of_normalize ⟨t, read, accepted⟩
      have shallow : ofText source free ≠ .error .nestedTooDeeply := by
        rw [refused]
        simpa using other
      obtain ⟨f, compiled', -⟩ := compiled_of identifier read accepted shallow
      have both : Except.error fault = .ok f := refused.symm.trans compiled'
      cases both

/-- The theorem at a text with a power that is expanded, and a parenthesis that nothing opens. -/
theorem normalize_refused_unopened :
    ofText "2^3)" "x" = .error (.unopenedGroup ⟨some ")", 3⟩) ∧
      CompileError.unopenedGroup ⟨some ")", 3⟩ ≠ .nestedTooDeeply ∧
      ∃ fault', ofText (normalizeString "2^3)") "x" = .error fault' := by
  have identifier : isIdentifier "x".toList = true := by decide +kernel
  have tokenized : Token.tokenize "2^3)".toList = .ok ⟨[⟨.number "2", 0⟩, ⟨.caret, 1⟩,
      ⟨.number "3", 2⟩, ⟨.closing, 3⟩], 4⟩ := by decide +kernel
  have read : parseWithin (some Parse.depthLimit) "2^3)".toList =
      .error (.unopenedGroup ⟨some ")", 3⟩) := by
    rw [parseWithin, tokenized]
    rfl
  have refused : ofText "2^3)" "x" = .error (.unopenedGroup ⟨some ")", 3⟩) := by
    rw [ofText, ofTextWithin, identifier, read]
    rfl
  exact ⟨refused, by simp, normalize_refused refused (by simp)⟩

end Compiled

end Quadrature
