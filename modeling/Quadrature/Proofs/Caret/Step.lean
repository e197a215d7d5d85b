/-
# Quadrature.Proofs.Caret.Step -- what one expansion does

At the caret of a derivation, expansion takes the base, and of the exponent the first primary with
at most one sign, and writes a call in their place. A power that goes on behind that primary goes
on behind the call. The new text is spelled by pieces again, and they are the words of a derivation
with the same chain of powers, unless the chain went on to an exponent that could be expanded too.

* `expandAt_eq_none`: an exponent with two signs stays;
* `expandAt_eq_some`: any other becomes an argument of a call;
* `grouping_expanded`: the chain of powers is the same.
-/
import Quadrature.Proofs.Caret.Spans

namespace Quadrature

set_option autoImplicit false

open Quadrature.Text
open Quadrature.Piece (spell)

/-! ## The derivation -/

namespace Grammar

/-- The power of a base and perhaps an exponent. -/
def Power.join (base : Primary) : Option (Nat × Unary) → Power
  | none => .plain base
  | some (pos, exponent) => .raised base pos exponent

/-- The unary of a power and perhaps a sign. -/
def Unary.join (p : Power) : Option (Sign × Nat) → Unary
  | none => .power p
  | some (op, pos) => .signed op pos (.power p)

/-- Where a caret and an exponent go on after an operand. -/
def Power.goesOn : Option (Nat × Unary) → List Lexeme
  | none => []
  | some (_, exponent) => .caret :: exponent.lexemes

/-- The sign before an operand. -/
def Unary.signs : Option (Sign × Nat) → List Lexeme
  | none => []
  | some (op, _) => [op.lexeme]

@[simp] theorem Power.lexemes_join (base : Primary) (tail : Option (Nat × Unary)) :
    (Power.join base tail).lexemes = base.lexemes ++ Power.goesOn tail := by
  cases tail <;> simp [Power.join, Power.goesOn]

@[simp] theorem Unary.lexemes_join (p : Power) (sign : Option (Sign × Nat)) :
    (Unary.join p sign).lexemes = Unary.signs sign ++ p.lexemes := by
  cases sign <;> simp [Unary.join, Unary.signs]

theorem Power.exists_join (p : Power) : ∃ base tail, p = Power.join base tail := by
  cases p with
  | plain base => exact ⟨base, none, rfl⟩
  | raised base pos exponent => exact ⟨base, some (pos, exponent), rfl⟩

/-- An exponent has two signs, or begins with a primary and at most one. -/
theorem Unary.twice_or_join (u : Unary) :
    (∃ op pos op' pos' v, u = .signed op pos (.signed op' pos' v)) ∨
      ∃ base tail sign, u = Unary.join (Power.join base tail) sign := by
  match u with
  | .power p =>
      obtain ⟨base, tail, rfl⟩ := p.exists_join
      exact .inr ⟨base, tail, none, rfl⟩
  | .signed op pos (.power p) =>
      obtain ⟨base, tail, rfl⟩ := p.exists_join
      exact .inr ⟨base, tail, some (op, pos), rfl⟩
  | .signed op pos (.signed op' pos' v) => exact .inl ⟨op, pos, op', pos', v, rfl⟩

/-- The call of `pow` that a base and an exponent become. -/
def powCall (base exponent : Unary) : Primary :=
  .call "pow" 0 0 (.more (.last (.last base)) 0 (.last (.last (.last exponent)))) 0

theorem regrouped_powCall (base exponent : Unary) :
    (powCall base exponent).regrouped = Expr.powerCall base.regrouped exponent.regrouped := by
  simp only [powCall, Primary.regrouped, Args.regrouped, Expression.regroupedUnder,
    Term.regroupedUnder, id, Expr.powerCall]

@[simp] theorem lexemes_powCall (base exponent : Unary) : (powCall base exponent).lexemes =
    .name "pow" :: .opening :: (base.lexemes ++ .comma :: (exponent.lexemes ++ [.closing])) := by
  simp [powCall]

/-- The power written as a call, which goes on where the exponent went on. -/
def expanded (base exponent : Primary) (tail : Option (Nat × Unary))
    (sign : Option (Sign × Nat)) : Power :=
  Power.join (powCall (.power (.plain base)) (Unary.join (.plain exponent) sign)) tail

/-- The chain of powers is the same if it did not go on, or went on to an exponent that stays. -/
theorem grouping_expanded (base exponent : Primary) (pos : Nat) {tail : Option (Nat × Unary)}
    (sign : Option (Sign × Nat)) (stays : ∀ t ∈ tail, t.2.grouping = none) :
    (expanded base exponent tail sign).grouping =
      (Power.raised base pos (Unary.join (Power.join exponent tail) sign)).grouping := by
  cases tail with
  | none =>
      cases sign <;>
        simp only [expanded, Power.join, Unary.join, Power.grouping, Unary.grouping, Unary.unsigned,
          Option.map, Grouping.join, Grouping.raise, Grouping.signed, regrouped_powCall,
          Unary.regrouped, Grouping.value]
  | some t =>
      obtain ⟨pos', u⟩ := t
      have none : u.grouping = none := stays _ rfl
      cases sign <;>
        simp only [expanded, Power.join, Unary.join, Power.grouping, Unary.grouping, Unary.unsigned,
          Option.map, Grouping.join, Grouping.raise, Grouping.signed, regrouped_powCall,
          Unary.regrouped, Grouping.value, none]

end Grammar

/-! ## The pieces -/

theorem Caret.powerCall_eq (base exponent : List Char) : powerCall base exponent =
    ['p', 'o', 'w', '('] ++ base ++ [',', ' '] ++ exponent ++ [')'] := by
  delta powerCall
  simp

namespace Piece

/-- The pieces with other blanks before them. -/
def regap (gap : List Char) (blank : ∀ c ∈ gap, isBlank c = true) : List Piece → List Piece
  | [] => []
  | p :: ps => { p with gap := gap, blank := blank } :: ps

@[simp] theorem word_regap {gap : List Char} (blank : ∀ c ∈ gap, isBlank c = true)
    (ps : List Piece) : (regap gap blank ps).map word = ps.map word := by
  cases ps <;> rfl

theorem spell_regap {gap : List Char} (blank : ∀ c ∈ gap, isBlank c = true) {ps : List Piece}
    (some : ps ≠ []) : spell (regap gap blank ps) = gap ++ ink ps := by
  cases ps with
  | nil => exact absurd rfl some
  | cons p ps => rfl

/-- A symbol right behind the word before it. -/
def symbol (w : Lexeme) (c : Char) (makes : Lexeme.ofChar? c = some w) : Piece :=
  ⟨[], w, by simp, Lexeme.fits_symbol makes []⟩

/-- The name `pow` behind blanks. -/
def pow (gap : List Char) (blank : ∀ c ∈ gap, isBlank c = true) : Piece :=
  ⟨gap, .name "pow", blank,
    Lexeme.fits_name_iff.2 ⟨'p', ['o', 'w'], rfl, rfl, List.all_eq_true.1 rfl, by simp⟩⟩

/-- The pieces of a call of `pow` in the place of a base and an exponent. -/
def powCall (base exponent : List Piece) : List Piece :=
  pow (lead base) (Caret.lead_blank base) :: symbol .opening '(' rfl ::
    (regap [] (by simp) base ++ symbol .comma ',' rfl ::
      (regap [' '] isBlank_space exponent ++ [symbol .closing ')' rfl]))

@[simp] theorem word_powCall (base exponent : List Piece) : (powCall base exponent).map word =
    .name "pow" :: .opening :: (base.map word ++ .comma :: (exponent.map word ++ [.closing])) := by
  simp [powCall, symbol, pow]

theorem spell_powCall {base exponent : List Piece} (some : base ≠ []) (some' : exponent ≠ []) :
    spell (powCall base exponent) =
      lead base ++ Caret.powerCall (ink base) (ink exponent) := by
  simp only [powCall, spell, spell_append, spell_regap _ some, spell_regap _ some']
  simp [symbol, pow, Caret.powerCall_eq, Lexeme.text]

end Piece

/-! ## The text -/

namespace Caret

open Quadrature.Grammar (Expression Unary Power Primary Sign Leads)
open Quadrature.Lexeme (Apart IsSign ofChar?)

/-- What two spans, one behind the other, cut out of a list and leave at its ends. -/
theorem cut_spans {α : Type} (a b m e c : List α) :
    (a ++ b ++ m ++ e ++ c).take a.length = a ∧
      ((a ++ b ++ m ++ e ++ c).drop a.length).take ((a ++ b).length - a.length) = b ∧
      ((a ++ b ++ m ++ e ++ c).drop (a ++ b ++ m).length).take
        ((a ++ b ++ m ++ e).length - (a ++ b ++ m).length) = e ∧
      (a ++ b ++ m ++ e ++ c).drop (a ++ b ++ m ++ e).length = c := by
  have length : (a ++ b ++ m ++ e).length - (a ++ b ++ m).length = e.length := by
    rw [List.length_append, Nat.add_sub_cancel_left]
  refine ⟨by simp, by simp, ?_, List.drop_left⟩
  rw [length, List.append_assoc _ e, List.drop_left, List.take_left]

/-- Where both spans are found, the text between them gives way to the call. -/
theorem expandAt_of_spans {a b m e c : List Char} {i : Nat}
    (base : findBase (a ++ b ++ m ++ e ++ c) i = some (a.length, (a ++ b).length))
    (exponent : findExponent (a ++ b ++ m ++ e ++ c) i =
      some ((a ++ b ++ m).length, (a ++ b ++ m ++ e).length)) :
    expandAt (a ++ b ++ m ++ e ++ c) i = some (a ++ powerCall b e ++ c) := by
  obtain ⟨start, first, second, stop⟩ := cut_spans a b m e c
  rw [expandAt_eq_slices, base, exponent]
  simp only [Option.bind_eq_bind, Option.bind_some, slice, start, first, second, stop]
  rfl

/-- The exponent behind a caret is found with its sign. -/
theorem findExponent_eq_some (exponent : Primary) (sign : Option (Sign × Nat))
    {es cs : List Piece} {x tail : List Char}
    (words : es.map Piece.word = Unary.signs sign ++ exponent.lexemes)
    (apart : ((es ++ cs).map Piece.word).IsChain Apart) (blank : ∀ c ∈ tail, isBlank c = true)
    (other : ∀ p ∈ cs.head?, p.word ≠ .opening) :
    findExponent (x ++ '^' :: (spell es ++ (spell cs ++ tail))) x.length =
      some ((x ++ '^' :: Piece.lead es).length, (x ++ '^' :: spell es).length) := by
  cases sign with
  | none => exact findExponent_unsigned exponent words apart blank other
  | some s =>
      obtain ⟨op, pos⟩ := s
      obtain ⟨q, es, rfl, word, words⟩ := List.map_eq_cons_iff.1 words
      exact findExponent_signed op exponent word words apart.tail blank other

theorem ne_nil_of_words {ps : List Piece} {words : List Lexeme} (some : words ≠ [])
    (same : ps.map Piece.word = words) : ps ≠ [] := by
  rintro rfl
  exact some same.symm

theorem lexemes_ne_nil (b : Primary) : b.lexemes ≠ [] := by
  cases b <;> simp

/-- The power whose operands are found is written as a call. -/
theorem expandAt_eq_some (base exponent : Primary) (sign : Option (Sign × Nat))
    {as bs es cs : List Piece} {cr : Piece} {tail : List Char}
    (leading : Leads (as.map Piece.word))
    (apart : ((as ++ (bs ++ cr :: (es ++ cs))).map Piece.word).IsChain Apart)
    (words : bs.map Piece.word = base.lexemes) (caret : cr.word = .caret)
    (words' : es.map Piece.word = Unary.signs sign ++ exponent.lexemes)
    (unglued : ∀ p ∈ bs.head?, Unglued as p) (other : ∀ p ∈ cs.head?, p.word ≠ .opening)
    (blank : ∀ c ∈ tail, isBlank c = true) :
    expandAt (spell (as ++ (bs ++ cr :: (es ++ cs))) ++ tail) (spell (as ++ bs) ++ cr.gap).length =
      some (spell (as ++ (Piece.powCall bs es ++ cs)) ++ tail) := by
  have apart' : ((es ++ cs).map Piece.word).IsChain Apart := by
    simp only [List.map_append, List.map_cons] at apart ⊢
    exact (List.isChain_append.1 (List.isChain_append.1 apart).2.1).2.1.tail
  have apart'' : (as.map Piece.word).IsChain Apart := by
    rw [List.map_append] at apart
    exact (List.isChain_append.1 apart).1
  have some : bs ≠ [] := ne_nil_of_words (lexemes_ne_nil base) words
  have some' : es ≠ [] := ne_nil_of_words (by simp [lexemes_ne_nil]) words'
  have found := findBase_primary base (r := '^' :: (spell es ++ (spell cs ++ tail))) leading
    apart'' words cr.blank unglued
  have found' := findExponent_eq_some exponent sign (x := spell as ++ spell bs ++ cr.gap) words'
    apart' blank other
  have expanded := expandAt_of_spans (a := spell as ++ Piece.lead bs) (b := Piece.ink bs)
    (m := cr.gap ++ '^' :: Piece.lead es) (e := Piece.ink es) (c := spell cs ++ tail)
    (i := (spell (as ++ bs) ++ cr.gap).length)
  have text : spell (as ++ (bs ++ cr :: (es ++ cs))) ++ tail =
      spell as ++ Piece.lead bs ++ Piece.ink bs ++ (cr.gap ++ '^' :: Piece.lead es) ++
        Piece.ink es ++ (spell cs ++ tail) := by
    simp [Piece.spell_eq_lead_append_ink bs, Piece.spell_eq_lead_append_ink es, spell, caret,
      Lexeme.text]
  rw [text, expanded]
  · simp [Piece.spell_powCall some some']
  · simpa [Piece.spell_eq_lead_append_ink bs, Piece.spell_eq_lead_append_ink es, Nat.add_assoc]
      using found
  · simpa [Piece.spell_eq_lead_append_ink bs, Piece.spell_eq_lead_append_ink es, Nat.add_assoc]
      using found'

/-- A power whose exponent has two signs stays. -/
theorem expandAt_eq_none {op op' : Sign} {us vs : List Piece} {cr q q' : Piece} {tail : List Char}
    (caret : cr.word = .caret) (sign : q.word = op.lexeme) (sign' : q'.word = op'.lexeme) :
    expandAt (spell (us ++ cr :: q :: q' :: vs) ++ tail) (spell us ++ cr.gap).length = none := by
  have text : spell (us ++ cr :: q :: q' :: vs) ++ tail =
      (spell us ++ cr.gap) ++ '^' :: (spell [q, q'] ++ (spell vs ++ tail)) := by
    simp [spell, caret, Lexeme.text]
  unfold expandAt
  rw [text, findExponent_none sign sign']
  cases findBase (spell us ++ cr.gap ++ '^' :: (spell [q, q'] ++ (spell vs ++ tail)))
    (spell us ++ cr.gap).length <;> rfl

/-! ## The derivation around a caret -/

/-- Two signs come first. -/
def Twice (vs : List Piece) : Prop :=
  ∃ q q' rest, ∃ op op' : Sign, vs = q :: q' :: rest ∧ q.word = op.lexeme ∧ q'.word = op'.lexeme

/-- The power at a caret of a derivation between the pieces `us` and `vs`, if the exponent has not
two signs: the pieces of the base and of the exponent that is taken, and what surrounds them. -/
structure Site (e : Expression) (us vs : List Piece) where
  base : Primary
  exponent : Primary
  sign : Option (Sign × Nat)
  goesOn : Option (Nat × Unary)
  before : List Piece
  basePieces : List Piece
  exponentPieces : List Piece
  after : List Piece
  left : us = before ++ basePieces
  right : vs = exponentPieces ++ after
  base_words : basePieces.map Piece.word = base.lexemes
  exponent_words : exponentPieces.map Piece.word = Unary.signs sign ++ exponent.lexemes
  leading : Leads (before.map Piece.word)
  other : ∀ p ∈ after.head?, p.word ≠ .opening
  /-- The pieces after the exponent that is taken begin with the caret where it goes on. -/
  rest : List Lexeme
  after_words : after.map Piece.word = Power.goesOn goesOn ++ rest
  plug : Power → Expression
  plug_words : ∀ p, (plug p).lexemes = before.map Piece.word ++ (p.lexemes ++ rest)
  plug_regrouped : ∀ p q, p.grouping = q.grouping → (plug p).regrouped = (plug q).regrouped
  pos : Nat
  whole : plug (.raised base pos (Unary.join (Power.join exponent goesOn) sign)) = e

/-- At every caret of a derivation there is a power. -/
theorem twice_or_site {e : Expression} {us vs : List Piece} {cr : Piece}
    (words : (us ++ cr :: vs).map Piece.word = e.lexemes) (caret : cr.word = .caret) :
    Twice vs ∨ Nonempty (Site e us vs) := by
  rw [List.map_append, List.map_cons, caret] at words
  obtain ⟨plug, base, pos, exponent, before, after, whole, left, right, plug_words, same, leading,
    trailing⟩ := e.focus words.symm
  obtain ⟨as, bs, rfl, before_words, base_words⟩ := List.map_eq_append_iff.1 left
  rcases exponent.twice_or_join with ⟨op, pos, op', pos', v, rfl⟩ | ⟨b, goesOn, sign, rfl⟩
  · rw [Unary.lexemes_signed, Unary.lexemes_signed] at right
    obtain ⟨q, vs, rfl, sign, right⟩ := List.map_eq_cons_iff.1 right
    obtain ⟨q', vs, rfl, sign', right⟩ := List.map_eq_cons_iff.1 right
    exact .inl ⟨q, q', vs, op, op', rfl, sign, sign'⟩
  · rw [Unary.lexemes_join, Power.lexemes_join, List.append_assoc, List.append_assoc,
      ← List.append_assoc] at right
    obtain ⟨es, cs, rfl, exponent_words, after_words⟩ := List.map_eq_append_iff.1 right
    refine .inr ⟨⟨base, b, sign, goesOn, as, bs, es, cs, rfl, rfl, base_words, exponent_words,
      before_words ▸ leading, ?_, after, after_words, plug, before_words ▸ plug_words,
      fun p q alike => congrFun (same p q alike) (id, id), pos, whole⟩⟩
    intro p first opening
    obtain ⟨cs, rfl⟩ := List.head?_eq_some_iff.1 first
    rw [List.map_cons, opening] at after_words
    cases goesOn with
    | none =>
        have := trailing .opening (by simp [← show _ = after from after_words])
        simp [Grammar.trails] at this
    | some t => simp [Power.goesOn] at after_words

namespace Site

variable {e : Expression} {us vs : List Piece} (s : Site e us vs)

/-- The derivation with the power written as a call. -/
def result : Expression := s.plug (Grammar.expanded s.base s.exponent s.goesOn s.sign)

/-- The pieces with the power written as a call. -/
def pieces : List Piece :=
  s.before ++ (Piece.powCall s.basePieces s.exponentPieces ++ s.after)

theorem result_words : s.pieces.map Piece.word = s.result.lexemes := by
  rw [pieces, result, s.plug_words]
  simp [s.base_words, s.exponent_words, s.after_words, Grammar.expanded]

/-- The caret where the exponent goes on. -/
theorem exists_next {pos : Nat} {u : Unary} (next : s.goesOn = some (pos, u)) :
    ∃ cr vs', s.after = cr :: vs' ∧ cr.word = .caret ∧
      vs'.map Piece.word = u.lexemes ++ s.rest := by
  have words := s.after_words
  rw [next] at words
  obtain ⟨cr, vs', after, caret, rest⟩ := List.map_eq_cons_iff.1 words
  exact ⟨cr, vs', after, caret, rest⟩

end Site

/-- An exponent that begins with two signs makes no chain. -/
theorem grouping_eq_none_of_twice {u : Unary} {vs : List Piece} {rest : List Lexeme}
    (words : vs.map Piece.word = u.lexemes ++ rest) (twice : Twice vs) : u.grouping = none := by
  obtain ⟨q, q', vs, op, op', rfl, sign, sign'⟩ := twice
  rw [List.map_cons, List.map_cons, sign, sign'] at words
  rcases u.twice_or_join with ⟨op, pos, op', pos', v, rfl⟩ | ⟨b, goesOn, s, rfl⟩
  · simp [Unary.grouping, Unary.unsigned]
  · -- The primary would begin with a sign.
    obtain ⟨t, ts, first, starts⟩ := b.words_head
    have head : b.lexemes = t.lexeme :: ts.map Token.lexeme := by
      rw [Primary.lexemes, first, List.map_cons]
    have other : ∀ op : Sign, t.lexeme ≠ op.lexeme := by
      intro op same
      rw [same] at starts
      cases op <;> simp [Sign.lexeme, Grammar.startsPrimary] at starts
    rw [Unary.lexemes_join, Power.lexemes_join, head] at words
    cases s with
    | none =>
        obtain ⟨same, -⟩ := List.cons.inj words
        exact absurd same.symm (other op)
    | some s =>
        obtain ⟨-, words⟩ := List.cons.inj words
        obtain ⟨same, -⟩ := List.cons.inj words
        exact absurd same.symm (other op')

namespace Site

variable {e : Expression} {us vs : List Piece} (s : Site e us vs) {cr : Piece} {tail : List Char}

/-- Expansion of a base that is not glued to what is before it. -/
theorem expandAt_eq (words : (us ++ cr :: vs).map Piece.word = e.lexemes)
    (caret : cr.word = .caret) (unglued : ∀ p ∈ s.basePieces.head?, Unglued s.before p)
    (blank : ∀ c ∈ tail, isBlank c = true) :
    expandAt (spell (us ++ cr :: vs) ++ tail) (spell us ++ cr.gap).length =
      some (spell s.pieces ++ tail) := by
  have apart : ((us ++ cr :: vs).map Piece.word).IsChain Apart := words ▸ e.apart
  obtain ⟨base, exponent, sign, goesOn, as, bs, es, cs, rfl, rfl, base_words, exponent_words,
    leading, other, rest, after_words, plug, plug_words, plug_regrouped, pos, whole⟩ := s
  have expanded := expandAt_eq_some base exponent sign leading (by simpa using apart) base_words
    caret exponent_words unglued other blank
  simpa [pieces] using expanded

/-- Expansion keeps what the derivation denotes as expansion groups it. -/
theorem result_regrouped (stays : ∀ cr' vs', s.after = cr' :: vs' → cr'.word = .caret → Twice vs') :
    s.result.regrouped = e.regrouped := by
  have none : ∀ t ∈ s.goesOn, t.2.grouping = none := by
    intro t next
    obtain ⟨pos, u⟩ := t
    obtain ⟨cr', vs', after, caret, words⟩ := s.exists_next next
    exact grouping_eq_none_of_twice words (stays cr' vs' after caret)
  have same := s.plug_regrouped _ _ (Grammar.grouping_expanded s.base s.exponent s.pos s.sign none)
  rw [s.whole] at same
  exact same

/-- Expansion takes away one caret. -/
theorem count_caret (caret : cr.word = .caret) : (s.pieces.map Piece.word).count .caret + 1 =
    ((us ++ cr :: vs).map Piece.word).count .caret := by
  have left := congrArg (fun ps => (ps.map Piece.word).count .caret) s.left
  have right := congrArg (fun ps => (ps.map Piece.word).count .caret) s.right
  simp only [List.map_append, List.count_append] at left right
  simp [pieces, List.count_append, caret, left, right]
  omega

end Site

/-! ## The rightmost caret -/

theorem not_mem_blanks {c : Char} {w : Lexeme} {gap : List Char} (symbol : ofChar? c = some w)
    (blank : ∀ c ∈ gap, isBlank c = true) : c ∉ gap := by
  intro member
  have ink := (symbol_separate symbol).1
  simp [blank c member] at ink

theorem split_after {c : Char} {a r x y : List Char} (none : c ∉ a) (text : a ++ r = x ++ c :: y) :
    ∃ x', x = a ++ x' ∧ r = x' ++ c :: y := by
  rcases List.append_eq_append_iff.1 text with ⟨x', rfl, rest⟩ | ⟨a', rfl, rest⟩
  · exact ⟨x', rfl, rest⟩
  · cases a' with
    | nil => exact ⟨[], by simp, by simpa using rest.symm⟩
    | cons c' a' =>
        obtain ⟨rfl, -⟩ := List.cons.inj rest
        exact absurd (by simp) none

/-- Every symbol of the text but a sign is that of a piece. -/
theorem exists_symbol_piece {c : Char} {w : Lexeme} (symbol : ofChar? c = some w)
    (unsigned : ¬ IsSign c) {ps : List Piece} {tail x y : List Char}
    (blank : ∀ c ∈ tail, isBlank c = true) (text : spell ps ++ tail = x ++ c :: y) :
    ∃ us o vs, ps = us ++ o :: vs ∧ o.word = w ∧ x = spell us ++ o.gap ∧ y = spell vs ++ tail := by
  induction ps generalizing x with
  | nil =>
      have member : c ∈ tail := by
        rw [show tail = x ++ c :: y from text]
        simp
      exact absurd member (not_mem_blanks symbol blank)
  | cons p ps ih =>
      rw [spell, List.append_assoc] at text
      obtain ⟨x, rfl, inner⟩ := split_after (not_mem_blanks symbol p.blank) text
      by_cases here : p.word = w
      · rw [here, symbol_text symbol] at inner
        cases x with
        | nil =>
            refine ⟨[], p, ps, rfl, here, by simp [spell], ?_⟩
            exact (List.cons.inj inner).2.symm
        | cons c' x =>
            obtain ⟨rfl, rest⟩ := List.cons.inj inner
            obtain ⟨us, o, vs, rfl, there, rfl, rfl⟩ := ih rest
            exact ⟨p :: us, o, vs, rfl, there, by simp [spell, here, symbol_text symbol], rfl⟩
      · rw [List.append_assoc] at inner
        have other : c ∉ p.word.text.toList := fun member =>
          here (p.fits.eq_of_mem symbol unsigned member)
        obtain ⟨x, rfl, rest⟩ := split_after other inner
        obtain ⟨us, o, vs, rfl, there, rfl, rfl⟩ := ih rest
        exact ⟨p :: us, o, vs, rfl, there, by simp [spell], rfl⟩

/-- Every caret of the text is that of a piece. -/
theorem exists_caret_piece {ps : List Piece} {tail x y : List Char}
    (blank : ∀ c ∈ tail, isBlank c = true) (text : spell ps ++ tail = x ++ '^' :: y) :
    ∃ us cr vs, ps = us ++ cr :: vs ∧ cr.word = .caret ∧ x = spell us ++ cr.gap ∧
      y = spell vs ++ tail :=
  exists_symbol_piece rfl (by decide) blank text

theorem count_spell (ps : List Piece) {tail : List Char} (blank : ∀ c ∈ tail, isBlank c = true) :
    (spell ps ++ tail).count '^' = (ps.map Piece.word).count .caret := by
  induction ps with
  | nil =>
      apply List.count_eq_zero.2
      intro member
      exact absurd (blank _ member) (by decide)
  | cons p ps ih =>
      have word : p.word.text.toList.count '^' = if p.word = .caret then 1 else 0 := by
        by_cases caret : p.word = .caret
        · rw [if_pos caret, caret]
          rfl
        · rw [if_neg caret]
          exact List.count_eq_zero.2 fun member => caret (p.fits.eq_of_mem rfl (by decide) member)
      have gap : p.gap.count '^' = 0 := List.count_eq_zero.2 (not_mem_blanks rfl p.blank)
      rw [spell, List.append_assoc, List.append_assoc, List.count_append, List.count_append, gap,
        word, ih, List.map_cons, List.count_cons]
      simp only [beq_iff_eq]
      omega

/-- The search goes through the carets of a text from the right. -/
theorem findSome?_carets (f : Nat → Option (List Char)) (offset : Nat) (s : List Char) :
    ((carets offset s).reverse.findSome? f = none ∧
        ∀ x y, s = x ++ '^' :: y → f (offset + x.length) = none) ∨
      ∃ x y r, s = x ++ '^' :: y ∧ (carets offset s).reverse.findSome? f = some r ∧
        f (offset + x.length) = some r ∧
        ∀ x' y', y = x' ++ '^' :: y' → f (offset + (x ++ '^' :: x').length) = none := by
  have shift : ∀ (c : Char) (x : List Char), offset + (c :: x).length = offset + 1 + x.length := by
    intro c x
    simp only [List.length_cons]
    omega
  induction s generalizing offset with
  | nil =>
      refine .inl ⟨rfl, fun x y same => ?_⟩
      simp at same
  | cons c s ih =>
      have next := ih (offset + 1) (fun c x => by simp only [List.length_cons]; omega)
      by_cases caret : c = '^'
      · subst caret
        rw [carets, if_pos rfl, List.reverse_cons, List.findSome?_append]
        rcases next with ⟨none, all⟩ | ⟨x, y, r, rfl, some, found, later⟩
        · rw [none, Option.none_or]
          cases here : f offset with
          | none =>
              refine .inl ⟨by simp [here], fun x y same => ?_⟩
              cases x with
              | nil => simpa using here
              | cons c x =>
                  obtain ⟨rfl, rest⟩ := List.cons.inj same
                  rw [shift]
                  exact all x y rest
          | some r =>
              refine .inr ⟨[], s, r, rfl, by simp [here], by simpa using here, fun x y same => ?_⟩
              rw [List.nil_append, shift]
              exact all x y same
        · refine .inr ⟨'^' :: x, y, r, rfl, by rw [some, Option.some_or], ?_, fun x' y' same => ?_⟩
          · rw [shift]
            exact found
          · rw [List.cons_append, shift]
            exact later x' y' same
      · rw [carets, if_neg caret]
        rcases next with ⟨none, all⟩ | ⟨x, y, r, rfl, some, found, later⟩
        · refine .inl ⟨none, fun x y same => ?_⟩
          cases x with
          | nil => exact absurd (List.cons.inj same).1 caret
          | cons c x =>
              obtain ⟨rfl, rest⟩ := List.cons.inj same
              rw [shift]
              exact all x y rest
        · refine .inr ⟨c :: x, y, r, rfl, some, ?_, fun x' y' same => ?_⟩
          · rw [shift]
            exact found
          · rw [List.cons_append, shift]
            exact later x' y' same

/-- Where no power is expanded, none could be at any caret. -/
theorem expandAt_eq_none_of_rightmost {text x y : List Char} (none : expandRightmost text = none)
    (split : text = x ++ '^' :: y) : expandAt text x.length = Option.none := by
  rcases findSome?_carets (expandAt text) 0 text with ⟨-, all⟩ | ⟨-, -, r, -, some, -⟩
  · simpa using all x y split
  · rw [expandRightmost, some] at none
    simp at none

/-- The power that is expanded is the last that can be. -/
theorem exists_rightmost {text text' : List Char} (some : expandRightmost text = some text') :
    ∃ x y, text = x ++ '^' :: y ∧ expandAt text x.length = Option.some text' ∧
      ∀ x' y', y = x' ++ '^' :: y' → expandAt text (x ++ '^' :: x').length = none := by
  rcases findSome?_carets (expandAt text) 0 text with
    ⟨none, -⟩ | ⟨x, y, r, split, found, here, later⟩
  · rw [expandRightmost, none] at some
    simp at some
  · obtain rfl : r = text' := by
      rw [expandRightmost, found] at some
      exact Option.some.inj some
    exact ⟨x, y, split, by simpa using here, fun x' y' same => by simpa using later x' y' same⟩

end Caret

end Quadrature
