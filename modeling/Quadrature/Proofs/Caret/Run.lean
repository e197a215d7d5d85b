/-
# Quadrature.Proofs.Caret.Run -- all expansions of a text

Expansion goes from the right and stops where every caret that is left stands before two signs.
Unless a number is glued to a hook, every text on the way is spelled by the words of a derivation,
and all these derivations denote the same as expansion groups powers.

* `exists_spelling`, `parse_spelling`: a text is read if and only if it spells a derivation;
* `normalize_run`: the text that expansion ends with.
-/
import Quadrature.Proofs.Caret.Step
import Quadrature.Proofs.Expr.Reading

namespace Quadrature

set_option autoImplicit false

open Quadrature.Text
open Quadrature.Piece (spell place)

/-! ## Texts of derivations -/

namespace Grammar

open Quadrature.Parse (parseWithin)

/-- A text that is read spells the words of a derivation. -/
theorem exists_spelling {text : List Char} {t : Expr} (parsed : parseWithin none text = .ok t) :
    ∃ (e : Expression) (ps : List Piece) (tail : List Char), text = spell ps ++ tail ∧
      (∀ c ∈ tail, isBlank c = true) ∧ Token.tokenize text = .ok ⟨place 0 ps, text.length⟩ ∧
      e.words = place 0 ps ∧ e.tree = t := by
  cases scanned : Token.scan 0 text with
  | error fault =>
      simp [parseWithin, Token.tokenize, scanned, Except.map, bind, Except.bind] at parsed
  | ok ts =>
      obtain ⟨ps, tail, same, blank, rfl⟩ := Token.scan_split scanned
      have tokenized : Token.tokenize text = .ok ⟨place 0 ps, text.length⟩ := by
        rw [Token.tokenize, scanned]
        rfl
      obtain ⟨e, words, tree⟩ := (parseWithin_none_eq_ok_iff tokenized).1 parsed
      exact ⟨e, ps, tail, same, blank, tokenized, words, tree⟩

/-- A text that spells the words of a derivation is read as what these denote. -/
theorem parse_spelling {e : Expression} {ps : List Piece} {tail : List Char}
    (words : ps.map Piece.word = e.lexemes) (blank : ∀ c ∈ tail, isBlank c = true) :
    ∃ e' : Expression, e'.lexemes = e.lexemes ∧ e'.regrouped = e.regrouped ∧
      parseWithin none (spell ps ++ tail) = .ok e'.tree := by
  obtain ⟨e', placed, regrouped⟩ := e.exists_words ((Piece.place_lexeme 0 ps).trans words)
  have tokenized : Token.tokenize (spell ps ++ tail) =
      .ok ⟨place 0 ps, (spell ps ++ tail).length⟩ := by
    rw [Token.tokenize, Token.scan_spell 0 (words ▸ e.apart) blank]
    rfl
  refine ⟨e', ?_, regrouped id id, (parseWithin_none_eq_ok_iff tokenized).2 ⟨e', placed, rfl⟩⟩
  rw [Expression.lexemes, placed, Piece.place_lexeme, words]

end Grammar

namespace Caret

open Quadrature.Grammar (Expression Unary Power Primary Sign Leads divided_cases)
open Quadrature.Lexeme (Digits)

/-! ## Settled carets -/

/-- Every caret of the pieces stands before two signs. -/
def Settled (ps : List Piece) : Prop :=
  ∀ us cr vs, ps = us ++ cr :: vs → cr.word = .caret → Twice vs

/-- No caret of the pieces stands before two signs. -/
def Single (ps : List Piece) : Prop :=
  ∀ us cr vs, ps = us ++ cr :: vs → cr.word = .caret → ¬ Twice vs

/-- No sign comes first. -/
def Unsigned (ps : List Piece) : Prop := ∀ p ∈ ps.head?, ∀ op : Sign, p.word ≠ op.lexeme

theorem Twice.append {vs : List Piece} (twice : Twice vs) (rest : List Piece) :
    Twice (vs ++ rest) := by
  obtain ⟨q, q', vs, op, op', rfl, sign, sign'⟩ := twice
  exact ⟨q, q', vs ++ rest, op, op', rfl, sign, sign'⟩

/-- Two signs are before what begins with no sign. -/
theorem Twice.of_append {vs rest : List Piece} (twice : Twice (vs ++ rest))
    (unsigned : Unsigned rest) : Twice vs := by
  obtain ⟨q, q', ws, op, op', same, sign, sign'⟩ := twice
  match vs with
  | [] =>
      obtain rfl : rest = q :: q' :: ws := same
      exact absurd sign (unsigned q rfl op)
  | [v] =>
      obtain ⟨rfl, after⟩ := List.cons.inj same
      obtain rfl : rest = q' :: ws := after
      exact absurd sign' (unsigned q' rfl op')
  | v :: v' :: vs =>
      obtain ⟨rfl, after⟩ := List.cons.inj same
      obtain ⟨rfl, -⟩ := List.cons.inj after
      exact ⟨v, v', vs, op, op', rfl, sign, sign'⟩

theorem twice_append_iff {vs rest : List Piece} (unsigned : Unsigned rest) :
    Twice (vs ++ rest) ↔ Twice vs :=
  ⟨fun twice => twice.of_append unsigned, fun twice => twice.append rest⟩

theorem unsigned_cons {p : Piece} (ps : List Piece) (other : ∀ op : Sign, p.word ≠ op.lexeme) :
    Unsigned (p :: ps) := by
  simpa [Unsigned] using other

theorem unsigned_pow {gap : List Char} (blank : ∀ c ∈ gap, isBlank c = true) (ps : List Piece) :
    Unsigned (Piece.pow gap blank :: ps) :=
  unsigned_cons ps fun op => by cases op <;> simp [Piece.pow, Sign.lexeme]

theorem unsigned_comma (ps : List Piece) : Unsigned (Piece.symbol .comma ',' rfl :: ps) :=
  unsigned_cons ps fun op => by cases op <;> simp [Piece.symbol, Sign.lexeme]

theorem word_ne_sign_of_leads {w : Lexeme} (other : Grammar.leads w = false) (op : Sign) :
    w ≠ op.lexeme := by
  rintro rfl
  cases op <;> simp [Sign.lexeme, Grammar.leads] at other

/-! ## Glued numbers -/

/-- A hook, a number of digits right behind it and a caret. The search for the base of the power
finds the longer number that begins inside the name of the hook. -/
structure Window (p q n cr : Piece) : Prop where
  hook : Nonempty (Hook p q)
  near : n.gap = []
  number : ∃ t, n.word = .number t
  digits : Digits n.word.text.toList
  caret : cr.word = .caret

/-- The base of a power that is expanded is glued to a hook. -/
def Glued (ps : List Piece) : Prop :=
  ∃ xs p q n cr vs, ps = xs ++ ([p, q, n, cr] ++ vs) ∧ Window p q n cr ∧ ¬ Twice vs

theorem Window.of_word {p p' q n cr : Piece} (window : Window p q n cr) (same : p'.word = p.word) :
    Window p' q n cr := by
  obtain ⟨⟨hook⟩, near, number, digits, caret⟩ := window
  exact ⟨⟨{ hook with name := same.trans hook.name }⟩, near, number, digits, caret⟩

/-- No bracket and no comma is in a window. -/
theorem Window.other {p q n cr w : Piece} (window : Window p q n cr) (member : w ∈ [p, q, n, cr]) :
    w.word ≠ .opening ∧ w.word ≠ .comma ∧ w.word ≠ .closing := by
  obtain ⟨⟨hook⟩, near, ⟨t, number⟩, digits, caret⟩ := window
  simp only [List.mem_cons, List.not_mem_nil, or_false] at member
  rcases member with rfl | rfl | rfl | rfl
  · simp [hook.name]
  · rw [hook.sign]
    cases hook.op <;> simp [Sign.lexeme]
  · simp [number]
  · simp [caret]

/-- Pieces that differ only in the blanks before the first. -/
structure Regapped (ps ps' : List Piece) : Prop where
  words : ps'.map Piece.word = ps.map Piece.word
  tail : ps'.tail = ps.tail

/-- Other blanks before pieces are other blanks before some of them, or change nothing there. -/
theorem exists_of_regap {gap : List Char} {blank : ∀ c ∈ gap, isBlank c = true}
    {ps xs win vs : List Piece} (some : win ≠ [])
    (same : Piece.regap gap blank ps = xs ++ (win ++ vs)) :
    ∃ xs' win', ps = xs' ++ (win' ++ vs) ∧ Regapped win win' := by
  obtain ⟨w, win, rfl⟩ := List.exists_cons_of_ne_nil some
  cases ps with
  | nil => cases xs <;> simp [Piece.regap] at same
  | cons p ps =>
      cases xs with
      | nil =>
          obtain ⟨rfl, rfl⟩ := List.cons.inj same
          exact ⟨[], p :: win, rfl, rfl, rfl⟩
      | cons x xs =>
          obtain ⟨-, rfl⟩ := List.cons.inj same
          exact ⟨p :: xs, w :: win, rfl, rfl, rfl⟩

/-- What does not end with the last piece stands before it. -/
theorem exists_of_concat {before xs win vs : List Piece} {p cr : Piece} (other : p.word ≠ cr.word)
    (same : before ++ [p] = xs ++ (win ++ [cr] ++ vs)) :
    ∃ vs', vs = vs' ++ [p] ∧ before = xs ++ (win ++ [cr] ++ vs') := by
  rcases List.eq_nil_or_concat vs with rfl | ⟨vs', v, rfl⟩
  · rw [List.append_nil, ← List.append_assoc] at same
    obtain ⟨-, last⟩ := List.append_inj' same rfl
    obtain rfl : p = cr := by simpa using last
    exact absurd rfl other
  · rw [List.concat_eq_append, ← List.append_assoc, ← List.append_assoc] at same
    obtain ⟨front, last⟩ := List.append_inj' same rfl
    obtain rfl : p = v := by simpa using last
    exact ⟨vs', List.concat_eq_append, by rw [front, List.append_assoc]⟩

theorem Regapped.exists_last {win win' : List Piece} {cr : Piece}
    (regapped : Regapped (win ++ [cr]) win') : ∃ w cr', win' = w ++ [cr'] ∧ cr'.word = cr.word := by
  have words := regapped.words
  rw [List.map_append] at words
  obtain ⟨w, last, rfl, -, single⟩ := List.map_eq_append_iff.1 words
  obtain ⟨cr', rest, rfl, word, none⟩ := List.map_eq_cons_iff.1 single
  obtain rfl := List.map_eq_nil_iff.1 none
  exact ⟨w, cr', rfl, word⟩

theorem Window.of_regapped {p q n cr : Piece} {win : List Piece} (window : Window p q n cr)
    (regapped : Regapped [p, q, n, cr] win) : ∃ p', win = [p', q, n, cr] ∧ Window p' q n cr := by
  obtain ⟨words, tail⟩ := regapped
  obtain ⟨p', win, rfl, word, -⟩ := List.map_eq_cons_iff.1 words
  obtain rfl : win = [q, n, cr] := tail
  exact ⟨p', rfl, window.of_word word⟩

theorem exists_number {p : Piece} (digits : Digits p.word.text.toList) :
    ∃ t, p.word = .number t := by
  rcases p.word.isSymbol_or with ⟨t, number⟩ | ⟨t, name⟩ | ⟨c, symbol⟩
  · exact ⟨t, number⟩
  · obtain ⟨c, n, text, start, -⟩ := Lexeme.fits_name_iff.1 (name ▸ p.fits)
    have digit := digits c (by simp [name, Lexeme.text, text])
    simp [(nameStart_separate start).2.1] at digit
  · have digit := digits c (by simp [symbol_text symbol])
    simp [(symbol_separate symbol).2.1] at digit

theorem unsigned_of_primary {b : Primary} {ps : List Piece}
    (words : ps.map Piece.word = b.lexemes) (rest : List Piece) : Unsigned (ps ++ rest) := by
  obtain ⟨t, ts, first, starts⟩ := b.words_head
  have lexemes : b.lexemes = t.lexeme :: ts.map Token.lexeme := by
    rw [Primary.lexemes, first, List.map_cons]
  obtain ⟨p, ps, rfl, word, -⟩ := List.map_eq_cons_iff.1 (words.trans lexemes)
  apply unsigned_cons (ps ++ rest)
  intro op same
  rw [← word, same] at starts
  cases op <;> simp [Sign.lexeme, Grammar.startsPrimary] at starts

/-- A primary that no window ends with is not glued to what is before it. -/
theorem unglued_of_words {b : Primary} {as bs : List Piece} {cr : Piece}
    (words : bs.map Piece.word = b.lexemes) (caret : cr.word = .caret)
    (free : ∀ xs p q n, as ++ bs = xs ++ [p, q, n] → ¬ Window p q n cr) :
    ∀ p ∈ bs.head?, Unglued as p := by
  intro p first near digits qs p' q split
  refine ⟨fun hook => ?_⟩
  obtain ⟨ps, rfl⟩ := List.head?_eq_some_iff.1 first
  obtain ⟨t, number⟩ := exists_number digits
  obtain rfl : ps = [] := by
    cases b <;> simp [number] at words
    exact words.2
  refine free qs p' q p ?_ ⟨⟨hook⟩, near, ⟨t, number⟩, digits, caret⟩
  rw [split]
  simp

/-- The last word of a primary. -/
theorem last_primary (b : Primary) : ∀ w ∈ b.lexemes.getLast?, Grammar.leads w = false := by
  intro w last
  cases b with
  | number t pos =>
      obtain rfl : Lexeme.number t = w := by simpa using last
      rfl
  | name t pos =>
      obtain rfl : Lexeme.name t = w := by simpa using last
      rfl
  | call t pos opening args closing =>
      rw [Primary.lexemes_call, ← List.cons_append, ← List.cons_append,
        List.getLast?_concat] at last
      obtain rfl : Lexeme.closing = w := Option.some.inj last
      rfl
  | group opening inner closing =>
      rw [Primary.lexemes_group, ← List.cons_append, List.getLast?_concat] at last
      obtain rfl : Lexeme.closing = w := Option.some.inj last
      rfl

namespace Site

variable {e : Expression} {us vs : List Piece} (s : Site e us vs)

theorem around (cr : Piece) : us ++ cr :: vs =
    s.before ++ (s.basePieces ++ cr :: (s.exponentPieces ++ s.after)) := by
  have both := congrArg₂ (fun us vs => us ++ cr :: vs) s.left s.right
  simpa using both

/-- The pieces of an exponent end with no sign, and with no caret. -/
theorem twice_of_exponent {xs rest : List Piece} {cr : Piece} {vs' : List Piece}
    (caret : cr.word = .caret) (split : s.exponentPieces = xs ++ cr :: vs')
    (twice : Twice (vs' ++ rest)) : Twice vs' := by
  have last : ∀ w ∈ (s.exponentPieces.map Piece.word).getLast?, Grammar.leads w = false := by
    rw [s.exponent_words]
    intro w last
    obtain ⟨w', ws, head⟩ := List.exists_cons_of_ne_nil (lexemes_ne_nil s.exponent)
    rw [head, List.getLast?_append_of_ne_nil _ (by simp), ← head] at last
    exact last_primary s.exponent w last
  rw [split] at last
  match vs' with
  | [] => simp [caret, Grammar.leads] at last
  | [v] =>
      obtain ⟨q, q', ws, op, op', same, sign, -⟩ := twice
      obtain ⟨rfl, -⟩ := List.cons.inj same
      have other : Grammar.leads v.word = false := by simpa using last
      exact absurd sign (word_ne_sign_of_leads other op)
  | v :: v' :: vs' =>
      obtain ⟨q, q', ws, op, op', same, sign, sign'⟩ := twice
      obtain ⟨rfl, after⟩ := List.cons.inj same
      obtain ⟨rfl, -⟩ := List.cons.inj after
      exact ⟨v, v', vs', op, op', rfl, sign, sign'⟩

/-- What ends with a caret and holds no bracket and no comma after expansion was there before, and
two signs follow it if and only if they did. -/
theorem exists_of_pieces {cr cr' : Piece} {xs win vs' : List Piece} (caret : cr.word = .caret)
    (caret' : cr'.word = .caret)
    (inside : ∀ w ∈ win ++ [cr'], w.word ≠ .opening ∧ w.word ≠ .comma ∧ w.word ≠ .closing)
    (same : s.pieces = xs ++ (win ++ [cr'] ++ vs')) :
    ∃ xs' win' vs'', us ++ cr :: vs = xs' ++ (win' ++ vs'') ∧ Regapped (win ++ [cr']) win' ∧
      (Twice vs'' ↔ Twice vs') := by
  have some : win ++ [cr'] ≠ [] := by simp
  have base : Unsigned (s.basePieces ++ cr :: (s.exponentPieces ++ s.after)) :=
    unsigned_of_primary s.base_words _
  have split : s.pieces = s.before ++ [Piece.pow (Piece.lead s.basePieces) (lead_blank _)] ++
      Piece.symbol .opening '(' rfl :: (Piece.regap [] (by simp) s.basePieces ++
        Piece.symbol .comma ',' rfl :: (Piece.regap [' '] isBlank_space s.exponentPieces ++
          Piece.symbol .closing ')' rfl :: s.after)) := by
    simp [pieces, Piece.powCall]
  have opening : Piece.symbol .opening '(' rfl ∉ win ++ [cr'] := fun member =>
    (inside _ member).1 rfl
  have comma : Piece.symbol .comma ',' rfl ∉ win ++ [cr'] := fun member =>
    (inside _ member).2.1 rfl
  have closing : Piece.symbol .closing ')' rfl ∉ win ++ [cr'] := fun member =>
    (inside _ member).2.2 rfl
  rw [split] at same
  rcases divided_cases some opening same.symm with ⟨vs₁, inFront, rfl⟩ | ⟨xs₁, rfl, behind⟩
  · -- Before the power.
    obtain ⟨vs₂, rfl, front⟩ := exists_of_concat (by simp [Piece.pow, caret']) inFront
    refine ⟨xs, win ++ [cr'], vs₂ ++ (s.basePieces ++ cr :: (s.exponentPieces ++ s.after)), ?_,
      ⟨rfl, rfl⟩, ?_⟩
    · rw [s.around cr, front]
      simp
    · rw [twice_append_iff base, List.append_assoc]
      exact (twice_append_iff (unsigned_pow _ _)).symm
  rcases divided_cases some comma behind.symm with ⟨vs₁, inBase, rfl⟩ | ⟨xs₁, rfl, behind'⟩
  · -- In the base.
    obtain ⟨xs₂, win', inBase', regapped⟩ := exists_of_regap some inBase
    refine ⟨s.before ++ xs₂, win', vs₁ ++ cr :: (s.exponentPieces ++ s.after), ?_, regapped, ?_⟩
    · rw [s.around cr, inBase']
      simp
    · have unsigned : Unsigned (cr :: (s.exponentPieces ++ s.after)) := unsigned_cons _ fun op => by
        cases op <;> simp [caret, Sign.lexeme]
      rw [twice_append_iff unsigned]
      exact (twice_append_iff (unsigned_comma _)).symm
  rcases divided_cases some closing behind'.symm with
    ⟨vs₁, inExponent, rfl⟩ | ⟨xs₁, rfl, behind''⟩
  · -- In the exponent.
    obtain ⟨xs₂, win', inExponent', regapped⟩ := exists_of_regap some inExponent
    refine ⟨s.before ++ (s.basePieces ++ cr :: xs₂), win', vs₁ ++ s.after, ?_, regapped, ?_⟩
    · rw [s.around cr, inExponent']
      simp
    · obtain ⟨w, cr'', ends, word⟩ := regapped.exists_last
      have split' : s.exponentPieces = (xs₂ ++ w) ++ cr'' :: vs₁ := by
        rw [inExponent', ends]
        simp
      have inner : Twice (vs₁ ++ s.after) ↔ Twice vs₁ :=
        ⟨s.twice_of_exponent (word.trans caret') split', fun twice => twice.append _⟩
      rw [inner]
      exact (twice_append_iff (unsigned_cons _ fun op => by
        cases op <;> simp [Piece.symbol, Sign.lexeme])).symm
  · -- After the power.
    refine ⟨s.before ++ (s.basePieces ++ cr :: (s.exponentPieces ++ xs₁)), win ++ [cr'], vs', ?_,
      ⟨rfl, rfl⟩, Iff.rfl⟩
    rw [s.around cr, behind'']
    simp

/-- Expansion glues nothing. -/
theorem glued_of_pieces {cr : Piece} (caret : cr.word = .caret) (glued : Glued s.pieces) :
    Glued (us ++ cr :: vs) := by
  obtain ⟨xs, p, q, n, cr', vs', same, window, once⟩ := glued
  have same : s.pieces = xs ++ ([p, q, n] ++ [cr'] ++ vs') := same
  obtain ⟨xs', win', vs'', same', regapped, twice⟩ :=
    s.exists_of_pieces caret window.caret (fun w member => window.other member) same
  obtain ⟨p', rfl, window'⟩ := window.of_regapped regapped
  exact ⟨xs', p', q, n, cr', vs'', same', window', mt twice.1 once⟩

/-- Expansion brings no two signs behind a caret. -/
theorem single_of_pieces {cr : Piece} (caret : cr.word = .caret)
    (single : Single (us ++ cr :: vs)) : Single s.pieces := by
  intro xs cr' vs' same caret' twice
  have same : s.pieces = xs ++ ([] ++ [cr'] ++ vs') := same
  obtain ⟨xs', win', vs'', same', regapped, iff⟩ :=
    s.exists_of_pieces caret caret' (by simp [caret']) same
  obtain ⟨cr'', win', rfl, word, -⟩ := List.map_eq_cons_iff.1 regapped.words
  obtain rfl : win' = [] := regapped.tail
  exact single xs' cr'' vs'' same' (word.trans caret') (iff.2 twice)

/-- The exponent that is taken has no two signs. -/
theorem not_twice (s : Site e us vs) : ¬ Twice vs := by
  intro twice
  have right := s.right
  have rest : Unsigned (s.exponentPieces ++ s.after) ∨
      ∃ q ps, s.exponentPieces = q :: ps ∧ Unsigned (ps ++ s.after) := by
    have words := s.exponent_words
    cases sign : s.sign with
    | none =>
        rw [sign] at words
        exact .inl (unsigned_of_primary words s.after)
    | some sign' =>
        rw [sign] at words
        obtain ⟨q, ps, split, -, inner⟩ := List.map_eq_cons_iff.1 words
        exact .inr ⟨q, ps, split, unsigned_of_primary inner s.after⟩
  obtain ⟨q, q', ws, op, op', same, sign, sign'⟩ := twice
  have both := right.symm.trans same
  rcases rest with unsigned | ⟨p, ps, split, unsigned⟩
  · exact unsigned q (by simp [both]) op sign
  · rw [split, List.cons_append] at both
    obtain ⟨-, inner⟩ := List.cons.inj both
    exact unsigned q' (by simp [inner]) op' sign'

/-- A base that no window ends with is not glued. -/
theorem unglued {cr : Piece} (caret : cr.word = .caret)
    (free : ∀ xs p q n, us = xs ++ [p, q, n] → ¬ Window p q n cr) :
    ∀ p ∈ s.basePieces.head?, Unglued s.before p :=
  unglued_of_words s.base_words caret (s.left ▸ free)

theorem not_window (s : Site e us vs) {cr : Piece} (free : ¬ Glued (us ++ cr :: vs)) :
    ∀ xs p q n, us = xs ++ [p, q, n] → ¬ Window p q n cr := by
  rintro xs p q n left window
  exact free ⟨xs, p, q, n, cr, vs, by simp [left], window, s.not_twice⟩

end Site

/-! ## The run -/

variable {e : Expression} {tail : List Char}

/-- At a caret stand two signs, or the power there is expanded. -/
theorem expandAt_cases {us vs : List Piece} {cr : Piece}
    (words : (us ++ cr :: vs).map Piece.word = e.lexemes) (blank : ∀ c ∈ tail, isBlank c = true)
    (free : ¬ Glued (us ++ cr :: vs)) (caret : cr.word = .caret) :
    (Twice vs ∧ expandAt (spell (us ++ cr :: vs) ++ tail) (spell us ++ cr.gap).length = none) ∨
      ∃ s : Site e us vs, expandAt (spell (us ++ cr :: vs) ++ tail) (spell us ++ cr.gap).length =
        some (spell s.pieces ++ tail) := by
  rcases twice_or_site words caret with twice | ⟨⟨s⟩⟩
  · obtain ⟨q, q', rest, op, op', rfl, sign, sign'⟩ := twice
    exact .inl ⟨⟨q, q', rest, op, op', rfl, sign, sign'⟩, expandAt_eq_none caret sign sign'⟩
  · exact .inr ⟨s, s.expandAt_eq words caret (s.unglued caret (s.not_window free)) blank⟩

theorem spell_caret {us vs : List Piece} {cr : Piece} (caret : cr.word = .caret) :
    spell (us ++ cr :: vs) ++ tail = (spell us ++ cr.gap) ++ '^' :: (spell vs ++ tail) := by
  simp [spell, caret, Lexeme.text]

/-- Expansion from the right: none is left to expand, or one power gives way to a call that denotes
the same as expansion groups powers. -/
theorem expandRightmost_cases {ps : List Piece} (words : ps.map Piece.word = e.lexemes)
    (blank : ∀ c ∈ tail, isBlank c = true) (free : ¬ Glued ps) :
    (expandRightmost (spell ps ++ tail) = none ∧ Settled ps) ∨
      ∃ us cr vs, ps = us ++ cr :: vs ∧ cr.word = .caret ∧ ∃ s : Site e us vs,
        expandRightmost (spell ps ++ tail) = some (spell s.pieces ++ tail) ∧
          s.result.regrouped = e.regrouped := by
  cases expanded : expandRightmost (spell ps ++ tail) with
  | none =>
      refine .inl ⟨rfl, ?_⟩
      rintro us cr vs rfl caret
      rcases expandAt_cases words blank free caret with ⟨twice, -⟩ | ⟨s, found⟩
      · exact twice
      · rw [expandAt_eq_none_of_rightmost expanded (spell_caret caret)] at found
        simp at found
  | some text =>
      obtain ⟨x, y, split, found, later⟩ := exists_rightmost expanded
      obtain ⟨us, cr, vs, rfl, caret, rfl, rfl⟩ := exists_caret_piece blank split
      refine .inr ⟨us, cr, vs, rfl, caret, ?_⟩
      rcases expandAt_cases words blank free caret with ⟨-, none⟩ | ⟨s, found'⟩
      · rw [none] at found
        simp at found
      refine ⟨s, found.symm.trans found', s.result_regrouped fun cr' vs' after caret' => ?_⟩
      -- A caret behind this one that could be expanded would have been found first.
      have right : vs = s.exponentPieces ++ cr' :: vs' := s.right.trans (by rw [after])
      have around : us ++ cr :: vs = (us ++ cr :: s.exponentPieces) ++ cr' :: vs' := by
        simpa using congrArg (fun vs => us ++ cr :: vs) right
      have none := later (spell s.exponentPieces ++ cr'.gap) (spell vs' ++ tail)
        ((congrArg (fun vs => spell vs ++ tail) right).trans (spell_caret caret'))
      have offset : spell us ++ cr.gap ++ '^' :: (spell s.exponentPieces ++ cr'.gap) =
          spell (us ++ cr :: s.exponentPieces) ++ cr'.gap := by
        simp [spell, caret, Lexeme.text]
      rw [offset, around] at none
      rcases expandAt_cases (around ▸ words) blank (around ▸ free) caret' with
        ⟨twice, -⟩ | ⟨s', found''⟩
      · exact twice
      · rw [none] at found''
        simp at found''

/-- Expansions of a text in which nothing is glued, to the end: the carets that are left stand
before two signs, and the text denotes the same as expansion groups powers. -/
theorem normalize_run {ps : List Piece} (words : ps.map Piece.word = e.lexemes)
    (blank : ∀ c ∈ tail, isBlank c = true) (free : ¬ Glued ps) :
    ∃ (e' : Expression) (ps' : List Piece), normalize (spell ps ++ tail) = spell ps' ++ tail ∧
      ps'.map Piece.word = e'.lexemes ∧ e'.regrouped = e.regrouped ∧ Settled ps' ∧
      (Single ps → Single ps') := by
  unfold normalize
  rw [count_spell ps blank]
  generalize steps : (ps.map Piece.word).count .caret = n
  induction n generalizing e ps with
  | zero =>
      refine ⟨e, ps, rfl, words, rfl, ?_, id⟩
      rintro us cr vs rfl caret
      simp [caret] at steps
  | succ n ih =>
      rw [expandTimes]
      rcases expandRightmost_cases words blank free with ⟨none, settled⟩ |
        ⟨us, cr, vs, rfl, caret, s, expanded, regrouped⟩
      · rw [none]
        exact ⟨e, ps, rfl, words, rfl, settled, id⟩
      · have fewer := s.count_caret caret
        rw [steps] at fewer
        obtain ⟨e', ps', text, words', same, settled, single⟩ := ih s.result_words
          (mt (s.glued_of_pieces caret) free) (Nat.succ.inj fewer)
        rw [expanded]
        exact ⟨e', ps', text, words', same.trans regrouped, settled,
          fun once => single (s.single_of_pieces caret once)⟩

end Caret

end Quadrature
