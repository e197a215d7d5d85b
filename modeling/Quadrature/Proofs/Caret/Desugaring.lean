/-
# Quadrature.Proofs.Caret.Desugaring -- expansion writes every power as a call

Two things keep expansion from writing a power as the call that it is: two signs before its
exponent, and a base of digits right behind a sign and a name such as `x1e`, which look like one
number. In a text without either, every caret is expanded, and what is read then is what was read
before with a call in the place of every power, at every depth.

* `normalize_desugars`: expansion is the desugaring of powers.
-/
import Quadrature.Proofs.Caret.Words

namespace Quadrature

set_option autoImplicit false

open Quadrature.Text
open Quadrature.Piece (spell place)
open Quadrature.Grammar (Expression Unary Sign Raises)
open Quadrature.Parse (parseWithin)
open Quadrature.Lexeme (IsMark)

namespace Caret

/-- Where no caret stands before two signs, every exponent makes a chain. -/
theorem grouping_ne_none {ps : List Piece} {u : Unary} (once : Single ps)
    (raises : Raises u (ps.map Piece.word)) : u.grouping ≠ none := by
  obtain ⟨a, b, words⟩ := raises
  obtain ⟨us, rest, rfl, -, behind⟩ := List.map_eq_append_iff.1 words
  obtain ⟨cr, vs, rfl, caret, exponent⟩ := List.map_eq_cons_iff.1 behind
  rcases u.twice_or_join with ⟨op, pos, op', pos', v, rfl⟩ | ⟨base, tail, sign, rfl⟩
  · rw [Unary.lexemes_signed, Unary.lexemes_signed] at exponent
    obtain ⟨q, vs, rfl, sign, inner⟩ := List.map_eq_cons_iff.1 exponent
    obtain ⟨q', vs, rfl, sign', -⟩ := List.map_eq_cons_iff.1 inner
    exact absurd ⟨q, q', vs, op, op', rfl, sign, sign'⟩ (once us cr _ rfl caret)
  · cases sign <;> simp [Unary.join, Unary.grouping, Unary.unsigned]

theorem whole_of_single {e : Expression} {ps : List Piece} (words : ps.map Piece.word = e.lexemes)
    (once : Single ps) : ∀ u ∈ e.exponents, u.Whole := by
  intro u member
  have outer : Raises u (ps.map Piece.word) := words ▸ e.raises u member
  exact u.whole fun v inner => grouping_ne_none once ((u.raises v inner).trans outer)

/-- Pieces without a caret have no powers. -/
theorem exponents_eq_nil {e : Expression} {ps : List Piece} (words : ps.map Piece.word = e.lexemes)
    (none : .caret ∉ ps.map Piece.word) : e.exponents = [] := by
  refine List.eq_nil_iff_forall_not_mem.2 fun u member => none ?_
  obtain ⟨a, b, raised⟩ := e.raises u member
  rw [words, raised]
  simp

/-- Settled carets before single signs are none. -/
theorem no_caret {ps : List Piece} (settled : Settled ps) (once : Single ps) :
    .caret ∉ ps.map Piece.word := by
  intro member
  obtain ⟨cr, inside, caret⟩ := List.mem_map.1 member
  obtain ⟨us, vs, rfl⟩ := List.append_of_mem inside
  exact once us cr vs rfl caret (settled us cr vs rfl caret)

/-- **Expansion is the desugaring of powers**: where a text is read, no caret in it is followed by
two signs and no name such as `x1e` by a sign right behind it, expansion leaves no caret, and what
is read then is what was read before with every power, at every depth, written as a call, but for
positions. A depth limit may only refuse it. -/
theorem normalize_desugars {limit : Option Nat} {text : List Char} {tokens : Tokens} {t : Expr}
    (tokenized : Token.tokenize text = .ok tokens) (parsed : parseWithin limit text = .ok t)
    (once : ¬ Token.DoublySigned tokens.words) (free : ¬ Token.Hooked tokens.words) :
    '^' ∉ normalize text ∧
      ∃ t', parseWithin none (normalize text) = .ok t' ∧ t'.unplaced = t.desugared.unplaced ∧
        ∀ limit', parseWithin limit' (normalize text) = .ok t' ∨
          parseWithin limit' (normalize text) = .error .nestedTooDeeply := by
  obtain ⟨e, ps, tail, rfl, blank, tokenized', words, rfl⟩ :=
    Grammar.exists_spelling ((Parse.parseWithin_limited limit text).eq_ok parsed)
  obtain rfl := Except.ok.inj (tokenized.symm.trans tokenized')
  have spelled : ps.map Piece.word = e.lexemes := by
    rw [Expression.lexemes, words, Piece.place_lexeme]
  have single := single_iff.1 once
  obtain ⟨e', ps', normal, words', regrouped, settled, stays⟩ :=
    normalize_run spelled blank (not_glued_of_not_hooked free)
  have none := no_caret settled (stays single)
  obtain ⟨e'', lexemes, regrouped', read⟩ := Grammar.parse_spelling words' blank
  rw [normal]
  refine ⟨?_, e''.tree, read, ?_, fun limit' => ?_⟩
  · rw [← List.count_eq_zero, count_spell ps' blank]
    exact List.count_eq_zero.2 none
  · calc e''.tree.unplaced
        = e''.regrouped := (Expression.regrouped_eq_unplaced
          (exponents_eq_nil (words'.trans lexemes.symm) none)).symm
      _ = e.regrouped := regrouped'.trans regrouped
      _ = e.tree.desugared.unplaced := Expression.regrouped_eq (whole_of_single spelled single)
  · have limited := Parse.parseWithin_limited limit' (spell ps' ++ tail)
    rwa [read] at limited

/-- The theorem at a signed exponent behind a hook that is not near. -/
theorem normalize_signed_exponent :
    '^' ∉ normalize "x1e -3^-x".toList ∧
      ∃ t', parseWithin none (normalize "x1e -3^-x".toList) = .ok t' ∧
        t'.unplaced = .binary .sub (.var "x1e" 0)
          (Expr.powerCall (.const (Parse.numberValue "3")) (.unary .sub (.var "x" 0))) := by
  have tokenized : Token.tokenize "x1e -3^-x".toList = .ok ⟨[⟨.name "x1e", 0⟩, ⟨.minus, 4⟩,
      ⟨.number "3", 5⟩, ⟨.caret, 6⟩, ⟨.minus, 7⟩, ⟨.name "x", 8⟩], 9⟩ := by decide +kernel
  have parsed : parseWithin none "x1e -3^-x".toList = .ok (.binary .sub (.var "x1e" 0)
      (.binary .pow (.const (Parse.numberValue "3")) (.unary .sub (.var "x" 8)))) := by
    rw [parseWithin, tokenized]
    rfl
  have once : ¬ Token.DoublySigned [⟨.name "x1e", 0⟩, ⟨.minus, 4⟩, ⟨.number "3", 5⟩, ⟨.caret, 6⟩,
      ⟨.minus, 7⟩, ⟨.name "x", 8⟩] := by
    rintro ⟨us, cr, vs, split, caret, a, b, rest, op, op', rfl, sign, sign'⟩
    simp only [List.cons_eq_append_iff, List.cons.injEq] at split
    obtain ⟨-, rfl, -⟩ | ⟨_, -, ⟨-, rfl, -⟩ | ⟨_, -, ⟨-, rfl, -⟩ | ⟨_, -, ⟨-, -, -, rfl, -⟩ |
      split⟩⟩⟩ := split
    · cases caret
    · cases caret
    · cases caret
    · cases op' <;> cases sign'
    · simp at split
  have free : ¬ Token.Hooked [⟨.name "x1e", 0⟩, ⟨.minus, 4⟩, ⟨.number "3", 5⟩, ⟨.caret, 6⟩,
      ⟨.minus, 7⟩, ⟨.name "x", 8⟩] := by
    rintro ⟨us, a, b, vs, split, stem, digit, mark, op, name, -, -, sign, near⟩
    simp only [List.cons_eq_append_iff, List.cons.injEq] at split
    obtain ⟨-, rfl, rfl, -⟩ | ⟨_, -, ⟨-, rfl, -⟩ | ⟨_, -, ⟨-, rfl, -⟩ | ⟨_, -, ⟨-, rfl, -⟩ |
      ⟨_, -, ⟨-, rfl, -⟩ | split⟩⟩⟩⟩ := split
    · have length := congrArg (fun t => t.toList.length) (Lexeme.name.inj name)
      simp only [String.toList_ofList] at length
      rw [← length] at near
      exact absurd near (by decide)
    · cases name
    · cases name
    · cases name
    · cases name
    · simp at split
  obtain ⟨none, t', read, same, -⟩ := normalize_desugars tokenized parsed once free
  exact ⟨none, t', read, same⟩

end Caret

end Quadrature
