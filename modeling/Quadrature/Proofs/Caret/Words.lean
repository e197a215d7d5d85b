/-
# Quadrature.Proofs.Caret.Words -- the words that mislead expansion

Two things keep expansion from writing a power as the call that it is. Two signs before the exponent
are no operand. And a base of digits right behind a sign and a name such as `x1e` looks like the end
of one number. Both are seen in the words of a text and their positions.

* `single_iff`, `endsGlued_iff`, `glued_iff`: the words say the same as the pieces that spell the
  text.
-/
import Quadrature.Proofs.Caret.Run

namespace Quadrature

set_option autoImplicit false

open Quadrature.Text
open Quadrature.Piece (spell place)
open Quadrature.Grammar (Sign)
open Quadrature.Lexeme (IsMark Digits)

namespace Token

/-- Two signs come first. -/
def TwoSigns (ts : List Token) : Prop :=
  ∃ (a b : Token) (rest : List Token) (op op' : Sign), ts = a :: b :: rest ∧
    a.lexeme = op.lexeme ∧ b.lexeme = op'.lexeme

/-- A caret is followed by two signs. -/
def DoublySigned (ts : List Token) : Prop :=
  ∃ (us : List Token) (caret : Token) (vs : List Token), ts = us ++ caret :: vs ∧
    caret.lexeme = .caret ∧ TwoSigns vs

/-- The first is a name that ends in a digit and an `e`, the second a sign right behind it. -/
def Hook (a b : Token) : Prop :=
  ∃ (stem : List Char) (digit mark : Char) (op : Sign),
    a.lexeme = .name (String.ofList (stem ++ [digit, mark])) ∧ isDigit digit = true ∧ IsMark mark ∧
      b.lexeme = op.lexeme ∧ b.position = a.position + (stem ++ [digit, mark]).length

/-- Such a name and such a sign are among the words. -/
def Hooked (ts : List Token) : Prop :=
  ∃ (us : List Token) (a b : Token) (vs : List Token), ts = us ++ a :: b :: vs ∧ Hook a b

/-- A base of digits stands right behind such a name and such a sign, and its exponent has not two
signs. -/
def Glued (ts : List Token) : Prop :=
  ∃ (us : List Token) (a b n caret : Token) (vs : List Token) (digits : String),
    ts = us ++ a :: b :: n :: caret :: vs ∧ Hook a b ∧ n.lexeme = .number digits ∧
      Digits digits.toList ∧ n.position = b.position + 1 ∧ caret.lexeme = .caret ∧ ¬ TwoSigns vs

/-- A number of digits right behind such a name and such a sign comes last. -/
def EndsGlued (ts : List Token) : Prop :=
  ∃ (us : List Token) (a b n : Token) (digits : String), ts = us ++ [a, b, n] ∧ Hook a b ∧
    n.lexeme = .number digits ∧ Digits digits.toList ∧ n.position = b.position + 1

theorem glued_iff_endsGlued {ts : List Token} : Glued ts ↔
    ∃ (us : List Token) (caret : Token) (vs : List Token), ts = us ++ caret :: vs ∧
      EndsGlued us ∧ caret.lexeme = .caret ∧ ¬ TwoSigns vs := by
  constructor
  · rintro ⟨us, a, b, n, caret, vs, digits, rfl, hook, number, numeric, near, word, once⟩
    exact ⟨us ++ [a, b, n], caret, vs, by simp,
      ⟨us, a, b, n, digits, rfl, hook, number, numeric, near⟩, word, once⟩
  · rintro ⟨-, caret, vs, rfl, ⟨us, a, b, n, digits, rfl, hook, number, numeric, near⟩, word, once⟩
    exact ⟨us, a, b, n, caret, vs, digits, by simp, hook, number, numeric, near, word, once⟩

theorem Glued.hooked {ts : List Token} (glued : Glued ts) : Hooked ts := by
  obtain ⟨us, a, b, n, caret, vs, digits, rfl, hook, -⟩ := glued
  exact ⟨us, a, b, n :: caret :: vs, rfl, hook⟩

end Token

namespace Piece

theorem place_append (position : Nat) (ps qs : List Piece) : place position (ps ++ qs) =
    place position ps ++ place (position + (spell ps).length) qs := by
  induction ps generalizing position with
  | nil => rfl
  | cons p ps ih =>
      rw [List.cons_append, place, ih, place, List.cons_append, spell]
      simp only [List.length_append, Nat.add_assoc]

/-- Words that split are those of pieces that split. -/
theorem place_eq_append {position : Nat} {ps : List Piece} {us vs : List Token}
    (same : place position ps = us ++ vs) : ∃ qs rs, ps = qs ++ rs ∧ place position qs = us ∧
      place (position + (spell qs).length) rs = vs := by
  induction ps generalizing position us with
  | nil =>
      obtain ⟨rfl, rfl⟩ := List.append_eq_nil_iff.1 same.symm
      exact ⟨[], [], rfl, rfl, rfl⟩
  | cons p ps ih =>
      cases us with
      | nil => exact ⟨[], p :: ps, rfl, rfl, same⟩
      | cons u us =>
          obtain ⟨rfl, rest⟩ := List.cons.inj same
          obtain ⟨qs, rs, rfl, rfl, rfl⟩ := ih rest
          exact ⟨p :: qs, rs, rfl, rfl, by simp only [spell, List.length_append, Nat.add_assoc]⟩

/-- A first word is that of a first piece. -/
theorem place_eq_cons {position : Nat} {ps : List Piece} {t : Token} {vs : List Token}
    (same : place position ps = t :: vs) : ∃ q rs, ps = q :: rs ∧
      t = ⟨q.word, position + q.gap.length⟩ ∧
      place (position + q.gap.length + q.word.text.toList.length) rs = vs := by
  cases ps with
  | nil => simp [place] at same
  | cons q rs =>
      obtain ⟨rfl, rfl⟩ := List.cons.inj same
      exact ⟨q, rs, rfl, rfl, rfl⟩

end Piece

namespace Caret

variable {position : Nat} {ps : List Piece}

theorem twice_iff : Token.TwoSigns (place position ps) ↔ Twice ps := by
  constructor
  · rintro ⟨a, b, rest, op, op', same, sign, sign'⟩
    obtain ⟨q, qs, rfl, rfl, after⟩ := Piece.place_eq_cons same
    obtain ⟨q', qs', rfl, rfl, -⟩ := Piece.place_eq_cons after
    exact ⟨q, q', qs', op, op', rfl, sign, sign'⟩
  · rintro ⟨q, q', rest, op, op', rfl, sign, sign'⟩
    exact ⟨_, _, _, op, op', rfl, sign, sign'⟩

theorem single_iff : ¬ Token.DoublySigned (place position ps) ↔ Single ps := by
  constructor
  · rintro once us cr vs rfl caret twice
    rw [Piece.place_append] at once
    exact once ⟨_, _, _, rfl, caret, twice_iff.2 twice⟩
  · rintro single ⟨us, cr, vs, same, caret, signs⟩
    obtain ⟨qs, rs, rfl, rfl, after⟩ := Piece.place_eq_append same
    obtain ⟨q, rs, rfl, rfl, rfl⟩ := Piece.place_eq_cons after
    exact single qs q rs rfl caret (twice_iff.1 signs)

/-- Two neighbours make a hook where their words do. -/
theorem hook_iff {p q : Piece} : Token.Hook ⟨p.word, position⟩
    ⟨q.word, position + p.word.text.toList.length + q.gap.length⟩ ↔ Nonempty (Hook p q) := by
  constructor
  · rintro ⟨stem, digit, mark, op, name, numeric, marked, sign, near⟩
    have text : p.word.text.toList = stem ++ [digit, mark] := by
      rw [show p.word = _ from name, Lexeme.text, String.toList_ofList]
    have length : position + p.word.text.toList.length + q.gap.length =
        position + (stem ++ [digit, mark]).length := near
    have empty : q.gap = [] := by
      rw [text] at length
      exact List.eq_nil_of_length_eq_zero (by omega)
    exact ⟨⟨_, stem, [digit], mark, op, name, by simp, by simp, by simpa [Digits] using numeric,
      marked, sign, empty⟩⟩
  · rintro ⟨hook⟩
    obtain ⟨digits, digit, split⟩ := exists_concat hook.some
    have text : hook.text.toList = (hook.stem ++ digits) ++ [digit, hook.mark] := by
      rw [hook.split, split]
      simp
    refine ⟨hook.stem ++ digits, digit, hook.mark, hook.op, ?_,
      hook.numeric digit (by simp [split]), hook.marked, hook.sign, ?_⟩
    · rw [← text, String.ofList_toList]
      exact hook.name
    · simp [hook.near, hook.name, Lexeme.text, text]

/-- Before a caret, words end with a glued number where their pieces end with a window. -/
theorem endsGlued_iff {cr : Piece} (caret : cr.word = .caret) :
    Token.EndsGlued (place position ps) ↔
      ∃ xs p q n, ps = xs ++ [p, q, n] ∧ Window p q n cr := by
  constructor
  · rintro ⟨us, a, b, n, digits, same, hook, number, numeric, near⟩
    obtain ⟨qs, rs, rfl, rfl, after⟩ := Piece.place_eq_append same
    obtain ⟨p, rs₁, rfl, rfl, after₁⟩ := Piece.place_eq_cons after
    obtain ⟨q, rs₂, rfl, rfl, after₂⟩ := Piece.place_eq_cons after₁
    obtain ⟨m, rs₃, rfl, rfl, after₃⟩ := Piece.place_eq_cons after₂
    obtain rfl : rs₃ = [] := by
      cases rs₃ with
      | nil => rfl
      | cons r rs => simp [place] at after₃
    obtain ⟨found⟩ := hook_iff.1 hook
    obtain ⟨sign, symbol, -⟩ := text_sign found.op
    have single : q.word.text.toList.length = 1 := by rw [found.sign, symbol, List.length_singleton]
    have empty : m.gap = [] := by
      simp only [single] at near
      exact List.eq_nil_of_length_eq_zero (by omega)
    have text : m.word.text = digits := by rw [show m.word = _ from number, Lexeme.text]
    exact ⟨qs, p, q, m, rfl, ⟨found⟩, empty, ⟨digits, number⟩, text ▸ numeric, caret⟩
  · rintro ⟨xs, p, q, n, rfl, ⟨found⟩, near, ⟨t, number⟩, digits, -⟩
    obtain ⟨sign, symbol, -⟩ := text_sign found.op
    have single : q.word.text.toList.length = 1 := by rw [found.sign, symbol, List.length_singleton]
    have text : n.word.text = t := by rw [number, Lexeme.text]
    rw [Piece.place_append]
    refine ⟨_, _, _, _, t, rfl, hook_iff.2 ⟨found⟩, number, text ▸ digits, ?_⟩
    simp only [single, near, List.length_nil, Nat.add_zero]

theorem glued_iff : Token.Glued (place position ps) ↔ Glued ps := by
  rw [Token.glued_iff_endsGlued]
  constructor
  · rintro ⟨us, caret, vs, same, ends, word, once⟩
    obtain ⟨qs, rs, rfl, rfl, after⟩ := Piece.place_eq_append same
    obtain ⟨cr, rs, rfl, rfl, rfl⟩ := Piece.place_eq_cons after
    obtain ⟨xs, p, q, n, rfl, window⟩ := (endsGlued_iff word).1 ends
    exact ⟨xs, p, q, n, cr, rs, by simp, window, mt twice_iff.2 once⟩
  · rintro ⟨xs, p, q, n, cr, vs, rfl, window, once⟩
    have split : xs ++ ([p, q, n, cr] ++ vs) = (xs ++ [p, q, n]) ++ cr :: vs := by simp
    rw [split, Piece.place_append]
    exact ⟨_, _, _, rfl, (endsGlued_iff window.caret).2 ⟨xs, p, q, n, rfl, window⟩, window.caret,
      mt twice_iff.1 once⟩

theorem not_glued_of_not_hooked (free : ¬ Token.Hooked (place position ps)) : ¬ Glued ps :=
  fun glued => free (glued_iff.2 glued).hooked

end Caret

end Quadrature
